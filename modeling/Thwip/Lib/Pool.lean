/-
  Thwip.Lib.Pool — a pool of threads that share one queue of tasks.

  The receiving end of the queue lies behind a mutex, and a thread holds the mutex while
  it waits for a task.  It answers the task on its own, sends the answer back and then
  notifies the consumer, which sleeps in between.  `T` is what is asked and `A` what is
  answered; an answer is kept together with its task.
-/
import Mathlib.Algebra.BigOperators.Group.List.Basic
import Mathlib.Data.Multiset.AddSub
import Mathlib.Algebra.Order.Group.Multiset
import Mathlib.Algebra.Order.BigOperators.Group.List
import Mathlib.Algebra.Order.Ring.Nat

namespace Thwip.Lib

variable {T A : Type*}

/-! ## §1. The pool. -/

inductive PoolThread (T A : Type*) where
  /-- Waits for the mutex. -/
  | ready
  /-- Holds the mutex, and waits for a task. -/
  | receiving
  | working (task : T)
  /-- Has the answer, and sends it. -/
  | reporting (task : T) (answer : A)
  /-- The answer is sent; the consumer is not notified yet. -/
  | notifying
  | exited
  deriving Repr, DecidableEq

structure Pool (T A : Type*) where
  queue : List T
  threads : List (PoolThread T A)
  results : List (T × A)
  /-- The notifications the consumer has not seen. -/
  notes : Nat
  /-- The consumer takes results; otherwise it sleeps. -/
  awake : Bool
  /-- The sending end of the queue is there. -/
  accepting : Bool
  /-- The receiving end of the results is there. -/
  listening : Bool
  /-- All tasks the queue took. -/
  submitted : List T
  /-- All results the consumer took. -/
  delivered : List (T × A)
  deriving Repr, DecidableEq

inductive PoolEvent (T A : Type*) where
  | submit (task : T)
  /-- A thread takes the mutex, a task, or what is next. -/
  | turn (thread : Nat)
  /-- A thread has an answer. -/
  | answer (thread : Nat) (answer : A)
  /-- The consumer sees a notification. -/
  | wake
  /-- The consumer wakes up by itself. -/
  | timeout
  /-- The consumer takes a result, or finds that there is none. -/
  | take
  /-- The sending end of the queue is dropped. -/
  | stop
  /-- Then the receiving end of the results is. -/
  | hangUp
  deriving Repr, DecidableEq

/-- As many threads, and nothing to do. -/
def Pool.new (count : Nat) : Pool T A :=
  { queue := [], threads := List.replicate count .ready, results := [], notes := 0, awake := false,
    accepting := true, listening := true, submitted := [], delivered := [] }

def PoolThread.isReceiving : PoolThread T A → Bool
  | .receiving => true
  | _ => false

def PoolThread.isExited : PoolThread T A → Bool
  | .exited => true
  | _ => false

/-- The last receiving end of the queue is gone. -/
def Pool.stopped (self : Pool T A) : Bool := self.threads.all PoolThread.isExited

/-- Some thread holds the mutex. -/
def Pool.locked (self : Pool T A) : Bool := self.threads.any PoolThread.isReceiving

def Pool.setThread (self : Pool T A) (i : Nat) (thread : PoolThread T A) : Pool T A :=
  { self with threads := self.threads.set i thread }

/-- What a thread does next; `none` while it has to wait. -/
def Pool.turn (self : Pool T A) (i : Nat) : Option (Pool T A) :=
  match self.threads[i]? with
  | some .ready => if self.locked then none else some (self.setThread i .receiving)
  | some .receiving =>
      match self.queue with
      | task :: queue => some ({ self with queue }.setThread i (.working task))
      | [] => if self.accepting then none else some (self.setThread i .exited)
  | some (.reporting task answer) =>
      if self.listening then
        some ({ self with results := self.results ++ [(task, answer)] }.setThread i .notifying)
      else some (self.setThread i .exited)
  | some .notifying => some ({ self with notes := self.notes + 1 }.setThread i .ready)
  | _ => none

/-- The system; `none` when the event cannot happen. -/
def Pool.step (self : Pool T A) : PoolEvent T A → Option (Pool T A)
  | .submit task =>
      if !self.accepting then none
      -- refused: there is no receiving end
      else if self.stopped then some self
      else some { self with queue := self.queue ++ [task], submitted := self.submitted ++ [task] }
  | .turn i => self.turn i
  | .answer i answer =>
      match self.threads[i]? with
      | some (.working task) => some (self.setThread i (.reporting task answer))
      | _ => none
  | .wake =>
      if self.accepting && !self.awake && 0 < self.notes then
        some { self with awake := true, notes := 0 }
      else none
  | .timeout => if self.accepting && !self.awake then some { self with awake := true } else none
  | .take =>
      if self.accepting && self.awake then
        match self.results with
        | result :: results =>
            some { self with results, delivered := self.delivered ++ [result] }
        | [] => some { self with awake := false }
      else none
  | .stop => if self.accepting then some { self with accepting := false } else none
  | .hangUp =>
      if !self.accepting && self.listening then some { self with listening := false, results := [] }
      else none

def Pool.run (events : List (PoolEvent T A)) (self : Pool T A) : Option (Pool T A) :=
  events.foldlM Pool.step self

/-- The tasks in a thread's hands. -/
def PoolThread.held : PoolThread T A → Multiset T
  | .working task | .reporting task _ => {task}
  | _ => 0

/-- The tasks in the threads' hands. -/
def Pool.held (self : Pool T A) : Multiset T := (self.threads.map PoolThread.held).sum

/-! ## §2. What a step can do. -/

section Steps

variable {s s' : Pool T A} {event : PoolEvent T A} {i : Nat}

/-- A change of one thread changes a sum over all by what it changes there. -/
theorem sum_map_set {α M : Type*} [AddCommMonoid M] (f : α → M) {l : List α} {i : Nat} {a : α}
    (b : α) (h : l[i]? = some a) : ((l.set i b).map f).sum + f a = (l.map f).sum + f b := by
  induction l generalizing i with
  | nil => cases h
  | cons x l ih =>
      cases i with
      | zero =>
          injection h with h
          subst h
          show f b + (l.map f).sum + f x = f x + (l.map f).sum + f b
          ac_rfl
      | succ i =>
          have hrest := ih h
          show f x + ((l.set i b).map f).sum + f a = f x + (l.map f).sum + f b
          rw [add_assoc, hrest, add_assoc]

/-- What a turn of a thread can do. -/
theorem Pool.turn_cases (h : s.turn i = some s') :
    (s.threads[i]? = some .ready ∧ s.locked = false ∧ s' = s.setThread i .receiving)
    ∨ (∃ task queue, s.threads[i]? = some .receiving ∧ s.queue = task :: queue
      ∧ s' = { s with queue }.setThread i (.working task))
    ∨ (s.threads[i]? = some .receiving ∧ s.queue = [] ∧ s.accepting = false
      ∧ s' = s.setThread i .exited)
    ∨ (∃ task answer, s.threads[i]? = some (.reporting task answer) ∧ s.listening = true
      ∧ s' = { s with results := s.results ++ [(task, answer)] }.setThread i .notifying)
    ∨ (∃ task answer, s.threads[i]? = some (.reporting task answer) ∧ s.listening = false
      ∧ s' = s.setThread i .exited)
    ∨ s.threads[i]? = some .notifying
      ∧ s' = { s with notes := s.notes + 1 }.setThread i .ready := by
  unfold Pool.turn at h
  split at h
  next hthread =>
    split_ifs at h with hlocked
    exact .inl ⟨hthread, by simpa using hlocked, (Option.some.inj h).symm⟩
  next hthread =>
    split at h
    next task queue hqueue =>
      exact .inr (.inl ⟨task, queue, hthread, hqueue, (Option.some.inj h).symm⟩)
    next hqueue =>
      split_ifs at h with haccepting
      exact .inr (.inr (.inl ⟨hthread, hqueue, by simpa using haccepting, (Option.some.inj h).symm⟩))
  next task answer hthread =>
    split_ifs at h with hlistening
    · exact .inr (.inr (.inr (.inl ⟨task, answer, hthread, hlistening, (Option.some.inj h).symm⟩)))
    · exact .inr (.inr (.inr (.inr (.inl
        ⟨task, answer, hthread, by simpa using hlistening, (Option.some.inj h).symm⟩))))
  next hthread => exact .inr (.inr (.inr (.inr (.inr ⟨hthread, (Option.some.inj h).symm⟩))))
  · cases h

theorem Pool.answer_cases {answer : A} (h : s.step (.answer i answer) = some s') :
    ∃ task, s.threads[i]? = some (.working task)
      ∧ s' = s.setThread i (.reporting task answer) := by
  simp only [Pool.step] at h
  split at h
  next task hthread => exact ⟨task, hthread, (Option.some.inj h).symm⟩
  · cases h

theorem Pool.submit_cases {task : T} (h : s.step (.submit task) = some s') :
    s.accepting = true ∧ (s.stopped = true ∧ s' = s
      ∨ s.stopped = false
        ∧ s' = { s with queue := s.queue ++ [task], submitted := s.submitted ++ [task] }) := by
  simp only [Pool.step] at h
  split_ifs at h with hclosed hstopped
  · exact ⟨by simpa using hclosed, .inl ⟨hstopped, (Option.some.inj h).symm⟩⟩
  · exact ⟨by simpa using hclosed, .inr ⟨by simpa using hstopped, (Option.some.inj h).symm⟩⟩

theorem Pool.take_cases (h : s.step .take = some s') :
    s.accepting = true ∧ s.awake = true
      ∧ ((∃ result results, s.results = result :: results
          ∧ s' = { s with results, delivered := s.delivered ++ [result] })
        ∨ s.results = [] ∧ s' = { s with awake := false }) := by
  simp only [Pool.step] at h
  split_ifs at h with hopen
  obtain ⟨haccepting, hawake⟩ := Bool.and_eq_true_iff.mp hopen
  refine ⟨haccepting, hawake, ?_⟩
  split at h
  next result results hresults => exact .inl ⟨result, results, hresults, (Option.some.inj h).symm⟩
  next hresults => exact .inr ⟨hresults, (Option.some.inj h).symm⟩

theorem Pool.wake_cases (h : s.step .wake = some s') :
    s.accepting = true ∧ s.awake = false ∧ 0 < s.notes
      ∧ s' = { s with awake := true, notes := 0 } := by
  simp only [Pool.step] at h
  split_ifs at h with hopen
  simp only [Bool.and_eq_true, Bool.not_eq_true', decide_eq_true_eq] at hopen
  exact ⟨hopen.1.1, hopen.1.2, hopen.2, (Option.some.inj h).symm⟩

theorem Pool.timeout_cases (h : s.step .timeout = some s') :
    s.accepting = true ∧ s.awake = false ∧ s' = { s with awake := true } := by
  simp only [Pool.step] at h
  split_ifs at h with hopen
  simp only [Bool.and_eq_true, Bool.not_eq_true'] at hopen
  exact ⟨hopen.1, hopen.2, (Option.some.inj h).symm⟩

theorem Pool.stop_cases (h : s.step .stop = some s') :
    s.accepting = true ∧ s' = { s with accepting := false } := by
  simp only [Pool.step] at h
  split_ifs at h with hopen
  exact ⟨hopen, (Option.some.inj h).symm⟩

theorem Pool.hangUp_cases (h : s.step .hangUp = some s') :
    s.accepting = false ∧ s.listening = true
      ∧ s' = { s with listening := false, results := [] } := by
  simp only [Pool.step] at h
  split_ifs at h with hopen
  simp only [Bool.and_eq_true, Bool.not_eq_true'] at hopen
  exact ⟨hopen.1, hopen.2, (Option.some.inj h).symm⟩

/-- What every step keeps is kept by a run. -/
theorem Pool.run_invariant (Inv : Pool T A → Prop)
    (hkeeps : ∀ s event s', Inv s → Pool.step s event = some s' → Inv s')
    {events : List (PoolEvent T A)} (hstart : Inv s) (h : s.run events = some s') : Inv s' := by
  induction events generalizing s with
  | nil =>
      injection h with h
      exact h ▸ hstart
  | cons event events ih =>
      have hbind : (s.step event).bind (Pool.run events) = some s' := h
      obtain ⟨next, hstep, hrest⟩ := Option.bind_eq_some_iff.mp hbind
      exact ih (hkeeps s event next hstart hstep) hrest

/-! ## §3. What holds in every state. -/

/-- The tasks that are accounted for: with the consumer, on the way to it, in the hands of
a thread, or in the queue. -/
def Pool.accounted (s : Pool T A) : Multiset T :=
  ((s.delivered ++ s.results).map Prod.fst : Multiset T) + s.held + (s.queue : Multiset T)

structure Pool.Sound (count : Nat) (s : Pool T A) : Prop where
  count : s.threads.length = count
  /-- The mutex has one holder. -/
  exclusive : ∀ i j : Nat, s.threads[i]? = some .receiving → s.threads[j]? = some .receiving → i = j
  /-- A result that a sleeping consumer does not know of has its notification ahead. -/
  noticed : s.awake = false → s.results ≠ [] →
    0 < s.notes ∨ ∃ i : Nat, s.threads[i]? = some .notifying
  conserved : s.listening = true → s.accounted = (s.submitted : Multiset T)
  delivered_le : (s.delivered.map Prod.fst : Multiset T) ≤ (s.submitted : Multiset T)
  heard : s.accepting = true → s.listening = true
  alive : s.accepting = true → ∀ i : Nat, s.threads[i]? ≠ some .exited

theorem Pool.new_sound (count : Nat) : (Pool.new count : Pool T A).Sound count where
  count := List.length_replicate
  exclusive := by
    intro i j h _
    have hready := List.eq_of_mem_replicate (List.mem_of_getElem? h)
    cases hready
  noticed := fun _ h => absurd rfl h
  conserved := by
    intro _
    show (0 : Multiset T) + ((List.replicate count PoolThread.ready).map PoolThread.held).sum + 0 = 0
    rw [List.map_replicate, List.sum_replicate]
    simp [PoolThread.held]
  delivered_le := le_refl _
  heard := fun _ => rfl
  alive := by
    intro _ i h
    have hready := List.eq_of_mem_replicate (List.mem_of_getElem? h)
    cases hready

/-- The other threads are left as they are. -/
theorem Pool.getElem?_setThread {thread other : PoolThread T A} {j : Nat}
    (h : (s.setThread i thread).threads[j]? = some other) :
    i = j ∧ other = thread ∨ i ≠ j ∧ s.threads[j]? = some other := by
  have hset : (s.threads.set i thread)[j]? = some other := h
  rw [List.getElem?_set] at hset
  split_ifs at hset with hsame hlt
  · exact .inl ⟨hsame, (Option.some.inj hset).symm⟩
  · exact .inr ⟨hsame, hset⟩

/-- What a thread takes up it holds from then on. -/
theorem Pool.held_setThread (thread : PoolThread T A) {before : PoolThread T A}
    (h : s.threads[i]? = some before) :
    (s.setThread i thread).held + before.held = s.held + thread.held :=
  sum_map_set PoolThread.held thread h

/-- A thread that lets go of the mutex, or never had it. -/
theorem Pool.Sound.exclusive_set {count : Nat} {thread : PoolThread T A} (h : s.Sound count)
    (hthread : thread ≠ .receiving) :
    ∀ j k : Nat, (s.setThread i thread).threads[j]? = some .receiving →
      (s.setThread i thread).threads[k]? = some .receiving → j = k := by
  intro j k hj hk
  obtain ⟨-, hsame⟩ | ⟨-, hj⟩ := Pool.getElem?_setThread hj
  · exact absurd hsame.symm hthread
  obtain ⟨-, hsame⟩ | ⟨-, hk⟩ := Pool.getElem?_setThread hk
  · exact absurd hsame.symm hthread
  exact h.exclusive j k hj hk

theorem Pool.Sound.alive_set {count : Nat} {thread : PoolThread T A} (h : s.Sound count)
    (hthread : thread ≠ .exited) :
    s.accepting = true → ∀ j : Nat, (s.setThread i thread).threads[j]? ≠ some .exited := by
  intro haccepting j hj
  obtain ⟨-, hsame⟩ | ⟨-, hj⟩ := Pool.getElem?_setThread hj
  · exact hthread hsame.symm
  · exact h.alive haccepting j hj

/-- A thread that was not about to notify. -/
theorem Pool.Sound.noticed_set {count : Nat} {thread before : PoolThread T A} (h : s.Sound count)
    (hbefore : s.threads[i]? = some before) (hnot : before ≠ .notifying)
    (hasleep : s.awake = false) (hresults : s.results ≠ []) :
    0 < s.notes ∨ ∃ j : Nat, (s.setThread i thread).threads[j]? = some .notifying := by
  obtain hnotes | ⟨j, hj⟩ := h.noticed hasleep hresults
  · exact .inl hnotes
  · right
    refine ⟨j, ?_⟩
    show (s.threads.set i thread)[j]? = some .notifying
    have hne : i ≠ j := by
      rintro rfl
      exact hnot (Option.some.inj (hbefore.symm.trans hj))
    rw [List.getElem?_set_ne hne]
    exact hj

/-- What the pool accounts for changes by what the thread takes up or lets go. -/
theorem Pool.accounted_setThread (thread : PoolThread T A) {before : PoolThread T A}
    (h : s.threads[i]? = some before) :
    (s.setThread i thread).accounted + before.held = s.accounted + thread.held := by
  have hheld := Pool.held_setThread thread h
  show _ + (s.setThread i thread).held + _ + before.held = _ + s.held + _ + thread.held
  rw [add_right_comm _ _ before.held, add_assoc _ _ before.held, hheld]
  show _ + (s.held + thread.held) + (s.queue : Multiset T) = _
  ac_rfl

/-- **A turn of a thread keeps the invariant.** -/
theorem Pool.Sound.turn {count : Nat} (h : s.Sound count) (hturn : s.turn i = some s') :
    s'.Sound count := by
  obtain ⟨hthread, hfree, rfl⟩ | ⟨task, queue, hthread, hqueue, rfl⟩ |
    ⟨hthread, hqueue, hclosed, rfl⟩ | ⟨task, answer, hthread, hlistening, rfl⟩ |
    ⟨task, answer, hthread, hgone, rfl⟩ | ⟨hthread, rfl⟩ := Pool.turn_cases hturn
  · -- the mutex was free
    have hnone : ∀ j : Nat, s.threads[j]? ≠ some .receiving := by
      intro j hj
      have hsome : s.locked = true := List.any_eq_true.mpr ⟨_, List.mem_of_getElem? hj, rfl⟩
      exact Bool.false_ne_true (hfree.symm.trans hsome)
    have hsum := Pool.accounted_setThread .receiving hthread
    simp only [PoolThread.held, add_zero] at hsum
    exact {
      count := List.length_set.trans h.count
      exclusive := by
        intro j k hj hk
        obtain ⟨hij, -⟩ | ⟨-, hj⟩ := Pool.getElem?_setThread hj
        · obtain ⟨hik, -⟩ | ⟨-, hk⟩ := Pool.getElem?_setThread hk
          · exact hij.symm.trans hik
          · exact absurd hk (hnone k)
        · exact absurd hj (hnone j)
      noticed := h.noticed_set hthread (by simp)
      conserved := fun hlistening => hsum.trans (h.conserved hlistening)
      delivered_le := h.delivered_le
      heard := h.heard
      alive := h.alive_set (by simp) }
  · -- the task goes from the queue to the thread
    have hsum := Pool.held_setThread (.working task) hthread
    simp only [PoolThread.held, add_zero] at hsum
    exact {
      count := List.length_set.trans h.count
      exclusive := h.exclusive_set (by simp)
      noticed := h.noticed_set hthread (by simp)
      conserved := by
        intro hlistening
        refine Eq.trans ?_ (h.conserved hlistening)
        show _ + (s.setThread i (.working task)).held + (queue : Multiset T) = _ + s.held + _
        rw [hsum, hqueue, ← Multiset.cons_coe, ← Multiset.singleton_add]
        ac_rfl
      delivered_le := h.delivered_le
      heard := h.heard
      alive := h.alive_set (by simp) }
  · have hsum := Pool.accounted_setThread .exited hthread
    simp only [PoolThread.held, add_zero] at hsum
    exact {
      count := List.length_set.trans h.count
      exclusive := h.exclusive_set (by simp)
      noticed := h.noticed_set hthread (by simp)
      conserved := fun hlistening => hsum.trans (h.conserved hlistening)
      delivered_le := h.delivered_le
      heard := h.heard
      alive := fun hopen => absurd (hopen.symm.trans hclosed) (by simp) }
  · -- the task goes from the thread to the results, and the notification is ahead
    have hsum := Pool.held_setThread .notifying hthread
    simp only [PoolThread.held, add_zero] at hsum
    exact {
      count := List.length_set.trans h.count
      exclusive := h.exclusive_set (by simp)
      noticed := by
        intro _ _
        right
        exact ⟨i, List.getElem?_set_self (List.getElem?_eq_some_iff.mp hthread).1⟩
      conserved := by
        intro hlistening
        refine Eq.trans ?_ (h.conserved hlistening)
        show (((s.delivered ++ (s.results ++ [(task, answer)])).map Prod.fst : List T) : Multiset T)
          + (s.setThread i .notifying).held + _ = _ + s.held + _
        rw [← hsum, ← List.append_assoc, List.map_append, ← Multiset.coe_add]
        show _ + {task} + (s.setThread i .notifying).held + _ = _
        ac_rfl
      delivered_le := h.delivered_le
      heard := h.heard
      alive := h.alive_set (by simp) }
  · exact {
      count := List.length_set.trans h.count
      exclusive := h.exclusive_set (by simp)
      noticed := h.noticed_set hthread (by simp)
      conserved := fun hlistening => absurd (hlistening.symm.trans hgone) (by simp)
      delivered_le := h.delivered_le
      heard := h.heard
      alive := fun hopen => absurd ((h.heard hopen).symm.trans hgone) (by simp) }
  · have hsum := Pool.accounted_setThread .ready hthread
    simp only [PoolThread.held, add_zero] at hsum
    exact {
      count := List.length_set.trans h.count
      exclusive := h.exclusive_set (by simp)
      noticed := fun _ _ => .inl (Nat.succ_pos _)
      conserved := fun hlistening => hsum.trans (h.conserved hlistening)
      delivered_le := h.delivered_le
      heard := h.heard
      alive := h.alive_set (by simp) }

/-- **Every step keeps the invariant.** -/
theorem Pool.Sound.step {count : Nat} {event : PoolEvent T A} (h : s.Sound count)
    (hstep : s.step event = some s') : s'.Sound count := by
  cases event with
  | submit task =>
      obtain ⟨_, ⟨-, rfl⟩ | ⟨-, rfl⟩⟩ := Pool.submit_cases hstep
      · exact h
      · exact { h with
          conserved := by
            intro hlistening
            show _ + ((s.queue ++ [task] : List T) : Multiset T)
              = ((s.submitted ++ [task] : List T) : Multiset T)
            rw [← Multiset.coe_add, ← Multiset.coe_add, ← h.conserved hlistening, ← add_assoc]
            rfl
          delivered_le := by
            show _ ≤ ((s.submitted ++ [task] : List T) : Multiset T)
            rw [← Multiset.coe_add]
            exact h.delivered_le.trans (Multiset.le_add_right _ _) }
  | turn i => exact h.turn hstep
  | answer i answer =>
      obtain ⟨task, hthread, rfl⟩ := Pool.answer_cases hstep
      have hsum := Pool.accounted_setThread (.reporting task answer) hthread
      exact {
        count := List.length_set.trans h.count
        exclusive := h.exclusive_set (by simp)
        noticed := h.noticed_set hthread (by simp)
        conserved := fun hlistening => (add_right_cancel hsum).trans (h.conserved hlistening)
        delivered_le := h.delivered_le
        heard := h.heard
        alive := h.alive_set (by simp) }
  | wake =>
      obtain ⟨_, _, _, rfl⟩ := Pool.wake_cases hstep
      exact { h with noticed := fun hasleep => absurd hasleep (by simp) }
  | timeout =>
      obtain ⟨_, _, rfl⟩ := Pool.timeout_cases hstep
      exact { h with noticed := fun hasleep => absurd hasleep (by simp) }
  | take =>
      obtain ⟨haccepting, hawake, ⟨result, results, hresults, rfl⟩ | ⟨hempty, rfl⟩⟩ :=
        Pool.take_cases hstep
      · have hconserved := h.conserved (h.heard haccepting)
        have hsame : Pool.accounted
            { s with results, delivered := s.delivered ++ [result] } = s.accounted := by
          show (((s.delivered ++ [result] ++ results).map Prod.fst : List T) : Multiset T) + _ + _ = _
          rw [List.append_assoc, List.singleton_append, ← hresults]
          rfl
        exact { h with
          noticed := fun hasleep => absurd (hawake.symm.trans hasleep) (by simp)
          conserved := fun _ => hsame.trans hconserved
          delivered_le := by
            rw [← hconserved, ← hsame]
            show (((s.delivered ++ [result]).map Prod.fst : List T) : Multiset T)
              ≤ (((s.delivered ++ [result] ++ results).map Prod.fst : List T) : Multiset T) + _ + _
            have hsplit : (s.delivered ++ [result] ++ results).map Prod.fst
                = (s.delivered ++ [result]).map Prod.fst ++ results.map Prod.fst := List.map_append
            rw [hsplit, ← Multiset.coe_add, add_assoc, add_assoc]
            exact Multiset.le_add_right _ _ }
      · exact { h with noticed := fun _ hresults => absurd hempty hresults }
  | stop =>
      obtain ⟨_, rfl⟩ := Pool.stop_cases hstep
      exact { h with
        heard := fun hopen => absurd hopen (by simp)
        alive := fun hopen => absurd hopen (by simp) }
  | hangUp =>
      obtain ⟨hclosed, _, rfl⟩ := Pool.hangUp_cases hstep
      exact { h with
        noticed := fun _ hresults => absurd rfl hresults
        conserved := fun hlistening => absurd hlistening (by simp)
        heard := fun hopen => absurd (hopen.symm.trans hclosed) (by simp) }

theorem Pool.run_sound {count : Nat} {events : List (PoolEvent T A)}
    (h : (Pool.new count).run events = some s) : s.Sound count :=
  Pool.run_invariant (Pool.Sound count) (fun _ _ _ h hstep => h.step hstep) (Pool.new_sound count) h

/-- With a thread there is always somebody to take a task. -/
theorem Pool.Sound.not_stopped {count : Nat} (h : s.Sound count) (hcount : 0 < count)
    (haccepting : s.accepting = true) : s.stopped = false := by
  by_contra hstopped
  have hall : s.stopped = true := by simpa using hstopped
  have hlt : 0 < s.threads.length := by
    rw [h.count]
    exact hcount
  have hfirst : s.threads[0]? = some s.threads[0] := List.getElem?_eq_getElem hlt
  have hexited := List.all_eq_true.mp hall _ (List.getElem_mem hlt)
  cases hthread : s.threads[0] with
  | exited =>
      rw [hthread] at hfirst
      exact h.alive haccepting 0 hfirst
  | ready | receiving | working | reporting | notifying =>
      rw [hthread] at hexited
      cases hexited

/-! ## §4. Progress. -/

/-- The steps of the threads and of the consumer that sees a notification. -/
def PoolEvent.internal : PoolEvent T A → Bool
  | .turn _ | .answer .. | .wake | .take => true
  | _ => false

/-- The work an event brings along. -/
def PoolEvent.brings : PoolEvent T A → Nat
  | .submit _ => 8
  | .timeout => 1
  | _ => 0

def PoolThread.work : PoolThread T A → Nat
  | .ready => 2
  | .receiving => 1
  | .working _ => 8
  | .reporting .. => 7
  | .notifying => 5
  | .exited => 0

/-- A bound for the steps that are left when nothing more is asked. -/
def Pool.work (s : Pool T A) : Nat :=
  8 * s.queue.length + (s.threads.map PoolThread.work).sum + s.results.length + 2 * s.notes
    + s.awake.toNat

theorem Pool.new_work (count : Nat) : (Pool.new count : Pool T A).work = 2 * count := by
  show 8 * 0 + ((List.replicate count PoolThread.ready).map PoolThread.work).sum + 0 + 2 * 0 + 0 = _
  rw [List.map_replicate, List.sum_replicate]
  show 8 * 0 + count * 2 + 0 + 2 * 0 + 0 = 2 * count
  omega

theorem Pool.work_setThread (thread : PoolThread T A) {before : PoolThread T A}
    (h : s.threads[i]? = some before) :
    (s.setThread i thread).work + before.work = s.work + thread.work := by
  have hsum := sum_map_set PoolThread.work thread h
  simp only [Pool.work, Pool.setThread]
  omega

/-- A turn of a thread lowers the work. -/
theorem Pool.turn_work (h : s.turn i = some s') : s'.work < s.work := by
  obtain ⟨hthread, -, rfl⟩ | ⟨task, queue, hthread, hqueue, rfl⟩ | ⟨hthread, -, -, rfl⟩ |
    ⟨task, answer, hthread, -, rfl⟩ | ⟨task, answer, hthread, -, rfl⟩ | ⟨hthread, rfl⟩ :=
    Pool.turn_cases h
  · have hset := Pool.work_setThread .receiving hthread
    simp only [PoolThread.work] at hset
    omega
  · have hset := Pool.work_setThread (s := { s with queue }) (.working task) hthread
    have htaken : Pool.work { s with queue } + 8 = s.work := by
      simp only [Pool.work, hqueue, List.length_cons]
      omega
    simp only [PoolThread.work] at hset
    omega
  · have hset := Pool.work_setThread .exited hthread
    simp only [PoolThread.work] at hset
    omega
  · have hset := Pool.work_setThread (s := { s with results := s.results ++ [(task, answer)] })
      .notifying hthread
    have hsent : Pool.work { s with results := s.results ++ [(task, answer)] } = s.work + 1 := by
      simp only [Pool.work, List.length_append, List.length_singleton]
      omega
    simp only [PoolThread.work] at hset
    omega
  · have hset := Pool.work_setThread .exited hthread
    simp only [PoolThread.work] at hset
    omega
  · have hset := Pool.work_setThread (s := { s with notes := s.notes + 1 }) .ready hthread
    have hnoted : Pool.work { s with notes := s.notes + 1 } = s.work + 2 := by
      simp only [Pool.work]
      omega
    simp only [PoolThread.work] at hset
    omega

/-- **Every internal step lowers the work.** -/
theorem Pool.step_work (hstep : s.step event = some s') :
    s'.work + (if event.internal then 1 else 0) ≤ s.work + event.brings := by
  cases event with
  | submit task =>
      obtain ⟨_, ⟨-, rfl⟩ | ⟨-, rfl⟩⟩ := Pool.submit_cases hstep
      · exact Nat.le_add_right _ _
      · simp only [Pool.work, PoolEvent.internal, PoolEvent.brings, List.length_append,
          List.length_singleton, Bool.false_eq_true, if_false]
        omega
  | turn i =>
      have hless : s'.work < s.work := Pool.turn_work hstep
      simp only [PoolEvent.internal, PoolEvent.brings, if_true]
      omega
  | answer i answer =>
      obtain ⟨task, hthread, rfl⟩ := Pool.answer_cases hstep
      have hset := Pool.work_setThread (.reporting task answer) hthread
      simp only [PoolThread.work] at hset
      simp only [PoolEvent.internal, PoolEvent.brings, if_true]
      omega
  | wake =>
      obtain ⟨-, hasleep, hnotes, rfl⟩ := Pool.wake_cases hstep
      simp only [Pool.work, PoolEvent.internal, PoolEvent.brings, hasleep, Bool.toNat_true,
        Bool.toNat_false, if_true]
      omega
  | timeout =>
      obtain ⟨-, hasleep, rfl⟩ := Pool.timeout_cases hstep
      simp only [Pool.work, PoolEvent.internal, PoolEvent.brings, hasleep, Bool.false_eq_true,
        Bool.toNat_true, Bool.toNat_false, if_false]
      omega
  | take =>
      obtain ⟨-, hawake, ⟨result, results, hresults, rfl⟩ | ⟨-, rfl⟩⟩ := Pool.take_cases hstep
      · simp only [Pool.work, PoolEvent.internal, PoolEvent.brings, hresults, List.length_cons, if_true]
        omega
      · simp only [Pool.work, PoolEvent.internal, PoolEvent.brings, hawake, Bool.toNat_true,
          Bool.toNat_false, if_true]
        omega
  | stop =>
      obtain ⟨-, rfl⟩ := Pool.stop_cases hstep
      exact Nat.le_refl _
  | hangUp =>
      obtain ⟨-, -, rfl⟩ := Pool.hangUp_cases hstep
      simp only [Pool.work, PoolEvent.internal, PoolEvent.brings, List.length_nil, Bool.false_eq_true,
        if_false]
      omega

/-- **A pool comes to rest**: the steps it takes are paid by the tasks it was given and by
the times the consumer woke up by itself. -/
theorem Pool.run_work {events : List (PoolEvent T A)} (h : s.run events = some s') :
    s'.work + events.countP PoolEvent.internal ≤ s.work + (events.map PoolEvent.brings).sum := by
  induction events generalizing s with
  | nil =>
      injection h with h
      rw [h]
      exact le_refl _
  | cons event events ih =>
      have hbind : (s.step event).bind (Pool.run events) = some s' := h
      obtain ⟨next, hstep, hrest⟩ := Option.bind_eq_some_iff.mp hbind
      have hfirst := Pool.step_work hstep
      have hlater := ih hrest
      rw [List.countP_cons, List.map_cons, List.sum_cons]
      omega

/-- Neither the threads nor a consumer that sees notifications has anything to do. -/
def Pool.AtRest (s : Pool T A) : Prop :=
  ∀ event : PoolEvent T A, event.internal = true → s.step event = none

/-- A thread that has no turn waits: for the mutex, for a task or for its answer. -/
theorem Pool.turn_eq_none {thread : PoolThread T A} (h : s.turn i = none)
    (hthread : s.threads[i]? = some thread) :
    thread = .ready ∧ s.locked = true ∨ thread = .receiving ∧ s.queue = [] ∧ s.accepting = true
      ∨ (∃ task, thread = .working task) ∨ thread = .exited := by
  unfold Pool.turn at h
  rw [hthread] at h
  cases thread with
  | ready =>
      simp only at h
      split_ifs at h with hlocked
      exact .inl ⟨rfl, hlocked⟩
  | receiving =>
      simp only at h
      split at h
      · cases h
      next hqueue =>
        split_ifs at h with haccepting
        exact .inr (.inl ⟨rfl, hqueue, haccepting⟩)
  | working task => exact .inr (.inr (.inl ⟨task, rfl⟩))
  | reporting task answer =>
      simp only at h
      split_ifs at h
  | notifying => cases h
  | exited => exact .inr (.inr (.inr rfl))

theorem Pool.AtRest.not_working (h : s.AtRest) [Nonempty A] {task : T} :
    s.threads[i]? ≠ some (.working task) := by
  intro hthread
  obtain ⟨answer⟩ := ‹Nonempty A›
  have hnone := h (.answer i answer) rfl
  simp only [Pool.step, hthread] at hnone
  cases hnone

/-- Some thread holds the mutex where one waits for it. -/
theorem Pool.exists_receiving (h : s.locked = true) : ∃ i : Nat, s.threads[i]? = some .receiving := by
  obtain ⟨thread, hmem, hreceiving⟩ := List.any_eq_true.mp h
  obtain ⟨i, hi⟩ := List.mem_iff_getElem?.mp hmem
  cases thread with
  | receiving => exact ⟨i, hi⟩
  | ready | working | reporting | notifying | exited => cases hreceiving

/-- **A pool at rest has done everything**: while it accepts tasks, each one it took was
answered and the answer delivered, once. -/
theorem Pool.Sound.delivered_of_rest {count : Nat} [Nonempty A] (h : s.Sound count)
    (hcount : 0 < count) (haccepting : s.accepting = true) (hrest : s.AtRest) :
    (s.delivered.map Prod.fst).Perm s.submitted := by
  have hthreads : ∀ (i : Nat) (thread : PoolThread T A), s.threads[i]? = some thread →
      thread = .ready ∧ s.locked = true ∨ thread = .receiving ∧ s.queue = [] := by
    intro i thread hthread
    obtain hready | ⟨hreceiving, hqueue, -⟩ | ⟨task, rfl⟩ | rfl :=
      Pool.turn_eq_none (hrest (.turn i) rfl) hthread
    · exact .inl hready
    · exact .inr ⟨hreceiving, hqueue⟩
    · exact absurd hthread hrest.not_working
    · exact absurd hthread (h.alive haccepting i)
  -- the thread that waits for a task finds none
  have hqueue : s.queue = [] := by
    have hlt : 0 < s.threads.length := by
      rw [h.count]
      exact hcount
    obtain ⟨-, hlocked⟩ | ⟨-, hqueue⟩ := hthreads 0 _ (List.getElem?_eq_getElem hlt)
    · obtain ⟨i, hi⟩ := Pool.exists_receiving hlocked
      obtain ⟨hready, -⟩ | ⟨-, hqueue⟩ := hthreads i _ hi
      · cases hready
      · exact hqueue
    · exact hqueue
  have hheld : s.held = 0 := by
    apply List.sum_eq_zero
    intro held hmem
    obtain ⟨thread, hthread, rfl⟩ := List.mem_map.mp hmem
    obtain ⟨i, hi⟩ := List.mem_iff_getElem?.mp hthread
    obtain ⟨rfl, -⟩ | ⟨rfl, -⟩ := hthreads i thread hi
    · rfl
    · rfl
  have hasleep : s.awake = false := by
    by_contra hawake
    have hnone := hrest .take rfl
    simp only [Pool.step, haccepting, Bool.not_eq_false] at hnone hawake
    rw [hawake, Bool.and_self, if_pos rfl] at hnone
    split at hnone <;> cases hnone
  have hnotes : s.notes = 0 := by
    by_contra hnotes
    have hpos : 0 < s.notes := Nat.pos_of_ne_zero hnotes
    have hnone := hrest .wake rfl
    simp [Pool.step, haccepting, hasleep, hpos] at hnone
  have hresults : s.results = [] := by
    by_contra hresults
    obtain hpos | ⟨i, hi⟩ := h.noticed hasleep hresults
    · omega
    · obtain ⟨hready, -⟩ | ⟨hreceiving, -⟩ := hthreads i _ hi
      · cases hready
      · cases hreceiving
  have hconserved := h.conserved (h.heard haccepting)
  unfold Pool.accounted at hconserved
  rw [hresults, List.append_nil, hheld, hqueue, Multiset.coe_nil, add_zero, add_zero] at hconserved
  exact Multiset.coe_eq_coe.mp hconserved

/-! ## §5. A pool without its owner. -/

/-- The turns a thread has left when nobody listens. -/
def PoolThread.turnsLeft : PoolThread T A → Nat
  | .notifying => 5
  | .ready => 4
  | .receiving => 3
  | .working _ => 2
  | .reporting .. => 1
  | .exited => 0

def Pool.turnsLeft (s : Pool T A) : Nat := (s.threads.map PoolThread.turnsLeft).sum

theorem Pool.turnsLeft_setThread (thread : PoolThread T A) {before : PoolThread T A}
    (h : s.threads[i]? = some before) :
    (s.setThread i thread).turnsLeft + before.turnsLeft = s.turnsLeft + thread.turnsLeft :=
  sum_map_set PoolThread.turnsLeft thread h

theorem Pool.turnsLeft_le {count : Nat} (h : s.threads.length = count) : s.turnsLeft ≤ 5 * count := by
  have hmost : ∀ turns ∈ s.threads.map PoolThread.turnsLeft, turns ≤ 5 := by
    intro turns hmem
    obtain ⟨thread, -, rfl⟩ := List.mem_map.mp hmem
    cases thread <;> simp [PoolThread.turnsLeft]
  have hsum := List.sum_le_card_nsmul _ 5 hmost
  rw [List.length_map, h, Nat.nsmul_eq_mul] at hsum
  show _ ≤ 5 * count
  rw [Nat.mul_comm]
  exact hsum

/-- What is left of a pool that is closed at both ends. -/
theorem Pool.step_gone (hclosed : s.accepting = false) (hgone : s.listening = false)
    (hstep : s.step event = some s') :
    s'.accepting = false ∧ s'.listening = false ∧ s'.delivered = s.delivered
      ∧ s'.turnsLeft + (if event.internal then 1 else 0) ≤ s.turnsLeft := by
  cases event with
  | turn i =>
      have hevent : ((PoolEvent.turn i : PoolEvent T A).internal = true) := rfl
      rw [if_pos hevent]
      obtain ⟨hthread, -, rfl⟩ | ⟨task, queue, hthread, -, rfl⟩ | ⟨hthread, -, -, rfl⟩ |
        ⟨_, _, -, hlistening, -⟩ | ⟨task, answer, hthread, -, rfl⟩ | ⟨hthread, rfl⟩ :=
        Pool.turn_cases hstep
      · have hset := Pool.turnsLeft_setThread .receiving hthread
        simp only [PoolThread.turnsLeft] at hset
        exact ⟨hclosed, hgone, rfl, by omega⟩
      · have hset := Pool.turnsLeft_setThread (s := { s with queue }) (.working task) hthread
        have hsame : Pool.turnsLeft { s with queue } = s.turnsLeft := rfl
        simp only [PoolThread.turnsLeft] at hset
        exact ⟨hclosed, hgone, rfl, by omega⟩
      · have hset := Pool.turnsLeft_setThread .exited hthread
        simp only [PoolThread.turnsLeft] at hset
        exact ⟨hclosed, hgone, rfl, by omega⟩
      · cases hgone.symm.trans hlistening
      · have hset := Pool.turnsLeft_setThread .exited hthread
        simp only [PoolThread.turnsLeft] at hset
        exact ⟨hclosed, hgone, rfl, by omega⟩
      · have hset := Pool.turnsLeft_setThread (s := { s with notes := s.notes + 1 }) .ready hthread
        have hsame : Pool.turnsLeft { s with notes := s.notes + 1 } = s.turnsLeft := rfl
        simp only [PoolThread.turnsLeft] at hset
        exact ⟨hclosed, hgone, rfl, by omega⟩
  | answer i answer =>
      obtain ⟨task, hthread, rfl⟩ := Pool.answer_cases hstep
      have hset := Pool.turnsLeft_setThread (.reporting task answer) hthread
      simp only [PoolThread.turnsLeft] at hset
      have hevent : ((PoolEvent.answer i answer : PoolEvent T A).internal = true) := rfl
      rw [if_pos hevent]
      exact ⟨hclosed, hgone, rfl, by omega⟩
  | submit task => cases hclosed.symm.trans (Pool.submit_cases hstep).1
  | wake => cases hclosed.symm.trans (Pool.wake_cases hstep).1
  | timeout => cases hclosed.symm.trans (Pool.timeout_cases hstep).1
  | take => cases hclosed.symm.trans (Pool.take_cases hstep).1
  | stop => cases hclosed.symm.trans (Pool.stop_cases hstep).1
  | hangUp => cases hgone.symm.trans (Pool.hangUp_cases hstep).2.1

/-- **Threads whose owner is gone take a bounded number of steps**, however long the
queue is. -/
theorem Pool.run_gone {events : List (PoolEvent T A)} (hclosed : s.accepting = false)
    (hgone : s.listening = false) (h : s.run events = some s') :
    s'.accepting = false ∧ s'.listening = false ∧ s'.delivered = s.delivered
      ∧ s'.turnsLeft + events.countP PoolEvent.internal ≤ s.turnsLeft := by
  induction events generalizing s with
  | nil =>
      injection h with h
      rw [← h]
      exact ⟨hclosed, hgone, rfl, le_refl _⟩
  | cons event events ih =>
      have hbind : (s.step event).bind (Pool.run events) = some s' := h
      obtain ⟨next, hstep, hrest⟩ := Option.bind_eq_some_iff.mp hbind
      obtain ⟨hclosed', hgone', hdelivered, hfirst⟩ := Pool.step_gone hclosed hgone hstep
      obtain ⟨hclosed'', hgone'', hlater, hsteps⟩ := ih hclosed' hgone' hrest
      refine ⟨hclosed'', hgone'', hlater.trans hdelivered, ?_⟩
      rw [List.countP_cons]
      omega

/-- **At rest all of them have exited.** -/
theorem Pool.AtRest.stopped [Nonempty A] (h : s.AtRest) (hclosed : s.accepting = false) :
    s.stopped = true := by
  have hthreads : ∀ (i : Nat) (thread : PoolThread T A), s.threads[i]? = some thread →
      thread = .ready ∧ s.locked = true ∨ thread = .exited := by
    intro i thread hthread
    obtain hready | ⟨-, -, haccepting⟩ | ⟨task, rfl⟩ | hexited :=
      Pool.turn_eq_none (h (.turn i) rfl) hthread
    · exact .inl hready
    · cases hclosed.symm.trans haccepting
    · exact absurd hthread h.not_working
    · exact .inr hexited
  apply List.all_eq_true.mpr
  intro thread hmem
  obtain ⟨i, hi⟩ := List.mem_iff_getElem?.mp hmem
  obtain ⟨-, hlocked⟩ | rfl := hthreads i thread hi
  · -- the holder of the mutex would go on
    obtain ⟨j, hj⟩ := Pool.exists_receiving hlocked
    obtain ⟨hready, -⟩ | hexited := hthreads j _ hj
    · cases hready
    · cases hexited
  · rfl

/-! ## §6. Runs of a new pool. -/

/-- What a run of a pool of so many threads comes to. -/
structure Pool.Answers (count : Nat) (events : List (PoolEvent T A)) (s : Pool T A) : Prop where
  /-- A task is never refused. -/
  accepted : s.accepting = true → s.stopped = false
  exclusive : ∀ i j : Nat, s.threads[i]? = some .receiving → s.threads[j]? = some .receiving → i = j
  /-- Only tasks are answered, and each at most once. -/
  once : (s.delivered.map Prod.fst : Multiset T) ≤ (s.submitted : Multiset T)
  /-- A consumer does not sleep through a result. -/
  noticed : s.awake = false → s.results ≠ [] →
    0 < s.notes ∨ ∃ i : Nat, s.threads[i]? = some .notifying
  steps : events.countP PoolEvent.internal ≤ 2 * count + (events.map PoolEvent.brings).sum
  /-- With nothing left to do, each task has its answer. -/
  rest : s.accepting = true → s.AtRest → (s.delivered.map Prod.fst).Perm s.submitted
  /-- Without its owner the pool delivers nothing more and ends. -/
  ends : s.accepting = false → s.listening = false → ∀ later s', s.run later = some s' →
    s'.delivered = s.delivered ∧ later.countP PoolEvent.internal ≤ 5 * count
      ∧ (s'.AtRest → s'.stopped = true)

/-- **A pool answers its tasks.** -/
theorem Pool.run_answers [Nonempty A] {count : Nat} {events : List (PoolEvent T A)}
    (hcount : 0 < count) (h : (Pool.new count).run events = some s) : s.Answers count events where
  accepted := (Pool.run_sound h).not_stopped hcount
  exclusive := (Pool.run_sound h).exclusive
  once := (Pool.run_sound h).delivered_le
  noticed := (Pool.run_sound h).noticed
  steps := by
    have hwork := Pool.run_work h
    rw [Pool.new_work] at hwork
    omega
  rest := (Pool.run_sound h).delivered_of_rest hcount
  ends := by
    intro hclosed hgone later s' hlater
    obtain ⟨hclosed', -, hdelivered, hsteps⟩ := Pool.run_gone hclosed hgone hlater
    have hmost := Pool.turnsLeft_le (Pool.run_sound h).count
    exact ⟨hdelivered, by omega, fun hrest => hrest.stopped hclosed'⟩

end Steps

end Thwip.Lib
