/-
  Thwip.Runtime.ShutdownHandle — how a request to shut down reaches a worker
  (`ShutdownHandle` of `run/slave/src/runtime/mod.rs`).

  `request` stores a flag, wakes the waker and writes the eventfd, those of them that are
  installed.  Any number of threads are in it at once, also while the worker is still
  being built.  The worker looks at the flag and then waits: on the readiness runtime for
  its waker, on io_uring for the one read of its eventfd.  A worker that waits does so
  with the flag unset, or is about to be told.
-/
import Mathlib.Data.List.Basic

namespace Thwip

/-! ## §1. The handle. -/

/-- The flag, and of the waker and the eventfd, once installed, the notifications that
nobody has seen. -/
structure ShutdownState where
  requested : Bool
  waker : Option Nat
  eventfd : Option Nat
  deriving Repr, DecidableEq

/-- Where a call of `request` is. -/
inductive RequestStep where
  /-- Before the store of the flag. -/
  | storing
  /-- Before the look at the waker. -/
  | waking
  /-- Before the look at the eventfd. -/
  | writing
  | done
  deriving Repr, DecidableEq

/-- One step of `request`. -/
def ShutdownState.request (self : ShutdownState) : RequestStep → RequestStep × ShutdownState
  | .storing => (.waking, { self with requested := true })
  | .waking => (.writing, { self with waker := self.waker.map Nat.succ })
  | .writing => (.done, { self with eventfd := self.eventfd.map Nat.succ })
  | .done => (.done, self)

/-- What a worker waits with. -/
inductive WorkerRuntime where
  | readiness
  | ioUring
  deriving Repr, DecidableEq

/-- The notifications a worker waits for. -/
def ShutdownState.notes (self : ShutdownState) : WorkerRuntime → Option Nat
  | .readiness => self.waker
  | .ioUring => self.eventfd

/-- Has the flag been stored, and is the notification still to come? -/
def RequestStep.willNotify : WorkerRuntime → RequestStep → Bool
  | .readiness, .waking => true
  | .ioUring, .waking | .ioUring, .writing => true
  | _, _ => false

/-! ## §2. The worker. -/

/-- Where the worker is. -/
inductive WorkerStep where
  /-- Before `install_waker` or `install_eventfd`. -/
  | starting
  /-- In `install_eventfd`, before its look at the flag. -/
  | installed
  /-- In a call of `request` of its own. -/
  | requesting (step : RequestStep)
  /-- At the top of its loop, before the look at the flag. -/
  | checking
  | waiting
  | draining
  deriving Repr, DecidableEq

structure ShutdownSystem where
  runtime : WorkerRuntime
  state : ShutdownState
  /-- The calls of `request` by other threads. -/
  requests : List RequestStep
  worker : WorkerStep
  /-- The worker's read of its eventfd has not completed. -/
  reading : Bool
  deriving Repr, DecidableEq

inductive ShutdownEvent where
  /-- A thread calls `request`. -/
  | call
  /-- A step of one of the calls. -/
  | request (index : Nat)
  | worker
  /-- The worker stops waiting for another reason. -/
  | other
  deriving Repr, DecidableEq

def ShutdownSystem.new (runtime : WorkerRuntime) : ShutdownSystem :=
  { runtime, state := { requested := false, waker := none, eventfd := none }, requests := []
    worker := .starting, reading := true }

/-- The worker's next step; it stays where it is while it waits. -/
def ShutdownSystem.turn (self : ShutdownSystem) : ShutdownSystem :=
  match self.worker with
  | .starting =>
      match self.runtime with
      | .readiness =>
          { self with state := { self.state with waker := some 0 }, worker := .checking }
      | .ioUring =>
          { self with state := { self.state with eventfd := some 0 }, worker := .installed }
  | .installed =>
      -- a request that found no eventfd is made again
      { self with worker := if self.state.requested then .requesting .storing else .checking }
  | .requesting step =>
      { self with
        state := (self.state.request step).2
        worker :=
          if (self.state.request step).1 = .done then .checking
          else .requesting (self.state.request step).1 }
  | .checking => { self with worker := if self.state.requested then .draining else .waiting }
  | .waiting =>
      match self.runtime, self.state.notes self.runtime with
      | .readiness, some (_ + 1) =>
          { self with state := { self.state with waker := some 0 }, worker := .checking }
      | .ioUring, some (_ + 1) =>
          if self.reading then
            { self with
              state := { self.state with eventfd := some 0 }
              -- `self.shutdown.request()`; the read is not submitted again
              reading := false, worker := .requesting .storing }
          else self
      | _, _ => self
  | .draining => self

def ShutdownSystem.step (self : ShutdownSystem) : ShutdownEvent → ShutdownSystem
  | .call => { self with requests := self.requests ++ [.storing] }
  | .request index =>
      match self.requests[index]? with
      | none => self
      | some step =>
          { self with
            state := (self.state.request step).2
            requests := self.requests.set index (self.state.request step).1 }
  | .worker => self.turn
  | .other => if self.worker = .waiting then { self with worker := .checking } else self

def ShutdownSystem.run (events : List ShutdownEvent) (self : ShutdownSystem) : ShutdownSystem :=
  events.foldl ShutdownSystem.step self

/-- A notification is there for the worker. -/
def ShutdownSystem.Notified (self : ShutdownSystem) : Prop :=
  self.reading = true ∧ ∃ n, self.state.notes self.runtime = some (n + 1)

/-! ## §3. What holds in every state. -/

structure ShutdownSystem.Sound (s : ShutdownSystem) : Prop where
  /-- Who is beyond the store has stored. -/
  stored : ∀ step ∈ s.requests, step ≠ .storing → s.state.requested = true
  noted : ∀ runtime n, s.state.notes runtime = some (n + 1) → s.state.requested = true
  requesting : ∀ step, s.worker = .requesting step → s.state.requested = true
  draining : s.worker = .draining → s.state.requested = true
  installed : s.worker ≠ .starting → ∃ n, s.state.notes s.runtime = some n
  /-- The read completes once, and the worker does not wait again. -/
  read : s.reading = false → s.state.requested = true ∧ s.worker ≠ .waiting
  heard : s.worker = .waiting → s.state.requested = true →
    s.Notified
      ∨ ∃ (i : Nat) (step : RequestStep), s.requests[i]? = some step ∧ step.willNotify s.runtime = true

section Steps

variable {s : ShutdownSystem}

theorem ShutdownSystem.new_sound (runtime : WorkerRuntime) : (ShutdownSystem.new runtime).Sound where
  stored := by
    intro step hmem
    cases hmem
  noted := by
    intro runtime' n h
    cases runtime' <;> cases h
  requesting := by
    intro step h
    cases h
  draining := by
    intro h
    cases h
  installed := fun h => absurd rfl h
  read := by
    intro h
    cases h
  heard := by
    intro h
    cases h

theorem ShutdownState.request_keeps {state : ShutdownState} (step : RequestStep)
    (h : state.requested = true) : (state.request step).2.requested = true := by
  cases step with
  | storing => rfl
  | waking | writing | done => exact h

/-- A notification that is there stays there, and an installed channel installed. -/
theorem ShutdownState.request_notes {state : ShutdownState} {runtime : WorkerRuntime}
    (step : RequestStep) {n : Nat} (h : state.notes runtime = some n) :
    ∃ m, n ≤ m ∧ (state.request step).2.notes runtime = some m := by
  cases step with
  | storing | done => exact ⟨n, Nat.le_refl n, by cases runtime <;> exact h⟩
  | waking =>
      cases runtime with
      | readiness =>
          refine ⟨n + 1, Nat.le_succ n, ?_⟩
          show state.waker.map Nat.succ = _
          rw [show state.waker = some n from h]
          rfl
      | ioUring => exact ⟨n, Nat.le_refl n, h⟩
  | writing =>
      cases runtime with
      | readiness => exact ⟨n, Nat.le_refl n, h⟩
      | ioUring =>
          refine ⟨n + 1, Nat.le_succ n, ?_⟩
          show state.eventfd.map Nat.succ = _
          rw [show state.eventfd = some n from h]
          rfl

/-- A call that has stored the flag notifies, at once or in its next steps. -/
theorem ShutdownState.request_tells {state : ShutdownState} {runtime : WorkerRuntime}
    {step : RequestStep} {n : Nat} (h : step = .storing ∨ step.willNotify runtime = true)
    (hnotes : state.notes runtime = some n) :
    (state.request step).1.willNotify runtime = true
      ∨ ∃ m, (state.request step).2.notes runtime = some (m + 1) := by
  cases runtime with
  | readiness =>
      cases step with
      | storing => exact .inl rfl
      | waking =>
          right
          refine ⟨n, ?_⟩
          show state.waker.map Nat.succ = _
          rw [show state.waker = some n from hnotes]
          rfl
      | writing | done => obtain h | h := h <;> cases h
  | ioUring =>
      cases step with
      | storing | waking => exact .inl rfl
      | writing =>
          right
          refine ⟨n, ?_⟩
          show state.eventfd.map Nat.succ = _
          rw [show state.eventfd = some n from hnotes]
          rfl
      | done => obtain h | h := h <;> cases h

/-- **A step of a call keeps the invariant.** -/
theorem ShutdownSystem.Sound.request {index : Nat} {step : RequestStep} (h : s.Sound)
    (hstep : s.requests[index]? = some step) :
    ({ s with
      state := (s.state.request step).2
      requests := s.requests.set index (s.state.request step).1 } : ShutdownSystem).Sound := by
  have hbefore : step ≠ .storing → s.state.requested = true :=
    h.stored step (List.mem_of_getElem? hstep)
  have hrequested : (s.state.request step).2.requested = true := by
    cases step with
    | storing => rfl
    | waking | writing | done => exact hbefore (by simp)
  exact {
    stored := fun _ _ _ => hrequested
    noted := fun _ _ _ => hrequested
    requesting := fun _ _ => hrequested
    draining := fun _ => hrequested
    installed := by
      intro hstarted
      obtain ⟨n, hn⟩ := h.installed hstarted
      obtain ⟨m, -, hm⟩ := ShutdownState.request_notes step hn
      exact ⟨m, hm⟩
    read := fun hread => ⟨hrequested, (h.read hread).2⟩
    heard := by
      intro hwaiting _
      have hwaits : s.worker = .waiting := hwaiting
      have hreading : s.reading = true := by
        by_contra hread
        exact (h.read (by simpa using hread)).2 hwaiting
      have hlt := (List.getElem?_eq_some_iff.mp hstep).1
      obtain ⟨n, hn⟩ := h.installed (by rw [hwaits]; simp)
      by_cases htells : step = .storing ∨ step.willNotify s.runtime = true
      · obtain hwill | ⟨m, hm⟩ := ShutdownState.request_tells htells hn
        · exact .inr ⟨index, _, List.getElem?_set_self hlt, hwill⟩
        · exact .inl ⟨hreading, m, hm⟩
      · -- somebody else is to tell the worker, or has told it
        push Not at htells
        obtain ⟨_, m, hm⟩ | ⟨i, other, hother, hwill⟩ := h.heard hwaiting (hbefore htells.1)
        · obtain ⟨k, hle, hk⟩ := ShutdownState.request_notes step hm
          obtain ⟨j, rfl⟩ := Nat.exists_eq_add_of_le hle
          refine .inl ⟨hreading, m + j, ?_⟩
          rw [show m + j + 1 = m + 1 + j by omega]
          exact hk
        · have hne : index ≠ i := by
            rintro rfl
            rw [hstep] at hother
            injection hother with hother
            exact htells.2 (hother ▸ hwill)
          refine .inr ⟨i, other, ?_, hwill⟩
          rw [List.getElem?_set_ne hne]
          exact hother }

/-- A worker that does not wait, for which the flag is stored. -/
theorem ShutdownSystem.Sound.of_requested {s' : ShutdownSystem}
    (hrequested : s'.state.requested = true)
    (hinstalled : s'.worker ≠ .starting → ∃ n, s'.state.notes s'.runtime = some n)
    (hwaiting : s'.worker ≠ .waiting) : s'.Sound where
  stored := fun _ _ _ => hrequested
  noted := fun _ _ _ => hrequested
  requesting := fun _ _ => hrequested
  draining := fun _ => hrequested
  installed := hinstalled
  read := fun _ => ⟨hrequested, hwaiting⟩
  heard := fun h => absurd h hwaiting

/-- **A turn of the worker keeps the invariant.** -/
theorem ShutdownSystem.Sound.turn (h : s.Sound) : s.turn.Sound := by
  cases hworker : s.worker with
  | starting =>
      -- the channel of the runtime is new, the other one is as before
      cases hruntime : s.runtime with
      | readiness =>
          have hturn : s.turn = { s with
              state := { s.state with waker := some 0 }, worker := .checking } := by
            simp only [ShutdownSystem.turn, hworker, hruntime]
          rw [hturn]
          exact { h with
            noted := by
              intro runtime n hn
              cases runtime with
              | readiness => cases hn
              | ioUring => exact h.noted .ioUring n hn
            requesting := fun _ hrequesting => by cases hrequesting
            draining := fun hdraining => by cases hdraining
            installed := fun _ => ⟨0, by rw [hruntime]; rfl⟩
            read := fun hread => ⟨(h.read hread).1, by simp⟩
            heard := fun hwaiting => by cases hwaiting }
      | ioUring =>
          have hturn : s.turn = { s with
              state := { s.state with eventfd := some 0 }, worker := .installed } := by
            simp only [ShutdownSystem.turn, hworker, hruntime]
          rw [hturn]
          exact { h with
            noted := by
              intro runtime n hn
              cases runtime with
              | readiness => exact h.noted .readiness n hn
              | ioUring => cases hn
            requesting := fun _ hrequesting => by cases hrequesting
            draining := fun hdraining => by cases hdraining
            installed := fun _ => ⟨0, by rw [hruntime]; rfl⟩
            read := fun hread => ⟨(h.read hread).1, by simp⟩
            heard := fun hwaiting => by cases hwaiting }
  | installed =>
      have hthere := h.installed (by rw [hworker]; simp)
      by_cases hrequested : s.state.requested = true
      · have hturn : s.turn = { s with worker := .requesting .storing } := by
          simp only [ShutdownSystem.turn, hworker, hrequested, if_true]
        rw [hturn]
        exact .of_requested hrequested (fun _ => hthere) (by simp)
      · have hturn : s.turn = { s with worker := .checking } := by
          simp only [ShutdownSystem.turn, hworker, hrequested, if_false, Bool.false_eq_true]
        rw [hturn]
        exact { h with
          requesting := fun _ hrequesting => by cases hrequesting
          draining := fun hdraining => by cases hdraining
          installed := fun _ => hthere
          read := fun hread => ⟨(h.read hread).1, by simp⟩
          heard := fun hwaiting => by cases hwaiting }
  | requesting step =>
      have hrequested := h.requesting step hworker
      have hkept := ShutdownState.request_keeps step hrequested
      have hthere : ∃ n, (s.state.request step).2.notes s.runtime = some n := by
        obtain ⟨n, hn⟩ := h.installed (by rw [hworker]; simp)
        obtain ⟨m, -, hm⟩ := ShutdownState.request_notes step hn
        exact ⟨m, hm⟩
      have hturn : s.turn = { s with
          state := (s.state.request step).2
          worker := if (s.state.request step).1 = .done then .checking
            else .requesting (s.state.request step).1 } := by
        simp only [ShutdownSystem.turn, hworker]
      rw [hturn]
      refine .of_requested hkept (fun _ => hthere) ?_
      show (if _ then WorkerStep.checking else .requesting _) ≠ .waiting
      split_ifs <;> simp
  | checking =>
      have hthere := h.installed (by rw [hworker]; simp)
      by_cases hrequested : s.state.requested = true
      · have hturn : s.turn = { s with worker := .draining } := by
          simp only [ShutdownSystem.turn, hworker, hrequested, if_true]
        rw [hturn]
        exact .of_requested hrequested (fun _ => hthere) (by simp)
      · have hturn : s.turn = { s with worker := .waiting } := by
          simp only [ShutdownSystem.turn, hworker, hrequested, if_false, Bool.false_eq_true]
        rw [hturn]
        exact { h with
          requesting := fun _ hrequesting => by cases hrequesting
          draining := fun hdraining => by cases hdraining
          installed := fun _ => hthere
          read := fun hread => absurd (h.read hread).1 hrequested
          heard := fun _ hset => absurd hset hrequested }
  | waiting =>
      obtain ⟨n, hn⟩ := h.installed (by rw [hworker]; simp)
      have hreading : s.reading = true := by
        by_contra hread
        exact (h.read (by simpa using hread)).2 hworker
      cases n with
      | zero =>
          have hturn : s.turn = s := by
            cases hruntime : s.runtime <;> rw [hruntime] at hn <;>
              simp only [ShutdownSystem.turn, hworker, hruntime, hn]
          rw [hturn]
          exact h
      | succ n =>
          have hrequested := h.noted s.runtime n hn
          cases hruntime : s.runtime with
          | readiness =>
              rw [hruntime] at hn
              have hturn : s.turn = { s with
                  state := { s.state with waker := some 0 }, worker := .checking } := by
                simp only [ShutdownSystem.turn, hworker, hruntime, hn]
              rw [hturn]
              exact .of_requested hrequested (fun _ => ⟨0, by rw [hruntime]; rfl⟩) (by simp)
          | ioUring =>
              rw [hruntime] at hn
              have hturn : s.turn = { s with
                  state := { s.state with eventfd := some 0 }, reading := false
                  worker := .requesting .storing } := by
                simp only [ShutdownSystem.turn, hworker, hruntime, hn, hreading, if_true]
              rw [hturn]
              exact .of_requested hrequested (fun _ => ⟨0, by rw [hruntime]; rfl⟩) (by simp)
  | draining =>
      have hturn : s.turn = s := by simp only [ShutdownSystem.turn, hworker]
      rw [hturn]
      exact h

/-- **Every event keeps the invariant.** -/
theorem ShutdownSystem.Sound.step {event : ShutdownEvent} (h : s.Sound) : (s.step event).Sound := by
  cases event with
  | call =>
      exact { h with
        stored := by
          intro step hmem hne
          rcases List.mem_append.mp hmem with hmem | hmem
          · exact h.stored step hmem hne
          · exact absurd (List.mem_singleton.mp hmem) hne
        heard := by
          intro hwaiting hrequested
          obtain hnotified | ⟨i, step, hstep, hwill⟩ := h.heard hwaiting hrequested
          · exact .inl hnotified
          · refine .inr ⟨i, step, ?_, hwill⟩
            show (s.requests ++ [_])[i]? = some step
            rw [List.getElem?_append_left (List.getElem?_eq_some_iff.mp hstep).1]
            exact hstep }
  | request index =>
      unfold ShutdownSystem.step
      dsimp only
      split
      · exact h
      next step hstep => exact h.request hstep
  | worker => exact h.turn
  | other =>
      unfold ShutdownSystem.step
      dsimp only
      split_ifs with hwaiting
      · exact { h with
          requesting := fun _ hrequesting => by cases hrequesting
          draining := fun hdraining => by cases hdraining
          installed := fun _ => h.installed (by rw [hwaiting]; simp)
          read := fun hread => ⟨(h.read hread).1, by simp⟩
          heard := fun hwaiting => by cases hwaiting }
      · exact h

theorem ShutdownSystem.Sound.run (h : s.Sound) (events : List ShutdownEvent) :
    (s.run events).Sound := by
  induction events generalizing s with
  | nil => exact h
  | cons event events ih => exact ih h.step

/-! ## §4. A worker that was told. -/

/-- The turns to the start of the drain, at most. -/
def WorkerStep.turnsLeft : WorkerStep → Nat
  | .starting => 6
  | .installed | .waiting => 5
  | .requesting .storing => 4
  | .requesting .waking => 3
  | .requesting _ => 2
  | .checking => 1
  | .draining => 0

theorem WorkerStep.turnsLeft_le (step : WorkerStep) : step.turnsLeft ≤ 6 := by
  cases step with
  | requesting step => cases step <;> simp [WorkerStep.turnsLeft]
  | _ => simp [WorkerStep.turnsLeft]

/-- The flag is stored, and a worker that waits is notified. -/
structure ShutdownSystem.Told (s : ShutdownSystem) : Prop where
  requested : s.state.requested = true
  notified : s.worker = .waiting → s.Notified

/-- A turn brings the worker closer to its drain. -/
theorem ShutdownSystem.Told.turn (h : s.Told) :
    s.turn.Told ∧ s.turn.worker.turnsLeft ≤ s.worker.turnsLeft - 1 := by
  have hrequested := h.requested
  cases hworker : s.worker with
  | starting =>
      cases hruntime : s.runtime <;> simp only [ShutdownSystem.turn, hworker, hruntime]
      · exact ⟨⟨hrequested, fun hwaiting => by cases hwaiting⟩, by simp [WorkerStep.turnsLeft]⟩
      · exact ⟨⟨hrequested, fun hwaiting => by cases hwaiting⟩, by simp [WorkerStep.turnsLeft]⟩
  | installed =>
      simp only [ShutdownSystem.turn, hworker, hrequested, if_true]
      exact ⟨⟨hrequested, fun hwaiting => by cases hwaiting⟩, by simp [WorkerStep.turnsLeft]⟩
  | requesting step =>
      simp only [ShutdownSystem.turn, hworker]
      refine ⟨⟨ShutdownState.request_keeps step hrequested, ?_⟩, ?_⟩
      · intro hwaiting
        have hnot : (if (s.state.request step).1 = .done then WorkerStep.checking
            else .requesting (s.state.request step).1) ≠ .waiting := by
          split_ifs <;> simp
        exact absurd hwaiting hnot
      · cases step <;> simp [WorkerStep.turnsLeft, ShutdownState.request]
  | checking =>
      simp only [ShutdownSystem.turn, hworker, hrequested, if_true]
      exact ⟨⟨hrequested, fun hwaiting => by cases hwaiting⟩, by simp [WorkerStep.turnsLeft]⟩
  | waiting =>
      obtain ⟨hreading, n, hn⟩ := h.notified hworker
      cases hruntime : s.runtime <;> rw [hruntime] at hn <;>
        simp only [ShutdownSystem.turn, hworker, hruntime, hn, hreading, if_true]
      · exact ⟨⟨hrequested, fun hwaiting => by cases hwaiting⟩, by simp [WorkerStep.turnsLeft]⟩
      · exact ⟨⟨hrequested, fun hwaiting => by cases hwaiting⟩, by simp [WorkerStep.turnsLeft]⟩
  | draining =>
      simp only [ShutdownSystem.turn, hworker]
      exact ⟨h, Nat.zero_le _⟩

/-- No event takes it away again. -/
theorem ShutdownSystem.Told.step {event : ShutdownEvent} (h : s.Told) :
    (s.step event).Told ∧ (s.step event).worker.turnsLeft
      ≤ s.worker.turnsLeft - (if event = .worker then 1 else 0) := by
  cases event with
  | call => exact ⟨⟨h.requested, h.notified⟩, Nat.le_refl _⟩
  | request index =>
      unfold ShutdownSystem.step
      dsimp only
      split
      · exact ⟨h, Nat.le_refl _⟩
      next step hstep =>
        refine ⟨⟨ShutdownState.request_keeps step h.requested, ?_⟩, Nat.le_refl _⟩
        intro hwaiting
        obtain ⟨hreading, n, hn⟩ := h.notified hwaiting
        obtain ⟨m, hle, hm⟩ := ShutdownState.request_notes step hn
        obtain ⟨k, rfl⟩ := Nat.exists_eq_add_of_le hle
        refine ⟨hreading, n + k, ?_⟩
        rw [show n + k + 1 = n + 1 + k by omega]
        exact hm
  | worker => exact h.turn
  | other =>
      unfold ShutdownSystem.step
      dsimp only
      by_cases hwaiting : s.worker = .waiting
      · rw [if_pos hwaiting]
        refine ⟨⟨h.requested, fun hwaiting => by cases hwaiting⟩, ?_⟩
        rw [hwaiting]
        show 1 ≤ 5 - 0
        omega
      · rw [if_neg hwaiting]
        exact ⟨h, Nat.le_refl _⟩

theorem ShutdownSystem.Told.run (h : s.Told) (events : List ShutdownEvent) :
    (s.run events).worker.turnsLeft ≤ s.worker.turnsLeft - events.count .worker := by
  induction events generalizing s with
  | nil => exact Nat.le_refl _
  | cons event events ih =>
      obtain ⟨htold, hfirst⟩ : (s.step event).Told ∧ _ := h.step
      have hlater := ih htold
      show (ShutdownSystem.run events (s.step event)).worker.turnsLeft ≤ _
      rw [List.count_cons]
      by_cases hevent : event = .worker
      · rw [if_pos hevent] at hfirst
        rw [hevent, beq_self_eq_true, if_pos rfl]
        rw [hevent] at hfirst hlater
        omega
      · rw [if_neg hevent] at hfirst
        rw [beq_false_of_ne hevent, if_neg Bool.false_ne_true]
        omega

end Steps

end Thwip
