/-
  Thwip.Lib.Pipe — a thread that sends through a bounded channel.

  The producer is a program of its own steps and sends.  A send waits while the channel
  is full, and is refused once the receiver is gone.  The receiver only polls.  Seen
  from its side the producer is a list: the messages that are still to come, each of
  them, or the end, there or not there yet.
-/
import Mathlib.Data.List.Basic

namespace Thwip.Lib

variable {P α : Type*}

/-! ## §1. Programs. -/

/-- What a producer does next. -/
inductive Produces (P α : Type*) where
  | works (next : P)
  /-- The message is sent; the producer goes on in one of two ways. -/
  | sends (message : α) (taken refused : P)
  /-- The sending end is dropped. -/
  | stops

/-- `script p` is what a producer in `p` sends to a receiver that takes everything. -/
structure Script (program : P → Produces P α) (script : P → List α) : Prop where
  works : ∀ {p next}, program p = .works next → script p = script next
  sends : ∀ {p message taken refused}, program p = .sends message taken refused →
    script p = message :: script taken
  stops : ∀ {p}, program p = .stops → script p = []

/-- Every step of a producer without a receiver brings it closer to its end. -/
structure EndsAlone (program : P → Produces P α) (steps : P → Nat) : Prop where
  works : ∀ {p next}, program p = .works next → steps next < steps p
  refused : ∀ {p message taken refused}, program p = .sends message taken refused →
    steps refused < steps p

/-- So does every step of one with a receiver. -/
structure Ends (program : P → Produces P α) (steps : P → Nat) : Prop
    extends EndsAlone program steps where
  taken : ∀ {p message taken refused}, program p = .sends message taken refused →
    steps taken < steps p

def Produces.isStop : Produces P α → Bool
  | .stops => true
  | _ => false

/-! ## §2. The channel. -/

/-- The answer to a poll. -/
inductive Polled (α : Type*) where
  | message (message : α)
  | empty
  | disconnected
  deriving Repr, DecidableEq

structure Pipe (P α : Type*) where
  producer : P
  buffer : List α
  /-- The receiving end is there. -/
  receiver : Bool
  /-- What the polls were answered so far. -/
  answers : List (Polled α)

inductive PipeEvent where
  /-- The producer is scheduled. -/
  | produce
  | tryReceive
  /-- The receiving end is dropped. -/
  | hangUp
  deriving Repr, DecidableEq

/-- A new thread and its channel. -/
def Pipe.spawn (p : P) : Pipe P α := { producer := p, buffer := [], receiver := true, answers := [] }

/-- One step of the producer; `none` when it has none, or waits for room. -/
def Pipe.produce (program : P → Produces P α) (capacity : Nat) (self : Pipe P α) :
    Option (Pipe P α) :=
  match program self.producer with
  | .works next => some { self with producer := next }
  | .sends message taken refused =>
      if !self.receiver then some { self with producer := refused }
      else if self.buffer.length < capacity then
        some { self with producer := taken, buffer := self.buffer ++ [message] }
      else none
  | .stops => none

/-- The answer to a poll, and what is left in the channel. -/
def Pipe.poll (program : P → Produces P α) (self : Pipe P α) : Polled α × List α :=
  match self.buffer with
  | message :: rest => (.message message, rest)
  | [] => (if (program self.producer).isStop then .disconnected else .empty, [])

/-- A producer that cannot step stays as it is. -/
def Pipe.step (program : P → Produces P α) (capacity : Nat) (self : Pipe P α) :
    PipeEvent → Pipe P α
  | .produce => (self.produce program capacity).getD self
  | .tryReceive =>
      if self.receiver then
        { self with buffer := (self.poll program).2, answers := self.answers ++ [(self.poll program).1] }
      else self
  | .hangUp => { self with receiver := false, buffer := [] }

def Pipe.run (program : P → Produces P α) (capacity : Nat) (events : List PipeEvent)
    (self : Pipe P α) : Pipe P α :=
  events.foldl (Pipe.step program capacity) self

/-! ## §3. The stream it is. -/

/-- A poll of the list of all messages to come, given whether the next is there. -/
def pollList (arrived : Bool) (rest : List α) : Polled α × List α :=
  if !arrived then (.empty, rest)
  else
    match rest with
    | [] => (.disconnected, [])
    | message :: rest => (.message message, rest)

/-- The answers to polls, one for each flag. -/
def listAnswers : List Bool → List α → List (Polled α)
  | [], _ => []
  | arrived :: later, rest =>
      (pollList arrived rest).1 :: listAnswers later (pollList arrived rest).2

/-- What is still to come. -/
def Pipe.rest (script : P → List α) (self : Pipe P α) : List α :=
  self.buffer ++ script self.producer

/-- The next message, or the end, is there. -/
def Pipe.arrived (program : P → Produces P α) (self : Pipe P α) : Bool :=
  !self.buffer.isEmpty || (program self.producer).isStop

/-- All messages that were received. -/
def received (answers : List (Polled α)) : List α :=
  answers.filterMap (fun answer =>
    match answer with
    | .message message => some message
    | _ => none)

section Runs

variable {program : P → Produces P α} {script : P → List α} {steps : P → Nat} {capacity : Nat}
  {s s' : Pipe P α} {p : P}

/-- What one step of the producer can do. -/
theorem Pipe.produce_cases (h : s.produce program capacity = some s') :
    (∃ next, program s.producer = .works next ∧ s' = { s with producer := next })
    ∨ (∃ message taken refused, program s.producer = .sends message taken refused
      ∧ s.receiver = false ∧ s' = { s with producer := refused })
    ∨ ∃ message taken refused, program s.producer = .sends message taken refused
      ∧ s.receiver = true ∧ s.buffer.length < capacity
      ∧ s' = { s with producer := taken, buffer := s.buffer ++ [message] } := by
  unfold Pipe.produce at h
  split at h
  next next hworks =>
    injection h with h
    exact .inl ⟨next, hworks, h.symm⟩
  next message taken refused hsends =>
    right
    split_ifs at h with hgone hroom
    · injection h with h
      exact .inl ⟨message, taken, refused, hsends, by simpa using hgone, h.symm⟩
    · injection h with h
      exact .inr ⟨message, taken, refused, hsends, by simpa using hgone, hroom, h.symm⟩
  · cases h

/-- A producer that cannot step has stopped, or finds the channel full. -/
theorem Pipe.produce_eq_none :
    s.produce program capacity = none
      ↔ program s.producer = .stops
        ∨ s.receiver = true ∧ capacity ≤ s.buffer.length
          ∧ ∃ message taken refused, program s.producer = .sends message taken refused := by
  unfold Pipe.produce
  constructor
  · intro h
    split at h
    · cases h
    next message taken refused hsends =>
      split_ifs at h with hgone hroom
      exact .inr ⟨by simpa using hgone, Nat.le_of_not_lt hroom, message, taken, refused, hsends⟩
    next hstops => exact .inl hstops
  · rintro (hstops | ⟨hreceiver, hfull, message, taken, refused, hsends⟩)
    · rw [hstops]
    · rw [hsends]
      dsimp only
      rw [hreceiver, Bool.not_true, if_neg Bool.false_ne_true, if_neg (Nat.not_lt.mpr hfull)]

/-- A scheduled producer takes its step, if it has one. -/
theorem Pipe.step_produce (program : P → Produces P α) (capacity : Nat) (s : Pipe P α) :
    s.step program capacity .produce = s
      ∨ s.produce program capacity = some (s.step program capacity .produce) := by
  show (s.produce program capacity).getD s = s ∨ _
  cases hproduce : s.produce program capacity with
  | none => exact .inl rfl
  | some s' =>
      right
      show some s' = some ((s.produce program capacity).getD s)
      rw [hproduce]
      rfl

/-- The producer sends nothing but its script, and loses nothing of it. -/
theorem Pipe.produce_rest (hscript : Script program script) (hreceiver : s.receiver = true)
    (h : s.produce program capacity = some s') :
    s'.receiver = true ∧ s'.answers = s.answers ∧ s'.rest script = s.rest script := by
  obtain ⟨next, hworks, rfl⟩ | ⟨_, _, _, -, hgone, -⟩ | ⟨message, taken, refused, hsends, -, -, rfl⟩ :=
    Pipe.produce_cases h
  · refine ⟨hreceiver, rfl, ?_⟩
    show s.buffer ++ script next = _
    rw [← hscript.works hworks]
    rfl
  · rw [hreceiver] at hgone
    cases hgone
  · refine ⟨hreceiver, rfl, ?_⟩
    show s.buffer ++ [message] ++ script taken = s.buffer ++ script s.producer
    rw [hscript.sends hsends, List.append_assoc]
    rfl

/-- **A poll of the channel is a poll of the list.** -/
theorem Pipe.poll_eq (hscript : Script program script) :
    (s.poll program).1 = (pollList (s.arrived program) (s.rest script)).1
      ∧ (s.poll program).2 ++ script s.producer
        = (pollList (s.arrived program) (s.rest script)).2 := by
  unfold Pipe.poll Pipe.arrived Pipe.rest pollList
  cases hbuffer : s.buffer with
  | cons message rest => simp
  | nil =>
      cases hnext : program s.producer with
      | stops => simp [Produces.isStop, hscript.stops hnext]
      | works | sends => simp [Produces.isStop]

theorem Pipe.step_gone (event : PipeEvent) (hgone : s.receiver = false) :
    (s.step program capacity event).receiver = false
      ∧ (s.step program capacity event).answers = s.answers := by
  cases event with
  | produce =>
      rcases Pipe.step_produce program capacity s with hsame | hproduce
      · rw [hsame]
        exact ⟨hgone, rfl⟩
      · obtain ⟨_, _, heq⟩ | ⟨_, _, _, -, -, heq⟩ | ⟨_, _, _, -, hreceiver, -⟩ :=
          Pipe.produce_cases hproduce
        · rw [heq]
          exact ⟨hgone, rfl⟩
        · rw [heq]
          exact ⟨hgone, rfl⟩
        · rw [hgone] at hreceiver
          cases hreceiver
  | tryReceive => simp [Pipe.step, hgone]
  | hangUp => exact ⟨rfl, rfl⟩

/-- Without a receiver nothing is answered any more. -/
theorem Pipe.run_gone (events : List PipeEvent) (hgone : s.receiver = false) :
    (s.run program capacity events).answers = s.answers := by
  induction events generalizing s with
  | nil => rfl
  | cons event events ih =>
      obtain ⟨hstill, hanswers⟩ := Pipe.step_gone event hgone
      exact (ih hstill).trans hanswers

/-- What every step keeps is kept by a run. -/
theorem Pipe.run_invariant (Inv : Pipe P α → Prop)
    (hkeeps : ∀ s event, Inv s → Inv (s.step program capacity event)) (events : List PipeEvent)
    (h : Inv s) : Inv (s.run program capacity events) := by
  induction events generalizing s with
  | nil => exact h
  | cons event events ih => exact ih (hkeeps s event h)

/-- A poll moves at most one message from the channel to the receiver. -/
theorem Pipe.step_tryReceive (hscript : Script program script) (hreceiver : s.receiver = true) :
    (s.step program capacity .tryReceive).answers
        = s.answers ++ [(pollList (s.arrived program) (s.rest script)).1]
      ∧ (s.step program capacity .tryReceive).rest script
        = (pollList (s.arrived program) (s.rest script)).2
      ∧ (s.step program capacity .tryReceive).receiver = true := by
  obtain ⟨hanswer, hleft⟩ := Pipe.poll_eq (s := s) hscript
  unfold Pipe.step
  rw [if_pos hreceiver, ← hanswer, ← hleft]
  exact ⟨rfl, rfl, hreceiver⟩

/-- **The receiver polls a list**: whatever the interleaving, its polls are answered as
those of the list of all messages to come, each of them there at some of the polls. -/
theorem Pipe.run_answers (hscript : Script program script) (events : List PipeEvent)
    (hreceiver : s.receiver = true) :
    ∃ arrivals, (s.run program capacity events).answers
      = s.answers ++ listAnswers arrivals (s.rest script) := by
  induction events generalizing s with
  | nil => exact ⟨[], (List.append_nil _).symm⟩
  | cons event events ih =>
      show ∃ arrivals, (Pipe.run program capacity events (s.step program capacity event)).answers = _
      cases event with
      | produce =>
          rcases Pipe.step_produce program capacity s with hsame | hproduce
          · rw [hsame]
            exact ih hreceiver
          · obtain ⟨hthere, hanswers, hrest⟩ := Pipe.produce_rest hscript hreceiver hproduce
            obtain ⟨arrivals, hrun⟩ := ih hthere
            exact ⟨arrivals, by rw [hrun, hanswers, hrest]⟩
      | tryReceive =>
          obtain ⟨hanswers, hrest, hthere⟩ :=
            Pipe.step_tryReceive hscript hreceiver
          obtain ⟨arrivals, hrun⟩ := ih hthere
          refine ⟨s.arrived program :: arrivals, ?_⟩
          rw [hrun, hanswers, hrest, List.append_assoc]
          rfl
      | hangUp =>
          refine ⟨[], ?_⟩
          rw [Pipe.run_gone events rfl]
          exact (List.append_nil _).symm

/-! ## §4. What the receiver gets. -/

theorem received_append (answers later : List (Polled α)) :
    received (answers ++ later) = received answers ++ received later :=
  List.filterMap_append

/-- What a poll takes is received. -/
theorem received_poll (arrived : Bool) (rest : List α) :
    received [(pollList arrived rest).1] ++ (pollList arrived rest).2 = rest := by
  unfold pollList
  cases arrived with
  | false => rfl
  | true => cases rest <;> rfl

/-- The messages of a list are received in order, each once. -/
theorem received_listAnswers (arrivals : List Bool) (rest : List α) :
    received (listAnswers arrivals rest) <+: rest := by
  induction arrivals generalizing rest with
  | nil => exact List.nil_prefix
  | cons arrived arrivals ih =>
      obtain ⟨later, hlater⟩ := ih (pollList arrived rest).2
      refine ⟨later, ?_⟩
      show received ([_] ++ listAnswers arrivals (pollList arrived rest).2) ++ later = rest
      rw [received_append, List.append_assoc, hlater, received_poll]

/-- The end is not reported before all of them have been received. -/
theorem received_before_end {arrivals : List Bool} {rest : List α}
    {before after : List (Polled α)}
    (h : listAnswers arrivals rest = before ++ .disconnected :: after) :
    received before = rest := by
  induction arrivals generalizing rest before with
  | nil => cases before <;> cases h
  | cons arrived arrivals ih =>
      have hcons : listAnswers (arrived :: arrivals) rest
          = (pollList arrived rest).1 :: listAnswers arrivals (pollList arrived rest).2 := rfl
      rw [hcons] at h
      cases before with
      | nil =>
          injection h with hanswer _
          cases arrived with
          | false => cases hanswer
          | true =>
              cases rest with
              | nil => rfl
              | cons message rest => cases hanswer
      | cons answer before =>
          injection h with hanswer hlater
          subst hanswer
          have hrest := ih hlater
          cases arrived with
          | false => exact hrest
          | true =>
              cases rest with
              | nil => exact hrest
              | cons message rest =>
                  show message :: received before = message :: rest
                  rw [hrest]
                  rfl

/-- Where the end is reported, all of them have been received. -/
theorem received_of_end {arrivals : List Bool} {rest : List α}
    (h : .disconnected ∈ listAnswers arrivals rest) :
    received (listAnswers arrivals rest) = rest := by
  obtain ⟨before, after, hsplit⟩ := List.append_of_mem h
  have hbefore := received_before_end hsplit
  -- nothing can come after the end
  have hlength := (received_listAnswers arrivals rest).length_le
  rw [hsplit, received_append, hbefore, List.length_append] at hlength
  rw [hsplit, received_append, hbefore, List.append_right_eq_self]
  exact List.eq_nil_of_length_eq_zero (by omega)

/-- **Each message is received or still to come**, as long as there is a receiver. -/
theorem Pipe.run_received (hscript : Script program script) (events : List PipeEvent)
    (hreceiver : (s.run program capacity events).receiver = true) :
    received (s.run program capacity events).answers ++ (s.run program capacity events).rest script
      = received s.answers ++ s.rest script := by
  refine Pipe.run_invariant (fun s' => s'.receiver = true →
    received s'.answers ++ s'.rest script = received s.answers ++ s.rest script)
    ?_ events (fun _ => rfl) hreceiver
  intro s' event ih hthere
  -- a step never brings the receiver back
  have hbefore : s'.receiver = true := by
    by_contra hgone
    rw [(Pipe.step_gone event (by simpa using hgone)).1] at hthere
    cases hthere
  rw [← ih hbefore]
  cases event with
  | produce =>
      rcases Pipe.step_produce program capacity s' with hsame | hproduce
      · rw [hsame]
      · obtain ⟨-, hanswers, hrest⟩ := Pipe.produce_rest hscript hbefore hproduce
        rw [hanswers, hrest]
  | tryReceive =>
      obtain ⟨hanswers, hrest, -⟩ := Pipe.step_tryReceive hscript hbefore
      rw [hanswers, hrest, received_append, List.append_assoc, received_poll]
  | hangUp => cases hthere

/-- No more is held in the channel than it has room for. -/
theorem Pipe.run_buffer_le (events : List PipeEvent) (h : s.buffer.length ≤ capacity) :
    (s.run program capacity events).buffer.length ≤ capacity := by
  refine Pipe.run_invariant (fun s => s.buffer.length ≤ capacity) ?_ events h
  intro s event h
  cases event with
  | produce =>
      rcases Pipe.step_produce program capacity s with hsame | hproduce
      · rw [hsame]
        exact h
      · obtain ⟨_, _, heq⟩ | ⟨_, _, _, -, -, heq⟩ | ⟨_, _, _, -, -, hroom, heq⟩ :=
          Pipe.produce_cases hproduce
        · rw [heq]
          exact h
        · rw [heq]
          exact h
        · rw [heq]
          show (s.buffer ++ [_]).length ≤ capacity
          rw [List.length_append, List.length_singleton]
          omega
  | tryReceive =>
      unfold Pipe.step
      split_ifs
      · show (s.poll program).2.length ≤ capacity
        unfold Pipe.poll
        split
        next message rest hbuffer =>
          rw [hbuffer, List.length_cons] at h
          exact Nat.le_of_succ_le h
        · exact Nat.zero_le _
      · exact h
  | hangUp => exact Nat.zero_le _

/-- Nothing is held for a receiver that is gone. -/
theorem Pipe.run_gone_empty (events : List PipeEvent) (h : s.receiver = false → s.buffer = []) :
    (s.run program capacity events).receiver = false →
      (s.run program capacity events).buffer = [] := by
  refine Pipe.run_invariant (fun s => s.receiver = false → s.buffer = []) ?_ events h
  intro s event h
  cases event with
  | produce =>
      rcases Pipe.step_produce program capacity s with hsame | hproduce
      · rw [hsame]
        exact h
      · obtain ⟨_, _, heq⟩ | ⟨_, _, _, -, -, heq⟩ | ⟨_, _, _, -, hreceiver, -, heq⟩ :=
          Pipe.produce_cases hproduce
        · rw [heq]
          exact h
        · rw [heq]
          exact h
        · rw [heq]
          intro hgone
          cases hreceiver.symm.trans hgone
  | tryReceive =>
      unfold Pipe.step
      split_ifs with hreceiver
      · intro hgone
        cases hreceiver.symm.trans hgone
      · exact h
  | hangUp => exact fun _ => rfl

/-- What is held in the channel is part of the script. -/
theorem Pipe.run_buffer_mem (hscript : Script program script) (events : List PipeEvent)
    {message : α} (hmem : message ∈ ((Pipe.spawn p).run program capacity events).buffer) :
    message ∈ script p := by
  by_cases hreceiver : ((Pipe.spawn p).run program capacity events).receiver = true
  · have hsplit := Pipe.run_received hscript events hreceiver
    have hall : received (Pipe.spawn p : Pipe P α).answers ++ (Pipe.spawn p).rest script
        = script p := rfl
    rw [hall] at hsplit
    rw [← hsplit]
    exact List.mem_append_right _ (List.mem_append_left _ hmem)
  · have hempty : ((Pipe.spawn p).run program capacity events).buffer = [] := by
      apply Pipe.run_gone_empty events
      · exact fun _ => rfl
      · simpa using hreceiver
    rw [hempty] at hmem
    cases hmem

/-- How many of these events are steps of the producer. -/
def Pipe.stepsTaken (program : P → Produces P α) (capacity : Nat) :
    List PipeEvent → Pipe P α → Nat
  | [], _ => 0
  | event :: events, self =>
      (if event = .produce ∧ (self.produce program capacity).isSome then 1 else 0)
        + Pipe.stepsTaken program capacity events (self.step program capacity event)

/-- Only a step of the producer moves it. -/
theorem Pipe.step_producer {event : PipeEvent}
    (h : ¬ (event = .produce ∧ (s.produce program capacity).isSome)) :
    (s.step program capacity event).producer = s.producer := by
  cases event with
  | produce =>
      show ((s.produce program capacity).getD s).producer = _
      cases hproduce : s.produce program capacity with
      | none => rfl
      | some s' => exact absurd ⟨rfl, by rw [hproduce]; rfl⟩ h
  | tryReceive =>
      unfold Pipe.step
      split_ifs <;> rfl
  | hangUp => rfl

/-- A measure that every step of the producer lowers bounds their number. -/
theorem Pipe.run_steps (Inv : Pipe P α → Prop)
    (hkeeps : ∀ s event, Inv s → Inv (s.step program capacity event))
    (hless : ∀ s s', Inv s → s.produce program capacity = some s' →
      steps s'.producer < steps s.producer) (events : List PipeEvent) (h : Inv s) :
    s.stepsTaken program capacity events + steps (s.run program capacity events).producer
      ≤ steps s.producer := by
  induction events generalizing s with
  | nil => exact Nat.le_of_eq (Nat.zero_add _)
  | cons event events ih =>
      have hlater := ih (hkeeps s event h)
      show (if _ then 1 else 0) + Pipe.stepsTaken program capacity events _
        + steps (Pipe.run program capacity events _).producer ≤ _
      split_ifs with hmoves
      · obtain ⟨rfl, hsome⟩ := hmoves
        obtain ⟨s', hproduce⟩ := Option.isSome_iff_exists.mp hsome
        have hstep : s.step program capacity .produce = s' := by
          show (s.produce program capacity).getD s = s'
          rw [hproduce]
          rfl
        have hlower := hless s s' h hproduce
        rw [hstep] at hlater ⊢
        omega
      · rw [Pipe.step_producer hmoves] at hlater
        omega

/-- **The producer ends**: it takes no more steps than it has. -/
theorem Pipe.run_ends (hends : Ends program steps) (events : List PipeEvent) :
    s.stepsTaken program capacity events + steps (s.run program capacity events).producer
      ≤ steps s.producer := by
  refine Pipe.run_steps (fun _ => True) (fun _ _ _ => trivial) ?_ events trivial
  intro s s' _ hproduce
  obtain ⟨_, hworks, rfl⟩ | ⟨_, _, _, hsends, -, rfl⟩ | ⟨_, _, _, hsends, -, -, rfl⟩ :=
    Pipe.produce_cases hproduce
  · exact hends.works hworks
  · exact hends.refused hsends
  · exact hends.taken hsends

/-- A producer whose receiver is gone ends as well. -/
theorem Pipe.run_ends_alone (hends : EndsAlone program steps) (events : List PipeEvent)
    (hgone : s.receiver = false) :
    s.stepsTaken program capacity events + steps (s.run program capacity events).producer
      ≤ steps s.producer := by
  refine Pipe.run_steps (fun s => s.receiver = false)
    (fun s event h => (Pipe.step_gone event h).1) ?_ events hgone
  intro s s' hgone hproduce
  obtain ⟨_, hworks, rfl⟩ | ⟨_, _, _, hsends, -, rfl⟩ | ⟨_, _, _, -, hreceiver, -⟩ :=
    Pipe.produce_cases hproduce
  · exact hends.works hworks
  · exact hends.refused hsends
  · rw [hgone] at hreceiver
    cases hreceiver

/-- A receiver that keeps polling is not kept waiting: with nothing in the channel the
producer has a step, or has sent everything. -/
theorem Pipe.produce_of_empty (hscript : Script program script) (hcapacity : 0 < capacity)
    (hempty : s.buffer = []) (hstuck : s.produce program capacity = none) :
    s.arrived program = true ∧ s.rest script = [] := by
  rcases Pipe.produce_eq_none.mp hstuck with hstops | ⟨-, hfull, -⟩
  · refine ⟨?_, ?_⟩
    · simp [Pipe.arrived, hstops, Produces.isStop]
    · simp [Pipe.rest, hempty, hscript.stops hstops]
  · rw [hempty, List.length_nil] at hfull
    omega

end Runs

end Thwip.Lib
