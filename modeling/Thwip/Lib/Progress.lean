/-
  Thwip.Lib.Progress — goals that one party of a system reaches by itself.

  A system takes events in any order, and some of them are the turns of one party.  The
  party makes progress when each of its turns reaches the goal or leaves fewer turns, and no
  other event leaves more.  `reaches_of_progress` is the rule: enough turns reach the goal,
  whatever is taken between them.
-/
import Mathlib.Data.List.Basic
import Thwip.Lib.Execution

namespace Thwip.Lib

variable {State Event Failure : Type*} {step : Event → State → Except Failure State}
  {meets : State → Event → Bool} {s s' : State} {events : List Event}
  {result : Except Failure State}

/-- Take these events until one of them fails; `none` when one does not meet the condition. -/
def runUntil (step : Event → State → Except Failure State) (meets : State → Event → Bool) :
    List Event → State → Option (Except Failure State)
  | [], s => some (.ok s)
  | event :: events, s =>
      if meets s event then
        match step event s with
        | .error failure => some (.error failure)
        | .ok s => runUntil step meets events s
      else none

/-- At one time in the run the goal is reached. -/
def Reaches (step : Event → State → Except Failure State) (meets : State → Event → Bool)
    (events : List Event) (s : State) (Goal : State → Prop) : Prop :=
  ∃ before after s', events = before ++ after
    ∧ runUntil step meets before s = some (.ok s') ∧ Goal s'

/-- The first of the events, and the rest of the run. -/
theorem runUntil_cons {event : Event}
    (h : runUntil step meets (event :: events) s = some result) :
    meets s event = true
      ∧ ((∃ failure, step event s = .error failure ∧ result = .error failure)
        ∨ ∃ s', step event s = .ok s' ∧ runUntil step meets events s' = some result) := by
  unfold runUntil at h
  split_ifs at h with hmeets
  refine ⟨hmeets, ?_⟩
  split at h
  next failure hstep =>
    injection h with h
    exact .inl ⟨failure, hstep, h.symm⟩
  next s' hstep => exact .inr ⟨s', hstep, h⟩

theorem Reaches.here {Goal : State → Prop} (h : Goal s) : Reaches step meets events s Goal :=
  ⟨[], events, s, rfl, rfl, h⟩

theorem Reaches.cons {Goal : State → Prop} {event : Event} (hmeets : meets s event = true)
    (hstep : step event s = .ok s') (h : Reaches step meets events s' Goal) :
    Reaches step meets (event :: events) s Goal := by
  obtain ⟨before, after, s₁, rfl, hrun, hgoal⟩ := h
  refine ⟨event :: before, after, s₁, rfl, ?_, hgoal⟩
  simp only [runUntil, hmeets, hstep, if_true, hrun]

/-- Each turn of the party brings it closer to its goal, and no other event takes it away;
this is so for events that are among those given. -/
structure Progress (step : Event → State → Except Failure State) (meets : State → Event → Bool)
    (Among : Event → Prop) (isTurn : Event → Bool) (Inv Goal : State → Prop)
    (Ends : Failure → Prop) (turnsLeft : State → Nat) : Prop where
  advances : ∀ s event s', Inv s → ¬ Goal s → Among event → meets s event = true →
    step event s = .ok s' →
    Goal s' ∨ Inv s' ∧ turnsLeft s' + (if isTurn event then 1 else 0) ≤ turnsLeft s
  fails : ∀ s event failure, Inv s → ¬ Goal s → Among event → meets s event = true →
    step event s = .error failure → Ends failure

/-- **Enough turns of the party reach its goal**, unless the run ends before. -/
theorem reaches_of_progress {Among : Event → Prop} {isTurn : Event → Bool}
    {Inv Goal : State → Prop} {Ends : Failure → Prop} {turnsLeft : State → Nat}
    (h : Progress step meets Among isTurn Inv Goal Ends turnsLeft) (hinv : Inv s)
    (hamong : ∀ event ∈ events, Among event)
    (hrun : runUntil step meets events s = some result)
    (hturns : turnsLeft s < events.countP isTurn) :
    Reaches step meets events s Goal ∨ ∃ failure, result = .error failure ∧ Ends failure := by
  induction events generalizing s with
  | nil => cases hturns
  | cons event events ih =>
      by_cases hgoal : Goal s
      · exact .inl (.here hgoal)
      obtain ⟨hfirst, hlater⟩ := List.forall_mem_cons.mp hamong
      obtain ⟨hmeets, ⟨failure, hstep, hresult⟩ | ⟨s', hstep, hrest⟩⟩ := runUntil_cons hrun
      · exact .inr ⟨failure, hresult, h.fails s event failure hinv hgoal hfirst hmeets hstep⟩
      obtain hreached | ⟨hinv', hless⟩ := h.advances s event s' hinv hgoal hfirst hmeets hstep
      · exact .inl (.cons hmeets hstep (.here hreached))
      · rw [List.countP_cons] at hturns
        exact (ih hinv' hlater hrest (by omega)).imp_left (.cons hmeets hstep)

end Thwip.Lib
