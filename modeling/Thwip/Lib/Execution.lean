/-
  Thwip.Lib.Execution — executions of a system whose steps can fail.

  A system is a set of states to start in and a step function.  An execution takes
  any events in any order, as long as each meets a condition on the state it is
  taken in.  `Execution.invariant` is the rule for what holds in every state, and
  `execution_of_replay` finds an execution by computing it.
-/
import Mathlib.Data.List.Basic

namespace Thwip.Lib

variable {State Event Failure : Type*}

/-- The states of the executions whose events all meet the condition. -/
inductive Execution (start : State → Prop) (step : Event → State → Except Failure State)
    (Meets : State → Event → Prop) : State → Prop where
  | start {s : State} (h : start s) : Execution start step Meets s
  | step {s s' : State} (event : Event) (h : Execution start step Meets s)
      (hmeets : Meets s event) (hstep : step event s = .ok s') : Execution start step Meets s'

variable {start : State → Prop} {step : Event → State → Except Failure State}
  {Meets : State → Event → Prop} {s s' : State}

/-- **What the start has and every step keeps holds in every state.** -/
theorem Execution.invariant {Inv : State → Prop} (hstart : ∀ s, start s → Inv s)
    (hstep : ∀ s event s', Inv s → Meets s event → step event s = .ok s' → Inv s')
    (h : Execution start step Meets s) : Inv s := by
  induction h with
  | start h => exact hstart _ h
  | step event _ hmeets hrun ih => exact hstep _ event _ ih hmeets hrun

/-- An execution under one condition is one under any weaker condition. -/
theorem Execution.mono {Meets' : State → Event → Prop}
    (hweaker : ∀ s event, Meets s event → Meets' s event) (h : Execution start step Meets s) :
    Execution start step Meets' s := by
  induction h with
  | start h => exact .start h
  | step event _ hmeets hrun ih => exact .step event ih (hweaker _ _ hmeets) hrun

/-! ## §1. Computed executions. -/

/-- Replay events that all meet the condition. -/
def replay (step : Event → State → Except Failure State) (meets : State → Event → Bool) :
    List Event → State → Option State
  | [], s => some s
  | event :: events, s =>
      if meets s event then
        match step event s with
        | .error _ => none
        | .ok s => replay step meets events s
      else none

theorem Execution.replay {meets : State → Event → Bool} :
    ∀ {events : List Event} {s s' : State},
      Execution start step (fun s event => meets s event = true) s →
      Lib.replay step meets events s = some s' →
      Execution start step (fun s event => meets s event = true) s'
  | [], s, s', h, hrun => by
      injection hrun with hrun
      exact hrun ▸ h
  | event :: events, s, s', h, hrun => by
      unfold Lib.replay at hrun
      split at hrun
      next hmeets =>
        split at hrun
        · cases hrun
        next s₁ hstep => exact (h.step event hmeets hstep).replay hrun
      · cases hrun

/-- A replay that ends in a state with the property is an execution that does. -/
theorem execution_of_replay {meets : State → Event → Bool} {events : List Event}
    {p : State → Bool} (hstart : start s) (h : (replay step meets events s).any p = true) :
    ∃ s', Execution start step (fun s event => meets s event = true) s' ∧ p s' = true := by
  rw [Option.any_eq_true] at h
  obtain ⟨s', hrun, hp⟩ := h
  exact ⟨s', (Execution.start hstart).replay hrun, hp⟩

end Thwip.Lib
