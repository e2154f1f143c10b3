/-
  Thwip.Lib.Trace — what holds at every point of a trace.

  `Throughout P trace` says of every element of a list that `P` holds of what was
  before it and of the element.  A trace that grows at its end keeps the property
  as long as each new element has it.
-/
import Mathlib.Data.List.Basic

namespace Thwip.Lib

variable {α β : Type*} {P Q : List α → α → Prop} {trace : List α}

def Throughout (P : List α → α → Prop) (trace : List α) : Prop :=
  ∀ before a after, trace = before ++ a :: after → P before a

theorem throughout_nil : Throughout P [] := by
  intro before a after h
  simp at h

/-- A trace that grows by elements with the property keeps it. -/
theorem Throughout.append {acts : List α} (h : Throughout P trace)
    (hacts : ∀ before a after, acts = before ++ a :: after → P (trace ++ before) a) :
    Throughout P (trace ++ acts) := by
  intro before a after heq
  rcases List.append_eq_append_iff.mp heq with ⟨middle, hbefore, hafter⟩ | ⟨middle, hbefore, hafter⟩
  · rw [hbefore]
    exact hacts middle a after hafter
  · -- the element lies in the old trace, or is the first of the new ones
    cases middle with
    | nil =>
        rw [List.append_nil] at hbefore
        rw [← hbefore, ← List.append_nil trace]
        exact hacts [] a after hafter.symm
    | cons b middle =>
        rw [List.cons_append] at hafter
        injection hafter with hab _
        subst hab
        exact h before a middle hbefore

theorem Throughout.concat {a : α} (h : Throughout P trace) (ha : P trace a) :
    Throughout P (trace ++ [a]) := by
  refine h.append ?_
  intro before b after heq
  cases before with
  | nil =>
      injection heq with heq _
      rw [List.append_nil, ← heq]
      exact ha
  | cons x before => simp at heq

end Thwip.Lib
