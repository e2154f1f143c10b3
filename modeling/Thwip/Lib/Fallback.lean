/-
  Thwip.Lib.Fallback — trying candidates one after the other.

  A list of candidates is tried from the front.  A candidate may be refused at
  once, and the next one is tried in its place; one that is not refused is under
  way until it fails or turns out good.  A `Course` is the record of this: the
  list, what has been tried of it, and what of that has failed.
-/
import Mathlib.Data.List.Basic

namespace Thwip.Lib

variable {α : Type}

/-! ## §1. Courses. -/

structure Course (α : Type) where
  candidates : List α
  /-- The attempts made so far, oldest first. -/
  tried : List α
  /-- Those of them that have failed. -/
  failed : List α
  deriving Repr, DecidableEq

namespace Course

variable {k : Course α} {a : α} {rest : List α} {refuses : α → Bool}

/-- Nothing has been tried yet. -/
def fresh (candidates : List α) : Course α := ⟨candidates, [], []⟩

/-- Each candidate is tried at most once, in the order of the list, and only when
all before it have failed. -/
structure Ordered (k : Course α) : Prop where
  tried : k.tried <+: k.candidates
  failed : k.failed <+: k.tried
  single : k.tried.length ≤ k.failed.length + 1

/-- Every candidate was tried and has failed. -/
def Exhausted (k : Course α) : Prop := k.failed = k.candidates

instance [DecidableEq α] (k : Course α) : Decidable k.Exhausted :=
  inferInstanceAs (Decidable (k.failed = k.candidates))

/-- All attempts so far have failed; `rest` is still to be tried. -/
structure Between (k : Course α) (rest : List α) : Prop where
  candidates : k.candidates = k.tried ++ rest
  failed : k.failed = k.tried

/-- The attempt at `a` is under way; `rest` is still to be tried. -/
structure Under (k : Course α) (a : α) (rest : List α) : Prop where
  candidates : k.candidates = k.tried ++ rest
  tried : k.tried = k.failed ++ [a]

theorem between_fresh (candidates : List α) : (fresh candidates).Between candidates := ⟨rfl, rfl⟩

theorem Between.ordered (h : k.Between rest) : k.Ordered := by
  refine ⟨?_, ?_, ?_⟩
  · rw [h.candidates]
    exact List.prefix_append _ _
  · exact ⟨[], by rw [List.append_nil, h.failed]⟩
  · have hlength : k.failed.length = k.tried.length := congrArg List.length h.failed
    omega

theorem Under.ordered (h : k.Under a rest) : k.Ordered := by
  refine ⟨?_, ?_, ?_⟩
  · rw [h.candidates]
    exact List.prefix_append _ _
  · rw [h.tried]
    exact List.prefix_append _ _
  · have hlength : k.tried.length = (k.failed ++ [a]).length := congrArg List.length h.tried
    rw [List.length_append, List.length_singleton] at hlength
    omega

theorem Between.exhausted (h : k.Between []) : k.Exhausted := by
  show k.failed = k.candidates
  rw [h.candidates, h.failed, List.append_nil]

/-! ## §2. Attempts. -/

/-- What a loop tries that goes on until a candidate is not refused. -/
def asked (refuses : α → Bool) : List α → List α
  | [] => []
  | a :: rest => if refuses a then a :: asked refuses rest else [a]

/-- Such a loop over `list`. -/
def attempt (refuses : α → Bool) (list : List α) (k : Course α) : Course α :=
  { k with
    tried := k.tried ++ asked refuses list
    failed := k.failed ++ (asked refuses list).filter refuses }

/-- The attempt under way fails. -/
def fail (k : Course α) : Course α := { k with failed := k.tried }

theorem Under.fail (h : k.Under a rest) : k.fail.Between rest := ⟨h.candidates, rfl⟩

theorem asked_refused (h : ∀ b ∈ rest, refuses b = true) : asked refuses rest = rest := by
  induction rest with
  | nil => rfl
  | cons b rest ih =>
      unfold asked
      rw [if_pos (h b List.mem_cons_self), ih (fun c hc => h c (List.mem_cons_of_mem _ hc))]

theorem asked_append (h : ∀ b ∈ rest, refuses b = true) (hgood : refuses a = false)
    (later : List α) : asked refuses (rest ++ a :: later) = rest ++ [a] := by
  induction rest with
  | nil =>
      show asked refuses (a :: later) = [a]
      unfold asked
      rw [hgood]
      rfl
  | cons b rest ih =>
      show asked refuses (b :: (rest ++ a :: later)) = b :: (rest ++ [a])
      unfold asked
      rw [if_pos (h b List.mem_cons_self), ih (fun c hc => h c (List.mem_cons_of_mem _ hc))]

/-- A loop that finds every candidate refused exhausts the course. -/
theorem Between.refused (h : k.Between rest) (hall : ∀ b ∈ rest, refuses b = true) :
    (k.attempt refuses rest).Between [] := by
  have hfilter : rest.filter refuses = rest := List.filter_eq_self.mpr hall
  refine ⟨?_, ?_⟩
  · show k.candidates = k.tried ++ asked refuses rest ++ []
    rw [asked_refused hall, List.append_nil, h.candidates]
  · show k.failed ++ (asked refuses rest).filter refuses = k.tried ++ asked refuses rest
    rw [asked_refused hall, hfilter, h.failed]

/-- A loop that finds a good candidate leaves the attempt at it under way. -/
theorem Between.found {before later : List α} (h : k.Between (before ++ a :: later))
    (hbefore : ∀ b ∈ before, refuses b = true) (hgood : refuses a = false) :
    (k.attempt refuses (before ++ a :: later)).Under a later := by
  have hfilter : before.filter refuses = before := List.filter_eq_self.mpr hbefore
  refine ⟨?_, ?_⟩
  · show k.candidates = k.tried ++ asked refuses (before ++ a :: later) ++ later
    rw [asked_append hbefore hgood, h.candidates]
    simp
  · show k.tried ++ asked refuses (before ++ a :: later)
      = k.failed ++ (asked refuses (before ++ a :: later)).filter refuses ++ [a]
    rw [asked_append hbefore hgood, List.filter_append, hfilter, List.filter_singleton, hgood,
      h.failed]
    simp

/-- One attempt, at the first candidate, that fails: the course is exhausted just
when there was no other. -/
theorem exhausted_first_iff {later : List α} (hk : k.candidates = a :: later)
    (hfailed : k.failed = [a]) : k.Exhausted ↔ k.candidates.length = 1 := by
  show k.failed = k.candidates ↔ _
  rw [hk, hfailed]
  cases later with
  | nil => simp
  | cons b later => simp

end Course

end Thwip.Lib
