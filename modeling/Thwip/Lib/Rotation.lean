/-
  Thwip.Lib.Rotation — going round a list.

  `turn l i` is the element whose turn it is at step `i`.  Any window of as many
  consecutive steps as the list is long has every element exactly as often as the
  list does, wherever it starts.
-/
import Mathlib.Data.List.Rotate
import Mathlib.Data.Option.Basic

namespace Thwip.Lib

variable {α : Type*} {l : List α}

def turn (l : List α) (i : Nat) : Option α := l[i % l.length]?

/-- A window is the list, rotated. -/
theorem map_turn_window (l : List α) (start : Nat) :
    (List.range' start l.length).map (turn l) = (l.rotate start).map some := by
  refine List.ext_getElem (by simp) ?_
  intro i hi hi'
  have hlt : i < l.length := by simpa using hi
  rw [List.getElem_map, List.getElem_range', List.getElem_map, List.getElem_rotate, Nat.one_mul]
  unfold turn
  rw [List.getElem?_eq_getElem (Nat.mod_lt _ (by omega)), Nat.add_comm]

/-- **The share of an element in a window** is its share of the list. -/
theorem count_window [BEq α] {window : List α} (start : Nat)
    (h : ∀ i, i < l.length → window[i]? = turn l (start + i)) (hlen : window.length = l.length)
    (a : α) : window.count a = l.count a := by
  have hwindow : window.map some = (l.rotate start).map some := by
    rw [← map_turn_window]
    refine List.ext_getElem (by simp [hlen]) ?_
    intro i hi _
    have hlt : i < window.length := by simpa using hi
    rw [List.getElem_map, List.getElem_map, List.getElem_range', Nat.one_mul,
      ← h i (hlen ▸ hlt), List.getElem?_eq_getElem hlt]
  rw [List.map_injective_iff.mpr (Option.some_injective α) hwindow]
  exact (List.rotate_perm l start).count_eq a

/-- A list whose neighbours are equal is constant. -/
theorem eq_of_neighbours (h : ∀ i, i + 1 < l.length → l[i]? = l[i + 1]?) :
    ∀ a ∈ l, ∀ b ∈ l, a = b := by
  have hfirst : ∀ i, i < l.length → l[i]? = l[0]? := by
    intro i
    induction i with
    | zero => exact fun _ => rfl
    | succ i ih =>
        intro hi
        rw [← h i hi]
        exact ih (by omega)
  intro a ha b hb
  obtain ⟨i, hi, rfl⟩ := List.mem_iff_getElem.mp ha
  obtain ⟨j, hj, rfl⟩ := List.mem_iff_getElem.mp hb
  have heq := (hfirst i hi).trans (hfirst j hj).symm
  rw [List.getElem?_eq_getElem hi, List.getElem?_eq_getElem hj] at heq
  injection heq

end Thwip.Lib
