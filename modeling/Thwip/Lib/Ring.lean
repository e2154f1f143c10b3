/-
  Thwip.Lib.Ring — rings of slots with free-running counters.

  A writer fills the slot at its counter, a reader empties the slot at its own; the slot of
  a counter is its remainder by the number of slots.  As long as the writer is not a whole
  ring ahead, what it fills is not in the window the reader has still to see.
-/
import Mathlib.Data.List.GetD
import Mathlib.Data.List.Range
import Mathlib.Data.Nat.ModEq

namespace Thwip.Lib

variable {α : Type*}

/-! ## §1. Slots. -/

/-- Counters less than a ring apart have different slots. -/
theorem slot_ne {n head i j : Nat} (hlt : i < j) (hj : j < n + i) :
    (head + i) % n ≠ (head + j) % n := by
  intro heq
  have hdvd : n ∣ head + j - (head + i) :=
    (Nat.modEq_iff_dvd' (by omega)).mp heq
  have hle : n ≤ head + j - (head + i) := Nat.le_of_dvd (by omega) hdvd
  omega

/-! ## §2. Windows. -/

/-- The slots of `count` counters from `head` on, oldest first. -/
def window (default : α) (slots : List α) (head count : Nat) : List α :=
  (List.range count).map (fun i => slots.getD ((head + i) % slots.length) default)

section Windows

variable (default : α) (slots : List α) (head count : Nat)

/-- The reader takes the oldest. -/
theorem window_succ : window default slots head (count + 1)
    = slots.getD (head % slots.length) default :: window default slots (head + 1) count := by
  unfold window
  rw [List.range_succ_eq_map, List.map_cons, List.map_map]
  congr 1
  apply List.map_congr_left
  intro i _
  show slots.getD ((head + (i + 1)) % slots.length) default = _
  rw [show head + (i + 1) = head + 1 + i by omega]

variable {default slots head count}

/-- **The writer adds one behind the others**, and changes none of them. -/
theorem window_set (hlt : count < slots.length) (x : α) :
    window default (slots.set ((head + count) % slots.length) x) head (count + 1)
      = window default slots head count ++ [x] := by
  unfold window
  rw [List.range_succ, List.map_append, List.length_set]
  have hslot : (head + count) % slots.length < slots.length := Nat.mod_lt _ (by omega)
  congr 1
  · apply List.map_congr_left
    intro i hi
    have hi : i < count := List.mem_range.mp hi
    have hne : (head + i) % slots.length ≠ (head + count) % slots.length :=
      slot_ne hi (by omega)
    rw [List.getD_eq_getElem?_getD, List.getElem?_set_ne (Ne.symm hne),
      ← List.getD_eq_getElem?_getD]
  · rw [List.map_singleton, List.getD_eq_getElem?_getD, List.getElem?_set_self hslot,
      Option.getD_some]

/-- Counters a multiple of the ring apart are the same. -/
theorem window_congr {head' : Nat} (h : head % slots.length = head' % slots.length) :
    window default slots head count = window default slots head' count := by
  unfold window
  apply List.map_congr_left
  intro i _
  rw [Nat.add_mod, h, ← Nat.add_mod]

end Windows

end Thwip.Lib
