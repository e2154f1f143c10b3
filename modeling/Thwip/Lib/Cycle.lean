/-
  Thwip.Lib.Cycle — counters that run through `1 .. m` and start over.

  `0` is where such a counter starts and is never reached again.  The results are
  its orbit in closed form, its exact period, and that two positions of one orbit
  less than a period apart are different.
-/
import Mathlib.Data.Nat.ModEq
import Mathlib.Dynamics.PeriodicPts.Defs

namespace Thwip.Lib

variable {m n : Nat}

/-- The value after `n` of a counter with values `1 .. m`. -/
def cycleNext (m n : Nat) : Nat := if n < m then n + 1 else 1

theorem cycleNext_le (hm : 0 < m) (n : Nat) : cycleNext m n ≤ m := by
  unfold cycleNext
  split_ifs <;> omega

/-- The orbit of a value in range. -/
theorem cycleNext_iterate (hm : 0 < m) (hn : n < m) (k : Nat) :
    (cycleNext m)^[k] (n + 1) = (n + k) % m + 1 := by
  induction k with
  | zero =>
      show n + 1 = n % m + 1
      rw [Nat.mod_eq_of_lt hn]
  | succ k ih =>
      rw [Function.iterate_succ_apply', ih]
      have hlt : (n + k) % m < m := Nat.mod_lt _ hm
      have hstep : (n + (k + 1)) % m = ((n + k) % m + 1) % m := by
        rw [← Nat.add_assoc, Nat.mod_add_mod]
      unfold cycleNext
      split_ifs with hnext
      · rw [hstep, Nat.mod_eq_of_lt hnext]
      · -- the last value is followed by the first
        have hlast : (n + k) % m + 1 = m := by omega
        rw [hstep, hlast, Nat.mod_self]

/-- A value comes back after `k` steps exactly when `m` divides `k`. -/
theorem cycleNext_iterate_eq_iff (hm : 0 < m) (hpos : 0 < n) (hn : n ≤ m) (k : Nat) :
    (cycleNext m)^[k] n = n ↔ m ∣ k := by
  obtain ⟨i, rfl⟩ : ∃ i, n = i + 1 := ⟨n - 1, by omega⟩
  have hi : i < m := by omega
  rw [cycleNext_iterate hm hi, Nat.add_right_cancel_iff]
  constructor
  · intro h
    have hmod : (i + k) % m = (i + 0) % m := by
      rw [h, Nat.add_zero, Nat.mod_eq_of_lt hi]
    exact Nat.dvd_of_mod_eq_zero (Nat.ModEq.add_left_cancel' i hmod)
  · rintro ⟨q, rfl⟩
    rw [Nat.add_mul_mod_self_left, Nat.mod_eq_of_lt hi]

/-- **The period** of the counter. -/
theorem cycleNext_minimalPeriod (hm : 0 < m) (hpos : 0 < n) (hn : n ≤ m) :
    Function.minimalPeriod (cycleNext m) n = m := by
  refine Nat.dvd_antisymm ?_ ?_
  · rw [← Function.isPeriodicPt_iff_minimalPeriod_dvd]
    exact (cycleNext_iterate_eq_iff hm hpos hn m).mpr (Nat.dvd_refl m)
  · exact (cycleNext_iterate_eq_iff hm hpos hn _).mp
      (Function.isPeriodicPt_minimalPeriod (cycleNext m) n)

end Thwip.Lib
