/-
  Thwip.Lib.Digits — texts of decimal digits.

  A non-empty text of digits is read as the number it denotes, whatever its
  leading zeros, if that number fits; no sign or separator is part of it.
-/
import Thwip.Lib.Text

namespace Thwip.Lib

variable {s : Str} {bits : Nat}

/-- A non-empty text of ASCII digits. -/
structure DigitText (s : Str) : Prop where
  ne_nil : s ≠ []
  digit : ∀ c ∈ s, isAsciiDigit c.toNat = true

theorem digitText_iff :
    (!s.isEmpty && s.all (fun c => isAsciiDigit c.toNat)) = true ↔ DigitText s := by
  rw [Bool.and_eq_true, Bool.not_eq_true', List.isEmpty_eq_false_iff, List.all_eq_true]
  exact ⟨fun h => ⟨h.1, h.2⟩, fun h => ⟨h.ne_nil, h.digit⟩⟩

instance (s : Str) : Decidable (DigitText s) :=
  decidable_of_iff ((!s.isEmpty && s.all (fun c => isAsciiDigit c.toNat)) = true) digitText_iff

theorem isAsciiDigit_ascii {n : Nat} (h : isAsciiDigit n = true) : n < 128 := by
  simp only [isAsciiDigit, Bool.and_eq_true, decide_eq_true_eq] at h
  omega

/-- The bytes of a text are digits just when its characters are. -/
theorem digitText_iff_bytes :
    DigitText s ↔ s ≠ [] ∧ ∀ byte ∈ asBytes s, isAsciiDigit byte.toNat = true := by
  constructor
  · intro h
    refine ⟨h.ne_nil, ?_⟩
    exact forall_byte_of_forall_char (P := fun n => isAsciiDigit n = true)
      (fun _ => isAsciiDigit_ascii) h.digit
  · rintro ⟨hne, hbytes⟩
    refine ⟨hne, ?_⟩
    exact forall_char_of_forall_byte (P := fun n => isAsciiDigit n = true)
      (fun _ => isAsciiDigit_ascii) hbytes

theorem DigitText.notMem (h : DigitText s) {c : Char} (hc : isAsciiDigit c.toNat = false) :
    c ∉ s := by
  intro hmem
  rw [h.digit c hmem] at hc
  cases hc

theorem DigitText.head_ne (h : DigitText s) {c : Char} (hc : isAsciiDigit c.toNat = false) :
    s.head? ≠ some c := by
  intro hhead
  exact h.notMem hc (List.mem_of_mem_head? hhead)

/-- **A text of digits is read as the number it denotes**, if that fits. -/
theorem parseUnsigned_digitText (h : DigitText s) :
    parseUnsigned bits s = if decimal s < 2 ^ bits then some (decimal s) else none := by
  have hall : s.all (fun c => isAsciiDigit c.toNat) = true := List.all_eq_true.mpr h.digit
  have hempty : s.isEmpty = false := by
    cases s with
    | nil => exact absurd rfl h.ne_nil
    | cons c s => rfl
  unfold parseUnsigned
  rw [if_neg (h.head_ne (by decide))]
  dsimp only
  rw [hempty, hall]
  rfl

end Thwip.Lib
