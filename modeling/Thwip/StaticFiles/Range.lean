/-
  Thwip.StaticFiles.Range — which bytes of a file a `Range` header asks for
  (`parse_range` in `run/slave/src/static_files.rs`).

  The three forms of a single range are read from their two numbers.  Whatever the
  header says, a range that is found lies inside the file.
-/
import Thwip.Lib.Digits
import Thwip.Proxy.Upstream
import Thwip.StaticFiles

namespace Thwip

open Thwip.Lib

/-! ## §1. Ranges. -/

/-- The range between the two sides of the dash, before it is compared with the
file: a missing start asks for the last bytes, a missing end for all from the
start. -/
def rangeBounds (start last : Str) (length : Nat) : Except StaticError (Nat × Nat) :=
  if start.isEmpty then
    match parseUnsigned 64 last with
    | none => .error .badRequest
    | some suffix =>
        if suffix = 0 then .error .rangeNotSatisfiable
        else .ok (length - suffix, length - 1)
  else
    match parseUnsigned 64 start with
    | none => .error .badRequest
    | some start =>
        match if last.isEmpty then some (length - 1) else parseUnsigned 64 last with
        | none => .error .badRequest
        | some last => .ok (start, min last (length - 1))

/-- `length` is a `u64`. -/
def parseRange (value : Str) (length : Nat) : Except StaticError (Nat × Nat) :=
  match stripPrefix "bytes=".toList value with
  | none => .error .badRequest
  | some value =>
      if value.contains ',' || length = 0 then .error .rangeNotSatisfiable
      else
        match splitOnce '-' value with
        | none => .error .badRequest
        | some (start, last) =>
            match rangeBounds start last length with
            | .error error => .error error
            | .ok (start, last) =>
                if start ≥ length || start > last then .error .rangeNotSatisfiable
                else .ok (start, last)

/-! ## §2. A range lies in the file. -/

theorem rangeBounds_last {start last : Str} {length s e : Nat}
    (h : rangeBounds start last length = .ok (s, e)) : e ≤ length - 1 := by
  unfold rangeBounds at h
  split at h
  · split at h
    · cases h
    · split at h
      · cases h
      · injection h with h
        injection h with _ hlast
        omega
  · split at h
    · cases h
    · split at h
      · cases h
      · injection h with h
        injection h with _ hlast
        omega

/-- **A range that is found lies inside the file.** -/
theorem parseRange_bounds {value : Str} {length s e : Nat}
    (h : parseRange value length = .ok (s, e)) : s ≤ e ∧ e < length := by
  unfold parseRange at h
  split at h
  · cases h
  next value' _ =>
    split_ifs at h with hskip
    split at h
    · cases h
    next start last _ =>
      split at h
      · cases h
      next s' e' hbounds =>
        have hlast := rangeBounds_last hbounds
        split_ifs at h with hrefused
        injection h with h
        injection h with hs he
        simp only [Bool.or_eq_true, decide_eq_true_eq, not_or] at hskip hrefused
        omega

/-! ## §3. The forms of a range. -/

/-- What stands between the dash: digits, or nothing. -/
def Side (s : Str) : Prop := s = [] ∨ DigitText s

theorem Side.notMem {s : Str} (h : Side s) {c : Char} (hc : isAsciiDigit c.toNat = false) :
    c ∉ s := by
  rcases h with rfl | h
  · exact List.not_mem_nil
  · exact h.notMem hc

/-- A header with one dash between its sides is read from these. -/
theorem parseRange_sides {start last : Str} (hstart : Side start) (hlast : Side last)
    {length : Nat} {range : Nat × Nat} :
    parseRange ("bytes=".toList ++ start ++ '-' :: last) length = .ok range ↔
      0 < length ∧ rangeBounds start last length = .ok range ∧ range.1 < length
        ∧ range.1 ≤ range.2 := by
  have hstrip : stripPrefix "bytes=".toList ("bytes=".toList ++ start ++ '-' :: last)
      = some (start ++ '-' :: last) := by
    unfold stripPrefix
    rw [if_pos (List.isPrefixOf_iff_prefix.mpr ⟨start ++ '-' :: last, by simp⟩)]
    simp
  have hcomma : (start ++ '-' :: last).contains ',' = false := by
    rw [List.contains_eq_mem, decide_eq_false_iff_not]
    intro hmem
    rcases List.mem_append.mp hmem with hmem | hmem
    · exact hstart.notMem (by decide) hmem
    · rcases List.mem_cons.mp hmem with hdash | hmem
      · exact absurd hdash (by decide)
      · exact hlast.notMem (by decide) hmem
  have hsplit : splitOnce '-' (start ++ '-' :: last) = some (start, last) :=
    splitOnce_append last start (hstart.notMem (by decide))
  unfold parseRange
  rw [hstrip]
  dsimp only
  rw [hcomma, hsplit, Bool.false_or]
  by_cases hempty : length = 0
  · rw [if_pos (decide_eq_true hempty)]
    constructor
    · intro h
      cases h
    · rintro ⟨hpos, -⟩
      omega
  rw [if_neg (by simpa using hempty)]
  dsimp only
  cases hbounds : rangeBounds start last length with
  | error error =>
      constructor
      · intro h
        cases h
      · rintro ⟨-, h, -⟩
        cases h
  | ok found =>
      obtain ⟨s, e⟩ := found
      dsimp only
      by_cases hinside : s < length ∧ s ≤ e
      · rw [if_neg (by
          rw [Bool.or_eq_true, decide_eq_true_eq, decide_eq_true_eq]
          omega)]
        constructor
        · intro h
          injection h with h
          rw [← h]
          exact ⟨Nat.pos_of_ne_zero hempty, rfl, hinside⟩
        · rintro ⟨-, h, -⟩
          exact h
      · rw [if_pos (by
          rw [Bool.or_eq_true, decide_eq_true_eq, decide_eq_true_eq]
          omega)]
        constructor
        · intro h
          cases h
        · rintro ⟨-, h, hrange⟩
          injection h with h
          rw [← h] at hrange
          exact absurd hrange hinside

variable {start last : Str} {length : Nat} {range : Nat × Nat}

/-- `bytes=a-b` -/
theorem parseRange_closed (hstart : DigitText start) (hlast : DigitText last)
    (hs : decimal start < 2 ^ 64) (he : decimal last < 2 ^ 64) :
    parseRange ("bytes=".toList ++ start ++ '-' :: last) length = .ok range ↔
      (decimal start ≤ decimal last ∧ decimal start < length)
        ∧ range = (decimal start, min (decimal last) (length - 1)) := by
  have hbounds : rangeBounds start last length
      = .ok (decimal start, min (decimal last) (length - 1)) := by
    unfold rangeBounds
    rw [if_neg (by simpa using hstart.ne_nil), parseUnsigned_digitText hstart, if_pos hs]
    dsimp only
    rw [if_neg (by simpa using hlast.ne_nil), parseUnsigned_digitText hlast, if_pos he]
  rw [parseRange_sides (.inr hstart) (.inr hlast), hbounds]
  constructor
  · rintro ⟨hpos, hrange, hlt, hle⟩
    injection hrange with hrange
    rw [← hrange] at hlt hle ⊢
    exact ⟨by omega, rfl⟩
  · rintro ⟨hinside, rfl⟩
    exact ⟨by omega, rfl, hinside.2, by show decimal start ≤ _; omega⟩

/-- `bytes=a-` -/
theorem parseRange_from (hstart : DigitText start) (hs : decimal start < 2 ^ 64) :
    parseRange ("bytes=".toList ++ start ++ "-".toList) length = .ok range ↔
      decimal start < length ∧ range = (decimal start, length - 1) := by
  have hbounds : rangeBounds start [] length = .ok (decimal start, length - 1) := by
    unfold rangeBounds
    rw [if_neg (by simpa using hstart.ne_nil), parseUnsigned_digitText hstart, if_pos hs]
    dsimp only
    rw [if_pos List.isEmpty_nil]
    dsimp only
    rw [Nat.min_self]
  rw [show "-".toList = '-' :: [] from rfl, parseRange_sides (.inr hstart) (.inl rfl), hbounds]
  constructor
  · rintro ⟨hpos, hrange, hlt, hle⟩
    injection hrange with hrange
    rw [← hrange] at hlt ⊢
    exact ⟨hlt, rfl⟩
  · rintro ⟨hinside, rfl⟩
    exact ⟨by omega, rfl, hinside, by show decimal start ≤ _; omega⟩

/-- `bytes=-n` -/
theorem parseRange_suffix (hlast : DigitText last) (hn : decimal last < 2 ^ 64) :
    parseRange ("bytes=-".toList ++ last) length = .ok range ↔
      (0 < decimal last ∧ 0 < length)
        ∧ range = (length - min (decimal last) length, length - 1) := by
  have hform : "bytes=-".toList ++ last = "bytes=".toList ++ [] ++ '-' :: last := by simp
  rw [hform, parseRange_sides (.inl rfl) (.inr hlast)]
  unfold rangeBounds
  rw [if_pos List.isEmpty_nil, parseUnsigned_digitText hlast, if_pos hn]
  dsimp only
  by_cases hzero : decimal last = 0
  · rw [if_pos hzero]
    constructor
    · rintro ⟨-, h, -⟩
      cases h
    · rintro ⟨⟨hpos, -⟩, -⟩
      omega
  · rw [if_neg hzero]
    have hsame : length - decimal last = length - min (decimal last) length := by omega
    constructor
    · rintro ⟨hpos, hrange, -⟩
      injection hrange with hrange
      rw [← hrange, hsame]
      exact ⟨⟨Nat.pos_of_ne_zero hzero, hpos⟩, rfl⟩
    · rintro ⟨⟨-, hpos⟩, rfl⟩
      refine ⟨hpos, by rw [hsame], ?_, ?_⟩
      · show length - min (decimal last) length < length
        omega
      · show length - min (decimal last) length ≤ length - 1
        omega

/-- **Ranges of a file**: a range that is found lies inside the file, so the length
of the response is at least one and at most the file's; and the three forms of a
single range ask for the bytes they name. -/
theorem ranges_of_a_file (length : Nat) :
    (∀ value s e, parseRange value length = .ok (s, e) →
        s ≤ e ∧ e < length ∧ e - s + 1 ≤ length)
      ∧ (∀ a b range, DigitText a → DigitText b → decimal a < 2 ^ 64 → decimal b < 2 ^ 64 →
          (parseRange ("bytes=".toList ++ a ++ '-' :: b) length = .ok range ↔
            (decimal a ≤ decimal b ∧ decimal a < length)
              ∧ range = (decimal a, min (decimal b) (length - 1))))
      ∧ (∀ a range, DigitText a → decimal a < 2 ^ 64 →
          (parseRange ("bytes=".toList ++ a ++ "-".toList) length = .ok range ↔
            decimal a < length ∧ range = (decimal a, length - 1)))
      ∧ ∀ n range, DigitText n → decimal n < 2 ^ 64 →
          (parseRange ("bytes=-".toList ++ n) length = .ok range ↔
            (0 < decimal n ∧ 0 < length)
              ∧ range = (length - min (decimal n) length, length - 1)) := by
  refine ⟨?_, ?_, ?_, ?_⟩
  · intro value s e h
    obtain ⟨hle, hlt⟩ := parseRange_bounds h
    exact ⟨hle, hlt, by omega⟩
  · intro a b range ha hb hsa hsb
    exact parseRange_closed ha hb hsa hsb
  · intro a range ha hsa
    exact parseRange_from ha hsa
  · intro n range hn hlt
    exact parseRange_suffix hn hlt

/-- Five bytes at the end of a file of three are the whole file. -/
example : parseRange "bytes=-5".toList 3 = .ok (0, 2) := by decide

end Thwip
