/-
  Thwip.StaticFiles.Percent — percent-decoding is the inverse of every way to
  percent-encode (`percent_decode` in `run/slave/src/static_files.rs`).

  The source steps an index through the bytes, by three at an escape and by one
  elsewhere; `percentDecodeLoop` is that loop, with an access out of bounds as its
  `none`.  It never gets there, and computes what the recursion `percentDecode`
  does, for which the rest is proved.
-/
import Thwip.StaticFiles

namespace Thwip

open Thwip.Lib

/-! ## §1. The loop. -/

/-- The loop from `index` on; `none` is an access out of bounds. -/
def percentDecodeLoop (bytes : List UInt8) (index : Nat) (decoded : List UInt8) :
    Option (Except StaticError (List UInt8)) :=
  if index < bytes.length then
    match bytes[index]? with
    | none => none
    | some byte =>
        if byte = 0x25 then
          if index + 2 ≥ bytes.length then some (.error .badRequest)
          else
            match bytes[index + 1]? with
            | none => none
            | some first =>
                match hex first with
                | none => some (.error .badRequest)
                | some high =>
                    match bytes[index + 2]? with
                    | none => none
                    | some second =>
                        match hex second with
                        | none => some (.error .badRequest)
                        | some low =>
                            percentDecodeLoop bytes (index + 3) (decoded ++ [high <<< 4 ||| low])
        else percentDecodeLoop bytes (index + 1) (decoded ++ [byte])
  else some (.ok decoded)
termination_by bytes.length - index

/-! ## §2. One step. -/

def isHexDigit (byte : UInt8) : Bool :=
  (0x30 ≤ byte && byte ≤ 0x39) || (0x61 ≤ byte && byte ≤ 0x66) || (0x41 ≤ byte && byte ≤ 0x46)

theorem hex_isSome (byte : UInt8) : (hex byte).isSome = isHexDigit byte := by
  unfold hex isHexDigit
  split_ifs with hdigit hlower hupper
  · simp [hdigit]
  · simp [hlower]
  · simp [hupper]
  · simp only [Option.isSome_none]
    symm
    simp only [Bool.or_eq_false_iff, Bool.and_eq_false_iff, decide_eq_false_iff_not]
    tauto

/-- The text starts with two hexadecimal digits. -/
def startsWithHexPair : List UInt8 → Bool
  | first :: second :: _ => isHexDigit first && isHexDigit second
  | _ => false

theorem startsWithHexPair_iff {bytes : List UInt8} :
    startsWithHexPair bytes = true ↔ ∃ first second rest high low,
      bytes = first :: second :: rest ∧ hex first = some high ∧ hex second = some low := by
  unfold startsWithHexPair
  split
  next first second rest =>
    rw [Bool.and_eq_true, ← hex_isSome, ← hex_isSome, Option.isSome_iff_exists,
      Option.isSome_iff_exists]
    constructor
    · rintro ⟨⟨high, hhigh⟩, low, hlow⟩
      exact ⟨first, second, rest, high, low, rfl, hhigh, hlow⟩
    · rintro ⟨first', second', rest', high, low, heq, hhigh, hlow⟩
      injection heq with hfirst heq
      injection heq with hsecond heq
      exact ⟨⟨high, hfirst ▸ hhigh⟩, low, hsecond ▸ hlow⟩
  next hshort =>
    constructor
    · intro h
      cases h
    · rintro ⟨first, second, rest, high, low, rfl, -, -⟩
      exact absurd rfl (hshort first second rest)

theorem percentDecode_literal {byte : UInt8} (h : byte ≠ 0x25) (bytes : List UInt8) :
    percentDecode (byte :: bytes) = (percentDecode bytes).map (byte :: ·) := by
  rw [percentDecode.eq_def]
  dsimp only
  rw [if_neg h]
  cases percentDecode bytes with
  | error error => rfl
  | ok decoded => rfl

theorem percentDecode_escape {first second high low : UInt8} (hhigh : hex first = some high)
    (hlow : hex second = some low) (rest : List UInt8) :
    percentDecode (0x25 :: first :: second :: rest)
      = (percentDecode rest).map ((high <<< 4 ||| low) :: ·) := by
  rw [percentDecode.eq_def]
  dsimp only
  rw [if_pos rfl, hhigh, hlow]
  cases percentDecode rest with
  | error error => rfl
  | ok decoded => rfl

theorem percentDecode_bad {bytes : List UInt8} (h : startsWithHexPair bytes = false) :
    percentDecode (0x25 :: bytes) = .error .badRequest := by
  rw [percentDecode.eq_def]
  dsimp only
  rw [if_pos rfl]
  split
  next first second rest =>
    split
    next high low hhigh hlow =>
      have hpair : startsWithHexPair (first :: second :: rest) = true :=
        startsWithHexPair_iff.mpr ⟨first, second, rest, high, low, rfl, hhigh, hlow⟩
      rw [hpair] at h
      cases h
    · rfl
  · rfl

/-- **How the scan takes a text apart**: a byte for itself, an escape, or a percent
sign that is not one. -/
theorem scan_induction {P : List UInt8 → Prop} (nil : P [])
    (literal : ∀ byte bytes, byte ≠ 0x25 → P bytes → P (byte :: bytes))
    (escape : ∀ first second rest high low, hex first = some high → hex second = some low →
      P rest → P (0x25 :: first :: second :: rest))
    (bad : ∀ bytes, startsWithHexPair bytes = false → P (0x25 :: bytes)) (bytes : List UInt8) :
    P bytes := by
  induction hn : bytes.length using Nat.strong_induction_on generalizing bytes with
  | _ n ih =>
      cases bytes with
      | nil => exact nil
      | cons byte bytes =>
          by_cases hbyte : byte = 0x25
          · rw [hbyte]
            cases hpair : startsWithHexPair bytes with
            | false => exact bad bytes hpair
            | true =>
                obtain ⟨first, second, rest, high, low, rfl, hhigh, hlow⟩ :=
                  startsWithHexPair_iff.mp hpair
                refine escape first second rest high low hhigh hlow (ih rest.length ?_ rest rfl)
                simp only [List.length_cons] at hn
                omega
          · refine literal byte bytes hbyte (ih bytes.length ?_ bytes rfl)
            rw [List.length_cons] at hn
            omega

/-! ## §3. The loop computes the recursion. -/

theorem drop_eq_cons {α : Type*} {l rest : List α} {a : α} {i : Nat} (h : l.drop i = a :: rest) :
    l[i]? = some a ∧ l.drop (i + 1) = rest ∧ i < l.length := by
  have hhead : (l.drop i).head? = some a := by
    rw [h]
    rfl
  rw [List.head?_drop] at hhead
  refine ⟨hhead, ?_, ?_⟩
  · rw [← List.tail_drop, h]
    rfl
  · by_contra hge
    rw [List.drop_eq_nil_of_le (Nat.le_of_not_lt hge)] at h
    cases h

theorem exists_two_of_length {α : Type*} {l : List α} (h : 2 ≤ l.length) :
    ∃ a b rest, l = a :: b :: rest := by
  rcases l with - | ⟨a, - | ⟨b, rest⟩⟩
  · cases h
  · rw [List.length_singleton] at h
    omega
  · exact ⟨a, b, rest, rfl⟩

/-- From any index on, the loop adds what the recursion makes of the rest; it reads no
byte behind the last. -/
theorem percentDecodeLoop_eq (bytes : List UInt8) (index : Nat) (decoded : List UInt8) :
    percentDecodeLoop bytes index decoded
      = some ((percentDecode (bytes.drop index)).map (decoded ++ ·)) := by
  generalize hrest : bytes.drop index = rest
  induction rest using scan_induction generalizing index decoded with
  | nil =>
      have hlength : bytes.length ≤ index := List.drop_eq_nil_iff.mp hrest
      rw [percentDecodeLoop, if_neg (Nat.not_lt.mpr hlength), percentDecode]
      show _ = some (Except.ok (decoded ++ []))
      rw [List.append_nil]
  | literal byte rest hbyte ih =>
      obtain ⟨hget, hnext, hlt⟩ := drop_eq_cons hrest
      rw [percentDecodeLoop, if_pos hlt, hget]
      dsimp only
      rw [if_neg hbyte, ih (index + 1) _ hnext, percentDecode_literal hbyte]
      cases percentDecode rest with
      | error error => rfl
      | ok more =>
          show some (Except.ok (decoded ++ [byte] ++ more)) = some (Except.ok (decoded ++ byte :: more))
          rw [List.append_assoc]
          rfl
  | escape first second rest high low hhigh hlow ih =>
      obtain ⟨hget, hnext, hlt⟩ := drop_eq_cons hrest
      obtain ⟨hgetFirst, hnextFirst, hltFirst⟩ := drop_eq_cons hnext
      obtain ⟨hgetSecond, hnextSecond, hltSecond⟩ := drop_eq_cons hnextFirst
      rw [percentDecodeLoop, if_pos hlt, hget]
      dsimp only
      rw [if_pos rfl, if_neg (by omega), hgetFirst]
      dsimp only
      rw [hhigh]
      dsimp only
      rw [hgetSecond]
      dsimp only
      rw [hlow]
      dsimp only
      rw [ih (index + 3) _ hnextSecond, percentDecode_escape hhigh hlow]
      cases percentDecode rest with
      | error error => rfl
      | ok more =>
          show some (Except.ok (decoded ++ [high <<< 4 ||| low] ++ more))
            = some (Except.ok (decoded ++ (high <<< 4 ||| low) :: more))
          rw [List.append_assoc]
          rfl
  | bad rest hpair =>
      obtain ⟨hget, hnext, hlt⟩ := drop_eq_cons hrest
      rw [percentDecode_bad hpair, percentDecodeLoop, if_pos hlt, hget]
      dsimp only
      rw [if_pos rfl]
      by_cases hshort : index + 2 ≥ bytes.length
      · rw [if_pos hshort]
        rfl
      · rw [if_neg hshort]
        have hlength : rest.length = bytes.length - (index + 1) := by
          rw [← hnext, List.length_drop]
        obtain ⟨first, second, rest', rfl⟩ := exists_two_of_length (show 2 ≤ rest.length by omega)
        obtain ⟨hgetFirst, hnextFirst, -⟩ := drop_eq_cons hnext
        obtain ⟨hgetSecond, -, -⟩ := drop_eq_cons hnextFirst
        rw [hgetFirst]
        dsimp only
        cases hhigh : hex first with
        | none => rfl
        | some high =>
            dsimp only
            rw [hgetSecond]
            dsimp only
            cases hlow : hex second with
            | none => rfl
            | some low =>
                rw [startsWithHexPair_iff.mpr ⟨first, second, rest', high, low, rfl, hhigh, hlow⟩]
                  at hpair
                cases hpair

/-! ## §4. Encodings. -/

/-- The hexadecimal digit for a value below sixteen. -/
def hexDigit (upper : Bool) (value : UInt8) : UInt8 :=
  if value < 10 then 0x30 + value
  else if upper then 0x41 + (value - 10) else 0x61 + (value - 10)

/-- How one byte is written. -/
inductive Spelling where
  | literal
  /-- An escape, with the case of its two digits. -/
  | escape (upperHigh upperLow : Bool)
  deriving Repr, DecidableEq

def Spelling.write (byte : UInt8) : Spelling → List UInt8
  | .literal => [byte]
  | .escape upperHigh upperLow =>
      [0x25, hexDigit upperHigh (byte >>> 4), hexDigit upperLow (byte &&& 0xf)]

/-- A percent sign cannot stand for itself. -/
def Spelling.Spells (byte : UInt8) : Spelling → Prop
  | .literal => byte ≠ 0x25
  | .escape _ _ => True

theorem hex_hexDigit (upper : Bool) {value : UInt8} (h : value < 16) :
    hex (hexDigit upper value) = some value := by
  have hall : ∀ upper : Bool, ∀ n < 16,
      hex (hexDigit upper (UInt8.ofNat n)) = some (UInt8.ofNat n) := by decide
  have hvalue := hall upper value.toNat h
  rw [UInt8.ofNat_toNat] at hvalue
  exact hvalue

/-- A byte is put together from its halves. -/
theorem nibbles (byte : UInt8) :
    byte >>> 4 < 16 ∧ byte &&& 0xf < 16 ∧ (byte >>> 4) <<< 4 ||| byte &&& 0xf = byte := by
  have hall : ∀ n < 256, UInt8.ofNat n >>> 4 < 16 ∧ UInt8.ofNat n &&& 0xf < 16
      ∧ (UInt8.ofNat n >>> 4) <<< 4 ||| UInt8.ofNat n &&& 0xf = UInt8.ofNat n := by
    decide +kernel
  have hbyte := hall byte.toNat byte.toNat_lt
  rw [UInt8.ofNat_toNat] at hbyte
  exact hbyte

/-- One spelled byte is read as that byte, and what follows is read on its own. -/
theorem percentDecode_write {byte : UInt8} {spelling : Spelling} (h : spelling.Spells byte)
    (rest : List UInt8) :
    percentDecode (spelling.write byte ++ rest) = (percentDecode rest).map (byte :: ·) := by
  cases spelling with
  | literal => exact percentDecode_literal h rest
  | escape upperHigh upperLow =>
      obtain ⟨hhigh, hlow, hbyte⟩ := nibbles byte
      have hescape := percentDecode_escape (hex_hexDigit upperHigh hhigh)
        (hex_hexDigit upperLow hlow) rest
      rw [hbyte] at hescape
      exact hescape

theorem percentDecode_flatMap_write (spelled : List (UInt8 × Spelling))
    (h : ∀ pair ∈ spelled, pair.2.Spells pair.1) :
    percentDecode (spelled.flatMap (fun pair => pair.2.write pair.1))
      = .ok (spelled.map Prod.fst) := by
  induction spelled with
  | nil => rfl
  | cons pair spelled ih =>
      rw [List.flatMap_cons, percentDecode_write (h pair List.mem_cons_self),
        ih (fun other hother => h other (List.mem_cons_of_mem _ hother))]
      rfl

/-! ## §5. Failures. -/

/-- The positions the scan from left to right gets to. -/
inductive Scanned (bytes : List UInt8) : Nat → Prop where
  | start : Scanned bytes 0
  | literal {index : Nat} {byte : UInt8} (h : Scanned bytes index)
      (hbyte : bytes[index]? = some byte) (hne : byte ≠ 0x25) : Scanned bytes (index + 1)
  | escape {index : Nat} (h : Scanned bytes index) (hbyte : bytes[index]? = some 0x25)
      (hpair : startsWithHexPair (bytes.drop (index + 1)) = true) : Scanned bytes (index + 3)

/-- A percent sign the scan gets to that no two hexadecimal digits follow. -/
def BadEscape (bytes : List UInt8) : Prop :=
  ∃ index, Scanned bytes index ∧ bytes[index]? = some 0x25
    ∧ startsWithHexPair (bytes.drop (index + 1)) = false

theorem drop_of_getElem? {α : Type*} {l : List α} {a : α} {i : Nat} (h : l[i]? = some a) :
    l.drop i = a :: l.drop (i + 1) := by
  obtain ⟨hlt, heq⟩ := List.getElem?_eq_some_iff.mp h
  rw [List.drop_eq_getElem_cons hlt, heq]

/-- Where the scan gets to, the rest decides whether the whole fails. -/
theorem Scanned.error {bytes : List UInt8} {index : Nat} (h : Scanned bytes index)
    {error : StaticError} (herror : percentDecode (bytes.drop index) = .error error) :
    percentDecode bytes = .error error := by
  induction h with
  | start => exact herror
  | literal h hbyte hne ih =>
      apply ih
      rw [drop_of_getElem? hbyte, percentDecode_literal hne, herror]
      rfl
  | escape h hbyte hpair ih =>
      obtain ⟨first, second, rest, high, low, hdrop, hhigh, hlow⟩ := startsWithHexPair_iff.mp hpair
      apply ih
      have hrest := (drop_eq_cons (drop_eq_cons hdrop).2.1).2.1
      rw [drop_of_getElem? hbyte, hdrop, percentDecode_escape hhigh hlow, ← hrest, herror]
      rfl

/-- A failure is a bad escape somewhere behind. -/
theorem Scanned.badEscape {bytes : List UInt8} {index : Nat} (h : Scanned bytes index)
    {error : StaticError} (herror : percentDecode (bytes.drop index) = .error error) :
    error = .badRequest ∧ BadEscape bytes := by
  generalize hrest : bytes.drop index = rest at herror
  induction rest using scan_induction generalizing index with
  | nil => cases herror
  | literal byte rest hbyte ih =>
      obtain ⟨hget, hnext, -⟩ := drop_eq_cons hrest
      rw [percentDecode_literal hbyte] at herror
      refine ih (h.literal hget hbyte) hnext ?_
      cases hdecode : percentDecode rest with
      | error error' =>
          rw [hdecode] at herror
          exact herror
      | ok decoded =>
          rw [hdecode] at herror
          cases herror
  | escape first second rest high low hhigh hlow ih =>
      obtain ⟨hget, hnext, -⟩ := drop_eq_cons hrest
      have hpair : startsWithHexPair (bytes.drop (index + 1)) = true := by
        rw [hnext]
        exact startsWithHexPair_iff.mpr ⟨first, second, rest, high, low, rfl, hhigh, hlow⟩
      have hdrop := (drop_eq_cons (drop_eq_cons hnext).2.1).2.1
      rw [percentDecode_escape hhigh hlow] at herror
      refine ih (h.escape hget hpair) hdrop ?_
      cases hdecode : percentDecode rest with
      | error error' =>
          rw [hdecode] at herror
          exact herror
      | ok decoded =>
          rw [hdecode] at herror
          cases herror
  | bad rest hpair =>
      obtain ⟨hget, hnext, -⟩ := drop_eq_cons hrest
      rw [percentDecode_bad hpair] at herror
      injection herror with herror
      refine ⟨herror.symm, index, h, hget, ?_⟩
      rw [hnext]
      exact hpair

theorem percentDecode_error_iff {bytes : List UInt8} {error : StaticError} :
    percentDecode bytes = .error error ↔ error = .badRequest ∧ BadEscape bytes := by
  constructor
  · intro herror
    exact Scanned.start.badEscape herror
  · rintro ⟨rfl, index, hscanned, hbyte, hpair⟩
    apply hscanned.error
    rw [drop_of_getElem? hbyte, percentDecode_bad hpair]

/-- **Percent-decoding inverts every encoding**, each byte of which may stand for
itself or be escaped with digits of either case; it fails just when the scan gets to
a percent sign without two digits; and no access of the loop is out of bounds. -/
theorem percent_decoding_inverts_encoding :
    (∀ spelled : List (UInt8 × Spelling), (∀ pair ∈ spelled, pair.2.Spells pair.1) →
        percentDecodeLoop (spelled.flatMap (fun pair => pair.2.write pair.1)) 0 []
          = some (.ok (spelled.map Prod.fst)))
      ∧ (∀ bytes error, percentDecodeLoop bytes 0 [] = some (.error error) ↔
          error = .badRequest ∧ BadEscape bytes)
      ∧ ∀ bytes, percentDecodeLoop bytes 0 [] ≠ none := by
  have hloop : ∀ bytes, percentDecodeLoop bytes 0 [] = some (percentDecode bytes) := by
    intro bytes
    rw [percentDecodeLoop_eq, List.drop_zero]
    cases percentDecode bytes with
    | error error => rfl
    | ok decoded => rfl
  refine ⟨?_, ?_, ?_⟩
  · intro spelled hspelled
    rw [hloop, percentDecode_flatMap_write spelled hspelled]
  · intro bytes error
    rw [hloop, Option.some.injEq]
    exact percentDecode_error_iff
  · intro bytes
    rw [hloop]
    intro h
    cases h

/-- An escaped percent sign does not start an escape. -/
example : percentDecode (asBytes "%2541".toList) = .ok (asBytes "%41".toList) := by decide

end Thwip
