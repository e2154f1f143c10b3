/-
  Thwip.Lib.Text — strings as sequences of Unicode scalar values.

  A string is a `List Char`, so a string that is not valid UTF-8 cannot be
  built; `asBytes` and `fromUtf8` move between it and the bytes on the wire.
  The string operations are the usual library ones: splitting at a separator,
  splitting at ASCII whitespace, trimming, ASCII lowercase and decimal numbers.
  The lemmas say what each operation leaves behind and what it does to text
  that was assembled from clean pieces.
-/
import Mathlib.Algebra.Group.Nat.Defs
import Mathlib.Data.List.DropRight
import Mathlib.Data.List.Infix
import Thwip.Lib.Search

namespace Thwip.Lib

/-- A string: a sequence of Unicode scalar values. -/
abbrev Str := List Char

/-! ## §1. Bytes and UTF-8. -/

/-- The UTF-8 bytes of a string. -/
def asBytes (s : Str) : List UInt8 := s.flatMap String.utf8EncodeChar

/-- Decode UTF-8, `none` when the bytes are not well formed. -/
def fromUtf8 (bytes : List UInt8) : Option Str :=
  bytes.toByteArray.utf8Decode?.map Array.toList

@[simp] theorem asBytes_append (s t : Str) :
    asBytes (s ++ t) = asBytes s ++ asBytes t := List.flatMap_append

theorem asBytes_eq_nil {s : Str} : asBytes s = [] ↔ s = [] := by
  constructor
  · intro h
    cases s with
    | nil => rfl
    | cons c s =>
        exact absurd (List.append_eq_nil_iff.mp h).1 String.utf8EncodeChar_ne_nil
  · rintro rfl
    rfl

/-- Decoding inverts encoding. -/
theorem fromUtf8_asBytes (s : Str) : fromUtf8 (asBytes s) = some s := by
  show (s.utf8Encode.utf8Decode?).map Array.toList = some s
  rw [List.utf8Decode?_utf8Encode]
  rfl

/-- An ASCII byte of an encoded character is that character. -/
theorem toNat_eq_of_mem_utf8EncodeChar {c : Char} {b : UInt8}
    (hb : b ∈ String.utf8EncodeChar c) (hlt : b.toNat < 128) :
    c.toNat = b.toNat := by
  have hv : c.toNat = c.val.toNat := rfl
  have hmax : c.val.toNat < 1114112 := by
    have := c.valid
    simp only [UInt32.isValidChar, Nat.isValidChar] at this
    omega
  rw [hv]
  unfold String.utf8EncodeChar at hb
  dsimp only at hb
  split at hb
  · simp only [List.mem_cons, List.not_mem_nil, or_false] at hb
    subst hb
    rw [UInt8.toNat_ofNat']
    omega
  · exfalso
    split at hb
    · simp only [List.mem_cons, List.not_mem_nil, or_false] at hb
      rcases hb with rfl | rfl <;> rw [UInt8.toNat_ofNat'] at hlt <;> omega
    · split at hb
      · simp only [List.mem_cons, List.not_mem_nil, or_false] at hb
        rcases hb with rfl | rfl | rfl <;> rw [UInt8.toNat_ofNat'] at hlt <;> omega
      · simp only [List.mem_cons, List.not_mem_nil, or_false] at hb
        rcases hb with rfl | rfl | rfl | rfl <;> rw [UInt8.toNat_ofNat'] at hlt <;>
          omega

/-- An ASCII character is encoded as its own byte. -/
theorem utf8EncodeChar_ascii {c : Char} (h : c.toNat < 128) :
    String.utf8EncodeChar c = [UInt8.ofNat c.toNat] := by
  have hv : c.toNat = c.val.toNat := rfl
  unfold String.utf8EncodeChar
  dsimp only
  rw [if_pos (by omega)]
  rfl

/-- The ASCII bytes of a string are its ASCII characters. -/
theorem exists_mem_asBytes_iff {s : Str} {n : Nat} (hn : n < 128) :
    (∃ b ∈ asBytes s, b.toNat = n) ↔ ∃ c ∈ s, c.toNat = n := by
  constructor
  · rintro ⟨b, hb, rfl⟩
    obtain ⟨c, hc, hbc⟩ := List.mem_flatMap.mp hb
    exact ⟨c, hc, toNat_eq_of_mem_utf8EncodeChar hbc hn⟩
  · rintro ⟨c, hc, rfl⟩
    refine ⟨UInt8.ofNat c.toNat, List.mem_flatMap.mpr ⟨c, hc, ?_⟩, ?_⟩
    · rw [utf8EncodeChar_ascii hn]
      exact List.mem_cons_self
    · rw [UInt8.toNat_ofNat']
      omega

/-- A property of ASCII bytes that all bytes have is one all characters have. -/
theorem forall_char_of_forall_byte {s : Str} {P : Nat → Prop}
    (hP : ∀ n, P n → n < 128) (h : ∀ b ∈ asBytes s, P b.toNat) :
    ∀ c ∈ s, P c.toNat := by
  intro c hc
  obtain ⟨b, hb⟩ := List.exists_mem_of_ne_nil _ (String.utf8EncodeChar_ne_nil (c := c))
  have hPb := h b (List.mem_flatMap.mpr ⟨c, hc, hb⟩)
  rw [toNat_eq_of_mem_utf8EncodeChar hb (hP _ hPb)]
  exact hPb

theorem forall_byte_of_forall_char {s : Str} {P : Nat → Prop}
    (hP : ∀ n, P n → n < 128) (h : ∀ c ∈ s, P c.toNat) :
    ∀ b ∈ asBytes s, P b.toNat := by
  intro b hb
  obtain ⟨c, hc, hbc⟩ := List.mem_flatMap.mp hb
  have hPc := h c hc
  have hlt := hP _ hPc
  rw [utf8EncodeChar_ascii hlt, List.mem_singleton] at hbc
  subst hbc
  rw [UInt8.toNat_ofNat', Nat.mod_eq_of_lt (by omega)]
  exact hPc

/-! ## §2. Character classes. -/

def isAsciiWhitespace (n : Nat) : Bool :=
  n == 0x20 || n == 0x09 || n == 0x0A || n == 0x0C || n == 0x0D

def isAsciiControl (n : Nat) : Bool := n < 0x20 || n == 0x7F

def isAsciiDigit (n : Nat) : Bool := 0x30 ≤ n && n ≤ 0x39

def isAsciiAlphanumeric (n : Nat) : Bool :=
  isAsciiDigit n || (0x41 ≤ n && n ≤ 0x5A) || (0x61 ≤ n && n ≤ 0x7A)

/-- The Unicode `White_Space` property. -/
def isWhitespace (c : Char) : Bool :=
  let n := c.toNat
  (0x09 ≤ n && n ≤ 0x0D) || n == 0x20 || n == 0x85 || n == 0xA0 || n == 0x1680
    || (0x2000 ≤ n && n ≤ 0x200A) || n == 0x2028 || n == 0x2029 || n == 0x202F
    || n == 0x205F || n == 0x3000

def toAsciiLowercase (s : Str) : Str := s.map Char.toLower

/-- What lowering does to the code point. -/
theorem toNat_toLower (c : Char) :
    c.toLower.toNat
      = if 0x41 ≤ c.toNat ∧ c.toNat ≤ 0x5A then c.toNat + 32 else c.toNat := by
  have hA : 'A'.val.toNat = 0x41 := rfl
  have hZ : 'Z'.val.toNat = 0x5A := rfl
  have hv : c.toNat = c.val.toNat := rfl
  unfold Char.toLower
  split
  next h =>
    rw [ge_iff_le, UInt32.le_iff_toNat_le, UInt32.le_iff_toNat_le, hA, hZ] at h
    rw [if_pos (by rw [hv]; exact h)]
    show (c.val + ('a'.val - 'A'.val)).toNat = _
    rw [UInt32.toNat_add, hv, show ('a'.val - 'A'.val).toNat = 32 from rfl]
    omega
  next h =>
    rw [ge_iff_le, UInt32.le_iff_toNat_le, UInt32.le_iff_toNat_le, hA, hZ] at h
    rw [if_neg (by rw [hv]; exact h)]

theorem toAsciiLowercase_idem (s : Str) :
    toAsciiLowercase (toAsciiLowercase s) = toAsciiLowercase s := by
  unfold toAsciiLowercase
  rw [List.map_map]
  apply List.map_congr_left
  intro c _
  apply Char.toNat_inj.mp
  show c.toLower.toLower.toNat = c.toLower.toNat
  rw [toNat_toLower c.toLower, toNat_toLower c]
  by_cases h : 0x41 ≤ c.toNat ∧ c.toNat ≤ 0x5A
  · rw [if_pos h, if_neg (by omega)]
  · rw [if_neg h, if_neg h]

/-! ## §3. Splitting. -/

/-- Split at every occurrence of the two-element separator `a b`. -/
def splitOnPair {α : Type*} [DecidableEq α] (a b : α) : List α → List (List α)
  | [] => [[]]
  | [x] => [[x]]
  | x :: y :: rest =>
      if x = a ∧ y = b then [] :: splitOnPair a b rest
      else (splitOnPair a b (y :: rest)).modifyHead (x :: ·)

/-- Split at the first occurrence of `c`, which is dropped. -/
def splitOnce (c : Char) (s : Str) : Option (Str × Str) :=
  if c ∈ s then
    some (s.takeWhile (· != c), (s.dropWhile (· != c)).drop 1)
  else none

/-- The non-empty pieces between ASCII whitespace. -/
def splitAsciiWhitespace (s : Str) : List Str :=
  (s.splitOnP (fun c => isAsciiWhitespace c.toNat)).filter (fun piece => !piece.isEmpty)

theorem splitOnPair_of_notMem {α : Type*} [DecidableEq α] {a b : α} :
    ∀ (l : List α), a ∉ l → splitOnPair a b l = [l]
  | [], _ => rfl
  | [x], _ => rfl
  | x :: y :: rest, h => by
      have hx : ¬ (x = a ∧ y = b) := fun e => h (e.1 ▸ List.mem_cons_self)
      rw [splitOnPair, if_neg hx,
          splitOnPair_of_notMem (y :: rest) (fun e => h (List.mem_cons_of_mem _ e))]
      rfl

theorem splitOnPair_append {α : Type*} [DecidableEq α] {a b : α} (r : List α) :
    ∀ (l : List α), a ∉ l →
      splitOnPair a b (l ++ a :: b :: r) = l :: splitOnPair a b r
  | [], _ => by simp [splitOnPair]
  | [x], h => by
      have hx : ¬ (x = a ∧ a = b) := fun e => h (e.1 ▸ List.mem_cons_self)
      have h0 : splitOnPair a b (a :: b :: r) = [] :: splitOnPair a b r :=
        splitOnPair_append (a := a) (b := b) r [] List.not_mem_nil
      rw [List.singleton_append, splitOnPair, if_neg hx, h0]
      rfl
  | x :: y :: l, h => by
      have hx : ¬ (x = a ∧ y = b) := fun e => h (e.1 ▸ List.mem_cons_self)
      have ih := splitOnPair_append (b := b) r (y :: l)
        (fun e => h (List.mem_cons_of_mem _ e))
      rw [List.cons_append, List.cons_append, splitOnPair, if_neg hx,
          ← List.cons_append, ih]
      rfl

/-- **Lines that avoid `a` are read back** from their `a b`-joined text. -/
theorem splitOnPair_lines {α : Type*} [DecidableEq α] {a b : α} (last : List α)
    (hlast : a ∉ last) :
    ∀ (lines : List (List α)), (∀ l ∈ lines, a ∉ l) →
      splitOnPair a b (lines.flatMap (· ++ [a, b]) ++ last) = lines ++ [last]
  | [], _ => splitOnPair_of_notMem last hlast
  | l :: lines, h => by
      have ih := splitOnPair_lines (b := b) last hlast lines
        (fun l' hl' => h l' (List.mem_cons_of_mem _ hl'))
      rw [show (l :: lines).flatMap (· ++ [a, b]) ++ last
            = l ++ (a :: b :: (lines.flatMap (· ++ [a, b]) ++ last)) from by simp,
          splitOnPair_append _ l (h l List.mem_cons_self), ih]
      rfl

theorem mem_of_splitOnce {sep : Char} {s before after : Str}
    (h : splitOnce sep s = some (before, after)) :
    (∀ c ∈ before, c ∈ s) ∧ ∀ c ∈ after, c ∈ s := by
  unfold splitOnce at h
  split_ifs at h
  cases h
  refine ⟨fun c hc => (List.takeWhile_sublist _).subset hc, fun c hc => ?_⟩
  exact (List.dropWhile_sublist _).subset (List.mem_of_mem_drop hc)

theorem splitOnce_notMem {c : Char} {s before after : Str}
    (h : splitOnce c s = some (before, after)) : c ∉ before := by
  unfold splitOnce at h
  split_ifs at h with hmem
  simp only [Option.some.injEq, Prod.mk.injEq] at h
  intro hin
  rw [← h.1] at hin
  have := List.mem_takeWhile_imp hin
  simp at this

theorem splitOnce_before {c : Char} {s before after : Str}
    (h : splitOnce c s = some (before, after)) : before <+: s := by
  unfold splitOnce at h
  split_ifs at h with hmem
  simp only [Option.some.injEq, Prod.mk.injEq] at h
  rw [← h.1]
  exact List.takeWhile_prefix _

theorem splitOnce_none {c : Char} {s : Str} (h : splitOnce c s = none) : c ∉ s := by
  unfold splitOnce at h
  split_ifs at h with hmem
  exact hmem

theorem splitOnce_append {c : Char} (b : Str) :
    ∀ (a : Str), c ∉ a → splitOnce c (a ++ c :: b) = some (a, b) := by
  intro a ha
  have hne : ∀ x ∈ a, (x != c) = true := by
    intro x hx
    rw [bne_iff_ne]
    rintro rfl
    exact ha hx
  rw [splitOnce, if_pos (by simp), List.takeWhile_append_of_pos hne,
      List.dropWhile_append_of_pos hne]
  simp

/-- A piece between ASCII whitespace is non-empty and free of whitespace. -/
theorem mem_splitAsciiWhitespace {s piece : Str} (h : piece ∈ splitAsciiWhitespace s) :
    piece ≠ [] ∧ ∀ c ∈ piece, isAsciiWhitespace c.toNat = false := by
  obtain ⟨hmem, hne⟩ := List.mem_filter.mp h
  refine ⟨by rintro rfl; simp at hne, ?_⟩
  clear h hne
  induction s generalizing piece with
  | nil =>
      rw [List.splitOnP_nil, List.mem_singleton] at hmem
      subst hmem
      simp
  | cons x s ih =>
      rw [List.splitOnP_cons_eq_if_modifyHead] at hmem
      split at hmem
      next hx =>
        rcases List.mem_cons.mp hmem with rfl | hmem
        · simp
        · exact ih hmem
      next hx =>
        obtain ⟨p, ps, hps⟩ := List.exists_cons_of_ne_nil
          (List.splitOnP_ne_nil (fun c : Char => isAsciiWhitespace c.toNat) s)
        rw [hps, List.modifyHead_cons] at hmem
        rcases List.mem_cons.mp hmem with rfl | hmem
        · intro c hc
          rcases List.mem_cons.mp hc with rfl | hc
          · simpa using hx
          · exact ih (hps ▸ List.mem_cons_self) c hc
        · exact ih (hps ▸ List.mem_cons_of_mem _ hmem)

/-- Three clean words joined by spaces are read back. -/
theorem splitAsciiWhitespace_three {a b c : Str}
    (ha : a ≠ []) (hb : b ≠ []) (hc : c ≠ [])
    (hwa : ∀ x ∈ a, isAsciiWhitespace x.toNat = false)
    (hwb : ∀ x ∈ b, isAsciiWhitespace x.toNat = false)
    (hwc : ∀ x ∈ c, isAsciiWhitespace x.toNat = false) :
    splitAsciiWhitespace (a ++ ' ' :: (b ++ ' ' :: c)) = [a, b, c] := by
  unfold splitAsciiWhitespace
  rw [List.splitOnP_append_cons_of_forall_mem hwa ' ' rfl,
      List.splitOnP_append_cons_of_forall_mem hwb ' ' rfl,
      List.splitOnP_eq_singleton hwc]
  simp [ha, hb, hc]

/-! ## §4. Trimming. -/

def trimMatches (p : Char → Bool) (s : Str) : Str := (s.dropWhile p).rdropWhile p

def trimEndMatches (p : Char → Bool) (s : Str) : Str := s.rdropWhile p

/-- Trim Unicode whitespace from both ends. -/
def trim (s : Str) : Str := trimMatches isWhitespace s

theorem dropWhile_eq_self_mono {p : Char → Bool} {s t : Str}
    (hs : s.dropWhile p = s) (ht : t <+: s) : t.dropWhile p = t := by
  cases t with
  | nil => rfl
  | cons x t =>
      obtain ⟨r, rfl⟩ := ht
      rw [List.cons_append] at hs
      by_cases hx : p x
      · have hlen := congrArg List.length hs
        rw [List.dropWhile_cons_of_pos hx] at hlen
        have := (List.dropWhile_sublist p (l := t ++ r)).length_le
        simp only [List.length_cons] at hlen
        omega
      · rw [List.dropWhile_cons_of_neg hx]

theorem trimMatches_idem (p : Char → Bool) (s : Str) :
    trimMatches p (trimMatches p s) = trimMatches p s := by
  unfold trimMatches
  rw [dropWhile_eq_self_mono (List.dropWhile_idempotent p s)
        (List.rdropWhile_prefix p _), List.rdropWhile_idempotent]

/-- A matching character put before trimmed text is trimmed off again. -/
theorem trimMatches_cons {p : Char → Bool} {c : Char} {s : Str} (hc : p c)
    (hs : trimMatches p s = s) : trimMatches p (c :: s) = s := by
  unfold trimMatches at hs ⊢
  rw [List.dropWhile_cons_of_pos hc]
  exact hs

theorem mem_of_mem_trimMatches {p : Char → Bool} {c : Char} {s : Str}
    (h : c ∈ trimMatches p s) : c ∈ s :=
  (List.dropWhile_sublist p).subset ((List.rdropWhile_prefix p _).subset h)

theorem trimMatches_of_forall {p : Char → Bool} {s : Str} (h : ∀ c ∈ s, p c = false) :
    trimMatches p s = s := by
  unfold trimMatches
  have h1 : s.dropWhile p = s := by
    cases s with
    | nil => rfl
    | cons x s =>
        rw [List.dropWhile_cons_of_neg (by simp [h x List.mem_cons_self])]
  rw [h1, List.rdropWhile_eq_self_iff]
  intro hne
  simp [h _ (List.getLast_mem hne)]

theorem rdropWhile_append_cons {α : Type*} {p : α → Bool} {x : α} (hx : p x = false)
    (l r : List α) : (l ++ x :: r).rdropWhile p = l ++ x :: r.rdropWhile p := by
  unfold List.rdropWhile
  rw [List.reverse_append, List.reverse_cons, List.append_assoc, List.dropWhile_append]
  have hstop : List.dropWhile p ([x] ++ l.reverse) = [x] ++ l.reverse :=
    List.dropWhile_cons_of_neg (by rw [hx]; simp)
  split_ifs with hempty
  · rw [hstop, List.isEmpty_iff.mp hempty]
    simp
  · simp

theorem rdropWhile_map {α : Type*} {p : α → Bool} {f : α → α} (hf : ∀ a, p (f a) = p a)
    (l : List α) : (l.map f).rdropWhile p = (l.rdropWhile p).map f := by
  have hcomp : p ∘ f = p := funext hf
  unfold List.rdropWhile
  rw [← List.map_reverse, List.dropWhile_map, hcomp, List.map_reverse]

/-! ## §5. Decimal numbers. -/

/-- The value of a string of decimal digits. -/
def decimal (s : Str) : Nat := s.foldl (fun n c => 10 * n + (c.toNat - 0x30)) 0

/-- Parse an unsigned integer below `2 ^ bits`: an optional `+`, then at least
one digit. -/
def parseUnsigned (bits : Nat) (s : Str) : Option Nat :=
  let digits := if s.head? = some '+' then s.drop 1 else s
  if digits.isEmpty || !digits.all (fun c => isAsciiDigit c.toNat) then none
  else if decimal digits < 2 ^ bits then some (decimal digits) else none

end Thwip.Lib
