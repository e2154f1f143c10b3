/-
  Thwip.Lib.Lines — texts whose line breaks are whole.

  A line break is a pair `a b`.  A text is `Paired` when each `a` in it is followed
  by `b` and each `b` preceded by `a`; that is so just when no line between the
  breaks has an `a` or a `b` in it.
-/
import Thwip.Lib.Text

namespace Thwip.Lib

/-! ## §1. Whole line breaks. -/

section Paired

variable {α : Type*} {a b x : α} {l r : List α}

/-- Each `a` is immediately followed by `b`, each `b` immediately preceded by `a`. -/
structure Paired (a b : α) (l : List α) : Prop where
  followed : ∀ i, l[i]? = some a → l[i + 1]? = some b
  preceded : ∀ i, l[i]? = some b → 0 < i ∧ l[i - 1]? = some a

theorem paired_nil : Paired a b [] := by
  refine ⟨?_, ?_⟩
  · intro i h
    cases h
  · intro i h
    cases h

/-- Something else at the front does not matter. -/
theorem paired_cons (ha : x ≠ a) (hb : x ≠ b) : Paired a b (x :: r) ↔ Paired a b r := by
  constructor
  · intro h
    refine ⟨?_, ?_⟩
    · intro i hi
      have hnext := h.followed (i + 1) hi
      exact hnext
    · intro i hi
      obtain ⟨-, hprevious⟩ := h.preceded (i + 1) hi
      cases i with
      | zero =>
          injection hprevious with hx
          exact absurd hx ha
      | succ i => exact ⟨Nat.succ_pos i, hprevious⟩
  · intro h
    refine ⟨?_, ?_⟩
    · intro i hi
      cases i with
      | zero =>
          injection hi with hx
          exact absurd hx ha
      | succ i => exact h.followed i hi
    · intro i hi
      cases i with
      | zero =>
          injection hi with hx
          exact absurd hx hb
      | succ i =>
          obtain ⟨hpos, hprevious⟩ := h.preceded i hi
          refine ⟨Nat.succ_pos i, ?_⟩
          obtain ⟨j, rfl⟩ := Nat.exists_eq_succ_of_ne_zero (Nat.ne_of_gt hpos)
          exact hprevious

/-- A break at the front does not matter. -/
theorem paired_break (hab : a ≠ b) : Paired a b (a :: b :: r) ↔ Paired a b r := by
  constructor
  · intro h
    refine ⟨?_, ?_⟩
    · intro i hi
      exact h.followed (i + 2) hi
    · intro i hi
      obtain ⟨-, hprevious⟩ := h.preceded (i + 2) hi
      cases i with
      | zero =>
          injection hprevious with hx
          exact absurd hx.symm hab
      | succ i => exact ⟨Nat.succ_pos i, hprevious⟩
  · intro h
    refine ⟨?_, ?_⟩
    · intro i hi
      rcases i with - | - | i
      · rfl
      · injection hi with hx
        exact absurd hx.symm hab
      · exact h.followed i hi
    · intro i hi
      rcases i with - | - | i
      · injection hi with hx
        exact absurd hx hab
      · exact ⟨Nat.one_pos, rfl⟩
      · obtain ⟨hpos, hprevious⟩ := h.preceded i hi
        refine ⟨Nat.succ_pos _, ?_⟩
        obtain ⟨j, rfl⟩ := Nat.exists_eq_succ_of_ne_zero (Nat.ne_of_gt hpos)
        exact hprevious

theorem not_paired_second : ¬ Paired a b (b :: r) := by
  intro h
  exact absurd (h.preceded 0 rfl).1 (Nat.lt_irrefl 0)

theorem not_paired_first (h : r.head? ≠ some b) : ¬ Paired a b (a :: r) := by
  intro hpaired
  have hnext : r[0]? = some b := hpaired.followed 0 rfl
  rw [← List.head?_eq_getElem?] at hnext
  exact h hnext

variable [DecidableEq α]

theorem splitOnPair_ne_nil (a b : α) (l : List α) : splitOnPair a b l ≠ [] := by
  induction l using splitOnPair.induct (a := a) (b := b) with
  | case1 => simp [splitOnPair]
  | case2 x => simp [splitOnPair]
  | case3 x y rest hbreak ih => simp [splitOnPair, hbreak]
  | case4 x y rest hbreak ih =>
      rw [splitOnPair, if_neg hbreak]
      obtain ⟨line, lines, hlines⟩ := List.exists_cons_of_ne_nil ih
      rw [hlines]
      simp

@[simp] theorem splitOnPair_break : splitOnPair a b (a :: b :: r) = [] :: splitOnPair a b r := by
  rw [splitOnPair, if_pos ⟨rfl, rfl⟩]

/-- What does not start a break is part of the first line. -/
theorem splitOnPair_cons (h : x = a → r.head? ≠ some b) :
    splitOnPair a b (x :: r) = (splitOnPair a b r).modifyHead (x :: ·) := by
  cases r with
  | nil => rfl
  | cons y r =>
      rw [splitOnPair, if_neg]
      rintro ⟨hx, hy⟩
      exact h hx (congrArg some hy)

/-- **A text is paired when the lines between its breaks are clean.** -/
theorem paired_iff (hab : a ≠ b) (l : List α) :
    Paired a b l ↔ ∀ line ∈ splitOnPair a b l, a ∉ line ∧ b ∉ line := by
  induction l using splitOnPair.induct (a := a) (b := b) with
  | case1 =>
      rw [splitOnPair]
      simp [paired_nil]
  | case2 x =>
      rw [splitOnPair]
      by_cases ha : x = a
      · have hno : ¬ Paired a b [a] := not_paired_first (by simp)
        rw [ha]
        simp [hno]
      by_cases hb : x = b
      · have hno : ¬ Paired a b [b] := not_paired_second
        rw [hb]
        simp [hno]
      rw [paired_cons ha hb]
      simp [paired_nil, Ne.symm ha, Ne.symm hb]
  | case3 x y rest hbreak ih =>
      obtain ⟨rfl, rfl⟩ := hbreak
      rw [splitOnPair_break, paired_break hab, ih]
      simp
  | case4 x y rest hbreak ih =>
      -- `x` joins the first line of what follows
      obtain ⟨line, lines, hlines⟩ :=
        List.exists_cons_of_ne_nil (splitOnPair_ne_nil a b (y :: rest))
      rw [splitOnPair, if_neg hbreak, hlines, List.modifyHead_cons, List.forall_mem_cons]
      by_cases ha : x = a
      · have hno : ¬ Paired a b (a :: y :: rest) := by
          apply not_paired_first
          intro hy
          injection hy with hy
          exact hbreak ⟨ha, hy⟩
        rw [ha]
        simp [hno]
      by_cases hb : x = b
      · have hno : ¬ Paired a b (b :: y :: rest) := not_paired_second
        rw [hb]
        simp [hno]
      rw [paired_cons ha hb, ih, hlines, List.forall_mem_cons]
      simp [Ne.symm ha, Ne.symm hb]

/-- Text without `a` at the front is part of the first line. -/
theorem splitOnPair_append_of_notMem (h : a ∉ l) :
    splitOnPair a b (l ++ r) = (splitOnPair a b r).modifyHead (l ++ ·) := by
  obtain ⟨line, lines, hlines⟩ := List.exists_cons_of_ne_nil (splitOnPair_ne_nil a b r)
  rw [hlines]
  induction l with
  | nil => exact hlines
  | cons x l ih =>
      have hx : x ≠ a := fun hsame => h (hsame ▸ List.mem_cons_self)
      rw [List.cons_append, splitOnPair_cons (fun hsame => absurd hsame hx),
        ih (fun hmem => h (List.mem_cons_of_mem _ hmem))]
      rfl

/-- A break splits the text before it from the text after it. -/
theorem splitOnPair_append_break (hab : a ≠ b) :
    splitOnPair a b (l ++ a :: b :: r) = splitOnPair a b l ++ splitOnPair a b r := by
  induction l using splitOnPair.induct (a := a) (b := b) with
  | case1 => exact splitOnPair_break
  | case2 x =>
      have hx : x = a → (a :: b :: r).head? ≠ some b := by
        intro _ hhead
        injection hhead with hhead
        exact hab hhead
      rw [List.singleton_append, splitOnPair_cons hx, splitOnPair_break]
      rfl
  | case3 x y rest hbreak ih =>
      obtain ⟨rfl, rfl⟩ := hbreak
      rw [List.cons_append, List.cons_append, splitOnPair_break, splitOnPair_break, ih,
        List.cons_append]
  | case4 x y rest hbreak ih =>
      have hx : x = a → (y :: (rest ++ a :: b :: r)).head? ≠ some b := by
        intro hx hhead
        injection hhead with hhead
        exact hbreak ⟨hx, hhead⟩
      have hx' : x = a → (y :: rest).head? ≠ some b := hx
      obtain ⟨line, lines, hlines⟩ :=
        List.exists_cons_of_ne_nil (splitOnPair_ne_nil a b (y :: rest))
      rw [List.cons_append, List.cons_append, splitOnPair_cons hx, splitOnPair_cons hx',
        ← List.cons_append, ih, hlines]
      rfl

end Paired

/-! ## §2. Text and its bytes. -/

/-- Only well-formed bytes are decoded. -/
theorem asBytes_of_fromUtf8 {bytes : List UInt8} {s : Str} (h : fromUtf8 bytes = some s) :
    asBytes s = bytes := by
  obtain ⟨chars, hchars, rfl⟩ := Option.map_eq_some_iff.mp h
  have hsome : bytes.toByteArray.utf8Decode?.isSome = true := by
    rw [hchars]
    rfl
  have hencode := ByteArray.utf8Encode_get_utf8Decode? (h := hsome)
  simp only [hchars, Option.get_some] at hencode
  exact List.toByteArray_inj.mp hencode

/-- The two parts with the separator between them are the text. -/
theorem eq_of_splitOnce {c : Char} {s before after : Str}
    (h : splitOnce c s = some (before, after)) : s = before ++ c :: after := by
  unfold splitOnce at h
  split_ifs at h with hmem
  simp only [Option.some.injEq, Prod.mk.injEq] at h
  have hrest : s.dropWhile (· != c) = c :: (s.dropWhile (· != c)).drop 1 := by
    have hne : s.dropWhile (· != c) ≠ [] := by
      intro hnil
      have hall := List.dropWhile_eq_nil_iff.mp hnil c hmem
      simp at hall
    have hhead := List.head_dropWhile_not (· != c) hne
    obtain ⟨d, rest, hd⟩ := List.exists_cons_of_ne_nil hne
    simp only [hd, List.head_cons, bne_eq_false_iff_eq] at hhead
    rw [hd, hhead]
    rfl
  rw [← h.1, ← h.2, ← hrest, List.takeWhile_append_dropWhile]

/-- An ASCII byte of a character's encoding is that character. -/
theorem eq_of_mem_utf8EncodeChar {c d : Char} {byte : UInt8} (hd : byte.toNat = d.toNat)
    (hascii : d.toNat < 128) (hmem : byte ∈ String.utf8EncodeChar c) : c = d := by
  apply Char.toNat_inj.mp
  rw [toNat_eq_of_mem_utf8EncodeChar hmem (by omega), hd]

theorem notMem_asBytes {d : Char} {byte : UInt8} (hd : byte.toNat = d.toNat)
    (hascii : d.toNat < 128) {text : Str} (h : d ∉ text) : byte ∉ asBytes text := by
  intro hmem
  obtain ⟨c, hc, hbyte⟩ := List.mem_flatMap.mp hmem
  rw [eq_of_mem_utf8EncodeChar hd hascii hbyte] at hc
  exact h hc

/-- The bytes of lines, each with its break. -/
theorem asBytes_crlf_lines (lines : List Str) :
    asBytes (lines.flatMap (· ++ ['\r', '\n']))
      = (lines.map asBytes).flatMap (· ++ [13, 10]) := by
  induction lines with
  | nil => rfl
  | cons line lines ih =>
      rw [List.flatMap_cons, asBytes_append, ih, List.map_cons, List.flatMap_cons,
          asBytes_append]
      rfl

theorem asBytes_cons (c : Char) (text : Str) :
    asBytes (c :: text) = String.utf8EncodeChar c ++ asBytes text := rfl

theorem head_of_asBytes {d : Char} {byte : UInt8} (hd : byte.toNat = d.toNat)
    (hascii : d.toNat < 128) {text : Str} (h : (asBytes text).head? = some byte) :
    text.head? = some d := by
  cases text with
  | nil => cases h
  | cons c text =>
      have hne : String.utf8EncodeChar c ≠ [] := String.utf8EncodeChar_ne_nil
      rw [asBytes_cons, List.head?_append_of_ne_nil _ hne] at h
      exact congrArg some (eq_of_mem_utf8EncodeChar hd hascii (List.mem_of_mem_head? h))

/-- A character that does not start a line break is part of the first line. -/
theorem splitOnPair_asBytes_cons {c : Char} {text : Str}
    (h : c = '\r' → text.head? ≠ some '\n') :
    splitOnPair 13 10 (asBytes (c :: text))
      = (splitOnPair 13 10 (asBytes text)).modifyHead (String.utf8EncodeChar c ++ ·) := by
  rw [asBytes_cons]
  by_cases hc : c = '\r'
  · rw [hc]
    apply splitOnPair_cons
    intro _ hhead
    exact h hc (head_of_asBytes rfl (by decide) hhead)
  · apply splitOnPair_append_of_notMem
    intro hmem
    exact hc (eq_of_mem_utf8EncodeChar rfl (by decide) hmem)

/-- **The lines of a text and of its bytes**: a line break is ASCII. -/
theorem splitOnPair_asBytes (text : Str) :
    splitOnPair 13 10 (asBytes text) = (splitOnPair '\r' '\n' text).map asBytes := by
  induction text using splitOnPair.induct (a := '\r') (b := '\n') with
  | case1 => rfl
  | case2 c =>
      have hc : c = '\r' → ([] : Str).head? ≠ some '\n' := by
        intro _ hhead
        cases hhead
      rw [splitOnPair_asBytes_cons hc]
      rfl
  | case3 c d rest hbreak ih =>
      obtain ⟨rfl, rfl⟩ := hbreak
      rw [splitOnPair_break, List.map_cons, ← ih]
      exact splitOnPair_break
  | case4 c d rest hbreak ih =>
      have hc : c = '\r' → (d :: rest).head? ≠ some '\n' := by
        intro hc hhead
        injection hhead with hhead
        exact hbreak ⟨hc, hhead⟩
      obtain ⟨line, lines, hlines⟩ :=
        List.exists_cons_of_ne_nil (splitOnPair_ne_nil '\r' '\n' (d :: rest))
      rw [splitOnPair_asBytes_cons hc, splitOnPair_cons hc, ih, hlines]
      rfl

end Thwip.Lib
