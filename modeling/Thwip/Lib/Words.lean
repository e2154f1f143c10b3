/-
  Thwip.Lib.Words — what the splitting functions split.

  `Thwip.Lib.Text` has the functions.  Here are the texts they take apart: lines put
  together with breaks between them, words with spaces around them, and text with
  something to trim.  Each function is the inverse of the way a text is put together.
-/
import Thwip.Lib.Lines
import Thwip.Lib.Search

namespace Thwip.Lib

/-! ## §1. Lines. -/

section Joined

variable {α : Type*} {a b x : α} {l r line : List α} {lines : List (List α)}

/-- The lines with a break `a b` between any two. -/
def joinLines (a b : α) : List (List α) → List α
  | [] => []
  | [line] => line
  | line :: line' :: lines => line ++ a :: b :: joinLines a b (line' :: lines)

theorem joinLines_cons (hne : lines ≠ []) :
    joinLines a b (line :: lines) = line ++ a :: b :: joinLines a b lines := by
  cases lines with
  | nil => exact absurd rfl hne
  | cons line' lines => rfl

theorem joinLines_modifyHead (hne : lines ≠ []) :
    joinLines a b (lines.modifyHead (x :: ·)) = x :: joinLines a b lines := by
  match lines with
  | [line] => rfl
  | line :: line' :: lines => rfl

variable [DecidableEq α]

/-- The lines of a text, put together again. -/
theorem joinLines_splitOnPair (a b : α) (l : List α) : joinLines a b (splitOnPair a b l) = l := by
  induction l using splitOnPair.induct (a := a) (b := b) with
  | case1 => rfl
  | case2 x => rfl
  | case3 x y rest hbreak ih =>
      obtain ⟨rfl, rfl⟩ := hbreak
      rw [splitOnPair_break, joinLines_cons (splitOnPair_ne_nil _ _ _), ih]
      rfl
  | case4 x y rest hbreak ih =>
      rw [splitOnPair, if_neg hbreak, joinLines_modifyHead (splitOnPair_ne_nil _ _ _), ih]

/-- No break inside a line. -/
def OneLine (a b : α) (line : List α) : Prop := splitOnPair a b line = [line]

instance (a b : α) (line : List α) : Decidable (OneLine a b line) :=
  inferInstanceAs (Decidable (splitOnPair a b line = [line]))

theorem OneLine.of_notMem (h : a ∉ line) : OneLine a b line := splitOnPair_of_notMem line h

theorem OneLine.tail (h : OneLine a b (x :: l)) : OneLine a b l := by
  unfold OneLine at h ⊢
  cases l with
  | nil => rfl
  | cons y l =>
      rw [splitOnPair] at h
      split_ifs at h with hbreak
      · injection h with h
        cases h
      · obtain ⟨line, lines, hlines⟩ := List.exists_cons_of_ne_nil (splitOnPair_ne_nil a b (y :: l))
        rw [hlines, List.modifyHead_cons] at h
        injection h with hline hrest
        injection hline with _ hline
        rw [hlines, hline, hrest]

/-- A line does not start with a break. -/
theorem OneLine.head (h : OneLine a b (x :: l)) : x = a → l.head? ≠ some b := by
  intro hx hhead
  obtain ⟨l, rfl⟩ := List.head?_eq_some_iff.mp hhead
  rw [OneLine, hx, splitOnPair_break] at h
  injection h with h
  cases h

/-- Every line of a text is one line. -/
theorem oneLine_of_mem (h : line ∈ splitOnPair a b l) : OneLine a b line := by
  induction l using splitOnPair.induct (a := a) (b := b) generalizing line with
  | case1 =>
      rw [List.mem_singleton.mp h]
      rfl
  | case2 x =>
      rw [List.mem_singleton.mp h]
      rfl
  | case3 x y rest hbreak ih =>
      rw [splitOnPair, if_pos hbreak] at h
      rcases List.mem_cons.mp h with rfl | h
      · rfl
      · exact ih h
  | case4 x y rest hbreak ih =>
      obtain ⟨first, lines, hlines⟩ :=
        List.exists_cons_of_ne_nil (splitOnPair_ne_nil a b (y :: rest))
      rw [splitOnPair, if_neg hbreak, hlines, List.modifyHead_cons] at h
      rcases List.mem_cons.mp h with rfl | h
      · -- the first line starts as the text does
        have hfirst : OneLine a b first := ih (hlines ▸ List.mem_cons_self)
        have hjoin := joinLines_splitOnPair a b (y :: rest)
        have hhead : x = a → first.head? ≠ some b := by
          intro hx hb
          obtain ⟨first, rfl⟩ := List.head?_eq_some_iff.mp hb
          rw [hlines] at hjoin
          have hy : y = b := by
            cases lines with
            | nil =>
                injection hjoin with hy
                exact hy.symm
            | cons line lines =>
                injection hjoin with hy
                exact hy.symm
          exact hbreak ⟨hx, hy⟩
        rw [OneLine, splitOnPair_cons hhead, hfirst]
        rfl
      · exact ih (hlines ▸ List.mem_cons_of_mem _ h)

theorem splitOnPair_oneLine_append (hab : a ≠ b) (h : OneLine a b line) :
    splitOnPair a b (line ++ a :: b :: r) = line :: splitOnPair a b r := by
  induction line with
  | nil => exact splitOnPair_break
  | cons x line ih =>
      have hhead : x = a → (line ++ a :: b :: r).head? ≠ some b := by
        intro hx
        cases line with
        | nil =>
            intro hb
            injection hb with hb
            exact hab hb
        | cons y line => exact h.head hx
      rw [List.cons_append, splitOnPair_cons hhead, ih h.tail]
      rfl

/-- **Lines that are put together are taken apart again.** -/
theorem splitOnPair_joinLines (hab : a ≠ b) (hne : lines ≠ [])
    (h : ∀ line ∈ lines, OneLine a b line) : splitOnPair a b (joinLines a b lines) = lines := by
  induction lines with
  | nil => exact absurd rfl hne
  | cons line lines ih =>
      obtain ⟨hline, hlines⟩ := List.forall_mem_cons.mp h
      by_cases hlast : lines = []
      · subst hlast
        exact hline
      · rw [joinLines_cons hlast, splitOnPair_oneLine_append hab hline, ih hlast hlines]

/-- A break follows exactly when the first line is empty. -/
theorem blank_prefix_iff (hab : a ≠ b) (l r : List α) :
    [a, b, a, b] <+: a :: b :: (l ++ a :: b :: r) ↔ (splitOnPair a b l).head? = some [] := by
  rw [List.cons_prefix_cons, List.cons_prefix_cons]
  match l with
  | [] => simp [splitOnPair]
  | [x] =>
      rw [List.cons_append, List.nil_append, List.cons_prefix_cons, List.cons_prefix_cons]
      simp [splitOnPair, hab.symm]
  | x :: y :: l =>
      rw [List.cons_append, List.cons_append, List.cons_prefix_cons, List.cons_prefix_cons]
      obtain ⟨first, lines, hlines⟩ := List.exists_cons_of_ne_nil (splitOnPair_ne_nil a b (y :: l))
      rw [splitOnPair, hlines]
      split_ifs with hbreak
      · simp [hbreak.1, hbreak.2]
      · simp only [true_and, List.nil_prefix, and_true, List.modifyHead_cons, List.head?_cons,
          Option.some.injEq, reduceCtorEq, iff_false]
        exact fun hboth => hbreak ⟨hboth.1.symm, hboth.2.symm⟩

/-- The search goes on behind an element where the pattern does not start. -/
theorem firstMatch_cons_of_not {pat : List α} (h : ¬ pat <+: x :: l) :
    firstMatch pat (x :: l) = (firstMatch pat l).map (· + 1) := by
  rw [firstMatch, if_neg]
  rwa [List.isPrefixOf_iff_prefix]

theorem map_succ_eq_some_succ {o : Option Nat} {n : Nat} :
    o.map (· + 1) = some (n + 1) ↔ o = some n := by
  cases o <;> simp

/-- **The first blank line is the one at the end** just when no line but the first is
empty. -/
theorem firstMatch_blank_iff (hab : a ≠ b) (l r : List α) :
    firstMatch [a, b, a, b] (l ++ a :: b :: a :: b :: r) = some l.length
      ↔ ∀ line ∈ (splitOnPair a b l).tail, line ≠ [] := by
  have hhere : firstMatch [a, b, a, b] (a :: b :: a :: b :: r) = some 0 := by
    rw [firstMatch, if_pos]
    rw [List.isPrefixOf_iff_prefix]
    exact ⟨r, rfl⟩
  induction l using splitOnPair.induct (a := a) (b := b) with
  | case1 => simpa [splitOnPair] using hhere
  | case2 x =>
      have hnot : ¬ [a, b, a, b] <+: x :: a :: b :: a :: b :: r := by
        rw [List.cons_prefix_cons, List.cons_prefix_cons]
        exact fun hp => hab hp.2.1.symm
      rw [List.cons_append, List.nil_append, firstMatch_cons_of_not hnot, hhere]
      simp [splitOnPair]
  | case3 x y rest hbreak ih =>
      obtain ⟨rfl, rfl⟩ := hbreak
      have hblank := blank_prefix_iff hab rest (x :: y :: r)
      obtain ⟨first, lines, hlines⟩ := List.exists_cons_of_ne_nil (splitOnPair_ne_nil x y rest)
      rw [hlines, List.head?_cons, Option.some.injEq] at hblank
      rw [hlines, List.tail_cons] at ih
      rw [splitOnPair_break, List.tail_cons, hlines, List.forall_mem_cons]
      show firstMatch [x, y, x, y] (x :: y :: (rest ++ x :: y :: x :: y :: r))
        = some (rest.length + 1 + 1) ↔ _
      by_cases hfirst : first = []
      · rw [firstMatch, if_pos (List.isPrefixOf_iff_prefix.mpr (hblank.mpr hfirst))]
        simp [hfirst]
      · have hnot : ¬ [x, y, x, y] <+: y :: (rest ++ x :: y :: x :: y :: r) := by
          rw [List.cons_prefix_cons]
          exact fun hp => hab hp.1
        rw [firstMatch_cons_of_not (fun hp => hfirst (hblank.mp hp)), firstMatch_cons_of_not hnot,
          map_succ_eq_some_succ, map_succ_eq_some_succ]
        exact ih.trans (and_iff_right hfirst).symm
  | case4 x y rest hbreak ih =>
      have htail : (splitOnPair a b (x :: y :: rest)).tail = (splitOnPair a b (y :: rest)).tail := by
        rw [splitOnPair, if_neg hbreak]
        cases splitOnPair a b (y :: rest) <;> rfl
      have hnot : ¬ [a, b, a, b] <+: x :: (y :: rest ++ a :: b :: a :: b :: r) := by
        rw [List.cons_append, List.cons_prefix_cons, List.cons_prefix_cons]
        exact fun hp => hbreak ⟨hp.1.symm, hp.2.1.symm⟩
      rw [htail, List.cons_append, firstMatch_cons_of_not hnot, List.length_cons,
        map_succ_eq_some_succ]
      exact ih

end Joined

/-! ## §2. Words. -/

section Spaced

variable {α : Type*} {p : α → Bool} {x : α} {l word gap rest : List α} {words : List (List α)}

/-- The words, with spaces around them and some between any two. -/
inductive Spaced (p : α → Bool) : List (List α) → List α → Prop where
  | blank {gap : List α} (hgap : ∀ x ∈ gap, p x = true) : Spaced p [] gap
  | word {gap word rest : List α} {words : List (List α)} (hgap : ∀ x ∈ gap, p x = true)
      (hne : word ≠ []) (hword : ∀ x ∈ word, p x = false) (hrest : ∀ x ∈ rest.head?, p x = true)
      (h : Spaced p words rest) : Spaced p (word :: words) (gap ++ (word ++ rest))

/-- The non-empty pieces between spaces. -/
def wordsOf (p : α → Bool) (l : List α) : List (List α) :=
  (l.splitOnP p).filter (fun piece => !piece.isEmpty)

theorem wordsOf_nil (p : α → Bool) : wordsOf p [] = [] := by simp [wordsOf]

theorem wordsOf_gap (hgap : ∀ x ∈ gap, p x = true) (l : List α) :
    wordsOf p (gap ++ l) = wordsOf p l := by
  induction gap with
  | nil => rfl
  | cons x gap ih =>
      obtain ⟨hx, hgap⟩ := List.forall_mem_cons.mp hgap
      rw [List.cons_append, ← ih hgap]
      unfold wordsOf
      rw [List.splitOnP_cons_eq_if_modifyHead, if_pos hx]
      rfl

theorem wordsOf_word (hne : word ≠ []) (hword : ∀ x ∈ word, p x = false)
    (hrest : ∀ x ∈ rest.head?, p x = true) : wordsOf p (word ++ rest) = word :: wordsOf p rest := by
  cases rest with
  | nil =>
      rw [List.append_nil, wordsOf_nil]
      unfold wordsOf
      rw [List.splitOnP_eq_singleton hword]
      simp [hne]
  | cons y rest =>
      have hy : p y = true := hrest y rfl
      have hskip : wordsOf p ([y] ++ rest) = wordsOf p rest := wordsOf_gap (by simpa using hy) rest
      rw [List.singleton_append] at hskip
      rw [hskip]
      unfold wordsOf
      rw [List.splitOnP_append_cons_of_forall_mem hword y hy]
      simp [hne]

theorem Spaced.wordsOf_eq (h : Spaced p words l) : wordsOf p l = words := by
  induction h with
  | @blank gap hgap =>
      rw [← List.append_nil gap, wordsOf_gap hgap, wordsOf_nil]
  | word hgap hne hword hrest _ ih => rw [wordsOf_gap hgap, wordsOf_word hne hword hrest, ih]

/-- Every text has its words. -/
theorem spaced_wordsOf (p : α → Bool) (l : List α) : Spaced p (wordsOf p l) l := by
  induction hn : l.length using Nat.strong_induction_on generalizing l with
  | _ n ih =>
      subst hn
      have hgap : ∀ x ∈ l.takeWhile p, p x = true := fun x hx => List.mem_takeWhile_imp hx
      have hl : l = l.takeWhile p ++ l.dropWhile p := List.takeWhile_append_dropWhile.symm
      cases hfirst : l.dropWhile p with
      | nil =>
          rw [hfirst, List.append_nil] at hl
          rw [hl, ← List.append_nil (l.takeWhile p), wordsOf_gap hgap, wordsOf_nil, List.append_nil]
          exact .blank hgap
      | cons x tail =>
          have hx : p x = false := by
            have hhead := List.head_dropWhile_not p (l := l) (by rw [hfirst]; simp)
            simpa [hfirst] using hhead
          -- the first word, and what is left of the text
          have hword : ∀ y ∈ (x :: tail).takeWhile (fun y => !p y), p y = false := by
            intro y hy
            simpa using List.mem_takeWhile_imp hy
          have hne : (x :: tail).takeWhile (fun y => !p y) ≠ [] := by
            rw [List.takeWhile_cons_of_pos (by simpa using hx)]
            simp
          have hrest : ∀ y ∈ ((x :: tail).dropWhile (fun y => !p y)).head?, p y = true := by
            intro y hy
            have hnot := List.head?_dropWhile_not (fun y => !p y) (x :: tail)
            rw [hy] at hnot
            simpa using hnot
          have hsplit : x :: tail = (x :: tail).takeWhile (fun y => !p y)
              ++ (x :: tail).dropWhile (fun y => !p y) := List.takeWhile_append_dropWhile.symm
          have hshort : ((x :: tail).dropWhile (fun y => !p y)).length < l.length := by
            have hpos := List.length_pos_iff.mpr hne
            have hlengths := congrArg List.length hsplit
            have hwhole := congrArg List.length hl
            rw [List.length_append] at hlengths hwhole
            rw [hfirst] at hwhole
            omega
          have hrec := ih _ hshort _ rfl
          rw [hl, hfirst, hsplit, wordsOf_gap hgap, wordsOf_word hne hword hrest]
          exact .word hgap hne hword hrest hrec

/-- **The words of a text** are those it is put together from. -/
theorem wordsOf_eq_iff : wordsOf p l = words ↔ Spaced p words l :=
  ⟨fun h => h ▸ spaced_wordsOf p l, Spaced.wordsOf_eq⟩

end Spaced

theorem splitAsciiWhitespace_eq_iff {s : Str} {words : List Str} :
    splitAsciiWhitespace s = words ↔ Spaced (fun c : Char => isAsciiWhitespace c.toNat) words s :=
  wordsOf_eq_iff

/-! ## §3. Trimming. -/

theorem rdropWhile_append_of_forall {p : Char → Bool} {t after : Str}
    (hafter : ∀ c ∈ after, p c = true) : (t ++ after).rdropWhile p = t.rdropWhile p := by
  have hreverse : ∀ c ∈ after.reverse, p c = true :=
    fun c hc => hafter c (List.mem_reverse.mp hc)
  unfold List.rdropWhile
  rw [List.reverse_append, List.dropWhile_append_of_pos hreverse]

theorem dropWhile_of_trimmed {p : Char → Bool} {t : Str} (h : trimMatches p t = t) :
    t.dropWhile p = t := by
  have hshort := (List.rdropWhile_prefix p (t.dropWhile p)).length_le
  have hsuffix := List.dropWhile_suffix p (l := t)
  refine hsuffix.eq_of_length (le_antisymm hsuffix.length_le ?_)
  calc t.length = (trimMatches p t).length := by rw [h]
    _ ≤ (t.dropWhile p).length := hshort

/-- Nothing is trimmed off a text that neither begins nor ends with a match. -/
theorem trimMatches_eq_self_iff {p : Char → Bool} {t : Str} : trimMatches p t = t ↔
    (∀ c, t.head? = some c → p c = false) ∧ ∀ c, t.getLast? = some c → p c = false := by
  constructor
  · intro h
    have hdrop := dropWhile_of_trimmed h
    refine ⟨fun c hc => ?_, fun c hc => ?_⟩
    · have hhead := List.head?_dropWhile_not p t
      rw [hdrop, hc] at hhead
      exact hhead
    · have hlast := List.head?_dropWhile_not p t.reverse
      have hrdrop : t.rdropWhile p = t := by
        unfold trimMatches at h
        rwa [hdrop] at h
      have hreverse : t.reverse.dropWhile p = t.reverse := by
        rw [← List.reverse_reverse (t.reverse.dropWhile p)]
        exact congrArg List.reverse hrdrop
      rw [hreverse, List.head?_reverse, hc] at hlast
      exact hlast
  · rintro ⟨hfirst, hlast⟩
    unfold trimMatches
    cases t with
    | nil => rfl
    | cons c t =>
        rw [List.dropWhile_cons_of_neg (by simp [hfirst c rfl]), List.rdropWhile_eq_self_iff]
        intro hne
        simp [hlast _ (List.getLast?_eq_some_getLast hne)]

/-- Trimmed text is `t` when it is `t` with something to trim around it. -/
theorem trimMatches_eq_iff {p : Char → Bool} {s t : Str} :
    trimMatches p s = t ↔ trimMatches p t = t
      ∧ ∃ before after, (∀ c ∈ before, p c = true) ∧ (∀ c ∈ after, p c = true)
        ∧ s = before ++ (t ++ after) := by
  constructor
  · rintro rfl
    have hsplit : s.dropWhile p = trimMatches p s ++ ((s.dropWhile p).reverse.takeWhile p).reverse := by
      unfold trimMatches List.rdropWhile
      rw [← List.reverse_append, List.takeWhile_append_dropWhile, List.reverse_reverse]
    refine ⟨trimMatches_idem p s, s.takeWhile p, ((s.dropWhile p).reverse.takeWhile p).reverse,
      fun c hc => List.mem_takeWhile_imp hc, ?_, ?_⟩
    · intro c hc
      exact List.mem_takeWhile_imp (List.mem_reverse.mp hc)
    · rw [← hsplit, List.takeWhile_append_dropWhile]
  · rintro ⟨htrimmed, before, after, hbefore, hafter, rfl⟩
    have hdrop := dropWhile_of_trimmed htrimmed
    unfold trimMatches
    rw [List.dropWhile_append_of_pos hbefore]
    cases t with
    | nil =>
        have hall : after.dropWhile p = [] := List.dropWhile_eq_nil_iff.mpr hafter
        rw [List.nil_append, hall]
        rfl
    | cons c t =>
        have hc : ¬ p c = true := by
          intro hc
          rw [List.dropWhile_cons_of_pos hc] at hdrop
          have hlength := (List.dropWhile_sublist p (l := t)).length_le
          rw [hdrop, List.length_cons] at hlength
          omega
        rw [List.cons_append, List.dropWhile_cons_of_neg hc, ← List.cons_append,
          rdropWhile_append_of_forall hafter]
        unfold trimMatches at htrimmed
        rw [hdrop] at htrimmed
        exact htrimmed

end Thwip.Lib
