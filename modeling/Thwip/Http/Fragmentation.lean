/-
  Thwip.Http.Fragmentation — does the verdict on a request head depend on how
  the network cut it?

  The parser is called on a growing buffer.  Once the blank line is in the
  buffer its verdict is fixed; before that it is `Incomplete` — unless the
  buffer is already longer than the limit.  That early check counts bytes of
  the terminator which the later check (`head_end`) does not count, so a cut
  inside the blank line of a head of just the allowed size changes the verdict.
  `verdict_stable_iff_clean_cuts` says that these cuts are the only ones.
-/
import Thwip.Http.Request
import Thwip.Lib.Lines

namespace Thwip

open Thwip.Lib

/-! ## §1. Where the head ends. -/

/-- The first blank line of `b` starts at byte `h`. -/
def HeadEndsAt (b : List UInt8) (h : Nat) : Prop :=
  headTerminator <+: b.drop h ∧ ∀ k < h, ¬ headTerminator <+: b.drop k

theorem findHeadEnd_eq_firstMatch (b : List UInt8) :
    findHeadEnd b = firstMatch headTerminator b :=
  findIdx?_windows headTerminator b

theorem findHeadEnd_eq_some_iff {b : List UInt8} {h : Nat} :
    findHeadEnd b = some h ↔ HeadEndsAt b h := by
  rw [findHeadEnd_eq_firstMatch]
  exact firstMatch_eq_some_iff (by decide) b h

theorem findHeadEnd_some_le {b : List UInt8} {h : Nat} (hb : findHeadEnd b = some h) :
    h + 4 ≤ b.length := by
  rw [findHeadEnd_eq_firstMatch] at hb
  exact firstMatch_some_le (show headTerminator ≠ [] by decide) hb

theorem findHeadEnd_append {p : List UInt8} {h : Nat} (s : List UInt8)
    (hp : findHeadEnd p = some h) : findHeadEnd (p ++ s) = some h := by
  rw [findHeadEnd_eq_firstMatch] at hp ⊢
  exact firstMatch_append_some _ s p h hp

theorem findHeadEnd_of_append {p s : List UInt8} {h : Nat}
    (hb : findHeadEnd (p ++ s) = some h) (hle : h + 4 ≤ p.length) :
    findHeadEnd p = some h := by
  rw [findHeadEnd_eq_firstMatch] at hb ⊢
  exact firstMatch_of_append_some (by decide) s p h hb hle

/-- A line of a head: something, and without a carriage return. -/
def IsLine (line : Str) : Prop := '\r' ∉ line ∧ line ≠ []

theorem IsLine.append {line more : Str} (h : IsLine line) (hmore : '\r' ∉ more) :
    IsLine (line ++ more) := by
  refine ⟨?_, ?_⟩
  · intro hmem
    rcases List.mem_append.mp hmem with hmem | hmem
    · exact h.1 hmem
    · exact hmore hmem
  · intro hnil
    exact h.2 (List.append_eq_nil_iff.mp hnil).1

theorem IsLine.bytes {line : Str} (h : IsLine line) :
    (13 : UInt8) ∉ asBytes line ∧ asBytes line ≠ [] :=
  ⟨notMem_asBytes rfl (by decide) h.1, fun hnil => h.2 (asBytes_eq_nil.mp hnil)⟩

/-- Of a head made of lines, the first blank line is the one after the last of them. -/
theorem findHeadEnd_lines {lines : List Str} {last : Str}
    (hlines : ∀ line ∈ lines, IsLine line) (hlast : IsLine last) (rest : List UInt8) :
    findHeadEnd (asBytes (lines.flatMap (· ++ ['\r', '\n']) ++ last) ++ headTerminator ++ rest)
      = some (asBytes (lines.flatMap (· ++ ['\r', '\n']) ++ last)).length := by
  rw [findHeadEnd_eq_firstMatch, asBytes_append, asBytes_crlf_lines]
  refine firstMatch_lines (by decide) _ rest hlast.bytes.1 hlast.bytes.2 _ ?_
  intro bytes hmem
  obtain ⟨line, hline, rfl⟩ := List.mem_map.mp hmem
  exact (hlines line hline).bytes

/-! ## §2. The verdict, case by case. -/

/-- The size error comes from the size checks only. -/
theorem parseRequestLine_ne_headTooLarge (line : Str) (n : Nat) :
    parseRequestLine line ≠ .error (.headTooLarge n) := by
  unfold parseRequestLine
  split
  · split_ifs <;> simp
  · simp

theorem parseHeader_ne_headTooLarge (line : Str) (n : Nat) :
    parseHeader line ≠ .error (.headTooLarge n) := by
  unfold parseHeader
  split
  · simp
  · split_ifs <;> simp

theorem parseHeaders_ne_headTooLarge (n : Nat) :
    ∀ (lines : List Str), parseHeaders lines ≠ .error (.headTooLarge n)
  | [] => by simp [parseHeaders]
  | line :: lines => by
      rw [parseHeaders]
      split
      · exact parseHeaders_ne_headTooLarge n lines
      · intro h
        cases hl : parseHeader line with
        | error e =>
            rw [hl] at h
            injection h with h
            exact parseHeader_ne_headTooLarge line n (by rw [hl, h])
        | ok header =>
            rw [hl] at h
            cases hls : parseHeaders lines with
            | error e =>
                rw [hls] at h
                injection h with h
                exact parseHeaders_ne_headTooLarge n lines (by rw [hls, h])
            | ok headers =>
                rw [hls] at h
                cases h

theorem parseHead_ne_headTooLarge (head : List UInt8) (n : Nat) :
    parseHead head ≠ .error (.headTooLarge n) := by
  unfold parseHead
  split
  · simp
  · split
    · simp
    next requestLine lines _ =>
      intro h
      cases hr : parseRequestLine requestLine with
      | error e =>
          rw [hr] at h
          injection h with h
          exact parseRequestLine_ne_headTooLarge requestLine n (by rw [hr, h])
      | ok r =>
          rw [hr] at h
          cases hls : parseHeaders lines with
          | error e =>
              rw [hls] at h
              injection h with h
              exact parseHeaders_ne_headTooLarge n lines (by rw [hls, h])
          | ok headers =>
              rw [hls] at h
              cases h

/-- Once the blank line has been received, later bytes do not matter. -/
theorem parseRequestHead_append_of_found {p : List UInt8} {h : Nat} (s : List UInt8)
    (hp : findHeadEnd p = some h) :
    parseRequestHead (p ++ s) = parseRequestHead p := by
  have hle := findHeadEnd_some_le hp
  unfold parseRequestHead
  rw [findHeadEnd_append s hp, hp]
  dsimp only
  rw [List.take_append_of_le_length (by omega)]

/-- **A complete verdict is final.** -/
theorem parseRequestHead_append_complete {p : List UInt8} {request : RequestHead}
    {consumed : Nat} (s : List UInt8)
    (hp : parseRequestHead p = .ok (.complete request consumed)) :
    parseRequestHead (p ++ s) = .ok (.complete request consumed) := by
  cases hf : findHeadEnd p with
  | some h => rw [parseRequestHead_append_of_found s hf, hp]
  | none =>
      exfalso
      unfold parseRequestHead at hp
      rw [hf] at hp
      dsimp only at hp
      split at hp <;> cases hp

/-- Before the blank line only the buffer's length decides. -/
theorem parseRequestHead_of_not_found {p : List UInt8} (hp : findHeadEnd p = none) :
    parseRequestHead p
      = if p.length > maxRequestHeadSize then .error (.headTooLarge maxRequestHeadSize)
        else .ok .incomplete := by
  unfold parseRequestHead
  rw [hp]

theorem parseRequestHead_of_too_large {b : List UInt8} {h : Nat}
    (hb : findHeadEnd b = some h) (hlt : maxRequestHeadSize < h) :
    parseRequestHead b = .error (.headTooLarge maxRequestHeadSize) := by
  unfold parseRequestHead
  rw [hb]
  dsimp only
  rw [if_pos hlt]

/-- Within the limit a head is never rejected for its size. -/
theorem parseRequestHead_ne_headTooLarge {b : List UInt8} {h : Nat}
    (hb : findHeadEnd b = some h) (hle : h ≤ maxRequestHeadSize) (n : Nat) :
    parseRequestHead b ≠ .error (.headTooLarge n) := by
  unfold parseRequestHead
  rw [hb]
  dsimp only
  rw [if_neg (by omega)]
  intro hp
  cases hh : parseHead (b.take h) with
  | error e =>
      rw [hh] at hp
      injection hp with hp
      exact parseHead_ne_headTooLarge _ n (by rw [hh, hp])
  | ok r =>
      rw [hh] at hp
      cases hp

/-! ## §3. Which cuts change the verdict. -/

/-- The verdicts on a prefix `p` and on the whole `p ++ s` agree: a complete
head is incomplete or the same on the prefix, and an error on the prefix is
the error of the whole. -/
def StableSplit (p s : List UInt8) : Prop :=
  (∀ request consumed, parseRequestHead (p ++ s) = .ok (.complete request consumed) →
    parseRequestHead p = .ok .incomplete
      ∨ parseRequestHead p = .ok (.complete request consumed))
  ∧ ∀ e, parseRequestHead p = .error e → parseRequestHead (p ++ s) = .error e

/-- The cut falls inside the blank line of a head of allowed size, past the
limit. -/
def CutInTerminator (p s : List UInt8) : Prop :=
  ∃ h, HeadEndsAt (p ++ s) h ∧ h ≤ maxRequestHeadSize
    ∧ maxRequestHeadSize < p.length ∧ p.length < h + 4

/-- Away from those cuts the prefix is incomplete or has the final verdict. -/
theorem parseRequestHead_of_clean_cut {p s : List UInt8} (hcut : ¬ CutInTerminator p s) :
    parseRequestHead p = .ok .incomplete
      ∨ parseRequestHead p = parseRequestHead (p ++ s) := by
  cases hp : findHeadEnd p with
  | some h => exact Or.inr (parseRequestHead_append_of_found s hp).symm
  | none =>
      rw [parseRequestHead_of_not_found hp]
      by_cases hlong : p.length > maxRequestHeadSize
      · right
        rw [if_pos hlong]
        cases hb : findHeadEnd (p ++ s) with
        | none =>
            rw [parseRequestHead_of_not_found hb,
                if_pos (by rw [List.length_append]; omega)]
        | some h =>
            have hshort : p.length < h + 4 := by
              by_contra hle
              rw [findHeadEnd_of_append hb (by omega)] at hp
              cases hp
            have hbig : maxRequestHeadSize < h := by
              by_contra hsmall
              exact hcut ⟨h, findHeadEnd_eq_some_iff.mp hb, by omega, hlong, hshort⟩
            rw [parseRequestHead_of_too_large hb hbig]
      · exact Or.inl (if_neg hlong)

/-- At such a cut the prefix is refused for its size, and the whole is not. -/
theorem parseRequestHead_cut {p s : List UInt8} (hcut : CutInTerminator p s) :
    parseRequestHead p = .error (.headTooLarge maxRequestHeadSize)
      ∧ parseRequestHead (p ++ s) ≠ .error (.headTooLarge maxRequestHeadSize)
      ∧ parseRequestHead (p ++ s) ≠ .ok .incomplete := by
  obtain ⟨h, hends, hle, hlong, hshort⟩ := hcut
  have hb := findHeadEnd_eq_some_iff.mpr hends
  have hp : findHeadEnd p = none := by
    cases hp : findHeadEnd p with
    | none => rfl
    | some k =>
        have hk := findHeadEnd_some_le hp
        have heq := findHeadEnd_append s hp
        rw [hb] at heq
        injection heq with heq
        omega
  refine ⟨?_, parseRequestHead_ne_headTooLarge hb hle _, ?_⟩
  · rw [parseRequestHead_of_not_found hp, if_pos hlong]
  · unfold parseRequestHead
    rw [hb]
    dsimp only
    rw [if_neg (by omega)]
    cases parseHead ((p ++ s).take h) <;> simp [Bind.bind, Except.bind, Pure.pure, Except.pure]

/-- A bad cut further on needs a prefix that was still incomplete. -/
theorem parseRequestHead_incomplete_of_later_cut {p q s : List UInt8}
    (hcut : ¬ CutInTerminator p (q ++ s)) (hlater : CutInTerminator (p ++ q) s) :
    parseRequestHead p = .ok .incomplete := by
  obtain ⟨h, hends, hle, hlong, hshort⟩ := hlater
  rw [List.append_assoc] at hends
  rw [List.length_append] at hlong hshort
  have hb := findHeadEnd_eq_some_iff.mpr hends
  cases hp : findHeadEnd p with
  | some k =>
      have hk := findHeadEnd_some_le hp
      have heq := findHeadEnd_append (q ++ s) hp
      rw [hb] at heq
      injection heq with heq
      omega
  | none =>
      rw [parseRequestHead_of_not_found hp]
      refine if_neg (fun hp => hcut ?_)
      exact ⟨h, hends, hle, hp, by omega⟩

theorem stableSplit_of_not_cut {p s : List UInt8} (hcut : ¬ CutInTerminator p s) :
    StableSplit p s := by
  rcases parseRequestHead_of_clean_cut hcut with hp | hp
  · refine ⟨fun _ _ _ => Or.inl hp, fun e he => ?_⟩
    rw [hp] at he
    cases he
  · refine ⟨fun request consumed hb => Or.inr (hp.trans hb), fun e he => ?_⟩
    rw [← hp]
    exact he

theorem not_stableSplit_of_cut {p s : List UInt8} (hcut : CutInTerminator p s) :
    ¬ StableSplit p s := by
  obtain ⟨hp, hb, _⟩ := parseRequestHead_cut hcut
  intro hstable
  exact hb (hstable.2 _ hp)

/-! ## §4. The verdict of a run of appends. -/

/-- Call the parser after every append to `buffer` until it decides. -/
def parseAppends (buffer : List UInt8) :
    List (List UInt8) → Except ParseError RequestHeadParse
  | [] => .ok .incomplete
  | chunk :: chunks =>
      match parseRequestHead (buffer ++ chunk) with
      | .ok .incomplete => parseAppends (buffer ++ chunk) chunks
      | verdict => verdict

/-- No append of the run stops inside the blank line past the limit. -/
def CleanAppends (buffer : List UInt8) (chunks : List (List UInt8)) : Prop :=
  ∀ received pending, chunks = received ++ pending → received ≠ [] →
    ¬ CutInTerminator (buffer ++ received.flatten) pending.flatten

theorem cleanAppends_cons {buffer chunk : List UInt8} {chunks : List (List UInt8)} :
    CleanAppends buffer (chunk :: chunks)
      ↔ ¬ CutInTerminator (buffer ++ chunk) chunks.flatten
        ∧ CleanAppends (buffer ++ chunk) chunks := by
  constructor
  · intro h
    refine ⟨?_, ?_⟩
    · have := h [chunk] chunks rfl (by simp)
      simpa using this
    · rintro received pending rfl hne
      have := h (chunk :: received) pending rfl (by simp)
      simpa using this
  · rintro ⟨hcut, hrest⟩ received pending heq hne
    cases received with
    | nil => exact absurd rfl hne
    | cons c received =>
        injection heq with hc heq
        subst hc
        cases received with
        | nil =>
            obtain rfl : chunks = pending := heq
            simpa using hcut
        | cons c' received =>
            have := hrest (c' :: received) pending heq (by simp)
            simpa using this

/-- **A run of appends decides as the parser decides on all its bytes**,
exactly when no append stops inside the blank line past the limit. -/
theorem parseAppends_eq_iff :
    ∀ (chunks : List (List UInt8)) (buffer : List UInt8), chunks ≠ [] →
      (parseAppends buffer chunks = parseRequestHead (buffer ++ chunks.flatten)
        ↔ CleanAppends buffer chunks)
  | [], _, hne => absurd rfl hne
  | chunk :: chunks, buffer, _ => by
      rw [cleanAppends_cons, List.flatten_cons, ← List.append_assoc]
      by_cases hcut : CutInTerminator (buffer ++ chunk) chunks.flatten
      · -- the run stops here with the size error, the whole text does not
        obtain ⟨hp, hb, _⟩ := parseRequestHead_cut hcut
        rw [parseAppends, hp]
        simp only [hcut, not_true_eq_false, false_and, iff_false]
        exact fun h => hb h.symm
      · simp only [hcut, not_false_eq_true, true_and]
        have hclean : chunks = [] → CleanAppends (buffer ++ chunk) chunks := by
          rintro rfl received pending heq hne
          exact absurd (List.append_eq_nil_iff.mp heq.symm).1 hne
        by_cases hp : parseRequestHead (buffer ++ chunk) = .ok .incomplete
        · rw [parseAppends, hp]
          cases chunks with
          | nil => exact ⟨fun _ => hclean rfl, fun _ => by simp [parseAppends, hp]⟩
          | cons c chunks =>
              exact parseAppends_eq_iff (c :: chunks) (buffer ++ chunk) (by simp)
        · -- decided here: the verdict is final and no later cut can be a bad one
          have hfinal := (parseRequestHead_of_clean_cut hcut).resolve_left hp
          have hrun : parseAppends buffer (chunk :: chunks)
              = parseRequestHead (buffer ++ chunk) := by
            rw [parseAppends]
            split
            next h => exact absurd h hp
            next => rfl
          rw [hrun, hfinal]
          simp only [true_iff]
          rintro received pending rfl hne hlater
          rw [List.flatten_append] at hcut
          exact hp (parseRequestHead_incomplete_of_later_cut hcut hlater)

/-! ## §5. The result, and a head that is cut badly. -/

/-- **FRAGMENTATION.**  Verdicts agree across a cut, and a run of appends
decides like one call on all the bytes, exactly when no cut falls inside the
blank line of a head of allowed size past the limit. -/
theorem verdict_stable_iff_clean_cuts (p s : List UInt8) (chunks : List (List UInt8)) :
    (StableSplit p s ↔ ¬ CutInTerminator p s)
    ∧ (parseAppends [] chunks = parseRequestHead chunks.flatten
        ↔ CleanAppends [] chunks) := by
  refine ⟨⟨fun h hcut => not_stableSplit_of_cut hcut h, stableSplit_of_not_cut⟩, ?_⟩
  cases chunks with
  | nil =>
      refine ⟨fun _ received pending heq hne => ?_, fun _ => by decide⟩
      exact absurd (List.append_eq_nil_iff.mp heq.symm).1 hne
  | cons chunk chunks => exact parseAppends_eq_iff (chunk :: chunks) [] (by simp)

/-- A head of exactly `maxRequestHeadSize` bytes: a request line and one long
header line. -/
def fullSizeHead : List UInt8 :=
  [asBytes "GET / HTTP/1.1".toList].flatMap (· ++ [13, 10])
    ++ (asBytes "A:".toList ++ List.replicate 16366 97)

theorem fullSizeHead_length : fullSizeHead.length = maxRequestHeadSize := by
  unfold fullSizeHead
  rw [List.length_append, List.length_append, List.length_replicate]
  decide

theorem fullSizeHead_endsAt (rest : List UInt8) :
    HeadEndsAt (fullSizeHead ++ headTerminator ++ rest) maxRequestHeadSize := by
  rw [← findHeadEnd_eq_some_iff, findHeadEnd_eq_firstMatch, ← fullSizeHead_length]
  refine firstMatch_lines (by decide) _ rest ?_ (by decide) _ (by decide)
  rw [List.mem_append, List.mem_replicate]
  decide

/-- Received in one piece it is not too large; cut after the first byte of its
blank line it is. -/
theorem fullSizeHead_cut_unstable :
    ¬ StableSplit (fullSizeHead ++ [13]) [10, 13, 10] := by
  apply not_stableSplit_of_cut
  refine ⟨maxRequestHeadSize, ?_, le_refl _, ?_, ?_⟩
  · have h := fullSizeHead_endsAt []
    rw [List.append_nil] at h
    rw [List.append_assoc]
    exact h
  · rw [List.length_append, fullSizeHead_length]
    decide
  · rw [List.length_append, fullSizeHead_length]
    decide

end Thwip
