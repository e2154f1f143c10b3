/-
  Thwip.Http.Grammar — the language of request heads (`run/slave/src/http.rs`).

  A head is spelled in many ways: with any ASCII whitespace between the words of its request
  line and around them, with header names in either case, and with blanks around the header
  values.  `parse_request_head` accepts exactly the heads that are spelled so, and gives back
  what they spell.
-/
import Mathlib.Data.List.Forall2
import Thwip.Http.LineBreaks
import Thwip.Lib.Words

namespace Thwip

open Thwip.Lib

/-! ## §1. The grammar. -/

def HttpVersion.text : HttpVersion → Str
  | .http10 => "HTTP/1.0".toList
  | .http11 => "HTTP/1.1".toList

/-- A method, a target and a version, with whitespace between them and around them. -/
structure SpellsRequestLine (line method target : Str) (version : HttpVersion) : Prop where
  method_token : TokenText method
  target_visible : VisibleText target
  words : Spaced (fun c : Char => isAsciiWhitespace c.toNat) [method, target, version.text] line

/-- A name in either case, a colon and a value with blanks around it. -/
inductive SpellsHeader : Str → Header → Prop where
  | line {name before value after : Str} (hname : TokenText name)
      (hbefore : ∀ c ∈ before, isOws c = true) (hafter : ∀ c ∈ after, isOws c = true)
      (htrimmed : trimMatches isOws value = value) (hbreak : Unbroken value) :
      SpellsHeader (name ++ ':' :: (before ++ (value ++ after)))
        { name := toAsciiLowercase name, value }

/-- A request line and header lines, with a line break between any two. -/
inductive SpellsHead (request : RequestHead) : Str → Prop where
  | lines {requestLine : Str} {lines : List Str} (hone : OneLine '\r' '\n' requestLine)
      (hrequest : SpellsRequestLine requestLine request.method request.target request.version)
      (hheaders : List.Forall₂ SpellsHeader lines request.headers) :
      SpellsHead request (joinLines '\r' '\n' (requestLine :: lines))

/-! ## §2. Lines. -/

/-- **The request lines that are accepted.** -/
theorem parseRequestLine_eq_ok {line method target : Str} {version : HttpVersion} :
    parseRequestLine line = .ok (method, target, version)
      ↔ SpellsRequestLine line method target version := by
  constructor
  · intro h
    obtain ⟨hmethod, htarget⟩ := parseRequestLine_clean h
    refine ⟨hmethod, htarget, splitAsciiWhitespace_eq_iff.mp ?_⟩
    unfold parseRequestLine at h
    split at h
    next m t v parts hsplit =>
      split_ifs at h with hparts hm ht hv hv'
      · have hnone : parts = [] := by simpa using hparts
        injection h with h
        cases h
        rw [hsplit, hv, hnone]
        rfl
      · have hnone : parts = [] := by simpa using hparts
        injection h with h
        cases h
        rw [hsplit, hv', hnone]
        rfl
    next => cases h
  · rintro ⟨hmethod, htarget, hwords⟩
    unfold parseRequestLine
    rw [splitAsciiWhitespace_eq_iff.mpr hwords]
    have htok : (asBytes method).all isToken = true := by
      rw [List.all_eq_true]
      exact hmethod.2
    have hctl : (asBytes target).any (fun byte => isAsciiControl byte.toNat) = false := by
      rw [any_control_byte, List.any_eq_false]
      exact fun c hc => Bool.eq_false_iff.mp (htarget.2 c hc).2
    have hne : target.isEmpty = false := by simpa using htarget.1
    have hother : "HTTP/1.1".toList ≠ "HTTP/1.0".toList := by decide
    simp only [htok, hctl, hne, List.isEmpty_nil, Bool.not_true, Bool.or_self, Bool.false_eq_true,
      if_false]
    cases version with
    | http10 => exact if_pos rfl
    | http11 => exact (if_neg hother).trans (if_pos rfl)

theorem isOws_unbroken {c : Char} (h : isOws c = true) : c ≠ '\r' ∧ c ≠ '\n' := by
  refine ⟨?_, ?_⟩
  · rintro rfl
    cases h
  · rintro rfl
    cases h

/-- **The header lines that are accepted.** -/
theorem parseHeader_eq_ok {line : Str} {header : Header} :
    parseHeader line = .ok header ↔ SpellsHeader line header := by
  constructor
  · intro h
    have hunbroken := parseHeader_unbroken h
    unfold parseHeader at h
    split at h
    · cases h
    next name value hsplit =>
      split at h
      · cases h
      next hchecks =>
        injection h with h
        subst h
        simp only [Bool.or_eq_true, not_or, Bool.not_eq_true, List.isEmpty_eq_false_iff,
          Bool.not_eq_false', List.all_eq_true] at hchecks
        have hline := eq_of_splitOnce hsplit
        obtain ⟨htrimmed, before, after, hbefore, hafter, hvalue⟩ :=
          trimMatches_eq_iff.mp (rfl : trimMatches isOws value = _)
        have hinside : ∀ c ∈ trimMatches isOws value, c ∈ line := by
          intro c hc
          rw [hline]
          exact List.mem_append_right _ (List.mem_cons_of_mem _ (mem_of_mem_trimMatches hc))
        have hspelled := SpellsHeader.line hchecks.1 hbefore hafter htrimmed
          ⟨fun hc => hunbroken.1 (hinside _ hc), fun hc => hunbroken.2 (hinside _ hc)⟩
        rw [← hvalue, ← hline] at hspelled
        exact hspelled
  · rintro ⟨hname, hbefore, hafter, htrimmed, hbreak⟩
    rename_i name before value after
    unfold parseHeader
    rw [splitOnce_append _ name (fun hc => (hname.not_separator _ hc).1 rfl)]
    have htok : (asBytes name).all isToken = true := by
      rw [List.all_eq_true]
      exact hname.2
    have hne : name.isEmpty = false := by simpa using hname.1
    have hnone : (before ++ (value ++ after)).any (fun c => c == '\r' || c == '\n') = false := by
      rw [List.any_eq_false]
      intro c hc
      have hother : c ≠ '\r' ∧ c ≠ '\n' := by
        rcases List.mem_append.mp hc with hc | hc
        · exact isOws_unbroken (hbefore c hc)
        · rcases List.mem_append.mp hc with hc | hc
          · exact ⟨fun heq => hbreak.1 (heq ▸ hc), fun heq => hbreak.2 (heq ▸ hc)⟩
          · exact isOws_unbroken (hafter c hc)
      simpa using hother
    have htrim : trimMatches isOws (before ++ (value ++ after)) = value :=
      trimMatches_eq_iff.mpr ⟨htrimmed, before, after, hbefore, hafter, rfl⟩
    simp only [hne, htok, hnone, htrim, Bool.not_true, Bool.or_self, Bool.false_eq_true, if_false]

theorem SpellsHeader.ne_nil {line : Str} {header : Header} (h : SpellsHeader line header) :
    line ≠ [] := by
  cases h
  simp

/-- Header lines none of which is empty. -/
theorem parseHeaders_eq_ok {lines : List Str} {headers : List Header}
    (hne : ∀ line ∈ lines, line ≠ []) :
    parseHeaders lines = .ok headers ↔ List.Forall₂ SpellsHeader lines headers := by
  induction lines generalizing headers with
  | nil =>
      rw [List.forall₂_nil_left_iff]
      constructor
      · intro h
        injection h with h
        exact h.symm
      · rintro rfl
        rfl
  | cons line lines ih =>
      obtain ⟨hline, hlines⟩ := List.forall_mem_cons.mp hne
      rw [parseHeaders, if_neg (by simpa using hline), List.forall₂_cons_left_iff]
      constructor
      · intro h
        cases hfirst : parseHeader line with
        | error error =>
            rw [hfirst] at h
            cases h
        | ok header =>
            cases hrest : parseHeaders lines with
            | error error =>
                rw [hfirst, hrest] at h
                cases h
            | ok others =>
                rw [hfirst, hrest] at h
                injection h with h
                exact ⟨header, others, parseHeader_eq_ok.mp hfirst, (ih hlines).mp hrest, h.symm⟩
      · rintro ⟨header, others, hfirst, hrest, rfl⟩
        rw [parseHeader_eq_ok.mpr hfirst, (ih hlines).mpr hrest]
        rfl

/-! ## §3. Heads. -/

theorem SpellsHeader.oneLine {line : Str} {header : Header} (h : SpellsHeader line header) :
    OneLine '\r' '\n' line :=
  .of_notMem (parseHeader_unbroken (parseHeader_eq_ok.mpr h)).1

/-- A head is spelled by its lines. -/
theorem spellsHead_iff {text : Str} {request : RequestHead} :
    SpellsHead request text ↔ ∃ requestLine lines,
      splitOnPair '\r' '\n' text = requestLine :: lines
        ∧ SpellsRequestLine requestLine request.method request.target request.version
        ∧ List.Forall₂ SpellsHeader lines request.headers := by
  constructor
  · rintro ⟨hone, hrequest, hheaders⟩
    rename_i requestLine lines
    refine ⟨requestLine, lines, ?_, hrequest, hheaders⟩
    refine splitOnPair_joinLines (by decide) (List.cons_ne_nil _ _) ?_
    rw [List.forall_mem_cons]
    refine ⟨hone, ?_⟩
    intro line hline
    obtain ⟨i, hi, rfl⟩ := List.getElem_of_mem hline
    exact (hheaders.get hi (hheaders.length_eq ▸ hi)).oneLine
  · rintro ⟨requestLine, lines, hlines, hrequest, hheaders⟩
    have htext := joinLines_splitOnPair '\r' '\n' text
    rw [hlines] at htext
    rw [← htext]
    exact .lines (oneLine_of_mem (hlines ▸ List.mem_cons_self)) hrequest hheaders

/-- No header line is empty. -/
theorem SpellsHead.tail_ne_nil {text : Str} {request : RequestHead} (h : SpellsHead request text) :
    ∀ line ∈ (splitOnPair '\r' '\n' text).tail, line ≠ [] := by
  obtain ⟨requestLine, lines, hlines, -, hheaders⟩ := spellsHead_iff.mp h
  rw [hlines]
  intro line hline
  obtain ⟨i, hi, rfl⟩ := List.getElem_of_mem hline
  exact (hheaders.get hi (hheaders.length_eq ▸ hi)).ne_nil

/-- A head with no empty header line. -/
theorem parseHead_eq_ok {text : Str} {request : RequestHead}
    (hne : ∀ line ∈ (splitOnPair '\r' '\n' text).tail, line ≠ []) :
    parseHead (asBytes text) = .ok request ↔ SpellsHead request text := by
  obtain ⟨requestLine, lines, hlines⟩ :=
    List.exists_cons_of_ne_nil (splitOnPair_ne_nil '\r' '\n' text)
  rw [spellsHead_iff, hlines]
  rw [hlines, List.tail_cons] at hne
  unfold parseHead
  rw [fromUtf8_asBytes]
  dsimp only
  rw [hlines]
  dsimp only
  constructor
  · intro h
    cases hfirst : parseRequestLine requestLine with
    | error error =>
        rw [hfirst] at h
        cases h
    | ok words =>
        obtain ⟨method, target, version⟩ := words
        cases hrest : parseHeaders lines with
        | error error =>
            rw [hfirst, hrest] at h
            cases h
        | ok headers =>
            rw [hfirst, hrest] at h
            injection h with h
            subst h
            exact ⟨requestLine, lines, rfl, parseRequestLine_eq_ok.mp hfirst,
              (parseHeaders_eq_ok hne).mp hrest⟩
  · rintro ⟨requestLine', lines', hsame, hrequest, hheaders⟩
    injection hsame with hfirst hrest
    subst hfirst hrest
    rw [parseRequestLine_eq_ok.mpr hrequest, (parseHeaders_eq_ok hne).mpr hheaders]
    rfl

/-- The blank line of a head is found exactly when no header line is empty. -/
theorem findHeadEnd_text_iff (text : Str) (rest : List UInt8) :
    findHeadEnd (asBytes text ++ headTerminator ++ rest) = some (asBytes text).length
      ↔ ∀ line ∈ (splitOnPair '\r' '\n' text).tail, line ≠ [] := by
  have hbytes : asBytes text ++ headTerminator ++ rest
      = asBytes text ++ 13 :: 10 :: 13 :: 10 :: rest := by
    rw [List.append_assoc]
    rfl
  rw [hbytes, findHeadEnd_eq_firstMatch]
  refine (firstMatch_blank_iff (by decide) (asBytes text) rest).trans ?_
  rw [splitOnPair_asBytes, ← List.map_tail]
  constructor
  · intro h line hline hnil
    exact h _ (List.mem_map_of_mem hline) (asBytes_eq_nil.mpr hnil)
  · intro h bytes hbytes hnil
    obtain ⟨line, hline, rfl⟩ := List.mem_map.mp hbytes
    exact h line hline (asBytes_eq_nil.mp hnil)

/-- **The parser accepts a language**: bytes are a complete request exactly when they start
with a spelling of it that fits, and a blank line. -/
theorem accepted_iff_spelled {bytes : List UInt8} {request : RequestHead} {consumed : Nat} :
    parseRequestHead bytes = .ok (.complete request consumed)
      ↔ ∃ text rest, SpellsHead request text ∧ (asBytes text).length ≤ maxRequestHeadSize
        ∧ bytes = asBytes text ++ headTerminator ++ rest
        ∧ consumed = (asBytes text).length + headTerminator.length := by
  constructor
  · intro h
    unfold parseRequestHead at h
    split at h
    · split at h <;> cases h
    next headEnd hend =>
      split_ifs at h with hsize
      cases hhead : parseHead (bytes.take headEnd) with
      | error error =>
          rw [hhead] at h
          cases h
      | ok parsed =>
          rw [hhead] at h
          injection h with h
          injection h with hrequest hconsumed
          subst hrequest
          obtain ⟨⟨rest, hrest⟩, -⟩ := findHeadEnd_eq_some_iff.mp hend
          have hle := findHeadEnd_some_le hend
          cases htext : fromUtf8 (bytes.take headEnd) with
          | none =>
              rw [parseHead, htext] at hhead
              cases hhead
          | some text =>
              have htake := asBytes_of_fromUtf8 htext
              have hlength : (asBytes text).length = headEnd := by
                rw [htake, List.length_take]
                omega
              have hbytes : bytes = asBytes text ++ headTerminator ++ rest := by
                rw [htake, List.append_assoc, hrest, List.take_append_drop]
              rw [hbytes, ← hlength, findHeadEnd_text_iff] at hend
              rw [← htake] at hhead
              refine ⟨text, rest, (parseHead_eq_ok hend).mp hhead, by omega, hbytes, ?_⟩
              rw [hlength, ← hconsumed]
              rfl
  · rintro ⟨text, rest, hspelled, hsize, rfl, rfl⟩
    have hne := hspelled.tail_ne_nil
    unfold parseRequestHead
    rw [(findHeadEnd_text_iff text rest).mpr hne]
    dsimp only
    rw [if_neg (by omega), List.append_assoc, List.take_left, (parseHead_eq_ok hne).mpr hspelled]
    rfl

end Thwip
