/-
  Thwip.Http.LineBreaks — which accepted heads have only whole line breaks.

  The head is cut at each CR LF.  A header line with a CR or an LF of its own is
  refused, but the request line is taken apart at any ASCII whitespace, and a lone
  CR or LF there counts as a space.
-/
import Thwip.Http.Clean
import Thwip.Http.Fragmentation
import Thwip.Lib.Lines

namespace Thwip

open Thwip.Lib

/-! ## §1. Header lines. -/

/-- No carriage return and no line feed. -/
def Unbroken (line : Str) : Prop := '\r' ∉ line ∧ '\n' ∉ line

theorem TokenText.unbroken {s : Str} (h : TokenText s) : Unbroken s := by
  refine ⟨?_, ?_⟩
  · intro hmem
    exact (h.not_separator _ hmem).2.1 rfl
  · intro hmem
    exact absurd (h.not_separator _ hmem).2.2 (by decide)

theorem parseHeader_unbroken {line : Str} {header : Header} (h : parseHeader line = .ok header) :
    Unbroken line := by
  unfold parseHeader at h
  split at h
  · cases h
  next name value hsplit =>
    split at h
    · cases h
    next hchecks =>
      simp only [Bool.or_eq_true, not_or, Bool.not_eq_true, List.isEmpty_eq_false_iff,
        Bool.not_eq_false', List.all_eq_true, List.any_eq_false, beq_iff_eq] at hchecks
      obtain ⟨⟨hne, htok⟩, hbreak⟩ := hchecks
      have hname : Unbroken name := TokenText.unbroken ⟨hne, htok⟩
      rw [eq_of_splitOnce hsplit]
      refine ⟨?_, ?_⟩
      · intro hmem
        rcases List.mem_append.mp hmem with hmem | hmem
        · exact hname.1 hmem
        · rcases List.mem_cons.mp hmem with hcolon | hmem
          · exact absurd hcolon (by decide)
          · exact (hbreak _ hmem).1 rfl
      · intro hmem
        rcases List.mem_append.mp hmem with hmem | hmem
        · exact hname.2 hmem
        · rcases List.mem_cons.mp hmem with hcolon | hmem
          · exact absurd hcolon (by decide)
          · exact (hbreak _ hmem).2 rfl

theorem parseHeaders_unbroken {lines : List Str} :
    ∀ {headers : List Header}, parseHeaders lines = .ok headers →
      ∀ line ∈ lines, Unbroken line := by
  induction lines with
  | nil =>
      intro headers _ line hmem
      cases hmem
  | cons line lines ih =>
      intro headers h other hother
      rw [parseHeaders] at h
      split at h
      next hempty =>
        rcases List.mem_cons.mp hother with rfl | hother
        · rw [List.isEmpty_iff.mp hempty]
          exact ⟨List.not_mem_nil, List.not_mem_nil⟩
        · exact ih h other hother
      next =>
        cases hline : parseHeader line with
        | error error =>
            rw [hline] at h
            cases h
        | ok header =>
            cases hlines : parseHeaders lines with
            | error error =>
                rw [hline, hlines] at h
                cases h
            | ok rest =>
                rcases List.mem_cons.mp hother with rfl | hother
                · exact parseHeader_unbroken hline
                · exact ih hlines other hother

/-! ## §2. The lines of an accepted head. -/

/-- What an accepted head is made of: its lines, and the blank line after them. -/
theorem parseRequestHead_lines {bytes : List UInt8} {request : RequestHead} {consumed : Nat}
    (h : parseRequestHead bytes = .ok (.complete request consumed)) :
    ∃ text requestLine lines rest, splitOnPair '\r' '\n' text = requestLine :: lines
      ∧ (∀ line ∈ lines, Unbroken line)
      ∧ bytes.take consumed = asBytes text ++ headTerminator
      ∧ bytes = asBytes text ++ headTerminator ++ rest := by
  unfold parseRequestHead at h
  split at h
  · split at h <;> cases h
  next headEnd hend =>
    split at h
    · cases h
    cases hhead : parseHead (bytes.take headEnd) with
    | error error =>
        rw [hhead] at h
        cases h
    | ok parsed =>
        rw [hhead] at h
        injection h with h
        injection h with hrequest hconsumed
        obtain ⟨⟨rest, hrest⟩, -⟩ := findHeadEnd_eq_some_iff.mp hend
        have hle := findHeadEnd_some_le hend
        unfold parseHead at hhead
        split at hhead
        · cases hhead
        next text htext =>
          have hbytes : bytes = asBytes text ++ headTerminator ++ rest := by
            rw [asBytes_of_fromUtf8 htext, List.append_assoc, hrest, List.take_append_drop]
          have hlength : (asBytes text ++ headTerminator).length = consumed := by
            rw [asBytes_of_fromUtf8 htext, List.length_append, List.length_take, ← hconsumed]
            show min headEnd bytes.length + 4 = headEnd + 4
            omega
          split at hhead
          · cases hhead
          next requestLine lines hlines =>
            refine ⟨text, requestLine, lines, rest, hlines, ?_, ?_, hbytes⟩
            · cases hrequestLine : parseRequestLine requestLine with
              | error error =>
                  rw [hrequestLine] at hhead
                  cases hhead
              | ok triple =>
                  cases hheaders : parseHeaders lines with
                  | error error =>
                      rw [hrequestLine, hheaders] at hhead
                      cases hhead
                  | ok headers => exact parseHeaders_unbroken hheaders
            · rw [← hlength]
              calc bytes.take (asBytes text ++ headTerminator).length
                  = (asBytes text ++ headTerminator ++ rest).take
                      (asBytes text ++ headTerminator).length := by rw [← hbytes]
                _ = asBytes text ++ headTerminator := List.take_left

/-- The bytes before the first CR LF. -/
def requestLineBytes (bytes : List UInt8) : List UInt8 := (splitOnPair 13 10 bytes).headD []

/-- **When an accepted head has only whole line breaks**: when its request line has no
carriage return and no line feed. -/
theorem accepted_breaks_whole_iff {bytes : List UInt8} {request : RequestHead} {consumed : Nat}
    (h : parseRequestHead bytes = .ok (.complete request consumed)) :
    Paired 13 10 (bytes.take consumed) ↔
      13 ∉ requestLineBytes bytes ∧ 10 ∉ requestLineBytes bytes := by
  obtain ⟨text, requestLine, lines, rest, hlines, hunbroken, htake, hbytes⟩ :=
    parseRequestHead_lines h
  have hsplit : ∀ after : List UInt8, splitOnPair 13 10 (asBytes text ++ headTerminator ++ after)
      = asBytes requestLine :: lines.map asBytes ++ [] :: splitOnPair 13 10 after := by
    intro after
    have hterminator : asBytes text ++ headTerminator ++ after
        = asBytes text ++ 13 :: 10 :: (13 :: 10 :: after) := by
      rw [List.append_assoc]
      rfl
    rw [hterminator, splitOnPair_append_break (by decide), splitOnPair_break, splitOnPair_asBytes,
      hlines]
    rfl
  have hfirst : requestLineBytes bytes = asBytes requestLine := by
    unfold requestLineBytes
    rw [hbytes, hsplit]
    rfl
  have hhead := hsplit []
  rw [List.append_nil] at hhead
  rw [hfirst, htake, paired_iff (by decide), hhead]
  constructor
  · intro hall
    exact hall _ (List.mem_append_left _ List.mem_cons_self)
  · intro hclean line hmem
    rcases List.mem_append.mp hmem with hmem | hmem
    · rcases List.mem_cons.mp hmem with rfl | hmem
      · exact hclean
      · obtain ⟨header, hheader, rfl⟩ := List.mem_map.mp hmem
        obtain ⟨hcr, hlf⟩ := hunbroken header hheader
        exact ⟨notMem_asBytes rfl (by decide) hcr, notMem_asBytes rfl (by decide) hlf⟩
    · have hnil : line = [] := by simpa [splitOnPair] using hmem
      rw [hnil]
      exact ⟨List.not_mem_nil, List.not_mem_nil⟩

/-- A head with a clean request line. -/
theorem accepted_breaks_whole_plain :
    Paired 13 10 ((asBytes "GET / HTTP/1.1\r\n\r\n".toList).take 18) := by
  have haccepted : parseRequestHead (asBytes "GET / HTTP/1.1\r\n\r\n".toList)
      = .ok (.complete ⟨"GET".toList, "/".toList, .http11, []⟩ 18) := by decide
  exact (accepted_breaks_whole_iff haccepted).mpr (by decide)

/-- A line feed between method and target: other readers see two lines. -/
theorem line_feed_is_accepted :
    ¬ ∀ (bytes : List UInt8) (request : RequestHead) (consumed : Nat),
      parseRequestHead bytes = .ok (.complete request consumed) →
      Paired 13 10 (bytes.take consumed) := by
  intro hall
  have haccepted : parseRequestHead (asBytes "GET\n/ HTTP/1.1\r\n\r\n".toList)
      = .ok (.complete ⟨"GET".toList, "/".toList, .http11, []⟩ 18) := by decide
  have hpaired := hall _ _ _ haccepted
  have hprevious := (hpaired.preceded 3 (by decide)).2
  revert hprevious
  decide

end Thwip
