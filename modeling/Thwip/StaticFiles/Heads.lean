/-
  Thwip.StaticFiles.Heads — the heads of file responses, line by line.

  Every head is lines, a last line that closes the connection, and a blank line.  So
  the blank line that ends a head is always the first one, whatever the file is.
-/
import Thwip.Http.Fragmentation
import Thwip.StaticFiles.Response

namespace Thwip

open Thwip.Lib

/-! ## §1. Heads. -/

/-- The bytes end with their first blank line. -/
def EndsAtHead (bytes : List UInt8) : Prop := (findHeadEnd bytes).map (· + 4) = some bytes.length

instance (bytes : List UInt8) : Decidable (EndsAtHead bytes) :=
  inferInstanceAs (Decidable (_ = _))

/-- Lines and a blank line are a head; with more behind them they are not. -/
theorem endsAtHead_lines {lines : List Str} {last : Str}
    (hlines : ∀ line ∈ lines, IsLine line) (hlast : IsLine last) (rest : List UInt8) :
    EndsAtHead (asBytes (lines.flatMap (· ++ ['\r', '\n']) ++ last) ++ headTerminator ++ rest)
      ↔ rest = [] := by
  have hlength : headTerminator.length = 4 := rfl
  unfold EndsAtHead
  rw [findHeadEnd_lines hlines hlast rest, Option.map_some, List.length_append,
    List.length_append, hlength, ← List.length_eq_zero_iff]
  constructor
  · intro h
    injection h with h
    omega
  · intro h
    rw [h, Nat.add_zero]

/-- The digits of a number are no line breaks. -/
theorem cr_notMem_toDigits {b : Nat} (hb : 1 < b) (hsmall : b ≤ 16) (n : Nat) :
    '\r' ∉ Nat.toDigits b n := by
  have hdigit : ∀ d < 16, '\r' ≠ Nat.digitChar d := by decide
  induction n using Nat.strong_induction_on with
  | _ n ih =>
      rw [Nat.toDigits_eq_if hb]
      split_ifs with hlt
      · rw [List.mem_singleton]
        exact hdigit n (by omega)
      · intro hmem
        rcases List.mem_append.mp hmem with hmem | hmem
        · exact ih (n / b) (Nat.div_lt_self (by omega) hb) hmem
        · have hrest := Nat.mod_lt n (show 0 < b by omega)
          exact hdigit (n % b) (by omega) (List.mem_singleton.mp hmem)

theorem entityTag_noCr (metadata : Metadata) : '\r' ∉ entityTag metadata := by
  have hlen := cr_notMem_toDigits (b := 16) (by omega) (by omega) metadata.len
  have hmodified := cr_notMem_toDigits (b := 16) (by omega) (by omega) (metadata.modified.getD 0)
  unfold entityTag
  simp only [List.mem_append, not_or]
  exact ⟨⟨⟨⟨by decide, hlen⟩, by decide⟩, hmodified⟩, by decide⟩

theorem reasonPhrase_noCr (status : Nat) : '\r' ∉ reasonPhrase status := by
  unfold reasonPhrase
  split <;> decide

theorem contentType_noCr {guess : Path → Mime} {path : Path}
    (h : '\r' ∉ (guess path).essence) : '\r' ∉ contentType guess path := by
  unfold contentType
  dsimp only
  split_ifs
  · intro hmem
    rcases List.mem_append.mp hmem with hmem | hmem
    · exact h hmem
    · revert hmem
      decide
  · exact h

/-! ## §2. The rendered responses, line by line. -/

/-- The last line of every head. -/
def closeLine : Str := "Connection: close".toList

theorem closeLine_isLine : IsLine closeLine := ⟨by decide, by decide⟩

/-- The lines of a generated response. -/
def responseLines (status : Nat) (contentType : Str) (length : Nat) : List Str :=
  ["HTTP/1.1 ".toList ++ Nat.toDigits 10 status ++ " ".toList ++ reasonPhrase status,
    "Content-Type: ".toList ++ contentType,
    "Content-Length: ".toList ++ Nat.toDigits 10 length]

theorem responseBytesWithBody_eq (status : Nat) (contentType : Str) (body : List UInt8)
    (includeBody : Bool) :
    responseBytesWithBody status contentType body includeBody
      = asBytes ((responseLines status contentType body.length).flatMap (· ++ ['\r', '\n'])
          ++ closeLine) ++ headTerminator ++ if includeBody then body else [] := by
  have htype : "\r\nContent-Type: ".toList = ['\r', '\n'] ++ "Content-Type: ".toList := rfl
  have hlength : "\r\nContent-Length: ".toList = ['\r', '\n'] ++ "Content-Length: ".toList := rfl
  have hclose : "\r\nConnection: close\r\n\r\n".toList
      = ['\r', '\n'] ++ closeLine ++ ['\r', '\n', '\r', '\n'] := rfl
  have hblank : headTerminator = asBytes ['\r', '\n', '\r', '\n'] := rfl
  unfold responseBytesWithBody responseLines
  rw [htype, hlength, hclose, hblank, ← asBytes_append]
  simp only [List.flatMap_cons, List.flatMap_nil, List.append_assoc, List.append_nil]

theorem responseLines_isLine {status : Nat} {contentType : Str} {length : Nat}
    (h : '\r' ∉ contentType) : ∀ line ∈ responseLines status contentType length, IsLine line := by
  have hstatus : IsLine "HTTP/1.1 ".toList := ⟨by decide, by decide⟩
  have htype : IsLine "Content-Type: ".toList := ⟨by decide, by decide⟩
  have hlength : IsLine "Content-Length: ".toList := ⟨by decide, by decide⟩
  have hdigits (n : Nat) := cr_notMem_toDigits (b := 10) (by omega) (by omega) n
  intro line hmem
  simp only [responseLines, List.mem_cons, List.not_mem_nil, or_false] at hmem
  rcases hmem with rfl | rfl | rfl
  · exact ((hstatus.append (hdigits status)).append (by decide)).append (reasonPhrase_noCr status)
  · exact htype.append h
  · exact hlength.append (hdigits length)

/-- A generated response is a head alone just when its body is left out or empty. -/
theorem responseBytesWithBody_endsAtHead {status : Nat} {contentType : Str}
    (h : '\r' ∉ contentType) (body : List UInt8) (includeBody : Bool) :
    EndsAtHead (responseBytesWithBody status contentType body includeBody)
      ↔ includeBody = false ∨ body = [] := by
  rw [responseBytesWithBody_eq, endsAtHead_lines (responseLines_isLine h) closeLine_isLine]
  cases includeBody
  · exact ⟨fun _ => Or.inl rfl, fun _ => rfl⟩
  · simp

/-- No error is answered with a head alone. -/
theorem staticErrorResponse_endsAtHead (error : StaticError) :
    ¬ EndsAtHead (staticErrorResponse error) := by
  have hplain : ∀ (status : Nat) (body : List UInt8), body ≠ [] →
      ¬ EndsAtHead (responseBytesWithBody status "text/plain; charset=utf-8".toList body true) := by
    intro status body hbody hends
    rcases (responseBytesWithBody_endsAtHead (by decide) body true).mp hends with h | h
    · cases h
    · exact hbody h
  cases error <;> exact hplain _ _ (by decide)

/-- The lines of the answer to a client that has the file, before the last. -/
def notModifiedLines (etag : Str) : List Str :=
  ["HTTP/1.1 304 Not Modified".toList, "ETag: ".toList ++ etag,
    "Cache-Control: public, max-age=3600".toList]

theorem notModifiedHead_eq (etag : Str) :
    notModifiedHead etag
      = (notModifiedLines etag).flatMap (· ++ ['\r', '\n']) ++ closeLine
        ++ ['\r', '\n', '\r', '\n'] := by
  have hfirst : "HTTP/1.1 304 Not Modified\r\nETag: ".toList
      = "HTTP/1.1 304 Not Modified".toList ++ (['\r', '\n'] ++ "ETag: ".toList) := rfl
  have hrest : "\r\nCache-Control: public, max-age=3600\r\nConnection: close\r\n\r\n".toList
      = ['\r', '\n'] ++ ("Cache-Control: public, max-age=3600".toList ++ (['\r', '\n']
        ++ (closeLine ++ ['\r', '\n', '\r', '\n']))) := rfl
  unfold notModifiedHead notModifiedLines
  rw [hfirst, hrest]
  simp only [List.flatMap_cons, List.flatMap_nil, List.append_assoc, List.nil_append]

theorem notModifiedLines_isLine {etag : Str} (h : '\r' ∉ etag) :
    ∀ line ∈ notModifiedLines etag, IsLine line := by
  have hetag : IsLine "ETag: ".toList := ⟨by decide, by decide⟩
  intro line hmem
  simp only [notModifiedLines, List.mem_cons, List.not_mem_nil, or_false] at hmem
  rcases hmem with rfl | rfl | rfl
  · exact ⟨by decide, by decide⟩
  · exact hetag.append h
  · exact ⟨by decide, by decide⟩

/-- The lines of a file's head before the last. -/
def fileLines (contentType etag : Str) (length : Nat) (part : Part) : List Str :=
  ["HTTP/1.1 ".toList ++ Nat.toDigits 10 part.status ++ " ".toList
      ++ (if part.status = 206 then "Partial Content".toList else "OK".toList),
    "Content-Type: ".toList ++ contentType,
    "Content-Length: ".toList ++ Nat.toDigits 10 (part.responseLength length),
    "Accept-Ranges: bytes".toList,
    "ETag: ".toList ++ etag,
    "Cache-Control: public, max-age=3600".toList]
  ++ if part.status = 206 then
      ["Content-Range: bytes ".toList ++ Nat.toDigits 10 part.start ++ "-".toList
        ++ Nat.toDigits 10 part.last ++ "/".toList ++ Nat.toDigits 10 length]
    else []

theorem fileHead_eq (contentType etag : Str) (length : Nat) (part : Part) :
    fileHead contentType etag length part
      = (fileLines contentType etag length part).flatMap (· ++ ['\r', '\n']) ++ closeLine
        ++ ['\r', '\n', '\r', '\n'] := by
  have htype : "\r\nContent-Type: ".toList = ['\r', '\n'] ++ "Content-Type: ".toList := rfl
  have hlength : "\r\nContent-Length: ".toList = ['\r', '\n'] ++ "Content-Length: ".toList := rfl
  have haccept : "\r\nAccept-Ranges: bytes\r\nETag: ".toList
      = ['\r', '\n'] ++ ("Accept-Ranges: bytes".toList ++ (['\r', '\n'] ++ "ETag: ".toList)) := rfl
  have hcache : "\r\nCache-Control: public, max-age=3600\r\n".toList
      = ['\r', '\n'] ++ ("Cache-Control: public, max-age=3600".toList ++ ['\r', '\n']) := rfl
  have hbreak : "\r\n".toList = ['\r', '\n'] := rfl
  have hclose : "Connection: close\r\n\r\n".toList
      = closeLine ++ ['\r', '\n', '\r', '\n'] := rfl
  unfold fileHead fileLines
  rw [htype, hlength, haccept, hcache, hbreak, hclose]
  split_ifs <;>
    simp only [List.flatMap_append, List.flatMap_cons, List.flatMap_nil, List.append_assoc,
      List.append_nil]

theorem fileLines_isLine {contentType etag : Str} {length : Nat} {part : Part}
    (htype : '\r' ∉ contentType) (hetag : '\r' ∉ etag) :
    ∀ line ∈ fileLines contentType etag length part, IsLine line := by
  have hdigits (n : Nat) := cr_notMem_toDigits (b := 10) (by omega) (by omega) n
  have hstatus : IsLine "HTTP/1.1 ".toList := ⟨by decide, by decide⟩
  have htypeLine : IsLine "Content-Type: ".toList := ⟨by decide, by decide⟩
  have hlengthLine : IsLine "Content-Length: ".toList := ⟨by decide, by decide⟩
  have hetagLine : IsLine "ETag: ".toList := ⟨by decide, by decide⟩
  have hrangeLine : IsLine "Content-Range: bytes ".toList := ⟨by decide, by decide⟩
  intro line hmem
  rcases List.mem_append.mp hmem with hmem | hmem
  · simp only [List.mem_cons, List.not_mem_nil, or_false] at hmem
    rcases hmem with rfl | rfl | rfl | rfl | rfl | rfl
    · refine ((hstatus.append (hdigits part.status)).append (by decide)).append ?_
      split_ifs <;> decide
    · exact htypeLine.append htype
    · exact hlengthLine.append (hdigits _)
    · exact ⟨by decide, by decide⟩
    · exact hetagLine.append hetag
    · exact ⟨by decide, by decide⟩
  · split_ifs at hmem
    · rw [List.mem_singleton.mp hmem]
      exact ((((hrangeLine.append (hdigits _)).append (by decide)).append (hdigits _)).append
        (by decide)).append (hdigits _)
    · cases hmem

/-- A text of lines, of the last line and of the blank one. -/
theorem endsAtHead_text {lines : List Str} (hlines : ∀ line ∈ lines, IsLine line) :
    EndsAtHead (asBytes (lines.flatMap (· ++ ['\r', '\n']) ++ closeLine
      ++ ['\r', '\n', '\r', '\n'])) := by
  have hblank : headTerminator = asBytes ['\r', '\n', '\r', '\n'] := rfl
  have hends := (endsAtHead_lines hlines closeLine_isLine []).mpr rfl
  rw [List.append_nil, hblank, ← asBytes_append] at hends
  exact hends

theorem notModifiedHead_endsAtHead {etag : Str} (h : '\r' ∉ etag) :
    EndsAtHead (asBytes (notModifiedHead etag)) := by
  rw [notModifiedHead_eq]
  exact endsAtHead_text (notModifiedLines_isLine h)

theorem fileHead_endsAtHead {contentType etag : Str} {length : Nat} {part : Part}
    (htype : '\r' ∉ contentType) (hetag : '\r' ∉ etag) :
    EndsAtHead (asBytes (fileHead contentType etag length part)) := by
  rw [fileHead_eq]
  exact endsAtHead_text (fileLines_isLine htype hetag)

end Thwip
