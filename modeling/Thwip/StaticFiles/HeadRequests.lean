/-
  Thwip.StaticFiles.HeadRequests — what a `HEAD` request for a file is answered with.

  Where a file is found the method is looked at, and the body is left out.  The errors
  are rendered without it, always with their text, so a `HEAD` request is answered with
  a head alone just when it is not answered with an error.
-/
import Thwip.StaticFiles.Heads

namespace Thwip

open Thwip.Lib

/-! ## §1. What is sent. -/

/-- All the thread of a stream delivers. -/
def StaticStream.delivered (self : StaticStream) : List UInt8 :=
  (self.chunks.filterMap id).flatten

/-- The head and what is streamed behind it. -/
def StaticStreamResponse.bytes (self : StaticStreamResponse) : List UInt8 :=
  self.head ++ self.stream.elim [] StaticStream.delivered

/-- What goes to the client: the response, or the page of the error. -/
def streamedBytes (answer : Except StaticError StaticStreamResponse) : List UInt8 :=
  match answer with
  | .error error => staticErrorResponse error
  | .ok response => response.bytes

/-- There is a file to stream: the target resolves, and either the client has the file
already or the part it asks for exists. -/
def Streamable (fs : FileSystem) (root : Path) (request : RequestHead) : Prop :=
  ∃ path metadata, resolveStaticPath fs root request.target = .ok (path, metadata)
    ∧ (matchesTag request (entityTag metadata) = true
      ∨ ∃ range, requestedRange request metadata.len = .ok range)

/-- There is a file to hold in memory: the target resolves, to a file that is small
enough and can be read. -/
def HeldInMemory (fs : FileSystem) (root : Path) (rawTarget : Str) : Prop :=
  ∃ path metadata bytes, resolveStaticPath fs root rawTarget = .ok (path, metadata)
    ∧ metadata.len ≤ maxInMemoryStaticFileSize ∧ fs.read path = .ok bytes

/-! ## §2. Answers to `HEAD`. -/

section Head

variable {fs : FileSystem} {guess : Path → Mime} {root : Path}

/-- A `HEAD` request is streamed an answer just when there is something to stream, and
that answer is a head. -/
theorem staticStreamResponse_head {request : RequestHead} (hmethod : request.method = "HEAD".toList)
    (hguess : ∀ path, '\r' ∉ (guess path).essence) :
    (∃ error, staticStreamResponse fs guess root request = .error error
      ∧ ¬ Streamable fs root request)
    ∨ (∃ response, staticStreamResponse fs guess root request = .ok response
      ∧ Streamable fs root request ∧ response.stream = none ∧ EndsAtHead response.head) := by
  have hget : ¬ request.method = "GET".toList := by
    rw [hmethod]
    decide
  cases hresolve : resolveStaticPath fs root request.target with
  | error error =>
      refine Or.inl ⟨error, staticStreamResponse_unresolved (Or.inr hmethod) hresolve, ?_⟩
      rintro ⟨path, metadata, hfound, -⟩
      rw [hresolve] at hfound
      cases hfound
  | ok found =>
      obtain ⟨path, metadata⟩ := found
      rw [staticStreamResponse_resolved (Or.inr hmethod) hresolve]
      by_cases htag : matchesTag request (entityTag metadata) = true
      · rw [if_pos htag]
        exact Or.inr ⟨_, rfl, ⟨path, metadata, hresolve, Or.inl htag⟩, rfl,
          notModifiedHead_endsAtHead (entityTag_noCr metadata)⟩
      rw [if_neg htag]
      cases hrange : requestedRange request metadata.len with
      | error error =>
          refine Or.inl ⟨error, rfl, ?_⟩
          rintro ⟨path', metadata', hfound, hcase⟩
          obtain ⟨rfl, rfl⟩ := Prod.mk.inj (Except.ok.inj (hresolve.symm.trans hfound))
          rcases hcase with hcase | ⟨range, hcase⟩
          · exact htag hcase
          · cases hrange.symm.trans hcase
      | ok range =>
          exact Or.inr ⟨_, rfl, ⟨path, metadata, hresolve, Or.inr ⟨range, hrange⟩⟩,
            if_neg (fun h => hget h.1),
            fileHead_endsAtHead (contentType_noCr (hguess path)) (entityTag_noCr metadata)⟩

/-- In memory a `HEAD` request is answered with a head just when the file is held. -/
theorem staticResponseBytes_head {rawTarget : Str} (hguess : ∀ path, '\r' ∉ (guess path).essence) :
    EndsAtHead (staticResponseBytes fs guess root "HEAD".toList rawTarget)
      ↔ HeldInMemory fs root rawTarget := by
  have hallowed : ¬ ("HEAD".toList ≠ "GET".toList ∧ "HEAD".toList ≠ "HEAD".toList) := by
    intro h
    exact h.2 rfl
  have hserve : serveStatic fs guess root "HEAD".toList rawTarget
      = (resolveStaticPath fs root rawTarget).bind (fun found =>
          if found.2.len > maxInMemoryStaticFileSize then .error .tooLarge
          else (mapErr (fs.read found.1)).map (fun bytes =>
            { bytes, contentType := contentType guess found.1, contentLength := found.2.len })) := by
    unfold serveStatic
    rw [if_neg hallowed]
    rfl
  unfold staticResponseBytes
  rw [hserve]
  cases hresolve : resolveStaticPath fs root rawTarget with
  | error error =>
      refine iff_of_false (staticErrorResponse_endsAtHead error) ?_
      rintro ⟨path, metadata, bytes, hfound, -⟩
      cases hresolve.symm.trans hfound
  | ok found =>
      obtain ⟨path, metadata⟩ := found
      dsimp only [Except.bind]
      by_cases hlarge : metadata.len > maxInMemoryStaticFileSize
      · rw [if_pos hlarge]
        refine iff_of_false (staticErrorResponse_endsAtHead _) ?_
        rintro ⟨path', metadata', bytes, hfound, hsmall, -⟩
        obtain ⟨rfl, rfl⟩ := Prod.mk.inj (Except.ok.inj (hresolve.symm.trans hfound))
        omega
      rw [if_neg hlarge]
      cases hread : fs.read path with
      | error kind =>
          refine iff_of_false (staticErrorResponse_endsAtHead _) ?_
          rintro ⟨path', metadata', bytes, hfound, -, hbytes⟩
          obtain ⟨rfl, rfl⟩ := Prod.mk.inj (Except.ok.inj (hresolve.symm.trans hfound))
          cases hread.symm.trans hbytes
      | ok bytes =>
          refine iff_of_true ?_ ⟨path, metadata, bytes, hresolve, by omega, hread⟩
          exact (responseBytesWithBody_endsAtHead (contentType_noCr (hguess path)) bytes _).mpr
            (Or.inl rfl)

/-- **A `HEAD` request is answered with a head alone just when it is not answered with an
error.** -/
theorem head_requests_without_body_iff (hguess : ∀ path, '\r' ∉ (guess path).essence)
    {request : RequestHead} (hmethod : request.method = "HEAD".toList) :
    (EndsAtHead (streamedBytes (staticStreamResponse fs guess root request))
        ↔ Streamable fs root request)
      ∧ (EndsAtHead (staticResponseBytes fs guess root request.method request.target)
        ↔ HeldInMemory fs root request.target) := by
  refine ⟨?_, ?_⟩
  · have hcases : (∃ error, staticStreamResponse fs guess root request = .error error
        ∧ ¬ Streamable fs root request) ∨ _ := staticStreamResponse_head hmethod hguess
    rcases hcases with ⟨error, hanswer, hnot⟩ | ⟨response, hanswer, hfile, hstream, hends⟩
    · rw [hanswer]
      exact iff_of_false (staticErrorResponse_endsAtHead error) hnot
    · rw [hanswer]
      refine iff_of_true ?_ hfile
      show EndsAtHead (response.head ++ response.stream.elim [] StaticStream.delivered)
      rw [hstream, Option.elim_none, List.append_nil]
      exact hends
  · rw [hmethod]
    exact staticResponseBytes_head hguess

end Head

/-! ## §3. A file and a missing one. -/

def headRequest (target : Str) : RequestHead :=
  { method := "HEAD".toList, target, version := .http11, headers := [] }

theorem head_requests_without_body_page :
    EndsAtHead (streamedBytes (staticStreamResponse oneFile plainText (asBytes "/srv".toList)
      (headRequest "/page".toList))) := by
  have hpage : resolveStaticPath oneFile (asBytes "/srv".toList) "/page".toList
      = .ok (asBytes "/srv/page".toList, ⟨2, false, true, some 7⟩) := by decide +kernel
  have hessence : '\r' ∉ "text/plain".toList := by decide
  refine (head_requests_without_body_iff (fun _ => hessence) rfl).1.mpr ?_
  exact ⟨_, _, hpage, Or.inr ⟨none, rfl⟩⟩

/-- The file that does not exist: both answers carry the text of their error. -/
theorem head_request_gets_error_text :
    ¬ EndsAtHead (streamedBytes (staticStreamResponse oneFile plainText (asBytes "/srv".toList)
        (headRequest "/other".toList)))
      ∧ ¬ EndsAtHead (staticResponseBytes oneFile plainText (asBytes "/srv".toList)
        "HEAD".toList "/other".toList) := by
  decide +kernel

end Thwip
