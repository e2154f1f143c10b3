/-
  Thwip.Runtime.HalfClose — a client that waits for its response in silence.

  A client may close its sending side once its request is out.  The readiness
  worker answers it if it looks while the response is in the write buffer; while
  the response is still being fetched, or waits for the next chunk of a file, it
  takes the close for the end of the client.
-/
import Thwip.Readiness.HalfClose
import Thwip.Runtime.CloseNotify

namespace Thwip

open Thwip.Lib

variable {σ : Type}

/-- **No connection is removed on account of a half-close before its response is
written**, in every run in which the half-close of a client whose request was
received is noticed only then, or while bytes of the response are in the write
buffer. -/
theorem half_close_waits_for_response (cfg : Readiness.Config σ)
    {w : Readiness.ReadinessWorker σ} (h : Readiness.Reachable cfg w)
    (hguard : ∀ item ∈ w.history, Readiness.halfCloseAfterAnswer cfg.tls.toRustls item = true) :
    Throughout (Readiness.OutlastsHalfClose cfg.tls.toRustls) w.history :=
  h.outlastsHalfClose hguard

section Example

/-- A plaintext worker, next to the small session. -/
def toyPlain (locations : List Location) : Readiness.Config IoUring.ToySession :=
  Readiness.Config.single toySocket none Readiness.roomyLimits locations

/-- A request, and then the half-close, which the poller reports at once. -/
def requestThenHalfClose : List Readiness.Event :=
  [Readiness.acceptOne, .poll,
   .ready { token := ((Readiness.firstId.token usizeBits .client).toOption).getD 0
            readable := true, writable := false, error := false, readClosed := true
            writeClosed := false } [] []
     (fun _ => { Readiness.Io.quiet with
       reads := [.ok (asBytes "GET / HTTP/1.1\r\n\r\n".toList), .ok []] }),
   .poll]

/-- The half-close is noticed, and the page is still to be written. -/
example : Readiness.bootsTo (toyPlain []) requestThenHalfClose (fun w =>
    (w.connections.get 0).any (fun occ => occ.connection.isWritingResponse)) = true := by
  decide +kernel

/-- A page that is in the write buffer is written after the half-close. -/
theorem half_close_waits_for_response_page :
    ∃ w, Readiness.Reachable (toyPlain []) w
      ∧ Throughout (Readiness.OutlastsHalfClose toySession) w.history
      ∧ ∃ id trace, .removed id trace ∈ w.history
        ∧ trace.getLast? = some (.removed .delivered [] false) := by
  have hrun : Readiness.bootsTo (toyPlain [])
      (requestThenHalfClose ++ [Readiness.firstReady .client false true
        { Readiness.Io.quiet with writes := [.ok 4096] }])
      (fun w => w.history.all (Readiness.halfCloseAfterAnswer toySession)
        && w.history.any (Readiness.HistoryItem.removes (fun _ trace =>
          trace.getLast? == some (.removed .delivered [] false)))) = true := by
    decide +kernel
  obtain ⟨w, hw, hp⟩ := Readiness.reachable_of_bootsTo hrun
  simp only [Bool.and_eq_true, List.all_eq_true, Readiness.any_removes, beq_iff_eq] at hp
  obtain ⟨hguard, id, trace, hitem, hlast⟩ := hp
  exact ⟨w, hw, half_close_waits_for_response (toyPlain []) hw hguard, id, trace, hitem, hlast⟩

/-- A client whose request is with the resolver is removed when it closes its
sending side. -/
theorem half_close_drops_request :
    ¬ ∀ w, Readiness.Reachable (toyPlain Readiness.proxyAll) w →
      Throughout (Readiness.OutlastsHalfClose toySession) w.history := by
  intro hall
  have hrun : Readiness.bootsTo (toyPlain Readiness.proxyAll) requestThenHalfClose
      (fun w => w.history.all (Readiness.HistoryItem.finds (fun c => !c.answered toySession))
        && w.history.any (Readiness.HistoryItem.removes (fun _ trace =>
          trace.any Readiness.Act.isDispatch
            && trace.getLast? == some (.removed (.clientClosed true) [] false)))) = true := by
    decide +kernel
  obtain ⟨w, hw, hp⟩ := Readiness.reachable_of_bootsTo hrun
  rw [Bool.and_eq_true, List.all_eq_true, Readiness.any_removes] at hp
  obtain ⟨hunanswered, id, trace, hitem, hlast⟩ := hp
  rw [Bool.and_eq_true, beq_iff_eq] at hlast
  obtain ⟨hdispatched, hlast⟩ := hlast
  obtain ⟨before, after, hhistory⟩ := List.append_of_mem hitem
  obtain ⟨log, site, unsent, wantsWrite, rfl, houtlasts⟩ := hall w hw before _ after hhistory
  rw [List.getLast?_concat] at hlast
  injection hlast with hlast
  injection hlast with hsite
  subst hsite
  rw [List.any_append] at hdispatched
  obtain ⟨_, _, found, c, hturn, hfound, -, hanswered⟩ :=
    houtlasts (by simpa [Readiness.Act.isDispatch] using hdispatched) rfl
  have hnot := hunanswered _ (by
    rw [hhistory]
    exact List.mem_append_left _ (List.mem_of_getLast? hturn))
  simp [Readiness.HistoryItem.finds, hfound, hanswered] at hnot

end Example

end Thwip
