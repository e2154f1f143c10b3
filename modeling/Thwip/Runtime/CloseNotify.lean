/-
  Thwip.Runtime.CloseNotify — the end of a TLS connection in both workers.

  A TLS client knows that a response is complete by the alert that closes the
  session.  Both workers send it after a response that was queued as a whole.
  After the last chunk of a file, and after the last chunk of an upstream's
  response, neither does.
-/
import Thwip.IoUring.CloseNotify
import Thwip.Readiness.CloseNotify
import Thwip.Runtime.Limits

namespace Thwip

open Thwip.Lib

variable {σ τ : Type}

/-- **A TLS connection whose response is complete is closed with an alert**, and
removed when all has been sent, in every run in which no file and no upstream ends
the response of a TLS connection; in the io_uring worker, all that the session ever
produced, if no id is given out again while a client send is in flight under it. -/
theorem complete_tls_response_is_closed (cfg : Readiness.Config σ) (ucfg : IoUring.Config τ) :
    (∀ w, Readiness.Reachable cfg w →
      (∀ item ∈ w.history, Readiness.endsNoTlsBody cfg.limits item = true) →
      ∀ id trace, Readiness.HistoryItem.removed id trace ∈ w.history →
        trace.head? = some (.accepted true) → Readiness.ClosesCleanly trace)
    ∧ ∀ w, IoUring.Reachable ucfg w → (∀ item ∈ w.history, IoUring.endsNoTlsBody item = true) →
      (∀ item ∈ w.history, IoUring.insertsOverNoSend item = true) →
      ∀ id trace ops, IoUring.HistoryItem.removed id trace ops ∈ w.history →
        trace.head? = some (.accepted true) → IoUring.ClosesCleanly trace := by
  constructor
  · intro w hw hguard id trace hremoved
    exact (((Readiness.closeRule cfg).rule.holds hw
      (fun item hitem => ⟨⟨trivial, trivial⟩, hguard item hitem⟩)).gone id trace hremoved).2
  · intro w hw hguard hinserts
    exact ((IoUring.closeRule ucfg).holds hw
      (fun item hitem => ⟨hguard item hitem, hinserts item hitem⟩)).gone

section Example

/-- The small session, for a worker that asks it again and again. -/
def toySession : Rustls IoUring.ToySession :=
  { IoUring.Rustls.toy 64 with
    read := fun s n =>
      if s.inbox.isEmpty then (.wouldBlock, s)
      else (.ok (s.inbox.take n), { s with inbox := s.inbox.drop n }) }

def toySocket : Readiness.SocketTls IoUring.ToySession where
  toRustls := toySession
  writeTlsTo s room := (s.outbox.take room, { s with outbox := s.outbox.drop room })
  writeTlsTo_le := by simp
  writeTlsTo_ne_nil := by
    intro s room hwants hroom
    cases houtbox : s.outbox with
    | nil => simp [toySession, IoUring.Rustls.toy, houtbox] at hwants
    | cons byte bytes => simp; omega

def tlsWorker (locations : List Location) : Readiness.Config IoUring.ToySession :=
  Readiness.Config.single toySocket (some ⟨0, 100⟩) Readiness.roomyLimits locations

def tlsUring (locations : List Location) : IoUring.Config IoUring.ToySession :=
  IoUring.Config.single (IoUring.Rustls.toy 64) (some ⟨0, 100⟩) locations

/-- A request for a file of one chunk, and two turns in which all is written. -/
def fetchFile : List Readiness.Event :=
  let written : Readiness.Io :=
    { Readiness.Io.quiet with writes := List.replicate 3 (.ok 4096), arrived := true }
  [Readiness.acceptOne, .poll,
   Readiness.firstReady .client true false
     { Readiness.Io.quiet with
       reads := [.ok (asBytes "GET / HTTP/1.1\r\n\r\n".toList)]
       staticStreamResponse := fun _ _ => .ok (oneChunk [65] (by decide)) },
   .poll, Readiness.firstReady .client false true written,
   .poll, Readiness.firstReady .client false true written]

/-- The same in the other worker. -/
def fetchFileUring (sends : List Nat) : List IoUring.Event :=
  let world : IoUring.World :=
    { IoUring.World.quiet with
      staticStreamResponse := fun _ _ => .ok (oneChunk [65] (by decide))
      arrived := fun _ => true }
  [.accepts 5,
   .completed 4 (.received (asBytes "GET / HTTP/1.1\r\n\r\n".toList)) [] world]
    ++ sends.map (fun n => .completed 4 (.plain n) [] world)

/-- Once the page is sent the alert is on record, and the connection still there. -/
example : IoUring.bootsTo (tlsUring []) .quiet (fetchFileUring [114]) (fun w =>
    (w.connections.get 0).any (fun occ => occ.log.contains .closeNotify)) = true := by
  decide +kernel

/-- Without a location the request is answered with a page, and the connection is
closed. -/
theorem complete_tls_response_is_closed_notFound :
    (∃ w, Readiness.Reachable (tlsWorker []) w
      ∧ ∃ id trace, Readiness.HistoryItem.removed id trace ∈ w.history
        ∧ trace.getLast? = some (.removed .delivered [] false)
        ∧ Readiness.ClosesCleanly trace)
    ∧ ∃ w, IoUring.Reachable (tlsUring []) w
      ∧ ∃ id trace ops, IoUring.HistoryItem.removed id trace ops ∈ w.history
        ∧ trace.getLast? = some (.removed .delivered)
        ∧ IoUring.ClosesCleanly trace := by
  have hrun : Readiness.bootsTo (tlsWorker []) fetchFile (fun w =>
      w.history.all (Readiness.endsNoTlsBody (tlsWorker []).limits)
        && w.history.any (Readiness.HistoryItem.removes (fun _ trace =>
          trace.head? == some (.accepted true)
            && trace.getLast? == some (.removed .delivered [] false)))) = true := by
    decide +kernel
  have hrun' : IoUring.bootsTo (tlsUring []) .quiet (fetchFileUring [114, 1]) (fun w =>
      w.history.all IoUring.endsNoTlsBody && w.history.all IoUring.insertsOverNoSend
        && w.history.any (IoUring.HistoryItem.removes (fun trace =>
          trace.head? == some (.accepted true)
            && trace.getLast? == some (.removed .delivered)))) = true := by
    decide +kernel
  obtain ⟨hready, huring⟩ := complete_tls_response_is_closed (tlsWorker []) (tlsUring [])
  constructor
  · obtain ⟨w, hw, hp⟩ := Readiness.reachable_of_bootsTo hrun
    simp only [Bool.and_eq_true, List.all_eq_true, Readiness.any_removes, beq_iff_eq] at hp
    obtain ⟨hguard, id, trace, hitem, hhead, hlast⟩ := hp
    exact ⟨w, hw, id, trace, hitem, hlast, hready w hw hguard id trace hitem hhead⟩
  · obtain ⟨w, hw, hp⟩ := IoUring.reachable_of_bootsTo hrun'
    simp only [Bool.and_eq_true, List.all_eq_true, IoUring.any_removes, beq_iff_eq] at hp
    obtain ⟨⟨hguard, hinserts⟩, id, trace, ops, hitem, hhead, hlast⟩ := hp
    exact ⟨w, hw, id, trace, ops, hitem, hlast,
      huring w hw hguard hinserts id trace ops hitem hhead⟩

/-- After a file, both workers drop the socket of the session as it is. -/
theorem file_ends_without_alert :
    (¬ ∀ w, Readiness.Reachable (tlsWorker serveAll) w →
      ∀ id trace, Readiness.HistoryItem.removed id trace ∈ w.history →
        trace.head? = some (.accepted true) → Readiness.ClosesCleanly trace)
    ∧ ¬ ∀ w, IoUring.Reachable (tlsUring serveAll) w →
      ∀ id trace ops, IoUring.HistoryItem.removed id trace ops ∈ w.history →
        trace.head? = some (.accepted true) → IoUring.ClosesCleanly trace := by
  constructor
  · intro hall
    have hrun : Readiness.bootsTo (tlsWorker serveAll) fetchFile (fun w =>
        w.history.any (Readiness.HistoryItem.removes (fun _ trace =>
          trace.head? == some (.accepted true)
            && trace.getLast? == some (.removed .streamFinished [] false)
            && !trace.contains .closeNotify))) = true := by
      decide +kernel
    obtain ⟨w, hw, hp⟩ := Readiness.reachable_of_bootsTo hrun
    simp only [Readiness.any_removes, Bool.and_eq_true, beq_iff_eq, Bool.not_eq_true'] at hp
    obtain ⟨id, trace, hitem, ⟨hhead, hlast⟩, hsilent⟩ := hp
    obtain ⟨log, site, unsent, wantsWrite, rfl, hclosed⟩ := hall w hw id trace hitem hhead
    rw [List.getLast?_concat] at hlast
    injection hlast with hlast
    injection hlast with hsite
    subst hsite
    have hmem : Readiness.Act.closeNotify ∈ log ++ [.removed .streamFinished unsent wantsWrite] :=
      List.mem_append_left _ (hclosed trivial).1
    rw [List.contains_iff_mem.mpr hmem] at hsilent
    cases hsilent
  · intro hall
    have hrun : IoUring.bootsTo (tlsUring serveAll) .quiet (fetchFileUring [19, 1]) (fun w =>
        w.history.any (IoUring.HistoryItem.removes (fun trace =>
          trace.head? == some (.accepted true)
            && trace.getLast? == some (.removed .streamFinished)
            && !trace.contains .closeNotify))) = true := by
      decide +kernel
    obtain ⟨w, hw, hp⟩ := IoUring.reachable_of_bootsTo hrun
    simp only [IoUring.any_removes, Bool.and_eq_true, beq_iff_eq, Bool.not_eq_true'] at hp
    obtain ⟨id, trace, ops, hitem, ⟨hhead, hlast⟩, hsilent⟩ := hp
    obtain ⟨log, site, rfl, hclosed⟩ := hall w hw id trace ops hitem hhead
    rw [List.getLast?_concat] at hlast
    injection hlast with hlast
    injection hlast with hsite
    subst hsite
    have hmem : IoUring.Act.closeNotify ∈ log ++ [.removed .streamFinished] :=
      List.mem_append_left _ (hclosed trivial).1
    rw [List.contains_iff_mem.mpr hmem] at hsilent
    cases hsilent

end Example

end Thwip
