/-
  Thwip.Runtime.LocalAnswers — a response of the worker's own, as the client gets it.

  While the next chunk of a file is not there, the client's socket is registered for
  reading.  What it sends then is appended to the request, and is answered with a page
  of its own as soon as it does not fit: in the middle of the file.
-/
import Thwip.Readiness.LocalAnswers
import Thwip.Runtime.Limits

namespace Thwip

open Thwip.Lib

variable {σ : Type}

/-- **A client that is answered by the worker gets one response.**  In every run in which
what is sent to a connection that serves a file fits in its read buffer, a plaintext
connection that proxied nothing gave its client the first bytes of one response, if the
heads of its files are within the write limit. -/
theorem local_answer_is_one_response (cfg : Readiness.Config σ) {w : Readiness.ReadinessWorker σ}
    (h : Readiness.Reachable cfg w)
    (hfits : ∀ item ∈ w.history, Readiness.inputFits cfg.limits item = true) :
    (∀ slot occ, w.connections.get slot = some occ → occ.connection.ssl = none →
        .proxied ∉ occ.log → occ.log.all (Readiness.Act.headFits cfg.limits) = true →
        Readiness.AnsweredOnce occ.log)
      ∧ ∀ id trace, Readiness.HistoryItem.removed id trace ∈ w.history →
        trace.head? = some (.accepted false) → .proxied ∉ trace →
        trace.all (Readiness.Act.headFits cfg.limits) = true → Readiness.AnsweredOnce trace := by
  have hholds := (Readiness.answersRule cfg).rule.holds h
    (fun item hitem => ⟨⟨⟨trivial, trivial⟩, trivial⟩, hfits item hitem⟩)
  constructor
  · intro slot occ hget hssl hlocal hheads
    obtain ⟨⟨⟨-, -, hroute⟩, houtput⟩, hanswers⟩ := hholds.live slot occ hget
    have hsaid := (houtput hssl).2
    have hgives := hanswers hssl
    rw [Readiness.seat_log hget] at hroute hsaid hgives
    exact (hgives hheads).once hroute hsaid hlocal
  · intro id trace hremoved hhead hlocal hheads
    exact (hholds.gone id trace hremoved).2 hhead hheads hlocal

section Example

/-- A worker that serves files, whose requests are at most so long. -/
def smallReader (maxReadBufferSize : Nat) : Readiness.Config Unit :=
  Readiness.Config.single Readiness.SocketTls.absent none
    { Readiness.roomyLimits with maxReadBufferSize } serveAll

theorem fileChunk_ne_nil : ([65] : List UInt8) ≠ [] := List.cons_ne_nil 65 []

/-- A file is asked for, and its head is written before its chunk is there.  The client
sends so many bytes more; then the rest is written. -/
def sendWhileServed (bytes : Nat) : List Readiness.Event :=
  let written : Readiness.Io :=
    { Readiness.Io.quiet with writes := [.ok 4096], arrived := true }
  [Readiness.acceptOne, .poll,
   Readiness.firstReady .client true false
     { Readiness.Io.quiet with
       reads := [.ok (asBytes "GET / HTTP/1.1\r\n\r\n".toList)]
       staticStreamResponse := fun _ _ => .ok (oneChunk [65] fileChunk_ne_nil) },
   .poll,
   Readiness.firstReady .client false true { written with arrived := false },
   .poll,
   Readiness.firstReady .client true false
     { Readiness.Io.quiet with reads := [.ok (List.replicate bytes 66)] },
   .pumpStaticStreams (fun _ => written), .poll,
   Readiness.firstReady .client false true written]

/-- The bytes that follow the request fit up to the limit, and no further. -/
example : ([14, 15].map fun bytes => Readiness.bootsTo (smallReader 32) (sendWhileServed bytes)
    (fun w => w.history.all (Readiness.inputFits (smallReader 32).limits))) = [true, false] := by
  decide +kernel

/-- Bytes that fit, between the head and the chunk. -/
theorem local_answer_is_one_response_waiting :
    ∃ w, Readiness.Reachable (smallReader 64) w
      ∧ ∃ id trace, Readiness.HistoryItem.removed id trace ∈ w.history
        ∧ toClient (Readiness.exchanges trace)
          = asBytes "HTTP/1.1 200 OK\r\n\r\n".toList ++ [65]
        ∧ Readiness.AnsweredOnce trace := by
  have hrun : Readiness.bootsTo (smallReader 64) (sendWhileServed 20) (fun w =>
      w.history.all (Readiness.inputFits (smallReader 64).limits)
        && w.history.any (Readiness.HistoryItem.removes (fun _ trace =>
          trace.head? == some (.accepted false) && !trace.contains .proxied
            && trace.all (Readiness.Act.headFits (smallReader 64).limits)
            && toClient (Readiness.exchanges trace)
              == asBytes "HTTP/1.1 200 OK\r\n\r\n".toList ++ [65]))) = true := by
    decide +kernel
  obtain ⟨w, hw, hp⟩ := Readiness.reachable_of_bootsTo hrun
  simp only [Bool.and_eq_true, List.all_eq_true, Readiness.any_removes, beq_iff_eq,
    Bool.not_eq_true'] at hp
  obtain ⟨hfits, id, trace, hitem, ⟨⟨hhead, hlocal⟩, hheads⟩, hsent⟩ := hp
  refine ⟨w, hw, id, trace, hitem, hsent, ?_⟩
  refine (local_answer_is_one_response (smallReader 64) hw hfits).2 id trace hitem hhead ?_
    (List.all_eq_true.mpr hheads)
  intro hproxied
  rw [List.contains_iff_mem.mpr hproxied] at hlocal
  cases hlocal

/-- The act at this place of a trace queues a response for a client that has got bytes. -/
def queuesSecond (log : List Readiness.Act) (place : Nat) : Bool :=
  match log[place]? with
  | some (.queued _) => !(toClient (Readiness.exchanges (log.take place))).isEmpty
  | _ => false

/-- Bytes that do not fit get a page of their own, behind the head of the file. -/
theorem input_beyond_buffer_interrupts_file :
    ¬ ∀ w, Readiness.Reachable (smallReader 32) w →
      ∀ slot occ, w.connections.get slot = some occ → occ.connection.ssl = none →
        .proxied ∉ occ.log → Readiness.AnsweredOnce occ.log := by
  intro hall
  have hrun : Readiness.bootsTo (smallReader 32) (sendWhileServed 20) (fun w =>
      (w.connections.get 0).any (fun occ =>
        occ.connection.ssl.isNone && !occ.log.contains .proxied
          && (List.range occ.log.length).any (queuesSecond occ.log))) = true := by
    decide +kernel
  obtain ⟨w, hw, hp⟩ := Readiness.reachable_of_bootsTo hrun
  simp only [Option.any_eq_true, Bool.and_eq_true, Option.isNone_iff_eq_none,
    Bool.not_eq_true'] at hp
  obtain ⟨occ, hget, ⟨hssl, hlocal⟩, hsecond⟩ := hp
  have honce : Readiness.AnsweredOnce occ.log := by
    refine hall w hw 0 occ hget hssl ?_
    intro hproxied
    rw [List.contains_iff_mem.mpr hproxied] at hlocal
    cases hlocal
  obtain ⟨place, -, hqueues⟩ := List.any_eq_true.mp hsecond
  unfold queuesSecond at hqueues
  split at hqueues
  next response hact =>
    obtain ⟨hlt, hact⟩ := List.getElem?_eq_some_iff.mp hact
    have hnothing : toClient (Readiness.exchanges (occ.log.take place)) = [] := by
      apply honce.first (occ.log.take place) (.queued response) (occ.log.drop (place + 1))
      rw [← hact, ← List.drop_eq_getElem_cons hlt, List.take_append_drop]
    rw [hnothing] at hqueues
    cases hqueues
  · cases hqueues

end Example

end Thwip
