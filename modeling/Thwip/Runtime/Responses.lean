/-
  Thwip.Runtime.Responses — how often a worker counts the response to a connection.

  A connection carries one request.  The io_uring worker counts its response where
  it removes the connection.  The readiness worker counts it each time a write
  event leaves nothing to write: after every chunk that is relayed, and after the
  close alert of a TLS session once more.
-/
import Thwip.IoUring.Responses
import Thwip.Readiness.Responses
import Thwip.Runtime.Failures
import Thwip.Runtime.CloseNotify

namespace Thwip

open Thwip.Lib

variable {σ τ : Type}

/-- **No connection is counted twice**, and there are no more responses than
accepted connections: in every run of the io_uring worker, and in every run of the
readiness worker in which no write event finds a session that is being closed or a
relayed chunk already written, and no upstream read continues a response. -/
theorem responses_counted_once (cfg : Readiness.Config σ) (ucfg : IoUring.Config τ) :
    (∀ w, Readiness.Reachable cfg w →
      (∀ item ∈ w.history, Readiness.countsOnce cfg item = true) →
      (∀ slot occ, w.connections.get slot = some occ → Readiness.responseCount occ.log ≤ 1)
        ∧ (∀ id trace, Readiness.HistoryItem.removed id trace ∈ w.history →
          Readiness.responseCount trace ≤ 1)
        ∧ w.metrics.responses ≤ w.metrics.accepted)
    ∧ ∀ w, IoUring.Reachable ucfg w →
      (∀ slot occ, w.connections.get slot = some occ → IoUring.responseCount occ.log ≤ 1)
        ∧ (∀ id trace ops, IoUring.HistoryItem.removed id trace ops ∈ w.history →
          IoUring.responseCount trace ≤ 1)
        ∧ w.metrics.responses ≤ w.metrics.accepted := by
  constructor
  · intro w hw hguard
    have hbooks := hw.keepsBooks hguard
    exact ⟨fun slot occ hget => (hbooks.live slot occ hget).1, hbooks.gone, hbooks.le⟩
  · intro w hw
    have hbooks := hw.balanced
    refine ⟨?_, hbooks.gone, hbooks.le⟩
    intro slot occ hget
    rw [hbooks.live slot occ hget]
    exact Nat.zero_le 1

section Example

/-- The relayed chunk is written, and then the upstream reads these. -/
def chunkThen (upstreamReads : List IoRead) : List Readiness.Event :=
  Readiness.relayedChunk ++
    [Readiness.firstReady .client false true { Readiness.Io.quiet with writes := [.ok 4096] },
     Readiness.firstReady .upstream true false { Readiness.Io.quiet with upstreamReads }, .poll]

/-- … and a second chunk is written too. -/
def twoChunks : List Readiness.Event :=
  chunkThen [.ok (List.replicate 20 65)] ++
    [Readiness.firstReady .client false true { Readiness.Io.quiet with writes := [.ok 4096] }]

/-- A chunk counts for nothing before it is written. -/
example : Readiness.bootsTo proxyWorker Readiness.relayedChunk
    (fun w => w.metrics.responses == 0) = true := by
  decide +kernel

/-- One relayed chunk, a file over TLS, and an error page of the io_uring worker. -/
theorem responses_counted_once_chunk :
    (∃ w, Readiness.Reachable proxyWorker w ∧ w.metrics.responses = 1
      ∧ w.metrics.responses ≤ w.metrics.accepted)
    ∧ (∃ w, Readiness.Reachable (tlsWorker serveAll) w ∧ w.metrics.responses = 1
      ∧ w.metrics.responses ≤ w.metrics.accepted)
    ∧ ∃ w, IoUring.Reachable proxyUring w ∧ w.metrics.responses = 1
      ∧ w.metrics.responses ≤ w.metrics.accepted := by
  have hchunk : Readiness.bootsTo proxyWorker (chunkThen [.ok []]) (fun w =>
      w.history.all (Readiness.countsOnce proxyWorker)
        && w.metrics.responses == 1) = true := by
    decide +kernel
  have hfile : Readiness.bootsTo (tlsWorker serveAll) fetchFile (fun w =>
      w.history.all (Readiness.countsOnce (tlsWorker serveAll))
        && w.metrics.responses == 1) = true := by
    decide +kernel
  have hpage : IoUring.bootsTo proxyUring .quiet unresolvedUring
      (fun w => w.metrics.responses == 1) = true := by
    decide +kernel
  refine ⟨?_, ?_, ?_⟩
  · obtain ⟨w, hw, hp⟩ := Readiness.reachable_of_bootsTo hchunk
    simp only [Bool.and_eq_true, List.all_eq_true, beq_iff_eq] at hp
    exact ⟨w, hw, hp.2, ((responses_counted_once proxyWorker proxyUring).1 w hw hp.1).2.2⟩
  · obtain ⟨w, hw, hp⟩ := Readiness.reachable_of_bootsTo hfile
    simp only [Bool.and_eq_true, List.all_eq_true, beq_iff_eq] at hp
    exact ⟨w, hw, hp.2,
      ((responses_counted_once (tlsWorker serveAll) proxyUring).1 w hw hp.1).2.2⟩
  · obtain ⟨w, hw, hp⟩ := IoUring.reachable_of_bootsTo hpage
    rw [beq_iff_eq] at hp
    exact ⟨w, hw, hp, ((responses_counted_once proxyWorker proxyUring).2 w hw).2.2⟩

/-- Two chunks of one response count twice, and so does one page over TLS. -/
theorem chunks_and_alerts_count_again :
    (¬ ∀ w, Readiness.Reachable proxyWorker w → w.metrics.responses ≤ w.metrics.accepted)
    ∧ ¬ ∀ w, Readiness.Reachable (tlsWorker []) w →
      w.metrics.responses ≤ w.metrics.accepted := by
  constructor
  · intro hall
    have hrun : Readiness.bootsTo proxyWorker twoChunks (fun w =>
        decide (w.metrics.accepted < w.metrics.responses)) = true := by
      decide +kernel
    obtain ⟨w, hw, hp⟩ := Readiness.reachable_of_bootsTo hrun
    exact absurd (hall w hw) (Nat.not_le_of_lt (of_decide_eq_true hp))
  · intro hall
    have hrun : Readiness.bootsTo (tlsWorker []) fetchFile (fun w =>
        decide (w.metrics.accepted < w.metrics.responses)) = true := by
      decide +kernel
    obtain ⟨w, hw, hp⟩ := Readiness.reachable_of_bootsTo hrun
    exact absurd (hall w hw) (Nat.not_le_of_lt (of_decide_eq_true hp))

end Example

end Thwip
