/-
  Thwip.Runtime.Limits — the limits of both workers.

  `max_connections` and `max_read_buffer_size` bound what they are meant to bound,
  in both workers and in every state.  `max_write_buffer_size` does not: neither
  worker compares the chunk of a file with it, and the pages a worker generates
  itself are queued whatever their length.  It is a bound in the runs in which
  these are short enough.
-/
import Thwip.IoUring.Limits
import Thwip.IoUring.UpstreamOrder
import Thwip.Readiness.Limits
import Thwip.Readiness.Progress

namespace Thwip

open Thwip.Lib

variable {σ τ : Type}

/-! ## §1. Connections and requests. -/

/-- **The slab and the request buffers keep to their limits**, and so does every
request that is held for, or being sent to, an upstream. -/
theorem slab_and_requests_within_limits (cfg : Readiness.Config σ) (ucfg : IoUring.Config τ) :
    (∀ w, Readiness.Reachable cfg w →
      w.connections.count ≤ cfg.limits.maxConnections
      ∧ ∀ slot occ, w.connections.get slot = some occ →
        occ.connection.readBuffer.length ≤ cfg.limits.maxReadBufferSize
        ∧ ∀ request, occ.connection.upstreamRequest = some request →
          request.length ≤ cfg.limits.maxReadBufferSize)
    ∧ ∀ w, IoUring.Reachable ucfg w →
      w.connections.count ≤ ucfg.limits.maxConnections
      ∧ (∀ slot occ, w.connections.get slot = some occ →
        occ.connection.requestBuffer.length ≤ ucfg.limits.maxReadBufferSize
        ∧ ∀ proxy, occ.connection.proxy = some proxy →
          proxy.requestBuffer.length ≤ ucfg.limits.maxReadBufferSize)
      ∧ ∀ id bytes, IoUring.Entry.operation id (.proxySend bytes) ∈ w.inFlight →
        bytes.length ≤ ucfg.limits.maxReadBufferSize := by
  constructor
  · intro w hw
    refine ⟨hw.count, ?_⟩
    intro slot occ hget
    have h := hw.withinReadLimit hget
    exact ⟨h.buffered, h.forwarded⟩
  · intro w hw
    obtain ⟨hlive, hops⟩ := (IoUring.readLimitRule ucfg).holds hw (fun _ _ => trivial)
    refine ⟨hw.count, ?_, fun id bytes hop => hops id _ hop bytes rfl⟩
    intro slot occ hget
    exact ⟨(hlive slot occ hget).buffered, (hlive slot occ hget).forwarded⟩

section Example

/-- The upstream's connect completes, and the request is sent to it. -/
def sendingRequest : List IoUring.Event :=
  IoUring.resolvedRequest ++ [.completed 3 (.plain 0) [] .quiet]

/-- The request of the first connection is being forwarded. -/
def sendsFirstRequest : IoUring.Entry → Bool
  | .operation id (.proxySend _) => id == ⟨0, 1⟩
  | _ => false

/-- A request that waits for its upstream, and one that is being sent to it. -/
theorem slab_and_requests_within_limits_forwarding :
    (∃ w, Readiness.Reachable (Readiness.plainWorker Readiness.proxyAll) w
      ∧ w.connections.count ≤ 8
      ∧ ∃ occ request, w.connections.get 0 = some occ
        ∧ occ.connection.upstreamRequest = some request ∧ request.length ≤ 4096)
    ∧ ∃ w, IoUring.Reachable (IoUring.Config.single Rustls.absent none IoUring.proxyAll) w
      ∧ w.connections.count ≤ 4
      ∧ ∃ bytes, IoUring.Entry.operation ⟨0, 1⟩ (.proxySend bytes) ∈ w.inFlight
        ∧ bytes.length ≤ 1024 := by
  have hrun : Readiness.bootsTo (Readiness.plainWorker Readiness.proxyAll)
      Readiness.resolvedRequest (fun w => (w.connections.get 0).any (fun occ =>
        occ.connection.upstreamRequest.isSome)) = true := by
    decide +kernel
  have hrun' : IoUring.bootsTo (IoUring.Config.single Rustls.absent none IoUring.proxyAll) .quiet
      sendingRequest (fun w => w.inFlight.any sendsFirstRequest) = true := by
    decide +kernel
  obtain ⟨hready, huring⟩ := slab_and_requests_within_limits
    (Readiness.plainWorker Readiness.proxyAll)
    (IoUring.Config.single Rustls.absent none IoUring.proxyAll)
  constructor
  · obtain ⟨w, hw, hp⟩ := Readiness.reachable_of_bootsTo hrun
    obtain ⟨occ, hget, hsome⟩ := (Option.any_eq_true _ _).mp hp
    obtain ⟨request, hrequest⟩ := Option.isSome_iff_exists.mp hsome
    obtain ⟨hcount, hlive⟩ := hready w hw
    exact ⟨w, hw, hcount, occ, request, hget, hrequest, (hlive 0 occ hget).2 request hrequest⟩
  · obtain ⟨w, hw, hp⟩ := IoUring.reachable_of_bootsTo hrun'
    obtain ⟨entry, hmem, hentry⟩ := List.any_eq_true.mp hp
    obtain ⟨hcount, -, hsends⟩ := huring w hw
    unfold sendsFirstRequest at hentry
    split at hentry
    next id bytes =>
      rw [beq_iff_eq] at hentry
      subst hentry
      exact ⟨w, hw, hcount, bytes, hmem, hsends _ bytes hmem⟩
    · cases hentry

end Example

/-! ## §2. Responses. -/

/-- **The write limit bounds the write buffer** if the pages that go unchecked are
within it, and so are the chunks of the files, and in the io_uring worker the
heads of the files. -/
theorem write_buffers_within_limit (cfg : Readiness.Config σ) (ucfg : IoUring.Config τ) :
    (Readiness.tooLargePage.length ≤ cfg.limits.maxWriteBufferSize →
      ∀ w, Readiness.Reachable cfg w →
        (∀ item ∈ w.history, Readiness.chunkFits cfg.limits item = true) →
        ∀ slot occ, w.connections.get slot = some occ →
          occ.connection.writeBuffer.length ≤ cfg.limits.maxWriteBufferSize)
    ∧ (IoUring.PagesFit ucfg.limits →
      ∀ w, IoUring.Reachable ucfg w → (∀ item ∈ w.history, IoUring.FilesFit ucfg item) →
        ∀ slot occ, w.connections.get slot = some occ →
          occ.connection.writeBuffer.length ≤ ucfg.limits.maxWriteBufferSize) := by
  constructor
  · intro hpage w hw hfits slot occ hget
    exact hw.withinWriteLimit hpage hfits hget
  · intro hpages w hw hfits
    exact ((IoUring.writeLimitRule ucfg hpages).holds hw hfits).1

section Example

/-- Every request is answered with a file. -/
def serveAll : List Location := [{ matcher := .pre "/".toList, action := .static "d".toList }]

/-- A file of one chunk. -/
def oneChunk (bytes : List UInt8) (hne : bytes ≠ []) : StaticStreamResponse :=
  { head := asBytes "HTTP/1.1 200 OK\r\n\r\n".toList
    stream := some ⟨[some bytes], by simpa using hne⟩
    head_ne_nil := by decide }

/-- A request for it; then its head is written, and the chunk is there. -/
def serveChunk (bytes : List UInt8) (hne : bytes ≠ []) : List Readiness.Event :=
  [Readiness.acceptOne, .poll,
   Readiness.firstReady .client true false
     { Readiness.Io.quiet with
       reads := [.ok (asBytes "GET / HTTP/1.1\r\n\r\n".toList)]
       staticStreamResponse := fun _ _ => .ok (oneChunk bytes hne) },
   .poll,
   Readiness.firstReady .client false true
     { Readiness.Io.quiet with writes := [.ok 4096], arrived := true }]

def serveWorker (maxWriteBufferSize : Nat) : Readiness.Config Unit :=
  Readiness.Config.single Readiness.SocketTls.absent none
    { Readiness.roomyLimits with maxWriteBufferSize } serveAll

/-- A request that is not found, in the other worker. -/
def missingPage : List IoUring.Event :=
  [.accepts 5, .completed 4 (.received (asBytes "GET / HTTP/1.1\r\n\r\n".toList)) [] .quiet]

def smallWorker (maxWriteBufferSize : Nat) (locations : List Location) : IoUring.Config Unit :=
  { IoUring.Config.single Rustls.absent none locations with
    limits := { maxConnections := 4, maxReadBufferSize := 1024, maxWriteBufferSize
                idleTimeout := 1000, drainTimeout := 1000 } }

/-- A chunk of the length of the limit. -/
theorem write_buffers_within_limit_serveChunk :
    (∃ w, Readiness.Reachable (serveWorker 256) w
      ∧ ∃ occ, w.connections.get 0 = some occ
        ∧ occ.connection.writeBuffer = List.replicate 256 65
        ∧ occ.connection.writeBuffer.length ≤ 256)
    ∧ ∃ w, IoUring.Reachable (smallWorker 256 []) w
      ∧ ∃ occ, w.connections.get 0 = some occ ∧ occ.connection.writeBuffer ≠ []
        ∧ occ.connection.writeBuffer.length ≤ 256 := by
  have hrun : Readiness.bootsTo (serveWorker 256) (serveChunk (List.replicate 256 65) (by decide))
      (fun w => w.history.all (Readiness.chunkFits (serveWorker 256).limits)
        && (w.connections.get 0).any (fun occ =>
          occ.connection.writeBuffer == List.replicate 256 65)) = true := by
    decide +kernel
  have hrun' : IoUring.bootsTo (smallWorker 256 []) .quiet missingPage (fun w =>
      (w.connections.get 0).any (fun occ => occ.connection.writeBuffer != []
        && occ.connection.staticStream.isNone)
      && w.history.all (IoUring.HistoryItem.finds (fun c => c.staticStream.isNone))) = true := by
    decide +kernel
  obtain ⟨hready, huring⟩ := write_buffers_within_limit (serveWorker 256) (smallWorker 256 [])
  constructor
  · obtain ⟨w, hw, hp⟩ := Readiness.reachable_of_bootsTo hrun
    simp only [Bool.and_eq_true, List.all_eq_true, Option.any_eq_true, beq_iff_eq] at hp
    obtain ⟨hfits, occ, hget, hbuffer⟩ := hp
    exact ⟨w, hw, occ, hget, hbuffer, hready (by decide +kernel) w hw hfits 0 occ hget⟩
  · obtain ⟨w, hw, hp⟩ := IoUring.reachable_of_bootsTo hrun'
    simp only [Bool.and_eq_true, List.all_eq_true, Option.any_eq_true, bne_iff_ne] at hp
    obtain ⟨⟨occ, hget, hbuffer, -⟩, hstreams⟩ := hp
    refine ⟨w, hw, occ, hget, hbuffer, huring (by decide +kernel) w hw ?_ 0 occ hget⟩
    intro item hitem
    cases item with
    | turn id event world found =>
        constructor
        · -- no location of this worker has files
          rintro directory request response ⟨server, hserver, target, hroute⟩
          rw [List.mem_singleton.mp hserver] at hroute
          cases hroute
        · rintro c stream bytes rfl hstream
          have hnone := hstreams _ hitem
          simp [IoUring.HistoryItem.finds, hstream] at hnone
    | inserted => trivial
    | removed => trivial

/-- A chunk longer than the limit is queued as it is, and so is the page for a
missing file. -/
theorem long_chunk_exceeds_write_limit :
    (¬ ∀ w, Readiness.Reachable (serveWorker 256) w →
      ∀ slot occ, w.connections.get slot = some occ →
        occ.connection.writeBuffer.length ≤ (serveWorker 256).limits.maxWriteBufferSize)
    ∧ ¬ ∀ w, IoUring.Reachable (smallWorker 64 serveAll) w →
      ∀ slot occ, w.connections.get slot = some occ →
        occ.connection.writeBuffer.length ≤ (smallWorker 64 serveAll).limits.maxWriteBufferSize := by
  constructor
  · intro hall
    have hrun : Readiness.bootsTo (serveWorker 256)
        (serveChunk (List.replicate 300 65) (by decide))
        (fun w => (w.connections.get 0).any (fun occ =>
          decide (256 < occ.connection.writeBuffer.length))) = true := by
      decide +kernel
    obtain ⟨w, hw, hp⟩ := Readiness.reachable_of_bootsTo hrun
    obtain ⟨occ, hget, hlong⟩ := (Option.any_eq_true _ _).mp hp
    exact absurd (hall w hw 0 occ hget) (Nat.not_le.mpr (of_decide_eq_true hlong))
  · intro hall
    have hrun : IoUring.bootsTo (smallWorker 64 serveAll) .quiet missingPage
        (fun w => (w.connections.get 0).any (fun occ =>
          decide (64 < occ.connection.writeBuffer.length))) = true := by
      decide +kernel
    obtain ⟨w, hw, hp⟩ := IoUring.reachable_of_bootsTo hrun
    obtain ⟨occ, hget, hlong⟩ := (Option.any_eq_true _ _).mp hp
    exact absurd (hall w hw 0 occ hget) (Nat.not_le.mpr (of_decide_eq_true hlong))

end Example

end Thwip
