/-
  Thwip.IoUring.Connection — the state of one accepted client
  (`run/slave/src/runtime/io_uring/connection.rs`) and the trace of what the
  worker did for it.

  The fields are the source's.  The trace (`Act`) is written by the handlers and
  never read by them: it is what properties about a connection's whole life are
  stated on.
-/
import Thwip.IoUring.Operation

namespace Thwip.IoUring

open Thwip.Lib

variable {σ : Type}

/-! ## §1. The upstream half. -/

inductive ProxyPhase where
  | resolving
  | connecting
  | writingRequest
  | readingResponse
  deriving Repr, DecidableEq

def ProxyPhase.timeoutMessage : ProxyPhase → Str
  | .resolving => "upstream DNS resolution timed out".toList
  | .connecting => "upstream connect timed out".toList
  | .writingRequest => "upstream request write timed out".toList
  | .readingResponse => "upstream response timed out".toList

/-- The operation a phase waits for; none while the name is being resolved. -/
def ProxyPhase.kind : ProxyPhase → Option OperationKind
  | .resolving => none
  | .connecting => some .proxyConnect
  | .writingRequest => some .proxyWrite
  | .readingResponse => some .proxyRead

/-- A phase is known by the operation it waits for. -/
theorem phase_of_kind {phase phase' : ProxyPhase} {kind : OperationKind}
    (h : phase.kind = some kind) (h' : phase'.kind = some kind := by rfl) : phase = phase' := by
  rw [← h'] at h
  cases phase <;> cases phase' <;> first | rfl | cases h

/-- No phase waits for a client operation. -/
theorem phase_kind_client (phase : ProxyPhase) {kind : OperationKind}
    (h : kind.isUpstream = false) : phase.kind ≠ some kind := by
  intro heq
  cases phase <;> cases heq <;> cases h

structure UringProxy where
  upstream : Option Socket
  address : Option SocketAddr
  addresses : List SocketAddr
  requestBuffer : List UInt8
  requestOffset : Nat
  responseStarted : Bool
  phase : ProxyPhase
  progressAt : Instant
  operationPending : Bool
  timedOut : Bool
  deriving Repr, DecidableEq

/-- `UringProxy::resolving` -/
def UringProxy.resolving (now : Instant) (requestBuffer : List UInt8) : UringProxy :=
  { upstream := none, address := none, addresses := [], requestBuffer, requestOffset := 0
    responseStarted := false, phase := .resolving, progressAt := now
    operationPending := false, timedOut := false }

def UringProxy.transition (now : Instant) (phase : ProxyPhase) (self : UringProxy) : UringProxy :=
  { self with phase, progressAt := now, timedOut := false }

def UringProxy.recordProgress (now : Instant) (self : UringProxy) : UringProxy :=
  { self with progressAt := now }

/-- `operation_pending = false`, when a completion is handled. -/
def UringProxy.completed (self : UringProxy) : UringProxy :=
  { self with operationPending := false }

/-- `operation_pending = true`, when an operation has been pushed. -/
def UringProxy.submitted (self : UringProxy) : UringProxy :=
  { self with operationPending := true }

/-- A socket for the next address. -/
def UringProxy.connectTo (now : Instant) (socket : Socket) (address : SocketAddr)
    (addresses : List SocketAddr) (self : UringProxy) : UringProxy :=
  { self with addresses, upstream := some socket, address := some address, progressAt := now }

/-- `written` bytes of the request have been sent. -/
def UringProxy.wrote (now : Instant) (written : Nat) (self : UringProxy) : UringProxy :=
  { self with requestOffset := self.requestOffset + written, progressAt := now }

/-- The first bytes of the response have arrived, or more of them. -/
def UringProxy.received (now : Instant) (self : UringProxy) : UringProxy :=
  { self with responseStarted := true, progressAt := now }

/-! ## §2. The connection. -/

structure UringSslSession (σ : Type) where
  connection : σ
  startedAt : Instant
  handshakeTimeout : Nat
  closing : Bool
  deriving Repr, DecidableEq

/-- `send_close_notify`, and remember it. -/
def UringSslSession.close (tls : Rustls σ) (self : UringSslSession σ) : UringSslSession σ :=
  { self with connection := tls.sendCloseNotify self.connection, closing := true }

structure CompletedRequest where
  head : RequestHead
  body : List UInt8
  deriving Repr, DecidableEq

structure UringConnection (σ : Type) where
  socket : Socket
  generation : UInt16
  listenerIndex : Nat
  readPending : Bool
  requestBuffer : List UInt8
  pendingRequest : Option PendingRequest
  request : Option CompletedRequest
  writeBuffer : List UInt8
  writeOffset : Nat
  writePending : Bool
  sslWriteBuffer : List UInt8
  sslWriteOffset : Nat
  proxy : Option UringProxy
  staticStream : Option StaticStream
  ssl : Option (UringSslSession σ)
  deriving DecidableEq

/-- The session of a TLS listener; `none` when `rustls` refuses to create it. -/
def UringSslSession.new (tls : Rustls σ) (now : Instant) (config : LoadedSslConfig) :
    Option (UringSslSession σ) :=
  match tls.serverConnection config.serverConfig with
  | none => none
  | some connection =>
      some { connection, startedAt := now, handshakeTimeout := config.handshakeTimeout
             closing := false }

/-- `UringConnection::new` once the session, if any, exists. -/
def UringConnection.fresh (socket : Socket) (generation : UInt16) (listenerIndex : Nat)
    (ssl : Option (UringSslSession σ)) : UringConnection σ :=
  { socket, generation, listenerIndex, readPending := false, requestBuffer := []
    pendingRequest := none, request := none, writeBuffer := [], writeOffset := 0
    writePending := false, sslWriteBuffer := [], sslWriteOffset := 0, proxy := none
    staticStream := none, ssl }

/-- `UringConnection::new`; `none` when the TLS session cannot be created. -/
def UringConnection.new (tls : Rustls σ) (now : Instant) (socket : Socket)
    (generation : UInt16) (listenerIndex : Nat) (ssl : Option LoadedSslConfig) :
    Option (UringConnection σ) :=
  match ssl with
  | none => some (fresh socket generation listenerIndex none)
  | some config =>
      match UringSslSession.new tls now config with
      | none => none
      | some session => some (fresh socket generation listenerIndex (some session))

def UringConnection.matchesGeneration (self : UringConnection σ) (generation : UInt16) : Bool :=
  self.generation == generation

def UringConnection.markReadSubmitted (self : UringConnection σ) : UringConnection σ :=
  { self with readPending := true }

def UringConnection.markReadCompleted (self : UringConnection σ) : UringConnection σ :=
  { self with readPending := false }

def UringConnection.markWriteSubmitted (self : UringConnection σ) : UringConnection σ :=
  { self with writePending := true }

def UringConnection.markWriteCompleted (self : UringConnection σ) : UringConnection σ :=
  { self with writePending := false }

def UringConnection.setProxy (self : UringConnection σ) (proxy : UringProxy) :
    UringConnection σ :=
  { self with proxy := some proxy }

def UringConnection.setSsl (self : UringConnection σ) (ssl : UringSslSession σ) :
    UringConnection σ :=
  { self with ssl := some ssl }

def UringConnection.queueResponse (self : UringConnection σ) (response : List UInt8) :
    UringConnection σ :=
  { self with writeBuffer := response, writeOffset := 0 }

/-- `write_buffer.clear(); write_offset = 0` -/
def UringConnection.clearOutput (self : UringConnection σ) : UringConnection σ :=
  { self with writeBuffer := [], writeOffset := 0 }

/-- The bytes the next client send has to transmit: ciphertext on TLS. -/
def UringConnection.unsent (self : UringConnection σ) : List UInt8 :=
  if self.ssl.isSome then self.sslWriteBuffer.drop self.sslWriteOffset
  else self.writeBuffer.drop self.writeOffset

/-- The buffer a client send points into, and the offset of its first byte. -/
def UringConnection.sendBuffer (self : UringConnection σ) : List UInt8 × Nat :=
  if self.ssl.isSome then (self.sslWriteBuffer, self.sslWriteOffset)
  else (self.writeBuffer, self.writeOffset)

/-- Advance past `written` transmitted bytes. -/
def UringConnection.advance (self : UringConnection σ) (written : Nat) : UringConnection σ :=
  if self.ssl.isSome then { self with sslWriteOffset := self.sslWriteOffset + written }
  else { self with writeOffset := self.writeOffset + written }

/-- `wants_write` of the session, if there is one. -/
def UringConnection.wantsWrite (tls : Rustls σ) (self : UringConnection σ) : Bool :=
  self.ssl.any (fun ssl => tls.wantsWrite ssl.connection)

/-- `output_drained` of `handle_write_completion`. -/
def UringConnection.outputDrained (tls : Rustls σ) (self : UringConnection σ) : Bool :=
  match self.ssl with
  | none => self.writeOffset == self.writeBuffer.length
  | some ssl =>
      self.sslWriteOffset == self.sslWriteBuffer.length
        && self.writeOffset == self.writeBuffer.length
        && !tls.wantsWrite ssl.connection

/-- Drained output: the response is handed over, all of it is sent, and the session
has nothing to add. -/
theorem UringConnection.outputDrained_spec {tls : Rustls σ} {c : UringConnection σ}
    (h : c.outputDrained tls = true) :
    c.writeBuffer.drop c.writeOffset = [] ∧ c.unsent = [] ∧ c.wantsWrite tls = false := by
  unfold UringConnection.outputDrained at h
  unfold UringConnection.unsent UringConnection.wantsWrite
  split at h
  next hssl =>
    rw [beq_iff_eq] at h
    simp [hssl, h]
  next ssl hssl =>
    simp only [Bool.and_eq_true, beq_iff_eq, Bool.not_eq_true'] at h
    obtain ⟨⟨hsent, hhanded⟩, hquiet⟩ := h
    simp [hssl, hsent, hhanded, hquiet]

/-! ## §3. The trace. -/

/-- Why a connection was removed. -/
inductive RemovalSite where
  /-- The client send failed, or sent nothing. -/
  | sendFailed
  /-- The kernel reported more bytes than were submitted. -/
  | invalidSend
  /-- The response has been transmitted. -/
  | delivered
  | streamFinished
  | streamFailed
  /-- The client closed, or its receive failed. -/
  | receiveClosed
  | tlsFailed
  | listenerMissing
  | upstreamClosed
  /-- An upstream failure after the response had started. -/
  | proxyFailed
  | handshakeExpired
  deriving Repr, DecidableEq

/-- What a handler did for a connection. -/
inductive Act where
  /-- The connection was inserted; does it belong to a TLS listener? -/
  | accepted (encrypted : Bool)
  /-- Bytes copied out of a provided buffer by a client receive. -/
  | copied (bytes : List UInt8)
  /-- `read_tls` was offered bytes and took this many of them. -/
  | tlsRead (offered : List UInt8) (taken : Nat)
  | recvSubmitted
  /-- The decision on the request received so far. -/
  | verdict (verdict : ReadVerdict)
  /-- The request goes to a proxy action. -/
  | proxied
  /-- … and these bytes are to be forwarded. -/
  | forwarding (request : List UInt8)
  /-- The kernel reported these bytes of the request as sent to the upstream. -/
  | forwarded (bytes : List UInt8)
  /-- These bytes of the upstream's response were received. -/
  | relayed (bytes : List UInt8)
  /-- `queue_response` -/
  | queued (response : List UInt8)
  /-- `ssl_write_buffer.clear()` -/
  | cleared
  /-- Response bytes the session's writer accepted. -/
  | handed (bytes : List UInt8)
  /-- Ciphertext `write_tls` appended to `ssl_write_buffer`. -/
  | produced (bytes : List UInt8)
  /-- Bytes the kernel reported as transmitted, of those it was given, and whether
  the session has more to send. -/
  | sent (bytes : List UInt8) (more : Bool)
  /-- A call of `submit_proxy_connect`, `_write` or `_read`, with the proxy it found. -/
  | submitProxy (kind : OperationKind) (proxy : UringProxy)
  | closeNotify
  /-- `metrics.response()`, just before the removal at this site. -/
  | response (site : RemovalSite)
  | removed (site : RemovalSite)
  deriving Repr, DecidableEq

/-- How often `ssl_write_buffer` has been cleared. -/
def clearsIn (log : List Act) : Nat := log.count .cleared

@[simp] theorem clearsIn_nil : clearsIn [] = 0 := rfl

@[simp] theorem clearsIn_cons (act : Act) (acts : List Act) :
    clearsIn (act :: acts) = clearsIn acts + if act = .cleared then 1 else 0 := by
  simp [clearsIn, List.count_cons]

@[simp] theorem clearsIn_append (xs ys : List Act) :
    clearsIn (xs ++ ys) = clearsIn xs + clearsIn ys :=
  List.count_append

end Thwip.IoUring
