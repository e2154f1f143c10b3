/-
  Thwip.Readiness.Connection — a client of the readiness (epoll/kqueue) worker
  and its read, write and forward loops
  (`run/slave/src/runtime/readiness/connection.rs`, `proxy.rs`, and the loops of
  `connection_ready`, `write_ready` and `write_upstream_request` of `worker.rs`).

  A socket is the list of answers its next reads, or writes, will have; an
  exhausted list blocks.  A TLS session reads from the socket itself, so what it
  does not take stays there.
-/
import Thwip.Runtime.Basic

namespace Thwip.Readiness

open Thwip.Lib

variable {σ : Type}

/-! ## §1. The connection. -/

inductive ProxyPhase where
  | connecting
  | writingRequest
  | readingResponse
  deriving Repr, DecidableEq

def ProxyPhase.timeout (limits : ProxyLimits) : ProxyPhase → Nat
  | .connecting => limits.connectTimeout
  | .writingRequest => limits.writeTimeout
  | .readingResponse => limits.readTimeout

def ProxyPhase.timeoutMessage : ProxyPhase → Str
  | .connecting => "upstream connect timed out".toList
  | .writingRequest => "upstream request write timed out".toList
  | .readingResponse => "upstream response timed out".toList

structure ProxyState where
  requestBuffer : List UInt8
  requestOffset : Nat
  upstreamEof : Bool
  responseStarted : Bool
  phase : ProxyPhase
  phaseProgressAt : Instant
  deriving Repr, DecidableEq

/-- `ProxyState::new` -/
def ProxyState.new (now : Instant) (requestBuffer : List UInt8) : ProxyState :=
  { requestBuffer, requestOffset := 0, upstreamEof := false, responseStarted := false
    phase := .connecting, phaseProgressAt := now }

def ProxyState.transition (now : Instant) (self : ProxyState) (phase : ProxyPhase) : ProxyState :=
  { self with phase, phaseProgressAt := now }

def ProxyState.recordProgress (now : Instant) (self : ProxyState) : ProxyState :=
  { self with phaseProgressAt := now }

/-- What of the request the upstream has not accepted yet. -/
def ProxyState.unforwarded (self : ProxyState) : List UInt8 :=
  self.requestBuffer.drop self.requestOffset

structure ResolvingState where
  requestBuffer : List UInt8
  startedAt : Instant
  deriving Repr, DecidableEq

/-- A connection is always in exactly one protocol phase. -/
inductive ConnectionPhase where
  | reading (pendingRequest : Option PendingRequest)
  | writingResponse
  | resolving (resolution : ResolvingState)
  | proxying (proxy : ProxyState)
  deriving Repr, DecidableEq

structure SslSession (σ : Type) where
  connection : σ
  startedAt : Instant
  handshakeTimeout : Nat
  deriving Repr, DecidableEq

structure Connection (σ : Type) where
  readBuffer : List UInt8
  writeBuffer : List UInt8
  writeOffset : Nat
  listenerGroup : Nat
  lastProgress : Instant
  generation : Nat
  staticStream : Option StaticStream
  ssl : Option (SslSession σ)
  sslClosing : Bool
  phase : ConnectionPhase
  deriving DecidableEq

/-- `Connection::new` once the session, if any, exists. -/
def Connection.fresh (now : Instant) (listenerGroup generation : Nat)
    (ssl : Option (SslSession σ)) : Connection σ :=
  { readBuffer := [], writeBuffer := [], writeOffset := 0, listenerGroup, lastProgress := now
    generation, staticStream := none, ssl, sslClosing := false, phase := .reading none }

def Connection.pendingRequest (self : Connection σ) : Option PendingRequest :=
  match self.phase with
  | .reading pendingRequest => pendingRequest
  | _ => none

def Connection.setPendingRequest (self : Connection σ) (request : PendingRequest) :
    Connection σ :=
  match self.phase with
  | .reading _ => { self with phase := .reading (some request) }
  | _ => self

/-- The connection left by `take_pending_request`. -/
def Connection.takePendingRequest (self : Connection σ) : Connection σ :=
  match self.phase with
  | .reading _ => { self with phase := .reading none }
  | _ => self

def Connection.isHandlingRequest (self : Connection σ) : Bool :=
  match self.phase with
  | .resolving _ | .proxying _ => true
  | _ => false

def Connection.isProxying (self : Connection σ) : Bool :=
  match self.phase with
  | .proxying _ => true
  | _ => false

def Connection.isResolving (self : Connection σ) : Bool :=
  match self.phase with
  | .resolving _ => true
  | _ => false

def Connection.isWritingResponse (self : Connection σ) : Bool :=
  match self.phase with
  | .writingResponse => true
  | _ => false

def Connection.beginResponse (self : Connection σ) : Connection σ :=
  { self with phase := .writingResponse }

def Connection.beginResolving (now : Instant) (self : Connection σ)
    (requestBuffer : List UInt8) : Connection σ :=
  { self with phase := .resolving { requestBuffer, startedAt := now } }

def Connection.resolution (self : Connection σ) : Option ResolvingState :=
  match self.phase with
  | .resolving resolution => some resolution
  | _ => none

def Connection.beginProxy (self : Connection σ) (proxy : ProxyState) : Connection σ :=
  { self with phase := .proxying proxy }

def Connection.proxy (self : Connection σ) : Option ProxyState :=
  match self.phase with
  | .proxying proxy => some proxy
  | _ => none

/-- The connection left by `detach_proxy`. -/
def Connection.detachProxy (self : Connection σ) : Connection σ :=
  match self.phase with
  | .proxying _ => { self with phase := .writingResponse }
  | _ => self

section Phases

variable {c : Connection σ}

theorem Connection.pendingRequest_eq_some {p : PendingRequest} :
    c.pendingRequest = some p ↔ c.phase = .reading (some p) := by
  unfold Connection.pendingRequest
  cases c.phase <;> simp

theorem Connection.resolution_eq_some {resolution : ResolvingState} :
    c.resolution = some resolution ↔ c.phase = .resolving resolution := by
  unfold Connection.resolution
  cases c.phase <;> simp

theorem Connection.proxy_eq_some {proxy : ProxyState} :
    c.proxy = some proxy ↔ c.phase = .proxying proxy := by
  unfold Connection.proxy
  cases c.phase <;> simp

theorem Connection.isResolving_iff : c.isResolving = true ↔ ∃ r, c.phase = .resolving r := by
  unfold Connection.isResolving
  cases c.phase <;> simp

theorem Connection.isProxying_iff : c.isProxying = true ↔ ∃ p, c.phase = .proxying p := by
  unfold Connection.isProxying
  cases c.phase <;> simp

theorem Connection.isWritingResponse_iff :
    c.isWritingResponse = true ↔ c.phase = .writingResponse := by
  unfold Connection.isWritingResponse
  cases c.phase <;> simp

theorem Connection.isHandlingRequest_iff :
    c.isHandlingRequest = true ↔ (∃ r, c.phase = .resolving r) ∨ ∃ p, c.phase = .proxying p := by
  unfold Connection.isHandlingRequest
  cases c.phase <;> simp

theorem Connection.handling_of_resolution {resolution : ResolvingState}
    (h : c.resolution = some resolution) : c.isHandlingRequest = true :=
  Connection.isHandlingRequest_iff.mpr (.inl ⟨resolution, Connection.resolution_eq_some.mp h⟩)

theorem Connection.handling_of_proxy {proxy : ProxyState} (h : c.proxy = some proxy) :
    c.isHandlingRequest = true :=
  Connection.isHandlingRequest_iff.mpr (.inr ⟨proxy, Connection.proxy_eq_some.mp h⟩)

end Phases

/-- What of the response the client's socket, or session, has not accepted yet. -/
def Connection.unsent (self : Connection σ) : List UInt8 :=
  self.writeBuffer.drop self.writeOffset

def Connection.sslWantsWrite (tls : Rustls σ) (self : Connection σ) : Bool :=
  match self.ssl with
  | none => false
  | some ssl => tls.wantsWrite ssl.connection

def Connection.sslHandshakeExpired (tls : Rustls σ) (now : Instant) (self : Connection σ) : Bool :=
  match self.ssl with
  | none => false
  | some ssl => tls.isHandshaking ssl.connection && now - ssl.startedAt ≥ ssl.handshakeTimeout

/-- Nothing is left to write: not in the buffer, and not in the session. -/
def Connection.writeFinished (tls : Rustls σ) (self : Connection σ) : Bool :=
  self.writeOffset == self.writeBuffer.length && !self.sslWantsWrite tls

theorem Connection.writeFinished_spec {tls : Rustls σ} {c : Connection σ}
    (h : c.writeFinished tls = true) : c.unsent = [] ∧ c.sslWantsWrite tls = false := by
  simp only [Connection.writeFinished, Bool.and_eq_true, beq_iff_eq, Bool.not_eq_true'] at h
  exact ⟨by simp [Connection.unsent, h.1], h.2⟩

/-- `Connection::new`; `none` when the session cannot be created. -/
def Connection.new (tls : Rustls σ) (now : Instant) (listenerGroup generation : Nat)
    (ssl : Option LoadedSslConfig) : Option (Connection σ) :=
  match ssl with
  | none => some (Connection.fresh now listenerGroup generation none)
  | some config =>
      match tls.serverConnection config.serverConfig with
      | none => none
      | some connection =>
          some (Connection.fresh now listenerGroup generation
            (some { connection, startedAt := now, handshakeTimeout := config.handshakeTimeout }))

/-! ## §2. One chunk. -/

/-- The end of an iteration: the recorded request is dispatched once its last
body byte is in the buffer. -/
def Connection.finishRequest (self : Connection σ) : Connection σ × ReadVerdict :=
  match self.pendingRequest with
  | some pending =>
      if self.readBuffer.length ≥ pending.bodyEnd then
        (self.takePendingRequest,
          .dispatch pending.head ((self.readBuffer.take pending.bodyEnd).drop pending.bodyStart))
      else (self, .keepWaiting)
  | none => (self, .keepWaiting)

/-- The `Ok(read)` arm of the loop in `connection_ready`. -/
def Connection.receive (limits : WorkerLimits) (now : Instant) (self : Connection σ)
    (received : List UInt8) : Connection σ × ReadVerdict :=
  -- a buffer in memory is far below the range where this sum could wrap
  if self.readBuffer.length + received.length > limits.maxReadBufferSize then
    (self, .error 413 "request is too large".toList)
  else
    let self := { self with readBuffer := self.readBuffer ++ received, lastProgress := now }
    if self.pendingRequest.isNone then
      match parseRequestHead self.readBuffer with
      | .ok .incomplete => self.finishRequest
      | .ok (.complete head consumed) =>
          match head.bodyLength with
          | .ok bodyLength =>
              match checkedAdd consumed bodyLength with
              | none => (self, .error 413 "request is too large".toList)
              | some bodyEnd =>
                  if bodyEnd > limits.maxReadBufferSize then
                    (self, .error 413 "request is too large".toList)
                  else
                    (self.setPendingRequest { head, bodyStart := consumed, bodyEnd }).finishRequest
          | .error .unsupportedTransferEncoding =>
              (self, .error 501 "transfer encoding is not supported".toList)
          | .error _ => (self, .error 400 "invalid content length".toList)
      | .error _ => (self, .error 400 "invalid HTTP request".toList)
    else self.finishRequest

/-! ## §3. The read loop of one ready event. -/

def maxReadsPerEvent : Nat := 16

/-- The length of the loop's stack buffer. -/
def readBufferLen : Nat := 8 * 1024

/-- One read: its result, the connection, and the reads the socket still has. -/
def Connection.readOnce (tls : Rustls σ) (self : Connection σ) :
    List IoRead → IoRead × Connection σ × List IoRead
  | [] => (.wouldBlock, self, [])
  | next :: socket =>
      match self.ssl, next with
      | some ssl, .ok bytes =>
          match tls.readTls ssl.connection bytes with
          | none => (.failed, self, socket)
          | some (taken, session) =>
              let socket := if taken < bytes.length then .ok (bytes.drop taken) :: socket else socket
              if taken = 0 then
                (.ok [], { self with ssl := some { ssl with connection := session } }, socket)
              else
                match tls.processNewPackets session with
                | none => (.failed, self, socket)
                | some session =>
                    match tls.read session readBufferLen with
                    | (result, session) =>
                        (result, { self with ssl := some { ssl with connection := session } },
                          socket)
      | _, _ => (next, self, socket)

/-- What the socket itself answers to the next read. -/
def socketAnswer : List IoRead → IoRead
  | [] => .wouldBlock
  | next :: _ => next

/-- What one call of `connection_ready` leaves behind: `closed` is its
`close_connection`, and the last verdict its `error_response` or `request`. -/
structure ReadPass (σ : Type) where
  connection : Connection σ
  socket : List IoRead
  /-- The verdict after each chunk. -/
  verdicts : List ReadVerdict
  closed : Bool
  /-- What the socket answered to the last read, if there was one. -/
  lastRead : Option IoRead
  bytesRead : Nat

/-- The pass with one more read, of `count` bytes, before it. -/
def ReadPass.after (self : ReadPass σ) (answer : IoRead) (count : Nat) : ReadPass σ :=
  { self with lastRead := some (self.lastRead.getD answer), bytesRead := count + self.bytesRead }

section After

variable (self : ReadPass σ) (answer : IoRead) (count : Nat)

@[simp] theorem ReadPass.after_connection :
    (self.after answer count).connection = self.connection := rfl

@[simp] theorem ReadPass.after_socket : (self.after answer count).socket = self.socket := rfl

@[simp] theorem ReadPass.after_verdicts : (self.after answer count).verdicts = self.verdicts := rfl

@[simp] theorem ReadPass.after_closed : (self.after answer count).closed = self.closed := rfl

end After

/-- The loop, with the reads left in its budget. -/
def readLoop (tls : Rustls σ) (limits : WorkerLimits) (now : Instant) :
    Nat → Connection σ → List IoRead → ReadPass σ
  | 0, connection, socket =>
      { connection, socket, verdicts := [], closed := false, lastRead := none, bytesRead := 0 }
  | reads + 1, connection, socket =>
      let answer := socketAnswer socket
      match connection.readOnce tls socket with
      | (.ok [], connection, socket) =>
          -- a TLS record can advance the handshake without application bytes
          { connection, socket, verdicts := [], closed := connection.ssl.isNone
            lastRead := some answer, bytesRead := 0 }
      | (.ok received, connection, socket) =>
          match connection.receive limits now received with
          | (connection, .keepWaiting) =>
              let pass := (readLoop tls limits now reads connection socket).after answer
                received.length
              { pass with verdicts := .keepWaiting :: pass.verdicts }
          | (connection, verdict) =>
              { connection, socket, verdicts := [verdict], closed := false
                lastRead := some answer, bytesRead := received.length }
      | (.wouldBlock, connection, socket) =>
          { connection, socket, verdicts := [], closed := false
            lastRead := some answer, bytesRead := 0 }
      | (.interrupted, connection, socket) =>
          (readLoop tls limits now reads connection socket).after answer 0
      | (.failed, connection, socket) =>
          { connection, socket, verdicts := [], closed := true
            lastRead := some answer, bytesRead := 0 }

/-- `client_during_proxy_ready`: while a request is being handled the client's
bytes are read past any TLS session and thrown away. -/
def discardLoop (now : Instant) : Nat → Connection σ → List IoRead → ReadPass σ
  | 0, connection, socket =>
      { connection, socket, verdicts := [], closed := false, lastRead := none, bytesRead := 0 }
  | _ + 1, connection, [] =>
      { connection, socket := [], verdicts := [], closed := false
        lastRead := some .wouldBlock, bytesRead := 0 }
  | reads + 1, connection, next :: socket =>
      match next with
      | .ok [] | .failed =>
          { connection, socket, verdicts := [], closed := true
            lastRead := some next, bytesRead := 0 }
      | .ok _ => (discardLoop now reads { connection with lastProgress := now } socket).after next 0
      | .interrupted => (discardLoop now reads connection socket).after next 0
      | .wouldBlock =>
          { connection, socket, verdicts := [], closed := false
            lastRead := some next, bytesRead := 0 }

/-- `connection_ready` up to the handling of what it found. -/
def connectionReady (tls : Rustls σ) (limits : WorkerLimits) (now : Instant)
    (connection : Connection σ) (socket : List IoRead) : ReadPass σ :=
  if connection.isHandlingRequest then discardLoop now maxReadsPerEvent connection socket
  else readLoop tls limits now maxReadsPerEvent connection socket

/-- Bytes the socket has for the next read: does it get some of them?  While a request
is handled they are read past the session. -/
def Connection.takesBytes (tls : Rustls σ) (self : Connection σ) (bytes : List UInt8) : Bool :=
  match if self.isHandlingRequest then none else self.ssl with
  | none => !bytes.isEmpty
  | some ssl => (tls.readTls ssl.connection bytes).any (fun taken => taken.1 ≠ 0)

/-- Does a ready event receive bytes?  They come with the first read that is not
interrupted, or not at all. -/
def Connection.receivesBytes (tls : Rustls σ) (self : Connection σ) :
    Nat → List IoRead → Bool
  | 0, _ | _ + 1, [] => false
  | reads + 1, .interrupted :: socket => self.receivesBytes tls reads socket
  | _ + 1, .ok bytes :: _ => self.takesBytes tls bytes
  | _ + 1, .wouldBlock :: _ | _ + 1, .failed :: _ => false

/-! ## §4. The write loop of one ready event. -/

def maxWritesPerEvent : Nat := 16

/-- The answer of one non-blocking write: the most bytes the socket takes. -/
inductive IoWrite where
  | ok (room : Nat)
  | wouldBlock
  | interrupted
  | failed
  deriving Repr, DecidableEq

/-- A session that writes its ciphertext to a socket. -/
structure SocketTls (σ : Type) extends Rustls σ where
  /-- `write_tls` on a socket that takes at most this many bytes: what it wrote. -/
  writeTlsTo : σ → Nat → List UInt8 × σ
  writeTlsTo_le : ∀ s room, (writeTlsTo s room).1.length ≤ room
  /-- A session that has something to send sends some of it. -/
  writeTlsTo_ne_nil : ∀ s room, wantsWrite s = true → 0 < room → (writeTlsTo s room).1 ≠ []

/-- What a write loop noted: bytes the plaintext client's socket accepted, bytes
the session accepted, ciphertext the socket accepted. -/
inductive WriteAct where
  | wrote (bytes : List UInt8)
  | handed (bytes : List UInt8)
  /-- `more` is the session's `wants_write` afterwards. -/
  | sentTls (bytes : List UInt8) (more : Bool)
  deriving Repr, DecidableEq

/-- Why the loop ended. -/
inductive WriteEnd where
  /-- Nothing is left, or the budget is used up. -/
  | stopped
  /-- The socket answered that it would block. -/
  | blocked
  /-- The socket failed, or accepted nothing. -/
  | failed
  /-- The session's writer accepted nothing, or failed. -/
  | refused
  deriving Repr, DecidableEq

structure WritePass (σ : Type) where
  connection : Connection σ
  acts : List WriteAct
  ending : WriteEnd
  bytesWritten : Nat

/-- The pass with one more accepted write before it. -/
def WritePass.after (self : WritePass σ) (act : WriteAct) (count : Nat) : WritePass σ :=
  { self with acts := act :: self.acts, bytesWritten := count + self.bytesWritten }

/-- The connection after `count` more bytes of the response were accepted. -/
def Connection.advance (now : Instant) (self : Connection σ) (count : Nat) : Connection σ :=
  { self with writeOffset := self.writeOffset + count, lastProgress := now }

def Connection.setSession (self : Connection σ) (ssl : SslSession σ) (session : σ) :
    Connection σ :=
  { self with ssl := some { ssl with connection := session } }

/-- The loop of `write_ready`, with the writes left in its budget. The check for
the end after each write is the one the next iteration starts with. -/
def writeLoop (tls : SocketTls σ) (now : Instant) :
    Nat → Connection σ → List IoWrite → WritePass σ
  | 0, connection, _ => { connection, acts := [], ending := .stopped, bytesWritten := 0 }
  | writes + 1, connection, socket =>
      if connection.writeFinished tls.toRustls then
        { connection, acts := [], ending := .stopped, bytesWritten := 0 }
      else
        match connection.ssl with
        | some ssl =>
            if connection.writeOffset < connection.writeBuffer.length then
              match tls.write ssl.connection connection.unsent with
              | none => { connection, acts := [], ending := .refused, bytesWritten := 0 }
              | some (0, session) =>
                  { connection := connection.setSession ssl session, acts := []
                    ending := .refused, bytesWritten := 0 }
              | some (written, session) =>
                  (writeLoop tls now writes
                    ((connection.setSession ssl session).advance now written) socket).after
                    (.handed (connection.unsent.take written)) written
            else
              match socket with
              | [] | .wouldBlock :: _ =>
                  { connection, acts := [], ending := .blocked, bytesWritten := 0 }
              | .interrupted :: socket => writeLoop tls now writes connection socket
              | .failed :: _ => { connection, acts := [], ending := .failed, bytesWritten := 0 }
              | .ok room :: socket =>
                  match tls.writeTlsTo ssl.connection room with
                  | ([], session) =>
                      { connection := connection.setSession ssl session, acts := []
                        ending := .failed, bytesWritten := 0 }
                  | (bytes, session) =>
                      (writeLoop tls now writes
                        ((connection.setSession ssl session).advance now 0) socket).after
                        (.sentTls bytes (tls.wantsWrite session)) bytes.length
        | none =>
            match socket with
            | [] | .wouldBlock :: _ =>
                { connection, acts := [], ending := .blocked, bytesWritten := 0 }
            | .interrupted :: socket => writeLoop tls now writes connection socket
            | .failed :: _ | .ok 0 :: _ =>
                { connection, acts := [], ending := .failed, bytesWritten := 0 }
            | .ok room :: socket =>
                let bytes := connection.unsent.take room
                (writeLoop tls now writes (connection.advance now bytes.length) socket).after
                  (.wrote bytes) bytes.length

/-! ## §5. The loop that forwards the request. -/

/-- How the upstream writes of one event ended. -/
inductive ForwardEnd where
  | finished
  | blocked
  | failed
  /-- The budget is used up. -/
  | stopped
  deriving Repr, DecidableEq

structure ForwardPass where
  proxy : ProxyState
  /-- What the upstream's socket accepted, write by write. -/
  forwarded : List (List UInt8)
  ending : ForwardEnd

/-- The loop of `write_upstream_request`, with the writes left in its budget. -/
def forwardLoop (now : Instant) : Nat → ProxyState → List IoWrite → ForwardPass
  | 0, proxy, _ =>
      { proxy, forwarded := []
        ending := if proxy.requestOffset = proxy.requestBuffer.length then .finished
          else .stopped }
  | writes + 1, proxy, socket =>
      if proxy.requestOffset = proxy.requestBuffer.length then
        { proxy, forwarded := [], ending := .finished }
      else
        match socket with
        | [] | .wouldBlock :: _ => { proxy, forwarded := [], ending := .blocked }
        | .interrupted :: socket => forwardLoop now writes proxy socket
        | .failed :: _ | .ok 0 :: _ => { proxy, forwarded := [], ending := .failed }
        | .ok room :: socket =>
            let bytes := proxy.unforwarded.take room
            let pass := forwardLoop now writes
              ({ proxy with requestOffset := proxy.requestOffset + bytes.length }.recordProgress
                now) socket
            { pass with forwarded := bytes :: pass.forwarded }

/-! ## §6. Runs of ready events. -/

/-- The verdicts of a run of ready events on one connection: the next event
finds it still reading unless a chunk was decided on or the client closed. -/
def readEvents (tls : Rustls σ) (limits : WorkerLimits) :
    List Instant → Connection σ → List IoRead → List ReadVerdict
  | [], _, _ => []
  | now :: events, connection, socket =>
      let pass := connectionReady tls limits now connection socket
      if pass.closed || pass.verdicts.any (· ≠ .keepWaiting) then pass.verdicts
      else pass.verdicts ++ readEvents tls limits events pass.connection pass.socket

end Thwip.Readiness
