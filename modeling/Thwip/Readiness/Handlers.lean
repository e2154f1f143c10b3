/-
  Thwip.Readiness.Handlers — the event handlers of one connection
  (`run/slave/src/runtime/readiness/worker.rs`).

  Every handler of the source works on the connection of ONE id and on resources
  that all connections share.  A `Turn` is what such a call sees: the slab entry,
  what the poller has registered for the client's socket, whether the id is in
  the pending sets, and the shared resources.  Handlers return the new turn, or
  the way the worker ended.
-/
import Thwip.Proxy.Upstream
import Thwip.Readiness.Connection
import Thwip.Readiness.Token

namespace Thwip.Readiness

open Thwip.Lib

variable {σ : Type}

/-! ## §1. What a handler sees. -/

/-- A resolved address, by its text. -/
abbrev SocketAddr := Str

structure Interest where
  readable : Bool
  writable : Bool
  deriving Repr, DecidableEq

def Interest.read : Interest := ⟨true, false⟩

def Interest.write : Interest := ⟨false, true⟩

def Interest.both : Interest := ⟨true, true⟩

/-- Where, and for what reason, a connection is removed. -/
inductive RemovalSite where
  /-- The client's socket reported an error. -/
  | clientError
  /-- The client closed, or only its sending side, and nothing was left to write. -/
  | clientClosed (half : Bool)
  | readClosed
  | readFailed
  /-- The TLS session rejected what the client sent. -/
  | tlsFailed
  | writeFailed
  /-- The TLS session's writer accepted nothing. -/
  | writerRefused
  | reregisterFailed
  | upstreamEof
  | proxyFailed
  | delivered
  /-- A relayed chunk was written while the worker is shutting down. -/
  | draining
  | streamFinished
  | streamFailed
  | idle
  | handshakeExpired
  | shutdown
  | drainDeadline
  deriving Repr, DecidableEq

/-- The trace of a connection; the code never reads it. -/
inductive Act where
  | accepted (tls : Bool)
  | verdict (verdict : ReadVerdict)
  /-- The request goes to a proxy action. -/
  | proxied
  /-- … and these bytes are to be forwarded. -/
  | forwarding (request : List UInt8)
  /-- The upstream's socket accepted these. -/
  | forwarded (bytes : List UInt8)
  /-- A file is served: the head of its response, and the stream of its contents. -/
  | serving (head : List UInt8) (stream : Option StaticStream)
  /-- A response replaced the write buffer. -/
  | queued (response : List UInt8)
  /-- The next chunk of the file replaced the write buffer. -/
  | chunk (bytes : List UInt8)
  /-- These bytes of the upstream's response were taken into the write buffer. -/
  | relayed (bytes : List UInt8)
  | write (act : WriteAct)
  | closeNotify
  | reregistered (interest : Interest)
  /-- `write_finished`: nothing was left in the write buffer or in the session. -/
  | flushed
  /-- `metrics.response()` -/
  | response
  /-- … while these bytes were left in the write buffer, and the session wanted
  to write or not. -/
  | removed (site : RemovalSite) (unsent : List UInt8) (wantsWrite : Bool)
  deriving DecidableEq

/-- The places where a handler may panic. -/
inductive PanicSite where
  /-- Indexing a vacant slab entry. -/
  | slab
  /-- `unwrap` of a missing proxy or file stream. -/
  | proxy
  | staticStream
  | balancer
  deriving Repr, DecidableEq

/-- How the worker stops. -/
inductive Exit where
  /-- `run` returned this error; `none` stands for an operating-system error. -/
  | io (message : Option Str)
  | panic (site : PanicSite)
  /-- `run` returned `Ok(())`. -/
  | returned
  deriving Repr, DecidableEq

structure RegisteredListener where
  defaultServer : Nat
  serverIndices : List Nat
  ssl : Option LoadedSslConfig
  deriving Repr, DecidableEq

/-- The configuration a worker is built from. -/
structure Config (σ : Type) where
  tls : SocketTls σ
  servers : List Server
  sslConfigs : List (Option LoadedSslConfig)
  /-- `(default_server, server_indices)` of each listening socket. -/
  listenerGroups : List (Nat × List Nat)
  limits : WorkerLimits
  proxyLimits : ProxyLimits
  dnsLimits : DnsLimits
  upstreamGroups : Str → Option UpstreamGroup

/-- What the outside answers during one call. -/
structure Io where
  now : Instant
  /-- The client's socket. -/
  reads : List IoRead
  writes : List IoWrite
  /-- The upstream's socket. -/
  upstreamReads : List IoRead
  upstreamWrites : List IoWrite
  /-- `take_error` of the upstream's socket: whether it has one; `none` when the
  call itself fails. -/
  takeError : Option Bool
  /-- The registration made when the trace has this length fails. -/
  registrationFails : Nat → Bool
  connectFails : SocketAddr → Bool
  staticStreamResponse : Str → RequestHead → Except StaticError StaticStreamResponse
  /-- The DNS threads are gone. -/
  resolverStopped : Bool
  /-- The next message of the connection's file stream has arrived. -/
  arrived : Bool

/-- What the handlers read and never change. -/
structure Env (σ : Type) extends Config σ, Io where
  listeners : List RegisteredListener
  draining : Bool

structure ResolveTask where
  connectionId : ConnectionId
  address : Str
  deriving Repr, DecidableEq

/-- What a handler can see and change of the connection itself. -/
structure Seat (σ : Type) where
  /-- The slab entry of the slot. -/
  connection : Option (Connection σ)
  /-- What the client's socket is registered for. -/
  interest : Interest
  /-- What it was registered for when the poller was last asked. -/
  polled : Interest
  /-- The id is in `pending_writes`. -/
  writeScheduled : Bool
  upstreamWriteScheduled : Bool
  upstreamReadScheduled : Bool
  log : List Act

/-- One handler call on one slot. -/
structure Turn (σ : Type) extends Seat σ where
  id : ConnectionId
  metrics : WorkerMetrics
  balancer : UpstreamBalancer
  tasks : List ResolveTask

def Turn.put (t : Turn σ) (connection : Connection σ) : Turn σ :=
  { t with connection := some connection }

def Turn.note (t : Turn σ) (acts : List Act) : Turn σ :=
  { t with log := t.log ++ acts }

/-- `is_current` -/
def Turn.isCurrent (t : Turn σ) : Bool :=
  match t.connection with
  | none => false
  | some connection => connection.generation == t.id.generation

def Turn.countError (t : Turn σ) : Turn σ :=
  { t with metrics := { t.metrics with errors := t.metrics.errors + 1 } }

def Turn.countRequest (t : Turn σ) : Turn σ :=
  { t with metrics := { t.metrics with requests := t.metrics.requests + 1 } }

/-- `metrics.response()` -/
def Turn.countResponse (t : Turn σ) : Turn σ :=
  { t with metrics := { t.metrics with responses := t.metrics.responses + 1 }
           log := t.log ++ [.response] }

def Turn.readBytes (t : Turn σ) (n : Nat) : Turn σ :=
  { t with metrics := { t.metrics with bytesRead := t.metrics.bytesRead + n } }

def Turn.wroteBytes (t : Turn σ) (n : Nat) : Turn σ :=
  { t with metrics := { t.metrics with bytesWritten := t.metrics.bytesWritten + n } }

/-! ## §2. Removing and registering. -/

/-- The removal of this connection; what the poller says to the deregistrations
is only reported. -/
def Turn.drop (tls : Rustls σ) (site : RemovalSite) (connection : Connection σ) (t : Turn σ) :
    Turn σ :=
  { t with connection := none, writeScheduled := false, upstreamWriteScheduled := false
           upstreamReadScheduled := false
           log := t.log ++ [.removed site connection.unsent (connection.sslWantsWrite tls)] }

def removeConnection (env : Env σ) (site : RemovalSite) (t : Turn σ) : Turn σ :=
  match t.connection with
  | none => t
  | some connection => if t.isCurrent then t.drop env.tls.toRustls site connection else t

/-- `registry().reregister` of the client's socket: whether it succeeded; the
error is the token's. -/
def Turn.reregister (env : Env σ) (t : Turn σ) (interest : Interest) :
    Except Exit (Bool × Turn σ) :=
  match t.id.token usizeBits .client with
  | .error message => .error (.io (some message))
  | .ok _ =>
      if env.registrationFails t.log.length then .ok (false, t)
      else .ok (true, { t with interest, log := t.log ++ [.reregistered interest] })

def reregisterClient (env : Env σ) (interest : Interest) (t : Turn σ) : Except Exit (Turn σ) :=
  match t.connection with
  | none => .error (.panic .slab)
  | some _ => do
      let (ok, t) ← t.reregister env interest
      return if ok then t else removeConnection env .reregisterFailed t

/-! ## §3. Responses. -/

/-- A response within the write limit, or the error that replaces it. -/
def boundedResponse (limits : WorkerLimits) (response : List UInt8) : List UInt8 :=
  if response.length > limits.maxWriteBufferSize then
    responseBytes 500 "response is too large".toList
  else response

/-- The connection with a response in its write buffer. -/
def Connection.setResponse (self : Connection σ) (response : List UInt8) : Connection σ :=
  { self.beginResponse with writeBuffer := response, writeOffset := 0 }

def queueResponse (env : Env σ) (response : List UInt8) (t : Turn σ) : Except Exit (Turn σ) :=
  match t.connection with
  | none => .ok t
  | some connection =>
      if !t.isCurrent then .ok t
      else do
        let response := boundedResponse env.limits response
        let t := (t.put (connection.setResponse response)).note [.queued response]
        let (ok, t) ← t.reregister env .write
        return if ok then t else removeConnection env .reregisterFailed t

def queueStaticResponse (env : Env σ) (response : StaticStreamResponse) (t : Turn σ) :
    Except Exit (Turn σ) :=
  match t.connection with
  | none => .ok t
  | some connection =>
      if !t.isCurrent then .ok t
      else
        queueResponse env response.head
          ((t.put { connection with staticStream := response.stream }).note
            [.serving response.head response.stream])

/-- A registration whose failure `?` passes on. -/
def Turn.mustReregister (env : Env σ) (interest : Interest) (t : Turn σ) :
    Except Exit (Turn σ) := do
  let (ok, t) ← t.reregister env interest
  if ok then return t else .error (.io none)

def advanceStaticStream (env : Env σ) (t : Turn σ) : Except Exit (Turn σ) :=
  match t.connection with
  | none => .ok t
  | some connection =>
      if !t.isCurrent then .ok t
      else
        match connection.staticStream with
        | none => .error (.panic .staticStream)
        | some stream =>
            match stream.tryNext env.arrived with
            | (some (.data bytes), stream) =>
                ((t.put { connection with
                  staticStream := some stream, writeBuffer := bytes, writeOffset := 0 }).note
                    [.chunk bytes]).mustReregister env .write
            | (some .pending, stream) =>
                -- until the next chunk comes, only the client can make news
                (t.put { connection with staticStream := some stream }).mustReregister env .read
            | (some .finished, _) => .ok (removeConnection env .streamFinished t.countResponse)
            | (none, _) => .ok (removeConnection env .streamFailed t.countError)

def closeClient (env : Env σ) (site : RemovalSite) (t : Turn σ) : Except Exit (Turn σ) :=
  match t.connection with
  | none => .ok t
  | some connection =>
      if !t.isCurrent then .ok t
      else
        match connection.ssl with
        | none => .ok (removeConnection env site t)
        | some ssl =>
            if connection.sslClosing then .ok (removeConnection env site t)
            else
              reregisterClient env .write
                ((t.put { connection.setSession ssl (env.tls.sendCloseNotify ssl.connection) with
                  sslClosing := true }).note [.closeNotify])

/-! ## §4. The upstream exchange. -/

def failProxy (env : Env σ) (status : Nat) (message : Str) (t : Turn σ) : Except Exit (Turn σ) :=
  match t.connection with
  | none => .ok t
  | some connection =>
      if !t.isCurrent then .ok t
      else
        let canSendError :=
          (match connection.proxy with
            | none => false
            | some proxy => !proxy.responseStarted) && connection.writeBuffer.isEmpty
        let t := { t.put connection.detachProxy with
          upstreamReadScheduled := false, upstreamWriteScheduled := false }
        if canSendError then queueResponse env (responseBytes status message) t
        else .ok (removeConnection env .proxyFailed t)

def failResolution (env : Env σ) (status : Nat) (message : Str) (t : Turn σ) :
    Except Exit (Turn σ) :=
  match t.connection with
  | none => .ok t
  | some connection =>
      if !t.isCurrent || !connection.isResolving then .ok t
      else queueResponse env (responseBytes status message) t

/-- `start_proxy`; the `false` stands for its error, which is only reported. -/
def startProxy (env : Env σ) (upstreamUrl : Str) (request : RequestHead) (body : List UInt8)
    (t : Turn σ) : Except Exit (Bool × Turn σ) :=
  match Upstream.parse upstreamUrl with
  | .error _ => .ok (false, t)
  | .ok upstream =>
      let requestBuffer := upstream.requestBytes request body
      if requestBuffer.length > env.limits.maxReadBufferSize then .ok (false, t)
      else
        match t.connection with
        | none => .error (.panic .slab)
        | some connection =>
            let t := (t.put (connection.beginResolving env.now requestBuffer)).note
              [.forwarding requestBuffer]
            if env.resolverStopped then .ok (false, t)
            else .ok (true, { t with tasks := t.tasks ++ [⟨t.id, upstream.connectAddress⟩] })

/-- `finish_resolution`; `none` stands for a failed lookup. -/
def finishResolution (env : Env σ) (addresses : Option (List SocketAddr)) (t : Turn σ) :
    Except Exit (Turn σ) :=
  match t.connection with
  | none => .ok t
  | some connection =>
      if !t.isCurrent || !connection.isResolving then .ok t
      else
        match addresses with
        | none => failResolution env 502 "upstream DNS resolution failed".toList t
        | some [] => failResolution env 502 "upstream has no address".toList t
        | some (address :: _) =>
            match connection.resolution with
            | none => .ok t
            | some resolution =>
                -- `take_resolution` leaves this phase behind
                let t := t.put connection.beginResponse
                let fail := queueResponse env
                  (responseBytes 502 "upstream connection failed".toList) t
                if env.connectFails address then fail
                else
                  match t.id.token usizeBits .upstream with
                  | .error message => .error (.io (some message))
                  | .ok _ =>
                      if env.registrationFails t.log.length then fail
                      else
                        .ok (t.put (connection.beginProxy
                          (ProxyState.new env.now resolution.requestBuffer)))

/-- The result of the forwarding loop, applied to the connection. -/
def Connection.afterForwarding (now : Instant) (self : Connection σ) (pass : ForwardPass) :
    Connection σ :=
  let self := self.beginProxy pass.proxy
  -- an early return leaves `last_progress` as it was
  if pass.forwarded.isEmpty || pass.ending = .blocked then self
  else { self with lastProgress := now }

/-- The second half of `write_upstream_request`, for an exchange in its writing
phase. -/
def forwardRequest (env : Env σ) (connection : Connection σ) (proxy : ProxyState) (t : Turn σ) :
    Except Exit (Turn σ) :=
  let pass := forwardLoop env.now maxWritesPerEvent proxy env.upstreamWrites
  let connection := connection.afterForwarding env.now pass
  let t := (t.put connection).note (pass.forwarded.map Act.forwarded)
  match pass.ending with
  | .blocked => .ok t
  | .failed => failProxy env 502 "upstream connection failed".toList t
  | .stopped => .ok { t with upstreamWriteScheduled := true }
  | .finished =>
      let t := t.put (connection.beginProxy (pass.proxy.transition env.now .readingResponse))
      match t.id.token usizeBits .upstream with
      | .error message => .error (.io (some message))
      | .ok _ =>
          if env.registrationFails t.log.length then
            failProxy env 502 "upstream connection failed".toList t
          else .ok t

def writeUpstreamRequest (env : Env σ) (t : Turn σ) : Except Exit (Turn σ) :=
  match t.connection with
  | none => .ok t
  | some connection =>
      if !t.isCurrent then .ok t
      else
        match connection.proxy with
        | none => .ok t
        | some proxy =>
            match proxy.phase with
            | .readingResponse => .ok t
            | .connecting =>
                match env.takeError with
                | none => .error (.io none)
                | some true => failProxy env 502 "upstream connection failed".toList t
                | some false => forwardRequest env connection (proxy.transition env.now .writingRequest) t
            | .writingRequest => forwardRequest env connection proxy t

def markUpstreamEof (env : Env σ) (t : Turn σ) : Turn σ :=
  match t.connection with
  | none => t
  | some connection =>
      if !t.isCurrent then t
      else
        let connection :=
          match connection.proxy with
          | none => connection
          | some proxy => connection.beginProxy { proxy with upstreamEof := true }
        let t := t.put connection
        if connection.writeBuffer.isEmpty then removeConnection env .upstreamEof t else t

/-- The first answer that is not an interruption. -/
def firstRead : List IoRead → IoRead
  | [] => .wouldBlock
  | .interrupted :: socket => firstRead socket
  | answer :: _ => answer

def readUpstreamResponse (env : Env σ) (t : Turn σ) : Except Exit (Turn σ) :=
  match t.connection with
  | none => .ok t
  | some connection =>
      if !t.isCurrent || !connection.writeBuffer.isEmpty then .ok t
      else
        match connection.proxy with
        | none => .ok t
        | some proxy =>
            if proxy.phase ≠ .readingResponse then .ok t
            else
              match firstRead env.upstreamReads with
              | .wouldBlock | .interrupted => .ok t
              | .failed => failProxy env 502 "upstream response failed".toList t
              | .ok available =>
                  let bytes := available.take (min readBufferLen env.limits.maxWriteBufferSize)
                  if bytes.isEmpty then .ok (markUpstreamEof env t)
                  else
                    let proxy := { proxy with responseStarted := true }.recordProgress env.now
                    reregisterClient env .write
                      (((t.readBytes bytes.length).put
                        { connection.beginProxy proxy with
                          writeBuffer := bytes, writeOffset := 0, lastProgress := env.now }).note
                        [.relayed bytes])

/-! ## §5. The client's bytes. -/

/-- Why the connection is closed after a read pass. -/
def ReadPass.closeSite (self : ReadPass σ) : RemovalSite :=
  match self.lastRead with
  | some (.ok []) => .readClosed
  | some (.ok _) => .tlsFailed
  | _ => .readFailed

/-- `client_during_proxy_ready` after its loop. -/
def clientDuringProxyReady (env : Env σ) (pass : ReadPass σ) (t : Turn σ) : Turn σ :=
  let t := t.put pass.connection
  if pass.closed then removeConnection env pass.closeSite t else t

/-- `response_for` -/
def responseFor (servers : List Server) (serverIndex : Nat) (target : Str) : List UInt8 :=
  match servers[serverIndex]? with
  | none => responseBytes 500 "server configuration is unavailable".toList
  | some server =>
      match route server target with
      | some (.response status body) => responseBytes status body
      | some (.static _) => responseBytes 500 "static stream was not prepared".toList
      | some (.proxy ..) => responseBytes 501 "configured action is not implemented".toList
      | none => responseBytes 404 "not found".toList

/-- The branch of `connection_ready` for a complete request. The `false` stands
for its early returns, after which nothing more is done. -/
def answerRequest (env : Env σ) (listenerGroup : Nat) (request : RequestHead)
    (body : List UInt8) (t : Turn σ) : Except Exit (Bool × Turn σ) :=
  match env.listeners[listenerGroup]? with
  | none => .error (.io (some "listener group is unavailable".toList))
  | some listener =>
      let serverIndex := selectServer listener.serverIndices listener.defaultServer request
        env.servers
      let respond (response : List UInt8) (goesOn : Bool) (t : Turn σ) :
          Except Exit (Bool × Turn σ) := do
        let t ← queueResponse env response t
        return (goesOn, t)
      match env.servers[serverIndex]? with
      | none => respond (responseBytes 500 "server configuration is unavailable".toList) false t
      | some server =>
          match route server request.target with
          | some (.proxy upstream upstreamGroup upstreams policy) =>
              let t := t.note [.proxied]
              match t.balancer.select (.proxy upstream upstreamGroup upstreams policy) with
              -- the arithmetic on the weights fails
              | none => .error (.panic .balancer)
              | some (.error _, balancer) =>
                  respond (responseBytes 502 "upstream configuration failed".toList) false
                    { t with balancer }
              | some (.ok upstream, balancer) => do
                  let (started, t) ← startProxy env upstream request body { t with balancer }
                  if started then return (true, t)
                  else respond (responseBytes 502 "upstream connection failed".toList) true t
          | some (.static directory) =>
              match env.staticStreamResponse directory request with
              | .ok response => do
                  let t ← queueStaticResponse env response t
                  return (true, t)
              | .error error => respond (staticErrorResponse error) true t
          | _ => respond (responseFor env.servers serverIndex request.target) true t

/-- What the last verdict of the read loop asks for. -/
def answerVerdict (env : Env σ) (listenerGroup : Nat) (verdict : Option ReadVerdict)
    (t : Turn σ) : Except Exit (Bool × Turn σ) :=
  match verdict with
  | some (.error status message) => do
      let t ← queueResponse env (responseBytes status message) t
      return (true, t)
  | some (.dispatch request body) =>
      answerRequest env listenerGroup request body t.countRequest
  | _ => .ok (true, t)

/-- The session may have something to say to what it was given. -/
def flushHandshake (env : Env σ) (t : Turn σ) : Except Exit (Turn σ) :=
  match t.connection with
  | none => .ok t
  | some connection =>
      if t.isCurrent && connection.sslWantsWrite env.tls.toRustls then
        reregisterClient env .both t
      else .ok t

/-- `connection_ready` -/
def handleConnectionReady (env : Env σ) (t : Turn σ) : Except Exit (Turn σ) :=
  match t.connection with
  | none => .ok t
  | some connection =>
      if !t.isCurrent then .ok t
      else
        let pass := connectionReady env.tls.toRustls env.limits env.now connection env.reads
        if connection.isHandlingRequest then .ok (clientDuringProxyReady env pass t)
        else do
          let t := ((t.readBytes pass.bytesRead).put pass.connection).note
            (pass.verdicts.map Act.verdict)
          let (goesOn, t) ←
            answerVerdict env pass.connection.listenerGroup pass.verdicts.getLast? t
          if !goesOn then return t
          else
            let t := if pass.closed then removeConnection env pass.closeSite t else t
            flushHandshake env t

/-! ## §6. Writing to the client. -/

/-- What `write_ready` does once nothing is left to write of a response. -/
def finishWrite (env : Env σ) (connection : Connection σ) (t : Turn σ) : Except Exit (Turn σ) :=
  if connection.staticStream.isSome then advanceStaticStream env t
  else
    let t := t.countResponse
    match connection.proxy with
    | none => closeClient env .delivered t
    | some proxy =>
        if env.draining then closeClient env .draining t
        else if proxy.upstreamEof then closeClient env .delivered t
        else do
          let t ← reregisterClient env .read
            (t.put { connection with writeBuffer := [], writeOffset := 0 })
          return { t with upstreamReadScheduled := true }

def writeReady (env : Env σ) (t : Turn σ) : Except Exit (Turn σ) :=
  match t.connection with
  | none => .ok t
  | some connection =>
      if !t.isCurrent then .ok t
      else if connection.ssl.isSome && connection.writeFinished env.tls.toRustls then
        reregisterClient env .read t
      else
        let pass := writeLoop env.tls env.now maxWritesPerEvent connection env.writes
        let connection := pass.connection
        let t := ((t.wroteBytes pass.bytesWritten).put connection).note (pass.acts.map Act.write)
        match pass.ending with
        | .blocked => .ok t
        | .failed => .ok (removeConnection env .writeFailed t)
        | .refused => .ok (removeConnection env .writerRefused t)
        | .stopped =>
            if connection.writeFinished env.tls.toRustls then
              let t := t.note [.flushed]
              if connection.isWritingResponse || connection.isProxying then
                finishWrite env connection t
              else reregisterClient env .read t
            else if connection.isWritingResponse then
              -- the budget is used up: the worker resumes by itself
              .ok { t with writeScheduled := true }
            else .ok t

/-! ## §7. One turn. -/

/-- The calls the run loop and the dispatch of ready events make for one
connection. -/
inductive TurnEvent where
  | connectionReady
  /-- `write_ready`; `due` when the id was drained from `pending_writes`. -/
  | writeReady (due : Bool)
  | clientError
  /-- `read_closed` or `write_closed`; `half` when only the former. -/
  | clientClosed (half : Bool)
  | upstreamError
  | writeUpstream (due : Bool)
  | readUpstream (due : Bool)
  /-- The upstream closed: the rest of its response is read by the run loop. -/
  | upstreamClosed
  | resolved (addresses : Option (List SocketAddr))
  | resolutionExpired
  | proxyExpired (phase : ProxyPhase)
  | idle
  | handshakeExpired
  | pump
  | shutdown
  | drainDeadline
  deriving Repr, DecidableEq

/-- `log_socket_error`, then the removal. -/
def clientError (env : Env σ) (t : Turn σ) : Turn σ :=
  removeConnection env .clientError (if t.isCurrent then t.countError else t)

def clientClosed (env : Env σ) (half : Bool) (t : Turn σ) : Turn σ :=
  match t.connection with
  | none => t
  | some connection =>
      if t.isCurrent && connection.writeOffset == connection.writeBuffer.length then
        removeConnection env (.clientClosed half) t
      else t

def handleTurn (env : Env σ) : TurnEvent → Turn σ → Except Exit (Turn σ)
  | .connectionReady, t => handleConnectionReady env t
  | .writeReady due, t => writeReady env { t with writeScheduled := t.writeScheduled && !due }
  | .clientError, t => .ok (clientError env t)
  | .clientClosed half, t => .ok (clientClosed env half t)
  | .upstreamError, t => failProxy env 502 "upstream connection failed".toList t
  | .writeUpstream due, t =>
      writeUpstreamRequest env
        { t with upstreamWriteScheduled := t.upstreamWriteScheduled && !due }
  | .readUpstream due, t =>
      readUpstreamResponse env { t with upstreamReadScheduled := t.upstreamReadScheduled && !due }
  | .upstreamClosed, t => .ok (if t.isCurrent then { t with upstreamReadScheduled := true } else t)
  | .resolved addresses, t => finishResolution env addresses t
  | .resolutionExpired, t => failResolution env 504 "upstream DNS resolution timed out".toList t
  | .proxyExpired phase, t => failProxy env 504 phase.timeoutMessage t
  | .idle, t => .ok (removeConnection env .idle t)
  | .handshakeExpired, t => .ok (removeConnection env .handshakeExpired t)
  | .pump, t => advanceStaticStream env t
  | .shutdown, t => .ok (removeConnection env .shutdown t)
  | .drainDeadline, t => .ok (removeConnection env .drainDeadline t)

end Thwip.Readiness
