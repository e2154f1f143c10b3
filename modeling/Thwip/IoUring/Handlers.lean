/-
  Thwip.IoUring.Handlers — the completion handlers of one connection
  (`run/slave/src/runtime/io_uring/worker.rs`).

  Every handler of the source works on the slab entry of ONE slot and on
  resources that all connections share.  A `Turn` is what such a call sees: the
  entry, the shared resources it may change, and the operations it has pushed,
  which all carry the turn's connection id.  Handlers return the new turn, or
  the way the worker ended: an I/O error that `run` returns, or a panic.
-/
import Thwip.IoUring.Connection
import Thwip.Proxy.Upstream

namespace Thwip.IoUring

open Thwip.Lib

variable {σ : Type}

/-! ## §1. What a handler sees. -/

/-- The places where a handler may panic. -/
inductive PanicSite where
  /-- Indexing, or removing from, a vacant slab entry. -/
  | slab
  /-- `unwrap` of a missing proxy, upstream socket, address or file stream. -/
  | proxy
  | upstream
  | address
  | staticStream
  /-- `u32::try_from(buffer_size).unwrap()` -/
  | bufferSize
  | balancer
  deriving Repr, DecidableEq

/-- How the worker stops. -/
inductive Exit where
  /-- `run` returned this error; `none` stands for an operating-system error. -/
  | io (message : Option Str)
  | panic (site : PanicSite)
  /-- `run` returned `Ok(())`. -/
  | returned
  deriving Repr, DecidableEq

structure UringListener where
  defaultServer : Nat
  serverIndices : List Nat
  ssl : Option LoadedSslConfig
  generation : UInt16
  /-- `AcceptMode::Multishot`, else `SingleShot`. -/
  multishot : Bool
  acceptPending : Bool
  deriving Repr, DecidableEq

/-- What the outside answers while one completion is handled. -/
structure World where
  now : Instant
  /-- `push_entry` fails because the ring cannot be submitted. -/
  submitFails : Entry → Bool
  createUpstreamSocket : SocketAddr → Option Socket
  staticStreamResponse : Str → RequestHead → Except StaticError StaticStreamResponse
  /-- The DNS threads are gone. -/
  resolverStopped : Bool
  /-- The next message of the file stream of this slot has arrived. -/
  arrived : Nat → Bool
  /-- The vacant key the slab offers next. -/
  vacantKey : Nat

/-- The configuration a worker is built from. -/
structure Config (σ : Type) where
  tls : Rustls σ
  servers : List Server
  sslConfigs : List (Option LoadedSslConfig)
  /-- `(default_server, server_indices)` of each listening socket. -/
  listenerGroups : List (Nat × List Nat)
  limits : WorkerLimits
  proxyLimits : ProxyLimits
  dnsLimits : DnsLimits
  upstreamGroups : Str → Option UpstreamGroup
  bufRingSize : Nat
  /-- `buf_size`, the length of one provided buffer. -/
  bufferSize : Nat

/-- What the handlers read and never change. -/
structure Env (σ : Type) extends Config σ, World where
  listeners : List UringListener

structure ResolveTask where
  connectionId : ConnectionId
  address : Str
  deriving Repr, DecidableEq

/-- One handler call on one slot. -/
structure Turn (σ : Type) where
  id : ConnectionId
  /-- The slab entry of the slot. -/
  connection : Option (UringConnection σ)
  /-- The trace of the connection since it was accepted. -/
  log : List Act
  /-- Operations pushed in this turn, all under `id`. -/
  pushed : List ConnectionOp
  /-- Upstream operations of `id` this turn asked the kernel to cancel. -/
  cancelled : List OperationKind
  bufferRing : ProvidedBufferRing
  metrics : WorkerMetrics
  balancer : UpstreamBalancer
  tasks : List ResolveTask

def Turn.put (t : Turn σ) (connection : UringConnection σ) : Turn σ :=
  { t with connection := some connection }

def Turn.note (t : Turn σ) (acts : List Act) : Turn σ :=
  { t with log := t.log ++ acts }

/-- `self.connections.remove(slot)` on an occupied slot. -/
def Turn.remove (t : Turn σ) (site : RemovalSite) : Turn σ :=
  { t with connection := none, log := t.log ++ [.removed site] }

/-- `queue_response` on the connection of the turn. -/
def Turn.queue (t : Turn σ) (connection : UringConnection σ) (response : List UInt8) : Turn σ :=
  (t.put (connection.queueResponse response)).note [.queued response]

/-- `metrics.error()` -/
def Turn.countError (t : Turn σ) : Turn σ :=
  { t with metrics := { t.metrics with errors := t.metrics.errors + 1 } }

/-- `metrics.response()` -/
def Turn.countResponse (t : Turn σ) (site : RemovalSite) : Turn σ :=
  { t with metrics := { t.metrics with responses := t.metrics.responses + 1 }
           log := t.log ++ [.response site] }

def Turn.countRequest (t : Turn σ) : Turn σ :=
  { t with metrics := { t.metrics with requests := t.metrics.requests + 1 } }

def Turn.wroteBytes (t : Turn σ) (n : Nat) : Turn σ :=
  { t with metrics := { t.metrics with bytesWritten := t.metrics.bytesWritten + n } }

def Turn.readBytes (t : Turn σ) (n : Nat) : Turn σ :=
  { t with metrics := { t.metrics with bytesRead := t.metrics.bytesRead + n } }

/-- `push_entry` for an operation of the turn's connection. -/
def Turn.pushEntry (env : Env σ) (op : ConnectionOp) (t : Turn σ) : Except Exit (Turn σ) :=
  if env.submitFails (.operation t.id op) then .error (.io none)
  else .ok { t with pushed := t.pushed ++ [op] }

/-! ## §2. Error numbers. -/

def eintr : Int := 4
def eagain : Int := 11
def enobufs : Int := 105

/-- The send of a client or upstream request is to be repeated. -/
def isSendRetry (result : Int) : Bool := -result == eagain || -result == eintr

/-- The receive is to be repeated. -/
def isRecvRetry (result : Int) : Bool :=
  -result == eagain || -result == eintr || -result == enobufs

/-! ## §3. Client sends and receives. -/

/-- The refill of `submit_send` on a TLS connection whose ciphertext has all been
transmitted: offer the rest of the response to the session, then take what it
has to send. `none` when the session reports an error. -/
def UringConnection.refill (tls : Rustls σ) (self : UringConnection σ)
    (ssl : UringSslSession σ) : Option (UringConnection σ × List Act) :=
  let offered := self.writeBuffer.drop self.writeOffset
  -- one `write` call: the session may accept only part of what it is offered
  let handed? :=
    if self.writeOffset < self.writeBuffer.length then tls.write ssl.connection offered
    else some (0, ssl.connection)
  match handed? with
  | none => none
  | some (written, session) =>
      -- one `write_tls` call, into the buffer that has just been cleared
      let produced? :=
        if tls.wantsWrite session then tls.writeTls session else some ([], session)
      match produced? with
      | none => none
      | some (bytes, session) =>
          some
            ({ self with
                sslWriteBuffer := bytes, sslWriteOffset := 0
                writeOffset := self.writeOffset + written
                ssl := some { ssl with connection := session } },
             [.cleared, .handed (offered.take written), .produced bytes])

/-- What `submit_send` does to the buffers before it looks at what remains. -/
def UringConnection.fillOutput (tls : Rustls σ) (self : UringConnection σ) :
    Option (UringConnection σ × List Act) :=
  match self.ssl with
  | none => some (self, [])
  | some ssl =>
      if self.sslWriteOffset = self.sslWriteBuffer.length then self.refill tls ssl
      else some (self, [])

def submitSend (env : Env σ) (t : Turn σ) : Except Exit (Turn σ) :=
  match t.connection with
  | none => .error (.io (some "connection slot is unavailable".toList))
  | some connection =>
      -- while a send is in flight its buffer belongs to the kernel
      if !connection.matchesGeneration t.id.generation || connection.writePending then .ok t
      else
        match connection.fillOutput env.tls with
        | none => .error (.io none)
        | some (connection, acts) =>
            let t := (t.put connection).note acts
            if connection.unsent.isEmpty then .ok t
            else if !fitsU32 connection.unsent.length then
              .error (.io (some "response exceeds io_uring send length capacity".toList))
            else do
              let (buffer, offset) := connection.sendBuffer
              let t ← t.pushEntry env (.send buffer offset (clearsIn t.log))
              return t.put connection.markWriteSubmitted

def submitRecv (env : Env σ) (t : Turn σ) : Except Exit (Turn σ) :=
  match t.connection with
  | none => .error (.io (some "connection slot is unavailable".toList))
  | some connection =>
      if !connection.matchesGeneration t.id.generation || connection.readPending then .ok t
      else if !fitsU32 env.bufferSize then .error (.panic .bufferSize)
      else do
        let t ← t.pushEntry env (.recv env.bufferSize)
        return (t.put connection.markReadSubmitted).note [.recvSubmitted]

/-! ## §4. Upstream submissions. -/

/-- The common end of the three submissions: push, then `operation_pending`. -/
def submitProxy (env : Env σ) (t : Turn σ) (connection : UringConnection σ)
    (proxy : UringProxy) (op : ConnectionOp) : Except Exit (Turn σ) := do
  let t ← t.pushEntry env op
  return t.put (connection.setProxy proxy.submitted)

def submitProxyConnect (env : Env σ) (t : Turn σ) : Except Exit (Turn σ) :=
  match t.connection with
  | none => .error (.panic .slab)
  | some connection =>
      match connection.proxy with
      | none => .error (.panic .proxy)
      | some proxy =>
          let t := t.note [.submitProxy .proxyConnect proxy]
          match proxy.upstream with
          | none => .error (.panic .upstream)
          | some _ =>
              match proxy.address with
              | none => .error (.panic .address)
              | some address => submitProxy env t connection proxy (.connect address)

def submitProxyWrite (env : Env σ) (t : Turn σ) : Except Exit (Turn σ) :=
  match t.connection with
  | none => .error (.panic .slab)
  | some connection =>
      match connection.proxy with
      | none => .error (.panic .proxy)
      | some proxy =>
          let t := t.note [.submitProxy .proxyWrite proxy]
          let remaining := proxy.requestBuffer.drop proxy.requestOffset
          if !fitsU32 remaining.length then
            .error (.io (some "upstream request is too large".toList))
          else
            match proxy.upstream with
            | none => .error (.panic .upstream)
            | some _ => submitProxy env t connection proxy (.proxySend remaining)

def submitProxyRead (env : Env σ) (t : Turn σ) : Except Exit (Turn σ) :=
  match t.connection with
  | none => .error (.panic .slab)
  | some connection =>
      match connection.proxy with
      | none => .error (.panic .proxy)
      | some proxy =>
          let t := t.note [.submitProxy .proxyRead proxy]
          if !fitsU32 env.bufferSize then .error (.panic .bufferSize)
          else
            match proxy.upstream with
            | none => .error (.panic .upstream)
            | some _ => submitProxy env t connection proxy (.proxyRecv env.bufferSize)

/-! ## §5. Error responses. -/

def queueHttpError (env : Env σ) (status : Nat) (message : Str) (t : Turn σ) :
    Except Exit (Turn σ) :=
  let t := t.countError
  match t.connection with
  | none => .ok t
  | some connection =>
      if !connection.matchesGeneration t.id.generation then .ok t
      else
        submitSend env
          (t.queue { connection with pendingRequest := none } (responseBytes status message))

def queueProxyError (env : Env σ) (status : Nat) (message : Str) (t : Turn σ) :
    Except Exit (Turn σ) :=
  let t := t.countError
  match t.connection with
  | none => .ok t
  | some connection =>
      if !connection.matchesGeneration t.id.generation then .ok t
      else
        submitSend env
          (t.queue { connection with proxy := none } (responseBytes status message))

/-- A failure after the first response byte can only drop the connection. -/
def failProxy (env : Env σ) (status : Nat) (message : Str) (t : Turn σ) :
    Except Exit (Turn σ) :=
  let responseStarted :=
    match t.connection with
    | none => false
    | some connection =>
        match connection.proxy with
        | none => false
        | some proxy => proxy.responseStarted
  if responseStarted then .ok (t.remove .proxyFailed)
  else queueProxyError env status message t

/-! ## §6. Static files. -/

def queueStaticResponse (env : Env σ) (response : StaticStreamResponse) (t : Turn σ) :
    Except Exit (Turn σ) :=
  match t.connection with
  | none => .error (.panic .slab)
  | some connection =>
      submitSend env
        (t.queue { connection with staticStream := response.stream } response.head)

def advanceStaticStream (env : Env σ) (t : Turn σ) : Except Exit (Turn σ) :=
  match t.connection with
  | none => .error (.panic .slab)
  | some connection =>
      match connection.staticStream with
      | none => .error (.panic .staticStream)
      | some stream =>
          match stream.tryNext (env.arrived t.id.slot) with
          | (some (.data bytes), stream) =>
              submitSend env (t.queue { connection with staticStream := some stream } bytes)
          | (some .pending, stream) => .ok (t.put { connection with staticStream := some stream })
          | (some .finished, _) =>
              .ok ((t.countResponse .streamFinished).remove .streamFinished)
          -- the thread that reads the file reported an error
          | (none, _) => .ok (t.countError.remove .streamFailed)

/-! ## §7. The upstream exchange. -/

/-- The loop of `try_next_proxy_address`: addresses for which no socket can be
created are dropped. -/
def nextAddress (create : SocketAddr → Option Socket) :
    List SocketAddr → Option (SocketAddr × Socket × List SocketAddr)
  | [] => none
  | address :: addresses =>
      match create address with
      | some socket => some (address, socket, addresses)
      | none => nextAddress create addresses

def tryNextProxyAddress (env : Env σ) (t : Turn σ) : Except Exit (Turn σ) :=
  match t.connection with
  | none => .error (.panic .slab)
  | some connection =>
      match connection.proxy with
      | none => queueProxyError env 502 "upstream connection failed".toList t
      | some proxy =>
          match nextAddress env.createUpstreamSocket proxy.addresses with
          -- every address has been tried
          | none =>
              queueProxyError env 502 "upstream connection failed".toList
                (t.put (connection.setProxy { proxy with addresses := [] }))
          | some (address, socket, addresses) =>
              submitProxyConnect env
                (t.put (connection.setProxy (proxy.connectTo env.now socket address addresses)))

def startProxy (env : Env σ) (upstreamUrl : Str) (request : RequestHead)
    (body : List UInt8) (t : Turn σ) : Except Exit (Turn σ) :=
  match Upstream.parse upstreamUrl with
  | .error _ => queueProxyError env 502 "upstream configuration failed".toList t
  | .ok upstream =>
      let requestBuffer := upstream.requestBytes request body
      if requestBuffer.length > env.limits.maxReadBufferSize then
        queueProxyError env 502 "upstream request is too large".toList t
      else
        match t.connection with
        | none => .ok t
        | some connection =>
            -- a resolver thread answers under this id, whoever owns the slot by then
            let t := (t.put (connection.setProxy (UringProxy.resolving env.now requestBuffer))).note
              [.forwarding requestBuffer]
            if env.resolverStopped then
              queueProxyError env 502 "upstream DNS resolution failed".toList t
            else .ok { t with tasks := t.tasks ++ [⟨t.id, upstream.connectAddress⟩] }

/-- `finish_resolution`; `none` stands for a failed lookup. -/
def finishResolution (env : Env σ) (addresses : Option (List SocketAddr)) (t : Turn σ) :
    Except Exit (Turn σ) :=
  match t.connection with
  | none => .ok t
  | some connection =>
      match connection.proxy with
      | none => .ok t
      | some proxy =>
          -- the client is gone, or its request timed out and was answered meanwhile
          if !connection.matchesGeneration t.id.generation || proxy.phase ≠ .resolving then .ok t
          else
            match addresses with
            | none => queueProxyError env 502 "upstream DNS resolution failed".toList t
            | some [] => queueProxyError env 502 "upstream has no address".toList t
            | some addresses =>
                tryNextProxyAddress env
                  (t.put (connection.setProxy
                    ({ proxy with addresses }.transition env.now .connecting)))

/-- `current_proxy_mut` -/
def Turn.currentProxy (t : Turn σ) : Option (UringConnection σ × UringProxy) :=
  match t.connection with
  | none => none
  | some connection =>
      if !connection.matchesGeneration t.id.generation then none
      else
        match connection.proxy with
        | none => none
        | some proxy => some (connection, proxy)

def handleProxyConnect (env : Env σ) (result : Int) (t : Turn σ) : Except Exit (Turn σ) :=
  match t.currentProxy with
  | none => .ok t
  | some (connection, proxy) =>
      let proxy := proxy.completed
      let t := t.put (connection.setProxy proxy)
      -- the timer asked the kernel to cancel this operation; the result does not count
      if proxy.timedOut then failProxy env 504 "upstream connect timed out".toList t
      else if result < 0 then tryNextProxyAddress env t
      else
        submitProxyWrite env
          (t.put (connection.setProxy (proxy.transition env.now .writingRequest)))

/-- `submitted` is what the completed send was given. -/
def handleProxyWrite (env : Env σ) (submitted : List UInt8) (result : Int) (t : Turn σ) :
    Except Exit (Turn σ) :=
  match t.currentProxy with
  | none => .ok t
  | some (connection, proxy) =>
      let proxy := proxy.completed
      let t := t.put (connection.setProxy proxy)
      if proxy.timedOut then failProxy env 504 "upstream request write timed out".toList t
      else if result < 0 then
        if isSendRetry result then submitProxyWrite env t
        else failProxy env 502 "upstream request write failed".toList t
      else if result = 0 then failProxy env 502 "upstream request write failed".toList t
      else
        let written := result.toNat
        let t := t.wroteBytes written
        if written > proxy.requestBuffer.length - proxy.requestOffset then
          failProxy env 502 "invalid upstream write completion".toList t
        else
          let proxy := proxy.wrote env.now written
          let t := t.note [.forwarded (submitted.take written)]
          -- a short write is continued where it stopped
          if proxy.requestOffset = proxy.requestBuffer.length then
            submitProxyRead env
              (t.put (connection.setProxy (proxy.transition env.now .readingResponse)))
          else submitProxyWrite env (t.put (connection.setProxy proxy))

/-- The bytes of a receive completion, copied out of the selected buffer; a
positive result without a buffer, or a bad copy, ends the run. -/
def Turn.takeReceived (t : Turn σ) (missing : Str) (result : Int) (bufferId : Option Nat)
    (contents : Nat → UInt8) : Except Exit (List UInt8 × Turn σ) :=
  if result > 0 then
    match bufferId with
    | none => .error (.io (some missing))
    | some id =>
        match t.bufferRing.copyAndRelease id result.toNat contents with
        | .error message => .error (.io (some message))
        | .ok (bytes, bufferRing) => .ok (bytes, { t with bufferRing })
  else
    match bufferId with
    | none => .ok ([], t)
    | some id =>
        -- a selected buffer goes back to the ring even when nothing was received
        match t.bufferRing.copyAndRelease id 0 contents with
        | .error message => .error (.io (some message))
        | .ok (_, bufferRing) => .ok ([], { t with bufferRing })

def handleProxyRead (env : Env σ) (result : Int) (bufferId : Option Nat)
    (contents : Nat → UInt8) (t : Turn σ) : Except Exit (Turn σ) := do
  let (bytes, t) ← t.takeReceived
    "upstream receive completed without a selected buffer".toList result bufferId contents
  match t.currentProxy with
  | none => .ok t
  | some (connection, proxy) =>
      let proxy := proxy.completed
      let t := t.put (connection.setProxy proxy)
      if proxy.timedOut then failProxy env 504 "upstream response timed out".toList t
      else if result < 0 then
        if isRecvRetry result then submitProxyRead env t
        else failProxy env 502 "upstream response failed".toList t
      else if result = 0 then
        -- the end of the upstream's stream is the end of its response
        .ok ((t.countResponse .upstreamClosed).remove .upstreamClosed)
      else
        let t := t.readBytes bytes.length
        if bytes.length > env.limits.maxWriteBufferSize then
          failProxy env 502 "upstream response chunk is too large".toList t
        else
          submitSend env
            ((t.note [.relayed bytes]).queue (connection.setProxy (proxy.received env.now)) bytes)

/-! ## §8. Answering a request. -/

/-- A response within the write limit, or the error that replaces it. -/
def boundedResponse (limits : WorkerLimits) (response : List UInt8) : List UInt8 :=
  if response.length > limits.maxWriteBufferSize then
    responseBytes 500 "response is too large".toList
  else response

def prepareResponse (env : Env σ) (t : Turn σ) : Except Exit (Turn σ) :=
  match t.connection with
  | none => .ok t
  | some connection =>
      if !connection.matchesGeneration t.id.generation then .ok t
      else
        match connection.request with
        | none => .ok t
        | some request =>
            match env.listeners[connection.listenerIndex]? with
            | none => .ok (t.remove .listenerMissing)
            | some listener =>
                let serverIndex := selectServer listener.serverIndices listener.defaultServer
                  request.head env.servers
                let respond (response : List UInt8) : Except Exit (Turn σ) :=
                  submitSend env (t.queue connection (boundedResponse env.limits response))
                match env.servers[serverIndex]? with
                | none => respond (responseBytes 500 "server configuration is unavailable".toList)
                | some server =>
                    match route server request.head.target with
                    | none => respond (responseBytes 404 "not found".toList)
                    | some (.response status body) => respond (responseBytes status body)
                    | some (.static directory) =>
                        match env.staticStreamResponse directory request.head with
                        | .ok response => queueStaticResponse env response t
                        | .error error =>
                            submitSend env (t.queue connection (staticErrorResponse error))
                    | some (.proxy upstream upstreamGroup upstreams policy) =>
                        let t := t.note [.proxied]
                        match t.balancer.select (.proxy upstream upstreamGroup upstreams policy) with
                        -- the arithmetic on the weights fails
                        | none => .error (.panic .balancer)
                        | some (.error _, _) =>
                            queueProxyError env 502 "upstream configuration failed".toList t
                        | some (.ok upstream, balancer) =>
                            startProxy env upstream request.head request.body { t with balancer }

/-! ## §9. Receiving a request. -/

/-- The parse of `handle_read_completion` while no request is recorded. -/
def recordRequest (limits : WorkerLimits) (requestBuffer : List UInt8) :
    Except (Nat × Str) (Option PendingRequest) :=
  match parseRequestHead requestBuffer with
  | .ok .incomplete => .ok none
  | .ok (.complete head consumed) =>
      match head.bodyLength with
      | .error .unsupportedTransferEncoding =>
          .error (501, "transfer encoding is not supported".toList)
      | .error .invalidContentLength => .error (400, "invalid content length".toList)
      | .error .conflictingContentLength => .error (400, "invalid content length".toList)
      | .ok bodyLength =>
          match checkedAdd consumed bodyLength with
          | none => .error (413, "request is too large".toList)
          | some bodyEnd =>
              if bodyEnd > limits.maxReadBufferSize then
                .error (413, "request is too large".toList)
              else .ok (some { head, bodyStart := consumed, bodyEnd })
  | .error _ => .error (400, "invalid HTTP request".toList)

/-- The recorded request is taken once its last body byte is in the buffer. -/
def UringConnection.completeRequest (self : UringConnection σ) : UringConnection σ × ReadVerdict :=
  match self.pendingRequest with
  | none => (self, .keepWaiting)
  | some pending =>
      if self.requestBuffer.length ≥ pending.bodyEnd then
        -- offsets recorded on a shorter buffer are used on this one
        let body := (self.requestBuffer.take pending.bodyEnd).drop pending.bodyStart
        ({ self with pendingRequest := none, request := some { head := pending.head, body } },
          .dispatch pending.head body)
      else (self, .keepWaiting)

/-- `checked_add` of the two lengths is `None`, or above the limit. -/
def exceedsReadLimit (limits : WorkerLimits) (buffered received : Nat) : Bool :=
  match checkedAdd buffered received with
  | none => true
  | some length => length > limits.maxReadBufferSize

/-- `handle_read_completion` from the size check to the complete request. -/
def UringConnection.receiveRequest (limits : WorkerLimits) (self : UringConnection σ)
    (received : List UInt8) : UringConnection σ × ReadVerdict :=
  if exceedsReadLimit limits self.requestBuffer.length received.length then
    (self, .error 413 "request is too large".toList)
  else
    let self := { self with requestBuffer := self.requestBuffer ++ received }
    match self.pendingRequest with
    | some _ => self.completeRequest
    | none =>
        match recordRequest limits self.requestBuffer with
        | .error (status, message) => (self, .error status message)
        | .ok pendingRequest => { self with pendingRequest }.completeRequest

/-- `handle_read_completion` once the received plaintext is known. -/
def receivePlaintext (env : Env σ) (received : List UInt8) (t : Turn σ) :
    Except Exit (Turn σ) :=
  if received.isEmpty then submitRecv env t
  else
    match t.connection with
    | none => .ok t
    | some connection =>
        if !connection.matchesGeneration t.id.generation then .ok t
        else
          let t := t.readBytes received.length
          match connection.receiveRequest env.limits received with
          | (connection, verdict) =>
              let t := (t.put connection).note [.verdict verdict]
              match verdict with
              | .keepWaiting => submitRecv env t
              | .error status message => queueHttpError env status message t
              | .dispatch _ _ => prepareResponse env t.countRequest

/-- The TLS part of `handle_read_completion`: `read_tls` is called once on the
received bytes. `none` when the session reports an error. -/
def UringSslSession.intake (tls : Rustls σ) (self : UringSslSession σ) (received : List UInt8) :
    Option (Nat × List UInt8 × UringSslSession σ) :=
  match tls.readTls self.connection received with
  | none => none
  | some (taken, session) =>
      match tls.processNewPackets session with
      | none => none
      | some session =>
          match tls.readToEnd session with
          | (_, .failed, _) => none
          | (plaintext, _, session) => some (taken, plaintext, { self with connection := session })

def handleReadCompletion (env : Env σ) (result : Int) (bufferId : Option Nat)
    (contents : Nat → UInt8) (t : Turn σ) : Except Exit (Turn σ) := do
  let (received, t) ← t.takeReceived
    "receive completed without a selected buffer".toList result bufferId contents
  match t.connection with
  | none => .ok t
  | some connection =>
      if !connection.matchesGeneration t.id.generation then .ok t
      else
        let connection := connection.markReadCompleted
        let t := t.put connection
        if result ≤ 0 then
          if result < 0 && isRecvRetry result then submitRecv env t
          else .ok (t.remove .receiveClosed)
        else
          let t := t.note [.copied received]
          match connection.ssl with
          | none => receivePlaintext env received t
          | some ssl =>
              match ssl.intake env.tls received with
              | none => .ok (t.remove .tlsFailed)
              | some (taken, plaintext, ssl) => do
                  -- what `read_tls` left of the received bytes goes with the cursor
                  let t := (t.put (connection.setSsl ssl)).note [.tlsRead received taken]
                  let t ← if env.tls.wantsWrite ssl.connection then submitSend env t else .ok t
                  receivePlaintext env plaintext t

/-! ## §10. Completed client sends. -/

/-- `submitted` is what the completed send was given. -/
def handleWriteCompletion (env : Env σ) (submitted : List UInt8) (result : Int)
    (t : Turn σ) : Except Exit (Turn σ) :=
  match t.connection with
  | none => .ok t
  | some connection =>
      if !connection.matchesGeneration t.id.generation then .ok t
      else
        let connection := connection.markWriteCompleted
        let t := t.put connection
        if result < 0 then
          if isSendRetry result then submitSend env t
          else .ok (t.remove .sendFailed)
        else if result = 0 then .ok (t.remove .sendFailed)
        else
          let written := result.toNat
          let t := t.wroteBytes written
          if written > connection.unsent.length then .ok (t.remove .invalidSend)
          else
            let connection := connection.advance written
            let t := (t.put connection).note
              [.sent (submitted.take written) (connection.wantsWrite env.tls)]
            -- nothing here says whose bytes were drained, a response's or the session's own
            if connection.outputDrained env.tls then
              if connection.staticStream.isSome then
                advanceStaticStream env (t.put connection.clearOutput)
              else
                match connection.proxy with
                | some proxy =>
                    submitProxyRead env
                      (t.put (connection.clearOutput.setProxy (proxy.recordProgress env.now)))
                | none =>
                    let finish : Except Exit (Turn σ) :=
                      .ok ((t.countResponse .delivered).remove .delivered)
                    match connection.ssl with
                    | none => finish
                    | some ssl =>
                        if ssl.closing then finish
                        else
                          submitSend env
                            ((t.put (connection.setSsl (ssl.close env.tls))).note [.closeNotify])
            else submitSend env t

/-! ## §11. Timers. -/

/-- The body of the first loop of `check_proxy_timeouts`, for a connection whose
proxy was found expired in `phase`. -/
def expireProxy (env : Env σ) (phase : ProxyPhase) (operationPending : Bool) (t : Turn σ) :
    Except Exit (Turn σ) :=
  if !operationPending then failProxy env 504 phase.timeoutMessage t
  else
    match t.connection with
    | none => .error (.panic .slab)
    | some connection =>
        match connection.proxy with
        | none => .error (.panic .proxy)
        | some proxy =>
            -- the completion of the operation under way will find the mark
            let t := t.put (connection.setProxy { proxy with timedOut := true })
            match phase.kind with
            | none => .ok t
            | some kind =>
                if env.submitFails (.proxyCancel t.id kind) then .error (.io none)
                else .ok { t with cancelled := t.cancelled ++ [kind] }

/-- The body of the loop over expired handshakes. -/
def expireHandshake (t : Turn σ) : Except Exit (Turn σ) :=
  match t.connection with
  | none => .error (.panic .slab)
  | some _ => .ok (t.remove .handshakeExpired)

/-! ## §12. One turn. -/

/-- What a connection is handed in one turn. -/
inductive TurnEvent where
  /-- It has just been inserted; its first receive is submitted. -/
  | accepted
  | read (result : Int) (bufferId : Option Nat) (contents : Nat → UInt8)
  | write (submitted : List UInt8) (result : Int)
  | proxyConnect (result : Int)
  | proxyWrite (submitted : List UInt8) (result : Int)
  | proxyRead (result : Int) (bufferId : Option Nat) (contents : Nat → UInt8)
  | resolved (addresses : Option (List SocketAddr))
  | expired (phase : ProxyPhase) (operationPending : Bool)
  | handshakeExpired
  /-- The static pump found it waiting for file data. -/
  | pump

def handleTurn (env : Env σ) : TurnEvent → Turn σ → Except Exit (Turn σ)
  | .accepted => submitRecv env
  | .read result bufferId contents => handleReadCompletion env result bufferId contents
  | .write submitted result => handleWriteCompletion env submitted result
  | .proxyConnect result => handleProxyConnect env result
  | .proxyWrite submitted result => handleProxyWrite env submitted result
  | .proxyRead result bufferId contents => handleProxyRead env result bufferId contents
  | .resolved addresses => finishResolution env addresses
  | .expired phase operationPending => expireProxy env phase operationPending
  | .handshakeExpired => expireHandshake
  | .pump => advanceStaticStream env

end Thwip.IoUring
