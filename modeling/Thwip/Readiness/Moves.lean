/-
  Thwip.Readiness.Moves — everything a handler can do with a current connection.

  A handler call is a path of moves.  `Move` lists them, one constructor for each
  thing the source does to a connection, its registration or its trace, with what
  is known when it does it.  A move leaves the connection in a state that the
  rest of the worker may see; every invariant is derived from this list, and none
  looks at the handlers again.
-/
import Mathlib.Logic.Relation
import Thwip.Readiness.Worker

namespace Thwip.Readiness

open Thwip.Lib

variable {σ : Type} {env : Env σ} {event : TurnEvent} {t t' : Turn σ} {c : Connection σ}

/-! ## §1. Seats. -/

def Seat.put (s : Seat σ) (connection : Connection σ) : Seat σ :=
  { s with connection := some connection }

def Seat.note (s : Seat σ) (acts : List Act) : Seat σ := { s with log := s.log ++ acts }

def Seat.drop (tls : Rustls σ) (site : RemovalSite) (connection : Connection σ) (s : Seat σ) :
    Seat σ :=
  { s with connection := none, writeScheduled := false, upstreamWriteScheduled := false
           upstreamReadScheduled := false
           log := s.log ++ [.removed site connection.unsent (connection.sslWantsWrite tls)] }

/-- A change that ends in a registration of the client's socket: if it fails, the
connection is removed. -/
def Seat.settle (tls : Rustls σ) (connection : Connection σ) (interest : Interest)
    (acts : List Act) (ok : Bool) (s : Seat σ) : Seat σ :=
  if ok then
    { s with connection := some connection, interest
             log := s.log ++ acts ++ [.reregistered interest] }
  else (s.note acts).drop tls .reregisterFailed connection

theorem settle_some {s : Seat σ} {tls : Rustls σ} {connection c' : Connection σ}
    {interest : Interest} {acts : List Act} {ok : Bool}
    (h : (s.settle tls connection interest acts ok).connection = some c') :
    ok = true ∧ connection = c' := by
  cases ok with
  | true =>
      injection h with h
      exact ⟨rfl, h⟩
  | false => cases h

theorem Seat.connection_unique {s : Seat σ} {c₁ c₂ : Connection σ} (h₁ : s.connection = some c₁)
    (h₂ : s.connection = some c₂) : c₁ = c₂ := by
  rw [h₁] at h₂
  injection h₂

/-- A plaintext connection is no TLS connection. -/
theorem Seat.not_tls {s : Seat σ} {c c₁ : Connection σ} {ssl : SslSession σ}
    (hc : s.connection = some c) (hssl : c.ssl = none) (hc₁ : s.connection = some c₁)
    (hsome : c₁.ssl = some ssl) : False := by
  rw [← Seat.connection_unique hc hc₁, hssl] at hsome
  cases hsome

/-- The connection of the turn is the one its id means. -/
structure Turn.Current (t : Turn σ) (c : Connection σ) : Prop where
  connection : t.connection = some c
  generation : c.generation = t.id.generation

theorem Turn.Current.isCurrent (h : t.Current c) : t.isCurrent = true := by
  unfold Turn.isCurrent
  rw [h.connection]
  simp [h.generation]

theorem Turn.isCurrent_iff : t.isCurrent = true ↔ ∃ c, t.Current c := by
  constructor
  · intro h
    unfold Turn.isCurrent at h
    split at h
    · cases h
    next c hc => exact ⟨c, hc, by simpa using h⟩
  · rintro ⟨c, h⟩
    exact h.isCurrent

theorem Turn.Current.put (h : t.Current c) {c' : Connection σ}
    (hgen : c'.generation = c.generation) : (t.put c').Current c' :=
  ⟨rfl, hgen.trans h.generation⟩

/-! ## §2. What the moves are. -/

/-- The errors a proxied request is answered with. -/
def upstreamErrors : List (Nat × Str) :=
  [(502, "upstream configuration failed".toList), (502, "upstream connection failed".toList),
   (502, "upstream DNS resolution failed".toList), (502, "upstream has no address".toList),
   (502, "upstream response failed".toList), (504, "upstream DNS resolution timed out".toList),
   (504, "upstream connect timed out".toList), (504, "upstream request write timed out".toList),
   (504, "upstream response timed out".toList)]

theorem upstreamErrors_mem {error : Nat × Str} (i : Nat) (h : upstreamErrors[i]? = some error) :
    error ∈ upstreamErrors :=
  List.mem_of_getElem? h

theorem timeoutMessage_mem (phase : ProxyPhase) :
    (504, phase.timeoutMessage) ∈ upstreamErrors := by
  cases phase with
  | connecting => exact upstreamErrors_mem 6 rfl
  | writingRequest => exact upstreamErrors_mem 7 rfl
  | readingResponse => exact upstreamErrors_mem 8 rfl

/-- How a decided request, or a refused one, is answered at once: what is noted
before the response, the file stream the connection then has, and the response. -/
inductive Reply (env : Env σ) (stream : Option StaticStream) :
    ReadVerdict → List Act → Option StaticStream → List UInt8 → Prop where
  | refused (status : Nat) (message : Str) :
      Reply env stream (.error status message) [] stream (responseBytes status message)
  | answered (request : RequestHead) (body response : List UInt8) (hne : response ≠ []) :
      Reply env stream (.dispatch request body) [] stream response
  | served (request : RequestHead) (body : List UInt8) (directory : Str)
      (response : StaticStreamResponse)
      (hresponse : env.staticStreamResponse directory request = .ok response) :
      Reply env stream (.dispatch request body) [.serving response.head response.stream]
        response.stream response.head
  /-- The upstream could not be chosen, or not be asked for. -/
  | declined (request : RequestHead) (body : List UInt8) (forwarding : List Act)
      (hforwarding : forwarding = [] ∨ ∃ bytes, forwarding = [.forwarding bytes])
      (message : Str) (herror : (502, message) ∈ upstreamErrors) :
      Reply env stream (.dispatch request body) (.proxied :: forwarding) stream
        (responseBytes 502 message)

/-- What a pass of upstream writes does: these chunks were accepted, and the
exchange reads the response once the whole request is. -/
structure Forwards (proxy : ProxyState) (chunks : List (List UInt8)) (proxy' : ProxyState) :
    Prop where
  buffer : proxy'.requestBuffer = proxy.requestBuffer
  offset : proxy'.requestOffset = proxy.requestOffset + chunks.flatten.length
  accepted : chunks.flatten <+: proxy.unforwarded
  phase : proxy'.phase
    = if proxy'.requestOffset = proxy.requestBuffer.length then .readingResponse
      else .writingRequest
  started : proxy'.responseStarted = proxy.responseStarted
  eof : proxy'.upstreamEof = proxy.upstreamEof

/-- An upstream exchange that may still be answered with an error. -/
def Connection.mayFail (self : Connection σ) : Prop :=
  self.isResolving = true
    ∨ ∃ proxy, self.proxy = some proxy ∧ proxy.responseStarted = false ∧ self.writeBuffer = []

/-- The session's writer takes some of what it is offered, call after call, until
nothing is left or the budget is used up. -/
def writerTakes (tls : Rustls σ) : Nat → σ → List UInt8 → Bool
  | 0, _, _ => true
  | calls + 1, session, bytes =>
      if bytes.isEmpty then true
      else
        match tls.write session bytes with
        | none | some (0, _) => false
        | some (n, session) => writerTakes tls calls session (bytes.drop n)

/-- Where the failure of an upstream exchange was noticed. -/
inductive UpstreamFailure (event : TurnEvent) (s₀ : Seat σ) (log : List Act) (c : Connection σ)
    (proxy : ProxyState) : Prop where
  | reported (hfound : s₀.connection = some c) (hlog : log = s₀.log)
      (hevent : event = .upstreamError ∨ ∃ phase, event = .proxyExpired phase)
  | reading (due : Bool) (hevent : event = .readUpstream due) (hempty : c.writeBuffer = [])
  | writing (due : Bool) (hevent : event = .writeUpstream due) (c₀ : Connection σ)
      (proxy₀ : ProxyState) (hfound : s₀.connection = some c₀) (hproxy : c₀.proxy = some proxy₀)
      (hphase : proxy₀.phase ≠ .readingResponse)
      (hstarted : proxy.responseStarted = proxy₀.responseStarted)
      (hbuffer : c.writeBuffer = c₀.writeBuffer)

/-- Why a connection is removed. -/
inductive Cause (env : Env σ) (event : TurnEvent) (s₀ s : Seat σ) (c : Connection σ) :
    RemovalSite → Prop where
  | clientError (hevent : event = .clientError) : Cause env event s₀ s c .clientError
  | clientClosed (half : Bool) (hevent : event = .clientClosed half) (hfirst : s = s₀)
      (hoffset : c.writeOffset = c.writeBuffer.length) :
      Cause env event s₀ s c (.clientClosed half)
  | closed (c₀ : Connection σ) (hevent : event = .connectionReady)
      (hfound : s₀.connection = some c₀)
      (hclosed : (connectionReady env.tls.toRustls env.limits env.now c₀ env.reads).closed = true)
      (hcurrent : c = (connectionReady env.tls.toRustls env.limits env.now c₀ env.reads).connection)
      (hlog : ∃ verdicts : List ReadVerdict, s.log = s₀.log ++ verdicts.map Act.verdict
        ∧ ∀ verdict ∈ verdicts, verdict = .keepWaiting) :
      Cause env event s₀ s c
        (connectionReady env.tls.toRustls env.limits env.now c₀ env.reads).closeSite
  | writeFailed (due : Bool) (hevent : event = .writeReady due) : Cause env event s₀ s c .writeFailed
  | writerRefused (c₀ : Connection σ) (ssl : SslSession σ) (due : Bool)
      (hevent : event = .writeReady due) (hfound : s₀.connection = some c₀)
      (hssl : c₀.ssl = some ssl) (hphase : c.phase = c₀.phase)
      (hrefused : writerTakes env.tls.toRustls maxWritesPerEvent ssl.connection c₀.unsent = false) :
      Cause env event s₀ s c .writerRefused
  | upstreamEof (due : Bool) (proxy : ProxyState) (hevent : event = .readUpstream due)
      (hfound : s₀.connection = some c) (hproxy : c.proxy = some proxy)
      (hphase : proxy.phase = .readingResponse) (hempty : c.writeBuffer = [])
      (available : List UInt8) (hread : firstRead env.upstreamReads = .ok available)
      (htake : available.take (min readBufferLen env.limits.maxWriteBufferSize) = []) :
      Cause env event s₀ s c .upstreamEof
  /-- The upstream's response had started. -/
  | proxyFailed (proxy : ProxyState) (hproxy : c.proxy = some proxy)
      (hstarted : proxy.responseStarted = true ∨ c.writeBuffer ≠ [])
      (hfailure : UpstreamFailure event s₀ s.log c proxy) : Cause env event s₀ s c .proxyFailed
  | delivered (hfinished : c.writeFinished env.tls.toRustls = true)
      (hstatic : c.staticStream = none)
      (hphase : c.isWritingResponse = true ∨ ∃ proxy, c.proxy = some proxy ∧ proxy.upstreamEof = true)
      (hclosing : c.ssl = none ∨ c.sslClosing = true) :
      Cause env event s₀ s c .delivered
  | draining (hfinished : c.writeFinished env.tls.toRustls = true)
      (hstatic : c.staticStream = none) (hphase : c.isProxying = true) (hdraining : env.draining = true)
      (hclosing : c.ssl = none ∨ c.sslClosing = true) :
      Cause env event s₀ s c .draining
  | streamFinished (stream : StaticStream) (hstream : c.staticStream = some stream)
      (hend : ∃ rest, stream.tryNext env.arrived = (some .finished, rest))
      (hoffset : c.writeOffset = c.writeBuffer.length)
      (hevent : c.sslWantsWrite env.tls.toRustls = false
        ∨ event = .pump ∧ s₀.connection = some c ∧ s.log = s₀.log ++ [.response])
      (hserved : ∃ c₀, s₀.connection = some c₀ ∧ c₀.staticStream = some stream) :
      Cause env event s₀ s c .streamFinished
  | streamFailed (stream : StaticStream) (hstream : c.staticStream = some stream)
      (hend : ∃ rest, stream.tryNext env.arrived = (none, rest))
      (hoffset : c.writeOffset = c.writeBuffer.length)
      (hevent : c.sslWantsWrite env.tls.toRustls = false
        ∨ event = .pump ∧ s₀.connection = some c ∧ s.log = s₀.log)
      (hserved : ∃ c₀, s₀.connection = some c₀ ∧ c₀.staticStream = some stream) :
      Cause env event s₀ s c .streamFailed
  | idle (hevent : event = .idle) (hhandling : c.isHandlingRequest = false) :
      Cause env event s₀ s c .idle
  | handshakeExpired (hevent : event = .handshakeExpired) : Cause env event s₀ s c .handshakeExpired
  | shutdown (hevent : event = .shutdown) (hfirst : s = s₀) (hfound : s₀.connection = some c)
      (hstatic : c.staticStream = none) (hoffset : c.writeBuffer.length ≤ c.writeOffset) :
      Cause env event s₀ s c .shutdown
  | drainDeadline (hevent : event = .drainDeadline) : Cause env event s₀ s c .drainDeadline

/-- The client's socket gave the turn bytes. -/
def Receives (env : Env σ) (event : TurnEvent) (s₀ : Seat σ) : Prop :=
  event = .connectionReady ∧ ∃ c, s₀.connection = some c
    ∧ c.receivesBytes env.tls.toRustls maxReadsPerEvent env.reads = true

/-- One move, in a turn for `event` that found the seat `s₀`. -/
inductive Move (env : Env σ) (event : TurnEvent) (s₀ : Seat σ) : Seat σ → Seat σ → Prop where
  /-- The upstream's pending sets changed. -/
  | rescheduled {s : Seat σ} (write read : Bool) :
      Move env event s₀ s { s with upstreamWriteScheduled := write, upstreamReadScheduled := read }
  /-- The id left `pending_writes`, if it was drained. -/
  | drained {s : Seat σ} {c : Connection σ} (hc : s.connection = some c) (due : Bool) :
      Move env event s₀ s { s with writeScheduled := s.writeScheduled && !due }
  | scheduled {s : Seat σ} {c : Connection σ} (hc : s.connection = some c)
      (hphase : c.isWritingResponse = true)
      (hmay : s.polled.writable = true ∨ s.writeScheduled = true)
      (hunfinished : c.writeFinished env.tls.toRustls = false) :
      Move env event s₀ s { s with writeScheduled := true }
  | flushed {s : Seat σ} {c : Connection σ} (hc : s.connection = some c)
      (hfinished : c.writeFinished env.tls.toRustls = true) :
      Move env event s₀ s (s.note [.flushed])
  /-- `metrics.response()` -/
  | counted {s : Seat σ} {c : Connection σ} (hc : s.connection = some c) :
      Move env event s₀ s (s.note [.response])
  | touched {s : Seat σ} {c : Connection σ} (hc : s.connection = some c) (now : Instant)
      (hnow : now = c.lastProgress ∨ now = env.now ∧ Receives env event s₀) :
      Move env event s₀ s (s.put { c with lastProgress := now })
  /-- The session refused something, before the removal. -/
  | spoiled {s : Seat σ} {c : Connection σ} (hc : s.connection = some c) {ssl : SslSession σ}
      (hssl : c.ssl = some ssl) (session : σ)
      (hunfinished : c.writeFinished env.tls.toRustls = false) :
      Move env event s₀ s (s.put (c.setSession ssl session))
  /-- Bytes of the client that decide nothing. -/
  | waited {s : Seat σ} {c : Connection σ} (hc : s.connection = some c)
      (hevent : event = .connectionReady) (hfirst : s = s₀) (hread : s.polled.readable = true)
      (hhandling : c.isHandlingRequest = false) (pass : ReadPass σ)
      (hpass : pass = connectionReady env.tls.toRustls env.limits env.now c env.reads)
      (hverdicts : ∀ verdict ∈ pass.verdicts, verdict = .keepWaiting) :
      Move env event s₀ s ((s.put pass.connection).note (pass.verdicts.map Act.verdict))
  | replied {s : Seat σ} {c : Connection σ} (hc : s.connection = some c)
      (hevent : event = .connectionReady) (hfirst : s = s₀) (hread : s.polled.readable = true)
      (hhandling : c.isHandlingRequest = false) (pass : ReadPass σ)
      (hpass : pass = connectionReady env.tls.toRustls env.limits env.now c env.reads)
      {verdict : ReadVerdict} (hlast : pass.verdicts.getLast? = some verdict) {notes : List Act}
      {stream : Option StaticStream} {response : List UInt8}
      (hreply : Reply env c.staticStream verdict notes stream response) (ok : Bool) :
      Move env event s₀ s
        (s.settle env.tls.toRustls ({ pass.connection with staticStream := stream }.setResponse
            (boundedResponse env.limits response)) .write
          (pass.verdicts.map Act.verdict ++ notes
            ++ [.queued (boundedResponse env.limits response)]) ok)
  | resolving {s : Seat σ} {c : Connection σ} (hc : s.connection = some c)
      (hevent : event = .connectionReady) (hfirst : s = s₀) (hread : s.polled.readable = true)
      (hhandling : c.isHandlingRequest = false) (pass : ReadPass σ)
      (hpass : pass = connectionReady env.tls.toRustls env.limits env.now c env.reads)
      {request : RequestHead} {body : List UInt8}
      (hlast : pass.verdicts.getLast? = some (.dispatch request body)) (upstream : Upstream)
      (bytes : List UInt8) (hbytes : bytes = upstream.requestBytes request body)
      (hle : bytes.length ≤ env.limits.maxReadBufferSize) :
      Move env event s₀ s
        ((s.put (pass.connection.beginResolving env.now bytes)).note
          (pass.verdicts.map Act.verdict ++ [.proxied, .forwarding bytes]))
  | connecting {s : Seat σ} {c : Connection σ} (hc : s.connection = some c)
      (resolution : ResolvingState) (hresolution : c.resolution = some resolution) :
      Move env event s₀ s
        (s.put (c.beginProxy (ProxyState.new env.now resolution.requestBuffer)))
  | forwarded {s : Seat σ} {c : Connection σ} (hc : s.connection = some c)
      {proxy proxy' : ProxyState} (hproxy : c.proxy = some proxy)
      (hphase : proxy.phase ≠ .readingResponse) {chunks : List (List UInt8)}
      (hforwards : Forwards proxy chunks proxy') (now : Instant)
      (hnow : now = c.lastProgress ∨ now = env.now ∧ chunks ≠ []) :
      Move env event s₀ s
        ((s.put { c.beginProxy proxy' with lastProgress := now }).note
          (chunks.map Act.forwarded))
  /-- The upstream exchange failed, and the client is told. -/
  | failed {s : Seat σ} {c : Connection σ} (hc : s.connection = some c) (hmay : c.mayFail)
      (status : Nat) (message : Str) (herror : (status, message) ∈ upstreamErrors) (ok : Bool) :
      Move env event s₀ s
        (s.settle env.tls.toRustls
          (c.setResponse (boundedResponse env.limits (responseBytes status message))) .write
          [.queued (boundedResponse env.limits (responseBytes status message))] ok)
  | relayed {s : Seat σ} {c : Connection σ} (hc : s.connection = some c) {proxy : ProxyState}
      (hproxy : c.proxy = some proxy) (hphase : proxy.phase = .readingResponse)
      (hempty : c.writeBuffer = []) (bytes : List UInt8) (hne : bytes ≠ [])
      (hle : bytes.length ≤ env.limits.maxWriteBufferSize) (ok : Bool) :
      Move env event s₀ s
        (s.settle env.tls.toRustls
          { c.beginProxy ({ proxy with responseStarted := true }.recordProgress env.now) with
            writeBuffer := bytes, writeOffset := 0, lastProgress := env.now } .write
          [.relayed bytes] ok)
  /-- The plaintext client's socket accepted bytes. -/
  | wrote {s : Seat σ} {c : Connection σ} (hc : s.connection = some c)
      (hmay : s.polled.writable = true ∨ s.writeScheduled = true) (hssl : c.ssl = none)
      (hunsent : c.writeOffset ≠ c.writeBuffer.length) (room : Nat) (hroom : 0 < room) :
      Move env event s₀ s
        ((s.put (c.advance env.now (c.unsent.take room).length)).note
          [.write (.wrote (c.unsent.take room))])
  /-- The session accepted bytes. -/
  | handed {s : Seat σ} {c : Connection σ} (hc : s.connection = some c) {ssl : SslSession σ}
      (hssl : c.ssl = some ssl) (hunsent : c.writeOffset < c.writeBuffer.length) {written : Nat}
      {session : σ} (hwrite : env.tls.write ssl.connection c.unsent = some (written, session)) :
      Move env event s₀ s
        ((s.put ((c.setSession ssl session).advance env.now written)).note
          [.write (.handed (c.unsent.take written))])
  /-- The socket accepted ciphertext of the session. -/
  | sentTls {s : Seat σ} {c : Connection σ} (hc : s.connection = some c) {ssl : SslSession σ}
      (hssl : c.ssl = some ssl) (hunsent : ¬ c.writeOffset < c.writeBuffer.length)
      (bytes : List UInt8) (session : σ) (hunfinished : c.writeFinished env.tls.toRustls = false) :
      Move env event s₀ s
        ((s.put ((c.setSession ssl session).advance env.now 0)).note
          [.write (.sentTls bytes (env.tls.wantsWrite session))])
  /-- The next chunk of the file. -/
  | chunk {s : Seat σ} {c : Connection σ} (hc : s.connection = some c) {stream rest : StaticStream}
      (hstream : c.staticStream = some stream) {bytes : List UInt8}
      (hnext : stream.tryNext env.arrived = (some (.data bytes), rest))
      (hoffset : c.writeOffset = c.writeBuffer.length)
      (hserved : ∃ c₀, s₀.connection = some c₀ ∧ c₀.staticStream = some stream) :
      Move env event s₀ s
        (s.settle env.tls.toRustls
          { c with staticStream := some rest, writeBuffer := bytes, writeOffset := 0 }
          .write [.chunk bytes] true)
  /-- The next chunk is not there yet. -/
  | awaiting {s : Seat σ} {c : Connection σ} (hc : s.connection = some c) {stream : StaticStream}
      (hstream : c.staticStream = some stream)
      (hoffset : c.writeOffset = c.writeBuffer.length) :
      Move env event s₀ s (s.settle env.tls.toRustls c .read [] true)
  /-- The TLS connection is closed with a notification. -/
  | closing {s : Seat σ} {c : Connection σ} (hc : s.connection = some c) {ssl : SslSession σ}
      (hssl : c.ssl = some ssl) (hfinished : c.writeFinished env.tls.toRustls = true)
      (hstatic : c.staticStream = none) (hphase : c.isWritingResponse || c.isProxying) (ok : Bool) :
      Move env event s₀ s
        (s.settle env.tls.toRustls { c.setSession ssl (env.tls.sendCloseNotify ssl.connection) with
            sslClosing := true } .write [.closeNotify] ok)
  /-- What was relayed so far is written. -/
  | emptied {s : Seat σ} {c : Connection σ} (hc : s.connection = some c) {proxy : ProxyState}
      (hproxy : c.proxy = some proxy) (hfinished : c.writeFinished env.tls.toRustls = true)
      (ok : Bool) :
      Move env event s₀ s
        (s.settle env.tls.toRustls { c with writeBuffer := [], writeOffset := 0 } .read [] ok)
  /-- There was nothing to write. -/
  | idled {s : Seat σ} {c : Connection σ} (hc : s.connection = some c)
      (hfinished : c.writeFinished env.tls.toRustls = true)
      (hphase : c.ssl.isSome ∨ c.isWritingResponse = false ∧ c.isProxying = false) (ok : Bool) :
      Move env event s₀ s (s.settle env.tls.toRustls c .read [] ok)
  /-- The session has something to say. -/
  | flushing {s : Seat σ} {c : Connection σ} (hc : s.connection = some c) (hssl : c.ssl.isSome)
      (ok : Bool) : Move env event s₀ s (s.settle env.tls.toRustls c .both [] ok)
  | removed {s : Seat σ} {c : Connection σ} (hc : s.connection = some c) {site : RemovalSite}
      (hcause : Cause env event s₀ s c site) : Move env event s₀ s (s.drop env.tls.toRustls site c)

end Thwip.Readiness
