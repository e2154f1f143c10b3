/-
  Thwip.IoUring.Moves — everything a handler can do with a current connection.

  A handler changes the connection it was called for, notes what it did, and
  ends in one of a few calls: submit a client or upstream operation, or nothing.
  `Move` lists these endings, one constructor for each kind of ending in the
  source, with the connection exactly as it is then.  Every invariant of the
  worker is derived from this list and from what the final calls do; none looks
  at the handlers again.
-/
import Thwip.IoUring.Worker

namespace Thwip.IoUring

open Thwip.Lib

variable {σ : Type} {env : Env σ} {t t' : Turn σ} {c : UringConnection σ}

/-! ## §1. The final calls. -/

/-- The call a handler ends in. -/
inductive Next where
  | done
  | send
  | recv
  | connect
  | proxyWrite
  | proxyRead
  | exit (reason : Exit)
  deriving Repr, DecidableEq

/-- What the final call does to the turn. -/
def Next.run (env : Env σ) : Next → Turn σ → Except Exit (Turn σ)
  | .done => .ok
  | .send => submitSend env
  | .recv => submitRecv env
  | .connect => submitProxyConnect env
  | .proxyWrite => submitProxyWrite env
  | .proxyRead => submitProxyRead env
  | .exit reason => fun _ => .error reason

/-- `t` with another connection and a longer trace; the shared resources may
have changed too. -/
structure Turn.Moved (t t₁ : Turn σ) (connection : Option (UringConnection σ))
    (acts : List Act) : Prop where
  id : t₁.id = t.id
  connection : t₁.connection = connection
  log : t₁.log = t.log ++ acts
  pushed : t₁.pushed = t.pushed

/-- `x` is what the call `next` yields once the connection is `connection` and
`acts` have been noted. -/
def Settles (env : Env σ) (t : Turn σ) (next : Next) (connection : Option (UringConnection σ))
    (acts : List Act) (x : Except Exit (Turn σ)) : Prop :=
  ∃ t₁, t.Moved t₁ connection acts ∧ x = next.run env t₁

/-- Two moves in a row: the notes of the second follow those of the first. -/
theorem Turn.Moved.trans {t₁ t₂ : Turn σ} {c₁ c₂ : Option (UringConnection σ)}
    {acts₁ acts₂ : List Act} (h : t.Moved t₁ c₁ acts₁) (h' : t₁.Moved t₂ c₂ acts₂) :
    t.Moved t₂ c₂ (acts₁ ++ acts₂) where
  id := h'.id.trans h.id
  connection := h'.connection
  log := by rw [h'.log, h.log, List.append_assoc]
  pushed := h'.pushed.trans h.pushed

/-- What a helper settles after a first move is settled from the start. -/
theorem Settles.of_moved {t₁ : Turn σ} {next : Next} {c₁ c₂ : Option (UringConnection σ)}
    {acts₁ acts₂ : List Act} {x : Except Exit (Turn σ)} (h : t.Moved t₁ c₁ acts₁)
    (h' : Settles env t₁ next c₂ acts₂ x) : Settles env t next c₂ (acts₁ ++ acts₂) x := by
  obtain ⟨t₂, hmoved, rfl⟩ := h'
  exact ⟨t₂, h.trans hmoved, rfl⟩

section FinalCalls

variable {t₁ : Turn σ} {c₁ : Option (UringConnection σ)} {acts : List Act}

/-- Ending in no call: the turn is as the move left it. -/
theorem settles_done (h : t.Moved t₁ c₁ acts) : Settles env t .done c₁ acts (.ok t₁) :=
  ⟨t₁, h, rfl⟩

/-- Ending in `submit_send`, … -/
theorem settles_send (h : t.Moved t₁ c₁ acts) : Settles env t .send c₁ acts (submitSend env t₁) :=
  ⟨t₁, h, rfl⟩

/-- … in `submit_recv`, … -/
theorem settles_recv (h : t.Moved t₁ c₁ acts) : Settles env t .recv c₁ acts (submitRecv env t₁) :=
  ⟨t₁, h, rfl⟩

/-- … in `submit_proxy_connect`, … -/
theorem settles_connect (h : t.Moved t₁ c₁ acts) :
    Settles env t .connect c₁ acts (submitProxyConnect env t₁) :=
  ⟨t₁, h, rfl⟩

/-- … in `submit_proxy_write`, … -/
theorem settles_proxyWrite (h : t.Moved t₁ c₁ acts) :
    Settles env t .proxyWrite c₁ acts (submitProxyWrite env t₁) :=
  ⟨t₁, h, rfl⟩

/-- … in `submit_proxy_read`, … -/
theorem settles_proxyRead (h : t.Moved t₁ c₁ acts) :
    Settles env t .proxyRead c₁ acts (submitProxyRead env t₁) :=
  ⟨t₁, h, rfl⟩

/-- … or in the end of the run. -/
theorem settles_exit (reason : Exit) (h : t.Moved t₁ c₁ acts) :
    Settles env t (.exit reason) c₁ acts (.error reason) :=
  ⟨t₁, h, rfl⟩

end FinalCalls

/-- The connection of the turn is the one its id means. -/
structure Turn.Current (t : Turn σ) (c : UringConnection σ) : Prop where
  connection : t.connection = some c
  generation : c.generation = t.id.generation

/-- So the check of the generation passes, and no handler returns early. -/
theorem Turn.Current.matches (h : t.Current c) : c.matchesGeneration t.id.generation = true := by
  simp [UringConnection.matchesGeneration, h.generation]

/-! ## §2. What the moves are. -/

/-- The errors a proxied request is answered with. -/
def upstreamErrors : List (Nat × Str) :=
  [(502, "upstream configuration failed".toList), (502, "upstream request is too large".toList),
   (502, "upstream DNS resolution failed".toList), (502, "upstream has no address".toList),
   (502, "upstream connection failed".toList), (502, "upstream request write failed".toList),
   (502, "invalid upstream write completion".toList), (502, "upstream response failed".toList),
   (502, "upstream response chunk is too large".toList),
   (504, "upstream DNS resolution timed out".toList), (504, "upstream connect timed out".toList),
   (504, "upstream request write timed out".toList), (504, "upstream response timed out".toList)]

/-- One of these, as it is queued. -/
def IsUpstreamError (response : List UInt8) : Prop :=
  ∃ error ∈ upstreamErrors, response = responseBytes error.1 error.2

/-- The `i`-th of the errors; each handler names its own by this position. -/
theorem isUpstreamError {status : Nat} {message : Str} (i : Nat)
    (h : upstreamErrors[i]? = some (status, message)) :
    IsUpstreamError (responseBytes status message) :=
  ⟨(status, message), List.mem_of_getElem? h, rfl⟩

/-- Every phase of the proxy has its timeout among them. -/
theorem timeoutMessage_isUpstreamError (phase : ProxyPhase) :
    IsUpstreamError (responseBytes 504 phase.timeoutMessage) := by
  cases phase with
  | resolving => exact isUpstreamError 9 rfl
  | connecting => exact isUpstreamError 10 rfl
  | writingRequest => exact isUpstreamError 11 rfl
  | readingResponse => exact isUpstreamError 12 rfl

/-- An upstream failure: an error response, or the end of a started response. -/
inductive FailMove (c : UringConnection σ) :
    Next → Option (UringConnection σ) → List Act → Prop where
  | answered (response : List UInt8) (hne : response ≠ [])
      (hstarted : ∀ proxy, c.proxy = some proxy → proxy.responseStarted = false)
      (herror : IsUpstreamError response) :
      FailMove c .send (some ({ c with proxy := none }.queueResponse response))
        [.queued response]
  | dropped (proxy : UringProxy) (hproxy : c.proxy = some proxy)
      (hstarted : proxy.responseStarted = true) :
      FailMove c .done none [.removed .proxyFailed]

/-- The next upstream address, or the error when there is none. -/
inductive AddressMove (env : Env σ) (c : UringConnection σ) (proxy : UringProxy) :
    Next → Option (UringConnection σ) → List Act → Prop where
  | found (address : SocketAddr) (socket : Socket) (addresses : List SocketAddr)
      (hnext : nextAddress env.createUpstreamSocket proxy.addresses
        = some (address, socket, addresses)) :
      AddressMove env c proxy .connect
        (some (c.setProxy (proxy.connectTo env.now socket address addresses))) []
  | exhausted (response : List UInt8) (hne : response ≠ []) (herror : IsUpstreamError response) :
      AddressMove env c proxy .send (some ({ c with proxy := none }.queueResponse response))
        [.queued response]

/-- The next chunk of a file. -/
inductive StreamMove (c : UringConnection σ) :
    Next → Option (UringConnection σ) → List Act → Prop where
  | data (stream : StaticStream) (bytes : List UInt8) (hne : bytes ≠ [])
      (hnext : ∃ current arrived, c.staticStream = some current
        ∧ current.tryNext arrived = (some (.data bytes), stream)) :
      StreamMove c .send
        (some ({ c with staticStream := some stream }.queueResponse bytes)) [.queued bytes]
  | pending : StreamMove c .done (some c) []
  | finished (hend : ∃ current arrived rest, c.staticStream = some current
        ∧ current.tryNext arrived = (some .finished, rest)) :
      StreamMove c .done none [.response .streamFinished, .removed .streamFinished]
  | failed : StreamMove c .done none [.removed .streamFailed]

/-- Some request is answered with the files of this directory. -/
def Config.ServesFrom (self : Config σ) (directory : Str) : Prop :=
  ∃ server ∈ self.servers, ∃ target, route server target = some (.static directory)

/-- The answer to a complete request. -/
inductive AnswerMove (env : Env σ) (c : UringConnection σ) :
    Next → Option (UringConnection σ) → List Act → Prop where
  | respond (response : List UInt8) (hne : response ≠ [])
      (hresponse : (∃ whole, response = boundedResponse env.limits whole)
        ∨ ∃ error, response = staticErrorResponse error) :
      AnswerMove env c .send (some (c.queueResponse response)) [.queued response]
  | static (stream : Option StaticStream) (head : List UInt8) (hne : head ≠ [])
      (hserved : ∃ directory request response, env.ServesFrom directory
        ∧ env.staticStreamResponse directory request = .ok response
        ∧ response.stream = stream ∧ response.head = head) :
      AnswerMove env c .send
        (some ({ c with staticStream := stream }.queueResponse head)) [.queued head]
  | proxyError (response : List UInt8) (hne : response ≠ []) (herror : IsUpstreamError response)
      (forwarding : List Act)
      (hforwarding : forwarding = [] ∨ ∃ bytes, forwarding = [.forwarding bytes]) :
      AnswerMove env c .send (some ({ c with proxy := none }.queueResponse response))
        (.proxied :: (forwarding ++ [.queued response]))
  | resolving (requestBuffer : List UInt8) (hne : requestBuffer ≠ [])
      (hle : requestBuffer.length ≤ env.limits.maxReadBufferSize) :
      AnswerMove env c .done
        (some (c.setProxy (UringProxy.resolving env.now requestBuffer)))
        [.proxied, .forwarding requestBuffer]
  | noListener (h : env.listeners[c.listenerIndex]? = none) :
      AnswerMove env c .done none [.removed .listenerMissing]
  | balancerPanic : AnswerMove env c (.exit (.panic .balancer)) (some c) [.proxied]

/-- Received plaintext. `received` is what `receiveRequest` makes of it. -/
inductive PlaintextMove (env : Env σ) (plaintext : List UInt8) (c : UringConnection σ) :
    Next → Option (UringConnection σ) → List Act → Prop where
  | empty (h : plaintext = []) : PlaintextMove env plaintext c .recv (some c) []
  | waiting (c₁ : UringConnection σ)
      (h : c.receiveRequest env.limits plaintext = (c₁, .keepWaiting)) :
      PlaintextMove env plaintext c .recv (some c₁) [.verdict .keepWaiting]
  | rejected (c₁ : UringConnection σ) (status : Nat) (message : Str) (response : List UInt8)
      (hne : response ≠ [])
      (h : c.receiveRequest env.limits plaintext = (c₁, .error status message))
      (hresponse : response = responseBytes status message) (hsome : plaintext ≠ []) :
      PlaintextMove env plaintext c .send
        (some ({ c₁ with pendingRequest := none }.queueResponse response))
        [.verdict (.error status message), .queued response]
  | dispatched (c₁ : UringConnection σ) (head : RequestHead) (body : List UInt8) (next : Next)
      (c₂ : Option (UringConnection σ)) (acts : List Act)
      (h : c.receiveRequest env.limits plaintext = (c₁, .dispatch head body))
      (hanswer : AnswerMove env c₁ next c₂ acts) (hsome : plaintext ≠ []) :
      PlaintextMove env plaintext c next c₂ (.verdict (.dispatch head body) :: acts)

/-- Received bytes reach the session; `next` flushes what it has to send, and
`plaintext` is what it decrypted. -/
inductive Intake (env : Env σ) (received : List UInt8) (c : UringConnection σ) :
    Next → UringConnection σ → List UInt8 → List Act → Prop where
  | plain (hssl : c.ssl = none) :
      Intake env received c .done c received [.copied received]
  | tls (ssl ssl' : UringSslSession σ) (hssl : c.ssl = some ssl) (taken : Nat)
      (plaintext : List UInt8)
      (hintake : ssl.intake env.tls received = some (taken, plaintext, ssl')) (next : Next)
      (hnext : next = if env.tls.wantsWrite ssl'.connection then .send else .done) :
      Intake env received c next (c.setSsl ssl') plaintext
        [.copied received, .tlsRead received taken]

/-- A completed client send; `n` bytes of `submitted` were transmitted. -/
inductive WriteMove (env : Env σ) (submitted : List UInt8) (result : Int)
    (c : UringConnection σ) : Next → Option (UringConnection σ) → List Act → Prop where
  | retry (h : result < 0) : WriteMove env submitted result c .send (some c) []
  | failed (h : result ≤ 0) :
      WriteMove env submitted result c .done none [.removed .sendFailed]
  | invalid (hpos : 0 < result) (hlen : c.unsent.length < result.toNat) :
      WriteMove env submitted result c .done none [.removed .invalidSend]
  | more (hpos : 0 < result) (hlen : result.toNat ≤ c.unsent.length)
      (hdrained : (c.advance result.toNat).outputDrained env.tls = false) :
      WriteMove env submitted result c .send (some (c.advance result.toNat))
        [.sent (submitted.take result.toNat) ((c.advance result.toNat).wantsWrite env.tls)]
  | stream (hpos : 0 < result) (hlen : result.toNat ≤ c.unsent.length)
      (hdrained : (c.advance result.toNat).outputDrained env.tls = true)
      (hstream : c.staticStream.isSome = true) (next : Next)
      (c₁ : Option (UringConnection σ)) (acts : List Act)
      (hmove : StreamMove (c.advance result.toNat).clearOutput next c₁ acts) :
      WriteMove env submitted result c next c₁
        (.sent (submitted.take result.toNat) ((c.advance result.toNat).wantsWrite env.tls) :: acts)
  | proxy (hpos : 0 < result) (hlen : result.toNat ≤ c.unsent.length)
      (hdrained : (c.advance result.toNat).outputDrained env.tls = true)
      (hstream : c.staticStream = none) (proxy : UringProxy) (hproxy : c.proxy = some proxy) :
      WriteMove env submitted result c .proxyRead
        (some ((c.advance result.toNat).clearOutput.setProxy (proxy.recordProgress env.now)))
        [.sent (submitted.take result.toNat) ((c.advance result.toNat).wantsWrite env.tls)]
  | close (hpos : 0 < result) (hlen : result.toNat ≤ c.unsent.length)
      (hdrained : (c.advance result.toNat).outputDrained env.tls = true)
      (hstream : c.staticStream = none) (hproxy : c.proxy = none)
      (ssl : UringSslSession σ) (hssl : c.ssl = some ssl) (hopen : ssl.closing = false) :
      WriteMove env submitted result c .send
        (some ((c.advance result.toNat).setSsl (ssl.close env.tls)))
        [.sent (submitted.take result.toNat) ((c.advance result.toNat).wantsWrite env.tls),
          .closeNotify]
  | delivered (hpos : 0 < result) (hlen : result.toNat ≤ c.unsent.length)
      (hdrained : (c.advance result.toNat).outputDrained env.tls = true)
      (hstream : c.staticStream = none) (hproxy : c.proxy = none)
      (hclosed : ∀ ssl, c.ssl = some ssl → ssl.closing = true) :
      WriteMove env submitted result c .done none
        [.sent (submitted.take result.toNat) ((c.advance result.toNat).wantsWrite env.tls),
          .response .delivered, .removed .delivered]

/-- `handle_proxy_write` fails the proxy on this result. -/
def UringProxy.writeFails (self : UringProxy) (result : Int) : Bool :=
  self.timedOut || (result < 0 && !isSendRetry result) || result == 0
    || self.requestBuffer.length - self.requestOffset < result.toNat

/-- `handle_proxy_read` fails the proxy on this result. -/
def UringProxy.readFails (limits : WorkerLimits) (self : UringProxy) (result : Int) : Bool :=
  self.timedOut || (result < 0 && !isRecvRetry result) || limits.maxWriteBufferSize < result.toNat

/-- The events that concern a proxy and are ignored without one. -/
def TurnEvent.aboutUpstream : TurnEvent → Bool
  | .proxyConnect _ | .proxyWrite .. | .proxyRead .. | .resolved _ => true
  | _ => false

/-- What a handler can do, apart from a successful client receive. In the
upstream moves `proxy` is the one the completion found. -/
inductive Move (env : Env σ) : TurnEvent → UringConnection σ → Next →
    Option (UringConnection σ) → List Act → Prop where
  | accepted {c : UringConnection σ} : Move env .accepted c .recv (some c) []
  | recvBroken {c : UringConnection σ} {result : Int} {bufferId : Option Nat}
      {contents : Nat → UInt8} (message : Option Str) :
      Move env (.read result bufferId contents) c (.exit (.io message)) (some c) []
  | recvRetry {c : UringConnection σ} {result : Int} {bufferId : Option Nat}
      {contents : Nat → UInt8} (h : result < 0) :
      Move env (.read result bufferId contents) c .recv
        (some c.markReadCompleted) []
  | recvClosed {c : UringConnection σ} {result : Int} {bufferId : Option Nat}
      {contents : Nat → UInt8} (h : result ≤ 0) (hretry : ¬ (result < 0 ∧ isRecvRetry result)) :
      Move env (.read result bufferId contents) c .done none [.removed .receiveClosed]
  | tlsFailed {c : UringConnection σ} {result : Int} {bufferId : Option Nat}
      {contents : Nat → UInt8} (h : 0 < result) (ssl : UringSslSession σ) (hssl : c.ssl = some ssl)
      (hintake : ssl.intake env.tls ((List.range result.toNat).map contents) = none) :
      Move env (.read result bufferId contents) c .done none
        [.copied ((List.range result.toNat).map contents), .removed .tlsFailed]
  | write {c : UringConnection σ} {submitted : List UInt8} {result : Int} {next : Next}
      {c₁ : Option (UringConnection σ)} {acts : List Act}
      (h : WriteMove env submitted result c.markWriteCompleted next c₁ acts) :
      Move env (.write submitted result) c next c₁ acts
  | noProxy {c : UringConnection σ} {event : TurnEvent} (hevent : event.aboutUpstream = true)
      (h : c.proxy = none) : Move env event c .done (some c) []
  | connectFailed {c : UringConnection σ} {result : Int} (proxy : UringProxy)
      (hproxy : c.proxy = some proxy) (hfails : proxy.timedOut = true) {next : Next}
      {c₁ : Option (UringConnection σ)} {acts : List Act}
      (h : FailMove (c.setProxy proxy.completed) next c₁ acts) :
      Move env (.proxyConnect result) c next c₁ acts
  | connectNext {c : UringConnection σ} {result : Int} (proxy : UringProxy)
      (hproxy : c.proxy = some proxy) {next : Next} {c₁ : Option (UringConnection σ)}
      {acts : List Act}
      (h : AddressMove env (c.setProxy proxy.completed) proxy.completed next c₁ acts) :
      Move env (.proxyConnect result) c next c₁ acts
  | connected {c : UringConnection σ} {result : Int} (proxy : UringProxy)
      (hproxy : c.proxy = some proxy) :
      Move env (.proxyConnect result) c .proxyWrite
        (some (c.setProxy (proxy.completed.transition env.now .writingRequest))) []
  | writeFailed {c : UringConnection σ} {submitted : List UInt8} {result : Int} (proxy : UringProxy)
      (hproxy : c.proxy = some proxy) (hfails : proxy.writeFails result = true) {next : Next}
      {c₁ : Option (UringConnection σ)} {acts : List Act}
      (h : FailMove (c.setProxy proxy.completed) next c₁ acts) :
      Move env (.proxyWrite submitted result) c next c₁ acts
  | writeRetry {c : UringConnection σ} {submitted : List UInt8} {result : Int} (proxy : UringProxy)
      (hproxy : c.proxy = some proxy) :
      Move env (.proxyWrite submitted result) c .proxyWrite
        (some (c.setProxy proxy.completed)) []
  | wroteSome {c : UringConnection σ} {submitted : List UInt8} {result : Int} (proxy : UringProxy)
      (hproxy : c.proxy = some proxy) (hpos : 0 < result)
      (hlen : result.toNat ≤ proxy.requestBuffer.length - proxy.requestOffset) :
      Move env (.proxyWrite submitted result) c .proxyWrite
        (some (c.setProxy (proxy.completed.wrote env.now result.toNat)))
        [.forwarded (submitted.take result.toNat)]
  | wroteAll {c : UringConnection σ} {submitted : List UInt8} {result : Int} (proxy : UringProxy)
      (hproxy : c.proxy = some proxy) (hpos : 0 < result)
      (hall : proxy.requestOffset + result.toNat = proxy.requestBuffer.length) :
      Move env (.proxyWrite submitted result) c .proxyRead
        (some (c.setProxy
          ((proxy.completed.wrote env.now result.toNat).transition env.now .readingResponse)))
        [.forwarded (submitted.take result.toNat)]
  | upstreamBroken {c : UringConnection σ} {result : Int} {bufferId : Option Nat}
      {contents : Nat → UInt8} (message : Option Str) :
      Move env (.proxyRead result bufferId contents) c (.exit (.io message)) (some c) []
  | readFailed {c : UringConnection σ} {result : Int} {bufferId : Option Nat}
      {contents : Nat → UInt8} (proxy : UringProxy)
      (hproxy : c.proxy = some proxy) (hfails : proxy.readFails env.limits result = true)
      {next : Next} {c₁ : Option (UringConnection σ)} {acts : List Act}
      (h : FailMove (c.setProxy proxy.completed) next c₁ acts) :
      Move env (.proxyRead result bufferId contents) c next c₁ acts
  | readRetry {c : UringConnection σ} {result : Int} {bufferId : Option Nat}
      {contents : Nat → UInt8} (proxy : UringProxy) (hproxy : c.proxy = some proxy) :
      Move env (.proxyRead result bufferId contents) c .proxyRead
        (some (c.setProxy proxy.completed)) []
  | upstreamClosed {c : UringConnection σ} {result : Int} {bufferId : Option Nat}
      {contents : Nat → UInt8} (proxy : UringProxy) (hproxy : c.proxy = some proxy)
      (htimed : proxy.timedOut = false) (hresult : result = 0) :
      Move env (.proxyRead result bufferId contents) c .done none
        [.response .upstreamClosed, .removed .upstreamClosed]
  | chunk {c : UringConnection σ} {result : Int} {bufferId : Option Nat}
      {contents : Nat → UInt8} (proxy : UringProxy) (hproxy : c.proxy = some proxy)
      (bytes : List UInt8) (hne : bytes ≠ []) (htimed : proxy.timedOut = false)
      (hpos : 0 < result) (hbytes : bytes = (List.range result.toNat).map contents)
      (hle : bytes.length ≤ env.limits.maxWriteBufferSize) :
      Move env (.proxyRead result bufferId contents) c .send
        (some ((c.setProxy (proxy.completed.received env.now)).queueResponse bytes))
        [.relayed bytes, .queued bytes]
  | notResolving {c : UringConnection σ} {addresses : Option (List SocketAddr)}
      (proxy : UringProxy) (hproxy : c.proxy = some proxy) (hphase : proxy.phase ≠ .resolving) :
      Move env (.resolved addresses) c .done (some c) []
  | unresolved {c : UringConnection σ} {addresses : Option (List SocketAddr)}
      (proxy : UringProxy) (hproxy : c.proxy = some proxy) (hphase : proxy.phase = .resolving)
      (response : List UInt8) (hne : response ≠ []) (herror : IsUpstreamError response) :
      Move env (.resolved addresses) c .send
        (some ({ c with proxy := none }.queueResponse response)) [.queued response]
  | resolved {c : UringConnection σ} (addresses : List SocketAddr)
      (proxy : UringProxy) (hproxy : c.proxy = some proxy) (hphase : proxy.phase = .resolving)
      {next : Next} {c₁ : Option (UringConnection σ)} {acts : List Act}
      (h : AddressMove env
        (c.setProxy ({ proxy with addresses }.transition env.now .connecting))
        ({ proxy with addresses }.transition env.now .connecting) next c₁ acts) :
      Move env (.resolved (some addresses)) c next c₁ acts
  | expiredIdle {c : UringConnection σ} {phase : ProxyPhase} {next : Next}
      {c₁ : Option (UringConnection σ)} {acts : List Act} (h : FailMove c next c₁ acts) :
      Move env (.expired phase false) c next c₁ acts
  | expiredPending {c : UringConnection σ} {phase : ProxyPhase} (proxy : UringProxy)
      (hproxy : c.proxy = some proxy) (next : Next) (hnext : next = .done ∨ next = .exit (.io none)) :
      Move env (.expired phase true) c next
        (some (c.setProxy { proxy with timedOut := true })) []
  | expiredMissing {c : UringConnection σ} {phase : ProxyPhase} (hproxy : c.proxy = none) :
      Move env (.expired phase true) c (.exit (.panic .proxy)) (some c) []
  | handshakeExpired {c : UringConnection σ} :
      Move env .handshakeExpired c .done none [.removed .handshakeExpired]
  | pump {c : UringConnection σ} {next : Next} {c₁ : Option (UringConnection σ)}
      {acts : List Act} (hstream : c.staticStream.isSome = true)
      (h : StreamMove c next c₁ acts) : Move env .pump c next c₁ acts
  | pumpMissing {c : UringConnection σ} (hstream : c.staticStream = none) :
      Move env .pump c (.exit (.panic .staticStream)) (some c) []

/-! ## §3. The handlers make these moves. -/

/-- Storing the connection notes nothing. -/
theorem Turn.Moved.put (t : Turn σ) (c : UringConnection σ) : t.Moved (t.put c) (some c) [] :=
  ⟨rfl, rfl, by simp [Turn.put], rfl⟩

/-- Queueing a response notes the response, whole. -/
theorem Turn.Moved.queue (t : Turn σ) (c : UringConnection σ) (response : List UInt8) :
    t.Moved (t.queue c response) (some (c.queueResponse response)) [.queued response] :=
  ⟨rfl, rfl, rfl, rfl⟩

/-- The handlers never change the generation, so the connection they store is
current too. -/
theorem Turn.Current.put {c₁ : UringConnection σ} (h : t.Current c)
    (hgen : c₁.generation = c.generation) : (t.put c₁).Current c₁ :=
  ⟨rfl, hgen.trans h.generation⟩

/-- `queue_http_error`: the unfinished request is dropped for the page. -/
theorem queueHttpError_settles (h : t.Current c) (status : Nat) (message : Str) :
    Settles env t .send
      (some ({ c with pendingRequest := none }.queueResponse (responseBytes status message)))
      [.queued (responseBytes status message)] (queueHttpError env status message t) := by
  unfold queueHttpError
  dsimp only
  rw [show t.countError.connection = some c from h.connection]
  dsimp only
  rw [show t.countError.id = t.id from rfl, h.matches, if_neg (by decide)]
  exact settles_send ⟨rfl, rfl, rfl, rfl⟩

/-- `queue_proxy_error`: the proxy is dropped for the page. -/
theorem queueProxyError_settles (h : t.Current c) (status : Nat) (message : Str) :
    Settles env t .send
      (some ({ c with proxy := none }.queueResponse (responseBytes status message)))
      [.queued (responseBytes status message)] (queueProxyError env status message t) := by
  unfold queueProxyError
  dsimp only
  rw [show t.countError.connection = some c from h.connection]
  dsimp only
  rw [show t.countError.id = t.id from rfl, h.matches, if_neg (by decide)]
  exact settles_send ⟨rfl, rfl, rfl, rfl⟩

/-- `fail_proxy`: a page as long as no byte of a response was relayed, and the end of
the connection after that. -/
theorem failProxy_settles (h : t.Current c) (status : Nat) (message : Str)
    (herror : IsUpstreamError (responseBytes status message)) :
    ∃ next c₁ acts, FailMove c next c₁ acts
      ∧ Settles env t next c₁ acts (failProxy env status message t) := by
  unfold failProxy
  rw [h.connection]
  dsimp only
  cases hproxy : c.proxy with
  | none =>
      rw [if_neg (by decide)]
      refine ⟨_, _, _, .answered _ (responseBytes_ne_nil status message) ?_ herror,
        queueProxyError_settles h status message⟩
      intro proxy hp
      rw [hproxy] at hp
      cases hp
  | some proxy =>
      dsimp only
      split_ifs with hstarted
      · exact ⟨_, _, _, .dropped proxy hproxy hstarted, settles_done ⟨rfl, rfl, rfl, rfl⟩⟩
      · refine ⟨_, _, _, .answered _ (responseBytes_ne_nil status message) ?_ herror,
          queueProxyError_settles h status message⟩
        intro proxy' hp
        rw [hproxy] at hp
        injection hp with hp
        subst hp
        simpa using hstarted

/-- `try_next_proxy_address`: a connect to the first address a socket can be made for,
or the page when there is none. -/
theorem tryNextProxyAddress_settles (h : t.Current c) {proxy : UringProxy}
    (hproxy : c.proxy = some proxy) :
    ∃ next c₁ acts, AddressMove env c proxy next c₁ acts
      ∧ Settles env t next c₁ acts (tryNextProxyAddress env t) := by
  unfold tryNextProxyAddress
  simp only [h.connection, hproxy]
  split
  · have hput : (t.put (c.setProxy { proxy with addresses := [] })).Current
        (c.setProxy { proxy with addresses := [] }) := h.put rfl
    exact ⟨_, _, _, .exhausted _ (responseBytes_ne_nil _ _) (isUpstreamError 4 rfl),
      Settles.of_moved (.put t _) (queueProxyError_settles hput _ _)⟩
  next address socket addresses hnext =>
    exact ⟨_, _, _, .found address socket addresses hnext, settles_connect (.put t _)⟩

/-- `advance_static_stream`: it expects a stream and panics without one; with one it
queues a chunk, waits for the file, or ends the connection. -/
theorem advanceStaticStream_settles (h : t.Current c) :
    (c.staticStream = none
      ∧ Settles env t (.exit (.panic .staticStream)) (some c) [] (advanceStaticStream env t))
    ∨ c.staticStream.isSome = true ∧ ∃ next c₁ acts, StreamMove c next c₁ acts
        ∧ Settles env t next c₁ acts (advanceStaticStream env t) := by
  unfold advanceStaticStream
  simp only [h.connection]
  cases hstream : c.staticStream with
  | none =>
      exact .inl ⟨rfl, settles_exit _ ⟨rfl, h.connection, (List.append_nil _).symm, rfl⟩⟩
  | some stream =>
      refine .inr ⟨rfl, ?_⟩
      dsimp only
      split
      next bytes rest hnext =>
        exact ⟨_, _, _, .data rest bytes (StaticStream.tryNext_data_ne_nil hnext)
          ⟨stream, _, hstream, hnext⟩, settles_send (.queue t _ bytes)⟩
      next rest hnext =>
        have hrest : rest = stream := StaticStream.tryNext_pending hnext
        have hc : { c with staticStream := some rest } = c := by rw [hrest, ← hstream]
        rw [hc]
        exact ⟨_, _, _, .pending, settles_done (.put t c)⟩
      next rest hnext =>
        refine ⟨_, _, _, .finished ⟨stream, _, rest, hstream, hnext⟩, settles_done ?_⟩
        exact ⟨rfl, rfl, by simp [Turn.countResponse, Turn.remove], rfl⟩
      · refine ⟨_, _, _, .failed, settles_done ?_⟩
        exact ⟨rfl, rfl, rfl, rfl⟩

/-- What the upstream handlers look up first: the connection with its proxy, … -/
theorem Turn.Current.currentProxy {proxy : UringProxy} (h : t.Current c)
    (hproxy : c.proxy = some proxy) : t.currentProxy = some (c, proxy) := by
  unfold Turn.currentProxy
  simp [h.connection, h.matches, hproxy]

/-- … and nothing when there is none. -/
theorem Turn.Current.currentProxy_none (h : t.Current c) (hproxy : c.proxy = none) :
    t.currentProxy = none := by
  unfold Turn.currentProxy
  simp [h.connection, h.matches, hproxy]

/-- An upstream completion without a proxy is ignored. -/
theorem settles_ignored (h : t.Current c) : Settles env t .done (some c) [] (.ok t) :=
  settles_done ⟨rfl, h.connection, (List.append_nil _).symm, rfl⟩

/-- The connect has completed: its phase has timed out, it failed, or the request is
written next. -/
theorem handleProxyConnect_settles (h : t.Current c) (result : Int) :
    ∃ next c₁ acts, Move env (.proxyConnect result) c next c₁ acts
      ∧ Settles env t next c₁ acts (handleProxyConnect env result t) := by
  unfold handleProxyConnect
  cases hproxy : c.proxy with
  | none =>
      rw [h.currentProxy_none hproxy]
      exact ⟨_, _, _, .noProxy rfl hproxy, settles_ignored h⟩
  | some proxy =>
      rw [h.currentProxy hproxy]
      dsimp only
      have hput : (t.put (c.setProxy proxy.completed)).Current (c.setProxy proxy.completed) :=
        h.put rfl
      split_ifs with htimed hresult
      · obtain ⟨next, c₁, acts, hmove, hsettles⟩ := failProxy_settles hput 504
          "upstream connect timed out".toList (isUpstreamError 10 rfl)
        exact ⟨_, _, _, .connectFailed proxy hproxy htimed hmove, .of_moved (.put t _) hsettles⟩
      · obtain ⟨next, c₁, acts, hmove, hsettles⟩ := tryNextProxyAddress_settles hput rfl
        exact ⟨_, _, _, .connectNext proxy hproxy hmove, .of_moved (.put t _) hsettles⟩
      · exact ⟨_, _, _, .connected proxy hproxy, settles_proxyWrite (.trans (.put t _) (.put _ _))⟩

/-- A part of the request was sent: an error, a retry, more to write, or the response
is read next. -/
theorem handleProxyWrite_settles (h : t.Current c) (submitted : List UInt8) (result : Int) :
    ∃ next c₁ acts, Move env (.proxyWrite submitted result) c next c₁ acts
      ∧ Settles env t next c₁ acts (handleProxyWrite env submitted result t) := by
  unfold handleProxyWrite
  cases hproxy : c.proxy with
  | none =>
      rw [h.currentProxy_none hproxy]
      exact ⟨_, _, _, .noProxy rfl hproxy, settles_ignored h⟩
  | some proxy =>
      rw [h.currentProxy hproxy]
      dsimp only
      have hput : (t.put (c.setProxy proxy.completed)).Current (c.setProxy proxy.completed) :=
        h.put rfl
      have hfail : proxy.writeFails result = true → ∀ status message,
          IsUpstreamError (responseBytes status message) →
          ∃ next c₁ acts, Move env (.proxyWrite submitted result) c next c₁ acts
            ∧ Settles env t next c₁ acts (failProxy env status message
                (t.put (c.setProxy proxy.completed))) := by
        intro hfails status message herror
        obtain ⟨next, c₁, acts, hmove, hsettles⟩ := failProxy_settles hput status message herror
        exact ⟨_, _, _, .writeFailed proxy hproxy hfails hmove, .of_moved (.put t _) hsettles⟩
      split_ifs with htimed hneg hretry hzero hlen hall
      · exact hfail (by simp [UringProxy.writeFails, show proxy.timedOut = true from htimed]) _ _
          (isUpstreamError 11 rfl)
      · exact ⟨_, _, _, .writeRetry proxy hproxy, settles_proxyWrite (.put t _)⟩
      · exact hfail (by simp [UringProxy.writeFails, hneg, hretry]) _ _ (isUpstreamError 5 rfl)
      · exact hfail (by simp [UringProxy.writeFails, hzero]) _ _ (isUpstreamError 5 rfl)
      · -- counting the bytes does not touch the connection
        have hput' : ((t.put (c.setProxy proxy.completed)).wroteBytes result.toNat).Current
            (c.setProxy proxy.completed) := ⟨rfl, hput.generation⟩
        have hmoved : t.Moved ((t.put (c.setProxy proxy.completed)).wroteBytes result.toNat)
            (some (c.setProxy proxy.completed)) [] := ⟨rfl, rfl, (List.append_nil _).symm, rfl⟩
        obtain ⟨next, c₁, acts, hmove, hsettles⟩ := failProxy_settles hput' 502
          "invalid upstream write completion".toList (isUpstreamError 6 rfl)
        have hfails : proxy.writeFails result = true := by
          have hlen' : proxy.requestBuffer.length - proxy.requestOffset < result.toNat := hlen
          simp [UringProxy.writeFails, hlen']
        exact ⟨_, _, _, .writeFailed proxy hproxy hfails hmove, .of_moved hmoved hsettles⟩
      · refine ⟨_, _, _, .wroteAll proxy hproxy (by omega) hall, settles_proxyRead ?_⟩
        exact ⟨rfl, rfl, rfl, rfl⟩
      · refine ⟨_, _, _, .wroteSome proxy hproxy (by omega) (Nat.le_of_not_lt hlen),
          settles_proxyWrite ?_⟩
        exact ⟨rfl, rfl, rfl, rfl⟩

/-- Taking the received bytes fails, or leaves the connection alone; a positive
result yields as many bytes. -/
theorem takeReceived_cases (t : Turn σ) (missing : Str) (result : Int) (bufferId : Option Nat)
    (contents : Nat → UInt8) :
    (∃ message, t.takeReceived missing result bufferId contents = .error (.io message))
    ∨ ∃ bytes t₁, t.takeReceived missing result bufferId contents = .ok (bytes, t₁)
        ∧ t.Moved t₁ t.connection []
        ∧ (0 < result → bytes = (List.range result.toNat).map contents) := by
  unfold Turn.takeReceived
  split_ifs with hpos
  · cases bufferId with
    | none => exact .inl ⟨_, rfl⟩
    | some id =>
        dsimp only
        unfold ProvidedBufferRing.copyAndRelease
        split_ifs
        · exact .inl ⟨_, rfl⟩
        · exact .inl ⟨_, rfl⟩
        · exact .inr ⟨_, _, rfl, ⟨rfl, rfl, by simp, rfl⟩, fun _ => rfl⟩
  · cases bufferId with
    | none => exact .inr ⟨_, _, rfl, ⟨rfl, rfl, by simp, rfl⟩, fun h => absurd h hpos⟩
    | some id =>
        dsimp only
        unfold ProvidedBufferRing.copyAndRelease
        split_ifs
        · exact .inl ⟨_, rfl⟩
        · exact .inl ⟨_, rfl⟩
        · exact .inr ⟨_, _, rfl, ⟨rfl, rfl, by simp, rfl⟩, fun h => absurd h hpos⟩

/-- A move that keeps the generation leaves the connection current. -/
theorem Turn.Moved.current {t₁ : Turn σ} {acts : List Act} (h : t.Current c)
    {c₁ : UringConnection σ} (hmoved : t.Moved t₁ (some c₁) acts)
    (hgen : c₁.generation = c.generation) : t₁.Current c₁ :=
  ⟨hmoved.connection, by rw [hgen, h.generation, hmoved.id]⟩

/-- A receive with a positive result brings at least one byte. -/
theorem map_range_ne_nil {result : Int} (h : 0 < result) (contents : Nat → UInt8) :
    (List.range result.toNat).map contents ≠ [] := by
  intro hnil
  have hzero : result.toNat = 0 := by simpa using hnil
  omega

/-- A part of the response arrived: an error, a retry, the end of the stream, or bytes
that are relayed. -/
theorem handleProxyRead_settles (h : t.Current c) (result : Int) (bufferId : Option Nat)
    (contents : Nat → UInt8) :
    ∃ next c₁ acts, Move env (.proxyRead result bufferId contents) c next c₁ acts
      ∧ Settles env t next c₁ acts (handleProxyRead env result bufferId contents t) := by
  unfold handleProxyRead
  rcases takeReceived_cases t "upstream receive completed without a selected buffer".toList
    result bufferId contents with ⟨message, htake⟩ | ⟨bytes, t₁, htake, hmoved, hbytes⟩
  · rw [htake]
    exact ⟨_, _, _, .upstreamBroken message,
      settles_exit _ ⟨rfl, h.connection, (List.append_nil _).symm, rfl⟩⟩
  · rw [htake]
    rw [h.connection] at hmoved
    have h₁ : t₁.Current c := hmoved.current h rfl
    dsimp only [bind, Except.bind]
    cases hproxy : c.proxy with
    | none =>
        rw [h₁.currentProxy_none hproxy]
        exact ⟨_, _, _, .noProxy rfl hproxy, .of_moved hmoved (settles_ignored h₁)⟩
    | some proxy =>
        rw [h₁.currentProxy hproxy]
        dsimp only
        have hput : (t₁.put (c.setProxy proxy.completed)).Current (c.setProxy proxy.completed) :=
          h₁.put rfl
        have hmoved' : t.Moved (t₁.put (c.setProxy proxy.completed))
            (some (c.setProxy proxy.completed)) [] := hmoved.trans (.put t₁ _)
        have hfail : proxy.readFails env.limits result = true → ∀ status message,
            IsUpstreamError (responseBytes status message) →
            ∃ next c₁ acts, Move env (.proxyRead result bufferId contents) c next c₁ acts
              ∧ Settles env t next c₁ acts (failProxy env status message
                  (t₁.put (c.setProxy proxy.completed))) := by
          intro hfails status message herror
          obtain ⟨next, c₁, acts, hmove, hsettles⟩ := failProxy_settles hput status message herror
          exact ⟨_, _, _, .readFailed proxy hproxy hfails hmove, .of_moved hmoved' hsettles⟩
        split_ifs with htimed hneg hretry hzero hlen
        · exact hfail (by simp [UringProxy.readFails, show proxy.timedOut = true from htimed]) _ _
            (isUpstreamError 12 rfl)
        · exact ⟨_, _, _, .readRetry proxy hproxy, settles_proxyRead hmoved'⟩
        · exact hfail (by simp [UringProxy.readFails, hneg, hretry]) _ _ (isUpstreamError 7 rfl)
        · have hclosed : proxy.timedOut = false := Bool.eq_false_iff.mpr htimed
          refine ⟨_, _, _, .upstreamClosed proxy hproxy hclosed hzero, settles_done ?_⟩
          exact ⟨hmoved.id, rfl, by simp [Turn.countResponse, Turn.remove, Turn.put, hmoved.log],
            hmoved.pushed⟩
        · have hcount : t.Moved ((t₁.put (c.setProxy proxy.completed)).readBytes bytes.length)
              (some (c.setProxy proxy.completed)) [] :=
            ⟨hmoved'.id, rfl, hmoved'.log, hmoved'.pushed⟩
          obtain ⟨next, c₁, acts, hmove, hsettles⟩ := failProxy_settles (hcount.current h rfl) 502
            "upstream response chunk is too large".toList (isUpstreamError 8 rfl)
          have hfails : proxy.readFails env.limits result = true := by
            rw [hbytes (by omega), List.length_map, List.length_range] at hlen
            simp [UringProxy.readFails, hlen]
          exact ⟨_, _, _, .readFailed proxy hproxy hfails hmove, .of_moved hcount hsettles⟩
        · have hpos : 0 < result := by omega
          refine ⟨_, _, _, .chunk proxy hproxy bytes ?_ (Bool.eq_false_iff.mpr htimed) hpos
            (hbytes hpos) (Nat.le_of_not_lt hlen), settles_send ?_⟩
          · rw [hbytes hpos]
            exact map_range_ne_nil hpos contents
          · exact ⟨hmoved.id, rfl,
              by simp [Turn.queue, Turn.note, Turn.readBytes, Turn.put, hmoved.log], hmoved.pushed⟩

/-- The lookup is answered: ignored in any phase but `resolving`, an error page, or the
first connect. -/
theorem finishResolution_settles (h : t.Current c) (addresses : Option (List SocketAddr)) :
    ∃ next c₁ acts, Move env (.resolved addresses) c next c₁ acts
      ∧ Settles env t next c₁ acts (finishResolution env addresses t) := by
  unfold finishResolution
  rw [h.connection]
  dsimp only
  cases hproxy : c.proxy with
  | none => exact ⟨_, _, _, .noProxy rfl hproxy, settles_ignored h⟩
  | some proxy =>
      dsimp only
      rw [h.matches]
      by_cases hphase : proxy.phase = .resolving
      · rw [if_neg (by simp [hphase])]
        split
        · exact ⟨_, _, _, .unresolved proxy hproxy hphase _ (responseBytes_ne_nil _ _)
            (isUpstreamError 2 rfl), queueProxyError_settles h _ _⟩
        · exact ⟨_, _, _, .unresolved proxy hproxy hphase _ (responseBytes_ne_nil _ _)
            (isUpstreamError 3 rfl), queueProxyError_settles h _ _⟩
        next addresses _ =>
          have hput : (t.put (c.setProxy ({ proxy with addresses }.transition env.now
              .connecting))).Current
              (c.setProxy ({ proxy with addresses }.transition env.now .connecting)) := h.put rfl
          obtain ⟨next, c₁, acts, hmove, hsettles⟩ := tryNextProxyAddress_settles hput rfl
          exact ⟨_, _, _, .resolved addresses proxy hproxy hphase hmove,
            .of_moved (.put t _) hsettles⟩
      · rw [if_pos (by simp [hphase])]
        exact ⟨_, _, _, .notResolving proxy hproxy hphase, settles_ignored h⟩

/-- A proxy phase has expired: the failure comes at once, or when the operation in
flight completes. -/
theorem expireProxy_settles (h : t.Current c) (phase : ProxyPhase) (operationPending : Bool) :
    ∃ next c₁ acts, Move env (.expired phase operationPending) c next c₁ acts
      ∧ Settles env t next c₁ acts (expireProxy env phase operationPending t) := by
  unfold expireProxy
  cases operationPending with
  | false =>
      obtain ⟨next, c₁, acts, hmove, hsettles⟩ := failProxy_settles h 504 phase.timeoutMessage
        (timeoutMessage_isUpstreamError phase)
      exact ⟨_, _, _, .expiredIdle hmove, hsettles⟩
  | true =>
      rw [if_neg (by decide), h.connection]
      dsimp only
      cases hproxy : c.proxy with
      | none =>
          exact ⟨_, _, _, .expiredMissing hproxy,
            settles_exit _ ⟨rfl, h.connection, (List.append_nil _).symm, rfl⟩⟩
      | some proxy =>
          dsimp only
          split
          · exact ⟨_, _, _, .expiredPending proxy hproxy .done (.inl rfl), settles_done (.put t _)⟩
          · split_ifs
            · exact ⟨_, _, _, .expiredPending proxy hproxy _ (.inr rfl), settles_exit _ (.put t _)⟩
            · refine ⟨_, _, _, .expiredPending proxy hproxy .done (.inl rfl), settles_done ?_⟩
              exact ⟨rfl, rfl, (List.append_nil _).symm, rfl⟩

/-! ## §4. Answering. -/

/-- The request goes upstream: a page for a URL that does not parse or a request that
is too large, otherwise the lookup. -/
theorem startProxy_settles (h : t.Current c) (url : Str) (request : RequestHead)
    (body : List UInt8) :
    ∃ next c₁ acts, AnswerMove env c next c₁ (.proxied :: acts)
      ∧ Settles env t next c₁ acts (startProxy env url request body t) := by
  have hdeclined : ∀ status message, IsUpstreamError (responseBytes status message) →
      ∃ next c₁ acts, AnswerMove env c next c₁ (.proxied :: acts)
        ∧ Settles env t next c₁ acts (queueProxyError env status message t) :=
    fun status message herror =>
      ⟨_, _, _, .proxyError _ (responseBytes_ne_nil status message) herror [] (.inl rfl),
        queueProxyError_settles h status message⟩
  unfold startProxy
  split
  · exact hdeclined _ _ (isUpstreamError 0 rfl)
  next upstream _ =>
    dsimp only
    split
    · exact hdeclined _ _ (isUpstreamError 1 rfl)
    next hle =>
      rw [h.connection]
      dsimp only
      have hmoved : t.Moved ((t.put (c.setProxy (UringProxy.resolving env.now
            (upstream.requestBytes request body)))).note
              [.forwarding (upstream.requestBytes request body)])
          (some (c.setProxy (UringProxy.resolving env.now (upstream.requestBytes request body))))
          [.forwarding (upstream.requestBytes request body)] := ⟨rfl, rfl, rfl, rfl⟩
      split
      · -- the new proxy is dropped again
        exact ⟨_, _, _, .proxyError _ (responseBytes_ne_nil _ _) (isUpstreamError 2 rfl) _
          (.inr ⟨_, rfl⟩), .of_moved hmoved (queueProxyError_settles (hmoved.current h rfl) _ _)⟩
      · exact ⟨_, _, _, .resolving _ (upstream.requestBytes_ne_nil request body)
          (Nat.le_of_not_lt hle), settles_done ⟨rfl, rfl, rfl, rfl⟩⟩

/-- Replacing a page that is too large leaves a page. -/
theorem boundedResponse_ne_nil (limits : WorkerLimits) {response : List UInt8}
    (h : response ≠ []) : boundedResponse limits response ≠ [] := by
  unfold boundedResponse
  split_ifs
  · exact responseBytes_ne_nil _ _
  · exact h

/-- A complete request is answered by its route, with one kind of move for each. -/
theorem prepareResponse_settles (h : t.Current c) {request : CompletedRequest}
    (hrequest : c.request = some request) :
    ∃ next c₁ acts, AnswerMove env c next c₁ acts
      ∧ Settles env t next c₁ acts (prepareResponse env t) := by
  unfold prepareResponse
  rw [h.connection]
  dsimp only
  rw [h.matches, if_neg (by decide), hrequest]
  dsimp only
  have hrespond : ∀ response : List UInt8, response ≠ [] →
      ∃ next c₁ acts, AnswerMove env c next c₁ acts ∧ Settles env t next c₁ acts
        (submitSend env (t.queue c (boundedResponse env.limits response))) :=
    fun response hne => ⟨_, _, _, .respond _ (boundedResponse_ne_nil env.limits hne)
      (.inl ⟨response, rfl⟩), settles_send (.queue t c _)⟩
  split
  next hlistener => exact ⟨_, _, _, .noListener hlistener, settles_done ⟨rfl, rfl, rfl, rfl⟩⟩
  · split
    · exact hrespond _ (responseBytes_ne_nil _ _)
    next server hserver =>
      split
      · exact hrespond _ (responseBytes_ne_nil _ _)
      · exact hrespond _ (responseBytes_ne_nil _ _)
      next directory hroute =>
        split
        next response hserved =>
          refine ⟨_, _, _, .static response.stream response.head response.head_ne_nil
            ⟨directory, _, response, ⟨server, List.mem_of_getElem? hserver, _, hroute⟩, hserved,
              rfl, rfl⟩, ?_⟩
          unfold queueStaticResponse
          rw [h.connection]
          exact settles_send (.queue t _ _)
        next error _ =>
          exact ⟨_, _, _, .respond _ (staticErrorResponse_ne_nil error) (.inr ⟨error, rfl⟩),
            settles_send (.queue t c _)⟩
      · have hnoted : t.Moved (t.note [.proxied]) (some c) [.proxied] :=
          ⟨rfl, h.connection, rfl, rfl⟩
        split
        · exact ⟨_, _, _, .balancerPanic, settles_exit _ hnoted⟩
        · exact ⟨_, _, _, .proxyError _ (responseBytes_ne_nil _ _) (isUpstreamError 0 rfl) []
            (.inl rfl), .of_moved hnoted (queueProxyError_settles (hnoted.current h rfl) _ _)⟩
        next url balancer _ =>
          have hmoved : t.Moved { t.note [.proxied] with balancer } (some c) [.proxied] :=
            ⟨rfl, h.connection, rfl, rfl⟩
          obtain ⟨next, c₁, acts, hmove, hsettles⟩ :=
            startProxy_settles (hmoved.current h rfl) url request.head request.body
          exact ⟨_, _, _, hmove, .of_moved hmoved hsettles⟩

/-- `receiveRequest` touches the request fields only. -/
theorem receiveRequest_frame {limits : WorkerLimits} {received : List UInt8}
    {c₁ : UringConnection σ} {verdict : ReadVerdict}
    (h : c.receiveRequest limits received = (c₁, verdict)) :
    ∃ requestBuffer pendingRequest request,
      c₁ = { c with requestBuffer, pendingRequest, request } := by
  have hcomplete : ∀ {d d₁ : UringConnection σ} {v : ReadVerdict},
      d.completeRequest = (d₁, v) →
        ∃ pendingRequest request, d₁ = { d with pendingRequest, request } := by
    intro d d₁ v hd
    unfold UringConnection.completeRequest at hd
    split at hd
    · cases hd
      exact ⟨_, _, rfl⟩
    · split_ifs at hd <;> cases hd <;> exact ⟨_, _, rfl⟩
  unfold UringConnection.receiveRequest at h
  split_ifs at h
  · cases h
    exact ⟨_, _, _, rfl⟩
  · dsimp only at h
    split at h
    · obtain ⟨_, _, rfl⟩ := hcomplete h
      exact ⟨_, _, _, rfl⟩
    · split at h
      · cases h
        exact ⟨_, _, _, rfl⟩
      · obtain ⟨_, _, rfl⟩ := hcomplete h
        exact ⟨_, _, _, rfl⟩

/-- A dispatched request is the connection's `request`. -/
theorem receiveRequest_dispatch {limits : WorkerLimits} {received : List UInt8}
    {c₁ : UringConnection σ} {head : RequestHead} {body : List UInt8}
    (h : c.receiveRequest limits received = (c₁, .dispatch head body)) :
    c₁.request = some { head, body } := by
  have hcomplete : ∀ {d d₁ : UringConnection σ},
      d.completeRequest = (d₁, .dispatch head body) → d₁.request = some { head, body } := by
    intro d d₁ hd
    unfold UringConnection.completeRequest at hd
    split at hd
    · cases hd
    · split_ifs at hd <;> cases hd
      rfl
  unfold UringConnection.receiveRequest at h
  split_ifs at h
  · cases h
  · dsimp only at h
    split at h
    · exact hcomplete h
    · split at h
      · cases h
      · exact hcomplete h

/-- Plaintext is added to the request, and the request is waited for, refused or
answered. -/
theorem receivePlaintext_settles (h : t.Current c) (plaintext : List UInt8) :
    ∃ next c₁ acts, PlaintextMove env plaintext c next c₁ acts
      ∧ Settles env t next c₁ acts (receivePlaintext env plaintext t) := by
  unfold receivePlaintext
  by_cases hempty : plaintext = []
  · rw [if_pos (by simp [hempty])]
    exact ⟨_, _, _, .empty hempty,
      settles_recv ⟨rfl, h.connection, (List.append_nil _).symm, rfl⟩⟩
  · rw [if_neg (by simpa using hempty), h.connection]
    dsimp only
    rw [h.matches, if_neg (by decide)]
    cases hstep : c.receiveRequest env.limits plaintext with
    | mk c₁ verdict =>
        dsimp only
        obtain ⟨requestBuffer, pendingRequest, request, hframe⟩ := receiveRequest_frame hstep
        have hgen : c₁.generation = c.generation := by rw [hframe]
        have hmoved : t.Moved (((t.readBytes plaintext.length).put c₁).note [.verdict verdict])
            (some c₁) [.verdict verdict] := ⟨rfl, rfl, rfl, rfl⟩
        cases verdict with
        | keepWaiting => exact ⟨_, _, _, .waiting c₁ hstep, settles_recv hmoved⟩
        | error status message =>
            exact ⟨_, _, _, .rejected c₁ status message _ (responseBytes_ne_nil _ _) hstep rfl hempty,
              .of_moved hmoved (queueHttpError_settles (hmoved.current h hgen) status message)⟩
        | dispatch head body =>
            have hcount : t.Moved (((t.readBytes plaintext.length).put c₁).note
                [.verdict (.dispatch head body)]).countRequest (some c₁)
                [.verdict (.dispatch head body)] := ⟨rfl, rfl, rfl, rfl⟩
            obtain ⟨next, c₂, acts, hmove, hsettles⟩ :=
              prepareResponse_settles (hcount.current h hgen) (receiveRequest_dispatch hstep)
            exact ⟨_, _, _, .dispatched c₁ head body next c₂ acts hstep hmove hempty,
              .of_moved hcount hsettles⟩

/-! ## §5. Client completions. -/

/-- A completed send moves an offset and nothing else: not the stream, … -/
theorem UringConnection.advance_staticStream (c : UringConnection σ) (n : Nat) :
    (c.advance n).staticStream = c.staticStream := by
  unfold UringConnection.advance
  split_ifs <;> rfl

/-- … not the response, … -/
theorem UringConnection.advance_writeBuffer (c : UringConnection σ) (n : Nat) :
    (c.advance n).writeBuffer = c.writeBuffer := by
  unfold UringConnection.advance
  split_ifs <;> rfl

/-- … not the request, … -/
theorem UringConnection.advance_requestBuffer (c : UringConnection σ) (n : Nat) :
    (c.advance n).requestBuffer = c.requestBuffer := by
  unfold UringConnection.advance
  split_ifs <;> rfl

/-- … not the proxy, … -/
theorem UringConnection.advance_proxy (c : UringConnection σ) (n : Nat) :
    (c.advance n).proxy = c.proxy := by
  unfold UringConnection.advance
  split_ifs <;> rfl

/-- … not the session, … -/
theorem UringConnection.advance_ssl (c : UringConnection σ) (n : Nat) :
    (c.advance n).ssl = c.ssl := by
  unfold UringConnection.advance
  split_ifs <;> rfl

/-- … and not the generation. -/
theorem UringConnection.advance_generation (c : UringConnection σ) (n : Nat) :
    (c.advance n).generation = c.generation := by
  unfold UringConnection.advance
  split_ifs <;> rfl

/-- A client send has completed: retried, failed, to be continued, or the end of what
was buffered. -/
theorem handleWriteCompletion_settles (h : t.Current c) (submitted : List UInt8) (result : Int) :
    ∃ next c₁ acts, WriteMove env submitted result c.markWriteCompleted next c₁ acts
      ∧ Settles env t next c₁ acts (handleWriteCompletion env submitted result t) := by
  unfold handleWriteCompletion
  rw [h.connection]
  dsimp only
  rw [h.matches, if_neg (by decide)]
  generalize hc₀ : c.markWriteCompleted = c₀
  have hgen : c₀.generation = c.generation := by rw [← hc₀]; rfl
  split_ifs with hneg hretry hzero hlen hdrained hstream
  · exact ⟨_, _, _, .retry hneg, settles_send (.put t _)⟩
  · exact ⟨_, _, _, .failed (by omega), settles_done ⟨rfl, rfl, rfl, rfl⟩⟩
  · exact ⟨_, _, _, .failed (by omega), settles_done ⟨rfl, rfl, rfl, rfl⟩⟩
  · exact ⟨_, _, _, .invalid (by omega) hlen, settles_done ⟨rfl, rfl, rfl, rfl⟩⟩
  · -- a file stream goes on
    have hpos : 0 < result := by omega
    have hle : result.toNat ≤ c₀.unsent.length := Nat.le_of_not_lt hlen
    have hmoved : t.Moved
        (((((t.put c₀).wroteBytes result.toNat).put (c₀.advance result.toNat)).note
          [.sent (submitted.take result.toNat) ((c₀.advance result.toNat).wantsWrite env.tls)]).put
          (c₀.advance result.toNat).clearOutput)
        (some (c₀.advance result.toNat).clearOutput)
        [.sent (submitted.take result.toNat) ((c₀.advance result.toNat).wantsWrite env.tls)] :=
      ⟨rfl, rfl, rfl, rfl⟩
    have hcur := hmoved.current h
      (show (c₀.advance result.toNat).clearOutput.generation = c.generation by
        rw [← hgen, ← UringConnection.advance_generation c₀ result.toNat]; rfl)
    have hsome : c₀.staticStream.isSome = true := by
      rw [← UringConnection.advance_staticStream c₀ result.toNat]
      exact hstream
    rcases advanceStaticStream_settles hcur with ⟨hnone, -⟩ | ⟨-, next, c₁, acts, hmove, hsettles⟩
    · rw [show (c₀.advance result.toNat).clearOutput.staticStream
        = (c₀.advance result.toNat).staticStream from rfl] at hnone
      rw [hnone] at hstream
      cases hstream
    · exact ⟨_, _, _, .stream hpos hle hdrained hsome next c₁ acts hmove,
        .of_moved hmoved hsettles⟩
  · have hpos : 0 < result := by omega
    have hle : result.toNat ≤ c₀.unsent.length := Nat.le_of_not_lt hlen
    have hnone : c₀.staticStream = none := by
      rw [← UringConnection.advance_staticStream c₀ result.toNat]
      simpa using hstream
    cases hproxy : c₀.proxy with
    | some proxy =>
        rw [UringConnection.advance_proxy, hproxy]
        exact ⟨_, _, _, .proxy hpos hle hdrained hnone proxy hproxy,
          settles_proxyRead ⟨rfl, rfl, rfl, rfl⟩⟩
    | none =>
        rw [UringConnection.advance_proxy, hproxy, UringConnection.advance_ssl]
        dsimp only
        have hfinish : (∀ ssl, c₀.ssl = some ssl → ssl.closing = true) →
            ∃ next c₁ acts, WriteMove env submitted result c₀ next c₁ acts
              ∧ Settles env t next c₁ acts (.ok ((((((t.put c₀).wroteBytes result.toNat).put
                (c₀.advance result.toNat)).note [.sent (submitted.take result.toNat)
                  ((c₀.advance result.toNat).wantsWrite env.tls)]).countResponse
                .delivered).remove .delivered)) := by
          intro hclosed
          refine ⟨_, _, _, .delivered hpos hle hdrained hnone hproxy hclosed, settles_done ?_⟩
          exact ⟨rfl, rfl, by simp [Turn.countResponse, Turn.remove, Turn.note, Turn.put,
            Turn.wroteBytes], rfl⟩
        cases hssl : c₀.ssl with
        | none =>
            apply hfinish
            intro ssl hs
            rw [hssl] at hs
            cases hs
        | some ssl =>
            dsimp only
            split_ifs with hclosing
            · apply hfinish
              intro ssl' hs
              rw [hssl] at hs
              injection hs with hs
              exact hs ▸ hclosing
            · refine ⟨_, _, _, .close hpos hle hdrained hnone hproxy ssl hssl
                (Bool.eq_false_iff.mpr hclosing), settles_send ?_⟩
              exact ⟨rfl, rfl, by simp [Turn.note, Turn.put, Turn.wroteBytes], rfl⟩
  · refine ⟨_, _, _, .more (by omega) (Nat.le_of_not_lt hlen) (Bool.eq_false_iff.mpr hdrained),
      settles_send ?_⟩
    exact ⟨rfl, rfl, rfl, rfl⟩

/-- A client receive has completed: a move of its own, or bytes for the session and
then the plaintext. -/
theorem handleReadCompletion_cases (h : t.Current c) (result : Int) (bufferId : Option Nat)
    (contents : Nat → UInt8) :
    (∃ next c₁ acts, Move env (.read result bufferId contents) c next c₁ acts
      ∧ Settles env t next c₁ acts (handleReadCompletion env result bufferId contents t))
    ∨ 0 < result ∧ ∃ next c₁ plaintext acts t₁,
        Intake env ((List.range result.toNat).map contents) c.markReadCompleted
          next c₁ plaintext acts
        ∧ t.Moved t₁ (some c₁) acts
        ∧ handleReadCompletion env result bufferId contents t
            = (next.run env t₁ >>= receivePlaintext env plaintext) := by
  unfold handleReadCompletion
  rcases takeReceived_cases t "receive completed without a selected buffer".toList
    result bufferId contents with ⟨message, htake⟩ | ⟨bytes, t₁, htake, hmoved, hbytes⟩
  · rw [htake]
    exact .inl ⟨_, _, _, .recvBroken message,
      settles_exit _ ⟨rfl, h.connection, (List.append_nil _).symm, rfl⟩⟩
  · rw [htake]
    rw [h.connection] at hmoved
    have h₁ : t₁.Current c := hmoved.current h rfl
    have hput : t.Moved (t₁.put c.markReadCompleted)
        (some c.markReadCompleted) [] := hmoved.trans (.put t₁ _)
    simp only [bind, Except.bind, h₁.connection, h₁.matches, Bool.not_true, Bool.false_eq_true,
      if_false]
    split_ifs with hle hretry
    · have hneg : result < 0 ∧ isRecvRetry result = true := by simpa using hretry
      exact .inl ⟨_, _, _, .recvRetry hneg.1, settles_recv hput⟩
    · refine .inl ⟨_, _, _, .recvClosed hle (by simpa using hretry), settles_done ?_⟩
      exact ⟨hput.id, rfl, by simp [Turn.remove, Turn.put, hmoved.log], hput.pushed⟩
    · have hpos : 0 < result := by omega
      have hcopied : t.Moved ((t₁.put c.markReadCompleted).note [.copied bytes])
          (some c.markReadCompleted) [.copied bytes] :=
        ⟨hput.id, rfl, by simp [Turn.note, Turn.put, hmoved.log], hput.pushed⟩
      rw [← hbytes hpos]
      cases hssl : c.markReadCompleted.ssl with
      | none =>
          exact .inr ⟨hpos, .done, _, bytes, _, _, .plain hssl, hcopied, rfl⟩
      | some ssl =>
          dsimp only
          cases hintake : ssl.intake env.tls bytes with
          | none =>
              refine .inl ⟨_, _, _, .tlsFailed hpos ssl hssl (by rw [← hbytes hpos, hintake]),
                settles_done ?_⟩
              exact ⟨hput.id, rfl, by
                simp [Turn.remove, Turn.note, Turn.put, hmoved.log, hbytes hpos], hput.pushed⟩
          | some step =>
              obtain ⟨taken, plaintext, ssl'⟩ := step
              refine .inr ⟨hpos, _, _, plaintext, _,
                (((t₁.put c.markReadCompleted).note [.copied bytes]).put
                  (c.markReadCompleted.setSsl ssl')).note [.tlsRead bytes taken],
                .tls ssl ssl' hssl taken plaintext hintake _ rfl, ?_, ?_⟩
              · exact ⟨hput.id, rfl, by simp [Turn.note, Turn.put, hmoved.log], hput.pushed⟩
              · dsimp only
                split_ifs <;> rfl

/-! ## §6. All turns. -/

/-- **What a turn does with a current connection**: a move and its final call,
or the intake of received bytes and then a move on the plaintext. -/
theorem handleTurn_cases (h : t.Current c) (event : TurnEvent) :
    (∃ next c₁ acts, Move env event c next c₁ acts
      ∧ Settles env t next c₁ acts (handleTurn env event t))
    ∨ ∃ result bufferId contents, event = .read result bufferId contents ∧ 0 < result
      ∧ ∃ next c₁ plaintext acts t₁,
        Intake env ((List.range result.toNat).map contents) c.markReadCompleted
          next c₁ plaintext acts
        ∧ t.Moved t₁ (some c₁) acts
        ∧ handleTurn env event t = (next.run env t₁ >>= receivePlaintext env plaintext) := by
  cases event with
  | accepted =>
      exact .inl ⟨_, _, _, .accepted,
        settles_recv ⟨rfl, h.connection, (List.append_nil _).symm, rfl⟩⟩
  | read result bufferId contents =>
      rcases handleReadCompletion_cases h result bufferId contents with hmove | ⟨hpos, hintake⟩
      · exact .inl hmove
      · exact .inr ⟨result, bufferId, contents, rfl, hpos, hintake⟩
  | write submitted result =>
      obtain ⟨next, c₁, acts, hmove, hsettles⟩ := handleWriteCompletion_settles h submitted result
      exact .inl ⟨_, _, _, .write hmove, hsettles⟩
  | proxyConnect result => exact .inl (handleProxyConnect_settles h result)
  | proxyWrite submitted result => exact .inl (handleProxyWrite_settles h submitted result)
  | proxyRead result bufferId contents =>
      exact .inl (handleProxyRead_settles h result bufferId contents)
  | resolved addresses => exact .inl (finishResolution_settles h addresses)
  | expired phase operationPending => exact .inl (expireProxy_settles h phase operationPending)
  | handshakeExpired =>
      refine .inl ⟨_, _, _, .handshakeExpired, ?_⟩
      show Settles env t .done none _ (expireHandshake t)
      unfold expireHandshake
      rw [h.connection]
      exact settles_done ⟨rfl, rfl, rfl, rfl⟩
  | pump =>
      rcases advanceStaticStream_settles h with
        ⟨hnone, hsettles⟩ | ⟨hsome, next, c₁, acts, hmove, hsettles⟩
      · exact .inl ⟨_, _, _, .pumpMissing hnone, hsettles⟩
      · exact .inl ⟨_, _, _, .pump hsome hmove, hsettles⟩

/-- The events that can reach a slot whose connection is gone or replaced. -/
def TurnEvent.mayBeStale : TurnEvent → Bool
  | .read .. | .write .. | .proxyConnect _ | .proxyWrite .. | .proxyRead .. | .resolved _ => true
  | _ => false

/-- The slot is vacant, or its connection has another generation. -/
def Turn.Stale (t : Turn σ) : Prop := ∀ c, t.connection = some c → c.generation ≠ t.id.generation

/-- A stale event finds no proxy. -/
theorem Turn.Stale.currentProxy (h : t.Stale) : t.currentProxy = none := by
  unfold Turn.currentProxy
  cases hc : t.connection with
  | none => rfl
  | some c => simp [UringConnection.matchesGeneration, h c hc]

/-- Giving back the buffer leaves a stale event stale. -/
theorem Turn.Stale.moved {t₁ : Turn σ} (h : t.Stale) (hmoved : t.Moved t₁ t.connection []) :
    t₁.Stale := by
  intro c hc
  rw [hmoved.connection] at hc
  rw [hmoved.id]
  exact h c hc

/-- **A stale event leaves the slot alone**; at worst it ends the run with an
I/O error. -/
theorem handleTurn_stale (env : Env σ) (h : t.Stale) {event : TurnEvent}
    (hevent : event.mayBeStale = true) :
    (∃ message, handleTurn env event t = .error (.io message))
    ∨ ∃ t₁, handleTurn env event t = .ok t₁ ∧ t.Moved t₁ t.connection [] := by
  have hself : t.Moved t t.connection [] := ⟨rfl, rfl, (List.append_nil _).symm, rfl⟩
  have hmismatch : ∀ {c : UringConnection σ}, t.connection = some c →
      (!c.matchesGeneration t.id.generation) = true := by
    intro c hc
    simp [UringConnection.matchesGeneration, h c hc]
  cases event with
  | accepted => cases hevent
  | expired => cases hevent
  | handshakeExpired => cases hevent
  | pump => cases hevent
  | write submitted result =>
      refine .inr ⟨t, ?_, hself⟩
      show handleWriteCompletion env submitted result t = .ok t
      unfold handleWriteCompletion
      cases hc : t.connection with
      | none => rfl
      | some c =>
          dsimp only
          rw [if_pos (hmismatch hc)]
  | proxyConnect result =>
      refine .inr ⟨t, ?_, hself⟩
      show handleProxyConnect env result t = .ok t
      unfold handleProxyConnect
      rw [h.currentProxy]
  | proxyWrite submitted result =>
      refine .inr ⟨t, ?_, hself⟩
      show handleProxyWrite env submitted result t = .ok t
      unfold handleProxyWrite
      rw [h.currentProxy]
  | resolved addresses =>
      refine .inr ⟨t, ?_, hself⟩
      show finishResolution env addresses t = .ok t
      unfold finishResolution
      cases hc : t.connection with
      | none => rfl
      | some c =>
          dsimp only
          cases c.proxy with
          | none => rfl
          | some proxy =>
              dsimp only
              rw [if_pos (by rw [hmismatch hc, Bool.true_or])]
  | read result bufferId contents =>
      show (∃ message, handleReadCompletion env result bufferId contents t = .error (.io message))
        ∨ ∃ t₁, handleReadCompletion env result bufferId contents t = .ok t₁ ∧ _
      unfold handleReadCompletion
      rcases takeReceived_cases t "receive completed without a selected buffer".toList
        result bufferId contents with ⟨message, htake⟩ | ⟨bytes, t₁, htake, hmoved, -⟩
      · rw [htake]
        exact .inl ⟨message, rfl⟩
      · rw [htake]
        refine .inr ⟨t₁, ?_, hmoved⟩
        simp only [bind, Except.bind]
        cases hc : t₁.connection with
        | none => rfl
        | some c =>
            dsimp only
            rw [if_pos (by simp [UringConnection.matchesGeneration, h.moved hmoved c hc])]
  | proxyRead result bufferId contents =>
      show (∃ message, handleProxyRead env result bufferId contents t = .error (.io message))
        ∨ ∃ t₁, handleProxyRead env result bufferId contents t = .ok t₁ ∧ _
      unfold handleProxyRead
      rcases takeReceived_cases t "upstream receive completed without a selected buffer".toList
        result bufferId contents with ⟨message, htake⟩ | ⟨bytes, t₁, htake, hmoved, -⟩
      · rw [htake]
        exact .inl ⟨message, rfl⟩
      · rw [htake]
        refine .inr ⟨t₁, ?_, hmoved⟩
        simp only [bind, Except.bind]
        rw [(h.moved hmoved).currentProxy]

end Thwip.IoUring
