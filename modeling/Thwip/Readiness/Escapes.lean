/-
  Thwip.Readiness.Escapes — what one connection's failure does to the worker.

  A failure is answered, or removes the connection it is for, and nothing else changes;
  unless the handler meets one of the calls of `Escapes`, whose errors end `run`.  No other
  error does.
-/
import Thwip.Readiness.Isolation
import Thwip.Readiness.Phases
import Thwip.Readiness.Tokens

namespace Thwip.Readiness

open Thwip.Lib

variable {σ : Type} {cfg : Config σ} {env : Env σ} {event : TurnEvent} {t t₁ t' : Turn σ}
  {c : Connection σ} {w w' w₁ : ReadinessWorker σ}

/-! ## §1. The errors that are passed on. -/

/-- The call returns an error to `run`. -/
def PassedOn {α : Type} (x : Except Exit α) : Prop := ∃ message, x = .error (.io message)

theorem mustReregister_passedOn (htoken : t.id.Tokened)
    (hrefused : env.registrationFails t.log.length = true) (interest : Interest) :
    PassedOn (t.mustReregister env interest) := by
  refine ⟨none, ?_⟩
  unfold Turn.mustReregister
  simp only [reregister_eq htoken, bind, Except.bind]
  rw [if_pos hrefused]
  rfl

theorem advanceStaticStream_passedOn (h : t.Current c) (htoken : t.id.Tokened)
    (hrefused : c.chunkRefused env t.log.length = true) :
    PassedOn (advanceStaticStream env t) := by
  unfold Connection.chunkRefused at hrefused
  obtain ⟨stream, hstream, hrefused⟩ := (Option.any_eq_true _ _).mp hrefused
  unfold advanceStaticStream
  rw [h.connection]
  simp only [h.isCurrent, Bool.not_true, Bool.false_eq_true, if_false, hstream]
  cases hnext : stream.tryNext env.arrived with
  | mk next rest =>
      rw [hnext] at hrefused
      have hput : ∀ c' : Connection σ, (t.put c').id.Tokened := fun _ => htoken
      cases next with
      | none => cases hrefused
      | some chunk =>
          cases chunk with
          | data bytes =>
              have hnoted : ∀ c' : Connection σ,
                  env.registrationFails ((t.put c').note [.chunk bytes]).log.length = true := by
                intro c'
                show env.registrationFails (t.log ++ [_]).length = true
                rw [List.length_append]
                exact hrefused
              have hid : ∀ c' : Connection σ, ((t.put c').note [.chunk bytes]).id.Tokened :=
                fun _ => htoken
              exact mustReregister_passedOn (hid _) (hnoted _) .write
          | pending => exact mustReregister_passedOn (hput _) hrefused .read
          | finished => cases hrefused

theorem Connection.chunkRefused_stream {noted : Nat} (h : c.chunkRefused env noted = true) :
    c.staticStream.isSome = true := by
  unfold Connection.chunkRefused at h
  obtain ⟨stream, hstream, -⟩ := (Option.any_eq_true _ _).mp h
  rw [hstream]
  rfl

/-- A write pass that delivers the response, or this chunk of it. -/
theorem writeReady_delivers (h : t.Current c)
    (hasks : c.asksForChunk env (writeLoop env.tls env.now maxWritesPerEvent c env.writes) = true) :
    let pass := writeLoop env.tls env.now maxWritesPerEvent c env.writes
    ∃ t₁, Grows t t₁ ∧ t₁.Current pass.connection
      ∧ t₁.log.length = t.log.length + pass.acts.length + 1
      ∧ writeReady env t = finishWrite env pass.connection t₁ := by
  obtain ⟨hgrows, hcur⟩ := writePass_grows env h
  simp only [Connection.asksForChunk, Bool.and_eq_true, Bool.not_eq_true', beq_iff_eq] at hasks
  obtain ⟨⟨⟨hleft, hending⟩, hfinished⟩, hphase⟩ := hasks
  unfold writeReady
  rw [h.connection, h.isCurrent]
  simp only [Bool.not_true, Bool.false_eq_true, if_false]
  rw [if_neg (by simpa using hleft)]
  generalize writeLoop env.tls env.now maxWritesPerEvent c env.writes = pass at *
  generalize ht₁ : ((t.wroteBytes pass.bytesWritten).put pass.connection).note
    (pass.acts.map Act.write) = t₁ at hgrows hcur ⊢
  have hlog : t₁.log.length = t.log.length + pass.acts.length := by
    rw [← ht₁]
    show (t.log ++ _).length = _
    rw [List.length_append, List.length_map]
  have hflushed : Grows t₁ (t₁.note [.flushed]) :=
    ⟨rfl, fun c' hc' => ⟨c', hc', rfl⟩, List.prefix_append _ _⟩
  refine ⟨t₁.note [.flushed], hgrows.trans hflushed, ⟨hcur.connection, hcur.generation⟩, ?_, ?_⟩
  · show (t₁.log ++ [_]).length = _
    rw [List.length_append, hlog]
    rfl
  · rw [hending]
    dsimp only
    rw [if_pos hfinished, if_pos hphase]

theorem writeReady_passedOn (h : t.Current c) (htoken : t.id.Tokened) (due : Bool)
    (hescapes : Escapes env t c (.writeReady due) = true) : PassedOn (writeReady env t) := by
  unfold Escapes at hescapes
  rw [Bool.and_eq_true] at hescapes
  obtain ⟨hasks, hrefused⟩ := hescapes
  obtain ⟨t₁, hgrows, hcur, hlog, hrun⟩ := writeReady_delivers h hasks
  rw [hrun]
  unfold finishWrite
  rw [if_pos (Connection.chunkRefused_stream hrefused)]
  refine advanceStaticStream_passedOn hcur (by rw [hgrows.id]; exact htoken) ?_
  rw [hlog]
  exact hrefused

theorem tokenless_error {id : ConnectionId} (h : id.tokenless = true) :
    ∃ message, id.token usizeBits .upstream = .error message := by
  unfold ConnectionId.tokenless at h
  cases htoken : id.token usizeBits .upstream with
  | error message => exact ⟨message, rfl⟩
  | ok token =>
      rw [htoken] at h
      cases h

theorem forwardRequest_passedOn (proxy : ProxyState)
    (hescapes : (proxy.finishes env && t.id.tokenless) = true) :
    PassedOn (forwardRequest env c proxy t) := by
  rw [Bool.and_eq_true] at hescapes
  obtain ⟨hfinishes, htokenless⟩ := hescapes
  obtain ⟨message, hmessage⟩ := tokenless_error htokenless
  unfold ProxyState.finishes at hfinishes
  refine ⟨some message, ?_⟩
  unfold forwardRequest
  rw [beq_iff_eq] at hfinishes
  simp only [hfinishes]
  have hid : ∀ c₁ c₂ : Connection σ, ∀ acts : List Act,
      (((t.put c₁).note acts).put c₂).id.token usizeBits .upstream = .error message :=
    fun _ _ _ => hmessage
  rw [hid]

theorem writeUpstreamRequest_passedOn (h : t.Current c) (due : Bool)
    (hescapes : Escapes env t c (.writeUpstream due) = true) :
    PassedOn (writeUpstreamRequest env t) := by
  unfold Escapes at hescapes
  obtain ⟨proxy, hproxy, hescapes⟩ := (Option.any_eq_true _ _).mp hescapes
  unfold writeUpstreamRequest
  rw [h.connection]
  simp only [h.isCurrent, Bool.not_true, Bool.false_eq_true, if_false, hproxy]
  cases hphase : proxy.phase with
  | readingResponse =>
      rw [hphase] at hescapes
      cases hescapes
  | writingRequest =>
      rw [hphase] at hescapes
      exact forwardRequest_passedOn proxy hescapes
  | connecting =>
      rw [hphase] at hescapes
      cases htake : env.takeError with
      | none => exact ⟨none, rfl⟩
      | some reported =>
          rw [htake] at hescapes
          cases reported with
          | true => cases hescapes
          | false => exact forwardRequest_passedOn _ hescapes

theorem finishResolution_passedOn (h : t.Current c) {addresses : Option (List SocketAddr)}
    (hescapes : Escapes env t c (.resolved addresses) = true) :
    PassedOn (finishResolution env addresses t) := by
  match addresses with
  | none => cases hescapes
  | some [] => cases hescapes
  | some (address :: rest) =>
      simp only [Escapes, Bool.and_eq_true, Bool.not_eq_true'] at hescapes
      obtain ⟨⟨hresolving, hconnect⟩, htokenless⟩ := hescapes
      obtain ⟨message, hmessage⟩ := tokenless_error htokenless
      obtain ⟨resolution, hphase⟩ := Connection.isResolving_iff.mp hresolving
      refine ⟨some message, ?_⟩
      unfold finishResolution
      rw [h.connection]
      simp only [h.isCurrent, hresolving, Bool.not_true, Bool.or_self, Bool.false_eq_true,
        if_false, hconnect]
      have hid : (t.put c.beginResponse).id.token usizeBits .upstream = .error message := hmessage
      rw [Connection.resolution_eq_some.mpr hphase, hid]

/-- **The three calls end the worker.** -/
theorem handleTurn_passedOn (h : t.Current c) (htoken : t.id.Tokened)
    (hescapes : Escapes env t c event = true) : PassedOn (handleTurn env event t) := by
  cases event with
  | pump => exact advanceStaticStream_passedOn h htoken hescapes
  | writeReady due =>
      have hcur : ({ t with writeScheduled := t.writeScheduled && !due } : Turn σ).Current c :=
        ⟨h.connection, h.generation⟩
      exact writeReady_passedOn hcur htoken due hescapes
  | writeUpstream due =>
      have hcur : ({ t with
          upstreamWriteScheduled := t.upstreamWriteScheduled && !due } : Turn σ).Current c :=
        ⟨h.connection, h.generation⟩
      exact writeUpstreamRequest_passedOn hcur due hescapes
  | resolved addresses => exact finishResolution_passedOn h hescapes
  | _ => cases hescapes

/-! ## §2. What can fail for one connection. -/

/-- The action configured for a request on a listener. -/
def Env.action (env : Env σ) (listenerGroup : Nat) (request : RequestHead) : Option Action :=
  (env.listeners[listenerGroup]?).bind (fun listener =>
    (env.servers[selectServer listener.serverIndices listener.defaultServer request
      env.servers]?).bind (fun server => route server request.target))

/-- This read pass ends with a request, for which this action is configured. -/
def Connection.Requests (env : Env σ) (self : Connection σ) (request : RequestHead)
    (action : Action) : Prop :=
  self.isHandlingRequest = false
    ∧ (∃ body, (connectionReady env.tls.toRustls env.limits env.now self
        env.reads).verdicts.getLast? = some (.dispatch request body))
    ∧ env.action self.listenerGroup request = some action

/-- The exchange whose request is written on in this turn. -/
def Connection.forwards (env : Env σ) (self : Connection σ) : Option ProxyState :=
  self.proxy.bind (fun proxy =>
    match proxy.phase with
    | .readingResponse => none
    | .writingRequest => some proxy
    | .connecting =>
        if env.takeError = some false then some (proxy.transition env.now .writingRequest)
        else none)

/-- Something fails in this turn, for the connection it finds. -/
inductive Fails (env : Env σ) (t : Turn σ) (c : Connection σ) : TurnEvent → Prop where
  /-- The client's socket or session, under a read: or it ends. -/
  | read (hclosed :
      (connectionReady env.tls.toRustls env.limits env.now c env.reads).closed = true) :
      Fails env t c .connectionReady
  /-- The same under a write. -/
  | write (due : Bool) (hleft : (c.ssl.isSome && c.writeFinished env.tls.toRustls) = false)
      (hending : (writeLoop env.tls env.now maxWritesPerEvent c env.writes).ending = .failed
        ∨ (writeLoop env.tls env.now maxWritesPerEvent c env.writes).ending = .refused) :
      Fails env t c (.writeReady due)
  | socketError : Fails env t c .clientError
  /-- The file stream, in `pump_static_streams`. -/
  | stream {stream : StaticStream} (hstream : c.staticStream = some stream)
      (hnext : (stream.tryNext env.arrived).1 = none) : Fails env t c .pump
  /-- The file stream, once a chunk is written. -/
  | nextChunk (due : Bool)
      (hasks : c.asksForChunk env (writeLoop env.tls env.now maxWritesPerEvent c env.writes) = true)
      {stream : StaticStream} (hstream : c.staticStream = some stream)
      (hnext : (stream.tryNext env.arrived).1 = none) : Fails env t c (.writeReady due)
  /-- The file cannot be served. -/
  | file {request : RequestHead} {directory : Str}
      (hrequests : c.Requests env request (.static directory)) {error : StaticError}
      (herror : env.staticStreamResponse directory request = .error error) :
      Fails env t c .connectionReady
  /-- No upstream can be picked. -/
  | upstreamConfig {request : RequestHead} {upstream upstreamGroup : Option Str}
      {upstreams : List UpstreamEndpoint} {policy : BalancePolicy}
      (hrequests : c.Requests env request (.proxy upstream upstreamGroup upstreams policy))
      {error : BalanceError} {balancer : UpstreamBalancer}
      (hselect : t.balancer.select (.proxy upstream upstreamGroup upstreams policy)
        = some (.error error, balancer)) : Fails env t c .connectionReady
  /-- The upstream that is picked is invalid. -/
  | upstreamUrl {request : RequestHead} {upstream upstreamGroup : Option Str}
      {upstreams : List UpstreamEndpoint} {policy : BalancePolicy}
      (hrequests : c.Requests env request (.proxy upstream upstreamGroup upstreams policy))
      {url : Str} {balancer : UpstreamBalancer} {error : UpstreamError}
      (hselect : t.balancer.select (.proxy upstream upstreamGroup upstreams policy)
        = some (.ok url, balancer))
      (hparse : Upstream.parse url = .error error) : Fails env t c .connectionReady
  | lookup (hresolving : c.isResolving = true) {addresses : Option (List SocketAddr)}
      (hnone : addresses = none ∨ addresses = some []) : Fails env t c (.resolved addresses)
  | lookupExpired (hresolving : c.isResolving = true) : Fails env t c .resolutionExpired
  | connect (hresolving : c.isResolving = true) {address : SocketAddr} (rest : List SocketAddr)
      (hconnect : env.connectFails address = true) :
      Fails env t c (.resolved (some (address :: rest)))
  /-- `take_error` reports an error, or fails. -/
  | takeError (due : Bool) {proxy : ProxyState} (hproxy : c.proxy = some proxy)
      (hphase : proxy.phase = .connecting) (htake : env.takeError ≠ some false) :
      Fails env t c (.writeUpstream due)
  | upstreamWrite (due : Bool) {proxy : ProxyState} (hforwards : c.forwards env = some proxy)
      (hending :
        (forwardLoop env.now maxWritesPerEvent proxy env.upstreamWrites).ending = .failed) :
      Fails env t c (.writeUpstream due)
  | upstreamRead (due : Bool) {proxy : ProxyState} (hproxy : c.proxy = some proxy)
      (hphase : proxy.phase = .readingResponse) (hempty : c.writeBuffer.isEmpty = true)
      (hread : firstRead env.upstreamReads = .failed) : Fails env t c (.readUpstream due)
  | upstreamError : Fails env t c .upstreamError
  | exchangeExpired (phase : ProxyPhase) : Fails env t c (.proxyExpired phase)
  /-- The poller refuses a registration, and it makes a difference. -/
  | registration (event : TurnEvent)
      (hdiffers : handleTurn env event t ≠ handleTurn env.registering event t) :
      Fails env t c event

/-! ## §3. A failure is answered. -/

/-- An answer before the connection may be closed. -/
theorem Replies.answered {pass : ReadPass σ} {x : Except Exit (Bool × Turn σ)} (h : t.Current c)
    (htoken : t.id.Tokened) (hx : Replies t x (.error .returned)) :
    Answered t (x >>= afterAnswer env pass) := by
  have hafter : Unbalanced (x >>= afterAnswer env pass)
        (.error .returned >>= afterAnswer env.registering pass)
      ∨ Stays t (x >>= afterAnswer env pass)
        (.error .returned >>= afterAnswer env.registering pass) :=
    afterAnswer_stays h htoken hx
  rcases hafter with ⟨-, hpanic⟩ | ⟨t', hrun, hgrows, hsettles⟩
  · cases hpanic
  · rcases hsettles with hsettled | hreturned
    · exact ⟨t', hrun, hgrows, hsettled⟩
    · cases hreturned

/-- A client that has gone is closed. -/
theorem closed_answered (h : t.Current c) (hclosed :
      (connectionReady env.tls.toRustls env.limits env.now c env.reads).closed = true) :
    Answered t (handleConnectionReady env t) := by
  generalize hpass : connectionReady env.tls.toRustls env.limits env.now c env.reads = pass
    at hclosed
  by_cases hhandling : c.isHandlingRequest = true
  · obtain ⟨hrun, hgrows, hcur⟩ := handleConnectionReady_discards env h hhandling hpass.symm
    rw [hrun]
    unfold clientDuringProxyReady
    dsimp only
    rw [if_pos hclosed]
    exact (answered_removed hcur _).after hgrows
  · have hfalse : c.isHandlingRequest = false := by simpa using hhandling
    rw [handleConnectionReady_eq h hfalse hpass.symm]
    obtain ⟨hgrows, hcur⟩ := readPass_grows h hfalse hpass.symm
    -- a pass that closes has not come to a decision
    have hverdicts : ∀ verdict ∈ pass.verdicts, verdict = .keepWaiting := by
      unfold connectionReady at hpass
      rw [if_neg hhandling] at hpass
      rcases readLoop_verdicts env.tls.toRustls env.limits env.now maxReadsPerEvent c env.reads with
        hwaits | ⟨hopen, -⟩
      · exact hpass ▸ hwaits
      · rw [hpass, hclosed] at hopen
        cases hopen
    have hverdict : answerVerdict env pass.connection.listenerGroup pass.verdicts.getLast?
        (t.received pass) = .ok (true, t.received pass) := by
      rcases hlast : pass.verdicts.getLast? with _ | verdict
      · rfl
      · rw [hverdicts verdict (List.mem_of_getLast? hlast)]
        rfl
    have hremoved : Answered (t.received pass)
        (.ok (removeConnection env pass.closeSite (t.received pass))) := answered_removed hcur _
    obtain ⟨t', hrun, hgrows', hsettled⟩ := hremoved
    injection hrun with hrun
    subst hrun
    have hgone : (removeConnection env pass.closeSite (t.received pass)).connection = none :=
      hcur.removed env _
    refine ⟨removeConnection env pass.closeSite (t.received pass), ?_, hgrows.trans hgrows',
      .inl hgone⟩
    rw [hverdict]
    show flushHandshake env (if pass.closed then _ else _) = _
    rw [if_pos hclosed]
    unfold flushHandshake
    rw [hgone]

/-- A client that cannot be written to is closed. -/
theorem writeFailed_answered (h : t.Current c)
    (hleft : (c.ssl.isSome && c.writeFinished env.tls.toRustls) = false)
    (hending : (writeLoop env.tls env.now maxWritesPerEvent c env.writes).ending = .failed
      ∨ (writeLoop env.tls env.now maxWritesPerEvent c env.writes).ending = .refused) :
    Answered t (writeReady env t) := by
  obtain ⟨hgrows, hcur⟩ := writePass_grows env h
  unfold writeReady
  rw [h.connection, h.isCurrent]
  simp only [Bool.not_true, Bool.false_eq_true, if_false]
  rw [if_neg (by rw [hleft]; exact Bool.false_ne_true)]
  generalize writeLoop env.tls env.now maxWritesPerEvent c env.writes = pass at *
  rcases hending with hending | hending
  · rw [hending]
    exact (answered_removed hcur .writeFailed).after hgrows
  · rw [hending]
    exact (answered_removed hcur .writerRefused).after hgrows

/-- A file that cannot be read on closes its connection. -/
theorem streamFailed_answered (h : t.Current c) {stream : StaticStream}
    (hstream : c.staticStream = some stream) (hnext : (stream.tryNext env.arrived).1 = none) :
    Answered t (advanceStaticStream env t) := by
  unfold advanceStaticStream
  rw [h.connection]
  simp only [h.isCurrent, Bool.not_true, Bool.false_eq_true, if_false, hstream]
  have hpair : stream.tryNext env.arrived = (none, (stream.tryNext env.arrived).2) :=
    Prod.ext hnext rfl
  rw [hpair]
  have hcur : t.countError.Current c := ⟨h.connection, h.generation⟩
  have hgrows : Grows t t.countError := grows_same rfl rfl rfl
  exact (answered_removed hcur .streamFailed).after hgrows

theorem nextChunk_answered (h : t.Current c)
    (hasks : c.asksForChunk env (writeLoop env.tls env.now maxWritesPerEvent c env.writes) = true)
    {stream : StaticStream} (hstream : c.staticStream = some stream)
    (hnext : (stream.tryNext env.arrived).1 = none) : Answered t (writeReady env t) := by
  obtain ⟨t₁, hgrows, hcur, -, hrun⟩ := writeReady_delivers h hasks
  have hstream' := (writeLoop_writesOnly env c).staticStream.trans hstream
  rw [hrun]
  unfold finishWrite
  rw [if_pos (by rw [hstream']; rfl)]
  exact (streamFailed_answered hcur hstream' hnext).after hgrows

/-- A request that gets no response of its own gets an error page. -/
theorem requested_answered (h : t.Current c) (htoken : t.id.Tokened) {request : RequestHead}
    {action : Action} (hrequests : c.Requests env request action)
    (hreplies : ∀ (body : List UInt8) (group : Nat) (t₁ : Turn σ) (c₁ : Connection σ),
      t₁.Current c₁ → t₁.id = t.id → t₁.balancer = t.balancer →
      env.action group request = some action →
      Replies t₁ (answerRequest env group request body t₁) (.error .returned)) :
    Answered t (handleConnectionReady env t) := by
  obtain ⟨hhandling, ⟨body, hlast⟩, haction⟩ := hrequests
  have hreads := connectionReady_readsOnly env.tls.toRustls env.limits env.now hhandling env.reads
  generalize hpass : connectionReady env.tls.toRustls env.limits env.now c env.reads = pass
    at hlast hreads
  rw [handleConnectionReady_eq h hhandling hpass.symm, hlast]
  obtain ⟨hgrows, hcur⟩ := readPass_grows h hhandling hpass.symm
  have hcounted : Grows t (t.received pass).countRequest := hgrows.trans (grows_same rfl rfl rfl)
  have hcur' : (t.received pass).countRequest.Current pass.connection :=
    ⟨hcur.connection, hcur.generation⟩
  refine Replies.answered h htoken (Replies.after ?_ hcounted)
  refine hreplies body _ _ _ hcur' rfl rfl ?_
  rw [hreads.listenerGroup]
  exact haction

theorem Env.action_some {group : Nat} {request : RequestHead} {action : Action}
    (h : env.action group request = some action) :
    ∃ listener server, env.listeners[group]? = some listener
      ∧ env.servers[selectServer listener.serverIndices listener.defaultServer request
        env.servers]? = some server
      ∧ route server request.target = some action := by
  unfold Env.action at h
  obtain ⟨listener, hlistener, h⟩ := Option.bind_eq_some_iff.mp h
  obtain ⟨server, hserver, h⟩ := Option.bind_eq_some_iff.mp h
  exact ⟨listener, server, hlistener, hserver, h⟩

theorem file_answered (h : t.Current c) (htoken : t.id.Tokened) {request : RequestHead}
    {directory : Str} (hrequests : c.Requests env request (.static directory))
    {error : StaticError} (herror : env.staticStreamResponse directory request = .error error) :
    Answered t (handleConnectionReady env t) := by
  refine requested_answered h htoken hrequests ?_
  intro body group t₁ c₁ hcur hid _ haction
  obtain ⟨listener, server, hlistener, hserver, hroute⟩ := Env.action_some haction
  unfold answerRequest
  rw [hlistener]
  dsimp only
  rw [hserver]
  dsimp only
  rw [hroute]
  dsimp only
  rw [herror]
  exact replies_answered (queueResponse_answered hcur (by rw [hid]; exact htoken) _) true

/-- No upstream, or an invalid one, is a gateway error. -/
theorem upstream_answered (h : t.Current c) (htoken : t.id.Tokened) {request : RequestHead}
    {upstream upstreamGroup : Option Str} {upstreams : List UpstreamEndpoint}
    {policy : BalancePolicy}
    (hrequests : c.Requests env request (.proxy upstream upstreamGroup upstreams policy))
    {picked : Except BalanceError Str} {balancer : UpstreamBalancer}
    (hselect : t.balancer.select (.proxy upstream upstreamGroup upstreams policy)
      = some (picked, balancer))
    (hbad : ∀ url, picked = .ok url → ∃ error, Upstream.parse url = .error error) :
    Answered t (handleConnectionReady env t) := by
  refine requested_answered h htoken hrequests ?_
  intro body group t₁ c₁ hcur hid hbalancer haction
  obtain ⟨listener, server, hlistener, hserver, hroute⟩ := Env.action_some haction
  unfold answerRequest
  rw [hlistener]
  dsimp only
  rw [hserver]
  dsimp only
  rw [hroute]
  dsimp only
  rw [show (t₁.note [.proxied]).balancer.select _ = _ from hbalancer ▸ hselect]
  have hgrows : Grows t₁ { t₁.note [.proxied] with balancer } :=
    ⟨rfl, fun c' hc' => ⟨c', hc', rfl⟩, List.prefix_append _ _⟩
  have hcur' : ({ t₁.note [.proxied] with balancer } : Turn σ).Current c₁ :=
    ⟨hcur.connection, hcur.generation⟩
  have htoken' : ({ t₁.note [.proxied] with balancer } : Turn σ).id.Tokened := by
    show t₁.id.Tokened
    rw [hid]
    exact htoken
  refine Replies.after ?_ hgrows
  cases picked with
  | error error => exact replies_answered (queueResponse_answered hcur' htoken' _) false
  | ok url =>
      obtain ⟨error, hparse⟩ := hbad url rfl
      have hstart : startProxy env url request body { t₁.note [.proxied] with balancer }
          = .ok (false, { t₁.note [.proxied] with balancer }) := by
        unfold startProxy
        rw [hparse]
      simp only [hstart, bind, Except.bind]
      exact replies_answered (queueResponse_answered hcur' htoken' _) true

theorem lookup_answered (h : t.Current c) (htoken : t.id.Tokened)
    (hresolving : c.isResolving = true) {addresses : Option (List SocketAddr)}
    (hnone : addresses = none ∨ addresses = some []) :
    Answered t (finishResolution env addresses t) := by
  unfold finishResolution
  rw [h.connection]
  simp only [h.isCurrent, hresolving, Bool.not_true, Bool.or_self, Bool.false_eq_true, if_false]
  rcases hnone with rfl | rfl
  · exact failResolution_answered h htoken hresolving _ _
  · exact failResolution_answered h htoken hresolving _ _

theorem connect_answered (h : t.Current c) (htoken : t.id.Tokened)
    (hresolving : c.isResolving = true) {address : SocketAddr} (rest : List SocketAddr)
    (hconnect : env.connectFails address = true) :
    Answered t (finishResolution env (some (address :: rest)) t) := by
  obtain ⟨resolution, hphase⟩ := Connection.isResolving_iff.mp hresolving
  unfold finishResolution
  rw [h.connection]
  simp only [h.isCurrent, hresolving, Bool.not_true, Bool.or_self, Bool.false_eq_true, if_false,
    Connection.resolution_eq_some.mpr hphase, hconnect, if_true]
  have hgrows : Grows t (t.put c.beginResponse) := grows_put_only h.connection (by rfl)
  have hcur : (t.put c.beginResponse).Current c.beginResponse := ⟨rfl, h.generation⟩
  exact (queueResponse_answered hcur htoken _).after hgrows

theorem forwardFailed_answered (h : t.Current c) (htoken : t.id.Tokened) {proxy : ProxyState}
    (hending : (forwardLoop env.now maxWritesPerEvent proxy env.upstreamWrites).ending = .failed) :
    Answered t (forwardRequest env c proxy t) := by
  unfold forwardRequest
  generalize forwardLoop env.now maxWritesPerEvent proxy env.upstreamWrites = pass at hending ⊢
  dsimp only
  rw [hending]
  obtain ⟨hgrows, hcur⟩ := forwarded_grows h env.now pass
  exact (failProxy_answered hcur htoken _ _).after hgrows

/-- The writes go on with `forwards`. -/
theorem writeUpstreamRequest_forwards (h : t.Current c) {proxy : ProxyState}
    (hforwards : c.forwards env = some proxy) :
    writeUpstreamRequest env t = forwardRequest env c proxy t := by
  unfold Connection.forwards at hforwards
  obtain ⟨proxy', hproxy, hforwards⟩ := Option.bind_eq_some_iff.mp hforwards
  unfold writeUpstreamRequest
  rw [h.connection]
  simp only [h.isCurrent, Bool.not_true, Bool.false_eq_true, if_false, hproxy]
  cases hphase : proxy'.phase with
  | readingResponse =>
      rw [hphase] at hforwards
      cases hforwards
  | writingRequest =>
      rw [hphase] at hforwards
      injection hforwards with hforwards
      rw [hforwards]
  | connecting =>
      rw [hphase] at hforwards
      dsimp only at hforwards
      split_ifs at hforwards with htake
      injection hforwards with hforwards
      rw [htake, ← hforwards]

theorem takeError_answered (h : t.Current c) (htoken : t.id.Tokened) {proxy : ProxyState}
    (hproxy : c.proxy = some proxy) (hphase : proxy.phase = .connecting)
    (htake : env.takeError = some true) : Answered t (writeUpstreamRequest env t) := by
  unfold writeUpstreamRequest
  rw [h.connection]
  simp only [h.isCurrent, Bool.not_true, Bool.false_eq_true, if_false, hproxy, hphase, htake]
  exact failProxy_answered h htoken _ _

theorem upstreamRead_answered (h : t.Current c) (htoken : t.id.Tokened) {proxy : ProxyState}
    (hproxy : c.proxy = some proxy) (hphase : proxy.phase = .readingResponse)
    (hempty : c.writeBuffer.isEmpty = true) (hread : firstRead env.upstreamReads = .failed) :
    Answered t (readUpstreamResponse env t) := by
  unfold readUpstreamResponse
  rw [h.connection]
  simp only [h.isCurrent, hempty, Bool.not_true, Bool.or_self, Bool.false_eq_true, if_false, hproxy]
  rw [if_neg (not_not_intro hphase), hread]
  exact failProxy_answered h htoken _ _

/-- **Every failure is answered, or ends the connection it is for**, if the handler does not
pass it on. -/
theorem Fails.answered (hfails : Fails env t c event) (h : t.Current c)
    (hstart : Starts event t.toSeat c) (htoken : t.id.Tokened)
    (hgroup : c.listenerGroup < env.listeners.length) (hfree : Escapes env t c event = false) :
    Answered t (handleTurn env event t) := by
  cases hfails with
  | read hclosed => exact closed_answered h hclosed
  | file hrequests herror => exact file_answered h htoken hrequests herror
  | upstreamConfig hrequests hselect =>
      refine upstream_answered h htoken hrequests hselect ?_
      intro url hurl
      cases hurl
  | upstreamUrl hrequests hselect hparse =>
      refine upstream_answered h htoken hrequests hselect ?_
      intro url hurl
      injection hurl with hurl
      exact ⟨_, hurl ▸ hparse⟩
  | write due hleft hending =>
      have hcur : ({ t with writeScheduled := t.writeScheduled && !due } : Turn σ).Current c :=
        ⟨h.connection, h.generation⟩
      exact (writeFailed_answered hcur hleft hending).after (grows_same rfl rfl rfl)
  | nextChunk due hasks hstream hnext =>
      have hcur : ({ t with writeScheduled := t.writeScheduled && !due } : Turn σ).Current c :=
        ⟨h.connection, h.generation⟩
      exact (nextChunk_answered hcur hasks hstream hnext).after (grows_same rfl rfl rfl)
  | socketError =>
      have hcur : t.countError.Current c := ⟨h.connection, h.generation⟩
      have hgrows : Grows t t.countError := grows_same rfl rfl rfl
      show Answered t (.ok (clientError env t))
      unfold clientError
      rw [h.isCurrent, if_pos rfl]
      exact (answered_removed hcur .clientError).after hgrows
  | stream hstream hnext => exact streamFailed_answered h hstream hnext
  | lookup hresolving hnone => exact lookup_answered h htoken hresolving hnone
  | lookupExpired hresolving => exact failResolution_answered h htoken hresolving _ _
  | connect hresolving rest hconnect => exact connect_answered h htoken hresolving rest hconnect
  | takeError due hproxy hphase htake =>
      have hcur : ({ t with
          upstreamWriteScheduled := t.upstreamWriteScheduled && !due } : Turn σ).Current c :=
        ⟨h.connection, h.generation⟩
      have hreported : env.takeError = some true := by
        cases htaken : env.takeError with
        | none => simp [Escapes, hproxy, hphase, htaken] at hfree
        | some reported =>
            rw [htaken] at htake
            cases reported <;> simp at htake ⊢
      exact (takeError_answered hcur htoken hproxy hphase hreported).after (grows_same rfl rfl rfl)
  | upstreamWrite due hforwards hending =>
      have hcur : ({ t with
          upstreamWriteScheduled := t.upstreamWriteScheduled && !due } : Turn σ).Current c :=
        ⟨h.connection, h.generation⟩
      have hanswered := forwardFailed_answered hcur htoken hending
      rw [← writeUpstreamRequest_forwards hcur hforwards] at hanswered
      exact hanswered.after (grows_same rfl rfl rfl)
  | upstreamRead due hproxy hphase hempty hread =>
      have hcur : ({ t with
          upstreamReadScheduled := t.upstreamReadScheduled && !due } : Turn σ).Current c :=
        ⟨h.connection, h.generation⟩
      have hanswered := upstreamRead_answered hcur htoken hproxy hphase hempty hread
      exact hanswered.after (grows_same rfl rfl rfl)
  | upstreamError => exact failProxy_answered h htoken _ _
  | exchangeExpired phase => exact failProxy_answered h htoken _ _
  | registration _ hdiffers =>
      rcases handleTurn_stays h hstart htoken hgroup hfree with ⟨hpanic, hpanic'⟩ | hstays
      · exact absurd (hpanic.trans hpanic'.symm) hdiffers
      · obtain ⟨t', hrun, hgrows, hsettled | hsame⟩ := hstays
        · exact ⟨t', hrun, hgrows, hsettled⟩
        · exact absurd (hrun.trans hsame.symm) hdiffers

/-! ## §4. The entries of the slab. -/

/-- Every entry has an id that the poller can be given, and a listener. -/
def Enlisted (w : ReadinessWorker σ) : Prop :=
  ∀ slot occ, w.connections.get slot = some occ →
    (⟨slot, occ.connection.generation⟩ : ConnectionId).Tokened
      ∧ occ.connection.listenerGroup < w.listeners.length

theorem enlisted_new (h : ReadinessWorker.new cfg = .ok w) : Enlisted w := by
  unfold ReadinessWorker.new at h
  split_ifs at h
  injection h with h
  subst h
  intro slot occ hget
  cases hget

theorem Enlisted.turn (h : Enlisted w) {io : Io} {id : ConnectionId}
    (hstart : w.Startable id event) (hrun : w.runTurn cfg io id event = .ok w') : Enlisted w' := by
  have hlisteners : w'.listeners = w.listeners := by
    obtain ⟨t, -, rfl⟩ := runTurn_eq hrun
    rfl
  intro slot occ' hget'
  rw [hlisteners]
  by_cases hslot : id.slot = slot
  · subst hslot
    obtain ⟨occ, hget, hsame, -⟩ := runTurn_get_self hstart hrun hget'
    rw [hsame.generation, hsame.listenerGroup]
    exact h id.slot occ hget
  · rw [runTurn_get_ne hrun hslot] at hget'
    exact h slot occ' hget'

/-- A new connection has the id that its slot was given, and the listener it came by. -/
theorem Enlisted.registered (h : Enlisted w) (now : Instant) (vacantKey : Nat)
    (registrationFails : Bool) {index : Nat} {listener : RegisteredListener}
    (hlistener : w.listeners[index]? = some listener) :
    Enlisted (registerConnection cfg now vacantKey registrationFails index listener w) := by
  by_cases hslot : w.connections.vacantKey vacantKey > slotMask usizeBits
  · unfold registerConnection
    rw [if_pos hslot]
    exact h
  · rcases registerConnection_cases now vacantKey registrationFails index listener w rfl with
      heq | ⟨id, hid, hgeneration, heq | ⟨connection, interest, -, hnew, heq⟩⟩
    · rw [heq]
      exact h
    · rw [heq]
      exact h
    · rw [heq]
      obtain ⟨session, rfl⟩ := connection_new_fresh hnew
      have hle : id.slot ≤ w.connections.length := by
        rw [hid]
        exact Slab.vacantKey_le _ _
      intro slot occ hget
      by_cases hself : id.slot = slot
      · subst hself
        rw [Slab.get_insertAt_self hle] at hget
        injection hget with hget
        subst hget
        have htoken : id.Tokened := bumped_token (by omega) hgeneration
        exact ⟨htoken, (List.getElem?_eq_some_iff.mp hlistener).1⟩
      · rw [Slab.get_insertAt_ne hle hself] at hget
        exact h slot occ hget

theorem Enlisted.tick (h : Enlisted w) (htick : Tick cfg w w') : Enlisted w' := by
  cases htick with
  | turn io id event hstart hrun => exact h.turn hstart hrun
  | admitted now vacantKey registrationFails hlistener _ =>
      have hcounted : Enlisted
          { w with metrics := { w.metrics with accepted := w.metrics.accepted + 1 } } := h
      exact hcounted.registered now vacantKey registrationFails hlistener
  | polled =>
      intro slot occ' hget'
      rw [poll_get] at hget'
      obtain ⟨occ, hget, rfl⟩ := Option.map_eq_some_iff.mp hget'
      exact h slot occ hget
  | flags => exact h

theorem Enlisted.ticks (h : Enlisted w) (hpath : Ticks cfg w w') : Enlisted w' := by
  induction hpath with
  | refl => exact h
  | tail _ htick ih => exact ih.tick htick

theorem Reachable.enlisted (h : Reachable cfg w) : Enlisted w := by
  induction h with
  | new hnew => exact enlisted_new hnew
  | step event _ hstep ih => exact ih.ticks (step_ticks hstep)

/-! ## §5. Runs. -/

/-- Between the two states only the entry of `id`, and what is scheduled for it, differ;
metrics and the balancer's cursors apart. -/
structure OthersUnchanged (id : ConnectionId) (w w' : ReadinessWorker σ) : Prop where
  connections : ∀ slot, id.slot ≠ slot → w'.connections.get slot = w.connections.get slot
  pendingWrites : ∀ id', id' ≠ id → (id' ∈ w'.pendingWrites ↔ id' ∈ w.pendingWrites)
  pendingUpstreamWrites : ∀ id', id' ≠ id →
    (id' ∈ w'.pendingUpstreamWrites ↔ id' ∈ w.pendingUpstreamWrites)
  pendingUpstreamReads : ∀ id', id' ≠ id →
    (id' ∈ w'.pendingUpstreamReads ↔ id' ∈ w.pendingUpstreamReads)
  generations : w'.generations = w.generations
  listeners : w'.listeners = w.listeners
  draining : w'.draining = w.draining
  finished : w'.finished = w.finished

theorem mem_setMember_ne {ids : List ConnectionId} {id id' : ConnectionId} (hne : id' ≠ id)
    (present : Bool) : id' ∈ setMember ids id present ↔ id' ∈ ids := by
  rw [mem_setMember]
  simp [hne]

theorem runTurn_others {io : Io} {id : ConnectionId} (hrun : w.runTurn cfg io id event = .ok w') :
    OthersUnchanged id w w' := by
  have hslots : ∀ slot, id.slot ≠ slot → w'.connections.get slot = w.connections.get slot :=
    fun slot hne => runTurn_get_ne hrun hne
  obtain ⟨t, -, rfl⟩ := runTurn_eq hrun
  exact ⟨hslots, fun _ hne => mem_setMember_ne hne _, fun _ hne => mem_setMember_ne hne _,
    fun _ hne => mem_setMember_ne hne _, rfl, rfl, rfl, rfl⟩

/-- Whatever fails in this call for the connection of `id`, the handler returns, the
connection is answered or removed, and the others are left alone. -/
def Isolated (cfg : Config σ) (io : Io) (id : ConnectionId) (event : TurnEvent)
    (w : ReadinessWorker σ) : Prop :=
  ∀ occ, w.connections.get id.slot = some occ → occ.connection.generation = id.generation →
    Fails (w.env cfg io) (w.view id) occ.connection event →
    ∃ w', w.runTurn cfg io id event = .ok w' ∧ OthersUnchanged id w w'
      ∧ (w'.connections.get id.slot = none
        ∨ ∃ occ' response, w'.connections.get id.slot = some occ'
          ∧ .queued response ∈ occ'.log.drop occ.log.length)

theorem runTurn_of_ok {io : Io} {id : ConnectionId} {t : Turn σ}
    (h : handleTurn (w.env cfg io) event (w.view id) = .ok t) :
    w.runTurn cfg io id event = .ok (w.commit id event io t) := by
  unfold ReadinessWorker.runTurn
  rw [h]

theorem runTurn_of_error {io : Io} {id : ConnectionId} {exit : Exit}
    (h : handleTurn (w.env cfg io) event (w.view id) = .error exit) :
    w.runTurn cfg io id event = .error exit := by
  unfold ReadinessWorker.runTurn
  rw [h]

theorem isolated_of_free {io : Io} {id : ConnectionId} {occ : Occupant σ} (h : Enlisted w)
    (hget : w.connections.get id.slot = some occ)
    (hgen : occ.connection.generation = id.generation) (hstart : w.Startable id event)
    (hfree : Escapes (w.env cfg io) (w.view id) occ.connection event = false) :
    Isolated cfg io id event w := by
  intro occ₁ hget₁ _ hfails
  rw [hget] at hget₁
  injection hget₁ with hget₁
  subst hget₁
  obtain ⟨htoken, hgroup⟩ := h id.slot occ hget
  rw [hgen] at htoken
  have hcur := view_current hget hgen
  obtain ⟨t, hrun, -, hsettled⟩ :=
    hfails.answered hcur (hstart occ hget hgen) htoken hgroup hfree
  have hrun' := runTurn_of_ok hrun
  refine ⟨_, hrun', runTurn_others hrun', ?_⟩
  rw [commit_get_self hget]
  unfold Turn.occupant
  rcases hsettled with hgone | ⟨response, hqueued⟩
  · rw [hgone]
    exact .inl rfl
  · cases hconnection : t.connection with
    | none => exact .inl rfl
    | some connection =>
        refine .inr ⟨_, response, rfl, ?_⟩
        rw [view_log hget] at hqueued
        exact hqueued

theorem not_passedOn_of_free {io : Io} {id : ConnectionId} {occ : Occupant σ} (h : Enlisted w)
    (hget : w.connections.get id.slot = some occ)
    (hgen : occ.connection.generation = id.generation) (hstart : w.Startable id event)
    (hfree : Escapes (w.env cfg io) (w.view id) occ.connection event = false) :
    ¬ PassedOn (w.runTurn cfg io id event) := by
  rintro ⟨message, hmessage⟩
  obtain ⟨htoken, hgroup⟩ := h id.slot occ hget
  rw [hgen] at htoken
  rcases handleTurn_stays (view_current hget hgen) (hstart occ hget hgen) htoken hgroup hfree with
    ⟨hpanic, -⟩ | ⟨t, hrun, -⟩
  · rw [runTurn_of_error hpanic] at hmessage
    cases hmessage
  · rw [runTurn_of_ok hrun] at hmessage
    cases hmessage

theorem passedOn_of_escapes {io : Io} {id : ConnectionId} {occ : Occupant σ} (h : Enlisted w)
    (hget : w.connections.get id.slot = some occ)
    (hgen : occ.connection.generation = id.generation)
    (hescapes : Escapes (w.env cfg io) (w.view id) occ.connection event = true) :
    PassedOn (w.runTurn cfg io id event) := by
  obtain ⟨htoken, -⟩ := h id.slot occ hget
  rw [hgen] at htoken
  obtain ⟨message, hrun⟩ := handleTurn_passedOn (view_current hget hgen) htoken hescapes
  exact ⟨message, runTurn_of_error hrun⟩

/-- The answers of the outside that come with an event. -/
def Event.answers : Event → Nat → Io
  | .requestShutdown | .poll => fun _ => .quiet
  | .loopTop _ io | .dnsResults _ io | .closeExpiredResolutions _ io | .closeExpiredProxies _ io
  | .closeIdleConnections _ io | .pumpStaticStreams io | .ready _ _ _ io => io
  | .scheduledWrite _ io | .scheduledUpstreamWrite _ io | .scheduledUpstreamRead _ io => fun _ => io

/-- A handler that is called by the way ends with this. -/
def Raises (cfg : Config σ) (io : Nat → Io) (w : ReadinessWorker σ) (exit : Exit) : Prop :=
  ∃ w₁ id event index, Ticks cfg w w₁ ∧ w₁.Startable id event
    ∧ w₁.runTurn cfg (io index) id event = .error exit

theorem Planned.raises {io : Nat → Io} {turns : List (ConnectionId × TurnEvent)} {exit : Exit}
    (h : Planned cfg turns w) (hrun : runTurns cfg io turns w = .error exit) :
    Raises cfg io w exit := by
  unfold runTurns at hrun
  obtain ⟨⟨turn, index⟩, rest, w₁, ⟨hpath, hstart, -⟩, hraised⟩ := foldlM_error
    (fun (indexed : List ((ConnectionId × TurnEvent) × Nat)) w₁ =>
      Ticks cfg w w₁ ∧ Planned cfg (indexed.map Prod.fst) w₁)
    (by
      rintro ⟨turn, index⟩ rest w₁ w₂ ⟨hpath, hstart, hnext⟩ hstep
      exact ⟨hpath.tail (.turn (io index) turn.1 turn.2 hstart hstep), hnext _ _ hstep⟩)
    ⟨.refl, by rw [List.zipIdx_map_fst]; exact h⟩ hrun
  exact ⟨w₁, turn.1, turn.2, index, hpath, hstart, hraised⟩

theorem Raises.after {io : Nat → Io} {exit : Exit} (h : Raises cfg io w₁ exit)
    (hpath : Ticks cfg w w₁) : Raises cfg io w exit := by
  obtain ⟨w₂, id, event, index, hpath', hraised⟩ := h
  exact ⟨w₂, id, event, index, hpath.trans hpath', hraised⟩

theorem slabPass_raises {io : Nat → Io} {select : Connection σ → Option TurnEvent} {exit : Exit}
    (hselect : ∀ (c : Connection σ) event (s : Seat σ), select c = some event → Starts event s c)
    (hrun : slabPass cfg io select w = .error exit) : Raises cfg io w exit :=
  (slabTurns_planned hselect).raises hrun

theorem loopTop_raises {now : Instant} {io : Nat → Io} {exit : Exit}
    (hrun : loopTop cfg now io w = .error exit) : exit = .returned ∨ Raises cfg io w exit := by
  have hrest : ∀ {w₁ : ReadinessWorker σ}, Ticks cfg w w₁ →
      (if w₁.draining && w₁.connections.count == 0 then .error .returned
        else if w₁.drainDeadlineExpired cfg now then
          slabPass cfg io (fun _ => some .drainDeadline) { w₁ with finished := true }
        else .ok w₁) = Except.error exit → exit = .returned ∨ Raises cfg io w exit := by
    intro w₁ hpath hrun
    split_ifs at hrun
    · injection hrun with hrun
      exact .inl hrun.symm
    · have hraised : Raises cfg io { w₁ with finished := true } exit := by
        refine slabPass_raises ?_ hrun
        intro c event s hevent
        injection hevent with hevent
        subst hevent
        trivial
      exact .inr (hraised.after
        (hpath.tail (.flags w₁.shutdownRequested w₁.draining true w₁.drainStartedAt)))
  unfold loopTop at hrun
  simp only [bind, Except.bind, pure, Except.pure] at hrun
  split at hrun
  · cases hbegin : beginShutdown cfg now io w with
    | error exit' =>
        rw [hbegin] at hrun
        injection hrun with hrun
        subst hrun
        have hraised :
            Raises cfg io { w with draining := true, drainStartedAt := some now } exit' :=
          slabPass_raises (fun c event s h => shutdownCloses_starts s h) hbegin
        exact .inr (hraised.after (.single (.flags w.shutdownRequested true w.finished (some now))))
    | ok w₁ =>
        rw [hbegin] at hrun
        exact hrest (.head (.flags w.shutdownRequested true w.finished (some now))
          (slabPass_ticks (fun c event s h => shutdownCloses_starts s h) hbegin)) hrun
  · exact hrest .refl hrun

theorem dispatch_raises {io : Nat → Io} {event : ReadyEvent} {accepts : List Accepted}
    {dns : List ResolveResult} {exit : Exit}
    (hrun : dispatch cfg io event accepts dns w = .error exit) : Raises cfg io w exit := by
  unfold dispatch at hrun
  split at hrun
  · exact resolved_planned.raises hrun
  · split at hrun
    · split at hrun <;> cases hrun
    · split at hrun
      · cases hrun
      next id role _ =>
        split at hrun
        · cases hrun
        next occ hget =>
          split at hrun
          · cases hrun
          · split at hrun
            · exact (clientTurns_planned hget).raises hrun
            · split at hrun
              · cases hrun
              next hproxying =>
                exact (upstreamTurns_planned hget (by simpa using hproxying)).raises hrun

theorem runDue_raises {io : Io} {due : Option ConnectionId} {exit : Exit}
    (hstart : ∀ id, due = some id → w.Startable id event)
    (hrun : runDue cfg io due event w = .error exit) : Raises cfg (fun _ => io) w exit := by
  unfold runDue at hrun
  split at hrun
  · cases hrun
  next id => exact ⟨w, id, event, 0, .refl, hstart id rfl, hrun⟩

/-- **A step that does not end in a state** ends the worker as asked, or as a handler it calls
does. -/
theorem step_raises {event : Event} {exit : Exit} (hrun : step cfg event w = .error exit) :
    exit = .returned ∨ Raises cfg event.answers w exit := by
  unfold step at hrun
  split at hrun
  · injection hrun with hrun
    exact .inl hrun.symm
  · split at hrun
    · cases hrun
    · exact loopTop_raises hrun
    · exact .inr (resolved_planned.raises hrun)
    · exact .inr (slabPass_raises (fun c event s h => resolutionExpired_starts s h) hrun)
    · exact .inr (slabPass_raises (fun c event s h => proxyExpired_starts s h) hrun)
    next now io =>
      right
      unfold closeIdleConnections at hrun
      cases hidle : slabPass cfg io (idleExpired cfg now) w with
      | error exit' =>
          simp only [bind, Except.bind, hidle] at hrun
          injection hrun with hrun
          exact hrun ▸ slabPass_raises (fun c event s h => idleExpired_starts s h) hidle
      | ok w₁ =>
          simp only [bind, Except.bind, hidle] at hrun
          have hraised : Raises cfg io w₁ exit :=
            slabPass_raises (fun c event s h => handshakeOverdue_starts s h) hrun
          exact hraised.after (slabPass_ticks (fun c event s h => idleExpired_starts s h) hidle)
    · exact .inr (slabPass_raises (fun c event s h => pumpReady_starts s h) hrun)
    next index io =>
      refine .inr (runDue_raises ?_ hrun)
      intro id hdue occ _ _
      show decide (id ∈ w.pendingWrites) = true
      exact decide_eq_true (List.mem_of_getElem? hdue)
    · refine .inr (runDue_raises ?_ hrun)
      intro id _ occ _ _
      trivial
    · refine .inr (runDue_raises ?_ hrun)
      intro id _ occ _ _
      trivial
    · cases hrun
    · exact .inr (dispatch_raises hrun)

/-- A new client that the poller refuses leaves no entry. -/
theorem refused_connections (now : Instant) (vacantKey index : Nat)
    (listener : RegisteredListener) (w : ReadinessWorker σ) :
    (registerConnection cfg now vacantKey true index listener w).connections = w.connections := by
  unfold registerConnection
  by_cases hslot : w.connections.vacantKey vacantKey > slotMask usizeBits
  · rw [if_pos hslot]
  · have htoken : ∃ token, (⟨w.connections.vacantKey vacantKey,
        (bumpGeneration w.generations (w.connections.vacantKey vacantKey)).1⟩ :
        ConnectionId).token usizeBits .client = .ok token :=
      bumped_token (Nat.not_lt.mp hslot) rfl
    obtain ⟨token, htoken⟩ := htoken
    rw [if_neg hslot]
    dsimp only
    split
    · rfl
    · rw [htoken]
      rfl

/-- **Failures of one connection, in every run.**  At every call of a handler, whatever fails
for its connection is answered or removes the connection, and leaves the others alone, if
and only if the handler does not come to one of the three calls whose errors it passes on: a
`take_error` that fails, a file's next chunk that cannot be registered, an upstream without a
token.  A client that cannot be registered is not admitted; and `run` does not return an
error of its own unless a handler comes to one of the three. -/
theorem failures_stay_with_their_connection (h : Reachable cfg w) :
    (∀ w₁, Ticks cfg w w₁ → ∀ (io : Io) (id : ConnectionId) (event : TurnEvent)
        (occ : Occupant σ), w₁.connections.get id.slot = some occ →
      occ.connection.generation = id.generation → w₁.Startable id event →
      (Isolated cfg io id event w₁ ∧ ¬ PassedOn (w₁.runTurn cfg io id event)
        ↔ Escapes (w₁.env cfg io) (w₁.view id) occ.connection event = false))
    ∧ (∀ now vacantKey index listener w₁,
        (registerConnection cfg now vacantKey true index listener w₁).connections
          = w₁.connections)
    ∧ ∀ event : Event, PassedOn (step cfg event w) →
      ∃ w₁ id call index occ, Ticks cfg w w₁ ∧ w₁.connections.get id.slot = some occ
        ∧ occ.connection.generation = id.generation ∧ w₁.Startable id call
        ∧ PassedOn (w₁.runTurn cfg (event.answers index) id call)
        ∧ Escapes (w₁.env cfg (event.answers index)) (w₁.view id) occ.connection call = true := by
  refine ⟨?_, fun now vacantKey index listener w₁ =>
    refused_connections now vacantKey index listener w₁, ?_⟩
  · intro w₁ hpath io id event occ hget hgen hstart
    have henlisted : Enlisted w₁ := h.enlisted.ticks hpath
    constructor
    · rintro ⟨-, hreturns⟩
      rw [← Bool.not_eq_true]
      intro hescapes
      exact hreturns (passedOn_of_escapes henlisted hget hgen hescapes)
    · intro hfree
      exact ⟨isolated_of_free henlisted hget hgen hstart hfree,
        not_passedOn_of_free henlisted hget hgen hstart hfree⟩
  · rintro event ⟨message, hstep⟩
    rcases step_raises hstep with hreturned | ⟨w₁, id, call, index, hpath, hstart, hraised⟩
    · cases hreturned
    · have henlisted : Enlisted w₁ := h.enlisted.ticks hpath
      have hpassed : PassedOn (w₁.runTurn cfg (event.answers index) id call) :=
        ⟨message, hraised⟩
      by_cases hlive : w₁.Live id
      · obtain ⟨occ, hget, hgen⟩ := hlive
        refine ⟨w₁, id, call, index, occ, hpath, hget, hgen, hstart, hpassed, ?_⟩
        by_contra hfree
        rw [Bool.not_eq_true] at hfree
        exact not_passedOn_of_free henlisted hget hgen hstart hfree hpassed
      · -- a call for a connection that is gone does nothing
        obtain ⟨write, upstreamWrite, upstreamRead, hstale⟩ :=
          handleTurn_stale (w₁.env cfg (event.answers index)) call (view_stale hlive)
        rw [runTurn_of_ok hstale] at hraised
        cases hraised

/-- An upstream that has refused the connection: `take_error` says so. -/
def refusedUpstream : Io := { Io.quiet with takeError := some true }

/-- An upstream's socket whose `take_error` fails. -/
def brokenUpstream : Io := { Io.quiet with takeError := none }

/-- The client of an upstream that has refused the connection is told. -/
theorem failures_stay_with_their_connection_refused :
    ∃ w, Reachable (plainWorker proxyAll) w
      ∧ Isolated (plainWorker proxyAll) refusedUpstream firstId (.writeUpstream false) w := by
  have hrun : bootsTo (plainWorker proxyAll) resolvedRequest
      (fun w => (w.connections.get 0).any (fun occ => occ.connection.generation == 1
        && !Escapes (w.env (plainWorker proxyAll) refusedUpstream) (w.view firstId)
          occ.connection (.writeUpstream false))) = true := by
    decide +kernel
  obtain ⟨w, hw, hp⟩ := reachable_of_bootsTo hrun
  obtain ⟨occ, hget, hocc⟩ := (Option.any_eq_true _ _).mp hp
  rw [Bool.and_eq_true, beq_iff_eq, Bool.not_eq_true'] at hocc
  exact ⟨w, hw, (((failures_stay_with_their_connection hw).1 w .refl refusedUpstream firstId
    (.writeUpstream false) occ hget hocc.1 (fun _ _ _ => trivial)).mpr hocc.2).1⟩

/-- A second client. -/
def acceptAnother : Event :=
  .ready { token := 0, readable := true, writable := false, error := false, readClosed := false
           writeClosed := false } [.stream 0 1 false] [] (fun _ => .quiet)

/-- How a call that does not return ends. -/
def exitOf {α : Type} : Except Exit α → Option Exit
  | .error exit => some exit
  | .ok _ => none

theorem exitOf_eq_some {α : Type} {x : Except Exit α} {exit : Exit} (h : exitOf x = some exit) :
    x = .error exit := by
  cases x with
  | error exit' =>
      injection h with h
      rw [h]
  | ok _ => cases h

/-- Where `take_error` fails for one connection, `run` returns the error, whatever other
clients there are. -/
theorem take_error_failure_ends_the_worker :
    ∃ w occ, Reachable (plainWorker proxyAll) w ∧ w.connections.count = 2
      ∧ w.connections.get firstId.slot = some occ
      ∧ occ.connection.generation = firstId.generation
      ∧ Fails (w.env (plainWorker proxyAll) brokenUpstream) (w.view firstId) occ.connection
        (.writeUpstream false)
      ∧ w.runTurn (plainWorker proxyAll) brokenUpstream firstId (.writeUpstream false)
        = .error (.io none)
      ∧ step (plainWorker proxyAll) (firstReady .upstream false true brokenUpstream) w
        = .error (.io none) := by
  have hrun : bootsTo (plainWorker proxyAll) (resolvedRequest ++ [acceptAnother])
      (fun w => w.connections.count == 2
        && (w.connections.get 0).any (fun occ => occ.connection.generation == 1
          && occ.connection.proxy.any (fun proxy => proxy.phase == .connecting))
        && exitOf (w.runTurn (plainWorker proxyAll) brokenUpstream firstId (.writeUpstream false))
          == some (.io none)
        && exitOf (step (plainWorker proxyAll) (firstReady .upstream false true brokenUpstream) w)
          == some (.io none)) = true := by
    decide +kernel
  obtain ⟨w, hw, hp⟩ := reachable_of_bootsTo hrun
  simp only [Bool.and_eq_true, beq_iff_eq] at hp
  obtain ⟨⟨⟨hcount, hfirst⟩, hturn⟩, hstep⟩ := hp
  obtain ⟨occ, hget, hocc⟩ := (Option.any_eq_true _ _).mp hfirst
  rw [Bool.and_eq_true, beq_iff_eq] at hocc
  obtain ⟨proxy, hproxy, hphase⟩ := (Option.any_eq_true _ _).mp hocc.2
  rw [beq_iff_eq] at hphase
  have hbroken : brokenUpstream.takeError ≠ some false := by decide
  exact ⟨w, occ, hw, hcount, hget, hocc.1,
    .takeError false hproxy hphase hbroken, exitOf_eq_some hturn, exitOf_eq_some hstep⟩

end Thwip.Readiness
