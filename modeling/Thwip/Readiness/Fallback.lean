/-
  Thwip.Readiness.Fallback — one address, and no other.

  `finish_resolution` connects to the first address of the list and forgets the
  rest.  An attempt that fails at once, or whose socket reports an error before the
  first byte is written, is answered with the same page as a connection that is
  lost later.  The history says which address an exchange was begun with: its course
  is exhausted when the page goes out just when the list had one address and it is
  the attempt that failed.
-/
import Thwip.Lib.Fallback
import Thwip.Readiness.Shared

namespace Thwip.Readiness

open Thwip.Lib

variable {σ : Type} {env : Env σ} {t t' : Turn σ} {c c' : Connection σ}

/-! ## §1. Exchanges begin with an answer of the resolver. -/

/-- No exchange with an upstream is under way. -/
def Turn.NoExchange (t : Turn σ) : Prop := ∀ c, t.connection = some c → c.isProxying = false

/-- A connection outside the phase `proxying` has no proxy state. -/
theorem proxy_none (h : c.isProxying = false) : c.proxy = none := by
  unfold Connection.isProxying at h
  unfold Connection.proxy
  cases hphase : c.phase with
  | proxying proxy =>
      rw [hphase] at h
      cases h
  | reading | resolving | writingResponse => rfl

/-- It is enough to know the connection of the turn. -/
theorem noExchange_of (hc : t.connection = some c) (hidle : c.isProxying = false) :
    t.NoExchange := by
  intro c₁ hc₁
  rw [hc] at hc₁
  injection hc₁ with hc₁
  exact hc₁ ▸ hidle

/-- Whatever leaves the connection alone begins nothing. -/
theorem Turn.NoExchange.same (h : t.NoExchange) (hconnection : t'.connection = t.connection) :
    t'.NoExchange := by
  intro c hc
  exact h c (hconnection ▸ hc)

/-- A removed connection has no exchange. -/
theorem Turn.NoExchange.remove (h : t.NoExchange) (site : RemovalSite) :
    (removeConnection env site t).NoExchange := by
  unfold removeConnection
  split
  · exact h
  · split_ifs
    · intro c hc
      cases hc
    · exact h

/-- Registering asks the poller and changes no phase. -/
theorem Turn.NoExchange.reregister (h : t.NoExchange) {interest : Interest} {ok : Bool}
    (hrun : t.reregister env interest = .ok (ok, t')) : t'.NoExchange := by
  unfold Turn.reregister at hrun
  split at hrun
  · cases hrun
  · split_ifs at hrun
    all_goals
      cases hrun
      exact h

/-- A registration, or the removal when it fails. -/
theorem Turn.NoExchange.registered (h : t.NoExchange) {interest : Interest}
    (hrun : (do
      let (ok, t) ← t.reregister env interest
      return if ok then t else removeConnection env .reregisterFailed t) = .ok t') :
    t'.NoExchange := by
  cases hreg : t.reregister env interest with
  | error e => simp [bind, Except.bind, hreg] at hrun
  | ok result =>
      obtain ⟨ok, t₁⟩ := result
      simp only [bind, Except.bind, hreg, pure, Except.pure] at hrun
      injection hrun with hrun
      have hkept := h.reregister hreg
      rw [← hrun]
      split_ifs
      · exact hkept
      · exact hkept.remove _

/-- The registration of the client, … -/
theorem Turn.NoExchange.reregisterClient (h : t.NoExchange) {interest : Interest}
    (hrun : reregisterClient env interest t = .ok t') : t'.NoExchange := by
  unfold Readiness.reregisterClient at hrun
  split at hrun
  · cases hrun
  · exact h.registered hrun

/-- … and the one whose failure ends the run. -/
theorem Turn.NoExchange.mustReregister (h : t.NoExchange) {interest : Interest}
    (hrun : t.mustReregister env interest = .ok t') : t'.NoExchange := by
  unfold Turn.mustReregister at hrun
  cases hreg : t.reregister env interest with
  | error e => simp [bind, Except.bind, hreg] at hrun
  | ok result =>
      obtain ⟨ok, t₁⟩ := result
      simp only [bind, Except.bind, hreg, pure, Except.pure] at hrun
      split_ifs at hrun
      injection hrun with hrun
      exact hrun ▸ h.reregister hreg

/-- A queued response puts the connection into `writingResponse`. -/
theorem Turn.NoExchange.queueResponse (h : t.NoExchange) {response : List UInt8}
    (hrun : queueResponse env response t = .ok t') : t'.NoExchange := by
  unfold Readiness.queueResponse at hrun
  split at hrun
  · cases hrun
    exact h
  next c hc =>
    split_ifs at hrun
    · cases hrun
      exact h
    · have hqueued : ((t.put (c.setResponse (boundedResponse env.limits response))).note
          [.queued (boundedResponse env.limits response)]).NoExchange :=
        noExchange_of rfl rfl
      exact hqueued.registered hrun

/-- The head of a file is queued like any response. -/
theorem Turn.NoExchange.queueStaticResponse (h : t.NoExchange) {response : StaticStreamResponse}
    (hrun : queueStaticResponse env response t = .ok t') : t'.NoExchange := by
  unfold Readiness.queueStaticResponse at hrun
  split at hrun
  · cases hrun
    exact h
  next c hc =>
    split_ifs at hrun
    · cases hrun
      exact h
    · have hserving : ((t.put { c with staticStream := response.stream }).note
          [.serving response.head response.stream]).NoExchange :=
        noExchange_of rfl (h c hc)
      exact hserving.queueResponse hrun

/-- `detach_proxy` leaves the phase `proxying`. -/
theorem detachProxy_idle (c : Connection σ) : c.detachProxy.isProxying = false := by
  unfold Connection.detachProxy Connection.isProxying
  cases hphase : c.phase with
  | proxying proxy => rfl
  | reading | resolving | writingResponse =>
      dsimp only
      rw [hphase]

/-- A failed exchange is over. -/
theorem failProxy_noExchange (h : t.Current c) {status : Nat} {message : Str}
    (hrun : failProxy env status message t = .ok t') : t'.NoExchange := by
  unfold failProxy at hrun
  rw [h.connection] at hrun
  dsimp only at hrun
  rw [h.isCurrent, if_neg (by simp)] at hrun
  have hdetached : ({ t.put c.detachProxy with
      upstreamReadScheduled := false, upstreamWriteScheduled := false } : Turn σ).NoExchange :=
    noExchange_of rfl (detachProxy_idle c)
  split_ifs at hrun
  · exact hdetached.queueResponse hrun
  · cases hrun
    exact hdetached.remove _

/-- Failing an exchange that is not there begins none either. -/
theorem Turn.NoExchange.failProxy (h : t.NoExchange) {status : Nat} {message : Str}
    (hrun : failProxy env status message t = .ok t') : t'.NoExchange := by
  by_cases hcurrent : t.isCurrent = true
  · obtain ⟨c, hcur⟩ := Turn.isCurrent_iff.mp hcurrent
    exact failProxy_noExchange hcur hrun
  · unfold Readiness.failProxy at hrun
    split at hrun
    · cases hrun
      exact h
    · rw [if_pos (by simpa using hcurrent)] at hrun
      cases hrun
      exact h

/-- A failed lookup ends in a page. -/
theorem Turn.NoExchange.failResolution (h : t.NoExchange) {status : Nat} {message : Str}
    (hrun : failResolution env status message t = .ok t') : t'.NoExchange := by
  unfold Readiness.failResolution at hrun
  split at hrun
  · cases hrun
    exact h
  · split_ifs at hrun
    · cases hrun
      exact h
    · exact h.queueResponse hrun

/-- Without an exchange there is nothing to write to an upstream, … -/
theorem Turn.NoExchange.writeUpstreamRequest (h : t.NoExchange)
    (hrun : writeUpstreamRequest env t = .ok t') : t' = t := by
  unfold Readiness.writeUpstreamRequest at hrun
  split at hrun
  · cases hrun
    rfl
  next c hc =>
    split_ifs at hrun
    · cases hrun
      rfl
    · rw [proxy_none (h c hc)] at hrun
      cases hrun
      rfl

/-- … and nothing to read from one. -/
theorem Turn.NoExchange.readUpstreamResponse (h : t.NoExchange)
    (hrun : readUpstreamResponse env t = .ok t') : t' = t := by
  unfold Readiness.readUpstreamResponse at hrun
  split at hrun
  · cases hrun
    rfl
  next c hc =>
    split_ifs at hrun
    · cases hrun
      rfl
    · rw [proxy_none (h c hc)] at hrun
      cases hrun
      rfl

/-- Starting a proxied request begins a lookup, not yet an exchange. -/
theorem Turn.NoExchange.startProxy (h : t.NoExchange) {url : Str} {request : RequestHead}
    {body : List UInt8} {started : Bool}
    (hrun : startProxy env url request body t = .ok (started, t')) : t'.NoExchange := by
  unfold Readiness.startProxy at hrun
  split at hrun
  · cases hrun
    exact h
  next upstream _ =>
    dsimp only at hrun
    split at hrun
    · cases hrun
      exact h
    · split at hrun
      · cases hrun
      next c hc =>
        have hresolving : (t.put (c.beginResolving env.now
            (upstream.requestBytes request body))).NoExchange :=
        noExchange_of rfl rfl
        split_ifs at hrun
        all_goals
          cases hrun
          exact hresolving.same rfl

/-- None of the answers to a request begins an exchange. -/
theorem Turn.NoExchange.answerRequest (h : t.NoExchange) {group : Nat} {request : RequestHead}
    {body : List UInt8} {goesOn : Bool}
    (hrun : answerRequest env group request body t = .ok (goesOn, t')) : t'.NoExchange := by
  unfold Readiness.answerRequest at hrun
  split at hrun
  · cases hrun
  · dsimp only at hrun
    split at hrun
    · exact h.queueResponse (bind_flag_ok hrun)
    · split at hrun
      · have hopen : ∀ balancer, ({ t.note [.proxied] with balancer } : Turn σ).NoExchange :=
          fun _ => h
        split at hrun
        · cases hrun
        next balancer _ => exact (hopen balancer).queueResponse (bind_flag_ok hrun)
        next url balancer _ =>
          cases hstart : Readiness.startProxy env url request body
              { t.note [.proxied] with balancer } with
          | error e => simp [bind, Except.bind, hstart] at hrun
          | ok result =>
              obtain ⟨started, t₁⟩ := result
              simp only [bind, Except.bind, hstart, pure, Except.pure] at hrun
              have hstarted := (hopen balancer).startProxy hstart
              split at hrun
              · cases hrun
                exact hstarted
              · exact hstarted.queueResponse (bind_flag_ok hrun)
      · split at hrun
        · exact h.queueStaticResponse (bind_flag_ok hrun)
        · exact h.queueResponse (bind_flag_ok hrun)
      · exact h.queueResponse (bind_flag_ok hrun)

/-- Flushing the handshake registers for writing, at most. -/
theorem Turn.NoExchange.flushHandshake (h : t.NoExchange)
    (hrun : flushHandshake env t = .ok t') : t'.NoExchange := by
  unfold Readiness.flushHandshake at hrun
  split at hrun
  · cases hrun
    exact h
  · split_ifs at hrun
    · exact h.reregisterClient hrun
    · cases hrun
      exact h

/-- Reading from the client: the request may be answered, and no answer begins an
exchange. -/
theorem Turn.NoExchange.connectionReady (h : t.NoExchange)
    (hrun : handleConnectionReady env t = .ok t') : t'.NoExchange := by
  unfold handleConnectionReady at hrun
  split at hrun
  · cases hrun
    exact h
  next c hc =>
    have hidle := h c hc
    generalize hpass : Readiness.connectionReady env.tls.toRustls env.limits env.now c env.reads
      = pass at hrun
    split at hrun
    · cases hrun
      exact h
    dsimp only at hrun
    split at hrun
    next hhandling =>
      injection hrun with hrun
      rw [← hrun]
      unfold clientDuringProxyReady
      have hphase : pass.connection.isProxying = false := by
        unfold Readiness.connectionReady at hpass
        rw [if_pos hhandling] at hpass
        obtain ⟨time, htime⟩ := discardLoop_connection env.now maxReadsPerEvent c env.reads
        rw [← hpass, htime]
        exact hidle
      have hput : (t.put pass.connection).NoExchange := noExchange_of rfl hphase
      dsimp only
      split_ifs
      · exact hput.remove _
      · exact hput
    next hhandling =>
      have hfalse : c.isHandlingRequest = false := by simpa using hhandling
      have hreads := connectionReady_readsOnly env.tls.toRustls env.limits env.now hfalse env.reads
      rw [hpass] at hreads
      have hphase : pass.connection.isProxying = false := by
        rcases hreads.phase with ⟨p, p', -, hp'⟩ | hsame
        · unfold Connection.isProxying
          rw [hp']
        · unfold Connection.isProxying at hidle ⊢
          rw [hsame]
          exact hidle
      have hread : (((t.readBytes pass.bytesRead).put pass.connection).note
          (pass.verdicts.map Act.verdict)).NoExchange := noExchange_of rfl hphase
      generalize ((t.readBytes pass.bytesRead).put pass.connection).note
        (pass.verdicts.map Act.verdict) = t₁ at hrun hread
      cases hanswer : answerVerdict env pass.connection.listenerGroup pass.verdicts.getLast? t₁ with
      | error e => simp [bind, Except.bind, hanswer] at hrun
      | ok result =>
          obtain ⟨goesOn, t₂⟩ := result
          simp only [bind, Except.bind, hanswer, pure, Except.pure] at hrun
          have hanswered : t₂.NoExchange := by
            unfold answerVerdict at hanswer
            split at hanswer
            · exact hread.queueResponse (bind_flag_ok hanswer)
            · have hcounted : t₁.countRequest.NoExchange := hread.same rfl
              exact hcounted.answerRequest hanswer
            · cases hanswer
              exact hread
          split_ifs at hrun
          · cases hrun
            exact hanswered
          · exact (hanswered.remove _).flushHandshake hrun
          · exact hanswered.flushHandshake hrun

/-- The next chunk of a file. -/
theorem Turn.NoExchange.advanceStaticStream (h : t.NoExchange)
    (hrun : advanceStaticStream env t = .ok t') : t'.NoExchange := by
  unfold Readiness.advanceStaticStream at hrun
  split at hrun
  · cases hrun
    exact h
  next c hc =>
    split_ifs at hrun
    · cases hrun
      exact h
    · split at hrun
      · cases hrun
      · split at hrun
        next bytes stream' _ =>
          have hchunk : ((t.put { c with
              staticStream := some stream', writeBuffer := bytes, writeOffset := 0 }).note
                [.chunk bytes]).NoExchange := noExchange_of rfl (h c hc)
          exact hchunk.mustReregister hrun
        next stream' _ =>
          have hwaits : (t.put { c with staticStream := some stream' }).NoExchange :=
            noExchange_of rfl (h c hc)
          exact hwaits.mustReregister hrun
        · cases hrun
          have hcounted : t.countResponse.NoExchange := h.same rfl
          exact hcounted.remove _
        · cases hrun
          have hcounted : t.countError.NoExchange := h.same rfl
          exact hcounted.remove _

/-- Closing, with or without `close_notify`. -/
theorem Turn.NoExchange.closeClient (h : t.NoExchange) {site : RemovalSite}
    (hrun : closeClient env site t = .ok t') : t'.NoExchange := by
  unfold Readiness.closeClient at hrun
  split at hrun
  · cases hrun
    exact h
  next c hc =>
    split at hrun
    · cases hrun
      exact h
    · split at hrun
      · cases hrun
        exact h.remove _
      next ssl _ =>
        split at hrun
        · cases hrun
          exact h.remove _
        · have hclosing : ((t.put { c.setSession ssl (env.tls.sendCloseNotify ssl.connection) with
              sslClosing := true }).note [.closeNotify]).NoExchange := noExchange_of rfl (h c hc)
          exact hclosing.reregisterClient hrun

/-- The end of a response without an exchange. -/
theorem Turn.NoExchange.finishWrite (h : t.NoExchange) (hidle : c.isProxying = false)
    (hrun : finishWrite env c t = .ok t') : t'.NoExchange := by
  unfold Readiness.finishWrite at hrun
  split at hrun
  · exact h.advanceStaticStream hrun
  · dsimp only at hrun
    rw [proxy_none hidle] at hrun
    have hcounted : t.countResponse.NoExchange := h.same rfl
    exact hcounted.closeClient hrun

/-- Writing to the client. -/
theorem Turn.NoExchange.writeReady (h : t.NoExchange)
    (hrun : writeReady env t = .ok t') : t'.NoExchange := by
  unfold Readiness.writeReady at hrun
  split at hrun
  · cases hrun
    exact h
  next c hc =>
    split_ifs at hrun
    · cases hrun
      exact h
    · exact h.reregisterClient hrun
    · have hwrites := writeLoop_writesOnly env c
      dsimp only at hrun
      generalize writeLoop env.tls env.now maxWritesPerEvent c env.writes = pass at hrun hwrites
      have hidle : pass.connection.isProxying = false := by
        have hbefore := h c hc
        unfold Connection.isProxying at hbefore ⊢
        rw [hwrites.phase]
        exact hbefore
      have hwritten : (((t.wroteBytes pass.bytesWritten).put pass.connection).note
          (pass.acts.map Act.write)).NoExchange := noExchange_of rfl hidle
      generalize ((t.wroteBytes pass.bytesWritten).put pass.connection).note
        (pass.acts.map Act.write) = t₁ at hrun hwritten
      split at hrun
      · cases hrun
        exact hwritten
      · cases hrun
        exact hwritten.remove _
      · cases hrun
        exact hwritten.remove _
      · have hflushed : (t₁.note [.flushed]).NoExchange := hwritten
        split_ifs at hrun
        · exact hflushed.finishWrite hidle hrun
        · exact hflushed.reregisterClient hrun
        · cases hrun
          exact hwritten.same rfl
        · cases hrun
          exact hwritten

/-- The answers of the resolver. -/
def TurnEvent.isResolved : TurnEvent → Bool
  | .resolved _ => true
  | _ => false

/-- **Only an answer of the resolver begins an exchange.** -/
theorem Turn.NoExchange.turn (h : t.NoExchange) {event : TurnEvent}
    (hevent : event.isResolved = false) (hrun : handleTurn env event t = .ok t') :
    t'.NoExchange := by
  cases event with
  | connectionReady => exact h.connectionReady hrun
  | writeReady due =>
      have hdrained : ({ t with writeScheduled := t.writeScheduled && !due } : Turn σ).NoExchange :=
        h.same rfl
      exact hdrained.writeReady hrun
  | clientError =>
      injection hrun with hrun
      rw [← hrun]
      unfold clientError
      split_ifs
      · have hcounted : t.countError.NoExchange := h.same rfl
        exact hcounted.remove _
      · exact h.remove _
  | clientClosed half =>
      injection hrun with hrun
      rw [← hrun]
      unfold clientClosed
      split
      · exact h
      · split_ifs
        · exact h.remove _
        · exact h
  | upstreamError => exact h.failProxy hrun
  | writeUpstream due =>
      have hdrained : ({ t with
          upstreamWriteScheduled := t.upstreamWriteScheduled && !due } : Turn σ).NoExchange :=
        h.same rfl
      rw [hdrained.writeUpstreamRequest hrun]
      exact hdrained
  | readUpstream due =>
      have hdrained : ({ t with
          upstreamReadScheduled := t.upstreamReadScheduled && !due } : Turn σ).NoExchange :=
        h.same rfl
      rw [hdrained.readUpstreamResponse hrun]
      exact hdrained
  | upstreamClosed =>
      injection hrun with hrun
      rw [← hrun]
      split_ifs
      · exact h.same rfl
      · exact h
  | resolved addresses => cases hevent
  | resolutionExpired => exact h.failResolution hrun
  | proxyExpired phase => exact h.failProxy hrun
  | pump => exact h.advanceStaticStream hrun
  | idle | handshakeExpired | shutdown | drainDeadline =>
      injection hrun with hrun
      exact hrun ▸ h.remove _

/-! ## §2. The course of an exchange. -/

/-- The exchange waits for its connection attempt. -/
def Connection.isConnecting (self : Connection σ) : Bool :=
  match self.proxy with
  | none => false
  | some proxy => proxy.phase == .connecting

/-- Does this call end the attempt with a failure?  `steps` is the length of the
trace at the call. -/
def attemptFails (event : TurnEvent) (io : Io) (steps : Nat) (c : Connection σ) : Bool :=
  match event with
  | .resolved (some (address :: _)) =>
      c.isResolving && (io.connectFails address || io.registrationFails steps)
  | .writeUpstream _ => c.isConnecting && io.takeError == some true
  | .upstreamError => c.isConnecting
  | _ => false

/-- The course of the exchange of `c`, once it is handed `event`: a list of
addresses begins it, with the attempt at the first. -/
def courseAfter (event : TurnEvent) (io : Io) (steps : Nat) (c : Connection σ)
    (course : Option (Course SocketAddr)) : Option (Course SocketAddr) :=
  match event with
  | .resolved (some (address :: addresses)) =>
      if c.isResolving then
        some ((Course.fresh (address :: addresses)).attempt
          (fun _ => attemptFails event io steps c) [address])
      else course
  | .resolved _ => if c.isResolving then none else course
  | _ => if attemptFails event io steps c then course.map Course.fail else course

/-- What one item of the history adds to the course of the exchange of `id`. -/
def HistoryItem.course (id : ConnectionId) (course : Option (Course SocketAddr)) :
    HistoryItem σ → Option (Course SocketAddr)
  | .turn id' event io found =>
      match found.connection with
      | none => course
      | some c =>
          if id' = id ∧ c.generation = id.generation then
            courseAfter event io found.log.length c course
          else course
  | .registered id' => if id' = id then none else course
  | .removed _ _ => course

/-- The course of the exchange of `id`, as the history has it. -/
def courseOf (id : ConnectionId) (history : List (HistoryItem σ)) : Option (Course SocketAddr) :=
  history.foldl (HistoryItem.course id) none

/-- An exchange is over its first address. -/
def Tracks (c : Connection σ) (course : Option (Course SocketAddr)) : Prop :=
  c.isProxying = true →
    ∃ address addresses, course = some ⟨address :: addresses, [address], []⟩

/-- A course over its first address is in order, whether or not the attempt has failed. -/
theorem ordered_first (address : SocketAddr) (addresses failed : List SocketAddr)
    (h : failed <+: [address]) :
    (Course.mk (address :: addresses) [address] failed).Ordered := by
  refine ⟨?_, h, ?_⟩
  · show [address] <+: [address] ++ addresses
    exact List.prefix_append _ _
  · show 1 ≤ failed.length + 1
    omega

/-- The page for a failed attempt. -/
def connectionFailed (limits : WorkerLimits) : List UInt8 :=
  boundedResponse limits (responseBytes 502 "upstream connection failed".toList)

/-- The calls that answer with it. -/
def TurnEvent.mayFail : TurnEvent → Bool
  | .resolved _ | .writeUpstream _ | .upstreamError => true
  | _ => false

/-- What a call leaves of an exchange and its course. -/
structure Moves (env : Env σ) (event : TurnEvent) (t t' : Turn σ) (c : Connection σ)
    (course : Option (Course SocketAddr)) : Prop where
  tracks : ∀ c', t'.connection = some c' →
    Tracks c' (courseAfter event env.toIo t.log.length c course)
  ordered : ∀ k, courseAfter event env.toIo t.log.length c course = some k → k.Ordered
  /-- The page goes out for a failed attempt … -/
  answered : attemptFails event env.toIo t.log.length c = true →
    .queued (connectionFailed env.limits) ∈ t'.log.drop t.log.length
  /-- … and, whenever it does, every address was tried just when there was one. -/
  exhausted : event.mayFail = true →
    .queued (connectionFailed env.limits) ∈ t'.log.drop t.log.length →
      ∀ k, courseAfter event env.toIo t.log.length c course = some k →
        (k.Exhausted ↔ attemptFails event env.toIo t.log.length c = true
          ∧ k.candidates.length = 1)

/-! ## §3. A call. -/

/-- A removal adds to the trace at most, … -/
theorem removeConnection_log (site : RemovalSite) :
    t.log <+: (removeConnection env site t).log := by
  unfold removeConnection
  split
  · exact List.prefix_refl _
  · split_ifs
    · exact List.prefix_append _ _
    · exact List.prefix_refl _

/-- … and so does a registration. -/
theorem registered_log {interest : Interest}
    (hrun : (do
      let (ok, t) ← t.reregister env interest
      return if ok then t else removeConnection env .reregisterFailed t) = .ok t') :
    t.log <+: t'.log := by
  cases hreg : t.reregister env interest with
  | error e => simp [bind, Except.bind, hreg] at hrun
  | ok result =>
      obtain ⟨ok, t₁⟩ := result
      simp only [bind, Except.bind, hreg, pure, Except.pure] at hrun
      injection hrun with hrun
      have hkept : t.log <+: t₁.log := by
        have hlog := congrArg Seat.log (reregister_ok hreg).1
        split_ifs at hlog
        · rw [hlog]
          exact List.prefix_append _ _
        · rw [hlog]
      rw [← hrun]
      split_ifs
      · exact hkept
      · exact hkept.trans (removeConnection_log _)

/-- A response that is queued. -/
theorem queueResponse_queued (h : t.Current c) {response : List UInt8}
    (hrun : queueResponse env response t = .ok t') :
    .queued (boundedResponse env.limits response) ∈ t'.log.drop t.log.length := by
  unfold queueResponse at hrun
  rw [h.connection] at hrun
  simp only [h.isCurrent, Bool.not_true, Bool.false_eq_true, if_false] at hrun
  obtain ⟨more, hmore⟩ := registered_log hrun
  have hlog : t'.log = t.log ++ (.queued (boundedResponse env.limits response) :: more) := by
    rw [← hmore]
    show t.log ++ [_] ++ more = _
    rw [List.append_assoc]
    rfl
  rw [hlog, List.drop_left]
  exact List.mem_cons_self

/-- The page for an exchange of which nothing was relayed. -/
theorem failProxy_queued (h : t.Current c) {proxy : ProxyState} (hproxy : c.proxy = some proxy)
    (hstarted : proxy.responseStarted = false) (hempty : c.writeBuffer = []) {status : Nat}
    {message : Str} (hrun : failProxy env status message t = .ok t') :
    .queued (boundedResponse env.limits (responseBytes status message))
      ∈ t'.log.drop t.log.length := by
  unfold failProxy at hrun
  rw [h.connection] at hrun
  simp only [h.isCurrent, Bool.not_true, Bool.false_eq_true, if_false, hproxy, hstarted, hempty,
    Bool.not_false, List.isEmpty_nil, Bool.and_self, if_true] at hrun
  have hgen : c.detachProxy.generation = c.generation := by
    unfold Connection.detachProxy
    split <;> rfl
  have hcur : ({ t.put c.detachProxy with
      upstreamReadScheduled := false, upstreamWriteScheduled := false } : Turn σ).Current
        c.detachProxy := ⟨rfl, hgen.trans h.generation⟩
  exact queueResponse_queued hcur hrun

/-- Without an exchange, nothing is answered to its failure. -/
theorem failProxy_silent (h : t.Current c) (hproxy : c.proxy = none) {status : Nat}
    {message : Str} (hrun : failProxy env status message t = .ok t') (response : List UInt8) :
    .queued response ∉ t'.log.drop t.log.length := by
  unfold failProxy at hrun
  rw [h.connection] at hrun
  simp only [h.isCurrent, Bool.not_true, Bool.false_eq_true, if_false, hproxy, Bool.false_and]
    at hrun
  injection hrun with hrun
  subst hrun
  have hgen : c.detachProxy.generation = t.id.generation := by
    unfold Connection.detachProxy
    split <;> exact h.generation
  have hcur : ({ t.put c.detachProxy with
      upstreamReadScheduled := false, upstreamWriteScheduled := false } : Turn σ).Current
        c.detachProxy := ⟨rfl, hgen⟩
  rw [removeConnection_current hcur]
  show _ ∉ (t.log ++ [_]).drop t.log.length
  rw [List.drop_left]
  simp

/-- Every address of a list was tried, by the first attempt and its failure, just
when the list had no other. -/
theorem exhausted_iff {address : SocketAddr} {addresses : List SocketAddr} {fails : Bool}
    {k : Course SocketAddr}
    (hk : k = ⟨address :: addresses, [address], if fails then [address] else []⟩) :
    k.Exhausted ↔ fails = true ∧ k.candidates.length = 1 := by
  cases fails with
  | true =>
      have hfirst : k.Exhausted ↔ k.candidates.length = 1 :=
        Course.exhausted_first_iff (by rw [hk]) (by rw [hk]; rfl)
      rw [hfirst]
      simp
  | false =>
      rw [hk]
      show ([] : List SocketAddr) = address :: addresses ↔ _
      simp

/-- Without an exchange there is nothing to track. -/
theorem tracks_of_idle {course : Option (Course SocketAddr)} (h : t'.NoExchange) :
    ∀ c', t'.connection = some c' → Tracks c' course := by
  intro c' hc' hproxying
  rw [h c' hc'] at hproxying
  cases hproxying

/-- A lookup that gives no address. -/
theorem Moves.unlisted {event : TurnEvent} {course : Option (Course SocketAddr)}
    (hafter : courseAfter event env.toIo t.log.length c course = none)
    (hsound : attemptFails event env.toIo t.log.length c = false) (hidle : t'.NoExchange) :
    Moves env event t t' c course := by
  refine ⟨tracks_of_idle hidle, ?_, ?_, ?_⟩
  · intro k hk
    rw [hafter] at hk
    cases hk
  · intro hfails
    rw [hsound] at hfails
    cases hfails
  · intro _ _ k hk
    rw [hafter] at hk
    cases hk

/-- A call that answers nothing and leaves the course as it is. -/
theorem Moves.quiet {event : TurnEvent} {course : Option (Course SocketAddr)}
    (hafter : courseAfter event env.toIo t.log.length c course = course)
    (hsound : attemptFails event env.toIo t.log.length c = false)
    (htracks : ∀ c', t'.connection = some c' → Tracks c' course)
    (hordered : ∀ k, course = some k → k.Ordered)
    (hsilent : event.mayFail = true →
      .queued (connectionFailed env.limits) ∉ t'.log.drop t.log.length) :
    Moves env event t t' c course := by
  refine ⟨?_, ?_, ?_, ?_⟩
  · rw [hafter]
    exact htracks
  · rw [hafter]
    exact hordered
  · intro hfails
    rw [hsound] at hfails
    cases hfails
  · intro hevent hmem
    exact absurd hmem (hsilent hevent)

/-- The first attempt is made, or fails at once. -/
theorem Moves.begun {address : SocketAddr} {later : List SocketAddr}
    {course : Option (Course SocketAddr)} (h : t.Current c) (hresolving : c.isResolving = true)
    (hrun : finishResolution env (some (address :: later)) t = .ok t') :
    Moves env (.resolved (some (address :: later))) t t' c course := by
  generalize hfails : (env.connectFails address || env.registrationFails t.log.length) = fails
  have hcase : attemptFails (.resolved (some (address :: later))) env.toIo t.log.length c
      = fails := by
    show (c.isResolving && _) = _
    rw [hresolving, Bool.true_and]
    exact hfails
  have hafter : courseAfter (.resolved (some (address :: later))) env.toIo t.log.length c course
      = some ⟨address :: later, [address], if fails then [address] else []⟩ := by
    show (if c.isResolving = true then _ else _) = _
    rw [if_pos hresolving, hcase]
    cases fails <;> rfl
  have hput : (t.put c.beginResponse).Current c.beginResponse := ⟨rfl, h.generation⟩
  -- the page for an attempt that fails at once
  have hfailed : queueResponse env (responseBytes 502 "upstream connection failed".toList)
        (t.put c.beginResponse) = .ok t' →
      t'.NoExchange ∧ .queued (connectionFailed env.limits) ∈ t'.log.drop t.log.length := by
    intro hqueue
    have hidle : (t.put c.beginResponse).NoExchange := noExchange_of rfl rfl
    have hqueued := queueResponse_queued hput hqueue
    exact ⟨hidle.queueResponse hqueue, hqueued⟩
  have houtcome : (t'.NoExchange ∧ .queued (connectionFailed env.limits) ∈ t'.log.drop t.log.length)
      ∨ fails = false := by
    obtain ⟨r, hr⟩ := Connection.isResolving_iff.mp hresolving
    have hresolution : c.resolution = some r := by
      unfold Connection.resolution
      rw [hr]
    unfold finishResolution at hrun
    rw [h.connection] at hrun
    dsimp only at hrun
    rw [h.isCurrent, hresolving, if_neg (by simp), hresolution] at hrun
    dsimp only at hrun
    split at hrun
    · exact .inl (hfailed hrun)
    next hconnect =>
      split at hrun
      · cases hrun
      · split at hrun
        · exact .inl (hfailed hrun)
        next hregistration =>
          refine .inr ?_
          rw [← hfails, Bool.or_eq_false_iff]
          exact ⟨Bool.eq_false_iff.mpr hconnect, Bool.eq_false_iff.mpr hregistration⟩
  refine ⟨?_, ?_, ?_, ?_⟩
  · rcases houtcome with ⟨hidle, -⟩ | hgood
    · exact tracks_of_idle hidle
    · intro c' _ _
      rw [hafter, hgood]
      exact ⟨address, later, rfl⟩
  · intro k hk
    rw [hafter] at hk
    injection hk with hk
    rw [← hk]
    refine ordered_first address later _ ?_
    split_ifs
    · exact List.prefix_refl _
    · exact List.nil_prefix
  · intro hfailing
    rcases houtcome with ⟨-, hqueued⟩ | hgood
    · exact hqueued
    · rw [hcase, hgood] at hfailing
      cases hfailing
  · intro _ _ k hk
    rw [hafter] at hk
    injection hk with hk
    rw [hcase]
    exact exhausted_iff hk.symm

/-- The answer to a lookup. -/
theorem finishResolution_moves {addresses : Option (List SocketAddr)}
    {course : Option (Course SocketAddr)} (h : t.Current c) (htracks : Tracks c course)
    (hordered : ∀ k, course = some k → k.Ordered)
    (hrun : finishResolution env addresses t = .ok t') :
    Moves env (.resolved addresses) t t' c course := by
  by_cases hresolving : c.isResolving = true
  · have hunlisted : (∀ address later, addresses ≠ some (address :: later)) →
        Moves env (.resolved addresses) t t' c course := by
      intro hnot
      have hidle : t.NoExchange := by
        refine noExchange_of h.connection ?_
        obtain ⟨r, hr⟩ := Connection.isResolving_iff.mp hresolving
        unfold Connection.isProxying
        rw [hr]
      have hafter : courseAfter (.resolved addresses) env.toIo t.log.length c course = none := by
        rcases addresses with _ | _ | ⟨address, later⟩
        · exact if_pos hresolving
        · exact if_pos hresolving
        · exact absurd rfl (hnot address later)
      have hsound : attemptFails (.resolved addresses) env.toIo t.log.length c = false := by
        rcases addresses with _ | _ | ⟨address, later⟩
        · rfl
        · rfl
        · exact absurd rfl (hnot address later)
      refine .unlisted hafter hsound ?_
      unfold finishResolution at hrun
      rw [h.connection] at hrun
      dsimp only at hrun
      rw [h.isCurrent, hresolving, if_neg (by simp)] at hrun
      rcases addresses with _ | _ | ⟨address, later⟩
      · exact hidle.failResolution hrun
      · exact hidle.failResolution hrun
      · exact absurd rfl (hnot address later)
    rcases addresses with _ | _ | ⟨address, later⟩
    · exact hunlisted (by simp)
    · exact hunlisted (by simp)
    · exact .begun h hresolving hrun
  · -- the exchange waits for no lookup
    rw [Bool.not_eq_true] at hresolving
    unfold finishResolution at hrun
    rw [h.connection] at hrun
    dsimp only at hrun
    rw [hresolving, if_pos (by simp)] at hrun
    injection hrun with hrun
    subst hrun
    refine .quiet ?_ ?_ ?_ hordered (by simp)
    · unfold courseAfter
      rw [hresolving]
      rcases addresses with _ | _ | _ <;> rfl
    · unfold attemptFails
      rw [hresolving]
      rcases addresses with _ | _ | _ <;> rfl
    · intro c' hc'
      rw [h.connection] at hc'
      injection hc' with hc'
      exact hc' ▸ htracks

/-- A call that ends no attempt leaves a running exchange where it is. -/
theorem Tracks.running {course : Option (Course SocketAddr)} (h : Tracks c course)
    (hproxying : c.isProxying = true) (c' : Connection σ) : Tracks c' course :=
  fun _ => h hproxying

/-- The error of a socket that is being connected. -/
theorem Moves.failed {event : TurnEvent} {course : Option (Course SocketAddr)} {proxy : ProxyState}
    (h : t.Current c) (hinv : PhaseInv env.limits c t.log) (htracks : Tracks c course)
    (hproxy : c.proxy = some proxy) (hphase : proxy.phase = .connecting)
    (hfails : attemptFails event env.toIo t.log.length c = true)
    (hafter : courseAfter event env.toIo t.log.length c course = course.map Course.fail)
    (hrun : failProxy env 502 "upstream connection failed".toList t = .ok t') :
    Moves env event t t' c course := by
  have hproxying : c.isProxying = true :=
    Connection.isProxying_iff.mpr ⟨proxy, Connection.proxy_eq_some.mp hproxy⟩
  obtain ⟨address, later, hcourse⟩ := htracks hproxying
  have hk : ∀ k, courseAfter event env.toIo t.log.length c course = some k →
      k = ⟨address :: later, [address], [address]⟩ := by
    intro k hk
    rw [hafter, hcourse] at hk
    injection hk with hk
    exact hk.symm
  have hnothing : proxy.responseStarted = false ∧ c.writeBuffer = [] := by
    cases hinv with
    | proxying p hp _ _ _ _ hstarted hbuffer =>
        rw [Connection.proxy_eq_some, hp] at hproxy
        injection hproxy with hproxy
        subst hproxy
        have hnot : p.responseStarted = false := by
          rw [Bool.eq_false_iff]
          intro hyes
          rw [hstarted hyes] at hphase
          cases hphase
        refine ⟨hnot, ?_⟩
        by_contra hne
        rw [hbuffer hne] at hnot
        cases hnot
    | reading _ hp | resolving _ hp | writing hp =>
        rw [Connection.proxy_eq_some, hp] at hproxy
        cases hproxy
  refine ⟨tracks_of_idle (failProxy_noExchange h hrun), ?_, ?_, ?_⟩
  · intro k hsome
    rw [hk k hsome]
    exact ordered_first address later _ (List.prefix_refl _)
  · intro _
    exact failProxy_queued h hproxy hnothing.1 hnothing.2 hrun
  · intro _ _ k hsome
    rw [hfails]
    exact exhausted_iff (hk k hsome)

/-- The page for an exchange whose attempt has succeeded. -/
theorem Moves.lost {event : TurnEvent} {course : Option (Course SocketAddr)}
    (htracks : Tracks c course) (hproxying : c.isProxying = true)
    (hsound : attemptFails event env.toIo t.log.length c = false)
    (hafter : courseAfter event env.toIo t.log.length c course = course) :
    Moves env event t t' c course := by
  obtain ⟨address, later, hcourse⟩ := htracks hproxying
  refine ⟨?_, ?_, ?_, ?_⟩
  · intro c' _
    rw [hafter]
    exact htracks.running hproxying c'
  · intro k hk
    rw [hafter, hcourse] at hk
    injection hk with hk
    rw [← hk]
    exact ordered_first address later _ List.nil_prefix
  · intro hfails
    rw [hsound] at hfails
    cases hfails
  · intro _ _ k hk
    rw [hafter, hcourse] at hk
    injection hk with hk
    rw [hsound]
    exact exhausted_iff hk.symm

/-- Waiting for the attempt is the phase `connecting` of the proxy. -/
theorem isConnecting_iff :
    c.isConnecting = true ↔ ∃ proxy, c.proxy = some proxy ∧ proxy.phase = .connecting := by
  unfold Connection.isConnecting
  cases c.proxy with
  | none => simp
  | some proxy => simp

/-- A socket that reports an error is the failure of the attempt. -/
theorem writeUpstreamRequest_failed (h : t.Current c) {proxy : ProxyState}
    (hproxy : c.proxy = some proxy) (hphase : proxy.phase = .connecting)
    (herror : env.takeError = some true) :
    writeUpstreamRequest env t = failProxy env 502 "upstream connection failed".toList t := by
  unfold writeUpstreamRequest
  rw [h.connection]
  dsimp only
  rw [h.isCurrent, if_neg (by simp), hproxy]
  dsimp only
  rw [hphase]
  dsimp only
  rw [herror]

/-- The socket of the upstream takes bytes, or reports how the attempt ended. -/
theorem writeUpstream_moves {due : Bool} {course : Option (Course SocketAddr)}
    (h : t.Current c) (hinv : PhaseInv env.limits c t.log) (htracks : Tracks c course)
    (hordered : ∀ k, course = some k → k.Ordered)
    (hrun : handleTurn env (.writeUpstream due) t = .ok t') :
    Moves env (.writeUpstream due) t t' c course := by
  have hdrained : ({ t with
      upstreamWriteScheduled := t.upstreamWriteScheduled && !due } : Turn σ).Current c :=
    ⟨h.connection, h.generation⟩
  have hinv' : PhaseInv env.limits c ({ t with
      upstreamWriteScheduled := t.upstreamWriteScheduled && !due } : Turn σ).log := hinv
  by_cases hproxying : c.isProxying = true
  · by_cases hfails : attemptFails (.writeUpstream due) env.toIo t.log.length c = true
    · have hafter : courseAfter (.writeUpstream due) env.toIo t.log.length c course
          = course.map Course.fail := if_pos hfails
      have hcase : c.isConnecting = true ∧ (env.takeError == some true) = true := by
        rw [← Bool.and_eq_true]
        exact hfails
      obtain ⟨proxy, hproxy, hphase⟩ := isConnecting_iff.mp hcase.1
      have herror : env.takeError = some true := by simpa using hcase.2
      have hfail : failProxy env 502 "upstream connection failed".toList
          { t with upstreamWriteScheduled := t.upstreamWriteScheduled && !due } = .ok t' := by
        rw [← writeUpstreamRequest_failed hdrained hproxy hphase herror]
        exact hrun
      have hmoves : Moves env (.writeUpstream due)
          { t with upstreamWriteScheduled := t.upstreamWriteScheduled && !due } t' c course :=
        .failed hdrained hinv' htracks hproxy hphase hfails hafter hfail
      exact ⟨hmoves.tracks, hmoves.ordered, hmoves.answered, hmoves.exhausted⟩
    · rw [Bool.not_eq_true] at hfails
      refine .lost htracks hproxying hfails ?_
      exact if_neg (by rw [hfails]; exact Bool.false_ne_true)
  · rw [Bool.not_eq_true] at hproxying
    have hidle : ({ t with
        upstreamWriteScheduled := t.upstreamWriteScheduled && !due } : Turn σ).NoExchange :=
      noExchange_of h.connection hproxying
    have hsame := hidle.writeUpstreamRequest hrun
    have hsound : attemptFails (.writeUpstream due) env.toIo t.log.length c = false := by
      show (c.isConnecting && _) = false
      have hnone : c.isConnecting = false := by
        unfold Connection.isConnecting
        rw [proxy_none hproxying]
      rw [hnone]
      rfl
    subst hsame
    refine .quiet ?_ hsound (tracks_of_idle hidle) hordered (by simp)
    exact if_neg (by rw [hsound]; exact Bool.false_ne_true)

/-- The poller reports an error of the upstream's socket. -/
theorem upstreamError_moves {course : Option (Course SocketAddr)}
    (h : t.Current c) (hinv : PhaseInv env.limits c t.log) (htracks : Tracks c course)
    (hordered : ∀ k, course = some k → k.Ordered)
    (hrun : handleTurn env .upstreamError t = .ok t') :
    Moves env .upstreamError t t' c course := by
  by_cases hproxying : c.isProxying = true
  · by_cases hfails : c.isConnecting = true
    · obtain ⟨proxy, hproxy, hphase⟩ := isConnecting_iff.mp hfails
      exact .failed h hinv htracks hproxy hphase hfails (if_pos hfails) hrun
    · rw [Bool.not_eq_true] at hfails
      refine .lost htracks hproxying hfails ?_
      have hnot : ¬ attemptFails .upstreamError env.toIo t.log.length c = true := by
        show ¬ c.isConnecting = true
        rw [hfails]
        exact Bool.false_ne_true
      exact if_neg hnot
  · rw [Bool.not_eq_true] at hproxying
    have hidle : t.NoExchange := noExchange_of h.connection hproxying
    have hsound : attemptFails .upstreamError env.toIo t.log.length c = false := by
      show c.isConnecting = false
      unfold Connection.isConnecting
      rw [proxy_none hproxying]
    refine .quiet ?_ hsound (tracks_of_idle (hidle.failProxy hrun)) hordered ?_
    · exact if_neg (by rw [hsound]; exact Bool.false_ne_true)
    · exact fun _ => failProxy_silent h (proxy_none hproxying) hrun _

/-- **Every call keeps an exchange on its course.** -/
theorem handleTurn_moves {event : TurnEvent} {course : Option (Course SocketAddr)}
    (h : t.Current c) (hinv : PhaseInv env.limits c t.log) (htracks : Tracks c course)
    (hordered : ∀ k, course = some k → k.Ordered) (hrun : handleTurn env event t = .ok t') :
    Moves env event t t' c course := by
  have hother : event.mayFail = false → courseAfter event env.toIo t.log.length c course = course →
      attemptFails event env.toIo t.log.length c = false → event.isResolved = false →
      Moves env event t t' c course := by
    intro hmay hafter hsound hevent
    refine .quiet hafter hsound ?_ hordered (fun hyes => by rw [hmay] at hyes; cases hyes)
    by_cases hproxying : c.isProxying = true
    · exact fun c' _ => htracks.running hproxying c'
    · rw [Bool.not_eq_true] at hproxying
      have hidle : t.NoExchange := noExchange_of h.connection hproxying
      exact tracks_of_idle (hidle.turn hevent hrun)
  cases event with
  | resolved addresses => exact finishResolution_moves h htracks hordered hrun
  | writeUpstream due => exact writeUpstream_moves h hinv htracks hordered hrun
  | upstreamError => exact upstreamError_moves h hinv htracks hordered hrun
  | _ => exact hother rfl rfl rfl rfl

/-! ## §4. Runs. -/

variable {cfg : Config σ} {w w' : ReadinessWorker σ}

/-- Every exchange of the worker is where its course says. -/
structure FallsBack (w : ReadinessWorker σ) : Prop where
  tracks : ∀ id occ, w.connections.get id.slot = some occ →
    occ.connection.generation = id.generation → Tracks occ.connection (courseOf id w.history)
  ordered : ∀ id k, courseOf id w.history = some k → k.Ordered

/-- The course is read from the history item by item. -/
theorem courseOf_append (id : ConnectionId) (history items : List (HistoryItem σ)) :
    courseOf id (history ++ items)
      = items.foldl (HistoryItem.course id) (courseOf id history) :=
  List.foldl_append

/-- The course of a connection after a call for it. -/
theorem courseOf_turnItems_self {id : ConnectionId} {event : TurnEvent} {io : Io}
    {occ : Occupant σ} (hget : w.connections.get id.slot = some occ)
    (hgen : occ.connection.generation = id.generation) (t : Turn σ) :
    courseOf id (w.history ++ w.turnItems id event io t)
      = courseAfter event io (w.view id).log.length occ.connection (courseOf id w.history) := by
  have hcall : HistoryItem.course id (courseOf id w.history)
        (.turn id event io (w.view id).toSeat)
      = courseAfter event io (w.view id).log.length occ.connection (courseOf id w.history) := by
    dsimp only [HistoryItem.course]
    rw [(view_current hget hgen).connection]
    dsimp only
    rw [if_pos ⟨rfl, hgen⟩]
  rw [courseOf_append]
  unfold ReadinessWorker.turnItems
  rw [hget]
  dsimp only
  split_ifs
  · exact hcall
  · exact hcall

/-- … and of one the call is not for. -/
theorem courseOf_turnItems_other {id id' : ConnectionId} {event : TurnEvent} {io : Io}
    (hother : id ≠ id' ∨ ¬ w.Live id) (t : Turn σ) :
    courseOf id' (w.history ++ w.turnItems id event io t) = courseOf id' w.history := by
  have hcall : HistoryItem.course id' (courseOf id' w.history)
      (.turn id event io (w.view id).toSeat) = courseOf id' w.history := by
    dsimp only [HistoryItem.course]
    cases hc : (w.view id).connection with
    | none => rfl
    | some c =>
        dsimp only
        refine if_neg ?_
        rintro ⟨heq, hgen⟩
        rcases hother with hne | hstale
        · exact hne heq
        · have hstale' := view_stale hstale
          have hcur : (w.view id).Current c := by
            refine ⟨hc, ?_⟩
            rw [hgen, ← heq]
            rfl
          rw [hcur.isCurrent] at hstale'
          cases hstale'
  rw [courseOf_append]
  unfold ReadinessWorker.turnItems
  cases w.connections.get id.slot with
  | none => exact hcall
  | some occ =>
      dsimp only
      split_ifs
      · exact hcall
      · exact hcall

/-- What the call of a handler does. -/
def ReadinessWorker.turnActs (cfg : Config σ) (io : Io) (id : ConnectionId) (event : TurnEvent)
    (w : ReadinessWorker σ) : List Act :=
  match handleTurn (w.env cfg io) event (w.view id) with
  | .error _ => []
  | .ok t => t.log.drop (w.view id).log.length

/-- A call for one connection: its course follows the call, and every other stays. -/
theorem FallsBack.turn {io : Io} {id : ConnectionId} {event : TurnEvent}
    (hphases : (phaseRule cfg).Holds w) (h : FallsBack w) (hstart : w.Startable id event)
    (hrun : w.runTurn cfg io id event = .ok w') : FallsBack w' := by
  have hrun' := hrun
  obtain ⟨t, ht, rfl⟩ := runTurn_eq hrun
  by_cases hlive : w.Live id
  · obtain ⟨occ, hget, hgen⟩ := hlive
    have hcur := view_current hget hgen
    have hmoves := handleTurn_moves hcur (hphases.view hget hgen).1 (h.tracks id occ hget hgen)
      (h.ordered id) ht
    have hself : courseOf id (w.commit id event io t).history
        = courseAfter event io (w.view id).log.length occ.connection (courseOf id w.history) :=
      courseOf_turnItems_self hget hgen t
    have hother : ∀ id', id ≠ id' →
        courseOf id' (w.commit id event io t).history = courseOf id' w.history :=
      fun id' hne => courseOf_turnItems_other (.inl hne) t
    refine ⟨?_, ?_⟩
    · intro id' occ' hget' hgen'
      by_cases hslot : id.slot = id'.slot
      · rw [← hslot] at hget'
        obtain ⟨occ₀, hget₀, hsame, -⟩ := runTurn_get_self hstart hrun' hget'
        rw [hget] at hget₀
        injection hget₀ with hget₀
        subst hget₀
        have hid : id = id' := by
          have hgens : id.generation = id'.generation := by
            rw [← hgen, ← hgen', hsame.generation]
          cases id
          cases id'
          simp_all
        subst hid
        rw [commit_get_self hget] at hget'
        unfold Turn.occupant at hget'
        obtain ⟨c', hc', rfl⟩ := Option.map_eq_some_iff.mp hget'
        rw [hself]
        exact hmoves.tracks c' hc'
      · rw [commit_get_ne hslot] at hget'
        rw [hother id' (fun heq => hslot (by rw [heq]))]
        exact h.tracks id' occ' hget' hgen'
    · intro id' k hk
      by_cases hid : id = id'
      · subst hid
        rw [hself] at hk
        exact hmoves.ordered k hk
      · rw [hother id' hid] at hk
        exact h.ordered id' k hk
  · have hcourse : ∀ id', courseOf id' (w.commit id event io t).history = courseOf id' w.history :=
      fun id' => courseOf_turnItems_other (.inr hlive) t
    refine ⟨?_, ?_⟩
    · intro id' occ' hget' hgen'
      rw [stale_get hlive hrun'] at hget'
      rw [hcourse]
      exact h.tracks id' occ' hget' hgen'
    · intro id' k hk
      rw [hcourse] at hk
      exact h.ordered id' k hk

/-- A connection starts out reading its request. -/
theorem new_idle {now : Instant} {index generation : Nat} {ssl : Option LoadedSslConfig}
    {connection : Connection σ}
    (h : Connection.new cfg.tls.toRustls now index generation ssl = some connection) :
    connection.isProxying = false := by
  unfold Connection.new at h
  split at h
  · injection h with h
    exact h ▸ rfl
  · split at h
    · cases h
    · injection h with h
      exact h ▸ rfl

/-- A new connection has no course, whoever held its slot before. -/
theorem FallsBack.admitted {now : Instant} {vacantKey : Nat} {registrationFails : Bool}
    {index : Nat} {listener : RegisteredListener} (h : FallsBack w) :
    FallsBack (registerConnection cfg now vacantKey registrationFails index listener
      { w with metrics := { w.metrics with accepted := w.metrics.accepted + 1 } }) := by
  have hcourse : ∀ id id', courseOf id' (w.history ++ [.registered id])
      = if id = id' then none else courseOf id' w.history := by
    intro id id'
    rw [courseOf_append]
    rfl
  rcases registerConnection_cases now vacantKey registrationFails index listener
      { w with metrics := { w.metrics with accepted := w.metrics.accepted + 1 } } rfl with
    heq | ⟨id, hslot, -, heq | ⟨connection, interest, -, hnew, heq⟩⟩
  · rw [heq]
    exact ⟨h.tracks, h.ordered⟩
  · -- the slot is vacant: no connection has this id
    have hvacant : w.connections.get id.slot = none := by
      rw [hslot]
      exact Slab.get_vacantKey _ _
    rw [heq]
    refine ⟨?_, ?_⟩
    · intro id' occ hget hgen
      have hne : id ≠ id' := by
        rintro rfl
        rw [hvacant] at hget
        cases hget
      show Tracks _ (courseOf id' (w.history ++ [.registered id]))
      rw [hcourse, if_neg hne]
      exact h.tracks id' occ hget hgen
    · intro id' k hk
      change courseOf id' (w.history ++ [.registered id]) = some k at hk
      rw [hcourse] at hk
      split_ifs at hk
      exact h.ordered id' k hk
  · have hle : id.slot ≤ w.connections.length := by
      rw [hslot]
      exact Slab.vacantKey_le _ _
    rw [heq]
    refine ⟨?_, ?_⟩
    · intro id' occ hget hgen
      change (w.connections.insertAt id.slot _).get id'.slot = some occ at hget
      show Tracks _ (courseOf id' (w.history ++ [.registered id]))
      by_cases hself : id.slot = id'.slot
      · rw [← hself, Slab.get_insertAt_self hle] at hget
        injection hget with hget
        rw [← hget]
        intro hproxying
        rw [new_idle hnew] at hproxying
        cases hproxying
      · rw [Slab.get_insertAt_ne hle hself] at hget
        rw [hcourse, if_neg (fun heq => hself (by rw [heq]))]
        exact h.tracks id' occ hget hgen
    · intro id' k hk
      change courseOf id' (w.history ++ [.registered id]) = some k at hk
      rw [hcourse] at hk
      split_ifs at hk
      exact h.ordered id' k hk

/-- The same for every atom of a step, … -/
theorem FallsBack.tick (hphases : (phaseRule cfg).Holds w) (h : FallsBack w)
    (htick : Tick cfg w w') : FallsBack w' := by
  cases htick with
  | turn io id event hstart hrun => exact h.turn hphases hstart hrun
  | admitted => exact h.admitted
  | polled =>
      refine ⟨?_, h.ordered⟩
      intro id occ hget hgen
      change Slab.get (w.connections.map (Option.map Occupant.poll)) id.slot = _ at hget
      rw [poll_get] at hget
      obtain ⟨occ₀, hget₀, rfl⟩ := Option.map_eq_some_iff.mp hget
      exact h.tracks id occ₀ hget₀ hgen
  | flags => exact ⟨h.tracks, h.ordered⟩

/-- … for the atoms in a row, … -/
theorem FallsBack.ticks (hphases : (phaseRule cfg).Holds w) (h : FallsBack w)
    (hpath : Ticks cfg w w') : FallsBack w' := by
  induction hpath with
  | refl => exact h
  | tail hbefore htick ih =>
      have hsafe : (phaseRule cfg).Safe w := fun _ => hphases
      exact ih.tick (hsafe.atoms (Ticks.atoms hbefore) (fun _ _ => trivial)) htick

/-- … and in every reachable state. -/
theorem Reachable.fallsBack (h : Reachable cfg w) : FallsBack w := by
  induction h with
  | new hnew =>
      unfold ReadinessWorker.new at hnew
      split_ifs at hnew
      injection hnew with hnew
      subst hnew
      refine ⟨?_, fun id k hk => by cases hk⟩
      intro id occ hget
      simp [Slab.get] at hget
  | step event hbefore hstep ih => exact ih.ticks hbefore.phases (step_ticks hstep)

/-- An attempt that fails has a course. -/
theorem attempted {event : TurnEvent} {io : Io} {steps : Nat}
    {course : Option (Course SocketAddr)} (htracks : Tracks c course)
    (hfails : attemptFails event io steps c = true) :
    ∃ k, courseAfter event io steps c course = some k := by
  have hconnecting : c.isConnecting = true → ∃ k, course.map Course.fail = some k := by
    intro h
    obtain ⟨proxy, hproxy, -⟩ := isConnecting_iff.mp h
    obtain ⟨address, later, hcourse⟩ :=
      htracks (Connection.isProxying_iff.mpr ⟨proxy, Connection.proxy_eq_some.mp hproxy⟩)
    rw [hcourse]
    exact ⟨_, rfl⟩
  cases event with
  | resolved addresses =>
      rcases addresses with _ | _ | ⟨address, later⟩
      · cases hfails
      · cases hfails
      · have hresolving : c.isResolving = true := by
          have hboth : (c.isResolving && (io.connectFails address || io.registrationFails steps))
              = true := hfails
          exact (Bool.and_eq_true_iff.mp hboth).1
        exact ⟨_, if_pos hresolving⟩
  | writeUpstream due =>
      have hboth : (c.isConnecting && io.takeError == some true) = true := hfails
      obtain ⟨k, hk⟩ := hconnecting (Bool.and_eq_true_iff.mp hboth).1
      exact ⟨k, (if_pos hfails).trans hk⟩
  | upstreamError =>
      obtain ⟨k, hk⟩ := hconnecting hfails
      exact ⟨k, (if_pos hfails).trans hk⟩
  | _ => cases hfails

/-- **A failed attempt is answered at once**, and every address was tried just when
there was no second one. -/
theorem failed_after_first_address {w₁ w₂ : ReadinessWorker σ} {io : Io} {id : ConnectionId}
    {event : TurnEvent} {occ : Occupant σ} (h : Reachable cfg w) (hpath : Ticks cfg w w₁)
    (hget : w₁.connections.get id.slot = some occ)
    (hgen : occ.connection.generation = id.generation) (hstart : w₁.Startable id event)
    (hrun : w₁.runTurn cfg io id event = .ok w₂) :
    (∀ id' k, courseOf id' w₂.history = some k → k.Ordered)
    ∧ (attemptFails event io occ.log.length occ.connection = true →
        .queued (connectionFailed cfg.limits) ∈ w₁.turnActs cfg io id event
        ∧ ∃ k, courseOf id w₂.history = some k ∧ (k.Exhausted ↔ k.candidates.length = 1))
    ∧ (event.mayFail = true →
        .queued (connectionFailed cfg.limits) ∈ w₁.turnActs cfg io id event →
        ∀ k, courseOf id w₂.history = some k →
          (k.Exhausted ↔ attemptFails event io occ.log.length occ.connection = true
            ∧ k.candidates.length = 1)) := by
  have hphases : (phaseRule cfg).Holds w₁ := by
    have hsafe : (phaseRule cfg).Safe w := fun _ => h.phases
    exact hsafe.atoms (Ticks.atoms hpath) (fun _ _ => trivial)
  have hfalls : FallsBack w₁ := h.fallsBack.ticks h.phases hpath
  have hafter := hfalls.turn hphases hstart hrun
  obtain ⟨t, ht, rfl⟩ := runTurn_eq hrun
  have hlog : (w₁.view id).log = occ.log := view_log hget
  have hself : courseOf id (w₁.commit id event io t).history
      = courseAfter event io occ.log.length occ.connection (courseOf id w₁.history) := by
    rw [← hlog]
    exact courseOf_turnItems_self hget hgen t
  have hmoves := handleTurn_moves (view_current hget hgen) (hphases.view hget hgen).1
    (hfalls.tracks id occ hget hgen) (hfalls.ordered id) ht
  have hacts : w₁.turnActs cfg io id event = t.log.drop (w₁.view id).log.length := by
    unfold ReadinessWorker.turnActs
    rw [ht]
  have hanswered := hmoves.answered
  have hexhausted := hmoves.exhausted
  rw [← hacts, hlog] at hanswered hexhausted
  rw [hself]
  refine ⟨hafter.ordered, ?_, hexhausted⟩
  intro hfails
  have hqueued := hanswered hfails
  obtain ⟨k, hk⟩ := attempted (hfalls.tracks id occ hget hgen) hfails
  refine ⟨hqueued, k, hk, ?_⟩
  have hmay : event.mayFail = true := by
    cases event with
    | resolved | writeUpstream | upstreamError => rfl
    | _ => cases hfails
  rw [hexhausted hmay hqueued k hk]
  exact ⟨fun hboth => hboth.2, fun hone => ⟨hfails, hone⟩⟩

end Thwip.Readiness
