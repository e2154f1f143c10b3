/-
  Thwip.Readiness.Isolation — failures of one connection, and where they end.

  A handler reports what it cannot do and closes or answers the connection it is for.
  Three of its calls use `?` instead, and end the worker: `take_error` on a connecting
  upstream, the registration for the next chunk of a file, and the upstream's token.
  `Escapes` says when a handler meets one of them; every other failure stays with the
  connection.
-/
import Thwip.Readiness.Shared

namespace Thwip.Readiness

open Thwip.Lib

variable {σ : Type} {cfg : Config σ} {env : Env σ} {event : TurnEvent} {t t₁ t' : Turn σ}
  {c : Connection σ}

/-! ## §1. The calls that end the worker. -/

/-- The next chunk of the file, or the wait for it, needs a registration that the poller
refuses.  `noted` is the length of the trace when the stream is asked. -/
def Connection.chunkRefused (env : Env σ) (noted : Nat) (self : Connection σ) : Bool :=
  self.staticStream.any (fun stream =>
    match (stream.tryNext env.arrived).1 with
    | some (.data _) => env.registrationFails (noted + 1)
    | some .pending => env.registrationFails noted
    | _ => false)

/-- The upstream's token cannot be made for this id. -/
def ConnectionId.tokenless (self : ConnectionId) : Bool :=
  (self.token usizeBits .upstream).toOption.isNone

/-- The rest of the request goes out in this turn. -/
def ProxyState.finishes (env : Env σ) (self : ProxyState) : Bool :=
  (forwardLoop env.now maxWritesPerEvent self env.upstreamWrites).ending == .finished

/-- The response, or this chunk of it, goes out in this turn and a file goes on. -/
def Connection.asksForChunk (env : Env σ) (self : Connection σ) (pass : WritePass σ) : Bool :=
  !(self.ssl.isSome && self.writeFinished env.tls.toRustls)
    && pass.ending == .stopped && pass.connection.writeFinished env.tls.toRustls
    && (pass.connection.isWritingResponse || pass.connection.isProxying)

/-- In this turn, which finds `c`, the handler passes an error on to `run`. -/
def Escapes (env : Env σ) (t : Turn σ) (c : Connection σ) : TurnEvent → Bool
  | .pump => c.chunkRefused env t.log.length
  | .writeReady _ =>
      let pass := writeLoop env.tls env.now maxWritesPerEvent c env.writes
      c.asksForChunk env pass
        && pass.connection.chunkRefused env (t.log.length + pass.acts.length + 1)
  | .writeUpstream _ =>
      c.proxy.any (fun proxy =>
        match proxy.phase with
        | .readingResponse => false
        | .writingRequest => proxy.finishes env && t.id.tokenless
        | .connecting =>
            match env.takeError with
            | none => true
            | some true => false
            | some false =>
                (proxy.transition env.now .writingRequest).finishes env && t.id.tokenless)
  | .resolved (some (address :: _)) =>
      c.isResolving && !env.connectFails address && t.id.tokenless
  | _ => false

/-! ## §2. What a handler may leave. -/

/-- The connection is gone, or a response has been queued for it since. -/
def Settled (t t' : Turn σ) : Prop :=
  t'.connection = none ∨ ∃ response, .queued response ∈ t'.log.drop t.log.length

/-- The trace only grows, and the connection stays the same one or goes. -/
structure Grows (t t' : Turn σ) : Prop where
  id : t'.id = t.id
  client : ∀ c', t'.connection = some c' →
    ∃ c, t.connection = some c ∧ c'.generation = c.generation
  log : t.log <+: t'.log

theorem Grows.refl (t : Turn σ) : Grows t t :=
  ⟨rfl, fun c hc => ⟨c, hc, rfl⟩, List.prefix_refl _⟩

theorem Grows.trans (h : Grows t t₁) (h' : Grows t₁ t') : Grows t t' := by
  refine ⟨h'.id.trans h.id, ?_, h.log.trans h'.log⟩
  intro c' hc'
  obtain ⟨c₁, hc₁, hgen'⟩ := h'.client c' hc'
  obtain ⟨c, hc, hgen⟩ := h.client c₁ hc₁
  exact ⟨c, hc, hgen'.trans hgen⟩

/-- Another state of the same connection, and more in the trace. -/
theorem grows_put (hc : t.connection = some c) {c' : Connection σ}
    (hgen : c'.generation = c.generation) (acts : List Act) :
    Grows t ((t.put c').note acts) := by
  refine ⟨rfl, ?_, List.prefix_append _ _⟩
  intro c₁ hc₁
  injection hc₁ with hc₁
  exact ⟨c, hc, hc₁ ▸ hgen⟩

theorem grows_put_only (hc : t.connection = some c) {c' : Connection σ}
    (hgen : c'.generation = c.generation) : Grows t (t.put c') := by
  refine ⟨rfl, ?_, List.prefix_refl _⟩
  intro c₁ hc₁
  injection hc₁ with hc₁
  exact ⟨c, hc, hc₁ ▸ hgen⟩

/-- Nothing but flags, metrics and tasks. -/
theorem grows_same (hid : t'.id = t.id) (hconnection : t'.connection = t.connection)
    (hlog : t'.log = t.log) : Grows t t' :=
  ⟨hid, fun c hc => ⟨c, hconnection ▸ hc, rfl⟩, by rw [hlog]⟩

theorem Grows.gone (h : Grows t t') (hgone : t.connection = none) : t'.connection = none := by
  cases hc' : t'.connection with
  | none => rfl
  | some c' =>
      obtain ⟨c, hc, -⟩ := h.client c' hc'
      rw [hgone] at hc
      cases hc

/-- If the connection is still there, it is still the one the turn is for. -/
theorem Grows.current (h : Grows t t') (hcur : t.Current c) :
    t'.connection = none ∨ ∃ c', t'.Current c' := by
  cases hc' : t'.connection with
  | none => exact .inl rfl
  | some c' =>
      obtain ⟨c₁, hc₁, hgen⟩ := h.client c' hc'
      obtain rfl := Seat.connection_unique hcur.connection hc₁
      exact .inr ⟨c', hc', by rw [hgen, hcur.generation, h.id]⟩

theorem removeConnection_grows (env : Env σ) (site : RemovalSite) (t : Turn σ) :
    Grows t (removeConnection env site t) := by
  unfold removeConnection
  split
  · exact .refl t
  · split_ifs
    · refine ⟨rfl, ?_, List.prefix_append _ _⟩
      intro c' hc'
      cases hc'
    · exact .refl t

theorem Settled.then (h : Settled t t₁) (h' : Grows t₁ t') : Settled t t' := by
  rcases h with hgone | ⟨response, hmem⟩
  · exact .inl (h'.gone hgone)
  · obtain ⟨acts, hacts⟩ := h'.log
    refine .inr ⟨response, ?_⟩
    rw [← hacts, List.drop_append]
    exact List.mem_append_left _ hmem

theorem Settled.after (h : Settled t₁ t') (h' : Grows t t₁) : Settled t t' := by
  rcases h with hgone | ⟨response, hmem⟩
  · exact .inl hgone
  · refine .inr ⟨response, ?_⟩
    have hle : t.log.length ≤ t₁.log.length := h'.log.length_le
    have hdrop : t'.log.drop t₁.log.length
        = (t'.log.drop t.log.length).drop (t₁.log.length - t.log.length) := by
      rw [List.drop_drop]
      congr 1
      omega
    rw [hdrop] at hmem
    exact List.mem_of_mem_drop hmem

/-- The same outside, with a poller that refuses nothing. -/
def Env.registering (env : Env σ) : Env σ := { env with registrationFails := fun _ => false }

/-- The call returns, and answers or closes the connection. -/
def Answered (t : Turn σ) (x : Except Exit (Turn σ)) : Prop :=
  ∃ t', x = .ok t' ∧ Grows t t' ∧ Settled t t'

/-- The call returns; it answers or closes the connection, or it does what it would do if
the poller refused nothing (`x'`). -/
def Stays (t : Turn σ) (x x' : Except Exit (Turn σ)) : Prop :=
  ∃ t', x = .ok t' ∧ Grows t t' ∧ (Settled t t' ∨ x' = .ok t')

section Calls

variable {x x' : Except Exit (Turn σ)}

theorem Answered.stays (h : Answered t x) : Stays t x x' := by
  obtain ⟨t', hx, hgrows, hsettled⟩ := h
  exact ⟨t', hx, hgrows, .inl hsettled⟩

theorem Answered.after (h : Answered t₁ x) (h' : Grows t t₁) : Answered t x := by
  obtain ⟨t', hx, hgrows, hsettled⟩ := h
  exact ⟨t', hx, h'.trans hgrows, hsettled.after h'⟩

/-- The connection of the turn is closed. -/
theorem answered_removed (h : t.Current c) (site : RemovalSite) :
    Answered t (.ok (removeConnection env site t)) :=
  ⟨_, rfl, removeConnection_grows env site t, .inl (h.removed env site)⟩

theorem stays_ok (h : Grows t t') : Stays t (.ok t') (.ok t') := ⟨t', rfl, h, .inr rfl⟩

theorem Stays.after (h : Stays t₁ x x') (h' : Grows t t₁) : Stays t x x' := by
  obtain ⟨t', hx, hgrows, hsettles⟩ := h
  exact ⟨t', hx, h'.trans hgrows, hsettles.imp_left (fun hs => hs.after h')⟩

theorem Stays.bind {f f' : Turn σ → Except Exit (Turn σ)} (h : Stays t x x')
    (hf : ∀ t₁, Grows t t₁ → Stays t₁ (f t₁) (f' t₁)) : Stays t (x >>= f) (x' >>= f') := by
  obtain ⟨t₁, rfl, hgrows, hsettles⟩ := h
  obtain ⟨t', ht', hgrows', hsettles'⟩ := hf t₁ hgrows
  refine ⟨t', ht', hgrows.trans hgrows', ?_⟩
  rcases hsettles with hsettled | rfl
  · exact .inl (hsettled.then hgrows')
  · exact hsettles'.imp_left (fun hs => hs.after hgrows)

end Calls

/-! ## §3. Registrations and responses. -/

/-- The client's token can be made for this id. -/
def ConnectionId.Tokened (self : ConnectionId) : Prop :=
  ∃ token, self.token usizeBits .client = .ok token

theorem reregister_eq (htoken : t.id.Tokened) (interest : Interest) :
    t.reregister env interest
      = .ok (if env.registrationFails t.log.length then (false, t)
        else (true, { t with interest, log := t.log ++ [.reregistered interest] })) := by
  obtain ⟨token, htoken⟩ := htoken
  unfold Turn.reregister
  rw [htoken]
  dsimp only
  split_ifs <;> rfl

theorem grows_reregistered (t : Turn σ) (interest : Interest) :
    Grows t { t with interest, log := t.log ++ [.reregistered interest] } :=
  ⟨rfl, fun c hc => ⟨c, hc, rfl⟩, List.prefix_append _ _⟩

/-- A client whose registration is refused is closed. -/
theorem reregisterClient_stays (h : t.Current c) (htoken : t.id.Tokened) (interest : Interest) :
    Stays t (reregisterClient env interest t) (reregisterClient env.registering interest t) := by
  unfold reregisterClient
  rw [h.connection]
  simp only [reregister_eq htoken, bind, Except.bind, pure, Except.pure]
  by_cases hfails : env.registrationFails t.log.length = true
  · rw [if_pos hfails]
    exact (answered_removed h .reregisterFailed).stays
  · rw [if_neg hfails]
    exact stays_ok (grows_reregistered t interest)

theorem reregister_put_stays (h : t.Current c) (htoken : t.id.Tokened) {c' : Connection σ}
    (hgen : c'.generation = c.generation) (acts : List Act) (interest : Interest) :
    Stays t (reregisterClient env interest ((t.put c').note acts))
      (reregisterClient env.registering interest ((t.put c').note acts)) := by
  have hcur : ((t.put c').note acts).Current c' := ⟨rfl, hgen.trans h.generation⟩
  exact (reregisterClient_stays hcur htoken interest).after (grows_put h.connection hgen acts)

/-- A queued response answers the connection, also when it is then closed. -/
theorem queueResponse_answered (h : t.Current c) (htoken : t.id.Tokened) (response : List UInt8) :
    Answered t (queueResponse env response t) := by
  rw [queueResponse_eq h]
  generalize hqueued : (t.put (c.setResponse (boundedResponse env.limits response))).note
    [.queued (boundedResponse env.limits response)] = t₁
  have hgrows : Grows t t₁ := hqueued ▸ grows_put h.connection (by rfl) _
  have hcur : t₁.Current (c.setResponse (boundedResponse env.limits response)) := by
    rw [← hqueued]
    exact ⟨rfl, h.generation⟩
  have hstays : Stays t₁ (reregisterClient env .write t₁)
      (reregisterClient env.registering .write t₁) :=
    reregisterClient_stays hcur (by rw [hgrows.id]; exact htoken) .write
  obtain ⟨t', hrun, hgrows', -⟩ := hstays
  have hsettled : Settled t t₁ := by
    refine .inr ⟨boundedResponse env.limits response, ?_⟩
    rw [← hqueued]
    show _ ∈ (t.log ++ _).drop t.log.length
    rw [List.drop_left]
    exact List.mem_singleton.mpr rfl
  exact ⟨t', hrun, hgrows.trans hgrows', hsettled.then hgrows'⟩

theorem queueStaticResponse_answered (h : t.Current c) (htoken : t.id.Tokened)
    (response : StaticStreamResponse) : Answered t (queueStaticResponse env response t) := by
  unfold queueStaticResponse
  rw [h.connection]
  simp only [h.isCurrent, Bool.not_true, Bool.false_eq_true, if_false]
  have hgrows : Grows t ((t.put { c with staticStream := response.stream }).note
      [.serving response.head response.stream]) := grows_put h.connection (by rfl) _
  have hcur : ((t.put { c with staticStream := response.stream }).note
      [.serving response.head response.stream]).Current
        { c with staticStream := response.stream } := ⟨rfl, h.generation⟩
  exact (queueResponse_answered hcur htoken _).after hgrows

theorem closeClient_stays (h : t.Current c) (htoken : t.id.Tokened) (site : RemovalSite) :
    Stays t (closeClient env site t) (closeClient env.registering site t) := by
  unfold closeClient
  rw [h.connection]
  simp only [h.isCurrent, Bool.not_true, Bool.false_eq_true, if_false]
  split
  · exact (answered_removed h site).stays
  next ssl hssl =>
    split_ifs
    · exact (answered_removed h site).stays
    · exact reregister_put_stays h htoken (by rfl) _ .write

/-- A registration that has to succeed, and does. -/
theorem mustReregister_stays (hgrows : Grows t t₁) (htoken : t.id.Tokened)
    (haccepted : env.registrationFails t₁.log.length = false) (interest : Interest) :
    Stays t (t₁.mustReregister env interest) (t₁.mustReregister env.registering interest) := by
  have htoken₁ : t₁.id.Tokened := by
    rw [hgrows.id]
    exact htoken
  unfold Turn.mustReregister
  simp only [reregister_eq htoken₁, bind, Except.bind, pure, Except.pure]
  rw [haccepted]
  exact (stays_ok (grows_reregistered t₁ interest)).after hgrows

/-- The file's next chunk: unless its registration is refused, the connection goes on or is
closed. -/
theorem advanceStaticStream_stays (h : t.Current c) (htoken : t.id.Tokened)
    (hstream : c.staticStream.isSome = true)
    (hrefused : c.chunkRefused env t.log.length = false) :
    Stays t (advanceStaticStream env t) (advanceStaticStream env.registering t) := by
  obtain ⟨stream, hstream⟩ := Option.isSome_iff_exists.mp hstream
  unfold Connection.chunkRefused at hrefused
  rw [hstream, Option.any_some] at hrefused
  unfold advanceStaticStream
  rw [h.connection]
  simp only [h.isCurrent, Bool.not_true, Bool.false_eq_true, if_false, hstream]
  cases hnext : stream.tryNext env.arrived with
  | mk next rest =>
      have hnext' : stream.tryNext env.registering.arrived = (next, rest) := hnext
      rw [hnext] at hrefused
      simp only [hnext']
      cases next with
      | none =>
          have hcur : t.countError.Current c := ⟨h.connection, h.generation⟩
          have hgrows : Grows t t.countError := grows_same rfl rfl rfl
          exact ((answered_removed hcur .streamFailed).after hgrows).stays
      | some chunk =>
          cases chunk with
          | data bytes =>
              refine mustReregister_stays (grows_put h.connection (by rfl) _) htoken ?_ .write
              show env.registrationFails (t.log ++ [_]).length = false
              rw [List.length_append]
              exact hrefused
          | pending =>
              refine mustReregister_stays (grows_put_only h.connection (by rfl)) htoken ?_ .read
              exact hrefused
          | finished =>
              have hcur : t.countResponse.Current c := ⟨h.connection, h.generation⟩
              have hgrows : Grows t t.countResponse :=
                ⟨rfl, fun c' hc' => ⟨c', hc', rfl⟩, List.prefix_append _ _⟩
              exact ((answered_removed hcur .streamFinished).after hgrows).stays

/-! ## §4. The upstream. -/

theorem detachProxy_generation (c : Connection σ) : c.detachProxy.generation = c.generation := by
  unfold Connection.detachProxy
  split <;> rfl

theorem failProxy_answered (h : t.Current c) (htoken : t.id.Tokened) (status : Nat)
    (message : Str) : Answered t (failProxy env status message t) := by
  unfold failProxy
  rw [h.connection]
  simp only [h.isCurrent, Bool.not_true, Bool.false_eq_true, if_false]
  generalize hdetached : ({ t.put c.detachProxy with
    upstreamReadScheduled := false, upstreamWriteScheduled := false } : Turn σ) = t₁
  have hgrows : Grows t t₁ := by
    have hput : Grows t (t.put c.detachProxy) :=
      grows_put_only h.connection (detachProxy_generation c)
    rw [← hdetached]
    exact hput.trans (grows_same rfl rfl rfl)
  have hcur : t₁.Current c.detachProxy := by
    rw [← hdetached]
    exact ⟨rfl, (detachProxy_generation c).trans h.generation⟩
  have htoken₁ : t₁.id.Tokened := by
    rw [hgrows.id]
    exact htoken
  split_ifs
  · exact (queueResponse_answered hcur htoken₁ _).after hgrows
  · exact (answered_removed hcur .proxyFailed).after hgrows

theorem failResolution_answered (h : t.Current c) (htoken : t.id.Tokened)
    (hresolving : c.isResolving = true) (status : Nat) (message : Str) :
    Answered t (failResolution env status message t) := by
  unfold failResolution
  rw [h.connection]
  simp only [h.isCurrent, hresolving, Bool.not_true, Bool.or_self, Bool.false_eq_true, if_false]
  exact queueResponse_answered h htoken _

theorem upstream_token_of {id : ConnectionId} (h : id.tokenless = false) :
    ∃ token, id.token usizeBits .upstream = .ok token := by
  unfold ConnectionId.tokenless at h
  cases htoken : id.token usizeBits .upstream with
  | error message =>
      rw [htoken] at h
      cases h
  | ok token => exact ⟨token, rfl⟩

/-- A lookup that fails, an upstream that cannot be reached or registered: the client is
told. -/
theorem finishResolution_stays (h : t.Current c) (htoken : t.id.Tokened)
    {addresses : Option (List SocketAddr)}
    (hfree : Escapes env t c (.resolved addresses) = false) :
    Stays t (finishResolution env addresses t) (finishResolution env.registering addresses t) := by
  unfold finishResolution
  rw [h.connection]
  by_cases hresolving : c.isResolving = true
  · simp only [h.isCurrent, hresolving, Bool.not_true, Bool.or_self, Bool.false_eq_true, if_false]
    match addresses with
    | none => exact (failResolution_answered h htoken hresolving _ _).stays
    | some [] => exact (failResolution_answered h htoken hresolving _ _).stays
    | some (address :: rest) =>
        dsimp only
        cases hresolution : c.resolution with
        | none => exact stays_ok (.refl t)
        | some resolution =>
            have hgrows : Grows t (t.put c.beginResponse) :=
              grows_put_only h.connection (by rfl)
            have hcur : (t.put c.beginResponse).Current c.beginResponse := ⟨rfl, h.generation⟩
            have hanswered : Answered t (queueResponse env
                (responseBytes 502 "upstream connection failed".toList) (t.put c.beginResponse)) :=
              (queueResponse_answered hcur htoken _).after hgrows
            dsimp only
            by_cases hconnect : env.connectFails address = true
            · rw [if_pos hconnect]
              exact hanswered.stays
            · rw [if_neg hconnect, if_neg (show ¬ env.registering.connectFails address = true
                from hconnect)]
              have hnamed : t.id.tokenless = false := by
                unfold Escapes at hfree
                simpa [hresolving, hconnect] using hfree
              obtain ⟨token, hupstream⟩ := upstream_token_of hnamed
              rw [show (t.put c.beginResponse).id.token usizeBits .upstream = .ok token
                from hupstream]
              dsimp only
              rw [if_neg (show ¬ env.registering.registrationFails _ = true from
                Bool.false_ne_true)]
              split_ifs
              · exact hanswered.stays
              · exact stays_ok (hgrows.trans (grows_put_only rfl (by rfl)))
  · simp only [h.isCurrent, hresolving, Bool.not_true, Bool.not_false, Bool.false_or, if_true]
    exact stays_ok (.refl t)

/-- The forwarded bytes are in the trace, and the exchange is as the loop left it. -/
theorem forwarded_grows (h : t.Current c) (now : Instant) (pass : ForwardPass) :
    Grows t ((t.put (c.afterForwarding now pass)).note (pass.forwarded.map Act.forwarded))
      ∧ ((t.put (c.afterForwarding now pass)).note (pass.forwarded.map Act.forwarded)).Current
        (c.afterForwarding now pass) := by
  have hgeneration : (c.afterForwarding now pass).generation = c.generation := by
    unfold Connection.afterForwarding
    dsimp only
    split_ifs <;> rfl
  exact ⟨grows_put h.connection hgeneration _, rfl, hgeneration.trans h.generation⟩

/-- A request that cannot be forwarded is answered. -/
theorem forwardRequest_stays (h : t.Current c) (htoken : t.id.Tokened) (proxy : ProxyState)
    (hfree : (proxy.finishes env && t.id.tokenless) = false) :
    Stays t (forwardRequest env c proxy t) (forwardRequest env.registering c proxy t) := by
  unfold ProxyState.finishes at hfree
  unfold forwardRequest
  rw [show forwardLoop env.registering.now maxWritesPerEvent proxy env.registering.upstreamWrites
    = forwardLoop env.now maxWritesPerEvent proxy env.upstreamWrites from rfl]
  generalize forwardLoop env.now maxWritesPerEvent proxy env.upstreamWrites = pass at hfree ⊢
  dsimp only
  obtain ⟨hgrows, hcur⟩ := forwarded_grows h env.now pass
  cases hending : pass.ending with
  | blocked => exact stays_ok hgrows
  | failed => exact ((failProxy_answered hcur htoken _ _).after hgrows).stays
  | stopped => exact stays_ok (hgrows.trans (grows_same rfl rfl rfl))
  | finished =>
      rw [hending] at hfree
      obtain ⟨token, hupstream⟩ := upstream_token_of (by simpa using hfree)
      -- the exchange enters its reading phase, for which the upstream is registered again
      simp only [show env.registering.now = env.now from rfl]
      generalize hread : (c.afterForwarding env.now pass).beginProxy
        (pass.proxy.transition env.now .readingResponse) = c₂
      have hsame : c₂.generation = (c.afterForwarding env.now pass).generation := by
        rw [← hread]
        rfl
      have hgrows₂ := hgrows.trans (grows_put_only hcur.connection hsame)
      have hcur₂ := hcur.put hsame
      generalize ((t.put (c.afterForwarding env.now pass)).note
        (pass.forwarded.map Act.forwarded)).put c₂ = t₂ at hgrows₂ hcur₂ ⊢
      rw [hgrows₂.id, hupstream]
      dsimp only
      rw [if_neg (show ¬ env.registering.registrationFails _ = true from Bool.false_ne_true)]
      split_ifs
      · refine ((failProxy_answered hcur₂ ?_ _ _).after hgrows₂).stays
        rw [hgrows₂.id]
        exact htoken
      · exact stays_ok hgrows₂

/-- `take_error` must answer; what it reports, and what the socket reports, ends the
exchange only. -/
theorem writeUpstreamRequest_stays (h : t.Current c) (htoken : t.id.Tokened) (due : Bool)
    (hfree : Escapes env t c (.writeUpstream due) = false) :
    Stays t (writeUpstreamRequest env t) (writeUpstreamRequest env.registering t) := by
  unfold writeUpstreamRequest
  rw [h.connection]
  simp only [h.isCurrent, Bool.not_true, Bool.false_eq_true, if_false]
  cases hproxy : c.proxy with
  | none => exact stays_ok (.refl t)
  | some proxy =>
      unfold Escapes at hfree
      rw [hproxy, Option.any_some] at hfree
      dsimp only
      cases hphase : proxy.phase with
      | readingResponse => exact stays_ok (.refl t)
      | writingRequest =>
          rw [hphase] at hfree
          exact forwardRequest_stays h htoken proxy hfree
      | connecting =>
          rw [hphase] at hfree
          rw [show env.registering.takeError = env.takeError from rfl]
          cases htake : env.takeError with
          | none =>
              rw [htake] at hfree
              cases hfree
          | some reported =>
              rw [htake] at hfree
              cases reported with
              | true => exact (failProxy_answered h htoken _ _).stays
              | false => exact forwardRequest_stays h htoken _ hfree

theorem markUpstreamEof_grows (h : t.Current c) : Grows t (markUpstreamEof env t) := by
  unfold markUpstreamEof
  rw [h.connection]
  simp only [h.isCurrent, Bool.not_true, Bool.false_eq_true, if_false]
  have hput : ∀ c' : Connection σ, c'.generation = c.generation →
      Grows t (if c'.writeBuffer.isEmpty then removeConnection env .upstreamEof (t.put c')
        else t.put c') := by
    intro c' hgen
    have hgrows := grows_put_only h.connection hgen
    split_ifs
    · exact hgrows.trans (removeConnection_grows env _ _)
    · exact hgrows
  cases c.proxy with
  | none => exact hput c rfl
  | some proxy => exact hput _ rfl

theorem readUpstreamResponse_stays (env : Env σ) (h : t.Current c) (htoken : t.id.Tokened) :
    Stays t (readUpstreamResponse env t) (readUpstreamResponse env.registering t) := by
  unfold readUpstreamResponse
  rw [h.connection]
  simp only [h.isCurrent, Bool.not_true, Bool.false_or]
  by_cases hbuffer : c.writeBuffer.isEmpty = true
  · rw [hbuffer]
    simp only [Bool.not_true, Bool.false_eq_true, if_false]
    cases hproxy : c.proxy with
    | none => exact stays_ok (.refl t)
    | some proxy =>
        dsimp only
        by_cases hphase : proxy.phase ≠ .readingResponse
        · rw [if_pos hphase, if_pos hphase]
          exact stays_ok (.refl t)
        · rw [if_neg hphase, if_neg hphase]
          rw [show firstRead env.registering.upstreamReads = firstRead env.upstreamReads from rfl]
          cases hread : firstRead env.upstreamReads with
          | wouldBlock => exact stays_ok (.refl t)
          | interrupted => exact stays_ok (.refl t)
          | failed => exact (failProxy_answered h htoken _ _).stays
          | ok available =>
              dsimp only
              rw [show env.registering.limits = env.limits from rfl]
              split_ifs
              · exact stays_ok (markUpstreamEof_grows h)
              · have hbytes : (t.readBytes (available.take
                    (min readBufferLen env.limits.maxWriteBufferSize)).length).Current c :=
                  ⟨h.connection, h.generation⟩
                exact (reregister_put_stays hbytes htoken (by rfl) _ .write).after
                  (grows_same rfl rfl rfl)
  · rw [if_pos (by simpa using hbuffer), if_pos (by simpa using hbuffer)]
    exact stays_ok (.refl t)

/-! ## §5. Requests. -/

/-- The arithmetic on the weights panics, whatever the poller says. -/
def Unbalanced {α : Type} (x x' : Except Exit α) : Prop :=
  x = .error (.panic .balancer) ∧ x' = .error (.panic .balancer)

/-- The answer to a request: it returns, unless the balancer panics; where nothing more is
done afterwards (`false`), there is an answer. -/
def Replies (t : Turn σ) (x x' : Except Exit (Bool × Turn σ)) : Prop :=
  Unbalanced x x'
    ∨ ∃ goesOn t', x = .ok (goesOn, t') ∧ Grows t t'
      ∧ (Settled t t' ∨ goesOn = true ∧ x' = .ok (true, t'))

theorem replies_answered {x : Except Exit (Turn σ)} (h : Answered t x) (goesOn : Bool)
    {x' : Except Exit (Bool × Turn σ)} :
    Replies t (do let t ← x; return (goesOn, t)) x' := by
  obtain ⟨t', rfl, hgrows, hsettled⟩ := h
  exact .inr ⟨goesOn, t', rfl, hgrows, .inl hsettled⟩

theorem Replies.after {x x' : Except Exit (Bool × Turn σ)} (h : Replies t₁ x x')
    (h' : Grows t t₁) : Replies t x x' := by
  rcases h with hpanic | ⟨goesOn, t', hx, hgrows, hsettles⟩
  · exact .inl hpanic
  · exact .inr ⟨goesOn, t', hx, h'.trans hgrows, hsettles.imp_left (fun hs => hs.after h')⟩

/-- `start_proxy` leaves the connection with a request to resolve, or as it was. -/
theorem startProxy_grows (h : t.Current c) (url : Str) (request : RequestHead)
    (body : List UInt8) :
    ∃ started t', startProxy env url request body t = .ok (started, t') ∧ Grows t t'
      ∧ ∃ c', t'.Current c' := by
  unfold startProxy
  cases Upstream.parse url with
  | error message => exact ⟨_, _, rfl, .refl t, c, h⟩
  | ok upstream =>
      rw [h.connection]
      dsimp only
      split_ifs
      · exact ⟨_, _, rfl, .refl t, c, h⟩
      · have hgrows : Grows t ((t.put (c.beginResolving env.now
            (upstream.requestBytes request body))).note
            [.forwarding (upstream.requestBytes request body)]) :=
          grows_put h.connection (by rfl) _
        exact ⟨_, _, rfl, hgrows, _, rfl, h.generation⟩
      · have hgrows : Grows t ((t.put (c.beginResolving env.now
            (upstream.requestBytes request body))).note
            [.forwarding (upstream.requestBytes request body)]) :=
          grows_put h.connection (by rfl) _
        exact ⟨_, _, rfl, hgrows.trans (grows_same rfl rfl rfl), _, rfl, h.generation⟩

/-- **A request is answered, or begins an exchange**, unless the balancer panics. -/
theorem answerRequest_replies (h : t.Current c) (htoken : t.id.Tokened) {group : Nat}
    (hgroup : group < env.listeners.length) (request : RequestHead) (body : List UInt8) :
    Replies t (answerRequest env group request body t)
      (answerRequest env.registering group request body t) := by
  unfold answerRequest
  rw [show env.registering.listeners = env.listeners from rfl,
    show env.registering.servers = env.servers from rfl]
  rw [List.getElem?_eq_getElem hgroup]
  dsimp only
  split
  · exact replies_answered (queueResponse_answered h htoken _) _
  next server hserver =>
    split
    next url upstreamGroup upstreams policy hroute =>
      have hnoted : Grows t (t.note [.proxied]) :=
        ⟨rfl, fun c' hc' => ⟨c', hc', rfl⟩, List.prefix_append _ _⟩
      refine Replies.after ?_ hnoted
      have hcur : (t.note [.proxied]).Current c := ⟨h.connection, h.generation⟩
      cases (t.note [.proxied]).balancer.select (.proxy url upstreamGroup upstreams policy) with
      | none => exact .inl ⟨rfl, rfl⟩
      | some selected =>
          obtain ⟨upstream, balancer⟩ := selected
          have hbalanced : Grows (t.note [.proxied]) { t.note [.proxied] with balancer } :=
            grows_same rfl rfl rfl
          have hcur' : ({ t.note [.proxied] with balancer } : Turn σ).Current c :=
            ⟨h.connection, h.generation⟩
          refine Replies.after ?_ hbalanced
          cases upstream with
          | error error => exact replies_answered (queueResponse_answered hcur' htoken _) _
          | ok upstream =>
              have hstarts : ∃ started t₁, startProxy env upstream request body
                  { t.note [.proxied] with balancer } = .ok (started, t₁)
                  ∧ Grows { t.note [.proxied] with balancer } t₁ ∧ ∃ c', t₁.Current c' :=
                startProxy_grows hcur' upstream request body
              obtain ⟨started, t₁, hstart, hgrows, c₁, hcur₁⟩ := hstarts
              have hstart' : startProxy env.registering upstream request body
                  { t.note [.proxied] with balancer } = .ok (started, t₁) := hstart
              simp only [hstart, hstart', bind, Except.bind]
              cases started with
              | true => exact .inr ⟨true, t₁, rfl, hgrows, .inr ⟨rfl, rfl⟩⟩
              | false =>
                  have htoken₁ : t₁.id.Tokened := by
                    rw [hgrows.id]
                    exact htoken
                  exact (replies_answered (queueResponse_answered hcur₁ htoken₁ _) true).after
                    hgrows
    next directory _ =>
      rw [show env.registering.staticStreamResponse = env.staticStreamResponse from rfl]
      cases env.staticStreamResponse directory request with
      | ok response => exact replies_answered (queueStaticResponse_answered h htoken _) _
      | error error => exact replies_answered (queueResponse_answered h htoken _) _
    · exact replies_answered (queueResponse_answered h htoken _) _

theorem flushHandshake_stays (h : t.connection = none ∨ ∃ c, t.Current c)
    (htoken : t.id.Tokened) :
    Stays t (flushHandshake env t) (flushHandshake env.registering t) := by
  unfold flushHandshake
  rcases h with hgone | ⟨c, hcur⟩
  · rw [hgone]
    exact stays_ok (.refl t)
  · rw [hcur.connection, hcur.isCurrent]
    dsimp only
    rw [show env.registering.tls = env.tls from rfl]
    split_ifs
    · exact reregisterClient_stays hcur htoken .both
    · exact stays_ok (.refl t)

/-- What follows the answer: the connection may be closed, or its session has something to
say. -/
theorem afterAnswer_stays {pass : ReadPass σ} {x x' : Except Exit (Bool × Turn σ)}
    (h : t.Current c) (htoken : t.id.Tokened) (hx : Replies t x x') :
    Unbalanced (x >>= afterAnswer env pass) (x' >>= afterAnswer env.registering pass)
      ∨ Stays t (x >>= afterAnswer env pass) (x' >>= afterAnswer env.registering pass) := by
  rcases hx with ⟨rfl, rfl⟩ | ⟨goesOn, t₁, rfl, hgrows, hsettles⟩
  · exact .inl ⟨rfl, rfl⟩
  · right
    cases goesOn with
    | false =>
        rcases hsettles with hsettled | ⟨hfalse, -⟩
        · exact ⟨t₁, rfl, hgrows, .inl hsettled⟩
        · cases hfalse
    | true =>
        have hclose : Grows t₁
            (if pass.closed then removeConnection env pass.closeSite t₁ else t₁) := by
          split_ifs
          · exact removeConnection_grows env _ _
          · exact .refl t₁
        generalize ht₂ : (if pass.closed then removeConnection env pass.closeSite t₁ else t₁) = t₂
          at hclose
        have hall := hgrows.trans hclose
        have htoken₂ : t₂.id.Tokened := by
          rw [hall.id]
          exact htoken
        have hstays : Stays t₂ (flushHandshake env t₂) (flushHandshake env.registering t₂) :=
          flushHandshake_stays (hall.current h) htoken₂
        obtain ⟨t', hrun, hgrows', hsettles'⟩ := hstays
        refine ⟨t', ?_, hall.trans hgrows', ?_⟩
        · show flushHandshake env (if pass.closed then _ else _) = _
          rw [ht₂]
          exact hrun
        · rcases hsettles with hsettled | ⟨-, rfl⟩
          · exact .inl (hsettled.then (hclose.trans hgrows'))
          · refine hsettles'.imp (fun hs => hs.after hall) (fun hrun' => ?_)
            show flushHandshake env.registering (if pass.closed then _ else _) = _
            rw [show removeConnection env.registering pass.closeSite t₁
              = removeConnection env pass.closeSite t₁ from rfl, ht₂]
            exact hrun'

/-- While a request is handled, the client's bytes are thrown away. -/
theorem handleConnectionReady_discards (env : Env σ) (h : t.Current c)
    (hhandling : c.isHandlingRequest = true) {pass : ReadPass σ}
    (hpass : pass = connectionReady env.tls.toRustls env.limits env.now c env.reads) :
    handleConnectionReady env t = .ok (clientDuringProxyReady env pass t)
      ∧ Grows t (t.put pass.connection) ∧ (t.put pass.connection).Current pass.connection := by
  obtain ⟨time, htime⟩ := discardLoop_connection env.now maxReadsPerEvent c env.reads
  have hgen : pass.connection.generation = c.generation := by
    rw [hpass]
    unfold connectionReady
    rw [if_pos hhandling, htime]
  refine ⟨?_, grows_put_only h.connection hgen, rfl, hgen.trans h.generation⟩
  unfold handleConnectionReady
  rw [h.connection, hpass]
  simp only [h.isCurrent, hhandling, Bool.not_true, Bool.false_eq_true, if_false, if_true]

/-- What a read pass leaves to be answered. -/
theorem readPass_grows (h : t.Current c) (hhandling : c.isHandlingRequest = false)
    {pass : ReadPass σ}
    (hpass : pass = connectionReady env.tls.toRustls env.limits env.now c env.reads) :
    Grows t (t.received pass) ∧ (t.received pass).Current pass.connection := by
  have hreads := connectionReady_readsOnly env.tls.toRustls env.limits env.now hhandling env.reads
  rw [← hpass] at hreads
  have hbytes : Grows t (t.readBytes pass.bytesRead) := grows_same rfl rfl rfl
  have hc : (t.readBytes pass.bytesRead).connection = some c := h.connection
  exact ⟨hbytes.trans (grows_put hc hreads.generation _), rfl,
    hreads.generation.trans h.generation⟩

/-- **A read pass** is answered, closed, or goes on, unless the balancer panics. -/
theorem handleConnectionReady_stays (h : t.Current c) (htoken : t.id.Tokened)
    (hgroup : c.listenerGroup < env.listeners.length) :
    Unbalanced (handleConnectionReady env t) (handleConnectionReady env.registering t)
      ∨ Stays t (handleConnectionReady env t) (handleConnectionReady env.registering t) := by
  by_cases hhandling : c.isHandlingRequest = true
  · right
    generalize hpass : connectionReady env.tls.toRustls env.limits env.now c env.reads = pass
    obtain ⟨hrun, hgrows, -⟩ := handleConnectionReady_discards env h hhandling hpass.symm
    have hsame : handleConnectionReady env.registering t
        = .ok (clientDuringProxyReady env pass t) :=
      (handleConnectionReady_discards env.registering h hhandling hpass.symm).1
    rw [hrun, hsame]
    refine stays_ok ?_
    unfold clientDuringProxyReady
    dsimp only
    split_ifs
    · exact hgrows.trans (removeConnection_grows env _ _)
    · exact hgrows
  · have hfalse : c.isHandlingRequest = false := by simpa using hhandling
    generalize hpass : connectionReady env.tls.toRustls env.limits env.now c env.reads = pass
    have hsame : handleConnectionReady env.registering t
        = (answerVerdict env.registering pass.connection.listenerGroup pass.verdicts.getLast?
          (t.received pass) >>= afterAnswer env.registering pass) :=
      handleConnectionReady_eq h hfalse hpass.symm
    rw [handleConnectionReady_eq h hfalse hpass.symm, hsame]
    have hreads := connectionReady_readsOnly env.tls.toRustls env.limits env.now hfalse env.reads
    rw [hpass] at hreads
    obtain ⟨hgrows, hcur⟩ := readPass_grows h hfalse hpass.symm
    refine afterAnswer_stays h htoken ?_
    unfold answerVerdict
    rcases hlast : pass.verdicts.getLast? with _ | verdict
    · exact .inr ⟨true, _, rfl, hgrows, .inr ⟨rfl, rfl⟩⟩
    · cases verdict with
      | keepWaiting => exact .inr ⟨true, _, rfl, hgrows, .inr ⟨rfl, rfl⟩⟩
      | error status message =>
          exact (replies_answered (queueResponse_answered hcur htoken _) true).after hgrows
      | dispatch request body =>
          have hcounted : Grows t (t.received pass).countRequest :=
            hgrows.trans (grows_same rfl rfl rfl)
          have hcur' : (t.received pass).countRequest.Current pass.connection :=
            ⟨hcur.connection, hcur.generation⟩
          refine (answerRequest_replies hcur' htoken ?_ request body).after hcounted
          rw [hreads.listenerGroup]
          exact hgroup

/-! ## §6. Writes. -/

/-- Once a response is out, its file goes on, its upstream is read again, or its connection is
closed. -/
theorem finishWrite_stays (h : t.Current c) (htoken : t.id.Tokened)
    (hfree : c.chunkRefused env t.log.length = false) :
    Stays t (finishWrite env c t) (finishWrite env.registering c t) := by
  unfold finishWrite
  by_cases hstream : c.staticStream.isSome = true
  · rw [if_pos hstream, if_pos hstream]
    exact advanceStaticStream_stays h htoken hstream hfree
  · rw [if_neg hstream, if_neg hstream]
    have hcounted : Grows t t.countResponse :=
      ⟨rfl, fun c' hc' => ⟨c', hc', rfl⟩, List.prefix_append _ _⟩
    have hcur : t.countResponse.Current c := ⟨h.connection, h.generation⟩
    dsimp only
    cases c.proxy with
    | none => exact (closeClient_stays hcur htoken _).after hcounted
    | some proxy =>
        dsimp only
        rw [show env.registering.draining = env.draining from rfl]
        split_ifs
        · exact (closeClient_stays hcur htoken _).after hcounted
        · exact (closeClient_stays hcur htoken _).after hcounted
        · refine (Stays.bind ?_ ?_).after hcounted
          rotate_left
          · intro t₁ _
            have hscheduled : Grows t₁ { t₁ with upstreamReadScheduled := true } :=
              grows_same rfl rfl rfl
            exact stays_ok hscheduled
          have hgrows : Grows t.countResponse
              (t.countResponse.put { c with writeBuffer := [], writeOffset := 0 }) :=
            grows_put_only hcur.connection (by rfl)
          have hcur' : (t.countResponse.put { c with writeBuffer := [], writeOffset := 0 }).Current
              { c with writeBuffer := [], writeOffset := 0 } := ⟨rfl, h.generation⟩
          exact (reregisterClient_stays hcur' htoken .read).after hgrows

/-- What the write loop leaves. -/
theorem writePass_grows (env : Env σ) (h : t.Current c) :
    let pass := writeLoop env.tls env.now maxWritesPerEvent c env.writes
    let t₁ := ((t.wroteBytes pass.bytesWritten).put pass.connection).note (pass.acts.map Act.write)
    Grows t t₁ ∧ t₁.Current pass.connection := by
  have hwrites := writeLoop_writesOnly env c
  generalize writeLoop env.tls env.now maxWritesPerEvent c env.writes = pass at hwrites ⊢
  have hbytes : Grows t (t.wroteBytes pass.bytesWritten) := grows_same rfl rfl rfl
  have hc : (t.wroteBytes pass.bytesWritten).connection = some c := h.connection
  exact ⟨hbytes.trans (grows_put hc hwrites.generation _), rfl,
    hwrites.generation.trans h.generation⟩

/-- **A write pass**: unless it asks for a chunk whose registration is refused, the connection
goes on, or is closed. -/
theorem writeReady_stays (h : t.Current c) (htoken : t.id.Tokened) (due : Bool)
    (hfree : Escapes env t c (.writeReady due) = false) :
    Stays t (writeReady env t) (writeReady env.registering t) := by
  unfold writeReady
  rw [h.connection, h.isCurrent]
  simp only [Bool.not_true, Bool.false_eq_true, if_false]
  simp only [Escapes, Connection.asksForChunk] at hfree
  rw [show env.registering.tls = env.tls from rfl, show env.registering.now = env.now from rfl,
    show env.registering.writes = env.writes from rfl]
  by_cases hquiet : (c.ssl.isSome && c.writeFinished env.tls.toRustls) = true
  · rw [if_pos hquiet, if_pos hquiet]
    exact reregisterClient_stays h htoken .read
  · rw [if_neg hquiet, if_neg hquiet]
    obtain ⟨hgrows, hcur⟩ := writePass_grows env h
    generalize writeLoop env.tls env.now maxWritesPerEvent c env.writes = pass at *
    generalize ht₁ : ((t.wroteBytes pass.bytesWritten).put pass.connection).note
      (pass.acts.map Act.write) = t₁ at hgrows hcur ⊢
    have htoken₁ : t₁.id.Tokened := by
      rw [hgrows.id]
      exact htoken
    have hlength : t₁.log.length = t.log.length + pass.acts.length := by
      rw [← ht₁]
      show (t.log ++ _).length = _
      rw [List.length_append, List.length_map]
    refine Stays.after ?_ hgrows
    cases hending : pass.ending with
    | blocked => exact stays_ok (.refl t₁)
    | failed => exact (answered_removed hcur .writeFailed).stays
    | refused => exact (answered_removed hcur .writerRefused).stays
    | stopped =>
        dsimp only
        by_cases hfinished : pass.connection.writeFinished env.tls.toRustls = true
        · rw [if_pos hfinished, if_pos hfinished]
          have hflushed : Grows t₁ (t₁.note [.flushed]) :=
            ⟨rfl, fun c' hc' => ⟨c', hc', rfl⟩, List.prefix_append _ _⟩
          have hcur' : (t₁.note [.flushed]).Current pass.connection :=
            ⟨hcur.connection, hcur.generation⟩
          refine Stays.after ?_ hflushed
          by_cases hphase : (pass.connection.isWritingResponse || pass.connection.isProxying) = true
          · rw [if_pos hphase, if_pos hphase]
            refine finishWrite_stays hcur' htoken₁ ?_
            rw [hending, hfinished, hphase] at hfree
            show pass.connection.chunkRefused env (t₁.log ++ [_]).length = false
            rw [List.length_append, hlength]
            simpa [hquiet] using hfree
          · rw [if_neg hphase, if_neg hphase]
            exact reregisterClient_stays hcur' htoken₁ .read
        · rw [if_neg hfinished, if_neg hfinished]
          split_ifs
          · have hscheduled : Grows t₁ { t₁ with writeScheduled := true } :=
              grows_same rfl rfl rfl
            exact stays_ok hscheduled
          · exact stays_ok (.refl t₁)

/-! ## §7. One turn. -/

/-- **A call that meets none of the three errors** returns, unless the balancer panics; and
what the poller refuses leads to an answer or to the end of the connection. -/
theorem handleTurn_stays (h : t.Current c) (hstart : Starts event t.toSeat c)
    (htoken : t.id.Tokened) (hgroup : c.listenerGroup < env.listeners.length)
    (hfree : Escapes env t c event = false) :
    Unbalanced (handleTurn env event t) (handleTurn env.registering event t)
      ∨ Stays t (handleTurn env event t) (handleTurn env.registering event t) := by
  cases event with
  | connectionReady => exact handleConnectionReady_stays h htoken hgroup
  | writeReady due =>
      have hcur : ({ t with writeScheduled := t.writeScheduled && !due } : Turn σ).Current c :=
        ⟨h.connection, h.generation⟩
      have hwrite := writeReady_stays hcur htoken due hfree
      exact .inr (hwrite.after (grows_same rfl rfl rfl))
  | clientError =>
      have hgrows : Grows t (if t.isCurrent then t.countError else t) := by
        rw [h.isCurrent]
        exact grows_same rfl rfl rfl
      exact .inr (stays_ok (hgrows.trans (removeConnection_grows env .clientError _)))
  | clientClosed half =>
      refine .inr (stays_ok ?_)
      unfold clientClosed
      rw [h.connection]
      dsimp only
      split_ifs
      · exact removeConnection_grows env _ t
      · exact .refl t
  | upstreamError => exact .inr (failProxy_answered h htoken _ _).stays
  | writeUpstream due =>
      have hcur : ({ t with
          upstreamWriteScheduled := t.upstreamWriteScheduled && !due } : Turn σ).Current c :=
        ⟨h.connection, h.generation⟩
      have hwrite := writeUpstreamRequest_stays hcur htoken due hfree
      exact .inr (hwrite.after (grows_same rfl rfl rfl))
  | readUpstream due =>
      have hcur : ({ t with
          upstreamReadScheduled := t.upstreamReadScheduled && !due } : Turn σ).Current c :=
        ⟨h.connection, h.generation⟩
      have hread := readUpstreamResponse_stays env hcur htoken
      exact .inr (hread.after (grows_same rfl rfl rfl))
  | upstreamClosed =>
      refine .inr (stays_ok ?_)
      rw [h.isCurrent]
      exact grows_same rfl rfl rfl
  | resolved addresses => exact .inr (finishResolution_stays h htoken hfree)
  | resolutionExpired =>
      right
      show Stays t (failResolution env _ _ t) (failResolution env.registering _ _ t)
      by_cases hresolving : c.isResolving = true
      · exact (failResolution_answered h htoken hresolving _ _).stays
      · unfold failResolution
        rw [h.connection]
        simp only [hresolving, Bool.not_false, Bool.or_true, if_true]
        exact stays_ok (.refl t)
  | proxyExpired phase => exact .inr (failProxy_answered h htoken _ _).stays
  | pump => exact .inr (advanceStaticStream_stays h htoken hstart.1 hfree)
  | idle | handshakeExpired | shutdown | drainDeadline =>
      exact .inr (stays_ok (removeConnection_grows env _ t))

end Thwip.Readiness
