/-
  Thwip.Readiness.Shared — what a handler does to the metrics all connections share.

  `write_ready` counts a response each time nothing is left to write, whether or
  not that ends the connection.  A connection that was counted and stays is
  `Spent`: its session is about to be closed, or its upstream may go on.  The
  other handlers count nothing and leave a spent connection spent.
-/
import Thwip.Readiness.Phases

namespace Thwip.Readiness

open Thwip.Lib

variable {σ : Type} {env : Env σ} {t t' : Turn σ} {c c' : Connection σ}

/-! ## §1. What is counted. -/

/-- The act by which `metrics.response()` is recorded. -/
def Act.isResponse : Act → Bool
  | .response => true
  | _ => false

/-- How often `metrics.response()` was called for the connection of this trace. -/
def responseCount (log : List Act) : Nat := log.countP Act.isResponse

/-- The count of a trace is that of its parts. -/
@[simp] theorem responseCount_append (log acts : List Act) :
    responseCount (log ++ acts) = responseCount log + responseCount acts :=
  List.countP_append

/-- The write loop counts nothing itself. -/
theorem responseCount_map_write (acts : List WriteAct) : responseCount (acts.map Act.write) = 0 := by
  unfold responseCount
  rw [List.countP_eq_zero]
  intro act hact
  obtain ⟨write, -, rfl⟩ := List.mem_map.mp hact
  simp [Act.isResponse]

/-- Neither does the read loop, … -/
theorem responseCount_map_verdict (verdicts : List ReadVerdict) :
    responseCount (verdicts.map Act.verdict) = 0 := by
  unfold responseCount
  rw [List.countP_eq_zero]
  intro act hact
  obtain ⟨verdict, -, rfl⟩ := List.mem_map.mp hact
  simp [Act.isResponse]

/-- … nor the loop towards the upstream. -/
theorem responseCount_map_forwarded (chunks : List (List UInt8)) :
    responseCount (chunks.map Act.forwarded) = 0 := by
  unfold responseCount
  rw [List.countP_eq_zero]
  intro act hact
  obtain ⟨chunk, -, rfl⟩ := List.mem_map.mp hact
  simp [Act.isResponse]

/-- A connection whose response was counted, and that is still there. -/
inductive Spent (c : Connection σ) : Prop where
  | closing (hphase : c.phase = .writingResponse ∨ ∃ proxy, c.phase = .proxying proxy)
      (hstream : c.staticStream = none) (hclosing : c.sslClosing = true)
  /-- What was relayed so far is written. -/
  | relayed (proxy : ProxyState) (hphase : c.phase = .proxying proxy)
      (hstream : c.staticStream = none) (hstarted : proxy.responseStarted = true)
      (hempty : c.writeBuffer = [])

/-- A file is counted as its connection goes, so a spent connection serves none. -/
theorem Spent.staticStream (h : Spent c) : c.staticStream = none := by
  cases h with
  | closing _ hstream => exact hstream
  | relayed _ _ hstream => exact hstream

/-- A spent connection is still in the middle of its response. -/
theorem Spent.phase (h : Spent c) :
    c.phase = .writingResponse ∨ ∃ proxy, c.phase = .proxying proxy := by
  cases h with
  | closing hphase => exact hphase
  | relayed proxy hphase => exact .inr ⟨proxy, hphase⟩

/-- What is read, registered or forwarded leaves a spent connection spent. -/
theorem Spent.congr (h : Spent c) (hphase : c'.phase = c.phase)
    (hstream : c'.staticStream = c.staticStream) (hclosing : c'.sslClosing = c.sslClosing)
    (hbuffer : c'.writeBuffer = c.writeBuffer) : Spent c' := by
  cases h with
  | closing hp hs hc =>
      exact .closing (by rw [hphase]; exact hp) (hstream.trans hs) (hclosing.trans hc)
  | relayed proxy hp hs hr hb =>
      exact .relayed proxy (hphase.trans hp) (hstream.trans hs) hr (hbuffer.trans hb)

/-- An upstream exchange that keeps what it has of the response. -/
theorem Spent.exchange (h : Spent c) {proxy proxy' : ProxyState} (hproxy : c.proxy = some proxy)
    (hstarted : proxy'.responseStarted = proxy.responseStarted) : Spent (c.beginProxy proxy') := by
  cases h with
  | closing _ hs hc => exact .closing (.inr ⟨proxy', rfl⟩) hs hc
  | relayed proxy₁ hp hs hr hb =>
      rw [Connection.proxy_eq_some.mpr hp] at hproxy
      injection hproxy with hproxy
      exact .relayed proxy' rfl hs (hstarted.trans (hproxy ▸ hr)) hb

/-- The handler counted this many responses. -/
structure Counts (n : Nat) (t t' : Turn σ) : Prop where
  responses : t'.metrics.responses = t.metrics.responses + n
  accepted : t'.metrics.accepted = t.metrics.accepted
  log : Readiness.responseCount t'.log = Readiness.responseCount t.log + n

/-- Nothing done is nothing counted. -/
theorem Counts.refl (t : Turn σ) : Counts 0 t t := ⟨rfl, rfl, rfl⟩

/-- What two parts of a handler count adds up. -/
theorem Counts.trans {n m : Nat} {t₁ : Turn σ} (h : Counts n t t₁) (h' : Counts m t₁ t') :
    Counts (n + m) t t' := by
  refine ⟨?_, h'.accepted.trans h.accepted, ?_⟩
  · rw [h'.responses, h.responses, Nat.add_assoc]
  · rw [h'.log, h.log, Nat.add_assoc]

/-- Acts that are no response. -/
theorem Counts.note {acts : List Act} (h : Readiness.responseCount acts = 0) :
    Counts 0 t (t.note acts) := by
  refine ⟨rfl, rfl, ?_⟩
  show Readiness.responseCount (t.log ++ acts) = _
  rw [responseCount_append, h]

/-- `metrics.response()`, which is noted as it is counted. -/
theorem counts_countResponse (t : Turn σ) : Counts 1 t t.countResponse := by
  refine ⟨rfl, rfl, ?_⟩
  show Readiness.responseCount (t.log ++ [.response]) = _
  rw [responseCount_append]
  rfl

/-- A spent connection stays spent, or goes. -/
def KeepsSpent (t t' : Turn σ) : Prop :=
  ∀ c', t'.connection = some c' → ∃ c, t.connection = some c ∧ (Spent c → Spent c')

/-- The handler counted nothing, and left a spent connection spent. -/
structure Uncounted (t t' : Turn σ) : Prop where
  counts : Counts 0 t t'
  spent : KeepsSpent t t'

/-- Nothing done. -/
theorem Uncounted.refl (t : Turn σ) : Uncounted t t := ⟨.refl t, fun c hc => ⟨c, hc, id⟩⟩

/-- Two parts of a handler that count nothing. -/
theorem Uncounted.trans {t₁ : Turn σ} (h : Uncounted t t₁) (h' : Uncounted t₁ t') : Uncounted t t' := by
  refine ⟨h.counts.trans h'.counts, ?_⟩
  intro c' hc'
  obtain ⟨c₁, hc₁, hspent₁⟩ := h'.spent c' hc'
  obtain ⟨c, hc, hspent⟩ := h.spent c₁ hc₁
  exact ⟨c, hc, fun hs => hspent₁ (hspent hs)⟩

/-- Another connection state. -/
theorem uncounted_put (hc : t.connection = some c) (h : Spent c → Spent c') : Uncounted t (t.put c') := by
  refine ⟨⟨rfl, rfl, rfl⟩, ?_⟩
  rintro c₁ hc₁
  injection hc₁ with hc₁
  exact ⟨c, hc, hc₁ ▸ h⟩

/-- Acts that are no response change nothing but the trace. -/
theorem uncounted_note {acts : List Act} (h : responseCount acts = 0) : Uncounted t (t.note acts) :=
  ⟨.note h, fun c hc => ⟨c, hc, id⟩⟩

/-- Nothing but the pending sets and other metrics. -/
theorem uncounted_same (hconnection : t'.connection = t.connection)
    (hresponses : t'.metrics.responses = t.metrics.responses)
    (haccepted : t'.metrics.accepted = t.metrics.accepted) (hlog : t'.log = t.log) :
    Uncounted t t' := by
  refine ⟨⟨hresponses, haccepted, by rw [hlog]; rfl⟩, ?_⟩
  intro c hc
  exact ⟨c, hconnection ▸ hc, id⟩

/-! ## §2. Removing, registering, queueing. -/

/-- A removal counts no response. -/
theorem removeConnection_uncounted (site : RemovalSite) : Uncounted t (removeConnection env site t) := by
  unfold removeConnection
  split
  · exact .refl t
  · split_ifs
    · refine ⟨⟨rfl, rfl, ?_⟩, fun c hc => by cases hc⟩
      show responseCount (t.log ++ [_]) = _
      rw [responseCount_append]
      rfl
    · exact .refl t

/-- Neither does a registration, whatever the poller answers. -/
theorem reregister_uncounted {interest : Interest} {ok : Bool}
    (hrun : t.reregister env interest = .ok (ok, t')) : Uncounted t t' := by
  unfold Turn.reregister at hrun
  split at hrun
  · cases hrun
  · split_ifs at hrun
    · cases hrun
      exact .refl t
    · cases hrun
      refine ⟨⟨rfl, rfl, ?_⟩, fun c hc => ⟨c, hc, id⟩⟩
      show responseCount (t.log ++ [_]) = _
      rw [responseCount_append]
      rfl

/-- A registration, or the removal when it fails. -/
theorem registered_uncounted {interest : Interest}
    (hrun : (do
      let (ok, t) ← t.reregister env interest
      return if ok then t else removeConnection env .reregisterFailed t) = .ok t') :
    Uncounted t t' := by
  cases hreg : t.reregister env interest with
  | error e => simp [bind, Except.bind, hreg] at hrun
  | ok result =>
      obtain ⟨ok, t₁⟩ := result
      simp only [bind, Except.bind, hreg, pure, Except.pure] at hrun
      injection hrun with hrun
      rw [← hrun]
      cases ok with
      | true => exact reregister_uncounted hreg
      | false => exact (reregister_uncounted hreg).trans (removeConnection_uncounted _)

/-- `reregister_client`. -/
theorem reregisterClient_uncounted {interest : Interest}
    (hrun : reregisterClient env interest t = .ok t') : Uncounted t t' := by
  unfold reregisterClient at hrun
  split at hrun
  · cases hrun
  · exact registered_uncounted hrun

/-- A registration whose failure ends the worker. -/
theorem mustReregister_uncounted {interest : Interest}
    (hrun : t.mustReregister env interest = .ok t') : Uncounted t t' := by
  unfold Turn.mustReregister at hrun
  cases hreg : t.reregister env interest with
  | error e => simp [bind, Except.bind, hreg] at hrun
  | ok result =>
      obtain ⟨ok, t₁⟩ := result
      simp only [bind, Except.bind, hreg, pure, Except.pure] at hrun
      split_ifs at hrun
      injection hrun with hrun
      exact hrun ▸ reregister_uncounted hreg

/-- A spent connection is told nothing more while its upstream may go on. -/
theorem queueResponse_uncounted {response : List UInt8}
    (hspent : ∀ c, t.connection = some c → Spent c → c.phase = .writingResponse)
    (hrun : queueResponse env response t = .ok t') : Uncounted t t' := by
  unfold queueResponse at hrun
  split at hrun
  · cases hrun
    exact .refl t
  next c hc =>
    split_ifs at hrun
    · cases hrun
      exact .refl t
    · have hqueued : Spent c → Spent (c.setResponse (boundedResponse env.limits response)) := by
        intro h
        -- so it is the closing session of a response of its own
        have hphase := hspent c hc h
        cases h with
        | closing _ hs hclosing => exact .closing (.inl rfl) hs hclosing
        | relayed proxy hp =>
            rw [hphase] at hp
            cases hp
      exact ((uncounted_put hc hqueued).trans (uncounted_note rfl)).trans (registered_uncounted hrun)

/-- A handler that took the connection out has none to keep spent. -/
theorem uncounted_gone (hcounts : Counts 0 t t') (hgone : t'.connection = none) :
    Uncounted t t' :=
  ⟨hcounts, fun c hc => by rw [hgone] at hc; cases hc⟩

/-- A current connection is gone once it is removed. -/
theorem Turn.Current.removed (h : t.Current c) (env : Env σ) (site : RemovalSite) :
    (removeConnection env site t).connection = none := by
  unfold removeConnection
  rw [h.connection]
  simp only [h.isCurrent, if_true]
  rfl

/-- The connection, if it is there, has not been answered. -/
def Turn.Unanswered (t : Turn σ) : Prop :=
  ∀ c, t.connection = some c → (∃ p, c.phase = .reading p) ∨ ∃ r, c.phase = .resolving r

/-- A connection without a response has none that was counted. -/
theorem Turn.Unanswered.not_spent (h : t.Unanswered) (hc : t.connection = some c) : ¬ Spent c := by
  intro hspent
  rcases hspent.phase with hphase | ⟨proxy, hphase⟩
  all_goals
    rcases h c hc with ⟨p, hp⟩ | ⟨r, hr⟩
    · rw [hphase] at hp
      cases hp
    · rw [hphase] at hr
      cases hr

/-- The phase is all that matters. -/
theorem Turn.Unanswered.put (h : t.Unanswered) (hc : t.connection = some c)
    (hphase : c'.phase = c.phase) : (t.put c').Unanswered := by
  intro c₁ hc₁
  injection hc₁ with hc₁
  rw [← hc₁, hphase]
  exact h c hc

/-- A connection that has no response may be given one. -/
theorem Turn.Unanswered.queueResponse (h : t.Unanswered) {response : List UInt8}
    (hrun : queueResponse env response t = .ok t') : Uncounted t t' :=
  queueResponse_uncounted (fun _ hc hspent => absurd hspent (h.not_spent hc)) hrun

/-- The head of a file is queued as any response. -/
theorem queueStaticResponse_uncounted {response : StaticStreamResponse} (h : t.Unanswered)
    (hrun : queueStaticResponse env response t = .ok t') : Uncounted t t' := by
  unfold queueStaticResponse at hrun
  split at hrun
  · cases hrun
    exact .refl t
  next c hc =>
    split_ifs at hrun
    · cases hrun
      exact .refl t
    · have hstreamed : Uncounted t (t.put { c with staticStream := response.stream }) :=
        uncounted_put hc (fun hspent => absurd hspent (h.not_spent hc))
      have hopen : (t.put { c with staticStream := response.stream }).Unanswered := h.put hc rfl
      have hnoted : ((t.put { c with staticStream := response.stream }).note
          [.serving response.head response.stream]).Unanswered := hopen
      exact (hstreamed.trans (uncounted_note rfl)).trans (hnoted.queueResponse hrun)

/-! ## §3. The upstream. -/

/-- An error page goes out only if nothing was relayed. -/
theorem failProxy_uncounted {status : Nat} {message : Str}
    (hrun : failProxy env status message t = .ok t') : Uncounted t t' := by
  unfold failProxy at hrun
  split at hrun
  · cases hrun
    exact .refl t
  next c hc =>
    split_ifs at hrun with hcurrent
    · cases hrun
      exact .refl t
    dsimp only at hrun
    split_ifs at hrun with hcan
    · -- nothing was relayed: the exchange becomes a response
      simp only [Bool.and_eq_true] at hcan
      obtain ⟨hcan, -⟩ := hcan
      split at hcan
      · cases hcan
      next proxy hproxy =>
        have hphase := Connection.proxy_eq_some.mp hproxy
        have hdetached : c.detachProxy = { c with phase := .writingResponse } := by
          unfold Connection.detachProxy
          rw [hphase]
        rw [hdetached] at hrun
        have hspent : Spent c → Spent { c with phase := .writingResponse } := by
          intro hspent
          cases hspent with
          | closing _ hs hclosing => exact .closing (.inl rfl) hs hclosing
          | relayed proxy' hp _ hstarted =>
              rw [hphase] at hp
              injection hp with hp
              rw [hp, hstarted] at hcan
              cases hcan
        have hput : Uncounted t { t.put { c with phase := .writingResponse } with
            upstreamReadScheduled := false, upstreamWriteScheduled := false } :=
          (uncounted_put hc hspent).trans (uncounted_same rfl rfl rfl rfl)
        refine hput.trans (queueResponse_uncounted ?_ hrun)
        intro c₁ hc₁ _
        injection hc₁ with hc₁
        rw [← hc₁]
    · -- no page can go out any more: the connection is removed
      injection hrun with hrun
      rw [Bool.not_eq_true, Bool.not_eq_false'] at hcurrent
      have hgen : c.detachProxy.generation = c.generation := by
        unfold Connection.detachProxy
        split <;> rfl
      obtain ⟨c₀, hcur⟩ := Turn.isCurrent_iff.mp hcurrent
      have hcur₀ : c₀ = c := by
        rw [hcur.connection] at hc
        injection hc
      subst hcur₀
      have hcur₁ : ({ t.put c₀.detachProxy with
          upstreamReadScheduled := false, upstreamWriteScheduled := false } : Turn σ).Current
            c₀.detachProxy := ⟨rfl, hgen.trans hcur.generation⟩
      rw [← hrun]
      refine uncounted_gone ?_ (hcur₁.removed env _)
      have hput : Counts 0 t ({ t.put c₀.detachProxy with
          upstreamReadScheduled := false, upstreamWriteScheduled := false } : Turn σ) :=
        ⟨rfl, rfl, rfl⟩
      exact hput.trans (removeConnection_uncounted _).counts

/-- A request that waits for its lookup has no response. -/
theorem unanswered_of_resolving (hc : t.connection = some c) (h : c.isResolving = true) :
    t.Unanswered := by
  intro c₁ hc₁
  rw [hc] at hc₁
  injection hc₁ with hc₁
  exact .inr (hc₁ ▸ Connection.isResolving_iff.mp h)

/-- A failed lookup is answered with an error page. -/
theorem failResolution_uncounted {status : Nat} {message : Str}
    (hrun : failResolution env status message t = .ok t') : Uncounted t t' := by
  unfold failResolution at hrun
  split at hrun
  · cases hrun
    exact .refl t
  next c hc =>
    split_ifs at hrun with hskip
    · cases hrun
      exact .refl t
    · simp only [Bool.or_eq_true, Bool.not_eq_true', not_or, Bool.not_eq_false] at hskip
      exact (unanswered_of_resolving hc hskip.2).queueResponse hrun

/-- A lookup is answered: by a connect, or by an error page. -/
theorem finishResolution_uncounted {addresses : Option (List SocketAddr)}
    (hrun : finishResolution env addresses t = .ok t') : Uncounted t t' := by
  unfold finishResolution at hrun
  split at hrun
  · cases hrun
    exact .refl t
  next c hc =>
    split_ifs at hrun with hskip
    · cases hrun
      exact .refl t
    · simp only [Bool.or_eq_true, Bool.not_eq_true', not_or, Bool.not_eq_false] at hskip
      have hspent : ¬ Spent c := (unanswered_of_resolving hc hskip.2).not_spent hc
      have hput : ∀ c', Uncounted t (t.put c') := fun c' =>
        uncounted_put hc (fun h => absurd h hspent)
      have hfailed : ∀ {response : List UInt8},
          queueResponse env response (t.put c.beginResponse) = .ok t' → Uncounted t t' := by
        intro response hqueue
        refine (hput c.beginResponse).trans (queueResponse_uncounted ?_ hqueue)
        intro c₁ hc₁ _
        injection hc₁ with hc₁
        rw [← hc₁]
        rfl
      split at hrun
      · exact failResolution_uncounted hrun
      · exact failResolution_uncounted hrun
      · split at hrun
        · cases hrun
          exact .refl t
        · dsimp only at hrun
          split_ifs at hrun
          · exact hfailed hrun
          · split at hrun
            · cases hrun
            · exact hfailed hrun
          · split at hrun
            · cases hrun
            · injection hrun with hrun
              exact hrun ▸ hput _

/-- The request goes to the upstream; the response is as it was. -/
theorem forwardRequest_uncounted {proxy proxy₁ : ProxyState} (hc : t.connection = some c)
    (hproxy : c.proxy = some proxy) (hstarted : proxy₁.responseStarted = proxy.responseStarted)
    (hrun : forwardRequest env c proxy₁ t = .ok t') : Uncounted t t' := by
  unfold forwardRequest at hrun
  have hspec := forwardLoop_spec env.now maxWritesPerEvent proxy₁ env.upstreamWrites
  dsimp only at hrun
  generalize forwardLoop env.now maxWritesPerEvent proxy₁ env.upstreamWrites = pass at hrun hspec
  have hpass : pass.proxy.responseStarted = proxy.responseStarted := hspec.started.trans hstarted
  -- what the loop wrote is of the request, so a started response stays started
  have hafter : Spent c → Spent (c.afterForwarding env.now pass) := by
    intro hspent
    have hexchange := hspent.exchange hproxy hpass
    unfold Connection.afterForwarding
    dsimp only
    split_ifs
    · exact hexchange
    · exact hexchange.congr rfl rfl rfl rfl
  have hforwarded : Uncounted t ((t.put (c.afterForwarding env.now pass)).note
      (pass.forwarded.map Act.forwarded)) :=
    (uncounted_put hc hafter).trans (uncounted_note (responseCount_map_forwarded _))
  have hproxy' : (c.afterForwarding env.now pass).proxy = some pass.proxy := by
    unfold Connection.afterForwarding
    dsimp only
    split_ifs <;> rfl
  have htransition : Uncounted t (((t.put (c.afterForwarding env.now pass)).note
      (pass.forwarded.map Act.forwarded)).put ((c.afterForwarding env.now pass).beginProxy
        (pass.proxy.transition env.now .readingResponse))) :=
    hforwarded.trans (uncounted_put rfl (fun h => h.exchange hproxy' rfl))
  split at hrun
  · injection hrun with hrun
    exact hrun ▸ hforwarded
  · exact hforwarded.trans (failProxy_uncounted hrun)
  · injection hrun with hrun
    exact hrun ▸ hforwarded.trans (uncounted_same rfl rfl rfl rfl)
  · split at hrun
    · cases hrun
    · split_ifs at hrun
      · exact htransition.trans (failProxy_uncounted hrun)
      · injection hrun with hrun
        exact hrun ▸ htransition

/-- The upstream is writable, or has refused the connection. -/
theorem writeUpstreamRequest_uncounted (hrun : writeUpstreamRequest env t = .ok t') :
    Uncounted t t' := by
  unfold writeUpstreamRequest at hrun
  split at hrun
  · cases hrun
    exact .refl t
  next c hc =>
    split_ifs at hrun
    · cases hrun
      exact .refl t
    · split at hrun
      · cases hrun
        exact .refl t
      next proxy hproxy =>
        split at hrun
        · cases hrun
          exact .refl t
        · split at hrun
          · cases hrun
          · exact failProxy_uncounted hrun
          · have hstarted : (proxy.transition env.now .writingRequest).responseStarted
                = proxy.responseStarted := rfl
            exact forwardRequest_uncounted hc hproxy hstarted hrun
        · exact forwardRequest_uncounted hc hproxy rfl hrun

/-- The end of the upstream removes the connection once its buffer is empty. -/
theorem markUpstreamEof_uncounted : Uncounted t (markUpstreamEof env t) := by
  -- with or without an exchange, the same test follows
  have hmarked : ∀ {c c₁ : Connection σ}, t.connection = some c → (Spent c → Spent c₁) →
      Uncounted t (if c₁.writeBuffer.isEmpty then removeConnection env .upstreamEof (t.put c₁)
        else t.put c₁) := by
    intro c c₁ hc hspent
    have hput : Uncounted t (t.put c₁) := uncounted_put hc hspent
    split_ifs
    · exact hput.trans (removeConnection_uncounted _)
    · exact hput
  unfold markUpstreamEof
  split
  · exact .refl t
  next c hc =>
    split
    · exact .refl t
    · cases hproxy : c.proxy with
      | none => exact hmarked hc id
      | some proxy => exact hmarked hc (fun hspent => hspent.exchange hproxy rfl)

/-- A read of this connection's upstream continues a response that had started. -/
def Connection.continuesResponse (limits : WorkerLimits) (upstreamReads : List IoRead)
    (self : Connection σ) : Bool :=
  match self.proxy, firstRead upstreamReads with
  | some proxy, .ok available =>
      proxy.responseStarted
        && !(available.take (min readBufferLen limits.maxWriteBufferSize)).isEmpty
  | _, _ => false

/-- **An upstream read that starts a response**, or finds nothing.  One that continues a
response would make a spent connection fresh, so it is excluded. -/
theorem readUpstreamResponse_uncounted
    (hguard : t.connection.any (Connection.continuesResponse env.limits env.upstreamReads) = false)
    (hrun : readUpstreamResponse env t = .ok t') : Uncounted t t' := by
  unfold readUpstreamResponse at hrun
  split at hrun
  · cases hrun
    exact .refl t
  next c hc =>
    split_ifs at hrun
    · cases hrun
      exact .refl t
    · split at hrun
      · cases hrun
        exact .refl t
      next proxy hproxy =>
        split_ifs at hrun
        · cases hrun
          exact .refl t
        · split at hrun
          · cases hrun
            exact .refl t
          · cases hrun
            exact .refl t
          · exact failProxy_uncounted hrun
          next available hread =>
            dsimp only at hrun
            split_ifs at hrun with hempty
            · cases hrun
              exact markUpstreamEof_uncounted
            · -- the first bytes of the response
              have hfirst : proxy.responseStarted = false := by
                rw [hc] at hguard
                simp only [Option.any_some, Connection.continuesResponse, hproxy, hread,
                  Bool.and_eq_false_iff] at hguard
                rcases hguard with hguard | hguard
                · exact hguard
                · simp only [Bool.not_eq_false'] at hguard
                  exact absurd hguard hempty
              refine Uncounted.trans ?_ (reregisterClient_uncounted hrun)
              refine Uncounted.trans ?_ (uncounted_note rfl)
              generalize available.take _ = bytes at hrun ⊢
              have hread : Uncounted t (t.readBytes bytes.length) := uncounted_same rfl rfl rfl rfl
              have hc₁ : (t.readBytes bytes.length).connection = some c := hc
              refine hread.trans (uncounted_put hc₁ ?_)
              intro hspent
              cases hspent with
              | closing _ hs hclosing => exact .closing (.inr ⟨_, rfl⟩) hs hclosing
              | relayed proxy' hp _ hstarted =>
                  rw [Connection.proxy_eq_some.mpr hp] at hproxy
                  injection hproxy with hproxy
                  rw [← hproxy, hstarted] at hfirst
                  cases hfirst

/-! ## §4. The client's bytes. -/

/-- What a client sends during its exchange is dropped. -/
theorem clientDuringProxyReady_uncounted {pass : ReadPass σ} (hc : t.connection = some c)
    (hspent : Spent c → Spent pass.connection) :
    Uncounted t (clientDuringProxyReady env pass t) := by
  unfold clientDuringProxyReady
  have hput : Uncounted t (t.put pass.connection) := uncounted_put hc hspent
  dsimp only
  split_ifs
  · exact hput.trans (removeConnection_uncounted _)
  · exact hput

/-- An exchange starts with a lookup, and its connection is unanswered still. -/
theorem startProxy_uncounted {url : Str} {request : RequestHead} {body : List UInt8}
    {started : Bool} (h : t.Unanswered)
    (hrun : startProxy env url request body t = .ok (started, t')) :
    Uncounted t t' ∧ t'.Unanswered := by
  unfold startProxy at hrun
  split at hrun
  · cases hrun
    exact ⟨.refl t, h⟩
  next upstream _ =>
    dsimp only at hrun
    split at hrun
    · cases hrun
      exact ⟨.refl t, h⟩
    · split at hrun
      · cases hrun
      next c hc =>
        have hput : Uncounted t ((t.put (c.beginResolving env.now
            (upstream.requestBytes request body))).note
              [.forwarding (upstream.requestBytes request body)]) :=
          (uncounted_put hc (fun hspent => absurd hspent (h.not_spent hc))).trans
            (uncounted_note rfl)
        have hresolving : ∀ t₁ : Turn σ, t₁.connection = some (c.beginResolving env.now
            (upstream.requestBytes request body)) → t₁.Unanswered :=
          fun t₁ ht₁ => unanswered_of_resolving ht₁ rfl
        split_ifs at hrun
        · cases hrun
          exact ⟨hput, hresolving _ rfl⟩
        · cases hrun
          exact ⟨hput.trans (uncounted_same rfl rfl rfl rfl), hresolving _ rfl⟩

/-- A request is answered, and nothing is counted before that is written. -/
theorem answerRequest_uncounted {group : Nat} {request : RequestHead} {body : List UInt8}
    {goesOn : Bool} (h : t.Unanswered)
    (hrun : answerRequest env group request body t = .ok (goesOn, t')) : Uncounted t t' := by
  unfold answerRequest at hrun
  split at hrun
  · cases hrun
  · dsimp only at hrun
    split at hrun
    · exact h.queueResponse (bind_flag_ok hrun)
    · split at hrun
      · have hproxied : Uncounted t (t.note [.proxied]) := uncounted_note rfl
        have hopen : ∀ balancer, ({ t.note [.proxied] with balancer } : Turn σ).Unanswered :=
          fun _ => h
        have hbalanced : ∀ balancer, Uncounted t ({ t.note [.proxied] with balancer } : Turn σ) :=
          fun _ => hproxied.trans (uncounted_same rfl rfl rfl rfl)
        split at hrun
        · cases hrun
        next balancer _ =>
          exact (hbalanced balancer).trans ((hopen balancer).queueResponse (bind_flag_ok hrun))
        next url balancer _ =>
          cases hstart : startProxy env url request body
              { t.note [.proxied] with balancer } with
          | error e => simp [bind, Except.bind, hstart] at hrun
          | ok result =>
              obtain ⟨started, t₁⟩ := result
              simp only [bind, Except.bind, hstart, pure, Except.pure] at hrun
              obtain ⟨hstarted, hopen₁⟩ := startProxy_uncounted (hopen balancer) hstart
              have hbegun := (hbalanced balancer).trans hstarted
              split at hrun
              · cases hrun
                exact hbegun
              · exact hbegun.trans (hopen₁.queueResponse (bind_flag_ok hrun))
      · split at hrun
        · exact queueStaticResponse_uncounted h (bind_flag_ok hrun)
        · exact h.queueResponse (bind_flag_ok hrun)
      · exact h.queueResponse (bind_flag_ok hrun)

/-- A session in its handshake asks for both directions. -/
theorem flushHandshake_uncounted (hrun : flushHandshake env t = .ok t') : Uncounted t t' := by
  unfold flushHandshake at hrun
  split at hrun
  · cases hrun
    exact .refl t
  · split_ifs at hrun
    · exact reregisterClient_uncounted hrun
    · cases hrun
      exact .refl t

/-- **Whatever a client sends, nothing is counted.** -/
theorem handleConnectionReady_uncounted
    (hawaits : ∀ c, t.connection = some c → c.Awaits env.limits)
    (hrun : handleConnectionReady env t = .ok t') : Uncounted t t' := by
  unfold handleConnectionReady at hrun
  split at hrun
  · cases hrun
    exact .refl t
  next c hc =>
    generalize hpass : connectionReady env.tls.toRustls env.limits env.now c env.reads = pass at hrun
    split at hrun
    · cases hrun
      exact .refl t
    dsimp only at hrun
    split at hrun
    next hhandling =>
      -- the client's bytes are discarded
      injection hrun with hrun
      rw [← hrun]
      refine clientDuringProxyReady_uncounted hc ?_
      intro hspent
      unfold connectionReady at hpass
      rw [if_pos hhandling] at hpass
      obtain ⟨time, htime⟩ := discardLoop_connection env.now maxReadsPerEvent c env.reads
      rw [← hpass, htime]
      exact hspent.congr rfl rfl rfl rfl
    next hhandling =>
      have hfalse : c.isHandlingRequest = false := by simpa using hhandling
      have hreads := connectionReady_readsOnly env.tls.toRustls env.limits env.now hfalse env.reads
      rw [hpass] at hreads
      -- reading changes the request, unless it is the rest of a response
      have hkeeps : Spent c → Spent pass.connection := by
        intro hspent
        rcases hreads.phase with ⟨p, p', hp, -⟩ | hphase
        · rcases hspent.phase with hw | ⟨proxy, hw⟩
          · rw [hp] at hw
            cases hw
          · rw [hp] at hw
            cases hw
        · exact hspent.congr hphase hreads.staticStream hreads.sslClosing hreads.writeBuffer
      -- the connection has no exchange, so a spent one is writing
      have hwriting : Spent pass.connection → pass.connection.phase = .writingResponse := by
        intro hspent
        rcases hspent.phase with hw | ⟨proxy, hw⟩
        · exact hw
        · exfalso
          rcases hreads.phase with ⟨p, p', -, hp'⟩ | hphase
          · rw [hp'] at hw
            cases hw
          · unfold Connection.isHandlingRequest at hfalse
            rw [← hphase, hw] at hfalse
            cases hfalse
      generalize ht₁ : ((t.readBytes pass.bytesRead).put pass.connection).note
        (pass.verdicts.map Act.verdict) = t₁ at hrun
      have hc₁ : t₁.connection = some pass.connection := by
        rw [← ht₁]
        rfl
      have hread : Uncounted t t₁ := by
        have hbytes : Uncounted t (t.readBytes pass.bytesRead) := uncounted_same rfl rfl rfl rfl
        have hc' : (t.readBytes pass.bytesRead).connection = some c := hc
        rw [← ht₁]
        exact (hbytes.trans (uncounted_put hc' hkeeps)).trans
          (uncounted_note (responseCount_map_verdict _))
      cases hanswer : answerVerdict env pass.connection.listenerGroup pass.verdicts.getLast? t₁ with
      | error e => simp [bind, Except.bind, hanswer] at hrun
      | ok result =>
          obtain ⟨goesOn, t₂⟩ := result
          simp only [bind, Except.bind, hanswer, pure, Except.pure] at hrun
          have hanswered : Uncounted t₁ t₂ := by
            unfold answerVerdict at hanswer
            split at hanswer
            · -- a refused request: its page takes the place of the response
              refine queueResponse_uncounted ?_ (bind_flag_ok hanswer)
              intro c₁ hsome hspent
              rw [hc₁] at hsome
              injection hsome with hsome
              exact hsome ▸ hwriting (hsome ▸ hspent)
            next request body hlast =>
              -- a request is dispatched before there is a response
              obtain ⟨p, hp⟩ := dispatched_reading hfalse hpass.symm (hawaits c hc)
                (List.mem_of_getLast? hlast)
              have hopen : t₁.countRequest.Unanswered := by
                intro c₁ hsome
                change t₁.connection = some c₁ at hsome
                rw [hc₁] at hsome
                injection hsome with hsome
                rw [← hsome]
                rcases hreads.phase with ⟨_, p', -, hp'⟩ | hphase
                · exact .inl ⟨p', hp'⟩
                · exact .inl ⟨p, hphase.trans hp⟩
              have hcounted : Uncounted t₁ t₁.countRequest := uncounted_same rfl rfl rfl rfl
              exact hcounted.trans (answerRequest_uncounted hopen hanswer)
            · cases hanswer
              exact .refl t₁
          have hall := hread.trans hanswered
          split_ifs at hrun
          · cases hrun
            exact hall
          · exact (hall.trans (removeConnection_uncounted _)).trans (flushHandshake_uncounted hrun)
          · exact hall.trans (flushHandshake_uncounted hrun)

/-! ## §5. Writing to the client. -/

/-- What a handler counts: nothing, or one response of a connection that was not
spent and is now, if it is still there. -/
inductive Tally (t t' : Turn σ) : Prop where
  | nothing (h : Uncounted t t')
  | once (hcounts : Counts 1 t t') (hsome : t.connection ≠ none)
      (hfresh : ∀ c, t.connection = some c → ¬ Spent c)
      (hspent : ∀ c', t'.connection = some c' → Spent c')

/-- Nothing is counted, or one response and the connection is spent. -/
def CountsUp (t t' : Turn σ) : Prop :=
  Counts 0 t t' ∨ Counts 1 t t' ∧ ∀ c', t'.connection = some c' → Spent c'

/-- What came before counted nothing. -/
theorem CountsUp.after {t₁ : Turn σ} (hcounts : Counts 0 t t₁) (h : CountsUp t₁ t') :
    CountsUp t t' := by
  rcases h with hnone | ⟨hone, hspent⟩
  · exact .inl (hcounts.trans hnone)
  · have hall := hcounts.trans hone
    rw [Nat.zero_add] at hall
    exact .inr ⟨hall, hspent⟩

/-- On a connection that was fresh, the two say the same. -/
theorem CountsUp.tally (h : CountsUp t t') (hc : t.connection = some c) (hfresh : ¬ Spent c) :
    Tally t t' := by
  rcases h with hnone | ⟨hone, hspent⟩
  · refine .nothing ⟨hnone, ?_⟩
    intro c' _
    exact ⟨c, hc, fun hspent => absurd hspent hfresh⟩
  · refine .once hone (by rw [hc]; simp) ?_ hspent
    intro c₁ hc₁
    rw [hc] at hc₁
    injection hc₁ with hc₁
    exact hc₁ ▸ hfresh

/-- Forget what the connection was. -/
theorem Tally.countsUp (h : Tally t t') : CountsUp t t' := by
  cases h with
  | nothing h => exact .inl h.counts
  | once hcounts _ _ hspent => exact .inr ⟨hcounts, hspent⟩

/-- The end of a file is counted where the connection is removed. -/
theorem advanceStaticStream_tally (hrun : advanceStaticStream env t = .ok t') : Tally t t' := by
  unfold advanceStaticStream at hrun
  split at hrun
  · cases hrun
    exact .nothing (.refl t)
  next c hc =>
    split at hrun
    · cases hrun
      exact .nothing (.refl t)
    next hcurrent =>
      rw [Bool.not_eq_true, Bool.not_eq_false'] at hcurrent
      split at hrun
      · cases hrun
      next stream hstream =>
        -- a connection with a file has not been counted
        have hfresh : ¬ Spent c := by
          intro hspent
          rw [hspent.staticStream] at hstream
          cases hstream
        have hput : ∀ c', Uncounted t (t.put c') :=
          fun c' => uncounted_put hc (fun h => absurd h hfresh)
        have hcur : t.Current c := by
          obtain ⟨c₀, hcur⟩ := Turn.isCurrent_iff.mp hcurrent
          have heq := hcur.connection
          rw [hc] at heq
          injection heq with heq
          exact heq ▸ hcur
        split at hrun
        · exact .nothing (((hput _).trans (uncounted_note rfl)).trans (mustReregister_uncounted hrun))
        · exact .nothing ((hput _).trans (mustReregister_uncounted hrun))
        · injection hrun with hrun
          have hcounted : t.countResponse.Current c := ⟨hcur.connection, hcur.generation⟩
          have hgone := hcounted.removed env .streamFinished
          rw [hrun] at hgone
          refine .once ?_ (by rw [hc]; simp) ?_ ?_
          · rw [← hrun]
            exact (counts_countResponse t).trans (removeConnection_uncounted _).counts
          · intro c₁ hc₁
            rw [hc] at hc₁
            injection hc₁ with hc₁
            exact hc₁ ▸ hfresh
          · intro c' hc'
            rw [hgone] at hc'
            cases hc'
        · injection hrun with hrun
          have herror : Uncounted t t.countError := uncounted_same rfl rfl rfl rfl
          exact hrun ▸ .nothing (herror.trans (removeConnection_uncounted _))

/-- After `close_client`, the session is being closed or the connection is gone. -/
theorem closeClient_spent {site : RemovalSite} (hcur : t.Current c)
    (hphase : c.phase = .writingResponse ∨ ∃ proxy, c.phase = .proxying proxy)
    (hstream : c.staticStream = none) (hrun : closeClient env site t = .ok t') :
    Counts 0 t t' ∧ ∀ c', t'.connection = some c' → Spent c' := by
  -- without a session, or with one that is closed, the connection goes
  have hremoved : (.ok (removeConnection env site t) : Except Exit (Turn σ)) = .ok t' →
      Counts 0 t t' ∧ ∀ c', t'.connection = some c' → Spent c' := by
    intro hrun
    injection hrun with hrun
    have hgone := hcur.removed env site
    rw [hrun] at hgone
    refine ⟨hrun ▸ (removeConnection_uncounted site).counts, ?_⟩
    intro c' hc'
    rw [hgone] at hc'
    cases hc'
  unfold closeClient at hrun
  rw [hcur.connection] at hrun
  simp only [hcur.isCurrent, Bool.not_true, Bool.false_eq_true, if_false] at hrun
  split at hrun
  · exact hremoved hrun
  · split_ifs at hrun
    · exact hremoved hrun
    · generalize ht₁ : ((t.put _).note [.closeNotify]) = t₁ at hrun
      have hregistered := reregisterClient_uncounted hrun
      have hcounts : Counts 0 t t₁ := by
        rw [← ht₁]
        exact ⟨rfl, rfl, responseCount_append _ _⟩
      refine ⟨hcounts.trans hregistered.counts, ?_⟩
      intro c' hc'
      obtain ⟨c₁, hc₁, hspent⟩ := hregistered.spent c' hc'
      rw [← ht₁] at hc₁
      injection hc₁ with hc₁
      apply hspent
      rw [← hc₁]
      exact .closing hphase hstream rfl

/-- Nothing is left to write of a response, or of what was relayed so far. -/
theorem finishWrite_countsUp (hcur : t.Current c)
    (hphase : c.phase = .writingResponse ∨ ∃ proxy, c.phase = .proxying proxy)
    (hstarted : ∀ proxy, c.proxy = some proxy → proxy.responseStarted = true)
    (hrun : finishWrite env c t = .ok t') : CountsUp t t' := by
  unfold finishWrite at hrun
  split at hrun
  · exact (advanceStaticStream_tally hrun).countsUp
  next hstream =>
    have hnone : c.staticStream = none := by simpa using hstream
    have hcounted : t.countResponse.Current c := ⟨hcur.connection, hcur.generation⟩
    -- one response, and then the client is closed
    have hclosed : ∀ {site : RemovalSite},
        closeClient env site t.countResponse = .ok t' → CountsUp t t' := by
      intro site hclose
      obtain ⟨hcounts, hspent⟩ := closeClient_spent hcounted hphase hnone hclose
      exact .inr ⟨(counts_countResponse t).trans hcounts, hspent⟩
    dsimp only at hrun
    split at hrun
    · exact hclosed hrun
    next proxy hproxy =>
      split_ifs at hrun
      · exact hclosed hrun
      · exact hclosed hrun
      · -- the upstream may go on
        cases hreg : reregisterClient env .read
            (t.countResponse.put { c with writeBuffer := [], writeOffset := 0 }) with
        | error e => simp [bind, Except.bind, hreg] at hrun
        | ok t₁ =>
            simp only [bind, Except.bind, hreg, pure, Except.pure] at hrun
            injection hrun with hrun
            have hregistered := reregisterClient_uncounted hreg
            have hemptied : Counts 0 t.countResponse
                (t.countResponse.put { c with writeBuffer := [], writeOffset := 0 }) :=
              ⟨rfl, rfl, rfl⟩
            have hflag : Counts 0 t₁ t' := by
              rw [← hrun]
              exact ⟨rfl, rfl, rfl⟩
            refine .inr ⟨(((counts_countResponse t).trans hemptied).trans
              hregistered.counts).trans hflag, ?_⟩
            intro c' hc'
            rw [← hrun] at hc'
            obtain ⟨c₁, hc₁, hspent⟩ := hregistered.spent c' hc'
            injection hc₁ with hc₁
            apply hspent
            rw [← hc₁]
            exact .relayed proxy (Connection.proxy_eq_some.mp hproxy) hnone
              (hstarted proxy hproxy) rfl

/-- A write event that would count this connection's response once more: its
session is being closed, or all that was relayed is written. -/
def Connection.countsAgain (tls : Rustls σ) (self : Connection σ) : Bool :=
  (self.sslClosing || self.isProxying && self.writeBuffer.isEmpty)
    && !(self.ssl.isSome && self.writeFinished tls)

/-- **A spent connection counts again at its next write**, unless its session has sent
everything. -/
theorem Spent.countsAgain {tls : Rustls σ} (h : Spent c)
    (hleft : (c.ssl.isSome && c.writeFinished tls) = false) : c.countsAgain tls = true := by
  unfold Connection.countsAgain
  rw [hleft]
  cases h with
  | closing _ _ hclosing => simp [hclosing]
  | relayed proxy hphase _ _ hempty =>
      have hproxying := Connection.isProxying_iff.mpr ⟨proxy, hphase⟩
      simp [hproxying, hempty]

/-- The write loop moves offsets and the session. -/
theorem writeLoop_writesOnly (env : Env σ) (c : Connection σ) :
    WritesOnly c (writeLoop env.tls env.now maxWritesPerEvent c env.writes).connection := by
  let seat : Seat σ :=
    { connection := some c, interest := .write, polled := .write, writeScheduled := true
      upstreamWriteScheduled := false, upstreamReadScheduled := false, log := [] }
  exact (writeLoop_path env .pump seat maxWritesPerEvent c env.writes seat rfl (.inl rfl)).1

/-- **A write counts at most one response**, of a connection that was not spent. -/
theorem writeReady_tally (hstarted : ∀ c, t.connection = some c → c.writeBuffer ≠ [] →
      ∀ proxy, c.proxy = some proxy → proxy.responseStarted = true)
    (hguard : t.connection.any (Connection.countsAgain env.tls.toRustls) = false)
    (hrun : writeReady env t = .ok t') : Tally t t' := by
  unfold writeReady at hrun
  split at hrun
  · cases hrun
    exact .nothing (.refl t)
  next c hc =>
    rw [hc, Option.any_some] at hguard
    split at hrun
    · cases hrun
      exact .nothing (.refl t)
    next hcurrent =>
      rw [Bool.not_eq_true, Bool.not_eq_false'] at hcurrent
      split at hrun
      · exact .nothing (reregisterClient_uncounted hrun)
      next hleft =>
        rw [Bool.not_eq_true] at hleft
        -- the guard excludes the connections that were counted
        have hfresh : ¬ Spent c := fun hspent => by
          rw [hspent.countsAgain hleft] at hguard
          cases hguard
        have hwrites := writeLoop_writesOnly env c
        dsimp only at hrun
        generalize writeLoop env.tls env.now maxWritesPerEvent c env.writes = pass at hrun hwrites
        generalize ht₁ : ((t.wroteBytes pass.bytesWritten).put pass.connection).note
          (pass.acts.map Act.write) = t₁ at hrun
        have hcur : t₁.Current pass.connection := by
          obtain ⟨c₀, hcur⟩ := Turn.isCurrent_iff.mp hcurrent
          have heq := hcur.connection
          rw [hc] at heq
          injection heq with heq
          have hgen := hcur.generation
          rw [← ht₁]
          exact ⟨rfl, hwrites.generation.trans (heq ▸ hgen)⟩
        -- up to the end of the loop nothing is counted
        have hwritten : Counts 0 t t₁ := by
          rw [← ht₁]
          refine ⟨rfl, rfl, ?_⟩
          show responseCount (t.log ++ _) = _
          rw [responseCount_append, responseCount_map_write]
        suffices hup : CountsUp t₁ t' from (hup.after hwritten).tally hc hfresh
        split at hrun
        · cases hrun
          exact .inl (.refl _)
        · cases hrun
          exact .inl (removeConnection_uncounted _).counts
        · cases hrun
          exact .inl (removeConnection_uncounted _).counts
        · split at hrun
          · have hflushed : Counts 0 t₁ (t₁.note [.flushed]) := Counts.note rfl
            have hcur₁ : (t₁.note [.flushed]).Current pass.connection :=
              ⟨hcur.connection, hcur.generation⟩
            split at hrun
            next hphase =>
              rw [Bool.or_eq_true, Connection.isWritingResponse_iff, Connection.isProxying_iff]
                at hphase
              refine (finishWrite_countsUp hcur₁ hphase ?_ hrun).after hflushed
              intro proxy hproxy
              have hproxy₀ : c.proxy = some proxy := by
                rw [Connection.proxy_eq_some] at hproxy ⊢
                exact hwrites.phase ▸ hproxy
              refine hstarted c hc ?_ proxy hproxy₀
              -- the guard: there was something to write
              intro hempty
              have hproxying : c.isProxying = true :=
                Connection.isProxying_iff.mpr ⟨proxy, Connection.proxy_eq_some.mp hproxy₀⟩
              simp [Connection.countsAgain, hleft, hempty, hproxying] at hguard
            · exact .inl (hflushed.trans (reregisterClient_uncounted hrun).counts)
          · split_ifs at hrun
            · cases hrun
              exact .inl ⟨rfl, rfl, rfl⟩
            · cases hrun
              exact .inl (.refl _)

/-! ## §6. One call. -/

/-- The write events and upstream reads that would count a response once more. -/
def countsOnce (cfg : Config σ) : HistoryItem σ → Bool
  | .turn _ (.writeReady _) _ found =>
      !found.connection.any (Connection.countsAgain cfg.tls.toRustls)
  | .turn _ (.readUpstream _) io found =>
      !found.connection.any (Connection.continuesResponse cfg.limits io.upstreamReads)
  | _ => true

theorem handleTurn_tally {id : ConnectionId} {event : TurnEvent}
    (hinv : ∀ c, t.connection = some c → PhaseInv env.limits c t.log)
    (hguard : countsOnce env.toConfig (.turn id event env.toIo t.toSeat) = true)
    (hrun : handleTurn env event t = .ok t') : Tally t t' := by
  -- a scheduled pass takes its flag back first
  have hdrained : ∀ {t₁ : Turn σ}, Uncounted t₁ t' → t₁.connection = t.connection →
      t₁.metrics = t.metrics → t₁.log = t.log → Uncounted t t' :=
    fun h hc hm hl => (uncounted_same hc (by rw [hm]) (by rw [hm]) hl).trans h
  cases event with
  | connectionReady =>
      exact .nothing (handleConnectionReady_uncounted (fun c hc => (hinv c hc).awaits) hrun)
  | writeReady due =>
      simp only [countsOnce, Bool.not_eq_true'] at hguard
      -- what is in the buffer of an exchange was relayed
      have hstarted : ∀ c, t.connection = some c → c.writeBuffer ≠ [] →
          ∀ proxy, c.proxy = some proxy → proxy.responseStarted = true := by
        intro c hc hbuffer proxy hproxy
        cases hinv c hc with
        | proxying p hphase _ _ _ _ _ hstarted =>
            rw [Connection.proxy_eq_some, hphase] at hproxy
            injection hproxy with hproxy
            exact hproxy ▸ hstarted hbuffer
        | reading _ hphase | resolving _ hphase | writing hphase =>
            rw [Connection.proxy_eq_some, hphase] at hproxy
            cases hproxy
      have htally : Tally { t with writeScheduled := t.writeScheduled && !due } t' :=
        writeReady_tally hstarted hguard hrun
      cases htally with
      | nothing h => exact .nothing (hdrained h rfl rfl rfl)
      | once hcounts hsome hfresh hspent =>
          exact .once ⟨hcounts.responses, hcounts.accepted, hcounts.log⟩ hsome hfresh hspent
  | clientError =>
      injection hrun with hrun
      refine hrun ▸ .nothing (Uncounted.trans ?_ (removeConnection_uncounted _))
      split_ifs
      · exact uncounted_same rfl rfl rfl rfl
      · exact .refl t
  | clientClosed half =>
      injection hrun with hrun
      rw [← hrun]
      unfold clientClosed
      split
      · exact .nothing (.refl t)
      · split_ifs
        · exact .nothing (removeConnection_uncounted _)
        · exact .nothing (.refl t)
  | upstreamError => exact .nothing (failProxy_uncounted hrun)
  | writeUpstream due =>
      have hwrite : Uncounted
          { t with upstreamWriteScheduled := t.upstreamWriteScheduled && !due } t' :=
        writeUpstreamRequest_uncounted hrun
      exact .nothing (hdrained hwrite rfl rfl rfl)
  | readUpstream due =>
      simp only [countsOnce, Bool.not_eq_true'] at hguard
      have hread : Uncounted
          { t with upstreamReadScheduled := t.upstreamReadScheduled && !due } t' :=
        readUpstreamResponse_uncounted hguard hrun
      exact .nothing (hdrained hread rfl rfl rfl)
  | upstreamClosed =>
      injection hrun with hrun
      rw [← hrun]
      split_ifs
      · exact .nothing (uncounted_same rfl rfl rfl rfl)
      · exact .nothing (.refl t)
  | resolved addresses => exact .nothing (finishResolution_uncounted hrun)
  | resolutionExpired => exact .nothing (failResolution_uncounted hrun)
  | proxyExpired phase => exact .nothing (failProxy_uncounted hrun)
  | pump => exact advanceStaticStream_tally hrun
  | idle | handshakeExpired | shutdown | drainDeadline =>
      injection hrun with hrun
      exact hrun ▸ .nothing (removeConnection_uncounted _)

end Thwip.Readiness
