/-
  Thwip.IoUring.Lookups — who listens for the resolver's answers.

  The worker hears of an answer only through the read of its eventfd.  It submits
  that read again after each completion, unless it is shutting down: then one
  completion is the last it hears.  A lookup that is still out by then, or that
  begins later, has no answer but its timeout.
-/
import Thwip.IoUring.Accepting
import Thwip.IoUring.Limits

namespace Thwip.IoUring

open Thwip.Lib
open Relation (ReflTransGen)

variable {σ : Type} {cfg : Config σ} {env : Env σ} {w w' : IoUringWorker σ}
  {c c' : UringConnection σ} {t t' : Turn σ}

/-! ## §1. Connections that wait for an answer. -/

def UringConnection.isResolving (self : UringConnection σ) : Bool :=
  self.proxy.any (fun proxy => proxy.phase == .resolving)

theorem isResolving_congr (h : c'.proxy = c.proxy) : c'.isResolving = c.isResolving := by
  unfold UringConnection.isResolving
  rw [h]

/-- An exchange in the phase of the one before. -/
theorem isResolving_setProxy {proxy proxy' : UringProxy} (hproxy : c.proxy = some proxy)
    (hphase : proxy'.phase = proxy.phase) : (c.setProxy proxy').isResolving = c.isResolving := by
  unfold UringConnection.isResolving
  rw [hproxy]
  show (proxy'.phase == .resolving) = (proxy.phase == .resolving)
  rw [hphase]

theorem not_isResolving_of_none (h : c.proxy = none) : c.isResolving = false := by
  unfold UringConnection.isResolving
  rw [h]
  rfl

theorem not_isResolving_of_phase {proxy : UringProxy} (hproxy : c.proxy = some proxy)
    (hphase : proxy.phase ≠ .resolving) : c.isResolving = false := by
  unfold UringConnection.isResolving
  rw [hproxy, Option.any_some]
  simpa using hphase

theorem Finish.isResolving {clears : Nat} {next : Next} {pushed : List ConnectionOp}
    {acts : List Act} (h : Finish env clears c next c' pushed acts) :
    c'.isResolving = c.isResolving := by
  cases h with
  | done | sendBusy | recvBusy | recv => rfl
  | sendIdle _ _ _ hfill =>
      rcases fillOutput_cases hfill with ⟨rfl, -, -⟩ | ⟨_, _, _, _, -, -, -, rfl, -⟩
      · rfl
      · rfl
  | sent _ _ _ hfill =>
      rcases fillOutput_cases hfill with ⟨rfl, -, -⟩ | ⟨_, _, _, _, -, -, -, rfl, -⟩
      · rfl
      · rfl
  | upstream _ _ _ proxy hproxy => exact isResolving_setProxy hproxy rfl

theorem FailMove.isResolving {next : Next} {acts : List Act}
    (h : FailMove c next (some c') acts) : c'.isResolving = false := by
  cases h
  exact not_isResolving_of_none rfl

theorem AddressMove.isResolving {proxy : UringProxy} {next : Next} {acts : List Act}
    (h : AddressMove env c proxy next (some c') acts) (hres : c'.isResolving = true) :
    proxy.phase = .resolving := by
  cases h with
  | found =>
      simp only [UringConnection.isResolving, UringConnection.setProxy, UringProxy.connectTo,
        Option.any_some, beq_iff_eq] at hres
      exact hres
  | exhausted =>
      rw [not_isResolving_of_none rfl] at hres
      cases hres

theorem StreamMove.isResolving {next : Next} {acts : List Act}
    (h : StreamMove c next (some c') acts) : c'.isResolving = c.isResolving := by
  cases h with
  | data => rfl
  | pending => rfl

theorem WriteMove.isResolving {submitted : List UInt8} {result : Int} {next : Next}
    {acts : List Act} (h : WriteMove env submitted result c next (some c') acts) :
    c'.isResolving = c.isResolving := by
  have hadvance : ∀ n, (c.advance n).proxy = c.proxy := by
    intro n
    unfold UringConnection.advance
    split <;> rfl
  cases h with
  | retry => rfl
  | more => exact isResolving_congr (hadvance _)
  | stream _ _ _ _ _ _ _ hmove =>
      exact hmove.isResolving.trans (isResolving_congr (hadvance _))
  | proxy _ _ _ _ proxy hproxy => exact isResolving_setProxy hproxy rfl
  | close => exact isResolving_congr (hadvance _)

/-- A move that begins no lookup, and, after an answer, ends one. -/
theorem Move.isResolving {event : TurnEvent} {next : Next} {acts : List Act}
    (h : Move env event c next (some c') acts) (hres : c'.isResolving = true) :
    c.isResolving = true ∧ ∀ addresses, event ≠ .resolved addresses := by
  have hphase : ∀ {proxy : UringProxy}, c.proxy = some proxy → proxy.phase = .resolving →
      c.isResolving = true := by
    intro proxy hproxy hphase
    simp [UringConnection.isResolving, hproxy, hphase]
  have hkept : ∀ {proxy proxy' : UringProxy}, c.proxy = some proxy → proxy'.phase = proxy.phase →
      (c.setProxy proxy').isResolving = true → c.isResolving = true := by
    intro proxy proxy' hproxy hsame hresolving
    rw [← isResolving_setProxy hproxy hsame]
    exact hresolving
  have hmoved : ∀ {proxy : UringProxy}, c'.proxy = some proxy → proxy.phase ≠ .resolving →
      False := by
    intro proxy hproxy hne
    rw [not_isResolving_of_phase hproxy hne] at hres
    cases hres
  cases h with
  | accepted => exact ⟨hres, by simp⟩
  | recvBroken => exact ⟨hres, by simp⟩
  | recvRetry => exact ⟨hres, by simp⟩
  | write hmove => exact ⟨hmove.isResolving ▸ hres, by simp⟩
  | noProxy _ hproxy =>
      rw [not_isResolving_of_none hproxy] at hres
      cases hres
  | connectFailed _ _ _ hmove =>
      rw [hmove.isResolving] at hres
      cases hres
  | connectNext proxy hproxy hmove => exact ⟨hphase hproxy (hmove.isResolving hres), by simp⟩
  | connected proxy hproxy => exact (hmoved rfl (by simp [UringProxy.transition])).elim
  | writeFailed _ _ _ hmove =>
      rw [hmove.isResolving] at hres
      cases hres
  | writeRetry proxy hproxy => exact ⟨hkept hproxy rfl hres, by simp⟩
  | wroteSome proxy hproxy => exact ⟨hkept hproxy rfl hres, by simp⟩
  | wroteAll => exact (hmoved rfl (by simp [UringProxy.transition])).elim
  | upstreamBroken => exact ⟨hres, by simp⟩
  | readFailed _ _ _ hmove =>
      rw [hmove.isResolving] at hres
      cases hres
  | readRetry proxy hproxy => exact ⟨hkept hproxy rfl hres, by simp⟩
  | chunk proxy hproxy bytes => exact ⟨hkept hproxy rfl hres, by simp⟩
  | notResolving proxy hproxy hne => exact (hmoved hproxy hne).elim
  | unresolved =>
      rw [not_isResolving_of_none rfl] at hres
      cases hres
  | resolved addresses proxy hproxy _ hmove =>
      have hconnecting := hmove.isResolving hres
      simp [UringProxy.transition] at hconnecting
  | expiredIdle hmove =>
      rw [hmove.isResolving] at hres
      cases hres
  | expiredPending proxy hproxy => exact ⟨hkept hproxy rfl hres, by simp⟩
  | expiredMissing => exact ⟨hres, by simp⟩
  | pump _ hmove => exact ⟨hmove.isResolving ▸ hres, by simp⟩
  | pumpMissing => exact ⟨hres, by simp⟩

/-! ## §2. Requests for an upstream. -/

/-- Does `prepare_response` route this request to an upstream? -/
def routesToProxy (servers : List Server) (listeners : List UringListener) (listenerIndex : Nat)
    (head : RequestHead) : Bool :=
  match listeners[listenerIndex]? with
  | none => false
  | some listener =>
      match servers[selectServer listener.serverIndices listener.defaultServer head servers]? with
      | none => false
      | some server =>
          match route server head.target with
          | some (.proxy ..) => true
          | _ => false

/-- The plaintext that received bytes bring. -/
def UringConnection.plaintextOf (tls : Rustls σ) (self : UringConnection σ)
    (received : List UInt8) : List UInt8 :=
  match self.ssl with
  | none => received
  | some ssl => ((ssl.intake tls received).map (fun step => step.2.1)).getD []

/-- Does this plaintext complete a request for an upstream? -/
def UringConnection.asksUpstream (cfg : Config σ) (listeners : List UringListener)
    (self : UringConnection σ) (plaintext : List UInt8) : Bool :=
  match (self.receiveRequest cfg.limits plaintext).2 with
  | .dispatch head _ => routesToProxy cfg.servers listeners self.listenerIndex head
  | _ => false

theorem submitSend_isResolving (h : t.Current c) (hrun : submitSend env t = .ok t')
    (hc' : t'.connection = some c') : c'.isResolving = c.isResolving := by
  obtain ⟨c₁, pushed, acts, hfinish, hbecame⟩ := submitSend_finish h hrun
  rw [hbecame.connection] at hc'
  cases hc'
  exact hfinish.isResolving

theorem queued_isResolving {c₁ : UringConnection σ} {response : List UInt8} (h : t.Current c)
    (hgen : c₁.generation = c.generation) (hproxy : c₁.proxy = c.proxy)
    (hrun : submitSend env (t.queue c₁ response) = .ok t') (hc' : t'.connection = some c') :
    c'.isResolving = c.isResolving := by
  have hcur : (t.queue c₁ response).Current (c₁.queueResponse response) :=
    ⟨rfl, hgen.trans h.generation⟩
  exact (submitSend_isResolving hcur hrun hc').trans (isResolving_congr hproxy)

theorem prepareResponse_isResolving {request : CompletedRequest} (h : t.Current c)
    (hrequest : c.request = some request)
    (hroute : routesToProxy env.servers env.listeners c.listenerIndex request.head = false)
    (hrun : prepareResponse env t = .ok t') (hc' : t'.connection = some c') :
    c'.isResolving = c.isResolving := by
  unfold prepareResponse at hrun
  rw [h.connection] at hrun
  dsimp only at hrun
  rw [h.matches, if_neg (by decide), hrequest] at hrun
  dsimp only at hrun
  unfold routesToProxy at hroute
  split at hrun
  · injection hrun with hrun
    rw [← hrun] at hc'
    cases hc'
  next listener hlistener =>
    rw [hlistener] at hroute
    dsimp only at hroute
    split at hrun
    · exact queued_isResolving h rfl rfl hrun hc'
    next server hserver =>
      rw [hserver] at hroute
      dsimp only at hroute
      split at hrun
      · exact queued_isResolving h rfl rfl hrun hc'
      · exact queued_isResolving h rfl rfl hrun hc'
      · split at hrun
        · unfold queueStaticResponse at hrun
          rw [h.connection] at hrun
          exact queued_isResolving h (by rfl) (by rfl) hrun hc'
        · exact queued_isResolving h rfl rfl hrun hc'
      next hproxied =>
        rw [hproxied] at hroute
        cases hroute

theorem receivePlaintext_isResolving {plaintext : List UInt8} (h : t.Current c)
    (hasks : c.asksUpstream env.toConfig env.listeners plaintext = false)
    (hrun : receivePlaintext env plaintext t = .ok t') (hc' : t'.connection = some c') :
    c'.isResolving = c.isResolving := by
  unfold receivePlaintext at hrun
  have hrecv : ∀ {t₁ : Turn σ} {c₁ : UringConnection σ}, t₁.Current c₁ →
      submitRecv env t₁ = .ok t' → c'.isResolving = c₁.isResolving := by
    intro t₁ c₁ hcur hrecv
    obtain ⟨c₂, pushed, acts, hfinish, hbecame⟩ := submitRecv_finish hcur hrecv
    rw [hbecame.connection] at hc'
    cases hc'
    exact hfinish.isResolving
  split_ifs at hrun with hempty
  · exact hrecv h hrun
  · rw [h.connection] at hrun
    dsimp only at hrun
    rw [h.matches, if_neg (by decide)] at hrun
    cases hstep : c.receiveRequest env.limits plaintext with
    | mk c₁ verdict =>
        rw [hstep] at hrun
        dsimp only at hrun
        unfold UringConnection.asksUpstream at hasks
        rw [hstep] at hasks
        obtain ⟨requestBuffer, pendingRequest, request, hframe⟩ := receiveRequest_frame hstep
        have hgen : c₁.generation = c.generation := by rw [hframe]
        have hproxy : c₁.proxy = c.proxy := by rw [hframe]
        have hsame := isResolving_congr hproxy
        have hcur : (((t.readBytes plaintext.length).put c₁).note [.verdict verdict]).Current c₁ :=
          ⟨rfl, hgen.trans h.generation⟩
        cases verdict with
        | keepWaiting => exact (hrecv hcur hrun).trans hsame
        | error status message =>
            have hsettles : Settles env _ .send _ _ _ := queueHttpError_settles hcur status message
            obtain ⟨t₁, hmoved, heq⟩ := hsettles
            dsimp only at hrun
            rw [heq] at hrun
            have hcur₁ : t₁.Current _ := hmoved.current hcur rfl
            exact (submitSend_isResolving hcur₁ hrun hc').trans
              ((isResolving_congr (by rfl)).trans hsame)
        | dispatch head body =>
            have hrequest := receiveRequest_dispatch hstep
            have hindex : c₁.listenerIndex = c.listenerIndex := by rw [hframe]
            have hcount : (((t.readBytes plaintext.length).put c₁).note
                [.verdict (.dispatch head body)]).countRequest.Current c₁ :=
              ⟨rfl, hgen.trans h.generation⟩
            refine (prepareResponse_isResolving hcount hrequest ?_ hrun hc').trans hsame
            rw [hindex]
            exact hasks

/-! ## §3. Turns that begin no lookup. -/

theorem completeRequest_congr (hbuffer : c'.requestBuffer = c.requestBuffer)
    (hpending : c'.pendingRequest = c.pendingRequest) :
    c'.completeRequest.2 = c.completeRequest.2 := by
  unfold UringConnection.completeRequest
  rw [hbuffer, hpending]
  split
  · rfl
  · split_ifs <;> rfl

/-- What becomes of received plaintext depends on the request so far. -/
theorem asksUpstream_congr (hbuffer : c'.requestBuffer = c.requestBuffer)
    (hpending : c'.pendingRequest = c.pendingRequest) (hlistener : c'.listenerIndex = c.listenerIndex)
    (cfg : Config σ) (listeners : List UringListener) (plaintext : List UInt8) :
    c'.asksUpstream cfg listeners plaintext = c.asksUpstream cfg listeners plaintext := by
  have hverdict : (c'.receiveRequest cfg.limits plaintext).2
      = (c.receiveRequest cfg.limits plaintext).2 := by
    unfold UringConnection.receiveRequest
    rw [hbuffer, hpending]
    split_ifs
    · rfl
    · cases hpend : c.pendingRequest with
      | some pending =>
          exact completeRequest_congr rfl rfl
      | none =>
          dsimp only
          cases hrecord : recordRequest cfg.limits (c.requestBuffer ++ plaintext) with
          | error e => rfl
          | ok pending =>
              exact completeRequest_congr rfl rfl
  unfold UringConnection.asksUpstream
  rw [hverdict, hlistener]

theorem Finish.pendingRequest {clears : Nat} {next : Next} {pushed : List ConnectionOp}
    {acts : List Act} (h : Finish env clears c next c' pushed acts) :
    c'.pendingRequest = c.pendingRequest := by
  cases h with
  | done | sendBusy | recvBusy | recv | upstream => rfl
  | sendIdle _ _ _ hfill =>
      rcases fillOutput_cases hfill with ⟨rfl, -, -⟩ | ⟨_, _, _, _, -, -, -, rfl, -⟩
      · rfl
      · rfl
  | sent _ _ _ hfill =>
      rcases fillOutput_cases hfill with ⟨rfl, -, -⟩ | ⟨_, _, _, _, -, -, -, rfl, -⟩
      · rfl
      · rfl

/-- The received bytes complete a request for an upstream. -/
def TurnEvent.asksUpstream (cfg : Config σ) (listeners : List UringListener)
    (c : UringConnection σ) : TurnEvent → Bool
  | .read result _ contents =>
      0 < result && c.asksUpstream cfg listeners
        (c.plaintextOf cfg.tls ((List.range result.toNat).map contents))
  | _ => false

/-- **A turn that leaves a connection waiting for an answer found it waiting**, and
was not the answer, unless it took a request for an upstream. -/
theorem handleTurn_isResolving (h : t.Current c) {event : TurnEvent}
    (hasks : event.asksUpstream env.toConfig env.listeners c = false)
    (hrun : handleTurn env event t = .ok t') (hc' : t'.connection = some c')
    (hres : c'.isResolving = true) :
    c.isResolving = true ∧ ∀ addresses, event ≠ .resolved addresses := by
  rcases handleTurn_cases h event with ⟨next, c₁?, acts, hmove, hsettles⟩ |
    ⟨result, bufferId, contents, rfl, hpos, flush, c₁, plaintext, acts, t₁, hintake, hmoved, heq⟩
  · rcases hsettles.outcome h hrun (fun d hd => (hd ▸ hmove).sameClient)
      (fun hnone => (hnone ▸ hmove).done_of_removed) with ⟨rfl, hbecame⟩ |
      ⟨d, c₂, pushed, acts₂, rfl, hfinish, hbecame⟩
    · rw [hbecame.connection] at hc'
      cases hc'
    · rw [hbecame.connection] at hc'
      cases hc'
      rw [hfinish.isResolving] at hres
      exact hmove.isResolving hres
  · refine ⟨?_, by simp⟩
    rw [heq] at hrun
    cases hflush : flush.run env t₁ with
    | error e =>
        rw [hflush] at hrun
        cases hrun
    | ok t₂ =>
        rw [hflush] at hrun
        have hclient := (sameClient_markReadCompleted c).trans hintake.sameClient
        obtain ⟨c₂, pushed, acts₂, hfinish, hbecame⟩ :=
          flush.run_finish (hmoved.current h hclient.generation) hflush
        have hcur₂ : t₂.Current c₂ := ⟨hbecame.connection, by
          rw [hfinish.sameClient.generation, hclient.generation, h.generation, hbecame.id,
            hmoved.id]⟩
        have hbuffer : c₂.requestBuffer = c.requestBuffer :=
          hfinish.request.1.trans hintake.request.1
        have hpending : c₂.pendingRequest = c.pendingRequest := by
          rw [hfinish.pendingRequest]
          cases hintake <;> rfl
        have hproxy : c₁.isResolving = c.isResolving := by
          cases hintake <;> rfl
        have hplaintext : plaintext
            = c.plaintextOf env.tls ((List.range result.toNat).map contents) := by
          unfold UringConnection.plaintextOf
          cases hintake with
          | plain hssl =>
              have hnone : c.ssl = none := hssl
              rw [hnone]
          | tls ssl ssl' hssl taken plaintext hintake =>
              have hsome : c.ssl = some ssl := hssl
              rw [hsome]
              dsimp only
              rw [hintake]
              rfl
        have hnot : c₂.asksUpstream env.toConfig env.listeners plaintext = false := by
          rw [asksUpstream_congr hbuffer hpending
            (hfinish.sameClient.listenerIndex.trans hclient.listenerIndex), hplaintext]
          simpa [TurnEvent.asksUpstream, hpos] using hasks
        rw [receivePlaintext_isResolving hcur₂ hnot hrun hc', hfinish.isResolving, hproxy] at hres
        exact hres

/-! ## §4. The connections that wait. -/

/-- The connection `id` waits for the answer to a lookup. -/
def IoUringWorker.Awaits (w : IoUringWorker σ) (id : ConnectionId) : Prop :=
  ∃ occ, w.connections.get id.slot = some occ ∧ occ.connection.generation = id.generation
    ∧ occ.connection.isResolving = true

def IoUringWorker.awaiting (w : IoUringWorker σ) : List ConnectionId :=
  w.connections.select (fun slot occ =>
    if occ.connection.isResolving then some ⟨slot, occ.connection.generation⟩ else none)

theorem mem_awaiting {id : ConnectionId} : id ∈ w.awaiting ↔ w.Awaits id := by
  constructor
  · intro hmem
    obtain ⟨slot, occ, hget, hselect⟩ := Slab.of_mem_select hmem
    split_ifs at hselect with hres
    injection hselect with hselect
    subst hselect
    exact ⟨occ, hget, rfl, hres⟩
  · rintro ⟨occ, hget, hgen, hres⟩
    exact Slab.mem_select hget (by rw [if_pos hres, hgen])

/-- Does the turn of this event take a request for an upstream? -/
def IoUringWorker.asksUpstream (cfg : Config σ) (w : IoUringWorker σ) (id : ConnectionId)
    (event : TurnEvent) : Bool :=
  match w.connections.get id.slot with
  | none => false
  | some occ =>
      occ.connection.matchesGeneration id.generation
        && event.asksUpstream cfg w.listeners occ.connection

theorem Awaits.of_connections {id : ConnectionId} (h : w'.Awaits id)
    (hconnections : w'.connections = w.connections) : w.Awaits id := by
  unfold IoUringWorker.Awaits at h
  rw [hconnections] at h
  exact h

/-- A connection that waits after a turn waited before, and the turn did not bring
its answer. -/
theorem runTurn_awaits {world : World} {id id' : ConnectionId} {event : TurnEvent}
    (hlive : w.Live id ∨ event.mayBeStale = true) (hasks : w.asksUpstream cfg id event = false)
    (hrun : w.runTurn cfg world id event = .ok w') (h : w'.Awaits id') :
    w.Awaits id' ∧ (id' = id → ∀ addresses, event ≠ .resolved addresses) := by
  obtain ⟨occ', hget', hgen', hres'⟩ := h
  by_cases hpresent : w.Live id
  · obtain ⟨occ, hget, hgen⟩ := hpresent
    by_cases hslot : id.slot = id'.slot
    · obtain ⟨t, ht, rfl⟩ := runTurn_eq hrun
      have hcur : (w.view id).Current occ.connection := view_current hget hgen
      have hentry := commit_get_self hget event world t
      rw [← hslot, hentry] at hget'
      obtain ⟨c', hc', rfl⟩ := Option.map_eq_some_iff.mp hget'
      have hnot : event.asksUpstream (w.env cfg world).toConfig (w.env cfg world).listeners
          occ.connection = false := by
        unfold IoUringWorker.asksUpstream at hasks
        rw [hget] at hasks
        show event.asksUpstream cfg w.listeners occ.connection = false
        simpa [UringConnection.matchesGeneration, hgen] using hasks
      obtain ⟨hres, hother⟩ := handleTurn_isResolving hcur hnot ht hc' hres'
      obtain ⟨d, pushed, acts, houtcome, hbecame⟩ := handleTurn_outcome hcur ht
      rw [hbecame.connection] at hc'
      subst hc'
      have hsame : occ.connection.generation = id'.generation := by
        rw [← houtcome.sameClient.generation]
        exact hgen'
      exact ⟨⟨occ, hslot ▸ hget, hsame, hres⟩, fun _ => hother⟩
    · rw [runTurn_get_ne hrun hslot] at hget'
      exact ⟨⟨occ', hget', hgen', hres'⟩, fun heq => absurd (congrArg ConnectionId.slot heq).symm hslot⟩
  · -- the turn found nobody
    have hstale := hlive.resolve_left hpresent
    rw [runTurn_stale_get hpresent hstale hrun] at hget'
    refine ⟨⟨occ', hget', hgen', hres'⟩, fun heq => ?_⟩
    subst heq
    exact absurd ⟨occ', hget', hgen'⟩ hpresent

/-- No change but a client's request begins a lookup. -/
theorem Change.awaits {id : ConnectionId} (hchange : Change cfg w w') (h : w'.Awaits id) :
    w.Awaits id := by
  cases hchange with
  | turn world id' event hevent hlive hrun =>
      refine (runTurn_awaits hlive ?_ hrun h).1
      unfold IoUringWorker.asksUpstream
      split
      · rfl
      · cases event <;> first | exact Bool.and_false _ | cases hevent
  | pushed | dropped | failed | flags => exact Awaits.of_connections h rfl
  | inserted now socket listenerIndex ssl id' connection generations hvacant hle hnew =>
      obtain ⟨occ, hget, hgen, hres⟩ := h
      by_cases hslot : id'.slot = id.slot
      · have hself : (Slab.insertAt w.connections id'.slot
            { connection, log := [.accepted connection.ssl.isSome] }).get id'.slot = _ :=
          Slab.get_insertAt_self hle _
        rw [← hslot] at hget
        cases hself.symm.trans hget
        have hproxy : connection.proxy = none := by
          unfold UringConnection.new at hnew
          split at hnew
          · injection hnew with hnew
            exact hnew ▸ rfl
          · split at hnew
            · cases hnew
            · injection hnew with hnew
              exact hnew ▸ rfl
        rw [not_isResolving_of_none hproxy] at hres
        cases hres
      · have hother : (Slab.insertAt w.connections id'.slot
            { connection, log := [.accepted connection.ssl.isSome] }).get id.slot = _ :=
          Slab.get_insertAt_ne hle hslot _
        exact ⟨occ, hother.symm.trans hget, hgen, hres⟩

theorem Changes.awaits {id : ConnectionId} (hpath : Changes cfg w w') (h : w'.Awaits id) :
    w.Awaits id := by
  induction hpath with
  | refl => exact h
  | tail _ hchange ih => exact ih (hchange.awaits h)

theorem runTurn_inFlight {world : World} {id : ConnectionId} {event : TurnEvent} {entry : Entry}
    (hrun : w.runTurn cfg world id event = .ok w') (hmem : entry ∈ w.inFlight) :
    entry ∈ w'.inFlight := by
  obtain ⟨t, -, rfl⟩ := runTurn_eq hrun
  exact List.mem_append_left _ (List.mem_append_left _ hmem)

theorem Changes.inFlight {entry : Entry} (hpath : Changes cfg w w') (hmem : entry ∈ w.inFlight) :
    entry ∈ w'.inFlight := by
  induction hpath with
  | refl => exact hmem
  | tail _ hchange ih =>
      cases hchange with
      | turn _ _ _ _ _ hrun => exact runTurn_inFlight hrun ih
      | pushed => exact List.mem_append_left _ ih
      | dropped | inserted | failed | flags => exact ih

/-! ## §5. Who still hears the resolver. -/

theorem submitAccept_shuttingDown {world : World} {idx : Nat}
    (hrun : submitAccept world idx w = .ok w') : w'.shuttingDown = w.shuttingDown := by
  unfold submitAccept IoUringWorker.pushEntry at hrun
  split at hrun
  · cases hrun
  · split_ifs at hrun
    · injection hrun with hrun
      exact hrun ▸ rfl
    · cases hrun
    · simp only [bind, Except.bind, pure, Except.pure] at hrun
      injection hrun with hrun
      exact hrun ▸ rfl

theorem handleAcceptCompletion_shuttingDown {world : World} {idx : Nat} {generation : UInt16}
    {result : Int} {more : Bool}
    (hrun : handleAcceptCompletion cfg world idx generation result more w = .ok w') :
    w'.shuttingDown = w.shuttingDown := by
  unfold handleAcceptCompletion at hrun
  split at hrun
  · injection hrun with hrun
    exact hrun ▸ rfl
  next listener hlistener =>
    split_ifs at hrun
    · injection hrun with hrun
      exact hrun ▸ rfl
    · dsimp only at hrun
      cases hsettle : settleAccept cfg world idx (listener.afterAccept result more) result
          { w with listeners := w.listeners.set idx (listener.afterAccept result more) } with
      | error e => simp [bind, Except.bind, hsettle] at hrun
      | ok w₁ =>
          simp only [bind, Except.bind, hsettle, pure, Except.pure] at hrun
          have hsettled := (settleAccept_aside hsettle).shuttingDown
          split_ifs at hrun
          · exact (submitAccept_shuttingDown hrun).trans hsettled
          · injection hrun with hrun
            exact hrun ▸ hsettled

/-- A shutdown is not taken back. -/
theorem step_shuttingDown {event : Event} (hstep : step cfg event w = .ok w')
    (hdown : w.shuttingDown = true) : w'.shuttingDown = true := by
  cases event with
  | requestShutdown =>
      injection hstep with hstep
      exact hstep ▸ hdown
  | loopTop world =>
      rcases loopTop_cases hstep with ⟨w₁, hbegun, ⟨-, hresult⟩ | ⟨-, hresult⟩⟩ |
        ⟨exit, -, hresult⟩
      · cases hresult
      · injection hresult with hresult
        subst hresult
        unfold Begun at hbegun
        split_ifs at hbegun
        · rcases beginShutdown_cases hbegun with ⟨-, rfl⟩ | ⟨-, rfl⟩
          · exact hdown
          · rfl
        · injection hbegun with hbegun
          exact hbegun ▸ hdown
      · cases hresult
  | completed index completion dns world =>
      unfold step at hstep
      dsimp only at hstep
      cases hentry : w.inFlight[index]? with
      | none =>
          rw [hentry] at hstep
          injection hstep with hstep
          exact hstep ▸ hdown
      | some entry =>
          rw [hentry] at hstep
          dsimp only at hstep
          generalize htaken : (if entry.persists completion.more then w
            else { w with inFlight := w.inFlight.eraseIdx index }) = w₁ at hstep
          have hsame : w₁.shuttingDown = true := by
            rw [← htaken]
            split_ifs <;> exact hdown
          cases entry with
          | accept => exact (handleAcceptCompletion_shuttingDown hstep).trans hsame
          | dnsRead =>
              unfold dispatchCompletion processDnsResults at hstep
              cases hturns : runTurns cfg world (dns.map fun result =>
                  (result.connectionId, TurnEvent.resolved result.addresses)) w₁ with
              | error e => simp [bind, Except.bind, hturns] at hstep
              | ok w₂ =>
                  have hstill : w₂.shuttingDown = true :=
                    (runTurns_aside hturns).shuttingDown.trans hsame
                  simp only [bind, Except.bind, hturns, pure, Except.pure, hstill, Bool.not_true,
                    Bool.false_eq_true, if_false] at hstep
                  injection hstep with hstep
                  exact hstep ▸ hstill
          | timerRead => exact (checkProxyTimeouts_aside hstep).shuttingDown.trans hsame
          | operation id op => exact (runTurn_aside hstep).shuttingDown.trans hsame
          | shutdownRead | cancel | proxyCancel =>
              injection hstep with hstep
              exact hstep ▸ hsame

/-- After the turns of the results, nobody waits who was answered. -/
theorem resolvedTurns_awaits {world : World} {results : List ResolveResult} {id : ConnectionId} :
    ∀ {w : IoUringWorker σ}, runTurns cfg world (results.map fun result =>
        (result.connectionId, TurnEvent.resolved result.addresses)) w = .ok w' →
      w'.Awaits id → w.Awaits id ∧ ∀ result ∈ results, result.connectionId ≠ id := by
  induction results with
  | nil =>
      intro w hrun h
      injection hrun with hrun
      exact ⟨hrun ▸ h, by simp⟩
  | cons result results ih =>
      intro w hrun h
      unfold runTurns at hrun
      rw [List.map_cons, List.foldlM_cons] at hrun
      cases hturn : w.runTurn cfg world result.connectionId (.resolved result.addresses) with
      | error e =>
          rw [hturn] at hrun
          cases hrun
      | ok w₁ =>
          rw [hturn] at hrun
          obtain ⟨h₁, hrest⟩ := ih hrun h
          have hasks : w.asksUpstream cfg result.connectionId (.resolved result.addresses)
              = false := by
            unfold IoUringWorker.asksUpstream
            split
            · rfl
            · exact Bool.and_false _
          obtain ⟨hbefore, hother⟩ := runTurn_awaits (.inr rfl) hasks hturn h₁
          refine ⟨hbefore, ?_⟩
          intro result' hmem
          rcases List.mem_cons.mp hmem with rfl | hmem
          · intro heq
            exact hother heq.symm _ rfl
          · exact hrest result' hmem

/-- While the worker shuts down, a read of the eventfd that completes brings an
answer for each connection that waits for one, and without a read in flight no
request for an upstream is taken. -/
def deliversAnswers (cfg : Config σ) (w : IoUringWorker σ) (event : Event) : Bool :=
  !w.shuttingDown ||
    match event with
    | .completed index completion dns _ =>
        match w.inFlight[index]? with
        | some .dnsRead =>
            w.awaiting.all (fun id => dns.any (fun result => result.connectionId == id))
        | some (.operation id op) =>
            w.inFlight.contains .dnsRead || !w.asksUpstream cfg id (op.turnEvent completion)
        | _ => true
    | _ => true

/-- The eventfd is read until a shutdown, and after that while somebody waits. -/
structure Listens (w : IoUringWorker σ) : Prop where
  running : w.shuttingDown = false → .dnsRead ∈ w.inFlight
  awaited : ∀ id, w.Awaits id → .dnsRead ∈ w.inFlight

theorem Listens.of_mem (h : .dnsRead ∈ w.inFlight) : Listens w := ⟨fun _ => h, fun _ _ => h⟩

theorem Listens.of_quiet (hdown : w.shuttingDown = true) (h : ∀ id, ¬ w.Awaits id) : Listens w :=
  ⟨fun hfalse => absurd (hdown.symm.trans hfalse) (by decide), fun id hid => absurd hid (h id)⟩

/-- Everything a step adds to the submissions stays. -/
theorem step_inFlight {event : Event} {entry : Entry} (hstep : step cfg event w = .ok w')
    (hmem : entry ∈ (event.taken w).inFlight) : entry ∈ w'.inFlight := by
  rcases step_changes hstep with ⟨_, _, _, _, _, _, -, -, hrun⟩ | hpath
  · exact runTurn_inFlight hrun hmem
  · exact hpath.inFlight hmem

/-- The eventfd's own completion. -/
theorem Listens.answered {results : List ResolveResult} {world : World}
    (hall : w.shuttingDown = true → ∀ id, w.Awaits id → ∃ result ∈ results, result.connectionId = id)
    (hrun : processDnsResults cfg world results w = .ok w') : Listens w' := by
  unfold processDnsResults at hrun
  cases hturns : runTurns cfg world (results.map fun result =>
      (result.connectionId, TurnEvent.resolved result.addresses)) w with
  | error e => simp [bind, Except.bind, hturns] at hrun
  | ok w₁ =>
      simp only [bind, Except.bind, hturns, pure, Except.pure] at hrun
      have hsame := (runTurns_aside hturns).shuttingDown
      split_ifs at hrun with hdown
      · unfold IoUringWorker.pushEntry at hrun
        split_ifs at hrun
        injection hrun with hrun
        subst hrun
        exact .of_mem (List.mem_append_right _ (List.mem_singleton_self _))
      · injection hrun with hrun
        subst hrun
        have hdown : w₁.shuttingDown = true := by simpa using hdown
        refine .of_quiet hdown fun id hid => ?_
        obtain ⟨hbefore, hunanswered⟩ := resolvedTurns_awaits hturns hid
        obtain ⟨result, hmem, heq⟩ := hall (hsame ▸ hdown) id hbefore
        exact hunanswered result hmem heq

/-- A step after which nobody waits who did not wait before it. -/
theorem taken_awaits {event : Event} {id : ConnectionId} (h : (event.taken w).Awaits id) :
    w.Awaits id := by
  rcases event.taken_cases w with heq | ⟨_, _, _, _, _, -, -, -, heq⟩
  · rw [heq] at h
    exact h
  · rw [heq] at h
    exact h

theorem Listens.step (h : Listens w) {event : Event} (hmeets : deliversAnswers cfg w event = true)
    (hstep : IoUring.step cfg event w = .ok w') : Listens w' := by
  by_cases htaken : Entry.dnsRead ∈ (event.taken w).inFlight
  · exact .of_mem (step_inFlight hstep htaken)
  by_cases hbefore : Entry.dnsRead ∈ w.inFlight
  · -- this step handles the only read
    rcases event.taken_cases w with heq | ⟨index, completion, dns, world, entry, rfl, hentry, hends, heq⟩
    · rw [heq] at htaken
      exact absurd hbefore htaken
    · obtain ⟨before, after, hsplit, herase⟩ := eraseIdx_split hentry
      have hread : entry = .dnsRead := by
        rw [hsplit] at hbefore
        rw [heq] at htaken
        dsimp only at htaken
        rw [herase] at htaken
        simp only [List.mem_append, List.mem_cons, not_or] at hbefore htaken
        rcases hbefore with hleft | hself | hright
        · exact absurd hleft htaken.1
        · exact hself.symm
        · exact absurd hright htaken.2
      subst hread
      unfold IoUring.step at hstep
      dsimp only at hstep
      rw [hentry] at hstep
      dsimp only at hstep
      rw [if_neg (by rw [hends]; decide)] at hstep
      refine Listens.answered ?_ hstep
      intro hdown id hid
      unfold deliversAnswers at hmeets
      have hdown : w.shuttingDown = true := hdown
      rw [hdown] at hmeets
      dsimp only at hmeets
      rw [hentry] at hmeets
      have hanswer := List.all_eq_true.mp hmeets id (mem_awaiting.mpr hid)
      obtain ⟨result, hmem, hsame⟩ := List.any_eq_true.mp hanswer
      exact ⟨result, hmem, eq_of_beq hsame⟩
  · -- nobody waits, and nobody begins to
    have hdown : w.shuttingDown = true := by
      cases hdown : w.shuttingDown with
      | true => rfl
      | false => exact absurd (h.running hdown) hbefore
    have hquiet : ∀ id, ¬ w.Awaits id := fun id hid => hbefore (h.awaited id hid)
    refine .of_quiet (step_shuttingDown hstep hdown) fun id hid => ?_
    rcases step_changes hstep with ⟨index, completion, dns, world, id', op, rfl, hentry, hrun⟩ | hpath
    · have hasks : w.asksUpstream cfg id' (op.turnEvent completion) = false := by
        unfold deliversAnswers at hmeets
        rw [hdown] at hmeets
        dsimp only at hmeets
        rw [hentry] at hmeets
        simpa [hbefore] using hmeets
      have hsame : (Event.taken w (.completed index completion dns world)).asksUpstream cfg id'
          (op.turnEvent completion) = false := by
        rcases Event.taken_cases w (.completed index completion dns world) with heq |
          ⟨_, _, _, _, _, -, -, -, heq⟩
        · rw [heq]
          exact hasks
        · rw [heq]
          exact hasks
      exact hquiet id (taken_awaits (runTurn_awaits (.inr (op.turnEvent_mayBeStale completion))
        hsame hrun hid).1)
    · exact hquiet id (taken_awaits (hpath.awaits hid))

theorem Listens.start {world : World} {w₀ : IoUringWorker σ}
    (hstart : start world w₀ = .ok w) : Listens w := by
  unfold IoUring.start at hstart
  cases h₁ : (List.range w₀.listeners.length).foldlM (fun w idx => submitAccept world idx w) w₀ with
  | error e => simp [bind, Except.bind, h₁] at hstart
  | ok w₁ =>
      cases h₂ : w₁.pushEntry world .shutdownRead with
      | error e => simp [bind, Except.bind, h₁, h₂] at hstart
      | ok w₂ =>
          simp only [bind, Except.bind, h₁, h₂] at hstart
          unfold IoUringWorker.pushEntry at hstart
          split_ifs at hstart
          dsimp only at hstart
          injection hstart with hstart
          subst hstart
          exact .of_mem (List.mem_append_left _
            (List.mem_append_right _ (List.mem_singleton_self _)))

theorem Run.listens (h : Run cfg (fun w event => deliversAnswers cfg w event = true) w) :
    Listens w := by
  induction h with
  | start world _ hstart => exact .start hstart
  | step event _ hmeets hstep ih => exact ih.step hmeets hstep

/-- **While a connection waits for an answer the eventfd is being read**, in every
run in which, during a shutdown, no read of it completes without an answer for
each connection that waits and no request for an upstream is taken without a read
in flight.  The completed read hands over every answer that has come in. -/
theorem answers_are_heard (h : Run cfg (fun w event => deliversAnswers cfg w event = true) w) :
    (∀ slot occ, w.connections.get slot = some occ → occ.connection.isResolving = true →
      .dnsRead ∈ w.inFlight)
    ∧ ∀ index completion dns world w', w.inFlight[index]? = some .dnsRead →
      step cfg (.completed index completion dns world) w = .ok w' →
      ∀ result ∈ dns, ¬ w'.Awaits result.connectionId := by
  have hlistens := h.listens
  refine ⟨?_, ?_⟩
  · intro slot occ hget hres
    exact hlistens.awaited ⟨slot, occ.connection.generation⟩ ⟨occ, hget, rfl, hres⟩
  · intro index completion dns world w' hentry hstep result hmem hawaits
    unfold step at hstep
    dsimp only at hstep
    rw [hentry] at hstep
    unfold dispatchCompletion processDnsResults at hstep
    dsimp only at hstep
    rw [if_neg (by exact Bool.false_ne_true)] at hstep
    cases hturns : runTurns cfg world (dns.map fun result =>
        (result.connectionId, TurnEvent.resolved result.addresses))
        { w with inFlight := w.inFlight.eraseIdx index } with
    | error e => simp [bind, Except.bind, hturns] at hstep
    | ok w₁ =>
        simp only [bind, Except.bind, hturns, pure, Except.pure] at hstep
        have hlast : w'.connections = w₁.connections := by
          split_ifs at hstep
          · unfold IoUringWorker.pushEntry at hstep
            split_ifs at hstep
            injection hstep with hstep
            exact hstep ▸ rfl
          · injection hstep with hstep
            exact hstep ▸ rfl
        exact (resolvedTurns_awaits hturns (Awaits.of_connections hawaits hlast)).2 result hmem rfl

section Example

def lookupWorker : Config Unit := Config.single Rustls.absent none proxyAll

/-- A whole request arrives. -/
def Event.asks : Event :=
  .completed 4 (.received (asBytes "GET / HTTP/1.1\r\n\r\n".toList)) [] .quiet

/-- Two clients ask for an upstream, then the worker shuts down. -/
def twoLookups : List Event :=
  [.accepts 5, .asks, .completed 0 (.plain 6) [] { World.quiet with vacantKey := 1 }, .asks,
   .requestShutdown, .loopTop .quiet]

/-- A third client asks while the worker shuts down. -/
def lateLookup : List Event :=
  twoLookups.take 4 ++
    [.completed 0 (.plain 7) [] { World.quiet with vacantKey := 2 },
     .requestShutdown, .loopTop .quiet, .asks]

/-- The resolver's answers to all three. -/
def threeAnswers : List ResolveResult :=
  [⟨⟨0, 1⟩, some ["10.0.0.1:80".toList]⟩, ⟨⟨1, 1⟩, none⟩, ⟨⟨2, 1⟩, none⟩]

/-- All three are heard. -/
theorem answers_are_heard_late :
    ∃ w w' : IoUringWorker Unit, Reachable lookupWorker w ∧ w.shuttingDown = true
      ∧ (∀ result ∈ threeAnswers, w.Awaits result.connectionId) ∧ .dnsRead ∈ w.inFlight
      ∧ step lookupWorker (.completed 2 (.plain 8) threeAnswers .quiet) w = .ok w'
      ∧ ∀ result ∈ threeAnswers, ¬ w'.Awaits result.connectionId := by
  have hrun : bootsWhile lookupWorker .quiet (deliversAnswers lookupWorker) lateLookup (fun w =>
      w.shuttingDown && w.awaiting == threeAnswers.map ResolveResult.connectionId
        && w.inFlight[2]? == some .dnsRead
        && (step lookupWorker (.completed 2 (.plain 8) threeAnswers .quiet) w).isOk) = true := by
    decide +kernel
  obtain ⟨w, hw, hp⟩ := run_of_bootsWhile hrun
  simp only [Bool.and_eq_true, beq_iff_eq] at hp
  obtain ⟨⟨⟨hdown, hawaiting⟩, hread⟩, hok⟩ := hp
  have hawaits : ∀ result ∈ threeAnswers, w.Awaits result.connectionId := by
    intro result hresult
    exact mem_awaiting.mp (hawaiting ▸ List.mem_map_of_mem hresult)
  obtain ⟨hheard, htaken⟩ := answers_are_heard hw
  obtain ⟨occ, hget, -, hres⟩ := hawaits _ List.mem_cons_self
  cases hstep : step lookupWorker (.completed 2 (.plain 8) threeAnswers .quiet) w with
  | error exit => simp [hstep, Except.isOk, Except.toBool] at hok
  | ok w' =>
      exact ⟨w, w', hw.reachable, hdown, hawaits, hheard 0 occ hget hres, hstep,
        htaken 2 _ _ _ w' hread hstep⟩

/-- The read completes with the answer to one of two lookups, and no other begins. -/
theorem second_answer_is_not_heard :
    ¬ ∀ w : IoUringWorker Unit, Reachable lookupWorker w →
      ∀ slot occ, w.connections.get slot = some occ → occ.connection.isResolving = true →
        .dnsRead ∈ w.inFlight := by
  intro hall
  have hrun : bootsTo lookupWorker .quiet
      (twoLookups ++ [.completed 2 (.plain 8) [⟨⟨0, 1⟩, some ["10.0.0.1:80".toList]⟩] .quiet])
      (fun w => w.awaiting == [⟨1, 1⟩] && !w.inFlight.contains .dnsRead) = true := by
    decide +kernel
  obtain ⟨w, hw, hp⟩ := reachable_of_bootsTo hrun
  rw [Bool.and_eq_true, beq_iff_eq, Bool.not_eq_true'] at hp
  have hawaits : w.Awaits ⟨1, 1⟩ := mem_awaiting.mp (hp.1 ▸ List.mem_singleton_self _)
  obtain ⟨occ, hget, -, hres⟩ := hawaits
  have hread := hall w hw 1 occ hget hres
  rw [← List.contains_iff_mem, hp.2] at hread
  cases hread

end Example

end Thwip.IoUring
