/-
  Thwip.IoUring.Panics — which steps can panic.

  A turn panics in its final call, when an `unwrap` of the proxy, its socket or
  its address fails, or where a handler says so.  A `CalmRule` is a rule whose
  invariant excludes all of these; `CalmRule.step_panic` then leaves the load
  balancer as the only place where a step of a guarded run can panic.
-/
import Thwip.IoUring.Runs

namespace Thwip.IoUring

open Thwip.Lib

variable {σ : Type} {cfg : Config σ} {env : Env σ} {t : Turn σ} {c : UringConnection σ}
  {site : PanicSite}

/-! ## §1. Final calls. -/

/-- The upstream submission `next` finds everything it unwraps. -/
def Next.Fit (next : Next) (c : UringConnection σ) : Prop :=
  ∃ proxy, c.proxy = some proxy ∧ proxy.upstream.isSome = true
    ∧ (next = .connect → proxy.address.isSome = true)

theorem pushEntry_panic {op : ConnectionOp} (hrun : t.pushEntry env op = .error (.panic site)) :
    False := by
  unfold Turn.pushEntry at hrun
  split_ifs at hrun
  cases hrun

theorem submitProxy_panic {proxy : UringProxy} {op : ConnectionOp}
    (hrun : submitProxy env t c proxy op = .error (.panic site)) : False := by
  unfold submitProxy at hrun
  cases hpush : t.pushEntry env op with
  | error exit =>
      rw [hpush] at hrun
      injection hrun with hrun
      exact pushEntry_panic (hrun ▸ hpush)
  | ok t₁ =>
      rw [hpush] at hrun
      cases hrun

theorem submitSend_panic (hrun : submitSend env t = .error (.panic site)) : False := by
  unfold submitSend at hrun
  split at hrun
  · cases hrun
  · split_ifs at hrun
    split at hrun
    · cases hrun
    next c₁ acts _ =>
      split_ifs at hrun
      · cases hrun
      · cases hpush : ((t.put c₁).note acts).pushEntry env
            (.send c₁.sendBuffer.1 c₁.sendBuffer.2 (clearsIn ((t.put c₁).note acts).log)) with
        | error exit =>
            simp only [bind, Except.bind, hpush] at hrun
            injection hrun with hrun
            exact pushEntry_panic (hrun ▸ hpush)
        | ok t₁ =>
            simp only [bind, Except.bind, hpush] at hrun
            cases hrun

theorem submitRecv_panic (hfits : fitsU32 env.bufferSize = true)
    (hrun : submitRecv env t = .error (.panic site)) : False := by
  unfold submitRecv at hrun
  split at hrun
  · cases hrun
  · split_ifs at hrun with hbusy hlarge
    · rw [hfits] at hlarge
      cases hlarge
    · cases hpush : t.pushEntry env (.recv env.bufferSize) with
      | error exit =>
          simp only [bind, Except.bind, hpush] at hrun
          injection hrun with hrun
          exact pushEntry_panic (hrun ▸ hpush)
      | ok t₁ =>
          simp only [bind, Except.bind, hpush] at hrun
          cases hrun

/-- A final call panics only if it stands for a panic or is not fit. -/
theorem Next.run_panic (next : Next) (h : t.Current c) (hfits : fitsU32 env.bufferSize = true)
    (hrun : next.run env t = .error (.panic site)) :
    next = .exit (.panic site) ∨ next.upstreamKind.isSome = true ∧ ¬ next.Fit c := by
  cases next with
  | done => cases hrun
  | send => exact (submitSend_panic hrun).elim
  | recv => exact (submitRecv_panic hfits hrun).elim
  | exit reason =>
      injection hrun with hrun
      exact .inl (by rw [hrun])
  | connect =>
      refine .inr ⟨rfl, ?_⟩
      rintro ⟨proxy, hproxy, hupstream, haddress⟩
      obtain ⟨socket, hsocket⟩ := Option.isSome_iff_exists.mp hupstream
      obtain ⟨address, haddress⟩ := Option.isSome_iff_exists.mp (haddress rfl)
      simp only [Next.run, submitProxyConnect, h.connection, hproxy, hsocket, haddress] at hrun
      exact submitProxy_panic hrun
  | proxyWrite =>
      refine .inr ⟨rfl, ?_⟩
      rintro ⟨proxy, hproxy, hupstream, -⟩
      obtain ⟨socket, hsocket⟩ := Option.isSome_iff_exists.mp hupstream
      simp only [Next.run, submitProxyWrite, h.connection, hproxy, hsocket] at hrun
      split_ifs at hrun
      · cases hrun
      · exact submitProxy_panic hrun
  | proxyRead =>
      refine .inr ⟨rfl, ?_⟩
      rintro ⟨proxy, hproxy, hupstream, -⟩
      obtain ⟨socket, hsocket⟩ := Option.isSome_iff_exists.mp hupstream
      simp only [Next.run, submitProxyRead, h.connection, hproxy, hsocket, hfits,
        Bool.not_true, Bool.false_eq_true, if_false] at hrun
      exact submitProxy_panic hrun

/-! ## §2. Turns. -/

/-- A settled move that panics keeps the connection and panics in its final call. -/
theorem Settles.panic {next : Next} {c₁ : Option (UringConnection σ)} {acts : List Act}
    {x : Except Exit (Turn σ)} (h : t.Current c) (hfits : fitsU32 env.bufferSize = true)
    (hs : Settles env t next c₁ acts x) (hx : x = .error (.panic site))
    (hclient : ∀ d, c₁ = some d → SameClient c d) (hdone : c₁ = none → next = .done) :
    ∃ d, c₁ = some d
      ∧ (next = .exit (.panic site) ∨ next.upstreamKind.isSome = true ∧ ¬ next.Fit d) := by
  obtain ⟨t₁, hmoved, rfl⟩ := hs
  cases c₁ with
  | none =>
      rw [hdone rfl] at hx
      cases hx
  | some d =>
      have hcur : t₁.Current d := hmoved.current h (hclient d rfl).generation
      exact ⟨d, rfl, next.run_panic hcur hfits hx⟩

/-- **A turn on a current connection panics in the load balancer, or in the final
call of one of its moves.** -/
theorem handleTurn_panic (h : t.Current c) (hfits : fitsU32 env.bufferSize = true)
    {event : TurnEvent} (hrun : handleTurn env event t = .error (.panic site)) :
    site = .balancer ∨ ∃ next c₁ acts, Move env event c next (some c₁) acts
      ∧ (next = .exit (.panic site) ∨ next.upstreamKind.isSome = true ∧ ¬ next.Fit c₁) := by
  rcases handleTurn_cases h event with ⟨next, c₁, acts, hmove, hsettles⟩ |
    ⟨result, bufferId, contents, hevent, hpos, flush, c₁, plaintext, acts, t₁, hintake, hmoved, heq⟩
  · obtain ⟨d, rfl, hpanic⟩ := hsettles.panic h hfits hrun (fun d hd => (hd ▸ hmove).sameClient)
      (fun hn => (hn ▸ hmove).done_of_removed)
    exact .inr ⟨next, d, acts, hmove, hpanic⟩
  · left
    rw [heq] at hrun
    have hcur₁ : t₁.Current c₁ := hmoved.current h
      ((sameClient_markReadCompleted c).trans hintake.sameClient).generation
    have hsend : flush = .send ∨ flush = .done := by
      cases hintake with
      | plain => exact .inr rfl
      | tls ssl ssl' _ _ _ _ _ hnext =>
          rw [hnext]
          split_ifs
          · exact .inl rfl
          · exact .inr rfl
    cases hfirst : flush.run env t₁ with
    | error exit =>
        rw [hfirst] at hrun
        injection hrun with hrun
        rw [hrun] at hfirst
        rcases hsend with rfl | rfl
        · exact (submitSend_panic hfirst).elim
        · cases hfirst
    | ok t₂ =>
        rw [hfirst] at hrun
        obtain ⟨c₂, pushed, acts₂, hflush, hbecame⟩ := flush.run_finish hcur₁ hfirst
        have hcur₂ : t₂.Current c₂ := ⟨hbecame.connection, by
          rw [hflush.sameClient.generation, hcur₁.generation, hbecame.id]⟩
        obtain ⟨next, c₃, acts₃, hmove, hsettles⟩ :
            ∃ next c₃ acts₃, PlaintextMove env plaintext c₂ next c₃ acts₃
              ∧ Settles env t₂ next c₃ acts₃ (receivePlaintext env plaintext t₂) :=
          receivePlaintext_settles hcur₂ plaintext
        obtain ⟨d, rfl, hpanic⟩ := hsettles.panic hcur₂ hfits hrun
          (fun d hd => (hd ▸ hmove).sameClient) (fun hn => (hn ▸ hmove).done_of_removed)
        -- received plaintext leads to no upstream submission, and panics only in the balancer
        have hfinal : next.upstreamKind = none
            ∧ ∀ site, next = .exit (.panic site) → site = .balancer := by
          cases hmove with
          | dispatched _ _ _ _ _ _ _ hanswer =>
              cases hanswer with
              | balancerPanic =>
                  refine ⟨rfl, fun site hsite => ?_⟩
                  injection hsite with hsite
                  injection hsite with hsite
                  exact hsite.symm
              | _ => exact ⟨rfl, fun site hsite => by cases hsite⟩
          | _ => exact ⟨rfl, fun site hsite => by cases hsite⟩
        rcases hpanic with hexit | ⟨hsome, -⟩
        · exact hfinal.2 site hexit
        · rw [hfinal.1] at hsome
          cases hsome

/-! ## §3. Calm rules. -/

/-- A rule whose invariant excludes panics. Only turns for completed client sends
are subject to its guard. -/
structure CalmRule (cfg : Config σ) extends SlotRule cfg where
  free : ∀ id event world found, event.isWrite = false → Guard (.turn id event world found)
  freeGone : ∀ id log ops, Guard (.removed id log ops)
  calm : ∀ {env : Env σ} {id : ConnectionId} {event : TurnEvent} {c c₁ : UringConnection σ}
    {ops ops₀ : List ConnectionOp} {log acts : List Act} {next : Next},
    env.toConfig = cfg → c.generation = id.generation → Guard (.turn id event env.toWorld (some c)) →
    Ready cfg env.now c event ops ops₀ → Inv c ops log → Move env event c next (some c₁) acts →
    (∀ site, next ≠ .exit (.panic site)) ∧ (next.upstreamKind.isSome = true → next.Fit c₁)

variable {R : CalmRule cfg} {w : IoUringWorker σ}

/-- The run kept to the guard and the rule holds. -/
structure CalmRule.Sound (R : CalmRule cfg) (w : IoUringWorker σ) : Prop where
  guarded : R.toSlotRule.Guarded w
  holds : R.toSlotRule.Holds w

theorem runTurn_error {world : World} {id : ConnectionId} {event : TurnEvent} {exit : Exit}
    (hrun : w.runTurn cfg world id event = .error exit) :
    handleTurn (w.env cfg world) event (w.view id) = .error exit := by
  unfold IoUringWorker.runTurn at hrun
  split at hrun
  next exit' hexit =>
    injection hrun with hrun
    rw [← hrun]
    exact hexit
  · cases hrun

/-- A turn on a live connection panics at most in the load balancer. -/
theorem CalmRule.runTurn_panic {world : World} {id : ConnectionId} {event : TurnEvent}
    {occ : Occupant σ} {ops ops₀ : List ConnectionOp} (hfits : fitsU32 cfg.bufferSize = true)
    (hget : w.connections.get id.slot = some occ)
    (hgen : occ.connection.generation = id.generation)
    (hinv : R.Inv occ.connection ops occ.log)
    (hguard : R.Guard (.turn id event world (some occ.connection)))
    (hready : Ready cfg world.now occ.connection event ops ops₀)
    (hrun : w.runTurn cfg world id event = .error (.panic site)) : site = .balancer := by
  have hcur : (w.view id).Current occ.connection := view_current hget hgen
  rcases handleTurn_panic hcur hfits (runTurn_error hrun) with hsite |
    ⟨next, c₁, acts, hmove, hpanic⟩
  · exact hsite
  · obtain ⟨hcalm, hfit⟩ := R.calm rfl hgen hguard hready hinv hmove
    rcases hpanic with hexit | ⟨hsome, hunfit⟩
    · exact absurd hexit (hcalm site)
    · exact absurd (hfit hsome) hunfit

theorem CalmRule.Sound.runTurn_panic {world : World} {id : ConnectionId} {event : TurnEvent}
    {occ : Occupant σ} (h : R.Sound w) (hfits : fitsU32 cfg.bufferSize = true)
    (hget : w.connections.get id.slot = some occ)
    (hgen : occ.connection.generation = id.generation) (hevent : event.isWrite = false)
    (hready : ∀ ops, Ready cfg world.now occ.connection event ops ops)
    (hrun : w.runTurn cfg world id event = .error (.panic site)) : site = .balancer :=
  CalmRule.runTurn_panic hfits hget hgen (h.holds.live id.slot occ hget)
    (R.free id event _ _ hevent) (hready _) hrun

/-- A turn for a connection that is gone never panics. -/
theorem runTurn_stale_panic {world : World} {id : ConnectionId} {event : TurnEvent}
    (hlive : ¬ w.Live id) (hevent : event.mayBeStale = true)
    (hrun : w.runTurn cfg world id event = .error (.panic site)) : False := by
  have hrun' := runTurn_error hrun
  rcases handleTurn_stale (w.env cfg world) (view_stale hlive) hevent with ⟨_, herr⟩ | ⟨_, hok, -⟩
  · rw [herr] at hrun'
    cases hrun'
  · rw [hok] at hrun'
    cases hrun'

/-- The items a turn adds to the history are the turn and a removal. -/
theorem turnItems_mem {id : ConnectionId} {event : TurnEvent} {world : World} {t : Turn σ}
    {item : HistoryItem σ} (h : item ∈ w.turnItems id event world t) :
    (∃ found, item = .turn id event world found) ∨ ∃ id' log ops, item = .removed id' log ops := by
  unfold IoUringWorker.turnItems at h
  split at h
  · exact .inl ⟨_, List.mem_singleton.mp h⟩
  · split_ifs at h
    · exact .inl ⟨_, List.mem_singleton.mp h⟩
    · rcases List.mem_cons.mp h with rfl | h
      · exact .inl ⟨_, rfl⟩
      · exact .inr ⟨_, _, _, List.mem_singleton.mp h⟩

/-- Turns other than for completed sends keep to the guard. -/
theorem CalmRule.guarded_runTurn {world : World} {id : ConnectionId} {event : TurnEvent}
    {w' : IoUringWorker σ} (h : R.toSlotRule.Guarded w) (hevent : event.isWrite = false)
    (hrun : w.runTurn cfg world id event = .ok w') : R.toSlotRule.Guarded w' := by
  obtain ⟨t, -, rfl⟩ := runTurn_eq hrun
  intro item hitem
  rcases List.mem_append.mp hitem with hold | hnew
  · exact h item hold
  · rcases turnItems_mem hnew with ⟨found, rfl⟩ | ⟨_, _, _, rfl⟩
    · exact R.free id event world found hevent
    · exact R.freeGone _ _ _

/-- Within a step the rule is carried from turn to turn. -/
theorem CalmRule.Sound.of_safe {w' : IoUringWorker σ} {world : World} {id : ConnectionId}
    {event : TurnEvent} (h : R.Sound w) (hevent : event.isWrite = false)
    (hrun : w.runTurn cfg world id event = .ok w')
    (hsafe : R.toSlotRule.Safe w') : R.Sound w' := by
  have hguarded := CalmRule.guarded_runTurn h.guarded hevent hrun
  exact ⟨hguarded, hsafe hguarded⟩

/-! ## §4. Loops. -/

theorem CalmRule.Sound.safe (h : R.Sound w) : R.toSlotRule.Safe w := fun _ => h.holds

theorem CalmRule.Sound.runTurn_resolved {world : World} {id : ConnectionId}
    {addresses : Option (List SocketAddr)} {w' : IoUringWorker σ} (h : R.Sound w)
    (hrun : w.runTurn cfg world id (.resolved addresses) = .ok w') : R.Sound w' :=
  h.of_safe rfl hrun (h.safe.runTurn_resolved hrun)

theorem CalmRule.Sound.resolved_panic {world : World} {id : ConnectionId}
    {addresses : Option (List SocketAddr)} (h : R.Sound w)
    (hfits : fitsU32 cfg.bufferSize = true)
    (hrun : w.runTurn cfg world id (.resolved addresses) = .error (.panic site)) :
    site = .balancer := by
  by_cases hlive : w.Live id
  · obtain ⟨occ, hget, hgen⟩ := hlive
    exact h.runTurn_panic hfits hget hgen rfl (.resolved addresses) hrun
  · exact (runTurn_stale_panic hlive rfl hrun).elim

theorem worker_pushEntry_panic {world : World} {entry : Entry}
    (hrun : w.pushEntry world entry = .error (.panic site)) : False := by
  unfold IoUringWorker.pushEntry at hrun
  split_ifs at hrun
  cases hrun

theorem CalmRule.Sound.processDnsResults_panic {world : World} {results : List ResolveResult}
    (h : R.Sound w) (hfits : fitsU32 cfg.bufferSize = true)
    (hrun : processDnsResults cfg world results w = .error (.panic site)) : site = .balancer := by
  unfold IoUring.processDnsResults at hrun
  cases hturns : runTurns cfg world (results.map fun result =>
      (result.connectionId, TurnEvent.resolved result.addresses)) w with
  | error exit =>
      simp only [bind, Except.bind, hturns] at hrun
      injection hrun with hrun
      subst hrun
      unfold runTurns at hturns
      rw [List.foldlM_map] at hturns
      obtain ⟨result, _, w₁, hw₁, hstop⟩ := foldlM_error (fun _ w => R.Sound w)
        (fun _ _ _ _ h₂ hstep => h₂.runTurn_resolved hstep) h hturns
      exact hw₁.resolved_panic hfits hstop
  | ok w₁ =>
      simp only [bind, Except.bind, hturns] at hrun
      split_ifs at hrun
      · exact (worker_pushEntry_panic hrun).elim
      · cases hrun

section Slab

variable {world : World} {select : UringConnection σ → Option TurnEvent}

/-- The turns still to come in a pass over the slab, each for another slot and for
a connection that is as it was when it was selected. -/
structure CalmRule.Passing (R : CalmRule cfg) (select : UringConnection σ → Option TurnEvent)
    (turns : List (ConnectionId × TurnEvent)) (w : IoUringWorker σ) : Prop where
  sound : R.Sound w
  pairwise : turns.Pairwise (fun a b => a.1.slot ≠ b.1.slot)
  selected : ∀ turn ∈ turns, ∃ occ, w.connections.get turn.1.slot = some occ
    ∧ occ.connection.generation = turn.1.generation ∧ select occ.connection = some turn.2

theorem CalmRule.Sound.passing (h : R.Sound w) :
    R.Passing select (slabTurns select w.connections) w :=
  ⟨h, slabTurns_pairwise select _, fun _ hturn => mem_slabTurns hturn⟩

theorem CalmRule.Passing.step
    (hready : ∀ c event ops, select c = some event → Ready cfg world.now c event ops ops)
    (hevent : ∀ c event, select c = some event → event.isWrite = false)
    {turn : ConnectionId × TurnEvent} {turns : List (ConnectionId × TurnEvent)}
    {w' : IoUringWorker σ} (h : R.Passing select (turn :: turns) w)
    (hrun : w.runTurn cfg world turn.1 turn.2 = .ok w') : R.Passing select turns w' := by
  obtain ⟨hhead, hpair⟩ := List.pairwise_cons.mp h.pairwise
  obtain ⟨occ, hget, hgen, hselect⟩ := h.selected turn List.mem_cons_self
  refine ⟨h.sound.of_safe (hevent _ _ hselect) hrun
    (h.sound.safe.runTurn_live hget hgen (fun ops => hready _ _ ops hselect) hrun), hpair, ?_⟩
  intro turn' hturn'
  obtain ⟨occ', hget', hrest⟩ := h.selected turn' (List.mem_cons_of_mem _ hturn')
  exact ⟨occ', by rw [runTurn_get_ne hrun (hhead turn' hturn')]; exact hget', hrest⟩

theorem CalmRule.Sound.runTurns_slab
    (hready : ∀ c event ops, select c = some event → Ready cfg world.now c event ops ops)
    (hevent : ∀ c event, select c = some event → event.isWrite = false) {w' : IoUringWorker σ}
    (h : R.Sound w) (hrun : runTurns cfg world (slabTurns select w.connections) w = .ok w') :
    R.Sound w' :=
  (foldlM_ok (R.Passing select) (fun _ _ _ _ hp hstep => hp.step hready hevent hstep)
    h.passing hrun).sound

theorem CalmRule.Sound.runTurns_slab_panic (hfits : fitsU32 cfg.bufferSize = true)
    (hready : ∀ c event ops, select c = some event → Ready cfg world.now c event ops ops)
    (hevent : ∀ c event, select c = some event → event.isWrite = false) (h : R.Sound w)
    (hrun : runTurns cfg world (slabTurns select w.connections) w = .error (.panic site)) :
    site = .balancer := by
  obtain ⟨turn, turns, w₁, hw₁, hstop⟩ := foldlM_error (R.Passing select)
    (fun _ _ _ _ hp hstep => hp.step hready hevent hstep) h.passing hrun
  obtain ⟨occ, hget, hgen, hselect⟩ := hw₁.selected turn List.mem_cons_self
  exact hw₁.sound.runTurn_panic hfits hget hgen (hevent _ _ hselect)
    (fun ops => hready _ _ ops hselect) hstop

end Slab

theorem proxyExpired_notWrite {now : Instant} (c : UringConnection σ) (event : TurnEvent)
    (h : proxyExpired cfg now c = some event) : event.isWrite = false := by
  obtain ⟨-, _, -, rfl⟩ := proxyExpired_some h
  rfl

theorem handshakeOverdue_notWrite {now : Instant} (c : UringConnection σ) (event : TurnEvent)
    (h : handshakeOverdue cfg now c = some event) : event.isWrite = false := by
  rw [(handshakeOverdue_some h).1]
  rfl

theorem pumpReady_notWrite (c : UringConnection σ) (event : TurnEvent)
    (h : pumpReady c = some event) : event.isWrite = false := by
  rw [(pumpReady_some h).1]
  rfl

theorem CalmRule.Sound.checkProxyTimeouts_panic {world : World} (h : R.Sound w)
    (hfits : fitsU32 cfg.bufferSize = true)
    (hrun : checkProxyTimeouts cfg world w = .error (.panic site)) : site = .balancer := by
  unfold IoUring.checkProxyTimeouts at hrun
  cases h₁ : runTurns cfg world (slabTurns (proxyExpired cfg world.now) w.connections) w with
  | error exit =>
      simp only [bind, Except.bind, h₁] at hrun
      injection hrun with hrun
      subst hrun
      exact h.runTurns_slab_panic hfits (fun _ _ ops hsel => .expired hsel ops)
        proxyExpired_notWrite h₁
  | ok w₁ =>
      have hw₁ := h.runTurns_slab (fun _ _ ops hsel => .expired hsel ops)
        proxyExpired_notWrite h₁
      cases h₂ : runTurns cfg world
          (slabTurns (handshakeOverdue cfg world.now) w₁.connections) w₁ with
      | error exit =>
          simp only [bind, Except.bind, h₁, h₂] at hrun
          injection hrun with hrun
          subst hrun
          exact hw₁.runTurns_slab_panic hfits (fun _ _ ops hsel => .handshake hsel ops)
            handshakeOverdue_notWrite h₂
      | ok w₂ =>
          have hw₂ := hw₁.runTurns_slab (fun _ _ ops hsel => .handshake hsel ops)
            handshakeOverdue_notWrite h₂
          cases h₃ : w₂.pushEntry world .timerRead with
          | error exit =>
              simp only [bind, Except.bind, h₁, h₂, h₃] at hrun
              injection hrun with hrun
              subst hrun
              exact (worker_pushEntry_panic h₃).elim
          | ok w₃ =>
              simp only [bind, Except.bind, h₁, h₂, h₃] at hrun
              have hw₃ : R.Sound w₃ := by
                have hsafe := hw₂.safe.pushEntry rfl h₃
                have hhistory : w₃.history = w₂.history := by
                  unfold IoUringWorker.pushEntry at h₃
                  split_ifs at h₃
                  injection h₃ with h₃
                  rw [← h₃]
                have hguarded : R.toSlotRule.Guarded w₃ := by
                  unfold SlotRule.Guarded
                  rw [hhistory]
                  exact hw₂.guarded
                exact ⟨hguarded, hsafe hguarded⟩
              exact hw₃.runTurns_slab_panic hfits (fun _ _ ops hsel => .pump hsel ops)
                pumpReady_notWrite hrun

/-! ## §5. Steps. -/

/-- The turn a completed operation gives to its connection. -/
def Event.turn? (w : IoUringWorker σ) : Event → Option (HistoryItem σ)
  | .completed index completion _ world =>
      match w.inFlight[index]? with
      | some (.operation id op) =>
          some (.turn id (op.turnEvent completion) world
            ((w.connections.get id.slot).map Occupant.connection))
      | _ => none
  | _ => none

theorem submitAccept_panic {world : World} {idx : Nat}
    (hrun : submitAccept world idx w = .error (.panic site)) : False := by
  unfold submitAccept at hrun
  split at hrun
  · cases hrun
  next listener _ =>
    split_ifs at hrun
    · cases hrun
    · cases hpush : w.pushEntry world
          (.accept idx listener.generation listener.multishot) with
      | error exit =>
          simp only [bind, Except.bind, hpush] at hrun
          injection hrun with hrun
          exact worker_pushEntry_panic (hrun ▸ hpush)
      | ok w₁ =>
          simp only [bind, Except.bind, hpush] at hrun
          cases hrun

/-- Accepting never panics: the provided buffers have a registered length. -/
theorem handleAcceptCompletion_panic (hfits : fitsU32 cfg.bufferSize = true) {world : World}
    {idx : Nat} {generation : UInt16} {result : Int} {more : Bool}
    (hrun : handleAcceptCompletion cfg world idx generation result more w
      = .error (.panic site)) : False := by
  have hsettle : ∀ {listener : UringListener} {w₀ : IoUringWorker σ},
      settleAccept cfg world idx listener result w₀ = .error (.panic site) → False := by
    intro listener w₀ hsettle
    unfold settleAccept at hsettle
    split_ifs at hsettle
    · unfold retainAccepted at hsettle
      dsimp only at hsettle
      split at hsettle
      · cases hsettle
      · exact submitRecv_panic hfits (runTurn_error hsettle)
  unfold handleAcceptCompletion at hrun
  split at hrun
  · cases hrun
  next listener hget =>
    split_ifs at hrun
    · cases hw₁ : settleAccept cfg world idx (listener.afterAccept result more) result
          { w with listeners := w.listeners.set idx (listener.afterAccept result more) } with
      | error exit =>
          simp only [bind, Except.bind, hw₁] at hrun
          injection hrun with hrun
          exact hsettle (hrun ▸ hw₁)
      | ok w₁ =>
          simp only [bind, Except.bind, hw₁] at hrun
          split_ifs at hrun
          · exact submitAccept_panic hrun
          · cases hrun

theorem loopTop_panic {world : World} (hrun : loopTop cfg world w = .error (.panic site)) :
    False := by
  have hbegin : beginShutdown world w = .error (.panic site) → False := by
    intro hbegin
    unfold beginShutdown at hbegin
    split_ifs at hbegin
    obtain ⟨entry, _, w₁, -, hstop⟩ := foldlM_error (fun _ _ => True)
      (fun _ _ _ _ _ _ => trivial) trivial hbegin
    exact worker_pushEntry_panic hstop
  unfold loopTop at hrun
  simp only [bind, Except.bind, pure, Except.pure] at hrun
  split_ifs at hrun
  · cases hw₁ : beginShutdown world w with
    | error exit =>
        rw [hw₁] at hrun
        injection hrun with hrun
        exact hbegin (hrun ▸ hw₁)
    | ok w₁ =>
        rw [hw₁] at hrun
        dsimp only at hrun
        split_ifs at hrun
        all_goals cases hrun
  all_goals cases hrun

/-- The provided buffers of a running worker have a length the kernel accepts. -/
theorem Reachable.fitsU32_bufferSize (h : Reachable cfg w) : fitsU32 cfg.bufferSize = true := by
  induction h with
  | start world hnew _ =>
      unfold IoUringWorker.new at hnew
      split at hnew
      · cases hnew
      next ring hring => exact ProvidedBufferRing.register_bufferSize hring
  | step _ _ _ ih => exact ih

/-- **A step of a guarded run panics at most in the load balancer.** -/
theorem CalmRule.step_panic (R : CalmRule cfg) (h : Reachable cfg w)
    (hguard : R.toSlotRule.Guarded w) {event : Event}
    (hnext : ∀ item, event.turn? w = some item → R.Guard item)
    (hrun : step cfg event w = .error (.panic site)) : site = .balancer := by
  have hfits := h.fitsU32_bufferSize
  have hholds := R.toSlotRule.holds h hguard
  cases event with
  | requestShutdown => cases hrun
  | loopTop world => exact (loopTop_panic hrun).elim
  | completed index completion dns world =>
      unfold IoUring.step at hrun
      dsimp only at hrun
      cases hentry : w.inFlight[index]? with
      | none =>
          rw [hentry] at hrun
          cases hrun
      | some entry =>
          rw [hentry] at hrun
          dsimp only at hrun
          have hsound : entry.isOperation = false →
              R.Sound (if entry.persists completion.more then w
                else { w with inFlight := w.inFlight.eraseIdx index }) := by
            intro hother
            have hguarded : R.toSlotRule.Guarded (if entry.persists completion.more then w
                else { w with inFlight := w.inFlight.eraseIdx index }) := by
              split_ifs <;> exact hguard
            exact ⟨hguarded, SlotRule.Safe.otherCompleted completion.more (fun _ => hholds)
              hentry hother hguarded⟩
          cases entry with
          | shutdownRead => cases hrun
          | cancel => cases hrun
          | proxyCancel => cases hrun
          | dnsRead => exact (hsound rfl).processDnsResults_panic hfits hrun
          | timerRead => exact (hsound rfl).checkProxyTimeouts_panic hfits hrun
          | accept => exact (handleAcceptCompletion_panic hfits hrun).elim
          | operation id op =>
              change { w with inFlight := w.inFlight.eraseIdx index }.runTurn cfg world id
                (op.turnEvent completion) = .error (.panic site) at hrun
              by_cases hlive : w.Live id
              · obtain ⟨occ, hget, hgen⟩ := hlive
                have hid : (⟨id.slot, occ.connection.generation⟩ : ConnectionId) = id := by
                  rw [hgen]
                obtain ⟨before, after, hsplit, -⟩ := eraseIdx_split hentry
                have hinv := hholds.live id.slot occ hget
                rw [hid, hsplit, opsOf_append, opsOf_cons_operation, if_pos rfl] at hinv
                have hturn : R.Guard (.turn id (op.turnEvent completion) world
                    (some occ.connection)) := by
                  apply hnext
                  simp only [Event.turn?, hentry, hget, Option.map_some]
                have hget' : ({ w with inFlight := w.inFlight.eraseIdx index }
                    : IoUringWorker σ).connections.get id.slot = some occ := hget
                exact CalmRule.runTurn_panic hfits hget' hgen hinv hturn
                  (.completed op completion _ _) hrun
              · have hgone : ¬ { w with inFlight := w.inFlight.eraseIdx index }.Live id := hlive
                exact (runTurn_stale_panic hgone (op.turnEvent_mayBeStale completion) hrun).elim

end Thwip.IoUring
