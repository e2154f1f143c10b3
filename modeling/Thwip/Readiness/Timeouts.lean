/-
  Thwip.Readiness.Timeouts — what the pass of the proxy timeouts does to slow clients.

  `close_expired_proxies` compares the clock of the exchange with the timeout of
  its phase and with nothing else.  The clock of the last phase is restarted by a
  read from the upstream, and there is none while the client has not taken the
  last chunk: the pass then ends an exchange because of its client.
-/
import Thwip.Readiness.Occupation

namespace Thwip.Readiness

open Thwip.Lib

variable {σ : Type} {cfg : Config σ} {w w' : ReadinessWorker σ} {c : Connection σ}

/-! ## §1. A pass over the slab. -/

/-- A selected connection has a turn in the pass. -/
theorem slabTurns_mem {select : Connection σ → Option TurnEvent} {event : TurnEvent}
    {connections : Slab (Occupant σ)} {slot : Nat} {occ : Occupant σ}
    (hget : connections.get slot = some occ) (hselect : select occ.connection = some event) :
    ((⟨slot, occ.connection.generation⟩ : ConnectionId), event) ∈ slabTurns select connections := by
  unfold slabTurns
  refine List.mem_filterMap.mpr ⟨(some occ, slot), ?_, by simp [hselect]⟩
  rw [List.mem_zipIdx_iff_getElem?]
  unfold Slab.get at hget
  cases hentry : connections[slot]? with
  | none => simp [hentry] at hget
  | some entry =>
      rw [hentry] at hget
      exact congrArg some hget

/-- A connection that is not selected is left as it was. -/
theorem slabPass_keeps {io : Nat → Io} {select : Connection σ → Option TurnEvent} {slot : Nat}
    {occ : Occupant σ} (hrun : slabPass cfg io select w = .ok w')
    (hget : w.connections.get slot = some occ) (hselect : select occ.connection = none) :
    w'.connections.get slot = some occ := by
  refine runTurns_keeps hrun hget ?_
  intro turn hturn hid
  obtain ⟨occ', hget', -, hsome⟩ := mem_slabTurns hturn
  rw [← hid, hget] at hget'
  injection hget' with hget'
  rw [← hget', hselect] at hsome
  cases hsome

/-- The turn for this occupant of the slot is still to come. -/
def TurnDue (slot : Nat) (occ : Occupant σ) (event : TurnEvent)
    (turns : List (ConnectionId × TurnEvent)) (w : ReadinessWorker σ) : Prop :=
  turns.Pairwise (fun a b => a.1.slot ≠ b.1.slot)
    ∧ ((⟨slot, occ.connection.generation⟩ : ConnectionId), event) ∈ turns
    ∧ w.connections.get slot = some occ

/-- The turn has been, and found the occupant; the slot is as the turn left it. -/
def TurnDone (cfg : Config σ) (slot : Nat) (occ : Occupant σ) (event : TurnEvent)
    (w : ReadinessWorker σ) : Prop :=
  ∃ (io : Io) (w₁ w₂ : ReadinessWorker σ), w₁.connections.get slot = some occ
    ∧ w₁.runTurn cfg io ⟨slot, occ.connection.generation⟩ event = .ok w₂
    ∧ w.connections.get slot = w₂.connections.get slot

/-- A selected connection has its turn, which finds it as it was. -/
theorem slabPass_selects {io : Nat → Io} {select : Connection σ → Option TurnEvent}
    {event : TurnEvent} {slot : Nat} {occ : Occupant σ}
    (hrun : slabPass cfg io select w = .ok w') (hget : w.connections.get slot = some occ)
    (hselect : select occ.connection = some event) : TurnDone cfg slot occ event w' := by
  have hend : TurnDue slot occ event [] w'
      ∨ (∀ turn ∈ ([] : List (ConnectionId × TurnEvent)), turn.1.slot ≠ slot)
        ∧ TurnDone cfg slot occ event w' := by
    unfold slabPass runTurns at hrun
    refine foldlM_ok (fun (indexed : List ((ConnectionId × TurnEvent) × Nat)) w₁ =>
      TurnDue slot occ event (indexed.map Prod.fst) w₁
        ∨ (∀ turn ∈ indexed.map Prod.fst, turn.1.slot ≠ slot)
          ∧ TurnDone cfg slot occ event w₁) ?_ (.inl ?_) hrun
    · rintro ⟨turn, index⟩ rest w₁ w₂ hbefore hstep
      rcases hbefore with ⟨hpair, hmem, hsame⟩ | ⟨hother, io₁, wa, wb, ha, hturn, hb⟩
      · obtain ⟨hhead, hpair'⟩ := List.pairwise_cons.mp hpair
        rcases List.mem_cons.mp hmem with rfl | hrest
        · exact .inr ⟨fun turn' hturn' => (hhead turn' hturn').symm,
            io index, w₁, w₂, hsame, hstep, rfl⟩
        · refine .inl ⟨hpair', hrest, ?_⟩
          rw [runTurn_get_ne hstep (hhead _ hrest)]
          exact hsame
      · refine .inr ⟨fun turn' hturn' => hother turn' (List.mem_cons_of_mem _ hturn'),
          io₁, wa, wb, ha, hturn, ?_⟩
        rw [runTurn_get_ne hstep (hother turn List.mem_cons_self)]
        exact hb
    · rw [List.zipIdx_map_fst]
      exact ⟨slabTurns_pairwise select _, slabTurns_mem hget hselect, hget⟩
  rcases hend with ⟨-, hmem, -⟩ | ⟨-, hdone⟩
  · cases hmem
  · exact hdone

/-! ## §2. The timeouts. -/

/-- Bytes of the upstream's response have not all been written to the client. -/
def Connection.awaitsClient (tls : Rustls σ) (self : Connection σ) : Bool :=
  self.isProxying && !self.writeBuffer.isEmpty && !self.writeFinished tls

theorem awaitsClient_writeBuffer {tls : Rustls σ} (h : c.awaitsClient tls = true) :
    c.writeBuffer.isEmpty = false := by
  simp only [Connection.awaitsClient, Bool.and_eq_true, Bool.not_eq_true'] at h
  exact h.1.2

/-- An exchange with bytes for the client is not answered with an error, but
removed. -/
theorem proxyExpired_removes {io : Io} {id : ConnectionId} {phase : ProxyPhase}
    {occ : Occupant σ} (hget : w.connections.get id.slot = some occ)
    (hgen : occ.connection.generation = id.generation)
    (hbuffer : occ.connection.writeBuffer.isEmpty = false)
    (hrun : w.runTurn cfg io id (.proxyExpired phase) = .ok w') :
    w'.connections.get id.slot = none := by
  obtain ⟨t, ht, rfl⟩ := runTurn_eq hrun
  rw [commit_get_self hget]
  have hcur := view_current hget hgen
  change failProxy (w.env cfg io) 504 phase.timeoutMessage (w.view id) = .ok t at ht
  unfold failProxy at ht
  rw [hcur.connection] at ht
  simp only [hcur.isCurrent, hbuffer, Bool.and_false, Bool.not_true, Bool.false_eq_true,
    if_false] at ht
  injection ht with ht
  have hdetached : occ.connection.detachProxy.generation = id.generation := by
    rw [← hgen]
    unfold Connection.detachProxy
    split <;> rfl
  rw [removeConnection_current ⟨rfl, hdetached⟩] at ht
  rw [← ht]
  rfl

theorem proxyExpired_eq_none {proxy : ProxyState} {now : Instant} (hproxy : c.proxy = some proxy)
    (h : now - proxy.phaseProgressAt < proxy.phase.timeout cfg.proxyLimits) :
    proxyExpired cfg now c = none := by
  unfold proxyExpired
  rw [hproxy]
  exact if_neg (Nat.not_le.mpr h)

theorem proxyExpired_eq_some {proxy : ProxyState} {now : Instant} (hproxy : c.proxy = some proxy)
    (h : proxy.phase.timeout cfg.proxyLimits ≤ now - proxy.phaseProgressAt) :
    proxyExpired cfg now c = some (.proxyExpired proxy.phase) := by
  unfold proxyExpired
  rw [hproxy]
  exact if_pos h

/-- **The pass spares the connections whose clients have bytes to take** if and
only if none of them is past the timeout of its phase. -/
theorem closeExpiredProxies_spares_iff {now : Instant} {io : Nat → Io}
    (hrun : slabPass cfg io (proxyExpired cfg now) w = .ok w') :
    (∀ slot occ, w.connections.get slot = some occ →
      occ.connection.awaitsClient cfg.tls.toRustls = true → w'.connections.get slot = some occ)
    ↔ ∀ slot occ proxy, w.connections.get slot = some occ →
      occ.connection.awaitsClient cfg.tls.toRustls = true → occ.connection.proxy = some proxy →
      now - proxy.phaseProgressAt < proxy.phase.timeout cfg.proxyLimits := by
  constructor
  · intro hspares slot occ proxy hget hwaits hproxy
    by_contra hexpired
    obtain ⟨_, w₁, w₂, hget₁, hturn, hget'⟩ :=
      slabPass_selects hrun hget (proxyExpired_eq_some hproxy (Nat.not_lt.mp hexpired))
    rw [hspares slot occ hget hwaits] at hget'
    have hremoved := proxyExpired_removes hget₁ rfl (awaitsClient_writeBuffer hwaits) hturn
    rw [hremoved] at hget'
    cases hget'
  · intro hfresh slot occ hget hwaits
    refine slabPass_keeps hrun hget ?_
    cases hproxy : occ.connection.proxy with
    | none => simp [proxyExpired, hproxy]
    | some proxy => exact proxyExpired_eq_none hproxy (hfresh slot occ proxy hget hwaits hproxy)

end Thwip.Readiness
