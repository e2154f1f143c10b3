/-
  Thwip.IoUring.Runs — from one turn to every run.

  A `SlotRule` is an invariant of one connection together with its own
  operations in flight and its trace, and a proof that every turn keeps it.
  `SlotRule.holds` is the one induction over runs: it says that such a rule
  holds of every connection in every reachable state, provided the run keeps to
  the rule's guard.  A `StateRule` speaks of the connection alone, and of every
  operation pushed for it; its proof follows the steps of a turn.
-/
import Thwip.IoUring.Turns

namespace Thwip.IoUring

open Thwip.Lib

variable {σ : Type} {cfg : Config σ}

/-! ## §1. Rules. -/

/-- What is known when a turn starts: `ops` are the operations the connection had
in flight, `ops₀` those left once the completed one is taken away. -/
inductive Ready (cfg : Config σ) (now : Instant) (c : UringConnection σ) :
    TurnEvent → List ConnectionOp → List ConnectionOp → Prop where
  | completed (op : ConnectionOp) (completion : Completion) (before after : List ConnectionOp) :
      Ready cfg now c (op.turnEvent completion) (before ++ op :: after) (before ++ after)
  | resolved (addresses : Option (List SocketAddr)) (ops : List ConnectionOp) :
      Ready cfg now c (.resolved addresses) ops ops
  | expired {event : TurnEvent} (h : proxyExpired cfg now c = some event)
      (ops : List ConnectionOp) : Ready cfg now c event ops ops
  | handshake {event : TurnEvent} (h : handshakeOverdue cfg now c = some event)
      (ops : List ConnectionOp) : Ready cfg now c event ops ops
  | pump {event : TurnEvent} (h : pumpReady c = some event) (ops : List ConnectionOp) :
      Ready cfg now c event ops ops

/-- An expired proxy: nothing is being sent to the client. -/
theorem proxyExpired_some {now : Instant} {c : UringConnection σ} {event : TurnEvent}
    (h : proxyExpired cfg now c = some event) :
    c.writePending = false ∧ ∃ proxy, c.proxy = some proxy
      ∧ event = .expired proxy.phase proxy.operationPending := by
  unfold proxyExpired at h
  split_ifs at h with hwrite
  split at h
  · cases h
  next proxy hproxy =>
    split_ifs at h
    injection h with h
    exact ⟨by simpa using hwrite, proxy, hproxy, h.symm⟩

theorem handshakeOverdue_some {now : Instant} {c : UringConnection σ} {event : TurnEvent}
    (h : handshakeOverdue cfg now c = some event) :
    event = .handshakeExpired ∧ c.ssl.isSome = true := by
  unfold handshakeOverdue at h
  split at h
  · cases h
  next ssl hssl =>
    split_ifs at h
    injection h with h
    exact ⟨h.symm, by rw [hssl]; rfl⟩

/-- A stream the pump picks has sent all its chunks so far. -/
theorem pumpReady_some {c : UringConnection σ} {event : TurnEvent}
    (h : pumpReady c = some event) :
    event = .pump ∧ c.staticStream.isSome = true ∧ c.writePending = false
      ∧ c.writeBuffer = [] := by
  unfold pumpReady at h
  split_ifs at h with hselect
  injection h with h
  simp only [Bool.and_eq_true, Bool.not_eq_true', List.isEmpty_iff] at hselect
  exact ⟨h.symm, hselect.1.1, hselect.1.2, hselect.2⟩

/-- A turn for the completion of an operation, or one that was prompted by a
result of the resolver or by the timer. -/
theorem Ready.completed_or {now : Instant} {c : UringConnection σ} {event : TurnEvent}
    {ops ops₀ : List ConnectionOp} (h : Ready cfg now c event ops ops₀) :
    (∃ op completion before after, event = op.turnEvent completion
      ∧ ops = before ++ op :: after ∧ ops₀ = before ++ after)
    ∨ ops₀ = ops ∧ ((∃ addresses, event = .resolved addresses)
      ∨ proxyExpired cfg now c = some event ∨ handshakeOverdue cfg now c = some event
      ∨ pumpReady c = some event) := by
  cases h with
  | completed op completion before after =>
      exact .inl ⟨op, completion, before, after, rfl, rfl, rfl⟩
  | resolved addresses => exact .inr ⟨rfl, .inl ⟨addresses, rfl⟩⟩
  | expired hsel => exact .inr ⟨rfl, .inr (.inl hsel)⟩
  | handshake hsel => exact .inr ⟨rfl, .inr (.inr (.inl hsel))⟩
  | pump hsel => exact .inr ⟨rfl, .inr (.inr (.inr hsel))⟩

/-- The events that report a completed operation. -/
def TurnEvent.isCompletion : TurnEvent → Bool
  | .read .. | .write .. | .proxyConnect _ | .proxyWrite .. | .proxyRead .. => true
  | _ => false

theorem Ready.of_completion {now : Instant} {c : UringConnection σ} {event : TurnEvent}
    {ops ops₀ : List ConnectionOp} (h : Ready cfg now c event ops ops₀)
    (hevent : event.isCompletion = true) :
    ∃ op completion before after, event = op.turnEvent completion
      ∧ ops = before ++ op :: after ∧ ops₀ = before ++ after := by
  rcases h.completed_or with hcompleted | ⟨-, ⟨_, rfl⟩ | hsel | hsel | hsel⟩
  · exact hcompleted
  · cases hevent
  · obtain ⟨-, _, -, rfl⟩ := proxyExpired_some hsel
    cases hevent
  · rw [(handshakeOverdue_some hsel).1] at hevent
    cases hevent
  · rw [(pumpReady_some hsel).1] at hevent
    cases hevent

/-- A completed client send was in flight. -/
theorem Ready.of_write {now : Instant} {c : UringConnection σ} {submitted : List UInt8}
    {result : Int} {ops ops₀ : List ConnectionOp}
    (h : Ready cfg now c (.write submitted result) ops ops₀) :
    ∃ buffer offset clears before after, submitted = buffer.drop offset
      ∧ ops = before ++ .send buffer offset clears :: after ∧ ops₀ = before ++ after := by
  obtain ⟨op, completion, before, after, hevent, rfl, rfl⟩ := h.of_completion rfl
  cases op with
  | send buffer offset clears =>
      injection hevent with hsubmitted _
      exact ⟨buffer, offset, clears, before, after, hsubmitted, rfl, rfl⟩
  | _ => cases hevent

theorem Ready.of_expired {now : Instant} {c : UringConnection σ} {phase : ProxyPhase}
    {pending : Bool} {ops ops₀ : List ConnectionOp}
    (h : Ready cfg now c (.expired phase pending) ops ops₀) :
    ops₀ = ops ∧ c.writePending = false ∧ ∃ proxy, c.proxy = some proxy
      ∧ phase = proxy.phase ∧ pending = proxy.operationPending := by
  rcases h.completed_or with ⟨op, completion, before, after, hevent, -, -⟩ | ⟨heq, h⟩
  · cases op <;> cases hevent
  · rcases h with ⟨_, hevent⟩ | hsel | hsel | hsel
    · cases hevent
    · obtain ⟨hwrite, proxy, hproxy, hevent⟩ := proxyExpired_some hsel
      injection hevent with hphase hpending
      exact ⟨heq, hwrite, proxy, hproxy, hphase, hpending⟩
    · cases (handshakeOverdue_some hsel).1
    · cases (pumpReady_some hsel).1

theorem Ready.of_pump {now : Instant} {c : UringConnection σ} {ops ops₀ : List ConnectionOp}
    (h : Ready cfg now c .pump ops ops₀) :
    ops₀ = ops ∧ c.staticStream.isSome = true ∧ c.writePending = false
      ∧ c.writeBuffer = [] := by
  rcases h.completed_or with ⟨op, completion, before, after, hevent, -, -⟩ | ⟨heq, h⟩
  · cases op <;> cases hevent
  · rcases h with ⟨_, hevent⟩ | hsel | hsel | hsel
    · cases hevent
    · obtain ⟨-, _, -, hevent⟩ := proxyExpired_some hsel
      cases hevent
    · cases (handshakeOverdue_some hsel).1
    · exact ⟨heq, (pumpReady_some hsel).2⟩

/-- A connection as `insert_connection` creates it. -/
inductive Fresh (cfg : Config σ) (generation : UInt16) : UringConnection σ → Prop where
  | mk (socket : Socket) (listenerIndex : Nat) (ssl : Option (UringSslSession σ))
      (hindex : listenerIndex < cfg.listeners.length)
      (hplain : (∀ listener ∈ cfg.listeners, listener.ssl = none) → ssl = none)
      (hmode : ∃ listener, cfg.listeners[listenerIndex]? = some listener
        ∧ ssl.isSome = listener.ssl.isSome)
      (hsession : ∀ session, ssl = some session → session.closing = false
        ∧ ∃ config, cfg.tls.serverConnection config = some session.connection) :
      Fresh cfg generation (UringConnection.fresh socket generation listenerIndex ssl)

/-- An invariant of single connections. -/
structure SlotRule (cfg : Config σ) where
  /-- The connection, its operations in flight, and its trace. -/
  Inv : UringConnection σ → List ConnectionOp → List Act → Prop
  /-- What the run has to keep to. -/
  Guard : HistoryItem σ → Prop
  /-- Operations that may still be in flight when their connection is gone. -/
  Outlives : ConnectionOp → Prop
  /-- What is known of the trace and the operations of a removed connection. -/
  Gone : List Act → List ConnectionOp → Prop
  accepted : ∀ {id : ConnectionId} {c : UringConnection σ} {stale : List ConnectionOp},
    Fresh cfg id.generation c → Guard (.inserted id stale) → (∀ op ∈ stale, Outlives op) →
    Inv c.markReadSubmitted (stale ++ [.recv cfg.bufferSize])
      [.accepted c.ssl.isSome, .recvSubmitted]
  turn : ∀ {env : Env σ} {id : ConnectionId} {event : TurnEvent} {c c' : UringConnection σ}
    {ops ops₀ pushed : List ConnectionOp} {log acts : List Act},
    env.toConfig = cfg → env.listeners.length = cfg.listeners.length →
    c.generation = id.generation → Guard (.turn id event env.toWorld (some c)) →
    Ready cfg env.now c event ops ops₀ → Inv c ops log →
    TurnOutcome env event c (clearsIn log) (some c') pushed acts →
    Inv c' (ops₀ ++ pushed) (log ++ acts)
  removed : ∀ {env : Env σ} {id : ConnectionId} {event : TurnEvent} {c : UringConnection σ}
    {ops ops₀ pushed : List ConnectionOp} {log acts : List Act},
    env.toConfig = cfg → env.listeners.length = cfg.listeners.length →
    c.generation = id.generation → Guard (.turn id event env.toWorld (some c)) →
    Ready cfg env.now c event ops ops₀ → Inv c ops log →
    TurnOutcome env event c (clearsIn log) none pushed acts →
    Gone (log ++ acts) (ops₀ ++ pushed) ∧ ∀ op ∈ ops₀ ++ pushed, Outlives op

variable (R : SlotRule cfg)

/-! ## §2. The worker-wide invariant. -/

/-- `id` is the id of the connection in its slot. -/
def IoUringWorker.Live (w : IoUringWorker σ) (id : ConnectionId) : Prop :=
  ∃ occ, w.connections.get id.slot = some occ ∧ occ.connection.generation = id.generation

/-- The rule in every slot except `slot`. -/
structure SlotRule.HoldsOutside (w : IoUringWorker σ) (slot : Nat) : Prop where
  live : ∀ slot' occ, slot' ≠ slot → w.connections.get slot' = some occ →
    R.Inv occ.connection (opsOf ⟨slot', occ.connection.generation⟩ w.inFlight) occ.log
  owned : ∀ id op, Entry.operation id op ∈ w.inFlight → w.Live id ∨ R.Outlives op
  gone : ∀ id log ops, HistoryItem.removed id log ops ∈ w.history → R.Gone log ops
  listeners : w.listeners.map UringListener.ssl = cfg.listeners.map UringListener.ssl

/-- The rule in every slot. -/
structure SlotRule.Holds (w : IoUringWorker σ) : Prop where
  live : ∀ slot occ, w.connections.get slot = some occ →
    R.Inv occ.connection (opsOf ⟨slot, occ.connection.generation⟩ w.inFlight) occ.log
  owned : ∀ id op, Entry.operation id op ∈ w.inFlight → w.Live id ∨ R.Outlives op
  gone : ∀ id log ops, HistoryItem.removed id log ops ∈ w.history → R.Gone log ops
  listeners : w.listeners.map UringListener.ssl = cfg.listeners.map UringListener.ssl

theorem SlotRule.Holds.outside {R : SlotRule cfg} {w : IoUringWorker σ} (h : R.Holds w)
    (slot : Nat) : R.HoldsOutside w slot :=
  ⟨fun slot' occ _ hget => h.live slot' occ hget, h.owned, h.gone, h.listeners⟩

theorem SlotRule.HoldsOutside.listeners_length {R : SlotRule cfg} {w : IoUringWorker σ} {slot : Nat}
    (h : R.HoldsOutside w slot) : w.listeners.length = cfg.listeners.length := by
  have := congrArg List.length h.listeners
  simpa using this

/-- The run so far kept to the guard. -/
def SlotRule.Guarded (w : IoUringWorker σ) : Prop := ∀ item ∈ w.history, R.Guard item

/-! ## §3. One turn. -/

/-- What the handlers see in the turn `id` gets. -/
def IoUringWorker.env (cfg : Config σ) (world : World) (w : IoUringWorker σ) : Env σ :=
  { cfg, world with listeners := w.listeners }

theorem runTurn_eq {world : World} {id : ConnectionId} {event : TurnEvent}
    {w w' : IoUringWorker σ} (hrun : w.runTurn cfg world id event = .ok w') :
    ∃ t, handleTurn (w.env cfg world) event (w.view id) = .ok t
      ∧ w' = w.commit id event world t := by
  unfold IoUringWorker.runTurn at hrun
  split at hrun
  · cases hrun
  next t ht =>
    injection hrun with hrun
    exact ⟨t, ht, hrun.symm⟩

/-- The turn of a connection finds it in its slot, … -/
theorem view_current {w : IoUringWorker σ} {id : ConnectionId} {occ : Occupant σ}
    (hget : w.connections.get id.slot = some occ)
    (hgen : occ.connection.generation = id.generation) : (w.view id).Current occ.connection :=
  ⟨by simp [IoUringWorker.view, hget], hgen⟩

/-- … with its trace, … -/
theorem view_log {w : IoUringWorker σ} {id : ConnectionId} {occ : Occupant σ}
    (hget : w.connections.get id.slot = some occ) : (w.view id).log = occ.log := by
  simp [IoUringWorker.view, hget]

/-- … and leaves what it makes of both there. -/
theorem commit_get_self {w : IoUringWorker σ} {id : ConnectionId} {occ : Occupant σ}
    (hget : w.connections.get id.slot = some occ) (event : TurnEvent) (world : World)
    (t : Turn σ) :
    (w.commit id event world t).connections.get id.slot
      = t.connection.map (fun connection => ⟨connection, t.log⟩) :=
  Slab.get_set_self (Slab.lt_of_get hget) _

/-- A turn leaves the other slots alone. -/
theorem runTurn_get_ne {world : World} {id : ConnectionId} {event : TurnEvent}
    {w w' : IoUringWorker σ} (hrun : w.runTurn cfg world id event = .ok w') {slot : Nat}
    (hne : id.slot ≠ slot) : w'.connections.get slot = w.connections.get slot := by
  obtain ⟨t, -, rfl⟩ := runTurn_eq hrun
  exact Slab.get_set_ne _ hne _

/-- … and only adds to the history. -/
theorem runTurn_history {world : World} {id : ConnectionId} {event : TurnEvent}
    {w w' : IoUringWorker σ} (hrun : w.runTurn cfg world id event = .ok w') :
    ∃ items, w'.history = w.history ++ items := by
  obtain ⟨t, -, rfl⟩ := runTurn_eq hrun
  exact ⟨_, rfl⟩

variable {R}

theorem SlotRule.Guarded.of_append {w w' : IoUringWorker σ} {items : List (HistoryItem σ)}
    (h : R.Guarded w') (hw : w'.history = w.history ++ items) : R.Guarded w :=
  fun item hitem => h item (by rw [hw]; exact List.mem_append_left _ hitem)

/-- The operations of the turn's own connection after it. -/
theorem opsOf_commit_self (w : IoUringWorker σ) (id : ConnectionId) (event : TurnEvent)
    (world : World) (t : Turn σ) :
    opsOf id (w.commit id event world t).inFlight = opsOf id w.inFlight ++ t.pushed := by
  simp [IoUringWorker.commit, opsOf_map_proxyCancel]

/-- The operations of any other connection. -/
theorem opsOf_commit_ne (w : IoUringWorker σ) {id id' : ConnectionId} (h : id ≠ id')
    (event : TurnEvent) (world : World) (t : Turn σ) :
    opsOf id' (w.commit id event world t).inFlight = opsOf id' w.inFlight := by
  simp [IoUringWorker.commit, opsOf_map_proxyCancel, opsOf_map_operation_ne h]

theorem mem_commit_inFlight {w : IoUringWorker σ} {id id' : ConnectionId} {event : TurnEvent}
    {world : World} {t : Turn σ} {op : ConnectionOp}
    (h : Entry.operation id' op ∈ (w.commit id event world t).inFlight) :
    Entry.operation id' op ∈ w.inFlight ∨ id' = id ∧ op ∈ t.pushed := by
  simp only [IoUringWorker.commit, List.mem_append, List.mem_map] at h
  rcases h with (h | ⟨op', hop, heq⟩) | ⟨kind, -, heq⟩
  · exact .inl h
  · injection heq with hid hop'
    exact .inr ⟨hid.symm, hop' ▸ hop⟩
  · cases heq

/-- A turn is for one slot: what holds of the other slots still does. -/
theorem SlotRule.HoldsOutside.commit_live {world : World} {id : ConnectionId} {event : TurnEvent}
    {w : IoUringWorker σ} (h : R.HoldsOutside w id.slot) (t : Turn σ) {slot : Nat}
    {occ : Occupant σ} (hne : slot ≠ id.slot)
    (hget : (w.commit id event world t).connections.get slot = some occ) :
    R.Inv occ.connection
      (opsOf ⟨slot, occ.connection.generation⟩ (w.commit id event world t).inFlight) occ.log := by
  have hget₀ : w.connections.get slot = some occ := by
    rw [← hget]
    exact (Slab.get_set_ne _ (Ne.symm hne) _).symm
  rw [opsOf_commit_ne w (fun heq => hne (by rw [heq]))]
  exact h.live slot occ hne hget₀

theorem live_commit_ne {world : World} {id id' : ConnectionId} {event : TurnEvent}
    {w : IoUringWorker σ} {t : Turn σ} (hne : id'.slot ≠ id.slot) (h : w.Live id') :
    (w.commit id event world t).Live id' := by
  obtain ⟨occ, hget, hgen⟩ := h
  exact ⟨occ, by rw [← hget]; exact Slab.get_set_ne _ (Ne.symm hne) _, hgen⟩

/-- A live id of a slot is the only one. -/
theorem Live.unique {id id' : ConnectionId} {w : IoUringWorker σ} (h : w.Live id)
    (h' : w.Live id') (hslot : id'.slot = id.slot) : id' = id := by
  obtain ⟨occ, hget, hgen⟩ := h
  obtain ⟨occ', hget', hgen'⟩ := h'
  rw [hslot, hget] at hget'
  injection hget' with hget'
  subst hget'
  cases id
  cases id'
  simp_all

/-- What a turn pushes and leaves in flight is owned, if the connection is still
there afterwards, or if what is left of it may outlive it. -/
theorem SlotRule.HoldsOutside.commit_owned {world : World} {id : ConnectionId} {event : TurnEvent}
    {w : IoUringWorker σ} {t : Turn σ} (h : R.HoldsOutside w id.slot) (hlive : w.Live id)
    (hself : (w.commit id event world t).Live id
      ∨ ∀ op ∈ opsOf id w.inFlight ++ t.pushed, R.Outlives op) :
    ∀ id' op, Entry.operation id' op ∈ (w.commit id event world t).inFlight →
      (w.commit id event world t).Live id' ∨ R.Outlives op := by
  intro id' op hmem
  by_cases hid : id' = id
  · subst hid
    refine hself.imp_right (fun hout => hout op ?_)
    rw [← opsOf_commit_self w id' event world t]
    exact mem_opsOf.mpr hmem
  · rcases mem_commit_inFlight hmem with hold | ⟨heq, -⟩
    · rcases h.owned id' op hold with hlive' | hout
      · exact .inl (live_commit_ne (fun hslot => hid (Live.unique hlive hlive' hslot)) hlive')
      · exact .inr hout
    · exact absurd heq hid

/-- A turn that leaves the connection in place keeps the rule. -/
theorem SlotRule.HoldsOutside.kept {world : World} {id : ConnectionId} {event : TurnEvent}
    {w : IoUringWorker σ} {t : Turn σ} {occ : Occupant σ} {c' : UringConnection σ}
    (h : R.HoldsOutside w id.slot) (hget : w.connections.get id.slot = some occ)
    (hgen : occ.connection.generation = id.generation) (hconnection : t.connection = some c')
    (hgen' : c'.generation = id.generation)
    (hinv : R.Inv c' (opsOf id w.inFlight ++ t.pushed) t.log) :
    R.Holds (w.commit id event world t) := by
  have hget' : (w.commit id event world t).connections.get id.slot = some ⟨c', t.log⟩ := by
    show Slab.get (w.connections.set id.slot _) id.slot = _
    rw [Slab.get_set_self (Slab.lt_of_get hget), hconnection]
    rfl
  refine ⟨?_, h.commit_owned ⟨occ, hget, hgen⟩ (.inl ⟨_, hget', hgen'⟩), ?_, h.listeners⟩
  · intro slot occ' hocc
    by_cases hslot : slot = id.slot
    · subst hslot
      rw [hget'] at hocc
      injection hocc with hocc
      subst hocc
      have hid' : (⟨id.slot, c'.generation⟩ : ConnectionId) = id := by rw [hgen']
      dsimp only
      rw [hid', opsOf_commit_self]
      exact hinv
    · exact h.commit_live t hslot hocc
  · intro id' log ops hmem
    have hitems : (w.commit id event world t).history
        = w.history ++ [.turn id event world (some occ.connection)] := by
      simp [IoUringWorker.commit, IoUringWorker.turnItems, hget, hconnection]
    rw [hitems] at hmem
    rcases List.mem_append.mp hmem with hold | hnew
    · exact h.gone id' log ops hold
    · simp at hnew

/-- … and so does one that removes it. -/
theorem SlotRule.HoldsOutside.removed {world : World} {id : ConnectionId} {event : TurnEvent}
    {w : IoUringWorker σ} {t : Turn σ} {occ : Occupant σ}
    (h : R.HoldsOutside w id.slot) (hget : w.connections.get id.slot = some occ)
    (hgen : occ.connection.generation = id.generation) (hconnection : t.connection = none)
    (hgone : R.Gone t.log (opsOf id w.inFlight ++ t.pushed))
    (hout : ∀ op ∈ opsOf id w.inFlight ++ t.pushed, R.Outlives op) :
    R.Holds (w.commit id event world t) := by
  have hget' : (w.commit id event world t).connections.get id.slot = none := by
    show Slab.get (w.connections.set id.slot _) id.slot = _
    rw [Slab.get_set_self (Slab.lt_of_get hget), hconnection]
    rfl
  refine ⟨?_, h.commit_owned ⟨occ, hget, hgen⟩ (.inr hout), ?_, h.listeners⟩
  · intro slot occ' hocc
    by_cases hslot : slot = id.slot
    · subst hslot
      rw [hget'] at hocc
      cases hocc
    · exact h.commit_live t hslot hocc
  · intro id' log ops hmem
    have hid : (⟨id.slot, occ.connection.generation⟩ : ConnectionId) = id := by rw [hgen]
    have hitems : (w.commit id event world t).history
        = w.history ++ [.turn id event world (some occ.connection),
            .removed id t.log (opsOf id w.inFlight ++ t.pushed)] := by
      simp [IoUringWorker.commit, IoUringWorker.turnItems, hget, hconnection, hid]
    rw [hitems] at hmem
    rcases List.mem_append.mp hmem with hold | hnew
    · exact h.gone id' log ops hold
    · simp only [List.mem_cons, reduceCtorEq, HistoryItem.removed.injEq, List.not_mem_nil,
        or_false, false_or] at hnew
      obtain ⟨-, rfl, rfl⟩ := hnew
      exact hgone

/-- The call of a turn is in the history after it. -/
theorem SlotRule.Guarded.call {world : World} {id : ConnectionId} {event : TurnEvent}
    {w : IoUringWorker σ} {t : Turn σ} {occ : Occupant σ}
    (h : R.Guarded (w.commit id event world t)) (hget : w.connections.get id.slot = some occ) :
    R.Guard (.turn id event world (some occ.connection)) := by
  apply h
  refine List.mem_append_right _ ?_
  unfold IoUringWorker.turnItems
  rw [hget]
  dsimp only
  split_ifs <;> exact List.mem_cons_self

/-- **A turn on a current connection keeps the rule.** -/
theorem SlotRule.HoldsOutside.runTurn {world : World} {id : ConnectionId} {event : TurnEvent}
    {w w' : IoUringWorker σ} {occ : Occupant σ} {ops : List ConnectionOp}
    (h : R.HoldsOutside w id.slot) (hget : w.connections.get id.slot = some occ)
    (hgen : occ.connection.generation = id.generation) (hinv : R.Inv occ.connection ops occ.log)
    (hready : Ready cfg world.now occ.connection event ops (opsOf id w.inFlight))
    (hrun : w.runTurn cfg world id event = .ok w') (hguard : R.Guarded w') : R.Holds w' := by
  obtain ⟨t, ht, rfl⟩ := runTurn_eq hrun
  have hcur : (w.view id).Current occ.connection := view_current hget hgen
  have hlog : (w.view id).log = occ.log := view_log hget
  have hlen : (w.env cfg world).listeners.length = cfg.listeners.length := h.listeners_length
  obtain ⟨c', pushed, acts, houtcome, hbecame⟩ := handleTurn_outcome hcur ht
  rw [hlog] at houtcome
  obtain rfl : t.pushed = pushed := by
    rw [hbecame.pushed]
    rfl
  have htlog : t.log = occ.log ++ acts := by rw [hbecame.log, hlog]
  have hturn := hguard.call hget
  cases c' with
  | some c' =>
      refine h.kept hget hgen hbecame.connection ?_ ?_
      · rw [houtcome.sameClient.generation, hgen]
      · rw [htlog]
        exact R.turn rfl hlen hgen hturn hready hinv houtcome
  | none =>
      obtain ⟨hgone, hout⟩ := R.removed rfl hlen hgen hturn hready hinv houtcome
      exact h.removed hget hgen hbecame.connection (htlog ▸ hgone) hout

/-! ## §4. Changes that concern no connection. -/

/-- What keeps the slab, the operations of the live connections and the removals
keeps the rule. -/
theorem SlotRule.Holds.congr {w w' : IoUringWorker σ} (h : R.Holds w)
    (hget : ∀ slot, w'.connections.get slot = w.connections.get slot)
    (hops : ∀ id, w.Live id → opsOf id w'.inFlight = opsOf id w.inFlight)
    (hmem : ∀ id op, Entry.operation id op ∈ w'.inFlight → Entry.operation id op ∈ w.inFlight)
    (hgone : ∀ id log ops, HistoryItem.removed id log ops ∈ w'.history →
      HistoryItem.removed id log ops ∈ w.history)
    (hlisteners : w'.listeners.map UringListener.ssl = w.listeners.map UringListener.ssl) :
    R.Holds w' := by
  refine ⟨?_, ?_, fun id log ops hm => h.gone id log ops (hgone id log ops hm),
    hlisteners.trans h.listeners⟩
  · intro slot occ hocc
    rw [hget] at hocc
    rw [hops ⟨slot, occ.connection.generation⟩ ⟨occ, hocc, rfl⟩]
    exact h.live slot occ hocc
  · intro id op hm
    rcases h.owned id op (hmem id op hm) with ⟨occ, hocc, hgen⟩ | hout
    · exact .inl ⟨occ, by rw [hget]; exact hocc, hgen⟩
    · exact .inr hout

theorem view_stale {w : IoUringWorker σ} {id : ConnectionId} (hlive : ¬ w.Live id) :
    (w.view id).Stale := by
  intro c hc hgen
  apply hlive
  cases hget : w.connections.get id.slot with
  | none => simp [IoUringWorker.view, hget] at hc
  | some occ =>
      simp only [IoUringWorker.view, hget, Option.map_some, Option.some.injEq] at hc
      exact ⟨occ, hget, by rw [hc]; exact hgen⟩

/-- The slab after a turn that moved nothing. -/
theorem commit_stale_get {id : ConnectionId} {w : IoUringWorker σ} {t : Turn σ}
    (hmoved : (w.view id).Moved t (w.view id).connection []) (event : TurnEvent) (slot : Nat) :
    (w.commit id event world t).connections.get slot = w.connections.get slot := by
  have hlog : t.log = (w.view id).log := by rw [hmoved.log, List.append_nil]
  show Slab.get (w.connections.set id.slot _) slot = _
  rw [hmoved.connection, hlog]
  cases hocc : w.connections.get id.slot with
  | none =>
      simp only [IoUringWorker.view, hocc, Option.map_none]
      exact Slab.get_set_none hocc slot
  | some occ =>
      simp only [IoUringWorker.view, hocc, Option.map_some, Option.getD_some]
      by_cases hslot : id.slot = slot
      · rw [← hslot, Slab.get_set_self (Slab.lt_of_get hocc), hocc]
      · exact Slab.get_set_ne _ hslot _

/-- A turn for a connection that is gone changes nothing. -/
theorem SlotRule.Holds.runTurn_stale {world : World} {id : ConnectionId} {event : TurnEvent}
    {w w' : IoUringWorker σ} (h : R.Holds w) (hlive : ¬ w.Live id)
    (hevent : event.mayBeStale = true) (hrun : w.runTurn cfg world id event = .ok w') :
    R.Holds w' := by
  obtain ⟨t, ht, rfl⟩ := runTurn_eq hrun
  rcases handleTurn_stale (w.env cfg world) (view_stale hlive) hevent with ⟨_, herr⟩ | ⟨t₁, hok, hmoved⟩
  · rw [herr] at ht
    cases ht
  · rw [hok] at ht
    injection ht with ht
    subst ht
    have hpushed : t₁.pushed = [] := hmoved.pushed
    have hget : ∀ slot, (w.commit id event world t₁).connections.get slot = w.connections.get slot :=
      commit_stale_get hmoved event
    refine h.congr hget ?_ ?_ ?_ rfl
    · intro id' _
      by_cases hid : id = id'
      · subst hid
        rw [opsOf_commit_self, hpushed, List.append_nil]
      · exact opsOf_commit_ne w hid event world t₁
    · intro id' op hmem
      rcases mem_commit_inFlight hmem with hold | ⟨-, hnew⟩
      · exact hold
      · rw [hpushed] at hnew
        cases hnew
    · intro id' log ops hmem
      rcases List.mem_append.mp hmem with hold | hnew
      · exact hold
      · -- a stale turn removes nothing
        exfalso
        unfold IoUringWorker.turnItems at hnew
        cases hocc : w.connections.get id.slot with
        | none => simp [hocc] at hnew
        | some occ =>
            simp only [hocc, hmoved.connection, IoUringWorker.view, Option.map_some,
              Option.isSome_some, if_true, List.mem_singleton, reduceCtorEq] at hnew

/-- The run so far kept to the guard, so the rule holds. -/
def SlotRule.Safe (R : SlotRule cfg) (w : IoUringWorker σ) : Prop := R.Guarded w → R.Holds w

/-- What concerns neither slab, kernel nor history. -/
theorem SlotRule.Safe.of_eq {w w' : IoUringWorker σ} (h : R.Safe w)
    (hconnections : w'.connections = w.connections) (hinFlight : w'.inFlight = w.inFlight)
    (hhistory : w'.history = w.history)
    (hlisteners : w'.listeners.map UringListener.ssl = w.listeners.map UringListener.ssl) :
    R.Safe w' := by
  intro hguard
  have hguard₀ : R.Guarded w := by
    intro item hitem
    exact hguard item (by rw [hhistory]; exact hitem)
  exact (h hguard₀).congr (fun _ => by rw [hconnections]) (fun _ _ => by rw [hinFlight])
    (fun _ _ hm => by rw [← hinFlight]; exact hm) (fun _ _ _ hm => by rw [← hhistory]; exact hm)
    hlisteners

/-- The entries that belong to no connection. -/
def Entry.isOperation : Entry → Bool
  | .operation .. => true
  | _ => false

theorem opsOf_singleton_other {entry : Entry} (h : entry.isOperation = false)
    (id : ConnectionId) : opsOf id [entry] = [] := by
  cases entry <;> first | rfl | cases h

theorem SlotRule.Safe.pushEntry {world : World} {entry : Entry} {w w' : IoUringWorker σ}
    (h : R.Safe w) (hentry : entry.isOperation = false)
    (hrun : w.pushEntry world entry = .ok w') : R.Safe w' := by
  unfold IoUringWorker.pushEntry at hrun
  split_ifs at hrun
  injection hrun with hrun
  subst hrun
  intro hguard
  refine (h hguard).congr (fun _ => rfl) ?_ ?_ (fun _ _ _ hm => hm) rfl
  · intro id _
    show opsOf id (w.inFlight ++ [entry]) = _
    rw [opsOf_append, opsOf_singleton_other hentry, List.append_nil]
  · intro id op hmem
    rcases List.mem_append.mp hmem with hold | hnew
    · exact hold
    · rw [← List.mem_singleton.mp hnew] at hentry
      cases hentry

/-! ## §5. The loops over the slab. -/

/-- A live connection may be handed a turn. -/
theorem SlotRule.Safe.runTurn_live {world : World} {id : ConnectionId} {event : TurnEvent}
    {w w' : IoUringWorker σ} {occ : Occupant σ} (h : R.Safe w)
    (hget : w.connections.get id.slot = some occ)
    (hgen : occ.connection.generation = id.generation)
    (hready : ∀ ops, Ready cfg world.now occ.connection event ops ops)
    (hrun : w.runTurn cfg world id event = .ok w') : R.Safe w' := by
  intro hguard
  obtain ⟨items, hitems⟩ := runTurn_history hrun
  have hholds := h (hguard.of_append hitems)
  have hinv := hholds.live id.slot occ hget
  have hid : (⟨id.slot, occ.connection.generation⟩ : ConnectionId) = id := by rw [hgen]
  rw [hid] at hinv
  exact (hholds.outside id.slot).runTurn hget hgen hinv (hready _) hrun hguard

theorem SlotRule.Safe.runTurn_resolved {world : World} {id : ConnectionId}
    {addresses : Option (List SocketAddr)} {w w' : IoUringWorker σ} (h : R.Safe w)
    (hrun : w.runTurn cfg world id (.resolved addresses) = .ok w') : R.Safe w' := by
  by_cases hlive : w.Live id
  · obtain ⟨occ, hget, hgen⟩ := hlive
    exact h.runTurn_live hget hgen (.resolved addresses) hrun
  · intro hguard
    obtain ⟨items, hitems⟩ := runTurn_history hrun
    exact (h (hguard.of_append hitems)).runTurn_stale hlive rfl hrun

theorem SlotRule.Safe.processDnsResults {world : World} {results : List ResolveResult}
    {w w' : IoUringWorker σ} (h : R.Safe w)
    (hrun : processDnsResults cfg world results w = .ok w') : R.Safe w' := by
  unfold IoUring.processDnsResults at hrun
  cases hturns : runTurns cfg world (results.map fun result =>
      (result.connectionId, TurnEvent.resolved result.addresses)) w with
  | error e => simp [bind, Except.bind, hturns] at hrun
  | ok w₁ =>
      simp only [bind, Except.bind, hturns] at hrun
      have h₁ : R.Safe w₁ := by
        unfold runTurns at hturns
        rw [List.foldlM_map] at hturns
        exact foldlM_ok (fun _ w => R.Safe w)
          (fun result _ w₂ w₃ h₂ hstep => h₂.runTurn_resolved hstep) h hturns
      split_ifs at hrun
      · exact h₁.pushEntry rfl hrun
      · injection hrun with hrun
        exact hrun ▸ h₁

theorem slabTurns_eq (select : UringConnection σ → Option TurnEvent) (connections : Slab (Occupant σ)) :
    slabTurns select connections = connections.select (fun slot occupant =>
      (select occupant.connection).map
        (fun event => (⟨slot, occupant.connection.generation⟩, event))) := by
  unfold slabTurns Slab.select
  congr
  funext entry
  cases entry.1 <;> rfl

/-- The turns of a pass over the slab are for connections that were selected. -/
theorem mem_slabTurns {select : UringConnection σ → Option TurnEvent}
    {connections : Slab (Occupant σ)} {turn : ConnectionId × TurnEvent}
    (h : turn ∈ slabTurns select connections) :
    ∃ occ, connections.get turn.1.slot = some occ
      ∧ occ.connection.generation = turn.1.generation
      ∧ select occ.connection = some turn.2 := by
  rw [slabTurns_eq] at h
  obtain ⟨slot, occ, hget, hselect⟩ := Slab.of_mem_select h
  obtain ⟨event, hevent, rfl⟩ := Option.map_eq_some_iff.mp hselect
  exact ⟨occ, hget, rfl, hevent⟩

/-- … one for each slot. -/
theorem slabTurns_pairwise (select : UringConnection σ → Option TurnEvent)
    (connections : Slab (Occupant σ)) :
    (slabTurns select connections).Pairwise (fun a b => a.1.slot ≠ b.1.slot) := by
  rw [slabTurns_eq]
  refine Slab.select_pairwise ?_
  intro slot occ turn slot' occ' turn' hne hturn hturn'
  obtain ⟨_, -, rfl⟩ := Option.map_eq_some_iff.mp hturn
  obtain ⟨_, -, rfl⟩ := Option.map_eq_some_iff.mp hturn'
  exact hne

/-- **A pass over the slab** keeps the rule: what a turn was selected for still
holds when its time comes, since the turns before it were for other slots. -/
theorem SlotRule.Safe.runTurns_slab {world : World}
    {select : UringConnection σ → Option TurnEvent} {w w' : IoUringWorker σ} (h : R.Safe w)
    (hready : ∀ c event ops, select c = some event → Ready cfg world.now c event ops ops)
    (hrun : runTurns cfg world (slabTurns select w.connections) w = .ok w') : R.Safe w' := by
  unfold runTurns at hrun
  refine (foldlM_ok
    (fun turns w => R.Safe w ∧ turns.Pairwise (fun a b => a.1.slot ≠ b.1.slot)
      ∧ ∀ turn ∈ turns, ∃ occ, w.connections.get turn.1.slot = some occ
        ∧ occ.connection.generation = turn.1.generation
        ∧ select occ.connection = some turn.2)
    ?_ ⟨h, slabTurns_pairwise select _, fun turn hturn => mem_slabTurns hturn⟩ hrun).1
  rintro turn turns w₁ w₂ ⟨hsafe, hpair, hsel⟩ hstep
  obtain ⟨hhead, hpair'⟩ := List.pairwise_cons.mp hpair
  obtain ⟨occ, hget, hgen, hselect⟩ := hsel turn List.mem_cons_self
  refine ⟨hsafe.runTurn_live hget hgen (fun ops => hready _ _ ops hselect) hstep, hpair', ?_⟩
  intro turn' hturn'
  obtain ⟨occ', hget', hrest⟩ := hsel turn' (List.mem_cons_of_mem _ hturn')
  exact ⟨occ', by rw [runTurn_get_ne hstep (hhead turn' hturn')]; exact hget', hrest⟩

theorem SlotRule.Safe.checkProxyTimeouts {world : World} {w w' : IoUringWorker σ}
    (h : R.Safe w) (hrun : checkProxyTimeouts cfg world w = .ok w') : R.Safe w' := by
  unfold IoUring.checkProxyTimeouts at hrun
  cases h₁ : runTurns cfg world (slabTurns (proxyExpired cfg world.now) w.connections) w with
  | error e => simp [bind, Except.bind, h₁] at hrun
  | ok w₁ =>
      have hw₁ := h.runTurns_slab (fun c event ops hsel => .expired hsel ops) h₁
      cases h₂ : runTurns cfg world
          (slabTurns (handshakeOverdue cfg world.now) w₁.connections) w₁ with
      | error e => simp [bind, Except.bind, h₁, h₂] at hrun
      | ok w₂ =>
          have hw₂ := hw₁.runTurns_slab (fun c event ops hsel => .handshake hsel ops) h₂
          cases h₃ : w₂.pushEntry world .timerRead with
          | error e => simp [bind, Except.bind, h₁, h₂, h₃] at hrun
          | ok w₃ =>
              simp only [bind, Except.bind, h₁, h₂, h₃] at hrun
              exact (hw₂.pushEntry rfl h₃).runTurns_slab
                (fun c event ops hsel => .pump hsel ops) hrun

/-! ## §6. Accepting. -/

theorem set_ssl_eq {listeners : List UringListener} {idx : Nat} {listener : UringListener}
    (hget : listeners[idx]? = some listener) {listener' : UringListener}
    (hssl : listener'.ssl = listener.ssl) :
    (listeners.set idx listener').map UringListener.ssl = listeners.map UringListener.ssl := by
  rw [List.map_set, hssl]
  apply List.ext_getElem?
  intro i
  by_cases hi : idx = i
  · subst hi
    obtain ⟨hlt, -⟩ := List.getElem?_eq_some_iff.mp hget
    rw [List.getElem?_set_self (by simpa using hlt), List.getElem?_map, hget]
    rfl
  · rw [List.getElem?_set_ne hi]

theorem SlotRule.Safe.submitAccept {world : World} {idx : Nat} {w w' : IoUringWorker σ}
    (h : R.Safe w) (hrun : submitAccept world idx w = .ok w') : R.Safe w' := by
  unfold IoUring.submitAccept at hrun
  split at hrun
  · cases hrun
  next listener hget =>
    split_ifs at hrun
    · injection hrun with hrun
      exact hrun ▸ h
    · cases hpush : w.pushEntry world
          (.accept idx listener.generation listener.multishot) with
      | error e => simp [bind, Except.bind, hpush] at hrun
      | ok w₁ =>
          simp only [bind, Except.bind, hpush, pure, Except.pure] at hrun
          injection hrun with hrun
          subst hrun
          have hlisteners : w₁.listeners = w.listeners := by
            unfold IoUringWorker.pushEntry at hpush
            split_ifs at hpush
            injection hpush with hpush
            rw [← hpush]
          have hget₁ : w₁.listeners[idx]? = some listener := by rw [hlisteners]; exact hget
          exact (h.pushEntry rfl hpush).of_eq rfl rfl rfl (set_ssl_eq hget₁ rfl)

theorem uringConnection_new_fresh {world : World} {socket : Socket} {generation : UInt16}
    {listenerIndex : Nat} {listener : UringListener} {listeners : List UringListener}
    {connection : UringConnection σ} (hget : listeners[listenerIndex]? = some listener)
    (hlisteners : listeners.map UringListener.ssl = cfg.listeners.map UringListener.ssl)
    (h : UringConnection.new cfg.tls world.now socket generation listenerIndex listener.ssl
      = some connection) : Fresh cfg generation connection := by
  have hcfg : (cfg.listeners.map UringListener.ssl)[listenerIndex]? = some listener.ssl := by
    rw [← hlisteners, List.getElem?_map, hget]
    rfl
  have hlt : listenerIndex < cfg.listeners.length := by
    simpa using (List.getElem?_eq_some_iff.mp hcfg).1
  have hplain : (∀ l ∈ cfg.listeners, l.ssl = none) → listener.ssl = none := by
    intro hall
    obtain ⟨l, hl, hssl⟩ := List.mem_map.mp (List.mem_of_getElem? hcfg)
    rw [← hssl]
    exact hall l hl
  have hmode : ∃ l, cfg.listeners[listenerIndex]? = some l ∧ listener.ssl.isSome = l.ssl.isSome := by
    rw [List.getElem?_map] at hcfg
    obtain ⟨l, hl, hssl⟩ := Option.map_eq_some_iff.mp hcfg
    exact ⟨l, hl, by rw [hssl]⟩
  unfold UringConnection.new at h
  split at h
  next hssl =>
    injection h with h
    rw [hssl] at hmode
    exact h ▸ .mk socket listenerIndex none hlt (fun _ => rfl) hmode (fun _ hsome => by cases hsome)
  next config hssl =>
    split at h
    · cases h
    next session hsession =>
      injection h with h
      rw [hssl] at hmode
      refine h ▸ .mk socket listenerIndex (some session) hlt (fun hall => ?_) hmode ?_
      · rw [hplain hall] at hssl
        cases hssl
      · intro session' hsome
        cases hsome
        unfold UringSslSession.new at hsession
        split at hsession
        · cases hsession
        next connection hconnection =>
          injection hsession with hsession
          rw [← hsession]
          exact ⟨rfl, config.serverConfig, hconnection⟩

/-- The only outcome of the first turn is a submitted receive. -/
theorem TurnOutcome.accepted {env : Env σ} {c : UringConnection σ} {clears : Nat}
    {c' : Option (UringConnection σ)} {pushed : List ConnectionOp} {acts : List Act}
    (h : TurnOutcome env .accepted c clears c' pushed acts) (hread : c.readPending = false) :
    c' = some c.markReadSubmitted ∧ pushed = [.recv env.bufferSize] ∧ acts = [.recvSubmitted] := by
  cases h with
  | moved hmove hfinish =>
      cases hmove with
      | accepted =>
          cases hfinish with
          | recvBusy hbusy => rw [hread] at hbusy; cases hbusy
          | recv => exact ⟨rfl, rfl, rfl⟩
          | upstream _ _ hkind => cases hkind
      | noProxy hevent => cases hevent
  | removed hmove => cases hmove
  | received hevent => cases hevent
  | receivedRemoved hevent => cases hevent

/-- The first turn of an inserted connection. -/
theorem SlotRule.Holds.accepted {world : World} {id : ConnectionId} {w w' : IoUringWorker σ}
    {connection : UringConnection σ} {stale : List ConnectionOp}
    (h : R.HoldsOutside w id.slot)
    (hget : w.connections.get id.slot = some ⟨connection, [.accepted connection.ssl.isSome]⟩)
    (hfresh : Fresh cfg id.generation connection) (hstale : opsOf id w.inFlight = stale)
    (hinsert : R.Guard (.inserted id stale)) (hout : ∀ op ∈ stale, R.Outlives op)
    (hrun : w.runTurn cfg world id .accepted = .ok w') : R.Holds w' := by
  obtain ⟨t, ht, rfl⟩ := runTurn_eq hrun
  have hgen : connection.generation = id.generation := by
    cases hfresh
    rfl
  have hread : connection.readPending = false := by
    cases hfresh
    rfl
  have hcur : (w.view id).Current connection := view_current hget hgen
  obtain ⟨c', pushed, acts, houtcome, hbecame⟩ := handleTurn_outcome hcur ht
  obtain ⟨rfl, rfl, rfl⟩ := houtcome.accepted hread
  have hlog : (w.view id).log = [.accepted connection.ssl.isSome] := by
    simp [IoUringWorker.view, hget]
  have htpushed : t.pushed = [.recv cfg.bufferSize] := by rw [hbecame.pushed]; rfl
  have htlog : t.log = [.accepted connection.ssl.isSome, .recvSubmitted] := by
    rw [hbecame.log, hlog]
    rfl
  refine h.kept hget hgen hbecame.connection hgen ?_
  rw [hstale, htpushed, htlog]
  exact R.accepted hfresh hinsert hout

/-- What `insert_connection` does: nothing, or count a generation of a vacant key,
or count it and insert a fresh connection under it. -/
theorem insertConnection_cases {world : World} {socket : Socket} {idx : Nat}
    {listener : UringListener} {w w₁ : IoUringWorker σ} {id? : Option ConnectionId}
    (h : insertConnection cfg world socket idx listener w = (id?, w₁)) :
    (id? = none ∧ ∃ generations, w₁ = { w with generations }
      ∧ (generations = w.generations
        ∨ generations
          = (bumpGeneration w.generations (w.connections.vacantKey world.vacantKey)).2))
    ∨ ∃ id generations connection, id? = some id
      ∧ id.slot = w.connections.vacantKey world.vacantKey
      ∧ UringConnection.new cfg.tls world.now socket id.generation idx listener.ssl
          = some connection
      ∧ w₁ = { w with
          generations
          connections := w.connections.insertAt id.slot
            { connection, log := [.accepted connection.ssl.isSome] }
          history := w.history ++ [.inserted id (opsOf id w.inFlight)] }
      ∧ (id.generation, generations) = bumpGeneration w.generations id.slot := by
  unfold insertConnection at h
  split_ifs at h
  · cases h
    exact .inl ⟨rfl, w.generations, rfl, .inl rfl⟩
  · dsimp only at h
    split_ifs at h
    · cases h
      exact .inl ⟨rfl, w.generations, rfl, .inl rfl⟩
    · split at h
      · cases h
        exact .inl ⟨rfl, _, rfl, .inr rfl⟩
      next connection hnew =>
        cases h
        exact .inr ⟨_, _, connection, rfl, rfl, hnew, rfl, rfl⟩

/-- The worker with a connection inserted under a vacant key. -/
theorem SlotRule.Holds.inserted {id : ConnectionId} {w w₁ : IoUringWorker σ}
    {connection : UringConnection σ} (h : R.Holds w)
    (hvacant : w.connections.get id.slot = none) (hle : id.slot ≤ w.connections.length)
    (hconnections : w₁.connections
      = w.connections.insertAt id.slot ⟨connection, [.accepted connection.ssl.isSome]⟩)
    (hinFlight : w₁.inFlight = w.inFlight) (hlisteners : w₁.listeners = w.listeners)
    (hhistory : w₁.history = w.history ++ [.inserted id (opsOf id w.inFlight)]) :
    R.HoldsOutside w₁ id.slot := by
  have hget : ∀ slot, slot ≠ id.slot → w₁.connections.get slot = w.connections.get slot := by
    intro slot hne
    rw [hconnections]
    exact Slab.get_insertAt_ne hle (Ne.symm hne) _
  refine ⟨?_, ?_, ?_, by rw [hlisteners]; exact h.listeners⟩
  · intro slot occ hne hocc
    rw [hget slot hne] at hocc
    rw [hinFlight]
    exact h.live slot occ hocc
  · intro id' op hmem
    rw [hinFlight] at hmem
    rcases h.owned id' op hmem with ⟨occ, hocc, hgen⟩ | hout
    · have hne : id'.slot ≠ id.slot := by
        intro heq
        rw [heq, hvacant] at hocc
        cases hocc
      exact .inl ⟨occ, by rw [hget _ hne]; exact hocc, hgen⟩
    · exact .inr hout
  · intro id' log ops hmem
    rw [hhistory] at hmem
    rcases List.mem_append.mp hmem with hold | hnew
    · exact h.gone id' log ops hold
    · simp at hnew

theorem SlotRule.Safe.retainAccepted {world : World} {socket : Socket} {idx : Nat}
    {listener : UringListener} {w w' : IoUringWorker σ} (h : R.Safe w)
    (hlistener : w.listeners[idx]? = some listener)
    (hrun : retainAccepted cfg world socket idx listener w = .ok w') : R.Safe w' := by
  unfold IoUring.retainAccepted at hrun
  dsimp only at hrun
  generalize hw₀ : { w with metrics := { w.metrics with accepted := w.metrics.accepted + 1 } } = w₀
    at hrun
  have h₀ : R.Safe w₀ := by
    subst hw₀
    exact h.of_eq rfl rfl rfl rfl
  have hlistener₀ : w₀.listeners[idx]? = some listener := by rw [← hw₀]; exact hlistener
  cases hinsert : insertConnection cfg world socket idx listener w₀ with
  | mk id? w₁ =>
      rw [hinsert] at hrun
      rcases insertConnection_cases hinsert with ⟨rfl, generations, rfl, -⟩ |
        ⟨id, generations, connection, rfl, hslot, hnew, hw₁, -⟩
      · injection hrun with hrun
        subst hrun
        exact h₀.of_eq rfl rfl rfl rfl
      · dsimp only at hrun
        intro hguard
        obtain ⟨items, hitems⟩ := runTurn_history hrun
        have hguard₁ := hguard.of_append hitems
        have hhistory : w₁.history = w₀.history ++ [.inserted id (opsOf id w₀.inFlight)] := by
          rw [hw₁]
        have hholds : R.Holds w₀ := h₀ (hguard₁.of_append hhistory)
        have hvacant : w₀.connections.get id.slot = none := by
          rw [hslot]
          exact Slab.get_vacantKey _ _
        have hle : id.slot ≤ w₀.connections.length := by
          rw [hslot]
          exact Slab.vacantKey_le _ _
        have houtside : R.HoldsOutside w₁ id.slot :=
          hholds.inserted hvacant hle (by rw [hw₁]) (by rw [hw₁]) (by rw [hw₁]) hhistory
        have hget : w₁.connections.get id.slot
            = some ⟨connection, [.accepted connection.ssl.isSome]⟩ := by
          rw [hw₁]
          exact Slab.get_insertAt_self hle _
        have hstale : opsOf id w₁.inFlight = opsOf id w₀.inFlight := by rw [hw₁]
        have hfresh := uringConnection_new_fresh hlistener₀ hholds.listeners hnew
        have hadmit : R.Guard (.inserted id (opsOf id w₀.inFlight)) :=
          hguard₁ _ (by rw [hhistory]; exact List.mem_append_right _ (List.mem_singleton.mpr rfl))
        -- no operation in flight under the new id had a live owner
        have hout : ∀ op ∈ opsOf id w₀.inFlight, R.Outlives op := by
          intro op hop
          rcases hholds.owned id op (mem_opsOf.mp hop) with ⟨occ, hocc, -⟩ | hout
          · rw [hvacant] at hocc
            cases hocc
          · exact hout
        exact SlotRule.Holds.accepted houtside hget hfresh hstale hadmit hout hrun

theorem SlotRule.Safe.settleAccept {world : World} {idx : Nat} {listener : UringListener}
    {result : Int} {w w' : IoUringWorker σ} (h : R.Safe w)
    (hlistener : w.listeners[idx]? = some listener)
    (hrun : settleAccept cfg world idx listener result w = .ok w') : R.Safe w' := by
  unfold IoUring.settleAccept at hrun
  split_ifs at hrun
  · injection hrun with hrun
    exact hrun ▸ h
  · exact h.retainAccepted hlistener hrun
  · injection hrun with hrun
    subst hrun
    exact h.of_eq rfl rfl rfl rfl
  · injection hrun with hrun
    exact hrun ▸ h

theorem SlotRule.Safe.handleAcceptCompletion {world : World} {idx : Nat} {generation : UInt16}
    {result : Int} {more : Bool} {w w' : IoUringWorker σ} (h : R.Safe w)
    (hrun : handleAcceptCompletion cfg world idx generation result more w = .ok w') :
    R.Safe w' := by
  unfold IoUring.handleAcceptCompletion at hrun
  split at hrun
  · injection hrun with hrun
    exact hrun ▸ h
  next listener hget =>
    split_ifs at hrun
    · injection hrun with hrun
      exact hrun ▸ h
    · have hssl : (listener.afterAccept result more).ssl = listener.ssl := by
        unfold UringListener.afterAccept
        split_ifs <;> rfl
      generalize listener.afterAccept result more = listener' at hrun hssl
      have h₁ : R.Safe { w with listeners := w.listeners.set idx listener' } :=
        h.of_eq rfl rfl rfl (set_ssl_eq hget hssl)
      have hget₁ : (w.listeners.set idx listener')[idx]? = some listener' :=
        List.getElem?_set_self (List.getElem?_eq_some_iff.mp hget).1
      cases hsettle : IoUring.settleAccept cfg world idx listener' result
          { w with listeners := w.listeners.set idx listener' } with
      | error e => simp [bind, Except.bind, hsettle] at hrun
      | ok w₁ =>
          simp only [bind, Except.bind, hsettle] at hrun
          have hw₁ : R.Safe w₁ := h₁.settleAccept hget₁ hsettle
          split_ifs at hrun
          · exact hw₁.submitAccept hrun
          · injection hrun with hrun
            exact hrun ▸ hw₁

/-! ## §7. Every step. -/

theorem SlotRule.Safe.loopTop {world : World} {w w' : IoUringWorker σ} (h : R.Safe w)
    (hrun : loopTop cfg world w = .ok w') : R.Safe w' := by
  have hbegin : ∀ {w₁ : IoUringWorker σ}, beginShutdown world w = .ok w₁ → R.Safe w₁ := by
    intro w₁ hw₁
    unfold beginShutdown at hw₁
    split_ifs at hw₁
    · injection hw₁ with hw₁
      exact hw₁ ▸ h
    · have hcancels : ∀ entry ∈ acceptTargets w.listeners, entry.isOperation = false := by
        intro entry hentry
        obtain ⟨⟨listener, idx⟩, -, hsome⟩ := List.mem_filterMap.mp hentry
        split_ifs at hsome
        injection hsome with hsome
        exact hsome ▸ rfl
      dsimp only at hw₁
      refine (foldlM_ok
        (fun (entries : List Entry) w => R.Safe w ∧ ∀ entry ∈ entries, entry.isOperation = false)
        ?_ ⟨?_, hcancels⟩ hw₁).1
      · rintro entry entries w₂ w₃ ⟨hw₂, hentries⟩ hstep
        exact ⟨hw₂.pushEntry (hentries entry List.mem_cons_self) hstep,
          fun e he => hentries e (List.mem_cons_of_mem _ he)⟩
      · exact h.of_eq rfl rfl rfl rfl
  unfold IoUring.loopTop at hrun
  simp only [bind, Except.bind, pure, Except.pure] at hrun
  split_ifs at hrun
  · cases hw₁ : beginShutdown world w with
    | error e => rw [hw₁] at hrun; cases hrun
    | ok w₁ =>
        rw [hw₁] at hrun
        dsimp only at hrun
        split_ifs at hrun
        injection hrun with hrun
        exact hrun ▸ hbegin hw₁
  · injection hrun with hrun
    exact hrun ▸ h

/-- Taking one submission out of the list. -/
theorem eraseIdx_split {α : Type} {xs : List α} {i : Nat} {x : α} (h : xs[i]? = some x) :
    ∃ before after, xs = before ++ x :: after ∧ xs.eraseIdx i = before ++ after := by
  obtain ⟨hlt, rfl⟩ := List.getElem?_eq_some_iff.mp h
  refine ⟨xs.take i, xs.drop (i + 1), ?_, List.eraseIdx_eq_take_drop_succ xs i⟩
  rw [← List.drop_eq_getElem_cons hlt, List.take_append_drop]

theorem ConnectionOp.turnEvent_mayBeStale (completion : Completion) (op : ConnectionOp) :
    (op.turnEvent completion).mayBeStale = true := by
  cases op <;> rfl

/-- The completion of an operation, whether or not its connection still exists. -/
theorem SlotRule.Safe.operationCompleted {world : World} {index : Nat} {id : ConnectionId}
    {op : ConnectionOp} {completion : Completion} {w w' : IoUringWorker σ} (h : R.Safe w)
    (hentry : w.inFlight[index]? = some (.operation id op))
    (hrun : { w with inFlight := w.inFlight.eraseIdx index }.runTurn cfg world id
      (op.turnEvent completion) = .ok w') : R.Safe w' := by
  intro hguard
  obtain ⟨items, hitems⟩ := runTurn_history hrun
  have hholds : R.Holds w := h (hguard.of_append hitems)
  obtain ⟨before, after, hsplit, herase⟩ := eraseIdx_split hentry
  have hne : ∀ id', id ≠ id' → opsOf id' (before ++ after) = opsOf id' w.inFlight := by
    intro id' hid
    rw [hsplit, opsOf_append, opsOf_append, opsOf_cons_operation, if_neg hid]
  have hmem : ∀ id' op', Entry.operation id' op' ∈ before ++ after →
      Entry.operation id' op' ∈ w.inFlight := by
    intro id' op' hm
    rw [hsplit]
    rcases List.mem_append.mp hm with hm | hm
    · exact List.mem_append_left _ hm
    · exact List.mem_append_right _ (List.mem_cons_of_mem _ hm)
  rw [herase] at hrun
  by_cases hlive : w.Live id
  · obtain ⟨occ, hget, hgen⟩ := hlive
    have hid : (⟨id.slot, occ.connection.generation⟩ : ConnectionId) = id := by rw [hgen]
    have hinv := hholds.live id.slot occ hget
    rw [hid, hsplit, opsOf_append, opsOf_cons_operation, if_pos rfl] at hinv
    have houtside : R.HoldsOutside { w with inFlight := before ++ after } id.slot := by
      refine ⟨?_, fun id' op' hm => hholds.owned id' op' (hmem id' op' hm), hholds.gone,
        hholds.listeners⟩
      intro slot' occ' hslot hget'
      show R.Inv _ (opsOf _ (before ++ after)) _
      rw [hne _ (fun heq => hslot (by rw [heq]))]
      exact hholds.live slot' occ' hget'
    refine houtside.runTurn hget hgen hinv ?_ hrun hguard
    show Ready cfg world.now _ _ _ (opsOf id (before ++ after))
    rw [opsOf_append]
    exact .completed op completion _ _
  · have hcongr : R.Holds { w with inFlight := before ++ after } := by
      refine hholds.congr (fun _ => rfl) ?_ hmem (fun _ _ _ hm => hm) rfl
      intro id' hlive'
      exact hne id' (fun heq => hlive (heq ▸ hlive'))
    exact hcongr.runTurn_stale hlive (op.turnEvent_mayBeStale completion) hrun

/-- A completion that belongs to no connection leaves the rule as it is, whether
or not its submission stays in flight. -/
theorem SlotRule.Safe.otherCompleted {index : Nat} {entry : Entry} (more : Bool)
    {w : IoUringWorker σ} (h : R.Safe w) (hentry : w.inFlight[index]? = some entry)
    (hother : entry.isOperation = false) :
    R.Safe (if entry.persists more then w
      else { w with inFlight := w.inFlight.eraseIdx index }) := by
  split_ifs
  · exact h
  · intro hguard
    obtain ⟨before, after, hsplit, herase⟩ := eraseIdx_split hentry
    rw [herase]
    refine (h hguard).congr (fun _ => rfl) ?_ ?_ (fun _ _ _ hm => hm) rfl
    · intro id _
      show opsOf id (before ++ after) = _
      rw [hsplit, opsOf_append, opsOf_append, ← List.singleton_append, opsOf_append,
        opsOf_singleton_other hother, List.nil_append]
    · intro id op hm
      rw [hsplit]
      rcases List.mem_append.mp hm with hm | hm
      · exact List.mem_append_left _ hm
      · exact List.mem_append_right _ (List.mem_cons_of_mem _ hm)

theorem SlotRule.Safe.step {event : Event} {w w' : IoUringWorker σ} (h : R.Safe w)
    (hrun : step cfg event w = .ok w') : R.Safe w' := by
  cases event with
  | requestShutdown =>
      injection hrun with hrun
      subst hrun
      exact h.of_eq rfl rfl rfl rfl
  | loopTop world => exact h.loopTop hrun
  | completed index completion dns world =>
      unfold IoUring.step at hrun
      dsimp only at hrun
      split at hrun
      · injection hrun with hrun
        exact hrun ▸ h
      next entry hentry =>
        cases entry with
        | operation id op => exact h.operationCompleted hentry hrun
        | shutdownRead =>
            have h₁ := h.otherCompleted completion.more hentry rfl
            injection hrun with hrun
            subst hrun
            exact h₁.of_eq rfl rfl rfl rfl
        | cancel listener generation =>
            have h₁ := h.otherCompleted completion.more hentry rfl
            injection hrun with hrun
            subst hrun
            exact h₁.of_eq rfl rfl rfl rfl
        | proxyCancel id kind =>
            injection hrun with hrun
            exact hrun ▸ h.otherCompleted _ hentry rfl
        | dnsRead => exact (h.otherCompleted _ hentry rfl).processDnsResults hrun
        | timerRead => exact (h.otherCompleted _ hentry rfl).checkProxyTimeouts hrun
        | accept listener generation multishot =>
            exact (h.otherCompleted _ hentry rfl).handleAcceptCompletion hrun

theorem SlotRule.Safe.new {w : IoUringWorker σ} (hnew : IoUringWorker.new cfg = .ok w) :
    R.Safe w := by
  unfold IoUringWorker.new at hnew
  split at hnew
  · cases hnew
  · split_ifs at hnew
    injection hnew with hnew
    subst hnew
    intro _
    refine ⟨?_, ?_, ?_, rfl⟩
    · intro slot occ hocc
      simp [Slab.get] at hocc
    · intro id op hm
      cases hm
    · intro id log ops hm
      cases hm

theorem SlotRule.Safe.start {world : World} {w w' : IoUringWorker σ} (h : R.Safe w)
    (hrun : start world w = .ok w') : R.Safe w' := by
  unfold IoUring.start at hrun
  cases h₁ : (List.range w.listeners.length).foldlM
      (fun w idx => IoUring.submitAccept world idx w) w with
  | error e => simp [bind, Except.bind, h₁] at hrun
  | ok w₁ =>
      have hw₁ : R.Safe w₁ := foldlM_ok (fun _ w => R.Safe w)
        (fun _ _ _ _ h₂ hstep => h₂.submitAccept hstep) h h₁
      cases h₂ : w₁.pushEntry world .shutdownRead with
      | error e => simp [bind, Except.bind, h₁, h₂] at hrun
      | ok w₂ =>
          have hw₂ := hw₁.pushEntry rfl h₂
          cases h₃ : w₂.pushEntry world .dnsRead with
          | error e => simp [bind, Except.bind, h₁, h₂, h₃] at hrun
          | ok w₃ =>
              simp only [bind, Except.bind, h₁, h₂, h₃] at hrun
              exact (hw₂.pushEntry rfl h₃).pushEntry rfl hrun

variable (R)

/-- **A rule that every turn keeps holds in every state of every guarded run.** -/
theorem SlotRule.holds {w : IoUringWorker σ} (h : Reachable cfg w) : R.Safe w := by
  induction h with
  | start world hnew hstart => exact (SlotRule.Safe.new hnew).start hstart
  | step event _ hstep ih => exact ih.step hstep

/-! ## §8. Rules about the connection alone. -/

/-- A rule about a connection and about the operations pushed for it, step by step
of a turn. -/
structure StateRule (cfg : Config σ) where
  Inv : UringConnection σ → Prop
  /-- What holds just before the final call of a turn. -/
  Mid : Next → UringConnection σ → Prop
  /-- What holds of a connection that these bytes were just decrypted for. -/
  Got : List UInt8 → UringConnection σ → Prop
  /-- What holds of every operation that is pushed. -/
  Op : ConnectionOp → Prop
  Guard : HistoryItem σ → Prop
  fresh : ∀ {generation : UInt16} {c : UringConnection σ}, Fresh cfg generation c →
    Inv c.markReadSubmitted ∧ Op (.recv cfg.bufferSize)
  move : ∀ {env : Env σ} {id : ConnectionId} {event : TurnEvent} {c c₁ : UringConnection σ}
    {next : Next} {ops ops₀ : List ConnectionOp} {acts : List Act}, env.toConfig = cfg →
    c.generation = id.generation → Guard (.turn id event env.toWorld (some c)) →
    Ready cfg env.now c event ops ops₀ → Inv c → Move env event c next (some c₁) acts →
    Mid next c₁
  intake : ∀ {env : Env σ} {c c₁ : UringConnection σ} {next : Next}
    {received plaintext : List UInt8} {acts : List Act}, env.toConfig = cfg → Inv c →
    Intake env received c.markReadCompleted next c₁ plaintext acts →
    Mid next c₁ ∧ Got plaintext c₁
  flush : ∀ {env : Env σ} {clears : Nat} {c c' : UringConnection σ} {next : Next}
    {plaintext : List UInt8} {pushed : List ConnectionOp} {acts : List Act},
    env.toConfig = cfg → Got plaintext c → Finish env clears c next c' pushed acts →
    Got plaintext c'
  plaintext : ∀ {env : Env σ} {id : ConnectionId} {event : TurnEvent}
    {found : Option (UringConnection σ)} {c c₁ : UringConnection σ} {next : Next}
    {received : List UInt8} {acts : List Act}, env.toConfig = cfg →
    Guard (.turn id event env.toWorld found) → Inv c → Got received c →
    PlaintextMove env received c next (some c₁) acts → Mid next c₁
  finish : ∀ {env : Env σ} {clears : Nat} {c c' : UringConnection σ} {next : Next}
    {pushed : List ConnectionOp} {acts : List Act}, env.toConfig = cfg → Mid next c →
    Finish env clears c next c' pushed acts → Inv c' ∧ ∀ op ∈ pushed, Op op

/-- What is left of the operations in flight, and what is pushed, are of the kind. -/
theorem Ready.all_ops {now : Instant} {c : UringConnection σ} {event : TurnEvent}
    {ops ops₀ pushed : List ConnectionOp} {P : ConnectionOp → Prop}
    (hready : Ready cfg now c event ops ops₀) (hops : ∀ op ∈ ops, P op)
    (hpushed : ∀ op ∈ pushed, P op) : ∀ op ∈ ops₀ ++ pushed, P op := by
  intro op hop
  rcases List.mem_append.mp hop with hold | hnew
  · rcases hready.completed_or with ⟨op', _, before, after, -, rfl, rfl⟩ | ⟨rfl, -⟩
    · apply hops
      rcases List.mem_append.mp hold with h | h
      · exact List.mem_append_left _ h
      · exact List.mem_append_right _ (List.mem_cons_of_mem _ h)
    · exact hops op hold
  · exact hpushed op hnew

def StateRule.toRule (S : StateRule cfg) : SlotRule cfg where
  Inv c ops _ := S.Inv c ∧ ∀ op ∈ ops, S.Op op
  Guard := S.Guard
  Outlives := S.Op
  Gone _ _ := True
  accepted := by
    intro id c stale hfresh _ hstale
    obtain ⟨hinv, hop⟩ := S.fresh hfresh
    refine ⟨hinv, ?_⟩
    intro op hmem
    rcases List.mem_append.mp hmem with hold | hnew
    · exact hstale op hold
    · rw [List.mem_singleton.mp hnew]
      exact hop
  turn := by
    intro env id event c c' ops ops₀ pushed log acts henv _ hgen hguard hready hinv houtcome
    cases houtcome with
    | moved hmove hfinish =>
        obtain ⟨hinv', hpushed⟩ :=
          S.finish henv (S.move henv hgen hguard hready hinv.1 hmove) hfinish
        exact ⟨hinv', hready.all_ops hinv.2 hpushed⟩
    | received _ _ hintake hflush hmove hfinish =>
        obtain ⟨hmid, hgot⟩ := S.intake henv hinv.1 hintake
        obtain ⟨hinv₁, hpushed₁⟩ := S.finish henv hmid hflush
        obtain ⟨hinv', hpushed₂⟩ :=
          S.finish henv (S.plaintext henv hguard hinv₁ (S.flush henv hgot hflush) hmove) hfinish
        refine ⟨hinv', hready.all_ops hinv.2 ?_⟩
        intro op hop
        exact (List.mem_append.mp hop).elim (hpushed₁ op) (hpushed₂ op)
  removed := by
    intro env id event c ops ops₀ pushed log acts henv _ _ _ hready hinv houtcome
    refine ⟨trivial, ?_⟩
    cases houtcome with
    | removed => exact hready.all_ops hinv.2 (fun op hop => absurd hop List.not_mem_nil)
    | receivedRemoved _ _ hintake hflush =>
        exact hready.all_ops hinv.2 (S.finish henv (S.intake henv hinv.1 hintake).1 hflush).2

/-- **Such a rule holds of every connection, and of every operation in flight.** -/
theorem StateRule.holds (S : StateRule cfg) {w : IoUringWorker σ} (h : Reachable cfg w)
    (hguard : ∀ item ∈ w.history, S.Guard item) :
    (∀ slot occ, w.connections.get slot = some occ → S.Inv occ.connection)
      ∧ ∀ id op, Entry.operation id op ∈ w.inFlight → S.Op op := by
  have hholds := S.toRule.holds h hguard
  refine ⟨fun slot occ hget => (hholds.live slot occ hget).1, ?_⟩
  intro id op hop
  rcases hholds.owned id op hop with ⟨occ, hget, hgen⟩ | hout
  · refine (hholds.live id.slot occ hget).2 op (mem_opsOf.mpr ?_)
    rwa [hgen]
  · exact hout

end Thwip.IoUring
