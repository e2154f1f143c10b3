/-
  Thwip.IoUring.Idle — what the timer does about silent clients.

  `check_proxy_timeouts` looks at the clock of an upstream exchange and at that of a
  handshake, and at no other: nothing in this worker reads `idle_timeout`.  A client that
  is silent outside an exchange is closed by the timer only while its handshake is
  overdue, or when the file it is being sent happens to end.  `Clocked` remembers when
  the last byte of each connection moved, or when it was accepted; the timer leaves no
  silent client behind when it found none but those.
-/
import Thwip.IoUring.Timeouts

namespace Thwip.IoUring

open Thwip.Lib

variable {σ : Type} {cfg : Config σ} {world : World} {w w' : IoUringWorker σ}

/-! ## §1. Runs with a clock. -/

/-- Do completions of this operation move bytes? -/
def ConnectionOp.movesBytes : ConnectionOp → Bool
  | .connect _ => false
  | _ => true

/-- The connection for which this event moves a byte, and when. -/
def Event.moves (w : IoUringWorker σ) : Event → Option (ConnectionId × Instant)
  | .completed index completion _ world =>
      match w.inFlight[index]? with
      | some (.operation id op) =>
          if op.movesBytes && completion.result > 0 then some (id, world.now) else none
      | _ => none
  | _ => none

def Event.now : Event → Option Instant
  | .completed _ _ _ world | .loopTop world => some world.now
  | .requestShutdown => none

/-- A vacant slot was given to the connection `id`. -/
def opens (w w' : IoUringWorker σ) (id : ConnectionId) : Bool :=
  (w.connections.get id.slot).isNone
    && (w'.connections.get id.slot).any (fun occ => occ.connection.generation == id.generation)

/-- When the last byte of each connection moved, after this event.  For one that was just
opened that is now. -/
def Event.lastMoved (event : Event) (w w' : IoUringWorker σ)
    (last : ConnectionId → Option Instant) : ConnectionId → Option Instant := fun id =>
  if opens w w' id then event.now
  else
    match event.moves w with
    | some (moved, now) => if moved = id then some now else last id
    | none => last id

/-- The runs of a worker.  `last` remembers when the last byte of each connection moved, or
when it was opened. -/
inductive Clocked (cfg : Config σ) :
    IoUringWorker σ → (ConnectionId → Option Instant) → Prop where
  | start {w w' : IoUringWorker σ} (world : World) (hnew : IoUringWorker.new cfg = .ok w)
      (hstart : IoUring.start world w = .ok w') : Clocked cfg w' (fun _ => none)
  | step {w w' : IoUringWorker σ} {last : ConnectionId → Option Instant} (event : Event)
      (h : Clocked cfg w last) (hstep : IoUring.step cfg event w = .ok w') :
      Clocked cfg w' (event.lastMoved w w' last)

variable {last : ConnectionId → Option Instant}

/-- Runs with a clock are runs. -/
theorem Clocked.reachable (h : Clocked cfg w last) : Reachable cfg w := by
  induction h with
  | start world hnew hstart => exact .start world hnew hstart
  | step event _ hstep ih => exact ih.step event hstep

/-- Replay a list of events with the clock. -/
def clockedReplay (cfg : Config σ) : List Event → IoUringWorker σ →
    (ConnectionId → Option Instant) →
      Except Exit (IoUringWorker σ × (ConnectionId → Option Instant))
  | [], w, last => .ok (w, last)
  | event :: events, w, last =>
      match IoUring.step cfg event w with
      | .error exit => .error exit
      | .ok w' => clockedReplay cfg events w' (event.lastMoved w w' last)

theorem Clocked.replay : ∀ {events : List Event} {w w' : IoUringWorker σ}
    {last last' : ConnectionId → Option Instant}, Clocked cfg w last →
    clockedReplay cfg events w last = .ok (w', last') → Clocked cfg w' last'
  | [], w, w', last, last', h, hrun => by
      injection hrun with hrun
      injection hrun with hw hlast
      exact hw ▸ hlast ▸ h
  | event :: events, w, w', last, last', h, hrun => by
      unfold clockedReplay at hrun
      split at hrun
      · cases hrun
      next w₁ hstep => exact (h.step event hstep).replay hrun

/-- Does the run with a clock of a new worker end with the property? -/
def clockedTo (cfg : Config σ) (world : World) (events : List Event)
    (p : IoUringWorker σ → (ConnectionId → Option Instant) → Bool) : Bool :=
  match IoUringWorker.new cfg with
  | .error _ => false
  | .ok w =>
      match IoUring.start world w with
      | .error _ => false
      | .ok w =>
          match clockedReplay cfg events w (fun _ => none) with
          | .error _ => false
          | .ok (w, last) => p w last

theorem clocked_of_clockedTo {world : World} {events : List Event}
    {p : IoUringWorker σ → (ConnectionId → Option Instant) → Bool}
    (h : clockedTo cfg world events p = true) :
    ∃ w last, Clocked cfg w last ∧ p w last = true := by
  unfold clockedTo at h
  split at h
  · cases h
  next w₀ hnew =>
    split at h
    · cases h
    next w₁ hstart =>
      split at h
      · cases h
      next w last hrun => exact ⟨w, last, (Clocked.start world hnew hstart).replay hrun, h⟩

theorem opens_false {slot : Nat} {occ : Occupant σ} (hget : w.connections.get slot = some occ)
    (generation : UInt16) : opens w w' ⟨slot, generation⟩ = false := by
  unfold opens
  rw [hget]
  rfl

/-- **In every run with a clock each open connection has a time.** -/
theorem Clocked.known (h : Clocked cfg w last) :
    ∀ slot occ, w.connections.get slot = some occ →
      ∃ time, last ⟨slot, occ.connection.generation⟩ = some time := by
  induction h with
  | start world hnew hstart =>
      intro slot occ hget
      rw [start_connections hnew hstart] at hget
      cases hget
  | @step w w' last event _ hstep ih =>
      intro slot occ' hget'
      unfold Event.lastMoved
      rcases step_slot slot hstep with hcontinues | hregisters
      · -- an open connection keeps its time, or moves a byte
        obtain ⟨occ, hget, hdescends⟩ := hcontinues.descends occ' hget'
        rw [hdescends.generation, opens_false hget, if_neg Bool.false_ne_true]
        obtain ⟨time, htime⟩ := ih slot occ hget
        split
        · split_ifs
          · exact ⟨_, rfl⟩
          · exact ⟨time, htime⟩
        · exact ⟨time, htime⟩
      · have hopens : opens w w' (⟨slot, occ'.connection.generation⟩ : ConnectionId) = true := by
          unfold opens
          rw [hregisters.vacant, hget']
          simp
        rw [if_pos hopens]
        cases event with
        | requestShutdown =>
            injection hstep with hstep
            rw [← hstep] at hget'
            cases hregisters.vacant.symm.trans hget'
        | completed | loopTop => exact ⟨_, rfl⟩

/-- The timer moves no bytes. -/
theorem lastMoved_timer {index : Nat} {completion : Completion} {dns : List ResolveResult}
    {slot : Nat} {occ : Occupant σ} (htimer : w.inFlight[index]? = some .timerRead)
    (hget : w.connections.get slot = some occ) (generation : UInt16) :
    (Event.completed index completion dns world).lastMoved w w' last ⟨slot, generation⟩
      = last ⟨slot, generation⟩ := by
  have hmoves : (Event.completed index completion dns world).moves w = none := by
    simp only [Event.moves, htimer]
  unfold Event.lastMoved
  rw [opens_false hget, if_neg Bool.false_ne_true, hmoves]

/-! ## §2. A pass over the slab. -/

/-- A selected connection has a turn in the pass. -/
theorem slabTurns_mem {select : UringConnection σ → Option TurnEvent} {event : TurnEvent}
    {connections : Slab (Occupant σ)} {slot : Nat} {occ : Occupant σ}
    (hget : connections.get slot = some occ) (hselect : select occ.connection = some event) :
    ((⟨slot, occ.connection.generation⟩ : ConnectionId), event) ∈ slabTurns select connections := by
  unfold slabTurns
  refine List.mem_filterMap.mpr ⟨(some occ, slot), ?_, by simp [hselect]⟩
  rw [List.mem_zipIdx_iff_getElem?]
  unfold Slab.get at hget
  cases hentry : connections[slot]? with
  | none => simp [hentry] at hget
  | some entry =>
      rw [hentry] at hget
      exact congrArg some hget

/-- A turn has been for this occupant, and left the slot as it is. -/
def TurnDone (cfg : Config σ) (world : World) (slot : Nat) (occ : Occupant σ) (event : TurnEvent)
    (w : IoUringWorker σ) : Prop :=
  ∃ w₁ w₂ : IoUringWorker σ, w₁.connections.get slot = some occ
    ∧ w₁.runTurn cfg world ⟨slot, occ.connection.generation⟩ event = .ok w₂
    ∧ w.connections.get slot = w₂.connections.get slot

/-- A selected connection has its turn, which finds it as it was. -/
theorem slabTurns_selects {select : UringConnection σ → Option TurnEvent} {event : TurnEvent}
    {slot : Nat} {occ : Occupant σ}
    (hrun : runTurns cfg world (slabTurns select w.connections) w = .ok w')
    (hget : w.connections.get slot = some occ) (hselect : select occ.connection = some event) :
    TurnDone cfg world slot occ event w' := by
  have hend : (([] : List (ConnectionId × TurnEvent)).Pairwise (fun a b => a.1.slot ≠ b.1.slot)
        ∧ ((⟨slot, occ.connection.generation⟩ : ConnectionId), event) ∈ []
        ∧ w'.connections.get slot = some occ)
      ∨ (∀ turn ∈ ([] : List (ConnectionId × TurnEvent)), turn.1.slot ≠ slot)
        ∧ TurnDone cfg world slot occ event w' := by
    unfold runTurns at hrun
    refine foldlM_ok (fun (turns : List (ConnectionId × TurnEvent)) w₁ =>
      (turns.Pairwise (fun a b => a.1.slot ≠ b.1.slot)
          ∧ ((⟨slot, occ.connection.generation⟩ : ConnectionId), event) ∈ turns
          ∧ w₁.connections.get slot = some occ)
        ∨ (∀ turn ∈ turns, turn.1.slot ≠ slot) ∧ TurnDone cfg world slot occ event w₁) ?_
      (.inl ⟨slabTurns_pairwise select _, slabTurns_mem hget hselect, hget⟩) hrun
    rintro turn rest w₁ w₂ hbefore hstep
    rcases hbefore with ⟨hpair, hmem, hsame⟩ | ⟨hother, wa, wb, ha, hturn, hb⟩
    · obtain ⟨hhead, hpair'⟩ := List.pairwise_cons.mp hpair
      rcases List.mem_cons.mp hmem with rfl | hrest
      · exact .inr ⟨fun turn' hturn' => (hhead turn' hturn').symm, w₁, w₂, hsame, hstep, rfl⟩
      · refine .inl ⟨hpair', hrest, ?_⟩
        rw [runTurn_get_ne hstep (hhead _ hrest)]
        exact hsame
    · refine .inr ⟨fun turn' hturn' => hother turn' (List.mem_cons_of_mem _ hturn'),
        wa, wb, ha, hturn, ?_⟩
      rw [runTurn_get_ne hstep (hother turn List.mem_cons_self)]
      exact hb
  rcases hend with ⟨-, hmem, -⟩ | ⟨-, hdone⟩
  · cases hmem
  · exact hdone

/-- What is open after a turn came out of it. -/
theorem TurnDone.outcome {slot : Nat} {occ occ' : Occupant σ} {event : TurnEvent}
    (h : TurnDone cfg world slot occ event w) (hget : w.connections.get slot = some occ') :
    ∃ env clears pushed acts, TurnOutcome (σ := σ) env event occ.connection clears
      (some occ'.connection) pushed acts := by
  obtain ⟨w₁, w₂, hget₁, hrun, hsame⟩ := h
  obtain ⟨t, ht, rfl⟩ := runTurn_eq hrun
  have hcur : (w₁.view ⟨slot, occ.connection.generation⟩).Current occ.connection :=
    ⟨by simp [IoUringWorker.view, hget₁], rfl⟩
  obtain ⟨c', pushed, acts, houtcome, hbecame⟩ := handleTurn_outcome hcur ht
  have hentry : (w₁.commit ⟨slot, occ.connection.generation⟩ event world t).connections.get slot
      = t.connection.map (fun connection => ⟨connection, t.log⟩) :=
    Slab.get_set_self (Slab.lt_of_get hget₁) _
  rw [hsame, hentry, hbecame.connection] at hget
  obtain ⟨c₁, rfl, rfl⟩ := Option.map_eq_some_iff.mp hget
  exact ⟨_, _, _, _, houtcome⟩

/-- What is open after a pass was open before: unselected and unchanged, or as its turn
left it. -/
theorem slabTurns_survivor {select : UringConnection σ → Option TurnEvent} {slot : Nat}
    {occ' : Occupant σ} (hrun : runTurns cfg world (slabTurns select w.connections) w = .ok w')
    (hget' : w'.connections.get slot = some occ') :
    ∃ occ, w.connections.get slot = some occ
      ∧ occ'.connection.generation = occ.connection.generation
      ∧ (select occ.connection = none ∧ occ' = occ
        ∨ ∃ event, select occ.connection = some event ∧ TurnDone cfg world slot occ event w') := by
  obtain ⟨occ, hget, hdescends⟩ := (slabTurns_continues hrun).descends occ' hget'
  refine ⟨occ, hget, hdescends.generation, ?_⟩
  cases hselect : select occ.connection with
  | none =>
      have hkept := slabTurns_keeps hrun hget hselect
      rw [hget'] at hkept
      injection hkept with hkept
      exact .inl ⟨rfl, hkept⟩
  | some event => exact .inr ⟨event, rfl, slabTurns_selects hrun hget hselect⟩

/-! ## §3. The timer. -/

/-- The file that is being sent ends when the pump looks at it. -/
def UringConnection.streamEnds (world : World) (slot : Nat) (self : UringConnection σ) : Bool :=
  (pumpReady self).isSome
    && self.staticStream.any (fun stream =>
      match (stream.tryNext (world.arrived slot)).1 with
      | none => true
      | some .finished => true
      | some _ => false)

/-- The timer finds it in an exchange that goes on, or that ends with the connection; or
with a handshake that is overdue, or a file that ends. -/
def UringConnection.busyOrEnding (cfg : Config σ) (world : World) (slot : Nat)
    (self : UringConnection σ) : Bool :=
  match self.proxy with
  | some proxy =>
      match proxyExpired cfg world.now self with
      | some (.expired _ false) => proxy.responseStarted
      | _ => true
  | none => (handshakeOverdue cfg world.now self).isSome || self.streamEnds world slot

section Turns

variable {env : Env σ} {c c' : UringConnection σ} {clears : Nat} {pushed : List ConnectionOp}
  {acts : List Act}

/-- Nothing is left of a connection whose handshake has expired. -/
theorem handshakeExpired_removes
    (h : TurnOutcome env .handshakeExpired c clears (some c') pushed acts) : False := by
  cases h with
  | moved hmove _ => cases hmove with
      | noProxy hevent _ => cases hevent
  | received hevent => cases hevent

/-- Only a call for the upstream touches the exchange. -/
theorem Finish.proxy {next : Next} (hnext : next.upstreamKind = none)
    (h : Finish env clears c next c' pushed acts) : c'.proxy = c.proxy := by
  cases h with
  | done | sendBusy | recvBusy | recv => rfl
  | sendIdle _ _ _ hfill => exact (fillOutput_frame hfill).1
  | sent _ _ _ hfill => exact (fillOutput_frame hfill).1
  | upstream _ _ hkind =>
      rw [hnext] at hkind
      cases hkind

/-- The pump leaves the exchange alone. -/
theorem pump_proxy (h : TurnOutcome env .pump c clears (some c') pushed acts) :
    c'.proxy = c.proxy := by
  cases h with
  | moved hmove hfinish =>
      cases hmove with
      | noProxy hevent _ => cases hevent
      | pump _ hstream =>
          cases hstream with
          | data =>
              rw [hfinish.proxy rfl]
              rfl
          | pending => exact hfinish.proxy rfl
      | pumpMissing =>
          cases hfinish with
          | upstream _ _ hkind => cases hkind
  | received hevent => cases hevent

/-- An exchange whose operation is under way is marked and goes on. -/
theorem expiredPending_proxy {phase : ProxyPhase}
    (h : TurnOutcome env (.expired phase true) c clears (some c') pushed acts) :
    c'.proxy.isSome = true := by
  cases h with
  | moved hmove hfinish =>
      cases hmove with
      | noProxy hevent _ => cases hevent
      | expiredPending proxy hproxy next hnext =>
          rcases hnext with rfl | rfl
          · rw [hfinish.proxy rfl]
            rfl
          · cases hfinish with
            | upstream _ _ hkind => cases hkind
      | expiredMissing =>
          cases hfinish with
          | upstream _ _ hkind => cases hkind
  | received hevent => cases hevent

/-- A response that has started is not followed by an error response. -/
theorem expiredIdle_removes {phase : ProxyPhase} {proxy : UringProxy}
    (hproxy : c.proxy = some proxy) (hstarted : proxy.responseStarted = true)
    (h : TurnOutcome env (.expired phase false) c clears (some c') pushed acts) : False := by
  cases h with
  | moved hmove _ =>
      cases hmove with
      | noProxy hevent _ => cases hevent
      | expiredIdle hfail =>
          cases hfail with
          | answered _ _ hfresh =>
              rw [hfresh proxy hproxy] at hstarted
              cases hstarted
  | received hevent => cases hevent

end Turns

/-- A file that has ended, or failed, is the end of its connection. -/
theorem advanceStaticStream_ends {env : Env σ} {t t' : Turn σ} {c : UringConnection σ}
    {stream : StaticStream} (hconnection : t.connection = some c)
    (hstream : c.staticStream = some stream)
    (hends : (stream.tryNext (env.arrived t.id.slot)).1 = none
      ∨ (stream.tryNext (env.arrived t.id.slot)).1 = some .finished)
    (hrun : advanceStaticStream env t = .ok t') : t'.connection = none := by
  unfold advanceStaticStream at hrun
  simp only [hconnection, hstream] at hrun
  cases hnext : stream.tryNext (env.arrived t.id.slot) with
  | mk next rest =>
      rw [hnext] at hends
      simp only [hnext] at hrun
      rcases hends with hnone | hfinished
      · simp only [show next = none from hnone] at hrun
        injection hrun with hrun
        rw [← hrun]
        rfl
      · simp only [show next = some .finished from hfinished] at hrun
        injection hrun with hrun
        rw [← hrun]
        rfl

/-- The pump closes a connection whose file has ended. -/
theorem streamEnds_removes {slot : Nat} {occ : Occupant σ}
    (hends : occ.connection.streamEnds world slot = true)
    (h : TurnDone cfg world slot occ .pump w) : w.connections.get slot = none := by
  obtain ⟨w₁, w₂, hget₁, hrun, hsame⟩ := h
  obtain ⟨t, ht, rfl⟩ := runTurn_eq hrun
  have hview : (w₁.view ⟨slot, occ.connection.generation⟩).connection = some occ.connection := by
    simp [IoUringWorker.view, hget₁]
  unfold UringConnection.streamEnds at hends
  rw [Bool.and_eq_true, Option.any_eq_true] at hends
  obtain ⟨-, stream, hstream, hlast⟩ := hends
  have hgone : t.connection = none := by
    refine advanceStaticStream_ends hview hstream ?_ ht
    show (stream.tryNext (world.arrived slot)).1 = none
      ∨ (stream.tryNext (world.arrived slot)).1 = some .finished
    cases hnext : (stream.tryNext (world.arrived slot)).1 with
    | none => exact .inl rfl
    | some next =>
        rw [hnext] at hlast
        cases next with
        | finished => exact .inr rfl
        | data => cases hlast
        | pending => cases hlast
  rw [hsame]
  show Slab.get (w₁.connections.set slot _) slot = none
  rw [hgone, Slab.get_set_self (Slab.lt_of_get hget₁)]
  rfl

/-- The first pass: what is open after it was passed over, or has kept its exchange, or is
one that should not have been found silent. -/
theorem proxyPass_survivor {slot : Nat} {occ' : Occupant σ}
    (hrun : runTurns cfg world (slabTurns (proxyExpired cfg world.now) w.connections) w = .ok w')
    (hget' : w'.connections.get slot = some occ') :
    ∃ occ, w.connections.get slot = some occ
      ∧ occ'.connection.generation = occ.connection.generation
      ∧ (occ.connection.busyOrEnding cfg world slot = true →
        occ'.connection.proxy.isSome = true ∨ occ.connection.proxy = none ∧ occ' = occ) := by
  obtain ⟨occ, hget, hgeneration, hpassed | ⟨event, hselect, hdone⟩⟩ :=
    slabTurns_survivor hrun hget'
  · refine ⟨occ, hget, hgeneration, fun _ => ?_⟩
    obtain ⟨-, rfl⟩ := hpassed
    cases hproxy : occ'.connection.proxy with
    | none => exact .inr ⟨rfl, rfl⟩
    | some proxy => exact .inl rfl
  · refine ⟨occ, hget, hgeneration, fun hbusy => .inl ?_⟩
    obtain ⟨env, clears, pushed, acts, houtcome⟩ := hdone.outcome hget'
    obtain ⟨-, proxy, hproxy, rfl⟩ := proxyExpired_some hselect
    unfold UringConnection.busyOrEnding at hbusy
    rw [hproxy, hselect] at hbusy
    generalize proxy.operationPending = pending at hbusy houtcome
    cases pending with
    | true => exact expiredPending_proxy houtcome
    | false => exact (expiredIdle_removes hproxy hbusy houtcome).elim

/-- What is open after the second pass was open before, and is as it was. -/
theorem handshakePass_survivor {slot : Nat} {occ' : Occupant σ}
    (hrun : runTurns cfg world (slabTurns (handshakeOverdue cfg world.now) w.connections) w
      = .ok w')
    (hget' : w'.connections.get slot = some occ') :
    w.connections.get slot = some occ' ∧ handshakeOverdue cfg world.now occ'.connection = none := by
  obtain ⟨occ, hget, -, ⟨hselect, rfl⟩ | ⟨event, hselect, hdone⟩⟩ :=
    slabTurns_survivor hrun hget'
  · exact ⟨hget, hselect⟩
  · obtain ⟨rfl, -⟩ := handshakeOverdue_some hselect
    obtain ⟨_, _, _, _, houtcome⟩ := hdone.outcome hget'
    exact (handshakeExpired_removes houtcome).elim

/-- What is open after the third pass has the exchange it had, and no file that has
ended. -/
theorem pumpPass_survivor {slot : Nat} {occ' : Occupant σ}
    (hrun : runTurns cfg world (slabTurns pumpReady w.connections) w = .ok w')
    (hget' : w'.connections.get slot = some occ') :
    ∃ occ, w.connections.get slot = some occ
      ∧ occ'.connection.generation = occ.connection.generation
      ∧ occ'.connection.proxy = occ.connection.proxy
      ∧ occ.connection.streamEnds world slot = false := by
  obtain ⟨occ, hget, hgeneration, ⟨hselect, rfl⟩ | ⟨event, hselect, hdone⟩⟩ :=
    slabTurns_survivor hrun hget'
  · refine ⟨occ', hget, rfl, rfl, ?_⟩
    unfold UringConnection.streamEnds
    rw [hselect]
    rfl
  · obtain ⟨rfl, -⟩ := pumpReady_some hselect
    obtain ⟨_, _, _, _, houtcome⟩ := hdone.outcome hget'
    refine ⟨occ, hget, hgeneration, pump_proxy houtcome, ?_⟩
    by_contra hends
    have hremoved := streamEnds_removes (by simpa using hends) hdone
    rw [hget'] at hremoved
    cases hremoved

/-- **What the timer leaves open without an exchange** was not busy, and not ending,
before. -/
theorem checkProxyTimeouts_survivor {slot : Nat} {occ' : Occupant σ}
    (hrun : checkProxyTimeouts cfg world w = .ok w') (hget' : w'.connections.get slot = some occ')
    (hproxy : occ'.connection.proxy = none) :
    ∃ occ, w.connections.get slot = some occ
      ∧ occ'.connection.generation = occ.connection.generation
      ∧ occ.connection.busyOrEnding cfg world slot = false := by
  unfold checkProxyTimeouts at hrun
  simp only [bind, Except.bind] at hrun
  split at hrun
  · cases hrun
  next w₁ hrun₁ =>
    split at hrun
    · cases hrun
    next w₂ hrun₂ =>
      split at hrun
      · cases hrun
      next w₃ hpush =>
        have hsame : w₃.connections = w₂.connections := by
          unfold IoUringWorker.pushEntry at hpush
          split_ifs at hpush
          injection hpush with hpush
          rw [← hpush]
        -- back through the passes, from the last to the first
        obtain ⟨occ₂, hget₂, hgeneration₂, hproxy₂, hends⟩ := pumpPass_survivor hrun hget'
        rw [hsame] at hget₂
        obtain ⟨hget₁, hoverdue⟩ := handshakePass_survivor hrun₂ hget₂
        obtain ⟨occ, hget, hgeneration, hbusy⟩ := proxyPass_survivor hrun₁ hget₁
        refine ⟨occ, hget, hgeneration₂.trans hgeneration, ?_⟩
        by_contra hcontra
        rcases hbusy (by simpa using hcontra) with hsome | ⟨hnone, rfl⟩
        · rw [← hproxy₂, hproxy] at hsome
          cases hsome
        · unfold UringConnection.busyOrEnding at hcontra
          rw [hnone, hoverdue, hends] at hcontra
          exact hcontra rfl

/-- Every client that has been silent for `idle_timeout` when the timer fires is in an
exchange that goes on, or is being closed for another reason. -/
def IoUringWorker.NoneIdle (cfg : Config σ) (world : World) (last : ConnectionId → Option Instant)
    (w : IoUringWorker σ) : Prop :=
  ∀ slot occ time, w.connections.get slot = some occ →
    last ⟨slot, occ.connection.generation⟩ = some time →
    cfg.limits.idleTimeout ≤ world.now - time →
    occ.connection.busyOrEnding cfg world slot = true

/-- **The timer leaves no silent client behind** if it found none but those. -/
theorem timer_leaves_none_idle (h : Clocked cfg w last) {index : Nat} {completion : Completion}
    {dns : List ResolveResult} (htimer : w.inFlight[index]? = some .timerRead)
    (hrun : IoUring.step cfg (.completed index completion dns world) w = .ok w')
    (hnone : w.NoneIdle cfg world last) {slot : Nat} {occ : Occupant σ}
    (hget' : w'.connections.get slot = some occ) (hproxy : occ.connection.proxy = none) :
    ∃ time, (Event.completed index completion dns world).lastMoved w w' last
        ⟨slot, occ.connection.generation⟩ = some time
      ∧ world.now - time < cfg.limits.idleTimeout := by
  have hpass : checkProxyTimeouts cfg world { w with inFlight := w.inFlight.eraseIdx index }
      = .ok w' := by
    simpa only [IoUring.step, htimer, Entry.persists, Bool.false_eq_true, if_false,
      dispatchCompletion] using hrun
  obtain ⟨occ₀, hget, hgeneration, hidle⟩ := checkProxyTimeouts_survivor hpass hget' hproxy
  obtain ⟨time, hlast⟩ := h.known slot occ₀ hget
  refine ⟨time, by rw [hgeneration, lastMoved_timer htimer hget, hlast], ?_⟩
  by_contra hover
  rw [hnone slot occ₀ time hget hlast (Nat.not_lt.mp hover)] at hidle
  cases hidle

end Thwip.IoUring
