/-
  Thwip.Readiness.Occupation — which connection an id means.

  A slot of the slab is given out again and again; its `n`-th registration begins
  its `n`-th occupation.  The generation of a slot is a function of the number of
  its registrations, so an id that is live in two states with fewer than a
  period of registrations between them means one occupation, and the connection
  found later descends from the one found before.
-/
import Thwip.Readiness.Runs

namespace Thwip.Readiness

open Thwip.Lib
open Relation (ReflTransGen)

variable {σ : Type} {cfg : Config σ} {w w' : ReadinessWorker σ} {slot : Nat}

/-! ## §1. Registrations. -/

def HistoryItem.registers (slot : Nat) : HistoryItem σ → Bool
  | .registered id => id.slot == slot
  | _ => false

/-- How often the slot was given out. -/
def ReadinessWorker.registrations (w : ReadinessWorker σ) (slot : Nat) : Nat :=
  w.history.countP (HistoryItem.registers slot)

theorem turnItems_registers (id : ConnectionId) (event : TurnEvent) (io : Io) (t : Turn σ) :
    (w.turnItems id event io t).countP (HistoryItem.registers slot) = 0 := by
  unfold ReadinessWorker.turnItems
  dsimp only
  split
  · rfl
  · split_ifs <;> rfl

theorem registrations_turn {io : Io} {id : ConnectionId} {event : TurnEvent}
    (hrun : w.runTurn cfg io id event = .ok w') : w'.registrations slot = w.registrations slot := by
  obtain ⟨t, -, rfl⟩ := runTurn_eq hrun
  show (w.history ++ w.turnItems id event io t).countP _ = _
  rw [List.countP_append, turnItems_registers]
  rfl

/-- A registration of `id` is counted at its slot and at no other. -/
theorem registrations_append {id : ConnectionId}
    (hhistory : w'.history = w.history ++ [.registered id]) :
    w'.registrations slot = w.registrations slot + if id.slot = slot then 1 else 0 := by
  unfold ReadinessWorker.registrations
  rw [hhistory, List.countP_append]
  congr 1
  by_cases h : id.slot = slot <;> simp [HistoryItem.registers, h]

/-! ## §2. Descent. -/

/-- The connection of a slot that was not given out in between is the one that was
there before, with what was done for it since. -/
structure Descends (rel : Connection σ → Connection σ → Prop) (occ occ' : Occupant σ) : Prop where
  generation : occ'.connection.generation = occ.connection.generation
  log : occ.log <+: occ'.log
  rel : rel occ.connection occ'.connection

/-- A property of two states of one connection that every move keeps, given a rule
that holds throughout. -/
structure Growth (R : SeatRule cfg) (rel : Connection σ → Connection σ → Prop) : Prop where
  refl : ∀ c, rel c c
  trans : ∀ {c₁ c₂ c₃}, rel c₁ c₂ → rel c₂ c₃ → rel c₁ c₃
  move : ∀ {env : Env σ} {event : TurnEvent} {s₀ s s' : Seat σ} {c c' : Connection σ},
    env.toConfig = cfg → s.connection = some c → R.Inv s c → Move env event s₀ s s' →
    s'.connection = some c' → rel c c'

variable {R : SeatRule cfg} {rel : Connection σ → Connection σ → Prop}

theorem Descends.refl (h : Growth R rel) (occ : Occupant σ) : Descends rel occ occ :=
  ⟨rfl, List.prefix_refl _, h.refl _⟩

theorem Descends.trans (h : Growth R rel) {occ₁ occ₂ occ₃ : Occupant σ}
    (h₁ : Descends rel occ₁ occ₂) (h₂ : Descends rel occ₂ occ₃) : Descends rel occ₁ occ₃ :=
  ⟨h₂.generation.trans h₁.generation, h₁.log.trans h₂.log, h.trans h₁.rel h₂.rel⟩

theorem Growth.path (h : Growth R rel) {env : Env σ} {id : ConnectionId} {event : TurnEvent}
    {s₀ s : Seat σ} {c₀ c : Connection σ} (henv : env.toConfig = cfg)
    (hguard : R.Guard (.turn id event env.toIo s₀)) (hfound : s₀.connection = some c₀)
    (hstart : Starts event s₀ c₀) (hinv : R.Inv s₀ c₀)
    (hpath : ReflTransGen (Move env event s₀) s₀ s) (hc : s.connection = some c) : rel c₀ c := by
  induction hpath generalizing c with
  | refl =>
      rw [hfound] at hc
      injection hc with hc
      exact hc ▸ h.refl _
  | tail hbefore hmove ih =>
      obtain ⟨c₁, hc₁, -⟩ := hmove.kept.generation c hc
      have hmid := SeatRule.Mid.path henv hguard hfound hstart hinv hbefore
      exact h.trans (ih hc₁) (h.move henv hc₁ (hmid.1 c₁ hc₁) hmove hc)

/-- What a live connection's entry becomes in a turn of its own. -/
theorem Growth.turn (h : Growth R rel) {io : Io} {id : ConnectionId} {event : TurnEvent}
    {occ occ' : Occupant σ} (hholds : R.Holds w) (hguard : R.Guarded w')
    (hstart : w.Startable id event) (hrun : w.runTurn cfg io id event = .ok w')
    (hget : w.connections.get id.slot = some occ)
    (hgen : occ.connection.generation = id.generation)
    (hget' : w'.connections.get id.slot = some occ') : Descends rel occ occ' := by
  obtain ⟨t, ht, rfl⟩ := runTurn_eq hrun
  have hcur := view_current hget hgen
  have hsteps := handleTurn_steps hcur (hstart occ hget hgen) ht
  have hkept := path_kept hsteps.path
  rw [commit_get_self hget] at hget'
  obtain ⟨hc', hgen'⟩ := occupant_of_kept hcur hkept hget'
  refine ⟨hgen'.trans hgen.symm, ?_, ?_⟩
  · unfold Turn.occupant at hget'
    obtain ⟨c', -, rfl⟩ := Option.map_eq_some_iff.mp hget'
    have hlog : (w.view id).log = occ.log := view_log hget
    exact hlog ▸ hkept.log
  · exact h.path rfl (hguard.call hget) hcur.connection (hstart occ hget hgen)
      (hholds.view hget hgen) hsteps.path hc'

/-- One atom: a slot that it does not give out has the connection it had. -/
theorem Growth.atom (h : Growth R rel) (hsafe : R.Safe w) (hatom : Atom cfg w w')
    (hguard : R.Guarded w') (hcount : w'.registrations slot = w.registrations slot)
    {occ' : Occupant σ} (hget' : w'.connections.get slot = some occ') :
    ∃ occ, w.connections.get slot = some occ ∧ Descends rel occ occ' := by
  cases hatom with
  | turn io id event hstart hrun =>
      by_cases hslot : id.slot = slot
      · subst hslot
        by_cases hlive : w.Live id
        · obtain ⟨occ, hget, hgen⟩ := hlive
          obtain ⟨t, -, hw'⟩ := runTurn_eq hrun
          have hholds : R.Holds w := hsafe (hguard.of_append (by rw [hw']; rfl))
          exact ⟨occ, hget, h.turn hholds hguard hstart hrun hget hgen hget'⟩
        · exact ⟨occ', by rw [← stale_get hlive hrun]; exact hget', .refl h occ'⟩
      · exact ⟨occ', by rw [← runTurn_get_ne hrun hslot]; exact hget', .refl h occ'⟩
  | registered now vacantKey registrationFails hlistener hroom =>
      rename_i index listener
      rcases registerConnection_cases now vacantKey registrationFails index listener w rfl with
        heq | ⟨id, hslot, -, heq | ⟨connection, interest, -, -, heq⟩⟩
      · rw [heq] at hget'
        exact ⟨occ', hget', .refl h occ'⟩
      · rw [heq] at hget'
        exact ⟨occ', hget', .refl h occ'⟩
      · rw [heq] at hget' hcount
        have hne : id.slot ≠ slot := by
          intro heq'
          rw [registrations_append rfl, if_pos heq'] at hcount
          omega
        have hle : id.slot ≤ w.connections.length := by
          rw [hslot]
          exact Slab.vacantKey_le _ _
        rw [Slab.get_insertAt_ne hle hne] at hget'
        exact ⟨occ', hget', .refl h occ'⟩
  | polled =>
      have hmap : Slab.get (w.connections.map (Option.map Occupant.poll)) slot
          = (w.connections.get slot).map Occupant.poll := poll_get slot
      rw [hmap] at hget'
      obtain ⟨occ, hocc, rfl⟩ := Option.map_eq_some_iff.mp hget'
      exact ⟨occ, hocc, rfl, List.prefix_refl _, h.refl _⟩
  | other => exact ⟨occ', hget', .refl h occ'⟩

theorem registrations_le_atom (hatom : Atom cfg w w') :
    w.registrations slot ≤ w'.registrations slot := by
  cases hatom with
  | turn io id event hstart hrun => rw [registrations_turn hrun]
  | registered now vacantKey registrationFails hlistener hroom =>
      rename_i index listener
      rcases registerConnection_cases now vacantKey registrationFails index listener w rfl with
        heq | ⟨id, -, -, heq | ⟨connection, interest, -, -, heq⟩⟩
      · rw [heq]
      all_goals
        rw [heq]
        exact (Nat.le_add_right _ _).trans_eq (registrations_append (by rfl)).symm
  | polled => exact Nat.le_refl _
  | other => exact Nat.le_refl _

theorem registrations_le (hpath : Atoms cfg w w') :
    w.registrations slot ≤ w'.registrations slot := by
  induction hpath with
  | refl => exact Nat.le_refl _
  | tail _ hatom ih => exact ih.trans (registrations_le_atom hatom)

/-- **A run that does not give the slot out keeps its connection**, or removes it. -/
theorem Growth.atoms (h : Growth R rel) (hsafe : R.Safe w) (hpath : Atoms cfg w w')
    (hguard : R.Guarded w') (hcount : w'.registrations slot = w.registrations slot)
    {occ' : Occupant σ} (hget' : w'.connections.get slot = some occ') :
    ∃ occ, w.connections.get slot = some occ ∧ Descends rel occ occ' := by
  induction hpath generalizing occ' with
  | refl => exact ⟨occ', hget', .refl h occ'⟩
  | tail hbefore hatom ih =>
      rename_i w₁ w₂
      have hle : w.registrations slot ≤ w₁.registrations slot := registrations_le hbefore
      have hle' : w₁.registrations slot ≤ w₂.registrations slot := registrations_le_atom hatom
      have hguard₁ : R.Guarded w₁ := hguard.of_atom hatom
      obtain ⟨occ₁, hget₁, hdescends⟩ :=
        h.atom (hsafe.atoms hbefore) hatom hguard (by omega) hget'
      obtain ⟨occ, hget, hbefore'⟩ := ih hguard₁ (by omega) hget₁
      exact ⟨occ, hget, hbefore'.trans h hdescends⟩

/-! ## §3. Generations. -/

theorem bumpGeneration_fst (generations : List Nat) (slot : Nat) :
    (bumpGeneration generations slot).1 = nextGeneration usizeBits (generations.getD slot 0) :=
  congrArg (nextGeneration usizeBits) (getD_grow generations slot 0 slot)

theorem bumpGeneration_getD (generations : List Nat) (slot slot' : Nat) :
    (bumpGeneration generations slot).2.getD slot' 0
      = if slot = slot' then nextGeneration usizeBits (generations.getD slot 0)
        else generations.getD slot' 0 := by
  unfold bumpGeneration
  dsimp only
  rw [getD_set _ _ (lt_length_grow generations slot 0), getD_grow, getD_grow]

/-- The table of generations counts the registrations, and a connection has the
generation its slot had when it was inserted. -/
structure Numbered (w : ReadinessWorker σ) : Prop where
  table : ∀ slot, w.generations.getD slot 0
    = (nextGeneration usizeBits)^[w.registrations slot] 0
  live : ∀ slot occ, w.connections.get slot = some occ →
    occ.connection.generation = w.generations.getD slot 0 ∧ 0 < w.registrations slot

theorem Numbered.registered {id : ConnectionId} (h : Numbered w)
    (hgen : id.generation = (bumpGeneration w.generations id.slot).1)
    (hgenerations : w'.generations = (bumpGeneration w.generations id.slot).2)
    (hhistory : w'.history = w.history ++ [.registered id])
    (hconnections : ∀ slot occ, w'.connections.get slot = some occ →
      w.connections.get slot = some occ ∧ id.slot ≠ slot
        ∨ id.slot = slot ∧ occ.connection.generation = id.generation) : Numbered w' := by
  have htable : ∀ slot, w'.generations.getD slot 0
      = (nextGeneration usizeBits)^[w'.registrations slot] 0 := by
    intro slot
    rw [registrations_append hhistory, hgenerations, bumpGeneration_getD]
    split_ifs with hslot
    · subst hslot
      rw [Function.iterate_succ_apply', h.table]
    · exact h.table slot
  refine ⟨htable, ?_⟩
  intro slot occ hget
  rw [registrations_append hhistory]
  rcases hconnections slot occ hget with ⟨hold, hne⟩ | ⟨rfl, hnew⟩
  · obtain ⟨hsame, hpos⟩ := h.live slot occ hold
    rw [hgenerations, bumpGeneration_getD, if_neg hne, if_neg hne]
    exact ⟨hsame, hpos⟩
  · rw [hgenerations, bumpGeneration_getD, if_pos rfl, if_pos rfl, hnew, hgen, bumpGeneration_fst]
    exact ⟨rfl, Nat.succ_pos _⟩

theorem Numbered.atom (h : Numbered w) (hatom : Atom cfg w w') : Numbered w' := by
  cases hatom with
  | turn io id event hstart hrun =>
      have hgenerations : w'.generations = w.generations := by
        obtain ⟨t, -, rfl⟩ := runTurn_eq hrun
        rfl
      refine ⟨?_, ?_⟩
      · intro slot
        rw [registrations_turn hrun, hgenerations]
        exact h.table slot
      · intro slot occ' hget'
        rw [registrations_turn hrun, hgenerations]
        by_cases hslot : id.slot = slot
        · subst hslot
          obtain ⟨occ, hget, hsame, -⟩ := runTurn_get_self hstart hrun hget'
          rw [hsame.generation]
          exact h.live id.slot occ hget
        · rw [runTurn_get_ne hrun hslot] at hget'
          exact h.live slot occ' hget'
  | registered now vacantKey registrationFails hlistener hroom =>
      rename_i index listener
      rcases registerConnection_cases now vacantKey registrationFails index listener w rfl with
        heq | ⟨id, hslot, hgen, heq | ⟨connection, interest, -, hnew, heq⟩⟩
      · rw [heq]
        exact h
      · rw [heq]
        refine h.registered hgen rfl rfl ?_
        intro slot occ hget
        refine .inl ⟨hget, ?_⟩
        rintro rfl
        -- the slot is vacant
        rw [hslot] at hget
        have hvacant := Slab.get_vacantKey w.connections vacantKey
        rw [show w.connections.get (w.connections.vacantKey vacantKey) = some occ from hget]
          at hvacant
        cases hvacant
      · rw [heq]
        refine h.registered hgen rfl rfl ?_
        intro slot occ hget
        have hle : id.slot ≤ w.connections.length := by
          rw [hslot]
          exact Slab.vacantKey_le _ _
        by_cases hne : id.slot = slot
        · subst hne
          rw [Slab.get_insertAt_self hle] at hget
          injection hget with hget
          obtain ⟨session, rfl⟩ := connection_new_fresh hnew
          exact .inr ⟨rfl, by rw [← hget]; rfl⟩
        · rw [Slab.get_insertAt_ne hle hne] at hget
          exact .inl ⟨hget, hne⟩
  | polled =>
      refine ⟨h.table, ?_⟩
      intro slot occ' hget'
      have hmap : Slab.get (w.connections.map (Option.map Occupant.poll)) slot
          = (w.connections.get slot).map Occupant.poll := poll_get slot
      rw [hmap] at hget'
      obtain ⟨occ, hocc, rfl⟩ := Option.map_eq_some_iff.mp hget'
      exact h.live slot occ hocc
  | other => exact ⟨h.table, h.live⟩

theorem Reachable.numbered (h : Reachable cfg w) : Numbered w := by
  obtain ⟨w₀, hnew, hpath⟩ := h.atoms
  clear h
  induction hpath with
  | refl =>
      unfold ReadinessWorker.new at hnew
      split_ifs at hnew
      injection hnew with hnew
      subst hnew
      refine ⟨fun slot => rfl, ?_⟩
      intro slot occ hget
      simp [Slab.get] at hget
  | tail _ hatom ih => exact ih.atom hatom

/-! ## §4. The period. -/

theorem usizeBits_ge : 6 ≤ usizeBits := by decide

theorem nextGeneration_ne_zero (previous : Nat) : nextGeneration usizeBits previous ≠ 0 := by
  unfold nextGeneration
  dsimp only
  split_ifs with hzero
  · exact Nat.one_ne_zero
  · exact hzero

/-- In its range, the generation counter is the cycle of its length. -/
theorem nextGeneration_iterate {n : Nat} (hn : n ≤ generationMask usizeBits) (k : Nat) :
    (nextGeneration usizeBits)^[k] n = (cycleNext (generationMask usizeBits))^[k] n
      ∧ (nextGeneration usizeBits)^[k] n ≤ generationMask usizeBits := by
  induction k with
  | zero => exact ⟨rfl, hn⟩
  | succ k ih =>
      rw [Function.iterate_succ_apply', Function.iterate_succ_apply',
        nextGeneration_eq usizeBits_ge ih.2, ih.1]
      exact ⟨rfl, cycleNext_le (generationMask_pos usizeBits_ge) _⟩

theorem nextGeneration_minimalPeriod {n : Nat} (hpos : 0 < n)
    (hn : n ≤ generationMask usizeBits) :
    Function.minimalPeriod (nextGeneration usizeBits) n = generationMask usizeBits := by
  rw [← cycleNext_minimalPeriod (generationMask_pos usizeBits_ge) hpos hn,
    Function.minimalPeriod_eq_minimalPeriod_iff]
  intro k
  unfold Function.IsPeriodicPt Function.IsFixedPt
  rw [(nextGeneration_iterate hn k).1]

/-- **An id that is live again** before its slot was given out a period of times
means the same occupation. -/
theorem Numbered.same_occupation (h : Numbered w) (h' : Numbered w') {id : ConnectionId}
    (hle : w.registrations id.slot ≤ w'.registrations id.slot)
    (hfew : w'.registrations id.slot < w.registrations id.slot + generationMask usizeBits)
    (hlive : w.Live id) (hlive' : w'.Live id) :
    w'.registrations id.slot = w.registrations id.slot := by
  obtain ⟨occ, hget, hgen⟩ := hlive
  obtain ⟨occ', hget', hgen'⟩ := hlive'
  obtain ⟨hnumber, hpos⟩ := h.live id.slot occ hget
  obtain ⟨hnumber', -⟩ := h'.live id.slot occ' hget'
  rw [hgen, h.table] at hnumber
  rw [hgen', h'.table] at hnumber'
  obtain ⟨k, hk⟩ := Nat.exists_eq_add_of_le hle
  obtain ⟨n, hn⟩ : ∃ n, w.registrations id.slot = n + 1 :=
    ⟨w.registrations id.slot - 1, by omega⟩
  have hrange := (nextGeneration_iterate (Nat.zero_le _) (w.registrations id.slot)).2
  rw [← hnumber] at hrange
  have hnonzero : id.generation ≠ 0 := by
    rw [hnumber, hn, Function.iterate_succ_apply']
    exact nextGeneration_ne_zero _
  have hback : (nextGeneration usizeBits)^[k] id.generation = id.generation := by
    nth_rewrite 1 [hnumber]
    rw [← Function.iterate_add_apply, Nat.add_comm, ← hk, ← hnumber']
  rw [(nextGeneration_iterate hrange k).1] at hback
  have hdvd := (cycleNext_iterate_eq_iff (generationMask_pos usizeBits_ge) (by omega) hrange k).mp hback
  have hzero : k = 0 := Nat.eq_zero_of_dvd_of_lt hdvd (by omega)
  omega

/-! ## §5. What an event names. -/

/-- The ids an event of the run loop carries; the passes over the slab carry none. -/
def Event.ids (w : ReadinessWorker σ) : Event → Option (List ConnectionId)
  | .dnsResults results _ => some (results.map ResolveResult.connectionId)
  | .scheduledWrite index _ => some (w.pendingWrites[index]?).toList
  | .scheduledUpstreamWrite index _ => some (w.pendingUpstreamWrites[index]?).toList
  | .scheduledUpstreamRead index _ => some (w.pendingUpstreamReads[index]?).toList
  | .ready event _ dns _ =>
      if event.token = controlToken usizeBits then some (dns.map ResolveResult.connectionId)
      else some ((ConnectionId.fromToken usizeBits event.token).map Prod.fst).toList
  | _ => none

theorem clientTurns_id {id : ConnectionId} {event : ReadyEvent} {draining : Bool}
    {turn : ConnectionId × TurnEvent} (h : turn ∈ clientTurns id event draining) : turn.1 = id := by
  unfold clientTurns at h
  split at h
  · rw [List.mem_singleton.mp h]
  · rw [List.mem_append, List.mem_append, mem_ite_singleton, mem_ite_singleton,
      mem_ite_singleton] at h
    rcases h with (⟨-, rfl⟩ | ⟨-, rfl⟩) | ⟨-, rfl⟩ <;> rfl

theorem upstreamTurns_id {id : ConnectionId} {event : ReadyEvent}
    {turn : ConnectionId × TurnEvent} (h : turn ∈ upstreamTurns id event) : turn.1 = id := by
  unfold upstreamTurns at h
  split at h
  · rw [List.mem_singleton.mp h]
  · rw [List.mem_append, List.mem_append, mem_ite_singleton, mem_ite_singleton,
      mem_ite_singleton] at h
    rcases h with (⟨-, rfl⟩ | ⟨-, rfl⟩) | ⟨-, rfl⟩ <;> rfl

/-- A turn changes the connection its id means, and no other. -/
theorem runTurn_keeps {io : Io} {id : ConnectionId} {event : TurnEvent} {occ : Occupant σ}
    (hrun : w.runTurn cfg io id event = .ok w') (hget : w.connections.get slot = some occ)
    (hid : (⟨slot, occ.connection.generation⟩ : ConnectionId) ≠ id) :
    w'.connections.get slot = some occ := by
  by_cases hlive : w.Live id
  · have hslot : id.slot ≠ slot := by
      rintro rfl
      exact hid (Live.unique hlive ⟨occ, hget, rfl⟩ rfl)
    rw [runTurn_get_ne hrun hslot]
    exact hget
  · rw [stale_get hlive hrun]
    exact hget

theorem runTurns_keeps {io : Nat → Io} {turns : List (ConnectionId × TurnEvent)}
    {occ : Occupant σ} (hrun : runTurns cfg io turns w = .ok w')
    (hget : w.connections.get slot = some occ)
    (hid : ∀ turn ∈ turns, (⟨slot, occ.connection.generation⟩ : ConnectionId) ≠ turn.1) :
    w'.connections.get slot = some occ := by
  unfold runTurns at hrun
  refine (foldlM_ok
    (fun (indexed : List ((ConnectionId × TurnEvent) × Nat)) w₁ =>
      (∀ entry ∈ indexed, (⟨slot, occ.connection.generation⟩ : ConnectionId) ≠ entry.1.1)
        ∧ w₁.connections.get slot = some occ) ?_ ⟨?_, hget⟩ hrun).2
  · rintro ⟨turn, index⟩ rest w₁ w₂ ⟨hids, hsame⟩ hstep
    exact ⟨fun entry hentry => hids entry (List.mem_cons_of_mem _ hentry),
      runTurn_keeps hstep hsame (hids _ List.mem_cons_self)⟩
  · rintro ⟨turn, index⟩ hentry
    have hmem := List.mem_map_of_mem (f := Prod.fst) hentry
    rw [List.zipIdx_map_fst] at hmem
    exact hid turn hmem

theorem acceptReady_keeps {index : Nat} {listener : RegisteredListener} {occ : Occupant σ} :
    ∀ {accepts : List Accepted} {w : ReadinessWorker σ}, w.connections.get slot = some occ →
      (acceptReady cfg index listener accepts w).connections.get slot = some occ
  | [], w, h => h
  | .failed :: _, w, h => h
  | .interrupted :: accepts, w, h => by
      unfold acceptReady
      exact acceptReady_keeps h
  | .stream now vacantKey registrationFails :: accepts, w, h => by
      unfold acceptReady
      split
      · exact acceptReady_keeps h
      · apply acceptReady_keeps
        generalize hcounted : ({ w with metrics := { w.metrics with
          accepted := w.metrics.accepted + 1 } } : ReadinessWorker σ) = w₁
        have h₁ : w₁.connections.get slot = some occ := by
          rw [← hcounted]
          exact h
        rcases registerConnection_cases now vacantKey registrationFails index listener w₁ rfl with
          heq | ⟨id, hslot, -, heq | ⟨connection, interest, -, -, heq⟩⟩
        · rw [heq]
          exact h₁
        · rw [heq]
          exact h₁
        · rw [heq]
          have hvacant : w₁.connections.get id.slot = none := by
            rw [hslot]
            exact Slab.get_vacantKey _ _
          have hne : id.slot ≠ slot := by
            intro heq'
            rw [heq', h₁] at hvacant
            cases hvacant
          show Slab.get (w₁.connections.insertAt id.slot _) slot = some occ
          rw [Slab.get_insertAt_ne (by rw [hslot]; exact Slab.vacantKey_le _ _) hne]
          exact h₁

/-- **A connection that an event does not name is left as it was.** -/
theorem step_keeps {event : Event} {ids : List ConnectionId} {occ : Occupant σ}
    (hids : event.ids w = some ids) (hrun : step cfg event w = .ok w')
    (hget : w.connections.get slot = some occ)
    (hnamed : (⟨slot, occ.connection.generation⟩ : ConnectionId) ∉ ids) :
    w'.connections.get slot = some occ := by
  have hdue : ∀ {io : Io} {due : Option ConnectionId} {event : TurnEvent}, due.toList = ids →
      runDue cfg io due event w = .ok w' → w'.connections.get slot = some occ := by
    intro io due event heq hrun
    unfold runDue at hrun
    split at hrun
    · injection hrun with hrun
      exact hrun ▸ hget
    · refine runTurn_keeps hrun hget ?_
      rintro rfl
      rw [← heq] at hnamed
      simp at hnamed
  have hresults : ∀ {io : Nat → Io} {results : List ResolveResult},
      results.map ResolveResult.connectionId = ids →
      processDnsResults cfg io results w = .ok w' → w'.connections.get slot = some occ := by
    intro io results heq hrun
    refine runTurns_keeps hrun hget ?_
    intro turn hturn hid
    obtain ⟨result, hresult, rfl⟩ := List.mem_map.mp hturn
    rw [← heq, hid] at hnamed
    exact hnamed (List.mem_map_of_mem hresult)
  unfold step at hrun
  split at hrun
  · cases hrun
  · cases event with
    | requestShutdown | loopTop | closeExpiredResolutions | closeExpiredProxies
    | closeIdleConnections | pumpStaticStreams | poll => cases hids
    | dnsResults results io =>
        injection hids with hids
        exact hresults hids hrun
    | scheduledWrite index io =>
        injection hids with hids
        exact hdue hids hrun
    | scheduledUpstreamWrite index io =>
        injection hids with hids
        exact hdue hids hrun
    | scheduledUpstreamRead index io =>
        injection hids with hids
        exact hdue hids hrun
    | ready event accepts dns io =>
        change (if event.token = controlToken usizeBits then
            some (dns.map ResolveResult.connectionId)
          else some ((ConnectionId.fromToken usizeBits event.token).map Prod.fst).toList)
          = some ids at hids
        change dispatch cfg io event accepts dns w = .ok w' at hrun
        unfold dispatch at hrun
        split at hrun
        next hcontrol =>
          rw [if_pos hcontrol] at hids
          injection hids with hids
          exact hresults hids hrun
        next hcontrol =>
          rw [if_neg hcontrol] at hids
          injection hids with hids
          split at hrun
          · split at hrun
            · injection hrun with hrun
              exact hrun ▸ acceptReady_keeps hget
            · injection hrun with hrun
              exact hrun ▸ hget
          · split at hrun
            · injection hrun with hrun
              exact hrun ▸ hget
            next id role htoken =>
              have hid : (⟨slot, occ.connection.generation⟩ : ConnectionId) ≠ id := by
                rintro rfl
                rw [← hids, htoken] at hnamed
                simp at hnamed
              split at hrun
              · injection hrun with hrun
                exact hrun ▸ hget
              · split at hrun
                · injection hrun with hrun
                  exact hrun ▸ hget
                · split at hrun
                  · refine runTurns_keeps hrun hget ?_
                    intro turn hturn
                    rw [clientTurns_id hturn]
                    exact hid
                  · split at hrun
                    · injection hrun with hrun
                      exact hrun ▸ hget
                    · refine runTurns_keeps hrun hget ?_
                      intro turn hturn
                      rw [upstreamTurns_id hturn]
                      exact hid

end Thwip.Readiness
