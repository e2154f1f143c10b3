/-
  Thwip.Readiness.Runs — from one turn to every run.

  A step of the worker is a path of atoms: turns of single connections,
  registrations, polls, and changes that concern no connection.  A `SeatRule` is
  an invariant of one connection's seat that every move keeps;
  `SeatRule.holds` says that it then holds of every connection in every reachable
  state, provided the run keeps to the rule's guard.
-/
import Thwip.Lib.Trace
import Thwip.Readiness.Turns

namespace Thwip.Readiness

open Thwip.Lib
open Relation (ReflTransGen)

variable {σ : Type} {cfg : Config σ} {w w' : ReadinessWorker σ}

/-! ## §1. Atoms. -/

/-- The worker may call the handler for `event` on the connection of `id`, if
that is still the one in the slot. -/
def ReadinessWorker.Startable (w : ReadinessWorker σ) (id : ConnectionId) (event : TurnEvent) :
    Prop :=
  ∀ occ, w.connections.get id.slot = some occ → occ.connection.generation = id.generation →
    Starts event (w.view id).toSeat occ.connection

inductive Atom (cfg : Config σ) : ReadinessWorker σ → ReadinessWorker σ → Prop where
  | turn {w w' : ReadinessWorker σ} (io : Io) (id : ConnectionId) (event : TurnEvent)
      (hstart : w.Startable id event) (hrun : w.runTurn cfg io id event = .ok w') : Atom cfg w w'
  | registered {w : ReadinessWorker σ} (now : Instant) (vacantKey : Nat)
      (registrationFails : Bool) {index : Nat} {listener : RegisteredListener}
      (hlistener : w.listeners[index]? = some listener)
      (hroom : w.connections.count < cfg.limits.maxConnections) :
      Atom cfg w (registerConnection cfg now vacantKey registrationFails index listener w)
  | polled {w : ReadinessWorker σ} :
      Atom cfg w { w with connections := w.connections.map (Option.map Occupant.poll) }
  | other {w : ReadinessWorker σ} (shutdownRequested draining finished : Bool)
      (drainStartedAt : Option Instant) (metrics : WorkerMetrics) :
      Atom cfg w { w with shutdownRequested, draining, finished, drainStartedAt, metrics }

abbrev Atoms (cfg : Config σ) := ReflTransGen (Atom cfg)

/-- What a step is made of: atoms, of which only a turn and an admission change the
metrics. -/
inductive Tick (cfg : Config σ) : ReadinessWorker σ → ReadinessWorker σ → Prop where
  | turn {w w' : ReadinessWorker σ} (io : Io) (id : ConnectionId) (event : TurnEvent)
      (hstart : w.Startable id event) (hrun : w.runTurn cfg io id event = .ok w') : Tick cfg w w'
  /-- A stream is counted, then registered. -/
  | admitted {w : ReadinessWorker σ} (now : Instant) (vacantKey : Nat)
      (registrationFails : Bool) {index : Nat} {listener : RegisteredListener}
      (hlistener : w.listeners[index]? = some listener)
      (hroom : w.connections.count < cfg.limits.maxConnections) :
      Tick cfg w (registerConnection cfg now vacantKey registrationFails index listener
        { w with metrics := { w.metrics with accepted := w.metrics.accepted + 1 } })
  | polled {w : ReadinessWorker σ} :
      Tick cfg w { w with connections := w.connections.map (Option.map Occupant.poll) }
  | flags {w : ReadinessWorker σ} (shutdownRequested draining finished : Bool)
      (drainStartedAt : Option Instant) :
      Tick cfg w { w with shutdownRequested, draining, finished, drainStartedAt }

abbrev Ticks (cfg : Config σ) := ReflTransGen (Tick cfg)

theorem Tick.atoms (h : Tick cfg w w') : Atoms cfg w w' := by
  cases h with
  | turn io id event hstart hrun => exact .single (.turn io id event hstart hrun)
  | admitted now vacantKey registrationFails hlistener hroom =>
      exact .head (.other w.shutdownRequested w.draining w.finished w.drainStartedAt
        { w.metrics with accepted := w.metrics.accepted + 1 })
        (.single (.registered now vacantKey registrationFails hlistener hroom))
  | polled => exact .single .polled
  | flags shutdownRequested draining finished drainStartedAt =>
      exact .single (.other shutdownRequested draining finished drainStartedAt w.metrics)

theorem Ticks.atoms (h : Ticks cfg w w') : Atoms cfg w w' := by
  induction h with
  | refl => exact .refl
  | tail _ htick ih => exact ih.trans htick.atoms

/-! ## §2. What a turn leaves alone. -/

/-- The generation and the listener of a connection never change, nor whether it
is encrypted. -/
structure SameClient (c c' : Connection σ) : Prop where
  generation : c'.generation = c.generation
  listenerGroup : c'.listenerGroup = c.listenerGroup
  ssl : c'.ssl.isSome = c.ssl.isSome

theorem SameClient.refl (c : Connection σ) : SameClient c c := ⟨rfl, rfl, rfl⟩

theorem SameClient.trans {c₁ c₂ c₃ : Connection σ} (h : SameClient c₁ c₂)
    (h' : SameClient c₂ c₃) : SameClient c₁ c₃ :=
  ⟨h'.generation.trans h.generation, h'.listenerGroup.trans h.listenerGroup, h'.ssl.trans h.ssl⟩

theorem ReadsOnly.sameClient {c c' : Connection σ} (h : ReadsOnly c c') : SameClient c c' :=
  ⟨h.generation, h.listenerGroup, h.ssl⟩

theorem sameClient_setSession {c : Connection σ} {ssl : SslSession σ} (hssl : c.ssl = some ssl)
    (session : σ) : SameClient c (c.setSession ssl session) :=
  ⟨rfl, rfl, by rw [hssl]; rfl⟩

/-- A move keeps what was registered at the last poll and whose connection it is;
it does not bring a removed connection back. -/
structure Kept (s s' : Seat σ) : Prop where
  polled : s'.polled = s.polled
  client : ∀ c', s'.connection = some c' → ∃ c, s.connection = some c ∧ SameClient c c'
  log : s.log <+: s'.log

theorem Kept.generation {s s' : Seat σ} (h : Kept s s') (c' : Connection σ)
    (hc' : s'.connection = some c') :
    ∃ c, s.connection = some c ∧ c'.generation = c.generation := by
  obtain ⟨c, hc, hsame⟩ := h.client c' hc'
  exact ⟨c, hc, hsame.generation⟩

theorem Kept.refl (s : Seat σ) : Kept s s := ⟨rfl, fun c hc => ⟨c, hc, .refl c⟩, List.prefix_refl _⟩

theorem Kept.trans {s₁ s₂ s₃ : Seat σ} (h : Kept s₁ s₂) (h' : Kept s₂ s₃) : Kept s₁ s₃ := by
  refine ⟨h'.polled.trans h.polled, ?_, h.log.trans h'.log⟩
  intro c₃ hc₃
  obtain ⟨c₂, hc₂, hsame⟩ := h'.client c₃ hc₃
  obtain ⟨c₁, hc₁, hsame'⟩ := h.client c₂ hc₂
  exact ⟨c₁, hc₁, hsame'.trans hsame⟩

theorem kept_put {s : Seat σ} {c c' : Connection σ} (hc : s.connection = some c)
    (hsame : SameClient c c') (acts : List Act) :
    Kept s ((s.put c').note acts) := by
  refine ⟨rfl, ?_, List.prefix_append _ _⟩
  intro c'' hc''
  cases hc''
  exact ⟨c, hc, hsame⟩

theorem kept_put_only {s : Seat σ} {c c' : Connection σ} (hc : s.connection = some c)
    (hsame : SameClient c c') : Kept s (s.put c') := by
  refine ⟨rfl, ?_, List.prefix_refl _⟩
  intro c'' hc''
  cases hc''
  exact ⟨c, hc, hsame⟩

theorem kept_settle {s : Seat σ} {c c' : Connection σ} (hc : s.connection = some c)
    (hsame : SameClient c c') (tls : Rustls σ) (interest : Interest) (acts : List Act)
    (ok : Bool) : Kept s (s.settle tls c' interest acts ok) := by
  cases ok with
  | true =>
      refine ⟨rfl, ?_, ?_⟩
      · intro c'' hc''
        cases hc''
        exact ⟨c, hc, hsame⟩
      · exact ⟨acts ++ [.reregistered interest], by simp [Seat.settle]⟩
  | false =>
      refine ⟨rfl, ?_, ?_⟩
      · intro c'' hc''
        cases hc''
      · exact ⟨acts ++ [.removed .reregisterFailed c'.unsent (c'.sslWantsWrite tls)], by
          simp [Seat.settle, Seat.note, Seat.drop]⟩

theorem Move.kept {env : Env σ} {event : TurnEvent} {s₀ s s' : Seat σ}
    (h : Move env event s₀ s s') : Kept s s' := by
  have hread : ∀ {c : Connection σ} {pass : ReadPass σ}, c.isHandlingRequest = false →
      pass = connectionReady env.tls.toRustls env.limits env.now c env.reads →
      SameClient c pass.connection := by
    intro c pass hhandling hpass
    rw [hpass]
    exact (connectionReady_readsOnly _ _ _ hhandling _).sameClient
  have hflags : ∀ {acts : List Act} {write uwrite uread : Bool},
      Kept s { s with writeScheduled := write, upstreamWriteScheduled := uwrite
                      upstreamReadScheduled := uread, log := s.log ++ acts } :=
    ⟨rfl, fun c hc => ⟨c, hc, .refl c⟩, List.prefix_append _ _⟩
  cases h with
  | rescheduled => exact ⟨rfl, fun c hc => ⟨c, hc, .refl c⟩, List.prefix_refl _⟩
  | drained => exact ⟨rfl, fun c hc => ⟨c, hc, .refl c⟩, List.prefix_refl _⟩
  | scheduled => exact ⟨rfl, fun c hc => ⟨c, hc, .refl c⟩, List.prefix_refl _⟩
  | flushed => exact hflags
  | counted => exact hflags
  | touched hc => exact kept_put_only hc (by exact ⟨rfl, rfl, rfl⟩)
  | spoiled hc hssl => exact kept_put_only hc (sameClient_setSession hssl _)
  | waited hc _ _ _ hhandling pass hpass => exact kept_put hc (hread hhandling hpass) _
  | replied hc _ _ _ hhandling pass hpass =>
      exact kept_settle hc (by exact (hread hhandling hpass).trans ⟨rfl, rfl, rfl⟩) _ _ _ _
  | resolving hc _ _ _ hhandling pass hpass =>
      exact kept_put hc (by exact (hread hhandling hpass).trans ⟨rfl, rfl, rfl⟩) _
  | connecting hc => exact kept_put_only hc (by exact ⟨rfl, rfl, rfl⟩)
  | forwarded hc => exact kept_put hc (by exact ⟨rfl, rfl, rfl⟩) _
  | failed hc => exact kept_settle hc (by exact ⟨rfl, rfl, rfl⟩) _ _ _ _
  | relayed hc => exact kept_settle hc (by exact ⟨rfl, rfl, rfl⟩) _ _ _ _
  | wrote hc => exact kept_put hc (by exact ⟨rfl, rfl, rfl⟩) _
  | handed hc hssl => exact kept_put hc (by exact (sameClient_setSession hssl _).trans ⟨rfl, rfl, rfl⟩) _
  | sentTls hc hssl => exact kept_put hc (by exact (sameClient_setSession hssl _).trans ⟨rfl, rfl, rfl⟩) _
  | chunk hc => exact kept_settle hc (by exact ⟨rfl, rfl, rfl⟩) _ _ _ _
  | awaiting hc => exact kept_settle hc (by exact ⟨rfl, rfl, rfl⟩) _ _ _ _
  | closing hc hssl =>
      exact kept_settle hc (by exact (sameClient_setSession hssl _).trans ⟨rfl, rfl, rfl⟩) _ _ _ _
  | emptied hc => exact kept_settle hc (by exact ⟨rfl, rfl, rfl⟩) _ _ _ _
  | idled hc => exact kept_settle hc (by exact ⟨rfl, rfl, rfl⟩) _ _ _ _
  | flushing hc => exact kept_settle hc (by exact ⟨rfl, rfl, rfl⟩) _ _ _ _
  | removed hc =>
      refine ⟨rfl, ?_, List.prefix_append _ _⟩
      intro c' hc'
      cases hc'

theorem path_kept {env : Env σ} {event : TurnEvent} {s₀ s s' : Seat σ}
    (h : ReflTransGen (Move env event s₀) s s') : Kept s s' := by
  induction h with
  | refl => exact .refl _
  | tail _ hmove ih => exact ih.trans hmove.kept

/-- `id` is the id of the connection in its slot. -/
def ReadinessWorker.Live (w : ReadinessWorker σ) (id : ConnectionId) : Prop :=
  ∃ occ, w.connections.get id.slot = some occ ∧ occ.connection.generation = id.generation

theorem view_current {id : ConnectionId} {occ : Occupant σ}
    (hget : w.connections.get id.slot = some occ)
    (hgen : occ.connection.generation = id.generation) : (w.view id).Current occ.connection :=
  ⟨by simp [ReadinessWorker.view, hget], hgen⟩

/-- It finds the trace of the connection too. -/
theorem view_log {id : ConnectionId} {occ : Occupant σ}
    (hget : w.connections.get id.slot = some occ) : (w.view id).log = occ.log := by
  simp [ReadinessWorker.view, hget]

theorem view_stale {id : ConnectionId} (h : ¬ w.Live id) : (w.view id).isCurrent = false := by
  rw [Bool.eq_false_iff]
  intro hcurrent
  obtain ⟨c, hc⟩ := Turn.isCurrent_iff.mp hcurrent
  apply h
  have hconnection := hc.connection
  cases hget : w.connections.get id.slot with
  | none => simp [ReadinessWorker.view, hget] at hconnection
  | some occ =>
      simp only [ReadinessWorker.view, hget, Option.map_some, Option.some.injEq] at hconnection
      exact ⟨occ, hget, by rw [hconnection]; exact hc.generation⟩

theorem runTurn_eq {io : Io} {id : ConnectionId} {event : TurnEvent}
    (hrun : w.runTurn cfg io id event = .ok w') :
    ∃ t, handleTurn (w.env cfg io) event (w.view id) = .ok t ∧ w' = w.commit id event io t := by
  unfold ReadinessWorker.runTurn at hrun
  split at hrun
  · cases hrun
  next t ht =>
    injection hrun with hrun
    exact ⟨t, ht, hrun.symm⟩

/-- The slab entry a handler's turn is put back as. -/
def Turn.occupant (t : Turn σ) : Option (Occupant σ) :=
  t.connection.map (fun connection =>
    { connection, interest := t.interest, polled := t.polled, log := t.log })

theorem commit_get_ne {id : ConnectionId} {event : TurnEvent} {io : Io} {t : Turn σ} {slot : Nat}
    (hne : id.slot ≠ slot) :
    (w.commit id event io t).connections.get slot = w.connections.get slot :=
  Slab.get_set_ne _ hne _

theorem commit_get_self {id : ConnectionId} {event : TurnEvent} {io : Io} {t : Turn σ}
    {occ : Occupant σ} (hget : w.connections.get id.slot = some occ) :
    (w.commit id event io t).connections.get id.slot = t.occupant :=
  Slab.get_set_self (Slab.lt_of_get hget) _

/-- A turn for a connection that is gone leaves the slab as it is. -/
theorem stale_get {io : Io} {id : ConnectionId} {event : TurnEvent} (hlive : ¬ w.Live id)
    (hrun : w.runTurn cfg io id event = .ok w') (slot : Nat) :
    w'.connections.get slot = w.connections.get slot := by
  obtain ⟨t, ht, rfl⟩ := runTurn_eq hrun
  obtain ⟨write, upstreamWrite, upstreamRead, hstale⟩ :=
    handleTurn_stale (w.env cfg io) event (view_stale hlive)
  rw [hstale] at ht
  injection ht with ht
  subst ht
  by_cases hslot : id.slot = slot
  · subst hslot
    cases hget : w.connections.get id.slot with
    | none =>
        show Slab.get (w.connections.set id.slot _) id.slot = none
        simp only [ReadinessWorker.view, hget, Option.map_none]
        rw [Slab.get_set_none hget, hget]
    | some occ =>
        rw [commit_get_self hget]
        simp [Turn.occupant, ReadinessWorker.view, hget]
  · exact commit_get_ne hslot

/-- What a turn adds to the history. -/
theorem mem_turnItems {id : ConnectionId} {event : TurnEvent} {io : Io} {t : Turn σ}
    {id' : ConnectionId} {trace : List Act}
    (h : HistoryItem.removed id' trace ∈ w.turnItems id event io t) :
    ∃ occ, w.connections.get id.slot = some occ ∧ id' = ⟨id.slot, occ.connection.generation⟩
      ∧ trace = t.log ∧ t.connection = none := by
  unfold ReadinessWorker.turnItems at h
  dsimp only at h
  split at h
  · simp at h
  next occ hget =>
    split_ifs at h with hsome
    · simp at h
    · simp only [List.mem_cons, List.not_mem_nil, or_false] at h
      rcases h with h | h
      · cases h
      · injection h with hid htrace
        exact ⟨occ, hget, hid, htrace, by simpa using hsome⟩

/-- A turn for another connection of the slot removes nothing. -/
theorem removed_current {io : Io} {id : ConnectionId} {event : TurnEvent} {t : Turn σ}
    {occ : Occupant σ} (hget : w.connections.get id.slot = some occ)
    (hrun : w.runTurn cfg io id event = .ok (w.commit id event io t))
    (hnone : t.connection = none) : occ.connection.generation = id.generation := by
  by_contra hne
  have hlive : ¬ w.Live id := by
    rintro ⟨occ', hget', hgen⟩
    obtain rfl : occ = occ' := Option.some.inj (hget.symm.trans hget')
    exact hne hgen
  have hkept := stale_get hlive hrun id.slot
  rw [commit_get_self hget, hget] at hkept
  unfold Turn.occupant at hkept
  rw [hnone] at hkept
  cases hkept

/-- What is removed was removed by the turn right before it, which was for the same
connection. -/
theorem removed_by_turn {io : Io} {id id' : ConnectionId} {event : TurnEvent} {t : Turn σ}
    {before after : List (HistoryItem σ)} {trace : List Act}
    (hrun : w.runTurn cfg io id event = .ok (w.commit id event io t))
    (heq : w.turnItems id event io t = before ++ .removed id' trace :: after) :
    ∃ occ, w.connections.get id.slot = some occ ∧ occ.connection.generation = id.generation
      ∧ id' = id ∧ trace = t.log ∧ t.connection = none
      ∧ before = [.turn id event io (w.view id).toSeat] := by
  have hmem : HistoryItem.removed id' trace ∈ w.turnItems id event io t := by
    rw [heq]
    exact List.mem_append_right _ List.mem_cons_self
  obtain ⟨occ, hget, rfl, rfl, hnone⟩ := mem_turnItems hmem
  have hgen := removed_current hget hrun hnone
  refine ⟨occ, hget, hgen, by rw [hgen], rfl, hnone, ?_⟩
  have hitems : w.turnItems id event io t
      = [.turn id event io (w.view id).toSeat]
        ++ [.removed ⟨id.slot, occ.connection.generation⟩ t.log] := by
    unfold ReadinessWorker.turnItems
    rw [hget]
    dsimp only
    rw [hnone, if_neg (by simp)]
    rfl
  rw [hitems] at heq
  cases before with
  | nil => cases heq
  | cons first rest =>
      injection heq with hfirst hrest
      cases rest with
      | nil => rw [hfirst]
      | cons second rest =>
          injection hrest with _ hrest
          exact absurd hrest.symm (by simp)

/-- The entry of the turn's own slot: gone, or the same connection with the same
poll. -/
theorem runTurn_get_self {io : Io} {id : ConnectionId} {event : TurnEvent}
    (hstart : w.Startable id event) (hrun : w.runTurn cfg io id event = .ok w') {occ' : Occupant σ}
    (hget' : w'.connections.get id.slot = some occ') :
    ∃ occ, w.connections.get id.slot = some occ
      ∧ SameClient occ.connection occ'.connection ∧ occ'.polled = occ.polled := by
  by_cases hlive : w.Live id
  · obtain ⟨occ, hget, hgen⟩ := hlive
    obtain ⟨t, ht, rfl⟩ := runTurn_eq hrun
    have hcur := view_current hget hgen
    have hkept := path_kept (handleTurn_steps hcur (hstart occ hget hgen) ht).path
    rw [commit_get_self hget] at hget'
    unfold Turn.occupant at hget'
    obtain ⟨c', hc', rfl⟩ := Option.map_eq_some_iff.mp hget'
    obtain ⟨c, hc, hsame⟩ := hkept.client c' hc'
    rw [hcur.connection] at hc
    injection hc with hc
    subst hc
    refine ⟨occ, hget, hsame, ?_⟩
    have hpolled : (w.view id).polled = occ.polled := by simp [ReadinessWorker.view, hget]
    rw [← hpolled]
    exact hkept.polled
  · exact ⟨occ', by rw [← stale_get hlive hrun]; exact hget', .refl _, rfl⟩

theorem runTurn_get_ne {io : Io} {id : ConnectionId} {event : TurnEvent}
    (hrun : w.runTurn cfg io id event = .ok w') {slot : Nat} (hne : id.slot ≠ slot) :
    w'.connections.get slot = w.connections.get slot := by
  obtain ⟨t, -, rfl⟩ := runTurn_eq hrun
  exact commit_get_ne hne

/-! ## §3. A step is a path of ticks. -/

/-- Turns that can each be started when their time comes, whatever the ones before them
are answered. -/
def Planned (cfg : Config σ) : List (ConnectionId × TurnEvent) → ReadinessWorker σ → Prop
  | [], _ => True
  | turn :: turns, w => w.Startable turn.1 turn.2
      ∧ ∀ io w', w.runTurn cfg io turn.1 turn.2 = .ok w' → Planned cfg turns w'

/-- A plan, from what each turn leaves for the ones behind it. -/
theorem planned_of (P : List (ConnectionId × TurnEvent) → ReadinessWorker σ → Prop)
    (hP : ∀ turn rest (w w' : ReadinessWorker σ) (io : Io), P (turn :: rest) w →
      w.Startable turn.1 turn.2 ∧ (w.runTurn cfg io turn.1 turn.2 = .ok w' → P rest w')) :
    ∀ {turns : List (ConnectionId × TurnEvent)} {w : ReadinessWorker σ}, P turns w →
      Planned cfg turns w := by
  intro turns
  induction turns with
  | nil => intro w _; trivial
  | cons turn turns ih =>
      intro w h
      refine ⟨(hP turn turns w w Io.quiet h).1, ?_⟩
      intro io w' hstep
      exact ih ((hP turn turns w w' io h).2 hstep)

theorem Planned.ticks {io : Nat → Io} {turns : List (ConnectionId × TurnEvent)}
    (h : Planned cfg turns w) (hrun : runTurns cfg io turns w = .ok w') : Ticks cfg w w' := by
  unfold runTurns at hrun
  refine (foldlM_ok
    (fun (indexed : List ((ConnectionId × TurnEvent) × Nat)) w₁ =>
      Ticks cfg w w₁ ∧ Planned cfg (indexed.map Prod.fst) w₁) ?_ ⟨.refl, ?_⟩ hrun).1
  · rintro ⟨turn, index⟩ rest w₁ w₂ ⟨hpath, hstart, hnext⟩ hstep
    exact ⟨hpath.tail (.turn (io index) turn.1 turn.2 hstart hstep), hnext _ _ hstep⟩
  · rw [List.zipIdx_map_fst]
    exact h

/-- Turns whose start asks for nothing. -/
theorem planned_free {turns : List (ConnectionId × TurnEvent)}
    (h : ∀ turn ∈ turns, ∀ (s : Seat σ) (c : Connection σ), Starts turn.2 s c) :
    Planned cfg turns w := by
  refine planned_of (fun turns _ => ∀ turn ∈ turns, ∀ (s : Seat σ) (c : Connection σ),
    Starts turn.2 s c) ?_ h
  intro turn rest w₁ w₂ io hturns
  exact ⟨fun occ _ _ => hturns turn List.mem_cons_self _ _,
    fun _ turn' hturn' => hturns turn' (List.mem_cons_of_mem _ hturn')⟩

theorem slabTurns_eq (select : Connection σ → Option TurnEvent) (connections : Slab (Occupant σ)) :
    slabTurns select connections = connections.select (fun slot occupant =>
      (select occupant.connection).map
        (fun event => (⟨slot, occupant.connection.generation⟩, event))) := by
  unfold slabTurns Slab.select
  congr
  funext entry
  cases entry.1 <;> rfl

/-- The turns of a pass over the slab are for connections that were selected. -/
theorem mem_slabTurns {select : Connection σ → Option TurnEvent}
    {connections : Slab (Occupant σ)} {turn : ConnectionId × TurnEvent}
    (h : turn ∈ slabTurns select connections) :
    ∃ occ, connections.get turn.1.slot = some occ
      ∧ occ.connection.generation = turn.1.generation
      ∧ select occ.connection = some turn.2 := by
  rw [slabTurns_eq] at h
  obtain ⟨slot, occ, hget, hselect⟩ := Slab.of_mem_select h
  obtain ⟨event, hevent, rfl⟩ := Option.map_eq_some_iff.mp hselect
  exact ⟨occ, hget, rfl, hevent⟩

/-- … one for each slot. -/
theorem slabTurns_pairwise (select : Connection σ → Option TurnEvent)
    (connections : Slab (Occupant σ)) :
    (slabTurns select connections).Pairwise (fun a b => a.1.slot ≠ b.1.slot) := by
  rw [slabTurns_eq]
  refine Slab.select_pairwise ?_
  intro slot occ turn slot' occ' turn' hne hturn hturn'
  obtain ⟨_, -, rfl⟩ := Option.map_eq_some_iff.mp hturn
  obtain ⟨_, -, rfl⟩ := Option.map_eq_some_iff.mp hturn'
  exact hne

/-- **A pass over the slab**: what a turn was selected for still holds when its
time comes, since the turns before it were for other slots. -/
theorem slabTurns_planned {select : Connection σ → Option TurnEvent}
    (hselect : ∀ c event (s : Seat σ), select c = some event → Starts event s c) :
    Planned cfg (slabTurns select w.connections) w := by
  refine planned_of (fun turns w => turns.Pairwise (fun a b => a.1.slot ≠ b.1.slot)
      ∧ ∀ turn ∈ turns, ∃ occ, w.connections.get turn.1.slot = some occ
        ∧ occ.connection.generation = turn.1.generation
        ∧ select occ.connection = some turn.2) ?_
    ⟨slabTurns_pairwise select _, fun turn hturn => mem_slabTurns hturn⟩
  rintro turn rest w₁ w₂ io ⟨hpair, hsel⟩
  obtain ⟨hhead, hpair'⟩ := List.pairwise_cons.mp hpair
  refine ⟨?_, fun hstep => ⟨hpair', ?_⟩⟩
  · intro occ hget _
    obtain ⟨occ', hget', -, hsome⟩ := hsel turn List.mem_cons_self
    rw [hget] at hget'
    injection hget' with hget'
    subst hget'
    exact hselect _ _ _ hsome
  · intro turn' hturn'
    obtain ⟨occ', hget', hrest⟩ := hsel turn' (List.mem_cons_of_mem _ hturn')
    exact ⟨occ', by rw [runTurn_get_ne hstep (hhead turn' hturn')]; exact hget', hrest⟩

theorem slabPass_ticks {io : Nat → Io} {select : Connection σ → Option TurnEvent}
    (hselect : ∀ c event (s : Seat σ), select c = some event → Starts event s c)
    (hrun : slabPass cfg io select w = .ok w') : Ticks cfg w w' :=
  (slabTurns_planned hselect).ticks hrun

theorem mem_ite_singleton {α : Type} {p : Prop} [Decidable p] {x a : α} :
    x ∈ (if p then [a] else []) ↔ p ∧ x = a := by
  split_ifs with h <;> simp [h]

/-- The turns `dispatch_client` makes are within what was polled. -/
theorem clientTurns_planned {id : ConnectionId} {event : ReadyEvent} {occ : Occupant σ}
    (hget : w.connections.get id.slot = some occ) :
    Planned cfg (clientTurns id (event.within occ.polled) w.draining) w := by
  refine planned_of (fun turns w₁ => ∀ turn ∈ turns, turn.1 = id
      ∧ ∀ occ₁, w₁.connections.get id.slot = some occ₁ →
        ∀ (s : Seat σ) (c : Connection σ), s.polled = occ₁.polled → Starts turn.2 s c) ?_ ?_
  · rintro ⟨id', event'⟩ rest w₁ w₂ io hturns
    obtain ⟨heq, hstart⟩ := hturns _ List.mem_cons_self
    dsimp only at heq hstart
    subst heq
    have hstartable : w₁.Startable id' event' := by
      intro occ₁ hget₁ _
      exact hstart occ₁ hget₁ _ _ (by simp [ReadinessWorker.view, hget₁])
    refine ⟨hstartable, ?_⟩
    intro hstep turn hturn
    obtain ⟨heq', hstart'⟩ := hturns turn (List.mem_cons_of_mem _ hturn)
    refine ⟨heq', ?_⟩
    intro occ₂ hget₂ s c hpolled
    obtain ⟨occ₁, hget₁, -, hsame⟩ := runTurn_get_self hstartable hstep hget₂
    exact hstart' occ₁ hget₁ s c (hpolled.trans hsame)
  · intro turn hturn
    have hcases : turn = (id, .clientError) ∨ (∃ half, turn = (id, .clientClosed half))
        ∨ turn = (id, .writeReady false) ∧ occ.polled.writable = true
        ∨ turn = (id, .connectionReady) ∧ occ.polled.readable = true := by
      unfold clientTurns ReadyEvent.within at hturn
      split at hturn
      · exact .inl (List.mem_singleton.mp hturn)
      · rw [List.mem_append, List.mem_append, mem_ite_singleton, mem_ite_singleton,
          mem_ite_singleton] at hturn
        simp only [Bool.and_eq_true] at hturn
        rcases hturn with (⟨hwritable, rfl⟩ | ⟨hreadable, rfl⟩) | ⟨-, rfl⟩
        · exact .inr (.inr (.inl ⟨rfl, hwritable.2⟩))
        · exact .inr (.inr (.inr ⟨rfl, hreadable.1.2⟩))
        · exact .inr (.inl ⟨_, rfl⟩)
    have hpolled : ∀ {occ₁ : Occupant σ} {s : Seat σ}, w.connections.get id.slot = some occ₁ →
        s.polled = occ₁.polled → s.polled = occ.polled := by
      intro occ₁ s hget₁ hs
      rw [hget] at hget₁
      injection hget₁ with hget₁
      rw [hs, hget₁]
    rcases hcases with rfl | ⟨half, rfl⟩ | ⟨rfl, hwritable⟩ | ⟨rfl, hreadable⟩
    · exact ⟨rfl, fun _ _ _ _ _ => trivial⟩
    · exact ⟨rfl, fun _ _ _ _ _ => trivial⟩
    · refine ⟨rfl, fun occ₁ hget₁ s c hs => ?_⟩
      show s.polled.writable = true
      rw [hpolled hget₁ hs]
      exact hwritable
    · refine ⟨rfl, fun occ₁ hget₁ s c hs => ?_⟩
      show s.polled.readable = true
      rw [hpolled hget₁ hs]
      exact hreadable

theorem upstreamTurns_planned {id : ConnectionId} {event : ReadyEvent} {occ : Occupant σ}
    (hget : w.connections.get id.slot = some occ)
    (hproxying : occ.connection.isProxying = true) : Planned cfg (upstreamTurns id event) w := by
  unfold upstreamTurns
  split
  · -- a reported error is the only turn, so the exchange is as it was found
    refine planned_of (fun turns w₁ => turns = [] ∨ turns = [(id, .upstreamError)] ∧ w₁ = w)
      ?_ (.inr ⟨rfl, rfl⟩)
    rintro turn rest w₁ w₂ io (hnil | ⟨hturns, rfl⟩)
    · cases hnil
    · injection hturns with hturn hrest
      subst hturn hrest
      refine ⟨?_, fun _ => .inl rfl⟩
      intro occ₁ hget₁ _
      rw [hget] at hget₁
      injection hget₁ with hget₁
      exact hget₁ ▸ hproxying
  · refine planned_free ?_
    intro turn hturn s c
    rw [List.mem_append, List.mem_append, mem_ite_singleton, mem_ite_singleton,
      mem_ite_singleton] at hturn
    rcases hturn with (⟨-, rfl⟩ | ⟨-, rfl⟩) | ⟨-, rfl⟩ <;> trivial

/-- What a registration does: nothing, or give out an id, or give it out and
insert a new connection under it. -/
theorem registerConnection_cases (now : Instant) (vacantKey : Nat) (registrationFails : Bool)
    (index : Nat) (listener : RegisteredListener) (w : ReadinessWorker σ) {w' : ReadinessWorker σ}
    (h : w' = registerConnection cfg now vacantKey registrationFails index listener w) :
    w' = w
    ∨ ∃ id : ConnectionId, id.slot = w.connections.vacantKey vacantKey
      ∧ id.generation = (bumpGeneration w.generations id.slot).1
      ∧ (w' = { w with
            generations := (bumpGeneration w.generations id.slot).2
            history := w.history ++ [.registered id] }
        ∨ ∃ connection interest, (interest = .read ∨ interest = ⟨false, false⟩)
          ∧ Connection.new cfg.tls.toRustls now index id.generation listener.ssl = some connection
          ∧ w' = { w with
              generations := (bumpGeneration w.generations id.slot).2
              history := w.history ++ [.registered id]
              connections := w.connections.insertAt id.slot
                { connection, interest, polled := ⟨false, false⟩
                  log := [.accepted connection.ssl.isSome] } }) := by
  unfold registerConnection at h
  dsimp only at h
  split at h
  · exact .inl h
  · refine .inr ⟨⟨w.connections.vacantKey vacantKey,
      (bumpGeneration w.generations (w.connections.vacantKey vacantKey)).1⟩, rfl, rfl, ?_⟩
    split at h
    · exact .inl h
    next connection hnew =>
      split at h
      · exact .inr ⟨connection, ⟨false, false⟩, .inr rfl, hnew, h⟩
      · split at h
        · exact .inl h
        · exact .inr ⟨connection, .read, .inl rfl, hnew, h⟩

theorem acceptReady_ticks {index : Nat} {listener : RegisteredListener} :
    ∀ {accepts : List Accepted} {w : ReadinessWorker σ}, w.listeners[index]? = some listener →
      Ticks cfg w (acceptReady cfg index listener accepts w)
  | [], w, _ => .refl
  | .failed :: _, w, _ => .refl
  | .interrupted :: accepts, w, h => by
      unfold acceptReady
      exact acceptReady_ticks h
  | .stream now vacantKey registrationFails :: accepts, w, h => by
      unfold acceptReady
      split
      · exact acceptReady_ticks h
      next hroom =>
        refine .head (.admitted now vacantKey registrationFails h (Nat.lt_of_not_le hroom)) ?_
        refine acceptReady_ticks ?_
        have hlisteners : ∀ w : ReadinessWorker σ,
            (registerConnection cfg now vacantKey registrationFails index listener w).listeners
              = w.listeners := by
          intro w
          rcases registerConnection_cases now vacantKey registrationFails index listener w rfl with
            heq | ⟨id, -, -, heq | ⟨connection, interest, -, -, heq⟩⟩ <;> rw [heq]
        rw [hlisteners]
        exact h

theorem resolved_planned {results : List ResolveResult} :
    Planned cfg (results.map (fun result =>
      (result.connectionId, TurnEvent.resolved result.addresses))) w := by
  refine planned_free ?_
  intro turn hturn s c
  obtain ⟨result, -, rfl⟩ := List.mem_map.mp hturn
  trivial

theorem processDnsResults_ticks {io : Nat → Io} {results : List ResolveResult}
    (hrun : processDnsResults cfg io results w = .ok w') : Ticks cfg w w' :=
  resolved_planned.ticks hrun

theorem dispatch_ticks {io : Nat → Io} {event : ReadyEvent} {accepts : List Accepted}
    {dns : List ResolveResult} (hrun : dispatch cfg io event accepts dns w = .ok w') :
    Ticks cfg w w' := by
  unfold dispatch at hrun
  split at hrun
  · exact processDnsResults_ticks hrun
  · split at hrun
    next listener hlistener =>
      split at hrun
      · injection hrun with hrun
        exact hrun ▸ acceptReady_ticks hlistener
      · injection hrun with hrun
        exact hrun ▸ .refl
    · split at hrun
      · injection hrun with hrun
        exact hrun ▸ .refl
      next id role _ =>
        split at hrun
        · injection hrun with hrun
          exact hrun ▸ .refl
        next occ hget =>
          split at hrun
          · injection hrun with hrun
            exact hrun ▸ .refl
          · split at hrun
            · exact (clientTurns_planned hget).ticks hrun
            · split at hrun
              · injection hrun with hrun
                exact hrun ▸ .refl
              next hproxying => exact (upstreamTurns_planned hget (by simpa using hproxying)).ticks hrun

section Selections

variable {now : Instant} {c : Connection σ} {event : TurnEvent} (s : Seat σ)

theorem resolutionExpired_starts (h : resolutionExpired cfg now c = some event) :
    Starts event s c := by
  unfold resolutionExpired at h
  split at h
  · cases h
  · split_ifs at h
    injection h with h
    subst h
    trivial

theorem proxyExpired_starts (h : proxyExpired cfg now c = some event) : Starts event s c := by
  unfold proxyExpired at h
  split at h
  · cases h
  next proxy hproxy =>
    split_ifs at h
    injection h with h
    subst h
    exact Connection.isProxying_iff.mpr ⟨proxy, Connection.proxy_eq_some.mp hproxy⟩

theorem idleExpired_starts (h : idleExpired cfg now c = some event) : Starts event s c := by
  unfold idleExpired at h
  split_ifs at h with hidle
  injection h with h
  subst h
  rw [Bool.and_eq_true, Bool.not_eq_true'] at hidle
  exact hidle.1

theorem handshakeOverdue_starts (h : handshakeOverdue cfg now c = some event) :
    Starts event s c := by
  unfold handshakeOverdue at h
  split_ifs at h
  injection h with h
  subst h
  trivial

theorem pumpReady_starts (h : pumpReady c = some event) : Starts event s c := by
  unfold pumpReady at h
  split_ifs at h with hready
  injection h with h
  subst h
  rw [Bool.and_eq_true, beq_iff_eq] at hready
  exact hready

theorem shutdownCloses_starts (h : shutdownCloses c = some event) : Starts event s c := by
  unfold shutdownCloses at h
  split_ifs at h with hready
  injection h with h
  subst h
  rw [Bool.and_eq_true, decide_eq_true_eq, Option.isNone_iff_eq_none] at hready
  exact hready

end Selections

theorem loopTop_ticks {now : Instant} {io : Nat → Io} (hrun : loopTop cfg now io w = .ok w') :
    Ticks cfg w w' := by
  have hrest : ∀ {w₁ : ReadinessWorker σ}, Ticks cfg w w₁ →
      (if w₁.draining && w₁.connections.count == 0 then .error .returned
        else if w₁.drainDeadlineExpired cfg now then
          slabPass cfg io (fun _ => some .drainDeadline) { w₁ with finished := true }
        else .ok w₁) = Except.ok w' → Ticks cfg w w' := by
    intro w₁ hpath hrun
    split_ifs at hrun
    · refine hpath.trans (.head (.flags w₁.shutdownRequested w₁.draining true w₁.drainStartedAt)
        (slabPass_ticks ?_ hrun))
      intro c event s hevent
      injection hevent with hevent
      subst hevent
      trivial
    · injection hrun with hrun
      exact hrun ▸ hpath
  unfold loopTop at hrun
  simp only [bind, Except.bind, pure, Except.pure] at hrun
  split at hrun
  · cases hbegin : beginShutdown cfg now io w with
    | error e =>
        rw [hbegin] at hrun
        cases hrun
    | ok w₁ =>
        rw [hbegin] at hrun
        exact hrest (.head (.flags w.shutdownRequested true w.finished (some now))
          (slabPass_ticks (fun c event s h => shutdownCloses_starts s h) hbegin)) hrun
  · exact hrest .refl hrun

theorem runDue_ticks {io : Io} {due : Option ConnectionId} {event : TurnEvent}
    (hstart : ∀ id, due = some id → w.Startable id event)
    (hrun : runDue cfg io due event w = .ok w') : Ticks cfg w w' := by
  unfold runDue at hrun
  split at hrun
  · injection hrun with hrun
    exact hrun ▸ .refl
  next id => exact .single (.turn io id event (hstart id rfl) hrun)

/-- **Every step of the worker is a path of ticks.** -/
theorem step_ticks {event : Event} (hrun : step cfg event w = .ok w') : Ticks cfg w w' := by
  unfold step at hrun
  split at hrun
  · cases hrun
  · split at hrun
    · injection hrun with hrun
      exact hrun ▸ .single (.flags true w.draining w.finished w.drainStartedAt)
    · exact loopTop_ticks hrun
    · exact processDnsResults_ticks hrun
    · exact slabPass_ticks (fun c event s h => resolutionExpired_starts s h) hrun
    · exact slabPass_ticks (fun c event s h => proxyExpired_starts s h) hrun
    next now io =>
      unfold closeIdleConnections at hrun
      cases hidle : slabPass cfg io (idleExpired cfg now) w with
      | error e => simp [bind, Except.bind, hidle] at hrun
      | ok w₁ =>
          simp only [bind, Except.bind, hidle] at hrun
          exact (slabPass_ticks (fun c event s h => idleExpired_starts s h) hidle).trans
            (slabPass_ticks (fun c event s h => handshakeOverdue_starts s h) hrun)
    · exact slabPass_ticks (fun c event s h => pumpReady_starts s h) hrun
    next index io =>
      refine runDue_ticks ?_ hrun
      intro id hdue occ _ _
      show decide (id ∈ w.pendingWrites) = true
      exact decide_eq_true (List.mem_of_getElem? hdue)
    · refine runDue_ticks ?_ hrun
      intro id _ occ _ _
      trivial
    · refine runDue_ticks ?_ hrun
      intro id _ occ _ _
      trivial
    · injection hrun with hrun
      exact hrun ▸ .single .polled
    · exact dispatch_ticks hrun

/-- … and so of atoms. -/
theorem step_atoms {event : Event} (hrun : step cfg event w = .ok w') : Atoms cfg w w' :=
  (step_ticks hrun).atoms

theorem Reachable.atoms (h : Reachable cfg w) :
    ∃ w₀, ReadinessWorker.new cfg = .ok w₀ ∧ Atoms cfg w₀ w := by
  induction h with
  | new hnew => exact ⟨_, hnew, .refl⟩
  | step event _ hstep ih =>
      obtain ⟨w₀, hnew, hpath⟩ := ih
      exact ⟨w₀, hnew, hpath.trans (step_atoms hstep)⟩

theorem replay_atoms : ∀ {events : List Event} {w w' : ReadinessWorker σ},
    replay cfg events w = .ok w' → Atoms cfg w w'
  | [], w, w', hrun => by
      injection hrun with hrun
      exact hrun ▸ .refl
  | event :: events, w, w', hrun => by
      unfold replay at hrun
      split at hrun
      · cases hrun
      next w₁ hstep => exact (step_atoms hstep).trans (replay_atoms hrun)

/-- The history only grows. -/
theorem atom_history (hatom : Atom cfg w w') : ∃ items, w'.history = w.history ++ items := by
  cases hatom with
  | turn io id event hstart hrun =>
      obtain ⟨t, -, rfl⟩ := runTurn_eq hrun
      exact ⟨_, rfl⟩
  | registered now vacantKey registrationFails hlistener hroom =>
      rename_i index listener
      rcases registerConnection_cases now vacantKey registrationFails index listener w rfl with
        heq | ⟨id, -, -, heq | ⟨connection, interest, -, -, heq⟩⟩
      · exact ⟨[], by rw [heq, List.append_nil]⟩
      all_goals exact ⟨_, by rw [heq]⟩
  | polled | other => exact ⟨[], (List.append_nil _).symm⟩

/-- What holds throughout the history is kept if it does not mind registrations, and
turns keep it. -/
theorem atom_throughout {P : List (HistoryItem σ) → HistoryItem σ → Prop}
    (hatom : Atom cfg w w') (h : Throughout P w.history)
    (hregistered : ∀ before id, P before (.registered id))
    (hturn : ∀ {io : Io} {id : ConnectionId} {event : TurnEvent}, w.Startable id event →
      w.runTurn cfg io id event = .ok w' → Throughout P w'.history) :
    Throughout P w'.history := by
  cases hatom with
  | turn io id event hstart hrun => exact hturn hstart hrun
  | registered now vacantKey registrationFails hlistener hroom =>
      rename_i index listener
      rcases registerConnection_cases now vacantKey registrationFails index listener w rfl with
        heq | ⟨id, -, -, heq | ⟨connection, interest, -, -, heq⟩⟩
      · rw [heq]
        exact h
      · rw [heq]
        exact h.concat (hregistered _ _)
      · rw [heq]
        exact h.concat (hregistered _ _)
  | polled | other => exact h

/-- A worker starts without a history. -/
theorem new_history (hnew : ReadinessWorker.new cfg = .ok w) : w.history = [] := by
  unfold ReadinessWorker.new at hnew
  split_ifs at hnew
  injection hnew with hnew
  rw [← hnew]

/-! ## §4. Rules. -/

/-- The seat of a newly registered connection. -/
inductive FreshSeat (cfg : Config σ) : Seat σ → Prop where
  | mk (now : Instant) (index generation : Nat) (ssl : Option (SslSession σ))
      (interest : Interest) (write read : Bool)
      (hinterest : interest = .read ∨ interest = ⟨false, false⟩) :
      FreshSeat cfg { connection := some (Connection.fresh now index generation ssl)
                      interest, polled := ⟨false, false⟩, writeScheduled := false
                      upstreamWriteScheduled := write, upstreamReadScheduled := read
                      log := [.accepted ssl.isSome] }

/-- An invariant of single connections. -/
structure SeatRule (cfg : Config σ) where
  /-- What holds of a seat with a connection. -/
  Inv : Seat σ → Connection σ → Prop
  /-- What holds of the trace of a removed connection. -/
  Gone : List Act → Prop
  /-- What the run has to keep to. -/
  Guard : HistoryItem σ → Prop
  fresh : ∀ {s : Seat σ} {c : Connection σ}, FreshSeat cfg s → s.connection = some c → Inv s c
  poll : ∀ {s : Seat σ} {c : Connection σ}, s.connection = some c → Inv s c →
    Inv { s with polled := s.interest } c
  move : ∀ {env : Env σ} {id : ConnectionId} {io : Io} {event : TurnEvent} {s₀ s s' : Seat σ}
    {c₀ c : Connection σ}, env.toConfig = cfg → env.toIo = io →
    Guard (.turn id event io s₀) → s₀.connection = some c₀ → Starts event s₀ c₀ → Inv s₀ c₀ →
    s.connection = some c → Kept s₀ s → Inv s c → Move env event s₀ s s' →
    (∀ c', s'.connection = some c' → Inv s' c') ∧ (s'.connection = none → Gone s'.log)

/-- A rule that builds on another: its moves may use what that one says. -/
structure SeatRule.Over (R : SeatRule cfg) where
  Inv : Seat σ → Connection σ → Prop
  Gone : List Act → Prop
  Guard : HistoryItem σ → Prop
  fresh : ∀ {s : Seat σ} {c : Connection σ}, FreshSeat cfg s → s.connection = some c → Inv s c
  poll : ∀ {s : Seat σ} {c : Connection σ}, s.connection = some c → R.Inv s c → Inv s c →
    Inv { s with polled := s.interest } c
  move : ∀ {env : Env σ} {id : ConnectionId} {io : Io} {event : TurnEvent} {s₀ s s' : Seat σ}
    {c₀ c : Connection σ}, env.toConfig = cfg → env.toIo = io →
    Guard (.turn id event io s₀) → s₀.connection = some c₀ → Starts event s₀ c₀ →
    R.Inv s₀ c₀ → Inv s₀ c₀ → s.connection = some c → Kept s₀ s → R.Inv s c → Inv s c →
    Move env event s₀ s s' →
    (∀ c', s'.connection = some c' → Inv s' c') ∧ (s'.connection = none → Gone s'.log)

/-- Both rules together. -/
def SeatRule.Over.rule {R : SeatRule cfg} (E : R.Over) : SeatRule cfg where
  Inv s c := R.Inv s c ∧ E.Inv s c
  Gone log := R.Gone log ∧ E.Gone log
  Guard item := R.Guard item ∧ E.Guard item
  fresh hfresh hc := ⟨R.fresh hfresh hc, E.fresh hfresh hc⟩
  poll hc h := ⟨R.poll hc h.1, E.poll hc h.1 h.2⟩
  move := by
    intro env id io event s₀ s s' c₀ c henv hio hguard hfound hstart hinv₀ hc hkept hinv hmove
    obtain ⟨hlive, hgone⟩ :=
      R.move henv hio hguard.1 hfound hstart hinv₀.1 hc hkept hinv.1 hmove
    obtain ⟨hlive', hgone'⟩ :=
      E.move henv hio hguard.2 hfound hstart hinv₀.1 hinv₀.2 hc hkept hinv.1 hinv.2 hmove
    exact ⟨fun c' hc' => ⟨hlive c' hc', hlive' c' hc'⟩,
      fun hnone => ⟨hgone hnone, hgone' hnone⟩⟩

variable (R : SeatRule cfg)

/-- The seat of a live connection. -/
def ReadinessWorker.seat (w : ReadinessWorker σ) (slot : Nat) (occ : Occupant σ) : Seat σ :=
  (w.view ⟨slot, occ.connection.generation⟩).toSeat

theorem seat_log {slot : Nat} {occ : Occupant σ} (hget : w.connections.get slot = some occ) :
    (w.seat slot occ).log = occ.log := by
  simp [ReadinessWorker.seat, ReadinessWorker.view, hget]

structure SeatRule.Holds (w : ReadinessWorker σ) : Prop where
  live : ∀ slot occ, w.connections.get slot = some occ → R.Inv (w.seat slot occ) occ.connection
  gone : ∀ id log, HistoryItem.removed id log ∈ w.history → R.Gone log
  scheduled : ∀ id ∈ w.pendingWrites, w.Live id

/-- The run so far kept to the guard. -/
def SeatRule.Guarded (w : ReadinessWorker σ) : Prop := ∀ item ∈ w.history, R.Guard item

def SeatRule.Safe (w : ReadinessWorker σ) : Prop := R.Guarded w → R.Holds w

variable {R}

theorem SeatRule.Guarded.of_append {items : List (HistoryItem σ)} (h : R.Guarded w')
    (hw : w'.history = w.history ++ items) : R.Guarded w :=
  fun item hitem => h item (by rw [hw]; exact List.mem_append_left _ hitem)

/-- What a rule says of the seat in the middle of a turn. -/
def SeatRule.Mid (R : SeatRule cfg) (s : Seat σ) : Prop :=
  (∀ c, s.connection = some c → R.Inv s c)
    ∧ (s.connection = none → R.Gone s.log ∧ s.writeScheduled = false)

/-- From a removed connection, only the upstream's pending sets can change. -/
theorem Move.of_none {env : Env σ} {event : TurnEvent} {s₀ s s' : Seat σ}
    (h : Move env event s₀ s s') (hs : s.connection = none) :
    s'.connection = none ∧ s'.log = s.log ∧ s'.writeScheduled = s.writeScheduled := by
  cases h with
  | rescheduled => exact ⟨hs, rfl, rfl⟩
  | drained hc | scheduled hc | flushed hc | counted hc | touched hc | spoiled hc | waited hc
  | replied hc | resolving hc | connecting hc | forwarded hc | failed hc | relayed hc | wrote hc
  | handed hc | sentTls hc | chunk hc | awaiting hc | closing hc | emptied hc | idled hc
  | flushing hc | removed hc =>
      rw [hs] at hc
      cases hc

/-- **What removes a connection**: one of the causes, or a registration that failed. -/
theorem Move.removal {env : Env σ} {event : TurnEvent} {s₀ s s' : Seat σ} {c : Connection σ}
    (h : Move env event s₀ s s') (hs : s.connection = some c) (hs' : s'.connection = none) :
    (∃ site, Cause env event s₀ s c site ∧ s' = s.drop env.tls.toRustls site c)
    ∨ ∃ acts c', s' = (s.note acts).drop env.tls.toRustls .reregisterFailed c' := by
  have hsettle : ∀ {c' : Connection σ} {interest : Interest} {acts : List Act} {ok : Bool},
      (s.settle env.tls.toRustls c' interest acts ok).connection = none →
      ∃ acts₁ c₁, s.settle env.tls.toRustls c' interest acts ok
        = (s.note acts₁).drop env.tls.toRustls .reregisterFailed c₁ := by
    intro c' interest acts ok hnone
    cases ok with
    | true => cases hnone
    | false => exact ⟨acts, c', rfl⟩
  cases h with
  | rescheduled | drained | scheduled | flushed | counted =>
      change s.connection = none at hs'
      rw [hs] at hs'
      cases hs'
  | touched | spoiled | waited | resolving | connecting | forwarded | wrote | handed | sentTls =>
      cases hs'
  | replied | failed | relayed | chunk | awaiting | closing | emptied | idled | flushing =>
      exact .inr (hsettle hs')
  | removed hc hcause =>
      rw [hs] at hc
      injection hc with hc
      subst hc
      exact .inl ⟨_, hcause, rfl⟩

/-- A move that removes the connection also takes it out of the pending set. -/
theorem Move.unscheduled {env : Env σ} {event : TurnEvent} {s₀ s s' : Seat σ} {c : Connection σ}
    (h : Move env event s₀ s s') (hs : s.connection = some c) (hs' : s'.connection = none) :
    s'.writeScheduled = false := by
  rcases h.removal hs hs' with ⟨_, -, rfl⟩ | ⟨_, _, rfl⟩
  · rfl
  · rfl

/-- The path of a turn keeps the rule. -/
theorem SeatRule.Mid.path {env : Env σ} {id : ConnectionId} {event : TurnEvent} {s₀ s : Seat σ}
    {c₀ : Connection σ} (henv : env.toConfig = cfg)
    (hguard : R.Guard (.turn id event env.toIo s₀)) (hfound : s₀.connection = some c₀)
    (hstart : Starts event s₀ c₀) (hinv : R.Inv s₀ c₀)
    (hpath : ReflTransGen (Move env event s₀) s₀ s) : R.Mid s := by
  induction hpath with
  | refl =>
      refine ⟨?_, ?_⟩
      · intro c hc
        rw [hfound] at hc
        injection hc with hc
        exact hc ▸ hinv
      · intro hnone
        rw [hfound] at hnone
        cases hnone
  | tail hbefore hmove ih =>
      rename_i s₁ s₂
      cases hc : s₁.connection with
      | none =>
          obtain ⟨hnone, hlog, hsched⟩ := hmove.of_none hc
          obtain ⟨hgone, hfalse⟩ := ih.2 hc
          refine ⟨?_, fun _ => ⟨by rw [hlog]; exact hgone, hsched.trans hfalse⟩⟩
          intro c hc'
          rw [hnone] at hc'
          cases hc'
      | some c =>
          obtain ⟨hlive, hgone⟩ := R.move henv rfl hguard hfound hstart hinv hc
            (path_kept hbefore) (ih.1 c hc) hmove
          exact ⟨hlive, fun hnone => ⟨hgone hnone, hmove.unscheduled hc hnone⟩⟩

/-! ## §5. The atoms keep a rule. -/

theorem mem_setMember {ids : List ConnectionId} {id id' : ConnectionId} {present : Bool} :
    id' ∈ setMember ids id present ↔ id' ≠ id ∧ id' ∈ ids ∨ id' = id ∧ present = true := by
  unfold setMember
  by_cases hid : id' = id
  · subst hid
    cases present <;> simp
    split_ifs with hmem <;> simp [hmem]
  · cases present with
    | true =>
        simp only [if_true, hid]
        split_ifs <;> simp [hid]
    | false => simp [hid]

/-- The seat of any other id is as it was. -/
theorem commit_seat_ne {id : ConnectionId} {event : TurnEvent} {io : Io} {t : Turn σ} {slot : Nat}
    {occ : Occupant σ} (hid : (⟨slot, occ.connection.generation⟩ : ConnectionId) ≠ id)
    (hget : (w.commit id event io t).connections.get slot = w.connections.get slot) :
    (w.commit id event io t).seat slot occ = w.seat slot occ := by
  unfold ReadinessWorker.seat ReadinessWorker.view
  simp only [hget]
  simp only [ReadinessWorker.commit, mem_setMember, ne_eq, hid, not_false_eq_true, true_and,
    false_and, or_false]

theorem commit_seat_self {id : ConnectionId} {event : TurnEvent} {io : Io} {t : Turn σ}
    {occ occ' : Occupant σ} (hget : w.connections.get id.slot = some occ)
    (hoccupant : t.occupant = some occ') (hgen : occ'.connection.generation = id.generation) :
    (w.commit id event io t).seat id.slot occ' = t.toSeat := by
  have hid : (⟨id.slot, occ'.connection.generation⟩ : ConnectionId) = id := by rw [hgen]
  have hget' : (w.commit id event io t).connections.get id.slot = some occ' := by
    rw [commit_get_self hget, hoccupant]
  unfold Turn.occupant at hoccupant
  obtain ⟨c', hc', rfl⟩ := Option.map_eq_some_iff.mp hoccupant
  unfold ReadinessWorker.seat ReadinessWorker.view
  rw [hid]
  simp only [hget', Option.map_some, Option.getD_some]
  simp only [ReadinessWorker.commit, mem_setMember, ne_eq, not_true_eq_false, false_and, true_and,
    false_or, Bool.decide_eq_true, ← hc']

/-- The connections of the other slots are still there. -/
theorem live_commit_ne {id id' : ConnectionId} {event : TurnEvent} {io : Io} {t : Turn σ}
    (hne : id'.slot ≠ id.slot) (h : w.Live id') : (w.commit id event io t).Live id' := by
  obtain ⟨occ, hget, hgen⟩ := h
  exact ⟨occ, by rw [← hget]; exact commit_get_ne (Ne.symm hne), hgen⟩

/-- A live id of a slot is the only one. -/
theorem Live.unique {id id' : ConnectionId} (h : w.Live id) (h' : w.Live id')
    (hslot : id'.slot = id.slot) : id' = id := by
  obtain ⟨occ, hget, hgen⟩ := h
  obtain ⟨occ', hget', hgen'⟩ := h'
  rw [hslot, hget] at hget'
  injection hget' with hget'
  subst hget'
  cases id
  cases id'
  simp_all

/-- The connection a turn leaves behind is the one it found. -/
theorem occupant_of_kept {id : ConnectionId} {t : Turn σ} {occ occ' : Occupant σ}
    (hcur : (w.view id).Current occ.connection) (hkept : Kept (w.view id).toSeat t.toSeat)
    (hoccupant : t.occupant = some occ') :
    t.connection = some occ'.connection ∧ occ'.connection.generation = id.generation := by
  unfold Turn.occupant at hoccupant
  obtain ⟨c', hc', rfl⟩ := Option.map_eq_some_iff.mp hoccupant
  obtain ⟨c, hc, hsame⟩ := hkept.generation c' hc'
  rw [hcur.connection] at hc
  injection hc with hc
  subst hc
  exact ⟨hc', hsame.trans hcur.generation⟩

/-- A turn on a live connection keeps the rule. -/
theorem SeatRule.Holds.turn {io : Io} {id : ConnectionId} {event : TurnEvent} {t : Turn σ}
    {occ : Occupant σ} (h : R.Holds w) (hget : w.connections.get id.slot = some occ)
    (hgen : occ.connection.generation = id.generation)
    (hkept : Kept (w.view id).toSeat t.toSeat) (hmid : R.Mid t.toSeat) :
    R.Holds (w.commit id event io t) := by
  have hcur := view_current hget hgen
  refine ⟨?_, ?_, ?_⟩
  · intro slot occ' hget'
    by_cases hslot : slot = id.slot
    · subst hslot
      rw [commit_get_self hget] at hget'
      obtain ⟨hc', hgen'⟩ := occupant_of_kept hcur hkept hget'
      rw [commit_seat_self hget hget' hgen']
      exact hmid.1 _ hc'
    · have hsame : (w.commit id event io t).connections.get slot = w.connections.get slot :=
        commit_get_ne (Ne.symm hslot)
      rw [commit_seat_ne (fun heq => hslot (by rw [← heq])) hsame]
      exact h.live slot occ' (hsame ▸ hget')
  · intro id' log hmem
    rcases List.mem_append.mp hmem with hold | hnew
    · exact h.gone id' log hold
    · unfold ReadinessWorker.turnItems at hnew
      rw [hget] at hnew
      dsimp only at hnew
      split_ifs at hnew with hsome
      · simp at hnew
      · simp only [List.mem_cons, reduceCtorEq, HistoryItem.removed.injEq, List.not_mem_nil,
          or_false, false_or] at hnew
        rw [hnew.2]
        exact (hmid.2 (by simpa using hsome)).1
  · intro id' hmem
    rcases mem_setMember.mp hmem with ⟨hne, hold⟩ | ⟨rfl, hscheduled⟩
    · have hlive := h.scheduled id' hold
      exact live_commit_ne (fun hslot => hne (Live.unique ⟨occ, hget, hgen⟩ hlive hslot)) hlive
    · cases hoccupant : t.occupant with
      | none =>
          unfold Turn.occupant at hoccupant
          rw [(hmid.2 (Option.map_eq_none_iff.mp hoccupant)).2] at hscheduled
          cases hscheduled
      | some occ' =>
          exact ⟨occ', by rw [commit_get_self hget, hoccupant],
            (occupant_of_kept hcur hkept hoccupant).2⟩

/-- A turn for a connection that is gone keeps it too. -/
theorem SeatRule.Holds.stale {io : Io} {id : ConnectionId} {event : TurnEvent} (h : R.Holds w)
    (hlive : ¬ w.Live id) (hrun : w.runTurn cfg io id event = .ok w') : R.Holds w' := by
  have hsame := stale_get hlive hrun
  obtain ⟨t, ht, rfl⟩ := runTurn_eq hrun
  obtain ⟨write, upstreamWrite, upstreamRead, hstale⟩ :=
    handleTurn_stale (w.env cfg io) event (view_stale hlive)
  rw [hstale] at ht
  injection ht with ht
  refine ⟨?_, ?_, ?_⟩
  · intro slot occ hget'
    rw [hsame] at hget'
    have hid : (⟨slot, occ.connection.generation⟩ : ConnectionId) ≠ id := by
      intro heq
      exact hlive ⟨occ, by rw [← heq]; exact hget', by rw [← heq]⟩
    rw [commit_seat_ne hid (hsame slot)]
    exact h.live slot occ hget'
  · intro id' log hmem
    rcases List.mem_append.mp hmem with hold | hnew
    · exact h.gone id' log hold
    · -- nothing was removed
      exfalso
      unfold ReadinessWorker.turnItems at hnew
      cases hocc : w.connections.get id.slot with
      | none => simp [hocc] at hnew
      | some occ => simp [← ht, hocc, ReadinessWorker.view] at hnew
  · intro id' hmem
    have hold : id' ∈ w.pendingWrites := by
      rcases mem_setMember.mp hmem with ⟨-, hold⟩ | ⟨rfl, hscheduled⟩
      · exact hold
      · rw [← ht] at hscheduled
        simp only [ReadinessWorker.view, Bool.and_eq_true, decide_eq_true_eq] at hscheduled
        exact hscheduled.1
    obtain ⟨occ, hget, hgen⟩ := h.scheduled id' hold
    exact ⟨occ, by rw [hsame]; exact hget, hgen⟩

/-- The call of a turn is in the history after it. -/
theorem SeatRule.Guarded.call {io : Io} {id : ConnectionId} {event : TurnEvent} {t : Turn σ}
    {occ : Occupant σ} (h : R.Guarded (w.commit id event io t))
    (hget : w.connections.get id.slot = some occ) :
    R.Guard (.turn id event io (w.view id).toSeat) := by
  apply h
  refine List.mem_append_right _ ?_
  unfold ReadinessWorker.turnItems
  rw [hget]
  dsimp only
  split_ifs <;> exact List.mem_cons_self

/-- What a rule says of the seat a turn finds. -/
theorem SeatRule.Holds.view {id : ConnectionId} {occ : Occupant σ} (h : R.Holds w)
    (hget : w.connections.get id.slot = some occ)
    (hgen : occ.connection.generation = id.generation) :
    R.Inv (w.view id).toSeat occ.connection := by
  have hid : (⟨id.slot, occ.connection.generation⟩ : ConnectionId) = id := by rw [hgen]
  have hinv := h.live id.slot occ hget
  unfold ReadinessWorker.seat at hinv
  rwa [hid] at hinv

/-- **A turn keeps the rule.** -/
theorem SeatRule.Safe.turn {io : Io} {id : ConnectionId} {event : TurnEvent} (h : R.Safe w)
    (hstart : w.Startable id event) (hrun : w.runTurn cfg io id event = .ok w') : R.Safe w' := by
  intro hguard
  obtain ⟨t, ht, hw'⟩ := runTurn_eq hrun
  have hholds : R.Holds w := h (hguard.of_append (by rw [hw']; rfl))
  by_cases hlive : w.Live id
  · obtain ⟨occ, hget, hgen⟩ := hlive
    have hcur := view_current hget hgen
    have hsteps := handleTurn_steps hcur (hstart occ hget hgen) ht
    rw [hw'] at hguard ⊢
    have hmid : R.Mid t.toSeat := SeatRule.Mid.path
      (show (w.env cfg io).toConfig = cfg from rfl) (hguard.call hget) hcur.connection
      (hstart occ hget hgen) (hholds.view hget hgen) hsteps.path
    exact hholds.turn hget hgen (path_kept hsteps.path) hmid
  · exact hholds.stale hlive hrun

/-- What concerns neither slab, pending sets nor removals keeps the rule. -/
theorem SeatRule.Holds.congr (h : R.Holds w)
    (hconnections : w'.connections = w.connections) (hwrites : w'.pendingWrites = w.pendingWrites)
    (huwrites : w'.pendingUpstreamWrites = w.pendingUpstreamWrites)
    (hureads : w'.pendingUpstreamReads = w.pendingUpstreamReads)
    (hremoved : ∀ id log, HistoryItem.removed id log ∈ w'.history →
      HistoryItem.removed id log ∈ w.history) : R.Holds w' := by
  refine ⟨?_, fun id log hm => h.gone id log (hremoved id log hm), ?_⟩
  · intro slot occ hget
    have hseat : w'.seat slot occ = w.seat slot occ := by
      unfold ReadinessWorker.seat ReadinessWorker.view
      simp only [hconnections, hwrites, huwrites, hureads]
    rw [hseat]
    exact h.live slot occ (hconnections ▸ hget)
  · intro id hmem
    rw [hwrites] at hmem
    obtain ⟨occ, hget, hgen⟩ := h.scheduled id hmem
    exact ⟨occ, by rw [hconnections]; exact hget, hgen⟩

theorem connection_new_fresh {tls : Rustls σ} {now : Instant} {index generation : Nat}
    {ssl : Option LoadedSslConfig} {connection : Connection σ}
    (h : Connection.new tls now index generation ssl = some connection) :
    ∃ session, connection = Connection.fresh now index generation session := by
  unfold Connection.new at h
  split at h
  · injection h with h
    exact ⟨none, h.symm⟩
  · split at h
    · cases h
    · injection h with h
      exact ⟨_, h.symm⟩

/-- A connection inserted under a vacant key keeps the rule. -/
theorem SeatRule.Holds.inserted (h : R.Holds w) {id : ConnectionId} {now : Instant} {index : Nat}
    {session : Option (SslSession σ)} {interest : Interest}
    (hinterest : interest = .read ∨ interest = ⟨false, false⟩)
    (hvacant : w.connections.get id.slot = none) (hle : id.slot ≤ w.connections.length)
    (hconnections : w'.connections = w.connections.insertAt id.slot
      { connection := Connection.fresh now index id.generation session, interest
        polled := ⟨false, false⟩, log := [.accepted session.isSome] })
    (hwrites : w'.pendingWrites = w.pendingWrites)
    (huwrites : w'.pendingUpstreamWrites = w.pendingUpstreamWrites)
    (hureads : w'.pendingUpstreamReads = w.pendingUpstreamReads)
    (hremoved : ∀ id log, HistoryItem.removed id log ∈ w'.history →
      HistoryItem.removed id log ∈ w.history) : R.Holds w' := by
  have hself : w'.connections.get id.slot
      = some { connection := Connection.fresh now index id.generation session, interest
               polled := ⟨false, false⟩, log := [.accepted session.isSome] } := by
    rw [hconnections]
    exact Slab.get_insertAt_self hle _
  have hother : ∀ slot, slot ≠ id.slot → w'.connections.get slot = w.connections.get slot := by
    intro slot hne
    rw [hconnections]
    exact Slab.get_insertAt_ne hle (Ne.symm hne) _
  refine ⟨?_, fun id' log hm => h.gone id' log (hremoved id' log hm), ?_⟩
  · intro slot occ hget
    by_cases hslot : slot = id.slot
    · subst hslot
      rw [hself] at hget
      injection hget with hget
      subst hget
      -- the new id is in no pending set of writes: those belong to live connections
      have hnew : id ∉ w.pendingWrites := by
        intro hmem
        obtain ⟨occ, hocc, -⟩ := h.scheduled id hmem
        rw [hvacant] at hocc
        cases hocc
      refine R.fresh ?_ (by simp [ReadinessWorker.seat, ReadinessWorker.view, hself])
      have hseat : w'.seat id.slot
            { connection := Connection.fresh now index id.generation session, interest
              polled := ⟨false, false⟩, log := [.accepted session.isSome] }
          = { connection := some (Connection.fresh now index id.generation session)
              interest, polled := ⟨false, false⟩, writeScheduled := false
              upstreamWriteScheduled := decide (id ∈ w.pendingUpstreamWrites)
              upstreamReadScheduled := decide (id ∈ w.pendingUpstreamReads)
              log := [.accepted session.isSome] } := by
        have hid : (⟨id.slot, (Connection.fresh now index id.generation session).generation⟩ :
          ConnectionId) = id := rfl
        unfold ReadinessWorker.seat ReadinessWorker.view
        simp only [hid, hself, hwrites, huwrites, hureads, Option.map_some, Option.getD_some]
        simp [hnew]
      rw [hseat]
      exact .mk now index id.generation session interest _ _ hinterest
    · have hseat : w'.seat slot occ = w.seat slot occ := by
        unfold ReadinessWorker.seat ReadinessWorker.view
        simp only [hother slot hslot, hwrites, huwrites, hureads]
      rw [hseat]
      exact h.live slot occ (hother slot hslot ▸ hget)
  · intro id' hmem
    rw [hwrites] at hmem
    obtain ⟨occ, hocc, hgen⟩ := h.scheduled id' hmem
    have hne : id'.slot ≠ id.slot := by
      intro heq
      rw [heq, hvacant] at hocc
      cases hocc
    exact ⟨occ, by rw [hother _ hne]; exact hocc, hgen⟩

theorem SeatRule.Safe.registered {now : Instant} {vacantKey : Nat} {registrationFails : Bool}
    {index : Nat} {listener : RegisteredListener} (h : R.Safe w) :
    R.Safe (registerConnection cfg now vacantKey registrationFails index listener w) := by
  have hremoved : ∀ {id : ConnectionId} (id' : ConnectionId) (log : List Act),
      HistoryItem.removed id' log ∈ w.history ++ [.registered id] →
      HistoryItem.removed id' log ∈ w.history := by
    intro id id' log hm
    rcases List.mem_append.mp hm with hold | hnew
    · exact hold
    · simp at hnew
  rcases registerConnection_cases now vacantKey registrationFails index listener w rfl with
    heq | ⟨id, hslot, -, heq | ⟨connection, interest, hinterest, hnew, heq⟩⟩
  · rw [heq]
    exact h
  · rw [heq]
    intro hguard
    exact (h (hguard.of_append rfl)).congr rfl rfl rfl rfl hremoved
  · obtain ⟨session, rfl⟩ := connection_new_fresh hnew
    rw [heq]
    intro hguard
    refine (h (hguard.of_append rfl)).inserted hinterest ?_ ?_ rfl rfl rfl rfl hremoved
    · rw [hslot]
      exact Slab.get_vacantKey _ _
    · rw [hslot]
      exact Slab.vacantKey_le _ _

theorem poll_get (slot : Nat) : Slab.get (w.connections.map (Option.map Occupant.poll)) slot
    = (w.connections.get slot).map Occupant.poll := by
  unfold Slab.get
  rw [List.getElem?_map]
  cases w.connections[slot]? <;> rfl

theorem SeatRule.Safe.polled (h : R.Safe w) :
    R.Safe { w with connections := w.connections.map (Option.map Occupant.poll) } := by
  intro hguard
  have hholds : R.Holds w := h hguard
  have hget := poll_get (w := w)
  refine ⟨?_, hholds.gone, ?_⟩
  · intro slot occ' hget'
    rw [hget] at hget'
    obtain ⟨occ, hocc, rfl⟩ := Option.map_eq_some_iff.mp hget'
    have hseat : ({ w with connections := w.connections.map (Option.map Occupant.poll) } :
        ReadinessWorker σ).seat slot occ.poll
          = { w.seat slot occ with polled := (w.seat slot occ).interest } := by
      unfold ReadinessWorker.seat ReadinessWorker.view
      simp only [hget, hocc, Option.map_some, Option.getD_some]
      rfl
    rw [hseat]
    refine R.poll ?_ (hholds.live slot occ hocc)
    simp [ReadinessWorker.seat, ReadinessWorker.view, hocc, Occupant.poll]
  · intro id hmem
    obtain ⟨occ, hocc, hgen⟩ := hholds.scheduled id hmem
    exact ⟨occ.poll, by rw [hget, hocc]; rfl, hgen⟩

theorem SeatRule.Safe.atom (h : R.Safe w) (hatom : Atom cfg w w') : R.Safe w' := by
  cases hatom with
  | turn io id event hstart hrun => exact h.turn hstart hrun
  | registered => exact h.registered
  | polled => exact h.polled
  | other => exact fun hguard => (h hguard).congr rfl rfl rfl rfl (fun _ _ hm => hm)

theorem SeatRule.Safe.atoms (h : R.Safe w) (hpath : Atoms cfg w w') : R.Safe w' := by
  induction hpath with
  | refl => exact h
  | tail _ hatom ih => exact ih.atom hatom

theorem SeatRule.Guarded.of_atom (h : R.Guarded w') (hatom : Atom cfg w w') : R.Guarded w := by
  obtain ⟨items, hitems⟩ := atom_history hatom
  exact h.of_append hitems

variable (R)

/-- **A rule that every move keeps holds in every state of every guarded run.** -/
theorem SeatRule.holds (h : Reachable cfg w) : R.Safe w := by
  obtain ⟨w₀, hnew, hpath⟩ := h.atoms
  refine SeatRule.Safe.atoms ?_ hpath
  unfold ReadinessWorker.new at hnew
  split_ifs at hnew
  injection hnew with hnew
  subst hnew
  intro _
  refine ⟨?_, ?_, ?_⟩
  · intro slot occ hocc
    simp [Slab.get] at hocc
  · intro id log hm
    cases hm
  · intro id hm
    cases hm

end Thwip.Readiness
