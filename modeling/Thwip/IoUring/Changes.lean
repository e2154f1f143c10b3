/-
  Thwip.IoUring.Changes — every step is a path of changes.

  A completion takes its submission out of the list and is handled.  What the
  handling does is a path of changes: turns of connections that are in their
  slots, submissions, an accepted connection, and flags.  `Run` is a run whose
  events all meet a condition on the state they are handled in.
-/
import Mathlib.Logic.Relation
import Thwip.IoUring.Occupation

namespace Thwip.IoUring

open Thwip.Lib
open Relation (ReflTransGen)

variable {σ : Type} {cfg : Config σ} {w w' : IoUringWorker σ}

/-! ## §1. Changes. -/

/-- The static pump calls on a connection whose last chunk has been sent. -/
def IoUringWorker.pumpsWaiting (w : IoUringWorker σ) (id : ConnectionId) (event : TurnEvent) :
    Prop :=
  event = .pump → ∀ occ, w.connections.get id.slot = some occ → occ.connection.writeBuffer = []

/-- Everything a handler of `run` does, other than the turn of a completed
operation. -/
inductive Change (cfg : Config σ) : IoUringWorker σ → IoUringWorker σ → Prop where
  | turn {w w' : IoUringWorker σ} (world : World) (id : ConnectionId) (event : TurnEvent)
      (hevent : event.isCompletion = false) (hlive : w.Live id ∨ event.mayBeStale = true)
      (hrun : w.runTurn cfg world id event = .ok w') (hpump : w.pumpsWaiting id event) :
      Change cfg w w'
  | pushed {w : IoUringWorker σ} (entry : Entry) (hentry : entry.isOperation = false) :
      Change cfg w { w with inFlight := w.inFlight ++ [entry] }
  /-- A socket is accepted, and cannot be kept. -/
  | dropped {w : IoUringWorker σ} (generations : List UInt16) :
      Change cfg w
        { w with generations, metrics := { w.metrics with accepted := w.metrics.accepted + 1 } }
  | inserted {w : IoUringWorker σ} (now : Instant) (socket : Socket) (listenerIndex : Nat)
      (ssl : Option LoadedSslConfig) (id : ConnectionId) (connection : UringConnection σ)
      (generations : List UInt16) (hvacant : w.connections.get id.slot = none)
      (hle : id.slot ≤ w.connections.length)
      (hnew : UringConnection.new cfg.tls now socket id.generation listenerIndex ssl
        = some connection) :
      Change cfg w
        { w with
          generations, metrics := { w.metrics with accepted := w.metrics.accepted + 1 }
          connections := w.connections.insertAt id.slot
            { connection, log := [.accepted connection.ssl.isSome] }
          history := w.history ++ [.inserted id (opsOf id w.inFlight)] }
  | failed {w : IoUringWorker σ} :
      Change cfg w { w with metrics := { w.metrics with errors := w.metrics.errors + 1 } }
  | flags {w : IoUringWorker σ} (listeners : List UringListener)
      (shutdownRequested shuttingDown : Bool) (shutdownStarted : Option Instant)
      (cancellationStarted : Bool) (pendingCancellations : Nat) :
      Change cfg w
        { w with
          listeners, shutdownRequested, shuttingDown, shutdownStarted, cancellationStarted
          pendingCancellations }

abbrev Changes (cfg : Config σ) := ReflTransGen (Change cfg)

theorem changes_listeners (w : IoUringWorker σ) (listeners : List UringListener) :
    Changes cfg w { w with listeners } :=
  .single (.flags listeners w.shutdownRequested w.shuttingDown w.shutdownStarted
    w.cancellationStarted w.pendingCancellations)

/-! ## §2. The parts of a step. -/

theorem pushEntry_changes {world : World} {entry : Entry} (hentry : entry.isOperation = false)
    (hrun : w.pushEntry world entry = .ok w') : Changes cfg w w' := by
  unfold IoUringWorker.pushEntry at hrun
  split_ifs at hrun
  injection hrun with hrun
  exact hrun ▸ .single (.pushed entry hentry)

/-- The turns of a pass over the slab find their connections in their slots. -/
theorem slabTurns_changes {world : World} {select : UringConnection σ → Option TurnEvent}
    (hselect : ∀ c event, select c = some event → event.isCompletion = false)
    (hpump : ∀ c, select c = some .pump → c.writeBuffer = [])
    (hrun : runTurns cfg world (slabTurns select w.connections) w = .ok w') :
    Changes cfg w w' := by
  unfold runTurns at hrun
  -- the turns before a turn are for other slots, so it finds what it was selected for
  refine (foldlM_ok
    (fun (turns : List (ConnectionId × TurnEvent)) w₁ => Changes cfg w w₁
      ∧ turns.Pairwise (fun a b => a.1.slot ≠ b.1.slot)
      ∧ ∀ turn ∈ turns, ∃ occ, w₁.connections.get turn.1.slot = some occ
        ∧ occ.connection.generation = turn.1.generation ∧ select occ.connection = some turn.2)
    ?_ ⟨.refl, slabTurns_pairwise select _, fun turn hturn => mem_slabTurns hturn⟩ hrun).1
  rintro turn turns w₁ w₂ ⟨hpath, hpair, hturns⟩ hstep
  obtain ⟨hhead, hpair'⟩ := List.pairwise_cons.mp hpair
  obtain ⟨occ, hget, hgen, hsome⟩ := hturns turn List.mem_cons_self
  have hwaiting : w₁.pumpsWaiting turn.1 turn.2 := by
    intro hevent occ' hget'
    obtain rfl : occ = occ' := Option.some.inj (hget.symm.trans hget')
    exact hpump occ.connection (hevent ▸ hsome)
  refine ⟨hpath.tail (.turn world turn.1 turn.2 (hselect _ _ hsome) (.inl ⟨occ, hget, hgen⟩) hstep
    hwaiting), hpair', ?_⟩
  intro turn' hturn'
  obtain ⟨occ', hget', hrest⟩ := hturns turn' (List.mem_cons_of_mem _ hturn')
  exact ⟨occ', by rw [runTurn_get_ne hstep (hhead turn' hturn')]; exact hget', hrest⟩

theorem resolvedTurns_changes {world : World} {results : List ResolveResult}
    (hrun : runTurns cfg world (results.map fun result =>
      (result.connectionId, TurnEvent.resolved result.addresses)) w = .ok w') :
    Changes cfg w w' := by
  unfold runTurns at hrun
  rw [List.foldlM_map] at hrun
  exact foldlM_ok (fun _ w₁ => Changes cfg w w₁)
    (fun result _ w₁ w₂ hpath hstep => hpath.tail
      (.turn world result.connectionId (.resolved result.addresses) rfl (.inr rfl) hstep
        (fun hevent => by cases hevent)))
    .refl hrun

theorem processDnsResults_changes {world : World} {results : List ResolveResult}
    (hrun : processDnsResults cfg world results w = .ok w') : Changes cfg w w' := by
  unfold processDnsResults at hrun
  cases hturns : runTurns cfg world (results.map fun result =>
      (result.connectionId, TurnEvent.resolved result.addresses)) w with
  | error e => simp [bind, Except.bind, hturns] at hrun
  | ok w₁ =>
      simp only [bind, Except.bind, hturns] at hrun
      split_ifs at hrun
      · exact (resolvedTurns_changes hturns).trans (pushEntry_changes rfl hrun)
      · injection hrun with hrun
        exact hrun ▸ resolvedTurns_changes hturns

theorem checkProxyTimeouts_changes {world : World}
    (hrun : checkProxyTimeouts cfg world w = .ok w') : Changes cfg w w' := by
  unfold checkProxyTimeouts at hrun
  cases h₁ : runTurns cfg world (slabTurns (proxyExpired cfg world.now) w.connections) w with
  | error e => simp [bind, Except.bind, h₁] at hrun
  | ok w₁ =>
      cases h₂ : runTurns cfg world
          (slabTurns (handshakeOverdue cfg world.now) w₁.connections) w₁ with
      | error e => simp [bind, Except.bind, h₁, h₂] at hrun
      | ok w₂ =>
          cases h₃ : w₂.pushEntry world .timerRead with
          | error e => simp [bind, Except.bind, h₁, h₂, h₃] at hrun
          | ok w₃ =>
              simp only [bind, Except.bind, h₁, h₂, h₃] at hrun
              have hexpired : Changes cfg w w₁ := by
                refine slabTurns_changes ?_ ?_ h₁
                · intro c event hsome
                  obtain ⟨-, proxy, -, rfl⟩ := proxyExpired_some hsome
                  rfl
                · intro c hsome
                  obtain ⟨-, proxy, -, hevent⟩ := proxyExpired_some hsome
                  cases hevent
              have hoverdue : Changes cfg w₁ w₂ := by
                refine slabTurns_changes ?_ ?_ h₂
                · intro c event hsome
                  rw [(handshakeOverdue_some hsome).1]
                  rfl
                · intro c hsome
                  cases (handshakeOverdue_some hsome).1
              have hpumped : Changes cfg w₃ w' := by
                refine slabTurns_changes ?_ ?_ hrun
                · intro c event hsome
                  rw [(pumpReady_some hsome).1]
                  rfl
                · intro c hsome
                  exact (pumpReady_some hsome).2.2.2
              exact ((hexpired.trans hoverdue).trans (pushEntry_changes rfl h₃)).trans hpumped

theorem submitAccept_changes {world : World} {idx : Nat}
    (hrun : submitAccept world idx w = .ok w') : Changes cfg w w' := by
  unfold submitAccept at hrun
  split at hrun
  · cases hrun
  next listener _ =>
    split_ifs at hrun
    · injection hrun with hrun
      exact hrun ▸ .refl
    · cases hpush : w.pushEntry world (.accept idx listener.generation listener.multishot) with
      | error e => simp [bind, Except.bind, hpush] at hrun
      | ok w₁ =>
          simp only [bind, Except.bind, hpush] at hrun
          injection hrun with hrun
          rw [← hrun]
          exact (pushEntry_changes rfl hpush).trans (changes_listeners w₁ _)

theorem retainAccepted_changes {world : World} {socket : Socket} {idx : Nat}
    {listener : UringListener}
    (hrun : retainAccepted cfg world socket idx listener w = .ok w') : Changes cfg w w' := by
  unfold retainAccepted at hrun
  dsimp only at hrun
  generalize hw₀ : { w with metrics := { w.metrics with accepted := w.metrics.accepted + 1 } } = w₀
    at hrun
  have hconnections₀ : w₀.connections = w.connections := by rw [← hw₀]
  cases hinsert : insertConnection cfg world socket idx listener w₀ with
  | mk id? w₁ =>
      rw [hinsert] at hrun
      rcases insertConnection_cases hinsert with ⟨rfl, generations, rfl, -⟩ |
        ⟨id, generations, connection, rfl, hslot, hnew, hw₁, -⟩
      · injection hrun with hrun
        subst hrun hw₀
        exact .single (.dropped generations)
      · dsimp only at hrun
        have hvacant : w.connections.get id.slot = none := by
          rw [hslot, hconnections₀]
          exact Slab.get_vacantKey _ _
        have hle : id.slot ≤ w.connections.length := by
          rw [hslot, hconnections₀]
          exact Slab.vacantKey_le _ _
        have hgen : connection.generation = id.generation := new_generation hnew
        have hinserted : Change cfg w w₁ := by
          rw [hw₁, ← hw₀]
          exact .inserted world.now socket idx listener.ssl id connection generations hvacant hle
            hnew
        have hlive : w₁.Live id := by
          refine ⟨⟨connection, [.accepted connection.ssl.isSome]⟩, ?_, hgen⟩
          rw [hw₁, ← hw₀]
          exact Slab.get_insertAt_self hle _
        exact .tail (.single hinserted) (.turn world id .accepted rfl (.inl hlive) hrun nofun)

theorem handleAcceptCompletion_changes {world : World} {idx : Nat} {generation : UInt16}
    {result : Int} {more : Bool}
    (hrun : handleAcceptCompletion cfg world idx generation result more w = .ok w') :
    Changes cfg w w' := by
  unfold handleAcceptCompletion at hrun
  split at hrun
  · injection hrun with hrun
    exact hrun ▸ .refl
  next listener _ =>
    split_ifs at hrun
    · injection hrun with hrun
      exact hrun ▸ .refl
    · generalize listener.afterAccept result more = listener' at hrun
      cases hsettle : settleAccept cfg world idx listener' result
          { w with listeners := w.listeners.set idx listener' } with
      | error e => simp [bind, Except.bind, hsettle] at hrun
      | ok w₁ =>
          simp only [bind, Except.bind, hsettle] at hrun
          have hset : Changes cfg w { w with listeners := w.listeners.set idx listener' } :=
            changes_listeners w _
          have hfirst : Changes cfg w w₁ := by
            unfold settleAccept at hsettle
            split_ifs at hsettle
            · injection hsettle with hsettle
              exact hsettle ▸ hset
            · exact hset.trans (retainAccepted_changes hsettle)
            · injection hsettle with hsettle
              exact hsettle ▸ hset.tail .failed
            · injection hsettle with hsettle
              exact hsettle ▸ hset
          split_ifs at hrun
          · exact hfirst.trans (submitAccept_changes hrun)
          · injection hrun with hrun
            exact hrun ▸ hfirst

theorem acceptTargets_isOperation {listeners : List UringListener} {entry : Entry}
    (hentry : entry ∈ acceptTargets listeners) : entry.isOperation = false := by
  obtain ⟨⟨listener, idx⟩, -, hsome⟩ := List.mem_filterMap.mp hentry
  split_ifs at hsome
  injection hsome with hsome
  exact hsome ▸ rfl

theorem beginShutdown_changes {world : World} (hrun : beginShutdown world w = .ok w') :
    Changes cfg w w' := by
  unfold beginShutdown at hrun
  split_ifs at hrun
  · injection hrun with hrun
    exact hrun ▸ .refl
  · dsimp only at hrun
    refine (foldlM_ok
      (fun (entries : List Entry) w₁ =>
        Changes cfg w w₁ ∧ ∀ entry ∈ entries, entry.isOperation = false)
      ?_ ⟨.single ?_, fun entry hentry => acceptTargets_isOperation hentry⟩ hrun).1
    · rintro entry entries w₂ w₃ ⟨hpath, hentries⟩ hstep
      exact ⟨hpath.trans (pushEntry_changes (hentries entry List.mem_cons_self) hstep),
        fun e he => hentries e (List.mem_cons_of_mem _ he)⟩
    · exact .flags w.listeners w.shutdownRequested true (some world.now) true _

theorem loopTop_changes {world : World} (hrun : loopTop cfg world w = .ok w') :
    Changes cfg w w' := by
  unfold loopTop at hrun
  simp only [bind, Except.bind, pure, Except.pure] at hrun
  split_ifs at hrun
  · cases hbegin : beginShutdown world w with
    | error e => rw [hbegin] at hrun; cases hrun
    | ok w₁ =>
        rw [hbegin] at hrun
        dsimp only at hrun
        split_ifs at hrun
        injection hrun with hrun
        exact hrun ▸ beginShutdown_changes hbegin
  · injection hrun with hrun
    exact hrun ▸ .refl

/-! ## §3. Steps. -/

/-- The worker without the submission whose completion is handled. -/
def Event.taken (w : IoUringWorker σ) : Event → IoUringWorker σ
  | .completed index completion _ _ =>
      match w.inFlight[index]? with
      | none => w
      | some entry =>
          if entry.persists completion.more then w
          else { w with inFlight := w.inFlight.eraseIdx index }
  | _ => w

theorem Event.taken_cases (w : IoUringWorker σ) (event : Event) :
    event.taken w = w
      ∨ ∃ index completion dns world entry, event = .completed index completion dns world
        ∧ w.inFlight[index]? = some entry ∧ entry.persists completion.more = false
        ∧ event.taken w = { w with inFlight := w.inFlight.eraseIdx index } := by
  cases event with
  | requestShutdown | loopTop => exact .inl rfl
  | completed index completion dns world =>
      dsimp only [Event.taken]
      cases hentry : w.inFlight[index]? with
      | none => exact .inl rfl
      | some entry =>
          dsimp only
          split_ifs with hpersists
          · exact .inl rfl
          · exact .inr ⟨_, _, _, _, entry, rfl, hentry, by simpa using hpersists, rfl⟩

/-- **A step is the turn of a completed operation, or a path of changes.** -/
theorem step_changes {event : Event} (hrun : step cfg event w = .ok w') :
    (∃ index completion dns world id op, event = .completed index completion dns world
      ∧ w.inFlight[index]? = some (.operation id op)
      ∧ (event.taken w).runTurn cfg world id (op.turnEvent completion) = .ok w')
    ∨ Changes cfg (event.taken w) w' := by
  cases event with
  | requestShutdown =>
      injection hrun with hrun
      rw [← hrun]
      exact .inr (.single (.flags w.listeners true w.shuttingDown w.shutdownStarted
        w.cancellationStarted w.pendingCancellations))
  | loopTop world => exact .inr (loopTop_changes hrun)
  | completed index completion dns world =>
      unfold step at hrun
      dsimp only [Event.taken] at hrun ⊢
      cases hentry : w.inFlight[index]? with
      | none =>
          rw [hentry] at hrun
          injection hrun with hrun
          exact .inr (hrun ▸ .refl)
      | some entry =>
          rw [hentry] at hrun
          dsimp only at hrun ⊢
          generalize htaken : (if entry.persists completion.more then w
            else { w with inFlight := w.inFlight.eraseIdx index }) = w₁ at hrun ⊢
          cases entry with
          | operation id op => exact .inl ⟨_, _, _, _, id, op, rfl, hentry, hrun⟩
          | shutdownRead =>
              injection hrun with hrun
              rw [← hrun]
              exact .inr (.single (.flags w₁.listeners true w₁.shuttingDown w₁.shutdownStarted
                w₁.cancellationStarted w₁.pendingCancellations))
          | cancel listener generation =>
              injection hrun with hrun
              rw [← hrun]
              exact .inr (.single (.flags w₁.listeners w₁.shutdownRequested w₁.shuttingDown
                w₁.shutdownStarted w₁.cancellationStarted _))
          | proxyCancel id kind =>
              injection hrun with hrun
              exact .inr (hrun ▸ .refl)
          | dnsRead => exact .inr (processDnsResults_changes hrun)
          | timerRead => exact .inr (checkProxyTimeouts_changes hrun)
          | accept listener generation multishot => exact .inr (handleAcceptCompletion_changes hrun)

theorem start_changes {world : World} (hrun : start world w = .ok w') : Changes cfg w w' := by
  unfold start at hrun
  cases h₁ : (List.range w.listeners.length).foldlM (fun w idx => submitAccept world idx w) w with
  | error e => simp [bind, Except.bind, h₁] at hrun
  | ok w₁ =>
      have hw₁ : Changes cfg w w₁ := foldlM_ok (fun _ w₂ => Changes cfg w w₂)
        (fun _ _ _ _ hpath hstep => hpath.trans (submitAccept_changes hstep)) .refl h₁
      cases h₂ : w₁.pushEntry world .shutdownRead with
      | error e => simp [bind, Except.bind, h₁, h₂] at hrun
      | ok w₂ =>
          cases h₃ : w₂.pushEntry world .dnsRead with
          | error e => simp [bind, Except.bind, h₁, h₂, h₃] at hrun
          | ok w₃ =>
              simp only [bind, Except.bind, h₁, h₂, h₃] at hrun
              exact ((hw₁.trans (pushEntry_changes rfl h₂)).trans (pushEntry_changes rfl h₃)).trans
                (pushEntry_changes rfl hrun)

/-! ## §4. Runs that meet a condition. -/

/-- The states of the runs in which every event meets the condition in the state
it is handled in. -/
inductive Run (cfg : Config σ) (Meets : IoUringWorker σ → Event → Prop) :
    IoUringWorker σ → Prop where
  | start {w w' : IoUringWorker σ} (world : World) (hnew : IoUringWorker.new cfg = .ok w)
      (hstart : start world w = .ok w') : Run cfg Meets w'
  | step {w w' : IoUringWorker σ} (event : Event) (h : Run cfg Meets w) (hmeets : Meets w event)
      (hstep : step cfg event w = .ok w') : Run cfg Meets w'

theorem Run.reachable {Meets : IoUringWorker σ → Event → Prop} (h : Run cfg Meets w) :
    Reachable cfg w := by
  induction h with
  | start world hnew hstart => exact .start world hnew hstart
  | step event _ _ hstep ih => exact .step event ih hstep

/-- Replay events that all meet the condition. -/
def replayWhile (cfg : Config σ) (meets : IoUringWorker σ → Event → Bool) :
    List Event → IoUringWorker σ → Option (IoUringWorker σ)
  | [], w => some w
  | event :: events, w =>
      if meets w event then
        match step cfg event w with
        | .error _ => none
        | .ok w => replayWhile cfg meets events w
      else none

theorem Run.replayWhile {meets : IoUringWorker σ → Event → Bool} :
    ∀ {events : List Event} {w w' : IoUringWorker σ},
      Run cfg (fun w event => meets w event = true) w →
      IoUring.replayWhile cfg meets events w = some w' →
      Run cfg (fun w event => meets w event = true) w'
  | [], w, w', h, hrun => by
      injection hrun with hrun
      exact hrun ▸ h
  | event :: events, w, w', h, hrun => by
      unfold IoUring.replayWhile at hrun
      split at hrun
      next hmeets =>
        split at hrun
        · cases hrun
        next w₁ hstep => exact (h.step event hmeets hstep).replayWhile hrun
      · cases hrun

/-- Does a run of these events, all of which meet the condition, end in a state
with the property? -/
def bootsWhile (cfg : Config σ) (world : World) (meets : IoUringWorker σ → Event → Bool)
    (events : List Event) (p : IoUringWorker σ → Bool) : Bool :=
  match boot cfg world [] with
  | .error _ => false
  | .ok w => (replayWhile cfg meets events w).any p

theorem run_of_bootsWhile {world : World} {meets : IoUringWorker σ → Event → Bool}
    {events : List Event} {p : IoUringWorker σ → Bool}
    (h : bootsWhile cfg world meets events p = true) :
    ∃ w, Run cfg (fun w event => meets w event = true) w ∧ p w = true := by
  unfold bootsWhile at h
  split at h
  · cases h
  next w₀ hboot =>
    rw [Option.any_eq_true] at h
    obtain ⟨w, hw, hp⟩ := h
    refine ⟨w, ?_, hp⟩
    unfold boot at hboot
    split at hboot
    · cases hboot
    next w₁ hnew =>
      split at hboot
      · cases hboot
      next w₂ hstart =>
        injection hboot with hboot
        subst hboot
        exact (Run.start world hnew hstart).replayWhile hw

end Thwip.IoUring
