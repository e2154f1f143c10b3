/-
  Thwip.Readiness.Idle — what the idle sweep goes by.

  `last_progress` is set in a turn in which a byte is received or sent, to the time of
  that turn.  So it is never later than the last byte, and the sweep misses no client
  that has been silent for the limit.  One thing is taken for progress without a byte: a
  session that accepts bytes of a response.  `Clocked` asks that it then also sends some.
-/
import Thwip.Readiness.Timeouts

namespace Thwip.Readiness

open Thwip.Lib
open Relation (ReflTransGen)

variable {σ : Type} {cfg : Config σ} {env : Env σ} {event : TurnEvent} {w w' : ReadinessWorker σ}

/-! ## §1. Progress in a read pass. -/

theorem finishRequest_lastProgress (c : Connection σ) :
    c.finishRequest.1.lastProgress = c.lastProgress := by
  unfold Connection.finishRequest Connection.takePendingRequest
  split
  · split_ifs
    · split <;> rfl
    · rfl
  · rfl

theorem setPendingRequest_lastProgress (c : Connection σ) (p : PendingRequest) :
    (c.setPendingRequest p).lastProgress = c.lastProgress := by
  unfold Connection.setPendingRequest
  split <;> rfl

theorem receive_lastProgress (limits : WorkerLimits) (now : Instant) (c : Connection σ)
    (received : List UInt8) :
    (c.receive limits now received).1.lastProgress = c.lastProgress
      ∨ (c.receive limits now received).1.lastProgress = now := by
  unfold Connection.receive
  split_ifs
  · exact .inl rfl
  · right
    dsimp only
    split_ifs
    · split
      · rw [finishRequest_lastProgress]
      · split
        · split
          · rfl
          · split_ifs
            · rfl
            · rw [finishRequest_lastProgress, setPendingRequest_lastProgress]
        · rfl
        · rfl
      · rfl
    · rw [finishRequest_lastProgress]

theorem readOnce_lastProgress (tls : Rustls σ) (c : Connection σ) (socket : List IoRead) :
    (c.readOnce tls socket).2.1.lastProgress = c.lastProgress := by
  rcases readOnce_session tls c socket with heq | ⟨ssl, session, -, heq⟩ <;> rw [heq]
  rfl

/-- A pass leaves the time of the last progress, or sets it to its own. -/
theorem readLoop_lastProgress (tls : Rustls σ) (limits : WorkerLimits) (now : Instant) :
    ∀ (reads : Nat) (c : Connection σ) (socket : List IoRead),
      (readLoop tls limits now reads c socket).connection.lastProgress = c.lastProgress
        ∨ (readLoop tls limits now reads c socket).connection.lastProgress = now := by
  intro reads
  induction reads with
  | zero => intro c socket; exact .inl rfl
  | succ reads ih =>
      intro c socket
      have hread := readOnce_lastProgress tls c socket
      unfold readLoop
      dsimp only
      split
      next c₁ socket₁ heq => rw [heq] at hread; exact .inl hread
      next received c₁ socket₁ _ heq =>
        rw [heq] at hread
        have hreceive := receive_lastProgress limits now c₁ received
        split
        next c₂ heq₂ =>
          rw [heq₂] at hreceive
          rcases ih c₂ socket₁ with h | h
          · exact hreceive.imp (fun h' => h.trans (h'.trans hread)) (fun h' => h.trans h')
          · exact .inr h
        next c₂ verdict _ heq₂ =>
          rw [heq₂] at hreceive
          exact hreceive.imp_left (fun h => h.trans hread)
      next c₁ socket₁ heq => rw [heq] at hread; exact .inl hread
      next c₁ socket₁ heq =>
        rw [heq] at hread
        exact (ih c₁ socket₁).imp_left (fun h => h.trans hread)
      next c₁ socket₁ heq => rw [heq] at hread; exact .inl hread

/-- A read that takes no byte of the socket ends the pass. -/
theorem readOnce_takesNothing {tls : Rustls σ} {c : Connection σ} {bytes : List UInt8}
    (hhandling : c.isHandlingRequest = false) (h : c.takesBytes tls bytes = false)
    (socket : List IoRead) :
    (c.readOnce tls (.ok bytes :: socket)).1 = .failed
      ∨ (c.readOnce tls (.ok bytes :: socket)).1 = .ok [] := by
  unfold Connection.takesBytes at h
  rw [hhandling] at h
  unfold Connection.readOnce
  cases hssl : c.ssl with
  | none =>
      rw [hssl] at h
      have hempty : bytes = [] := by simpa using h
      subst hempty
      exact .inr rfl
  | some ssl =>
      rw [hssl] at h
      have hany : (tls.readTls ssl.connection bytes).any (fun taken => taken.1 ≠ 0) = false := h
      dsimp only
      cases htaken : tls.readTls ssl.connection bytes with
      | none => exact .inl rfl
      | some result =>
          obtain ⟨taken, session⟩ := result
          rw [htaken] at hany
          have hzero : taken = 0 := by simpa using hany
          subst hzero
          exact .inr rfl

/-- Without bytes from the socket the time stays. -/
theorem readLoop_silent (tls : Rustls σ) (limits : WorkerLimits) (now : Instant) :
    ∀ (reads : Nat) (c : Connection σ) (socket : List IoRead), c.isHandlingRequest = false →
      c.receivesBytes tls reads socket = false →
      (readLoop tls limits now reads c socket).connection.lastProgress = c.lastProgress := by
  intro reads
  induction reads with
  | zero => intro c socket hhandling h; rfl
  | succ reads ih =>
      intro c socket hhandling h
      have hread := readOnce_lastProgress tls c socket
      cases socket with
      | nil => rfl
      | cons next socket =>
          cases next with
          | ok bytes =>
              have hends := readOnce_takesNothing hhandling h socket
              unfold readLoop
              generalize c.readOnce tls (.ok bytes :: socket) = result at hread hends ⊢
              obtain ⟨answer, c₁, socket₁⟩ := result
              rcases hends with rfl | rfl
              · exact hread
              · exact hread
          | interrupted =>
              have hagain : c.readOnce tls (.interrupted :: socket) = (.interrupted, c, socket) := by
                unfold Connection.readOnce
                cases c.ssl <;> rfl
              unfold readLoop
              rw [hagain]
              exact ih c socket hhandling h
          | wouldBlock =>
              have hblock : c.readOnce tls (.wouldBlock :: socket) = (.wouldBlock, c, socket) := by
                unfold Connection.readOnce
                cases c.ssl <;> rfl
              unfold readLoop
              rw [hblock]
          | failed =>
              have hfail : c.readOnce tls (.failed :: socket) = (.failed, c, socket) := by
                unfold Connection.readOnce
                cases c.ssl <;> rfl
              unfold readLoop
              rw [hfail]

/-- **A read pass sets the time only when bytes came.** -/
theorem connectionReady_lastProgress (tls : Rustls σ) (limits : WorkerLimits) (now : Instant)
    {c : Connection σ} (hhandling : c.isHandlingRequest = false) (socket : List IoRead) :
    (connectionReady tls limits now c socket).connection.lastProgress = c.lastProgress
      ∨ (connectionReady tls limits now c socket).connection.lastProgress = now
        ∧ c.receivesBytes tls maxReadsPerEvent socket = true := by
  rw [connectionReady_eq hhandling]
  by_cases hreceives : c.receivesBytes tls maxReadsPerEvent socket = true
  · exact (readLoop_lastProgress tls limits now maxReadsPerEvent c socket).imp_right
      (fun h => ⟨h, hreceives⟩)
  · exact .inl (readLoop_silent tls limits now maxReadsPerEvent c socket hhandling
      (by simpa using hreceives))

/-! ## §2. Progress in a turn. -/

/-- Bytes passed one of the connection's sockets. -/
def Act.sends : Act → Bool
  | .forwarded _ | .relayed _ | .write (.wrote _) | .write (.sentTls ..) => true
  | _ => false

/-- The session accepted bytes of a response. -/
def Act.hands : Act → Bool
  | .write (.handed _) => true
  | _ => false

/-- What a stretch of a turn may do to the time of the last progress. -/
structure Progresses (env : Env σ) (event : TurnEvent) (s₀ s s' : Seat σ) (acts : List Act) :
    Prop where
  log : s'.log = s.log ++ acts
  time : ∀ c', s'.connection = some c' → ∃ c, s.connection = some c
    ∧ (c'.lastProgress = c.lastProgress ∨ c'.lastProgress = env.now
      ∧ (Receives env event s₀ ∨ ∃ act ∈ acts, act.sends = true ∨ act.hands = true))

section Progress

variable {s₀ s s' s'' : Seat σ} {c c' : Connection σ} {acts acts' : List Act}

theorem Progresses.refl (s : Seat σ) : Progresses env event s₀ s s [] :=
  ⟨(List.append_nil _).symm, fun c hc => ⟨c, hc, .inl rfl⟩⟩

theorem Progresses.trans (h : Progresses env event s₀ s s' acts)
    (h' : Progresses env event s₀ s' s'' acts') :
    Progresses env event s₀ s s'' (acts ++ acts') := by
  refine ⟨by rw [h'.log, h.log, List.append_assoc], ?_⟩
  intro c'' hc''
  obtain ⟨c', hc', htime'⟩ := h'.time c'' hc''
  obtain ⟨c, hc, htime⟩ := h.time c' hc'
  refine ⟨c, hc, ?_⟩
  rcases htime' with hsame | ⟨hnow, hwhy⟩
  · rw [hsame]
    refine htime.imp_right (fun h => ⟨h.1, h.2.imp_right ?_⟩)
    rintro ⟨act, hact, hmoves⟩
    exact ⟨act, List.mem_append_left _ hact, hmoves⟩
  · refine .inr ⟨hnow, hwhy.imp_right ?_⟩
    rintro ⟨act, hact, hmoves⟩
    exact ⟨act, List.mem_append_right _ hact, hmoves⟩

/-- The connection is replaced, and something is noted. -/
theorem progresses_put (hc : s.connection = some c)
    (htime : c'.lastProgress = c.lastProgress ∨ c'.lastProgress = env.now
      ∧ (Receives env event s₀ ∨ ∃ act ∈ acts, act.sends = true ∨ act.hands = true)) :
    Progresses env event s₀ s ((s.put c').note acts) acts := by
  refine ⟨rfl, ?_⟩
  intro c'' hc''
  cases hc''
  exact ⟨c, hc, htime⟩

theorem progresses_settle (hc : s.connection = some c) (tls : Rustls σ) (interest : Interest)
    (ok : Bool)
    (htime : c'.lastProgress = c.lastProgress ∨ c'.lastProgress = env.now
      ∧ (Receives env event s₀ ∨ ∃ act ∈ acts, act.sends = true ∨ act.hands = true)) :
    ∃ acts', Progresses env event s₀ s (s.settle tls c' interest acts ok) acts' := by
  cases ok with
  | true =>
      refine ⟨acts ++ [.reregistered interest], ?_, ?_⟩
      · show s.log ++ acts ++ _ = _
        rw [List.append_assoc]
      · intro c'' hc''
        cases hc''
        refine ⟨c, hc, htime.imp_right (fun h => ⟨h.1, h.2.imp_right ?_⟩)⟩
        rintro ⟨act, hact, hmoves⟩
        exact ⟨act, List.mem_append_left _ hact, hmoves⟩
  | false =>
      refine ⟨acts ++ [.removed .reregisterFailed c'.unsent (c'.sslWantsWrite tls)], ?_, ?_⟩
      · show s.log ++ acts ++ _ = _
        rw [List.append_assoc]
      · intro c'' hc''
        cases hc''

/-- What is only noted or scheduled leaves the time alone. -/
theorem progresses_note (hconnection : s'.connection = s.connection)
    (hlog : s'.log = s.log ++ acts) : Progresses env event s₀ s s' acts :=
  ⟨hlog, fun c hc => ⟨c, hconnection ▸ hc, .inl rfl⟩⟩

/-- **A move sets the time only when bytes moved**, or a session took some. -/
theorem Move.progresses (h : Move env event s₀ s s') :
    ∃ acts, Progresses env event s₀ s s' acts := by
  have hread : ∀ {c : Connection σ} {pass : ReadPass σ} {acts : List Act},
      s.connection = some c → event = .connectionReady → s = s₀ → c.isHandlingRequest = false →
      pass = connectionReady env.tls.toRustls env.limits env.now c env.reads →
      pass.connection.lastProgress = c.lastProgress
        ∨ pass.connection.lastProgress = env.now
          ∧ (Receives env event s₀ ∨ ∃ act ∈ acts, act.sends = true ∨ act.hands = true) := by
    intro c pass acts hc hevent hfirst hhandling hpass
    rw [hpass]
    refine (connectionReady_lastProgress env.tls.toRustls env.limits env.now hhandling
      env.reads).imp_right (fun h => ⟨h.1, .inl ⟨hevent, c, ?_, h.2⟩⟩)
    rw [← hfirst]
    exact hc
  cases h with
  | rescheduled => exact ⟨[], progresses_note rfl (List.append_nil _).symm⟩
  | drained => exact ⟨[], progresses_note rfl (List.append_nil _).symm⟩
  | scheduled => exact ⟨[], progresses_note rfl (List.append_nil _).symm⟩
  | flushed => exact ⟨_, progresses_note rfl rfl⟩
  | counted => exact ⟨_, progresses_note rfl rfl⟩
  | touched hc now hnow =>
      refine ⟨[], (List.append_nil _).symm, ?_⟩
      intro c' hc'
      cases hc'
      exact ⟨_, hc, hnow.imp_right (fun h => ⟨h.1, .inl h.2⟩)⟩
  | spoiled hc =>
      refine ⟨[], (List.append_nil _).symm, ?_⟩
      intro c' hc'
      cases hc'
      exact ⟨_, hc, .inl rfl⟩
  | waited hc hevent hfirst _ hhandling pass hpass =>
      exact ⟨_, progresses_put hc (hread hc hevent hfirst hhandling hpass)⟩
  | replied hc hevent hfirst _ hhandling pass hpass =>
      exact progresses_settle hc _ _ _ (hread hc hevent hfirst hhandling hpass)
  | resolving hc hevent hfirst _ hhandling pass hpass =>
      exact ⟨_, progresses_put hc (hread hc hevent hfirst hhandling hpass)⟩
  | connecting hc =>
      refine ⟨[], (List.append_nil _).symm, ?_⟩
      intro c' hc'
      cases hc'
      exact ⟨_, hc, .inl rfl⟩
  | forwarded hc _ _ hforwards now hnow =>
      rename_i c proxy proxy' chunks
      refine ⟨_, progresses_put hc (hnow.imp_right (fun h => ⟨h.1, .inr ?_⟩))⟩
      obtain ⟨chunk, rest, rfl⟩ := List.exists_cons_of_ne_nil h.2
      exact ⟨.forwarded chunk, List.mem_cons_self, .inl rfl⟩
  | failed hc => exact progresses_settle hc _ _ _ (.inl rfl)
  | relayed hc =>
      exact progresses_settle hc _ _ _ (.inr ⟨rfl, .inr ⟨_, List.mem_cons_self, .inl rfl⟩⟩)
  | wrote hc =>
      exact ⟨_, progresses_put hc (.inr ⟨rfl, .inr ⟨_, List.mem_cons_self, .inl rfl⟩⟩)⟩
  | handed hc =>
      exact ⟨_, progresses_put hc (.inr ⟨rfl, .inr ⟨_, List.mem_cons_self, .inr rfl⟩⟩)⟩
  | sentTls hc =>
      exact ⟨_, progresses_put hc (.inr ⟨rfl, .inr ⟨_, List.mem_cons_self, .inl rfl⟩⟩)⟩
  | chunk hc => exact progresses_settle hc _ _ _ (.inl rfl)
  | awaiting hc => exact progresses_settle hc _ _ _ (.inl rfl)
  | closing hc => exact progresses_settle hc _ _ _ (.inl rfl)
  | emptied hc => exact progresses_settle hc _ _ _ (.inl rfl)
  | idled hc => exact progresses_settle hc _ _ _ (.inl rfl)
  | flushing hc => exact progresses_settle hc _ _ _ (.inl rfl)
  | removed hc =>
      refine ⟨_, rfl, ?_⟩
      intro c' hc'
      cases hc'

theorem path_progresses (h : ReflTransGen (Move env event s₀) s s') :
    ∃ acts, Progresses env event s₀ s s' acts := by
  induction h with
  | refl => exact ⟨[], .refl _⟩
  | tail _ hmove ih =>
      obtain ⟨acts, hacts⟩ := ih
      obtain ⟨acts', hacts'⟩ := hmove.progresses
      exact ⟨acts ++ acts', hacts.trans hacts'⟩

end Progress

/-! ## §3. Runs with a clock. -/

/-- What a turn noted. -/
def Turn.newActs (before after : Turn σ) : List Act := after.log.drop before.log.length

/-- In this turn a byte was received from, or sent to, one of the sockets of the
connection it is for: the client's, or its upstream's. -/
def Turn.MovesByte (env : Env σ) (event : TurnEvent) (before after : Turn σ) : Prop :=
  before.isCurrent = true
    ∧ (Receives env event before.toSeat ∨ ∃ act ∈ before.newActs after, act.sends = true)

def HistoryItem.gives (id : ConnectionId) : HistoryItem σ → Bool
  | .registered id' => id' == id
  | _ => false

/-- The id that is given out has not moved a byte yet, and is silent from `now` on. -/
def acceptedLast (w w' : ReadinessWorker σ) (now : Instant) (last : ConnectionId → Option Instant) :
    ConnectionId → Option Instant := fun id =>
  if (w'.history.drop w.history.length).any (HistoryItem.gives id) then some now else last id

/-- The runs of a worker, tick by tick, in which the clock does not go back and a session
that accepts bytes in a turn also sends some in it.  `last` remembers when the last byte of
each connection moved, or when it was accepted. -/
inductive Clocked (cfg : Config σ) :
    ReadinessWorker σ → Instant → (ConnectionId → Option Instant) → Prop where
  | new {w : ReadinessWorker σ} (hnew : ReadinessWorker.new cfg = .ok w) (clock : Instant) :
      Clocked cfg w clock (fun _ => none)
  | turn {w : ReadinessWorker σ} {clock : Instant} {last last' : ConnectionId → Option Instant}
      {t : Turn σ} (h : Clocked cfg w clock last) (io : Io) (id : ConnectionId) (event : TurnEvent)
      (hclock : clock ≤ io.now) (hstart : w.Startable id event)
      (hrun : handleTurn (w.env cfg io) event (w.view id) = .ok t)
      (hprompt : (∃ act ∈ (w.view id).newActs t, act.hands = true) →
        (w.view id).MovesByte (w.env cfg io) event t)
      (hmoved : (w.view id).MovesByte (w.env cfg io) event t →
        last' = Function.update last id (some io.now))
      (hsilent : ¬ (w.view id).MovesByte (w.env cfg io) event t → last' = last) :
      Clocked cfg (w.commit id event io t) io.now last'
  | admitted {w w' : ReadinessWorker σ} {clock : Instant} {last : ConnectionId → Option Instant}
      (h : Clocked cfg w clock last) (now : Instant)
      (vacantKey : Nat) (registrationFails : Bool) {index : Nat} {listener : RegisteredListener}
      (hclock : clock ≤ now) (hlistener : w.listeners[index]? = some listener)
      (hroom : w.connections.count < cfg.limits.maxConnections)
      (hw' : w' = registerConnection cfg now vacantKey registrationFails index listener
        { w with metrics := { w.metrics with accepted := w.metrics.accepted + 1 } }) :
      Clocked cfg w' now (acceptedLast w w' now last)
  | polled {w : ReadinessWorker σ} {clock : Instant} {last : ConnectionId → Option Instant}
      (h : Clocked cfg w clock last) :
      Clocked cfg { w with connections := w.connections.map (Option.map Occupant.poll) } clock last
  | flags {w : ReadinessWorker σ} {clock : Instant} {last : ConnectionId → Option Instant}
      (h : Clocked cfg w clock last) (shutdownRequested draining finished : Bool)
      (drainStartedAt : Option Instant) :
      Clocked cfg { w with shutdownRequested, draining, finished, drainStartedAt } clock last

variable {clock : Instant} {last : ConnectionId → Option Instant}

/-- Runs with a clock are runs. -/
theorem Clocked.ticks (h : Clocked cfg w clock last) :
    ∃ w₀, ReadinessWorker.new cfg = .ok w₀ ∧ Ticks cfg w₀ w := by
  induction h with
  | new hnew => exact ⟨_, hnew, .refl⟩
  | turn _ io id event _ hstart hrun _ _ _ ih =>
      obtain ⟨w₀, hnew, hpath⟩ := ih
      refine ⟨w₀, hnew, hpath.tail (.turn io id event hstart ?_)⟩
      unfold ReadinessWorker.runTurn
      rw [hrun]
  | admitted _ now vacantKey registrationFails _ hlistener hroom hw' ih =>
      obtain ⟨w₀, hnew, hpath⟩ := ih
      rw [hw']
      exact ⟨w₀, hnew, hpath.tail (.admitted now vacantKey registrationFails hlistener hroom)⟩
  | polled _ ih =>
      obtain ⟨w₀, hnew, hpath⟩ := ih
      exact ⟨w₀, hnew, hpath.tail .polled⟩
  | flags _ shutdownRequested draining finished drainStartedAt ih =>
      obtain ⟨w₀, hnew, hpath⟩ := ih
      exact ⟨w₀, hnew, hpath.tail (.flags shutdownRequested draining finished drainStartedAt)⟩

/-- The time the sweep goes by is no later than the clock, and no later than the last
byte, or the accept. -/
structure OnTime (clock : Instant) (last : ConnectionId → Option Instant) (slot : Nat)
    (c : Connection σ) : Prop where
  past : c.lastProgress ≤ clock
  byte : ∃ time, last ⟨slot, c.generation⟩ = some time ∧ c.lastProgress ≤ time

def Timely (w : ReadinessWorker σ) (clock : Instant) (last : ConnectionId → Option Instant) :
    Prop :=
  ∀ slot occ, w.connections.get slot = some occ → OnTime clock last slot occ.connection

/-- What a turn does to the time of its own connection. -/
theorem turn_lastProgress {io : Io} {id : ConnectionId} {t : Turn σ} {occ occ' : Occupant σ}
    (hstart : w.Startable id event) (hrun : handleTurn (w.env cfg io) event (w.view id) = .ok t)
    (hget : w.connections.get id.slot = some occ)
    (hgen : occ.connection.generation = id.generation)
    (hget' : (w.commit id event io t).connections.get id.slot = some occ') :
    occ'.connection.generation = id.generation
      ∧ (occ'.connection.lastProgress = occ.connection.lastProgress
        ∨ occ'.connection.lastProgress = io.now
          ∧ ((w.view id).MovesByte (w.env cfg io) event t
            ∨ ∃ act ∈ (w.view id).newActs t, act.hands = true)) := by
  have hcur := view_current hget hgen
  have hpath := (handleTurn_steps hcur (hstart occ hget hgen) hrun).path
  rw [commit_get_self hget] at hget'
  obtain ⟨hconnection, hgeneration⟩ := occupant_of_kept hcur (path_kept hpath) hget'
  obtain ⟨acts, hlog, htime⟩ := path_progresses hpath
  have hnew : (w.view id).newActs t = acts := by
    unfold Turn.newActs
    rw [show t.log = (w.view id).log ++ acts from hlog, List.drop_left]
  obtain ⟨c, hc, hwhen⟩ := htime _ hconnection
  obtain rfl := Seat.connection_unique hcur.connection hc
  refine ⟨hgeneration, hwhen.imp_right (fun h => ⟨h.1, ?_⟩)⟩
  unfold Turn.MovesByte
  rw [hnew]
  rcases h.2 with hreceives | ⟨act, hact, hsends | hhands⟩
  · exact .inl ⟨hcur.isCurrent, .inl hreceives⟩
  · exact .inl ⟨hcur.isCurrent, .inr ⟨act, hact, hsends⟩⟩
  · exact .inr ⟨act, hact, hhands⟩

theorem Timely.turn {io : Io} {id : ConnectionId} {t : Turn σ}
    {last' : ConnectionId → Option Instant} (h : Timely w clock last) (hclock : clock ≤ io.now)
    (hstart : w.Startable id event) (hrun : handleTurn (w.env cfg io) event (w.view id) = .ok t)
    (hprompt : (∃ act ∈ (w.view id).newActs t, act.hands = true) →
      (w.view id).MovesByte (w.env cfg io) event t)
    (hmoved : (w.view id).MovesByte (w.env cfg io) event t →
      last' = Function.update last id (some io.now))
    (hsilent : ¬ (w.view id).MovesByte (w.env cfg io) event t → last' = last) :
    Timely (w.commit id event io t) io.now last' := by
  intro slot occ' hget'
  by_cases hlive : w.Live id
  · obtain ⟨occ, hget, hgen⟩ := hlive
    by_cases hslot : slot = id.slot
    · -- the connection of the turn
      subst hslot
      obtain ⟨hgen', htime⟩ := turn_lastProgress hstart hrun hget hgen hget'
      have hbefore := h id.slot occ hget
      have hid' : (⟨id.slot, occ'.connection.generation⟩ : ConnectionId) = id := by rw [hgen']
      have hid : (⟨id.slot, occ.connection.generation⟩ : ConnectionId) = id := by rw [hgen]
      have hpast : occ'.connection.lastProgress ≤ io.now := by
        rcases htime with hsame | ⟨hnow, -⟩
        · rw [hsame]
          exact hbefore.past.trans hclock
        · exact Nat.le_of_eq hnow
      refine ⟨hpast, ?_⟩
      rw [hid']
      by_cases hmoves : (w.view id).MovesByte (w.env cfg io) event t
      · exact ⟨io.now, by rw [hmoved hmoves, Function.update_self], hpast⟩
      · rw [hsilent hmoves]
        rcases htime with hsame | ⟨-, hwhy | hhands⟩
        · rw [hsame]
          exact hid ▸ hbefore.byte
        · exact absurd hwhy hmoves
        · exact absurd (hprompt hhands) hmoves
    · -- another connection
      rw [commit_get_ne (Ne.symm hslot)] at hget'
      have hbefore := h slot occ' hget'
      refine ⟨hbefore.past.trans hclock, ?_⟩
      have hne : (⟨slot, occ'.connection.generation⟩ : ConnectionId) ≠ id := by
        intro heq
        exact hslot (by rw [← heq])
      by_cases hmoves : (w.view id).MovesByte (w.env cfg io) event t
      · rw [hmoved hmoves, Function.update_of_ne hne]
        exact hbefore.byte
      · rw [hsilent hmoves]
        exact hbefore.byte
  · -- the connection of the turn is gone, and nothing moves
    have hstale : (w.commit id event io t).connections.get slot = w.connections.get slot := by
      have hturn : w.runTurn cfg io id event = .ok (w.commit id event io t) := by
        unfold ReadinessWorker.runTurn
        rw [hrun]
      exact stale_get hlive hturn slot
    rw [hstale] at hget'
    have hbefore := h slot occ' hget'
    have hmoves : ¬ (w.view id).MovesByte (w.env cfg io) event t := by
      rintro ⟨hcurrent, -⟩
      rw [view_stale hlive] at hcurrent
      cases hcurrent
    rw [hsilent hmoves]
    exact ⟨hbefore.past.trans hclock, hbefore.byte⟩

theorem acceptedLast_given {now : Instant} {id : ConnectionId}
    (h : HistoryItem.registered id ∈ w'.history.drop w.history.length) :
    acceptedLast w w' now last id = some now :=
  if_pos (List.any_eq_true.mpr ⟨_, h, beq_self_eq_true id⟩)

theorem Timely.admitted {now : Instant} {vacantKey : Nat} {registrationFails : Bool} {index : Nat}
    {listener : RegisteredListener} (h : Timely w clock last) (hclock : clock ≤ now)
    (hw' : w' = registerConnection cfg now vacantKey registrationFails index listener w) :
    Timely w' now (acceptedLast w w' now last) := by
  have hold : ∀ {slot : Nat} {occ : Occupant σ}, w.connections.get slot = some occ →
      OnTime now (acceptedLast w w' now last) slot occ.connection := by
    intro slot occ hget
    have hbefore := h slot occ hget
    refine ⟨hbefore.past.trans hclock, ?_⟩
    unfold acceptedLast
    split_ifs
    · exact ⟨now, rfl, hbefore.past.trans hclock⟩
    · exact hbefore.byte
  intro slot occ' hget'
  rcases registerConnection_cases now vacantKey registrationFails index listener w hw' with
    heq | ⟨id, hslot, hgen, heq | ⟨connection, interest, -, hnew, heq⟩⟩
  · rw [heq] at hget'
    exact hold hget'
  · rw [heq] at hget'
    exact hold hget'
  · obtain ⟨session, rfl⟩ := connection_new_fresh hnew
    have hkey : id.slot ≤ w.connections.length := hslot ▸ Slab.vacantKey_le _ _
    have hfresh : HistoryItem.registered id ∈ w'.history.drop w.history.length := by
      rw [heq]
      show _ ∈ (w.history ++ [HistoryItem.registered id]).drop w.history.length
      rw [List.drop_left]
      exact List.mem_cons_self
    rw [heq] at hget'
    dsimp only at hget'
    by_cases hsame : id.slot = slot
    · subst hsame
      rw [Slab.get_insertAt_self hkey] at hget'
      injection hget' with hget'
      subst hget'
      exact ⟨Nat.le_refl _, now, acceptedLast_given hfresh, Nat.le_refl _⟩
    · rw [Slab.get_insertAt_ne hkey hsame] at hget'
      exact hold hget'

/-- **In every run with a clock the time the sweep goes by is on time.** -/
theorem Clocked.timely (h : Clocked cfg w clock last) : Timely w clock last := by
  induction h with
  | new hnew clock =>
      intro slot occ hget
      unfold ReadinessWorker.new at hnew
      split_ifs at hnew
      injection hnew with hnew
      subst hnew
      simp [Slab.get] at hget
  | turn _ io id event hclock hstart hrun hprompt hmoved hsilent ih =>
      exact ih.turn hclock hstart hrun hprompt hmoved hsilent
  | @admitted w w' clock last _ now vacantKey registrationFails _ _ hclock _ _ hw' ih =>
      have hbefore : Timely { w with metrics := { w.metrics with accepted := w.metrics.accepted + 1 } }
          clock last := ih
      exact hbefore.admitted hclock hw'
  | polled _ ih =>
      intro slot occ hget
      rw [poll_get] at hget
      obtain ⟨occ₀, hget₀, rfl⟩ := Option.map_eq_some_iff.mp hget
      exact ih slot occ₀ hget₀
  | flags _ _ _ _ _ ih => exact ih

/-! ## §4. The sweep. -/

/-- A turn that gives the connection up leaves its slot vacant. -/
theorem turn_removes {io : Io} {id : ConnectionId} {occ : Occupant σ}
    (hevent : event = .idle ∨ event = .handshakeExpired)
    (hget : w.connections.get id.slot = some occ)
    (hgen : occ.connection.generation = id.generation)
    (hrun : w.runTurn cfg io id event = .ok w') : w'.connections.get id.slot = none := by
  obtain ⟨t, ht, rfl⟩ := runTurn_eq hrun
  rw [commit_get_self hget]
  have hcur := view_current hget hgen
  have hgone : ∀ site, removeConnection (w.env cfg io) site (w.view id) = t →
      t.occupant = none := by
    intro site hremoved
    rw [← hremoved]
    unfold removeConnection
    rw [hcur.connection]
    dsimp only
    rw [hcur.isCurrent]
    rfl
  rcases hevent with rfl | rfl
  · injection ht with ht
    exact hgone _ ht
  · injection ht with ht
    exact hgone _ ht

/-- No turn fills a vacant slot. -/
theorem runTurns_vacant {io : Nat → Io} {turns : List (ConnectionId × TurnEvent)} {slot : Nat}
    (hrun : runTurns cfg io turns w = .ok w') (hget : w.connections.get slot = none) :
    w'.connections.get slot = none := by
  unfold runTurns at hrun
  refine foldlM_ok (fun _ w₁ => w₁.connections.get slot = none) ?_ hget hrun
  rintro ⟨turn, index⟩ rest w₁ w₂ hvacant hstep
  by_cases hslot : turn.1.slot = slot
  · have hstale : ¬ w₁.Live turn.1 := by
      rintro ⟨occ, hocc, -⟩
      rw [hslot, hvacant] at hocc
      cases hocc
    rw [stale_get hstale hstep]
    exact hvacant
  · rw [runTurn_get_ne hstep hslot]
    exact hvacant

/-- A pass that gives up what it selects leaves the rest as it was. -/
theorem slabPass_sweeps {io : Nat → Io} {select : Connection σ → Option TurnEvent}
    (hselect : ∀ c event, select c = some event → event = .idle ∨ event = .handshakeExpired)
    (hrun : slabPass cfg io select w = .ok w') {slot : Nat} {occ : Occupant σ}
    (hget' : w'.connections.get slot = some occ) :
    w.connections.get slot = some occ ∧ select occ.connection = none := by
  cases hget : w.connections.get slot with
  | none =>
      have hvacant := runTurns_vacant hrun hget
      rw [hget'] at hvacant
      cases hvacant
  | some occ₀ =>
      cases hsome : select occ₀.connection with
      | none =>
          have hkept := slabPass_keeps hrun hget hsome
          rw [hget'] at hkept
          injection hkept with hkept
          exact ⟨congrArg some hkept.symm, hkept ▸ hsome⟩
      | some event =>
          obtain ⟨io₁, w₁, w₂, hget₁, hturn, hsame⟩ := slabPass_selects hrun hget hsome
          have hremoved := turn_removes (hselect _ _ hsome) hget₁ rfl hturn
          rw [hget', hremoved] at hsame
          cases hsame

theorem idleExpired_gives {now : Instant} {c : Connection σ}
    (h : idleExpired cfg now c = some event) : event = .idle := by
  unfold idleExpired at h
  split_ifs at h
  injection h with h
  exact h.symm

theorem handshakeOverdue_gives {now : Instant} {c : Connection σ}
    (h : handshakeOverdue cfg now c = some event) : event = .handshakeExpired := by
  unfold handshakeOverdue at h
  split_ifs at h
  injection h with h
  exact h.symm

/-- **The sweep misses no silent client.**  After `close_idle_connections` at `now`, in any
run with a clock, a connection that is open and has no exchange moved its last byte, or was
accepted, less than `idle_timeout` ago. -/
theorem closeIdleConnections_sweeps (h : Clocked cfg w clock last) {now : Instant} {io : Nat → Io}
    (hrun : closeIdleConnections cfg now io w = .ok w') {slot : Nat} {occ : Occupant σ}
    (hget' : w'.connections.get slot = some occ)
    (hhandling : occ.connection.isHandlingRequest = false) :
    ∃ time, last ⟨slot, occ.connection.generation⟩ = some time
      ∧ now - time < cfg.limits.idleTimeout := by
  unfold closeIdleConnections at hrun
  cases hidle : slabPass cfg io (idleExpired cfg now) w with
  | error e =>
      rw [hidle] at hrun
      cases hrun
  | ok w₁ =>
      rw [hidle] at hrun
      -- what is open was open before, and neither pass selected it
      obtain ⟨hget₁, -⟩ :=
        slabPass_sweeps (fun _ _ h => .inr (handshakeOverdue_gives h)) hrun hget'
      obtain ⟨hget, hfresh⟩ :=
        slabPass_sweeps (fun _ _ h => .inl (idleExpired_gives h)) hidle hget₁
      obtain ⟨time, hlast, hbyte⟩ := (h.timely slot occ hget).byte
      have hlimit : now - occ.connection.lastProgress < cfg.limits.idleTimeout := by
        unfold idleExpired at hfresh
        rw [hhandling] at hfresh
        by_contra hover
        rw [if_pos (by simpa using Nat.not_lt.mp hover)] at hfresh
        cases hfresh
      exact ⟨time, hlast, Nat.lt_of_le_of_lt (Nat.sub_le_sub_left hbyte now) hlimit⟩

end Thwip.Readiness
