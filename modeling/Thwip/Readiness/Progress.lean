/-
  Thwip.Readiness.Progress — what the edge-triggered loops leave behind.

  The poller reports a socket once for new data, or once after a registration.
  A handler that stops before the socket says that it would block must therefore
  register the socket again or put the connection into a pending set.  Here is
  exactly when `connection_ready` and `write_ready` do.
-/
import Thwip.Readiness.Phases

namespace Thwip.Readiness

open Thwip.Lib

variable {σ : Type} {cfg : Config σ} {w w' : ReadinessWorker σ} {env : Env σ}
  {t t' : Turn σ} {c c' : Connection σ}

/-! ## §1. The reads of a pass. -/

/-- The reads of a pass in which no chunk is decided on: the connection with the
session they leave, and whether the socket itself answered that it would block. -/
def Connection.feed (tls : Rustls σ) : Nat → Connection σ → List IoRead → Connection σ × Bool
  | 0, c, _ => (c, false)
  | reads + 1, c, socket =>
      match c.readOnce tls socket with
      | (.ok [], c, _) => (c, false)
      | (.ok _, c, rest) => Connection.feed tls reads c rest
      | (.wouldBlock, c, _) => (c, socketAnswer socket == .wouldBlock)
      | (.interrupted, c, rest) => Connection.feed tls reads c rest
      | (.failed, c, _) => (c, false)

/-- A read depends on the session only. -/
theorem readOnce_congr (tls : Rustls σ) (hssl : c.ssl = c'.ssl) (socket : List IoRead) :
    (c.readOnce tls socket).1 = (c'.readOnce tls socket).1
      ∧ (c.readOnce tls socket).2.1.ssl = (c'.readOnce tls socket).2.1.ssl
      ∧ (c.readOnce tls socket).2.2 = (c'.readOnce tls socket).2.2 := by
  unfold Connection.readOnce
  cases socket with
  | nil => exact ⟨rfl, hssl, rfl⟩
  | cons next socket =>
      rw [← hssl]
      cases hc : c.ssl with
      | none => exact ⟨rfl, hssl, rfl⟩
      | some ssl =>
          cases next with
          | wouldBlock | interrupted | failed => exact ⟨rfl, hssl, rfl⟩
          | ok bytes =>
              dsimp only
              split
              · exact ⟨rfl, hssl, rfl⟩
              · split_ifs
                all_goals first
                  | exact ⟨rfl, rfl, rfl⟩
                  | (split
                     · exact ⟨rfl, hssl, rfl⟩
                     · exact ⟨rfl, rfl, rfl⟩)

theorem feed_congr (tls : Rustls σ) :
    ∀ (reads : Nat) {c c' : Connection σ} (socket : List IoRead), c.ssl = c'.ssl →
      (c.feed tls reads socket).1.ssl = (c'.feed tls reads socket).1.ssl
        ∧ (c.feed tls reads socket).2 = (c'.feed tls reads socket).2
  | 0, c, c', _, hssl => ⟨hssl, rfl⟩
  | reads + 1, c, c', socket, hssl => by
      obtain ⟨hanswer, hsession, hrest⟩ := readOnce_congr tls hssl socket
      unfold Connection.feed
      rcases hc : c.readOnce tls socket with ⟨answer, c₁, rest⟩
      rcases hc' : c'.readOnce tls socket with ⟨answer', c₁', rest'⟩
      rw [hc, hc'] at hanswer hsession hrest
      dsimp only at hanswer hsession hrest
      subst hanswer hrest
      cases answer with
      | wouldBlock | failed => exact ⟨hsession, rfl⟩
      | interrupted => exact feed_congr tls reads rest hsession
      | ok bytes =>
          cases bytes with
          | nil => exact ⟨hsession, rfl⟩
          | cons byte bytes => exact feed_congr tls reads rest hsession

theorem receive_ssl (limits : WorkerLimits) (now : Instant) (c : Connection σ)
    (received : List UInt8) : (c.receive limits now received).1.ssl = c.ssl := by
  have hset : ∀ (c : Connection σ) p, (c.setPendingRequest p).ssl = c.ssl := by
    intro c p
    unfold Connection.setPendingRequest
    split <;> rfl
  have hfinish : ∀ c : Connection σ, c.finishRequest.1.ssl = c.ssl := by
    intro c
    unfold Connection.finishRequest
    split
    · split_ifs
      · unfold Connection.takePendingRequest
        dsimp only
        split <;> rfl
      · rfl
    · rfl
  unfold Connection.receive
  split_ifs
  · rfl
  · dsimp only
    split_ifs
    · split
      · exact hfinish _
      · split
        · split
          · rfl
          · split_ifs
            · rfl
            · exact (hfinish _).trans (hset _ _)
        · rfl
        · rfl
      · rfl
    · exact hfinish _

/-- A socket that would block blocks the read. -/
theorem readOnce_wouldBlock (tls : Rustls σ) (c : Connection σ) {socket : List IoRead}
    (h : socketAnswer socket = .wouldBlock) :
    (c.readOnce tls socket).1 = .wouldBlock := by
  unfold Connection.readOnce
  cases socket with
  | nil => rfl
  | cons next socket =>
      change next = .wouldBlock at h
      subst h
      cases c.ssl <;> rfl

theorem after_lastRead {pass : ReadPass σ} {answer : IoRead} (count : Nat)
    (h : answer ≠ .wouldBlock) :
    (pass.after answer count).lastRead = some .wouldBlock ↔ pass.lastRead = some .wouldBlock := by
  unfold ReadPass.after
  cases hlast : pass.lastRead with
  | none => simp [h]
  | some last => simp

/-- **A pass that decides nothing** is the feeding of its session. -/
theorem readLoop_feed (tls : Rustls σ) (limits : WorkerLimits) (now : Instant) :
    ∀ (reads : Nat) (c : Connection σ) (socket : List IoRead),
      (∀ verdict ∈ (readLoop tls limits now reads c socket).verdicts, verdict = .keepWaiting) →
      (readLoop tls limits now reads c socket).connection.ssl = (c.feed tls reads socket).1.ssl
        ∧ ((readLoop tls limits now reads c socket).lastRead = some .wouldBlock
          ↔ (c.feed tls reads socket).2 = true) := by
  intro reads
  induction reads with
  | zero =>
      intro c socket _
      exact ⟨rfl, by simp [readLoop, Connection.feed]⟩
  | succ reads ih =>
      intro c socket hwaits
      have hblocked : socketAnswer socket = .wouldBlock →
          (c.readOnce tls socket).1 = .wouldBlock := readOnce_wouldBlock tls c
      unfold readLoop at hwaits ⊢
      unfold Connection.feed
      rcases hread : c.readOnce tls socket with ⟨answer, c₁, rest⟩
      rw [hread] at hwaits hblocked
      dsimp only at hwaits hblocked ⊢
      cases answer with
      | wouldBlock => exact ⟨rfl, by simp⟩
      | failed =>
          refine ⟨rfl, ?_⟩
          constructor
          · intro heq
            injection heq with heq
            cases hblocked heq
          · intro heq
            cases heq
      | interrupted =>
          have hne : socketAnswer socket ≠ .wouldBlock := fun heq => by cases hblocked heq
          obtain ⟨hssl, hlast⟩ := ih c₁ rest hwaits
          exact ⟨hssl, (after_lastRead 0 hne).trans hlast⟩
      | ok bytes =>
          have hne : socketAnswer socket ≠ .wouldBlock := fun heq => by cases hblocked heq
          cases bytes with
          | nil =>
              refine ⟨rfl, ?_⟩
              constructor
              · intro heq
                injection heq with heq
                exact absurd heq hne
              · intro heq
                cases heq
          | cons byte bytes =>
              have hreceive := receive_ssl limits now c₁ (byte :: bytes)
              dsimp only at hwaits ⊢
              rcases hr : c₁.receive limits now (byte :: bytes) with ⟨c₂, verdict⟩
              rw [hr] at hwaits hreceive
              dsimp only at hwaits hreceive ⊢
              cases verdict with
              | keepWaiting =>
                  obtain ⟨hssl, hlast⟩ := ih c₂ rest
                    (fun verdict hv => hwaits verdict (List.mem_cons_of_mem _ hv))
                  obtain ⟨hsame, hsame'⟩ := feed_congr tls reads rest hreceive
                  refine ⟨hssl.trans hsame, ?_⟩
                  rw [← hsame']
                  exact (after_lastRead (byte :: bytes).length hne).trans hlast
              | error status message => cases hwaits _ (List.mem_singleton.mpr rfl)
              | dispatch head body => cases hwaits _ (List.mem_singleton.mpr rfl)

/-! ## §2. A pass that leaves the connection reading. -/

theorem queueResponse_phase (h : t.Current c) {response : List UInt8}
    (hrun : queueResponse env response t = .ok t') (hc' : t'.connection = some c') :
    c'.phase = .writingResponse := by
  obtain ⟨ok, hseat, -⟩ := queueResponse_settles h hrun
  change t'.toSeat.connection = some c' at hc'
  rw [hseat] at hc'
  obtain ⟨-, rfl⟩ := settle_some hc'
  rfl

/-- A dispatched request takes its connection out of the reading phase. -/
theorem answerRequest_phase (h : t.Current c) {listenerGroup : Nat} {request : RequestHead}
    {body : List UInt8} {goesOn : Bool}
    (hrun : answerRequest env listenerGroup request body t = .ok (goesOn, t'))
    (hc' : t'.connection = some c') (p : Option PendingRequest) : c'.phase ≠ .reading p := by
  have hqueued : ∀ {t₁ : Turn σ} {c₁ : Connection σ} {response : List UInt8}, t₁.Current c₁ →
      queueResponse env response t₁ = .ok t' → c'.phase ≠ .reading p := by
    intro t₁ c₁ response hcur hqueue
    rw [queueResponse_phase hcur hqueue hc']
    simp
  unfold answerRequest at hrun
  split at hrun
  · cases hrun
  · dsimp only at hrun
    split at hrun
    · exact hqueued h (bind_flag_ok hrun)
    · split at hrun
      · have hcur : ∀ balancer, ({ t.note [.proxied] with balancer } : Turn σ).Current c :=
          fun _ => ⟨h.connection, h.generation⟩
        split at hrun
        · cases hrun
        · exact hqueued (hcur _) (bind_flag_ok hrun)
        next url balancer _ =>
          cases hstart : startProxy env url request body
              { t.note [.proxied] with balancer } with
          | error e => simp [bind, Except.bind, hstart] at hrun
          | ok result =>
              obtain ⟨started, t₁⟩ := result
              simp only [bind, Except.bind, hstart, pure, Except.pure] at hrun
              have hcases := startProxy_cases (hcur balancer).connection hstart
              split at hrun
              next hstarted =>
                injection hrun with hrun
                injection hrun with _ hrun
                subst hrun
                rcases hcases with ⟨hfalse, -⟩ | ⟨upstream, -, -, hseat⟩
                · rw [hfalse] at hstarted
                  cases hstarted
                · change t₁.toSeat.connection = some c' at hc'
                  rw [hseat] at hc'
                  cases hc'
                  simp [Connection.beginResolving]
              · rcases hcases with ⟨-, rfl⟩ | ⟨upstream, hid, -, hseat⟩
                · exact hqueued (hcur balancer) (bind_flag_ok hrun)
                · have hcur₁ : t₁.Current
                      (c.beginResolving env.now (upstream.requestBytes request body)) := by
                    refine ⟨?_, ?_⟩
                    · show t₁.toSeat.connection = _
                      rw [hseat]
                      rfl
                    · rw [hid]
                      exact h.generation
                  exact hqueued hcur₁ (bind_flag_ok hrun)
      · split at hrun
        next response _ =>
          have hqueue := bind_flag_ok hrun
          unfold queueStaticResponse at hqueue
          rw [h.connection] at hqueue
          simp only [h.isCurrent, Bool.not_true, Bool.false_eq_true, if_false] at hqueue
          have hcur : ((t.put { c with staticStream := response.stream }).note
              [.serving response.head response.stream]).Current
                { c with staticStream := response.stream } := ⟨rfl, h.generation⟩
          exact hqueued hcur hqueue
        · exact hqueued h (bind_flag_ok hrun)
      · exact hqueued h (bind_flag_ok hrun)

/-- The registration at the end of a pass. -/
theorem flushHandshake_settles (h : t.Current c) (hrun : flushHandshake env t = .ok t') :
    if c.sslWantsWrite env.tls.toRustls then
      ∃ ok, t'.toSeat = t.toSeat.settle env.tls.toRustls c .both [] ok
    else t' = t := by
  unfold flushHandshake at hrun
  rw [h.connection] at hrun
  simp only [h.isCurrent, Bool.true_and] at hrun
  split_ifs with hwants
  · rw [if_pos hwants] at hrun
    obtain ⟨ok, hseat, -⟩ := reregisterClient_settles h hrun
    exact ⟨ok, hseat⟩
  · rw [if_neg hwants] at hrun
    injection hrun with hrun
    exact hrun.symm

/-- … leaves the connection as it is, or removes it. -/
theorem flushHandshake_connection (hrun : flushHandshake env t = .ok t')
    (hc' : t'.connection = some c') : t.connection = some c' := by
  by_cases hcur : t.isCurrent = true
  · obtain ⟨c, h⟩ := Turn.isCurrent_iff.mp hcur
    have hsettles := flushHandshake_settles h hrun
    split_ifs at hsettles
    · obtain ⟨ok, hseat⟩ := hsettles
      change t'.toSeat.connection = some c' at hc'
      rw [hseat] at hc'
      obtain ⟨-, rfl⟩ := settle_some hc'
      exact h.connection
    · rw [← hsettles]
      exact hc'
  · have hsame : t' = t := by
      unfold flushHandshake at hrun
      split at hrun
      · injection hrun with hrun
        exact hrun.symm
      · simp only [hcur, Bool.false_and, Bool.false_eq_true, if_false] at hrun
        injection hrun with hrun
        exact hrun.symm
    rw [← hsame]
    exact hc'

/-- **A call of `connection_ready` that leaves the connection reading** decided
nothing; at its end it registers the socket exactly if the session wants to
write. -/
theorem handleConnectionReady_reading (h : t.Current c)
    (hrun : handleConnectionReady env t = .ok t') (hc' : t'.connection = some c')
    {p : Option PendingRequest} (hphase : c'.phase = .reading p) {pass : ReadPass σ}
    (hpass : pass = connectionReady env.tls.toRustls env.limits env.now c env.reads) :
    c.isHandlingRequest = false ∧ (∀ verdict ∈ pass.verdicts, verdict = .keepWaiting)
      ∧ c' = pass.connection
      ∧ t'.toSeat = (if pass.connection.sslWantsWrite env.tls.toRustls then
          (t.received pass).toSeat.settle env.tls.toRustls pass.connection .both [] true
        else (t.received pass).toSeat) := by
  by_cases hhandling : c.isHandlingRequest = true
  · -- the client's bytes are thrown away, and the phase stays
    exfalso
    unfold handleConnectionReady at hrun
    rw [h.connection] at hrun
    simp only [h.isCurrent, Bool.not_true, Bool.false_eq_true, if_false, ← hpass, hhandling,
      if_true] at hrun
    injection hrun with hrun
    have htouched : ∃ time, pass.connection = { c with lastProgress := time } := by
      rw [hpass]
      unfold connectionReady
      rw [if_pos hhandling]
      exact discardLoop_connection env.now maxReadsPerEvent c env.reads
    obtain ⟨time, htime⟩ := htouched
    unfold clientDuringProxyReady at hrun
    dsimp only at hrun
    split at hrun
    · rw [removeConnection_current (h.put (by rw [htime]))] at hrun
      rw [← hrun] at hc'
      cases hc'
    · rw [← hrun] at hc'
      cases hc'
      rw [htime] at hphase
      change c.phase = .reading p at hphase
      unfold Connection.isHandlingRequest at hhandling
      rw [hphase] at hhandling
      cases hhandling
  · have hfalse : c.isHandlingRequest = false := by simpa using hhandling
    obtain ⟨⟨goesOn, t₁⟩, hanswer, hrun⟩ := handleConnectionReady_ok h hfalse hpass hrun
    have hreads := connectionReady_readsOnly env.tls.toRustls env.limits env.now hfalse env.reads
    have hverdicts := readLoop_verdicts env.tls.toRustls env.limits env.now maxReadsPerEvent c
      env.reads
    rw [← hpass] at hreads
    rw [← connectionReady_eq hfalse, ← hpass] at hverdicts
    have hcur : (t.received pass).Current pass.connection :=
      ⟨rfl, hreads.generation.trans h.generation⟩
    unfold afterAnswer at hrun
    dsimp only at hrun
    rcases hverdicts with hall | ⟨hopen, waits, verdict, hsplit, -, hne⟩
    · have hsame : goesOn = true ∧ t₁ = t.received pass := by
        cases hlast : pass.verdicts.getLast? with
        | none =>
            rw [hlast] at hanswer
            cases hanswer
            exact ⟨rfl, rfl⟩
        | some verdict =>
            have hkeep := hall verdict (List.mem_of_getLast? hlast)
            rw [hlast, hkeep] at hanswer
            cases hanswer
            exact ⟨rfl, rfl⟩
      obtain ⟨rfl, rfl⟩ := hsame
      cases hclosed : pass.closed with
      | true =>
          -- the client is gone
          exfalso
          simp only [hclosed, if_true, Bool.not_true, Bool.false_eq_true, if_false] at hrun
          rw [removeConnection_current hcur] at hrun
          cases hrun
          cases hc'
      | false =>
          simp only [hclosed, Bool.not_true, Bool.false_eq_true, if_false] at hrun
          have hsettles := flushHandshake_settles hcur hrun
          split_ifs at hsettles with hwants
          · obtain ⟨ok, hseat⟩ := hsettles
            change t'.toSeat.connection = some c' at hc'
            rw [hseat] at hc'
            obtain ⟨rfl, rfl⟩ := settle_some hc'
            rw [if_pos hwants]
            exact ⟨hfalse, hall, rfl, hseat⟩
          · rw [hsettles] at hc' ⊢
            cases hc'
            rw [if_neg hwants]
            exact ⟨hfalse, hall, rfl, rfl⟩
    · exfalso
      have hlast : pass.verdicts.getLast? = some verdict := by rw [hsplit]; simp
      rw [hlast] at hanswer
      have hleft : ∀ c₁, t₁.connection = some c₁ → c₁.phase ≠ .reading p := by
        intro c₁ hc₁
        cases verdict with
        | keepWaiting => exact absurd rfl hne
        | error status message =>
            rw [queueResponse_phase hcur (bind_flag_ok hanswer) hc₁]
            simp
        | dispatch request body =>
            have hcur' : (t.received pass).countRequest.Current pass.connection :=
              ⟨hcur.connection, hcur.generation⟩
            exact answerRequest_phase hcur' hanswer hc₁ p
      rw [hopen] at hrun
      simp only [Bool.false_eq_true, if_false] at hrun
      split_ifs at hrun
      · cases hrun
        exact hleft c' hc' hphase
      · exact hleft c' (flushHandshake_connection hrun hc') hphase

/-! ## §3. No lost read. -/

/-- The session, if any, has no plaintext left to hand over. -/
def Connection.PlaintextTaken (tls : Rustls σ) (c : Connection σ) : Prop :=
  ∀ ssl, c.ssl = some ssl → ∀ bytes, (tls.read ssl.connection readBufferLen).1 = .ok bytes →
    bytes = []

/-- The client's socket was registered again since. -/
def Occupant.ReregisteredSince (occ occ' : Occupant σ) : Prop :=
  ∃ interest, Act.reregistered interest ∈ occ'.log.drop occ.log.length

/-- The connection is in one of the pending sets. -/
def ReadinessWorker.Scheduled (w : ReadinessWorker σ) (id : ConnectionId) : Prop :=
  id ∈ w.pendingWrites ∨ id ∈ w.pendingUpstreamWrites ∨ id ∈ w.pendingUpstreamReads

/-- What a call of `connection_ready` has to leave behind: another event will
come, or the worker resumes by itself. -/
def NoLostRead (tls : Rustls σ) (id : ConnectionId) (pass : ReadPass σ) (occ occ' : Occupant σ)
    (w' : ReadinessWorker σ) : Prop :=
  (pass.lastRead = some .wouldBlock ∧ occ'.connection.PlaintextTaken tls)
    ∨ occ.ReregisteredSince occ' ∨ w'.Scheduled id

/-- Within its budget the pass empties the socket, and then the session; or the
session, given what the socket had, has something to write. -/
def Connection.Empties (tls : Rustls σ) (socket : List IoRead) (c : Connection σ) : Prop :=
  ((c.feed tls maxReadsPerEvent socket).2 = true
      ∧ (c.feed tls maxReadsPerEvent socket).1.PlaintextTaken tls)
    ∨ (c.feed tls maxReadsPerEvent socket).1.sslWantsWrite tls = true

theorem plaintextTaken_congr {tls : Rustls σ} (h : c.ssl = c'.ssl) :
    c.PlaintextTaken tls ↔ c'.PlaintextTaken tls := by
  unfold Connection.PlaintextTaken
  rw [h]

theorem sslWantsWrite_congr {tls : Rustls σ} (h : c.ssl = c'.ssl) :
    c.sslWantsWrite tls = c'.sslWantsWrite tls := by
  unfold Connection.sslWantsWrite
  rw [h]

/-- The pending sets after a turn, at the turn's own id. -/
theorem commit_scheduled {id : ConnectionId} {event : TurnEvent} {io : Io} :
    (w.commit id event io t).Scheduled id
      ↔ t.writeScheduled = true ∨ t.upstreamWriteScheduled = true
        ∨ t.upstreamReadScheduled = true := by
  unfold ReadinessWorker.Scheduled ReadinessWorker.commit
  simp [mem_setMember]

theorem view_scheduled {id : ConnectionId} :
    (w.view id).writeScheduled = true ∨ (w.view id).upstreamWriteScheduled = true
        ∨ (w.view id).upstreamReadScheduled = true ↔ w.Scheduled id := by
  unfold ReadinessWorker.Scheduled ReadinessWorker.view
  simp

/-- The entry a turn leaves, with the acts it noted. -/
theorem commit_occupant {id : ConnectionId} {event : TurnEvent} {io : Io} {occ occ' : Occupant σ}
    (hget : w.connections.get id.slot = some occ)
    (hget' : (w.commit id event io t).connections.get id.slot = some occ') :
    t.connection = some occ'.connection ∧ occ'.log = t.log := by
  rw [commit_get_self hget] at hget'
  unfold Turn.occupant at hget'
  obtain ⟨c', hc', rfl⟩ := Option.map_eq_some_iff.mp hget'
  exact ⟨hc', rfl⟩

/-- **When no read is lost**: a call of `connection_ready` that returns with the
connection open and reading leaves nothing behind exactly if it empties the socket
and the session within its budget, or the session wants to write, or the
connection was in a pending set already. -/
theorem no_lost_read_iff {io : Io} {id : ConnectionId} {occ occ' : Occupant σ}
    (hget : w.connections.get id.slot = some occ)
    (hgen : occ.connection.generation = id.generation)
    (hrun : w.runTurn cfg io id .connectionReady = .ok w')
    (hget' : w'.connections.get id.slot = some occ') {p : Option PendingRequest}
    (hphase : occ'.connection.phase = .reading p) :
    NoLostRead cfg.tls.toRustls id
        (connectionReady cfg.tls.toRustls cfg.limits io.now occ.connection io.reads) occ occ' w'
      ↔ occ.connection.Empties cfg.tls.toRustls io.reads ∨ w.Scheduled id := by
  obtain ⟨t, ht, rfl⟩ := runTurn_eq hrun
  have hcur := view_current hget hgen
  obtain ⟨hc', hlog⟩ := commit_occupant hget hget'
  generalize hpass : connectionReady cfg.tls.toRustls cfg.limits io.now occ.connection io.reads
    = pass
  obtain ⟨hhandling, hall, hconnection, hseat⟩ :=
    handleConnectionReady_reading hcur ht hc' hphase hpass.symm
  have hfeed := readLoop_feed cfg.tls.toRustls cfg.limits io.now maxReadsPerEvent occ.connection
    io.reads
  rw [← connectionReady_eq hhandling, hpass] at hfeed
  obtain ⟨hssl, hlast⟩ := hfeed hall
  have hview : (w.view id).log = occ.log := view_log hget
  change t.toSeat = if pass.connection.sslWantsWrite cfg.tls.toRustls then
    ((w.view id).received pass).toSeat.settle cfg.tls.toRustls pass.connection .both [] true
    else ((w.view id).received pass).toSeat at hseat
  have hscheduled : (w.commit id .connectionReady io t).Scheduled id ↔ w.Scheduled id := by
    rw [commit_scheduled, ← view_scheduled]
    show t.toSeat.writeScheduled = true ∨ t.toSeat.upstreamWriteScheduled = true
      ∨ t.toSeat.upstreamReadScheduled = true ↔ _
    rw [hseat]
    split_ifs <;> exact Iff.rfl
  have hnotes : ∀ interest, Act.reregistered interest ∉ pass.verdicts.map Act.verdict := by
    intro interest hmem
    obtain ⟨verdict, -, heq⟩ := List.mem_map.mp hmem
    cases heq
  have hreregistered : occ.ReregisteredSince occ'
      ↔ pass.connection.sslWantsWrite cfg.tls.toRustls = true := by
    unfold Occupant.ReregisteredSince
    have hsame : occ'.log = t.toSeat.log := hlog
    rw [hsame, hseat]
    split_ifs with hwants
    · refine ⟨fun _ => hwants, fun _ => ⟨.both, ?_⟩⟩
      simp [Seat.settle, Turn.received, Turn.note, Turn.readBytes, Turn.put, hview]
    · refine ⟨?_, fun h => absurd h hwants⟩
      rintro ⟨interest, hmem⟩
      simp only [Turn.received, Turn.note, Turn.readBytes, Turn.put, hview, List.drop_left] at hmem
      exact absurd hmem (hnotes interest)
  unfold NoLostRead Connection.Empties
  rw [hscheduled, hreregistered, hconnection, hlast, plaintextTaken_congr hssl,
    sslWantsWrite_congr hssl, or_assoc]

/-- The first line of a request, one byte at a time. -/
def dribbledLine : List IoRead :=
  (asBytes "GET / HTTP/1.1\r\n".toList).map (fun byte => .ok [byte])

theorem no_lost_read_iff_blocked :
    ∃ w, Reachable (plainWorker []) w ∧ ∃ occ w' occ',
      w.runTurn (plainWorker []) { Io.quiet with reads := dribbledLine.take 15 } firstId
          .connectionReady = .ok w'
        ∧ occ'.connection.phase = .reading none
        ∧ NoLostRead Rustls.absent firstId (connectionReady Rustls.absent roomyLimits 0
          occ.connection (dribbledLine.take 15)) occ occ' w' := by
  have hrun : bootsTo (plainWorker []) [acceptOne, .poll]
      (turnLeaves (plainWorker []) { Io.quiet with reads := dribbledLine.take 15 } firstId
        .connectionReady (fun occ occ' _ => decide (occ'.connection.phase = .reading none)
          && (occ.connection.feed Rustls.absent maxReadsPerEvent (dribbledLine.take 15)).2
          && (occ.connection.feed Rustls.absent maxReadsPerEvent
            (dribbledLine.take 15)).1.ssl.isNone)) = true := by
    decide +kernel
  obtain ⟨w, hw, hp⟩ := reachable_of_bootsTo hrun
  obtain ⟨occ, w', occ', hget, hgen, hturn, hget', hocc⟩ := turnLeaves_spec hp
  simp only [Bool.and_eq_true, decide_eq_true_eq, Option.isNone_iff_eq_none] at hocc
  obtain ⟨⟨hphase, hblocked⟩, hplain⟩ := hocc
  refine ⟨w, hw, occ, w', occ', hturn, hphase,
    (no_lost_read_iff hget hgen hturn hget' hphase).mpr (.inl (.inl ⟨hblocked, ?_⟩))⟩
  intro ssl hssl
  change (occ.connection.feed Rustls.absent maxReadsPerEvent (dribbledLine.take 15)).1.ssl
    = some ssl at hssl
  rw [hplain] at hssl
  cases hssl

/-- After sixteen reads the call returns, and no event will say that the rest of
the request is there. -/
theorem sixteen_reads_strand_request :
    ¬ ∀ w, Reachable (plainWorker []) w → ∀ io id occ w' occ' p,
      w.connections.get id.slot = some occ → occ.connection.generation = id.generation →
      w.runTurn (plainWorker []) io id .connectionReady = .ok w' →
      w'.connections.get id.slot = some occ' → occ'.connection.phase = .reading p →
      NoLostRead Rustls.absent id
        (connectionReady Rustls.absent roomyLimits io.now occ.connection io.reads) occ occ' w' := by
  intro hall
  have hrun : bootsTo (plainWorker []) [acceptOne, .poll]
      (turnLeaves (plainWorker []) { Io.quiet with reads := dribbledLine } firstId
        .connectionReady (fun occ occ' w' => decide (occ'.connection.phase = .reading none)
          && (connectionReady Rustls.absent roomyLimits 0 occ.connection dribbledLine).lastRead
            != some .wouldBlock
          && decide (occ'.log.drop occ.log.length = List.replicate 16 (.verdict .keepWaiting))
          && w'.pendingWrites.isEmpty && w'.pendingUpstreamWrites.isEmpty
          && w'.pendingUpstreamReads.isEmpty)) = true := by
    decide +kernel
  obtain ⟨w, hw, hp⟩ := reachable_of_bootsTo hrun
  obtain ⟨occ, w', occ', hget, hgen, hturn, hget', hocc⟩ := turnLeaves_spec hp
  simp only [Bool.and_eq_true, decide_eq_true_eq, bne_iff_ne, ne_eq, List.isEmpty_iff] at hocc
  obtain ⟨⟨⟨⟨⟨hphase, hlast⟩, hlog⟩, hwrites⟩, huwrites⟩, hureads⟩ := hocc
  rcases hall w hw _ firstId occ w' occ' none hget hgen hturn hget' hphase with
    ⟨hblocked, -⟩ | ⟨interest, hmem⟩ | hscheduled
  · exact hlast hblocked
  · rw [hlog] at hmem
    cases List.eq_of_mem_replicate hmem
  · unfold ReadinessWorker.Scheduled at hscheduled
    rw [hwrites, huwrites, hureads] at hscheduled
    simp at hscheduled

/-! ## §4. The writes of a pass. -/

/-- Every write of the budget was accepted or interrupted, and something is left:
of the unsent bytes, or in the session. -/
def exhausts (tls : SocketTls σ) : Nat → Option σ → List UInt8 → List IoWrite → Bool
  | 0, session, unsent, _ => !unsent.isEmpty || session.any tls.wantsWrite
  | writes + 1, none, unsent, socket =>
      if unsent.isEmpty then false
      else
        match socket with
        | .interrupted :: socket => exhausts tls writes none unsent socket
        | .ok (room + 1) :: socket => exhausts tls writes none (unsent.drop (room + 1)) socket
        | _ => false
  | writes + 1, some session, unsent, socket =>
      if !unsent.isEmpty then
        match tls.write session unsent with
        | some (written + 1, session) =>
            exhausts tls writes (some session) (unsent.drop (written + 1)) socket
        | _ => false
      else if tls.wantsWrite session then
        match socket with
        | .interrupted :: socket => exhausts tls writes (some session) unsent socket
        | .ok room :: socket =>
            match tls.writeTlsTo session room with
            | ([], _) => false
            | (_, session) => exhausts tls writes (some session) unsent socket
        | _ => false
      else false

/-- The budget of one event is not enough for what the connection has to write. -/
def Connection.exhausts (tls : SocketTls σ) (socket : List IoWrite) (c : Connection σ) : Bool :=
  Readiness.exhausts tls maxWritesPerEvent (c.ssl.map SslSession.connection) c.unsent socket

theorem unsent_isEmpty_iff : c.unsent.isEmpty = true ↔ c.writeBuffer.length ≤ c.writeOffset := by
  unfold Connection.unsent
  rw [List.isEmpty_iff, List.drop_eq_nil_iff]

theorem writeFinished_iff {tls : Rustls σ} (hle : c.writeOffset ≤ c.writeBuffer.length) :
    c.writeFinished tls = true ↔ c.unsent.isEmpty = true ∧ c.sslWantsWrite tls = false := by
  unfold Connection.writeFinished
  rw [unsent_isEmpty_iff, Bool.and_eq_true, beq_iff_eq, Bool.not_eq_true']
  constructor
  · rintro ⟨heq, hwants⟩
    exact ⟨heq.ge, hwants⟩
  · rintro ⟨hge, hwants⟩
    exact ⟨le_antisymm hle hge, hwants⟩

theorem unsent_advance (now : Instant) (c : Connection σ) (n : Nat) :
    (c.advance now n).unsent = c.unsent.drop n := by
  unfold Connection.unsent Connection.advance
  rw [List.drop_drop]

theorem drop_min_length {α : Type} (n : Nat) (xs : List α) :
    xs.drop (min n xs.length) = xs.drop n := by
  rcases Nat.le_total n xs.length with h | h
  · rw [Nat.min_eq_left h]
  · rw [Nat.min_eq_right h, List.drop_length, List.drop_eq_nil_of_le h]

/-- **A pass stops with something left** exactly if its budget is exhausted. -/
theorem writeLoop_exhausts (tls : SocketTls σ) (now : Instant) :
    ∀ (writes : Nat) (c : Connection σ) (socket : List IoWrite),
      c.writeOffset ≤ c.writeBuffer.length →
      ((writeLoop tls now writes c socket).ending = .stopped
          ∧ (writeLoop tls now writes c socket).connection.writeFinished tls.toRustls = false
        ↔ exhausts tls writes (c.ssl.map SslSession.connection) c.unsent socket = true) := by
  intro writes
  induction writes with
  | zero =>
      intro c socket hle
      unfold writeLoop exhausts
      rw [← Bool.not_eq_true, writeFinished_iff hle]
      cases hssl : c.ssl <;> simp [Connection.sslWantsWrite, hssl]
      tauto
  | succ writes ih =>
      intro c socket hle
      have hadvance : ∀ (c₁ : Connection σ) (n : Nat) (socket : List IoWrite),
          c₁.writeBuffer = c.writeBuffer → c₁.writeOffset = c.writeOffset → n ≤ c.unsent.length →
          ((writeLoop tls now writes (c₁.advance now n) socket).ending = .stopped
              ∧ (writeLoop tls now writes (c₁.advance now n) socket).connection.writeFinished
                tls.toRustls = false
            ↔ exhausts tls writes (c₁.ssl.map SslSession.connection) (c.unsent.drop n) socket
              = true) := by
        intro c₁ n socket hbuffer hoffset hn
        have hrest := ih (c₁.advance now n) socket (by
          unfold Connection.unsent at hn
          rw [List.length_drop] at hn
          show c₁.writeOffset + n ≤ c₁.writeBuffer.length
          rw [hbuffer, hoffset]
          omega)
        rw [unsent_advance] at hrest
        unfold Connection.unsent at hrest ⊢
        rw [hbuffer, hoffset] at hrest
        exact hrest
      by_cases hfinished : c.writeFinished tls.toRustls = true
      · obtain ⟨hempty, hwants⟩ := (writeFinished_iff hle).mp hfinished
        unfold writeLoop
        rw [if_pos hfinished, hfinished]
        unfold Connection.sslWantsWrite at hwants
        cases hssl : c.ssl with
        | none => simp [exhausts, hempty]
        | some ssl =>
            rw [hssl] at hwants
            simp [exhausts, hempty, hwants]
      · have hnot := mt (writeFinished_iff hle).mpr hfinished
        unfold writeLoop
        rw [if_neg hfinished]
        cases hssl : c.ssl with
        | none =>
            have hsome : c.unsent.isEmpty = false := by
              rw [Bool.eq_false_iff]
              exact fun hempty => hnot ⟨hempty, by simp [Connection.sslWantsWrite, hssl]⟩
            show _ ↔ exhausts tls (writes + 1) none c.unsent socket = true
            unfold exhausts
            rw [if_neg (by simp [hsome])]
            have hstep := ih c
            rw [hssl] at hstep
            cases socket with
            | nil => simp
            | cons answer socket =>
                cases answer with
                | wouldBlock | failed => simp
                | interrupted => exact hstep socket hle
                | ok room =>
                    cases room with
                    | zero => simp
                    | succ room =>
                        have hnext := hadvance c (c.unsent.take (room + 1)).length socket rfl rfl
                          (by rw [List.length_take]; exact Nat.min_le_right _ _)
                        have hdrop : c.unsent.drop (c.unsent.take (room + 1)).length
                            = c.unsent.drop (room + 1) := by
                          rw [List.length_take, drop_min_length]
                        rw [hssl, hdrop] at hnext
                        exact hnext
        | some ssl =>
            show _ ↔ exhausts tls (writes + 1) (some ssl.connection) c.unsent socket = true
            unfold exhausts
            by_cases hlt : c.writeOffset < c.writeBuffer.length
            · have hsome : c.unsent.isEmpty = false := by
                rw [Bool.eq_false_iff]
                exact fun hempty => absurd (unsent_isEmpty_iff.mp hempty) (Nat.not_le.mpr hlt)
              dsimp only
              rw [if_pos hlt, if_pos (by simp [hsome])]
              cases hwrite : tls.write ssl.connection c.unsent with
              | none => simp
              | some result =>
                  obtain ⟨written, session⟩ := result
                  cases written with
                  | zero => simp
                  | succ written =>
                      exact hadvance (c.setSession ssl session) (written + 1) socket rfl rfl
                        (tls.write_le _ _ _ _ hwrite)
            · have hempty : c.unsent.isEmpty = true := unsent_isEmpty_iff.mpr (Nat.not_lt.mp hlt)
              have hwants : tls.wantsWrite ssl.connection = true := by
                by_contra hfalse
                refine hnot ⟨hempty, ?_⟩
                unfold Connection.sslWantsWrite
                rw [hssl]
                simpa using hfalse
              dsimp only
              rw [if_neg hlt, if_neg (by simp [hempty]), if_pos hwants]
              have hstep := ih c
              rw [hssl] at hstep
              cases socket with
              | nil => simp
              | cons answer socket =>
                  cases answer with
                  | wouldBlock | failed => simp
                  | interrupted => exact hstep socket hle
                  | ok room =>
                      dsimp only
                      rcases hsent : tls.writeTlsTo ssl.connection room with ⟨bytes, session⟩
                      cases bytes with
                      | nil => simp
                      | cons byte bytes =>
                          exact hadvance (c.setSession ssl session) 0 socket rfl rfl (Nat.zero_le _)

/-- The loop leaves the phase alone and stays within the buffer. -/
theorem writeLoop_keeps (tls : SocketTls σ) (now : Instant) :
    ∀ (writes : Nat) (c : Connection σ) (socket : List IoWrite),
      c.writeOffset ≤ c.writeBuffer.length →
      WritesOnly c (writeLoop tls now writes c socket).connection
        ∧ (writeLoop tls now writes c socket).connection.writeOffset
          ≤ (writeLoop tls now writes c socket).connection.writeBuffer.length := by
  intro writes
  induction writes with
  | zero =>
      intro c socket hle
      exact ⟨⟨rfl, rfl, rfl⟩, hle⟩
  | succ writes ih =>
      intro c socket hle
      have hadvance : ∀ (c₁ : Connection σ) (n : Nat) (socket : List IoWrite), WritesOnly c c₁ →
          c₁.writeBuffer = c.writeBuffer → c₁.writeOffset = c.writeOffset → n ≤ c.unsent.length →
          WritesOnly c (writeLoop tls now writes (c₁.advance now n) socket).connection
            ∧ (writeLoop tls now writes (c₁.advance now n) socket).connection.writeOffset
              ≤ (writeLoop tls now writes (c₁.advance now n) socket).connection.writeBuffer.length := by
        intro c₁ n socket hsame hbuffer hoffset hn
        obtain ⟨hwrites, hrest⟩ := ih (c₁.advance now n) socket (by
          unfold Connection.unsent at hn
          rw [List.length_drop] at hn
          show c₁.writeOffset + n ≤ c₁.writeBuffer.length
          rw [hbuffer, hoffset]
          omega)
        exact ⟨⟨hwrites.generation.trans hsame.generation, hwrites.phase.trans hsame.phase,
          hwrites.staticStream.trans hsame.staticStream⟩, hrest⟩
      have hstop : WritesOnly c c ∧ c.writeOffset ≤ c.writeBuffer.length := ⟨⟨rfl, rfl, rfl⟩, hle⟩
      unfold writeLoop
      split
      · exact hstop
      · split
        next ssl hssl =>
          split
          · split
            · exact hstop
            · exact ⟨⟨rfl, rfl, rfl⟩, hle⟩
            next written session _ hwrite =>
              exact hadvance (c.setSession ssl session) written socket ⟨rfl, rfl, rfl⟩ rfl rfl
                (tls.write_le _ _ _ _ hwrite)
          · split
            · exact hstop
            · exact hstop
            · exact ih c _ hle
            · exact hstop
            · split
              · exact ⟨⟨rfl, rfl, rfl⟩, hle⟩
              next bytes session _ _ =>
                exact hadvance (c.setSession ssl session) 0 _ ⟨rfl, rfl, rfl⟩ rfl rfl (Nat.zero_le _)
        next hssl =>
          split
          · exact hstop
          · exact hstop
          · exact ih c _ hle
          · exact hstop
          · exact hstop
          next room socket _ =>
            exact hadvance c (c.unsent.take room).length socket ⟨rfl, rfl, rfl⟩ rfl rfl
              (by rw [List.length_take]; exact Nat.min_le_right _ _)

/-! ## §5. No lost write. -/

/-- `t'` is `t` with acts noted, the last of which is a registration. -/
def Turn.EndsRegistered (t t' : Turn σ) : Prop :=
  ∃ acts interest, t'.log = t.log ++ (acts ++ [.reregistered interest])

theorem settle_registered {interest : Interest} {acts : List Act} {ok : Bool} {tls : Rustls σ}
    (hseat : t'.toSeat = t.toSeat.settle tls c interest acts ok) (hc' : t'.connection = some c') :
    t.EndsRegistered t' := by
  change t'.toSeat.connection = some c' at hc'
  rw [hseat] at hc'
  obtain ⟨rfl, -⟩ := settle_some hc'
  refine ⟨acts, interest, ?_⟩
  show t'.toSeat.log = _
  rw [hseat]
  exact List.append_assoc _ _ _

theorem Turn.EndsRegistered.after {t₁ : Turn σ} {acts : List Act} (h : t₁.EndsRegistered t')
    (hlog : t₁.log = t.log ++ acts) : t.EndsRegistered t' := by
  obtain ⟨later, interest, hlater⟩ := h
  refine ⟨acts ++ later, interest, ?_⟩
  rw [hlater, hlog]
  simp

theorem reregisterClient_registered (h : t.Current c) {interest : Interest}
    (hrun : reregisterClient env interest t = .ok t') (hc' : t'.connection = some c') :
    t.EndsRegistered t' := by
  obtain ⟨ok, hseat, -⟩ := reregisterClient_settles h hrun
  exact settle_registered hseat hc'

theorem advanceStaticStream_registered (h : t.Current c)
    (hrun : advanceStaticStream env t = .ok t') (hc' : t'.connection = some c') :
    t.EndsRegistered t' := by
  unfold advanceStaticStream at hrun
  rw [h.connection] at hrun
  simp only [h.isCurrent, Bool.not_true, Bool.false_eq_true, if_false] at hrun
  split at hrun
  · cases hrun
  · split at hrun
    · obtain ⟨hseat, -⟩ := mustReregister_settles hrun
      exact settle_registered hseat hc'
    next rest _ =>
      have hnote : (t.put { c with staticStream := some rest }).note []
          = t.put { c with staticStream := some rest } := by simp [Turn.note]
      rw [← hnote] at hrun
      obtain ⟨hseat, -⟩ := mustReregister_settles hrun
      exact settle_registered hseat hc'
    · have hcur : t.countResponse.Current c := ⟨h.connection, h.generation⟩
      rw [removeConnection_current hcur] at hrun
      cases hrun
      cases hc'
    · have hcur : t.countError.Current c := ⟨h.connection, h.generation⟩
      rw [removeConnection_current hcur] at hrun
      cases hrun
      cases hc'

theorem closeClient_registered (h : t.Current c) {site : RemovalSite}
    (hrun : closeClient env site t = .ok t') (hc' : t'.connection = some c') :
    t.EndsRegistered t' := by
  unfold closeClient at hrun
  rw [h.connection] at hrun
  simp only [h.isCurrent, Bool.not_true, Bool.false_eq_true, if_false] at hrun
  split at hrun
  · rw [removeConnection_current h] at hrun
    cases hrun
    cases hc'
  next ssl _ =>
    split_ifs at hrun
    · rw [removeConnection_current h] at hrun
      cases hrun
      cases hc'
    · have hcur : ((t.put { c.setSession ssl (env.tls.sendCloseNotify ssl.connection) with
          sslClosing := true }).note [.closeNotify]).Current
            { c.setSession ssl (env.tls.sendCloseNotify ssl.connection) with
              sslClosing := true } := ⟨rfl, h.generation⟩
      exact (reregisterClient_registered hcur hrun hc').after rfl

/-- A finished write that keeps the connection registers its socket. -/
theorem finishWrite_registered (h : t.Current c) (hrun : finishWrite env c t = .ok t')
    (hc' : t'.connection = some c') : t.EndsRegistered t' := by
  have hcur : t.countResponse.Current c := ⟨h.connection, h.generation⟩
  unfold finishWrite at hrun
  split at hrun
  · exact advanceStaticStream_registered h hrun hc'
  · dsimp only at hrun
    split at hrun
    · exact (closeClient_registered hcur hrun hc').after rfl
    · split_ifs at hrun
      · exact (closeClient_registered hcur hrun hc').after rfl
      · exact (closeClient_registered hcur hrun hc').after rfl
      · have hcur₁ : (t.countResponse.put { c with writeBuffer := [], writeOffset := 0 }).Current
            { c with writeBuffer := [], writeOffset := 0 } := ⟨rfl, h.generation⟩
        cases hreg : reregisterClient env .read
            (t.countResponse.put { c with writeBuffer := [], writeOffset := 0 }) with
        | error e => simp [bind, Except.bind, hreg] at hrun
        | ok t₁ =>
            simp only [bind, Except.bind, hreg, pure, Except.pure] at hrun
            cases hrun
            exact (reregisterClient_registered hcur₁ hreg hc').after rfl

/-- Bytes are left in the write buffer, or ciphertext in the session. -/
def Connection.HasUnsent (tls : Rustls σ) (c : Connection σ) : Prop :=
  c.unsent ≠ [] ∨ c.sslWantsWrite tls = true

theorem hasUnsent_of_unfinished {tls : Rustls σ} (hle : c.writeOffset ≤ c.writeBuffer.length)
    (h : c.writeFinished tls = false) : c.HasUnsent tls := by
  by_contra hnone
  unfold Connection.HasUnsent at hnone
  rw [not_or, not_not, Bool.not_eq_true] at hnone
  rw [(writeFinished_iff hle).mpr ⟨List.isEmpty_iff.mpr hnone.1, hnone.2⟩] at h
  cases h

/-- What `write_ready` leaves of a connection that it keeps: the socket blocked, or
it is registered again, or the budget is exhausted. -/
theorem writeReady_left (h : t.Current c) (hle : c.writeOffset ≤ c.writeBuffer.length)
    (hrun : writeReady env t = .ok t') (hc' : t'.connection = some c') {pass : WritePass σ}
    (hpass : pass = writeLoop env.tls env.now maxWritesPerEvent c env.writes) :
    (c.exhausts env.tls env.writes = false ∧ (pass.ending = .blocked ∨ t.EndsRegistered t'))
    ∨ c.exhausts env.tls env.writes = true ∧ pass.ending = .stopped
      ∧ c'.HasUnsent env.tls.toRustls
      ∧ t'.log = t.log ++ pass.acts.map Act.write
      ∧ t'.writeScheduled = (t.writeScheduled || c.isWritingResponse) := by
  have hexhausts : pass.ending = .stopped ∧ pass.connection.writeFinished env.tls.toRustls = false
      ↔ c.exhausts env.tls env.writes = true := by
    rw [hpass]
    exact writeLoop_exhausts env.tls env.now maxWritesPerEvent c env.writes hle
  have hnot : ∀ {p : Prop}, p → (pass.ending ≠ .stopped
      ∨ pass.connection.writeFinished env.tls.toRustls = true) →
      (c.exhausts env.tls env.writes = false ∧ p) := by
    intro p hp hother
    refine ⟨?_, hp⟩
    rw [Bool.eq_false_iff]
    intro htrue
    obtain ⟨hstopped, hunfinished⟩ := hexhausts.mpr htrue
    rcases hother with hne | hfinished
    · exact hne hstopped
    · rw [hfinished] at hunfinished
      cases hunfinished
  unfold writeReady at hrun
  rw [h.connection] at hrun
  simp only [h.isCurrent, Bool.not_true, Bool.false_eq_true, if_false, ← hpass] at hrun
  split at hrun
  next hdone =>
    -- nothing was to be written: the loop would have stopped at once
    rw [Bool.and_eq_true] at hdone
    refine .inl (hnot (.inr (reregisterClient_registered h hrun hc')) (.inr ?_))
    rw [hpass]
    unfold maxWritesPerEvent writeLoop
    rw [if_pos hdone.2]
    exact hdone.2
  · obtain ⟨hwrites, hle'⟩ : WritesOnly c pass.connection
        ∧ pass.connection.writeOffset ≤ pass.connection.writeBuffer.length := by
      rw [hpass]
      exact writeLoop_keeps env.tls env.now maxWritesPerEvent c env.writes hle
    generalize ht₁ : ((t.wroteBytes pass.bytesWritten).put pass.connection).note
      (pass.acts.map Act.write) = t₁ at hrun
    have hcur₁ : t₁.Current pass.connection := by
      rw [← ht₁]
      exact ⟨rfl, hwrites.generation.trans h.generation⟩
    have hlog₁ : t₁.log = t.log ++ pass.acts.map Act.write := by
      rw [← ht₁]
      rfl
    split at hrun
    next hending => exact .inl (hnot (.inl hending) (.inl (by rw [hending]; simp)))
    · rw [removeConnection_current hcur₁] at hrun
      cases hrun
      cases hc'
    · rw [removeConnection_current hcur₁] at hrun
      cases hrun
      cases hc'
    next hending =>
      split_ifs at hrun with hfinished hphase hwriting
      · have hcur₂ : (t₁.note [.flushed]).Current pass.connection :=
          ⟨hcur₁.connection, hcur₁.generation⟩
        exact .inl (hnot (.inr (((finishWrite_registered hcur₂ hrun hc').after rfl).after hlog₁))
          (.inr hfinished))
      · have hcur₂ : (t₁.note [.flushed]).Current pass.connection :=
          ⟨hcur₁.connection, hcur₁.generation⟩
        exact .inl (hnot (.inr (((reregisterClient_registered hcur₂ hrun hc').after rfl).after hlog₁))
          (.inr hfinished))
      · have hsame : c.isWritingResponse = true := by
          rw [Connection.isWritingResponse_iff] at hwriting ⊢
          exact hwrites.phase.symm.trans hwriting
        have hunfinished : pass.connection.writeFinished env.tls.toRustls = false := by
          simpa using hfinished
        cases hrun
        have hsome := hcur₁.connection
        rw [show t₁.connection = some c' from hc'] at hsome
        injection hsome with hsome
        exact .inr ⟨hexhausts.mp ⟨hending, hunfinished⟩, hending,
          hsome ▸ hasUnsent_of_unfinished hle' hunfinished, hlog₁, by rw [hsame]; simp⟩
      · have hsame : c.isWritingResponse = false := by
          rw [Connection.isWritingResponse_iff] at hwriting
          rw [Bool.eq_false_iff, ne_eq, Connection.isWritingResponse_iff]
          exact fun heq => hwriting (hwrites.phase.trans heq)
        have hunfinished : pass.connection.writeFinished env.tls.toRustls = false := by
          simpa using hfinished
        cases hrun
        have hsome := hcur₁.connection
        rw [hc'] at hsome
        injection hsome with hsome
        refine .inr ⟨hexhausts.mp ⟨hending, hunfinished⟩, hending,
          hsome ▸ hasUnsent_of_unfinished hle' hunfinished, hlog₁, ?_⟩
        rw [hsame, ← ht₁]
        simp [Turn.wroteBytes, Turn.put, Turn.note]

/-- What a call of `write_ready` has to leave behind of unsent bytes. -/
def NoLostWrite (id : ConnectionId) (pass : WritePass σ) (occ occ' : Occupant σ)
    (w' : ReadinessWorker σ) : Prop :=
  pass.ending = .blocked ∨ occ.ReregisteredSince occ' ∨ id ∈ w'.pendingWrites

/-- **When no write is lost**: a call of `write_ready` that returns with the
connection open and with unsent bytes leaves it to be resumed exactly if the
connection is writing a response, or was in `pending_writes` for another time, or
the budget is not exhausted. -/
theorem no_lost_write_iff {io : Io} {id : ConnectionId} {due : Bool} {occ occ' : Occupant σ}
    (h : Reachable cfg w) (hget : w.connections.get id.slot = some occ)
    (hgen : occ.connection.generation = id.generation)
    (hrun : w.runTurn cfg io id (.writeReady due) = .ok w')
    (hget' : w'.connections.get id.slot = some occ') :
    (occ'.connection.HasUnsent cfg.tls.toRustls → NoLostWrite id
        (writeLoop cfg.tls io.now maxWritesPerEvent occ.connection io.writes) occ occ' w')
      ↔ occ.connection.phase = .writingResponse ∨ (id ∈ w.pendingWrites ∧ due = false)
        ∨ occ.connection.exhausts cfg.tls io.writes = false := by
  have hle := (h.phases.live id.slot occ hget).2
  obtain ⟨t, ht, rfl⟩ := runTurn_eq hrun
  have hcur : ((w.view id).drain due).Current occ.connection :=
    ⟨(view_current hget hgen).connection, (view_current hget hgen).generation⟩
  obtain ⟨hc', hlog⟩ := commit_occupant hget hget'
  have hview : ((w.view id).drain due).log = occ.log := by
    simp [Turn.drain, ReadinessWorker.view, hget]
  have hpending : id ∈ (w.commit id (.writeReady due) io t).pendingWrites
      ↔ t.writeScheduled = true := by
    unfold ReadinessWorker.commit
    simp [mem_setMember]
  unfold NoLostWrite
  rw [hpending]
  rcases writeReady_left hcur hle ht hc' rfl with
    ⟨hfits, hleft⟩ | ⟨hexhausts, hstopped, hunsent, hacts, hflag⟩
  · refine iff_of_true (fun _ => ?_) (.inr (.inr hfits))
    rcases hleft with hblocked | ⟨acts, interest, hlog'⟩
    · exact .inl hblocked
    · refine .inr (.inl ⟨interest, ?_⟩)
      rw [hlog, hlog', hview]
      simp
  · have hnot : ¬ occ.ReregisteredSince occ' := by
      rintro ⟨interest, hmem⟩
      rw [hlog, hacts, hview, List.drop_left] at hmem
      obtain ⟨act, -, heq⟩ := List.mem_map.mp hmem
      cases heq
    have hscheduled : t.writeScheduled = true
        ↔ (id ∈ w.pendingWrites ∧ due = false) ∨ occ.connection.phase = .writingResponse := by
      rw [hflag, Bool.or_eq_true, Connection.isWritingResponse_iff]
      simp [Turn.drain, ReadinessWorker.view]
    change (writeLoop cfg.tls io.now maxWritesPerEvent occ.connection io.writes).ending = .stopped
      at hstopped
    change occ.connection.exhausts cfg.tls io.writes = true at hexhausts
    change occ'.connection.HasUnsent cfg.tls.toRustls at hunsent
    rw [hscheduled, hstopped, hexhausts]
    simp only [hunsent, reduceCtorEq, hnot, false_or, true_implies]
    tauto

/-- A proxied request has been forwarded, and twenty bytes of its response were
taken into the write buffer. -/
def relayedChunk : List Event :=
  resolvedRequest ++
    [firstReady .upstream false true { Io.quiet with upstreamWrites := [.ok 4096] },
     firstReady .upstream true false
       { Io.quiet with upstreamReads := [.ok (List.replicate 20 65)] },
     .poll]

/-- Sixteen writes of one byte each. -/
def dribbledWrites : List IoWrite := List.replicate 16 (.ok 1)

theorem no_lost_write_iff_blocked :
    ∃ w, Reachable (plainWorker proxyAll) w ∧ ∃ occ w' occ',
      w.runTurn (plainWorker proxyAll) { Io.quiet with writes := [.ok 1] } firstId
          (.writeReady false) = .ok w'
        ∧ occ'.connection.unsent = List.replicate 19 65
        ∧ NoLostWrite firstId (writeLoop SocketTls.absent 0 maxWritesPerEvent occ.connection
          [.ok 1]) occ occ' w' := by
  have hrun : bootsTo (plainWorker proxyAll) relayedChunk
      (turnLeaves (plainWorker proxyAll) { Io.quiet with writes := [.ok 1] } firstId
        (.writeReady false) (fun occ occ' _ =>
          decide (occ'.connection.unsent = List.replicate 19 65)
          && !occ.connection.exhausts SocketTls.absent [.ok 1])) = true := by
    decide +kernel
  obtain ⟨w, hw, hp⟩ := reachable_of_bootsTo hrun
  obtain ⟨occ, w', occ', hget, hgen, hturn, hget', hocc⟩ := turnLeaves_spec hp
  simp only [Bool.and_eq_true, decide_eq_true_eq, Bool.not_eq_true'] at hocc
  refine ⟨w, hw, occ, w', occ', hturn, hocc.1,
    (no_lost_write_iff hw hget hgen hturn hget').mpr (.inr (.inr hocc.2)) (.inl ?_)⟩
  rw [hocc.1]
  simp

/-- After sixteen writes of a relayed chunk the call returns, and nothing will
write the rest. -/
theorem sixteen_writes_strand_chunk :
    ¬ ∀ w, Reachable (plainWorker proxyAll) w → ∀ io id due occ w' occ',
      w.connections.get id.slot = some occ → occ.connection.generation = id.generation →
      w.runTurn (plainWorker proxyAll) io id (.writeReady due) = .ok w' →
      w'.connections.get id.slot = some occ' → occ'.connection.HasUnsent Rustls.absent →
      NoLostWrite id (writeLoop SocketTls.absent io.now maxWritesPerEvent occ.connection io.writes)
        occ occ' w' := by
  intro hall
  have hrun : bootsTo (plainWorker proxyAll) relayedChunk
      (turnLeaves (plainWorker proxyAll) { Io.quiet with writes := dribbledWrites } firstId
        (.writeReady false) (fun occ occ' w' => !occ'.connection.unsent.isEmpty
          && decide ((writeLoop SocketTls.absent 0 maxWritesPerEvent occ.connection
            dribbledWrites).ending = .stopped)
          && decide (occ'.log.drop occ.log.length
            = List.replicate 16 (.write (.wrote [65])))
          && w'.pendingWrites.isEmpty)) = true := by
    decide +kernel
  obtain ⟨w, hw, hp⟩ := reachable_of_bootsTo hrun
  obtain ⟨occ, w', occ', hget, hgen, hturn, hget', hocc⟩ := turnLeaves_spec hp
  simp only [Bool.and_eq_true, decide_eq_true_eq, Bool.not_eq_true', List.isEmpty_iff] at hocc
  obtain ⟨⟨⟨hunsent, hstopped⟩, hlog⟩, hwrites⟩ := hocc
  have hsome : occ'.connection.unsent ≠ [] := by
    intro hnil
    rw [hnil] at hunsent
    cases hunsent
  rcases hall w hw _ firstId false occ w' occ' hget hgen hturn hget' (.inl hsome) with
    hblocked | ⟨interest, hmem⟩ | hpending
  · change (writeLoop SocketTls.absent 0 maxWritesPerEvent occ.connection dribbledWrites).ending
      = .blocked at hblocked
    rw [hstopped] at hblocked
    cases hblocked
  · rw [hlog] at hmem
    cases List.eq_of_mem_replicate hmem
  · rw [hwrites] at hpending
    cases hpending

end Thwip.Readiness
