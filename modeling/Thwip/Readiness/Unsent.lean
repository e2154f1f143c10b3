/-
  Thwip.Readiness.Unsent — what a TLS connection still has to send when it is removed.

  Bytes of a response leave the write buffer when the session accepts them, and the
  worker when the socket takes the ciphertext.  `write_ready` takes a full session for
  a failed one; `pump_static_streams`, `begin_shutdown` and `fail_proxy` remove the
  connection without asking the session, and so does a record that it rejects.
-/
import Thwip.Readiness.Exchange

namespace Thwip.Readiness

open Thwip.Lib

variable {σ : Type} {cfg : Config σ} {w w' : ReadinessWorker σ} {limits : WorkerLimits}
  {tls : Rustls σ} {c c' : Connection σ} {log log' acts : List Act}

/-! ## §1. What is asked of a removal. -/

/-- Whether bytes of a response are in the session after this act. -/
def Act.fills (filled : Bool) : Act → Bool
  | .write (.handed bytes) => filled || !bytes.isEmpty
  | .write (.sentTls _ more) => filled && more
  -- both are noted with nothing left in the session
  | .flushed | .closeNotify => false
  | _ => filled

/-- The session was handed bytes of a response since it last had nothing to send. -/
def holdsResponse (log : List Act) : Bool := log.foldl Act.fills false

/-- Bytes of a response that the session has not accepted, or has not sent. -/
def unsentResponse (log : List Act) (unsent : List UInt8) (wantsWrite : Bool) : Bool :=
  !unsent.isEmpty || wantsWrite && holdsResponse log

def Connection.owesResponse (tls : Rustls σ) (log : List Act) (self : Connection σ) : Bool :=
  unsentResponse log self.unsent (self.sslWantsWrite tls)

def TurnEvent.isProxyTimeout : TurnEvent → Bool
  | .proxyExpired _ => true
  | _ => false

/-- In a turn for `event` the client's socket failed, the client closed, or a
deadline passed. -/
def RemovalSite.beyondWorker (event : TurnEvent) : RemovalSite → Bool
  | .clientError | .readFailed | .writeFailed | .reregisterFailed => true
  | .clientClosed _ | .readClosed => true
  | .idle | .handshakeExpired | .drainDeadline => true
  | .proxyFailed => event.isProxyTimeout
  | .tlsFailed | .writerRefused | .upstreamEof | .delivered | .draining | .streamFinished
  | .streamFailed | .shutdown => false

/-- The removal that ended this trace, in a turn for `event`, left nothing of a
response unsent, or was not the worker's choice. -/
def SentOut (event : TurnEvent) (trace : List Act) : Prop :=
  ∃ log site unsent wantsWrite, trace = log ++ [.removed site unsent wantsWrite]
    ∧ (site.beyondWorker event = true ∨ unsentResponse log unsent wantsWrite = false)

/-- The removal of a TLS connection comes right behind the turn in which it happened,
and everything was sent out. -/
def RemovedSentOut (before : List (HistoryItem σ)) : HistoryItem σ → Prop
  | .removed id trace => trace.head? = some (.accepted true) →
      ∃ event io found, before.getLast? = some (.turn id event io found) ∧ SentOut event trace
  | _ => True

/-- The file of the connection has no more chunks, or cannot be read. -/
def Connection.streamEnds (arrived : Bool) (self : Connection σ) : Bool :=
  match self.staticStream with
  | none => false
  | some stream =>
      match (stream.tryNext arrived).1 with
      | some .finished | none => true
      | _ => false

/-- A record of the client that the session rejects ends the read pass, with bytes of a
response unsent. -/
def ReadPass.rejectsUnsent (tls : Rustls σ) (log : List Act) (self : ReadPass σ) : Bool :=
  self.closed && self.closeSite == .tlsFailed && self.connection.owesResponse tls log

/-- A turn for `event` finds the TLS connection so that it gives up bytes of its
response. -/
def Connection.losesResponse (cfg : Config σ) (event : TurnEvent) (io : Io) (log : List Act)
    (self : Connection σ) : Bool :=
  match event with
  | .writeReady _ =>
      self.ssl.any (fun ssl =>
        !writerTakes cfg.tls.toRustls maxWritesPerEvent ssl.connection self.unsent)
  | .pump => self.streamEnds io.arrived && self.owesResponse cfg.tls.toRustls log
  | .shutdown | .upstreamError => self.owesResponse cfg.tls.toRustls log
  | .connectionReady =>
      (connectionReady cfg.tls.toRustls cfg.limits io.now self io.reads).rejectsUnsent
        cfg.tls.toRustls log
  | _ => false

/-- What a turn finds of a TLS connection does not make it give up bytes of a
response. -/
def keepsResponses (cfg : Config σ) : HistoryItem σ → Bool
  | .turn _ event io found =>
      found.connection.all (fun c => c.ssl.isNone || !c.losesResponse cfg event io found.log)
  | _ => true

/-! ## §2. What is in a session. -/

theorem holdsResponse_append (log acts : List Act) :
    holdsResponse (log ++ acts) = acts.foldl Act.fills (holdsResponse log) :=
  List.foldl_append

/-- Acts that concern no session. -/
def Still (acts : List Act) : Prop := ∀ act ∈ acts, ∀ filled, act.fills filled = filled

theorem still_nil : Still [] := fun _ hact => (by cases hact)

theorem still_single {act : Act} (h : ∀ filled, act.fills filled = filled) : Still [act] := by
  intro act' hact
  rw [List.mem_singleton.mp hact]
  exact h

theorem Still.append {later : List Act} (h : Still acts) (h' : Still later) :
    Still (acts ++ later) := by
  intro act hact
  rcases List.mem_append.mp hact with hact | hact
  · exact h act hact
  · exact h' act hact

theorem still_verdicts (verdicts : List ReadVerdict) : Still (verdicts.map Act.verdict) := by
  intro act hact filled
  obtain ⟨verdict, -, rfl⟩ := List.mem_map.mp hact
  rfl

theorem still_forwarded (chunks : List (List UInt8)) : Still (chunks.map Act.forwarded) := by
  intro act hact filled
  obtain ⟨chunk, -, rfl⟩ := List.mem_map.mp hact
  rfl

theorem Still.holds (h : Still acts) : holdsResponse (log ++ acts) = holdsResponse log := by
  rw [holdsResponse_append]
  generalize holdsResponse log = filled
  induction acts with
  | nil => rfl
  | cons act acts ih =>
      rw [List.foldl_cons, h act List.mem_cons_self]
      exact ih (fun act hact => h act (List.mem_cons_of_mem _ hact))

/-- Only a response of the worker's own, and a chunk of the upstream's, can be in the
session; with the buffer empty, nothing of the chunk is. -/
def Connection.HoldsOwn (tls : Rustls σ) (c : Connection σ) (log : List Act) : Prop :=
  holdsResponse log = true → c.phase = .writingResponse
    ∨ c.isProxying = true ∧ (c.writeBuffer = [] → c.sslWantsWrite tls = false)

theorem Connection.HoldsOwn.congr (h : c.HoldsOwn tls log)
    (hlog : holdsResponse log' = true → holdsResponse log = true) (hphase : c'.phase = c.phase)
    (hbuffer : c'.writeBuffer = c.writeBuffer)
    (hwants : c'.sslWantsWrite tls = c.sslWantsWrite tls) : c'.HoldsOwn tls log' := by
  intro hholds
  unfold Connection.isProxying
  rw [hphase, hbuffer, hwants]
  exact h (hlog hholds)

theorem Connection.HoldsOwn.writing (hphase : c.phase = .writingResponse) : c.HoldsOwn tls log :=
  fun _ => .inl hphase

/-- A connection that still reads its request, or resolves its upstream. -/
theorem Connection.HoldsOwn.nothing (h : c.HoldsOwn tls log) (hphase : c.phase ≠ .writingResponse)
    (hproxying : c.isProxying = false) : holdsResponse log = false := by
  by_contra hholds
  rcases h (by simpa using hholds) with hwriting | ⟨htrue, -⟩
  · exact hphase hwriting
  · rw [hproxying] at htrue
    cases htrue

/-- What a settled change leaves, if its acts concern no session. -/
theorem holdsOwn_settle {s : Seat σ} {interest : Interest} {ok : Bool} (hacts : Still acts)
    (h : c'.HoldsOwn tls s.log)
    (hc : (s.settle tls c' interest acts ok).connection = some c) :
    c.HoldsOwn tls (s.settle tls c' interest acts ok).log := by
  obtain ⟨rfl, rfl⟩ := settle_some hc
  refine h.congr ?_ rfl rfl rfl
  intro hholds
  change holdsResponse (s.log ++ acts ++ [.reregistered interest]) = true at hholds
  rwa [(still_single (fun _ => rfl)).holds, hacts.holds] at hholds

/-- As long as the loop is not finished, an empty buffer means that the session has
something to send. -/
theorem wantsWrite_of_unfinished (hoffset : c.writeOffset ≤ c.writeBuffer.length)
    (hunfinished : c.writeFinished tls = false) (hempty : c.writeBuffer = []) :
    c.sslWantsWrite tls = true := by
  rw [hempty, List.length_nil] at hoffset
  unfold Connection.writeFinished at hunfinished
  rw [hempty] at hunfinished
  simpa [Nat.le_zero.mp hoffset] using hunfinished

/-- **Every move.** -/
theorem Move.holdsOwn {env : Env σ} {event : TurnEvent} {s₀ s s' : Seat σ}
    (hmove : Move env event s₀ s s') (hc : s.connection = some c)
    (hinv : PhaseInv env.limits c s.log) (hoffset : c.writeOffset ≤ c.writeBuffer.length)
    (h : c.HoldsOwn env.tls.toRustls s.log) (hc' : s'.connection = some c') :
    c'.HoldsOwn env.tls.toRustls s'.log := by
  have hsame {c₁ : Connection σ} (hc₁ : s.connection = some c₁) : c = c₁ :=
    Seat.connection_unique hc hc₁
  cases hmove with
  | rescheduled | drained | scheduled =>
      obtain rfl := hsame hc'
      exact h
  | flushed =>
      intro hholds
      rw [Seat.note, holdsResponse_append] at hholds
      cases hholds
  | counted =>
      obtain rfl := hsame hc'
      refine h.congr ?_ rfl rfl rfl
      intro hholds
      rwa [Seat.note, (still_single (fun _ => rfl)).holds] at hholds
  | touched hc₁ =>
      obtain rfl := hsame hc₁
      cases hc'
      exact h.congr id rfl rfl rfl
  | spoiled hc₁ hssl session hunfinished =>
      obtain rfl := hsame hc₁
      cases hc'
      intro hholds
      refine (h hholds).imp_right (fun hproxying => ⟨hproxying.1, fun hempty => ?_⟩)
      -- the session was idle, and yet it had something to send
      have hidle := hproxying.2 hempty
      rw [wantsWrite_of_unfinished hoffset hunfinished hempty] at hidle
      cases hidle
  | waited hc₁ _ _ _ hhandling pass hpass hverdicts =>
      obtain rfl := hsame hc₁
      cases hc'
      have hreads := connectionReady_readsOnly env.tls.toRustls env.limits env.now hhandling
        env.reads
      rw [← hpass] at hreads
      intro hholds
      rw [Seat.note, (still_verdicts _).holds] at hholds
      rcases h hholds with hwriting | ⟨hproxying, -⟩
      · refine .inl ?_
        rcases hreads.phase with ⟨p, p', hp, -⟩ | hphase
        · rw [hwriting] at hp
          cases hp
        · exact hphase.trans hwriting
      · obtain ⟨proxy, hproxy⟩ := Connection.isProxying_iff.mp hproxying
        rw [Connection.isHandlingRequest_iff.mpr (.inr ⟨proxy, hproxy⟩)] at hhandling
        cases hhandling
  | replied hc₁ _ _ _ _ pass _ _ hreply ok =>
      obtain ⟨rfl, rfl⟩ := settle_some hc'
      exact .writing rfl
  | resolving hc₁ _ _ _ hhandling pass hpass hlast upstream bytes hbytes =>
      obtain rfl := hsame hc₁
      obtain ⟨p, hp⟩ := dispatched_reading hhandling hpass hinv.awaits (List.mem_of_getLast? hlast)
      have hnothing := h.nothing (by simp [hp]) (by simp [Connection.isProxying, hp])
      intro hholds
      have hstill : Still (pass.verdicts.map Act.verdict ++ [.proxied, .forwarding bytes]) :=
        (still_verdicts _).append
          ((still_single (fun _ => rfl)).append (still_single (fun _ => rfl)))
      rw [Seat.note, hstill.holds] at hholds
      change holdsResponse s.log = true at hholds
      rw [hnothing] at hholds
      cases hholds
  | connecting hc₁ resolution hresolution =>
      obtain rfl := hsame hc₁
      cases hc'
      have hp := Connection.resolution_eq_some.mp hresolution
      have hnothing := h.nothing (by simp [hp]) (by simp [Connection.isProxying, hp])
      intro hholds
      change holdsResponse s.log = true at hholds
      rw [hnothing] at hholds
      cases hholds
  | forwarded hc₁ hproxy hphase hforwards now hnow =>
      obtain rfl := hsame hc₁
      cases hc'
      intro hholds
      rw [Seat.note, (still_forwarded _).holds] at hholds
      rcases h hholds with hwriting | ⟨-, hidle⟩
      · rw [Connection.proxy_eq_some.mp hproxy] at hwriting
        cases hwriting
      · exact .inr ⟨rfl, hidle⟩
  | failed hc₁ =>
      obtain ⟨rfl, rfl⟩ := settle_some hc'
      exact .writing rfl
  | relayed hc₁ hproxy hphase hempty bytes hne hle ok =>
      obtain ⟨rfl, rfl⟩ := settle_some hc'
      exact fun _ => .inr ⟨rfl, fun hnone => absurd hnone hne⟩
  | wrote hc₁ _ hssl =>
      obtain rfl := hsame hc₁
      cases hc'
      refine h.congr ?_ rfl rfl rfl
      intro hholds
      rwa [Seat.note, (still_single (fun _ => rfl)).holds] at hholds
  | handed hc₁ hssl hunsent =>
      obtain rfl := hsame hc₁
      cases hc'
      have hne : c.writeBuffer ≠ [] := by
        intro hempty
        rw [hempty] at hunsent
        exact Nat.not_lt_zero _ hunsent
      intro _
      cases hinv with
      | reading _ _ hbuffer | resolving _ _ hbuffer => exact absurd hbuffer hne
      | proxying proxy hp =>
          exact .inr ⟨Connection.isProxying_iff.mpr ⟨proxy, hp⟩, fun hempty => absurd hempty hne⟩
      | writing hp => exact .inl hp
  | sentTls hc₁ hssl hunsent bytes session hunfinished =>
      obtain rfl := hsame hc₁
      cases hc'
      intro hholds
      rw [Seat.note, holdsResponse_append] at hholds
      have hbefore : holdsResponse s.log = true := by
        simp only [List.foldl_cons, List.foldl_nil, Act.fills, Bool.and_eq_true] at hholds
        exact hholds.1
      refine (h hbefore).imp_right (fun hproxying => ⟨hproxying.1, fun hempty => ?_⟩)
      have hidle := hproxying.2 hempty
      rw [wantsWrite_of_unfinished hoffset hunfinished hempty] at hidle
      cases hidle
  | chunk hc₁ hstream =>
      obtain rfl := hsame hc₁
      obtain ⟨-, rfl⟩ := settle_some hc'
      exact .writing ((hinv.coherent hoffset).stream (by rw [hstream]; rfl))
  | awaiting hc₁ | idled hc₁ | flushing hc₁ =>
      obtain rfl := hsame hc₁
      exact holdsOwn_settle still_nil h hc'
  | closing hc₁ hssl hfinished hstatic hphase ok =>
      obtain ⟨rfl, rfl⟩ := settle_some hc'
      intro hholds
      change holdsResponse (s.log ++ [.closeNotify] ++ [.reregistered _]) = true at hholds
      rw [List.append_assoc, holdsResponse_append] at hholds
      cases hholds
  | emptied hc₁ hproxy hfinished ok =>
      obtain rfl := hsame hc₁
      refine holdsOwn_settle still_nil ?_ hc'
      intro hholds
      refine .inr ⟨Connection.isProxying_iff.mpr ⟨_, Connection.proxy_eq_some.mp hproxy⟩, ?_⟩
      exact fun _ => (Connection.writeFinished_spec hfinished).2
  | removed => cases hc'

/-- What is in the sessions, as an invariant of seats. -/
def sessionRule (cfg : Config σ) : (routeRule cfg).rule.Over where
  Inv s c := c.HoldsOwn cfg.tls.toRustls s.log
  Gone _ := True
  Guard _ := True
  fresh := by
    intro s c hfresh hc hholds
    cases hfresh
    cases hholds
  poll _ _ h := h
  move := by
    intro env id io event s₀ s s' c₀ c henv _ _ _ _ _ _ hc _ hroute hinv hmove
    subst henv
    exact ⟨fun c' hc' => hmove.holdsOwn hc hroute.1.1 hroute.1.2 hinv hc', fun _ => trivial⟩

/-! ## §3. One turn. -/

theorem owes_iff : c.owesResponse tls log = false
    ↔ c.unsent = [] ∧ (c.sslWantsWrite tls = true → holdsResponse log = false) := by
  unfold Connection.owesResponse unsentResponse
  rw [Bool.or_eq_false_iff, Bool.not_eq_false', List.isEmpty_iff, Bool.and_eq_false_imp]

theorem unsent_of_offset (hoffset : c.writeOffset = c.writeBuffer.length) : c.unsent = [] := by
  unfold Connection.unsent
  rw [hoffset, List.drop_length]

theorem owes_of_finished (h : c.writeFinished tls = true) : c.owesResponse tls log = false := by
  obtain ⟨hunsent, hwants⟩ := Connection.writeFinished_spec h
  rw [owes_iff, hwants]
  exact ⟨hunsent, fun hfalse => (by cases hfalse)⟩

/-- Between two chunks of the upstream nothing is owed to the client. -/
theorem Connection.HoldsOwn.between (h : c.HoldsOwn tls log) {proxy : ProxyState}
    (hproxy : c.proxy = some proxy) (hempty : c.writeBuffer = []) :
    c.owesResponse tls log = false := by
  rw [owes_iff]
  refine ⟨by rw [Connection.unsent, hempty, List.drop_nil], fun hwants => ?_⟩
  by_contra hholds
  rcases h (by simpa using hholds) with hwriting | ⟨-, hidle⟩
  · rw [Connection.proxy_eq_some.mp hproxy] at hwriting
    cases hwriting
  · rw [hidle hempty] at hwants
    cases hwants

theorem closeSite_cases (pass : ReadPass σ) :
    pass.closeSite = .readClosed ∨ pass.closeSite = .tlsFailed ∨ pass.closeSite = .readFailed := by
  unfold ReadPass.closeSite
  split
  · exact .inl rfl
  · exact .inr (.inl rfl)
  · exact .inr (.inr rfl)

/-- **Why a TLS connection is removed with bytes of its response unsent**: in a turn
that does not give them up, only for a reason of the client's, or a deadline. -/
theorem Cause.sentOut {env : Env σ} {id : ConnectionId} {event : TurnEvent} {s₀ s : Seat σ}
    {site : RemovalSite} {c₀ : Connection σ} (hcause : Cause env event s₀ s c site)
    (hguard : keepsResponses env.toConfig (.turn id event env.toIo s₀) = true)
    (hfound : s₀.connection = some c₀) (hinv₀ : PhaseInv env.limits c₀ s₀.log)
    (hssl : c₀.ssl.isSome = true) (hholds : c.HoldsOwn env.tls.toRustls s.log) :
    site.beyondWorker event = true ∨ c.owesResponse env.tls.toRustls s.log = false := by
  have hkeeps : c₀.losesResponse env.toConfig event env.toIo s₀.log = false := by
    have hnone : c₀.ssl.isNone = false := by
      rw [← Option.not_isSome, hssl]
      rfl
    simpa [keepsResponses, hfound, hnone] using hguard
  have hsame {c₁ : Connection σ} (hc₁ : s₀.connection = some c₁) : c₁ = c₀ :=
    Seat.connection_unique hc₁ hfound
  have hfile : ∀ {stream : StaticStream}, event = .pump → s₀.connection = some c →
      c.staticStream = some stream →
      (stream.tryNext env.arrived).1 = some .finished ∨ (stream.tryNext env.arrived).1 = none →
      c.owesResponse env.tls.toRustls s₀.log = false := by
    rintro stream rfl hc hstream hend
    obtain rfl := hsame hc
    have hends : c.streamEnds env.arrived = true := by
      unfold Connection.streamEnds
      rw [hstream]
      dsimp only
      rcases hend with hend | hend <;> rw [hend]
    change (c.streamEnds env.arrived && _) = false at hkeeps
    rw [hends, Bool.true_and] at hkeeps
    exact hkeeps
  cases hcause with
  | clientError | clientClosed | writeFailed | idle | handshakeExpired | drainDeadline =>
      exact .inl rfl
  | closed c₁ hevent hfound' hclosed hcurrent hlog =>
      obtain rfl := hsame hfound'
      subst hevent
      change ReadPass.rejectsUnsent _ _ _ = false at hkeeps
      unfold ReadPass.rejectsUnsent at hkeeps
      rw [hclosed, Bool.true_and, ← hcurrent] at hkeeps
      obtain ⟨verdicts, hlog, -⟩ := hlog
      rw [hlog, Connection.owesResponse, unsentResponse, (still_verdicts verdicts).holds]
      rcases closeSite_cases (connectionReady env.tls.toRustls env.limits env.now c₁ env.reads)
        with hsite | hsite | hsite
      · exact .inl (hsite ▸ rfl)
      · rw [hsite] at hkeeps
        exact .inr hkeeps
      · exact .inl (hsite ▸ rfl)
  | writerRefused c₁ ssl due hevent hfound' hssl₁ hphase hrefused =>
      obtain rfl := hsame hfound'
      subst hevent
      change c₁.ssl.any _ = false at hkeeps
      rw [hssl₁] at hkeeps
      rw [Option.any_some, hrefused] at hkeeps
      cases hkeeps
  | upstreamEof due proxy hevent hfound' hproxy hphase hempty =>
      exact .inr (hholds.between hproxy hempty)
  | proxyFailed proxy hproxy hstarted hfailure =>
      cases hfailure with
      | reported hfound' hlog hevent =>
          obtain rfl := hsame hfound'
          rcases hevent with rfl | ⟨phase, rfl⟩
          · rw [hlog]
            exact .inr hkeeps
          · exact .inl rfl
      | reading due hevent hempty => exact .inr (hholds.between hproxy hempty)
      | writing due hevent c₁ proxy₁ hfound' hproxy₁ hphase hsame₁ hbuffer =>
          -- while the request is forwarded there is no response yet
          exfalso
          obtain rfl := hsame hfound'
          obtain ⟨-, -, -, -, hreading, hfilled, -⟩ := hinv₀.exchange hproxy₁
          rw [hbuffer, hsame₁] at hstarted
          exact hphase (hreading (hstarted.elim (fun hstarted => hstarted) hfilled))
  | delivered hfinished | draining hfinished => exact .inr (owes_of_finished hfinished)
  | streamFinished stream hstream hend hoffset hevent hserved =>
      refine .inr (owes_iff.mpr ⟨unsent_of_offset hoffset, fun hwants => ?_⟩)
      rcases hevent with hidle | ⟨hpump, hfound', hlog⟩
      · rw [hidle] at hwants
        cases hwants
      · obtain ⟨rest, hend⟩ := hend
        rw [hlog, (still_single (fun _ => rfl)).holds]
        exact (owes_iff.mp (hfile hpump hfound' hstream (.inl (by rw [hend])))).2 hwants
  | streamFailed stream hstream hend hoffset hevent hserved =>
      refine .inr (owes_iff.mpr ⟨unsent_of_offset hoffset, fun hwants => ?_⟩)
      rcases hevent with hidle | ⟨hpump, hfound', hlog⟩
      · rw [hidle] at hwants
        cases hwants
      · obtain ⟨rest, hend⟩ := hend
        rw [hlog]
        exact (owes_iff.mp (hfile hpump hfound' hstream (.inr (by rw [hend])))).2 hwants
  | shutdown hevent hfirst hfound' =>
      obtain rfl := hsame hfound'
      subst hevent hfirst
      exact .inr hkeeps

/-- The removals in turns for `event`. -/
def sentRule (cfg : Config σ) (event : TurnEvent) : (sessionRule cfg).rule.Over where
  Inv _ _ := True
  Gone trace := trace.head? = some (.accepted true) → SentOut event trace
  Guard item := keepsResponses cfg item = true
    ∧ ∀ id event' io found, item = .turn id event' io found → event' = event
  fresh _ _ := trivial
  poll _ _ _ := trivial
  move := by
    intro env id io event' s₀ s s' c₀ c henv hio hguard hfound _ hinv₀ _ hc hkept hinv _ hmove
    subst henv hio
    obtain rfl := hguard.2 _ _ _ _ rfl
    refine ⟨fun _ _ => trivial, fun hnone hhead => ?_⟩
    have hssl : c₀.ssl.isSome = true := by
      obtain ⟨later, hlater⟩ := hkept.log
      obtain ⟨later', hlater'⟩ := hmove.kept.log
      have hopens : s₀.log.head? = some (.accepted c₀.ssl.isSome) := hinv₀.1.2.1
      rw [← hlater', ← hlater, List.head?_append, List.head?_append, hopens] at hhead
      simpa using hhead
    rcases hmove.removal hc hnone with ⟨site, hcause, rfl⟩ | ⟨acts, c', rfl⟩
    · exact ⟨s.log, site, _, _, rfl,
        hcause.sentOut hguard.1 hfound hinv₀.1.1.1 hssl hinv.2⟩
    · exact ⟨s.log ++ acts, _, _, _, rfl, .inl rfl⟩

/-! ## §4. Every run. -/

/-- A turn that removes a TLS connection has sent out its response. -/
theorem turn_sendsOut {io : Io} {id : ConnectionId} {event : TurnEvent}
    (hholds : (sessionRule cfg).rule.Holds w) (hstart : w.Startable id event)
    (hrun : w.runTurn cfg io id event = .ok w')
    (hguard : ∀ item ∈ w'.history, keepsResponses cfg item = true)
    (h : Throughout RemovedSentOut w.history) : Throughout RemovedSentOut w'.history := by
  obtain ⟨t, ht, rfl⟩ := runTurn_eq hrun
  refine h.append ?_
  intro before item after heq
  cases item with
  | turn | registered => trivial
  | removed id' trace =>
      obtain ⟨occ, hget, hgen, rfl, rfl, hnone, rfl⟩ := removed_by_turn hrun heq
      have hcur := view_current hget hgen
      have hsteps := handleTurn_steps hcur (hstart occ hget hgen) ht
      have hcall : keepsResponses cfg (.turn id' event io (w.view id').toSeat) = true := by
        apply hguard
        refine List.mem_append_right _ ?_
        rw [heq]
        exact List.mem_append_left _ List.mem_cons_self
      have hmid : (sentRule cfg event).rule.Mid t.toSeat := SeatRule.Mid.path
        (show (w.env cfg io).toConfig = cfg from rfl)
        ⟨⟨⟨trivial, trivial⟩, trivial⟩, hcall, fun _ _ _ _ hitem => by cases hitem; rfl⟩
        hcur.connection (hstart occ hget hgen) ⟨hholds.view hget hgen, trivial⟩ hsteps.path
      intro hhead
      exact ⟨event, io, _, by rw [List.getLast?_concat], (hmid.2 hnone).1.2 hhead⟩

/-- Of the atoms only a turn removes a connection. -/
theorem atom_sendsOut (hholds : (sessionRule cfg).rule.Holds w) (hatom : Atom cfg w w')
    (hguard : ∀ item ∈ w'.history, keepsResponses cfg item = true)
    (h : Throughout RemovedSentOut w.history) : Throughout RemovedSentOut w'.history :=
  atom_throughout hatom h (fun _ _ => trivial)
    (fun hstart hrun => turn_sendsOut hholds hstart hrun hguard h)

end Thwip.Readiness
