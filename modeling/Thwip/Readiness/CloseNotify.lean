/-
  Thwip.Readiness.CloseNotify — how a TLS connection ends after its response.

  `close_client` queues the alert and waits until the session has nothing left to
  send.  The end of a file and the end of the upstream's response do not go
  through it: both remove the connection at once.
-/
import Thwip.Readiness.Exchange

namespace Thwip.Readiness

open Thwip.Lib

variable {σ : Type} {cfg : Config σ} {w : ReadinessWorker σ} {limits : WorkerLimits}
  {c c' : Connection σ}

/-! ## §1. What is asked of a removal. -/

/-- With this trace, a removal here comes after a complete response. -/
def RemovalSite.completes (log : List Act) : RemovalSite → Prop
  | .delivered | .streamFinished => True
  | .upstreamEof => fromUpstream (exchanges log) ≠ []
  | _ => False

/-- After a complete response the alert had been queued, and neither the worker
nor the session had anything left to send. -/
def ClosesCleanly (trace : List Act) : Prop :=
  ∃ log site unsent wantsWrite, trace = log ++ [.removed site unsent wantsWrite]
    ∧ (site.completes log → .closeNotify ∈ log ∧ unsent = [] ∧ wantsWrite = false)

/-- The connection's file is at its end. -/
def Connection.fileEnds (arrived : Bool) (self : Connection σ) : Bool :=
  match self.staticStream with
  | none => false
  | some stream =>
      match (stream.tryNext arrived).1 with
      | some .finished => true
      | _ => false

/-- The upstream's response has started, and a read finds its end. -/
def Connection.upstreamEnds (limits : WorkerLimits) (upstreamReads : List IoRead)
    (self : Connection σ) : Bool :=
  match self.proxy, firstRead upstreamReads with
  | some proxy, .ok available =>
      proxy.responseStarted
        && (available.take (min readBufferLen limits.maxWriteBufferSize)).isEmpty
  | _, _ => false

def TurnEvent.readsUpstream : TurnEvent → Bool
  | .readUpstream _ => true
  | _ => false

/-- No file of a TLS connection ends in this turn, and no response of its upstream
that has started. -/
def endsNoTlsBody (limits : WorkerLimits) : HistoryItem σ → Bool
  | .turn _ event io found =>
      match found.connection with
      | none => true
      | some c =>
          c.ssl.isNone
            || !c.fileEnds io.arrived
              && !(event.readsUpstream && c.upstreamEnds limits io.upstreamReads)
  | _ => true

/-! ## §2. The alert is on record. -/

/-- A move that closes the session notes it. -/
theorem Move.sslClosing {env : Env σ} {event : TurnEvent} {s₀ s s' : Seat σ}
    (hmove : Move env event s₀ s s') (hc : s.connection = some c)
    (hc' : s'.connection = some c') (hclosing : c'.sslClosing = true) :
    c.sslClosing = true ∨ .closeNotify ∈ s'.log := by
  have hsame {c₁ : Connection σ} (hc₁ : s.connection = some c₁) : c₁ = c :=
    Seat.connection_unique hc₁ hc
  cases hmove with
  | rescheduled | drained | scheduled | flushed | counted =>
      exact .inl ((hsame hc') ▸ hclosing)
  | touched hc₁ | spoiled hc₁ | wrote hc₁ | handed hc₁ | sentTls hc₁ | connecting hc₁
  | forwarded hc₁ =>
      obtain rfl := hsame hc₁
      cases hc'
      exact .inl hclosing
  | awaiting hc₁ | idled hc₁ | flushing hc₁ | chunk hc₁ | emptied hc₁ | relayed hc₁
  | failed hc₁ =>
      obtain rfl := hsame hc₁
      obtain ⟨-, rfl⟩ := settle_some hc'
      exact .inl hclosing
  | waited hc₁ _ _ _ hhandling pass hpass | resolving hc₁ _ _ _ hhandling pass hpass =>
      obtain rfl := hsame hc₁
      cases hc'
      have hreads := connectionReady_readsOnly env.tls.toRustls env.limits env.now hhandling
        env.reads
      rw [← hpass] at hreads
      exact .inl (hreads.sslClosing ▸ hclosing)
  | replied hc₁ _ _ _ hhandling pass hpass =>
      obtain rfl := hsame hc₁
      obtain ⟨-, rfl⟩ := settle_some hc'
      have hreads := connectionReady_readsOnly env.tls.toRustls env.limits env.now hhandling
        env.reads
      rw [← hpass] at hreads
      exact .inl (hreads.sslClosing ▸ hclosing)
  | closing _ _ _ _ _ ok =>
      obtain ⟨rfl, -⟩ := settle_some hc'
      exact .inr (by simp [Seat.settle])
  | removed => cases hc'

/-! ## §3. Every run. -/

/-- A TLS connection that is removed after a complete response was closed, if
neither a file nor the upstream ended it. -/
theorem Cause.closesCleanly {env : Env σ} {id : ConnectionId} {event : TurnEvent}
    {s₀ s : Seat σ} {site : RemovalSite} (hcause : Cause env event s₀ s c site)
    (hguard : endsNoTlsBody env.limits (.turn id event env.toIo s₀) = true)
    (hkept : Kept s₀ s) (hc : s.connection = some c) (hssl : c.ssl.isSome = true)
    (hroute : Route env.limits c s.log)
    (hclosing : c.sslClosing = true → .closeNotify ∈ s.log) (hsite : site.completes s.log) :
    .closeNotify ∈ s.log ∧ c.unsent = [] ∧ c.sslWantsWrite env.tls.toRustls = false := by
  obtain ⟨c₀, hfound, hsame⟩ := hkept.client c hc
  have htls : c₀.ssl.isNone = false := by
    rw [← Option.not_isSome, ← hsame.ssl, hssl]
    rfl
  simp only [endsNoTlsBody, hfound, htls, Bool.false_or, Bool.and_eq_true, Bool.not_eq_true',
    Bool.and_eq_false_iff] at hguard
  obtain ⟨hfile, hupstream⟩ := hguard
  cases hcause with
  | delivered hfinished _ _ hclosed =>
      have hnotified : c.sslClosing = true := by
        rcases hclosed with hnone | hclosed
        · rw [hnone] at hssl
          cases hssl
        · exact hclosed
      exact ⟨hclosing hnotified, Connection.writeFinished_spec hfinished⟩
  | streamFinished stream _ hend _ _ hserved =>
      obtain ⟨rest, hend⟩ := hend
      obtain ⟨c₁, hc₁, hstream⟩ := hserved
      rw [hfound] at hc₁
      injection hc₁ with hc₁
      subst hc₁
      simp [Connection.fileEnds, hstream, hend] at hfile
  | upstreamEof due proxy hevent hfound' hproxy _ _ available hread htake =>
      rw [hfound] at hfound'
      injection hfound' with hfound'
      subst hfound'
      -- the response had started, since some of it was relayed
      have hstarted : proxy.responseStarted = true := by
        by_contra hnot
        obtain ⟨-, -, hrelayed, -⟩ := hroute.exchange (Connection.proxy_eq_some.mp hproxy)
        exact hsite (hrelayed.mp (by simpa using hnot))
      rw [hevent] at hupstream
      simp [TurnEvent.readsUpstream, Connection.upstreamEnds, hproxy, hread, hstarted, htake]
        at hupstream
  | closed =>
      unfold ReadPass.closeSite at hsite
      split at hsite <;> exact hsite.elim
  | _ => exact hsite.elim

def closeRule (cfg : Config σ) : (routeRule cfg).rule.Over where
  Inv s c := c.sslClosing = true → .closeNotify ∈ s.log
  Gone trace := trace.head? = some (.accepted true) → ClosesCleanly trace
  Guard item := endsNoTlsBody cfg.limits item = true
  fresh := by
    intro s c hfresh hc hclosing
    cases hfresh
    cases hc
    cases hclosing
  poll _ _ h := h
  move := by
    intro env id io event s₀ s s' c₀ c henv hio hguard _ _ _ _ hc hkept hroute hinv hmove
    subst henv hio
    refine ⟨?_, ?_⟩
    · intro c' hc' hclosing
      rcases hmove.sslClosing hc hc' hclosing with hbefore | hnow
      · exact hmove.kept.log.subset (hinv hbefore)
      · exact hnow
    · intro hnone hhead
      have hssl : c.ssl.isSome = true := by
        obtain ⟨later, hlater⟩ := hmove.kept.log
        have hopens : s.log.head? = some (.accepted c.ssl.isSome) := hroute.2.1
        rw [← hlater, List.head?_append, hopens] at hhead
        simpa using hhead
      rcases hmove.removal hc hnone with ⟨site, hcause, rfl⟩ | ⟨acts, c', rfl⟩
      · refine ⟨s.log, site, _, _, rfl, ?_⟩
        exact hcause.closesCleanly hguard hkept hc hssl hroute.2.2 hinv
      · exact ⟨s.log ++ acts, _, _, _, rfl, False.elim⟩

end Thwip.Readiness
