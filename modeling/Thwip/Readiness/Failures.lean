/-
  Thwip.Readiness.Failures — what becomes of a proxied request whose upstream fails.

  `fail_proxy` and `fail_resolution` answer with an error page while nothing was
  relayed.  `mark_upstream_eof` does not ask: with nothing in the write buffer it
  removes the connection, whether or not there was a response.
-/
import Thwip.Readiness.Exchange

namespace Thwip.Readiness

open Thwip.Lib

variable {σ : Type} {cfg : Config σ} {limits : WorkerLimits} {c : Connection σ}
  {log acts : List Act}

/-! ## §1. What is asked of a removal. -/

/-- Some of the upstream's response was taken. -/
def Responded (log : List Act) : Prop := ∃ bytes, bytes ≠ [] ∧ .relayed bytes ∈ log

/-- The client was told that its upstream failed. -/
def Told (log : List Act) : Prop := ∃ response, IsGatewayError response ∧ .queued response ∈ log

/-- Bytes for the client, of its upstream or of the worker itself. -/
def Act.speaks : Act → Bool
  | .relayed bytes => !bytes.isEmpty
  | .queued _ => true
  | _ => false

theorem silent_of_not_speaks (h : log.any Act.speaks = false) : ¬ Responded log ∧ ¬ Told log := by
  rw [List.any_eq_false] at h
  constructor
  · rintro ⟨bytes, hne, hmem⟩
    exact h _ hmem (by simpa [Act.speaks] using hne)
  · rintro ⟨response, -, hmem⟩
    exact h _ hmem rfl

/-- A proxied request that got nothing from its upstream was answered with an
error before the removal, unless the client was gone or the worker shut down. -/
def AnswersFailure (trace : List Act) : Prop :=
  ∃ log site unsent wantsWrite, trace = log ++ [.removed site unsent wantsWrite]
    ∧ (.proxied ∈ log → ¬ Responded log →
      site.clientGone = true ∨ site.shuttingDown = true ∨ Told log)

/-- The pages for upstream failures are within the write limit. -/
def FailurePagesFit (limits : WorkerLimits) : Prop :=
  ∀ error ∈ upstreamErrors, (responseBytes error.1 error.2).length ≤ limits.maxWriteBufferSize

instance (limits : WorkerLimits) : Decidable (FailurePagesFit limits) :=
  inferInstanceAs (Decidable (∀ error ∈ upstreamErrors, _))

/-- A read of this connection's upstream finds the end of its stream, and nothing
came before. -/
def Connection.endsUnanswered (limits : WorkerLimits) (upstreamReads : List IoRead)
    (self : Connection σ) : Bool :=
  match self.proxy, firstRead upstreamReads with
  | some proxy, .ok available =>
      !proxy.responseStarted
        && (available.take (min readBufferLen limits.maxWriteBufferSize)).isEmpty
  | _, _ => false

/-- No upstream ends in this turn before it has sent anything. -/
def endsAfterResponseStart (limits : WorkerLimits) : HistoryItem σ → Bool
  | .turn _ (.readUpstream _) io found =>
      !found.connection.any (Connection.endsUnanswered limits io.upstreamReads)
  | _ => true

/-! ## §2. What the route of a request says. -/

theorem boundedResponse_of_fits {error : Nat × Str} (hfits : FailurePagesFit limits)
    (herror : error ∈ upstreamErrors) :
    boundedResponse limits (responseBytes error.1 error.2) = responseBytes error.1 error.2 := by
  have hle := hfits error herror
  unfold boundedResponse
  rw [if_neg (by omega)]

theorem responded_of_relayed (h : fromUpstream (exchanges log) ≠ []) : Responded log := by
  by_contra hnot
  apply h
  unfold fromUpstream
  rw [List.flatMap_eq_nil_iff]
  intro exchange hmem
  obtain ⟨act, hact, hexchange⟩ := List.mem_filterMap.mp hmem
  cases exchange with
  | relayed bytes =>
      -- the act that moved these bytes
      cases act with
      | relayed bytes' =>
          injection hexchange with hexchange
          injection hexchange with hexchange
          subst hexchange
          by_contra hne
          exact hnot ⟨bytes', hne, hact⟩
      | write act => cases act <;> cases hexchange
      | _ => cases hexchange
  | _ => rfl

/-- An exchange is under way, or it stayed here, or it was answered. -/
theorem Route.failure (h : Route limits c log) (hfits : FailurePagesFit limits)
    (hproxied : .proxied ∈ log) (hsilent : ¬ Responded log) :
    Told log ∨ c.isResolving = true
      ∨ ∃ proxy, c.proxy = some proxy ∧ proxy.responseStarted = false := by
  cases h with
  | here hnot => exact absurd hproxied hnot
  | resolving r hphase => exact .inr (.inl (Connection.isResolving_iff.mpr ⟨r, hphase⟩))
  | proxying proxy hphase _ _ hrelayed =>
      refine .inr (.inr ⟨proxy, Connection.proxy_eq_some.mpr hphase, hrelayed.mpr ?_⟩)
      by_contra hne
      exact hsilent (responded_of_relayed hne)
  | answered _ _ error herror htold =>
      rw [boundedResponse_of_fits hfits herror] at htold
      exact .inl ⟨_, ⟨error.1, error.2, upstreamErrors_status herror, rfl⟩, htold⟩

/-- A connection is removed while its exchange is under way only if the client is
gone, the worker shuts down, or the upstream has ended. -/
theorem Cause.failure {env : Env σ} {id : ConnectionId} {event : TurnEvent} {s₀ s : Seat σ}
    {site : RemovalSite} (hcause : Cause env event s₀ s c site)
    (hinv₀ : ∀ c₀, s₀.connection = some c₀ → PhaseInv env.limits c₀ s₀.log)
    (hinv : PhaseInv env.limits c s.log)
    (hguard : endsAfterResponseStart env.limits (.turn id event env.toIo s₀) = true)
    (hwaiting : c.isResolving = true
      ∨ ∃ proxy, c.proxy = some proxy ∧ proxy.responseStarted = false) :
    site.clientGone = true ∨ site.shuttingDown = true := by
  have hhandling : c.isHandlingRequest = true := by
    rw [Connection.isHandlingRequest_iff]
    rcases hwaiting with hresolving | ⟨proxy, hproxy, -⟩
    · exact .inl (Connection.isResolving_iff.mp hresolving)
    · exact .inr ⟨proxy, Connection.proxy_eq_some.mp hproxy⟩
  rcases hcause.abandoned hinv₀ hinv hhandling with
    hgone | hshutting | hsite | ⟨proxy, hphase, hstarted⟩
  · exact .inl hgone
  · exact .inr hshutting
  · -- the upstream may only end once its response has started
    exfalso
    cases hcause with
    | upstreamEof due proxy hevent hfound hproxy _ _ available hread htake =>
        subst hevent
        have hsilent : proxy.responseStarted = false := by
          rcases hwaiting with hresolving | ⟨proxy', hproxy', hnot⟩
          · obtain ⟨r, hr⟩ := Connection.isResolving_iff.mp hresolving
            rw [Connection.proxy_eq_some.mp hproxy] at hr
            cases hr
          · rw [hproxy] at hproxy'
            injection hproxy' with hproxy'
            exact hproxy' ▸ hnot
        simp [endsAfterResponseStart, hfound, Connection.endsUnanswered, hproxy, hread, htake,
          hsilent] at hguard
    | closed =>
        unfold ReadPass.closeSite at hsite
        split at hsite <;> cases hsite
    | _ => cases hsite
  · rcases hwaiting with hresolving | ⟨proxy', hproxy', hnot⟩
    · obtain ⟨r, hr⟩ := Connection.isResolving_iff.mp hresolving
      rw [hphase] at hr
      cases hr
    · rw [Connection.proxy_eq_some.mp hproxy'] at hphase
      injection hphase with hphase
      rw [← hphase, hnot] at hstarted
      cases hstarted

/-! ## §3. Every run. -/

def failureRule (cfg : Config σ) (hfits : FailurePagesFit cfg.limits) :
    (routeRule cfg).rule.Over where
  Inv _ _ := True
  Gone trace := AnswersFailure trace
  Guard item := endsAfterResponseStart cfg.limits item = true
  fresh _ _ := trivial
  poll _ _ _ := trivial
  move := by
    intro env id io event s₀ s s' c₀ c henv hio hguard hfound _ hroute₀ _ hc _ hroute _ hmove
    subst henv hio
    refine ⟨fun _ _ => trivial, ?_⟩
    intro hnone
    rcases hmove.removal hc hnone with ⟨site, hcause, rfl⟩ | ⟨acts, c', rfl⟩
    · refine ⟨s.log, site, _, _, rfl, ?_⟩
      intro hproxied hsilent
      rcases hroute.2.2.failure hfits hproxied hsilent with htold | hwaiting
      · exact .inr (.inr htold)
      · have hinv₀ : ∀ c₁, s₀.connection = some c₁ → PhaseInv env.limits c₁ s₀.log := by
          intro c₁ hc₁
          rw [Seat.connection_unique hc₁ hfound]
          exact hroute₀.1.1
        rcases hcause.failure hinv₀ hroute.1.1 hguard hwaiting with hgone | hshutting
        · exact .inl hgone
        · exact .inr (.inl hshutting)
    · exact ⟨s.log ++ acts, _, _, _, rfl, fun _ _ => .inl rfl⟩

end Thwip.Readiness
