/-
  Thwip.Runtime.Choosing — where the requests of a worker go.

  The account of a run's choices, put together with what an accepted configuration
  is: every request that goes to a proxy action is answered with one of that action's
  URLs, and no worker dies of choosing.  The requests for the routes of a group are
  shared out among its servers, whichever connections they come on.
-/
import Thwip.IoUring.Choosing
import Thwip.Readiness.Choosing
import Thwip.Startup

namespace Thwip

open Thwip.Lib

variable {σ τ ι : Type} {config : ProxyConfig}

/-! ## §1. Accepted configurations. -/

/-- The choice was one: the answer is a URL of the action. -/
def Choice.Answered (config : ProxyConfig) (choice : Choice ι) : Prop :=
  ∃ url, choice.answer = .ok url ∧ url ∈ choice.action.urls config.upstreamGroups
    ∧ isBlank url = false

/-- The answers to the requests for the routes of a group. -/
def answersOf (name : Str) (choices : List (Choice ι)) : List (Except BalanceError Str) :=
  (choices.filter (fun choice => choice.action.names name)).map Choice.answer

/-- The servers of every group get their shares of the choices. -/
def SharesOut (config : ProxyConfig) (choices : List (Choice ι)) : Prop :=
  ∀ name group, config.upstreamGroups name = some group → ∃ urls : List Str,
    answersOf name choices = urls.map .ok
      ∧ ∀ start url, start + group.round ≤ urls.length → start + group.round ≤ 2 ^ 64 →
        ((urls.drop start).take group.round).count url = group.share url

theorem Selects.sharesOut {debug : Str → Str} {parse : Str → Except Str ProxyConfig}
    {contents : Str} (haccepted : ProxyConfig.fromToml debug parse contents = .ok config)
    {choices : List (Choice ι)} {b : UpstreamBalancer}
    (h : Selects (.withGroups config.upstreamGroups) choices b) : SharesOut config choices := by
  intro name group hgroup
  obtain ⟨hfields, hwhole⟩ := fromToml_eq_ok haccepted
  exact h.shares hgroup (accepted_group hfields hwhole hgroup).1

/-- No request that a listener routes makes the balancer panic. -/
theorem Selects.choosable {debug : Str → Str} {parse : Str → Except Str ProxyConfig}
    {contents : Str} (haccepted : ProxyConfig.fromToml debug parse contents = .ok config)
    {choices : List (Choice ι)} {b : UpstreamBalancer}
    (h : Selects (.withGroups config.upstreamGroups) choices b) {choice : Choice ι}
    {listenerGroups : List (Nat × List Nat)}
    (hrouted : choice.Routed (config.servers.map ServerConfig.toServer) listenerGroups) :
    b.select choice.action ≠ none := by
  obtain ⟨hfields, hwhole⟩ := fromToml_eq_ok haccepted
  obtain ⟨url, next, hselect, -⟩ := (hrouted.choosable hfields hwhole).select h.groups
  rw [hselect]
  simp

/-! ## §2. Both workers. -/

section Workers

variable {debug : Str → Str} {parse : Str → Except Str ProxyConfig} {contents : Str}

/-- **Requests go where they are routed.**  In every run of either worker from an accepted
configuration there is an account of its choices: as many as requests went to a proxy
action, each for a request that was dispatched on its connection, and answered with a URL
of its action.  The balancer is the one these choices lead to, the DNS threads were asked
for their upstreams and no others, and what was forwarded on a connection is one of its
requests, as the upstream of a choice for the action which the connection's own listener has
for it is to be sent it.  Choosing never panics. -/
theorem requests_go_where_they_are_routed
    (haccepted : ProxyConfig.fromToml debug parse contents = .ok config)
    (tls : Readiness.SocketTls σ) (uringTls : Rustls τ) (bufRingSize bufferSize : Nat)
    (sslConfigs : List (Option LoadedSslConfig)) (groups : List ListenerGroup) :
    (∀ w, Readiness.Reachable (config.workerContext tls sslConfigs groups) w →
      (∃ choices, w.Accounted (config.workerContext tls sslConfigs groups) choices
        ∧ ∀ choice ∈ choices, choice.Answered config)
      ∧ ∀ event site, Readiness.step (config.workerContext tls sslConfigs groups) event w
          ≠ .error (.panic site))
    ∧ ∀ w, IoUring.Reachable
        (config.uringContext uringTls bufRingSize bufferSize sslConfigs groups) w →
      (∃ choices, w.Accounted
          (config.uringContext uringTls bufRingSize bufferSize sslConfigs groups) choices
        ∧ ∀ choice ∈ choices, choice.Answered config)
      ∧ ∀ event, IoUring.step
          (config.uringContext uringTls bufRingSize bufferSize sslConfigs groups) event w
          ≠ .error (.panic .balancer) := by
  obtain ⟨hfields, hwhole⟩ := fromToml_eq_ok haccepted
  refine ⟨?_, ?_⟩
  · intro w hw
    obtain ⟨choices, haccounted⟩ := hw.accounted
    refine ⟨⟨choices, haccounted,
      haccounted.selects.answered hfields hwhole haccounted.routed rfl⟩, ?_⟩
    intro event site hpanic
    obtain ⟨earlier, b, hselects, choice, hrouted, hnone⟩ := Readiness.step_panic hw hpanic
    exact hselects.choosable haccepted hrouted hnone
  · intro w hw
    obtain ⟨choices, haccounted⟩ := hw.accounted
    refine ⟨⟨choices, haccounted,
      haccounted.selects.answered hfields hwhole haccounted.routed rfl⟩, ?_⟩
    intro event hpanic
    obtain ⟨choice, hrouted, hnone⟩ := IoUring.step_unchoosable hw hpanic
    exact haccounted.selects.choosable haccepted hrouted hnone

/-- **The requests for a group's routes are shared out among its servers**, in every run of
either worker: each window of a round of them has every URL as often as it is due. -/
theorem requests_are_shared_out
    (haccepted : ProxyConfig.fromToml debug parse contents = .ok config)
    (tls : Readiness.SocketTls σ) (uringTls : Rustls τ) (bufRingSize bufferSize : Nat)
    (sslConfigs : List (Option LoadedSslConfig)) (groups : List ListenerGroup) :
    (∀ w, Readiness.Reachable (config.workerContext tls sslConfigs groups) w →
      ∃ choices, w.Accounted (config.workerContext tls sslConfigs groups) choices
        ∧ SharesOut config choices)
    ∧ ∀ w, IoUring.Reachable
        (config.uringContext uringTls bufRingSize bufferSize sslConfigs groups) w →
      ∃ choices, w.Accounted
          (config.uringContext uringTls bufRingSize bufferSize sslConfigs groups) choices
        ∧ SharesOut config choices := by
  refine ⟨?_, ?_⟩
  · intro w hw
    obtain ⟨choices, haccounted⟩ := hw.accounted
    exact ⟨choices, haccounted, haccounted.selects.sharesOut haccepted⟩
  · intro w hw
    obtain ⟨choices, haccounted⟩ := hw.accounted
    exact ⟨choices, haccounted, haccounted.selects.sharesOut haccepted⟩

end Workers

section Example

/-- One socket, for the only server. -/
def pooledSockets : List ListenerGroup :=
  [{ address := .v4 0 80, defaultServer := 0, serverIndices := [0] }]

/-- A readiness worker for the pools. -/
def pooledWorker : Readiness.Config Unit :=
  pooledConfig.workerContext Readiness.SocketTls.absent [none] pooledSockets

/-- An io_uring worker for them. -/
def pooledUring : IoUring.Config Unit :=
  pooledConfig.uringContext Rustls.absent 1 64 [none] pooledSockets

/-- Three clients, each with a request for the group. -/
def threeRequests : List IoUring.Event :=
  [.accepts 7, .accepts 8, .accepts 9] ++ List.replicate 3
    (.completed 4 (.received (asBytes "GET / HTTP/1.1\r\n\r\n".toList)) [] .quiet)

/-- One client of the readiness worker. -/
def oneRequest : List Readiness.Event :=
  [Readiness.acceptOne, .poll,
   Readiness.firstReady .client true false
     { Readiness.Io.quiet with reads := [.ok (asBytes "GET / HTTP/1.1\r\n\r\n".toList)] }]

theorem threeRequests_boots : IoUring.bootsTo pooledUring .quiet threeRequests
    (fun w => w.weight IoUring.proxiedCount == 3) = true := by
  decide +kernel

theorem oneRequest_boots : Readiness.bootsTo pooledWorker oneRequest
    (fun w => w.weight Readiness.proxiedCount == 1) = true := by
  decide +kernel

theorem requests_go_where_they_are_routed_pooled :
    (∃ w, Readiness.Reachable pooledWorker w ∧ ∃ choices, w.Accounted pooledWorker choices
      ∧ choices.length = 1 ∧ ∀ choice ∈ choices, choice.Answered pooledConfig)
    ∧ ∃ w, IoUring.Reachable pooledUring w ∧ ∃ choices, w.Accounted pooledUring choices
      ∧ choices.length = 3 ∧ ∀ choice ∈ choices, choice.Answered pooledConfig := by
  obtain ⟨hready, huring⟩ := requests_go_where_they_are_routed pooledConfig_accepted
    Readiness.SocketTls.absent Rustls.absent 1 64 [none] pooledSockets
  constructor
  · obtain ⟨w, hw, hp⟩ := Readiness.reachable_of_bootsTo oneRequest_boots
    obtain ⟨⟨choices, haccounted, hanswered⟩, -⟩ := hready w hw
    exact ⟨w, hw, choices, haccounted, haccounted.total.trans (beq_iff_eq.mp hp), hanswered⟩
  · obtain ⟨w, hw, hp⟩ := IoUring.reachable_of_bootsTo threeRequests_boots
    obtain ⟨⟨choices, haccounted, hanswered⟩, -⟩ := huring w hw
    exact ⟨w, hw, choices, haccounted, haccounted.total.trans (beq_iff_eq.mp hp), hanswered⟩

theorem requests_are_shared_out_pooled :
    ∃ w, IoUring.Reachable pooledUring w ∧ ∃ choices, w.Accounted pooledUring choices
      ∧ choices.length = 3 ∧ SharesOut pooledConfig choices := by
  obtain ⟨-, huring⟩ := requests_are_shared_out pooledConfig_accepted
    Readiness.SocketTls.absent Rustls.absent 1 64 [none] pooledSockets
  obtain ⟨w, hw, hp⟩ := IoUring.reachable_of_bootsTo threeRequests_boots
  obtain ⟨choices, haccounted, hshares⟩ := huring w hw
  exact ⟨w, hw, choices, haccounted, haccounted.total.trans (beq_iff_eq.mp hp), hshares⟩

end Example

end Thwip
