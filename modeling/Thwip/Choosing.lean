/-
  Thwip.Choosing — the upstreams that a run of a worker chooses.

  A worker asks its balancer once for each request that goes to a proxy action.
  `Choice` is one such question with its answer, and `Selects` says that a list of
  them, one after the other, leads from one balancer to another.  A call of a handler
  is described by the choices it makes, so that calls compose as lists do: `Ledger` is
  what a call sees of its choices, and `Bookkeeping` has the rules for calls that make
  none, and for what comes before or after a call that does.  What is known of the
  balancer then holds of the requests that a worker was sent.
-/
import Thwip.Balancing
import Thwip.Proxy.Upstream
import Thwip.Routing

namespace Thwip

open Thwip.Lib

variable {ι : Type}

/-! ## §1. Choices. -/

/-- A request that was given to a proxy action. -/
structure Choice (ι : Type) where
  /-- The connection it came on. -/
  id : ι
  request : RequestHead
  body : List UInt8
  action : Action
  /-- What the balancer said. -/
  answer : Except BalanceError Str
  /-- The DNS threads were asked for the upstream's address. -/
  asked : Bool

/-- The upstream that was chosen, if its URL is one. -/
def Choice.upstream (self : Choice ι) : Option Upstream :=
  self.answer.toOption.bind (fun url => (Upstream.parse url).toOption)

/-- What the upstream is to be sent. -/
def Choice.forwards (self : Choice ι) : Option (List UInt8) :=
  self.upstream.map (fun upstream => upstream.requestBytes self.request self.body)

/-- The address that was asked for. -/
def Choice.lookup (self : Choice ι) : Option Str :=
  if self.asked then self.upstream.map Upstream.connectAddress else none

theorem Choice.upstream_of {choice : Choice ι} {url : Str} {upstream : Upstream}
    (hanswer : choice.answer = .ok url) (hparse : Upstream.parse url = .ok upstream) :
    choice.upstream = some upstream := by
  unfold Choice.upstream
  rw [hanswer]
  show (Upstream.parse url).toOption = _
  rw [hparse]
  rfl

variable {b b' b₁ b₂ : UpstreamBalancer} {choices later : List (Choice ι)}

/-- These choices, in this order, lead from one balancer to the other. -/
inductive Selects : UpstreamBalancer → List (Choice ι) → UpstreamBalancer → Prop where
  | nil (b : UpstreamBalancer) : Selects b [] b
  | cons {b b₁ b' : UpstreamBalancer} {choice : Choice ι} {choices : List (Choice ι)}
      (hselect : b.select choice.action = some (choice.answer, b₁))
      (hrest : Selects b₁ choices b') : Selects b (choice :: choices) b'

theorem Selects.append (h : Selects b choices b₁) (h' : Selects b₁ later b₂) :
    Selects b (choices ++ later) b₂ := by
  induction h with
  | nil => exact h'
  | cons hselect _ ih => exact .cons hselect (ih h')

/-- The groups are never changed. -/
theorem Selects.groups (h : Selects b choices b') : b'.groups = b.groups := by
  induction h with
  | nil => rfl
  | cons hselect _ ih =>
      rw [ih]
      rcases select_frame hselect with rfl | ⟨key, -, rfl⟩ <;> rfl

/-- A refusal changes nothing. -/
theorem select_error {action : Action} {error : BalanceError}
    (h : b.select action = some (.error error, b')) : b' = b := by
  unfold UpstreamBalancer.select at h
  split at h
  next upstream upstreamGroup upstreams policy =>
    dsimp only at h
    generalize (if upstream.isSome = true then 1 else 0)
      + (if upstreamGroup.isSome = true then 1 else 0)
      + (if upstreams.isEmpty = true then 0 else 1) = configured at h
    split_ifs at h
    · cases h
      rfl
    · split at h
      · cases h
      · split at h
        · cases h
          rfl
        · split_ifs at h
          · cases h
            rfl
          · split at h
            · cases h
            · cases h
              rfl
            · split at h <;> cases h
  · cases h
    rfl

/-! ## §2. Turns in a run. -/

/-- Of a run's choices, those for the routes of a group are the group's answers. -/
theorem Selects.answersTo (name : Str) (h : Selects b choices b') :
    b.answersTo id (Action.names name) (choices.map Choice.action)
      = (choices.filter (fun choice => choice.action.names name)).map Choice.answer := by
  induction h with
  | nil => rfl
  | @cons b b₁ b' choice choices hselect _ ih =>
      rw [List.map_cons, List.filter_cons]
      cases hnames : choice.action.names name with
      | true =>
          rw [answersTo_asked id _ _ hselect hnames, ih]
          rfl
      | false =>
          rw [answersTo_other id _ _ hselect hnames, ih]
          rfl

/-- **The choices for the routes of a group** are made in turn, whatever else is chosen in
between: each window of a round has every URL as often as it is due. -/
theorem Selects.shares {groups : Str → Option UpstreamGroup} {name : Str} {group : UpstreamGroup}
    (hgroup : groups name = some group) (hdrawable : Drawable group.policy group.servers)
    (h : Selects (.withGroups groups) choices b') :
    ∃ urls : List Str,
      (choices.filter (fun choice => choice.action.names name)).map Choice.answer = urls.map .ok
        ∧ ∀ start url, start + group.round ≤ urls.length → start + group.round ≤ 2 ^ 64 →
          ((urls.drop start).take group.round).count url = group.share url := by
  have hcursor : (UpstreamBalancer.withGroups groups).cursors (namedKey name) = 0 := rfl
  obtain ⟨urls, hurls, hturns⟩ := hdrawable.answersTo_named
    (choices.map Choice.action) (.withGroups groups) hgroup (by rw [hcursor]; decide)
  refine ⟨urls, by rw [← h.answersTo name, hurls], ?_⟩
  intro start url hlength hwithin
  rw [← rotation_count]
  rw [← rotation_length] at hlength hwithin ⊢
  refine count_window start ?_ (by rw [List.length_take, List.length_drop]; omega) url
  intro i hi
  have hlt : start + i < urls.length := by omega
  have hturn := hturns (start + i) _ (List.getElem?_eq_getElem hlt)
  rw [hcursor, Nat.zero_add, Nat.mod_eq_of_lt (by omega)] at hturn
  rw [List.getElem?_take_of_lt hi, List.getElem?_drop, List.getElem?_eq_getElem hlt, hturn]

/-! ## §3. Accepted configurations. -/

/-- An action that the balancer can choose for, and no URL of it is blank. -/
inductive Action.Choosable (groups : Str → Option UpstreamGroup) : Action → Prop where
  | direct (url : Str) (policy : BalancePolicy) (hurl : isBlank url = false) :
      Action.Choosable groups (.proxy (some url) none [] policy)
  | named (name : Str) (group : UpstreamGroup) (policy : BalancePolicy)
      (hgroup : groups name = some group) (hdrawable : Drawable group.policy group.servers)
      (hurls : ∀ endpoint ∈ group.servers, isBlank endpoint.url = false) :
      Action.Choosable groups (.proxy none (some name) [] policy)
  | inline (upstreams : List UpstreamEndpoint) (policy : BalancePolicy)
      (hdrawable : Drawable policy upstreams)
      (hurls : ∀ endpoint ∈ upstreams, isBlank endpoint.url = false) :
      Action.Choosable groups (.proxy none none upstreams policy)

/-- Every proxy action of an accepted configuration is one. -/
theorem accepted_choosable {debug : Str → Str} {config : ProxyConfig}
    (hfields : config.deserialized = .ok ()) (hwhole : config.validate debug = .ok ())
    {location : Location} (hlocation : location ∈ config.locations)
    {upstream upstreamGroup : Option Str} {upstreams : List UpstreamEndpoint}
    {policy : BalancePolicy}
    (haction : location.action = .proxy upstream upstreamGroup upstreams policy) :
    location.action.Choosable config.upstreamGroups := by
  obtain ⟨server, hserver, hmem⟩ := List.mem_flatMap.mp hlocation
  have hvalid := (validate_eq_ok hwhole).2 server hserver location hmem
  rw [haction] at hvalid ⊢
  cases validateAction_eq_ok hvalid with
  | direct url hurl => exact .direct url policy hurl
  | named name hname =>
      obtain ⟨named, hnamed, hsame⟩ := hname
      have hknown : (config.upstreams.lookup name).isSome :=
        List.lookup_isSome_iff.mpr ⟨named, hnamed, by simp [hsame]⟩
      obtain ⟨group, hlookup⟩ := Option.isSome_iff_exists.mp hknown
      obtain ⟨hdrawable, hurls⟩ := accepted_group hfields hwhole hlookup
      exact .named name group policy hlookup hdrawable hurls
  | inline _ =>
      obtain ⟨hdrawable, hurls, -⟩ := accepted_inline hfields hwhole hlocation haction
      exact .inline upstreams policy hdrawable hurls

/-- The balancer chooses one of the action's own URLs. -/
theorem Action.Choosable.select {groups : Str → Option UpstreamGroup} {action : Action}
    (h : action.Choosable groups) (hgroups : b.groups = groups) :
    ∃ url b₁, b.select action = some (.ok url, b₁) ∧ url ∈ action.urls groups
      ∧ isBlank url = false := by
  have hpick : ∀ {policy : BalancePolicy} {upstreams : List UpstreamEndpoint} {i : Nat} {url : Str},
      turn (rotation policy upstreams) i = some url →
      (∀ endpoint ∈ upstreams, isBlank endpoint.url = false) →
      url ∈ upstreams.map UpstreamEndpoint.url ∧ isBlank url = false := by
    intro policy upstreams i url hturn hurls
    obtain ⟨endpoint, hendpoint, rfl⟩ := rotation_mem (List.mem_of_getElem? hturn)
    exact ⟨List.mem_map_of_mem hendpoint, hurls endpoint hendpoint⟩
  cases h with
  | direct url policy hurl => exact ⟨url, b, rfl, by simp [Action.urls], hurl⟩
  | named name group policy hgroup hdrawable hurls =>
      obtain ⟨url, hturn, hselect⟩ :=
        hdrawable.select_named (show b.groups name = some group by rw [hgroups]; exact hgroup) policy
      obtain ⟨hmem, hurl⟩ := hpick hturn hurls
      exact ⟨url, _, hselect, by simpa [Action.urls, hgroup] using hmem, hurl⟩
  | inline upstreams policy hdrawable hurls =>
      obtain ⟨url, hturn, hselect⟩ := hdrawable.select_inline b
      obtain ⟨hmem, hurl⟩ := hpick hturn hurls
      exact ⟨url, _, hselect, by simpa [Action.urls] using hmem, hurl⟩

/-! ## §4. Routes. -/

/-- The action a listener has for a request. -/
def routedAction (servers : List Server) (serverIndices : List Nat) (defaultServer : Nat)
    (request : RequestHead) : Option Action :=
  (servers[selectServer serverIndices defaultServer request servers]?).bind
    (fun server => route server request.target)

/-- A route's action is one of the server's. -/
theorem route_location {server : Server} {target : Str} {action : Action}
    (h : route server target = some action) :
    ∃ location ∈ server.locations, location.action = action := by
  unfold route at h
  split at h
  next location hfound =>
    injection h with h
    exact ⟨location, List.mem_of_find?_eq_some hfound, h⟩
  · obtain ⟨found, hfound, rfl⟩ := Option.map_eq_some_iff.mp h
    obtain ⟨location, hmem, hweighed⟩ := List.mem_filterMap.mp (maxByKey_some hfound).1
    obtain ⟨path, -, -, rfl⟩ := weighed_eq_some.mp hweighed
    exact ⟨location, hmem, rfl⟩

/-- The action of a choice is a proxy action, and the one a listener has for the request. -/
structure Choice.Routed (servers : List Server) (listenerGroups : List (Nat × List Nat))
    (choice : Choice ι) : Prop where
  proxy : ∃ upstream upstreamGroup upstreams policy,
    choice.action = .proxy upstream upstreamGroup upstreams policy
  route : ∃ group ∈ listenerGroups,
    routedAction servers group.2 group.1 choice.request = some choice.action

theorem Choice.Routed.mono {servers : List Server} {listenerGroups wider : List (Nat × List Nat)}
    {choice : Choice ι} (h : choice.Routed servers listenerGroups)
    (hsub : listenerGroups ⊆ wider) : choice.Routed servers wider := by
  obtain ⟨group, hgroup, hroute⟩ := h.route
  exact ⟨h.proxy, group, hsub hgroup, hroute⟩

/-- What one listener is for. -/
def ownGroup (listenerGroups : List (Nat × List Nat)) (listener : Nat) : List (Nat × List Nat) :=
  (listenerGroups[listener]?).toList

theorem mem_ownGroup {listenerGroups : List (Nat × List Nat)} {listener : Nat}
    {group : Nat × List Nat} (h : listenerGroups[listener]? = some group) :
    group ∈ ownGroup listenerGroups listener :=
  Option.mem_toList.mpr h

theorem ownGroup_subset (listenerGroups : List (Nat × List Nat)) (listener : Nat) :
    ownGroup listenerGroups listener ⊆ listenerGroups := by
  intro group hgroup
  exact List.mem_of_getElem? (Option.mem_toList.mp hgroup)

/-- In an accepted configuration it can be chosen for. -/
theorem Choice.Routed.choosable {debug : Str → Str} {config : ProxyConfig}
    (hfields : config.deserialized = .ok ()) (hwhole : config.validate debug = .ok ())
    {listenerGroups : List (Nat × List Nat)} {choice : Choice ι}
    (h : choice.Routed (config.servers.map ServerConfig.toServer) listenerGroups) :
    choice.action.Choosable config.upstreamGroups := by
  obtain ⟨upstream, upstreamGroup, upstreams, policy, hproxy⟩ := h.proxy
  obtain ⟨group, -, hrouted⟩ := h.route
  obtain ⟨server, hserver, hroute⟩ := Option.bind_eq_some_iff.mp hrouted
  obtain ⟨location, hlocation, haction⟩ := route_location hroute
  obtain ⟨configured, hconfigured, rfl⟩ := List.mem_map.mp (List.mem_of_getElem? hserver)
  have hmem : location ∈ config.locations :=
    List.mem_flatMap.mpr ⟨configured, hconfigured, hlocation⟩
  rw [← haction] at hproxy ⊢
  exact accepted_choosable hfields hwhole hmem hproxy

/-- **In an accepted configuration every choice was one**: the balancer answered with a URL
of the action. -/
theorem Selects.answered {debug : Str → Str} {config : ProxyConfig}
    (hfields : config.deserialized = .ok ()) (hwhole : config.validate debug = .ok ())
    {listenerGroups : List (Nat × List Nat)}
    (hrouted : ∀ choice ∈ choices,
      choice.Routed (config.servers.map ServerConfig.toServer) listenerGroups)
    (hgroups : b.groups = config.upstreamGroups) (h : Selects b choices b') :
    ∀ choice ∈ choices, ∃ url, choice.answer = .ok url
      ∧ url ∈ choice.action.urls config.upstreamGroups ∧ isBlank url = false := by
  induction h with
  | nil =>
      intro choice hmem
      cases hmem
  | @cons b b₁ b' choice choices hselect _ ih =>
      obtain ⟨url, next, hchosen, hmem, hurl⟩ :=
        ((hrouted choice List.mem_cons_self).choosable hfields hwhole).select hgroups
      rw [hselect] at hchosen
      injection hchosen with hchosen
      injection hchosen with hanswer hnext
      have hgroups₁ : b₁.groups = config.upstreamGroups := by
        rw [← hgroups]
        exact (Selects.cons hselect (.nil b₁)).groups
      have hothers := ih (fun other hother => hrouted other (List.mem_cons_of_mem _ hother)) hgroups₁
      intro other hother
      rcases List.mem_cons.mp hother with rfl | hother
      · exact ⟨url, hanswer, hmem, hurl⟩
      · exact hothers other hother

/-! ## §5. The choices of a call. -/

/-- What a trace says of the requests of its connection. -/
inductive RequestAct where
  /-- A complete request. -/
  | dispatched (request : RequestHead) (body : List UInt8)
  /-- It goes to a proxy action, … -/
  | proxied
  /-- … and these bytes are to be forwarded. -/
  | forwarding (bytes : List UInt8)
  deriving Repr, DecidableEq

def RequestAct.isDispatched : RequestAct → Bool
  | .dispatched _ _ => true
  | _ => false

def proxiedIn (acts : List RequestAct) : Nat := acts.count .proxied

theorem proxiedIn_append (acts acts' : List RequestAct) :
    proxiedIn (acts ++ acts') = proxiedIn acts + proxiedIn acts' :=
  List.count_append

/-- What a call finds of the choices made before it, and leaves of them. -/
structure Ledger (ι : Type) where
  /-- The connection the call is for. -/
  id : ι
  balancer : UpstreamBalancer
  /-- What the DNS threads were asked. -/
  lookups : List (ι × Str)
  /-- What the connection's trace says of its requests. -/
  acts : List RequestAct

/-- What the DNS threads are asked. -/
def Choice.asks (self : Choice ι) : Option (ι × Str) :=
  self.lookup.map (fun address => (self.id, address))

/-- The choice sends these bytes, for one of the requests. -/
structure Choice.Sends (choice : Choice ι) (bytes : List UInt8) (acts : List RequestAct) :
    Prop where
  forwards : choice.forwards = some bytes
  dispatched : .dispatched choice.request choice.body ∈ acts

/-- These choices, and no others, are made between the two. -/
structure Ledger.Chose (servers : List Server) (listenerGroups : List (Nat × List Nat))
    (l l' : Ledger ι) (choices : List (Choice ι)) : Prop where
  id : l'.id = l.id
  selects : Selects l.balancer choices l'.balancer
  lookups : l'.lookups = l.lookups ++ choices.filterMap Choice.asks
  routed : ∀ choice ∈ choices, choice.id = l.id ∧ choice.Routed servers listenerGroups
  dispatched : ∀ choice ∈ choices, .dispatched choice.request choice.body ∈ l'.acts
  acts : ∃ acts, l'.acts = l.acts ++ acts ∧ proxiedIn acts = choices.length
    ∧ ∀ bytes, .forwarding bytes ∈ acts → ∃ choice ∈ choices, choice.Sends bytes l'.acts

/-- A choice's upstream is asked for, or not; the balancer is left alone. -/
structure Ledger.Asked (l l' : Ledger ι) (choice : Choice ι) : Prop where
  id : l'.id = l.id
  balancer : l'.balancer = l.balancer
  lookups : l'.lookups = l.lookups ++ choice.asks.toList
  acts : ∃ sent : List (List UInt8), l'.acts = l.acts ++ sent.map .forwarding
    ∧ ∀ bytes ∈ sent, choice.forwards = some bytes

section Ledgers

variable {servers : List Server} {listenerGroups : List (Nat × List Nat)} {l l₁ l₂ l' : Ledger ι}
  {choice : Choice ι}

theorem Choice.Sends.mono {bytes : List UInt8} {acts : List RequestAct}
    (h : choice.Sends bytes acts) (later : List RequestAct) : choice.Sends bytes (acts ++ later) :=
  ⟨h.forwards, List.mem_append_left _ h.dispatched⟩

/-- No choice is made where the balancer and the lookups stay as they are, and at most
complete requests are noted. -/
theorem Ledger.Chose.nil {acts : List RequestAct} (hid : l'.id = l.id)
    (hbalancer : l'.balancer = l.balancer) (hlookups : l'.lookups = l.lookups)
    (hacts : l'.acts = l.acts ++ acts) (hsilent : ∀ act ∈ acts, act.isDispatched = true) :
    l.Chose servers listenerGroups l' [] := by
  refine ⟨hid, by rw [hbalancer]; exact .nil _, by rw [hlookups, List.filterMap_nil, List.append_nil],
    ?_, ?_, acts, hacts, ?_, ?_⟩
  · intro choice hmem
    cases hmem
  · intro choice hmem
    cases hmem
  · refine List.count_eq_zero.mpr (fun hmem => ?_)
    cases hsilent _ hmem
  · intro bytes hmem
    cases hsilent _ hmem

theorem Ledger.Chose.refl (l : Ledger ι) : l.Chose servers listenerGroups l [] :=
  .nil rfl rfl rfl (List.append_nil _).symm (fun act hmem => by cases hmem)

theorem Ledger.Chose.trans (h : l.Chose servers listenerGroups l₁ choices)
    (h' : l₁.Chose servers listenerGroups l₂ later) :
    l.Chose servers listenerGroups l₂ (choices ++ later) := by
  obtain ⟨acts, hacts, hproxied, hsends⟩ := h.acts
  obtain ⟨acts', hacts', hproxied', hsends'⟩ := h'.acts
  refine ⟨h'.id.trans h.id, h.selects.append h'.selects, ?_, ?_, ?_, acts ++ acts', ?_, ?_, ?_⟩
  · rw [h'.lookups, h.lookups, List.filterMap_append, List.append_assoc]
  · intro choice hmem
    rcases List.mem_append.mp hmem with hmem | hmem
    · exact h.routed choice hmem
    · obtain ⟨hid, hrouted⟩ := h'.routed choice hmem
      exact ⟨hid.trans h.id, hrouted⟩
  · intro choice hmem
    rcases List.mem_append.mp hmem with hmem | hmem
    · rw [hacts']
      exact List.mem_append_left _ (h.dispatched choice hmem)
    · exact h'.dispatched choice hmem
  · rw [hacts', hacts, List.append_assoc]
  · rw [proxiedIn_append, hproxied, hproxied', List.length_append]
  · intro bytes hbytes
    rcases List.mem_append.mp hbytes with hbytes | hbytes
    · obtain ⟨choice, hmem, hsend⟩ := hsends bytes hbytes
      exact ⟨choice, List.mem_append_left _ hmem, by rw [hacts']; exact hsend.mono _⟩
    · obtain ⟨choice, hmem, hsend⟩ := hsends' bytes hbytes
      exact ⟨choice, List.mem_append_right _ hmem, hsend⟩

/-- What was noted of requests stays. -/
theorem Ledger.Chose.keeps (h : l.Chose servers listenerGroups l' choices) : l.acts ⊆ l'.acts := by
  obtain ⟨acts, hacts, -⟩ := h.acts
  rw [hacts]
  exact List.subset_append_left _ _

theorem Ledger.Chose.proxiedIn (h : l.Chose servers listenerGroups l' choices) :
    proxiedIn l'.acts = proxiedIn l.acts + choices.length := by
  obtain ⟨acts, hacts, hproxied, -⟩ := h.acts
  rw [hacts, proxiedIn_append, hproxied]

/-- Whom the listeners are for matters only where a choice is made. -/
theorem Ledger.Chose.regroup {others : List (Nat × List Nat)}
    (h : l.Chose servers listenerGroups l' choices)
    (hsame : choices ≠ [] → listenerGroups = others) : l.Chose servers others l' choices := by
  refine ⟨h.id, h.selects, h.lookups, ?_, h.dispatched, h.acts⟩
  intro choice hmem
  rw [← hsame (List.ne_nil_of_mem hmem)]
  exact h.routed choice hmem

/-- A call that notes nothing makes no choice. -/
theorem Ledger.Chose.eq_nil (h : l.Chose servers listenerGroups l' choices)
    (hacts : l'.acts = l.acts) : choices = [] := by
  obtain ⟨acts, hmore, hproxied, -⟩ := h.acts
  rw [hacts] at hmore
  have hnone : acts = [] := List.append_cancel_left (hmore.symm.trans (List.append_nil _).symm)
  rw [hnone] at hproxied
  exact List.eq_nil_of_length_eq_zero hproxied.symm

/-- The upstream is not asked for. -/
theorem Ledger.Asked.refl (l : Ledger ι) (h : choice.asked = false) : l.Asked l choice := by
  refine ⟨rfl, rfl, ?_, [], (List.append_nil _).symm, fun bytes hbytes => by cases hbytes⟩
  unfold Choice.asks Choice.lookup
  rw [h]
  exact (List.append_nil _).symm

/-- One choice: its request is known, and it is sent to no other upstream. -/
theorem Ledger.Asked.chose {b : UpstreamBalancer}
    (h : ({ l with balancer := b, acts := l.acts ++ [.proxied] } : Ledger ι).Asked l' choice)
    (hid : choice.id = l.id)
    (hselect : l.balancer.select choice.action = some (choice.answer, b))
    (hrouted : choice.Routed servers listenerGroups)
    (hrequest : .dispatched choice.request choice.body ∈ l.acts) :
    l.Chose servers listenerGroups l' [choice] := by
  obtain ⟨sent, hacts, hsent⟩ := h.acts
  have hwhole : l'.acts = l.acts ++ .proxied :: sent.map .forwarding := by
    rw [hacts]
    exact List.append_assoc _ _ _
  refine ⟨h.id, .cons hselect (by rw [h.balancer]; exact .nil _), ?_, ?_, ?_, _, hwhole, ?_, ?_⟩
  · rw [h.lookups]
    show l.lookups ++ choice.asks.toList = l.lookups ++ [choice].filterMap Choice.asks
    cases hasks : choice.asks <;> simp [hasks]
  · intro other hmem
    rw [List.mem_singleton.mp hmem]
    exact ⟨hid, hrouted⟩
  · intro other hmem
    rw [List.mem_singleton.mp hmem, hwhole]
    exact List.mem_append_left _ hrequest
  · have hnone : RequestAct.proxied ∉ sent.map RequestAct.forwarding := by
      intro hmem
      obtain ⟨bytes, -, hbytes⟩ := List.mem_map.mp hmem
      cases hbytes
    show List.count RequestAct.proxied (.proxied :: sent.map RequestAct.forwarding) = 1
    rw [List.count_cons_self, List.count_eq_zero.mpr hnone]
  · intro bytes hmem
    rcases List.mem_cons.mp hmem with heq | hmem
    · cases heq
    · obtain ⟨bytes', hbytes, heq⟩ := List.mem_map.mp hmem
      cases heq
      refine ⟨choice, List.mem_cons_self, hsent bytes hbytes, ?_⟩
      rw [hwhole]
      exact List.mem_append_left _ hrequest

end Ledgers

/-- These acts of a trace say of requests no more than that they are complete. -/
def Silent {α : Type} (request? : α → Option RequestAct) (acts : List α) : Prop :=
  ∀ act ∈ acts, (request? act).all RequestAct.isDispatched = true

section Silent

variable {α : Type} {request? : α → Option RequestAct}

theorem silent_nil : Silent request? [] := fun act hmem => by cases hmem

theorem silent_single {act : α} (h : (request? act).all RequestAct.isDispatched = true) :
    Silent request? [act] := by
  intro act' hmem
  rw [List.mem_singleton.mp hmem]
  exact h

theorem silent_map {β : Type} {f : β → α}
    (h : ∀ b, (request? (f b)).all RequestAct.isDispatched = true) (bs : List β) :
    Silent request? (bs.map f) := by
  intro act hmem
  obtain ⟨b, -, rfl⟩ := List.mem_map.mp hmem
  exact h b

theorem Silent.filterMap {acts : List α} (h : Silent request? acts) :
    ∀ act ∈ acts.filterMap request?, act.isDispatched = true := by
  intro act hmem
  obtain ⟨noted, hnoted, hsome⟩ := List.mem_filterMap.mp hmem
  have hall := h noted hnoted
  rw [hsome] at hall
  exact hall

end Silent

/-- How the calls of a worker keep their ledgers: `σ` is what a call sees, `ε` how it may end
without an answer. -/
structure Bookkeeping (ι σ ε : Type) where
  ledger : σ → Ledger ι
  /-- The arithmetic on the weights fails. -/
  panicked : ε
  servers : List Server
  listenerGroups : List (Nat × List Nat)

section Bookkeeping

variable {σ ε : Type} {B : Bookkeeping ι σ ε} {s s₁ s₂ : σ} {x : Except ε σ}

def Bookkeeping.Chose (B : Bookkeeping ι σ ε) (s s' : σ) (choices : List (Choice ι)) : Prop :=
  (B.ledger s).Chose B.servers B.listenerGroups (B.ledger s') choices

/-- No choice is made. -/
abbrev Bookkeeping.Spared (B : Bookkeeping ι σ ε) (s s' : σ) : Prop := B.Chose s s' []

/-- A request is routed to an action for which the arithmetic on the weights fails. -/
def Bookkeeping.Unchoosable (B : Bookkeeping ι σ ε) (s : σ) : Prop :=
  ∃ choice : Choice ι, choice.Routed B.servers B.listenerGroups
    ∧ (B.ledger s).balancer.select choice.action = none

/-- However the call ends, its choices are known. -/
def Bookkeeping.Chooses (B : Bookkeeping ι σ ε) (s : σ) : Except ε σ → Prop
  | .ok s' => ∃ choices, B.Chose s s' choices
  | .error e => e = B.panicked → B.Unchoosable s

/-- However the call ends, it makes no choice. -/
def Bookkeeping.Spares (B : Bookkeeping ι σ ε) (s : σ) : Except ε σ → Prop
  | .ok s' => B.Spared s s'
  | .error e => e ≠ B.panicked

theorem Bookkeeping.Chose.trans (h : B.Chose s s₁ choices) (h' : B.Chose s₁ s₂ later) :
    B.Chose s s₂ (choices ++ later) :=
  Ledger.Chose.trans h h'

theorem Bookkeeping.Spared.refl (s : σ) : B.Spared s s := Ledger.Chose.refl _

theorem Bookkeeping.Spared.trans (h : B.Spared s s₁) (h' : B.Spared s₁ s₂) : B.Spared s s₂ :=
  Ledger.Chose.trans h h'

theorem Bookkeeping.Spares.after (h : B.Spares s₁ x) (h' : B.Spared s s₁) : B.Spares s x := by
  cases x with
  | ok s₂ => exact Spared.trans h' h
  | error e => exact h

theorem Bookkeeping.Spares.bind {f : σ → Except ε σ} (h : B.Spares s x)
    (hf : ∀ s₁, B.Spares s₁ (f s₁)) : B.Spares s (x >>= f) := by
  cases x with
  | ok s₁ => exact (hf s₁).after h
  | error e => exact h

theorem Bookkeeping.Spares.chooses (h : B.Spares s x) : B.Chooses s x := by
  cases x with
  | ok s' => exact ⟨[], h⟩
  | error e => exact fun hpanicked => absurd hpanicked h

/-- A choice may be preceded by what makes none, … -/
theorem Bookkeeping.Chooses.after (h : B.Chooses s₁ x) (h' : B.Spared s s₁) : B.Chooses s x := by
  cases x with
  | ok s₂ =>
      obtain ⟨choices, hchose⟩ := h
      exact ⟨[] ++ choices, Chose.trans h' hchose⟩
  | error e =>
      intro hpanicked
      obtain ⟨choice, hrouted, hselect⟩ := h hpanicked
      have hsame : (B.ledger s₁).balancer = (B.ledger s).balancer := by
        have hselects := h'.selects
        generalize (B.ledger s₁).balancer = b at hselects ⊢
        cases hselects
        rfl
      exact ⟨choice, hrouted, by rw [← hsame]; exact hselect⟩

theorem Bookkeeping.Spares.bind_chooses {f : σ → Except ε σ} (h : B.Spares s x)
    (hf : ∀ s₁, x = .ok s₁ → B.Chooses s₁ (f s₁)) : B.Chooses s (x >>= f) := by
  cases x with
  | ok s₁ => exact (hf s₁ rfl).after h
  | error e => exact fun hpanicked => absurd hpanicked h

/-- … and be followed by it. -/
theorem Bookkeeping.Spares.following (h : B.Spares s₁ x) (h' : B.Chose s s₁ choices) :
    B.Chooses s x := by
  cases x with
  | ok s₂ => exact ⟨choices ++ [], h'.trans h⟩
  | error e => exact fun hpanicked => absurd hpanicked h

end Bookkeeping

/-! ## §6. The choices of a run. -/

/-- Every request of this connection that went to a proxy action has its choice, and every
request that was forwarded is that of one, routed as its listener routes it. -/
structure Backed [DecidableEq ι] (servers : List Server) (listenerGroups : List (Nat × List Nat))
    (choices : List (Choice ι)) (id : ι) (acts : List RequestAct) : Prop where
  proxied : proxiedIn acts ≤ (choices.filter (fun choice => choice.id = id)).length
  forwarding : ∀ bytes, .forwarding bytes ∈ acts → ∃ choice ∈ choices, choice.id = id
    ∧ choice.Routed servers listenerGroups ∧ choice.Sends bytes acts

section Backed

variable [DecidableEq ι] {id : ι} {servers : List Server} {listenerGroups : List (Nat × List Nat)}
  {l l' : Ledger ι} {acts : List RequestAct}

theorem Backed.mono (h : Backed servers listenerGroups choices id acts) (later : List (Choice ι)) :
    Backed servers listenerGroups (choices ++ later) id acts := by
  refine ⟨?_, ?_⟩
  · rw [List.filter_append, List.length_append]
    exact h.proxied.trans (Nat.le_add_right _ _)
  · intro bytes hbytes
    obtain ⟨choice, hmem, hchoice⟩ := h.forwarding bytes hbytes
    exact ⟨choice, List.mem_append_left _ hmem, hchoice⟩

/-- A new connection. -/
theorem backed_new (choices : List (Choice ι)) (id : ι) :
    Backed servers listenerGroups choices id [] :=
  ⟨Nat.zero_le _, fun bytes hmem => by cases hmem⟩

/-- The choices of a call back what it did. -/
theorem Backed.call (h : Backed servers listenerGroups choices id l.acts)
    (hchose : l.Chose servers listenerGroups l' later) (hid : later ≠ [] → l.id = id) :
    Backed servers listenerGroups (choices ++ later) id l'.acts := by
  have hids : ∀ choice ∈ later, choice.id = id := by
    intro choice hmem
    exact (hchose.routed choice hmem).1.trans (hid (List.ne_nil_of_mem hmem))
  obtain ⟨acts, hacts, -, hsends⟩ := hchose.acts
  refine ⟨?_, ?_⟩
  · have hall : later.filter (fun choice => choice.id = id) = later :=
      List.filter_eq_self.mpr (fun choice hmem => decide_eq_true (hids choice hmem))
    rw [List.filter_append, hall, List.length_append, hchose.proxiedIn]
    exact Nat.add_le_add_right h.proxied _
  · intro bytes hbytes
    rw [hacts] at hbytes
    rcases List.mem_append.mp hbytes with hbytes | hbytes
    · obtain ⟨choice, hmem, hchoice, hrouted, hsend⟩ := h.forwarding bytes hbytes
      exact ⟨choice, List.mem_append_left _ hmem, hchoice, hrouted,
        by rw [hacts]; exact hsend.mono _⟩
    · obtain ⟨choice, hmem, hsend⟩ := hsends bytes hbytes
      exact ⟨choice, List.mem_append_right _ hmem, hids choice hmem,
        (hchose.routed choice hmem).2, hsend⟩

end Backed

end Thwip
