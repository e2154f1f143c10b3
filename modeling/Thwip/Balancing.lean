/-
  Thwip.Balancing — runs of the balancer (`run/slave/src/load_balancer.rs`).

  Every pool has a cursor of its own as long as its key is its own: the key of a
  named group is made from its name, that of an inline pool from its contents.
  Selecting from a pool goes round its rotation, whatever else is selected in
  between.
-/
import Mathlib.Algebra.GroupWithZero.Nat
import Thwip.Config
import Thwip.Lib.Rotation

namespace Thwip

open Thwip.Lib

variable {policy : BalancePolicy} {upstreams : List UpstreamEndpoint}

/-! ## §1. Rotations. -/

/-- The URLs of a pool in the order of their turns. -/
def rotation (policy : BalancePolicy) (upstreams : List UpstreamEndpoint) : List Str :=
  match policy with
  | .roundRobin => upstreams.map UpstreamEndpoint.url
  | .weightedRoundRobin =>
      upstreams.flatMap (fun endpoint => List.replicate endpoint.weight endpoint.url)

def weightSum (upstreams : List UpstreamEndpoint) : Nat :=
  (upstreams.map UpstreamEndpoint.weight).sum

theorem length_le_weightSum (hpositive : ∀ endpoint ∈ upstreams, 0 < endpoint.weight) :
    upstreams.length ≤ weightSum upstreams := by
  induction upstreams with
  | nil => exact Nat.le_refl 0
  | cons endpoint upstreams ih =>
      have hfirst := hpositive endpoint List.mem_cons_self
      have hrest := ih (fun other hother => hpositive other (List.mem_cons_of_mem _ hother))
      simp only [weightSum, List.map_cons, List.sum_cons, List.length_cons] at hrest ⊢
      omega

/-- The sum is computed unless it overflows. -/
theorem totalWeight_eq (upstreams : List UpstreamEndpoint) :
    totalWeight upstreams
      = if weightSum upstreams < 2 ^ 64 then some (weightSum upstreams) else none := by
  have hfold : ∀ (upstreams : List UpstreamEndpoint) (total : Nat), total < 2 ^ 64 →
      upstreams.foldlM
        (fun total endpoint =>
          if total + endpoint.weight < 2 ^ 64 then some (total + endpoint.weight) else none) total
        = if total + weightSum upstreams < 2 ^ 64 then some (total + weightSum upstreams)
          else none := by
    intro upstreams
    induction upstreams with
    | nil =>
        intro total htotal
        have hsum : weightSum [] = 0 := rfl
        rw [hsum, Nat.add_zero, if_pos htotal]
        rfl
    | cons endpoint upstreams ih =>
        intro total htotal
        have hsum : weightSum (endpoint :: upstreams)
            = endpoint.weight + weightSum upstreams := by
          simp [weightSum]
        rw [List.foldlM_cons, hsum, ← Nat.add_assoc]
        by_cases hfits : total + endpoint.weight < 2 ^ 64
        · rw [if_pos hfits]
          exact ih _ hfits
        · rw [if_neg hfits, if_neg (by omega)]
          rfl
  unfold totalWeight
  rw [hfold upstreams 0 (by decide), Nat.zero_add]

/-- The running boundary finds the URL of the rotation. -/
theorem weightedPosition_url (position : Nat) :
    ∀ (upstreams : List UpstreamEndpoint) (boundary : Nat), boundary ≤ position →
      ((weightedPosition position boundary upstreams).bind (fun i => upstreams[i]?)).map
          UpstreamEndpoint.url
        = (rotation .weightedRoundRobin upstreams)[position - boundary]? := by
  intro upstreams
  induction upstreams with
  | nil =>
      intro boundary _
      rfl
  | cons endpoint upstreams ih =>
      intro boundary hle
      have hrotation : rotation .weightedRoundRobin (endpoint :: upstreams)
          = List.replicate endpoint.weight endpoint.url
            ++ rotation .weightedRoundRobin upstreams := rfl
      unfold weightedPosition
      rw [hrotation]
      split_ifs with hin
      · rw [List.getElem?_append_left (by simp; omega), List.getElem?_replicate, if_pos (by omega)]
        rfl
      · rw [List.getElem?_append_right (by simp; omega), List.length_replicate,
          Nat.sub_sub, ← ih (boundary + endpoint.weight) (by omega)]
        cases weightedPosition position (boundary + endpoint.weight) upstreams <;> rfl

theorem rotation_weighted_length (upstreams : List UpstreamEndpoint) :
    (rotation .weightedRoundRobin upstreams).length = weightSum upstreams := by
  unfold rotation weightSum
  rw [List.length_flatMap]
  simp

/-- A pool that can be selected from. -/
structure Drawable (policy : BalancePolicy) (upstreams : List UpstreamEndpoint) : Prop where
  ne_nil : upstreams ≠ []
  total : policy = .weightedRoundRobin → 0 < weightSum upstreams ∧ weightSum upstreams < 2 ^ 64

/-- **The cursor selects the URL whose turn it is.** -/
theorem Drawable.selectIndex (h : Drawable policy upstreams) (cursor : Nat) :
    ∃ i endpoint, selectIndex policy upstreams cursor = some (.ok i)
      ∧ upstreams[i]? = some endpoint
      ∧ turn (rotation policy upstreams) cursor = some endpoint.url := by
  cases policy with
  | roundRobin =>
      have hlt : cursor % upstreams.length < upstreams.length :=
        Nat.mod_lt _ (List.length_pos_iff.mpr h.ne_nil)
      refine ⟨_, upstreams[cursor % upstreams.length], rfl, List.getElem?_eq_getElem hlt, ?_⟩
      unfold turn rotation
      simp [hlt]
  | weightedRoundRobin =>
      obtain ⟨hpos, hfits⟩ := h.total rfl
      have hlt : cursor % weightSum upstreams < weightSum upstreams := Nat.mod_lt _ hpos
      have hurl := weightedPosition_url (cursor % weightSum upstreams) upstreams 0 (Nat.zero_le _)
      rw [Nat.sub_zero, List.getElem?_eq_getElem (by rw [rotation_weighted_length]; exact hlt)] at hurl
      obtain ⟨endpoint, hendpoint, heq⟩ := Option.map_eq_some_iff.mp hurl
      obtain ⟨i, hi, hget⟩ := Option.bind_eq_some_iff.mp hendpoint
      refine ⟨i, endpoint, ?_, hget, ?_⟩
      · unfold Thwip.selectIndex
        rw [totalWeight_eq, if_pos hfits]
        simp only [if_neg (Nat.pos_iff_ne_zero.mp hpos), hi]
        rfl
      · unfold turn
        rw [rotation_weighted_length, heq]
        exact List.getElem?_eq_getElem _

/-! ## §2. One selection. -/

def namedKey (name : Str) : Str := "named:".toList ++ name

/-- The cursor an action goes on, if it gets to one. -/
def Action.cursorKey : Action → Option Str
  | .proxy none (some name) [] _ => some (namedKey name)
  | .proxy none none upstreams policy => some (groupKey policy upstreams)
  | _ => none

/-- The next turn of a pool. -/
def UpstreamBalancer.bump (self : UpstreamBalancer) (key : Str) : UpstreamBalancer :=
  { self with cursors := Function.update self.cursors key ((self.cursors key + 1) % 2 ^ 64) }

@[simp] theorem UpstreamBalancer.bump_cursors_self (self : UpstreamBalancer) (key : Str) :
    (self.bump key).cursors key = (self.cursors key + 1) % 2 ^ 64 :=
  Function.update_self _ _ _

theorem UpstreamBalancer.bump_cursors_ne (self : UpstreamBalancer) {key key' : Str}
    (h : key' ≠ key) : (self.bump key).cursors key' = self.cursors key' :=
  Function.update_of_ne h _ _

/-- **A selection changes at most one cursor**, the one of its own key. -/
theorem select_frame {self self' : UpstreamBalancer} {action : Action}
    {answer : Except BalanceError Str} (h : self.select action = some (answer, self')) :
    self' = self ∨ ∃ key, action.cursorKey = some key ∧ self' = self.bump key := by
  unfold UpstreamBalancer.select at h
  split at h
  next upstream upstreamGroup upstreams policy =>
    dsimp only at h
    generalize hconfigured : (if upstream.isSome = true then 1 else 0)
      + (if upstreamGroup.isSome = true then 1 else 0)
      + (if upstreams.isEmpty = true then 0 else 1) = configured at h
    split_ifs at h with hambiguous
    · cases h
      exact .inl rfl
    · split at h
      · cases h
        exact .inl rfl
      · split at h
        · cases h
          exact .inl rfl
        next key policy' upstreams' hsource =>
          split_ifs at h
          · cases h
            exact .inl rfl
          · split at h
            · cases h
            · cases h
              exact .inl rfl
            · split at h
              · cases h
              · cases h
                refine .inr ⟨key, ?_, rfl⟩
                split at hsource
                · split at hsource
                  · cases hsource
                  · cases hsource
                    -- a group and a pool together would be ambiguous
                    cases upstreams with
                    | nil => rfl
                    | cons endpoint upstreams =>
                        simp at hconfigured
                        omega
                · cases hsource
                  rfl
  · cases h
    exact .inl rfl

/-- A selection from a pool that can be selected from. -/
theorem Drawable.select_inline (h : Drawable policy upstreams) (self : UpstreamBalancer) :
    ∃ url, turn (rotation policy upstreams) (self.cursors (groupKey policy upstreams)) = some url
      ∧ self.select (.proxy none none upstreams policy)
        = some (.ok url, self.bump (groupKey policy upstreams)) := by
  obtain ⟨i, endpoint, hindex, hget, hturn⟩ :=
    h.selectIndex (self.cursors (groupKey policy upstreams))
  refine ⟨endpoint.url, hturn, ?_⟩
  have hne : upstreams.isEmpty = false := by simpa using h.ne_nil
  simp [UpstreamBalancer.select, hne, hindex, hget, UpstreamBalancer.bump]

theorem Drawable.select_named {group : UpstreamGroup} (h : Drawable group.policy group.servers)
    {self : UpstreamBalancer} {name : Str} (hgroup : self.groups name = some group)
    (own : BalancePolicy) :
    ∃ url, turn (rotation group.policy group.servers) (self.cursors (namedKey name)) = some url
      ∧ self.select (.proxy none (some name) [] own) = some (.ok url, self.bump (namedKey name)) := by
  obtain ⟨i, endpoint, hindex, hget, hturn⟩ := h.selectIndex (self.cursors (namedKey name))
  refine ⟨endpoint.url, hturn, ?_⟩
  have hne : group.servers.isEmpty = false := by simpa using h.ne_nil
  have hkey : "named:".toList ++ name = namedKey name := rfl
  unfold UpstreamBalancer.select
  simp only [hgroup, hkey, hne, hindex, hget, UpstreamBalancer.bump]
  rfl

/-- The key of a pool and the key of a name are never the same. -/
theorem groupKey_ne_namedKey (policy : BalancePolicy) (upstreams : List UpstreamEndpoint)
    (name : Str) : groupKey policy upstreams ≠ namedKey name := by
  intro h
  unfold groupKey namedKey BalancePolicy.debug at h
  cases policy <;> simp at h

theorem namedKey_injective {name name' : Str} (h : namedKey name = namedKey name') :
    name = name' := by
  unfold namedKey at h
  exact List.append_cancel_left h

/-! ## §3. Runs. -/

/-- The answers to the requests that ask for it, in a run of selections.  The run
ends with the worker, at the first call that panics. -/
def UpstreamBalancer.answersTo {ι : Type} (action : ι → Action) (asks : ι → Bool)
    (self : UpstreamBalancer) : List ι → List (Except BalanceError Str)
  | [] => []
  | request :: requests =>
      match self.select (action request) with
      | none => []
      | some (answer, next) =>
          if asks request then answer :: next.answersTo action asks requests
          else next.answersTo action asks requests

section AnswersTo

variable {ι : Type} (action : ι → Action) (asks : ι → Bool) (request : ι)
  {self next : UpstreamBalancer} {answer : Except BalanceError Str}

theorem answersTo_asked (hselect : self.select (action request) = some (answer, next))
    (hasks : asks request = true) (requests : List ι) :
    self.answersTo action asks (request :: requests)
      = answer :: next.answersTo action asks requests := by
  rw [UpstreamBalancer.answersTo, hselect]
  exact if_pos hasks

theorem answersTo_other (hselect : self.select (action request) = some (answer, next))
    (hasks : asks request = false) (requests : List ι) :
    self.answersTo action asks (request :: requests) = next.answersTo action asks requests := by
  rw [UpstreamBalancer.answersTo, hselect]
  exact if_neg (by rw [hasks]; simp)

theorem answersTo_panicked (hselect : self.select (action request) = none) (requests : List ι) :
    self.answersTo action asks (request :: requests) = [] := by
  rw [UpstreamBalancer.answersTo, hselect]

end AnswersTo

/-- The action of a route that names this group. -/
def Action.names (name : Str) : Action → Bool
  | .proxy none (some group) [] _ => group == name
  | _ => false

theorem Action.names_iff {name : Str} {action : Action} :
    action.names name = true ↔ ∃ own, action = .proxy none (some name) [] own := by
  constructor
  · intro h
    unfold Action.names at h
    split at h
    next group own => exact ⟨own, by rw [beq_iff_eq.mp h]⟩
    · cases h
  · rintro ⟨own, rfl⟩
    exact beq_self_eq_true name

/-- Other actions leave the cursor of a group alone. -/
theorem select_other {self self' : UpstreamBalancer} {action : Action} {name : Str}
    {answer : Except BalanceError Str} (hother : action.names name = false)
    (h : self.select action = some (answer, self')) :
    self'.groups = self.groups ∧ self'.cursors (namedKey name) = self.cursors (namedKey name) := by
  rcases select_frame h with rfl | ⟨key, hkey, rfl⟩
  · exact ⟨rfl, rfl⟩
  · refine ⟨rfl, UpstreamBalancer.bump_cursors_ne _ ?_⟩
    intro heq
    subst heq
    unfold Action.cursorKey at hkey
    split at hkey
    next group own =>
      injection hkey with hkey
      rw [Action.names_iff.mpr ⟨own, by rw [namedKey_injective hkey]⟩] at hother
      cases hother
    next upstreams policy =>
      injection hkey with hkey
      exact groupKey_ne_namedKey _ _ _ hkey
    · cases hkey

/-- **The turns of a named group**, whatever is selected in between. -/
theorem Drawable.answersTo_named {group : UpstreamGroup} {name : Str}
    (h : Drawable group.policy group.servers) :
    ∀ (actions : List Action) (self : UpstreamBalancer), self.groups name = some group →
      self.cursors (namedKey name) < 2 ^ 64 →
      ∃ urls : List Str, self.answersTo id (Action.names name) actions = urls.map .ok
        ∧ ∀ i url, urls[i]? = some url → turn (rotation group.policy group.servers)
            ((self.cursors (namedKey name) + i) % 2 ^ 64) = some url := by
  intro actions
  induction actions with
  | nil =>
      intro self _ _
      exact ⟨[], rfl, fun i url hi => (by cases hi)⟩
  | cons action actions ih =>
      intro self hgroup hcursor
      cases hselect : self.select (id action) with
      | none => exact ⟨[], answersTo_panicked id _ _ hselect _, fun i url hi => (by cases hi)⟩
      | some result =>
          obtain ⟨answer, next⟩ := result
          cases hnames : action.names name with
          | false =>
              obtain ⟨hgroups, hsame⟩ := select_other hnames hselect
              obtain ⟨urls, hurls, hturns⟩ := ih next (by rw [hgroups]; exact hgroup)
                (by rw [hsame]; exact hcursor)
              refine ⟨urls, (answersTo_other id _ _ hselect hnames _).trans hurls, ?_⟩
              rw [hsame] at hturns
              exact hturns
          | true =>
              obtain ⟨own, rfl⟩ := Action.names_iff.mp hnames
              obtain ⟨url, hturn, hurl⟩ := h.select_named hgroup own
              obtain ⟨urls, hurls, hturns⟩ := ih (self.bump (namedKey name)) hgroup
                (by rw [UpstreamBalancer.bump_cursors_self]; exact Nat.mod_lt _ (by decide))
              refine ⟨url :: urls, by rw [answersTo_asked id _ _ hurl hnames, hurls]; rfl, ?_⟩
              intro i url' hi
              cases i with
              | zero =>
                  injection hi with hi
                  rw [Nat.add_zero, Nat.mod_eq_of_lt hcursor, hturn, hi]
              | succ i =>
                  have hnext := hturns i url' hi
                  rw [UpstreamBalancer.bump_cursors_self, Nat.mod_add_mod] at hnext
                  rw [← hnext]
                  congr 2
                  omega

/-- After as many selections the group starts over. -/
def UpstreamGroup.round (self : UpstreamGroup) : Nat :=
  match self.policy with
  | .roundRobin => self.servers.length
  | .weightedRoundRobin => weightSum self.servers

/-- How often a URL is due in a round. -/
def UpstreamGroup.share (self : UpstreamGroup) (url : Str) : Nat :=
  match self.policy with
  | .roundRobin => self.servers.countP (fun endpoint => endpoint.url == url)
  | .weightedRoundRobin => weightSum (self.servers.filter (fun endpoint => endpoint.url == url))

theorem rotation_length (group : UpstreamGroup) :
    (rotation group.policy group.servers).length = group.round := by
  unfold UpstreamGroup.round
  cases group.policy with
  | roundRobin => exact List.length_map _
  | weightedRoundRobin => exact rotation_weighted_length _

theorem rotation_count (group : UpstreamGroup) (url : Str) :
    (rotation group.policy group.servers).count url = group.share url := by
  unfold UpstreamGroup.share rotation
  cases group.policy with
  | roundRobin =>
      show (group.servers.map UpstreamEndpoint.url).count url = _
      rw [List.count_eq_countP, List.countP_map]
      rfl
  | weightedRoundRobin =>
      show (group.servers.flatMap (fun endpoint =>
        List.replicate endpoint.weight endpoint.url)).count url = _
      induction group.servers with
      | nil => rfl
      | cons endpoint servers ih =>
          rw [List.flatMap_cons, List.count_append, ih, List.count_replicate]
          dsimp only
          rw [List.filter_cons]
          split_ifs
          · rfl
          · exact Nat.zero_add _

/-- The upstreams selected for the routes that name a group, in a run. -/
def UpstreamBalancer.selections (self : UpstreamBalancer) (name : Str) (actions : List Action) :
    List Str :=
  (self.answersTo id (Action.names name) actions).filterMap Except.toOption

/-- A group whose weights cannot be added up is never selected from. -/
theorem answersTo_overflow {group : UpstreamGroup} {name : Str}
    (hpolicy : group.policy = .weightedRoundRobin) (hne : group.servers ≠ [])
    (hover : 2 ^ 64 ≤ weightSum group.servers) :
    ∀ (actions : List Action) (self : UpstreamBalancer), self.groups name = some group →
      self.selections name actions = [] := by
  have hindex : ∀ cursor, selectIndex group.policy group.servers cursor
      = some (.error .invalidWeight) := by
    intro cursor
    unfold selectIndex
    rw [hpolicy, totalWeight_eq, if_neg (by omega)]
  intro actions
  induction actions with
  | nil => exact fun _ _ => rfl
  | cons action actions ih =>
      intro self hgroup
      unfold UpstreamBalancer.selections
      cases hselect : self.select (id action) with
      | none => rw [answersTo_panicked id _ _ hselect]; rfl
      | some result =>
          obtain ⟨answer, next⟩ := result
          cases hnames : action.names name with
          | false =>
              have hgroups := (select_other hnames hselect).1
              rw [answersTo_other id _ _ hselect hnames]
              exact ih next (by rw [hgroups]; exact hgroup)
          | true =>
              obtain ⟨own, rfl⟩ := Action.names_iff.mp hnames
              have herror : self.select (.proxy none (some name) [] own)
                  = some (.error .invalidWeight, self) := by
                have hempty : group.servers.isEmpty = false := by simpa using hne
                unfold UpstreamBalancer.select
                simp only [hgroup, hempty, hindex]
                rfl
              rw [answersTo_asked id _ _ herror hnames]
              exact ih self hgroup

/-- **A named group shares out its selections.** From a fresh balancer, and
whatever else is selected in between: the routes that name the group go through
one sequence, and in every window of a whole round within the first `2 ^ 64`
selections each URL has its share.  As long as the weights can be added up, every
call that names the group is such a selection. -/
theorem named_group_shares_out (groups : Str → Option UpstreamGroup) (name : Str)
    (group : UpstreamGroup) (hgroup : groups name = some group) (hne : group.servers ≠ [])
    (hpositive : ∀ endpoint ∈ group.servers, 0 < endpoint.weight) :
    ∃ sequence : Nat → Str, ∀ actions : List Action,
      (∀ i url, ((UpstreamBalancer.withGroups groups).selections name actions)[i]? = some url →
        url = sequence i)
      ∧ (∀ start url,
          start + group.round ≤ ((UpstreamBalancer.withGroups groups).selections name actions).length →
          start + group.round ≤ 2 ^ 64 →
          ((((UpstreamBalancer.withGroups groups).selections name actions).drop start).take
            group.round).count url = group.share url)
      ∧ (weightSum group.servers < 2 ^ 64 →
          (UpstreamBalancer.withGroups groups).answersTo id (Action.names name) actions
            = ((UpstreamBalancer.withGroups groups).selections name actions).map .ok) := by
  have hsum : 0 < weightSum group.servers :=
    Nat.lt_of_lt_of_le (List.length_pos_iff.mpr hne) (length_le_weightSum hpositive)
  by_cases hover : group.policy = .weightedRoundRobin ∧ 2 ^ 64 ≤ weightSum group.servers
  · -- there is no selection at all
    refine ⟨fun _ => [], ?_⟩
    intro actions
    rw [answersTo_overflow hover.1 hne hover.2 actions (.withGroups groups) hgroup]
    refine ⟨fun i url hi => (by cases hi), ?_, fun hfits => absurd hover.2 (by omega)⟩
    intro start url hlength _
    have hround : group.round = weightSum group.servers := by
      unfold UpstreamGroup.round
      rw [hover.1]
    rw [List.length_nil] at hlength
    omega
  · have hdrawable : Drawable group.policy group.servers :=
      ⟨hne, fun hpolicy => ⟨hsum, by
        by_contra hnot
        exact hover ⟨hpolicy, by omega⟩⟩⟩
    refine ⟨fun i => (turn (rotation group.policy group.servers) (i % 2 ^ 64)).getD [], ?_⟩
    intro actions
    have hcursor : (UpstreamBalancer.withGroups groups).cursors (namedKey name) = 0 := rfl
    obtain ⟨urls, hurls, hturns⟩ := hdrawable.answersTo_named actions
      (.withGroups groups) hgroup (by rw [hcursor]; decide)
    simp only [hcursor, Nat.zero_add] at hturns
    have hselections : (UpstreamBalancer.withGroups groups).selections name actions = urls := by
      unfold UpstreamBalancer.selections
      rw [hurls, List.filterMap_map]
      exact List.filterMap_some
    rw [hselections]
    refine ⟨?_, ?_, fun _ => hurls⟩
    · intro i url hi
      show url = (turn (rotation group.policy group.servers) (i % 2 ^ 64)).getD []
      rw [hturns i url hi]
      rfl
    · intro start url hlength hwithin
      rw [← rotation_count]
      rw [← rotation_length] at hlength hwithin ⊢
      have hwindow : ((urls.drop start).take (rotation group.policy group.servers).length).length
          = (rotation group.policy group.servers).length := by
        rw [List.length_take, List.length_drop]
        omega
      refine count_window start ?_ hwindow url
      intro i hi
      have hlt : start + i < urls.length := by omega
      rw [List.getElem?_take_of_lt hi, List.getElem?_drop, List.getElem?_eq_getElem hlt,
        ← hturns (start + i) _ (List.getElem?_eq_getElem hlt), Nat.mod_eq_of_lt (by omega)]

/-- Two backends, one with twice the weight. -/
def twoToOne : UpstreamGroup :=
  { policy := .weightedRoundRobin
    servers := [⟨"http://a".toList, 2⟩, ⟨"http://b".toList, 1⟩] }

/-- Requests for a location that names the group. -/
def apiRequests (n : Nat) : List Action :=
  List.replicate n (.proxy none (some "api".toList) [] .roundRobin)

theorem named_group_shares_out_twoToOne :
    ((((UpstreamBalancer.withGroups (fun _ => some twoToOne)).selections
      "api".toList (apiRequests 5)).drop 1).take 3).count "http://a".toList = 2 := by
  obtain ⟨sequence, hruns⟩ := named_group_shares_out (fun _ => some twoToOne) "api".toList twoToOne
    rfl (by decide) (by decide)
  exact (hruns (apiRequests 5)).2.1 1 "http://a".toList (by decide) (by decide)

/-! ## §4. Accepted configurations. -/

def ProxyConfig.upstreamGroups (self : ProxyConfig) (name : Str) : Option UpstreamGroup :=
  self.upstreams.lookup name

/-- Every location, server by server. -/
def ProxyConfig.locations (self : ProxyConfig) : List Location :=
  self.servers.flatMap (fun server => server.locations)

/-- The URLs configured for an action. -/
def Action.urls (groups : Str → Option UpstreamGroup) : Action → List Str
  | .proxy upstream upstreamGroup upstreams _ =>
      upstream.toList
        ++ (upstreamGroup.bind groups).toList.flatMap
            (fun group => group.servers.map UpstreamEndpoint.url)
        ++ upstreams.map UpstreamEndpoint.url
  | _ => []

/-- An accepted pool can be selected from. -/
theorem drawable_of_accepted (policy : BalancePolicy)
    (hne : upstreams ≠ []) (hvalid : validateEndpoints upstreams = .ok ())
    (hpositive : ∀ endpoint ∈ upstreams, 0 < endpoint.weight) : Drawable policy upstreams := by
  have hlength := length_le_weightSum hpositive
  have hnonempty := List.length_pos_iff.mpr hne
  have htotal := (validateEndpoints_eq_ok hvalid).2
  rw [totalWeight_eq] at htotal
  refine ⟨hne, fun _ => ⟨by omega, ?_⟩⟩
  by_contra hover
  rw [if_neg hover] at htotal
  exact htotal rfl

theorem rotation_mem {url : Str} (h : url ∈ rotation policy upstreams) :
    ∃ endpoint ∈ upstreams, endpoint.url = url := by
  cases policy with
  | roundRobin => exact List.mem_map.mp h
  | weightedRoundRobin =>
      obtain ⟨endpoint, hmem, hurl⟩ := List.mem_flatMap.mp h
      exact ⟨endpoint, hmem, (List.eq_of_mem_replicate hurl).symm⟩

theorem mem_rotation (hpositive : ∀ endpoint ∈ upstreams, 0 < endpoint.weight)
    {endpoint : UpstreamEndpoint} (h : endpoint ∈ upstreams) :
    endpoint.url ∈ rotation policy upstreams := by
  cases policy with
  | roundRobin => exact List.mem_map_of_mem h
  | weightedRoundRobin =>
      refine List.mem_flatMap.mpr ⟨endpoint, h, List.mem_replicate.mpr ⟨?_, rfl⟩⟩
      exact Nat.pos_iff_ne_zero.mp (hpositive endpoint h)

section Accepted

variable {debug : Str → Str} {config : ProxyConfig}

theorem mem_endpoints_group {group : Str × UpstreamGroup} (hmem : group ∈ config.upstreams)
    {endpoint : UpstreamEndpoint} (h : endpoint ∈ group.2.servers) :
    endpoint ∈ config.endpoints :=
  List.mem_append_left _ (List.mem_flatMap.mpr ⟨group, hmem, h⟩)

theorem mem_endpoints_inline {location : Location} (hmem : location ∈ config.locations)
    {upstream upstreamGroup : Option Str} {upstreams : List UpstreamEndpoint}
    {policy : BalancePolicy}
    (haction : location.action = .proxy upstream upstreamGroup upstreams policy)
    {endpoint : UpstreamEndpoint} (h : endpoint ∈ upstreams) : endpoint ∈ config.endpoints := by
  obtain ⟨server, hserver, hlocation⟩ := List.mem_flatMap.mp hmem
  refine List.mem_append_right _ (List.mem_flatMap.mpr ⟨server, hserver,
    List.mem_flatMap.mpr ⟨location, hlocation, ?_⟩⟩)
  rw [haction]
  exact h

/-- A group that is looked up was checked. -/
theorem accepted_group {name : Str} {group : UpstreamGroup}
    (hfields : config.deserialized = .ok ()) (hwhole : config.validate debug = .ok ())
    (hlookup : config.upstreamGroups name = some group) :
    Drawable group.policy group.servers
      ∧ ∀ endpoint ∈ group.servers, isBlank endpoint.url = false := by
  obtain ⟨before, after, hsplit, -⟩ := List.lookup_eq_some_iff.mp hlookup
  have hmem : (name, group) ∈ config.upstreams := by
    rw [hsplit]
    simp
  have hgroup := (validate_eq_ok hwhole).1 _ hmem
  unfold validateGroup at hgroup
  split_ifs at hgroup with hname hempty
  obtain ⟨-, -, -, hweights⟩ := deserialized_positive hfields
  exact ⟨drawable_of_accepted _ (by simpa using hempty) hgroup
      (fun endpoint hendpoint => hweights _ (mem_endpoints_group hmem hendpoint)),
    (validateEndpoints_eq_ok hgroup).1⟩

/-- The inline pool of an accepted location. -/
theorem accepted_inline {location : Location} {upstreams : List UpstreamEndpoint}
    {policy : BalancePolicy} (hfields : config.deserialized = .ok ())
    (hwhole : config.validate debug = .ok ()) (hmem : location ∈ config.locations)
    (haction : location.action = .proxy none none upstreams policy) :
    Drawable policy upstreams ∧ (∀ endpoint ∈ upstreams, isBlank endpoint.url = false)
      ∧ (∀ endpoint ∈ upstreams, 0 < endpoint.weight) ∧ weightSum upstreams < 2 ^ 64 := by
  obtain ⟨server, hserver, hlocation⟩ := List.mem_flatMap.mp hmem
  have hvalid := (validate_eq_ok hwhole).2 server hserver location hlocation
  rw [haction] at hvalid
  obtain ⟨-, -, -, hweights⟩ := deserialized_positive hfields
  have hpositive : ∀ endpoint ∈ upstreams, 0 < endpoint.weight :=
    fun endpoint hendpoint => hweights _ (mem_endpoints_inline hmem haction hendpoint)
  cases validateAction_eq_ok hvalid with
  | inline _ hne hendpoints =>
      exact ⟨drawable_of_accepted _ hne hendpoints hpositive,
        (validateEndpoints_eq_ok hendpoints).1, hpositive,
        ((drawable_of_accepted .weightedRoundRobin hne hendpoints hpositive).total rfl).2⟩

/-- The balancer after a run of selections; `none` if one of them panics. -/
def UpstreamBalancer.after (self : UpstreamBalancer) : List Action → Option UpstreamBalancer
  | [] => some self
  | action :: actions =>
      match self.select action with
      | none => none
      | some (_, next) => next.after actions

/-- The groups are never changed. -/
theorem after_groups : ∀ {actions : List Action} {self self' : UpstreamBalancer},
    self.after actions = some self' → self'.groups = self.groups
  | [], self, self', h => by
      injection h with h
      rw [h]
  | action :: actions, self, self', h => by
      unfold UpstreamBalancer.after at h
      split at h
      · cases h
      next answer next hselect =>
        rw [after_groups h]
        rcases select_frame hselect with rfl | ⟨key, -, rfl⟩ <;> rfl

end Accepted

/-- **Selecting never fails for an accepted configuration.** Whatever was selected
before, each proxy action of it gets one of its own URLs, and no blank one. -/
theorem accepted_action_selects {debug : Str → Str} {parse : Str → Except Str ProxyConfig}
    {contents : Str} {config : ProxyConfig}
    (haccepted : ProxyConfig.fromToml debug parse contents = .ok config)
    {earlier : List Action} {self : UpstreamBalancer}
    (hrun : (UpstreamBalancer.withGroups config.upstreamGroups).after earlier = some self)
    {location : Location} (hlocation : location ∈ config.locations)
    {upstream upstreamGroup : Option Str} {upstreams : List UpstreamEndpoint}
    {policy : BalancePolicy}
    (haction : location.action = .proxy upstream upstreamGroup upstreams policy) :
    ∃ url self', self.select location.action = some (.ok url, self')
      ∧ url ∈ location.action.urls config.upstreamGroups ∧ isBlank url = false := by
  obtain ⟨hfields, hwhole⟩ := fromToml_eq_ok haccepted
  have hgroups : self.groups = config.upstreamGroups := after_groups hrun
  obtain ⟨server, hserver, hmem⟩ := List.mem_flatMap.mp hlocation
  have hvalid := (validate_eq_ok hwhole).2 server hserver location hmem
  rw [haction] at hvalid ⊢
  cases validateAction_eq_ok hvalid with
  | direct url hurl => exact ⟨url, self, rfl, by simp [Action.urls], hurl⟩
  | named name hname =>
      have hsome : (config.upstreamGroups name).isSome := by
        obtain ⟨group, hgroup, heq⟩ := hname
        exact List.lookup_isSome_iff.mpr ⟨group, hgroup, by simp [heq]⟩
      obtain ⟨group, hlookup⟩ := Option.isSome_iff_exists.mp hsome
      obtain ⟨hdrawable, hblank⟩ := accepted_group hfields hwhole hlookup
      obtain ⟨url, hturn, hselect⟩ := hdrawable.select_named
        (show self.groups name = some group by rw [hgroups]; exact hlookup) policy
      obtain ⟨endpoint, hendpoint, rfl⟩ := rotation_mem (List.mem_of_getElem? hturn)
      refine ⟨_, _, hselect, ?_, hblank endpoint hendpoint⟩
      simp only [Action.urls, Option.toList_none, Option.bind_some, hlookup, Option.toList_some,
        List.flatMap_cons, List.flatMap_nil, List.append_nil, List.nil_append, List.map_nil]
      exact List.mem_map_of_mem hendpoint
  | inline _ hne hendpoints =>
      obtain ⟨hdrawable, hblank, -⟩ := accepted_inline hfields hwhole hlocation haction
      obtain ⟨url, hturn, hselect⟩ := hdrawable.select_inline self
      obtain ⟨endpoint, hendpoint, rfl⟩ := rotation_mem (List.mem_of_getElem? hturn)
      refine ⟨_, _, hselect, ?_, hblank endpoint hendpoint⟩
      simp only [Action.urls, Option.toList_none, Option.bind_none, List.flatMap_nil,
        List.nil_append]
      exact List.mem_map_of_mem hendpoint

/-- A worker whose routes name a group or have a pool of their own. -/
def pooledConfig : ProxyConfig :=
  { servers := [{ serverName := none, listen := .v4 0 80
                  locations :=
                    [⟨.pre "/".toList, .proxy none (some "api".toList) [] .roundRobin⟩,
                     ⟨.pre "/x".toList, .proxy none none twoToOne.servers .roundRobin⟩,
                     ⟨.pre "/y".toList, .proxy none none twoToOne.servers .roundRobin⟩] }]
    upstreams := [("api".toList, twoToOne)] }

/-- The file that says so. -/
def pooledToml : String :=
  "[upstreams.api]\n" ++
  "policy = \"weighted_round_robin\"\n" ++
  "[[upstreams.api.servers]]\n" ++
  "url = \"http://a\"\n" ++
  "weight = 2\n" ++
  "[[upstreams.api.servers]]\n" ++
  "url = \"http://b\"\n" ++
  "weight = 1\n\n" ++
  "[[http.servers]]\n" ++
  "listen = \"0.0.0.0:80\"\n\n" ++
  "[[http.servers.locations]]\n" ++
  "[http.servers.locations.matcher]\n" ++
  "type = \"prefix\"\n" ++
  "path = \"/\"\n" ++
  "[http.servers.locations.action]\n" ++
  "type = \"proxy\"\n" ++
  "policy = \"round_robin\"\n" ++
  "upstream_group = \"api\"\n\n" ++
  "[[http.servers.locations]]\n" ++
  "[http.servers.locations.matcher]\n" ++
  "type = \"prefix\"\n" ++
  "path = \"/x\"\n" ++
  "[http.servers.locations.action]\n" ++
  "type = \"proxy\"\n" ++
  "policy = \"round_robin\"\n" ++
  "[[http.servers.locations.action.upstreams]]\n" ++
  "url = \"http://a\"\n" ++
  "weight = 2\n" ++
  "[[http.servers.locations.action.upstreams]]\n" ++
  "url = \"http://b\"\n" ++
  "weight = 1\n\n" ++
  "[[http.servers.locations]]\n" ++
  "[http.servers.locations.matcher]\n" ++
  "type = \"prefix\"\n" ++
  "path = \"/y\"\n" ++
  "[http.servers.locations.action]\n" ++
  "type = \"proxy\"\n" ++
  "policy = \"round_robin\"\n" ++
  "[[http.servers.locations.action.upstreams]]\n" ++
  "url = \"http://a\"\n" ++
  "weight = 2\n" ++
  "[[http.servers.locations.action.upstreams]]\n" ++
  "url = \"http://b\"\n" ++
  "weight = 1\n"

theorem pooledConfig_accepted :
    ProxyConfig.fromToml id (tomlOf pooledToml pooledConfig) pooledToml.toList = .ok pooledConfig :=
  fromToml_tomlOf rfl rfl

theorem accepted_action_selects_pooled :
    ∃ self url self',
      (UpstreamBalancer.withGroups pooledConfig.upstreamGroups).after
        [.proxy none (some "api".toList) [] .roundRobin, .static []] = some self
      ∧ self.select (.proxy none (some "api".toList) [] .roundRobin) = some (.ok url, self')
      ∧ url ∈ ["http://a".toList, "http://b".toList] ∧ isBlank url = false := by
  have hrun : ((UpstreamBalancer.withGroups pooledConfig.upstreamGroups).after
      [.proxy none (some "api".toList) [] .roundRobin, .static []]).isSome = true := by
    decide +kernel
  obtain ⟨self, hself⟩ := Option.isSome_iff_exists.mp hrun
  obtain ⟨url, self', hselect, hmem, hblank⟩ := accepted_action_selects pooledConfig_accepted
    hself (show ⟨.pre "/".toList, .proxy none (some "api".toList) [] .roundRobin⟩ ∈ pooledConfig.locations
      from List.mem_cons_self) rfl
  refine ⟨self, url, self', hself, hselect, ?_, hblank⟩
  have hurls : Action.urls pooledConfig.upstreamGroups
      (.proxy none (some "api".toList) [] .roundRobin) = ["http://a".toList, "http://b".toList] := by
    decide +kernel
  rw [← hurls]
  exact hmem

/-! ## §5. Pools of one route. -/

/-- The action of one of two routes. -/
def routeAction (a b : Action) (first : Bool) : Action := if first then a else b

/-- What one route gets does not depend on the requests to the other. -/
def UpstreamBalancer.Independent (self : UpstreamBalancer) (a b : Action) : Prop :=
  ∀ requests : List Bool, self.answersTo (routeAction a b) id requests
    = self.answersTo (routeAction a b) id (requests.filter id)

section Inline

variable {ua ub : List UpstreamEndpoint} {pa pb : BalancePolicy}

/-- Pools with cursors of their own, or with one URL only, are independent. -/
theorem answersTo_independent (ha : Drawable pa ua) (hb : Drawable pb ub)
    (hprivate : groupKey pa ua ≠ groupKey pb ub
      ∨ ∀ url ∈ rotation pa ua, ∀ url' ∈ rotation pa ua, url = url') :
    ∀ (requests : List Bool) (self self' : UpstreamBalancer),
      self.cursors (groupKey pa ua) = self'.cursors (groupKey pa ua)
        ∨ (∀ url ∈ rotation pa ua, ∀ url' ∈ rotation pa ua, url = url') →
      self.answersTo (routeAction (.proxy none none ua pa) (.proxy none none ub pb)) id requests
        = self'.answersTo (routeAction (.proxy none none ua pa) (.proxy none none ub pb)) id
          (requests.filter id) := by
  intro requests
  induction requests with
  | nil => exact fun _ _ _ => rfl
  | cons first requests ih =>
      intro self self' hcursors
      cases first with
      | true =>
          obtain ⟨url, hturn, hselect⟩ := ha.select_inline self
          obtain ⟨url', hturn', hselect'⟩ := ha.select_inline self'
          have hurl : url = url' := by
            rcases hcursors with hsame | hone
            · rw [hsame, hturn'] at hturn
              injection hturn with hturn
              exact hturn.symm
            · exact hone url (List.mem_of_getElem? hturn) url' (List.mem_of_getElem? hturn')
          have hnext := ih (self.bump (groupKey pa ua)) (self'.bump (groupKey pa ua)) (by
            rcases hcursors with hsame | hone
            · exact .inl (by simp [hsame])
            · exact .inr hone)
          rw [List.filter_cons_of_pos rfl, answersTo_asked _ _ true hselect rfl,
            answersTo_asked _ _ true hselect' rfl, hnext, hurl]
      | false =>
          obtain ⟨url, -, hselect⟩ := hb.select_inline self
          have hnext := ih (self.bump (groupKey pb ub)) self' (by
            rcases hcursors with hsame | hone
            · rcases hprivate with hkeys | hone
              · exact .inl (by rw [UpstreamBalancer.bump_cursors_ne _ hkeys]; exact hsame)
              · exact .inr hone
            · exact .inr hone)
          rw [List.filter_cons_of_neg (by simp), answersTo_other _ _ false hselect rfl, hnext]

/-- A run of requests to the first route alone. -/
theorem answersTo_replicate (ha : Drawable pa ua) (b : Action) :
    ∀ (k : Nat) (self : UpstreamBalancer), self.cursors (groupKey pa ua) + k < 2 ^ 64 →
      ∃ (urls : List (Except BalanceError Str)) (self' : UpstreamBalancer),
        self'.cursors (groupKey pa ua) = self.cursors (groupKey pa ua) + k
        ∧ ∀ rest, self.answersTo (routeAction (.proxy none none ua pa) b) id
            (List.replicate k true ++ rest)
          = urls ++ self'.answersTo (routeAction (.proxy none none ua pa) b) id rest := by
  intro k
  induction k with
  | zero =>
      intro self _
      exact ⟨[], self, rfl, fun _ => rfl⟩
  | succ k ih =>
      intro self hlt
      obtain ⟨url, -, hselect⟩ := ha.select_inline self
      have hcursor : (self.bump (groupKey pa ua)).cursors (groupKey pa ua)
          = self.cursors (groupKey pa ua) + 1 := by
        rw [UpstreamBalancer.bump_cursors_self, Nat.mod_eq_of_lt (by omega)]
      obtain ⟨urls, self', hcursor', hruns⟩ := ih (self.bump (groupKey pa ua))
        (by rw [hcursor]; omega)
      refine ⟨.ok url :: urls, self', by rw [hcursor', hcursor]; omega, ?_⟩
      intro rest
      rw [List.replicate_succ, List.cons_append, answersTo_asked _ _ true hselect rfl, hruns]
      rfl

/-- Pools with one cursor and two neighbouring URLs are not. -/
theorem not_independent (ha : Drawable pa ua) (hb : Drawable pb ub)
    (hkeys : groupKey pa ua = groupKey pb ub) {i : Nat} (hi : i + 1 < (rotation pa ua).length)
    (hlt : i + 1 < 2 ^ 64) (hne : (rotation pa ua)[i]? ≠ (rotation pa ua)[i + 1]?)
    (groups : Str → Option UpstreamGroup) :
    ¬ (UpstreamBalancer.withGroups groups).Independent (.proxy none none ua pa)
      (.proxy none none ub pb) := by
  intro hindependent
  have hstart : (UpstreamBalancer.withGroups groups).cursors (groupKey pa ua) = 0 := rfl
  obtain ⟨urls, self, hcursor, hruns⟩ := answersTo_replicate ha (.proxy none none ub pb) i
    (.withGroups groups) (by rw [hstart]; omega)
  rw [hstart, Nat.zero_add] at hcursor
  have hboth := hindependent (List.replicate i true ++ [false, true])
  have halone : (List.replicate i true ++ [false, true]).filter id
      = List.replicate i true ++ [true] := by
    simp
  rw [halone, hruns, hruns] at hboth
  have hlast := List.append_cancel_left hboth
  -- the request to the other route takes the turn
  obtain ⟨other, -, hother⟩ := hb.select_inline self
  obtain ⟨url, hturn, hselect⟩ := ha.select_inline self
  obtain ⟨url', hturn', hselect'⟩ := ha.select_inline (self.bump (groupKey pb ub))
  rw [answersTo_other _ _ false hother rfl, answersTo_asked _ _ true hselect' rfl,
    answersTo_asked _ _ true hselect rfl] at hlast
  injection hlast with hurl _
  injection hurl with hurl
  rw [← hkeys, UpstreamBalancer.bump_cursors_self, hcursor, Nat.mod_eq_of_lt hlt] at hturn'
  rw [hcursor] at hturn
  unfold turn at hturn hturn'
  rw [Nat.mod_eq_of_lt (by omega)] at hturn hturn'
  exact hne (by rw [hturn, hturn', hurl])

end Inline

/-- **When an inline pool is private to its route.** For every accepted
configuration and every two locations with inline pools, what the first gets is
independent of the second exactly when the keys of the pools differ, or the first
pool has one URL only. -/
theorem inline_pools_private_iff {debug : Str → Str} {parse : Str → Except Str ProxyConfig}
    {contents : Str} {config : ProxyConfig}
    (haccepted : ProxyConfig.fromToml debug parse contents = .ok config) {a b : Location}
    (ha : a ∈ config.locations) (hb : b ∈ config.locations) {ua ub : List UpstreamEndpoint}
    {pa pb : BalancePolicy} (hactionA : a.action = .proxy none none ua pa)
    (hactionB : b.action = .proxy none none ub pb) :
    (UpstreamBalancer.withGroups config.upstreamGroups).Independent a.action b.action
      ↔ groupKey pa ua ≠ groupKey pb ub
        ∨ ∀ endpoint ∈ ua, ∀ endpoint' ∈ ua, endpoint.url = endpoint'.url := by
  obtain ⟨hfields, hwhole⟩ := fromToml_eq_ok haccepted
  obtain ⟨hdrawA, -, hpositive, hsum⟩ := accepted_inline hfields hwhole ha hactionA
  obtain ⟨hdrawB, -, -⟩ := accepted_inline hfields hwhole hb hactionB
  rw [hactionA, hactionB]
  constructor
  · intro hindependent
    by_contra hnot
    rw [not_or, not_not] at hnot
    obtain ⟨hkeys, hdiffer⟩ := hnot
    -- two neighbours in the rotation differ
    have hneighbours : ¬ ∀ i, i + 1 < (rotation pa ua).length →
        (rotation pa ua)[i]? = (rotation pa ua)[i + 1]? := by
      intro hall
      apply hdiffer
      intro endpoint hmem endpoint' hmem'
      exact eq_of_neighbours hall _ (mem_rotation hpositive hmem) _ (mem_rotation hpositive hmem')
    push Not at hneighbours
    obtain ⟨i, hi, hne⟩ := hneighbours
    have hlength : (rotation pa ua).length < 2 ^ 64 := by
      cases pa with
      | roundRobin =>
          have hle := length_le_weightSum hpositive
          rw [rotation, List.length_map]
          omega
      | weightedRoundRobin =>
          rw [rotation_weighted_length]
          exact hsum
    exact not_independent hdrawA hdrawB hkeys hi (by omega) hne _ hindependent
  · intro hprivate requests
    have hrotation : groupKey pa ua ≠ groupKey pb ub
        ∨ ∀ url ∈ rotation pa ua, ∀ url' ∈ rotation pa ua, url = url' := by
      rcases hprivate with hkeys | hone
      · exact .inl hkeys
      · right
        intro url hurl url' hurl'
        obtain ⟨endpoint, hmem, rfl⟩ := rotation_mem hurl
        obtain ⟨endpoint', hmem', rfl⟩ := rotation_mem hurl'
        exact hone endpoint hmem endpoint' hmem'
    exact answersTo_independent hdrawA hdrawB hrotation requests _ _ (.inl rfl)

/-- Two routes with the same pool. -/
def firstPool : Location := ⟨.pre "/x".toList, .proxy none none twoToOne.servers .roundRobin⟩

def secondPool : Location := ⟨.pre "/y".toList, .proxy none none twoToOne.servers .roundRobin⟩

theorem inline_pools_private_iff_pooled :
    (UpstreamBalancer.withGroups pooledConfig.upstreamGroups).Independent firstPool.action
        secondPool.action
      ↔ groupKey .roundRobin twoToOne.servers ≠ groupKey .roundRobin twoToOne.servers
        ∨ ∀ endpoint ∈ twoToOne.servers, ∀ endpoint' ∈ twoToOne.servers,
          endpoint.url = endpoint'.url :=
  inline_pools_private_iff pooledConfig_accepted
    (show firstPool ∈ pooledConfig.locations from by decide +kernel)
    (show secondPool ∈ pooledConfig.locations from by decide +kernel) rfl rfl

/-- Alternating requests pin each of two routes to one backend. -/
theorem equal_pools_interfere :
    ProxyConfig.fromToml id (tomlOf pooledToml pooledConfig) pooledToml.toList = .ok pooledConfig
      ∧ firstPool ∈ pooledConfig.locations ∧ secondPool ∈ pooledConfig.locations
      ∧ firstPool ≠ secondPool
      ∧ (UpstreamBalancer.withGroups pooledConfig.upstreamGroups).answersTo
          (routeAction firstPool.action secondPool.action) id [true, false, true, false]
        = [.ok "http://a".toList, .ok "http://a".toList]
      ∧ (UpstreamBalancer.withGroups pooledConfig.upstreamGroups).answersTo
          (routeAction firstPool.action secondPool.action) id [true, true]
        = [.ok "http://a".toList, .ok "http://b".toList]
      ∧ ¬ (UpstreamBalancer.withGroups pooledConfig.upstreamGroups).Independent firstPool.action
        secondPool.action := by
  have halternating : (UpstreamBalancer.withGroups pooledConfig.upstreamGroups).answersTo
      (routeAction firstPool.action secondPool.action) id [true, false, true, false]
      = [.ok "http://a".toList, .ok "http://a".toList] := by
    rfl
  have halone : (UpstreamBalancer.withGroups pooledConfig.upstreamGroups).answersTo
      (routeAction firstPool.action secondPool.action) id [true, true]
      = [.ok "http://a".toList, .ok "http://b".toList] := by
    rfl
  refine ⟨pooledConfig_accepted, by decide +kernel, by decide +kernel, by decide, halternating, halone,
    ?_⟩
  intro hindependent
  have hboth := hindependent [true, false, true, false]
  rw [halternating, show [true, false, true, false].filter id = [true, true] from rfl, halone] at hboth
  simp at hboth

end Thwip
