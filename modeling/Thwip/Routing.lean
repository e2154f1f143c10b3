/-
  Thwip.Routing — which location answers for a target.

  `route` looks for an exact location first and takes the longest prefix location
  else.  All prefixes of one target are prefixes of one another, so no two of them
  are of the same length: when no matcher is written twice, neither of the two
  searches depends on the order of the locations.  Both compare the target as the
  client wrote it, not the path it names.
-/
import Mathlib.Data.List.Pairwise
import Thwip.StaticFiles

namespace Thwip

open Thwip.Lib

/-! ## §1. The last of the greatest. -/

section MaxByKey

variable {α : Type*} {key : α → Nat}

theorem maxByKey_concat (xs : List α) (x : α) :
    maxByKey key (xs ++ [x])
      = (maxByKey key xs).elim (some x) (fun b => if key b ≤ key x then some x else some b) := by
  unfold maxByKey
  rw [List.foldl_append, List.foldl_cons, List.foldl_nil]
  split
  next hnone =>
    rw [hnone]
    rfl
  next b hsome =>
    rw [hsome]
    rfl

theorem maxByKey_eq_none_iff {xs : List α} : maxByKey key xs = none ↔ xs = [] := by
  induction xs using List.reverseRecOn with
  | nil => exact ⟨fun _ => rfl, fun _ => rfl⟩
  | append_singleton xs x ih =>
      rw [maxByKey_concat]
      cases hbest : maxByKey key xs with
      | none => simp
      | some b =>
          show (if key b ≤ key x then some x else some b) = none ↔ _
          split_ifs
          · simp
          · simp

/-- It is one of the elements, and none has a greater key. -/
theorem maxByKey_some {xs : List α} {a : α} (h : maxByKey key xs = some a) :
    a ∈ xs ∧ ∀ b ∈ xs, key b ≤ key a := by
  induction xs using List.reverseRecOn generalizing a with
  | nil => cases h
  | append_singleton xs x ih =>
      rw [maxByKey_concat] at h
      cases hbest : maxByKey key xs with
      | none =>
          rw [hbest] at h
          injection h with h
          have hnil := maxByKey_eq_none_iff.mp hbest
          rw [hnil, ← h]
          simp
      | some b =>
          rw [hbest] at h
          obtain ⟨hmem, hmax⟩ := ih hbest
          simp only [Option.elim_some] at h
          -- the later element wins a tie
          split_ifs at h with hle
          · injection h with h
            rw [← h]
            refine ⟨List.mem_append_right _ (List.mem_singleton.mpr rfl), ?_⟩
            intro c hc
            rcases List.mem_append.mp hc with hc | hc
            · have := hmax c hc
              omega
            · rw [List.mem_singleton.mp hc]
          · injection h with h
            rw [← h]
            refine ⟨List.mem_append_left _ hmem, ?_⟩
            intro c hc
            rcases List.mem_append.mp hc with hc | hc
            · exact hmax c hc
            · rw [List.mem_singleton.mp hc]
              omega

theorem maxByKey_isSome {xs : List α} {a : α} (h : a ∈ xs) :
    ∃ best, maxByKey key xs = some best := by
  cases hbest : maxByKey key xs with
  | none =>
      rw [maxByKey_eq_none_iff.mp hbest] at h
      cases h
  | some best => exact ⟨best, rfl⟩

/-- Where keys tell elements apart, the order of the elements does not matter. -/
theorem maxByKey_perm {xs ys : List α} (hperm : xs.Perm ys)
    (hinj : ∀ a ∈ xs, ∀ b ∈ xs, key a = key b → a = b) :
    maxByKey key xs = maxByKey key ys := by
  cases hbest : maxByKey key xs with
  | none =>
      have hnil := maxByKey_eq_none_iff.mp hbest
      rw [hnil] at hperm
      rw [List.nil_perm.mp hperm]
      rfl
  | some a =>
      obtain ⟨hmem, hmax⟩ := maxByKey_some hbest
      have hsome : ∃ b, maxByKey key ys = some b := maxByKey_isSome (hperm.subset hmem)
      obtain ⟨b, hother⟩ := hsome
      obtain ⟨hmemb, hmaxb⟩ := maxByKey_some hother
      have hb : b ∈ xs := hperm.symm.subset hmemb
      have hle := hmax b hb
      have hge := hmaxb a (hperm.subset hmem)
      rw [hother, hinj a hmem b hb (by omega)]

end MaxByKey

/-! ## §2. Prefixes of one target. -/

theorem eq_of_prefix_of_length {p q : Str} (h : p <+: q)
    (hlength : (asBytes p).length = (asBytes q).length) : p = q := by
  obtain ⟨r, rfl⟩ := h
  rw [asBytes_append, List.length_append] at hlength
  have hnil : asBytes r = [] := List.eq_nil_of_length_eq_zero (by omega)
  rw [asBytes_eq_nil.mp hnil, List.append_nil]

/-- Two prefixes of a text that are of one length are the same. -/
theorem prefix_unique {p q target : Str} (hp : p <+: target) (hq : q <+: target)
    (hlength : (asBytes p).length = (asBytes q).length) : p = q := by
  rcases List.prefix_or_prefix_of_prefix hp hq with h | h
  · exact eq_of_prefix_of_length h hlength
  · exact (eq_of_prefix_of_length h hlength.symm).symm

/-! ## §3. The two searches. -/

/-- What the second search of `route` weighs a location with. -/
def weighed (target : Str) (location : Location) : Option (Nat × Action) :=
  match location.matcher with
  | .pre path =>
      if path.isPrefixOf target then some ((asBytes path).length, location.action) else none
  | .exact _ => none

theorem weighed_eq_some {target : Str} {location : Location} {found : Nat × Action} :
    weighed target location = some found ↔
      ∃ path, location.matcher = .pre path ∧ path <+: target
        ∧ found = ((asBytes path).length, location.action) := by
  unfold weighed
  cases hmatcher : location.matcher with
  | exact path => simp
  | pre path =>
      dsimp only
      split_ifs with hprefix
      · rw [List.isPrefixOf_iff_prefix] at hprefix
        constructor
        · intro h
          injection h with h
          exact ⟨path, rfl, hprefix, h.symm⟩
        · rintro ⟨other, hother, -, hfound⟩
          injection hother with hother
          rw [hfound, hother]
      · rw [List.isPrefixOf_iff_prefix] at hprefix
        constructor
        · intro h
          cases h
        · rintro ⟨other, hother, hpre, -⟩
          injection hother with hother
          rw [← hother] at hpre
          exact absurd hpre hprefix

theorem matchesExact_iff {location : Location} {target : Str} :
    matchesExact location target = true ↔ location.matcher = .exact target := by
  unfold matchesExact
  cases location.matcher with
  | exact path => simp
  | pre path => simp

/-- The target is one the location is for. -/
def Location.matchesTarget (self : Location) (target : Str) : Bool :=
  match self.matcher with
  | .exact path => path == target
  | .pre path => path.isPrefixOf target

theorem matchesTarget_iff {location : Location} {target : Str} :
    location.matchesTarget target = true ↔
      location.matcher = .exact target ∨ ∃ path, location.matcher = .pre path ∧ path <+: target := by
  unfold Location.matchesTarget
  cases location.matcher with
  | exact path => simp
  | pre path => simp

theorem matcher_of_find {locations : List Location} {target : Str} {location : Location}
    (h : locations.find? (fun location => matchesExact location target) = some location) :
    location.matcher = .exact target := by
  obtain ⟨hexact, -⟩ := List.find?_eq_some_iff_append.mp h
  exact matchesExact_iff.mp hexact

/-- With an exact location for the target, the first one answers. -/
theorem route_exact {server : Server} {target : Str} {location : Location}
    (h : server.locations.find? (fun location => matchesExact location target) = some location) :
    route server target = some location.action := by
  unfold route
  rw [h]

/-- Without one, the prefix locations are weighed. -/
theorem route_of_no_exact {server : Server} {target : Str}
    (h : ∀ location ∈ server.locations, location.matcher ≠ .exact target) :
    route server target
      = (maxByKey Prod.fst (server.locations.filterMap (weighed target))).map Prod.snd := by
  have hnone : server.locations.find? (fun location => matchesExact location target) = none := by
    rw [List.find?_eq_none]
    intro location hmem hexact
    exact h location hmem (matchesExact_iff.mp hexact)
  unfold route
  rw [hnone]
  rfl

/-! ## §4. Order. -/

/-- No matcher is written twice. -/
def DistinctMatchers (locations : List Location) : Prop :=
  locations.Pairwise (fun a b => a.matcher ≠ b.matcher)

instance (locations : List Location) : Decidable (DistinctMatchers locations) :=
  inferInstanceAs (Decidable (locations.Pairwise _))

theorem DistinctMatchers.eq {locations : List Location} (h : DistinctMatchers locations)
    {a b : Location} (ha : a ∈ locations) (hb : b ∈ locations) (hsame : a.matcher = b.matcher) :
    a = b := by
  by_contra hne
  have hsymm : Std.Symm (fun a b : Location => a.matcher ≠ b.matcher) := ⟨fun _ _ => Ne.symm⟩
  exact h.forall ha hb hne hsame

theorem DistinctMatchers.perm {locations others : List Location} (h : DistinctMatchers locations)
    (hperm : locations.Perm others) : DistinctMatchers others :=
  hperm.pairwise h (fun hdiff => Ne.symm hdiff)

/-- The location that is found is the only one there is. -/
theorem find_exact_perm {locations others : List Location} (h : DistinctMatchers locations)
    (hperm : locations.Perm others) (target : Str) :
    locations.find? (fun location => matchesExact location target)
      = others.find? (fun location => matchesExact location target) := by
  cases hfind : locations.find? (fun location => matchesExact location target) with
  | none =>
      symm
      rw [List.find?_eq_none] at hfind ⊢
      intro location hmem
      exact hfind location (hperm.symm.subset hmem)
  | some a =>
      have hmem := hperm.subset (List.mem_of_find?_eq_some hfind)
      have hexact := matcher_of_find hfind
      cases hother : others.find? (fun location => matchesExact location target) with
      | none =>
          exact absurd (matchesExact_iff.mpr hexact) (List.find?_eq_none.mp hother a hmem)
      | some b =>
          have hsame : a.matcher = b.matcher := by
            rw [hexact, matcher_of_find hother]
          rw [(h.perm hperm).eq hmem (List.mem_of_find?_eq_some hother) hsame]

/-- Weights tell the weighed locations apart. -/
theorem weighed_injective {locations : List Location} (h : DistinctMatchers locations)
    (target : Str) :
    ∀ a ∈ locations.filterMap (weighed target), ∀ b ∈ locations.filterMap (weighed target),
      a.1 = b.1 → a = b := by
  intro a ha b hb hlength
  obtain ⟨la, hla, hwa⟩ := List.mem_filterMap.mp ha
  obtain ⟨lb, hlb, hwb⟩ := List.mem_filterMap.mp hb
  obtain ⟨p, hp, hpre, rfl⟩ := weighed_eq_some.mp hwa
  obtain ⟨q, hq, hqre, rfl⟩ := weighed_eq_some.mp hwb
  have hpath : p = q := prefix_unique hpre hqre hlength
  have hsame : la = lb := h.eq hla hlb (by rw [hp, hq, hpath])
  rw [hpath, hsame]

theorem route_perm {server : Server} {others : List Location}
    (h : DistinctMatchers server.locations) (hperm : server.locations.Perm others)
    (target : Str) : route { server with locations := others } target = route server target := by
  have hfind := find_exact_perm h hperm target
  have hmax := maxByKey_perm (hperm.filterMap (weighed target)) (weighed_injective h target)
  cases hexact : server.locations.find? (fun location => matchesExact location target) with
  | some location =>
      rw [hexact] at hfind
      rw [route_exact hexact]
      exact route_exact hfind.symm
  | none =>
      have hnone : ∀ location ∈ server.locations, location.matcher ≠ .exact target := by
        intro location hmem hmatcher
        exact List.find?_eq_none.mp hexact location hmem (matchesExact_iff.mpr hmatcher)
      rw [route_of_no_exact hnone, hmax]
      apply route_of_no_exact
      intro location hmem
      exact hnone location (hperm.symm.subset hmem)

/-! ## §5. The location that answers. -/

/-- A prefix location for the target such that none for it is longer. -/
structure LongestPrefix (locations : List Location) (target : Str) (best : Location) : Prop where
  mem : best ∈ locations
  longest : ∃ path, best.matcher = .pre path ∧ path <+: target
    ∧ ∀ other ∈ locations, ∀ p, other.matcher = .pre p → p <+: target →
      (asBytes p).length ≤ (asBytes path).length

theorem route_longest {server : Server} {target : Str}
    (h : ∀ location ∈ server.locations, location.matcher ≠ .exact target)
    {location : Location} (hmem : location ∈ server.locations)
    (hmatches : location.matchesTarget target = true) :
    ∃ best, LongestPrefix server.locations target best
      ∧ route server target = some best.action := by
  obtain ⟨path, hpath, hprefix⟩ := (matchesTarget_iff.mp hmatches).resolve_left (h location hmem)
  have hweighed : ((asBytes path).length, location.action)
      ∈ server.locations.filterMap (weighed target) :=
    List.mem_filterMap.mpr ⟨location, hmem, weighed_eq_some.mpr ⟨path, hpath, hprefix, rfl⟩⟩
  have hsome : ∃ found,
      maxByKey Prod.fst (server.locations.filterMap (weighed target)) = some found :=
    maxByKey_isSome hweighed
  obtain ⟨found, hfound⟩ := hsome
  obtain ⟨hfoundMem, hmax⟩ := maxByKey_some hfound
  obtain ⟨best, hbest, hbestWeighed⟩ := List.mem_filterMap.mp hfoundMem
  obtain ⟨longest, hlongest, hlongestPrefix, rfl⟩ := weighed_eq_some.mp hbestWeighed
  refine ⟨best, ⟨hbest, longest, hlongest, hlongestPrefix, ?_⟩, ?_⟩
  · intro other hother p hp hpre
    exact hmax ((asBytes p).length, other.action)
      (List.mem_filterMap.mpr ⟨other, hother, weighed_eq_some.mpr ⟨p, hp, hpre, rfl⟩⟩)
  · rw [route_of_no_exact h, hfound]
    rfl

theorem route_none_iff {server : Server} {target : Str} :
    route server target = none ↔
      ∀ location ∈ server.locations, location.matchesTarget target = false := by
  constructor
  · intro hnone location hmem
    by_contra hmatches
    rw [Bool.not_eq_false] at hmatches
    cases hexact : server.locations.find? (fun location => matchesExact location target) with
    | some other =>
        rw [route_exact hexact] at hnone
        cases hnone
    | none =>
        have hno : ∀ location ∈ server.locations, location.matcher ≠ .exact target := by
          intro other hother hmatcher
          exact List.find?_eq_none.mp hexact other hother (matchesExact_iff.mpr hmatcher)
        obtain ⟨best, -, hroute⟩ := route_longest hno hmem hmatches
        rw [hroute] at hnone
        cases hnone
  · intro hall
    have hno : ∀ location ∈ server.locations, location.matcher ≠ .exact target := by
      intro location hmem hmatcher
      have hmatches := matchesTarget_iff.mpr (.inl hmatcher)
      rw [hall location hmem] at hmatches
      cases hmatches
    have hnil : server.locations.filterMap (weighed target) = [] := by
      rw [List.filterMap_eq_nil_iff]
      intro location hmem
      by_contra hsome
      obtain ⟨found, hfound⟩ := Option.ne_none_iff_exists'.mp hsome
      obtain ⟨path, hpath, hprefix, -⟩ := weighed_eq_some.mp hfound
      have hmatches := matchesTarget_iff.mpr (.inr ⟨path, hpath, hprefix⟩)
      rw [hall location hmem] at hmatches
      cases hmatches
    rw [route_of_no_exact hno, hnil]
    rfl

/-- **The location that answers**: an exact one if there is one, else one with the
longest prefix, and none only when no location is for the target.  When no matcher
is written twice, the order of the locations does not matter. -/
theorem route_picks (server : Server) (target : Str) :
    ((∃ location ∈ server.locations, location.matcher = .exact target) →
        ∃ best ∈ server.locations, best.matcher = .exact target
          ∧ route server target = some best.action)
      ∧ ((∀ location ∈ server.locations, location.matcher ≠ .exact target) →
          (∃ location ∈ server.locations, location.matchesTarget target = true) →
          ∃ best, LongestPrefix server.locations target best
            ∧ route server target = some best.action)
      ∧ (route server target = none ↔
          ∀ location ∈ server.locations, location.matchesTarget target = false)
      ∧ (DistinctMatchers server.locations →
          ∀ others, server.locations.Perm others →
            route { server with locations := others } target = route server target) := by
  refine ⟨?_, ?_, route_none_iff, ?_⟩
  · rintro ⟨location, hmem, hmatcher⟩
    cases hexact : server.locations.find? (fun location => matchesExact location target) with
    | none => exact absurd (matchesExact_iff.mpr hmatcher) (List.find?_eq_none.mp hexact _ hmem)
    | some best =>
        exact ⟨best, List.mem_of_find?_eq_some hexact, matcher_of_find hexact,
          route_exact hexact⟩
  · rintro hno ⟨location, hmem, hmatches⟩
    exact route_longest hno hmem hmatches
  · intro hdistinct others hperm
    exact route_perm hdistinct hperm target

/-! ## §6. Targets that name the same path. -/

/-- Targets that no location tells apart are routed alike. -/
theorem route_congr {server : Server} {t₁ t₂ : Str}
    (h : ∀ location ∈ server.locations,
      location.matchesTarget t₁ = location.matchesTarget t₂) :
    route server t₁ = route server t₂ := by
  have hexact : server.locations.find? (fun location => matchesExact location t₁)
      = server.locations.find? (fun location => matchesExact location t₂) := by
    apply find?_congr
    intro location hmem
    have hsame := h location hmem
    unfold Location.matchesTarget at hsame
    unfold matchesExact
    cases hmatcher : location.matcher with
    | exact path => simpa [hmatcher] using hsame
    | pre path => rfl
  have hpre : ∀ location ∈ server.locations, ∀ path, location.matcher = .pre path →
      path.isPrefixOf t₁ = path.isPrefixOf t₂ := by
    intro location hmem path hmatcher
    have hsame := h location hmem
    unfold Location.matchesTarget at hsame
    rw [hmatcher] at hsame
    exact hsame
  unfold route
  rw [hexact]
  split
  · rfl
  · congr 2
    apply List.filterMap_congr
    intro location hmem
    cases hmatcher : location.matcher with
    | exact path => rfl
    | pre path =>
        dsimp only
        rw [hpre location hmem path hmatcher]

/-- A server with one location, for one target. -/
def onlyExactly (target : Str) : Server :=
  { serverName := none
    locations := [{ matcher := .exact target, action := .response 200 [] }] }

theorem route_onlyExactly {target other : Str} :
    route (onlyExactly target) other = route (onlyExactly target) target ↔ other = target := by
  by_cases heq : target = other
  · subst heq
    simp
  · have hmiss : route (onlyExactly target) other = none := by
      simp [route, onlyExactly, matchesExact, maxByKey, heq]
    have hhit : route (onlyExactly target) target = some (.response 200 []) := by
      simp [route, onlyExactly, matchesExact]
    rw [hmiss, hhit]
    simp [Ne.symm heq]

/-- **When two targets are routed alike**, two that name the same path among them: by
every server exactly if they are the same text, and by one server if no location of it
tells them apart. -/
theorem same_path_same_route_iff (t₁ t₂ : Str) :
    ((∀ server, route server t₁ = route server t₂) ↔ t₁ = t₂)
      ∧ ∀ server, (∀ location ∈ server.locations,
          location.matchesTarget t₁ = location.matchesTarget t₂) →
        route server t₁ = route server t₂ := by
  refine ⟨⟨?_, ?_⟩, fun server => route_congr⟩
  · intro hall
    exact route_onlyExactly.mp (hall (onlyExactly t₂))
  · rintro rfl server
    rfl

/-- A target with and without a query. -/
theorem same_path_same_route_iff_query :
    ∃ r₁ r₂, parseRequestTarget "/a%20b".toList = .ok r₁
      ∧ parseRequestTarget "/a%20b?c".toList = .ok r₂ ∧ r₁.path = "/a b".toList
      ∧ ¬ (∀ server, route server "/a%20b".toList = route server "/a%20b?c".toList) := by
  have h₁ : parseRequestTarget "/a%20b".toList = .ok ⟨"/a b".toList, none⟩ := by decide +kernel
  have h₂ : parseRequestTarget "/a%20b?c".toList = .ok ⟨"/a b".toList, some "c".toList⟩ := by
    decide +kernel
  refine ⟨_, _, h₁, h₂, rfl, ?_⟩
  rw [(same_path_same_route_iff _ _).1]
  decide

/-- The location that answers for a path is missed when its query is added. -/
theorem query_escapes_exact_location :
    ¬ ∀ (server : Server) (t₁ t₂ : Str) (r₁ r₂ : RequestTarget),
      parseRequestTarget t₁ = .ok r₁ → parseRequestTarget t₂ = .ok r₂ → r₁.path = r₂.path →
      route server t₁ = route server t₂ := by
  intro hall
  have h₁ : parseRequestTarget "/health".toList = .ok ⟨"/health".toList, none⟩ := by
    decide +kernel
  have h₂ : parseRequestTarget "/health?x".toList = .ok ⟨"/health".toList, some "x".toList⟩ := by
    decide +kernel
  have hroute := hall (onlyExactly "/health".toList) _ _ _ _ h₁ h₂ rfl
  revert hroute
  decide

end Thwip
