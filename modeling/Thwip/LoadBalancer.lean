/-
  Thwip.LoadBalancer — choosing an upstream (`run/slave/src/load_balancer.rs`).
-/
import Thwip.Router

namespace Thwip

open Thwip.Lib

inductive BalanceError where
  | notProxy
  | missingUpstream
  | ambiguousUpstream
  | invalidWeight
  | unknownGroup (name : Str)
  deriving Repr, DecidableEq

/-- One cursor a key; an absent key reads as the default `0`. -/
structure UpstreamBalancer where
  groups : Str → Option UpstreamGroup
  cursors : Str → Nat

def UpstreamBalancer.withGroups (groups : Str → Option UpstreamGroup) : UpstreamBalancer :=
  { groups, cursors := fun _ => 0 }

/-- `{policy:?}` -/
def BalancePolicy.debug : BalancePolicy → Str
  | .roundRobin => "RoundRobin".toList
  | .weightedRoundRobin => "WeightedRoundRobin".toList

def groupKey (policy : BalancePolicy) (upstreams : List UpstreamEndpoint) : Str :=
  policy.debug ++ ":".toList
    ++ upstreams.flatMap (fun endpoint =>
        endpoint.url ++ "#".toList ++ Nat.toDigits 10 endpoint.weight ++ "|".toList)

/-- The sum of the weights, `none` when it overflows a `u64`. -/
def totalWeight (upstreams : List UpstreamEndpoint) : Option Nat :=
  upstreams.foldlM
    (fun total endpoint =>
      if total + endpoint.weight < 2 ^ 64 then some (total + endpoint.weight) else none) 0

/-- The first endpoint whose running boundary is above `position`. -/
def weightedPosition (position boundary : Nat) : List UpstreamEndpoint → Option Nat
  | [] => none
  | endpoint :: upstreams =>
      if position < boundary + endpoint.weight then some 0
      else (weightedPosition position (boundary + endpoint.weight) upstreams).map (· + 1)

/-- The index of the selected endpoint. The outer `none` is a panic: the
remainder by a zero total, or the `unwrap` of the position. -/
def selectIndex (policy : BalancePolicy) (upstreams : List UpstreamEndpoint)
    (cursor : Nat) : Option (Except BalanceError Nat) :=
  match policy with
  | .roundRobin => some (.ok (cursor % upstreams.length))
  | .weightedRoundRobin =>
      match totalWeight upstreams with
      | none => some (.error .invalidWeight)
      | some total =>
          if total = 0 then none
          else (weightedPosition (cursor % total) 0 upstreams).map .ok

/-- `none` when the call panics. -/
def UpstreamBalancer.select (self : UpstreamBalancer) (action : Action) :
    Option (Except BalanceError Str × UpstreamBalancer) :=
  match action with
  | .proxy upstream upstreamGroup upstreams policy =>
      let configured := (if upstream.isSome then 1 else 0)
        + (if upstreamGroup.isSome then 1 else 0) + (if upstreams.isEmpty then 0 else 1)
      if configured > 1 then some (.error .ambiguousUpstream, self)
      else
        match upstream with
        | some upstream => some (.ok upstream, self)
        | none =>
            let source : Except BalanceError (Str × BalancePolicy × List UpstreamEndpoint) :=
              match upstreamGroup with
              | some name =>
                  match self.groups name with
                  | none => .error (.unknownGroup name)
                  | some group => .ok ("named:".toList ++ name, group.policy, group.servers)
              | none => .ok (groupKey policy upstreams, policy, upstreams)
            match source with
            | .error error => some (.error error, self)
            | .ok (key, policy, upstreams) =>
                if upstreams.isEmpty then some (.error .missingUpstream, self)
                else
                  let cursor := self.cursors key
                  match selectIndex policy upstreams cursor with
                  | none => none
                  | some (.error error) => some (.error error, self)
                  | some (.ok selected) =>
                      -- the cursor is a `u64` that wraps around
                      let cursors := Function.update self.cursors key ((cursor + 1) % 2 ^ 64)
                      match upstreams[selected]? with
                      | none => none
                      | some endpoint => some (.ok endpoint.url, { self with cursors })
  | _ => some (.error .notProxy, self)

end Thwip
