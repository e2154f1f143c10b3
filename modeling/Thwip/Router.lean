/-
  Thwip.Router — virtual hosts, locations and generated responses
  (`run/slave/src/router.rs`, with the configuration types it reads from
  `crates/core/src/runtime/config.rs`).
-/
import Thwip.Http.Request

namespace Thwip

open Thwip.Lib

/-! ## §1. Configuration. -/

inductive BalancePolicy where
  | roundRobin
  | weightedRoundRobin
  deriving Repr, DecidableEq

structure UpstreamEndpoint where
  url : Str
  /-- A `u32`. -/
  weight : Nat
  deriving Repr, DecidableEq

structure UpstreamGroup where
  policy : BalancePolicy
  servers : List UpstreamEndpoint
  deriving Repr, DecidableEq

inductive Action where
  | proxy (upstream : Option Str) (upstreamGroup : Option Str)
      (upstreams : List UpstreamEndpoint) (policy : BalancePolicy)
  | static (directory : Str)
  | response (status : Nat) (body : Str)
  deriving Repr, DecidableEq

inductive PathMatcher where
  | exact (path : Str)
  | pre (path : Str)
  deriving Repr, DecidableEq

structure Location where
  matcher : PathMatcher
  action : Action
  deriving Repr, DecidableEq

structure Server where
  serverName : Option Str
  locations : List Location
  deriving Repr, DecidableEq

/-! ## §2. Routing. -/

def matchesExact (location : Location) (target : Str) : Bool :=
  match location.matcher with
  | .exact path => path == target
  | .pre _ => false

/-- `max_by_key`: the LAST of the elements with the greatest key. -/
def maxByKey {α : Type*} (key : α → Nat) (xs : List α) : Option α :=
  xs.foldl
    (fun best x =>
      match best with
      | none => some x
      | some b => if key b ≤ key x then some x else some b)
    none

def route (server : Server) (target : Str) : Option Action :=
  match server.locations.find? (fun location => matchesExact location target) with
  | some location => some location.action
  | none =>
      (maxByKey Prod.fst (server.locations.filterMap (fun location =>
        match location.matcher with
        | .pre path =>
            -- `path.len()` counts bytes
            if path.isPrefixOf target then some ((asBytes path).length, location.action)
            else none
        | .exact _ => none))).map Prod.snd

def hostname (host : Str) : Str :=
  let host := trim host
  if host.head? = some '[' then
    let bracketed := host.drop 1
    match splitOnce ']' bracketed with
    | none => bracketed
    | some (address, _) => address
  else
    match splitOnce ':' host with
    | none => host
    | some (name, _) => name

def eqIgnoreAsciiCase (a b : Str) : Bool := toAsciiLowercase a == toAsciiLowercase b

/-- A missing or unknown `Host` falls back to the listener's first server. -/
def selectServer (serverIndices : List Nat) (defaultServer : Nat)
    (request : RequestHead) (servers : List Server) : Nat :=
  match request.headers.find? (fun header => header.name == "host".toList) with
  | none => defaultServer
  | some header =>
      (serverIndices.find? (fun serverIndex =>
        match servers[serverIndex]? with
        | none => false
        | some server =>
            match server.serverName with
            | none => false
            | some serverName => eqIgnoreAsciiCase serverName (hostname header.value))).getD
        defaultServer

/-! ## §3. Generated responses. -/

def reasonPhrase (status : Nat) : Str :=
  match status with
  | 200 => "OK".toList
  | 201 => "Created".toList
  | 204 => "No Content".toList
  | 206 => "Partial Content".toList
  | 304 => "Not Modified".toList
  | 400 => "Bad Request".toList
  | 404 => "Not Found".toList
  | 405 => "Method Not Allowed".toList
  | 413 => "Payload Too Large".toList
  | 416 => "Range Not Satisfiable".toList
  | 500 => "Internal Server Error".toList
  | 501 => "Not Implemented".toList
  | 502 => "Bad Gateway".toList
  | 504 => "Gateway Timeout".toList
  | _ => "Unknown".toList

def responseBytesWithBody (status : Nat) (contentType : Str) (body : List UInt8)
    (includeBody : Bool) : List UInt8 :=
  asBytes ("HTTP/1.1 ".toList ++ Nat.toDigits 10 status ++ " ".toList ++ reasonPhrase status
      ++ "\r\nContent-Type: ".toList ++ contentType ++ "\r\nContent-Length: ".toList
      ++ Nat.toDigits 10 body.length ++ "\r\nConnection: close\r\n\r\n".toList)
    ++ if includeBody then body else []

def responseBytes (status : Nat) (body : Str) : List UInt8 :=
  responseBytesWithBody status "text/plain; charset=utf-8".toList (asBytes body) true

/-- A generated response always has a head to send. -/
theorem responseBytesWithBody_ne_nil (status : Nat) (contentType : Str)
    (body : List UInt8) (includeBody : Bool) :
    responseBytesWithBody status contentType body includeBody ≠ [] := by
  unfold responseBytesWithBody
  intro h
  have hhead := (List.append_eq_nil_iff.mp h).1
  rw [asBytes_eq_nil] at hhead
  simp at hhead

theorem responseBytes_ne_nil (status : Nat) (body : Str) : responseBytes status body ≠ [] :=
  responseBytesWithBody_ne_nil _ _ _ _

end Thwip
