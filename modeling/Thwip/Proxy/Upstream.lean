/-
  Thwip.Proxy.Upstream — upstream URLs and the forwarded request
  (`run/slave/src/proxy.rs`).
-/
import Thwip.Http.Request

namespace Thwip

open Thwip.Lib

structure Upstream where
  authority : Str
  connectAddress : Str
  basePath : Str
  deriving Repr, DecidableEq

inductive UpstreamError where
  | unsupportedScheme
  | missingHost
  | invalidAuthority
  deriving Repr, DecidableEq

/-! ## §1. Parsing the configured URL. -/

/-- `strip_prefix` -/
def stripPrefix (pre s : Str) : Option Str :=
  if pre.isPrefixOf s then some (s.drop pre.length) else none

/-- The address to connect to: the authority with the default port added. -/
def Upstream.connectAddressOf (authority : Str) : Except UpstreamError Str :=
  if authority.head? = some '[' then
    match splitOnce ']' authority with
    | none => .error .invalidAuthority
    | some (_, after) =>
        if after.isEmpty then .ok (authority ++ ":80".toList)
        else if after.head? = some ':' then .ok authority
        else .error .invalidAuthority
  else if authority.contains ':' then .ok authority
  else .ok (authority ++ ":80".toList)

def Upstream.parse (url : Str) : Except UpstreamError Upstream :=
  match stripPrefix "http://".toList url with
  | none => .error .unsupportedScheme
  | some remainder =>
      let (authority, basePath) :=
        match splitOnce '/' remainder with
        | none => (remainder, [])
        | some (authority, path) => (authority, '/' :: path)
      if authority.isEmpty then .error .missingHost
      else if authority.contains '@' || authority.any (fun c => c == '?' || c == '#') then
        .error .invalidAuthority
      else do
        let connectAddress ← Upstream.connectAddressOf authority
        return { authority, connectAddress, basePath }

/-! ## §2. The forwarded request. -/

/-- The header names listed in the request's `Connection` headers. -/
def connectionHeaders (request : RequestHead) : List Str :=
  ((request.headers.filter (fun header => header.name == "connection".toList)).flatMap
      (fun header => header.value.splitOn ',')).map
    (fun name => toAsciiLowercase (trim name))

/-- The names `request_bytes` never forwards. -/
def isHopByHop (name : Str) : Bool :=
  name == "host".toList
    || name == "connection".toList
    || name == "proxy-connection".toList
    || name == "keep-alive".toList
    || name == "transfer-encoding".toList
    || name == "upgrade".toList

/-- The target sent upstream: the base path without trailing slashes, then the
client's target. -/
def Upstream.targetFor (self : Upstream) (request : RequestHead) : Str :=
  if self.basePath.isEmpty then request.target
  else trimEndMatches (· == '/') self.basePath ++ request.target

def Upstream.requestBytes (self : Upstream) (request : RequestHead)
    (body : List UInt8) : List UInt8 :=
  let listed := connectionHeaders request
  asBytes (request.method ++ " ".toList ++ self.targetFor request
      ++ " HTTP/1.1\r\nHost: ".toList ++ self.authority ++ "\r\n".toList)
    ++ request.headers.flatMap (fun header =>
        if isHopByHop header.name || listed.contains header.name then []
        else asBytes header.name ++ asBytes ": ".toList ++ asBytes header.value
          ++ asBytes "\r\n".toList)
    ++ asBytes "Connection: close\r\n\r\n".toList
    ++ body

theorem Upstream.requestBytes_ne_nil (self : Upstream) (request : RequestHead)
    (body : List UInt8) : self.requestBytes request body ≠ [] := by
  intro h
  unfold Upstream.requestBytes at h
  simp only [List.append_eq_nil_iff] at h
  exact absurd h.1.2 (by decide)

end Thwip
