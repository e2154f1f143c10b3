/-
  Thwip.Config — the configuration file (`crates/core/src/runtime/config.rs`).

  Parsing TOML is the `toml` crate's; `deserialized` has the checks of the
  source's own field deserializers and `validate` the ones made on the whole.
  `{:?}` of a string is a parameter of the messages that use it.
-/
import Thwip.LoadBalancer
import Thwip.Runtime.Basic

namespace Thwip

open Thwip.Lib

/-! ## §1. Data model. -/

inductive SocketAddr where
  | v4 (ip : BitVec 32) (port : UInt16)
  | v6 (ip : BitVec 128) (port : UInt16) (flowinfo scopeId : UInt32)
  deriving Repr, DecidableEq

inductive SslProtocol where
  | tlsv12
  | tlsv13
  deriving Repr, DecidableEq

inductive SslCipher where
  | tls13Aes256GcmSha384
  | tls13Aes128GcmSha256
  | tls13Chacha20Poly1305Sha256
  | tlsEcdheEcdsaWithAes256GcmSha384
  | tlsEcdheEcdsaWithAes128GcmSha256
  | tlsEcdheEcdsaWithChacha20Poly1305Sha256
  | tlsEcdheRsaWithAes256GcmSha384
  | tlsEcdheRsaWithAes128GcmSha256
  | tlsEcdheRsaWithChacha20Poly1305Sha256
  deriving Repr, DecidableEq

structure SslServerConfig where
  certificatePath : Str
  privateKeyPath : Str
  handshakeTimeoutMs : Nat := 10000
  protocols : List SslProtocol := [.tlsv12, .tlsv13]
  ciphers : List SslCipher :=
    [.tls13Aes256GcmSha384, .tls13Aes128GcmSha256, .tls13Chacha20Poly1305Sha256,
     .tlsEcdheEcdsaWithAes256GcmSha384, .tlsEcdheEcdsaWithAes128GcmSha256,
     .tlsEcdheEcdsaWithChacha20Poly1305Sha256, .tlsEcdheRsaWithAes256GcmSha384,
     .tlsEcdheRsaWithAes128GcmSha256, .tlsEcdheRsaWithChacha20Poly1305Sha256]
  deriving Repr, DecidableEq

/-- A server as the file has it: what the router reads, and how it is reached. -/
structure ServerConfig extends Server where
  listen : SocketAddr
  ssl : Option SslServerConfig := none
  deriving Repr, DecidableEq

/-- `Config`, less the choice of the runtime. Durations are in milliseconds. -/
structure ProxyConfig where
  servers : List ServerConfig
  worker : WorkerLimits :=
    { maxConnections := 1024, maxReadBufferSize := 64 * 1024
      maxWriteBufferSize := 8 * 1024 * 1024, idleTimeout := 30000, drainTimeout := 10000 }
  proxy : ProxyLimits := { connectTimeout := 3000, writeTimeout := 30000, readTimeout := 30000 }
  dns : DnsLimits := { resolverThreads := 2, timeout := 3000 }
  /-- In the order the map is iterated. -/
  upstreams : List (Str × UpstreamGroup) := []
  deriving Repr, DecidableEq

/-! ## §2. Fields. -/

/-- A number that must not be zero. -/
def deserializePositive (message : Str) (value : Nat) : Except Str Unit :=
  if value = 0 then .error message else .ok ()

def deserializePositiveUsize : Nat → Except Str Unit :=
  deserializePositive "worker limit must be greater than zero".toList

def deserializePositiveU64 : Nat → Except Str Unit :=
  deserializePositive "worker timeout must be greater than zero".toList

def deserializeUpstreamWeight : Nat → Except Str Unit :=
  deserializePositive "upstream weight must be greater than zero".toList

/-- Every endpoint of the file. -/
def ProxyConfig.endpoints (self : ProxyConfig) : List UpstreamEndpoint :=
  self.upstreams.flatMap (fun group => group.2.servers)
    ++ self.servers.flatMap (fun server => server.locations.flatMap (fun location =>
        match location.action with
        | .proxy _ _ upstreams _ => upstreams
        | _ => []))

/-- The checks made while the fields are read. -/
def ProxyConfig.deserialized (self : ProxyConfig) : Except Str Unit := do
  [self.worker.maxConnections, self.worker.maxReadBufferSize, self.worker.maxWriteBufferSize,
    self.dns.resolverThreads].forM deserializePositiveUsize
  [self.worker.idleTimeout, self.worker.drainTimeout, self.proxy.connectTimeout,
    self.proxy.writeTimeout, self.proxy.readTimeout, self.dns.timeout].forM deserializePositiveU64
  (self.servers.filterMap ServerConfig.ssl).forM
    (fun ssl => deserializePositiveU64 ssl.handshakeTimeoutMs)
  self.endpoints.forM (fun endpoint => deserializeUpstreamWeight endpoint.weight)

/-! ## §3. The whole. -/

def isBlank (s : Str) : Bool := (trim s).isEmpty

def validateEndpoints (endpoints : List UpstreamEndpoint) : Except Str Unit :=
  if endpoints.any (fun endpoint => isBlank endpoint.url) then
    .error "proxy upstream URL must not be empty".toList
  else
    match totalWeight endpoints with
    | none => .error "proxy upstream weights are too large".toList
    | some _ => .ok ()

/-- The loop over the upstream groups. -/
def validateGroup (debug : Str → Str) (group : Str × UpstreamGroup) : Except Str Unit :=
  if isBlank group.1 then .error "upstream group name must not be empty".toList
  else if group.2.servers.isEmpty then
    .error ("upstream group ".toList ++ debug group.1
      ++ " must contain at least one server".toList)
  else validateEndpoints group.2.servers

def validateSsl (ssl : SslServerConfig) : Except Str Unit :=
  if isBlank ssl.certificatePath then .error "SSL certificate_path must not be empty".toList
  else if isBlank ssl.privateKeyPath then .error "SSL private_key_path must not be empty".toList
  else if ssl.protocols.isEmpty then .error "SSL protocols must not be empty".toList
  else if ssl.ciphers.isEmpty then .error "SSL ciphers must not be empty".toList
  else .ok ()

/-- The loop over the locations of a server. -/
def validateAction (debug : Str → Str) (upstreamGroups : List (Str × UpstreamGroup)) :
    Action → Except Str Unit
  | .proxy upstream upstreamGroup upstreams _ =>
      let configured := upstream.isSome.toNat + upstreamGroup.isSome.toNat
        + (!upstreams.isEmpty).toNat
      if configured ≠ 1 then
        .error ("proxy action must configure exactly one of upstream, upstream_group, " ++
          "or upstreams").toList
      else if upstream.any isBlank || upstreams.any (fun endpoint => isBlank endpoint.url) then
        .error "proxy upstream URL must not be empty".toList
      else do
        validateEndpoints upstreams
        match upstreamGroup with
        | none => .ok ()
        | some name =>
            if upstreamGroups.any (fun group => group.1 == name) then .ok ()
            else .error ("proxy references unknown upstream group ".toList ++ debug name)
  | _ => .ok ()

def ProxyConfig.validate (debug : Str → Str) (self : ProxyConfig) : Except Str Unit := do
  self.upstreams.forM (validateGroup debug)
  self.servers.forM (fun server => do
    match server.ssl with
    | none => .ok ()
    | some ssl => validateSsl ssl
    server.locations.forM (fun location =>
      validateAction debug self.upstreams location.action))

/-- `Config::from_toml`, given what the `toml` crate makes of the text. -/
def ProxyConfig.fromToml (debug : Str → Str) (parse : Str → Except Str ProxyConfig)
    (contents : Str) : Except Str ProxyConfig := do
  let config ← parse contents
  config.deserialized
  config.validate debug
  return config

/-! ## §4. What is accepted. -/

theorem forM_eq_ok {α : Type} {f : α → Except Str Unit} {xs : List α} :
    xs.forM f = .ok () ↔ ∀ x ∈ xs, f x = .ok () := by
  induction xs with
  | nil => simp [pure, Except.pure]
  | cons x xs ih =>
      rw [List.forall_mem_cons, ← ih]
      show (f x >>= fun _ => xs.forM f) = .ok () ↔ _
      cases f x with
      | error message => simp [bind, Except.bind]
      | ok _ => simp [bind, Except.bind]

theorem deserializePositive_eq_ok {message : Str} {value : Nat} :
    deserializePositive message value = .ok () ↔ 0 < value := by
  unfold deserializePositive
  split_ifs with h
  · simp [h]
  · simp [Nat.pos_iff_ne_zero, h]

theorem bind_unit_eq_ok {x y : Except Str Unit} :
    (do x; y) = .ok () ↔ x = .ok () ∧ y = .ok () := by
  cases x with
  | error message => simp [bind, Except.bind]
  | ok _ => simp [bind, Except.bind]

theorem fromToml_eq_ok {debug : Str → Str} {parse : Str → Except Str ProxyConfig} {contents : Str}
    {config : ProxyConfig} (h : ProxyConfig.fromToml debug parse contents = .ok config) :
    config.deserialized = .ok () ∧ config.validate debug = .ok () := by
  unfold ProxyConfig.fromToml at h
  cases hparse : parse contents with
  | error message =>
      rw [hparse] at h
      cases h
  | ok config' =>
      rw [hparse] at h
      simp only [bind, Except.bind, pure, Except.pure] at h
      split at h
      · cases h
      next hfields =>
        split at h
        · cases h
        next hwhole =>
          injection h with h
          subst h
          exact ⟨hfields, hwhole⟩

/-- The numbers of a configuration that is accepted. -/
theorem deserialized_positive {config : ProxyConfig} (h : config.deserialized = .ok ()) :
    0 < config.worker.maxConnections ∧ 0 < config.worker.maxReadBufferSize
      ∧ 0 < config.worker.maxWriteBufferSize
      ∧ ∀ endpoint ∈ config.endpoints, 0 < endpoint.weight := by
  unfold ProxyConfig.deserialized at h
  rw [bind_unit_eq_ok, bind_unit_eq_ok, bind_unit_eq_ok, forM_eq_ok, forM_eq_ok, forM_eq_ok,
    forM_eq_ok] at h
  obtain ⟨hsizes, -, -, hweights⟩ := h
  refine ⟨deserializePositive_eq_ok.mp (hsizes _ (by simp)),
    deserializePositive_eq_ok.mp (hsizes _ (by simp)),
    deserializePositive_eq_ok.mp (hsizes _ (by simp)), ?_⟩
  intro endpoint hmem
  exact deserializePositive_eq_ok.mp (hweights endpoint hmem)

theorem validateEndpoints_eq_ok {endpoints : List UpstreamEndpoint}
    (h : validateEndpoints endpoints = .ok ()) :
    (∀ endpoint ∈ endpoints, isBlank endpoint.url = false) ∧ totalWeight endpoints ≠ none := by
  unfold validateEndpoints at h
  split_ifs at h with hblank
  · split at h
    · cases h
    next total htotal =>
      refine ⟨?_, by rw [htotal]; simp⟩
      intro endpoint hmem
      rw [Bool.eq_false_iff]
      intro hurl
      exact hblank (List.any_eq_true.mpr ⟨endpoint, hmem, hurl⟩)

theorem validate_eq_ok {debug : Str → Str} {config : ProxyConfig}
    (h : config.validate debug = .ok ()) :
    (∀ group ∈ config.upstreams, validateGroup debug group = .ok ())
      ∧ ∀ server ∈ config.servers, ∀ location ∈ server.locations,
          validateAction debug config.upstreams location.action = .ok () := by
  unfold ProxyConfig.validate at h
  rw [bind_unit_eq_ok, forM_eq_ok, forM_eq_ok] at h
  refine ⟨h.1, ?_⟩
  intro server hserver
  have hserver' := h.2 server hserver
  dsimp only at hserver'
  split at hserver'
  · exact forM_eq_ok.mp (bind_unit_eq_ok.mp hserver').2
  · exact forM_eq_ok.mp (bind_unit_eq_ok.mp hserver').2

/-- The three ways to give a proxy action its upstream. -/
inductive ProxyTarget (upstreamGroups : List (Str × UpstreamGroup)) :
    Option Str → Option Str → List UpstreamEndpoint → Prop where
  | direct (url : Str) (hurl : isBlank url = false) :
      ProxyTarget upstreamGroups (some url) none []
  | named (name : Str) (hname : ∃ group ∈ upstreamGroups, group.1 = name) :
      ProxyTarget upstreamGroups none (some name) []
  | inline (endpoints : List UpstreamEndpoint) (hne : endpoints ≠ [])
      (hvalid : validateEndpoints endpoints = .ok ()) :
      ProxyTarget upstreamGroups none none endpoints

theorem validateAction_eq_ok {debug : Str → Str} {upstreamGroups : List (Str × UpstreamGroup)}
    {upstream upstreamGroup : Option Str} {upstreams : List UpstreamEndpoint}
    {policy : BalancePolicy}
    (h : validateAction debug upstreamGroups (.proxy upstream upstreamGroup upstreams policy)
      = .ok ()) : ProxyTarget upstreamGroups upstream upstreamGroup upstreams := by
  unfold validateAction at h
  dsimp only at h
  split_ifs at h with hone hblank
  rw [bind_unit_eq_ok] at h
  obtain ⟨hendpoints, hgroup⟩ := h
  rw [not_not] at hone
  cases upstream with
  | some url =>
      cases upstreamGroup with
      | some name =>
          simp at hone
          omega
      | none =>
          cases upstreams with
          | cons endpoint upstreams => simp at hone
          | nil => exact .direct url (by simpa using hblank)
  | none =>
      cases upstreamGroup with
      | some name =>
          cases upstreams with
          | cons endpoint upstreams => simp at hone
          | nil =>
              refine .named name ?_
              dsimp only at hgroup
              split_ifs at hgroup with hknown
              obtain ⟨group, hmem, heq⟩ := List.any_eq_true.mp hknown
              exact ⟨group, hmem, by simpa using heq⟩
      | none =>
          refine .inline upstreams ?_ hendpoints
          rintro rfl
          simp at hone

/-! ## §5. One file. -/

/-- What the `toml` crate makes of a text that says `config`; nothing else is read. -/
def tomlOf (text : String) (config : ProxyConfig) (contents : Str) : Except Str ProxyConfig :=
  if contents = text.toList then .ok config else .error "TOML parse error".toList

theorem fromToml_tomlOf {debug : Str → Str} {text : String} {config : ProxyConfig}
    (hfields : config.deserialized = .ok ()) (hwhole : config.validate debug = .ok ()) :
    ProxyConfig.fromToml debug (tomlOf text config) text.toList = .ok config := by
  have hparse : tomlOf text config text.toList = .ok config := if_pos rfl
  unfold ProxyConfig.fromToml
  rw [hparse]
  simp only [bind, Except.bind, pure, Except.pure, hfields, hwhole]

end Thwip
