/-
  Thwip.Startup — from the configuration to a worker (`run/slave/src/startup.rs`,
  `listener.rs`, `ssl.rs`).

  Servers with the same address share a listening socket.  Whether it speaks TLS
  is decided when it is bound, by its first server; which server answers is
  decided for each request, by its `Host`.
-/
import Thwip.Config
import Thwip.IoUring.Worker
import Thwip.Readiness.Worker

namespace Thwip

open Thwip.Lib

/-! ## §1. Listening sockets. -/

structure ListenerGroup where
  address : SocketAddr
  defaultServer : Nat
  serverIndices : List Nat
  deriving Repr, DecidableEq

/-- One server of the loop in `bind_worker_listeners`. -/
def addServer (groups : List ListenerGroup) (server : ServerConfig × Nat) : List ListenerGroup :=
  match groups.findIdx? (fun group => group.address == server.1.listen) with
  | some index =>
      groups.modify index (fun group =>
        { group with serverIndices := group.serverIndices ++ [server.2] })
  | none =>
      groups ++ [{ address := server.1.listen, defaultServer := server.2
                   serverIndices := [server.2] }]

def listenerGroups (servers : List ServerConfig) : List ListenerGroup :=
  servers.zipIdx.foldl addServer []

/-- `none` when an address cannot be bound. -/
def bindWorkerListeners (bindFails : SocketAddr → Bool) (servers : List ServerConfig) :
    Option (List ListenerGroup) :=
  let groups := listenerGroups servers
  if groups.any (fun group => bindFails group.address) then none else some groups

/-! ## §2. Certificates. -/

/-- `load_ssl_configs`, given what the certificate files give. -/
def loadSslConfigs (loadSslConfig : SslServerConfig → Option LoadedSslConfig)
    (servers : List ServerConfig) : Option (List (Option LoadedSslConfig)) :=
  servers.mapM (fun server =>
    match server.ssl with
    | none => some none
    | some ssl => (loadSslConfig ssl).map some)

/-- The context `start_worker` gives a readiness worker. -/
def ProxyConfig.workerContext {σ : Type} (tls : Readiness.SocketTls σ)
    (sslConfigs : List (Option LoadedSslConfig)) (groups : List ListenerGroup)
    (self : ProxyConfig) : Readiness.Config σ :=
  { tls, servers := self.servers.map ServerConfig.toServer, sslConfigs
    listenerGroups := groups.map (fun group => (group.defaultServer, group.serverIndices))
    limits := self.worker, proxyLimits := self.proxy, dnsLimits := self.dns
    upstreamGroups := fun name => self.upstreams.lookup name }

/-- The context it gives an io_uring worker. -/
def ProxyConfig.uringContext {σ : Type} (tls : Rustls σ) (bufRingSize bufferSize : Nat)
    (sslConfigs : List (Option LoadedSslConfig)) (groups : List ListenerGroup)
    (self : ProxyConfig) : IoUring.Config σ :=
  { tls, servers := self.servers.map ServerConfig.toServer, sslConfigs
    listenerGroups := groups.map (fun group => (group.defaultServer, group.serverIndices))
    limits := self.worker, proxyLimits := self.proxy, dnsLimits := self.dns
    upstreamGroups := fun name => self.upstreams.lookup name, bufRingSize, bufferSize }

/-- The certificates both workers give a listening socket. -/
def ListenerGroup.ssl (sslConfigs : List (Option LoadedSslConfig)) (self : ListenerGroup) :
    Option LoadedSslConfig :=
  (sslConfigs[self.defaultServer]?).join

/-! ## §3. What the groups are. -/

/-- The indices of the servers that listen on an address. -/
def listeningOn (servers : List ServerConfig) (address : SocketAddr) : List Nat :=
  (List.range servers.length).filter (fun i =>
    (servers[i]?).any (fun server => server.listen == address))

theorem mem_listeningOn {servers : List ServerConfig} {address : SocketAddr} {i : Nat} :
    i ∈ listeningOn servers address
      ↔ ∃ server, servers[i]? = some server ∧ server.listen = address := by
  unfold listeningOn
  rw [List.mem_filter, List.mem_range, Option.any_eq_true]
  constructor
  · rintro ⟨-, server, hget, heq⟩
    exact ⟨server, hget, by simpa using heq⟩
  · rintro ⟨server, hget, heq⟩
    exact ⟨(List.getElem?_eq_some_iff.mp hget).1, server, hget, by simpa using heq⟩

theorem listeningOn_snoc (servers : List ServerConfig) (server : ServerConfig)
    (address : SocketAddr) :
    listeningOn (servers ++ [server]) address
      = listeningOn servers address
        ++ if server.listen = address then [servers.length] else [] := by
  unfold listeningOn
  rw [List.length_append, List.length_singleton, List.range_succ, List.filter_append]
  congr 1
  · apply List.filter_congr
    intro i hi
    rw [List.getElem?_append_left (List.mem_range.mp hi)]
  · rw [List.filter_singleton]
    simp

/-- The group of an address has its servers in order, the first as the default. -/
structure ListenerGroup.For (servers : List ServerConfig) (group : ListenerGroup) : Prop where
  indices : group.serverIndices = listeningOn servers group.address
  default : group.serverIndices.head? = some group.defaultServer

/-- One group for each address. -/
structure Grouped (servers : List ServerConfig) (groups : List ListenerGroup) : Prop where
  each : ∀ group ∈ groups, group.For servers
  distinct : groups.Pairwise (fun a b => a.address ≠ b.address)
  covered : ∀ server ∈ servers, ∃ group ∈ groups, group.address = server.listen

/-- Changing the first group of an address changes every group of it, as there is
only one. -/
theorem modify_address {address : SocketAddr} {f : ListenerGroup → ListenerGroup} :
    ∀ {groups : List ListenerGroup} {index : Nat},
      groups.Pairwise (fun a b => a.address ≠ b.address) →
      groups.findIdx? (fun group => group.address == address) = some index →
      groups.modify index f
        = groups.map (fun group => if group.address = address then f group else group)
  | [], _, _, h => by cases h
  | group :: groups, index, hdistinct, h => by
      obtain ⟨hhead, htail⟩ := List.pairwise_cons.mp hdistinct
      rw [List.findIdx?_cons] at h
      by_cases haddress : group.address = address
      · rw [if_pos (by simpa using haddress)] at h
        injection h with h
        subst h
        have hothers : groups.map (fun group => if group.address = address then f group else group)
            = groups := by
          rw [List.map_congr_left (g := id), List.map_id]
          intro other hother
          rw [if_neg (fun heq => hhead other hother (haddress.trans heq.symm))]
          rfl
        rw [List.map_cons, if_pos haddress, hothers]
        rfl
      · rw [if_neg (by simpa using haddress)] at h
        obtain ⟨rest, hrest, rfl⟩ := Option.map_eq_some_iff.mp h
        rw [List.map_cons, if_neg haddress, ← modify_address htail hrest]
        rfl

theorem Grouped.add {servers : List ServerConfig} {groups : List ListenerGroup}
    (h : Grouped servers groups) (server : ServerConfig) :
    Grouped (servers ++ [server]) (addServer groups (server, servers.length)) := by
  unfold addServer
  split
  next index hfound =>
    rw [modify_address h.distinct hfound]
    refine ⟨?_, ?_, ?_⟩
    · intro group' hmem
      obtain ⟨group, hgroup, rfl⟩ := List.mem_map.mp hmem
      have hold := h.each group hgroup
      split_ifs with haddress
      · refine ⟨?_, ?_⟩
        · show group.serverIndices ++ _ = _
          rw [listeningOn_snoc, hold.indices, if_pos haddress.symm]
        · show (group.serverIndices ++ _).head? = _
          rw [List.head?_append, hold.default]
          rfl
      · refine ⟨?_, hold.default⟩
        rw [listeningOn_snoc, if_neg (Ne.symm haddress), List.append_nil]
        exact hold.indices
    · rw [List.pairwise_map]
      refine h.distinct.imp ?_
      intro a b hne
      split_ifs <;> exact hne
    · -- the groups have the addresses they had
      have hsame : ∀ group ∈ groups, ∃ group' ∈ groups.map (fun group =>
          if group.address = server.listen then
            { group with serverIndices := group.serverIndices ++ [servers.length] }
          else group), group'.address = group.address := by
        intro group hgroup
        refine ⟨_, List.mem_map_of_mem hgroup, ?_⟩
        split_ifs <;> rfl
      intro server' hmem
      rcases List.mem_append.mp hmem with hold | hnew
      · obtain ⟨group, hgroup, haddress⟩ := h.covered server' hold
        obtain ⟨group', hgroup', hsame'⟩ := hsame group hgroup
        exact ⟨group', hgroup', hsame'.trans haddress⟩
      · rw [List.mem_singleton.mp hnew]
        obtain ⟨hlt, hmatch, -⟩ := List.findIdx?_eq_some_iff_getElem.mp hfound
        obtain ⟨group', hgroup', hsame'⟩ := hsame _ (List.getElem_mem hlt)
        exact ⟨group', hgroup', hsame'.trans (by simpa using hmatch)⟩
  next hnone =>
    rw [List.findIdx?_eq_none_iff] at hnone
    have hfresh : ∀ group ∈ groups, group.address ≠ server.listen := by
      intro group hgroup
      simpa using hnone group hgroup
    have hnobody : listeningOn servers server.listen = [] := by
      rw [List.eq_nil_iff_forall_not_mem]
      intro i hi
      obtain ⟨other, hget, haddress⟩ := mem_listeningOn.mp hi
      obtain ⟨group, hgroup, heq⟩ := h.covered other (List.mem_of_getElem? hget)
      exact hfresh group hgroup (heq.trans haddress)
    refine ⟨?_, ?_, ?_⟩
    · intro group hmem
      rcases List.mem_append.mp hmem with hold | hnew
      · refine ⟨?_, (h.each group hold).default⟩
        rw [listeningOn_snoc, if_neg (Ne.symm (hfresh group hold)), List.append_nil]
        exact (h.each group hold).indices
      · rw [List.mem_singleton.mp hnew]
        refine ⟨?_, rfl⟩
        rw [listeningOn_snoc, if_pos rfl, hnobody]
        rfl
    · rw [List.pairwise_append]
      refine ⟨h.distinct, List.pairwise_singleton _ _, ?_⟩
      intro group hgroup new hnew
      rw [List.mem_singleton.mp hnew]
      exact hfresh group hgroup
    · intro server' hmem
      rcases List.mem_append.mp hmem with hold | hnew
      · obtain ⟨group, hgroup, haddress⟩ := h.covered server' hold
        exact ⟨group, List.mem_append_left _ hgroup, haddress⟩
      · rw [List.mem_singleton.mp hnew]
        exact ⟨_, List.mem_append_right _ List.mem_cons_self, rfl⟩

/-- **The groups of `bind_worker_listeners`.** -/
theorem listenerGroups_grouped (servers : List ServerConfig) :
    Grouped servers (listenerGroups servers) := by
  induction servers using List.reverseRecOn with
  | nil =>
      refine ⟨?_, List.Pairwise.nil, ?_⟩
      · intro group hmem
        cases hmem
      · intro server hmem
        cases hmem
  | append_singleton servers server ih =>
      have hstep : listenerGroups (servers ++ [server])
          = addServer (listenerGroups servers) (server, servers.length) := by
        unfold listenerGroups
        rw [List.zipIdx_append, List.foldl_append]
        simp
      rw [hstep]
      exact ih.add server

/-- What is bound is these groups. -/
theorem bindWorkerListeners_grouped {bindFails : SocketAddr → Bool}
    {servers : List ServerConfig} {groups : List ListenerGroup}
    (h : bindWorkerListeners bindFails servers = some groups) : Grouped servers groups := by
  unfold bindWorkerListeners at h
  dsimp only at h
  split_ifs at h
  injection h with h
  exact h ▸ listenerGroups_grouped servers

end Thwip
