/-
  Thwip.Runtime.VirtualHosts — which server answers
  (`run/slave/src/listener.rs`, `router.rs`).

  The groups of listening sockets partition the servers by address, and a request
  that comes in through a group is answered by one of its servers.  Which one
  depends on the `Host` only up to ASCII case and port.
-/
import Thwip.Lib.Words
import Thwip.Runtime.Hosts

namespace Thwip

open Thwip.Lib

/-! ## §1. Hosts up to case and port. -/

theorem trim_toAsciiLowercase (s : Str) : trim (toAsciiLowercase s) = toAsciiLowercase (trim s) := by
  have hcomp : isWhitespace ∘ Char.toLower = isWhitespace := funext isWhitespace_toLower
  unfold trim trimMatches toAsciiLowercase
  rw [List.dropWhile_map, hcomp, rdropWhile_map isWhitespace_toLower]

theorem splitOnce_toAsciiLowercase {d : Char} (hd : ¬ (0x41 ≤ d.toNat ∧ d.toNat ≤ 0x5A))
    (hd' : ¬ (0x61 ≤ d.toNat ∧ d.toNat ≤ 0x7A)) (s : Str) :
    splitOnce d (toAsciiLowercase s)
      = (splitOnce d s).map (fun parts => (toAsciiLowercase parts.1, toAsciiLowercase parts.2)) := by
  have hne : (fun c => c != d) ∘ Char.toLower = fun c => c != d := by
    funext c
    show (c.toLower != d) = (c != d)
    rw [bne, toLower_beq hd hd', ← bne]
  have hmem : d ∈ s.map Char.toLower ↔ d ∈ s := by
    rw [List.mem_map]
    constructor
    · rintro ⟨c, hc, heq⟩
      have hsame := toLower_beq (c := c) hd hd'
      rw [heq, beq_self_eq_true, eq_comm, beq_iff_eq] at hsame
      exact hsame ▸ hc
    · intro h
      have hsame := toLower_beq (c := d) hd hd'
      rw [beq_self_eq_true, beq_iff_eq] at hsame
      exact ⟨d, h, hsame⟩
  unfold splitOnce toAsciiLowercase
  by_cases h : d ∈ s
  · rw [if_pos (hmem.mpr h), if_pos h, List.takeWhile_map, List.dropWhile_map, hne]
    simp
  · rw [if_neg (fun h' => h (hmem.mp h')), if_neg h]
    rfl

/-- The host part of a `Host` in lower case. -/
theorem hostname_toAsciiLowercase (host : Str) :
    hostname (toAsciiLowercase host) = toAsciiLowercase (hostname host) := by
  have hhead : (toAsciiLowercase (trim host)).head? = some '[' ↔ (trim host).head? = some '[' := by
    cases trim host with
    | nil => simp [toAsciiLowercase]
    | cons c rest =>
        show some c.toLower = some '[' ↔ some c = some '['
        have hsame := toLower_beq (c := c) (d := '[') (by decide) (by decide)
        rw [Bool.eq_iff_iff, beq_iff_eq, beq_iff_eq] at hsame
        simpa using hsame
  unfold hostname
  rw [trim_toAsciiLowercase]
  dsimp only
  split_ifs with hlower hopen hopen
  · have hdrop : (toAsciiLowercase (trim host)).drop 1 = toAsciiLowercase ((trim host).drop 1) :=
      (List.map_drop ..).symm
    rw [hdrop, splitOnce_toAsciiLowercase (by decide) (by decide)]
    cases splitOnce ']' ((trim host).drop 1) <;> rfl
  · exact absurd (hhead.mp hlower) hopen
  · exact absurd (hhead.mpr hopen) hlower
  · rw [splitOnce_toAsciiLowercase (by decide) (by decide)]
    cases splitOnce ':' (trim host) <;> rfl

/-- A plain name: without whitespace, colons and brackets. -/
def isPlainHost (host : Str) : Bool :=
  host.all (fun c => !isWhitespace c && c != ':' && c != '[' && c != ']')

theorem hostname_plain {host : Str} (h : isPlainHost host = true) : hostname host = host := by
  have hchar := List.all_eq_true.mp h
  have htrim : trim host = host := trimMatches_of_forall (fun c hc => by
    have := hchar c hc
    simp only [Bool.and_eq_true, Bool.not_eq_true'] at this
    exact this.1.1.1)
  have hcolon : ':' ∉ host := fun hin => by simpa using hchar ':' hin
  unfold hostname
  rw [htrim, if_neg]
  · unfold splitOnce
    rw [if_neg hcolon]
  · intro hopen
    simpa using hchar '[' (List.mem_of_head? hopen)

/-- A port after it changes nothing. -/
theorem hostname_port {host : Str} (h : isPlainHost host = true) (port : Str) :
    hostname (host ++ ':' :: port) = host := by
  have hchar := List.all_eq_true.mp h
  have hcolon : ':' ∉ host := fun hin => by simpa using hchar ':' hin
  -- neither the host nor the colon is trimmed
  have hstart : (host ++ ':' :: port).dropWhile isWhitespace = host ++ ':' :: port := by
    cases host with
    | nil => exact List.dropWhile_cons_of_neg (by decide)
    | cons c rest =>
        refine List.dropWhile_cons_of_neg ?_
        have := hchar c List.mem_cons_self
        simp only [Bool.and_eq_true, Bool.not_eq_true'] at this
        rw [this.1.1.1]
        simp
  have htrim : trim (host ++ ':' :: port) = host ++ ':' :: port.rdropWhile isWhitespace := by
    unfold trim trimMatches
    rw [hstart, rdropWhile_append_cons (by decide)]
  unfold hostname
  rw [htrim, if_neg]
  · rw [splitOnce_append _ host hcolon]
  · intro hopen
    cases host with
    | nil => cases hopen
    | cons c rest =>
        injection hopen with hopen
        simpa using hchar '[' (hopen ▸ List.mem_cons_self)

/-! ## §2. The groups partition the servers. -/

structure Partitions (servers : List ServerConfig) (groups : List ListenerGroup) : Prop where
  distinct : groups.Pairwise (fun a b => a.address ≠ b.address)
  /-- Each server is in a group, … -/
  covered : ∀ i server, servers[i]? = some server → ∃ group ∈ groups, i ∈ group.serverIndices
  /-- … and in the one of its address only. -/
  own : ∀ group ∈ groups, ∀ i, i ∈ group.serverIndices ↔
    ∃ server, servers[i]? = some server ∧ server.listen = group.address
  increasing : ∀ group ∈ groups, group.serverIndices.Pairwise (· < ·)
  default : ∀ group ∈ groups, group.defaultServer ∈ group.serverIndices
    ∧ ∀ i ∈ group.serverIndices, group.defaultServer ≤ i

theorem Grouped.partitions {servers : List ServerConfig} {groups : List ListenerGroup}
    (h : Grouped servers groups) : Partitions servers groups where
  distinct := h.distinct
  covered := by
    intro i server hget
    obtain ⟨group, hgroup, haddress⟩ := h.covered server (List.mem_of_getElem? hget)
    refine ⟨group, hgroup, ?_⟩
    rw [(h.each group hgroup).indices]
    exact mem_listeningOn.mpr ⟨server, hget, haddress.symm⟩
  own := by
    intro group hgroup i
    rw [(h.each group hgroup).indices]
    exact mem_listeningOn
  increasing := by
    intro group hgroup
    rw [(h.each group hgroup).indices]
    exact listeningOn_increasing _ _
  default := by
    intro group hgroup
    have hfor := h.each group hgroup
    obtain ⟨rest, hrest⟩ := List.head?_eq_some_iff.mp hfor.default
    have hincreasing := listeningOn_increasing servers group.address
    rw [← hfor.indices, hrest] at hincreasing
    rw [hrest]
    refine ⟨List.mem_cons_self, ?_⟩
    intro i hi
    rcases List.mem_cons.mp hi with rfl | hi
    · exact Nat.le_refl _
    · exact Nat.le_of_lt ((List.pairwise_cons.mp hincreasing).1 i hi)

/-! ## §3. The server of a request. -/

/-- The value of the first `Host` header. -/
def RequestHead.host (request : RequestHead) : Option Str :=
  (request.headers.find? (fun header => header.name == "host".toList)).map Header.value

/-- The host named by an authority: what stands between brackets, or before the port. -/
inductive Names : Str → Str → Prop where
  | bare (name : Str) (hopen : name.head? ≠ some '[') (hcolon : ':' ∉ name) : Names name name
  | port (name port : Str) (hopen : name.head? ≠ some '[') (hcolon : ':' ∉ name) :
      Names (name ++ ':' :: port) name
  | bracketed (address rest : Str) (hclose : ']' ∉ address) :
      Names ('[' :: (address ++ ']' :: rest)) address
  /-- The bracket is never closed. -/
  | unclosed (address : Str) (hclose : ']' ∉ address) : Names ('[' :: address) address

/-- `part` is the host part of the value of a `Host` header: whitespace around the
authority does not count. -/
def HostPart (host part : Str) : Prop :=
  ∃ before authority after, host = before ++ authority ++ after
    ∧ (∀ c ∈ before ++ after, isWhitespace c = true)
    ∧ (∀ c, authority.head? = some c → isWhitespace c = false)
    ∧ (∀ c, authority.getLast? = some c → isWhitespace c = false)
    ∧ Names authority part

/-- The request asks for the server at this index: its name is the host part of
the `Host`, up to ASCII case. -/
def AsksFor (servers : List ServerConfig) (request : RequestHead) (i : Nat) : Prop :=
  ∃ server name host part, servers[i]? = some server ∧ server.serverName = some name
    ∧ request.host = some host ∧ HostPart host part
    ∧ toAsciiLowercase name = toAsciiLowercase part

/-- `hostname` after it has trimmed its argument. -/
def authorityName (authority : Str) : Str :=
  if authority.head? = some '[' then
    match splitOnce ']' (authority.drop 1) with
    | none => authority.drop 1
    | some (address, _) => address
  else
    match splitOnce ':' authority with
    | none => authority
    | some (name, _) => name

theorem names_iff {authority part : Str} : Names authority part ↔ authorityName authority = part := by
  unfold authorityName
  constructor
  · intro h
    cases h with
    | bare _ hopen hcolon => rw [if_neg hopen, splitOnce, if_neg hcolon]
    | port _ port hopen hcolon =>
        rw [if_neg, splitOnce_append port part hcolon]
        cases part <;> simp_all
    | bracketed _ rest hclose => simp [splitOnce_append rest part hclose]
    | unclosed _ hclose => simp [splitOnce, hclose]
  · split_ifs with hopen
    · -- an opening bracket: the address ends at the first closing one
      obtain ⟨bracketed, rfl⟩ := List.head?_eq_some_iff.mp hopen
      rw [List.drop_one, List.tail_cons]
      split
      next hnone =>
        rintro rfl
        exact .unclosed _ (splitOnce_none hnone)
      next address rest hsome =>
        rintro rfl
        rw [eq_of_splitOnce hsome]
        exact .bracketed _ _ (splitOnce_notMem hsome)
    · split
      next hnone =>
        rintro rfl
        exact .bare _ hopen (splitOnce_none hnone)
      next name port hsome =>
        rintro rfl
        rw [eq_of_splitOnce hsome] at hopen ⊢
        refine .port _ _ ?_ (splitOnce_notMem hsome)
        cases name <;> simp_all

/-- **`hostname` finds the host part**, of every text. -/
theorem hostPart_iff {host part : Str} : HostPart host part ↔ hostname host = part := by
  show _ ↔ authorityName (trim host) = part
  rw [← names_iff]
  constructor
  · rintro ⟨before, authority, after, hsplit, hwhite, hfirst, hlast, hnames⟩
    have htrim : trim host = authority := by
      refine trimMatches_eq_iff.mpr ⟨trimMatches_eq_self_iff.mpr ⟨hfirst, hlast⟩, before, after,
        fun c hc => hwhite c (List.mem_append_left _ hc),
        fun c hc => hwhite c (List.mem_append_right _ hc), ?_⟩
      rw [hsplit, List.append_assoc]
    exact htrim ▸ hnames
  · intro hnames
    obtain ⟨htrimmed, before, after, hbefore, hafter, hsplit⟩ :=
      trimMatches_eq_iff.mp (rfl : trim host = trim host)
    obtain ⟨hfirst, hlast⟩ := trimMatches_eq_self_iff.mp htrimmed
    refine ⟨before, trim host, after, hsplit.trans (List.append_assoc ..).symm, ?_, hfirst, hlast,
      hnames⟩
    intro c hc
    exact (List.mem_append.mp hc).elim (hbefore c) (hafter c)

/-- The same host in another case, or with a port. -/
def SameHost (host host' : Str) : Prop :=
  toAsciiLowercase host' = toAsciiLowercase host
    ∨ isPlainHost host = true ∧ ∃ port, host' = host ++ ':' :: port

theorem SameHost.hostname {host host' : Str} (h : SameHost host host') :
    toAsciiLowercase (hostname host') = toAsciiLowercase (hostname host) := by
  rcases h with hcase | ⟨hplain, port, rfl⟩
  · rw [← hostname_toAsciiLowercase, hcase, hostname_toAsciiLowercase]
  · rw [hostname_port hplain, hostname_plain hplain]

theorem selectServer_host (indices : List Nat) (default : Nat) (request : RequestHead)
    (servers : List Server) :
    selectServer indices default request servers
      = (request.host.bind (fun host =>
          indices.find? (answersTo servers (hostname host)))).getD default := by
  unfold RequestHead.host
  cases hheader : request.headers.find? (fun header => header.name == "host".toList) with
  | none =>
      unfold selectServer
      rw [hheader]
      rfl
  | some header =>
      rw [selectServer_eq hheader]
      rfl

theorem asksFor_iff {servers : List ServerConfig} {request : RequestHead} {host : Str}
    (hhost : request.host = some host) (i : Nat) :
    AsksFor servers request i
      ↔ answersTo (servers.map ServerConfig.toServer) (hostname host) i = true := by
  unfold AsksFor
  constructor
  · rintro ⟨server, name, host', part, hget, hname, hhost', hpart, hsame⟩
    obtain rfl : host = host' := Option.some.inj (hhost.symm.trans hhost')
    rw [hostPart_iff.mp hpart]
    exact (answersTo_iff hget).mpr ⟨name, hname, by simpa [eqIgnoreAsciiCase] using hsame⟩
  · intro h
    cases hget : servers[i]? with
    | none => simp [answersTo, hget] at h
    | some server =>
        obtain ⟨name, hname, hsame⟩ := (answersTo_iff hget).mp h
        exact ⟨server, name, host, hostname host, rfl, hname, hhost, hostPart_iff.mpr rfl,
          by simpa [eqIgnoreAsciiCase] using hsame⟩

/-- The first server that the request asks for is selected, or the default if there is none. -/
theorem selectServer_first (servers : List ServerConfig) (request : RequestHead)
    {indices : List Nat} (default : Nat) (hincreasing : indices.Pairwise (· < ·)) :
    (selectServer indices default request (servers.map ServerConfig.toServer) ∈ indices
      ∧ AsksFor servers request
        (selectServer indices default request (servers.map ServerConfig.toServer))
      ∧ ∀ i ∈ indices,
        i < selectServer indices default request (servers.map ServerConfig.toServer) →
        ¬ AsksFor servers request i)
    ∨ (selectServer indices default request (servers.map ServerConfig.toServer) = default
      ∧ ∀ i ∈ indices, ¬ AsksFor servers request i) := by
  rw [selectServer_host]
  cases hhost : request.host with
  | none =>
      right
      refine ⟨rfl, ?_⟩
      rintro i - ⟨_, _, host, _, -, -, hsome, -⟩
      rw [hhost] at hsome
      cases hsome
  | some host =>
      rw [Option.bind_some]
      cases hfind : indices.find?
          (answersTo (servers.map ServerConfig.toServer) (hostname host)) with
      | none =>
          right
          refine ⟨rfl, ?_⟩
          intro i hi hasks
          have hnot := List.find?_eq_none.mp hfind i hi
          exact hnot ((asksFor_iff hhost i).mp hasks)
      | some i =>
          left
          rw [Option.getD_some]
          obtain ⟨hmem, hasks, hleast⟩ := (find?_eq_some_iff_of_increasing hincreasing).mp hfind
          refine ⟨hmem, (asksFor_iff hhost i).mpr hasks, ?_⟩
          intro j hj hlt hasks'
          rw [asksFor_iff hhost, hleast j hj hlt] at hasks'
          cases hasks'

/-- The same host gets the same server. -/
theorem selectServer_sameHost (servers : List ServerConfig) (indices : List Nat) (default : Nat)
    {request request' : RequestHead} {host host' : Str} (hhost : request.host = some host)
    (hhost' : request'.host = some host') (hsame : SameHost host host') :
    selectServer indices default request' (servers.map ServerConfig.toServer)
      = selectServer indices default request (servers.map ServerConfig.toServer) := by
  rw [selectServer_host, selectServer_host, hhost, hhost', Option.bind_some, Option.bind_some]
  congr 1
  refine find?_congr ?_
  intro i _
  unfold answersTo eqIgnoreAsciiCase
  rw [hsame.hostname]

/-- **Virtual hosts.** The groups of every list of servers partition it by
address.  A request through a group is answered by a server that listens on its
address: the first of the group it asks for, or the default.  The case of the
`Host`, and a port after a plain name, make no difference. -/
theorem listener_groups_select_server {bindFails : SocketAddr → Bool}
    {servers : List ServerConfig} {groups : List ListenerGroup}
    (hbound : bindWorkerListeners bindFails servers = some groups) :
    Partitions servers groups
    ∧ ∀ group ∈ groups, ∀ request : RequestHead,
      (∃ server, servers[selectServer group.serverIndices group.defaultServer request
            (servers.map ServerConfig.toServer)]? = some server
          ∧ server.listen = group.address)
      ∧ ((selectServer group.serverIndices group.defaultServer request
              (servers.map ServerConfig.toServer) ∈ group.serverIndices
            ∧ AsksFor servers request (selectServer group.serverIndices group.defaultServer request
              (servers.map ServerConfig.toServer))
            ∧ ∀ i ∈ group.serverIndices, i < selectServer group.serverIndices group.defaultServer
              request (servers.map ServerConfig.toServer) → ¬ AsksFor servers request i)
          ∨ (selectServer group.serverIndices group.defaultServer request
              (servers.map ServerConfig.toServer) = group.defaultServer
            ∧ ∀ i ∈ group.serverIndices, ¬ AsksFor servers request i))
      ∧ ∀ (request' : RequestHead) host host', request.host = some host →
          request'.host = some host' → SameHost host host' →
          selectServer group.serverIndices group.defaultServer request'
              (servers.map ServerConfig.toServer)
            = selectServer group.serverIndices group.defaultServer request
              (servers.map ServerConfig.toServer) := by
  have hpartitions : Partitions servers groups := (bindWorkerListeners_grouped hbound).partitions
  refine ⟨hpartitions, ?_⟩
  intro group hgroup request
  obtain ⟨hdefault, -⟩ := hpartitions.default group hgroup
  have hchoice := selectServer_first servers request group.defaultServer
    (hpartitions.increasing group hgroup)
  refine ⟨?_, hchoice, ?_⟩
  · rcases hchoice with ⟨hmem, -⟩ | ⟨heq, -⟩
    · exact (hpartitions.own group hgroup _).mp hmem
    · rw [heq]
      exact (hpartitions.own group hgroup _).mp hdefault
  · intro request' host host' hhost hhost' hsame
    exact selectServer_sameHost servers _ _ hhost hhost' hsame

/-- The request for the second host, with the port of the listening socket. -/
def portRequest : RequestHead :=
  { secretRequest with headers := [⟨"host".toList, "secret.test:8443".toList⟩] }

theorem listener_groups_select_server_twoHosts :
    ∃ groups, bindWorkerListeners (fun _ => false) [publicHost, secretHost] = some groups
      ∧ Partitions [publicHost, secretHost] groups
      ∧ selectServer [0, 1] 0 portRequest ([publicHost, secretHost].map ServerConfig.toServer) = 1
      ∧ AsksFor [publicHost, secretHost] portRequest 1
      ∧ selectServer [0, 1] 0 portRequest ([publicHost, secretHost].map ServerConfig.toServer)
        = selectServer [0, 1] 0 secretRequest
          ([publicHost, secretHost].map ServerConfig.toServer) := by
  have hbound : bindWorkerListeners (fun _ => false) [publicHost, secretHost]
      = some [{ address := anyAddress, defaultServer := 0, serverIndices := [0, 1] }] := by
    decide
  have hsecond : selectServer [0, 1] 0 portRequest
      ([publicHost, secretHost].map ServerConfig.toServer) = 1 := by
    decide
  obtain ⟨hpartitions, hselect⟩ := listener_groups_select_server hbound
  refine ⟨_, hbound, hpartitions, hsecond, ?_, ?_⟩
  · -- the default server is the other one
    have hchoice := (hselect _ List.mem_cons_self portRequest).2.1
    rw [hsecond] at hchoice
    rcases hchoice with ⟨-, hasks, -⟩ | ⟨hdefault, -⟩
    · exact hasks
    · cases hdefault
  · exact (hselect _ List.mem_cons_self secretRequest).2.2 portRequest "secret.test".toList
      "secret.test:8443".toList rfl rfl (.inr ⟨by decide, "8443".toList, rfl⟩)

end Thwip
