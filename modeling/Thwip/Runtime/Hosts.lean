/-
  Thwip.Runtime.Hosts — virtual hosts and TLS.

  A listening socket speaks TLS if its first server has certificates, and every
  connection accepted on it is of that kind in either worker.  The server that
  answers a request is chosen by the `Host` header.  The two agree for every
  request exactly if the servers a `Host` can name at an address agree with its
  first server.
-/
import Thwip.Http.Clean
import Thwip.IoUring.Runs
import Thwip.Lib.Words
import Thwip.Readiness.Runs
import Thwip.Startup

namespace Thwip

open Thwip.Lib

/-! ## §1. The names a `Host` can have. -/

/-- Brackets allow anything but their end; without them a name ends at its port.  No
header has a line break. -/
def isHostname (name : Str) : Bool :=
  name.all (fun c => c != '\r' && c != '\n')
    && (!name.contains ']'
      || (!name.contains ':' && (name.head?).all (fun c => c != '[' && !isWhitespace c)))

/-- Trimmed text does not start with whitespace. -/
theorem head_trim (s : Str) : (trim s).head?.all (fun c => !isWhitespace c) = true := by
  unfold trim trimMatches
  cases htrim : List.rdropWhile isWhitespace (List.dropWhile isWhitespace s) with
  | nil => rfl
  | cons c rest =>
      have hpre := List.rdropWhile_prefix isWhitespace (List.dropWhile isWhitespace s)
      rw [htrim] at hpre
      obtain ⟨later, hlater⟩ := hpre
      have hhead := List.head?_dropWhile_not isWhitespace s
      rw [← hlater] at hhead
      simpa using hhead

/-- The host part is a part of the text. -/
theorem mem_of_mem_hostname {host : Str} {c : Char} (h : c ∈ hostname host) : c ∈ host := by
  have htrim : ∀ {d : Char}, d ∈ trim host → d ∈ host := mem_of_mem_trimMatches
  unfold hostname at h
  dsimp only at h
  split at h
  · split at h
    · exact htrim (List.mem_of_mem_drop h)
    next address rest hsplit =>
      exact htrim (List.mem_of_mem_drop ((mem_of_splitOnce hsplit).1 c h))
  · split at h
    · exact htrim h
    next name rest hsplit => exact htrim ((mem_of_splitOnce hsplit).1 c h)

/-- A value of the `Host` header, as the parser leaves it. -/
def HostValue (host : Str) : Prop :=
  trimMatches isOws host = host ∧ ∀ c ∈ host, c ≠ '\r' ∧ c ≠ '\n'

theorem isHostname_hostname {host : Str} (hvalue : HostValue host) :
    isHostname (hostname host) = true := by
  have hline : (hostname host).all (fun c => c != '\r' && c != '\n') = true := by
    rw [List.all_eq_true]
    intro c hc
    simpa using hvalue.2 c (mem_of_mem_hostname hc)
  have hbracket : ∀ {name : Str}, ']' ∉ name → (!name.contains ']') = true := by
    intro name hnot
    simp [hnot]
  have hhead : ¬ (trim host).head? = some '[' → ∀ {name : Str}, name <+: trim host →
      name.head?.all (fun c => c != '[' && !isWhitespace c) = true := by
    intro hopen name hpre
    cases name with
    | nil => rfl
    | cons c rest =>
        obtain ⟨later, hlater⟩ := hpre
        have hspace := head_trim host
        rw [← hlater] at hspace hopen
        simp only [List.cons_append, List.head?_cons, Option.some.injEq, Option.all_some] at hopen hspace ⊢
        simp [hopen, hspace]
  unfold isHostname
  rw [hline, Bool.true_and, Bool.or_eq_true, Bool.and_eq_true]
  unfold hostname
  dsimp only
  split
  · split
    next hnone => exact .inl (hbracket (splitOnce_none hnone))
    next address rest hsplit => exact .inl (hbracket (splitOnce_notMem hsplit))
  next hopen =>
    split
    next hnone => exact .inr ⟨by simpa using splitOnce_none hnone, hhead hopen (List.prefix_refl _)⟩
    next name rest hsplit =>
      exact .inr ⟨by simpa using splitOnce_notMem hsplit, hhead hopen (splitOnce_before hsplit)⟩

theorem isWhitespace_of_isOws {c : Char} (h : isOws c = true) : isWhitespace c = true := by
  simp only [isOws, Bool.or_eq_true, beq_iff_eq] at h
  rcases h with rfl | rfl <;> decide

/-- A text that neither begins nor ends with whitespace has none to trim. -/
theorem trimMatches_of_ends {p : Char → Bool} (hp : ∀ c, p c = true → isWhitespace c = true)
    {s : Str} (hfirst : ∀ c, s.head? = some c → isWhitespace c = false)
    (hlast : ∀ c, s.getLast? = some c → isWhitespace c = false) : trimMatches p s = s := by
  have hnot : ∀ c, isWhitespace c = false → p c = false := by
    intro c hc
    rw [Bool.eq_false_iff]
    intro hpc
    rw [hp c hpc] at hc
    cases hc
  exact trimMatches_eq_self_iff.mpr
    ⟨fun c hc => hnot c (hfirst c hc), fun c hc => hnot c (hlast c hc)⟩

/-- Each of these names is the host part of a value: in brackets, or before a colon. -/
theorem exists_host {name : Str} (h : isHostname name = true) :
    ∃ host, HostValue host ∧ hostname host = name := by
  simp only [isHostname, Bool.and_eq_true, List.all_eq_true, bne_iff_ne, ne_eq, Bool.or_eq_true,
    Bool.not_eq_true', List.contains_eq_mem, decide_eq_false_iff_not] at h
  obtain ⟨hline, hbracket | ⟨hcolon, hhead⟩⟩ := h
  · have hfirst : ∀ c, ('[' :: name ++ [']']).head? = some c → isWhitespace c = false := by
      rintro c hc
      injection hc with hc
      exact hc ▸ rfl
    have hlast : ∀ c, ('[' :: name ++ [']']).getLast? = some c → isWhitespace c = false := by
      rintro c hc
      rw [List.getLast?_concat] at hc
      injection hc with hc
      exact hc ▸ rfl
    refine ⟨'[' :: name ++ [']'],
      ⟨trimMatches_of_ends (fun _ => isWhitespace_of_isOws) hfirst hlast, ?_⟩, ?_⟩
    · intro c hc
      rcases List.mem_append.mp hc with hc | hc
      · rcases List.mem_cons.mp hc with rfl | hc
        · decide
        · exact hline c hc
      · rw [List.mem_singleton.mp hc]
        decide
    · have htrim : trim ('[' :: name ++ [']']) = '[' :: name ++ [']'] :=
        trimMatches_of_ends (fun _ => id) hfirst hlast
      have hinside : ('[' :: name ++ [']']).drop 1 = name ++ ']' :: [] := rfl
      unfold hostname
      dsimp only
      rw [htrim, if_pos (by rfl), hinside, splitOnce_append [] name hbracket]
  · have hstart : ∀ c, (name ++ [':']).head? = some c → c ≠ '[' ∧ isWhitespace c = false := by
      intro c hc
      cases name with
      | nil =>
          injection hc with hc
          exact hc ▸ by decide
      | cons d tail =>
          injection hc with hc
          subst hc
          simpa using hhead
    have hlast : ∀ c, (name ++ [':']).getLast? = some c → isWhitespace c = false := by
      rintro c hc
      rw [List.getLast?_concat] at hc
      injection hc with hc
      exact hc ▸ rfl
    refine ⟨name ++ [':'], ⟨trimMatches_of_ends (fun _ => isWhitespace_of_isOws)
      (fun c hc => (hstart c hc).2) hlast, ?_⟩, ?_⟩
    · intro c hc
      rcases List.mem_append.mp hc with hc | hc
      · exact hline c hc
      · rw [List.mem_singleton.mp hc]
        decide
    · have htrim : trim (name ++ [':']) = name ++ [':'] :=
        trimMatches_of_ends (fun _ => id) (fun c hc => (hstart c hc).2) hlast
      unfold hostname
      dsimp only
      rw [htrim, if_neg (fun hopen => (hstart '[' hopen).1 rfl), splitOnce_append [] name hcolon]

/-- A character that is no ASCII letter is none in lower case either. -/
theorem toLower_beq {c d : Char} (hd : ¬ (0x41 ≤ d.toNat ∧ d.toNat ≤ 0x5A))
    (hd' : ¬ (0x61 ≤ d.toNat ∧ d.toNat ≤ 0x7A)) : (c.toLower == d) = (c == d) := by
  rw [Bool.eq_iff_iff, beq_iff_eq, beq_iff_eq, ← Char.toNat_inj, ← Char.toNat_inj, toNat_toLower]
  split_ifs <;> omega

theorem isWhitespace_toLower (c : Char) : isWhitespace c.toLower = isWhitespace c := by
  unfold isWhitespace
  rw [toNat_toLower]
  split_ifs with hletter
  · rw [Bool.eq_iff_iff]
    simp only [Bool.or_eq_true, Bool.and_eq_true, decide_eq_true_eq, beq_iff_eq]
    omega
  · rfl

theorem isHostname_toAsciiLowercase (name : Str) :
    isHostname (toAsciiLowercase name) = isHostname name := by
  have hcontains : ∀ d : Char, ¬ (0x41 ≤ d.toNat ∧ d.toNat ≤ 0x5A) →
      ¬ (0x61 ≤ d.toNat ∧ d.toNat ≤ 0x7A) →
      (toAsciiLowercase name).contains d = name.contains d := by
    intro d hd hd'
    unfold toAsciiLowercase
    rw [List.contains_eq_any_beq, List.contains_eq_any_beq, List.any_map]
    congr 1
    funext c
    rw [Function.comp_apply, Bool.beq_comm, toLower_beq hd hd', Bool.beq_comm]
  have hhead : (toAsciiLowercase name).head?.all (fun c => c != '[' && !isWhitespace c)
      = name.head?.all (fun c => c != '[' && !isWhitespace c) := by
    cases name with
    | nil => rfl
    | cons c rest =>
        show (c.toLower != '[' && !isWhitespace c.toLower) = (c != '[' && !isWhitespace c)
        rw [isWhitespace_toLower, bne, toLower_beq (by decide) (by decide), ← bne]
  have hline : (toAsciiLowercase name).all (fun c => c != '\r' && c != '\n')
      = name.all (fun c => c != '\r' && c != '\n') := by
    unfold toAsciiLowercase
    rw [List.all_map]
    congr 1
    funext c
    show (c.toLower != '\r' && c.toLower != '\n') = (c != '\r' && c != '\n')
    rw [bne, bne, toLower_beq (by decide) (by decide), toLower_beq (by decide) (by decide), ← bne,
      ← bne]
  unfold isHostname
  rw [hcontains ']' (by decide) (by decide), hcontains ':' (by decide) (by decide), hhead, hline]

/-- The server names some `Host` matches. -/
theorem exists_matching_host {name : Str} :
    (∃ host, HostValue host ∧ eqIgnoreAsciiCase name (hostname host) = true)
      ↔ isHostname name = true := by
  constructor
  · rintro ⟨host, hvalue, hmatch⟩
    unfold eqIgnoreAsciiCase at hmatch
    rw [beq_iff_eq] at hmatch
    rw [← isHostname_toAsciiLowercase, hmatch, isHostname_toAsciiLowercase]
    exact isHostname_hostname hvalue
  · intro h
    obtain ⟨host, hvalue, hhost⟩ := exists_host h
    exact ⟨host, hvalue, by rw [hhost]; simp [eqIgnoreAsciiCase]⟩

/-! ## §2. A connection is of its listener's kind. -/

namespace Readiness

variable {σ : Type} {cfg : Config σ} {w w' : ReadinessWorker σ}

/-- The connection is encrypted exactly if its listener has certificates. -/
def Connection.ListensOn (listeners : List RegisteredListener) (c : Connection σ) : Prop :=
  ∃ listener, listeners[c.listenerGroup]? = some listener ∧ c.ssl.isSome = listener.ssl.isSome

/-- Every connection of the worker is of its listener's kind. -/
structure ReadinessWorker.Listens (cfg : Config σ) (w : ReadinessWorker σ) : Prop where
  listeners : w.listeners = cfg.listeners
  live : ∀ slot occ, w.connections.get slot = some occ →
    occ.connection.ListensOn cfg.listeners

theorem ListensOn.same {listeners : List RegisteredListener} {c c' : Connection σ}
    (h : c.ListensOn listeners) (hsame : SameClient c c') : c'.ListensOn listeners := by
  obtain ⟨listener, hget, hssl⟩ := h
  exact ⟨listener, by rw [hsame.listenerGroup]; exact hget, hsame.ssl.trans hssl⟩

theorem listensOn_new {now : Instant} {index generation : Nat} {listener : RegisteredListener}
    {c : Connection σ} (hget : cfg.listeners[index]? = some listener)
    (h : Connection.new cfg.tls.toRustls now index generation listener.ssl = some c) :
    c.ListensOn cfg.listeners := by
  unfold Connection.new at h
  split at h
  next hssl =>
    injection h with h
    subst h
    exact ⟨listener, hget, by rw [hssl]; rfl⟩
  next config hssl =>
    split at h
    · cases h
    · injection h with h
      subst h
      exact ⟨listener, hget, by rw [hssl]; rfl⟩

theorem ReadinessWorker.Listens.atom (h : w.Listens cfg) (hatom : Atom cfg w w') :
    w'.Listens cfg := by
  cases hatom with
  | turn io id event hstart hrun =>
      refine ⟨?_, ?_⟩
      · obtain ⟨t, -, rfl⟩ := runTurn_eq hrun
        exact h.listeners
      · intro slot occ' hget'
        by_cases hslot : id.slot = slot
        · subst hslot
          obtain ⟨occ, hget, hsame, -⟩ := runTurn_get_self hstart hrun hget'
          exact ListensOn.same (h.live id.slot occ hget) hsame
        · rw [runTurn_get_ne hrun hslot] at hget'
          exact h.live slot occ' hget'
  | registered now vacantKey registrationFails hlistener hroom =>
      rename_i index listener
      rcases registerConnection_cases now vacantKey registrationFails index listener w rfl with
        heq | ⟨id, hslot, -, heq | ⟨connection, interest, -, hnew, heq⟩⟩
      · rw [heq]
        exact h
      · rw [heq]
        exact ⟨h.listeners, h.live⟩
      · rw [heq]
        refine ⟨h.listeners, ?_⟩
        have hle : id.slot ≤ w.connections.length := by
          rw [hslot]
          exact Slab.vacantKey_le _ _
        intro slot occ hget
        dsimp only at hget
        by_cases hsame : slot = id.slot
        · subst hsame
          rw [Slab.get_insertAt_self hle] at hget
          injection hget with hget
          subst hget
          rw [h.listeners] at hlistener
          exact listensOn_new hlistener hnew
        · rw [Slab.get_insertAt_ne hle (Ne.symm hsame)] at hget
          exact h.live slot occ hget
  | polled =>
      refine ⟨h.listeners, ?_⟩
      intro slot occ' hget'
      dsimp only at hget'
      rw [poll_get] at hget'
      obtain ⟨occ, hget, rfl⟩ := Option.map_eq_some_iff.mp hget'
      exact h.live slot occ hget
  | other => exact ⟨h.listeners, h.live⟩

theorem Reachable.listens (h : Reachable cfg w) : w.Listens cfg := by
  obtain ⟨w₀, hnew, hpath⟩ := h.atoms
  clear h
  induction hpath with
  | refl =>
      unfold ReadinessWorker.new at hnew
      split_ifs at hnew
      injection hnew with hnew
      subst hnew
      refine ⟨rfl, ?_⟩
      intro slot occ hget
      simp [Slab.get] at hget
  | tail _ hatom ih => exact ih.atom hatom

end Readiness

namespace IoUring

variable {σ : Type} {cfg : Config σ}

/-- The connection is encrypted exactly if its listener has certificates. -/
def UringConnection.ListensOn (listeners : List UringListener) (c : UringConnection σ) : Prop :=
  ∃ listener, listeners[c.listenerIndex]? = some listener ∧ c.ssl.isSome = listener.ssl.isSome

def listensRule (cfg : Config σ) : SlotRule cfg where
  Inv c _ _ := c.ListensOn cfg.listeners
  Guard _ := True
  Outlives _ := True
  Gone _ _ := True
  accepted := by
    intro id c stale hfresh _ _
    cases hfresh with
    | mk socket listenerIndex ssl _ _ hmode => exact hmode
  turn := by
    intro env id event c c' ops ops₀ pushed log acts _ _ _ _ _ hinv houtcome
    obtain ⟨listener, hget, hssl⟩ := hinv
    have hsame := houtcome.sameClient
    exact ⟨listener, by rw [hsame.listenerIndex]; exact hget, hsame.ssl.trans hssl⟩
  removed := by
    intros
    exact ⟨trivial, fun _ _ => trivial⟩

end IoUring

/-! ## §3. The server a `Host` names. -/

/-- Some `Host` selects this server: it is the first of its name at its address,
and its name is one a `Host` can have. -/
def ProxyConfig.Selectable (self : ProxyConfig) (i : Nat) (server : ServerConfig) : Prop :=
  self.servers[i]? = some server ∧ ∃ name, server.serverName = some name
    ∧ isHostname name = true
    ∧ ∀ j < i, ∀ other, self.servers[j]? = some other → other.listen = server.listen →
      ∀ name', other.serverName = some name' → eqIgnoreAsciiCase name' name = false

/-- Every selectable server has certificates exactly if the first server of its
address has. -/
def ProxyConfig.Uniform (self : ProxyConfig) : Prop :=
  ∀ i server first, self.Selectable i server →
    self.servers.find? (fun other => other.listen == server.listen) = some first →
    server.ssl.isSome = first.ssl.isSome

/-- The server at this index has this name. -/
def answersTo (servers : List Server) (host : Str) (i : Nat) : Bool :=
  (servers[i]?).any (fun server =>
    server.serverName.any (fun name => eqIgnoreAsciiCase name host))

theorem selectServer_eq {indices : List Nat} {default : Nat} {request : RequestHead}
    {servers : List Server} {header : Header}
    (h : request.headers.find? (fun header => header.name == "host".toList) = some header) :
    selectServer indices default request servers
      = (indices.find? (answersTo servers (hostname header.value))).getD default := by
  unfold selectServer
  rw [h]
  dsimp only
  congr 2
  funext i
  unfold answersTo
  cases servers[i]? with
  | none => rfl
  | some server => cases hname : server.serverName <;> simp [hname]

theorem selectServer_cases (indices : List Nat) (default : Nat) (request : RequestHead)
    (servers : List Server) :
    selectServer indices default request servers = default
      ∨ ∃ header ∈ request.headers,
          indices.find? (answersTo servers (hostname header.value))
            = some (selectServer indices default request servers) := by
  cases hheader : request.headers.find? (fun header => header.name == "host".toList) with
  | none =>
      left
      unfold selectServer
      rw [hheader]
  | some header =>
      rw [selectServer_eq hheader]
      cases hfind : indices.find? (answersTo servers (hostname header.value)) with
      | none => exact .inl rfl
      | some i => exact .inr ⟨header, List.mem_of_find?_eq_some hheader, hfind⟩

theorem answersTo_iff {servers : List ServerConfig} {host : Str} {i : Nat}
    {server : ServerConfig} (hget : servers[i]? = some server) :
    answersTo (servers.map ServerConfig.toServer) host i = true
      ↔ ∃ name, server.serverName = some name ∧ eqIgnoreAsciiCase name host = true := by
  unfold answersTo
  rw [List.getElem?_map, hget]
  simp only [Option.map_some, Option.any_some, Option.any_eq_true]

theorem listeningOn_increasing (servers : List ServerConfig) (address : SocketAddr) :
    (listeningOn servers address).Pairwise (· < ·) :=
  List.Pairwise.filter _ List.pairwise_lt_range

/-- The default server of a group is the first of its address. -/
theorem ListenerGroup.For.first {servers : List ServerConfig} {group : ListenerGroup}
    (h : group.For servers) :
    ∃ first, servers[group.defaultServer]? = some first ∧ first.listen = group.address
      ∧ servers.find? (fun other => other.listen == group.address) = some first := by
  have hhead := h.default
  rw [h.indices] at hhead
  obtain ⟨rest, hrest⟩ := List.head?_eq_some_iff.mp hhead
  obtain ⟨first, hget, haddress⟩ := mem_listeningOn.mp
    (show group.defaultServer ∈ listeningOn servers group.address by rw [hrest]; simp)
  refine ⟨first, hget, haddress, ?_⟩
  rw [List.find?_eq_some_iff_getElem]
  obtain ⟨hlt, hfirst⟩ := List.getElem?_eq_some_iff.mp hget
  refine ⟨by simpa using haddress, group.defaultServer, hlt, hfirst, ?_⟩
  intro j hj
  rw [Bool.not_eq_true', beq_eq_false_iff_ne]
  intro hsame
  -- an earlier server of the address would be the head of the list
  have hmem : j ∈ listeningOn servers group.address :=
    mem_listeningOn.mpr ⟨_, List.getElem?_eq_getElem (hj.trans hlt), hsame⟩
  have hinc := listeningOn_increasing servers group.address
  rw [hrest] at hmem hinc
  rcases List.mem_cons.mp hmem with heq | hin
  · omega
  · have := (List.pairwise_cons.mp hinc).1 j hin
    omega

/-- Loading keeps to the servers that ask for certificates. -/
theorem loadSslConfigs_get {load : SslServerConfig → Option LoadedSslConfig} :
    ∀ {servers : List ServerConfig} {sslConfigs : List (Option LoadedSslConfig)} {i : Nat}
      {server : ServerConfig}, loadSslConfigs load servers = some sslConfigs →
      servers[i]? = some server → ∃ ssl, sslConfigs[i]? = some ssl
        ∧ ssl.isSome = server.ssl.isSome
  | [], sslConfigs, i, server, _, hget => by cases hget
  | first :: servers, sslConfigs, i, server, hload, hget => by
      unfold loadSslConfigs at hload
      rw [List.mapM_cons] at hload
      obtain ⟨ssl, hssl, hload⟩ := Option.bind_eq_some_iff.mp hload
      obtain ⟨rest, hrest, hload⟩ := Option.bind_eq_some_iff.mp hload
      injection hload with hload
      subst hload
      cases i with
      | zero =>
          injection hget with hget
          subst hget
          refine ⟨ssl, rfl, ?_⟩
          split at hssl
          next hnone =>
            injection hssl with hssl
            rw [← hssl, hnone]
            rfl
          next config hsome =>
            obtain ⟨loaded, -, rfl⟩ := Option.map_eq_some_iff.mp hssl
            rw [hsome]
            rfl
      | succ i => exact loadSslConfigs_get (i := i) hrest hget

section Group

variable {servers : List ServerConfig} {group : ListenerGroup} (hfor : group.For servers)

include hfor

/-- A listening socket is of the kind of the first server of its address. -/
theorem ListenerGroup.For.kind {load : SslServerConfig → Option LoadedSslConfig}
    {sslConfigs : List (Option LoadedSslConfig)}
    (hload : loadSslConfigs load servers = some sslConfigs) :
    ∃ first, servers[group.defaultServer]? = some first
      ∧ servers.find? (fun other => other.listen == group.address) = some first
      ∧ (group.ssl sslConfigs).isSome = first.ssl.isSome := by
  obtain ⟨first, hget, -, hfind⟩ := hfor.first
  obtain ⟨ssl, hssl, hsome⟩ := loadSslConfigs_get hload hget
  refine ⟨first, hget, hfind, ?_⟩
  unfold ListenerGroup.ssl
  rw [hssl]
  exact hsome

/-- A `Host` of this name selects the first server of its address that has the name. -/
theorem ListenerGroup.For.finds_iff {host : Str} {i : Nat} :
    group.serverIndices.find? (answersTo (servers.map ServerConfig.toServer) host) = some i
      ↔ ∃ server name, servers[i]? = some server ∧ server.listen = group.address
        ∧ server.serverName = some name ∧ eqIgnoreAsciiCase name host = true
        ∧ ∀ j < i, ∀ other, servers[j]? = some other → other.listen = server.listen →
          ∀ name', other.serverName = some name' → eqIgnoreAsciiCase name' name = false := by
  rw [hfor.indices, find?_eq_some_iff_of_increasing (listeningOn_increasing _ _)]
  constructor
  · rintro ⟨hmem, hanswers, hleast⟩
    obtain ⟨server, hget, haddress⟩ := mem_listeningOn.mp hmem
    obtain ⟨name, hname, hmatch⟩ := (answersTo_iff hget).mp hanswers
    refine ⟨server, name, hget, haddress, hname, hmatch, ?_⟩
    intro j hlt other hother hlisten name' hname'
    have hno := hleast j (mem_listeningOn.mpr ⟨other, hother, hlisten.trans haddress⟩) hlt
    rw [Bool.eq_false_iff] at hno ⊢
    intro hsame
    -- what has the same name would answer too
    apply hno
    refine (answersTo_iff hother).mpr ⟨name', hname', ?_⟩
    unfold eqIgnoreAsciiCase at hsame hmatch ⊢
    rw [beq_iff_eq] at hsame hmatch ⊢
    rw [hsame, hmatch]
  · rintro ⟨server, name, hget, haddress, hname, hmatch, hearlier⟩
    refine ⟨mem_listeningOn.mpr ⟨server, hget, haddress⟩,
      (answersTo_iff hget).mpr ⟨name, hname, hmatch⟩, ?_⟩
    intro j hj hlt
    obtain ⟨other, hother, hlisten⟩ := mem_listeningOn.mp hj
    rw [Bool.eq_false_iff]
    intro hanswers
    obtain ⟨name', hname', hmatch'⟩ := (answersTo_iff hother).mp hanswers
    have hdiffer := hearlier j hlt other hother (hlisten.trans haddress.symm) name' hname'
    unfold eqIgnoreAsciiCase at hmatch hmatch' hdiffer
    rw [beq_iff_eq] at hmatch hmatch'
    rw [hmatch, hmatch', beq_self_eq_true] at hdiffer
    cases hdiffer

end Group

/-! ## §4. Hosts and TLS agree. -/

/-- **When the server a request names asks for TLS exactly if it came through
TLS.**  A connection of either worker is encrypted exactly if its listening socket
is; for every request that is clean, as every parsed one is, on every socket the
selected server asks for TLS exactly if the socket speaks it, if and only if the
configuration is uniform. -/
theorem hosts_agree_with_tls_iff {σ τ : Type} (tls : Readiness.SocketTls σ) (uringTls : Rustls τ)
    (bufRingSize bufferSize : Nat) (config : ProxyConfig)
    (load : SslServerConfig → Option LoadedSslConfig) (bindFails : SocketAddr → Bool)
    {sslConfigs : List (Option LoadedSslConfig)} {groups : List ListenerGroup}
    (hload : loadSslConfigs load config.servers = some sslConfigs)
    (hbind : bindWorkerListeners bindFails config.servers = some groups) :
    ((∀ group ∈ groups, ∀ request : RequestHead, request.Clean → ∃ server,
        config.servers[selectServer group.serverIndices group.defaultServer request
          (config.servers.map ServerConfig.toServer)]? = some server
        ∧ server.ssl.isSome = (group.ssl sslConfigs).isSome)
      ↔ config.Uniform)
    ∧ (∀ w, Readiness.Reachable (config.workerContext tls sslConfigs groups) w →
      ∀ slot occ, w.connections.get slot = some occ →
      ∃ group, groups[occ.connection.listenerGroup]? = some group
        ∧ occ.connection.ssl.isSome = (group.ssl sslConfigs).isSome)
    ∧ (∀ w, IoUring.Reachable
        (config.uringContext uringTls bufRingSize bufferSize sslConfigs groups) w →
      ∀ slot occ, w.connections.get slot = some occ →
      ∃ group, groups[occ.connection.listenerIndex]? = some group
        ∧ occ.connection.ssl.isSome = (group.ssl sslConfigs).isSome) := by
  have hgrouped := bindWorkerListeners_grouped hbind
  refine ⟨⟨?_, ?_⟩, ?_, ?_⟩
  · rintro hagree i server first ⟨hget, name, hname, hhost, hearlier⟩ hfirst
    obtain ⟨group, hgroup, haddress⟩ := hgrouped.covered server (List.mem_of_getElem? hget)
    have hfor := hgrouped.each group hgroup
    obtain ⟨host, ⟨htrimmed, hline⟩, hmatch⟩ := exists_matching_host.mpr hhost
    -- this `Host` selects the server
    have hselect : selectServer group.serverIndices group.defaultServer
        { method := "GET".toList, target := "/".toList, version := .http11
          headers := [⟨"host".toList, host⟩] } (config.servers.map ServerConfig.toServer) = i := by
      have hfinds := hfor.finds_iff.mpr
        ⟨server, name, hget, haddress.symm, hname, hmatch, hearlier⟩
      rw [selectServer_eq (show _ = some ⟨"host".toList, host⟩ by simp)]
      dsimp only
      rw [hfinds]
      rfl
    have hclean : RequestHead.Clean
        { method := "GET".toList, target := "/".toList, version := .http11
          headers := [⟨"host".toList, host⟩] } := by
      have hmethod : TokenText "GET".toList := by decide
      have htarget : VisibleText "/".toList := by simp [VisibleText]; decide
      have htoken : TokenText "host".toList := by decide
      have hlower : toAsciiLowercase "host".toList = "host".toList := by decide
      refine ⟨hmethod, htarget, ?_⟩
      intro header hmem
      rw [List.mem_singleton.mp hmem]
      exact ⟨htoken, hlower, htrimmed, hline⟩
    obtain ⟨server', hget', hssl⟩ := hagree group hgroup _ hclean
    rw [hselect, hget] at hget'
    injection hget' with hget'
    subst hget'
    obtain ⟨first', -, hfind', hkind⟩ := hfor.kind hload
    rw [haddress, hfirst] at hfind'
    injection hfind' with hfind'
    subst hfind'
    exact hssl.trans hkind
  · intro huniform group hgroup request hclean
    have hfor := hgrouped.each group hgroup
    obtain ⟨first, hget, hfind, hssl⟩ := hfor.kind hload
    rcases selectServer_cases group.serverIndices group.defaultServer request
        (config.servers.map ServerConfig.toServer) with hdefault | ⟨header, hheader, hselected⟩
    · rw [hdefault]
      exact ⟨first, hget, hssl.symm⟩
    · obtain ⟨server, name, hserver, haddress, hname, hmatch, hearlier⟩ :=
        hfor.finds_iff.mp hselected
      refine ⟨server, hserver, ?_⟩
      rw [hssl]
      have hvalue : HostValue header.value :=
        ⟨(hclean.headers_clean header hheader).value_trimmed,
          (hclean.headers_clean header hheader).value_no_break⟩
      refine huniform _ server first ⟨hserver, name, hname,
        exists_matching_host.mp ⟨header.value, hvalue, hmatch⟩, hearlier⟩ ?_
      rw [haddress]
      exact hfind
  · intro w hw slot occ hget
    obtain ⟨listener, hlistener, hssl⟩ := hw.listens.live slot occ hget
    unfold Readiness.Config.listeners ProxyConfig.workerContext at hlistener
    dsimp only at hlistener
    rw [List.map_map, List.getElem?_map] at hlistener
    obtain ⟨group, hgroup, rfl⟩ := Option.map_eq_some_iff.mp hlistener
    exact ⟨group, hgroup, hssl⟩
  · intro w hw slot occ hget
    have hholds := (IoUring.listensRule
      (config.uringContext uringTls bufRingSize bufferSize sslConfigs groups)).holds hw
        (fun _ _ => trivial)
    obtain ⟨listener, hlistener, hssl⟩ := hholds.live slot occ hget
    unfold IoUring.Config.listeners ProxyConfig.uringContext at hlistener
    dsimp only at hlistener
    rw [List.map_map, List.getElem?_map] at hlistener
    obtain ⟨group, hgroup, rfl⟩ := Option.map_eq_some_iff.mp hlistener
    exact ⟨group, hgroup, hssl⟩

section Example

/-- Port 8443 on every interface. -/
def anyAddress : SocketAddr := .v4 0 8443

def publicHost : ServerConfig :=
  { serverName := some "public.test".toList, locations := [], listen := anyAddress }

def secretHost : ServerConfig :=
  { serverName := some "secret.test".toList, locations := [], listen := anyAddress
    ssl := some { certificatePath := "cert.pem".toList, privateKeyPath := "key.pem".toList } }

/-- Another host of the same address, with the same certificates. -/
def otherHost : ServerConfig := { secretHost with serverName := some "other.test".toList }

/-- Every certificate can be loaded. -/
def loadAny (ssl : SslServerConfig) : Option LoadedSslConfig :=
  some { serverConfig := 0, handshakeTimeout := ssl.handshakeTimeoutMs }

theorem hosts_agree_with_tls_iff_twoHosts :
    ∃ sslConfigs groups,
      loadSslConfigs loadAny [secretHost, otherHost] = some sslConfigs
        ∧ bindWorkerListeners (fun _ => false) [secretHost, otherHost] = some groups
        ∧ groups = [{ address := anyAddress, defaultServer := 0, serverIndices := [0, 1] }]
        ∧ ∀ group ∈ groups, ∀ request : RequestHead, request.Clean → ∃ server,
          [secretHost, otherHost][selectServer group.serverIndices group.defaultServer request
            ([secretHost, otherHost].map ServerConfig.toServer)]? = some server
          ∧ server.ssl.isSome = (group.ssl sslConfigs).isSome := by
  refine ⟨_, _, rfl, rfl, by decide, ?_⟩
  refine (hosts_agree_with_tls_iff Readiness.SocketTls.absent Rustls.absent 0 0
    { servers := [secretHost, otherHost] } loadAny (fun _ => false) rfl rfl).1.mpr ?_
  have hencrypted : ∀ server ∈ [secretHost, otherHost], server.ssl.isSome = true := by decide
  rintro i server first ⟨hget, -⟩ hfirst
  rw [hencrypted server (List.mem_of_getElem? hget),
    hencrypted first (List.mem_of_find?_eq_some hfirst)]

/-- The file of a host without certificates and one with them. -/
def sharedToml : String :=
  "[[http.servers]]\n" ++
  "server_name = \"public.test\"\n" ++
  "listen = \"0.0.0.0:8443\"\n" ++
  "locations = []\n\n" ++
  "[[http.servers]]\n" ++
  "server_name = \"secret.test\"\n" ++
  "listen = \"0.0.0.0:8443\"\n" ++
  "locations = []\n" ++
  "[http.servers.ssl]\n" ++
  "certificate_path = \"cert.pem\"\n" ++
  "private_key_path = \"key.pem\"\n"

/-- A request for the encrypted host, on the plaintext socket it shares. -/
def secretRequest : RequestHead :=
  { method := "GET".toList, target := "/".toList, version := .http11
    headers := [⟨"host".toList, "secret.test".toList⟩] }

theorem secretRequest_clean : secretRequest.Clean := by
  have htarget : VisibleText "/".toList := by simp [VisibleText]; decide
  refine ⟨by decide, htarget, ?_⟩
  intro header hmem
  rw [List.mem_singleton.mp hmem]
  exact ⟨by decide, by decide, by decide, by simp⟩

/-- The file is accepted, and the host with certificates answers in plaintext. -/
theorem plaintext_socket_serves_tls_host :
    ¬ ∀ (parse : Str → Except Str ProxyConfig) contents config,
      ProxyConfig.fromToml id parse contents = .ok config →
      ∀ load bindFails sslConfigs groups, loadSslConfigs load config.servers = some sslConfigs →
      bindWorkerListeners bindFails config.servers = some groups →
      ∀ group ∈ groups, ∀ request : RequestHead, request.Clean → ∃ server,
        config.servers[selectServer group.serverIndices group.defaultServer request
          (config.servers.map ServerConfig.toServer)]? = some server
        ∧ server.ssl.isSome = (group.ssl sslConfigs).isSome := by
  intro hall
  obtain ⟨server, hserver, hssl⟩ := hall
    (tomlOf sharedToml { servers := [publicHost, secretHost] }) sharedToml.toList _
    (fromToml_tomlOf rfl rfl) loadAny (fun _ => false)
    _ _ rfl rfl { address := anyAddress, defaultServer := 0, serverIndices := [0, 1] }
    (by decide) secretRequest secretRequest_clean
  have hselected : selectServer [0, 1] 0 secretRequest
      ([publicHost, secretHost].map ServerConfig.toServer) = 1 := by
    decide
  dsimp only at hserver
  rw [hselected] at hserver
  injection hserver with hserver
  subst hserver
  revert hssl
  decide

end Example

end Thwip
