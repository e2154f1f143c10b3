/-
  Thwip.Proxy.Address — which accepted upstream URLs have an address one can
  connect to.

  `Upstream::parse` refuses an empty authority, but not an authority without a host
  in front of its port or between its brackets, and it does not look at the port.
-/
import Thwip.Lib.Digits
import Thwip.Lib.Lines
import Thwip.Proxy.Upstream

namespace Thwip

open Thwip.Lib

/-! ## §1. Addresses. -/

/-- A non-empty decimal number that is a port. -/
structure PortText (port : Str) : Prop where
  digits : DigitText port
  fits : decimal port ≤ 65535

instance (port : Str) : Decidable (PortText port) :=
  decidable_of_iff (DigitText port ∧ Nat.ble (decimal port) 65535 = true)
    ⟨fun h => ⟨h.1, Nat.le_of_ble_eq_true h.2⟩, fun h => ⟨h.digits, Nat.ble_eq_true_of_le h.fits⟩⟩

theorem PortText.no_colon {port : Str} (h : PortText port) : ':' ∉ port :=
  h.digits.notMem (by decide)

/-- `host:port`, with a host that is not empty, nor empty between its brackets. -/
inductive HostPort : Str → Prop where
  | bracketed {inner port : Str} (hne : inner ≠ []) (hinner : ']' ∉ inner)
      (hport : PortText port) : HostPort ('[' :: inner ++ ']' :: ':' :: port)
  | plain {host port : Str} (hne : host ≠ []) (hhead : host.head? ≠ some '[')
      (hport : PortText port) : HostPort (host ++ ':' :: port)

/-- The port that is added when there is none. -/
theorem portText_eighty : PortText "80".toList := by decide

/-! ## §2. Splitting at the first and at the last separator. -/

/-- `rsplit_once` -/
def rsplitOnce (c : Char) (s : Str) : Option (Str × Str) :=
  (splitOnce c s.reverse).map (fun parts => (parts.2.reverse, parts.1.reverse))

theorem eq_of_append_cons {c : Char} {a₁ a₂ b₁ b₂ : Str} (h₁ : c ∉ a₁) (h₂ : c ∉ a₂)
    (h : a₁ ++ c :: b₁ = a₂ ++ c :: b₂) : a₁ = a₂ ∧ b₁ = b₂ := by
  have hsplit := splitOnce_append b₁ a₁ h₁
  rw [h, splitOnce_append b₂ a₂ h₂] at hsplit
  injection hsplit with hsplit
  injection hsplit with ha hb
  exact ⟨ha.symm, hb.symm⟩

theorem eq_of_rsplitOnce {c : Char} {s before after : Str}
    (h : rsplitOnce c s = some (before, after)) : s = before ++ c :: after ∧ c ∉ after := by
  obtain ⟨⟨first, second⟩, hsplit, hparts⟩ := Option.map_eq_some_iff.mp h
  injection hparts with hbefore hafter
  have heq := congrArg List.reverse (eq_of_splitOnce hsplit)
  rw [List.reverse_reverse, List.reverse_append, List.reverse_cons, List.append_assoc] at heq
  refine ⟨?_, ?_⟩
  · rw [heq, ← hbefore, ← hafter]
    rfl
  · rw [← hafter, List.mem_reverse]
    exact splitOnce_notMem hsplit

theorem rsplitOnce_none {c : Char} {s : Str} (h : rsplitOnce c s = none) : c ∉ s := by
  have hreverse := splitOnce_none (Option.map_eq_none_iff.mp h)
  rw [List.mem_reverse] at hreverse
  exact hreverse

theorem eq_of_append_cons_last {c : Char} {a₁ a₂ b₁ b₂ : Str} (h₁ : c ∉ b₁) (h₂ : c ∉ b₂)
    (h : a₁ ++ c :: b₁ = a₂ ++ c :: b₂) : a₁ = a₂ ∧ b₁ = b₂ := by
  have hreverse := congrArg List.reverse h
  rw [List.reverse_append, List.reverse_append, List.reverse_cons, List.reverse_cons,
    List.append_assoc, List.append_assoc] at hreverse
  obtain ⟨hb, ha⟩ := eq_of_append_cons (by rwa [List.mem_reverse]) (by rwa [List.mem_reverse])
    hreverse
  exact ⟨List.reverse_inj.mp ha, List.reverse_inj.mp hb⟩

theorem hostPort_bracketed_iff {inner after : Str} (hinner : ']' ∉ inner) :
    HostPort ('[' :: inner ++ ']' :: after) ↔
      inner ≠ [] ∧ ∃ port, after = ':' :: port ∧ PortText port := by
  constructor
  · intro h
    generalize haddress : '[' :: inner ++ ']' :: after = address at h
    cases h with
    | bracketed hne hother hport =>
        injection haddress with _ haddress
        obtain ⟨hsame, hafter⟩ := eq_of_append_cons hinner hother haddress
        rw [hsame]
        exact ⟨hne, _, hafter, hport⟩
    | @plain host port hne hhead hport =>
        cases host with
        | nil => exact absurd rfl hne
        | cons c host =>
            injection haddress with hc _
            exact absurd (congrArg some hc.symm) hhead
  · rintro ⟨hne, port, rfl, hport⟩
    exact .bracketed hne hinner hport

theorem hostPort_plain_iff {host port : Str} (hhead : (host ++ ':' :: port).head? ≠ some '[')
    (hcolon : ':' ∉ port) : HostPort (host ++ ':' :: port) ↔ host ≠ [] ∧ PortText port := by
  constructor
  · intro h
    generalize haddress : host ++ ':' :: port = address at h hhead
    cases h with
    | bracketed hne hinner hport => exact absurd rfl hhead
    | plain hne hother hport =>
        obtain ⟨hsame, hsamePort⟩ := eq_of_append_cons_last hcolon hport.no_colon haddress
        rw [hsame, hsamePort]
        exact ⟨hne, hport⟩
  · rintro ⟨hne, hport⟩
    refine .plain hne ?_ hport
    rw [List.head?_append_of_ne_nil _ hne] at hhead
    exact hhead

/-! ## §3. The authority of a URL. -/

/-- What stands between `http://` and the path. -/
def urlAuthority (url : Str) : Str := (url.drop "http://".toList.length).takeWhile (· != '/')

/-- A host stands in front of the port or between the brackets, and the port, if
there is one, is a number that fits. -/
def hasHostAndPort (authority : Str) : Bool :=
  if authority.head? = some '[' then
    match splitOnce ']' authority with
    | none => false
    | some (before, after) =>
        before != "[".toList && (after.isEmpty || decide (PortText (after.drop 1)))
  else
    match rsplitOnce ':' authority with
    | none => true
    | some (host, port) => !host.isEmpty && decide (PortText port)

/-- The authority gives a port: a colon stands behind the brackets, or anywhere in an
authority without them. -/
def givesPort (authority : Str) : Bool :=
  if authority.head? = some '[' then
    match splitOnce ']' authority with
    | none => false
    | some (_, after) => !after.isEmpty
  else authority.contains ':'

/-- The address is the authority, with port `80` when none is given. -/
theorem connectAddressOf_eq {authority address : Str}
    (h : Upstream.connectAddressOf authority = .ok address) :
    address = if givesPort authority then authority else authority ++ ":80".toList := by
  unfold Upstream.connectAddressOf at h
  unfold givesPort
  by_cases hbracket : authority.head? = some '['
  · rw [if_pos hbracket] at h ⊢
    cases hsplit : splitOnce ']' authority with
    | none =>
        rw [hsplit] at h
        cases h
    | some parts =>
      obtain ⟨before, after⟩ := parts
      rw [hsplit] at h
      dsimp only at h ⊢
      split_ifs at h with hempty hafter
      · injection h with h
        rw [if_neg (by rw [Bool.not_eq_true', hempty]; decide), ← h]
      · injection h with h
        rw [Bool.not_eq_true] at hempty
        rw [if_pos (by rw [Bool.not_eq_true', hempty]), ← h]
  · rw [if_neg hbracket] at h ⊢
    split_ifs at h ⊢ with hcolon
    · injection h with h
      exact h.symm
    · injection h with h
      exact h.symm

theorem hostPort_connectAddressOf_iff {authority address : Str} (hne : authority ≠ [])
    (h : Upstream.connectAddressOf authority = .ok address) :
    HostPort address ↔ hasHostAndPort authority = true := by
  unfold Upstream.connectAddressOf at h
  unfold hasHostAndPort
  by_cases hbracket : authority.head? = some '['
  · rw [if_pos hbracket] at h ⊢
    cases hsplit : splitOnce ']' authority with
    | none =>
        rw [hsplit] at h
        cases h
    | some parts =>
      obtain ⟨before, after⟩ := parts
      rw [hsplit] at h
      dsimp only at h ⊢
      have heq := eq_of_splitOnce hsplit
      have hclosing := splitOnce_notMem hsplit
      -- the text before the closing bracket starts with the opening one
      obtain ⟨inner, rfl⟩ : ∃ inner, before = '[' :: inner := by
        cases before with
        | nil =>
            rw [heq] at hbracket
            injection hbracket with hbracket
            exact absurd hbracket (by decide)
        | cons c inner =>
            rw [heq] at hbracket
            injection hbracket with hbracket
            exact ⟨inner, by rw [hbracket]⟩
      have hinner : ']' ∉ inner := fun hmem => hclosing (List.mem_cons_of_mem _ hmem)
      have hempty : ('[' :: inner != "[".toList) = true ↔ inner ≠ [] := by
        rw [bne_iff_ne]
        show '[' :: inner ≠ ['['] ↔ _
        simp
      rw [Bool.and_eq_true, hempty, Bool.or_eq_true, decide_eq_true_eq]
      split_ifs at h with hnone hcolon
      · injection h with h
        rw [List.isEmpty_iff] at hnone
        have haddress : address = '[' :: inner ++ ']' :: ":80".toList := by
          rw [← h, heq, hnone]
          simp
        rw [haddress, hostPort_bracketed_iff hinner, hnone]
        constructor
        · rintro ⟨hhost, -⟩
          exact ⟨hhost, .inl rfl⟩
        · rintro ⟨hhost, -⟩
          exact ⟨hhost, "80".toList, rfl, portText_eighty⟩
      · injection h with h
        obtain ⟨port, rfl⟩ : ∃ port, after = ':' :: port := by
          cases after with
          | nil => cases hcolon
          | cons c port =>
              injection hcolon with hcolon
              exact ⟨port, by rw [hcolon]⟩
        rw [← h, heq, hostPort_bracketed_iff hinner]
        constructor
        · rintro ⟨hhost, port', hport', hok⟩
          injection hport' with _ hport'
          rw [← hport'] at hok
          exact ⟨hhost, .inr hok⟩
        · rintro ⟨hhost, hport⟩
          exact ⟨hhost, port, rfl, hport.resolve_left (by simp)⟩
  · rw [if_neg hbracket] at h ⊢
    cases hsplit : rsplitOnce ':' authority with
    | none =>
        have hcolon := rsplitOnce_none hsplit
        rw [if_neg (by simpa using hcolon)] at h
        injection h with h
        rw [← h]
        constructor
        · intro _
          rfl
        · intro _
          exact .plain hne hbracket portText_eighty
    | some parts =>
        obtain ⟨host, port⟩ := parts
        obtain ⟨heq, hlast⟩ := eq_of_rsplitOnce hsplit
        have hcolon : ':' ∈ authority := by
          rw [heq]
          simp
        rw [if_pos (by simpa using hcolon)] at h
        injection h with h
        rw [heq] at hbracket
        dsimp only
        rw [← h, heq, hostPort_plain_iff hbracket hlast, Bool.and_eq_true, decide_eq_true_eq,
          Bool.not_eq_true', List.isEmpty_eq_false_iff]

/-! ## §4. Accepted URLs. -/

/-- What is accepted of a URL. -/
theorem parse_parts {url : Str} {u : Upstream} (h : Upstream.parse url = .ok u) :
    u.authority = urlAuthority url ∧ u.authority ≠ []
      ∧ url = "http://".toList ++ u.authority ++ u.basePath
      ∧ Upstream.connectAddressOf u.authority = .ok u.connectAddress := by
  unfold Upstream.parse at h
  split at h
  · cases h
  next remainder hremainder =>
    unfold stripPrefix at hremainder
    split_ifs at hremainder with hscheme
    injection hremainder with hremainder
    have hurl : url = "http://".toList ++ remainder := by
      obtain ⟨rest, hrest⟩ := List.isPrefixOf_iff_prefix.mp hscheme
      rw [← hremainder, ← hrest, List.drop_left]
    have hauthority : urlAuthority url = remainder.takeWhile (· != '/') := by
      unfold urlAuthority
      rw [hremainder]
    split at h
    next authority basePath heq =>
      have hparts : authority = remainder.takeWhile (· != '/')
          ∧ remainder = authority ++ basePath := by
        split at heq
        next hsplit =>
          injection heq with hauth hbase
          have hslash := splitOnce_none hsplit
          refine ⟨?_, ?_⟩
          · rw [← hauth]
            symm
            rw [List.takeWhile_eq_self_iff]
            intro c hc
            rw [bne_iff_ne]
            intro hsame
            exact hslash (hsame ▸ hc)
          · rw [← hauth, ← hbase, List.append_nil]
        next before after hsplit =>
          injection heq with hauth hbase
          refine ⟨?_, ?_⟩
          · rw [← hauth]
            unfold splitOnce at hsplit
            split_ifs at hsplit
            injection hsplit with hsplit
            injection hsplit with hbefore _
            exact hbefore.symm
          · rw [← hauth, ← hbase]
            exact eq_of_splitOnce hsplit
      obtain ⟨htake, hjoin⟩ := hparts
      split at h
      · cases h
      next hne =>
        split at h
        · cases h
        cases haddress : Upstream.connectAddressOf authority with
        | error error =>
            rw [haddress] at h
            cases h
        | ok address =>
            rw [haddress] at h
            injection h with h
            rw [← h]
            refine ⟨htake.trans hauthority.symm, ?_, ?_, haddress⟩
            · simpa using hne
            · show url = "http://".toList ++ authority ++ basePath
              rw [List.append_assoc, ← hjoin, hurl]

/-- An address to connect to, the authority and base path a URL is made of. -/
structure WellFormed (url : Str) (u : Upstream) : Prop where
  address : HostPort u.connectAddress
  port : u.connectAddress
    = if givesPort (urlAuthority url) then u.authority else u.authority ++ ":80".toList
  parts : "http://".toList ++ u.authority ++ u.basePath = url

/-- **When an accepted URL has an address to connect to**: when a host stands in front
of the port or between the brackets, and the port, if one is given, is a number that
fits. -/
theorem accepted_url_well_formed_iff {url : Str} {u : Upstream} (h : Upstream.parse url = .ok u) :
    WellFormed url u ↔ hasHostAndPort (urlAuthority url) = true := by
  obtain ⟨hauthority, hne, hurl, haddress⟩ := parse_parts h
  have hiff := hostPort_connectAddressOf_iff hne haddress
  rw [hauthority] at hiff
  rw [← hiff]
  constructor
  · intro hall
    exact hall.address
  · intro hgood
    refine ⟨hgood, ?_, hurl.symm⟩
    rw [← hauthority]
    exact connectAddressOf_eq haddress

/-- A bracketed address with a port. -/
theorem accepted_url_well_formed_bracketed :
    WellFormed "http://[::1]:9000/api".toList
      ⟨"[::1]:9000".toList, "[::1]:9000".toList, "/api".toList⟩ :=
  (accepted_url_well_formed_iff (by decide)).mpr (by decide +kernel)

/-- There is no host in front of this port, and no such port. -/
theorem port_without_host_is_accepted :
    ¬ ∀ (url : Str) (u : Upstream), Upstream.parse url = .ok u → WellFormed url u := by
  intro hall
  have haccepted : Upstream.parse "http://:99999".toList
      = .ok ⟨":99999".toList, ":99999".toList, []⟩ := by decide
  have haddress : Upstream.connectAddressOf ":99999".toList = .ok ":99999".toList := by decide
  have hgood := (hostPort_connectAddressOf_iff (by decide) haddress).mp
    (hall _ _ haccepted).address
  revert hgood
  decide +kernel

end Thwip
