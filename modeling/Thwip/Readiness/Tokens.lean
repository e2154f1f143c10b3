/-
  Thwip.Readiness.Tokens — tokens and ids determine each other.

  The four fields of a token fill all bits of a `usize`, so a token is the sum of
  its fields and is read back from them.  The pattern of all ones is the control
  token: `token` refuses the one id that would be written so, which is an
  upstream's, and `from_token` does not read it.  Every connection token has the top
  bit, which no index of a listener has.
-/
import Mathlib.Tactic.Ring
import Thwip.Readiness.Occupation

namespace Thwip.Readiness

open Thwip.Lib

variable {bits : Nat}

/-! ## §1. The fields of a token. -/

/-- The top bit of a word. -/
theorem and_connectionTag (h : 4 ≤ bits) {token : Nat} (hlt : token < 2 ^ bits) :
    token &&& connectionTag bits ≠ 0 ↔ 2 ^ (bits - 1) ≤ token := by
  have hpow : 2 ^ bits = 2 ^ (bits - 1) * 2 := by
    rw [← Nat.pow_succ]
    congr 1
    omega
  have hpos : 0 < 2 ^ (bits - 1) := Nat.two_pow_pos _
  unfold connectionTag
  rw [Nat.and_two_pow, Nat.testBit_eq_decide_div_mod_eq]
  have hdiv : token / 2 ^ (bits - 1) < 2 := by
    rw [Nat.div_lt_iff_lt_mul hpos]
    omega
  by_cases htop : 2 ^ (bits - 1) ≤ token
  · have hone : token / 2 ^ (bits - 1) = 1 := by
      have hge : 1 ≤ token / 2 ^ (bits - 1) := by
        rw [Nat.le_div_iff_mul_le hpos]
        omega
      omega
    rw [hone]
    simp [htop]
  · have hzero : token / 2 ^ (bits - 1) = 0 := Nat.div_eq_of_lt (by omega)
    rw [hzero]
    simp [htop]

/-- The two tags of a token, as a number. -/
theorem tags_of_top (h : 4 ≤ bits) {token : Nat} (hlt : token < 2 ^ bits)
    (htop : 2 ^ (bits - 1) ≤ token) {role : SocketRole}
    (hrole : role = if token &&& upstreamTag bits = 0 then .client else .upstream) :
    token / 2 ^ (bits - 2) = 2 + role.digit := by
  have hpos : 0 < 2 ^ (bits - 2) := Nat.two_pow_pos _
  have hhalf : 2 ^ (bits - 1) = 2 ^ (bits - 2) * 2 := by
    rw [← Nat.pow_succ]
    congr 1
    omega
  have hall : 2 ^ bits = 2 ^ (bits - 2) * 4 := by
    rw [show bits = bits - 2 + 2 by omega, Nat.pow_add]
    simp
  have hlow : 2 ≤ token / 2 ^ (bits - 2) := by
    rw [Nat.le_div_iff_mul_le hpos]
    omega
  have hhigh : token / 2 ^ (bits - 2) < 4 := by
    rw [Nat.div_lt_iff_lt_mul hpos]
    omega
  have hbit : token &&& upstreamTag bits = 0 ↔ token / 2 ^ (bits - 2) % 2 ≠ 1 := by
    unfold upstreamTag
    rw [Nat.and_two_pow, Nat.testBit_eq_decide_div_mod_eq]
    by_cases hodd : token / 2 ^ (bits - 2) % 2 = 1
    · simp [hodd]
    · simp [hodd]
  rw [hrole]
  split_ifs with hclient
  · have heven := hbit.mp hclient
    show _ = 2
    omega
  · have hodd : ¬ token / 2 ^ (bits - 2) % 2 ≠ 1 := fun hne => hclient (hbit.mpr hne)
    show _ = 3
    omega

/-- A word is the sum of its tags, its generation and its slot. -/
theorem token_of_fields (h : 4 ≤ bits) (token : Nat) :
    2 ^ slotBits bits * (2 ^ generationBits bits * (token / 2 ^ (bits - 2))
        + token / 2 ^ slotBits bits % 2 ^ generationBits bits) + token % 2 ^ slotBits bits
      = token := by
  have hsplit : token / 2 ^ (bits - 2) = token / 2 ^ slotBits bits / 2 ^ generationBits bits := by
    rw [Nat.div_div_eq_div_mul, ← Nat.pow_add, slotBits_add h]
  rw [hsplit, Nat.div_add_mod, Nat.div_add_mod]

/-- What is read from a token. -/
theorem fromToken_fields {token : Nat} {id : ConnectionId} {role : SocketRole}
    (hread : ConnectionId.fromToken bits token = some (id, role)) :
    token ≠ controlToken bits ∧ token &&& connectionTag bits ≠ 0
      ∧ (role = if token &&& upstreamTag bits = 0 then .client else .upstream)
      ∧ id.slot = token &&& slotMask bits
      ∧ id.generation = (token >>> slotBits bits) &&& generationMask bits
      ∧ id.generation ≠ 0 := by
  unfold ConnectionId.fromToken at hread
  split at hread
  · cases hread
  next hskip =>
    dsimp only at hread
    split at hread
    · cases hread
    next hgeneration =>
      injection hread with hread
      injection hread with hid hrole
      simp only [Bool.or_eq_true, decide_eq_true_eq, not_or] at hskip
      rw [← hid]
      exact ⟨hskip.1, hskip.2, hrole.symm, rfl, rfl, hgeneration⟩

/-- **A token that is read names the id it is the token of.** -/
theorem token_of_fromToken (h : 4 ≤ bits) {token : Nat} (hlt : token < 2 ^ bits)
    {id : ConnectionId} {role : SocketRole}
    (hread : ConnectionId.fromToken bits token = some (id, role)) :
    id.token bits role = .ok token := by
  obtain ⟨hcontrol, htag, hrole, hslot, hgen, hgenNe⟩ := fromToken_fields hread
  have htop : 2 ^ (bits - 1) ≤ token := (and_connectionTag h hlt).mp htag
  have htags := tags_of_top h hlt htop hrole
  unfold slotMask at hslot
  unfold generationMask at hgen
  rw [Nat.and_two_pow_sub_one_eq_mod] at hslot
  rw [Nat.and_two_pow_sub_one_eq_mod, Nat.shiftRight_eq_div_pow] at hgen
  have hslotLt : id.slot < 2 ^ slotBits bits := by
    rw [hslot]
    exact Nat.mod_lt _ (Nat.two_pow_pos _)
  have hgenLt : id.generation < 2 ^ generationBits bits := by
    rw [hgen]
    exact Nat.mod_lt _ (Nat.two_pow_pos _)
  have hsum : connectionTag bits ||| role.tag bits ||| (id.generation <<< slotBits bits)
      ||| id.slot = token := by
    rw [token_eq_sum h role hslotLt hgenLt, ← htags, hslot, hgen, token_of_fields h]
  unfold ConnectionId.token
  rw [if_neg, hsum]
  · dsimp only
    rw [if_neg hcontrol]
  · simp only [Bool.or_eq_true, decide_eq_true_eq, not_or, Nat.not_lt]
    refine ⟨⟨?_, hgenNe⟩, ?_⟩
    · show id.slot ≤ 2 ^ slotBits bits - 1
      omega
    · show id.generation ≤ 2 ^ generationBits bits - 1
      omega

/-! ## §2. Connection tokens and the other tokens. -/

/-- Connection tokens are in the upper half of the words, below the control
token. -/
theorem token_range (h : 4 ≤ bits) {id : ConnectionId} {role : SocketRole} {token : Nat}
    (htoken : id.token bits role = .ok token) :
    token ≠ controlToken bits ∧ 2 ^ (bits - 1) ≤ token ∧ token < 2 ^ bits := by
  unfold ConnectionId.token at htoken
  dsimp only at htoken
  split_ifs at htoken with hrange hcontrol
  injection htoken with htoken
  simp only [Bool.or_eq_true, decide_eq_true_eq, not_or, Nat.not_lt] at hrange
  obtain ⟨⟨hslot, -⟩, hgen⟩ := hrange
  have hslotPos := Nat.two_pow_pos (slotBits bits)
  have hgenPos := Nat.two_pow_pos (generationBits bits)
  have hslotLt : id.slot < 2 ^ slotBits bits := by
    unfold slotMask at hslot
    omega
  have hgenLt : id.generation < 2 ^ generationBits bits := by
    unfold generationMask at hgen
    omega
  have hsum := token_eq_sum h role hslotLt hgenLt
  have hall : 2 ^ bits = 2 ^ slotBits bits * (2 ^ generationBits bits * 4) := by
    have hexp : bits = slotBits bits + (generationBits bits + 2) := by
      have := slotBits_add h
      omega
    calc 2 ^ bits = 2 ^ (slotBits bits + (generationBits bits + 2)) := by rw [← hexp]
      _ = 2 ^ slotBits bits * (2 ^ generationBits bits * 4) := by
        rw [Nat.pow_add, Nat.pow_add]
  have hhalf : 2 ^ (bits - 1) = 2 ^ slotBits bits * (2 ^ generationBits bits * 2) := by
    have hexp : bits - 1 = slotBits bits + (generationBits bits + 1) := by
      have := slotBits_add h
      omega
    calc 2 ^ (bits - 1) = 2 ^ (slotBits bits + (generationBits bits + 1)) := by rw [← hexp]
      _ = 2 ^ slotBits bits * (2 ^ generationBits bits * 2) := by
        rw [Nat.pow_add, Nat.pow_add]
  refine ⟨by rw [← htoken]; exact hcontrol, ?_, ?_⟩
  · rw [← htoken, hsum, hhalf]
    have hle : 2 ^ generationBits bits * 2
        ≤ 2 ^ generationBits bits * (2 + role.digit) + id.generation :=
      Nat.le_add_right_of_le (Nat.mul_le_mul_left _ (Nat.le_add_right 2 _))
    exact Nat.le_add_right_of_le (Nat.mul_le_mul_left _ hle)
  · rw [← htoken, hsum, hall]
    have hdigit : 2 ^ generationBits bits * (2 + role.digit) + id.generation
        < 2 ^ generationBits bits * 4 := by
      have hle : 2 ^ generationBits bits * (2 + role.digit) ≤ 2 ^ generationBits bits * 3 := by
        apply Nat.mul_le_mul_left
        cases role <;> decide
      omega
    have hsucc : 2 ^ slotBits bits * (2 ^ generationBits bits * (2 + role.digit)
        + id.generation + 1) ≤ 2 ^ slotBits bits * (2 ^ generationBits bits * 4) :=
      Nat.mul_le_mul_left _ hdigit
    rw [Nat.mul_succ] at hsucc
    omega

/-! ## §3. The ids that are given out. -/

theorem nextGeneration_range (h : 6 ≤ bits) (previous : Nat) :
    0 < nextGeneration bits previous ∧ nextGeneration bits previous ≤ generationMask bits := by
  have hpos := generationMask_pos h
  unfold nextGeneration
  dsimp only
  split_ifs with hzero
  · exact ⟨Nat.one_pos, hpos⟩
  · refine ⟨Nat.pos_of_ne_zero hzero, ?_⟩
    have hgen := Nat.two_pow_pos (generationBits bits)
    unfold generationMask
    rw [Nat.and_two_pow_sub_one_eq_mod]
    have := Nat.mod_lt ((previous + 1) % 2 ^ bits) hgen
    omega

/-- A client's token is not the control token: it has no upstream bit. -/
theorem client_token_ok (h : 6 ≤ bits) {slot : Nat} (hslot : slot ≤ slotMask bits)
    (previous : Nat) :
    ∃ token, ConnectionId.token bits ⟨slot, nextGeneration bits previous⟩ .client
      = .ok token := by
  obtain ⟨hpos, hle⟩ := nextGeneration_range h previous
  generalize nextGeneration bits previous = generation at hpos hle
  have hslotPos := Nat.two_pow_pos (slotBits bits)
  have hgenPos := Nat.two_pow_pos (generationBits bits)
  have hslotLt : slot < 2 ^ slotBits bits := by
    unfold slotMask at hslot
    omega
  have hgenLt : generation < 2 ^ generationBits bits := by
    unfold generationMask at hle
    omega
  have hsum := token_eq_sum (show 4 ≤ bits by omega) .client hslotLt hgenLt
  unfold ConnectionId.token
  rw [if_neg]
  · dsimp only
    refine ⟨_, if_neg ?_⟩
    rw [hsum]
    -- three quarters of the words are below the control token
    have hthree : 2 ^ generationBits bits * (2 + SocketRole.client.digit) + generation
        < 2 ^ generationBits bits * 3 := by
      show 2 ^ generationBits bits * 2 + generation < _
      omega
    have hsucc : 2 ^ slotBits bits * (2 ^ generationBits bits * (2 + SocketRole.client.digit)
        + generation + 1) ≤ 2 ^ slotBits bits * (2 ^ generationBits bits * 3) :=
      Nat.mul_le_mul_left _ hthree
    rw [Nat.mul_succ] at hsucc
    have hquarter : 2 ^ bits = 2 ^ slotBits bits * (2 ^ generationBits bits * 3)
        + 2 ^ (bits - 2) := by
      have hexp : bits = slotBits bits + (generationBits bits + 2) := by
        have := slotBits_add (show 4 ≤ bits by omega)
        omega
      have htwo : bits - 2 = slotBits bits + generationBits bits :=
        (slotBits_add (show 4 ≤ bits by omega)).symm
      calc 2 ^ bits = 2 ^ (slotBits bits + (generationBits bits + 2)) := by rw [← hexp]
        _ = 2 ^ slotBits bits * (2 ^ generationBits bits * 3)
            + 2 ^ (slotBits bits + generationBits bits) := by
          rw [Nat.pow_add, Nat.pow_add, Nat.pow_add]
          ring
        _ = _ := by rw [← htwo]
    have hpart := Nat.two_pow_pos (bits - 2)
    have hbig : 2 ≤ 2 ^ (bits - 2) := by
      calc 2 = 2 ^ 1 := rfl
        _ ≤ 2 ^ (bits - 2) := Nat.pow_le_pow_right (by omega) (by omega)
    unfold controlToken
    omega
  · simp only [Bool.or_eq_true, decide_eq_true_eq, not_or, Nat.not_lt]
    exact ⟨⟨hslot, by omega⟩, hle⟩

variable {σ : Type} {cfg : Config σ}

/-- The next id of a slot that a token has room for has a client token. -/
theorem bumped_token {generations : List Nat} {id : ConnectionId}
    (hslot : id.slot ≤ slotMask usizeBits)
    (hgeneration : id.generation = (bumpGeneration generations id.slot).1) :
    ∃ token, id.token usizeBits .client = .ok token := by
  rw [bumpGeneration_fst] at hgeneration
  have hclient : ∃ token, ConnectionId.token usizeBits
      ⟨id.slot, nextGeneration usizeBits (generations.getD id.slot 0)⟩ .client = .ok token :=
    client_token_ok (by decide) hslot _
  rw [← hgeneration] at hclient
  exact hclient

/-- A registration writes down one id, if any, and that id has a client token. -/
theorem registerConnection_encodable (now : Instant) (vacantKey : Nat) (registrationFails : Bool)
    (index : Nat) (listener : RegisteredListener) (w : ReadinessWorker σ) :
    (registerConnection cfg now vacantKey registrationFails index listener w).history = w.history
      ∨ ∃ id token,
        (registerConnection cfg now vacantKey registrationFails index listener w).history
            = w.history ++ [.registered id]
          ∧ id.token usizeBits .client = .ok token := by
  by_cases hslot : w.connections.vacantKey vacantKey > slotMask usizeBits
  · refine .inl ?_
    unfold registerConnection
    rw [if_pos hslot]
  rcases registerConnection_cases now vacantKey registrationFails index listener w rfl with
    hsame | ⟨id, hid, hgeneration, hnew⟩
  · rw [hsame]
    exact .inl rfl
  · obtain ⟨token, htoken⟩ := bumped_token (by omega) hgeneration
    refine .inr ⟨id, token, ?_, htoken⟩
    rcases hnew with hnew | ⟨connection, interest, -, -, hnew⟩
    · rw [hnew]
    · rw [hnew]

/-! ## §4. Round trips. -/

/-- **Tokens and ids determine each other**, on both widths: what `token` makes
`from_token` reads back, and what `from_token` reads is what `token` makes.  No
connection has the control token or a number small enough for a listener, so the
tests of `dispatch` tell them apart, and a client id that is given out can always be
written as a token. -/
theorem tokens_round_trip (hbits : bits = 32 ∨ bits = 64) :
    (∀ (id : ConnectionId) (role : SocketRole) (token : Nat), id.token bits role = .ok token →
        ConnectionId.fromToken bits token = some (id, role)
          ∧ token ≠ controlToken bits ∧ 2 ^ (bits - 1) ≤ token ∧ token < 2 ^ bits
          ∧ ∀ listeners : List RegisteredListener, listeners.length ≤ 2 ^ (bits - 1) →
              listeners[token]? = none)
      ∧ (∀ token < 2 ^ bits, ∀ (id : ConnectionId) (role : SocketRole),
          ConnectionId.fromToken bits token = some (id, role) → id.token bits role = .ok token)
      ∧ (∀ slot ≤ slotMask bits, ∀ previous, ∃ token,
          ConnectionId.token bits ⟨slot, nextGeneration bits previous⟩ .client = .ok token)
      ∧ ∀ (σ : Type) (cfg : Config σ) (now : Instant) (vacantKey : Nat)
          (registrationFails : Bool) (index : Nat) (listener : RegisteredListener)
          (w : ReadinessWorker σ),
          (registerConnection cfg now vacantKey registrationFails index listener w).history
              = w.history
            ∨ ∃ id token,
              (registerConnection cfg now vacantKey registrationFails index listener w).history
                  = w.history ++ [.registered id]
                ∧ id.token usizeBits .client = .ok token := by
  have hwide : 6 ≤ bits := by omega
  have hfour : 4 ≤ bits := by omega
  refine ⟨?_, ?_, ?_, ?_⟩
  · intro id role token htoken
    obtain ⟨hcontrol, hlow, hhigh⟩ := token_range hfour htoken
    refine ⟨fromToken_of_token hfour htoken, hcontrol, hlow, hhigh, ?_⟩
    intro listeners hcount
    exact List.getElem?_eq_none (Nat.le_trans hcount hlow)
  · intro token hlt id role hread
    exact token_of_fromToken hfour hlt hread
  · intro slot hslot previous
    exact client_token_ok hwide hslot previous
  · intro σ cfg now vacantKey registrationFails index listener w
    exact registerConnection_encodable now vacantKey registrationFails index listener w

/-- The upstream token of slot `5` in its third occupation, on a 64-bit machine. -/
theorem tokens_round_trip_upstream :
    ConnectionId.token 64 ⟨5, 3⟩ .upstream = .ok 13835058068167065605
      ∧ ConnectionId.fromToken 64 13835058068167065605 = some (⟨5, 3⟩, .upstream) := by
  have htoken : ConnectionId.token 64 ⟨5, 3⟩ .upstream = .ok 13835058068167065605 := by
    decide
  exact ⟨htoken, ((tokens_round_trip (.inr rfl)).1 _ _ _ htoken).1⟩

end Thwip.Readiness
