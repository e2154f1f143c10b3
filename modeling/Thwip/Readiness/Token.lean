/-
  Thwip.Readiness.Token — identities of slab occupations and the poll tokens they
  are carried in (`run/slave/src/runtime/readiness/token.rs`).

  Everything is parametric in `bits`, the width of `usize`.  A token is, from the
  top, the connection tag, the role tag, the generation and the slot.
-/
import Mathlib.Data.Nat.Bitwise
import Thwip.Lib.Cycle
import Thwip.Runtime.Basic

namespace Thwip.Readiness

open Thwip.Lib

variable {bits : Nat}

/-! ## §1. Tokens. -/

/-- `usize::MAX` -/
def controlToken (bits : Nat) : Nat := 2 ^ bits - 1

def connectionTag (bits : Nat) : Nat := 2 ^ (bits - 1)

def upstreamTag (bits : Nat) : Nat := 2 ^ (bits - 2)

def slotBits (bits : Nat) : Nat := bits / 2

def slotMask (bits : Nat) : Nat := 2 ^ slotBits bits - 1

def generationBits (bits : Nat) : Nat := bits - slotBits bits - 2

def generationMask (bits : Nat) : Nat := 2 ^ generationBits bits - 1

/-- A slab slot and the occupation of it that is meant. -/
structure ConnectionId where
  slot : Nat
  generation : Nat
  deriving Repr, DecidableEq

/-- Which of a connection's two sockets became ready. -/
inductive SocketRole where
  | client
  | upstream
  deriving Repr, DecidableEq

def SocketRole.tag (bits : Nat) : SocketRole → Nat
  | .client => 0
  | .upstream => upstreamTag bits

def ConnectionId.token (bits : Nat) (self : ConnectionId) (role : SocketRole) :
    Except Str Nat :=
  if self.slot > slotMask bits || self.generation = 0
      || self.generation > generationMask bits then
    .error "connection identifier cannot be encoded as a mio token".toList
  else
    let token := connectionTag bits ||| role.tag bits
      ||| (self.generation <<< slotBits bits) ||| self.slot
    if token = controlToken bits then
      .error "connection identifier collides with the control token".toList
    else .ok token

def ConnectionId.fromToken (bits token : Nat) : Option (ConnectionId × SocketRole) :=
  if token = controlToken bits || token &&& connectionTag bits = 0 then none
  else
    let generation := (token >>> slotBits bits) &&& generationMask bits
    let role := if token &&& upstreamTag bits = 0 then .client else .upstream
    if generation = 0 then none
    else some ({ slot := token &&& slotMask bits, generation }, role)

/-- Generation `0` is never used. -/
def nextGeneration (bits previous : Nat) : Nat :=
  let next := ((previous + 1) % 2 ^ bits) &&& generationMask bits
  if next = 0 then 1 else next

/-! ## §2. A minted token names its occupation. -/

theorem slotBits_add (h : 4 ≤ bits) : slotBits bits + generationBits bits = bits - 2 := by
  unfold generationBits slotBits
  omega

/-- The role as the digit it is in a token. -/
def SocketRole.digit : SocketRole → Nat
  | .client => 0
  | .upstream => 1

/-- The fields of a token do not overlap, so it is their sum. -/
theorem token_eq_sum (h : 4 ≤ bits) {slot generation : Nat} (role : SocketRole)
    (hslot : slot < 2 ^ slotBits bits) (hgen : generation < 2 ^ generationBits bits) :
    connectionTag bits ||| role.tag bits ||| (generation <<< slotBits bits) ||| slot
      = 2 ^ slotBits bits * (2 ^ generationBits bits * (2 + role.digit) + generation) + slot := by
  have hsplit : 2 ^ (bits - 2) = 2 ^ slotBits bits * 2 ^ generationBits bits := by
    rw [← Nat.pow_add, slotBits_add h]
  have hpow : 2 ^ (bits - 1) = 2 ^ (bits - 2) * 2 := by
    rw [← Nat.pow_succ]
    congr 1
    omega
  have htags : connectionTag bits ||| role.tag bits = 2 ^ (bits - 2) * (2 + role.digit) := by
    cases role with
    | client =>
        show 2 ^ (bits - 1) ||| 0 = _
        rw [Nat.or_zero, hpow]
        rfl
    | upstream =>
        have hlt : 2 ^ (bits - 2) < 2 ^ (bits - 1) := Nat.pow_lt_pow_right (by omega) (by omega)
        have hor := Nat.two_pow_add_eq_or_of_lt hlt 1
        rw [Nat.mul_one] at hor
        show 2 ^ (bits - 1) ||| 2 ^ (bits - 2) = 2 ^ (bits - 2) * 3
        rw [← hor]
        omega
  have hshift : generation <<< slotBits bits < 2 ^ (bits - 2) := by
    rw [Nat.shiftLeft_eq, hsplit, Nat.mul_comm]
    exact Nat.mul_lt_mul_of_pos_left hgen (Nat.two_pow_pos _)
  rw [htags, ← Nat.two_pow_add_eq_or_of_lt hshift, Nat.shiftLeft_eq, hsplit]
  have hcollect : 2 ^ slotBits bits * 2 ^ generationBits bits * (2 + role.digit)
        + generation * 2 ^ slotBits bits
      = 2 ^ slotBits bits * (2 ^ generationBits bits * (2 + role.digit) + generation) := by
    rw [Nat.mul_add (2 ^ slotBits bits), Nat.mul_assoc, Nat.mul_comm generation]
  rw [hcollect, ← Nat.two_pow_add_eq_or_of_lt hslot]

/-- **A token minted for an occupation names that occupation and that socket.** -/
theorem fromToken_of_token (h : 4 ≤ bits) {id : ConnectionId} {role : SocketRole} {token : Nat}
    (htoken : id.token bits role = .ok token) :
    ConnectionId.fromToken bits token = some (id, role) := by
  unfold ConnectionId.token at htoken
  dsimp only at htoken
  split_ifs at htoken with hrange hcontrol
  injection htoken with htoken
  simp only [Bool.or_eq_true, decide_eq_true_eq, not_or, Nat.not_lt] at hrange
  obtain ⟨⟨hslot, hzero⟩, hgen⟩ := hrange
  have hslot' : id.slot < 2 ^ slotBits bits := by
    have := Nat.two_pow_pos (slotBits bits)
    unfold slotMask at hslot
    omega
  have hgen' : id.generation < 2 ^ generationBits bits := by
    have := Nat.two_pow_pos (generationBits bits)
    unfold generationMask at hgen
    omega
  rw [token_eq_sum h role hslot' hgen'] at htoken hcontrol
  have hlow : token % 2 ^ slotBits bits = id.slot := by
    rw [← htoken, Nat.mul_add_mod, Nat.mod_eq_of_lt hslot']
  have hhigh : token / 2 ^ slotBits bits
      = 2 ^ generationBits bits * (2 + role.digit) + id.generation := by
    rw [← htoken, Nat.mul_add_div (Nat.two_pow_pos _), Nat.div_eq_of_lt hslot', Nat.add_zero]
  have htop : token / 2 ^ (bits - 2) = 2 + role.digit := by
    rw [← slotBits_add h, Nat.pow_add, ← Nat.div_div_eq_div_mul, hhigh,
      Nat.mul_add_div (Nat.two_pow_pos _), Nat.div_eq_of_lt hgen', Nat.add_zero]
  have htag : token &&& connectionTag bits ≠ 0 := by
    unfold connectionTag
    rw [Nat.and_two_pow, Nat.testBit_eq_decide_div_mod_eq]
    have hpow : 2 ^ (bits - 1) = 2 ^ (bits - 2) * 2 := by
      rw [← Nat.pow_succ]
      congr 1
      omega
    have hone : token / 2 ^ (bits - 1) = 1 := by
      rw [hpow, ← Nat.div_div_eq_div_mul, htop]
      cases role <;> rfl
    rw [hone]
    simp
  have hrole : (token &&& upstreamTag bits = 0) ↔ role = .client := by
    unfold upstreamTag
    rw [Nat.and_two_pow, Nat.testBit_eq_decide_div_mod_eq, htop]
    cases role <;> simp [SocketRole.digit]
  unfold ConnectionId.fromToken
  rw [if_neg (by
    simp only [Bool.or_eq_true, decide_eq_true_eq, not_or]
    exact ⟨by rw [← htoken]; exact hcontrol, htag⟩)]
  have hgeneration : (token >>> slotBits bits) &&& generationMask bits = id.generation := by
    unfold generationMask
    rw [Nat.shiftRight_eq_div_pow, hhigh, Nat.and_two_pow_sub_one_eq_mod, Nat.mul_add_mod,
      Nat.mod_eq_of_lt hgen']
  have hslotField : token &&& slotMask bits = id.slot := by
    unfold slotMask
    rw [Nat.and_two_pow_sub_one_eq_mod, hlow]
  dsimp only
  rw [hgeneration, hslotField, if_neg hzero]
  cases role with
  | client => rw [if_pos (hrole.mpr rfl)]
  | upstream => rw [if_neg (fun heq => by cases hrole.mp heq)]

/-! ## §3. Generations run through all values but `0`. -/

theorem generationMask_pos (h : 6 ≤ bits) : 0 < generationMask bits := by
  have hbits : 1 ≤ generationBits bits := by
    unfold generationBits slotBits
    omega
  have hpow : 2 ^ 1 ≤ 2 ^ generationBits bits := Nat.pow_le_pow_right (by omega) hbits
  unfold generationMask
  omega

theorem nextGeneration_eq (h : 6 ≤ bits) {previous : Nat} (hle : previous ≤ generationMask bits) :
    nextGeneration bits previous = cycleNext (generationMask bits) previous := by
  have hlt : generationBits bits < bits := by
    unfold generationBits slotBits
    omega
  have hpow : 2 ^ generationBits bits < 2 ^ bits := Nat.pow_lt_pow_right (by omega) hlt
  have hpos := generationMask_pos h
  unfold nextGeneration cycleNext
  unfold generationMask at hle hpos ⊢
  dsimp only
  rw [Nat.mod_eq_of_lt (show previous + 1 < 2 ^ bits by omega), Nat.and_two_pow_sub_one_eq_mod]
  split_ifs with hzero hless hless
  · rw [Nat.mod_eq_of_lt (by omega)] at hzero
    omega
  · rfl
  · rw [Nat.mod_eq_of_lt (by omega)]
  · have hlast : previous + 1 = 2 ^ generationBits bits := by omega
    rw [hlast, Nat.mod_self] at hzero
    exact absurd rfl hzero

end Thwip.Readiness
