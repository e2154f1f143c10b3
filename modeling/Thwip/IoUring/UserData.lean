/-
  Thwip.IoUring.UserData — the `user_data` of every submission
  (`run/slave/src/runtime/io_uring/operation.rs`, and the tests at the head of the
  completion loop in `worker.rs`).

  An operation's word starts with its kind, a number from `1` to `6`; the reserved
  words are `0` and the four largest.  A word that is read as an operation is the
  word of that operation, since the fields it is read from make up all 64 bits.
-/
import Thwip.IoUring.Occupation

namespace Thwip.IoUring

/-! ## §1. Reserved words. -/

def controlUserData : Nat := 0

/-- `u64::MAX` -/
def cancelUserData : Nat := 2 ^ 64 - 1

def dnsUserData : Nat := 2 ^ 64 - 2

def timerUserData : Nat := 2 ^ 64 - 3

def proxyCancelUserData : Nat := 2 ^ 64 - 4

def reservedUserData : List Nat :=
  [controlUserData, cancelUserData, dnsUserData, timerUserData, proxyCancelUserData]

/-! ## §2. Words of operations. -/

/-- The slot is a `u32`, and the generation one that is given out. -/
structure OperationId.Valid (id : OperationId) : Prop where
  slot : id.slot < 2 ^ 32
  generation : id.generation ≠ 0

instance (id : OperationId) : Decidable id.Valid :=
  decidable_of_iff (id.slot < 2 ^ 32 ∧ id.generation ≠ 0)
    ⟨fun h => ⟨h.1, h.2⟩, fun h => ⟨h.slot, h.generation⟩⟩

theorem OperationKind.tag_of_ofTag {tag : Nat} {kind : OperationKind} (h : ofTag tag = some kind) :
    kind.tag = tag := by
  unfold ofTag at h
  split at h
  case h_7 => cases h
  all_goals
    injection h with hkind
    rw [← hkind]
    rfl

theorem OperationKind.tag_range (kind : OperationKind) : 1 ≤ kind.tag ∧ kind.tag ≤ 6 := by
  cases kind <;> decide

/-- The kind is in the top bits, so the word is far from both ends. -/
theorem OperationId.encode_range {id : OperationId} (h : id.slot < 2 ^ 32) :
    2 ^ 48 ≤ id.encode ∧ id.encode < 7 * 2 ^ 48 := by
  have heq := id.encode_eq h
  have htag := id.kind.tag_range
  have hgen : id.generation.toNat < 2 ^ 16 := id.generation.toNat_lt
  rw [heq]
  omega

theorem OperationId.encode_not_reserved {id : OperationId} (h : id.slot < 2 ^ 32) :
    id.encode ∉ reservedUserData := by
  have hrange := encode_range h
  intro hmem
  simp only [reservedUserData, controlUserData, cancelUserData, dnsUserData, timerUserData,
    proxyCancelUserData, List.mem_cons, List.not_mem_nil, or_false] at hmem
  omega

/-- What is read from a word. -/
theorem OperationId.decode_fields {value : Nat} {id : OperationId}
    (h : decode value = some id) :
    id.kind.tag = value / 2 ^ 48 % 2 ^ 16 ∧ id.generation.toNat = value / 2 ^ 32 % 2 ^ 16
      ∧ id.slot = value % 2 ^ 32 ∧ id.generation ≠ 0 := by
  unfold decode at h
  split at h
  · cases h
  next kind hkind =>
    dsimp only at h
    split_ifs at h with hzero
    injection h with h
    have hgeneration : (UInt16.ofNat ((value >>> 32) &&& 0xffff)).toNat
        = value / 2 ^ 32 % 2 ^ 16 := by
      rw [UInt16.toNat_ofNat', show 0xffff = 2 ^ 16 - 1 from rfl,
        Nat.and_two_pow_sub_one_eq_mod, Nat.shiftRight_eq_div_pow, Nat.mod_mod]
    rw [← h]
    refine ⟨?_, hgeneration, rfl, hzero⟩
    show kind.tag = _
    rw [OperationKind.tag_of_ofTag hkind, Nat.shiftRight_eq_div_pow]

/-- **A word that is read as an operation is the word of that operation.** -/
theorem OperationId.encode_decode {value : Nat} (hlt : value < 2 ^ 64) {id : OperationId}
    (h : decode value = some id) : id.encode = value := by
  obtain ⟨htag, hgen, hslot, -⟩ := decode_fields h
  have hslotLt : id.slot < 2 ^ 32 := by
    rw [hslot]
    exact Nat.mod_lt _ (by decide)
  rw [id.encode_eq hslotLt, htag, hgen, hslot]
  omega

theorem OperationId.valid_of_decode {value : Nat} {id : OperationId}
    (h : decode value = some id) : id.Valid := by
  obtain ⟨-, -, hslot, hzero⟩ := decode_fields h
  refine ⟨?_, hzero⟩
  rw [hslot]
  exact Nat.mod_lt _ (by decide)

/-! ## §3. What a completion is taken for. -/

inductive Meaning where
  | control
  | cancel
  | proxyCancel
  | dns
  | timer
  | operation (id : OperationId)
  deriving Repr, DecidableEq

/-- The tests of `run`, in their order; a word that is none of these is ignored. -/
def classify (userData : Nat) : Option Meaning :=
  if userData = controlUserData then some .control
  else if userData = cancelUserData then some .cancel
  else if userData = proxyCancelUserData then some .proxyCancel
  else if userData = dnsUserData then some .dns
  else if userData = timerUserData then some .timer
  else (OperationId.decode userData).map .operation

/-- The word that is submitted for it. -/
def Meaning.userData : Meaning → Nat
  | .control => controlUserData
  | .cancel => cancelUserData
  | .proxyCancel => proxyCancelUserData
  | .dns => dnsUserData
  | .timer => timerUserData
  | .operation id => id.encode

def Meaning.Valid : Meaning → Prop
  | .operation id => id.Valid
  | _ => True

theorem classify_of_not_reserved {userData : Nat} (h : userData ∉ reservedUserData) :
    classify userData = (OperationId.decode userData).map .operation := by
  simp only [reservedUserData, List.mem_cons, List.not_mem_nil, or_false, not_or] at h
  obtain ⟨hcontrol, hcancel, hdns, htimer, hproxy⟩ := h
  unfold classify
  rw [if_neg hcontrol, if_neg hcancel, if_neg hproxy, if_neg hdns, if_neg htimer]

/-- A completion is taken for what was submitted. -/
theorem classify_userData {meaning : Meaning} (h : meaning.Valid) :
    classify meaning.userData = some meaning := by
  cases meaning with
  | operation id =>
      have hid : id.Valid := h
      show classify id.encode = _
      rw [classify_of_not_reserved (OperationId.encode_not_reserved hid.slot),
        id.decode_encode hid.slot hid.generation]
      rfl
  | control => rfl
  | cancel => rfl
  | proxyCancel => rfl
  | dns => rfl
  | timer => rfl

/-- … and nothing else is taken for it. -/
theorem userData_of_classify {userData : Nat} (hlt : userData < 2 ^ 64) {meaning : Meaning}
    (h : classify userData = some meaning) : meaning.Valid ∧ meaning.userData = userData := by
  unfold classify at h
  split_ifs at h with hcontrol hcancel hproxy hdns htimer
  · injection h with h
    rw [← h]
    exact ⟨trivial, hcontrol.symm⟩
  · injection h with h
    rw [← h]
    exact ⟨trivial, hcancel.symm⟩
  · injection h with h
    rw [← h]
    exact ⟨trivial, hproxy.symm⟩
  · injection h with h
    rw [← h]
    exact ⟨trivial, hdns.symm⟩
  · injection h with h
    rw [← h]
    exact ⟨trivial, htimer.symm⟩
  · obtain ⟨id, hdecode, hid⟩ := Option.map_eq_some_iff.mp h
    rw [← hid]
    exact ⟨OperationId.valid_of_decode hdecode, OperationId.encode_decode hlt hdecode⟩

/-- What the completion of a submission is to be taken for. -/
def Entry.meaning : Entry → Meaning
  | .shutdownRead => .control
  | .dnsRead => .dns
  | .timerRead => .timer
  | .cancel _ _ => .cancel
  | .proxyCancel _ _ => .proxyCancel
  | .accept listener generation _ => .operation ⟨listener, generation, .accept⟩
  | .operation id op => .operation ⟨id.slot, id.generation, op.kind⟩

/-- The `user_data` it is submitted with. -/
def Entry.userData (self : Entry) : Nat := self.meaning.userData

/-- **Operations and their words determine each other**, and no operation has a
reserved word.  So the tests of the completion loop take a word for the one thing it
is submitted for, and any other word for nothing. -/
theorem operation_words_round_trip :
    (∀ id : OperationId, id.slot < 2 ^ 32 → id.generation ≠ 0 →
        OperationId.decode id.encode = some id ∧ id.encode < 2 ^ 64
          ∧ id.encode ∉ reservedUserData)
      ∧ (∀ value < 2 ^ 64, ∀ id, OperationId.decode value = some id → id.encode = value)
      ∧ ∀ userData < 2 ^ 64, ∀ meaning, classify userData = some meaning ↔
          meaning.Valid ∧ meaning.userData = userData := by
  refine ⟨?_, ?_, ?_⟩
  · intro id hslot hgen
    have hrange := OperationId.encode_range hslot
    exact ⟨id.decode_encode hslot hgen, by omega, OperationId.encode_not_reserved hslot⟩
  · intro value hlt id h
    exact OperationId.encode_decode hlt h
  · intro userData hlt meaning
    constructor
    · exact userData_of_classify hlt
    · rintro ⟨hvalid, rfl⟩
      exact classify_userData hvalid

/-- The largest slot with the largest generation. -/
theorem operation_words_round_trip_last :
    OperationId.decode (OperationId.encode ⟨4294967295, 65535, .proxyRead⟩)
      = some ⟨4294967295, 65535, .proxyRead⟩ :=
  (operation_words_round_trip.1 ⟨4294967295, 65535, .proxyRead⟩ (by decide) (by decide)).1

end Thwip.IoUring
