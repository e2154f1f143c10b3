/-
  Thwip.IoUring.Operation — what the worker hands to the kernel
  (`run/slave/src/runtime/io_uring/operation.rs`, `buffer_ring.rs`).

  An `Entry` is one submission: the identity its `user_data` carries together
  with what the kernel was given.  A client send keeps the buffer and the offset
  its pointer was taken from, and how often that buffer had been cleared by
  then, so that a later state can be compared with what the kernel still reads.
-/
import Thwip.Runtime.Basic

namespace Thwip.IoUring

open Thwip.Lib

/-! ## §1. Identities. -/

abbrev Socket := Nat

/-- A resolved address, by its text. -/
abbrev SocketAddr := Str

inductive OperationKind where
  | accept
  | read
  | write
  | proxyConnect
  | proxyWrite
  | proxyRead
  deriving Repr, DecidableEq

/-- A slab slot and the occupation of it that is meant. -/
structure ConnectionId where
  /-- A `u32`. -/
  slot : Nat
  generation : UInt16
  deriving Repr, DecidableEq

/-- Generation `0` is never used. -/
def nextGeneration (previous : UInt16) : UInt16 :=
  let next := previous + 1
  if next = 0 then 1 else next

/-! ## §2. Submissions. -/

/-- An operation submitted for a connection. -/
inductive ConnectionOp where
  /-- Client `Recv` into a provided buffer. -/
  | recv (length : Nat)
  /-- Client `Send` of `buffer[offset..]`; `clears` counts how often the buffer
  had been cleared when the pointer was taken. -/
  | send (buffer : List UInt8) (offset : Nat) (clears : Nat)
  /-- Upstream `Connect`. -/
  | connect (address : SocketAddr)
  /-- Upstream `Send` of these bytes. -/
  | proxySend (bytes : List UInt8)
  /-- Upstream `Recv` into a provided buffer. -/
  | proxyRecv (length : Nat)
  deriving Repr, DecidableEq

def ConnectionOp.kind : ConnectionOp → OperationKind
  | .recv _ => .read
  | .send .. => .write
  | .connect _ => .proxyConnect
  | .proxySend _ => .proxyWrite
  | .proxyRecv _ => .proxyRead

/-- The operations on the upstream socket. -/
def OperationKind.isUpstream : OperationKind → Bool
  | .proxyConnect | .proxyWrite | .proxyRead => true
  | _ => false

def ConnectionOp.isRecv : ConnectionOp → Bool
  | .recv _ => true
  | _ => false

def ConnectionOp.isSend : ConnectionOp → Bool
  | .send .. => true
  | _ => false

def ConnectionOp.isUpstream (op : ConnectionOp) : Bool := op.kind.isUpstream

/-- One submission. -/
inductive Entry where
  /-- `CONTROL_USER_DATA` -/
  | shutdownRead
  /-- `DNS_USER_DATA` -/
  | dnsRead
  /-- `TIMER_USER_DATA` -/
  | timerRead
  /-- `CANCEL_USER_DATA`, aimed at a listener's accept. -/
  | cancel (listener : Nat) (generation : UInt16)
  /-- `PROXY_CANCEL_USER_DATA`, aimed at an upstream operation. -/
  | proxyCancel (id : ConnectionId) (kind : OperationKind)
  | accept (listener : Nat) (generation : UInt16) (multishot : Bool)
  | operation (id : ConnectionId) (op : ConnectionOp)
  deriving Repr, DecidableEq

/-- The operations of one connection among the submissions in flight. -/
def opsOf (id : ConnectionId) (inFlight : List Entry) : List ConnectionOp :=
  inFlight.filterMap (fun entry =>
    match entry with
    | .operation owner op => if owner = id then some op else none
    | _ => none)

@[simp] theorem opsOf_append (id : ConnectionId) (xs ys : List Entry) :
    opsOf id (xs ++ ys) = opsOf id xs ++ opsOf id ys :=
  List.filterMap_append

/-- What a connection pushes is its own. -/
@[simp] theorem opsOf_map_operation_self (id : ConnectionId) (ops : List ConnectionOp) :
    opsOf id (ops.map (Entry.operation id)) = ops := by
  unfold opsOf
  rw [List.filterMap_map]
  simp

/-- … and nobody else's. -/
theorem opsOf_map_operation_ne {id owner : ConnectionId} (h : owner ≠ id)
    (ops : List ConnectionOp) : opsOf id (ops.map (Entry.operation owner)) = [] := by
  unfold opsOf
  rw [List.filterMap_map]
  simp [h]

theorem opsOf_map_proxyCancel (id owner : ConnectionId) (kinds : List OperationKind) :
    opsOf id (kinds.map (Entry.proxyCancel owner)) = [] := by
  unfold opsOf
  rw [List.filterMap_map]
  simp

theorem opsOf_cons_operation (id owner : ConnectionId) (op : ConnectionOp)
    (xs : List Entry) :
    opsOf id (.operation owner op :: xs)
      = if owner = id then op :: opsOf id xs else opsOf id xs := by
  by_cases h : owner = id <;> simp [opsOf, h]

theorem mem_opsOf {id : ConnectionId} {op : ConnectionOp} {xs : List Entry} :
    op ∈ opsOf id xs ↔ Entry.operation id op ∈ xs := by
  unfold opsOf
  rw [List.mem_filterMap]
  constructor
  · rintro ⟨entry, hmem, hop⟩
    cases entry with
    | operation owner op' =>
        by_cases h : owner = id
        · simp only [if_pos h, Option.some.injEq] at hop
          rw [← h, ← hop]
          exact hmem
        · simp [h] at hop
    | _ => simp at hop
  · intro hmem
    exact ⟨_, hmem, by simp⟩

/-! ## §3. The provided receive buffers. -/

/-- The descriptor ring shared with the kernel: the buffer id published at each
index, and the free-running tail. -/
structure ProvidedBufferRing where
  entries : List Nat
  /-- `buffers.len()` -/
  count : Nat
  mask : UInt16
  tail : UInt16
  bufferLen : Nat
  deriving Repr, DecidableEq

/-- `publish`: write the descriptor at `tail & mask` and move the tail. -/
def ProvidedBufferRing.publish (self : ProvidedBufferRing) (id : Nat) : ProvidedBufferRing :=
  { self with
    entries := self.entries.set (self.tail &&& self.mask).toNat id
    tail := self.tail + 1 }

/-- `is_power_of_two` -/
def isPowerOfTwo (n : Nat) : Bool := n ≠ 0 && n &&& (n - 1) == 0

/-- Every buffer is published once when the ring is registered. -/
def ProvidedBufferRing.register (entryCount bufferSize : Nat) :
    Except Str ProvidedBufferRing :=
  if entryCount = 0 || !isPowerOfTwo entryCount || entryCount > 32768 then
    .error "io_uring buf_ring_size must be a power of two between 1 and 32768".toList
  else if !fitsU32 bufferSize then
    .error "io_uring buf_size is too large".toList
  else if bufferSize = 0 then
    .error "io_uring buf_size must be greater than zero".toList
  else
    .ok ((List.range entryCount).foldl ProvidedBufferRing.publish
      { entries := List.replicate entryCount 0, count := entryCount
        mask := UInt16.ofNat (entryCount - 1), tail := 0, bufferLen := bufferSize })

/-- `copy_and_release`, given what the kernel left in the selected buffer. The
error of a failed copy ends the run, so the ring it leaves behind is not kept. -/
def ProvidedBufferRing.copyAndRelease (self : ProvidedBufferRing) (id length : Nat)
    (contents : Nat → UInt8) : Except Str (List UInt8 × ProvidedBufferRing) :=
  if self.count ≤ id then .error "kernel selected an invalid buffer ID".toList
  else if length > self.bufferLen then
    .error "receive completion exceeds its selected buffer".toList
  else .ok ((List.range length).map contents, self.publish id)

/-- A registered ring has buffers that fit the 32-bit lengths of the kernel. -/
theorem ProvidedBufferRing.register_bufferSize {entryCount bufferSize : Nat}
    {ring : ProvidedBufferRing} (h : register entryCount bufferSize = .ok ring) :
    fitsU32 bufferSize = true := by
  unfold register at h
  split_ifs at h with hcount hfits hzero
  simpa using hfits

end Thwip.IoUring
