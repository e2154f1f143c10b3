/-
  Thwip.StaticFiles.FileLoop — the loop of a file's thread, on any width of `usize`
  (`spawn_file_stream` of `run/slave/src/static_files.rs`).

  What remains is a `u64`, and the next buffer is sized by its cast to `usize`.  The loop
  is followed here with every read filling its buffer and every chunk taken by the
  receiver, whose departure would end it early.
-/
import Mathlib.Algebra.Order.Ring.Nat
import Thwip.StaticFiles.Response

namespace Thwip

open Thwip.Lib

/-! ## §1. The loop. -/

/-- The state of the thread between two iterations. -/
structure FileLoop where
  /-- Where the next read of the file starts. -/
  position : Nat
  remaining : Nat
  /-- The chunks the channel has taken. -/
  sent : List (List UInt8)
  deriving Repr, DecidableEq

/-- `read_exact` into a buffer of this size, from a file that has the bytes. -/
def readExact (file : Nat → UInt8) (position size : Nat) : List UInt8 :=
  (List.range size).map (fun offset => file (position + offset))

@[simp] theorem readExact_length (file : Nat → UInt8) (position size : Nat) :
    (readExact file position size).length = size := by
  simp [readExact]

/-- Two reads are one read. -/
theorem readExact_add (file : Nat → UInt8) (position size more : Nat) :
    readExact file position (size + more)
      = readExact file position size ++ readExact file (position + size) more := by
  unfold readExact
  rw [List.range_add, List.map_append, List.map_map]
  congr 1
  apply List.map_congr_left
  intro offset _
  show file (position + (size + offset)) = file (position + size + offset)
  rw [Nat.add_assoc]

/-- The thread once the file is open and the cursor is set. -/
def FileLoop.spawn (start length : Nat) : FileLoop :=
  { position := start, remaining := length, sent := [] }

/-- The buffer that this iteration reads and sends. -/
def FileLoop.buffer (bits : Nat) (file : Nat → UInt8) (self : FileLoop) : List UInt8 :=
  readExact file self.position (bufferSize bits self.remaining)

/-- The body of the loop. -/
def FileLoop.iteration (bits : Nat) (file : Nat → UInt8) (self : FileLoop) : FileLoop :=
  let buffer := self.buffer bits file
  { position := self.position + buffer.length
    remaining := self.remaining - buffer.length
    sent := self.sent ++ [buffer] }

/-- At most this many iterations of `while remaining > 0`. -/
def FileLoop.run (bits : Nat) (file : Nat → UInt8) : Nat → FileLoop → FileLoop
  | 0, self => self
  | n + 1, self => if self.remaining = 0 then self else run bits file n (self.iteration bits file)

/-- A buffer never goes beyond the range, so the subtraction is exact. -/
theorem bufferSize_le (bits remaining : Nat) : bufferSize bits remaining ≤ remaining := by
  unfold bufferSize
  exact (min_le_right _ _).trans (Nat.mod_le _ _)

section Iterations

variable {bits : Nat} {file : Nat → UInt8} {s : FileLoop}

@[simp] theorem FileLoop.buffer_length :
    (s.buffer bits file).length = bufferSize bits s.remaining := by
  unfold FileLoop.buffer
  rw [readExact_length]

theorem FileLoop.iteration_remaining :
    (s.iteration bits file).remaining = s.remaining - bufferSize bits s.remaining := by
  show s.remaining - (s.buffer bits file).length = _
  rw [FileLoop.buffer_length]

theorem FileLoop.run_done (h : s.remaining = 0) (n : Nat) : s.run bits file n = s := by
  induction n with
  | zero => rfl
  | succ n _ =>
      unfold FileLoop.run
      rw [if_pos h]

theorem FileLoop.run_succ (h : s.remaining ≠ 0) (n : Nat) :
    s.run bits file (n + 1) = (s.iteration bits file).run bits file n := by
  show (if s.remaining = 0 then s else _) = _
  rw [if_neg h]

/-! ## §2. What an iteration leaves of the range. -/

theorem sub_div_of_le_mod {n m size : Nat} (h : size ≤ n % m) : (n - size) / m = n / m := by
  by_cases hm : m = 0
  · subst hm
    rw [Nat.div_zero, Nat.div_zero]
  · have hpos : 0 < m := by omega
    have hmod : n % m < m := Nat.mod_lt n hpos
    have hsum : m * (n / m) + n % m = n := Nat.div_add_mod n m
    have hrest : n - size = m * (n / m) + (n % m - size) := by omega
    have hlow : (n % m - size) / m = 0 := Nat.div_eq_of_lt (by omega)
    rw [hrest, Nat.mul_add_div hpos, hlow, Nat.add_zero]

/-- **The part beyond the word stays**: a buffer is taken from the low word only. -/
theorem FileLoop.iteration_high :
    (s.iteration bits file).remaining / 2 ^ bits = s.remaining / 2 ^ bits := by
  rw [FileLoop.iteration_remaining]
  apply sub_div_of_le_mod
  unfold bufferSize
  exact min_le_right _ _

theorem FileLoop.run_high (n : Nat) :
    (s.run bits file n).remaining / 2 ^ bits = s.remaining / 2 ^ bits := by
  induction n generalizing s with
  | zero => rfl
  | succ n ih =>
      by_cases hdone : s.remaining = 0
      · rw [FileLoop.run_done hdone]
      · rw [FileLoop.run_succ hdone, ih, FileLoop.iteration_high]

/-- A range within the word is read on. -/
theorem bufferSize_pos_of_lt {remaining : Nat} (h : remaining < 2 ^ bits) (hne : remaining ≠ 0) :
    0 < bufferSize bits remaining := by
  unfold bufferSize streamChunkSize
  rw [Nat.mod_eq_of_lt h]
  omega

theorem FileLoop.run_remaining_le (n : Nat) : (s.run bits file n).remaining ≤ s.remaining := by
  induction n generalizing s with
  | zero => exact le_refl _
  | succ n ih =>
      by_cases hdone : s.remaining = 0
      · rw [FileLoop.run_done hdone]
      · rw [FileLoop.run_succ hdone]
        have hnext : (s.iteration bits file).remaining ≤ s.remaining := by
          rw [FileLoop.iteration_remaining]
          omega
        exact ih.trans hnext

/-- A range within the word is sent in the end, byte for byte. -/
theorem FileLoop.run_ends (h : s.remaining < 2 ^ bits) :
    ∃ n, (s.run bits file n).remaining = 0
      ∧ ∃ chunks, (s.run bits file n).sent = s.sent ++ chunks
        ∧ chunks.flatten = readExact file s.position s.remaining := by
  generalize hremaining : s.remaining = remaining at h
  induction remaining using Nat.strong_induction_on generalizing s with
  | _ remaining ih =>
      by_cases hdone : remaining = 0
      · refine ⟨0, hremaining.trans hdone, [], ?_, ?_⟩
        · rw [List.append_nil]
          rfl
        · rw [hdone]
          rfl
      · have hpos := bufferSize_pos_of_lt h hdone
        have hle := bufferSize_le bits remaining
        have hnext : (s.iteration bits file).remaining = remaining - bufferSize bits remaining := by
          rw [FileLoop.iteration_remaining, hremaining]
        obtain ⟨n, hzero, chunks, hsent, hbytes⟩ :=
          ih (remaining - bufferSize bits remaining) (by omega) hnext (by omega)
        refine ⟨n + 1, ?_, s.buffer bits file :: chunks, ?_, ?_⟩
        · rw [FileLoop.run_succ (by omega)]
          exact hzero
        · rw [FileLoop.run_succ (by omega), hsent]
          show s.sent ++ [_] ++ chunks = _
          rw [List.append_assoc]
          rfl
        · -- the bytes of this buffer and those of the rest
          have hposition : (s.iteration bits file).position
              = s.position + bufferSize bits remaining := by
            show s.position + (s.buffer bits file).length = _
            rw [FileLoop.buffer_length, hremaining]
          rw [hposition] at hbytes
          rw [List.flatten_cons, hbytes]
          unfold FileLoop.buffer
          rw [hremaining, ← readExact_add]
          congr 1
          omega

/-- **With nothing left in the low word the loop stands still**: it sends empty chunks. -/
theorem FileLoop.run_stalls (hne : s.remaining ≠ 0) (hlow : s.remaining % 2 ^ bits = 0) (n : Nat) :
    s.run bits file n = { s with sent := s.sent ++ List.replicate n [] } := by
  have hsize : bufferSize bits s.remaining = 0 := by
    unfold bufferSize
    rw [hlow, Nat.min_zero]
  induction n generalizing s with
  | zero =>
      show s = _
      rw [List.replicate_zero, List.append_nil]
  | succ n ih =>
      have hiteration : s.iteration bits file = { s with sent := s.sent ++ [[]] } := by
        unfold FileLoop.iteration FileLoop.buffer
        rw [hsize]
        rfl
      have hrest : FileLoop.run bits file n { s with sent := s.sent ++ [[]] }
          = { s with sent := s.sent ++ [[]] ++ List.replicate n [] } := ih hne hlow hsize
      rw [FileLoop.run_succ hne, hiteration, hrest]
      rw [List.append_assoc, List.replicate_succ]
      rfl

end Iterations

/-! ## §3. The chunks on 64 bits. -/

/-- A read inside the file. -/
theorem readExact_contents {contents : List UInt8} {position size : Nat}
    (hinside : position + size ≤ contents.length) :
    readExact (fun index => contents.getD index 0) position size
      = (contents.drop position).take size := by
  apply List.ext_getElem
  · rw [readExact_length, List.length_take, List.length_drop]
    omega
  · intro offset hoffset _
    rw [readExact_length] at hoffset
    have hlt : position + offset < contents.length := by omega
    simp [readExact, hlt]

/-- `fileChunks` is what the loop sends of a file that has the range. -/
theorem fileChunks_run {contents : List UInt8} {s : FileLoop} (h : s.remaining < 2 ^ usizeBits)
    (hinside : s.position + s.remaining ≤ contents.length) :
    ∃ n, (s.run usizeBits (fun index => contents.getD index 0) n).remaining = 0
      ∧ (s.run usizeBits (fun index => contents.getD index 0) n).sent.map some
        = s.sent.map some ++ fileChunks contents s.position s.remaining h := by
  generalize hfile : (fun index => contents.getD index 0) = file
  generalize hremaining : s.remaining = remaining at h hinside
  induction remaining using Nat.strong_induction_on generalizing s with
  | _ remaining ih =>
      by_cases hdone : remaining = 0
      · refine ⟨0, hremaining.trans hdone, ?_⟩
        subst hdone
        rw [fileChunks, dif_pos rfl, List.append_nil]
        rfl
      · have hpos := bufferSize_pos h hdone
        have hle := bufferSize_le usizeBits remaining
        have hnext : (s.iteration usizeBits file).remaining
            = remaining - bufferSize usizeBits remaining := by
          rw [FileLoop.iteration_remaining, hremaining]
        have hposition : (s.iteration usizeBits file).position
            = s.position + bufferSize usizeBits remaining := by
          show s.position + (s.buffer usizeBits file).length = _
          rw [FileLoop.buffer_length, hremaining]
        obtain ⟨n, hzero, hsent⟩ := ih (remaining - bufferSize usizeBits remaining) (by omega)
          hnext (by omega) (by rw [hposition]; omega)
        have hbuffer : s.buffer usizeBits file
            = (contents.drop s.position).take (bufferSize usizeBits remaining) := by
          unfold FileLoop.buffer
          rw [hremaining, ← hfile, readExact_contents (by omega)]
        refine ⟨n + 1, ?_, ?_⟩
        · rw [FileLoop.run_succ (by omega)]
          exact hzero
        · rw [FileLoop.run_succ (by omega), hsent, fileChunks_cons h hdone, if_neg (by omega)]
          show (s.sent ++ [s.buffer usizeBits file]).map some ++ _ = _
          rw [hbuffer, List.map_append, List.append_assoc]
          simp only [hposition]
          rfl

/-! ## §4. Delivery. -/

/-- Every iteration reads and sends something, and no more than remains; and after finitely
many the range is sent. -/
structure Delivers (bits : Nat) (file : Nat → UInt8) (start length : Nat) : Prop where
  progress : ∀ n, ((FileLoop.spawn start length).run bits file n).remaining ≠ 0 →
    ((FileLoop.spawn start length).run bits file n).buffer bits file ≠ []
      ∧ (((FileLoop.spawn start length).run bits file n).buffer bits file).length
        ≤ ((FileLoop.spawn start length).run bits file n).remaining
  ends : ∃ n, ((FileLoop.spawn start length).run bits file n).remaining = 0
    ∧ (((FileLoop.spawn start length).run bits file n).sent.map List.length).sum = length
    ∧ ((FileLoop.spawn start length).run bits file n).sent.flatten = readExact file start length

/-- **The loop of a file's thread delivers the range if and only if its length fits
`usize`**: always where `usize` has the 64 bits of a length, and below `2 ^ 32` where it has
32. -/
theorem file_loop_delivers_iff (bits : Nat) (file : Nat → UInt8) (start length : Nat) :
    Delivers bits file start length ↔ length < 2 ^ bits := by
  constructor
  · rintro ⟨-, n, hzero, -⟩
    -- what lies beyond the word would never be sent
    have hhigh : ((FileLoop.spawn start length).run bits file n).remaining / 2 ^ bits
        = length / 2 ^ bits := FileLoop.run_high n
    rw [hzero, Nat.zero_div] at hhigh
    have hpos : 0 < 2 ^ bits := Nat.two_pow_pos bits
    exact (Nat.div_eq_zero_iff_lt hpos).mp hhigh.symm
  · intro h
    refine ⟨?_, ?_⟩
    · intro n hne
      have hle : ((FileLoop.spawn start length).run bits file n).remaining ≤ length :=
        FileLoop.run_remaining_le n
      have hpos := bufferSize_pos_of_lt (Nat.lt_of_le_of_lt hle h) hne
      refine ⟨?_, ?_⟩
      · apply List.ne_nil_of_length_pos
        rw [FileLoop.buffer_length]
        exact hpos
      · rw [FileLoop.buffer_length]
        exact bufferSize_le _ _
    · have hstart : (FileLoop.spawn start length).remaining < 2 ^ bits := h
      obtain ⟨n, hzero, chunks, hsent, hbytes⟩ := FileLoop.run_ends hstart
      have hchunks : ((FileLoop.spawn start length).run bits file n).sent = chunks := hsent
      refine ⟨n, hzero, ?_, ?_⟩
      · rw [hchunks, ← List.length_flatten, hbytes, readExact_length]
        rfl
      · rw [hchunks, hbytes]
        rfl

/-- A range of `2 ^ 32` bytes on a machine with a 32-bit `usize`: the thread sends empty chunks
for ever. -/
theorem word_long_range_is_never_delivered :
    ¬ Delivers 32 (fun _ => 0) 0 (2 ^ 32)
      ∧ ∀ n, (FileLoop.spawn 0 (2 ^ 32)).run 32 (fun _ => 0) n
        = { position := 0, remaining := 2 ^ 32, sent := List.replicate n [] } := by
  have hstalls : ∀ n, (FileLoop.spawn 0 (2 ^ 32)).run 32 (fun _ => 0) n
      = { position := 0, remaining := 2 ^ 32, sent := List.replicate n [] } :=
    fun n => FileLoop.run_stalls (by decide) (by decide) n
  refine ⟨?_, hstalls⟩
  rintro ⟨-, n, hzero, -⟩
  rw [hstalls n] at hzero
  have hremains : (2 : Nat) ^ 32 = 0 := hzero
  exact absurd hremains (by decide)

end Thwip
