/-
  Thwip.IoUring.BufferRing — where the provided buffers are
  (`run/slave/src/runtime/io_uring/buffer_ring.rs`, and the completion loop of `run`).

  The kernel takes the ids that stand between its head and the worker's tail, in the order
  they were published, and reports each in one completion; only receives select buffers.
  Between events every buffer is published, or selected and not yet released.
-/
import Thwip.Lib.Ring
import Thwip.IoUring.Changes
import Thwip.IoUring.Shared

namespace Thwip.IoUring

open Thwip.Lib

variable {σ : Type} {cfg : Config σ} {w w' : IoUringWorker σ} {ring : ProvidedBufferRing}
  {head : UInt16} {taken : List Nat}

/-! ## §1. The ring as the kernel sees it. -/

/-- The index of the descriptor at this counter. -/
def ProvidedBufferRing.slot (self : ProvidedBufferRing) (counter : UInt16) : Nat :=
  (counter &&& self.mask).toNat

/-- The id at this counter. -/
def ProvidedBufferRing.idAt (self : ProvidedBufferRing) (counter : UInt16) : Nat :=
  self.entries.getD (self.slot counter) 0

/-- How many ids wait between the kernel's head and the tail. -/
def ProvidedBufferRing.waiting (self : ProvidedBufferRing) (head : UInt16) : Nat :=
  (self.tail - head).toNat

/-- These ids, the one the kernel takes next first. -/
def ProvidedBufferRing.published (self : ProvidedBufferRing) (head : UInt16) : List Nat :=
  (List.range (self.waiting head)).map (fun i => self.idAt (head + UInt16.ofNat i))

/-- A ring as `register` makes it. -/
structure ProvidedBufferRing.WellFormed (ring : ProvidedBufferRing) : Prop where
  pos : 0 < ring.count
  le : ring.count ≤ 32768
  dvd : ring.count ∣ 2 ^ 16
  entries : ring.entries.length = ring.count
  slot : ∀ counter : UInt16, ring.slot counter = counter.toNat % ring.count

/-- Every id is in one place, published or taken. -/
structure InPlace (ring : ProvidedBufferRing) (head : UInt16) (taken : List Nat) : Prop where
  wellFormed : ring.WellFormed
  waiting : ring.waiting head + taken.length = ring.count
  places : (ring.published head ++ taken).Perm (List.range ring.count)

theorem ProvidedBufferRing.WellFormed.publish (h : ring.WellFormed) (id : Nat) :
    (ring.publish id).WellFormed := by
  refine ⟨h.pos, h.le, h.dvd, ?_, h.slot⟩
  show (ring.entries.set _ id).length = ring.count
  rw [List.length_set]
  exact h.entries

/-- The counters wrap at `2 ^ 16`, the slots at the ring's length, which divides it. -/
theorem ProvidedBufferRing.WellFormed.slot_add (h : ring.WellFormed) (counter : UInt16) (i : Nat) :
    ring.slot (counter + UInt16.ofNat i) = (counter.toNat + i) % ring.count := by
  rw [h.slot, UInt16.toNat_add, UInt16.toNat_ofNat', Nat.mod_mod_of_dvd _ h.dvd, Nat.add_mod,
    Nat.mod_mod_of_dvd _ h.dvd, ← Nat.add_mod]

theorem ProvidedBufferRing.WellFormed.published_eq (h : ring.WellFormed) (head : UInt16) :
    ring.published head = window 0 ring.entries head.toNat (ring.waiting head) := by
  unfold ProvidedBufferRing.published window
  apply List.map_congr_left
  intro i _
  unfold ProvidedBufferRing.idAt
  rw [h.slot_add, h.entries]

/-- The tail stands `waiting` counters past the head. -/
theorem tail_eq (ring : ProvidedBufferRing) (head : UInt16) :
    ring.tail = head + UInt16.ofNat (ring.waiting head) := by
  unfold ProvidedBufferRing.waiting
  rw [UInt16.ofNat_toNat]
  apply UInt16.toNat_inj.mp
  have hhead := head.toNat_lt
  have htail := ring.tail.toNat_lt
  rw [UInt16.toNat_add, UInt16.toNat_sub]
  omega

theorem ProvidedBufferRing.WellFormed.slot_tail (h : ring.WellFormed) {head : UInt16} :
    ring.slot ring.tail = (head.toNat + ring.waiting head) % ring.count := by
  rw [← h.slot_add, ← tail_eq]

theorem waiting_publish {id : Nat} (hlt : ring.waiting head < 2 ^ 16 - 1) :
    (ring.publish id).waiting head = ring.waiting head + 1 := by
  unfold ProvidedBufferRing.waiting at hlt ⊢
  show (ring.tail + 1 - head).toNat = _
  have hhead := head.toNat_lt
  have htail := ring.tail.toNat_lt
  have hone : (1 : UInt16).toNat = 1 := rfl
  rw [UInt16.toNat_sub] at hlt ⊢
  rw [UInt16.toNat_sub, UInt16.toNat_add]
  omega

/-! ## §2. Selection and release. -/

/-- Past the oldest id one fewer waits. -/
theorem waiting_succ (hne : head ≠ ring.tail) :
    ring.waiting head = ring.waiting (head + 1) + 1 := by
  unfold ProvidedBufferRing.waiting
  have hdiffer : head.toNat ≠ ring.tail.toNat := fun heq => hne (UInt16.toNat_inj.mp heq)
  have hhead := head.toNat_lt
  have htail := ring.tail.toNat_lt
  rw [UInt16.toNat_sub, UInt16.toNat_sub, UInt16.toNat_add]
  show _ = _ % _ + 1
  have hone : (1 : UInt16).toNat = 1 := rfl
  omega

/-- The kernel takes the oldest id. -/
theorem InPlace.selected (h : InPlace ring head taken) (hne : head ≠ ring.tail) :
    InPlace ring (head + 1) (ring.idAt head :: taken) := by
  have hwell := h.wellFormed
  have hwaiting := waiting_succ hne
  have hpublished : ring.published head = ring.idAt head :: ring.published (head + 1) := by
    rw [hwell.published_eq, hwell.published_eq, hwaiting, window_succ]
    have hnext : (head.toNat + 1) % ring.entries.length
        = (head + 1).toNat % ring.entries.length := by
      rw [hwell.entries, ← hwell.slot_add head 1, ← hwell.slot]
      rfl
    rw [window_congr hnext, hwell.entries]
    unfold ProvidedBufferRing.idAt
    rw [hwell.slot]
  refine ⟨hwell, ?_, ?_⟩
  · have htotal := h.waiting
    rw [List.length_cons]
    omega
  · have hplaces := h.places
    rw [hpublished] at hplaces
    exact (List.perm_middle).trans hplaces

/-- The tail's slot is not one the kernel has still to read, while any id is taken. -/
theorem InPlace.slot_tail_ne (h : InPlace ring head taken) (htaken : taken ≠ [])
    {i : Nat} (hi : i < ring.waiting head) :
    ring.slot (head + UInt16.ofNat i) ≠ ring.slot ring.tail := by
  have hwell := h.wellFormed
  have htotal := h.waiting
  have hroom : 0 < taken.length := List.length_pos_iff.mpr htaken
  rw [hwell.slot_add, hwell.slot_tail]
  exact slot_ne hi (by omega)

/-- **A taken id that is published is in its place again.** -/
theorem InPlace.released (h : InPlace ring head taken) {id : Nat} (hid : id ∈ taken) :
    InPlace (ring.publish id) head (taken.erase id) := by
  have hwell := h.wellFormed
  have htotal := h.waiting
  have hle := hwell.le
  have hroom : 0 < taken.length := List.length_pos_of_mem hid
  have hmore : (ring.publish id).waiting head = ring.waiting head + 1 := by
    apply waiting_publish
    omega
  have hpublished : (ring.publish id).published head = ring.published head ++ [id] := by
    rw [(hwell.publish id).published_eq, hwell.published_eq, hmore]
    have hslot : ring.slot ring.tail = (head.toNat + ring.waiting head) % ring.entries.length := by
      rw [hwell.entries, ← hwell.slot_tail]
    show window 0 (ring.entries.set (ring.slot ring.tail) id) _ _ = _
    rw [hslot]
    exact window_set (by rw [hwell.entries]; omega) id
  refine ⟨hwell.publish id, ?_, ?_⟩
  · rw [hmore, List.length_erase_of_mem hid]
    show _ = ring.count
    omega
  · show List.Perm _ (List.range ring.count)
    rw [hpublished, List.append_assoc]
    have herased : (id :: taken.erase id).Perm taken := (List.perm_cons_erase hid).symm
    exact (herased.append_left (ring.published head)).trans h.places

/-- Of a taken buffer what was received can be copied, and it is published again. -/
theorem InPlace.copyAndRelease (h : InPlace ring head taken) {id : Nat} (hid : id ∈ taken)
    {length : Nat} (hlength : length ≤ ring.bufferLen) (contents : Nat → UInt8) :
    ring.copyAndRelease id length contents
      = .ok ((List.range length).map contents, ring.publish id) := by
  have hmem : id ∈ List.range ring.count :=
    h.places.subset (List.mem_append_right _ hid)
  have hlt : id < ring.count := List.mem_range.mp hmem
  unfold ProvidedBufferRing.copyAndRelease
  rw [if_neg (by omega), if_neg (by omega)]

/-! ## §3. Registration. -/

theorem isPowerOfTwo_dvd {n : Nat} (hpower : isPowerOfTwo n = true) (hle : n ≤ 32768) :
    ∃ k, n = 2 ^ k ∧ n ∣ 2 ^ 16 := by
  unfold isPowerOfTwo at hpower
  simp only [ne_eq, Bool.and_eq_true, decide_eq_true_eq, beq_iff_eq] at hpower
  obtain ⟨k, hk⟩ := Nat.ne_zero_and_sub_one_eq_zero_iff_isPowerOfTwo.mp hpower
  refine ⟨k, hk, ?_⟩
  have hlt : 2 ^ k < 2 ^ 16 := by omega
  rw [hk]
  exact Nat.pow_dvd_pow 2 (Nat.pow_lt_pow_iff_right (by omega) |>.mp hlt).le

/-- The mask cuts a counter to its slot. -/
theorem slot_of_mask {n k : Nat} (hn : n = 2 ^ k) (hle : n ≤ 32768)
    (hmask : ring.mask = UInt16.ofNat (n - 1)) (counter : UInt16) :
    ring.slot counter = counter.toNat % n := by
  have hpos : 0 < 2 ^ k := Nat.two_pow_pos k
  unfold ProvidedBufferRing.slot
  rw [hmask, UInt16.toNat_and, UInt16.toNat_ofNat', Nat.mod_eq_of_lt (by omega), hn,
    Nat.and_two_pow_sub_one_eq_mod]

/-- The first ids fill the ring in order. -/
theorem publish_range (blank : ProvidedBufferRing) {n k : Nat} (hn : n = 2 ^ k) (hle : n ≤ 32768)
    (hmask : blank.mask = UInt16.ofNat (n - 1)) (hcount : blank.count = n)
    (hentries : blank.entries.length = n) (htail : blank.tail = 0) :
    ∀ published, published ≤ n →
      ((List.range published).foldl ProvidedBufferRing.publish blank).tail = UInt16.ofNat published
      ∧ ((List.range published).foldl ProvidedBufferRing.publish blank).mask = blank.mask
      ∧ ((List.range published).foldl ProvidedBufferRing.publish blank).count = n
      ∧ ((List.range published).foldl ProvidedBufferRing.publish blank).entries.length = n
      ∧ window 0 ((List.range published).foldl ProvidedBufferRing.publish blank).entries 0 published
        = List.range published := by
  intro published
  induction published with
  | zero =>
      intro _
      exact ⟨htail, rfl, hcount, hentries, rfl⟩
  | succ published ih =>
      intro hmore
      obtain ⟨htail', hmask', hcount', hentries', hwindow⟩ := ih (by omega)
      rw [List.range_succ, List.foldl_append, List.foldl_cons, List.foldl_nil]
      generalize (List.range published).foldl ProvidedBufferRing.publish blank = before at *
      refine ⟨?_, hmask', hcount', ?_, ?_⟩
      · show before.tail + 1 = _
        rw [htail', UInt16.ofNat_add]
        rfl
      · show (before.entries.set _ published).length = n
        rw [List.length_set]
        exact hentries'
      · have hslot : before.slot before.tail = (0 + published) % before.entries.length := by
          rw [slot_of_mask hn hle (hmask'.trans hmask), htail', UInt16.toNat_ofNat', hentries',
            Nat.zero_add, Nat.mod_eq_of_lt (show published < 2 ^ 16 by omega)]
        show window 0 (before.entries.set (before.slot before.tail) published) 0 _ = _
        rw [hslot, window_set (by rw [hentries']; omega), hwindow]

/-- **A registered ring holds every id**, whatever power of two up to 32768 its size is. -/
theorem register_inPlace {entryCount bufferSize : Nat}
    (hregister : ProvidedBufferRing.register entryCount bufferSize = .ok ring) :
    InPlace ring 0 [] ∧ ring.count = entryCount := by
  unfold ProvidedBufferRing.register at hregister
  split_ifs at hregister with hcount
  injection hregister with hregister
  simp only [Bool.or_eq_true, Bool.not_eq_true', decide_eq_true_eq, not_or, Bool.not_eq_false]
    at hcount
  obtain ⟨⟨hzero, hpower⟩, hle⟩ := hcount
  have hle : entryCount ≤ 32768 := by omega
  obtain ⟨k, hn, hdvd⟩ := isPowerOfTwo_dvd hpower hle
  obtain ⟨htail, hmask, hcount, hentries, hwindow⟩ := publish_range
    { entries := List.replicate entryCount 0, count := entryCount
      mask := UInt16.ofNat (entryCount - 1), tail := 0, bufferLen := bufferSize }
    hn hle rfl rfl List.length_replicate rfl entryCount le_rfl
  rw [hregister] at htail hmask hcount hentries hwindow
  have hwell : ring.WellFormed :=
    { pos := by omega, le := by omega, dvd := hcount ▸ hdvd, entries := hentries.trans hcount.symm
      slot := hcount ▸ slot_of_mask hn hle hmask }
  have hwaiting : ring.waiting 0 = entryCount := by
    unfold ProvidedBufferRing.waiting
    rw [htail, UInt16.sub_zero, UInt16.toNat_ofNat', Nat.mod_eq_of_lt (by omega)]
  refine ⟨⟨hwell, ?_, ?_⟩, hcount⟩
  · rw [hwaiting, hcount]
    rfl
  · rw [List.append_nil, hwell.published_eq, hwaiting, hcount]
    exact hwindow ▸ List.Perm.refl _

/-! ## §4. What an event releases. -/

/-- The branch of `run` for a completion whose identifier is unknown. -/
def ignoreCompletion (completion : Completion) (w : IoUringWorker σ) :
    Except Exit (IoUringWorker σ) :=
  match completion.bufferId with
  | none => .ok w
  | some id =>
      match w.bufferRing.copyAndRelease id completion.result.toNat completion.contents with
      | .error message => .error (.io (some message))
      | .ok (_, bufferRing) => .ok { w with bufferRing }

/-- The operations that select a provided buffer. -/
def Entry.receives : Entry → Bool
  | .operation _ (.recv _) | .operation _ (.proxyRecv _) => true
  | _ => false

/-- This is the completion of a receive. -/
def Event.receives (w : IoUringWorker σ) : Event → Bool
  | .completed index _ _ _ => (w.inFlight[index]?).any Entry.receives
  | _ => false

/-- The buffer that the completion carries. -/
def Event.bufferId : Event → Option Nat
  | .completed _ completion _ _ => completion.bufferId
  | _ => none

theorem runTurn_ring {world : World} {id : ConnectionId} {event : TurnEvent}
    (hrun : w.runTurn cfg world id event = .ok w') :
    w'.bufferRing = w.bufferRing.release event.bufferId := by
  obtain ⟨t, ht, rfl⟩ := runTurn_eq hrun
  rcases handleTurn_releases ht with hshared | ⟨hshared, -⟩
  · exact congrArg Shared.bufferRing hshared
  · exact congrArg Shared.bufferRing hshared

theorem change_ring (h : Change cfg w w') : w'.bufferRing = w.bufferRing := by
  cases h with
  | turn world id event hevent _ hrun =>
      rw [runTurn_ring hrun]
      cases event <;> first | rfl | cases hevent
  | pushed | dropped | inserted | failed | flags => rfl

theorem changes_ring (h : Changes cfg w w') : w'.bufferRing = w.bufferRing := by
  induction h with
  | refl => rfl
  | tail _ hchange ih => exact (change_ring hchange).trans ih

theorem taken_ring (event : Event) : (event.taken w).bufferRing = w.bufferRing := by
  rcases Event.taken_cases w event with htaken | ⟨_, _, _, _, _, -, -, -, htaken⟩
  · rw [htaken]
  · rw [htaken]

/-- **A completed receive releases its buffer, once**: whatever the result, and whether or
not the connection is still there. -/
theorem step_releases {event : Event} (hreceives : event.receives w = true)
    (hstep : step cfg event w = .ok w') :
    w'.bufferRing = w.bufferRing.release event.bufferId := by
  cases event with
  | requestShutdown | loopTop => cases hreceives
  | completed index completion dns world =>
      obtain ⟨entry, hentry, hreceives⟩ := (Option.any_eq_true _ _).mp hreceives
      unfold step at hstep
      dsimp only at hstep
      rw [hentry] at hstep
      dsimp only at hstep
      generalize htaken : (if entry.persists completion.more then w
        else { w with inFlight := w.inFlight.eraseIdx index }) = w₁ at hstep
      have hring : w₁.bufferRing = w.bufferRing := by
        rw [← htaken]
        split_ifs <;> rfl
      cases entry with
      | operation id op =>
          rw [← hring, runTurn_ring hstep]
          cases op <;> first | rfl | cases hreceives
      | _ => cases hreceives

/-- Nothing else touches the ring. -/
theorem step_keeps_ring {event : Event} (hreceives : event.receives w = false)
    (hstep : step cfg event w = .ok w') : w'.bufferRing = w.bufferRing := by
  rcases step_changes hstep with
    ⟨index, completion, dns, world, id, op, rfl, hentry, hrun⟩ | hchanges
  · rw [runTurn_ring hrun, taken_ring]
    have hop : Entry.receives (.operation id op) = false := by
      simpa [Event.receives, hentry] using hreceives
    cases op <;> first | rfl | cases hop
  · rw [changes_ring hchanges, taken_ring]

/-- **So does an unknown completion** that carries one. -/
theorem ignoreCompletion_releases {completion : Completion}
    (hrun : ignoreCompletion completion w = .ok w') :
    w'.bufferRing = w.bufferRing.release completion.bufferId := by
  unfold ignoreCompletion at hrun
  cases hid : completion.bufferId with
  | none =>
      rw [hid] at hrun
      injection hrun with hrun
      rw [← hrun]
      rfl
  | some id =>
      rw [hid] at hrun
      dsimp only at hrun
      unfold ProvidedBufferRing.copyAndRelease at hrun
      split_ifs at hrun
      injection hrun with hrun
      rw [← hrun]
      rfl

/-! ## §5. Runs. -/

/-- The runs of the worker beside its kernel: `head` is the kernel's, and `taken` are the
buffers it has selected and that are not yet released. -/
inductive BufferRun (cfg : Config σ) : IoUringWorker σ → UInt16 → List Nat → Prop where
  | start {w w' : IoUringWorker σ} (world : World) (hnew : IoUringWorker.new cfg = .ok w)
      (hstart : start world w = .ok w') : BufferRun cfg w' 0 []
  /-- The kernel takes the next id for a receive. -/
  | selected {w : IoUringWorker σ} {head : UInt16} {taken : List Nat}
      (h : BufferRun cfg w head taken) (hsome : head ≠ w.bufferRing.tail) :
      BufferRun cfg w (head + 1) (w.bufferRing.idAt head :: taken)
  /-- A receive completes with one of them. -/
  | received {w w' : IoUringWorker σ} {head : UInt16} {taken : List Nat} (event : Event)
      (h : BufferRun cfg w head taken) (hreceives : event.receives w = true) {id : Nat}
      (hid : event.bufferId = some id) (htaken : id ∈ taken)
      (hstep : step cfg event w = .ok w') : BufferRun cfg w' head (taken.erase id)
  /-- A completion with an unknown identifier carries one of them. -/
  | ignored {w w' : IoUringWorker σ} {head : UInt16} {taken : List Nat} (completion : Completion)
      (h : BufferRun cfg w head taken) {id : Nat} (hid : completion.bufferId = some id)
      (htaken : id ∈ taken) (hrun : ignoreCompletion completion w = .ok w') :
      BufferRun cfg w' head (taken.erase id)
  /-- Any other event: it carries no buffer. -/
  | other {w w' : IoUringWorker σ} {head : UInt16} {taken : List Nat} (event : Event)
      (h : BufferRun cfg w head taken) (hnone : event.bufferId = none)
      (hstep : step cfg event w = .ok w') : BufferRun cfg w' head taken

theorem BufferRun.inPlace (h : BufferRun cfg w head taken) :
    InPlace w.bufferRing head taken ∧ w.bufferRing.count = cfg.bufRingSize := by
  induction h with
  | start world hnew hstart =>
      have hchanges : Changes cfg _ _ := start_changes hstart
      rw [changes_ring hchanges]
      unfold IoUringWorker.new at hnew
      split at hnew
      · cases hnew
      next ring hregister =>
        split_ifs at hnew
        injection hnew with hnew
        rw [← hnew]
        exact register_inPlace hregister
  | selected _ hsome ih => exact ⟨ih.1.selected hsome, ih.2⟩
  | received event _ hreceives hid htaken hstep ih =>
      rw [step_releases hreceives hstep, hid]
      exact ⟨ih.1.released htaken, ih.2⟩
  | ignored completion _ hid htaken hrun ih =>
      rw [ignoreCompletion_releases hrun, hid]
      exact ⟨ih.1.released htaken, ih.2⟩
  | @other w _ _ _ event _ hnone hstep ih =>
      by_cases hreceives : event.receives w = true
      · rw [step_releases hreceives hstep, hnone]
        exact ih
      · rw [step_keeps_ring (by simpa using hreceives) hstep]
        exact ih

/-- **No provided buffer is lost or doubled.**  In every run each id is in one place, published
between the kernel's head and the tail or taken and not yet released; a completion that
carries an id releases it once, whatever else it says; and the slot of the next publication
is none that the kernel has still to read. -/
theorem buffers_are_in_one_place (h : BufferRun cfg w head taken) :
    (w.bufferRing.published head ++ taken).Perm (List.range cfg.bufRingSize)
    ∧ (w.bufferRing.published head ++ taken).Nodup
    ∧ (∀ event id w', event.receives w = true → event.bufferId = some id →
        step cfg event w = .ok w' → w'.bufferRing = w.bufferRing.publish id)
    ∧ (∀ completion id w', completion.bufferId = some id →
        ignoreCompletion completion w = .ok w' → w'.bufferRing = w.bufferRing.publish id)
    ∧ (∀ event w', event.receives w = false ∨ event.bufferId = none →
        step cfg event w = .ok w' → w'.bufferRing = w.bufferRing)
    ∧ (∀ id ∈ taken, ∀ (length : Nat) (contents : Nat → UInt8),
        length ≤ w.bufferRing.bufferLen → w.bufferRing.copyAndRelease id length contents
          = .ok ((List.range length).map contents, w.bufferRing.publish id))
    ∧ (taken ≠ [] → ∀ i < w.bufferRing.waiting head,
        w.bufferRing.slot (head + UInt16.ofNat i) ≠ w.bufferRing.slot w.bufferRing.tail) := by
  obtain ⟨hplace, hcount⟩ := h.inPlace
  have hplaces := hplace.places
  rw [hcount] at hplaces
  refine ⟨hplaces, ?_, ?_, ?_, ?_, ?_, ?_⟩
  · exact hplaces.nodup_iff.mpr List.nodup_range
  · intro event id w' hreceives hid hstep
    rw [step_releases hreceives hstep, hid]
    rfl
  · intro completion id w' hid hrun
    rw [ignoreCompletion_releases hrun, hid]
    rfl
  · intro event w' hcarries hstep
    by_cases hreceives : event.receives w = true
    · have hnone : event.bufferId = none := by
        rcases hcarries with hfalse | hnone
        · rw [hreceives] at hfalse
          cases hfalse
        · exact hnone
      rw [step_releases hreceives hstep, hnone]
      rfl
    · exact step_keeps_ring (by simpa using hreceives) hstep
  · intro id hid length contents hlength
    exact hplace.copyAndRelease hid hlength contents
  · intro htaken i hi
    exact hplace.slot_tail_ne htaken hi

/-! ## §6. A ring of two buffers. -/

/-- Events without buffers keep the kernel where it is. -/
theorem BufferRun.replay : ∀ {events : List Event} {w w' : IoUringWorker σ},
    BufferRun cfg w head taken → (∀ event ∈ events, event.bufferId = none) →
      IoUring.replay cfg events w = .ok w' → BufferRun cfg w' head taken
  | [], w, w', h, _, hrun => by
      injection hrun with hrun
      exact hrun ▸ h
  | event :: events, w, w', h, hnone, hrun => by
      unfold IoUring.replay at hrun
      split at hrun
      · cases hrun
      next w₁ hstep =>
        have hfirst : BufferRun cfg w₁ head taken :=
          h.other event (hnone event List.mem_cons_self) hstep
        exact hfirst.replay (fun event hmem => hnone event (List.mem_cons_of_mem _ hmem)) hrun

theorem bufferRun_of_bootsTo {world : World} {events : List Event} {p : IoUringWorker σ → Bool}
    (hnone : ∀ event ∈ events, event.bufferId = none) (h : bootsTo cfg world events p = true) :
    ∃ w, BufferRun cfg w 0 [] ∧ p w = true := by
  unfold bootsTo boot at h
  split at h
  · cases h
  next w hboot =>
    split at hboot
    · cases hboot
    next w₀ hnew =>
      split at hboot
      · cases hboot
      next w₁ hstart => exact ⟨w, (BufferRun.start world hnew hstart).replay hnone hboot, h⟩

def twoBuffers : Config Unit := { Config.single Rustls.absent none [] with bufRingSize := 2 }

/-- A client's first receive takes buffer `0` and gives it back, behind buffer `1`. -/
theorem buffers_are_in_one_place_received :
    ∃ w w', BufferRun twoBuffers w 1 [0]
      ∧ step twoBuffers (.completed 4 (.received [71]) [] .quiet) w = .ok w'
      ∧ w'.bufferRing = w.bufferRing.publish 0 := by
  have hrun : bootsTo twoBuffers .quiet [.accepts 7] (fun w =>
      w.bufferRing.tail == 2 && w.bufferRing.idAt 0 == 0
        && Event.receives w (.completed 4 (.received [71]) [] .quiet)
        && (step twoBuffers (.completed 4 (.received [71]) [] .quiet) w).toOption.isSome)
      = true := by
    decide +kernel
  have hnone : ∀ event ∈ [Event.accepts 7], event.bufferId = none := by
    intro event hmem
    rw [List.mem_singleton.mp hmem]
    rfl
  obtain ⟨w, hw, hp⟩ := bufferRun_of_bootsTo hnone hrun
  simp only [Bool.and_eq_true, beq_iff_eq] at hp
  obtain ⟨⟨⟨htail, hid⟩, hreceives⟩, hsome⟩ := hp
  have hselected : BufferRun twoBuffers w (0 + 1) [w.bufferRing.idAt 0] :=
    hw.selected (by rw [htail]; decide)
  rw [hid] at hselected
  cases hstep : step twoBuffers (.completed 4 (.received [71]) [] .quiet) w with
  | error exit =>
      rw [hstep] at hsome
      cases hsome
  | ok w' =>
      exact ⟨w, w', hselected, hstep,
        (buffers_are_in_one_place hselected).2.2.1 _ 0 w' hreceives rfl hstep⟩

end Thwip.IoUring
