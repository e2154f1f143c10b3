/-
  Thwip.IoUring.Occupation — which connection a completion means
  (`run/slave/src/runtime/io_uring/operation.rs`, `connection.rs`).

  The `user_data` of a submission carries the slot, the generation and the kind
  of the operation.  A step of the worker leaves a slot's generation alone, or
  gives the slot out and moves its generation on by one; a completion that comes
  back before the slot was given out a period of times finds the connection it
  was submitted for, or none.
-/
import Thwip.IoUring.Runs
import Thwip.Lib.Cycle

namespace Thwip.IoUring

open Thwip.Lib

variable {σ : Type} {cfg : Config σ} {w w' : IoUringWorker σ} {slot : Nat}

/-! ## §1. The user data of an operation. -/

def OperationKind.tag : OperationKind → Nat
  | .accept => 1
  | .read => 2
  | .write => 3
  | .proxyConnect => 4
  | .proxyWrite => 5
  | .proxyRead => 6

def OperationKind.ofTag : Nat → Option OperationKind
  | 1 => some .accept
  | 2 => some .read
  | 3 => some .write
  | 4 => some .proxyConnect
  | 5 => some .proxyWrite
  | 6 => some .proxyRead
  | _ => none

structure OperationId where
  /-- A `u32`. -/
  slot : Nat
  generation : UInt16
  kind : OperationKind
  deriving Repr, DecidableEq

def OperationId.encode (self : OperationId) : Nat :=
  (self.kind.tag <<< 48) ||| (self.generation.toNat <<< 32) ||| self.slot

def OperationId.decode (value : Nat) : Option OperationId :=
  match OperationKind.ofTag ((value >>> 48) % 2 ^ 16) with
  | none => none
  | some kind =>
      let generation := UInt16.ofNat ((value >>> 32) &&& 0xffff)
      if generation = 0 then none
      else some { slot := value % 2 ^ 32, generation, kind }

theorem OperationKind.ofTag_tag (kind : OperationKind) : ofTag kind.tag = some kind := by
  cases kind <;> rfl

theorem OperationKind.tag_lt (kind : OperationKind) : kind.tag < 2 ^ 16 := by
  cases kind <;> decide

/-- The fields do not overlap, so the word is their sum. -/
theorem OperationId.encode_eq (id : OperationId) (hslot : id.slot < 2 ^ 32) :
    id.encode = 2 ^ 32 * (2 ^ 16 * id.kind.tag + id.generation.toNat) + id.slot := by
  have hgen : id.generation.toNat < 2 ^ 16 := id.generation.toNat_lt
  have hshift : id.generation.toNat <<< 32 < 2 ^ 48 := by
    rw [Nat.shiftLeft_eq]
    omega
  unfold OperationId.encode
  rw [← Nat.shiftLeft_add_eq_or_of_lt hshift, Nat.shiftLeft_eq, Nat.shiftLeft_eq]
  have hcollect : id.kind.tag * 2 ^ 48 + id.generation.toNat * 2 ^ 32
      = 2 ^ 32 * (2 ^ 16 * id.kind.tag + id.generation.toNat) := by
    omega
  rw [hcollect, ← Nat.two_pow_add_eq_or_of_lt hslot]

/-- **The user data of an operation names its connection and its kind.** -/
theorem OperationId.decode_encode (id : OperationId) (hslot : id.slot < 2 ^ 32)
    (hgen : id.generation ≠ 0) : decode id.encode = some id := by
  have hlt : id.generation.toNat < 2 ^ 16 := id.generation.toNat_lt
  have htag := id.kind.tag_lt
  have heq := id.encode_eq hslot
  have hkind : (id.encode >>> 48) % 2 ^ 16 = id.kind.tag := by
    rw [Nat.shiftRight_eq_div_pow, heq]
    omega
  have hgeneration : (id.encode >>> 32) &&& 0xffff = id.generation.toNat := by
    rw [show 0xffff = 2 ^ 16 - 1 from rfl, Nat.and_two_pow_sub_one_eq_mod,
      Nat.shiftRight_eq_div_pow, heq]
    omega
  have hslot' : id.encode % 2 ^ 32 = id.slot := by
    rw [heq]
    omega
  unfold OperationId.decode
  rw [hkind, OperationKind.ofTag_tag, hgeneration, hslot']
  simp [hgen]

/-! ## §2. Generations. -/

theorem nextGeneration_ne_zero (previous : UInt16) : nextGeneration previous ≠ 0 := by
  unfold nextGeneration
  dsimp only
  split_ifs with hzero
  · decide
  · exact hzero

/-- The counter is the cycle of length `65535`. -/
theorem nextGeneration_toNat (previous : UInt16) :
    (nextGeneration previous).toNat = cycleNext 65535 previous.toNat := by
  have hlt : previous.toNat < 2 ^ 16 := previous.toNat_lt
  have hadd : (previous + 1).toNat = (previous.toNat + 1) % 2 ^ 16 := UInt16.toNat_add _ _
  have hzero : previous + 1 = 0 ↔ (previous.toNat + 1) % 2 ^ 16 = 0 := by
    rw [← hadd, ← UInt16.toNat_inj]
    rfl
  unfold nextGeneration cycleNext
  dsimp only
  split_ifs with hwrap hless hless
  · rw [hzero] at hwrap
    omega
  · rfl
  · rw [hadd]
    omega
  · exact absurd (hzero.mpr (by omega)) hwrap

theorem nextGeneration_iterate (k : Nat) (generation : UInt16) :
    (nextGeneration^[k] generation).toNat = (cycleNext 65535)^[k] generation.toNat := by
  induction k with
  | zero => rfl
  | succ k ih =>
      rw [Function.iterate_succ_apply', Function.iterate_succ_apply', nextGeneration_toNat, ih]

/-- A generation comes back after a multiple of `65535` registrations. -/
theorem nextGeneration_iterate_eq_iff {generation : UInt16} (h : generation ≠ 0) (k : Nat) :
    nextGeneration^[k] generation = generation ↔ 65535 ∣ k := by
  have hpos : 0 < generation.toNat := by
    rw [Nat.pos_iff_ne_zero]
    intro hzero
    exact h (UInt16.toNat_inj.mp hzero)
  have hle : generation.toNat ≤ 65535 := Nat.le_of_lt_succ generation.toNat_lt
  rw [← UInt16.toNat_inj, nextGeneration_iterate]
  exact cycleNext_iterate_eq_iff (by decide) hpos hle k

theorem nextGeneration_minimalPeriod {generation : UInt16} (h : generation ≠ 0) :
    Function.minimalPeriod nextGeneration generation = 65535 := by
  refine Nat.dvd_antisymm ?_ ?_
  · rw [← Function.isPeriodicPt_iff_minimalPeriod_dvd]
    exact (nextGeneration_iterate_eq_iff h 65535).mpr (Nat.dvd_refl _)
  · exact (nextGeneration_iterate_eq_iff h _).mp
      (Function.isPeriodicPt_minimalPeriod nextGeneration generation)

theorem nextGeneration_ne_self (generation : UInt16) : nextGeneration generation ≠ generation := by
  by_cases hzero : generation = 0
  · rw [hzero]
    decide
  · intro h
    have hdvd := (nextGeneration_iterate_eq_iff hzero 1).mp h
    omega

theorem bumpGeneration_fst (generations : List UInt16) (slot : Nat) :
    (bumpGeneration generations slot).1 = nextGeneration (generations.getD slot 0) :=
  congrArg nextGeneration (getD_grow generations slot 0 slot)

theorem bumpGeneration_getD (generations : List UInt16) (slot slot' : Nat) :
    (bumpGeneration generations slot).2.getD slot' 0
      = if slot = slot' then nextGeneration (generations.getD slot 0)
        else generations.getD slot' 0 := by
  unfold bumpGeneration
  dsimp only
  rw [getD_set _ _ (lt_length_grow generations slot 0), getD_grow, getD_grow]

/-! ## §3. What a step does to a slot. -/

/-- The connection of `occ'` is that of `occ`, with what was done for it since. -/
structure Descends (occ occ' : Occupant σ) : Prop where
  generation : occ'.connection.generation = occ.connection.generation
  log : occ.log <+: occ'.log

theorem Descends.refl (occ : Occupant σ) : Descends occ occ := ⟨rfl, List.prefix_refl _⟩

theorem Descends.trans {occ₁ occ₂ occ₃ : Occupant σ} (h : Descends occ₁ occ₂)
    (h' : Descends occ₂ occ₃) : Descends occ₁ occ₃ :=
  ⟨h'.generation.trans h.generation, h.log.trans h'.log⟩

/-- The slot was not given out. -/
structure Continues (slot : Nat) (w w' : IoUringWorker σ) : Prop where
  generation : w'.generations.getD slot 0 = w.generations.getD slot 0
  descends : ∀ occ', w'.connections.get slot = some occ' →
    ∃ occ, w.connections.get slot = some occ ∧ Descends occ occ'

/-- The slot was vacant and was given out. -/
structure Registers (slot : Nat) (w w' : IoUringWorker σ) : Prop where
  generation : w'.generations.getD slot 0 = nextGeneration (w.generations.getD slot 0)
  vacant : w.connections.get slot = none
  fresh : ∀ occ', w'.connections.get slot = some occ' →
    occ'.connection.generation = w'.generations.getD slot 0

theorem Continues.of_eq (hgenerations : w'.generations = w.generations)
    (hget : w'.connections.get slot = w.connections.get slot) : Continues slot w w' :=
  ⟨by rw [hgenerations], fun occ' h => ⟨occ', by rw [← hget]; exact h, .refl occ'⟩⟩

theorem Continues.trans {w₁ : IoUringWorker σ} (h : Continues slot w w₁)
    (h' : Continues slot w₁ w') : Continues slot w w' := by
  refine ⟨h'.generation.trans h.generation, ?_⟩
  intro occ' hget'
  obtain ⟨occ₁, hget₁, hdescends'⟩ := h'.descends occ' hget'
  obtain ⟨occ, hget, hdescends⟩ := h.descends occ₁ hget₁
  exact ⟨occ, hget, hdescends.trans hdescends'⟩

theorem Registers.continues {w₁ : IoUringWorker σ} (h : Registers slot w w₁)
    (h' : Continues slot w₁ w') : Registers slot w w' := by
  refine ⟨h'.generation.trans h.generation, h.vacant, ?_⟩
  intro occ' hget'
  obtain ⟨occ₁, hget₁, hdescends⟩ := h'.descends occ' hget'
  rw [hdescends.generation, h.fresh occ₁ hget₁, h'.generation]

theorem pushEntry_continues {world : World} {entry : Entry}
    (hrun : w.pushEntry world entry = .ok w') : Continues slot w w' := by
  unfold IoUringWorker.pushEntry at hrun
  split_ifs at hrun
  injection hrun with hrun
  subst hrun
  exact .of_eq rfl rfl

/-- A turn for a connection that is gone leaves every slot as it was. -/
theorem runTurn_stale_get {world : World} {id : ConnectionId} {event : TurnEvent}
    (hlive : ¬ w.Live id) (hevent : event.mayBeStale = true)
    (hrun : w.runTurn cfg world id event = .ok w') (slot : Nat) :
    w'.connections.get slot = w.connections.get slot := by
  obtain ⟨t, ht, rfl⟩ := runTurn_eq hrun
  rcases handleTurn_stale (w.env cfg world) (view_stale hlive) hevent with
    ⟨_, herr⟩ | ⟨t₁, hok, hmoved⟩
  · rw [herr] at ht
    cases ht
  · rw [hok] at ht
    injection ht with ht
    subst ht
    exact commit_stale_get hmoved event slot

/-- A turn for a live connection, or one that may come too late. -/
theorem runTurn_continues {world : World} {id : ConnectionId} {event : TurnEvent}
    (hlive : w.Live id ∨ event.mayBeStale = true)
    (hrun : w.runTurn cfg world id event = .ok w') : Continues slot w w' := by
  have hgenerations : w'.generations = w.generations := by
    obtain ⟨t, -, rfl⟩ := runTurn_eq hrun
    rfl
  by_cases hslot : id.slot = slot
  · subst hslot
    by_cases h : w.Live id
    · obtain ⟨occ, hget, hgen⟩ := h
      obtain ⟨t, ht, rfl⟩ := runTurn_eq hrun
      have hcur : (w.view id).Current occ.connection := view_current hget hgen
      have hlog : (w.view id).log = occ.log := view_log hget
      obtain ⟨c', pushed, acts, houtcome, hbecame⟩ := handleTurn_outcome hcur ht
      refine ⟨rfl, ?_⟩
      intro occ' hget'
      have hentry := commit_get_self hget event world t
      rw [hentry, hbecame.connection] at hget'
      obtain ⟨c₁, rfl, rfl⟩ := Option.map_eq_some_iff.mp hget'
      refine ⟨occ, hget, houtcome.sameClient.generation, ?_⟩
      show occ.log <+: t.log
      rw [hbecame.log, hlog]
      exact List.prefix_append _ _
    · exact .of_eq hgenerations (runTurn_stale_get h (hlive.resolve_left h) hrun _)
  · exact .of_eq hgenerations (runTurn_get_ne hrun hslot)

theorem slabTurns_continues {world : World} {select : UringConnection σ → Option TurnEvent}
    (hrun : runTurns cfg world (slabTurns select w.connections) w = .ok w') :
    Continues slot w w' := by
  unfold runTurns at hrun
  refine (foldlM_ok
    (fun (turns : List (ConnectionId × TurnEvent)) w₁ => Continues slot w w₁
      ∧ turns.Pairwise (fun a b => a.1.slot ≠ b.1.slot) ∧ ∀ turn ∈ turns, w₁.Live turn.1)
    ?_ ⟨.of_eq rfl rfl, slabTurns_pairwise select _, ?_⟩ hrun).1
  · rintro turn turns w₁ w₂ ⟨hcontinues, hpair, hlive⟩ hstep
    obtain ⟨hhead, hpair'⟩ := List.pairwise_cons.mp hpair
    refine ⟨hcontinues.trans (runTurn_continues (.inl (hlive turn List.mem_cons_self)) hstep),
      hpair', ?_⟩
    intro turn' hturn'
    obtain ⟨occ, hget, hgen⟩ := hlive turn' (List.mem_cons_of_mem _ hturn')
    exact ⟨occ, by rw [runTurn_get_ne hstep (hhead turn' hturn')]; exact hget, hgen⟩
  · intro turn hturn
    obtain ⟨occ, hget, hgen, -⟩ := mem_slabTurns hturn
    exact ⟨occ, hget, hgen⟩

theorem processDnsResults_continues {world : World} {results : List ResolveResult}
    (hrun : processDnsResults cfg world results w = .ok w') : Continues slot w w' := by
  unfold processDnsResults at hrun
  cases hturns : runTurns cfg world (results.map fun result =>
      (result.connectionId, TurnEvent.resolved result.addresses)) w with
  | error e => simp [bind, Except.bind, hturns] at hrun
  | ok w₁ =>
      simp only [bind, Except.bind, hturns] at hrun
      have h₁ : Continues slot w w₁ := by
        unfold runTurns at hturns
        rw [List.foldlM_map] at hturns
        exact foldlM_ok (fun _ w₂ => Continues slot w w₂)
          (fun result _ w₂ w₃ h₂ hstep => h₂.trans (runTurn_continues (.inr rfl) hstep))
          (.of_eq rfl rfl) hturns
      split_ifs at hrun
      · exact h₁.trans (pushEntry_continues hrun)
      · injection hrun with hrun
        exact hrun ▸ h₁

theorem checkProxyTimeouts_continues {world : World}
    (hrun : checkProxyTimeouts cfg world w = .ok w') : Continues slot w w' := by
  unfold checkProxyTimeouts at hrun
  cases h₁ : runTurns cfg world (slabTurns (proxyExpired cfg world.now) w.connections) w with
  | error e => simp [bind, Except.bind, h₁] at hrun
  | ok w₁ =>
      cases h₂ : runTurns cfg world
          (slabTurns (handshakeOverdue cfg world.now) w₁.connections) w₁ with
      | error e => simp [bind, Except.bind, h₁, h₂] at hrun
      | ok w₂ =>
          cases h₃ : w₂.pushEntry world .timerRead with
          | error e => simp [bind, Except.bind, h₁, h₂, h₃] at hrun
          | ok w₃ =>
              simp only [bind, Except.bind, h₁, h₂, h₃] at hrun
              exact (((slabTurns_continues h₁).trans (slabTurns_continues h₂)).trans
                (pushEntry_continues h₃)).trans (slabTurns_continues hrun)

theorem submitAccept_continues {world : World} {idx : Nat}
    (hrun : submitAccept world idx w = .ok w') : Continues slot w w' := by
  unfold submitAccept at hrun
  split at hrun
  · cases hrun
  next listener _ =>
    split_ifs at hrun
    · injection hrun with hrun
      exact hrun ▸ .of_eq rfl rfl
    · cases hpush : w.pushEntry world (.accept idx listener.generation listener.multishot) with
      | error e => simp [bind, Except.bind, hpush] at hrun
      | ok w₁ =>
          simp only [bind, Except.bind, hpush] at hrun
          injection hrun with hrun
          subst hrun
          exact (pushEntry_continues hpush).trans (.of_eq rfl rfl)

theorem new_generation {now : Instant} {socket : Socket} {generation : UInt16} {idx : Nat}
    {ssl : Option LoadedSslConfig} {connection : UringConnection σ}
    (h : UringConnection.new cfg.tls now socket generation idx ssl = some connection) :
    connection.generation = generation := by
  unfold UringConnection.new at h
  split at h
  · injection h with h
    rw [← h]
    rfl
  · split at h
    · cases h
    · injection h with h
      rw [← h]
      rfl

/-- An accepted socket: its slot is given out, every other slot is as it was. -/
theorem retainAccepted_slot {world : World} {socket : Socket} {idx : Nat}
    {listener : UringListener}
    (hrun : retainAccepted cfg world socket idx listener w = .ok w') :
    Continues slot w w' ∨ Registers slot w w' := by
  unfold retainAccepted at hrun
  dsimp only at hrun
  generalize hw₀ : { w with metrics := { w.metrics with accepted := w.metrics.accepted + 1 } } = w₀
    at hrun
  have hconnections₀ : w₀.connections = w.connections := by rw [← hw₀]
  have hgenerations₀ : w₀.generations = w.generations := by rw [← hw₀]
  have hvacant := Slab.get_vacantKey w.connections world.vacantKey
  cases hinsert : insertConnection cfg world socket idx listener w₀ with
  | mk id? w₁ =>
      rw [hinsert] at hrun
      rcases insertConnection_cases hinsert with ⟨rfl, generations, rfl, hgenerations⟩ |
        ⟨id, generations, connection, rfl, hslot, hnew, hw₁, hgenerations⟩
      · injection hrun with hrun
        subst hrun
        rw [hconnections₀, hgenerations₀] at hgenerations
        rcases hgenerations with rfl | rfl
        · exact .inl (.of_eq rfl (by rw [← hconnections₀]))
        · -- the connection could not be created
          by_cases hkey : w.connections.vacantKey world.vacantKey = slot
          · refine .inr ⟨?_, by rw [← hkey]; exact hvacant, ?_⟩
            · show List.getD (bumpGeneration _ _).2 slot 0 = _
              rw [bumpGeneration_getD, if_pos hkey, hkey]
            · intro occ' hget'
              rw [show w₀.connections = w.connections from hconnections₀, ← hkey, hvacant] at hget'
              cases hget'
          · refine .inl ⟨?_, ?_⟩
            · show List.getD (bumpGeneration _ _).2 slot 0 = _
              rw [bumpGeneration_getD, if_neg hkey]
            · intro occ' hget'
              exact ⟨occ', by rw [← hconnections₀]; exact hget', .refl occ'⟩
      · dsimp only at hrun
        rw [hconnections₀] at hslot
        rw [hgenerations₀] at hgenerations
        have hgen : id.generation = (bumpGeneration w.generations id.slot).1 := by
          rw [← hgenerations]
        have htable : w₁.generations = (bumpGeneration w.generations id.slot).2 := by
          rw [← hgenerations, hw₁]
        have hslab : w₁.connections = w.connections.insertAt id.slot
            ⟨connection, [.accepted connection.ssl.isSome]⟩ := by
          rw [hw₁, ← hconnections₀]
        have hle : id.slot ≤ w.connections.length := by
          rw [hslot]
          exact Slab.vacantKey_le _ _
        have hself : w₁.connections.get id.slot
            = some ⟨connection, [.accepted connection.ssl.isSome]⟩ := by
          rw [hslab]
          exact Slab.get_insertAt_self hle _
        have hnumber : connection.generation = id.generation := new_generation hnew
        have hturn : Continues slot w₁ w' := runTurn_continues (.inl ⟨_, hself, hnumber⟩) hrun
        by_cases hkey : id.slot = slot
        · refine .inr (Registers.continues ⟨?_, ?_, ?_⟩ hturn)
          · rw [htable, bumpGeneration_getD, if_pos hkey, hkey]
          · rw [← hkey, hslot]
            exact hvacant
          · intro occ' hget'
            rw [← hkey, hself] at hget'
            injection hget' with hget'
            rw [← hget', htable, bumpGeneration_getD, if_pos hkey, ← bumpGeneration_fst, ← hgen]
            exact hnumber
        · refine .inl (Continues.trans ⟨?_, ?_⟩ hturn)
          · rw [htable, bumpGeneration_getD, if_neg hkey]
          · intro occ' hget'
            rw [hslab, Slab.get_insertAt_ne hle hkey] at hget'
            exact ⟨occ', hget', .refl occ'⟩

theorem handleAcceptCompletion_slot {world : World} {idx : Nat} {generation : UInt16}
    {result : Int} {more : Bool}
    (hrun : handleAcceptCompletion cfg world idx generation result more w = .ok w') :
    Continues slot w w' ∨ Registers slot w w' := by
  unfold handleAcceptCompletion at hrun
  split at hrun
  · injection hrun with hrun
    exact .inl (hrun ▸ .of_eq rfl rfl)
  next listener _ =>
    split_ifs at hrun
    · injection hrun with hrun
      exact .inl (hrun ▸ .of_eq rfl rfl)
    · generalize listener.afterAccept result more = listener' at hrun
      cases hsettle : settleAccept cfg world idx listener' result
          { w with listeners := w.listeners.set idx listener' } with
      | error e => simp [bind, Except.bind, hsettle] at hrun
      | ok w₁ =>
          simp only [bind, Except.bind, hsettle] at hrun
          have hrest : Continues slot w₁ w' := by
            split_ifs at hrun
            · exact submitAccept_continues hrun
            · injection hrun with hrun
              exact hrun ▸ .of_eq rfl rfl
          have hfirst : Continues slot w w₁ ∨ Registers slot w w₁ := by
            unfold settleAccept at hsettle
            split_ifs at hsettle
            · injection hsettle with hsettle
              subst hsettle
              exact .inl (.of_eq rfl rfl)
            · rcases retainAccepted_slot hsettle with hcontinues | hregisters
              · exact .inl ⟨hcontinues.generation, hcontinues.descends⟩
              · exact .inr ⟨hregisters.generation, hregisters.vacant, hregisters.fresh⟩
            · injection hsettle with hsettle
              subst hsettle
              exact .inl (.of_eq rfl rfl)
            · injection hsettle with hsettle
              subst hsettle
              exact .inl (.of_eq rfl rfl)
          rcases hfirst with hcontinues | hregisters
          · exact .inl (hcontinues.trans hrest)
          · exact .inr (hregisters.continues hrest)

theorem loopTop_continues {world : World} (hrun : loopTop cfg world w = .ok w') :
    Continues slot w w' := by
  have hbegin : ∀ {w₁ : IoUringWorker σ}, beginShutdown world w = .ok w₁ →
      Continues slot w w₁ := by
    intro w₁ hw₁
    unfold beginShutdown at hw₁
    split_ifs at hw₁
    · injection hw₁ with hw₁
      exact hw₁ ▸ .of_eq rfl rfl
    · dsimp only at hw₁
      refine foldlM_ok (fun (_ : List Entry) w₂ => Continues slot w w₂)
        (fun entry _ w₂ w₃ h₂ hstep => h₂.trans (pushEntry_continues hstep)) ?_ hw₁
      exact .of_eq rfl rfl
  unfold loopTop at hrun
  simp only [bind, Except.bind, pure, Except.pure] at hrun
  split_ifs at hrun
  · cases hw₁ : beginShutdown world w with
    | error e => rw [hw₁] at hrun; cases hrun
    | ok w₁ =>
        rw [hw₁] at hrun
        dsimp only at hrun
        split_ifs at hrun
        injection hrun with hrun
        exact hrun ▸ hbegin hw₁
  · injection hrun with hrun
    exact hrun ▸ .of_eq rfl rfl

/-- A step gives no slot out, or handles a completed accept. -/
theorem step_accepts {event : Event} (hrun : step cfg event w = .ok w') :
    (∀ slot, Continues slot w w')
    ∨ ∃ world listener generation result more w₁, w₁.connections = w.connections
        ∧ w₁.generations = w.generations
        ∧ handleAcceptCompletion cfg world listener generation result more w₁ = .ok w' := by
  cases event with
  | requestShutdown =>
      injection hrun with hrun
      subst hrun
      exact .inl (fun slot => .of_eq rfl rfl)
  | loopTop world => exact .inl (fun slot => loopTop_continues hrun)
  | completed index completion dns world =>
      unfold step at hrun
      dsimp only at hrun
      split at hrun
      · injection hrun with hrun
        exact .inl (fun slot => hrun ▸ .of_eq rfl rfl)
      next entry hentry =>
        generalize hw₁ : (if entry.persists completion.more then w
          else { w with inFlight := w.inFlight.eraseIdx index }) = w₁ at hrun
        have hsame : w₁.connections = w.connections ∧ w₁.generations = w.generations := by
          rw [← hw₁]
          split_ifs <;> exact ⟨rfl, rfl⟩
        have hbefore : ∀ slot, Continues slot w w₁ := fun slot =>
          .of_eq hsame.2 (by rw [hsame.1])
        cases entry with
        | operation id op =>
            exact .inl (fun slot => (hbefore slot).trans
              (runTurn_continues (.inr (op.turnEvent_mayBeStale completion)) hrun))
        | shutdownRead =>
            injection hrun with hrun
            subst hrun
            exact .inl (fun slot => (hbefore slot).trans (.of_eq rfl rfl))
        | cancel listener generation =>
            injection hrun with hrun
            subst hrun
            exact .inl (fun slot => (hbefore slot).trans (.of_eq rfl rfl))
        | proxyCancel id kind =>
            injection hrun with hrun
            exact .inl (fun slot => hrun ▸ hbefore slot)
        | dnsRead =>
            exact .inl (fun slot => (hbefore slot).trans (processDnsResults_continues hrun))
        | timerRead =>
            exact .inl (fun slot => (hbefore slot).trans (checkProxyTimeouts_continues hrun))
        | accept listener generation multishot =>
            exact .inr ⟨world, listener, generation, _, _, w₁, hsame.1, hsame.2, hrun⟩

/-- **A step leaves a slot its occupation, or gives it out.** -/
theorem step_slot (slot : Nat) {event : Event} (hrun : step cfg event w = .ok w') :
    Continues slot w w' ∨ Registers slot w w' := by
  rcases step_accepts hrun with hall | ⟨world, _, _, _, _, w₁, hconnections, hgenerations, haccept⟩
  · exact .inl (hall slot)
  · have hbefore : Continues slot w w₁ := .of_eq hgenerations (by rw [hconnections])
    rcases handleAcceptCompletion_slot haccept with hcontinues | hregisters
    · exact .inl (hbefore.trans hcontinues)
    · refine .inr ⟨?_, ?_, hregisters.fresh⟩
      · rw [hregisters.generation, hgenerations]
      · rw [← hconnections]
        exact hregisters.vacant

/-! ## §4. Runs. -/

/-- How often the slot is given out in a run: each time its generation moves on. -/
def registrationsDuring (cfg : Config σ) (slot : Nat) :
    List Event → IoUringWorker σ → Nat
  | [], _ => 0
  | event :: events, w =>
      match step cfg event w with
      | .error _ => 0
      | .ok w' =>
          (if w'.generations.getD slot 0 = w.generations.getD slot 0 then 0 else 1)
            + registrationsDuring cfg slot events w'

/-- The generation of a slot counts its registrations; a slot that was not given
out has the connection it had, if any. -/
theorem replay_slot (slot : Nat) : ∀ {events : List Event} {w w' : IoUringWorker σ},
    replay cfg events w = .ok w' →
    w'.generations.getD slot 0
        = nextGeneration^[registrationsDuring cfg slot events w] (w.generations.getD slot 0)
      ∧ (registrationsDuring cfg slot events w = 0 → Continues slot w w')
  | [], w, w', hrun => by
      injection hrun with hrun
      subst hrun
      exact ⟨rfl, fun _ => .of_eq rfl rfl⟩
  | event :: events, w, w', hrun => by
      unfold replay at hrun
      unfold registrationsDuring
      cases hstep : step cfg event w with
      | error exit =>
          rw [hstep] at hrun
          cases hrun
      | ok w₁ =>
          rw [hstep] at hrun
          dsimp only at hrun ⊢
          obtain ⟨hcount, hrest⟩ := replay_slot slot hrun
          rcases step_slot slot hstep with hcontinues | hregisters
          · rw [if_pos hcontinues.generation, Nat.zero_add, hcount, hcontinues.generation]
            exact ⟨rfl, fun hzero => hcontinues.trans (hrest hzero)⟩
          · have hmoved : w₁.generations.getD slot 0 ≠ w.generations.getD slot 0 := by
              rw [hregisters.generation]
              exact nextGeneration_ne_self _
            rw [if_neg hmoved, hcount, hregisters.generation, Nat.add_comm,
              Function.iterate_succ_apply]
            exact ⟨rfl, fun hone => (by omega)⟩

/-- A live connection has the generation of its slot. -/
def Tabled (w : IoUringWorker σ) : Prop :=
  ∀ slot occ, w.connections.get slot = some occ →
    occ.connection.generation = w.generations.getD slot 0 ∧ occ.connection.generation ≠ 0

theorem Tabled.step {event : Event} (h : Tabled w) (hrun : step cfg event w = .ok w') :
    Tabled w' := by
  intro slot occ' hget'
  rcases step_slot slot hrun with hcontinues | hregisters
  · obtain ⟨occ, hget, hdescends⟩ := hcontinues.descends occ' hget'
    rw [hdescends.generation, hcontinues.generation]
    exact h slot occ hget
  · have hfresh := hregisters.fresh occ' hget'
    refine ⟨hfresh, ?_⟩
    rw [hfresh, hregisters.generation]
    exact nextGeneration_ne_zero _

/-- The worker starts with an empty slab. -/
theorem start_connections {world : World} {w₀ : IoUringWorker σ}
    (hnew : IoUringWorker.new cfg = .ok w₀) (hstart : start world w₀ = .ok w) :
    w.connections.get slot = none := by
  have hempty : w₀.connections = [] := by
    unfold IoUringWorker.new at hnew
    split at hnew
    · cases hnew
    · split_ifs at hnew
      injection hnew with hnew
      rw [← hnew]
  have hcontinues : Continues slot w₀ w := by
    unfold start at hstart
    cases h₁ : (List.range w₀.listeners.length).foldlM
        (fun w idx => submitAccept world idx w) w₀ with
    | error e => simp [bind, Except.bind, h₁] at hstart
    | ok w₁ =>
        have hw₁ : Continues slot w₀ w₁ := foldlM_ok (fun _ w => Continues slot w₀ w)
          (fun _ _ _ _ h₂ hstep => h₂.trans (submitAccept_continues hstep)) (.of_eq rfl rfl) h₁
        cases h₂ : w₁.pushEntry world .shutdownRead with
        | error e => simp [bind, Except.bind, h₁, h₂] at hstart
        | ok w₂ =>
            cases h₃ : w₂.pushEntry world .dnsRead with
            | error e => simp [bind, Except.bind, h₁, h₂, h₃] at hstart
            | ok w₃ =>
                simp only [bind, Except.bind, h₁, h₂, h₃] at hstart
                exact ((hw₁.trans (pushEntry_continues h₂)).trans (pushEntry_continues h₃)).trans
                  (pushEntry_continues hstart)
  cases hget : w.connections.get slot with
  | none => rfl
  | some occ' =>
      obtain ⟨occ, hocc, -⟩ := hcontinues.descends occ' hget
      rw [hempty] at hocc
      simp [Slab.get] at hocc

theorem Reachable.tabled (h : Reachable cfg w) : Tabled w := by
  induction h with
  | start world hnew hstart =>
      intro slot occ hget
      rw [start_connections hnew hstart] at hget
      cases hget
  | step event _ hstep ih => exact ih.step hstep

/-- **An id that is live again** before its slot was given out a period of times
means the same occupation. -/
theorem same_occupation {events : List Event} {id : ConnectionId} (h : Reachable cfg w)
    (hrun : replay cfg events w = .ok w')
    (hfew : registrationsDuring cfg id.slot events w < 65535) (hlive : w.Live id)
    (hlive' : w'.Live id) : registrationsDuring cfg id.slot events w = 0 := by
  obtain ⟨occ, hget, hgen⟩ := hlive
  obtain ⟨occ', hget', hgen'⟩ := hlive'
  obtain ⟨htable, hnonzero⟩ := h.tabled id.slot occ hget
  obtain ⟨htable', -⟩ := (h.replay hrun).tabled id.slot occ' hget'
  have hcount := (replay_slot id.slot hrun).1
  rw [← htable, ← htable', hgen, hgen'] at hcount
  rw [hgen] at hnonzero
  have hdvd := (nextGeneration_iterate_eq_iff hnonzero _).mp hcount.symm
  exact Nat.eq_zero_of_dvd_of_lt hdvd hfew

/-! ## §5. What a completion names. -/

/-- The ids a completion carries: its own, or those of the resolver's results. -/
def Event.ids (w : IoUringWorker σ) : Event → Option (List ConnectionId)
  | .completed index _ dns _ =>
      match w.inFlight[index]? with
      | some (.operation id _) => some [id]
      | some .dnsRead => some (dns.map ResolveResult.connectionId)
      | _ => none
  | _ => none

theorem runTurn_keeps {world : World} {id : ConnectionId} {event : TurnEvent} {occ : Occupant σ}
    (hevent : event.mayBeStale = true) (hrun : w.runTurn cfg world id event = .ok w')
    (hget : w.connections.get slot = some occ)
    (hid : (⟨slot, occ.connection.generation⟩ : ConnectionId) ≠ id) :
    w'.connections.get slot = some occ := by
  by_cases hslot : id.slot = slot
  · subst hslot
    have hlive : ¬ w.Live id := by
      rintro ⟨occ₁, hget₁, hgen₁⟩
      rw [hget] at hget₁
      injection hget₁ with hget₁
      subst hget₁
      exact hid (by rw [hgen₁])
    rw [runTurn_stale_get hlive hevent hrun]
    exact hget
  · rw [runTurn_get_ne hrun hslot]
    exact hget

theorem processDnsResults_keeps {world : World} {results : List ResolveResult} {occ : Occupant σ}
    (hrun : processDnsResults cfg world results w = .ok w')
    (hget : w.connections.get slot = some occ)
    (hnamed : (⟨slot, occ.connection.generation⟩ : ConnectionId)
      ∉ results.map ResolveResult.connectionId) : w'.connections.get slot = some occ := by
  unfold processDnsResults at hrun
  cases hturns : runTurns cfg world (results.map fun result =>
      (result.connectionId, TurnEvent.resolved result.addresses)) w with
  | error e => simp [bind, Except.bind, hturns] at hrun
  | ok w₁ =>
      simp only [bind, Except.bind, hturns] at hrun
      have h₁ : w₁.connections.get slot = some occ := by
        unfold runTurns at hturns
        rw [List.foldlM_map] at hturns
        refine (foldlM_ok (fun (rest : List ResolveResult) w₂ =>
          (∀ result ∈ rest, (⟨slot, occ.connection.generation⟩ : ConnectionId)
            ≠ result.connectionId) ∧ w₂.connections.get slot = some occ) ?_ ⟨?_, hget⟩ hturns).2
        · rintro result rest w₂ w₃ ⟨hrest, hsame⟩ hstep
          exact ⟨fun other hother => hrest other (List.mem_cons_of_mem _ hother),
            runTurn_keeps rfl hstep hsame (hrest result List.mem_cons_self)⟩
        · intro result hresult heq
          exact hnamed (heq ▸ List.mem_map_of_mem hresult)
      split_ifs at hrun
      · unfold IoUringWorker.pushEntry at hrun
        split_ifs at hrun
        injection hrun with hrun
        subst hrun
        exact h₁
      · injection hrun with hrun
        exact hrun ▸ h₁

/-- **A connection that a completion does not name is left as it was.** -/
theorem step_keeps {event : Event} {ids : List ConnectionId} {occ : Occupant σ}
    (hids : event.ids w = some ids) (hrun : step cfg event w = .ok w')
    (hget : w.connections.get slot = some occ)
    (hnamed : (⟨slot, occ.connection.generation⟩ : ConnectionId) ∉ ids) :
    w'.connections.get slot = some occ := by
  cases event with
  | requestShutdown => cases hids
  | loopTop => cases hids
  | completed index completion dns world =>
      unfold Event.ids at hids
      unfold step at hrun
      dsimp only at hids hrun
      cases hentry : w.inFlight[index]? with
      | none =>
          rw [hentry] at hids
          cases hids
      | some entry =>
          rw [hentry] at hids hrun
          cases entry with
          | shutdownRead | timerRead | cancel | proxyCancel | accept => cases hids
          | operation id op =>
              injection hids with hids
              refine runTurn_keeps (op.turnEvent_mayBeStale completion) hrun hget ?_
              rintro rfl
              exact hnamed (by rw [← hids]; exact List.mem_singleton.mpr rfl)
          | dnsRead =>
              injection hids with hids
              change processDnsResults cfg world dns
                { w with inFlight := w.inFlight.eraseIdx index } = .ok w' at hrun
              exact processDnsResults_keeps hrun hget (by rw [hids]; exact hnamed)

end Thwip.IoUring
