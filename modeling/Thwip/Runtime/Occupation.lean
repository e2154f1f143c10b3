/-
  Thwip.Runtime.Occupation — stale events in both workers.

  Slots are reused while ready events, completions, entries of the pending sets
  and answers of the resolver still carry the ids of earlier connections.  In
  both workers an event changes only connections whose id it carries, and an id
  means one occupation of its slot until the generations have run through a
  whole period.
-/
import Thwip.IoUring.Occupation
import Thwip.IoUring.SendBuffer
import Thwip.Readiness.Occupation

namespace Thwip

open Thwip.Lib

variable {σ τ : Type}

namespace Readiness

variable {cfg : Config σ} {w w' : ReadinessWorker σ}

/-- The rule that asks for nothing. -/
def trivialRule (cfg : Config σ) : SeatRule cfg where
  Inv _ _ := True
  Gone _ := True
  Guard _ := True
  fresh _ _ := trivial
  poll _ _ := trivial
  move _ _ _ _ _ _ _ _ _ _ := ⟨fun _ _ => trivial, fun _ => trivial⟩

/-- **The connection an id finds** is the one it was issued for. -/
theorem live_again_descends {events : List Event} {id : ConnectionId} {occ' : Occupant σ}
    (h : Reachable cfg w) (hlive : w.Live id) (hrun : replay cfg events w = .ok w')
    (hfew : w'.registrations id.slot < w.registrations id.slot + generationMask usizeBits)
    (hget' : w'.connections.get id.slot = some occ')
    (hgen' : occ'.connection.generation = id.generation) :
    w'.registrations id.slot = w.registrations id.slot
      ∧ ∃ occ, w.connections.get id.slot = some occ ∧ occ.log <+: occ'.log := by
  have hpath := replay_atoms hrun
  have hsame := h.numbered.same_occupation (h.replay hrun).numbered (registrations_le hpath) hfew
    hlive ⟨occ', hget', hgen'⟩
  have hgrowth : Growth (trivialRule cfg) (fun _ _ => True) :=
    ⟨fun _ => trivial, fun _ _ => trivial, fun _ _ _ _ _ => trivial⟩
  obtain ⟨occ, hget, hdescends⟩ := hgrowth.atoms ((trivialRule cfg).holds h) hpath
    (fun _ _ => trivial) hsame hget'
  exact ⟨hsame, occ, hget, hdescends.log⟩

end Readiness

/-- **Stale ids are harmless in both workers**: an event that carries ids changes
no connection but those it names, and the connection an id names is the one it was
issued for, as long as its slot was since given out fewer times than the period
of the generations. The period is exact, and generation `0` is never assigned. -/
theorem ids_mean_one_occupation (cfg : Readiness.Config σ) (ucfg : IoUring.Config τ) :
    (∀ w, Readiness.Reachable cfg w → ∀ (event : Readiness.Event) ids w',
      event.ids w = some ids → Readiness.step cfg event w = .ok w' →
      ∀ slot occ, w.connections.get slot = some occ → w'.connections.get slot ≠ some occ →
        (⟨slot, occ.connection.generation⟩ : Readiness.ConnectionId) ∈ ids)
    ∧ (∀ w, Readiness.Reachable cfg w → ∀ id, w.Live id → ∀ events w',
      Readiness.replay cfg events w = .ok w' →
      w'.registrations id.slot < w.registrations id.slot + (2 ^ 30 - 1) →
      ∀ occ', w'.connections.get id.slot = some occ' →
        occ'.connection.generation = id.generation →
        w'.registrations id.slot = w.registrations id.slot
          ∧ ∃ occ, w.connections.get id.slot = some occ ∧ occ.log <+: occ'.log)
    ∧ (∀ (id : Readiness.ConnectionId) role token, id.token usizeBits role = .ok token →
      Readiness.ConnectionId.fromToken usizeBits token = some (id, role))
    ∧ (∀ w, IoUring.Reachable ucfg w → ∀ (event : IoUring.Event) ids w',
      event.ids w = some ids → IoUring.step ucfg event w = .ok w' →
      ∀ slot occ, w.connections.get slot = some occ → w'.connections.get slot ≠ some occ →
        (⟨slot, occ.connection.generation⟩ : IoUring.ConnectionId) ∈ ids)
    ∧ (∀ w, IoUring.Reachable ucfg w → ∀ id, w.Live id → ∀ events w',
      IoUring.replay ucfg events w = .ok w' →
      IoUring.registrationsDuring ucfg id.slot events w < 65535 →
      ∀ occ', w'.connections.get id.slot = some occ' →
        occ'.connection.generation = id.generation →
        IoUring.registrationsDuring ucfg id.slot events w = 0
          ∧ ∃ occ, w.connections.get id.slot = some occ ∧ occ.log <+: occ'.log)
    ∧ (∀ id : IoUring.OperationId, id.slot < 2 ^ 32 → id.generation ≠ 0 →
      IoUring.OperationId.decode id.encode = some id)
    ∧ (∀ previous, Readiness.nextGeneration 64 previous ≠ 0)
    ∧ (∀ generation, generation ≠ 0 → generation < 2 ^ 30 →
      Function.minimalPeriod (Readiness.nextGeneration 64) generation = 2 ^ 30 - 1)
    ∧ (∀ previous, IoUring.nextGeneration previous ≠ 0)
    ∧ (∀ generation, generation ≠ 0 →
      Function.minimalPeriod IoUring.nextGeneration generation = 65535) := by
  refine ⟨?_, ?_, ?_, ?_, ?_, IoUring.OperationId.decode_encode,
    Readiness.nextGeneration_ne_zero, ?_, IoUring.nextGeneration_ne_zero,
    fun _ => IoUring.nextGeneration_minimalPeriod⟩
  · intro w _ event ids w' hids hrun slot occ hget hchanged
    by_contra hnamed
    exact hchanged (Readiness.step_keeps hids hrun hget hnamed)
  · intro w h id hlive events w' hrun hfew occ' hget' hgen'
    exact Readiness.live_again_descends h hlive hrun hfew hget' hgen'
  · intro id role token htoken
    exact Readiness.fromToken_of_token (by decide) htoken
  · intro w _ event ids w' hids hrun slot occ hget hchanged
    by_contra hnamed
    exact hchanged (IoUring.step_keeps hids hrun hget hnamed)
  · intro w h id hlive events w' hrun hfew occ' hget' hgen'
    have hzero := IoUring.same_occupation h hrun hfew hlive ⟨occ', hget', hgen'⟩
    obtain ⟨occ, hget, hdescends⟩ :=
      ((IoUring.replay_slot id.slot hrun).2 hzero).descends occ' hget'
    exact ⟨hzero, occ, hget, hdescends.log⟩
  · intro generation hne hlt
    exact Readiness.nextGeneration_minimalPeriod (Nat.pos_of_ne_zero hne) (Nat.le_pred_of_lt hlt)

section Example

/-- The first client is gone and its slot is reused. -/
def reusedSlot : List Readiness.Event :=
  [Readiness.acceptOne, .poll,
   .ready { token := ((Readiness.firstId.token usizeBits .client).toOption).getD 0
            readable := false, writable := false, error := true, readClosed := false
            writeClosed := false } [] [] (fun _ => .quiet),
   Readiness.acceptOne, .poll]

/-- A late report that the first client has closed. -/
def lateClose : Readiness.Event :=
  Readiness.firstReady .client true true { Readiness.Io.quiet with reads := [.ok []] }

/-- The same in the other worker, where the first client has left a send behind. -/
def reusedSlotSending : List IoUring.Event :=
  IoUring.firstFlight ++ [.completed 5 (.plain 0) [] .quiet, .accepts 6]

def lateSend : IoUring.Event := .completed 4 (.plain 1) [] .quiet

/-- The second client of the slot is left alone. -/
theorem ids_mean_one_occupation_reusedSlot :
    (∃ w w', Readiness.Reachable (Readiness.plainWorker []) w
      ∧ Readiness.step (Readiness.plainWorker []) lateClose w = .ok w'
      ∧ ∃ occ, w.connections.get 0 = some occ ∧ occ.connection.generation = 2
        ∧ w'.connections.get 0 = some occ)
    ∧ (∃ w w', IoUring.Reachable IoUring.toyHandshake w
      ∧ IoUring.step IoUring.toyHandshake lateSend w = .ok w'
      ∧ ∃ occ, w.connections.get 0 = some occ ∧ occ.connection.generation = 2
        ∧ w'.connections.get 0 = some occ) := by
  have hrun : Readiness.bootsTo (Readiness.plainWorker []) reusedSlot (fun w =>
      lateClose.ids w == some [Readiness.firstId]
        && (w.connections.get 0).any (fun occ => occ.connection.generation == 2)
        && (Readiness.step (Readiness.plainWorker []) lateClose w).isOk) = true := by
    decide +kernel
  have hrun' : IoUring.bootsTo IoUring.toyHandshake .quiet reusedSlotSending (fun w =>
      lateSend.ids w == some [⟨0, 1⟩]
        && (w.connections.get 0).any (fun occ => occ.connection.generation == 2)
        && (IoUring.step IoUring.toyHandshake lateSend w).isOk) = true := by
    decide +kernel
  obtain ⟨hnamed, -, -, hnamed', -⟩ :=
    ids_mean_one_occupation (Readiness.plainWorker []) IoUring.toyHandshake
  constructor
  · obtain ⟨w, hw, hp⟩ := Readiness.reachable_of_bootsTo hrun
    simp only [Bool.and_eq_true, beq_iff_eq, Option.any_eq_true] at hp
    obtain ⟨⟨hids, occ, hget, hgen⟩, hok⟩ := hp
    cases hstep : Readiness.step (Readiness.plainWorker []) lateClose w with
    | error exit => simp [hstep, Except.isOk, Except.toBool] at hok
    | ok w' =>
        refine ⟨w, w', hw, hstep, occ, hget, hgen, ?_⟩
        by_contra hchanged
        have hmem := hnamed w hw lateClose _ w' hids hstep 0 occ hget hchanged
        rw [hgen] at hmem
        exact absurd hmem (by decide)
  · obtain ⟨w, hw, hp⟩ := IoUring.reachable_of_bootsTo hrun'
    simp only [Bool.and_eq_true, beq_iff_eq, Option.any_eq_true] at hp
    obtain ⟨⟨hids, occ, hget, hgen⟩, hok⟩ := hp
    cases hstep : IoUring.step IoUring.toyHandshake lateSend w with
    | error exit => simp [hstep, Except.isOk, Except.toBool] at hok
    | ok w' =>
        refine ⟨w, w', hw, hstep, occ, hget, hgen, ?_⟩
        by_contra hchanged
        have hmem := hnamed' w hw lateSend _ w' hids hstep 0 occ hget hchanged
        rw [hgen] at hmem
        exact absurd hmem (by decide)

end Example

end Thwip
