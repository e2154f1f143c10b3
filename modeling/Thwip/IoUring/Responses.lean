/-
  Thwip.IoUring.Responses — how often a response is counted.

  `metrics.response()` is called where a connection is removed, and nowhere else,
  so a connection is counted once at most.  The metric is the sum over all
  connections there were, and there were no more than were accepted.
-/
import Mathlib.Algebra.Order.BigOperators.Group.List
import Thwip.IoUring.Changes
import Thwip.IoUring.Shared

namespace Thwip.IoUring

open Thwip.Lib

variable {σ : Type} {cfg : Config σ} {w w' : IoUringWorker σ} {id : ConnectionId}

/-! ## §1. Sums over all connections. -/

/-- The weight of a trace that is in the history. -/
def HistoryItem.weight (f : List Act → Nat) : HistoryItem σ → Nat
  | .removed _ log _ => f log
  | _ => 0

/-- The weight of every connection there was: those in the slab, and those that
were removed. -/
def IoUringWorker.weight (f : List Act → Nat) (w : IoUringWorker σ) : Nat :=
  w.connections.total (fun occ => f occ.log) + (w.history.map (HistoryItem.weight f)).sum

theorem weight_commit (f : List Act → Nat) {occ : Occupant σ}
    (hget : w.connections.get id.slot = some occ) (event : TurnEvent) (world : World)
    (t : Turn σ) : (w.commit id event world t).weight f + f occ.log = w.weight f + f t.log := by
  have hset := Slab.total_set (fun occ : Occupant σ => f occ.log)
    (t.connection.map (fun connection => { connection, log := t.log })) (Slab.lt_of_get hget)
  rw [hget] at hset
  unfold IoUringWorker.weight IoUringWorker.commit IoUringWorker.turnItems
  rw [hget]
  dsimp only at hset ⊢
  cases hconnection : t.connection with
  | some c =>
      simp only [hconnection, Option.map_some, Option.elim_some, Option.isSome_some, if_true,
        List.map_append, List.map_cons, List.map_nil, List.sum_append, List.sum_singleton,
        HistoryItem.weight] at hset ⊢
      omega
  | none =>
      -- the trace moves from the slab to the history
      simp only [hconnection, Option.map_none, Option.elim_none, Option.elim_some,
        Option.isSome_none, Bool.false_eq_true, if_false, List.map_append, List.map_cons,
        List.map_nil, List.sum_append, List.sum_cons, List.sum_nil, HistoryItem.weight] at hset ⊢
      omega

theorem weight_commit_vacant (f : List Act → Nat) (hget : w.connections.get id.slot = none)
    (event : TurnEvent) (world : World) {t : Turn σ} (hnone : t.connection = none) :
    (w.commit id event world t).weight f = w.weight f := by
  unfold IoUringWorker.weight IoUringWorker.commit IoUringWorker.turnItems
  rw [hget, hnone]
  simp [HistoryItem.weight, Slab.total_set_none hget]

/-! ## §2. The books. -/

/-- The metric agrees with the traces. -/
structure Balanced (w : IoUringWorker σ) : Prop where
  metric : w.metrics.responses = w.weight responseCount
  accepted : w.weight (fun _ => 1) ≤ w.metrics.accepted
  live : ∀ slot occ, w.connections.get slot = some occ → responseCount occ.log = 0
  gone : ∀ id log ops, HistoryItem.removed id log ops ∈ w.history → responseCount log ≤ 1

theorem Balanced.of_eq (h : Balanced w) (hmetrics : w'.metrics.responses = w.metrics.responses)
    (haccepted : w'.metrics.accepted = w.metrics.accepted)
    (hconnections : w'.connections = w.connections) (hhistory : w'.history = w.history) :
    Balanced w' := by
  have hweight : ∀ f, w'.weight f = w.weight f := by
    intro f
    unfold IoUringWorker.weight
    rw [hconnections, hhistory]
  refine ⟨?_, ?_, ?_, ?_⟩
  · rw [hmetrics, hweight]
    exact h.metric
  · rw [haccepted, hweight]
    exact h.accepted
  · rw [hconnections]
    exact h.live
  · rw [hhistory]
    exact h.gone

/-- One turn, on whatever is in the slot. -/
theorem Balanced.turn {world : World} {event : TurnEvent} (h : Balanced w)
    (hlive : w.Live id ∨ event.mayBeStale = true)
    (hrun : w.runTurn cfg world id event = .ok w') : Balanced w' := by
  obtain ⟨t, ht, rfl⟩ := runTurn_eq hrun
  have hreleases := handleTurn_releases ht
  have haccepted : t.metrics.accepted = w.metrics.accepted := by
    have haccepted : t.shared.accepted = (w.view id).shared.accepted := by
      rcases hreleases with heq | ⟨heq, -⟩ <;> rw [heq] <;> rfl
    exact haccepted
  cases hget : w.connections.get id.slot with
  | none =>
      have hvacant : (w.view id).connection = none := by simp [IoUringWorker.view, hget]
      have hstale : event.mayBeStale = true := by
        rcases hlive with ⟨occ, hocc, -⟩ | hstale
        · rw [hget] at hocc
          cases hocc
        · exact hstale
      have hvacated : (w.view id).Stale := by
        intro c hc
        rw [hvacant] at hc
        cases hc
      rcases handleTurn_stale (w.env cfg world) hvacated hstale with ⟨_, herr⟩ | ⟨t₁, hok, hmoved⟩
      · rw [herr] at ht
        cases ht
      · rw [hok] at ht
        injection ht with ht
        subst ht
        have hnone : t₁.connection = none := hmoved.connection.trans hvacant
        have hlog : t₁.log = (w.view id).log := by rw [hmoved.log, List.append_nil]
        have hmetrics : t₁.metrics.responses = w.metrics.responses := by
          rcases hreleases with heq | ⟨heq, -⟩
          · exact congrArg Shared.responses heq
          · -- nothing was noted, so nothing was counted
            have hcounted : responseCount t₁.log = responseCount (w.view id).log + 1 :=
              congrArg Shared.counted heq
            rw [hlog] at hcounted
            omega
        have hslab : ∀ slot, (w.commit id event world t₁).connections.get slot
            = w.connections.get slot := commit_stale_get hmoved event
        refine ⟨?_, ?_, fun slot occ hocc => h.live slot occ (hslab slot ▸ hocc), ?_⟩
        · rw [weight_commit_vacant _ hget event world hnone]
          exact hmetrics.trans h.metric
        · rw [weight_commit_vacant _ hget event world hnone]
          exact haccepted ▸ h.accepted
        · intro id' log ops hmem
          rcases List.mem_append.mp hmem with hold | hnew
          · exact h.gone id' log ops hold
          · simp [IoUringWorker.turnItems, hget] at hnew
  | some occ =>
      have hlog : (w.view id).log = occ.log := view_log hget
      have hzero := h.live id.slot occ hget
      -- the metric grows by what the trace does, and that ends the connection
      have hcount : ∃ n, n ≤ 1 ∧ t.metrics.responses = w.metrics.responses + n
          ∧ responseCount t.log = responseCount occ.log + n ∧ (t.connection ≠ none → n = 0) := by
        rcases hreleases with heq | ⟨heq, hnone⟩
        · refine ⟨0, by omega, congrArg Shared.responses heq, ?_, fun _ => rfl⟩
          rw [← hlog]
          exact congrArg Shared.counted heq
        · refine ⟨1, by omega, congrArg Shared.responses heq, ?_, fun hne => absurd hnone hne⟩
          rw [← hlog]
          exact congrArg Shared.counted heq
      obtain ⟨n, hle, hmetrics, htrace, hends⟩ := hcount
      refine ⟨?_, ?_, ?_, ?_⟩
      · have hweight := weight_commit responseCount hget event world t
        have hbefore := h.metric
        show t.metrics.responses = _
        omega
      · have hweight := weight_commit (fun _ => 1) hget event world t
        have hbefore := h.accepted
        show _ ≤ t.metrics.accepted
        omega
      · intro slot occ' hget'
        by_cases hslot : id.slot = slot
        · subst hslot
          have hentry := commit_get_self hget event world t
          rw [hentry] at hget'
          obtain ⟨c, hc, rfl⟩ := Option.map_eq_some_iff.mp hget'
          have hnone := hends (by rw [hc]; simp)
          show responseCount t.log = 0
          omega
        · have hsame : (w.commit id event world t).connections.get slot
              = w.connections.get slot := Slab.get_set_ne _ hslot _
          exact h.live slot occ' (hsame ▸ hget')
      · intro id' log ops hmem
        rcases List.mem_append.mp hmem with hold | hnew
        · exact h.gone id' log ops hold
        · unfold IoUringWorker.turnItems at hnew
          rw [hget] at hnew
          dsimp only at hnew
          split_ifs at hnew
          · simp at hnew
          · simp only [List.mem_cons, reduceCtorEq, HistoryItem.removed.injEq, List.not_mem_nil,
              or_false, false_or] at hnew
            rw [hnew.2.1]
            omega

theorem Balanced.change (h : Balanced w) (hchange : Change cfg w w') : Balanced w' := by
  cases hchange with
  | turn _ _ _ _ hlive hrun => exact h.turn hlive hrun
  | pushed | failed | flags => exact h.of_eq rfl rfl rfl rfl
  | dropped =>
      exact ⟨h.metric, Nat.le_succ_of_le h.accepted, h.live, h.gone⟩
  | inserted now socket listenerIndex ssl id connection generations hvacant hle =>
      have hweight : ∀ f : List Act → Nat, f [.accepted connection.ssl.isSome]
          + w.weight f = IoUringWorker.weight f
            { w with
              generations, metrics := { w.metrics with accepted := w.metrics.accepted + 1 }
              connections := w.connections.insertAt id.slot
                { connection, log := [.accepted connection.ssl.isSome] }
              history := w.history ++ [.inserted id (opsOf id w.inFlight)] } := by
        intro f
        unfold IoUringWorker.weight
        rw [Slab.total_insertAt hvacant]
        simp only [List.map_append, List.map_cons, List.map_nil, List.sum_append,
          List.sum_singleton, HistoryItem.weight]
        omega
      refine ⟨?_, ?_, ?_, ?_⟩
      · rw [← hweight]
        exact h.metric.trans (Nat.zero_add _).symm
      · rw [← hweight, Nat.add_comm]
        exact Nat.succ_le_succ h.accepted
      · intro slot occ hget
        by_cases hslot : id.slot = slot
        · subst hslot
          rw [Slab.get_insertAt_self hle] at hget
          injection hget with hget
          rw [← hget]
          rfl
        · rw [Slab.get_insertAt_ne hle hslot] at hget
          exact h.live slot occ hget
      · intro id' log ops hmem
        rcases List.mem_append.mp hmem with hold | hnew
        · exact h.gone id' log ops hold
        · simp at hnew

/-! ## §3. Every run. -/

theorem Balanced.changes (h : Balanced w) (hpath : Changes cfg w w') : Balanced w' := by
  induction hpath with
  | refl => exact h
  | tail _ hchange ih => exact ih.change hchange

theorem Balanced.taken (h : Balanced w) (event : Event) : Balanced (event.taken w) := by
  rcases event.taken_cases w with heq | ⟨index, _, _, _, _, -, -, -, heq⟩
  · rw [heq]
    exact h
  · rw [heq]
    exact h.of_eq rfl rfl rfl rfl

theorem Balanced.new (hnew : IoUringWorker.new cfg = .ok w) : Balanced w := by
  unfold IoUringWorker.new at hnew
  split at hnew
  · cases hnew
  · split_ifs at hnew
    injection hnew with hnew
    subst hnew
    refine ⟨rfl, Nat.zero_le _, ?_, fun _ _ _ hmem => absurd hmem List.not_mem_nil⟩
    intro slot occ hget
    simp [Slab.get] at hget

theorem Reachable.balanced (h : Reachable cfg w) : Balanced w := by
  induction h with
  | start world hnew hstart =>
      have hpath : Changes cfg _ _ := start_changes hstart
      exact (Balanced.new hnew).changes hpath
  | step event _ hstep ih =>
      rcases step_changes hstep with ⟨_, _, _, _, id, op, -, -, hrun⟩ | hpath
      · exact (ih.taken event).turn (.inr (op.turnEvent_mayBeStale _)) hrun
      · exact (ih.taken event).changes hpath

/-- Nobody is counted more than once. -/
theorem Balanced.le (h : Balanced w) : w.metrics.responses ≤ w.metrics.accepted := by
  have hslab : w.connections.total (fun occ => responseCount occ.log)
      ≤ w.connections.total (fun occ => (fun _ => 1) occ.log) := by
    apply Slab.total_le_total
    intro slot occ hget
    rw [h.live slot occ hget]
    exact Nat.zero_le 1
  have hhistory : (w.history.map (HistoryItem.weight responseCount)).sum
      ≤ (w.history.map (HistoryItem.weight (fun _ => 1))).sum := by
    apply List.sum_le_sum
    intro item hitem
    cases item with
    | removed id log ops => exact h.gone id log ops hitem
    | turn | inserted => exact Nat.le_refl 0
  have hresponses := h.metric
  have haccepted := h.accepted
  unfold IoUringWorker.weight at hresponses haccepted
  omega

end Thwip.IoUring
