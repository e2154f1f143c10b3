/-
  Thwip.Readiness.Responses — how often a response is counted.

  A turn counts a response only of a connection that is not spent, unless a write
  event or an upstream read finds one that is.  The metric is the sum over all
  connections there were, and there were no more than were accepted.
-/
import Mathlib.Algebra.Order.BigOperators.Group.List
import Thwip.Readiness.Shared

namespace Thwip.Readiness

open Thwip.Lib

variable {σ : Type} {cfg : Config σ} {w w' : ReadinessWorker σ} {id : ConnectionId}

/-! ## §1. Sums over all connections. -/

/-- The weight of a trace that is in the history. -/
def HistoryItem.weight (f : List Act → Nat) : HistoryItem σ → Nat
  | .removed _ log => f log
  | _ => 0

/-- The weight of every connection there was: those in the slab, and those that
were removed. -/
def ReadinessWorker.weight (f : List Act → Nat) (w : ReadinessWorker σ) : Nat :=
  w.connections.total (fun occ => f occ.log) + (w.history.map (HistoryItem.weight f)).sum

theorem weight_commit (f : List Act → Nat) {occ : Occupant σ}
    (hget : w.connections.get id.slot = some occ) (event : TurnEvent) (io : Io)
    (t : Turn σ) : (w.commit id event io t).weight f + f occ.log = w.weight f + f t.log := by
  have hset := Slab.total_set (fun occ : Occupant σ => f occ.log) t.occupant
    (Slab.lt_of_get hget)
  rw [hget] at hset
  unfold ReadinessWorker.weight ReadinessWorker.commit ReadinessWorker.turnItems
  rw [hget]
  unfold Turn.occupant at hset
  dsimp only at hset ⊢
  cases hconnection : t.connection with
  | some c =>
      simp only [hconnection, Option.map_some, Option.elim_some, Option.isSome_some, if_true,
        List.map_append, List.map_cons, List.map_nil, List.sum_append, List.sum_singleton,
        HistoryItem.weight] at hset ⊢
      omega
  | none =>
      -- the trace moves from the slab to the history
      simp only [hconnection, Option.map_none, Option.elim_none, Option.elim_some,
        Option.isSome_none, Bool.false_eq_true, if_false, List.map_append, List.map_cons,
        List.map_nil, List.sum_append, List.sum_cons, List.sum_nil, HistoryItem.weight] at hset ⊢
      omega

theorem weight_commit_vacant (f : List Act → Nat) (hget : w.connections.get id.slot = none)
    (event : TurnEvent) (io : Io) {t : Turn σ} (hnone : t.connection = none) :
    (w.commit id event io t).weight f = w.weight f := by
  unfold ReadinessWorker.weight ReadinessWorker.commit ReadinessWorker.turnItems
  rw [hget, hnone]
  simp [HistoryItem.weight, Slab.total_set_none hget]

theorem weight_polled (f : List Act → Nat) :
    ReadinessWorker.weight f { w with connections := w.connections.map (Option.map Occupant.poll) }
      = w.weight f := by
  unfold ReadinessWorker.weight Slab.total
  rw [List.map_map]
  congr 3
  funext entry
  cases entry <;> rfl

/-! ## §2. The books. -/

/-- The metric agrees with the traces. -/
structure Balanced (w : ReadinessWorker σ) : Prop where
  metric : w.metrics.responses = w.weight responseCount
  accepted : w.weight (fun _ => 1) ≤ w.metrics.accepted
  live : ∀ slot occ, w.connections.get slot = some occ →
    responseCount occ.log ≤ 1 ∧ (0 < responseCount occ.log → Spent occ.connection)
  gone : ∀ id log, HistoryItem.removed id log ∈ w.history → responseCount log ≤ 1

/-- In a run that keeps to the condition. -/
def KeepsBooks (cfg : Config σ) (w : ReadinessWorker σ) : Prop :=
  (∀ item ∈ w.history, countsOnce cfg item = true) → Balanced w

/-- A turn on the connection in its slot, if it is still the one that was meant. -/
theorem Balanced.turn {io : Io} {event : TurnEvent} {t : Turn σ} (h : Balanced w)
    {occ : Occupant σ} (hget : w.connections.get id.slot = some occ)
    (htally : Tally (w.view id) t) : Balanced (w.commit id event io t) := by
  have hlog : (w.view id).log = occ.log := view_log hget
  have hconnection : (w.view id).connection = some occ.connection := by
    simp [ReadinessWorker.view, hget]
  obtain ⟨hle, hspent⟩ := h.live id.slot occ hget
  -- the metric and the trace grow together
  have hcount : t.metrics.accepted = w.metrics.accepted
      ∧ (∃ n, t.metrics.responses = w.metrics.responses + n
        ∧ responseCount t.log = responseCount occ.log + n)
      ∧ responseCount t.log ≤ 1
      ∧ ∀ c, t.connection = some c → 0 < responseCount t.log → Spent c := by
    cases htally with
    | nothing hquiet =>
        have hcounted := hquiet.counts.log
        rw [hlog, Nat.add_zero] at hcounted
        refine ⟨hquiet.counts.accepted, ⟨0, hquiet.counts.responses, hcounted⟩, by omega, ?_⟩
        intro c hc hpos
        obtain ⟨c₀, hc₀, hkeeps⟩ := hquiet.spent c hc
        rw [hconnection] at hc₀
        injection hc₀ with hc₀
        exact hkeeps (hc₀ ▸ hspent (by omega))
    | once hcounts _ hfresh hnow =>
        have hcounted := hcounts.log
        rw [hlog] at hcounted
        have hzero : responseCount occ.log = 0 := by
          by_contra hne
          exact hfresh _ hconnection (hspent (Nat.pos_of_ne_zero hne))
        exact ⟨hcounts.accepted, ⟨1, hcounts.responses, hcounted⟩, by omega,
          fun c hc _ => hnow c hc⟩
  obtain ⟨haccepted, ⟨n, hmetric, htrace⟩, hone, hlive⟩ := hcount
  refine ⟨?_, ?_, ?_, ?_⟩
  · have hweight := weight_commit responseCount hget event io t
    have hbefore := h.metric
    show t.metrics.responses = _
    omega
  · have hweight := weight_commit (fun _ => 1) hget event io t
    have hbefore := h.accepted
    show _ ≤ t.metrics.accepted
    omega
  · intro slot occ' hget'
    by_cases hslot : id.slot = slot
    · subst hslot
      rw [commit_get_self hget] at hget'
      unfold Turn.occupant at hget'
      obtain ⟨c, hc, rfl⟩ := Option.map_eq_some_iff.mp hget'
      exact ⟨hone, hlive c hc⟩
    · rw [commit_get_ne hslot] at hget'
      exact h.live slot occ' hget'
  · intro id' log hmem
    rcases List.mem_append.mp hmem with hold | hnew
    · exact h.gone id' log hold
    · unfold ReadinessWorker.turnItems at hnew
      rw [hget] at hnew
      dsimp only at hnew
      split_ifs at hnew
      · simp at hnew
      · simp only [List.mem_cons, reduceCtorEq, HistoryItem.removed.injEq, List.not_mem_nil,
          or_false, false_or] at hnew
        rw [hnew.2]
        exact hone

/-- A call for a connection whose slot is empty. -/
theorem Balanced.vacant {io : Io} {event : TurnEvent} {t : Turn σ} (h : Balanced w)
    (hget : w.connections.get id.slot = none) (hmetrics : t.metrics = w.metrics)
    (hnone : t.connection = none) : Balanced (w.commit id event io t) := by
  refine ⟨?_, ?_, ?_, ?_⟩
  · rw [weight_commit_vacant _ hget event io hnone]
    show t.metrics.responses = _
    rw [hmetrics]
    exact h.metric
  · rw [weight_commit_vacant _ hget event io hnone]
    show _ ≤ t.metrics.accepted
    rw [hmetrics]
    exact h.accepted
  · intro slot occ hget'
    have hsame : (w.commit id event io t).connections.get slot = w.connections.get slot := by
      by_cases hslot : id.slot = slot
      · subst hslot
        show Slab.get (w.connections.set id.slot (t.connection.map _)) id.slot = _
        rw [hnone, Option.map_none, Slab.get_set_none hget]
      · exact commit_get_ne hslot
    exact h.live slot occ (hsame ▸ hget')
  · intro id' log hmem
    rcases List.mem_append.mp hmem with hold | hnew
    · exact h.gone id' log hold
    · simp [ReadinessWorker.turnItems, hget] at hnew

theorem KeepsBooks.turn {io : Io} {event : TurnEvent} (hphases : (phaseRule cfg).Holds w)
    (h : KeepsBooks cfg w) (hrun : w.runTurn cfg io id event = .ok w') : KeepsBooks cfg w' := by
  obtain ⟨t, ht, rfl⟩ := runTurn_eq hrun
  intro hguard
  have hbooks : Balanced w := by
    apply h
    intro item hitem
    exact hguard item (List.mem_append_left _ hitem)
  by_cases hlive : w.Live id
  · obtain ⟨occ, hget, hgen⟩ := hlive
    have hinv : ∀ c, (w.view id).connection = some c → PhaseInv cfg.limits c (w.view id).log := by
      intro c hc
      rw [(view_current hget hgen).connection] at hc
      injection hc with hc
      exact hc ▸ (hphases.view hget hgen).1
    have hcall : countsOnce cfg (.turn id event io (w.view id).toSeat) = true := by
      apply hguard
      refine List.mem_append_right _ ?_
      unfold ReadinessWorker.turnItems
      rw [hget]
      dsimp only
      split_ifs <;> exact List.mem_cons_self
    exact hbooks.turn hget (handleTurn_tally hinv hcall ht)
  · obtain ⟨write, upstreamWrite, upstreamRead, hstale⟩ :=
      handleTurn_stale (w.env cfg io) event (view_stale hlive)
    rw [hstale] at ht
    injection ht with ht
    cases hget : w.connections.get id.slot with
    | none =>
        refine hbooks.vacant hget ?_ ?_
        · rw [← ht]
          rfl
        · rw [← ht]
          show (w.connections.get id.slot).map Occupant.connection = none
          rw [hget]
          rfl
    | some occ =>
        refine hbooks.turn hget (.nothing ?_)
        rw [← ht]
        exact uncounted_same rfl rfl rfl rfl

theorem KeepsBooks.admitted {now : Instant} {vacantKey : Nat} {registrationFails : Bool}
    {index : Nat} {listener : RegisteredListener} (h : KeepsBooks cfg w) :
    KeepsBooks cfg (registerConnection cfg now vacantKey registrationFails index listener
      { w with metrics := { w.metrics with accepted := w.metrics.accepted + 1 } }) := by
  rcases registerConnection_cases now vacantKey registrationFails index listener
      { w with metrics := { w.metrics with accepted := w.metrics.accepted + 1 } } rfl with
    heq | ⟨id, hslot, -, heq | ⟨connection, interest, -, hnew, heq⟩⟩
  · rw [heq]
    intro hguard
    have hbooks := h hguard
    exact ⟨hbooks.metric, Nat.le_succ_of_le hbooks.accepted, hbooks.live, hbooks.gone⟩
  · -- only an id was given out
    rw [heq]
    intro hguard
    have hbooks := h (fun item hitem => hguard item (List.mem_append_left _ hitem))
    have hweight : ∀ (f : List Act → Nat) (metrics : WorkerMetrics) (generations : List Nat),
        ReadinessWorker.weight f { w with
          metrics, generations, history := w.history ++ [.registered id] } = w.weight f := by
      intro f metrics generations
      unfold ReadinessWorker.weight
      simp [HistoryItem.weight]
    refine ⟨?_, ?_, hbooks.live, ?_⟩
    · rw [hweight]
      exact hbooks.metric
    · rw [hweight]
      exact Nat.le_succ_of_le hbooks.accepted
    · intro id' log hmem
      rcases List.mem_append.mp hmem with hold | hgiven
      · exact hbooks.gone id' log hold
      · simp at hgiven
  · -- a connection is inserted, and nothing was counted for it yet
    rw [heq]
    intro hguard
    have hbooks := h (fun item hitem => hguard item (List.mem_append_left _ hitem))
    have hvacant : w.connections.get id.slot = none := by
      rw [hslot]
      exact Slab.get_vacantKey _ _
    have hle : id.slot ≤ w.connections.length := by
      rw [hslot]
      exact Slab.vacantKey_le _ _
    have hweight : ∀ (f : List Act → Nat) (metrics : WorkerMetrics) (generations : List Nat),
        ReadinessWorker.weight f { w with
          metrics, generations, history := w.history ++ [.registered id]
          connections := w.connections.insertAt id.slot
            { connection, interest, polled := ⟨false, false⟩
              log := [.accepted connection.ssl.isSome] } }
          = w.weight f + f [.accepted connection.ssl.isSome] := by
      intro f metrics generations
      unfold ReadinessWorker.weight
      rw [Slab.total_insertAt hvacant]
      simp only [List.map_append, List.map_cons, List.map_nil, List.sum_append,
        List.sum_singleton, HistoryItem.weight]
      omega
    refine ⟨?_, ?_, ?_, ?_⟩
    · rw [hweight]
      exact hbooks.metric
    · rw [hweight]
      exact Nat.succ_le_succ hbooks.accepted
    · intro slot occ hget
      by_cases hself : id.slot = slot
      · subst hself
        change (w.connections.insertAt id.slot _).get id.slot = _ at hget
        rw [Slab.get_insertAt_self hle] at hget
        injection hget with hget
        rw [← hget]
        exact ⟨Nat.zero_le 1, fun hpos => absurd hpos (Nat.lt_irrefl 0)⟩
      · change (w.connections.insertAt id.slot _).get slot = _ at hget
        rw [Slab.get_insertAt_ne hle hself] at hget
        exact hbooks.live slot occ hget
    · intro id' log hmem
      rcases List.mem_append.mp hmem with hold | hgiven
      · exact hbooks.gone id' log hold
      · simp at hgiven

/-! ## §3. Every run. -/

theorem KeepsBooks.polled (h : KeepsBooks cfg w) :
    KeepsBooks cfg { w with connections := w.connections.map (Option.map Occupant.poll) } := by
  intro hguard
  have hbooks := h hguard
  refine ⟨?_, ?_, ?_, hbooks.gone⟩
  · rw [weight_polled]
    exact hbooks.metric
  · rw [weight_polled]
    exact hbooks.accepted
  · intro slot occ hget
    change Slab.get (w.connections.map (Option.map Occupant.poll)) slot = _ at hget
    rw [poll_get] at hget
    obtain ⟨occ₀, hget₀, rfl⟩ := Option.map_eq_some_iff.mp hget
    exact hbooks.live slot occ₀ hget₀

theorem KeepsBooks.tick (hphases : (phaseRule cfg).Holds w) (h : KeepsBooks cfg w)
    (htick : Tick cfg w w') : KeepsBooks cfg w' := by
  cases htick with
  | turn io id event _ hrun => exact h.turn hphases hrun
  | admitted => exact h.admitted
  | polled => exact h.polled
  | flags =>
      intro hguard
      have hbooks := h hguard
      exact ⟨hbooks.metric, hbooks.accepted, hbooks.live, hbooks.gone⟩

theorem KeepsBooks.ticks (hphases : (phaseRule cfg).Holds w) (h : KeepsBooks cfg w)
    (hpath : Ticks cfg w w') : KeepsBooks cfg w' := by
  induction hpath with
  | refl => exact h
  | tail hbefore htick ih =>
      have hsafe : (phaseRule cfg).Safe w := fun _ => hphases
      exact ih.tick (hsafe.atoms (Ticks.atoms hbefore) (fun _ _ => trivial)) htick

theorem Reachable.keepsBooks (h : Reachable cfg w) : KeepsBooks cfg w := by
  induction h with
  | new hnew =>
      unfold ReadinessWorker.new at hnew
      split_ifs at hnew
      injection hnew with hnew
      subst hnew
      intro _
      refine ⟨rfl, Nat.zero_le _, ?_, fun _ _ hmem => absurd hmem List.not_mem_nil⟩
      intro slot occ hget
      simp [Slab.get] at hget
  | step event hbefore hstep ih => exact ih.ticks hbefore.phases (step_ticks hstep)

/-- Nobody is counted more than once. -/
theorem Balanced.le (h : Balanced w) : w.metrics.responses ≤ w.metrics.accepted := by
  have hslab : w.connections.total (fun occ => responseCount occ.log)
      ≤ w.connections.total (fun occ => (fun _ => 1) occ.log) := by
    apply Slab.total_le_total
    intro slot occ hget
    exact (h.live slot occ hget).1
  have hhistory : (w.history.map (HistoryItem.weight responseCount)).sum
      ≤ (w.history.map (HistoryItem.weight (fun _ => 1))).sum := by
    apply List.sum_le_sum
    intro item hitem
    cases item with
    | removed id log => exact h.gone id log hitem
    | turn | registered => exact Nat.le_refl 0
  have hresponses := h.metric
  have haccepted := h.accepted
  unfold ReadinessWorker.weight at hresponses haccepted
  omega

end Thwip.Readiness
