/-
  Thwip.Runtime.Fallback — which addresses are tried before a client is told.

  The resolver may answer with several addresses.  The io_uring worker goes through
  them in order, and says that the upstream cannot be connected once all have
  failed.  The readiness worker says so after the first.
-/
import Thwip.IoUring.Fallback
import Thwip.Readiness.Fallback

namespace Thwip

open Thwip.Lib

variable {σ τ : Type}

/-- **Addresses are tried once each and in order.**  In the readiness worker every
address has failed when the client is told just when it was the attempt that failed
and the list had one address; in the io_uring worker always, in runs that give out
no id while the kernel still works for an earlier connection of that id.  There the
kernel is asked to connect to the address that the course has under way, and is
connecting to no other. -/
theorem addresses_tried_before_failure (cfg : Readiness.Config σ) (ucfg : IoUring.Config τ) :
    (∀ (w w₁ w₂ : Readiness.ReadinessWorker σ) (io : Readiness.Io) (id : Readiness.ConnectionId)
        (event : Readiness.TurnEvent) (occ : Readiness.Occupant σ),
      Readiness.Reachable cfg w → Readiness.Ticks cfg w w₁ →
      w₁.connections.get id.slot = some occ → occ.connection.generation = id.generation →
      w₁.Startable id event → w₁.runTurn cfg io id event = .ok w₂ →
      (∀ id' k, Readiness.courseOf id' w₂.history = some k → k.Ordered)
      ∧ (Readiness.attemptFails event io occ.log.length occ.connection = true →
          .queued (Readiness.connectionFailed cfg.limits) ∈ w₁.turnActs cfg io id event
          ∧ ∃ k, Readiness.courseOf id w₂.history = some k
            ∧ (k.Exhausted ↔ k.candidates.length = 1))
      ∧ (event.mayFail = true →
          .queued (Readiness.connectionFailed cfg.limits) ∈ w₁.turnActs cfg io id event →
          ∀ k, Readiness.courseOf id w₂.history = some k →
            (k.Exhausted ↔ Readiness.attemptFails event io occ.log.length occ.connection = true
              ∧ k.candidates.length = 1)))
    ∧ (∀ w : IoUring.IoUringWorker τ, IoUring.Reachable ucfg w →
      (∀ item ∈ w.history, IoUring.givesOutIdle item = true) → IoUring.ConnectsUnderWay w)
    ∧ ∀ (w w' : IoUring.IoUringWorker τ) (id : IoUring.ConnectionId) (event : IoUring.TurnEvent)
        (world : IoUring.World),
      IoUring.Calls ucfg w id event →
      (∀ item ∈ w.history, IoUring.givesOutIdle item = true) →
      w.runTurn ucfg world id event = .ok w' →
      (∀ id' k, IoUring.courseOf id' w'.history = some k → k.Ordered)
      ∧ IoUring.ConnectsUnderWay w' ∧ IoUring.SubmitsUnderWay w w'
      ∧ (event.triesAddress = true →
          .queued IoUring.connectionFailed ∈ w.turnActs ucfg world id event →
          ∃ k, IoUring.courseOf id w'.history = some k ∧ k.Exhausted) := by
  refine ⟨?_, ?_, ?_⟩
  · intro w w₁ w₂ io id event occ hw hpath hget hgen hstart hrun
    exact Readiness.failed_after_first_address hw hpath hget hgen hstart hrun
  · intro w hw hguard
    exact (hw.fallsBack hguard).connectsUnderWay
  · intro w w' id event world hcall hguard hrun
    exact IoUring.failed_after_every_address hcall hguard hrun

section Example

/-- The call is for the connection in the slot, and leaves a worker with the
property. -/
def Readiness.leaves (cfg : Readiness.Config σ) (io : Readiness.Io)
    (id : Readiness.ConnectionId) (event : Readiness.TurnEvent)
    (p : Readiness.Occupant σ → Readiness.ReadinessWorker σ → Bool)
    (w : Readiness.ReadinessWorker σ) : Bool :=
  match w.connections.get id.slot with
  | none => false
  | some occ =>
      occ.connection.generation == id.generation
        && match w.runTurn cfg io id event with
          | .error _ => false
          | .ok w₂ => p occ w₂

theorem Readiness.leaves_iff {cfg : Readiness.Config σ} {io : Readiness.Io}
    {id : Readiness.ConnectionId} {event : Readiness.TurnEvent}
    {p : Readiness.Occupant σ → Readiness.ReadinessWorker σ → Bool}
    {w : Readiness.ReadinessWorker σ} (h : Readiness.leaves cfg io id event p w = true) :
    ∃ occ w₂, w.connections.get id.slot = some occ
      ∧ occ.connection.generation = id.generation
      ∧ w.runTurn cfg io id event = .ok w₂ ∧ p occ w₂ = true := by
  unfold Readiness.leaves at h
  split at h
  · cases h
  next occ hget =>
    rw [Bool.and_eq_true, beq_iff_eq] at h
    obtain ⟨hgen, h⟩ := h
    split at h
    · cases h
    next w₂ hrun => exact ⟨occ, w₂, hget, hgen, hrun, h⟩

def fallbackWorker : Readiness.Config Unit := Readiness.plainWorker Readiness.proxyAll

def fallbackUring : IoUring.Config Unit :=
  IoUring.Config.single Rustls.absent none IoUring.proxyAll

/-- No address can be connected. -/
def refusing : Readiness.Io := { Readiness.Io.quiet with connectFails := fun _ => true }

/-- Only the first of two addresses cannot be connected. -/
def firstRefused : Readiness.Io :=
  { Readiness.Io.quiet with connectFails := fun address => address == "10.0.0.1:80".toList }

/-- The answers of the resolver. -/
def oneAddress : Readiness.TurnEvent := .resolved (some ["10.0.0.1:80".toList])

def twoAddresses : Readiness.TurnEvent :=
  .resolved (some ["10.0.0.1:80".toList, "10.0.0.2:80".toList])

/-- The kernel reports that the connection it was asked for at this index is refused. -/
def refused (index : Nat) : IoUring.Event := .completed index (.plain (-111)) [] .quiet

/-- A request whose upstream has two addresses, the first of which is refused. -/
def secondUnderWay : List IoUring.Event :=
  IoUring.resolvedRequest.take 2 ++
    [.completed 2 (.plain 8) [⟨⟨0, 1⟩, some ["10.0.0.1:80".toList, "10.0.0.2:80".toList]⟩] .quiet,
     refused 3]

/-- The worker connects to the second address, and answers when it is refused too. -/
def IoUring.answersRefused (w : IoUring.IoUringWorker Unit) : Bool :=
  w.history.all IoUring.givesOutIdle
    && w.inFlight[4]? == some (.operation ⟨0, 1⟩ (.connect "10.0.0.2:80".toList))
    && (w.connections.get 0).any (fun occ => occ.connection.generation == 1
      && occ.connection.proxy.any (fun proxy => proxy.phase == .connecting))
    && (((refused 4).taken w).turnActs fallbackUring .quiet ⟨0, 1⟩ (.proxyConnect (-111))).contains
        (.queued IoUring.connectionFailed)
    && match ((refused 4).taken w).runTurn fallbackUring .quiet ⟨0, 1⟩ (.proxyConnect (-111)) with
      | .error _ => false
      | .ok w' => (IoUring.courseOf ⟨0, 1⟩ w'.history).any (fun k => k.candidates.length == 2)

theorem addresses_tried_before_failure_single :
    (∃ w w₂ : Readiness.ReadinessWorker Unit, Readiness.Reachable fallbackWorker w
      ∧ w.runTurn fallbackWorker refusing Readiness.firstId oneAddress = .ok w₂
      ∧ .queued (Readiness.connectionFailed fallbackWorker.limits)
          ∈ w.turnActs fallbackWorker refusing Readiness.firstId oneAddress
      ∧ ∃ k, Readiness.courseOf Readiness.firstId w₂.history = some k ∧ k.Exhausted)
    ∧ ∃ w w' : IoUring.IoUringWorker Unit, IoUring.Reachable fallbackUring w
      ∧ .operation ⟨0, 1⟩ (.connect "10.0.0.2:80".toList) ∈ w.inFlight
      ∧ IoUring.IsUnderWay (IoUring.courseOf ⟨0, 1⟩ w.history) "10.0.0.2:80".toList
      ∧ ((refused 4).taken w).runTurn fallbackUring .quiet ⟨0, 1⟩ (.proxyConnect (-111)) = .ok w'
      ∧ ∃ k, IoUring.courseOf ⟨0, 1⟩ w'.history = some k ∧ k.candidates.length = 2
        ∧ k.Exhausted := by
  obtain ⟨hready, hconnects, huring⟩ :=
    addresses_tried_before_failure fallbackWorker fallbackUring
  constructor
  · have hrun : Readiness.bootsTo fallbackWorker (Readiness.resolvedRequest.take 3)
        (Readiness.leaves fallbackWorker refusing Readiness.firstId oneAddress (fun occ w₂ =>
          Readiness.attemptFails oneAddress refusing occ.log.length occ.connection
            && (Readiness.courseOf Readiness.firstId w₂.history).any
              (fun k => k.candidates.length == 1))) = true := by
      decide +kernel
    obtain ⟨w, hw, hp⟩ := Readiness.reachable_of_bootsTo hrun
    obtain ⟨occ, w₂, hget, hgen, hturn, hp⟩ := Readiness.leaves_iff hp
    rw [Bool.and_eq_true] at hp
    have hstart : w.Startable Readiness.firstId oneAddress := fun _ _ _ => trivial
    obtain ⟨-, hfails, -⟩ := hready w w w₂ refusing Readiness.firstId oneAddress occ hw .refl hget
      hgen hstart hturn
    obtain ⟨hqueued, k, hk, hiff⟩ := hfails hp.1
    refine ⟨w, w₂, hw, hturn, hqueued, k, hk, hiff.mpr ?_⟩
    have hlength := hp.2
    rw [hk] at hlength
    simpa using hlength
  · have hrun : IoUring.bootsTo fallbackUring .quiet secondUnderWay
        IoUring.answersRefused = true := by
      decide +kernel
    obtain ⟨w, hw, hp⟩ := IoUring.reachable_of_bootsTo hrun
    unfold IoUring.answersRefused at hp
    simp only [Bool.and_eq_true, beq_iff_eq, List.all_eq_true, List.contains_iff_mem,
      Option.any_eq_true] at hp
    obtain ⟨⟨⟨⟨hguard, hentry⟩, occ, hget, hgen, proxy, hproxy, hphase⟩, hqueued⟩, hok⟩ := hp
    split at hok
    · cases hok
    next w' hturn =>
      have hmem := List.mem_of_getElem? hentry
      have hunder := (hconnects w hw hguard ⟨0, 1⟩ _ hmem occ proxy hget hgen hproxy hphase).2
      have hcall : IoUring.Calls fallbackUring ((refused 4).taken w) ⟨0, 1⟩
          (.proxyConnect (-111)) :=
        .completed 4 (.plain (-111)) [] .quiet hw hentry
      have hguard' : ∀ item ∈ ((refused 4).taken w).history, IoUring.givesOutIdle item = true := by
        rw [IoUring.taken_history]
        exact hguard
      obtain ⟨-, -, -, hexhausted⟩ := huring ((refused 4).taken w) w' ⟨0, 1⟩
        (.proxyConnect (-111)) .quiet hcall hguard' hturn
      obtain ⟨k, hk, hall⟩ := hexhausted rfl hqueued
      rw [hk] at hok
      exact ⟨w, w', hw, hmem, hunder, hturn, k, hk, by simpa using hok, hall⟩

/-- The second of two addresses is never tried. -/
theorem second_address_is_not_tried :
    ¬ ∀ (w w₂ : Readiness.ReadinessWorker Unit) (io : Readiness.Io)
        (addresses : List Readiness.SocketAddr),
      Readiness.Reachable fallbackWorker w →
      w.runTurn fallbackWorker io Readiness.firstId (.resolved (some addresses)) = .ok w₂ →
      .queued (Readiness.connectionFailed fallbackWorker.limits)
        ∈ w.turnActs fallbackWorker io Readiness.firstId (.resolved (some addresses)) →
      ∀ k, Readiness.courseOf Readiness.firstId w₂.history = some k → k.Exhausted := by
  intro hall
  have hrun : Readiness.bootsTo fallbackWorker (Readiness.resolvedRequest.take 3) (fun w =>
      Readiness.leaves fallbackWorker firstRefused Readiness.firstId twoAddresses (fun _ w₂ =>
        (w.turnActs fallbackWorker firstRefused Readiness.firstId twoAddresses).contains
            (.queued (Readiness.connectionFailed fallbackWorker.limits))
          && (Readiness.courseOf Readiness.firstId w₂.history).any
            (fun k => !decide k.Exhausted)) w) = true := by
    decide +kernel
  obtain ⟨w, hw, hp⟩ := Readiness.reachable_of_bootsTo hrun
  obtain ⟨occ, w₂, -, -, hturn, hp⟩ := Readiness.leaves_iff hp
  rw [Bool.and_eq_true, List.contains_iff_mem] at hp
  obtain ⟨hqueued, hcourse⟩ := hp
  cases hk : Readiness.courseOf Readiness.firstId w₂.history with
  | none =>
      rw [hk] at hcourse
      cases hcourse
  | some k =>
      rw [hk] at hcourse
      have hexhausted := hall w w₂ firstRefused _ hw hturn hqueued k hk
      simp [hexhausted] at hcourse

end Example

end Thwip
