/-
  Thwip.Runtime.Delivery — what a proxied connection gives to both sides.

  The two workers move the same bytes in two ways.  In the readiness worker a
  socket says at once what it took.  In the io_uring worker the kernel says so
  later, to whoever has the id by then, and an id has 16 bits of generation: after
  65535 clients of one slot a send that is still in flight is counted for another.
-/
import Thwip.IoUring.Delivery
import Thwip.IoUring.Occupation
import Thwip.Readiness.Delivery
import Thwip.Runtime.Limits

namespace Thwip

open Thwip.Lib

variable {σ τ : Type}

/-- **A proxied connection relays.**  In every run of the readiness worker, and in every
run of the io_uring worker that gives out no id while an operation is in flight under
it, a plaintext connection whose request was proxied has given both sides what they
are owed; and what the kernel still sends to an upstream is the rest of the request. -/
theorem proxied_connections_relay (cfg : Readiness.Config σ) (ucfg : IoUring.Config τ) :
    (∀ w, Readiness.Reachable cfg w →
      (∀ slot occ, w.connections.get slot = some occ → occ.connection.ssl = none →
        .proxied ∈ occ.log → Relays (Readiness.exchanges occ.log))
      ∧ ∀ id log, Readiness.HistoryItem.removed id log ∈ w.history →
        log.head? = some (.accepted false) → .proxied ∈ log → Relays (Readiness.exchanges log))
    ∧ ∀ w, IoUring.Reachable ucfg w →
      (∀ item ∈ w.history, IoUring.givesOutIdle item = true) →
      (∀ slot occ, w.connections.get slot = some occ → occ.connection.ssl = none →
        (.proxied ∈ occ.log → Relays (IoUring.exchanges occ.log))
        ∧ ∀ bytes, IoUring.Entry.operation ⟨slot, occ.connection.generation⟩ (.proxySend bytes)
            ∈ w.inFlight →
          requests (IoUring.exchanges occ.log)
            = [toUpstream (IoUring.exchanges occ.log) ++ bytes])
      ∧ ∀ id log ops, IoUring.HistoryItem.removed id log ops ∈ w.history →
        log.head? = some (.accepted false) → .proxied ∈ log →
        Relays (IoUring.exchanges log) := by
  constructor
  · intro w hw
    exact hw.relays
  · intro w hw hguard
    exact hw.relays hguard

section Example

/-- Half of the upstream's first chunk is written to the client. -/
def relayedHalf : List Readiness.Event :=
  Readiness.relayedChunk ++
    [Readiness.firstReady .client false true { Readiness.Io.quiet with writes := [.ok 10] }]

/-- The same in the other worker: the request is sent whole, and the chunk in parts. -/
def relayedHalfUring : List IoUring.Event :=
  sendingRequest ++
    [.completed 4 (.plain 46) [] .quiet, .completed 4 (.received (List.replicate 20 65)) [] .quiet,
     .completed 4 (.plain 10) [] .quiet]

/-- A client that has half of its response, and an upstream that has its request. -/
theorem proxied_connections_relay_forwarding :
    (∃ w occ, Readiness.Reachable (Readiness.plainWorker Readiness.proxyAll) w
      ∧ w.connections.get 0 = some occ ∧ .proxied ∈ occ.log
      ∧ (toUpstream (Readiness.exchanges occ.log)).length = 46
      ∧ toClient (Readiness.exchanges occ.log) = List.replicate 10 65
      ∧ Relays (Readiness.exchanges occ.log))
    ∧ ∃ w occ, IoUring.Reachable (IoUring.Config.single Rustls.absent none IoUring.proxyAll) w
      ∧ w.connections.get 0 = some occ ∧ .proxied ∈ occ.log
      ∧ (toUpstream (IoUring.exchanges occ.log)).length = 46
      ∧ toClient (IoUring.exchanges occ.log) = List.replicate 10 65
      ∧ Relays (IoUring.exchanges occ.log) := by
  have hrun : Readiness.bootsTo (Readiness.plainWorker Readiness.proxyAll)
      relayedHalf (fun w => (w.connections.get 0).any (fun occ =>
        occ.connection.ssl.isNone && occ.log.contains .proxied
          && (toUpstream (Readiness.exchanges occ.log)).length == 46
          && toClient (Readiness.exchanges occ.log) == List.replicate 10 65)) = true := by
    decide +kernel
  have hrun' : IoUring.bootsTo (IoUring.Config.single Rustls.absent none IoUring.proxyAll) .quiet
      relayedHalfUring (fun w => w.history.all IoUring.givesOutIdle
        && (w.connections.get 0).any (fun occ =>
          occ.connection.ssl.isNone && occ.log.contains .proxied
            && (toUpstream (IoUring.exchanges occ.log)).length == 46
            && toClient (IoUring.exchanges occ.log) == List.replicate 10 65)) = true := by
    decide +kernel
  obtain ⟨hready, huring⟩ := proxied_connections_relay
    (Readiness.plainWorker Readiness.proxyAll)
    (IoUring.Config.single Rustls.absent none IoUring.proxyAll)
  constructor
  · obtain ⟨w, hw, hp⟩ := Readiness.reachable_of_bootsTo hrun
    simp only [Option.any_eq_true, Bool.and_eq_true, Option.isNone_iff_eq_none,
      List.contains_iff_mem, beq_iff_eq] at hp
    obtain ⟨occ, hget, ⟨⟨hssl, hproxied⟩, hup⟩, hdown⟩ := hp
    exact ⟨w, occ, hw, hget, hproxied, hup, hdown, (hready w hw).1 0 occ hget hssl hproxied⟩
  · obtain ⟨w, hw, hp⟩ := IoUring.reachable_of_bootsTo hrun'
    simp only [Option.any_eq_true, Bool.and_eq_true, Option.isNone_iff_eq_none,
      List.all_eq_true, List.contains_iff_mem, beq_iff_eq] at hp
    obtain ⟨hguard, occ, hget, ⟨⟨hssl, hproxied⟩, hup⟩, hdown⟩ := hp
    exact ⟨w, occ, hw, hget, hproxied, hup, hdown,
      ((huring w hw hguard).1 0 occ hget hssl).1 hproxied⟩

/-- One listener with TLS, and a plaintext one whose requests are proxied. -/
def mixedListeners : IoUring.Config IoUring.ToySession :=
  { IoUring.Config.single (IoUring.Rustls.toy 64) none [] with
    servers := [{ serverName := none, locations := [] },
      { serverName := none, locations := IoUring.proxyAll }]
    sslConfigs := [some ⟨2, 100⟩, none]
    listenerGroups := [(0, [0]), (1, [1])] }

end Example

end Thwip

namespace Thwip.IoUring

open Thwip.Lib

section Example

variable (generation : UInt16) (metrics : WorkerMetrics) (history : List (HistoryItem ToySession))

/-- The slot is vacant, and the kernel still sends for the first client it had. -/
def vacated : IoUringWorker ToySession :=
  { inFlight := [.accept 0 1 true, .accept 1 1 true, .shutdownRead, .dnsRead, .timerRead,
      .operation ⟨0, 1⟩ (.send [22] 0 1)]
    bufferRing := { entries := [0], count := 1, mask := 0, tail := 2, bufferLen := 64 }
    listeners := mixedListeners.listeners.map (fun listener =>
      { listener with acceptPending := true })
    connections := [none], generations := [generation]
    shutdownRequested := false, shuttingDown := false, shutdownStarted := none
    cancellationStarted := false, pendingCancellations := 0, metrics
    balancer := UpstreamBalancer.withGroups (fun _ => none), tasks := [], history }

/-- A plaintext client has the slot. -/
def occupied : IoUringWorker ToySession :=
  { vacated generation metrics history with
    inFlight := (vacated generation metrics history).inFlight
      ++ [.operation ⟨0, generation⟩ (.recv 64)]
    connections := [some
      { connection := (UringConnection.fresh 5 generation 1 none).markReadSubmitted
        log := [.accepted false, .recvSubmitted] }] }

/-- A TLS client sends its first flight, and hangs up while it is answered. -/
def leaveSending : List Event :=
  [.accepts 5, .completed 5 (.received [1]) [] .quiet, .completed 6 (.plain 0) [] .quiet]

theorem boot_leaveSending : ∃ metrics history,
    boot mixedListeners .quiet leaveSending = .ok (vacated 1 metrics history) :=
  ⟨_, _, rfl⟩

/-- A plaintext client connects. -/
def clientComes : Event := .completed 1 (.plain 5) [] .quiet

/-- It hangs up. -/
def clientGoes : Event := .completed 6 (.plain 0) [] .quiet

theorem step_clientComes : ∃ metrics' history',
    step mixedListeners clientComes (vacated generation metrics history)
      = .ok (occupied (nextGeneration generation) metrics' history') := by
  simp [clientComes, step, vacated, occupied, dispatchCompletion, Entry.persists,
    Completion.plain, handleAcceptCompletion, mixedListeners, Config.listeners, Config.single,
    UringListener.afterAccept, multishotIsUnsupported, UringListener.recordCompletion,
    settleAccept, retainAccepted, insertConnection, World.quiet, Slab.vacantKey, Slab.count,
    fitsU32, bumpGeneration, UringConnection.new, IoUringWorker.runTurn, handleTurn,
    IoUringWorker.view, Slab.get, Slab.insertAt, submitRecv, UringConnection.matchesGeneration,
    UringConnection.fresh, Turn.pushEntry, Turn.put, Turn.note, IoUringWorker.commit, bind,
    Except.bind, pure, Except.pure]

theorem step_clientGoes : ∃ metrics' history',
    step mixedListeners clientGoes (occupied generation metrics history)
      = .ok (vacated generation metrics' history') := by
  simp [clientGoes, step, vacated, occupied, dispatchCompletion, Entry.persists,
    Completion.plain, IoUringWorker.runTurn, handleTurn, IoUringWorker.view, Slab.get,
    UringConnection.matchesGeneration, UringConnection.fresh, Turn.put, IoUringWorker.commit,
    bind, Except.bind, UringConnection.markReadSubmitted, ConnectionOp.turnEvent,
    handleReadCompletion, Turn.takeReceived, Turn.remove]

/-- The worker after so many clients have come and gone. -/
def afterClients : Nat → IoUringWorker ToySession
  | 0 => (boot mixedListeners .quiet leaveSending).toOption.getD (vacated 1 {} [])
  | k + 1 => (replay mixedListeners [clientComes, clientGoes] (afterClients k)).toOption.getD
      (afterClients k)

/-- Only the generation of the slot goes on. -/
theorem afterClients_eq (k : Nat) : Reachable mixedListeners (afterClients k)
    ∧ ∃ metrics history, afterClients k = vacated (nextGeneration^[k] 1) metrics history := by
  induction k with
  | zero =>
      obtain ⟨metrics, history, hboot⟩ := boot_leaveSending
      have hstart : afterClients 0 = vacated 1 metrics history := by
        unfold afterClients
        rw [hboot]
        rfl
      exact ⟨hstart ▸ Reachable.boot hboot, metrics, history, hstart⟩
  | succ k ih =>
      obtain ⟨hreach, metrics, history, heq⟩ := ih
      obtain ⟨metrics₁, history₁, hcomes⟩ :=
        step_clientComes (nextGeneration^[k] 1) metrics history
      obtain ⟨metrics₂, history₂, hgoes⟩ :=
        step_clientGoes (nextGeneration (nextGeneration^[k] 1)) metrics₁ history₁
      have hrun : replay mixedListeners [clientComes, clientGoes] (afterClients k)
          = .ok (vacated (nextGeneration^[k + 1] 1) metrics₂ history₂) := by
        rw [heq, Function.iterate_succ_apply']
        simp only [replay, hcomes, hgoes]
      have hnext : afterClients (k + 1)
          = vacated (nextGeneration^[k + 1] 1) metrics₂ history₂ := by
        rw [afterClients, hrun]
        rfl
      exact ⟨hnext ▸ hreach.replay hrun, metrics₂, history₂, hnext⟩

end Example

end Thwip.IoUring

namespace Thwip

open Thwip.Lib

section Example

/-- The next client has the id of the first.  Its request is answered, as no name can
be resolved, and the send for the first client completes while the answer is being
sent.  So the answer is sent from its second byte on once more; three bytes of the
one, and five of the other are taken. -/
def latecomer : List IoUring.Event :=
  [IoUring.clientComes,
   .completed 6 (.received (asBytes "GET / HTTP/1.1\r\n\r\n".toList)) []
     { IoUring.World.quiet with resolverStopped := true },
   .completed 5 (.plain 1) [] .quiet, .completed 5 (.plain 3) [] .quiet,
   .completed 5 (.plain 5) [] .quiet]

/-- A plaintext client was sent the first client's byte, and parts of its own answer
twice. -/
def gotBytesTwice (occ : IoUring.Occupant IoUring.ToySession) : Bool :=
  occ.connection.ssl.isNone && occ.log.contains .proxied
    && toClient (IoUring.exchanges occ.log) == 22 :: asBytes "HTTTTP/1".toList
    && !(responses (IoUring.exchanges occ.log)).isEmpty
    && (responses (IoUring.exchanges occ.log)).all (fun response => response.head? == some 72)

/-- After 65535 clients, a send in flight for the first is counted for the last. -/
theorem send_counted_for_later_client :
    ¬ ∀ w, IoUring.Reachable mixedListeners w →
      ∀ slot occ, w.connections.get slot = some occ → occ.connection.ssl = none →
        .proxied ∈ occ.log → Relays (IoUring.exchanges occ.log) := by
  intro hall
  obtain ⟨hreach, metrics, history, heq⟩ := IoUring.afterClients_eq 65534
  have hwrap : IoUring.nextGeneration^[65534] 1 = 65535 := by
    rw [← UInt16.toNat_inj, IoUring.nextGeneration_iterate]
    exact cycleNext_iterate (by omega) (by omega) 65534
  rw [hwrap] at heq
  -- the past goes by its name: the rest of the run does not depend on it
  have hpast : IoUring.afterClients 65534 = IoUring.vacated 65535
      (IoUring.afterClients 65534).metrics (IoUring.afterClients 65534).history := by
    rw [heq]
    rfl
  have hrun : (match IoUring.replay mixedListeners latecomer (IoUring.vacated 65535
        (IoUring.afterClients 65534).metrics (IoUring.afterClients 65534).history) with
      | .error _ => false
      | .ok w => (w.connections.get 0).any gotBytesTwice) = true := by
    decide +kernel
  rw [← hpast] at hrun
  split at hrun
  · cases hrun
  next w hreplay =>
    obtain ⟨occ, hget, htwice⟩ := (Option.any_eq_true _ _).mp hrun
    unfold gotBytesTwice at htwice
    simp only [Bool.and_eq_true, Option.isNone_iff_eq_none, List.contains_iff_mem, beq_iff_eq,
      Bool.not_eq_true', List.isEmpty_eq_false_iff, List.all_eq_true] at htwice
    obtain ⟨⟨⟨⟨hssl, hproxied⟩, hsent⟩, hqueued⟩, hheads⟩ := htwice
    have hrelays := hall w (hreach.replay hreplay) 0 occ hget hssl hproxied
    rcases hrelays.client with ⟨hnone, -⟩ | ⟨-, response, hmem, -, hprefix⟩
    · exact hqueued hnone
    · rw [hsent] at hprefix
      obtain ⟨rest, rfl⟩ := hprefix
      have hhead := hheads _ hmem
      cases hhead

end Example

end Thwip
