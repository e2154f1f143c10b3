/-
  Thwip.Runtime.Idle — how long a client may be silent.

  The readiness worker sweeps the connections that have made no progress for
  `idle_timeout`.  The io_uring worker has the same setting and the same timer, and no
  sweep: a client that sends one byte of a request and then nothing keeps its slot.
-/
import Thwip.IoUring.Idle
import Thwip.Readiness.Idle
import Thwip.Runtime.Limits

namespace Thwip

open Thwip.Lib

variable {σ τ : Type}

/-- **Silent clients after a timer pass.**  In every run of the readiness worker in which
the clock does not go back, and a session that accepts bytes in a turn also sends some in
it, the sweep leaves no connection open that has no exchange and whose last byte moved
`idle_timeout` ago, or that was accepted then and never moved one.  In every run of the
io_uring worker the timer leaves none when every client it finds that silent has an
exchange that goes on, or is being closed anyway. -/
theorem idle_connections_are_closed (cfg : Readiness.Config σ) (ucfg : IoUring.Config τ) :
    (∀ w clock last, Readiness.Clocked cfg w clock last → ∀ now io w',
      Readiness.step cfg (.closeIdleConnections now io) w = .ok w' →
      ∀ slot occ, w'.connections.get slot = some occ →
        occ.connection.isHandlingRequest = false →
        ∃ time, last ⟨slot, occ.connection.generation⟩ = some time
          ∧ now - time < cfg.limits.idleTimeout)
    ∧ (∀ w last, IoUring.Clocked ucfg w last → ∀ index completion dns world w',
      w.inFlight[index]? = some .timerRead →
      IoUring.step ucfg (.completed index completion dns world) w = .ok w' →
      w.NoneIdle ucfg world last →
      ∀ slot occ, w'.connections.get slot = some occ → occ.connection.proxy = none →
        ∃ time, (IoUring.Event.completed index completion dns world).lastMoved w w' last
            ⟨slot, occ.connection.generation⟩ = some time
          ∧ world.now - time < ucfg.limits.idleTimeout) := by
  constructor
  · intro w clock last hclocked now io w' hrun slot occ hget hhandling
    unfold Readiness.step at hrun
    split_ifs at hrun
    exact Readiness.closeIdleConnections_sweeps hclocked hrun hget hhandling
  · intro w last hclocked index completion dns world w' htimer hrun hnone slot occ hget hproxy
    exact IoUring.timer_leaves_none_idle hclocked htimer hrun hnone hget hproxy

section Example

/-- A plaintext worker without locations. -/
def bareUring : IoUring.Config Unit := IoUring.Config.single Rustls.absent none []

/-- A client connects and sends one byte of a request at time `0`. -/
def oneByte : List IoUring.Event :=
  [.accepts 7, .completed 4 (.received [71]) [] .quiet]

/-- The timer fires. -/
def timerAt (now : Instant) : IoUring.Event :=
  .completed 3 (.plain 8) [] { IoUring.World.quiet with now }

/-- The connection is open without an exchange, and moved its last byte at time `0`. -/
def silentSince0 (w : IoUring.IoUringWorker Unit)
    (last : IoUring.ConnectionId → Option Instant) : Bool :=
  (w.connections.get 0).any (fun occ =>
    occ.connection.proxy.isNone && last ⟨0, occ.connection.generation⟩ == some 0)

/-- The timer fires, and the connection is still open. -/
def firesWithSilentClient (now : Instant) : Bool :=
  IoUring.clockedTo bareUring .quiet oneByte (fun w last =>
    w.inFlight[3]? == some .timerRead
      && (IoUring.step bareUring (timerAt now) w).toOption.any (fun w' =>
        silentSince0 w' ((timerAt now).lastMoved w w' last)))

theorem timerFires (now : Instant) (h : firesWithSilentClient now = true) :
    ∃ w last, IoUring.Clocked bareUring w last ∧ w.inFlight[3]? = some .timerRead
      ∧ ∃ w', IoUring.step bareUring (timerAt now) w = .ok w'
        ∧ ∃ occ, w'.connections.get 0 = some occ ∧ occ.connection.proxy = none
          ∧ (timerAt now).lastMoved w w' last ⟨0, occ.connection.generation⟩ = some 0 := by
  obtain ⟨w, last, hclocked, hp⟩ := IoUring.clocked_of_clockedTo h
  rw [Bool.and_eq_true, beq_iff_eq] at hp
  obtain ⟨htimer, hp⟩ := hp
  refine ⟨w, last, hclocked, htimer, ?_⟩
  cases hstep : IoUring.step bareUring (timerAt now) w with
  | error exit =>
      rw [hstep] at hp
      cases hp
  | ok w' =>
      rw [hstep] at hp
      change silentSince0 w' _ = true at hp
      obtain ⟨occ, hget, hsilent⟩ := (Option.any_eq_true _ _).mp hp
      rw [Bool.and_eq_true, beq_iff_eq, Option.isNone_iff_eq_none] at hsilent
      exact ⟨w', rfl, occ, hget, hsilent.1, hsilent.2⟩

/-- The same byte, read by a readiness worker. -/
def byteArrives : Readiness.Io := { Readiness.Io.quiet with reads := [.ok [71]] }

/-- One connection is accepted, and the poll reports what there is. -/
def acceptedAndPolled (w : Readiness.ReadinessWorker Unit) : Readiness.ReadinessWorker Unit :=
  let w := Readiness.registerConnection (Readiness.plainWorker []) 0 0 false 0
    { defaultServer := 0, serverIndices := [0], ssl := none }
    { w with metrics := { w.metrics with accepted := w.metrics.accepted + 1 } }
  { w with connections := w.connections.map (Option.map Readiness.Occupant.poll) }

/-- What the worker does with the byte, and then with the sweep. -/
def readsAndSweeps (w : Readiness.ReadinessWorker Unit) : Bool :=
  let env := w.env (Readiness.plainWorker []) byteArrives
  let seat := w.view Readiness.firstId
  seat.isCurrent && seat.polled.readable
    && seat.connection.any (fun c =>
      c.receivesBytes env.tls.toRustls Readiness.maxReadsPerEvent env.reads)
    && (Readiness.handleTurn env .connectionReady seat).toOption.any (fun t =>
      (Readiness.step (Readiness.plainWorker []) (.closeIdleConnections 500 (fun _ => .quiet))
        (w.commit Readiness.firstId .connectionReady byteArrives t)).toOption.any (fun w' =>
          (w'.connections.get 0).any (fun occ =>
            !occ.connection.isHandlingRequest && occ.connection.generation == 1)))

/-- A run of the readiness worker in which its only client has sent one byte. -/
theorem clocked_oneByte :
    ∃ w clock last, Readiness.Clocked (Readiness.plainWorker []) w clock last
      ∧ ∃ w', Readiness.step (Readiness.plainWorker [])
          (.closeIdleConnections 500 (fun _ => .quiet)) w = .ok w'
        ∧ ∃ occ, w'.connections.get 0 = some occ ∧ occ.connection.isHandlingRequest = false
          ∧ last ⟨0, occ.connection.generation⟩ = some 0 := by
  have hrun : (Readiness.ReadinessWorker.new (Readiness.plainWorker [])).toOption.any (fun w =>
      readsAndSweeps (acceptedAndPolled w)) = true := by
    decide +kernel
  cases hnew : Readiness.ReadinessWorker.new (Readiness.plainWorker []) with
  | error message =>
      rw [hnew] at hrun
      cases hrun
  | ok w =>
      rw [hnew] at hrun
      change readsAndSweeps (acceptedAndPolled w) = true at hrun
      have hfirst : Readiness.Clocked (Readiness.plainWorker []) w 0 (fun _ => none) := .new hnew 0
      have hlistener : w.listeners[0]? = some { defaultServer := 0, serverIndices := [0], ssl := none }
          ∧ w.connections.count < (Readiness.plainWorker []).limits.maxConnections := by
        injection hnew with hnew
        rw [← hnew]
        decide
      obtain ⟨last, hpolled⟩ : ∃ last, Readiness.Clocked (Readiness.plainWorker [])
          (acceptedAndPolled w) 0 last :=
        ⟨_, (hfirst.admitted 0 0 false (Nat.le_refl 0) hlistener.1 hlistener.2 rfl).polled⟩
      generalize acceptedAndPolled w = w₁ at hpolled hrun
      unfold readsAndSweeps at hrun
      simp only [Bool.and_eq_true] at hrun
      obtain ⟨⟨⟨hcurrent, hreadable⟩, hreceives⟩, hrun⟩ := hrun
      cases hturn : Readiness.handleTurn (w₁.env (Readiness.plainWorker []) byteArrives)
          .connectionReady (w₁.view Readiness.firstId) with
      | error exit =>
          rw [hturn] at hrun
          cases hrun
      | ok t =>
          rw [hturn] at hrun
          have hmoves : (w₁.view Readiness.firstId).MovesByte
              (w₁.env (Readiness.plainWorker []) byteArrives) .connectionReady t :=
            ⟨hcurrent, .inl ⟨rfl, (Option.any_eq_true _ _).mp hreceives⟩⟩
          have hclocked := hpolled.turn byteArrives Readiness.firstId .connectionReady
            (Nat.le_refl 0) (fun _ _ _ => hreadable) hturn (fun _ => hmoves) (fun _ => rfl)
            (fun hsilent => absurd hmoves hsilent)
          refine ⟨_, _, _, hclocked, ?_⟩
          change (Readiness.step (Readiness.plainWorker [])
            (.closeIdleConnections 500 (fun _ => .quiet)) _).toOption.any _ = true at hrun
          cases hstep : Readiness.step (Readiness.plainWorker [])
              (.closeIdleConnections 500 (fun _ => .quiet))
              (w₁.commit Readiness.firstId .connectionReady byteArrives t) with
          | error exit =>
              rw [hstep] at hrun
              cases hrun
          | ok w' =>
              rw [hstep] at hrun
              change (w'.connections.get 0).any _ = true at hrun
              obtain ⟨occ, hget, hocc⟩ := (Option.any_eq_true _ _).mp hrun
              rw [Bool.and_eq_true, Bool.not_eq_true', beq_iff_eq] at hocc
              refine ⟨w', rfl, occ, hget, hocc.1, ?_⟩
              rw [hocc.2]
              exact Function.update_self _ _ _

/-- Half an idle timeout after its only byte the client is connected to either worker, in a
run from its start. -/
theorem idle_connections_are_closed_oneByte :
    (∃ w clock last, Readiness.Clocked (Readiness.plainWorker []) w clock last
      ∧ (∃ w₀, Readiness.ReadinessWorker.new (Readiness.plainWorker []) = .ok w₀
        ∧ Readiness.Ticks (Readiness.plainWorker []) w₀ w)
      ∧ ∃ now io w' occ, Readiness.step (Readiness.plainWorker [])
          (.closeIdleConnections now io) w = .ok w'
        ∧ w'.connections.get 0 = some occ ∧ last ⟨0, occ.connection.generation⟩ = some 0
        ∧ ∃ time, last ⟨0, occ.connection.generation⟩ = some time
          ∧ now - time < (Readiness.plainWorker []).limits.idleTimeout)
    ∧ ∃ w last, IoUring.Clocked bareUring w last ∧ IoUring.Reachable bareUring w
      ∧ ∃ index completion dns world w' occ,
        IoUring.step bareUring (.completed index completion dns world) w = .ok w'
        ∧ w'.connections.get 0 = some occ
        ∧ ∃ time, (IoUring.Event.completed index completion dns world).lastMoved w w' last
            ⟨0, occ.connection.generation⟩ = some time
          ∧ world.now - time < bareUring.limits.idleTimeout := by
  obtain ⟨hready, huring⟩ := idle_connections_are_closed (Readiness.plainWorker []) bareUring
  constructor
  · obtain ⟨w, clock, last, hclocked, w', hstep, occ, hget, hhandling, hlast⟩ := clocked_oneByte
    exact ⟨w, clock, last, hclocked, hclocked.ticks, 500, _, w', occ, hstep, hget, hlast,
      hready w clock last hclocked 500 _ w' hstep 0 occ hget hhandling⟩
  · obtain ⟨w, last, hclocked, htimer, w', hstep, occ, hget, hproxy, hlast⟩ := timerFires 500 (by
      decide +kernel)
    refine ⟨w, last, hclocked, hclocked.reachable, 3, _, _, _, w', occ, hstep, hget, ?_⟩
    refine huring w last hclocked 3 _ _ _ w' htimer hstep ?_ 0 occ hget hproxy
    -- no client can have been silent for a thousand by now
    intro slot occ₁ time _ _ hover
    exact absurd hover (Nat.not_le.mpr (Nat.lt_of_le_of_lt (Nat.sub_le _ _) (by decide)))

/-- Thirty idle timeouts after its only byte the client of an io_uring worker is still
connected. -/
theorem silent_client_stays_connected :
    ¬ ∀ w last, IoUring.Clocked bareUring w last → ∀ index completion dns world w',
      w.inFlight[index]? = some .timerRead →
      IoUring.step bareUring (.completed index completion dns world) w = .ok w' →
      ∀ slot occ, w'.connections.get slot = some occ → occ.connection.proxy = none →
        ∃ time, (IoUring.Event.completed index completion dns world).lastMoved w w' last
            ⟨slot, occ.connection.generation⟩ = some time
          ∧ world.now - time < bareUring.limits.idleTimeout := by
  intro hall
  obtain ⟨w, last, hclocked, htimer, w', hstep, occ, hget, hproxy, hlast⟩ := timerFires 30000 (by
    decide +kernel)
  obtain ⟨time, htime, hclosed⟩ := hall w last hclocked 3 _ _ _ w' htimer hstep 0 occ hget hproxy
  obtain rfl : time = 0 := Option.some.inj (htime.symm.trans hlast)
  exact absurd hclosed (by decide)

end Example

end Thwip
