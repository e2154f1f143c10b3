/-
  Thwip.Runtime.Timeouts — slow clients and the timeouts of their upstreams.

  Both workers stop reading from an upstream while the client has not taken the
  last chunk, so that the clock of the exchange stands still.  The io_uring worker
  leaves such a connection out of the pass of the timeouts.  The readiness worker
  does not: its client has to keep up with the upstream's read timeout.
-/
import Thwip.IoUring.Timeouts
import Thwip.Readiness.Progress
import Thwip.Readiness.Timeouts
import Thwip.Runtime.Limits

namespace Thwip

open Thwip.Lib

variable {σ τ : Type}

/-- **The timeouts of an upstream and the bytes a client has still to take**: the
readiness worker spares the exchanges with such bytes if and only if none of them
is past the timeout of its phase; the io_uring worker always spares them, if its
sessions hand out what they are given. -/
theorem timeouts_spare_slow_clients (cfg : Readiness.Config σ) (ucfg : IoUring.Config τ) :
    (∀ w, Readiness.Reachable cfg w → ∀ now io w',
      Readiness.step cfg (.closeExpiredProxies now io) w = .ok w' →
      ((∀ slot occ, w.connections.get slot = some occ →
          occ.connection.awaitsClient cfg.tls.toRustls = true →
          w'.connections.get slot = some occ)
        ↔ ∀ slot occ proxy, w.connections.get slot = some occ →
          occ.connection.awaitsClient cfg.tls.toRustls = true →
          occ.connection.proxy = some proxy →
          now - proxy.phaseProgressAt < proxy.phase.timeout cfg.proxyLimits))
    ∧ (IoUring.Flushes ucfg.tls → ∀ w, IoUring.Reachable ucfg w →
      ∀ index completion dns world w', w.inFlight[index]? = some .timerRead →
      IoUring.step ucfg (.completed index completion dns world) w = .ok w' →
      ∀ slot occ, w.connections.get slot = some occ →
        occ.connection.awaitsClient ucfg.tls = true → w'.connections.get slot = some occ) := by
  constructor
  · intro w _ now io w' hrun
    unfold Readiness.step at hrun
    split at hrun
    · cases hrun
    · exact Readiness.closeExpiredProxies_spares_iff hrun
  · intro htls w hw index completion dns world w' htimer hrun slot occ hget hawaits
    exact hw.timeouts_spare htls htimer hrun hget hawaits

section Example

/-- The small session, after a handshake of at least one flight. -/
def handshakingSession : Rustls IoUring.ToySession :=
  { IoUring.Rustls.toy 64 with
    serverConnection := fun rounds => some { flights := rounds + 1, inbox := [], outbox := [] } }

theorem handshakingSession_flushes : IoUring.Flushes handshakingSession where
  serverConnection_handshakes config s h := by
    injection h with h
    rw [← h]
    rfl
  readToEnd_established s h := by
    unfold handshakingSession IoUring.Rustls.toy at h ⊢
    dsimp only at h ⊢
    split_ifs at h ⊢ with hflights
    · simpa using hflights
    · exact absurd rfl h
  readTls_keeps s bytes n s' hestablished h := by
    injection h with h
    injection h with _ h
    rw [← h]
    exact hestablished
  processNewPackets_keeps s s' hestablished h := by
    have hflights : s.flights = 0 := by simpa [handshakingSession, IoUring.Rustls.toy] using hestablished
    unfold handshakingSession IoUring.Rustls.toy at h
    dsimp only at h
    rw [hflights] at h
    injection h with h
    rw [← h]
    exact hestablished
  readToEnd_keeps s hestablished := by
    unfold handshakingSession IoUring.Rustls.toy
    dsimp only
    split_ifs
    · exact hestablished
    · exact hestablished
  write_keeps s bytes n s' hestablished h := by
    injection h with h
    injection h with _ h
    rw [← h]
    exact hestablished
  writeTls_keeps s bytes s' hestablished h := by
    injection h with h
    injection h with _ h
    rw [← h]
    exact hestablished
  write_encrypts s bytes n s' _ hne h := by
    injection h with h
    injection h with _ h
    rw [← h]
    simpa [handshakingSession, IoUring.Rustls.toy] using fun _ => hne
  writeTls_ne_nil s bytes s' hwants h := by
    injection h with h
    injection h with h _
    rw [← h]
    simpa [handshakingSession, IoUring.Rustls.toy] using hwants

/-- A TLS worker whose clients handshake, and that proxies everything. -/
def handshakingProxy : IoUring.Config IoUring.ToySession :=
  IoUring.Config.single handshakingSession (some ⟨0, 100⟩) IoUring.proxyAll

/-- The client's flight comes with its request.  The session's answer to it is on its
way, then the upstream's response arrives, and twenty bytes of it are being sent. -/
def relayingChunk : List IoUring.Event :=
  [.accepts 5,
   .completed 4 (.received (1 :: asBytes "GET / HTTP/1.1\r\n\r\n".toList)) [] .quiet,
   .completed 2 (.plain 8) [⟨⟨0, 1⟩, some ["10.0.0.1:80".toList]⟩] .quiet,
   .completed 4 (.plain 0) [] .quiet, .completed 5 (.plain 46) [] .quiet,
   .completed 5 (.received (List.replicate 20 65)) [] .quiet, .completed 3 (.plain 1) [] .quiet]

/-- One tick before the timeout the client keeps its connection. -/
example : Readiness.bootsTo (Readiness.plainWorker Readiness.proxyAll)
    (Readiness.relayedChunk ++ [.closeExpiredProxies 99 (fun _ => .quiet)])
    (fun w => (w.connections.get 0).isSome) = true := by
  decide +kernel

/-- A client that has twenty bytes to take, after half the timeout and after ten
timeouts. -/
theorem timeouts_spare_slow_clients_relayedChunk :
    (∃ w w', Readiness.Reachable (Readiness.plainWorker Readiness.proxyAll) w
      ∧ Readiness.step (Readiness.plainWorker Readiness.proxyAll)
          (.closeExpiredProxies 50 (fun _ => .quiet)) w = .ok w'
      ∧ ∃ occ, w.connections.get 0 = some occ
        ∧ occ.connection.awaitsClient Rustls.absent = true ∧ w'.connections.get 0 = some occ)
    ∧ ∃ w w', IoUring.Reachable handshakingProxy w
      ∧ IoUring.step handshakingProxy
          (.completed 2 (.plain 8) [] { IoUring.World.quiet with now := 1000 }) w = .ok w'
      ∧ ∃ occ, w.connections.get 0 = some occ ∧ occ.connection.ssl.isSome = true
        ∧ occ.connection.awaitsClient handshakingSession = true ∧ w'.connections.get 0 = some occ := by
  have hrun : Readiness.bootsTo (Readiness.plainWorker Readiness.proxyAll) Readiness.relayedChunk
      (fun w => (w.connections.get 0).any (fun occ =>
          occ.connection.awaitsClient Rustls.absent)
        && w.connections.length == 1
        && (w.connections.get 0).all (fun occ => occ.connection.proxy.all (fun proxy =>
          proxy.phaseProgressAt == 0 && proxy.phase == .readingResponse))
        && (Readiness.step (Readiness.plainWorker Readiness.proxyAll)
          (.closeExpiredProxies 50 (fun _ => .quiet)) w).isOk) = true := by
    decide +kernel
  have hrun' : IoUring.bootsTo handshakingProxy .quiet
      relayingChunk (fun w => (w.connections.get 0).any (fun occ =>
          occ.connection.ssl.isSome && occ.connection.awaitsClient handshakingSession)
        && w.inFlight[2]? == some .timerRead
        && (IoUring.step handshakingProxy
          (.completed 2 (.plain 8) [] { IoUring.World.quiet with now := 1000 }) w).isOk) = true := by
    decide +kernel
  obtain ⟨hready, huring⟩ := timeouts_spare_slow_clients
    (Readiness.plainWorker Readiness.proxyAll)
    handshakingProxy
  constructor
  · obtain ⟨w, hw, hp⟩ := Readiness.reachable_of_bootsTo hrun
    simp only [Bool.and_eq_true, Option.any_eq_true, beq_iff_eq, Option.all_eq_true] at hp
    obtain ⟨⟨⟨⟨occ, hget, hawaits⟩, hlength⟩, hclock⟩, hok⟩ := hp
    cases hstep : Readiness.step (Readiness.plainWorker Readiness.proxyAll)
        (.closeExpiredProxies 50 (fun _ => .quiet)) w with
    | error exit => simp [hstep, Except.isOk, Except.toBool] at hok
    | ok w' =>
        refine ⟨w, w', hw, hstep, occ, hget, hawaits, ?_⟩
        refine (hready w hw 50 _ w' hstep).mpr ?_ 0 occ hget hawaits
        intro slot occ' proxy hget' _ hproxy
        have hslot : slot = 0 := by
          have := Slab.lt_of_get hget'
          omega
        subst hslot
        obtain ⟨hprogress, hphase⟩ := hclock occ' hget' proxy hproxy
        rw [hprogress, hphase]
        decide
  · obtain ⟨w, hw, hp⟩ := IoUring.reachable_of_bootsTo hrun'
    simp only [Bool.and_eq_true, Option.any_eq_true, beq_iff_eq] at hp
    obtain ⟨⟨⟨occ, hget, hssl, hawaits⟩, htimer⟩, hok⟩ := hp
    cases hstep : IoUring.step handshakingProxy
        (.completed 2 (.plain 8) [] { IoUring.World.quiet with now := 1000 }) w with
    | error exit => simp [hstep, Except.isOk, Except.toBool] at hok
    | ok w' =>
        exact ⟨w, w', hw, hstep, occ, hget, hssl, hawaits,
          huring handshakingSession_flushes w hw 2 _ _ _ w' htimer hstep 0 occ hget hawaits⟩

/-- After a whole timeout without a write, the readiness worker removes the
connection with the twenty bytes. -/
theorem slow_client_times_out :
    ¬ ∀ w, Readiness.Reachable (Readiness.plainWorker Readiness.proxyAll) w → ∀ now io w',
      Readiness.step (Readiness.plainWorker Readiness.proxyAll)
        (.closeExpiredProxies now io) w = .ok w' →
      ∀ slot occ, w.connections.get slot = some occ →
        occ.connection.awaitsClient Rustls.absent = true → w'.connections.get slot = some occ := by
  intro hall
  have hrun : Readiness.bootsTo (Readiness.plainWorker Readiness.proxyAll) Readiness.relayedChunk
      (fun w => (w.connections.get 0).any (fun occ =>
          occ.connection.awaitsClient Rustls.absent)
        && match Readiness.step (Readiness.plainWorker Readiness.proxyAll)
            (.closeExpiredProxies 100 (fun _ => .quiet)) w with
          | .ok w' => (w'.connections.get 0).isNone
          | .error _ => false) = true := by
    decide +kernel
  obtain ⟨w, hw, hp⟩ := Readiness.reachable_of_bootsTo hrun
  rw [Bool.and_eq_true, Option.any_eq_true] at hp
  obtain ⟨⟨occ, hget, hawaits⟩, hgone⟩ := hp
  cases hstep : Readiness.step (Readiness.plainWorker Readiness.proxyAll)
      (.closeExpiredProxies 100 (fun _ => .quiet)) w with
  | error exit =>
      rw [hstep] at hgone
      cases hgone
  | ok w' =>
      rw [hstep] at hgone
      dsimp only at hgone
      rw [hall w hw 100 _ w' hstep 0 occ hget hawaits] at hgone
      cases hgone

end Example

end Thwip
