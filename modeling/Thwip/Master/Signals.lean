/-
  Thwip.Master.Signals — how the workers hear of a shutdown.

  The master sends `SIGTERM` once to each worker there is when it begins to stop.
  A worker whose handlers are installed passes the signal on to its shutdown
  thread.  Before that it has only the handler it inherited, which sets a flag that
  nothing in the worker reads: such a worker never hears of the shutdown, and the
  master waits for it.
-/
import Thwip.Master.Restarts

namespace Thwip.Master

open Thwip.Lib

variable {s s' : System} {p : WorkerProcess}

/-! ## §1. The signal on its way. -/

/-- The broadcast has yet to come to this process. -/
def Place.willSignal (pid : Pid) : Place → Prop
  | .signalling pids => pid ∈ pids
  | _ => False

/-- Once the master stops, each worker has been sent the signal, or is still to be. -/
def Broadcast (s : System) : Prop :=
  s.stopping = true → ∀ p ∈ s.processes, p.ended = none →
    .sigterm ∈ p.pending ∨ .sigterm ∈ p.delivered ∨ s.place.willSignal p.pid

theorem mem_send (signal : Signal) (p : WorkerProcess) : signal ∈ (p.send signal).pending := by
  unfold WorkerProcess.send
  split_ifs with hmem
  · exact hmem
  · exact List.mem_cons_self

theorem send_pending {signal signal' : Signal} (h : signal ∈ p.pending) :
    signal ∈ (p.send signal').pending := by
  unfold WorkerProcess.send
  split_ifs
  · exact h
  · exact List.mem_cons_of_mem _ h

theorem send_keeps (signal : Signal) (p : WorkerProcess) :
    (p.send signal).delivered = p.delivered ∧ (p.send signal).noticed = p.noticed
      ∧ (p.send signal).requested = p.requested := by
  unfold WorkerProcess.send
  split_ifs <;> exact ⟨rfl, rfl, rfl⟩

/-- A signal that was sent stays pending until it is delivered. -/
theorem act_sent {signal : Signal} (act : WorkerAct)
    (h : signal ∈ p.pending ∨ signal ∈ p.delivered) :
    signal ∈ (p.act act).pending ∨ signal ∈ (p.act act).delivered := by
  cases act with
  | sent signal' =>
      show signal ∈ (p.send signal').pending ∨ signal ∈ (p.send signal').delivered
      rw [(send_keeps signal' p).1]
      exact h.imp_left send_pending
  | deliver signal' =>
      simp only [WorkerProcess.act]
      split_ifs with hpending
      · show signal ∈ p.pending.erase signal' ∨ signal ∈ signal' :: p.delivered
        by_cases hsame : signal = signal'
        · exact .inr (hsame ▸ List.mem_cons_self)
        · rcases h with hpend | hdeliv
          · exact .inl ((List.mem_erase_of_ne hsame).mpr hpend)
          · exact .inr (List.mem_cons_of_mem _ hdeliv)
      · exact h
  | hear =>
      simp only [WorkerProcess.act]
      split_ifs <;> exact h
  | install | exit | killed => exact h

theorem recordExit_processes (answer : Answer) (status : WaitStatus) (pid : Pid) :
    (s.recordExit answer status pid).processes
      = s.processes.filter (fun p => p.pid != pid) := by
  unfold System.recordExit
  dsimp only
  repeat' split
  all_goals rfl

theorem Place.Next.not_willSignal {place : Place} {pid : Pid} (hnext : place.Next s)
    (hstopping : s.stopping = true) : ¬ s.place.willSignal pid := by
  intro hwill
  cases hplace : s.place with
  | signalling pids =>
      rw [hplace] at hwill
      cases hnext with
      | loop hnot => exact hnot pids hplace
      | wait hfrom =>
          rcases hfrom with hempty | ⟨htop, -⟩
          · rw [hplace] at hempty
            injection hempty with hempty
            subst hempty
            cases hwill
          · rw [hplace] at htop
            cases htop
      | check hwaiting =>
          rw [hplace] at hwaiting
          cases hwaiting
      | restart idx hfrom =>
          rcases hfrom with hrunning | ⟨idx', hrestarting⟩
          · rw [hstopping] at hrunning
            cases hrunning
          · rw [hplace] at hrestarting
            cases hrestarting
  | _ =>
      rw [hplace] at hwill
      exact hwill

/-- **The broadcast misses no worker**: its pids are those of the slots, and nothing
is forked after it. -/
theorem Broadcast.step {event : Event} (hinv : Supervised s) (h : Broadcast s)
    (hstep : Master.step event s = .ok s') : Broadcast s' := by
  cases step_cases hstep with
  | nothing answer => exact h
  | requested => exact h
  | moved answer place hnext =>
      intro hstopping p hp halive
      rcases h hstopping p hp halive with hpending | hdelivered | hwill
      · exact .inl hpending
      · exact .inr (.inl hdelivered)
      · exact absurd hwill (hnext.not_willSignal hstopping)
  | worker pid act =>
      intro hstopping p' hmem halive
      obtain ⟨p, hp, rfl⟩ := List.mem_map.mp hmem
      split_ifs at halive ⊢ with hself
      · rcases h hstopping p hp hself.2 with hpending | hdelivered | hwill
        · exact (act_sent act (.inl hpending)).imp_right .inl
        · exact (act_sent act (.inr hdelivered)).imp_right .inl
        · refine .inr (.inr ?_)
          rw [act_pid]
          exact hwill
      · exact h hstopping p hp halive
  | started answer pid hplace hfresh =>
      intro hstopping
      have hrunning := hinv.forking hplace
      have hstopping : s.stopping = true := hstopping
      rw [hrunning] at hstopping
      cases hstopping
  | restarted answer idx worker pid hplace hworker hdue hfresh =>
      intro hstopping
      have hrunning := hinv.restarting idx hplace
      have hstopping : s.stopping = true := hstopping
      rw [hrunning] at hstopping
      cases hstopping
  | stopped answer hplace hbefore =>
      intro _ p hp _
      -- each child is the worker of a slot
      obtain ⟨worker, hworker, hpid⟩ := hinv.processes.owner p hp
      refine .inr (.inr ?_)
      show p.pid ∈ s.workers.filterMap WorkerSlot.pid
      exact List.mem_filterMap.mpr ⟨worker, List.mem_of_getElem? hworker, hpid⟩
  | signalled answer pid pids hplace =>
      intro hstopping p' hmem halive
      obtain ⟨p, hp, rfl⟩ := List.mem_map.mp hmem
      split_ifs at halive ⊢ with hself
      · exact .inl (mem_send .sigterm p)
      · rcases h hstopping p hp halive with hpending | hdelivered | hwill
        · exact .inl hpending
        · exact .inr (.inl hdelivered)
        · rw [hplace] at hwill
          exact .inr (.inr ((List.mem_cons.mp hwill).resolve_left hself))
  | reaped answer status q pid hq hended hpid hplace =>
      have hsame : (s.recordExit answer status pid).stopping = s.stopping := by
        unfold System.recordExit
        dsimp only
        repeat' split
        all_goals rfl
      intro hstopping p hp halive
      rw [hsame] at hstopping
      rw [recordExit_processes, List.mem_filter] at hp
      rcases h hstopping p hp.1 halive with hpending | hdelivered | hwill
      · exact .inl hpending
      · exact .inr (.inl hdelivered)
      · rw [hplace] at hwill
        cases hwill

/-! ## §2. Workers that hear. -/

/-- A delivered `SIGTERM` has been passed on to the shutdown thread. -/
def WorkerProcess.Hears (p : WorkerProcess) : Prop :=
  .sigterm ∈ p.delivered → p.noticed = true ∨ p.requested = true

/-- `SIGTERM` is delivered to a worker only when `Signals::new` has registered it. -/
def handlesInTime (s : System) : Event → Bool
  | .worker pid (.deliver .sigterm) =>
      s.processes.all (fun p =>
        p.pid != pid || p.ended.isSome || !p.pending.contains .sigterm
          || p.startup.handles .sigterm)
  | _ => true

theorem WorkerProcess.Hears.act (h : p.Hears) (act : WorkerAct)
    (hhandles : act = .deliver .sigterm → .sigterm ∈ p.pending →
      p.startup.handles .sigterm = true) : (p.act act).Hears := by
  cases act with
  | sent signal =>
      obtain ⟨hdelivered, hnoticed, hrequested⟩ := send_keeps signal p
      show (p.send signal).Hears
      unfold WorkerProcess.Hears
      rw [hdelivered, hnoticed, hrequested]
      exact h
  | deliver signal =>
      simp only [WorkerProcess.act]
      split_ifs with hpending
      · intro hmem
        show (p.noticed || p.startup.handles signal) = true ∨ p.requested = true
        rw [Bool.or_eq_true]
        rcases List.mem_cons.mp hmem with hself | hbefore
        · subst hself
          exact .inl (.inr (hhandles rfl hpending))
        · exact (h hbefore).imp_left .inl
      · exact h
  | hear =>
      simp only [WorkerProcess.act]
      split_ifs
      · exact fun _ => .inr rfl
      · exact h
  | install | exit | killed => exact h

theorem hears_step {event : Event} (h : ∀ p ∈ s.processes, p.Hears)
    (hmeets : handlesInTime s event = true) (hstep : step event s = .ok s') :
    ∀ p ∈ s'.processes, p.Hears := by
  have hforked : ∀ pid cpuId flag, (WorkerProcess.forked pid cpuId flag).Hears := by
    intro pid cpuId flag hmem
    cases hmem
  cases step_cases hstep with
  | requested | nothing | moved | stopped => exact h
  | worker pid act =>
      intro p' hmem
      obtain ⟨p, hp, rfl⟩ := List.mem_map.mp hmem
      split_ifs with hself
      · refine (h p hp).act act ?_
        rintro rfl hpending
        have hhandles := List.all_eq_true.mp hmeets p hp
        simpa [hself.1, hself.2, hpending] using hhandles
      · exact h p hp
  | started | restarted =>
      intro p hp
      rcases List.mem_append.mp hp with hold | hnew
      · exact h p hold
      · rw [List.mem_singleton.mp hnew]
        exact hforked _ _ _
  | signalled answer pid pids hplace =>
      intro p' hmem
      obtain ⟨p, hp, rfl⟩ := List.mem_map.mp hmem
      split_ifs
      · exact (h p hp).act (.sent .sigterm) (fun hfalse => by cases hfalse)
      · exact h p hp
  | reaped answer status q pid hq hended hpid hplace =>
      intro p hp
      rw [recordExit_processes, List.mem_filter] at hp
      exact h p hp.1

/-! ## §3. Whole executions. -/

theorem Execution.broadcast {totalWorkers : Nat} {Meets : System → Event → Prop}
    (h : Execution (System.start totalWorkers) step Meets s) : Broadcast s := by
  have hstart : ∀ s, System.start totalWorkers s → Supervised s ∧ Broadcast s := by
    intro s hstart
    refine ⟨.start hstart, ?_⟩
    unfold System.start at hstart
    subst hstart
    exact fun hstopping => by cases hstopping
  have hstep : ∀ s event s', Supervised s ∧ Broadcast s → Meets s event →
      step event s = .ok s' → Supervised s' ∧ Broadcast s' :=
    fun s event s' hinv _ hstep => ⟨hinv.1.step hstep, hinv.2.step hinv.1 hstep⟩
  exact (Execution.invariant hstart hstep h).2

/-- **Each worker hears of the shutdown**, in every execution in which `SIGTERM` is
delivered to a worker only after its handler has been installed: what has been
delivered has been passed on or heard, and once the broadcast is over the signal
is on its way to each worker that has not. -/
theorem shutdown_is_heard {totalWorkers : Nat}
    (h : Execution (System.start totalWorkers) step
      (fun s event => handlesInTime s event = true) s) :
    (∀ p ∈ s.processes, p.ended = none → .sigterm ∈ p.delivered → .sigterm ∉ p.pending →
      p.noticed = false → p.requested = true)
    ∧ (s.stopping = true → (∀ pids, s.place ≠ .signalling pids) →
      ∀ p ∈ s.processes, p.ended = none →
        .sigterm ∈ p.pending ∨ p.noticed = true ∨ p.requested = true) := by
  have hstart : ∀ s, System.start totalWorkers s → ∀ p ∈ s.processes, p.Hears := by
    intro s hstart
    unfold System.start at hstart
    subst hstart
    exact fun p hp => by cases hp
  have hstep : ∀ s event s', (∀ p ∈ s.processes, p.Hears) → handlesInTime s event = true →
      step event s = .ok s' → ∀ p ∈ s'.processes, p.Hears :=
    fun s event s' hinv hmeets hstep => hears_step hinv hmeets hstep
  have hhears : ∀ p ∈ s.processes, p.Hears := Execution.invariant hstart hstep h
  refine ⟨?_, ?_⟩
  · intro p hp _ hdelivered _ hunnoticed
    rcases hhears p hp hdelivered with hnoticed | hrequested
    · rw [hunnoticed] at hnoticed
      cases hnoticed
    · exact hrequested
  · intro hstopping hover p hp halive
    rcases Execution.broadcast h hstopping p hp halive with hpending | hdelivered | hwill
    · exact .inl hpending
    · exact .inr (hhears p hp hdelivered)
    · cases hplace : s.place with
      | signalling pids => exact absurd hplace (hover pids)
      | _ =>
          rw [hplace] at hwill
          cases hwill

section Example

/-- A worker is forked, and the master is told to stop. -/
def stopsOne : List Event :=
  [.goesOn 0 7, .goesOn 0 8, .masterSignalled, .goesOn 0 8, .goesOn 0 8, .goesOn 0 8]

/-- The broadcast is over, and `SIGTERM` has been delivered to the only worker,
which is alive. -/
def toldOne (s : System) : Bool :=
  s.stopping && s.place == .waiting
    && s.processes.any (fun p => p.ended == none && p.delivered == [.sigterm] && p.pending == []
      && !p.noticed)

theorem shutdown_is_heard_installed :
    ∃ s : System, s.stopping = true ∧ ∃ p ∈ s.processes, p.ended = none
      ∧ .sigterm ∈ p.delivered ∧ p.requested = true := by
  have hrun : runsTo 1 handlesInTime
      (stopsOne ++ [.worker 7 .install, .worker 7 .install, .worker 7 (.deliver .sigterm),
        .worker 7 .install, .worker 7 .hear]) toldOne = true := by
    decide +kernel
  obtain ⟨s, hs, hp⟩ := execution_of_runsTo hrun
  simp only [toldOne, Bool.and_eq_true, List.any_eq_true, beq_iff_eq, Bool.not_eq_true'] at hp
  obtain ⟨⟨hstopping, -⟩, p, hmem, ⟨⟨halive, hdelivered⟩, hpending⟩, hnoticed⟩ := hp
  have hsent : .sigterm ∈ p.delivered := by
    rw [hdelivered]
    exact List.mem_cons_self
  have hnone : .sigterm ∉ p.pending := by
    rw [hpending]
    exact List.not_mem_nil
  exact ⟨s, hstopping, p, hmem, halive, hsent,
    (shutdown_is_heard hs).1 p hmem halive hsent hnone hnoticed⟩

/-- The signal comes before the handlers: only the inherited flag is set. -/
theorem early_sigterm_is_not_heard :
    ¬ ∀ s : System, Reachable 1 s → s.stopping = true → (∀ pids, s.place ≠ .signalling pids) →
      ∀ p ∈ s.processes, p.ended = none → .sigterm ∈ p.delivered → p.pending = [] →
        p.noticed = false → p.requested = true := by
  intro hall
  have hrun : runsTo 1 (fun _ _ => true)
      (stopsOne ++ [.worker 7 (.deliver .sigterm), .worker 7 .install, .worker 7 .install,
        .worker 7 .install])
      (fun s => toldOne s && s.processes.all (fun p => !p.requested)) = true := by
    decide +kernel
  obtain ⟨s, hs, hp⟩ := reachable_of_runsTo hrun
  simp only [toldOne, Bool.and_eq_true, List.any_eq_true, List.all_eq_true, beq_iff_eq,
    Bool.not_eq_true'] at hp
  obtain ⟨⟨⟨hstopping, hplace⟩, p, hmem, ⟨⟨halive, hdelivered⟩, hpending⟩, hnoticed⟩, hnot⟩ := hp
  have hover : ∀ pids, s.place ≠ .signalling pids := by
    intro pids heq
    rw [hplace] at heq
    cases heq
  have hsent : .sigterm ∈ p.delivered := by
    rw [hdelivered]
    exact List.mem_cons_self
  have hrequested := hall s hs hstopping hover p hmem halive hsent hpending hnoticed
  rw [hnot p hmem] at hrequested
  cases hrequested

end Example

end Thwip.Master
