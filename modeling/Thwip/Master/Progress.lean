/-
  Thwip.Master.Progress — what the master does in time (`run/master/src/main.rs`).

  The workers and the signals do what they like between the steps of the master.  While the
  kernel serves it, a bounded number of its own steps takes it from a request to shut down
  to its signals, from the deaths of its workers to its return, and from the end of a
  restart delay to the new worker, however many steps the others take in between.
-/
import Thwip.Lib.Progress
import Thwip.Master.Signals

namespace Thwip.Master

open Thwip.Lib

/-! ## §1. What the kernel answers. -/

/-- `waitpid` with `WNOHANG`: a child that ended, or that none of them has, or that there is
none. -/
def System.tells (s : System) : WaitAnswer → Bool
  | .reaped pid => s.processes.any (fun p => p.pid == pid && p.ended.isSome)
  | .status status =>
      status == .stillAlive && !s.processes.isEmpty && s.processes.all (fun p => p.ended.isNone)
  | .echild => s.processes.isEmpty
  | .failed => false

/-- The kernel tells the truth about the children, and has a pid when it is asked for one. -/
def served (s : System) : Event → Bool
  | .master answer =>
      s.tells answer.wait && answer.fork.any (fun pid => !s.inUse pid) && !answer.killFails
  | _ => true

def Event.isMaster : Event → Bool
  | .master _ => true
  | _ => false

/-- The master reads its clock at this time or later. -/
def Event.Since (time : Nat) : Event → Prop
  | .master answer => time ≤ answer.now
  | _ => True

/-- A worker runs for the slot. -/
def System.Runs (s : System) (slot : Nat) : Prop :=
  ∃ worker pid, s.workers[slot]? = some worker ∧ worker.pid = some pid

/-! ## §2. Everything a turn of the master does then. -/

variable {s s' : System} {answer : Answer}

/-- One turn of the master while it is served, by its place. -/
inductive Turn (s : System) (answer : Answer) : Except Outcome System → Prop where
  | forks (pid : Pid) (hplace : s.place = .forking) (hmore : s.workers.length < s.totalWorkers) :
      Turn s answer (.ok { s.fork s.workers.length pid answer.now with
        workers := s.workers ++
          [{ cpuId := s.workers.length, pid := some pid, failures := 0
             startedAt := answer.later, restartAt := none }] })
  | supervises (hplace : s.place = .forking) : Turn s answer (.ok { s with place := .top })
  | stops (hplace : s.place = .top) (hrequested : s.shutdownRequested = true)
      (hrunning : s.stopping = false) :
      Turn s answer (.ok { s with
        stopping := true, place := .signalling (s.workers.filterMap WorkerSlot.pid)
        history := .stopping :: s.history })
  | goesOn (hplace : s.place = .top) (h : s.shutdownRequested = true → s.stopping = true) :
      Turn s answer (.ok { s with place := .waiting })
  | signalled (hplace : s.place = .signalling []) :
      Turn s answer (.ok { s with place := .waiting })
  | signals (pid : Pid) (pids : List Pid) (hplace : s.place = .signalling (pid :: pids)) :
      Turn s answer (.ok { s with
        place := .signalling pids
        processes := s.processes.map (fun p => if p.pid = pid then p.send .sigterm else p) })
  | reaps (s' : System) (p : WorkerProcess) (hplace : s.place = .waiting) (hp : p ∈ s.processes)
      (hprocesses : s'.processes = s.processes.filter (fun q => q.pid != p.pid))
      (hworkers : ∃ worker, s'.workers = s.workers.set p.cpuId worker)
      (hplace' : s'.place = .checking) (hstopping : s'.stopping = s.stopping) :
      Turn s answer (.ok s')
  | nobody (hplace : s.place = .waiting)
      (h : s.processes = [] ∨ ∃ p ∈ s.processes, p.ended = none) :
      Turn s answer (.ok { s with place := .checking })
  | drained (hplace : s.place = .checking) (hstopping : s.stopping = true) :
      Turn s answer (.error .ok)
  | drains (hplace : s.place = .checking) (hstopping : s.stopping = true)
      (hleft : ∃ worker ∈ s.workers, worker.pid ≠ none) :
      Turn s answer (.ok { s with place := .top })
  | looks (hplace : s.place = .checking) (hrunning : s.stopping = false) :
      Turn s answer (.ok { s with place := .restarting 0 })
  | restarts (idx : Nat) (worker : WorkerSlot) (pid : Pid) (hplace : s.place = .restarting idx)
      (hworker : s.workers[idx]? = some worker) :
      Turn s answer (.ok { s.fork worker.cpuId pid answer.now with
        workers := s.workers.set idx
          { worker with pid := some pid, startedAt := answer.later, restartAt := none }
        place := .restarting (idx + 1) })
  | passes (idx : Nat) (worker : WorkerSlot) (hplace : s.place = .restarting idx)
      (hworker : s.workers[idx]? = some worker) (hnot : worker.isDue answer.now = false) :
      Turn s answer (.ok { s with place := .restarting (idx + 1) })
  | finished (idx : Nat) (hplace : s.place = .restarting idx)
      (hall : ∀ worker ∈ s.workers, worker.pid = none ∧ worker.restartAt = none) :
      Turn s answer (.error .ok)
  | again (idx : Nat) (hplace : s.place = .restarting idx) (hend : s.workers.length ≤ idx) :
      Turn s answer (.ok { s with place := .top })

/-- The kernel's answers to a master that is served. -/
theorem served_answer (h : served s (.master answer) = true) :
    s.tells answer.wait = true ∧ (∃ pid, answer.fork = some pid ∧ s.inUse pid = false)
      ∧ answer.killFails = false := by
  simp only [served, Bool.and_eq_true, Bool.not_eq_true'] at h
  obtain ⟨⟨htells, hfork⟩, hkill⟩ := h
  refine ⟨htells, ?_, hkill⟩
  cases hpid : answer.fork with
  | none =>
      rw [hpid] at hfork
      cases hfork
  | some pid =>
      rw [hpid] at hfork
      exact ⟨pid, rfl, by simpa using hfork⟩

/-- A death that is reported is that of a slot's worker. -/
theorem recordExit_turn (h : Owned s) {p : WorkerProcess} {status : WaitStatus}
    (hp : p ∈ s.processes) (hplace : s.place = .waiting) :
    Turn s answer (.ok (s.recordExit answer status p.pid)) := by
  obtain ⟨worker, hworker, -, hfind⟩ := h.find hp
  have hrecord : s.recordExit answer status p.pid = { s with
      processes := s.processes.filter (fun q => q.pid != p.pid)
      workers := s.workers.set p.cpuId
        (worker.recordExit s.stopping status answer.now answer.later)
      place := .checking
      history := .exited p.cpuId status (answer.now - worker.startedAt) answer.later
        :: s.history } := by
    simp only [System.recordExit, hfind, hworker]
  rw [hrecord]
  exact .reaps _ p hplace hp rfl ⟨_, rfl⟩ rfl rfl

theorem waitStep_turn (h : Supervised s) (hplace : s.place = .waiting)
    (htells : s.tells answer.wait = true) : Turn s answer (waitStep answer s) := by
  unfold waitStep
  cases hwait : answer.wait with
  | reaped pid =>
      rw [hwait] at htells
      obtain ⟨q, hq, hboth⟩ := List.any_eq_true.mp htells
      rw [Bool.and_eq_true, beq_iff_eq] at hboth
      dsimp only
      split
      next hnone =>
        have hnot := List.find?_eq_none.mp hnone q hq
        exact absurd (beq_iff_eq.mpr hboth.1) hnot
      next p hfind =>
        have hp := List.mem_of_find?_eq_some hfind
        have hsame : p = q := by
          have hpid : p.pid = pid := by simpa using List.find?_some hfind
          exact List.inj_on_of_nodup_map h.processes.distinct hp hq (hpid.trans hboth.1.symm)
        split
        next halive =>
          rw [hsame] at halive
          rw [halive] at hboth
          cases hboth.2
        next status hended =>
          simp only [h.processes.ended p hp status hended]
          exact recordExit_turn h.processes hp hplace
  | status status =>
      rw [hwait] at htells
      simp only [System.tells, Bool.and_eq_true, beq_iff_eq, Bool.not_eq_true'] at htells
      obtain ⟨⟨rfl, hsome⟩, hall⟩ := htells
      obtain ⟨p, hp⟩ := List.exists_mem_of_ne_nil s.processes (by simpa using hsome)
      have halive := List.all_eq_true.mp hall p hp
      exact .nobody hplace (.inr ⟨p, hp, by simpa using halive⟩)
  | echild =>
      rw [hwait] at htells
      exact .nobody hplace (.inl (by simpa [System.tells] using htells))
  | failed =>
      rw [hwait] at htells
      cases htells

/-- **Every turn of a served master is one of these.** -/
theorem turn_cases (h : Supervised s) (hserved : served s (.master answer) = true) :
    Turn s answer (masterStep answer s) := by
  obtain ⟨htells, ⟨pid, hfork, hfresh⟩, hkill⟩ := served_answer hserved
  unfold masterStep
  cases hplace : s.place with
  | forking =>
      simp only [forkStep, hfork, hfresh, Bool.false_eq_true, if_false]
      split_ifs with hmore
      · exact .forks pid hplace hmore
      · exact .supervises hplace
  | top =>
      simp only [topStep]
      split_ifs with hstop
      · rw [Bool.and_eq_true, Bool.not_eq_true'] at hstop
        exact .stops hplace hstop.1 hstop.2
      · refine .goesOn hplace ?_
        intro hrequested
        simpa [hrequested] using hstop
  | signalling pids =>
      cases pids with
      | nil => exact .signalled hplace
      | cons pid pids =>
          simp only [signalStep, hkill, Bool.false_eq_true, if_false]
          exact .signals pid pids hplace
  | waiting => exact waitStep_turn h hplace htells
  | checking =>
      simp only [checkStep]
      split_ifs with hstopping hall
      · exact .drained hplace hstopping
      · refine .drains hplace hstopping ?_
        simpa using hall
      · exact .looks hplace (by simpa using hstopping)
  | restarting idx =>
      simp only [restartStep]
      split
      next worker hworker =>
        simp only [hfork, hfresh, Bool.false_eq_true, if_false]
        split_ifs with hdue
        · exact .restarts idx worker pid hplace hworker
        · exact .passes idx worker hplace hworker (by simpa using hdue)
      next hend =>
        split_ifs with hall
        · exact .finished idx hplace (by simpa using hall)
        · exact .again idx hplace (List.getElem?_eq_none_iff.mp hend)

/-! ## §3. What holds at any time. -/

/-- There are no more slots than workers asked for, and no more signals left than slots. -/
structure Bounded (s : System) : Prop where
  workers : s.workers.length ≤ s.totalWorkers
  signalling : ∀ pids, s.place = .signalling pids →
    s.stopping = true ∧ pids.length ≤ s.totalWorkers

theorem recordExit_bounded (h : Bounded s) (status : WaitStatus) (pid : Pid) :
    Bounded (s.recordExit answer status pid) := by
  unfold System.recordExit
  dsimp only
  repeat' split
  · exact ⟨h.workers, fun pids hplace => by cases hplace⟩
  · exact ⟨h.workers, fun pids hplace => by cases hplace⟩
  · refine ⟨?_, fun pids hplace => by cases hplace⟩
    show (s.workers.set _ _).length ≤ s.totalWorkers
    rw [List.length_set]
    exact h.workers

theorem Bounded.step {event : Event} (h : Bounded s) (hstep : Master.step event s = .ok s') :
    Bounded s' := by
  cases step_cases hstep with
  | requested | worker | nothing => exact ⟨h.workers, h.signalling⟩
  | moved answer place hnext =>
      refine ⟨h.workers, ?_⟩
      intro pids hplace
      cases hnext <;> cases hplace
  | started answer pid hplace hfresh =>
      have hmore : s.workers.length < s.totalWorkers := by
        by_contra hnot
        simp only [Master.step, masterStep, hplace, forkStep, if_neg hnot] at hstep
        injection hstep with hstep
        have hlength := congrArg (fun s => s.workers.length) hstep
        simp at hlength
      refine ⟨?_, ?_⟩
      · show (s.workers ++ _).length ≤ s.totalWorkers
        rw [List.length_append, List.length_singleton]
        omega
      · intro pids hsignalling
        exact absurd (hplace.symm.trans hsignalling) (by simp)
  | stopped answer hplace hbefore =>
      refine ⟨h.workers, ?_⟩
      intro pids hsignalling
      injection hsignalling with hpids
      refine ⟨rfl, ?_⟩
      rw [← hpids]
      exact (List.length_filterMap_le _ _).trans h.workers
  | signalled answer pid pids hplace =>
      refine ⟨h.workers, ?_⟩
      intro pids' hsignalling
      injection hsignalling with hpids
      obtain ⟨hstopping, hlength⟩ := h.signalling _ hplace
      rw [← hpids]
      rw [List.length_cons] at hlength
      exact ⟨hstopping, (Nat.le_succ _).trans hlength⟩
  | reaped answer status p pid hmem hended hpid hplace => exact recordExit_bounded h status pid
  | restarted answer idx worker pid hplace hworker hdue hfresh =>
      refine ⟨?_, fun pids hsignalling => by cases hsignalling⟩
      show (s.workers.set _ _).length ≤ s.totalWorkers
      rw [List.length_set]
      exact h.workers

/-- A request to shut down is never taken back. -/
theorem step_requested {event : Event} (h : s.shutdownRequested = true)
    (hstep : step event s = .ok s') : s'.shutdownRequested = true := by
  cases step_cases hstep with
  | requested => rfl
  | reaped answer status p pid =>
      unfold System.recordExit
      dsimp only
      repeat' split
      all_goals exact h
  | _ => exact h

/-- What the others leave as it is. -/
structure SameMaster (s s' : System) : Prop where
  place : s'.place = s.place
  workers : s'.workers = s.workers
  totalWorkers : s'.totalWorkers = s.totalWorkers
  stopping : s'.stopping = s.stopping
  processes : s'.processes.length = s.processes.length
  ended : (∀ p ∈ s.processes, p.ended ≠ none) → s'.processes = s.processes

theorem step_others {event : Event} (h : event.isMaster = false)
    (hstep : step event s = .ok s') : SameMaster s s' := by
  cases event with
  | master answer => cases h
  | masterSignalled =>
      injection hstep with hstep
      subst hstep
      exact ⟨rfl, rfl, rfl, rfl, rfl, fun _ => rfl⟩
  | worker pid act =>
      injection hstep with hstep
      subst hstep
      refine ⟨rfl, rfl, rfl, rfl, List.length_map _, ?_⟩
      intro hall
      -- an ended process takes no step
      have hsame : ∀ p ∈ s.processes,
          (if p.pid = pid ∧ p.ended = none then p.act act else p) = id p :=
        fun p hp => if_neg (fun hboth => hall p hp hboth.2)
      exact (List.map_congr_left hsame).trans (List.map_id _)

/-! ## §4. From the request to the signals. -/

/-- The turns before the one in which the master finds the request. -/
def System.turnsToStop (s : System) : Nat :=
  match s.place with
  | .forking => s.totalWorkers - s.workers.length + 1
  | .top | .signalling _ => 0
  | .waiting => s.workers.length + 3
  | .checking => s.workers.length + 2
  | .restarting idx => s.workers.length - idx + 1

theorem stops_progress :
    Progress step served (fun _ => True) Event.isMaster
      (fun s => Supervised s ∧ Bounded s ∧ s.shutdownRequested = true)
      (fun s => s.stopping = true) (fun outcome => outcome = .ok) System.turnsToStop where
  advances := by
    rintro s event s' ⟨hsup, hbound, hrequested⟩ hrunning - hserved hstep
    have hinv' := And.intro (hsup.step hstep)
      (And.intro (hbound.step hstep) (step_requested hrequested hstep))
    cases event with
    | master answer =>
        have hturn := turn_cases hsup hserved
        rw [show masterStep answer s = .ok s' from hstep] at hturn
        rw [show (Event.master answer).isMaster = true from rfl, if_pos rfl]
        cases hturn with
        | forks pid hplace hmore =>
            refine .inr ⟨hinv', ?_⟩
            simp only [System.turnsToStop, hplace, System.fork, List.length_append,
              List.length_singleton]
            omega
        | supervises hplace =>
            refine .inr ⟨hinv', ?_⟩
            simp only [System.turnsToStop, hplace]
            omega
        | stops => exact .inl rfl
        | goesOn hplace hstops => exact absurd (hstops hrequested) hrunning
        | signalled hplace => exact absurd (hbound.signalling _ hplace).1 hrunning
        | signals pid pids hplace => exact absurd (hbound.signalling _ hplace).1 hrunning
        | reaps _ p hplace hp hprocesses hworkers hplace' =>
            refine .inr ⟨hinv', ?_⟩
            obtain ⟨worker, hworkers⟩ := hworkers
            simp only [System.turnsToStop, hplace, hplace', hworkers, List.length_set]
            omega
        | nobody hplace | looks hplace =>
            refine .inr ⟨hinv', ?_⟩
            simp only [System.turnsToStop, hplace]
            omega
        | passes idx worker hplace hworker =>
            refine .inr ⟨hinv', ?_⟩
            have hlt := (List.getElem?_eq_some_iff.mp hworker).1
            simp only [System.turnsToStop, hplace]
            omega
        | drains hplace hstopping => exact absurd hstopping hrunning
        | restarts idx worker pid hplace hworker =>
            refine .inr ⟨hinv', ?_⟩
            have hlt := (List.getElem?_eq_some_iff.mp hworker).1
            simp only [System.turnsToStop, hplace, List.length_set]
            omega
        | again idx hplace hend =>
            refine .inr ⟨hinv', ?_⟩
            simp only [System.turnsToStop, hplace]
            omega
    | masterSignalled | worker =>
        refine .inr ⟨hinv', ?_⟩
        have hsame := step_others rfl hstep
        simp only [System.turnsToStop, hsame.place, hsame.workers, hsame.totalWorkers]
        exact Nat.le_refl _
  fails := by
    rintro s event failure ⟨hsup, -, -⟩ - - hserved hstep
    cases event with
    | master answer =>
        have hturn := turn_cases hsup hserved
        rw [show masterStep answer s = .error failure from hstep] at hturn
        cases hturn <;> rfl
    | masterSignalled | worker => cases hstep

/-! ## §5. From the last death to the return. -/

/-- The turns before the one in which the master returns, when all its workers have ended. -/
def System.turnsToReturn (s : System) : Nat :=
  match s.place with
  | .signalling pids => pids.length + 1 + max 1 (3 * s.processes.length - 2)
  | .top => max 2 (3 * s.processes.length - 1)
  | .waiting => max 1 (3 * s.processes.length - 2)
  | .checking => 3 * s.processes.length
  | .forking | .restarting _ => 0

theorem send_ended (signal : Signal) (p : WorkerProcess) : (p.send signal).ended = p.ended := by
  unfold WorkerProcess.send
  split_ifs <;> rfl

theorem returns_progress :
    Progress step served (fun _ => True) Event.isMaster
      (fun s => Supervised s ∧ s.stopping = true ∧ ∀ p ∈ s.processes, p.ended ≠ none)
      (fun _ => False) (fun outcome => outcome = .ok) System.turnsToReturn where
  advances := by
    rintro s event s' ⟨hsup, hstopping, hended⟩ - - hserved hstep
    have hrunning : s.stopping ≠ false := by simp [hstopping]
    cases event with
    | master answer =>
        have hsup' := hsup.step hstep
        have hturn := turn_cases hsup hserved
        rw [show masterStep answer s = .ok s' from hstep] at hturn
        rw [show (Event.master answer).isMaster = true from rfl, if_pos rfl]
        cases hturn with
        | forks _ hplace | supervises hplace => exact absurd (hsup.forking hplace) hrunning
        | stops _ _ hbefore => exact absurd hbefore hrunning
        | looks _ hbefore => exact absurd hbefore hrunning
        | restarts _ _ _ hplace | passes _ _ hplace | again _ hplace =>
            exact absurd (hsup.restarting _ hplace) hrunning
        | goesOn hplace | signalled hplace =>
            refine .inr ⟨⟨hsup', hstopping, hended⟩, ?_⟩
            simp only [System.turnsToReturn, hplace, List.length_nil]
            omega
        | signals pid pids hplace =>
            refine .inr ⟨⟨hsup', hstopping, ?_⟩, ?_⟩
            · intro q hq
              obtain ⟨p, hp, rfl⟩ := List.mem_map.mp hq
              split_ifs
              · rw [send_ended]
                exact hended p hp
              · exact hended p hp
            · simp only [System.turnsToReturn, hplace, List.length_cons, List.length_map]
              omega
        | reaps _ p hplace hp hprocesses hworkers hplace' hstopping' =>
            have hless : s'.processes.length < s.processes.length := by
              rw [hprocesses]
              exact List.length_filter_lt_length_iff_exists.mpr ⟨p, hp, by simp⟩
            refine .inr ⟨⟨hsup', hstopping'.trans hstopping, ?_⟩, ?_⟩
            · intro q hq
              rw [hprocesses] at hq
              exact hended q (List.mem_of_mem_filter hq)
            · simp only [System.turnsToReturn, hplace, hplace']
              omega
        | nobody hplace hnobody =>
            refine .inr ⟨⟨hsup', hstopping, hended⟩, ?_⟩
            obtain hnone | ⟨p, hp, halive⟩ := hnobody
            · simp [System.turnsToReturn, hplace, hnone]
            · exact absurd halive (hended p hp)
        | drains hplace _ hleft =>
            refine .inr ⟨⟨hsup', hstopping, hended⟩, ?_⟩
            -- a slot with a pid has a child
            obtain ⟨worker, hmem, hsome⟩ := hleft
            obtain ⟨slot, hslot⟩ := List.mem_iff_getElem?.mp hmem
            obtain ⟨pid, hpid⟩ := Option.ne_none_iff_exists'.mp hsome
            obtain ⟨p, hp, -, -⟩ := hsup.processes.owned slot worker pid hslot hpid
            have hchild := List.length_pos_of_mem hp
            simp only [System.turnsToReturn, hplace]
            omega
    | masterSignalled | worker =>
        have hsame := step_others rfl hstep
        refine .inr ⟨⟨hsup.step hstep, hsame.stopping.trans hstopping, ?_⟩, ?_⟩
        · rw [hsame.ended hended]
          exact hended
        · simp only [System.turnsToReturn, hsame.place, hsame.processes]
          exact Nat.le_refl _
  fails := by
    rintro s event failure ⟨hsup, -, -⟩ - - hserved hstep
    cases event with
    | master answer =>
        have hturn := turn_cases hsup hserved
        rw [show masterStep answer s = .error failure from hstep] at hturn
        cases hturn <;> rfl
    | masterSignalled | worker => cases hstep

/-! ## §6. From the end of a delay to the new worker. -/

/-- The turns before the one in which the master comes to a slot that is due. -/
def System.turnsToRestart (slot : Nat) (s : System) : Nat :=
  match s.place with
  | .forking => s.totalWorkers - s.workers.length + slot + 4
  | .top => slot + 3
  | .waiting => slot + 2
  | .checking => slot + 1
  | .signalling _ => 0
  | .restarting idx => if idx ≤ slot then slot - idx else s.workers.length - idx + slot + 4

theorem restarts_progress {slot time : Nat} {worker : WorkerSlot} (hpid : worker.pid = none)
    (htime : worker.restartAt = some time) :
    Progress step served (Event.Since time) Event.isMaster
      (fun s => Supervised s ∧ Bounded s ∧ s.workers[slot]? = some worker)
      (fun s => s.stopping = true ∨ s.Runs slot) (fun _ => False)
      (System.turnsToRestart slot) where
  advances := by
    rintro s event s' ⟨hsup, hbound, hslot⟩ hgoal hsince hserved hstep
    have hrunning : s.stopping ≠ true := fun hstopping => hgoal (.inl hstopping)
    have hlt := (List.getElem?_eq_some_iff.mp hslot).1
    cases event with
    | master answer =>
        have hsup' := hsup.step hstep
        have hbound' := hbound.step hstep
        have hturn := turn_cases hsup hserved
        rw [show masterStep answer s = .ok s' from hstep] at hturn
        rw [show (Event.master answer).isMaster = true from rfl, if_pos rfl]
        cases hturn with
        | forks pid hplace hmore =>
            refine .inr ⟨⟨hsup', hbound', ?_⟩, ?_⟩
            · show (s.workers ++ _)[slot]? = some worker
              rw [List.getElem?_append_left hlt]
              exact hslot
            · simp only [System.turnsToRestart, hplace, System.fork, List.length_append,
                List.length_singleton]
              omega
        | stops hplace => exact .inl (.inl rfl)
        | signalled hplace | signals _ _ hplace =>
            exact absurd (hbound.signalling _ hplace).1 hrunning
        | drains _ hstopping => exact absurd hstopping hrunning
        | supervises hplace | goesOn hplace | nobody hplace =>
            refine .inr ⟨⟨hsup', hbound', hslot⟩, ?_⟩
            simp only [System.turnsToRestart, hplace]
            omega
        | looks hplace =>
            refine .inr ⟨⟨hsup', hbound', hslot⟩, ?_⟩
            simp only [System.turnsToRestart, hplace, Nat.zero_le, if_true]
            omega
        | again idx hplace hend =>
            refine .inr ⟨⟨hsup', hbound', hslot⟩, ?_⟩
            simp only [System.turnsToRestart, hplace]
            split_ifs <;> omega
        | reaps _ p hplace hp hprocesses hworkers hplace' =>
            obtain ⟨exited, hworkers⟩ := hworkers
            have hne : p.cpuId ≠ slot := by
              rintro rfl
              -- the slot of a child has its pid
              obtain ⟨owner, howner, hownerPid⟩ := hsup.processes.owner p hp
              rw [hslot] at howner
              injection howner with howner
              rw [← howner, hpid] at hownerPid
              cases hownerPid
            refine .inr ⟨⟨hsup', hbound', ?_⟩, ?_⟩
            · rw [hworkers, List.getElem?_set_ne hne]
              exact hslot
            · simp only [System.turnsToRestart, hplace, hplace']
              omega
        | restarts idx worker' pid hplace hworker =>
            by_cases hidx : idx = slot
            · subst hidx
              exact .inl (.inr ⟨_, pid, List.getElem?_set_self hlt, rfl⟩)
            · refine .inr ⟨⟨hsup', hbound', ?_⟩, ?_⟩
              · show (s.workers.set _ _)[slot]? = some worker
                rw [List.getElem?_set_ne hidx]
                exact hslot
              · have hlast := (List.getElem?_eq_some_iff.mp hworker).1
                simp only [System.turnsToRestart, hplace, List.length_set]
                split_ifs <;> omega
        | passes idx worker' hplace hworker hnot =>
            have hne : idx ≠ slot := by
              rintro rfl
              rw [hslot] at hworker
              injection hworker with hworker
              have hdue : worker.isDue answer.now = true := by
                have hnow : time ≤ answer.now := hsince
                simp [WorkerSlot.isDue, hpid, htime, hnow]
              rw [← hworker, hdue] at hnot
              cases hnot
            refine .inr ⟨⟨hsup', hbound', hslot⟩, ?_⟩
            simp only [System.turnsToRestart, hplace]
            have hlast := (List.getElem?_eq_some_iff.mp hworker).1
            split_ifs <;> omega
    | masterSignalled | worker =>
        have hsame := step_others rfl hstep
        refine .inr ⟨⟨hsup.step hstep, hbound.step hstep, ?_⟩, ?_⟩
        · rw [hsame.workers]
          exact hslot
        · simp only [System.turnsToRestart, hsame.place, hsame.workers, hsame.totalWorkers]
          exact Nat.le_refl _
  fails := by
    rintro s event failure ⟨hsup, -, hslot⟩ hgoal - hserved hstep
    cases event with
    | master answer =>
        have hturn := turn_cases hsup hserved
        rw [show masterStep answer s = .error failure from hstep] at hturn
        cases hturn with
        | drained _ hstopping => exact hgoal (.inl hstopping)
        | finished idx hplace hall =>
            have hnone := (hall worker (List.mem_of_getElem? hslot)).2
            rw [htime] at hnone
            cases hnone
    | masterSignalled | worker => cases hstep

/-! ## §7. Whole runs. -/

/-- The number of turns is bounded by the number of workers. -/
theorem Bounded.turnsToStop_lt (h : Bounded s) : s.turnsToStop < s.totalWorkers + 4 := by
  have hworkers := h.workers
  unfold System.turnsToStop
  split <;> omega

theorem Bounded.turnsToReturn_lt (h : Bounded s) :
    s.turnsToReturn < 3 * s.processes.length + s.totalWorkers + 3 := by
  unfold System.turnsToReturn
  split
  next pids hplace =>
    have hpids := (h.signalling pids hplace).2
    omega
  all_goals omega

theorem Bounded.turnsToRestart_lt {slot : Nat} (h : Bounded s) (hslot : slot < s.workers.length) :
    s.turnsToRestart slot < s.totalWorkers + 4 := by
  have hworkers := h.workers
  unfold System.turnsToRestart
  repeat' split
  all_goals omega

theorem recordExit_totalWorkers (answer : Answer) (status : WaitStatus) (pid : Pid) :
    (s.recordExit answer status pid).totalWorkers = s.totalWorkers := by
  unfold System.recordExit
  dsimp only
  repeat' split
  all_goals rfl

theorem Execution.bounded {totalWorkers : Nat} {Meets : System → Event → Prop}
    (h : Execution (System.start totalWorkers) step Meets s) :
    s.totalWorkers = totalWorkers ∧ Bounded s := by
  have hstart : ∀ s, System.start totalWorkers s → s.totalWorkers = totalWorkers ∧ Bounded s := by
    rintro s rfl
    exact ⟨rfl, Nat.zero_le _, fun pids hplace => by cases hplace⟩
  have hstep : ∀ s event s', (s.totalWorkers = totalWorkers ∧ Bounded s) → Meets s event →
      step event s = .ok s' → s'.totalWorkers = totalWorkers ∧ Bounded s' := by
    rintro s event s' ⟨htotal, hbound⟩ - hrun
    refine ⟨?_, hbound.step hrun⟩
    rw [← htotal]
    cases step_cases hrun with
    | reaped answer status p pid => exact recordExit_totalWorkers answer status pid
    | _ => rfl
  have hinv := Execution.invariant hstart hstep h
  exact hinv

/-- **The master makes progress**, whatever its workers and the signals do between its steps:
a bounded number of its own steps takes it from a request to shut down to the start of its
shutdown, or it has returned; from a shutdown whose workers have all ended to its return; and
from the end of a restart delay to the new worker, unless a shutdown starts before. -/
theorem supervision_makes_progress {totalWorkers : Nat} {events : List Event}
    {result : Except Outcome System} (h : Reachable totalWorkers s)
    (hrun : runUntil step served events s = some result) :
    (s.shutdownRequested = true → totalWorkers + 4 ≤ events.countP Event.isMaster →
        Reaches step served events s (fun s => s.stopping = true) ∨ result = .error .ok)
      ∧ (s.stopping = true → (∀ p ∈ s.processes, p.ended ≠ none) →
        3 * s.processes.length + totalWorkers + 3 ≤ events.countP Event.isMaster →
        result = .error .ok)
      ∧ ∀ slot worker time, s.workers[slot]? = some worker → worker.pid = none →
        worker.restartAt = some time → (∀ event ∈ events, event.Since time) →
        totalWorkers + 4 ≤ events.countP Event.isMaster →
        Reaches step served events s (fun s => s.stopping = true ∨ s.Runs slot) := by
  have hsup := Execution.supervised h
  obtain ⟨rfl, hbound⟩ := Execution.bounded h
  refine ⟨?_, ?_, ?_⟩
  · intro hrequested hturns
    have hreached := reaches_of_progress stops_progress ⟨hsup, hbound, hrequested⟩
      (fun _ _ => trivial) hrun (hbound.turnsToStop_lt.trans_le hturns)
    refine hreached.imp_right ?_
    rintro ⟨_, hresult, rfl⟩
    exact hresult
  · intro hstopping hended hturns
    obtain ⟨_, _, _, -, -, hfalse⟩ | ⟨_, hresult, rfl⟩ :=
      reaches_of_progress returns_progress ⟨hsup, hstopping, hended⟩
        (fun _ _ => trivial) hrun (hbound.turnsToReturn_lt.trans_le hturns)
    · exact hfalse.elim
    · exact hresult
  · intro slot worker time hslot hpid htime hsince hturns
    have hlt := (List.getElem?_eq_some_iff.mp hslot).1
    obtain hreached | ⟨_, -, hfalse⟩ :=
      reaches_of_progress (restarts_progress hpid htime) ⟨hsup, hbound, hslot⟩
        hsince hrun ((hbound.turnsToRestart_lt hlt).trans_le hturns)
    · exact hreached
    · exact hfalse.elim

/-- A turn of a master that is served. -/
def Event.serves (now : Nat) (wait : WaitAnswer) (pid : Pid) : Event :=
  .master { now, later := now, wait, fork := some pid, killFails := false }

/-- One worker is forked, and the master waits. -/
def forksOne : List Event := [.goesOn 0 7, .goesOn 0 7, .goesOn 0 8]

def goesAround : List Event := List.replicate 5 (.serves 0 (.status .stillAlive) 8)

/-- The worker's death is reported, and it was the last one. -/
def reapsLast : List Event :=
  List.replicate 3 (.serves 0 (.reaped 7) 8) ++ List.replicate 4 (.serves 0 .echild 8)

def restartsOne : List Event :=
  List.replicate 2 (.serves 100000000 .echild 8)
    ++ List.replicate 3 (.serves 100000000 (.status .stillAlive) 9)

/-- A master asked to stop while it waits, one whose worker has exited while it sends its
signals, and one whose worker was killed. -/
theorem supervision_makes_progress_one :
    (∃ s, Reachable 1 s ∧ (Reaches step served goesAround s (fun s => s.stopping = true)
        ∨ runUntil step served goesAround s = some (.error .ok)))
      ∧ (∃ s, Reachable 1 s ∧ runUntil step served reapsLast s = some (.error .ok))
      ∧ ∃ s, Reachable 1 s
        ∧ Reaches step served restartsOne s (fun s => s.stopping = true ∨ s.Runs 0) := by
  refine ⟨?_, ?_, ?_⟩
  · have hasked : runsTo 1 (fun _ _ => true) (forksOne ++ [.masterSignalled])
        (fun s => s.shutdownRequested && (runUntil step served goesAround s).isSome) = true := by
      decide +kernel
    obtain ⟨s, hs, hp⟩ := reachable_of_runsTo hasked
    rw [Bool.and_eq_true, Option.isSome_iff_exists] at hp
    obtain ⟨hrequested, result, hrun⟩ := hp
    refine ⟨s, hs, ?_⟩
    obtain hreached | rfl := (supervision_makes_progress hs hrun).1 hrequested (by decide)
    · exact .inl hreached
    · exact .inr hrun
  · have hexited : runsTo 1 (fun _ _ => true)
        (forksOne ++ [.masterSignalled] ++ goesAround ++ [.worker 7 (.exit 0)])
        (fun s => (s.stopping && s.processes.length == 1
            && s.processes.all (fun p => p.ended.isSome))
          && (runUntil step served reapsLast s).isSome) = true := by
      decide +kernel
    obtain ⟨s, hs, hp⟩ := reachable_of_runsTo hexited
    rw [Bool.and_eq_true, Option.isSome_iff_exists, Bool.and_eq_true, Bool.and_eq_true,
      beq_iff_eq, List.all_eq_true] at hp
    obtain ⟨⟨⟨hstopping, hone⟩, hall⟩, result, hrun⟩ := hp
    have hended : ∀ p ∈ s.processes, p.ended ≠ none :=
      fun p hp => Option.isSome_iff_ne_none.mp (hall p hp)
    have hturns : 3 * s.processes.length + 1 + 3 ≤ reapsLast.countP Event.isMaster := by
      rw [hone]
      decide
    have hresult := (supervision_makes_progress hs hrun).2.1 hstopping hended hturns
    exact ⟨s, hs, hresult ▸ hrun⟩
  · have hkilled : runsTo 1 (fun _ _ => true)
        (forksOne ++ [.worker 7 (.killed 9 false), .reaps 0 7])
        (fun s => s.workers[0]?.any (fun worker => worker.pid == none
            && worker.restartAt == some 100000000)
          && (runUntil step served restartsOne s).isSome) = true := by
      decide +kernel
    obtain ⟨s, hs, hp⟩ := reachable_of_runsTo hkilled
    rw [Bool.and_eq_true, Option.isSome_iff_exists] at hp
    obtain ⟨hslot, result, hrun⟩ := hp
    cases hworker : s.workers[0]? with
    | none =>
        rw [hworker] at hslot
        cases hslot
    | some worker =>
        rw [hworker, Option.any_some, Bool.and_eq_true, beq_iff_eq, beq_iff_eq] at hslot
        have hsince : ∀ event ∈ restartsOne, event.Since 100000000 := by
          intro event hmem
          rcases List.mem_append.mp hmem with hmem | hmem
          · rw [List.eq_of_mem_replicate hmem]
            exact Nat.le_refl _
          · rw [List.eq_of_mem_replicate hmem]
            exact Nat.le_refl _
        exact ⟨s, hs, (supervision_makes_progress hs hrun).2.2 0 worker 100000000 hworker
          hslot.1 hslot.2 hsince (by decide)⟩

end Thwip.Master
