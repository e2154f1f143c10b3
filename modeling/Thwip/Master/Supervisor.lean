/-
  Thwip.Master.Supervisor — the master, its workers, and the signals between them
  (`run/master/src/main.rs`, `run/slave/src/startup.rs`).

  The master and its workers are processes that share nothing but signals and the
  statuses `waitpid` reports.  The system is the master's variables and its place
  in `main` and `supervise_workers`, and for each worker the part of its state that
  signals reach.  A step is one system call or one pass of a loop of the master, or
  one thing that a worker does or that happens to it, in any order.
-/
import Mathlib.Algebra.Order.Ring.Nat
import Thwip.Lib.Execution

namespace Thwip.Master

open Thwip.Lib

abbrev Pid := Nat

/-! ## §1. The functions of the master.

Clock readings and durations are numbers of nanoseconds. -/

def Duration.fromMillis (n : Nat) : Nat := n * 1000000
def Duration.fromSecs (n : Nat) : Nat := n * 1000000000

/-- `Duration::MAX` -/
def Duration.max : Nat := Duration.fromSecs (2 ^ 64 - 1) + 999999999

/-- `saturating_mul` -/
def Duration.saturatingMul (duration n : Nat) : Nat :=
  min (duration * n) Duration.max

def restartBaseDelay : Nat := Duration.fromMillis 100
def restartMaxDelay : Nat := Duration.fromSecs 10
def restartStableWindow : Nat := Duration.fromSecs 30

/-- `u32::MAX` -/
def maxFailures : Nat := 2 ^ 32 - 1

def restartDelay (failures : Nat) : Nat :=
  let exponent := min (failures - 1) 16
  min (Duration.saturatingMul restartBaseDelay (2 ^ exponent)) restartMaxDelay

/-- `WaitStatus` of the `nix` crate. -/
inductive WaitStatus where
  | exited (pid : Pid) (code : Int)
  | signaled (pid : Pid) (signal : Nat) (coreDumped : Bool)
  | stopped (pid : Pid) (signal : Nat)
  | continued (pid : Pid)
  /-- `PtraceEvent` and `PtraceSyscall`. -/
  | traced (pid : Pid)
  | stillAlive
  deriving Repr, DecidableEq

def statusPid : WaitStatus → Option Pid
  | .exited pid _ => some pid
  | .signaled pid _ _ => some pid
  | _ => none

def statusFailed : WaitStatus → Bool
  | .exited _ 0 => false
  | _ => true

structure WorkerSlot where
  cpuId : Nat
  pid : Option Pid
  failures : Nat
  startedAt : Nat
  restartAt : Option Nat
  deriving Repr, DecidableEq

/-- What becomes of a slot whose worker failed; `now` is the reading of the clock
in `elapsed`, `later` the one that the delay is added to. -/
def WorkerSlot.scheduleRestart (now later : Nat) (self : WorkerSlot) : WorkerSlot :=
  let failures := if now - self.startedAt ≥ restartStableWindow then 0 else self.failures
  -- `saturating_add`
  let failures := min (failures + 1) maxFailures
  { self with failures, restartAt := some (later + restartDelay failures) }

/-- The death of a slot's worker has been reported. -/
def WorkerSlot.recordExit (stopping : Bool) (status : WaitStatus) (now later : Nat)
    (self : WorkerSlot) : WorkerSlot :=
  let self := { self with pid := none }
  if !stopping && statusFailed status then self.scheduleRestart now later else self

/-- The slot waits for its restart, and the time has come. -/
def WorkerSlot.isDue (now : Nat) (self : WorkerSlot) : Bool :=
  self.pid.isNone && self.restartAt.any (fun restartAt => now ≥ restartAt)

/-! ## §2. A worker process. -/

inductive Signal where
  | sigint
  | sigterm
  deriving Repr, DecidableEq

/-- How far a worker is in `install_shutdown_signals`. -/
inductive Startup where
  | forked
  /-- `Signals::new` registers one signal after the other. -/
  | registeredSigint
  | registered
  /-- The thread that waits for the first signal has been spawned. -/
  | listening
  /-- That thread has taken a signal, and is done. -/
  | heard
  deriving Repr, DecidableEq

/-- Does the handler of this signal tell the iterator, too? -/
def Startup.handles : Startup → Signal → Bool
  | .forked, _ => false
  | .registeredSigint, signal => signal == .sigint
  | _, _ => true

structure WorkerProcess where
  pid : Pid
  /-- The argument of `spawn_worker`. -/
  cpuId : Nat
  startup : Startup
  /-- The copy of the master's flag, which nothing in a worker reads. -/
  flag : Bool
  /-- Signals sent to the process, and not delivered. -/
  pending : List Signal
  /-- Signals that have been delivered. -/
  delivered : List Signal
  /-- The iterator has a signal that its thread has not taken. -/
  noticed : Bool
  /-- The flag of the `ShutdownHandle`. -/
  requested : Bool
  /-- How the process ended; it stays until its death has been reported. -/
  ended : Option WaitStatus
  deriving Repr, DecidableEq

/-- The child of `fork`: it has the handlers of the master, and a copy of its flag. -/
def WorkerProcess.forked (pid : Pid) (cpuId : Nat) (flag : Bool) : WorkerProcess :=
  { pid, cpuId, startup := .forked, flag, pending := [], delivered := [], noticed := false
    requested := false, ended := none }

/-- A signal that is pending already is not sent twice. -/
def WorkerProcess.send (signal : Signal) (self : WorkerProcess) : WorkerProcess :=
  if signal ∈ self.pending then self else { self with pending := signal :: self.pending }

/-- What a worker does, or what happens to it. -/
inductive WorkerAct where
  /-- Another process sends a signal. -/
  | sent (signal : Signal)
  /-- The kernel delivers a pending signal. -/
  | deliver (signal : Signal)
  /-- The next step of `install_shutdown_signals`. -/
  | install
  /-- The thread takes a signal, and requests the shutdown. -/
  | hear
  | exit (code : Int)
  | killed (signal : Nat) (coreDumped : Bool)
  deriving Repr, DecidableEq

def Startup.next : Startup → Startup
  | .forked => .registeredSigint
  | .registeredSigint => .registered
  | .registered => .listening
  | startup => startup

/-- A live worker's step; an act that cannot happen now changes nothing. -/
def WorkerProcess.act (self : WorkerProcess) : WorkerAct → WorkerProcess
  | .sent signal => self.send signal
  | .deliver signal =>
      if signal ∈ self.pending then
        -- the inherited handler runs in any case
        { self with
          pending := self.pending.erase signal, delivered := signal :: self.delivered
          flag := true, noticed := self.noticed || self.startup.handles signal }
      else self
  | .install => { self with startup := self.startup.next }
  | .hear =>
      if self.startup == .listening && self.noticed then
        { self with startup := .heard, noticed := false, requested := true }
      else self
  | .exit code => { self with ended := some (.exited self.pid code) }
  | .killed signal coreDumped => { self with ended := some (.signaled self.pid signal coreDumped) }

/-! ## §3. The system. -/

/-- Where the master is. -/
inductive Place where
  /-- The loop of `main` that forks the workers. -/
  | forking
  /-- The top of the loop of `supervise_workers`. -/
  | top
  /-- The loop that sends `SIGTERM`, with the pids that are left. -/
  | signalling (pids : List Pid)
  | waiting
  /-- The checks after `waitpid`. -/
  | checking
  /-- The loop over the slots to restart. -/
  | restarting (idx : Nat)
  deriving Repr, DecidableEq

/-- What happened to the slots, newest first. -/
inductive HistoryItem where
  /-- A worker was forked for the slot, after this reading of the clock. -/
  | spawned (slot : Nat) (pid : Pid) (time : Nat)
  /-- The slot's worker ended after it `ran` so long; `time` is the reading that a
  delay is added to. -/
  | exited (slot : Nat) (status : WaitStatus) (ran : Nat) (time : Nat)
  | stopping
  deriving Repr, DecidableEq

structure System where
  /-- `total_workers` -/
  totalWorkers : Nat
  /-- The children of the master whose death has not been reported. -/
  processes : List WorkerProcess
  shutdownRequested : Bool
  workers : List WorkerSlot
  stopping : Bool
  place : Place
  history : List HistoryItem
  deriving Repr, DecidableEq

/-- How the master ends. -/
inductive Outcome where
  | ok
  | err
  deriving Repr, DecidableEq

/-- What `waitpid` answers. -/
inductive WaitAnswer where
  /-- The death of this child. -/
  | reaped (pid : Pid)
  /-- A status that reports no death. -/
  | status (status : WaitStatus)
  | echild
  | failed
  deriving Repr, DecidableEq

/-- What the outside answers to one step of the master. -/
structure Answer where
  /-- The readings of the clock. -/
  now : Nat
  later : Nat
  wait : WaitAnswer
  /-- The child of `fork`, `none` when it fails. -/
  fork : Option Pid
  /-- `kill` fails with another error than `ESRCH`. -/
  killFails : Bool

/-- The pid is one of a child whose death has not been reported. -/
def System.inUse (s : System) (pid : Pid) : Bool := s.processes.any (fun p => p.pid == pid)

/-- `spawn_worker` in the master. -/
def System.fork (s : System) (cpuId : Nat) (pid : Pid) (time : Nat) : System :=
  { s with
    processes := s.processes ++ [WorkerProcess.forked pid cpuId s.shutdownRequested]
    history := .spawned cpuId pid time :: s.history }

/-- One pass of the loop in `main`. -/
def forkStep (answer : Answer) (s : System) : Except Outcome System :=
  if s.workers.length < s.totalWorkers then
    match answer.fork with
    | none => .error .err
    | some pid =>
        -- the kernel gives no pid twice
        if s.inUse pid then .ok s
        else
          .ok { s.fork s.workers.length pid answer.now with
            workers := s.workers ++
              [{ cpuId := s.workers.length, pid := some pid, failures := 0
                 startedAt := answer.later, restartAt := none }] }
  else .ok { s with place := .top }

/-- The check of the flag; the pids are those of the slots at this time. -/
def topStep (s : System) : Except Outcome System :=
  if s.shutdownRequested && !s.stopping then
    .ok { s with
      stopping := true, place := .signalling (s.workers.filterMap WorkerSlot.pid)
      history := .stopping :: s.history }
  else .ok { s with place := .waiting }

/-- `kill(pid, SIGTERM)`; a process that does not exist is passed over. -/
def signalStep (answer : Answer) (s : System) (pid : Pid) (pids : List Pid) :
    Except Outcome System :=
  if answer.killFails then .error .err
  else
    .ok { s with
      place := .signalling pids
      processes := s.processes.map (fun p => if p.pid = pid then p.send .sigterm else p) }

/-- The death of the child has been reported. -/
def System.recordExit (s : System) (answer : Answer) (status : WaitStatus) (pid : Pid) : System :=
  let s := { s with processes := s.processes.filter (fun p => p.pid != pid) }
  match s.workers.findIdx? (fun worker => worker.pid == some pid) with
  -- `continue`
  | none => { s with place := .top }
  | some slot =>
      match s.workers[slot]? with
      | none => { s with place := .top }
      | some worker =>
          { s with
            workers := s.workers.set slot
              (worker.recordExit s.stopping status answer.now answer.later)
            place := .checking
            history :=
              .exited slot status (answer.now - worker.startedAt) answer.later :: s.history }

def waitStep (answer : Answer) (s : System) : Except Outcome System :=
  match answer.wait with
  | .reaped pid =>
      match s.processes.find? (fun p => p.pid == pid) with
      | none => .ok s
      | some p =>
          match p.ended with
          -- it is alive
          | none => .ok s
          | some status =>
              match statusPid status with
              | none => .ok { s with place := .top }
              | some pid => .ok (s.recordExit answer status pid)
  | .status status =>
      match statusPid status with
      | some _ => .ok s
      | none =>
          if status = .stillAlive then .ok { s with place := .checking }
          else .ok { s with place := .top }
  | .echild => .ok { s with place := .checking }
  | .failed => .error .err

def checkStep (s : System) : Except Outcome System :=
  if s.stopping then
    if s.workers.all (fun worker => worker.pid.isNone) then .error .ok
    else .ok { s with place := .top }
  else .ok { s with place := .restarting 0 }

/-- One pass of the loop over the slots, or the check after it. -/
def restartStep (answer : Answer) (s : System) (idx : Nat) : Except Outcome System :=
  match s.workers[idx]? with
  | some worker =>
      if worker.isDue answer.now then
        match answer.fork with
        | none => .error .err
        | some pid =>
            if s.inUse pid then .ok s
            else
              .ok { s.fork worker.cpuId pid answer.now with
                workers := s.workers.set idx
                  { worker with pid := some pid, startedAt := answer.later, restartAt := none }
                place := .restarting (idx + 1) }
      else .ok { s with place := .restarting (idx + 1) }
  | none =>
      if s.workers.all (fun worker => worker.pid.isNone && worker.restartAt.isNone) then
        .error .ok
      else .ok { s with place := .top }

/-- `main` and `supervise_workers`, from one place to the next. -/
def masterStep (answer : Answer) (s : System) : Except Outcome System :=
  match s.place with
  | .forking => forkStep answer s
  | .top => topStep s
  | .signalling [] => .ok { s with place := .waiting }
  | .signalling (pid :: pids) => signalStep answer s pid pids
  | .waiting => waitStep answer s
  | .checking => checkStep s
  | .restarting idx => restartStep answer s idx

/-! ## §4. Executions. -/

inductive Event where
  | master (answer : Answer)
  /-- `SIGINT` or `SIGTERM` reaches the master. -/
  | masterSignalled
  | worker (pid : Pid) (act : WorkerAct)

def step (event : Event) (s : System) : Except Outcome System :=
  match event with
  | .master answer => masterStep answer s
  | .masterSignalled => .ok { s with shutdownRequested := true }
  | .worker pid act =>
      .ok { s with
        processes := s.processes.map (fun p =>
          if p.pid = pid ∧ p.ended = none then p.act act else p) }

/-- The master, its handlers installed, is about to fork. -/
def System.new (totalWorkers : Nat) : System :=
  { totalWorkers, processes := [], shutdownRequested := false, workers := [], stopping := false
    place := .forking, history := [] }

def System.start (totalWorkers : Nat) (s : System) : Prop := s = System.new totalWorkers

abbrev Reachable (totalWorkers : Nat) : System → Prop :=
  Execution (System.start totalWorkers) step (fun _ _ => True)

/-- Do these events, all of which meet the condition, lead to a state with the
property? -/
def runsTo (totalWorkers : Nat) (meets : System → Event → Bool) (events : List Event)
    (p : System → Bool) : Bool :=
  (replay step meets events (System.new totalWorkers)).any p

theorem execution_of_runsTo {totalWorkers : Nat} {meets : System → Event → Bool}
    {events : List Event} {p : System → Bool} (h : runsTo totalWorkers meets events p = true) :
    ∃ s, Execution (System.start totalWorkers) step (fun s event => meets s event = true) s
      ∧ p s = true :=
  execution_of_replay rfl h

theorem reachable_of_runsTo {totalWorkers : Nat} {events : List Event} {p : System → Bool}
    (h : runsTo totalWorkers (fun _ _ => true) events p = true) :
    ∃ s, Reachable totalWorkers s ∧ p s = true := by
  obtain ⟨s, hs, hp⟩ := execution_of_runsTo h
  exact ⟨s, hs.mono (fun _ _ _ => trivial), hp⟩

/-- The master goes on at this time; a worker that it forks is given this pid. -/
def Event.goesOn (now : Nat) (pid : Pid) : Event :=
  .master { now, later := now, wait := .status .stillAlive, fork := some pid, killFails := false }

/-- `waitpid` reports the death of this child. -/
def Event.reaps (now : Nat) (pid : Pid) : Event :=
  .master { now, later := now, wait := .reaped pid, fork := none, killFails := false }

/-! ## §5. Everything a step can do. -/

/-- The places a pass moves on to without doing anything else. -/
inductive Place.Next (s : System) : Place → Prop where
  | loop (h : ∀ pids, s.place ≠ .signalling pids) : Place.Next s .top
  | wait (h : s.place = .signalling [] ∨ s.place = .top ∧ (s.shutdownRequested && !s.stopping) = false) :
      Place.Next s .waiting
  | check (h : s.place = .waiting) : Place.Next s .checking
  | restart (idx : Nat) (h : s.stopping = false ∨ ∃ idx, s.place = .restarting idx) :
      Place.Next s (.restarting idx)

/-- A completed step, by what it changes. -/
inductive Happens (s : System) : Event → System → Prop where
  | requested : Happens s .masterSignalled { s with shutdownRequested := true }
  | worker (pid : Pid) (act : WorkerAct) :
      Happens s (.worker pid act) { s with
        processes := s.processes.map (fun p =>
          if p.pid = pid ∧ p.ended = none then p.act act else p) }
  | nothing (answer : Answer) : Happens s (.master answer) s
  | moved (answer : Answer) (place : Place) (hnext : place.Next s) :
      Happens s (.master answer) { s with place }
  | started (answer : Answer) (pid : Pid) (hplace : s.place = .forking)
      (hfresh : s.inUse pid = false) :
      Happens s (.master answer) { s.fork s.workers.length pid answer.now with
        workers := s.workers ++
          [{ cpuId := s.workers.length, pid := some pid, failures := 0
             startedAt := answer.later, restartAt := none }] }
  | stopped (answer : Answer) (hplace : s.place = .top) (hbefore : s.stopping = false) :
      Happens s (.master answer) { s with
        stopping := true, place := .signalling (s.workers.filterMap WorkerSlot.pid)
        history := .stopping :: s.history }
  | signalled (answer : Answer) (pid : Pid) (pids : List Pid)
      (hplace : s.place = .signalling (pid :: pids)) :
      Happens s (.master answer) { s with
        place := .signalling pids
        processes := s.processes.map (fun p => if p.pid = pid then p.send .sigterm else p) }
  | reaped (answer : Answer) (status : WaitStatus) (p : WorkerProcess) (pid : Pid)
      (hmem : p ∈ s.processes) (hended : p.ended = some status)
      (hpid : statusPid status = some pid) (hplace : s.place = .waiting) :
      Happens s (.master answer) (s.recordExit answer status pid)
  | restarted (answer : Answer) (idx : Nat) (worker : WorkerSlot) (pid : Pid)
      (hplace : s.place = .restarting idx) (hworker : s.workers[idx]? = some worker)
      (hdue : worker.isDue answer.now = true) (hfresh : s.inUse pid = false) :
      Happens s (.master answer) { s.fork worker.cpuId pid answer.now with
        workers := s.workers.set idx
          { worker with pid := some pid, startedAt := answer.later, restartAt := none }
        place := .restarting (idx + 1) }

variable {s s' : System} {answer : Answer}

theorem forkStep_cases (hplace : s.place = .forking) (hrun : forkStep answer s = .ok s') :
    Happens s (.master answer) s' := by
  have hnot : ∀ pids, s.place ≠ .signalling pids := by
    intro pids heq
    rw [hplace] at heq
    cases heq
  unfold forkStep at hrun
  split_ifs at hrun
  · split at hrun
    · cases hrun
    next pid _ =>
      split_ifs at hrun with huse
      · injection hrun with hrun
        exact hrun ▸ .nothing answer
      · injection hrun with hrun
        rw [← hrun]
        exact .started answer pid hplace (by simpa using huse)
  · injection hrun with hrun
    exact hrun ▸ .moved answer .top (.loop hnot)

theorem topStep_cases (hplace : s.place = .top) (hrun : topStep s = .ok s') :
    Happens s (.master answer) s' := by
  unfold topStep at hrun
  split_ifs at hrun with hstop
  · injection hrun with hrun
    rw [Bool.and_eq_true, Bool.not_eq_true'] at hstop
    exact hrun ▸ .stopped answer hplace hstop.2
  · injection hrun with hrun
    exact hrun ▸ .moved answer .waiting (.wait (.inr ⟨hplace, by simpa using hstop⟩))

theorem waitStep_cases (hplace : s.place = .waiting) (hrun : waitStep answer s = .ok s') :
    Happens s (.master answer) s' := by
  have hnot : ∀ pids, s.place ≠ .signalling pids := by
    intro pids heq
    rw [hplace] at heq
    cases heq
  have htop : ({ s with place := .top } : System) = s' → Happens s (.master answer) s' := by
    intro heq
    exact heq ▸ .moved answer .top (.loop hnot)
  have hcheck : ({ s with place := .checking } : System) = s' → Happens s (.master answer) s' := by
    intro heq
    exact heq ▸ .moved answer .checking (.check hplace)
  have hself : s = s' → Happens s (.master answer) s' :=
    fun heq => heq ▸ .nothing answer
  unfold waitStep at hrun
  split at hrun
  next pid _ =>
    split at hrun
    · injection hrun with hrun
      exact hself hrun
    next p hfind =>
      split at hrun
      · injection hrun with hrun
        exact hself hrun
      next status hended =>
        split at hrun
        · injection hrun with hrun
          exact htop hrun
        next pid' hpid =>
          injection hrun with hrun
          rw [← hrun]
          exact .reaped answer status p pid' (List.mem_of_find?_eq_some hfind) hended hpid hplace
  · split at hrun
    · injection hrun with hrun
      exact hself hrun
    · -- a status without a death: only `StillAlive` goes on to the checks
      split_ifs at hrun
      · injection hrun with hrun
        exact hcheck hrun
      · injection hrun with hrun
        exact htop hrun
  · injection hrun with hrun
    exact hcheck hrun
  · cases hrun

theorem restartStep_cases {idx : Nat} (hplace : s.place = .restarting idx)
    (hrun : restartStep answer s idx = .ok s') : Happens s (.master answer) s' := by
  unfold restartStep at hrun
  split at hrun
  next worker hworker =>
    split_ifs at hrun with hdue
    · split at hrun
      · cases hrun
      next pid _ =>
        split_ifs at hrun with huse
        · injection hrun with hrun
          exact hrun ▸ .nothing answer
        · injection hrun with hrun
          rw [← hrun]
          exact .restarted answer idx worker pid hplace hworker hdue
            (by simpa using huse)
    · injection hrun with hrun
      exact hrun ▸ .moved answer _ (.restart (idx + 1) (.inr ⟨idx, hplace⟩))
  · split_ifs at hrun
    injection hrun with hrun
    refine hrun ▸ .moved answer .top (.loop ?_)
    intro pids heq
    rw [hplace] at heq
    cases heq

/-- **Every completed step is one of these.** -/
theorem step_cases {event : Event} (hrun : step event s = .ok s') : Happens s event s' := by
  cases event with
  | masterSignalled =>
      injection hrun with hrun
      exact hrun ▸ .requested
  | worker pid act =>
      injection hrun with hrun
      exact hrun ▸ .worker pid act
  | master answer =>
      unfold step masterStep at hrun
      dsimp only at hrun
      split at hrun
      next hplace => exact forkStep_cases hplace hrun
      next hplace => exact topStep_cases hplace hrun
      next hplace =>
        injection hrun with hrun
        exact hrun ▸ .moved answer .waiting (.wait (.inl hplace))
      next pid pids hplace =>
        unfold signalStep at hrun
        split_ifs at hrun
        injection hrun with hrun
        exact hrun ▸ .signalled answer pid pids hplace
      next hplace => exact waitStep_cases hplace hrun
      next hplace =>
        unfold checkStep at hrun
        split_ifs at hrun with hstopping
        · injection hrun with hrun
          refine hrun ▸ .moved answer .top (.loop ?_)
          intro pids heq
          rw [hplace] at heq
          cases heq
        · injection hrun with hrun
          exact hrun ▸ .moved answer _ (.restart 0 (.inl (by simpa using hstopping)))
      next hplace => exact restartStep_cases hplace hrun

/-- The master returns `Ok` only after it has looked at every slot. -/
theorem step_returns {event : Event} (hrun : step event s = .error .ok) :
    ∀ worker ∈ s.workers, worker.pid = none := by
  cases event with
  | masterSignalled => cases hrun
  | worker => cases hrun
  | master answer =>
      unfold step masterStep at hrun
      dsimp only at hrun
      split at hrun
      · unfold forkStep at hrun
        split_ifs at hrun
        split at hrun
        · cases hrun
        · split_ifs at hrun
      · unfold topStep at hrun
        split_ifs at hrun
      · cases hrun
      · unfold signalStep at hrun
        split_ifs at hrun
        cases hrun
      · unfold waitStep at hrun
        repeat' split at hrun
        all_goals cases hrun
      · unfold checkStep at hrun
        split_ifs at hrun with hstopping hall
        intro worker hworker
        simpa using List.all_eq_true.mp hall worker hworker
      · unfold restartStep at hrun
        split at hrun
        · split_ifs at hrun
          split at hrun
          · cases hrun
          · split_ifs at hrun
        · split_ifs at hrun with hall
          intro worker hworker
          have hboth := List.all_eq_true.mp hall worker hworker
          rw [Bool.and_eq_true] at hboth
          simpa using hboth.1

end Thwip.Master
