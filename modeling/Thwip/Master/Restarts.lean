/-
  Thwip.Master.Restarts — when a worker is started again.

  The options `pid` and `restart_at` of a slot say where it is: its worker runs, or
  it rests until a time, or it is done.  `Agrees` ties that to what has happened to
  the slot, `Supervised` to the processes there are.  Whatever is forked after the
  first start then has a failure and a delay before it.
-/
import Mathlib.Data.List.Nodup
import Thwip.Master.Supervisor

namespace Thwip.Master

open Thwip.Lib

variable {s s' : System} {slot : Nat} {history : List HistoryItem}

/-! ## §1. What a restart has to wait for. -/

def HistoryItem.slot? : HistoryItem → Option Nat
  | .spawned slot _ _ => some slot
  | .exited slot _ _ _ => some slot
  | .stopping => none

/-- The last thing that happened to the slot. -/
def lastOf (slot : Nat) (history : List HistoryItem) : Option HistoryItem :=
  history.find? (fun item => item.slot? == some slot)

/-- How long the slot's failed runs lasted, newest first. -/
def failedRuns (slot : Nat) (history : List HistoryItem) : List Nat :=
  history.filterMap (fun item =>
    match item with
    | .exited slot' status ran _ => if slot' = slot ∧ statusFailed status then some ran else none
    | _ => none)

/-- The failures since the last run that was long enough, its own the first. -/
def failuresSinceStable (runs : List Nat) : Nat :=
  min ((runs.takeWhile (fun ran => ran < restartStableWindow)).length + 1) runs.length

/-- `min(100 ms * 2^(k-1), 10 s)` -/
def backoff (k : Nat) : Nat := min (restartBaseDelay * 2 ^ (k - 1)) restartMaxDelay

/-- The slot is started for the first time, or rests after a failure. -/
inductive MaySpawn (slot : Nat) (time : Nat) (earlier : List HistoryItem) : Prop where
  | first (h : lastOf slot earlier = none)
  | again (status : WaitStatus) (ran : Nat) (exited : Nat)
      (hlast : lastOf slot earlier = some (.exited slot status ran exited))
      (hfailed : statusFailed status = true)
      (hwaited : exited + backoff (failuresSinceStable (failedRuns slot earlier)) ≤ time)

/-- Every worker was forked when it may be, and before the master stopped; and only
what runs can end. -/
def Lawful : List HistoryItem → Prop
  | [] => True
  | .spawned slot _ time :: earlier =>
      (HistoryItem.stopping ∉ earlier ∧ MaySpawn slot time earlier) ∧ Lawful earlier
  | .exited slot _ _ _ :: earlier =>
      (∃ pid time, lastOf slot earlier = some (.spawned slot pid time)) ∧ Lawful earlier
  | .stopping :: earlier => Lawful earlier

theorem Lawful.tail {item : HistoryItem} (h : Lawful (item :: history)) : Lawful history := by
  cases item with
  | spawned => exact h.2
  | exited => exact h.2
  | stopping => exact h

theorem Lawful.spawned {later earlier : List HistoryItem} {pid : Pid} {time : Nat}
    (h : Lawful (later ++ .spawned slot pid time :: earlier)) :
    HistoryItem.stopping ∉ earlier ∧ MaySpawn slot time earlier := by
  induction later with
  | nil => exact h.1
  | cons item later ih => exact ih h.tail

theorem failuresSinceStable_cons (ran : Nat) (runs : List Nat) :
    failuresSinceStable (ran :: runs)
      = if ran ≥ restartStableWindow then 1 else failuresSinceStable runs + 1 := by
  unfold failuresSinceStable
  by_cases hran : ran < restartStableWindow
  · rw [if_neg (by omega), List.takeWhile_cons_of_pos (by simpa using hran)]
    simp only [List.length_cons]
    omega
  · rw [if_pos (by omega), List.takeWhile_cons_of_neg (by simpa using hran)]
    simp only [List.length_nil, List.length_cons]
    omega

/-- The exponent is cut off where the delay is at its maximum already. -/
theorem restartDelay_eq (failures : Nat) : restartDelay failures = backoff failures := by
  have hbase : restartBaseDelay = 100000000 := rfl
  have hmax : restartMaxDelay = 10000000000 := rfl
  have hlimit : Duration.max = 18446744073709551615999999999 := by decide
  unfold restartDelay backoff Duration.saturatingMul
  rw [hbase, hmax, hlimit]
  by_cases hsmall : failures - 1 ≤ 16
  · have hpow : 2 ^ (failures - 1) ≤ 2 ^ 16 := Nat.pow_le_pow_right (by decide) hsmall
    rw [Nat.min_eq_left hsmall]
    show min (min (100000000 * 2 ^ (failures - 1)) 18446744073709551615999999999) 10000000000 = _
    omega
  · have hpow : 2 ^ 16 ≤ 2 ^ (failures - 1) := Nat.pow_le_pow_right (by decide) (by omega)
    have hcut : min (failures - 1) 16 = 16 := by omega
    rw [hcut]
    dsimp only
    omega

/-- The counter saturates long after the delay does. -/
theorem restartDelay_saturated (k : Nat) : restartDelay (min k maxFailures) = backoff k := by
  rw [restartDelay_eq]
  by_cases hk : k ≤ maxFailures
  · rw [Nat.min_eq_left hk]
  · have hpow : ∀ n, 16 ≤ n → 2 ^ 16 ≤ 2 ^ n := fun n hn => Nat.pow_le_pow_right (by decide) hn
    have hbig : ∀ n, 17 ≤ n → backoff n = restartMaxDelay := by
      intro n hn
      have hbase : restartBaseDelay = 100000000 := rfl
      have hmax : restartMaxDelay = 10000000000 := rfl
      have hle := hpow (n - 1) (by omega)
      unfold backoff
      rw [hbase, hmax]
      omega
    have hmaximum : maxFailures = 4294967295 := rfl
    rw [Nat.min_eq_right (by omega), hbig k (by omega), hbig maxFailures (by omega)]

/-! ## §2. What the slots say. -/

/-- The options of the slot agree with what happened to it. -/
inductive Agrees (slot : Nat) (history : List HistoryItem) (worker : WorkerSlot) : Prop where
  | running (pid : Pid) (time : Nat) (hpid : worker.pid = some pid)
      (hrestart : worker.restartAt = none)
      (hlast : lastOf slot history = some (.spawned slot pid time))
  | resting (status : WaitStatus) (ran time : Nat) (hpid : worker.pid = none)
      (hrestart : worker.restartAt
        = some (time + backoff (failuresSinceStable (failedRuns slot history))))
      (hlast : lastOf slot history = some (.exited slot status ran time))
      (hfailed : statusFailed status = true)
  | done (hpid : worker.pid = none) (hrestart : worker.restartAt = none)

/-- The slot with this index and what happened to it. -/
structure SlotSound (slot : Nat) (stopping : Bool) (history : List HistoryItem)
    (worker : WorkerSlot) : Prop where
  cpuId : worker.cpuId = slot
  agrees : Agrees slot history worker
  failures : stopping = false →
    worker.failures = min (failuresSinceStable (failedRuns slot history)) maxFailures

/-- The children of the master are the workers of its slots. -/
structure Owned (s : System) : Prop where
  owner : ∀ p ∈ s.processes, ∃ worker, s.workers[p.cpuId]? = some worker
    ∧ worker.pid = some p.pid
  owned : ∀ slot worker pid, s.workers[slot]? = some worker → worker.pid = some pid →
    ∃ p ∈ s.processes, p.pid = pid ∧ p.cpuId = slot
  distinct : (s.processes.map WorkerProcess.pid).Nodup
  ended : ∀ p ∈ s.processes, ∀ status, p.ended = some status → statusPid status = some p.pid

/-- What holds of the master and its slots at any time. -/
structure Supervised (s : System) : Prop where
  processes : Owned s
  slots : ∀ slot worker, s.workers[slot]? = some worker →
    SlotSound slot s.stopping s.history worker
  unborn : ∀ slot, s.workers.length ≤ slot →
    lastOf slot s.history = none ∧ failedRuns slot s.history = []
  stopped : s.stopping = true ↔ HistoryItem.stopping ∈ s.history
  lawful : Lawful s.history
  restarting : ∀ idx, s.place = .restarting idx → s.stopping = false
  forking : s.place = .forking → s.stopping = false

theorem lastOf_cons (slot : Nat) (item : HistoryItem) (history : List HistoryItem) :
    lastOf slot (item :: history)
      = if item.slot? = some slot then some item else lastOf slot history := by
  unfold lastOf
  by_cases hslot : item.slot? = some slot
  · rw [if_pos hslot, List.find?_cons_of_pos (by simpa using hslot)]
  · rw [if_neg hslot, List.find?_cons_of_neg (by simpa using hslot)]

theorem failedRuns_cons_of_ne {item : HistoryItem} (h : item.slot? ≠ some slot) :
    failedRuns slot (item :: history) = failedRuns slot history := by
  unfold failedRuns
  rw [List.filterMap_cons]
  cases item with
  | exited slot' status ran time =>
      have hne : slot' ≠ slot := fun heq => h (congrArg some heq)
      simp [hne]
  | spawned | stopping => rfl

theorem failedRuns_spawned (slot' : Nat) (pid : Pid) (time : Nat) :
    failedRuns slot (.spawned slot' pid time :: history) = failedRuns slot history := rfl

theorem failedRuns_exited {status : WaitStatus} (ran time : Nat) (h : statusFailed status = true) :
    failedRuns slot (.exited slot status ran time :: history)
      = ran :: failedRuns slot history := by
  simp [failedRuns, h]

/-- What happens to another slot, or to none, changes nothing for this one. -/
theorem Agrees.cons {item : HistoryItem} {worker : WorkerSlot} (h : Agrees slot history worker)
    (hne : item.slot? ≠ some slot) : Agrees slot (item :: history) worker := by
  cases h with
  | running pid time hpid hrestart hlast =>
      refine .running pid time hpid hrestart ?_
      rw [lastOf_cons, if_neg hne]
      exact hlast
  | resting status ran time hpid hrestart hlast hfailed =>
      refine .resting status ran time hpid ?_ ?_ hfailed
      · rw [failedRuns_cons_of_ne hne]
        exact hrestart
      · rw [lastOf_cons, if_neg hne]
        exact hlast
  | done hpid hrestart => exact .done hpid hrestart

theorem SlotSound.cons {item : HistoryItem} {worker : WorkerSlot} {stopping : Bool}
    (h : SlotSound slot stopping history worker) (hne : item.slot? ≠ some slot) :
    SlotSound slot stopping (item :: history) worker where
  cpuId := h.cpuId
  agrees := h.agrees.cons hne
  failures hrunning := by
    rw [failedRuns_cons_of_ne hne]
    exact h.failures hrunning

/-- A slot whose worker runs is not due. -/
theorem Agrees.of_isDue {worker : WorkerSlot} {now : Nat} (h : Agrees slot history worker)
    (hdue : worker.isDue now = true) : MaySpawn slot now history := by
  unfold WorkerSlot.isDue at hdue
  rw [Bool.and_eq_true] at hdue
  cases h with
  | running pid time hpid =>
      rw [hpid] at hdue
      cases hdue.1
  | resting status ran time hpid hrestart hlast hfailed =>
      rw [hrestart] at hdue
      exact .again status ran time hlast hfailed (by simpa using hdue.2)
  | done hpid hrestart =>
      rw [hrestart] at hdue
      cases hdue.2

theorem Agrees.of_running {worker : WorkerSlot} {pid : Pid} (h : Agrees slot history worker)
    (hpid : worker.pid = some pid) :
    ∃ pid time, lastOf slot history = some (.spawned slot pid time) := by
  cases h with
  | running pid time _ _ hlast => exact ⟨pid, time, hlast⟩
  | resting _ _ _ hnone | done hnone =>
      rw [hpid] at hnone
      cases hnone

/-- The report of a death moves the slot on as the history says. -/
theorem SlotSound.recordExit {worker : WorkerSlot} {stopping : Bool} {status : WaitStatus}
    {now later : Nat} (h : SlotSound slot stopping history worker) (pid : Pid)
    (hpid : worker.pid = some pid) :
    SlotSound slot stopping
      (.exited slot status (now - worker.startedAt) later :: history)
      (worker.recordExit stopping status now later) := by
  have hrestart : worker.restartAt = none := by
    cases h.agrees with
    | running _ _ _ hrestart => exact hrestart
    | resting _ _ _ hnone =>
        rw [hpid] at hnone
        cases hnone
    | done _ hrestart => exact hrestart
  unfold WorkerSlot.recordExit
  dsimp only
  split_ifs with hfails
  · -- a failure: the counter follows the history, and so does the delay
    rw [Bool.and_eq_true, Bool.not_eq_true'] at hfails
    have hcount := h.failures hfails.1
    have hruns : failedRuns slot
          (.exited slot status (now - worker.startedAt) later :: history)
        = (now - worker.startedAt) :: failedRuns slot history :=
      failedRuns_exited (now - worker.startedAt) later hfails.2
    have hnext : ((({ worker with pid := none } : WorkerSlot).scheduleRestart now later).failures)
        = min (failuresSinceStable (failedRuns slot
            (.exited slot status (now - worker.startedAt) later :: history))) maxFailures := by
      rw [hruns, failuresSinceStable_cons]
      show min ((if now - worker.startedAt ≥ restartStableWindow then 0 else worker.failures) + 1)
        maxFailures = _
      have hmaximum : maxFailures = 4294967295 := rfl
      by_cases hstable : now - worker.startedAt ≥ restartStableWindow
      · rw [if_pos hstable, if_pos hstable]
      · rw [if_neg hstable, if_neg hstable, hcount]
        omega
    refine ⟨h.cpuId, ?_, fun _ => hnext⟩
    refine .resting status (now - worker.startedAt) later rfl ?_ ?_ hfails.2
    · rw [← restartDelay_saturated, ← hnext]
      rfl
    · rw [lastOf_cons, if_pos (by rfl)]
  · refine ⟨h.cpuId, .done rfl hrestart, ?_⟩
    intro hrunning
    have hclean : statusFailed status = false := by
      rw [hrunning] at hfails
      simpa using hfails
    have hruns : failedRuns slot (.exited slot status (now - worker.startedAt) later :: history)
        = failedRuns slot history := by
      simp [failedRuns, hclean]
    rw [hruns]
    exact h.failures hrunning

/-! ## §3. Every step. -/

theorem act_pid (p : WorkerProcess) (act : WorkerAct) : (p.act act).pid = p.pid := by
  cases act <;> simp only [WorkerProcess.act, WorkerProcess.send] <;> (try split_ifs) <;> rfl

theorem act_cpuId (p : WorkerProcess) (act : WorkerAct) : (p.act act).cpuId = p.cpuId := by
  cases act <;> simp only [WorkerProcess.act, WorkerProcess.send] <;> (try split_ifs) <;> rfl

/-- A process ends with a status of its own. -/
theorem act_ended {p : WorkerProcess} {act : WorkerAct} (halive : p.ended = none)
    {status : WaitStatus} (hended : (p.act act).ended = some status) :
    statusPid status = some p.pid := by
  cases act with
  | exit code =>
      injection hended with hended
      exact hended ▸ rfl
  | killed signal coreDumped =>
      injection hended with hended
      exact hended ▸ rfl
  | sent | deliver | install | hear =>
      simp only [WorkerProcess.act, WorkerProcess.send] at hended
      (try split_ifs at hended) <;> rw [halive] at hended <;> cases hended

/-- A process as it was, for the master. -/
structure SameProcess (p p' : WorkerProcess) : Prop where
  pid : p'.pid = p.pid
  cpuId : p'.cpuId = p.cpuId
  ended : ∀ status, p'.ended = some status →
    p.ended = some status ∨ statusPid status = some p.pid

theorem sameProcess_act (pid : Pid) (act : WorkerAct) (p : WorkerProcess) :
    SameProcess p (if p.pid = pid ∧ p.ended = none then p.act act else p) := by
  split_ifs with h
  · exact ⟨act_pid p act, act_cpuId p act, fun _ hended => .inr (act_ended h.2 hended)⟩
  · exact ⟨rfl, rfl, fun _ hended => .inl hended⟩

theorem sameProcess_send (pid : Pid) (p : WorkerProcess) :
    SameProcess p (if p.pid = pid then p.send .sigterm else p) := by
  unfold WorkerProcess.send
  split_ifs <;> exact ⟨rfl, rfl, fun _ hended => .inl hended⟩

theorem Owned.map {f : WorkerProcess → WorkerProcess} (h : Owned s)
    (hsame : ∀ p, SameProcess p (f p)) (hprocesses : s'.processes = s.processes.map f)
    (hworkers : s'.workers = s.workers) : Owned s' where
  owner := by
    rw [hprocesses, hworkers]
    intro p' hmem
    obtain ⟨p, hp, rfl⟩ := List.mem_map.mp hmem
    rw [(hsame p).cpuId, (hsame p).pid]
    exact h.owner p hp
  owned := by
    rw [hprocesses, hworkers]
    intro slot worker pid hworker hpid
    obtain ⟨p, hp, hsamePid, hcpuId⟩ := h.owned slot worker pid hworker hpid
    exact ⟨f p, List.mem_map_of_mem hp, (hsame p).pid.trans hsamePid, (hsame p).cpuId.trans hcpuId⟩
  distinct := by
    have hpids : (s.processes.map f).map WorkerProcess.pid = s.processes.map WorkerProcess.pid := by
      rw [List.map_map]
      exact List.map_congr_left fun p _ => (hsame p).pid
    rw [hprocesses, hpids]
    exact h.distinct
  ended := by
    rw [hprocesses]
    intro p' hmem status hended
    obtain ⟨p, hp, rfl⟩ := List.mem_map.mp hmem
    rw [(hsame p).pid]
    rcases (hsame p).ended status hended with hbefore | hown
    · exact h.ended p hp status hbefore
    · exact hown

/-- The slots and what happened to them are as before. -/
theorem Supervised.frame (h : Supervised s) (hprocesses : Owned s')
    (hworkers : s'.workers = s.workers) (hstopping : s'.stopping = s.stopping)
    (hhistory : s'.history = s.history)
    (hrestarting : ∀ idx, s'.place = .restarting idx → s.stopping = false)
    (hforking : s'.place = .forking → s.stopping = false) : Supervised s' where
  processes := hprocesses
  slots := by
    rw [hworkers, hstopping, hhistory]
    exact h.slots
  unborn := by
    rw [hworkers, hhistory]
    exact h.unborn
  stopped := by
    rw [hstopping, hhistory]
    exact h.stopped
  lawful := by
    rw [hhistory]
    exact h.lawful
  restarting := by
    rw [hstopping]
    exact hrestarting
  forking := by
    rw [hstopping]
    exact hforking

theorem Owned.congr (h : Owned s) (hprocesses : s'.processes = s.processes)
    (hworkers : s'.workers = s.workers) : Owned s' := by
  have hid : ∀ p : WorkerProcess, SameProcess p (id p) :=
    fun p => ⟨rfl, rfl, fun _ hended => .inl hended⟩
  refine h.map hid ?_ hworkers
  rw [hprocesses, List.map_id]

theorem pid_ne_of_fresh {pid : Pid} (hfresh : s.inUse pid = false) :
    ∀ p ∈ s.processes, p.pid ≠ pid := by
  intro p hp heq
  have huse : s.inUse pid = true := List.any_eq_true.mpr ⟨p, hp, by simpa using heq⟩
  rw [hfresh] at huse
  cases huse

/-- The child that a slot is given. -/
theorem Owned.forked (h : Owned s) {slot : Nat} {worker : WorkerSlot} {pid : Pid}
    (hfresh : s.inUse pid = false)
    (hall : s'.processes = s.processes ++ [WorkerProcess.forked pid slot s.shutdownRequested])
    (hvacant : ∀ worker, s.workers[slot]? = some worker → worker.pid = none)
    (hself : s'.workers[slot]? = some worker) (hpid : worker.pid = some pid)
    (hothers : ∀ slot', slot' ≠ slot → s'.workers[slot']? = s.workers[slot']?) : Owned s' := by
  have hnew := pid_ne_of_fresh hfresh
  refine ⟨?_, ?_, ?_, ?_⟩
  · rw [hall]
    intro p hmem
    rcases List.mem_append.mp hmem with hold | hlast
    · obtain ⟨worker', hworker', hpid'⟩ := h.owner p hold
      by_cases hslot : p.cpuId = slot
      · have hnone := hvacant worker' (hslot ▸ hworker')
        rw [hnone] at hpid'
        cases hpid'
      · rw [hothers _ hslot]
        exact ⟨worker', hworker', hpid'⟩
    · rw [List.mem_singleton.mp hlast]
      exact ⟨worker, hself, hpid⟩
  · rw [hall]
    intro slot' worker' pid' hworker' hpid'
    by_cases hslot : slot' = slot
    · subst hslot
      rw [hself] at hworker'
      injection hworker' with hworker'
      rw [← hworker', hpid] at hpid'
      injection hpid' with hpid'
      exact ⟨_, List.mem_append_right _ (List.mem_singleton_self _), hpid', rfl⟩
    · rw [hothers _ hslot] at hworker'
      obtain ⟨p, hp, hsame⟩ := h.owned slot' worker' pid' hworker' hpid'
      exact ⟨p, List.mem_append_left _ hp, hsame⟩
  · rw [hall, List.map_append, List.nodup_append]
    refine ⟨h.distinct, List.nodup_singleton _, ?_⟩
    intro pid₁ hmem pid₂ hlast heq
    obtain ⟨p, hp, rfl⟩ := List.mem_map.mp hmem
    rw [List.map_singleton, List.mem_singleton] at hlast
    exact hnew p hp (heq.trans hlast)
  · rw [hall]
    intro p hmem status hended
    rcases List.mem_append.mp hmem with hold | hlast
    · exact h.ended p hold status hended
    · rw [List.mem_singleton.mp hlast] at hended
      cases hended

/-- The slot whose worker's death is reported is the one it was forked for. -/
theorem Owned.find (h : Owned s) {p : WorkerProcess} (hp : p ∈ s.processes) :
    ∃ worker, s.workers[p.cpuId]? = some worker ∧ worker.pid = some p.pid
      ∧ s.workers.findIdx? (fun worker => worker.pid == some p.pid) = some p.cpuId := by
  obtain ⟨worker, hworker, hpid⟩ := h.owner p hp
  refine ⟨worker, hworker, hpid, ?_⟩
  cases hfind : s.workers.findIdx? (fun worker => worker.pid == some p.pid) with
  | none =>
      rw [List.findIdx?_eq_none_iff] at hfind
      have hnot := hfind worker (List.mem_of_getElem? hworker)
      rw [hpid] at hnot
      simp at hnot
  | some idx =>
      obtain ⟨hlt, hidx, -⟩ := List.findIdx?_eq_some_iff_getElem.mp hfind
      have hget : s.workers[idx]? = some s.workers[idx] := List.getElem?_eq_getElem hlt
      obtain ⟨q, hq, hqpid, hqcpu⟩ := h.owned idx _ p.pid hget (by simpa using hidx)
      have hsame : q = p := List.inj_on_of_nodup_map h.distinct hq hp hqpid
      rw [← hsame, hqcpu]

theorem Owned.reaped (h : Owned s) {p : WorkerProcess} (hp : p ∈ s.processes)
    {worker : WorkerSlot}
    (hprocesses : s'.processes = s.processes.filter (fun q => q.pid != p.pid))
    (hself : s'.workers[p.cpuId]? = some worker) (hpid : worker.pid = none)
    (hothers : ∀ slot', slot' ≠ p.cpuId → s'.workers[slot']? = s.workers[slot']?) : Owned s' := by
  have hkept : ∀ q ∈ s'.processes, q ∈ s.processes ∧ q.pid ≠ p.pid := by
    intro q hq
    rw [hprocesses, List.mem_filter] at hq
    exact ⟨hq.1, by simpa using hq.2⟩
  refine ⟨?_, ?_, ?_, fun q hq => h.ended q (hkept q hq).1⟩
  · intro q hq
    obtain ⟨hold, hne⟩ := hkept q hq
    obtain ⟨worker', hworker', hpid'⟩ := h.owner q hold
    by_cases hslot : q.cpuId = p.cpuId
    · -- two children of one slot would have one pid
      obtain ⟨worker'', hworker'', hpid''⟩ := h.owner p hp
      rw [hslot, hworker''] at hworker'
      injection hworker' with hworker'
      rw [hworker', hpid'] at hpid''
      injection hpid'' with hpid''
      exact absurd hpid'' hne
    · rw [hothers _ hslot]
      exact ⟨worker', hworker', hpid'⟩
  · intro slot' worker' pid' hworker' hpid'
    by_cases hslot : slot' = p.cpuId
    · subst hslot
      rw [hself] at hworker'
      injection hworker' with hworker'
      rw [← hworker', hpid] at hpid'
      cases hpid'
    · rw [hothers _ hslot] at hworker'
      obtain ⟨q, hq, hqpid, hqcpu⟩ := h.owned slot' worker' pid' hworker' hpid'
      refine ⟨q, ?_, hqpid, hqcpu⟩
      rw [hprocesses, List.mem_filter]
      refine ⟨hq, ?_⟩
      have hne : q.pid ≠ p.pid := by
        intro heq
        have hsame : q = p := List.inj_on_of_nodup_map h.distinct hq hp heq
        exact hslot (hqcpu.symm.trans (congrArg WorkerProcess.cpuId hsame))
      simpa using hne
  · rw [hprocesses]
    exact h.distinct.sublist (List.filter_sublist.map _)

/-- Something happened to one slot. -/
theorem Supervised.change {item : HistoryItem} {worker : WorkerSlot} (h : Supervised s)
    (hprocesses : Owned s') (hitem : item.slot? = some slot)
    (hself : s'.workers[slot]? = some worker)
    (hsound : SlotSound slot s.stopping (item :: s.history) worker)
    (hothers : ∀ slot', slot' ≠ slot → s'.workers[slot']? = s.workers[slot']?)
    (hhistory : s'.history = item :: s.history) (hstopping : s'.stopping = s.stopping)
    (hlawful : Lawful (item :: s.history))
    (hrestarting : ∀ idx, s'.place = .restarting idx → s.stopping = false)
    (hforking : s'.place = .forking → s.stopping = false) : Supervised s' where
  processes := hprocesses
  slots := by
    rw [hstopping, hhistory]
    intro slot' worker' hworker'
    by_cases hslot : slot' = slot
    · subst hslot
      rw [hself] at hworker'
      injection hworker' with hworker'
      exact hworker' ▸ hsound
    · rw [hothers _ hslot] at hworker'
      refine (h.slots slot' worker' hworker').cons ?_
      rw [hitem]
      exact fun heq => hslot (Option.some.inj heq).symm
  unborn := by
    intro slot' hle
    have hslot : slot' ≠ slot := by
      intro heq
      subst heq
      rw [List.getElem?_eq_none hle] at hself
      cases hself
    have hnone : s.workers[slot']? = none := by
      rw [← hothers slot' hslot]
      exact List.getElem?_eq_none hle
    have hother : item.slot? ≠ some slot' := by
      rw [hitem]
      exact fun heq => hslot (Option.some.inj heq).symm
    rw [hhistory, lastOf_cons, if_neg hother, failedRuns_cons_of_ne hother]
    exact h.unborn slot' (List.getElem?_eq_none_iff.mp hnone)
  stopped := by
    rw [hstopping, hhistory, h.stopped, List.mem_cons]
    have hne : HistoryItem.stopping ≠ item := by
      intro heq
      rw [← heq] at hitem
      cases hitem
    exact ⟨.inr, fun hmem => hmem.resolve_left hne⟩
  lawful := by
    rw [hhistory]
    exact hlawful
  restarting := by
    rw [hstopping]
    exact hrestarting
  forking := by
    rw [hstopping]
    exact hforking

theorem Supervised.not_stopping (h : Supervised s) (hrunning : s.stopping = false) :
    HistoryItem.stopping ∉ s.history := by
  intro hmem
  rw [h.stopped.mpr hmem] at hrunning
  cases hrunning

/-- **Every step keeps the slots in order.** -/
theorem Supervised.step {event : Event} (h : Supervised s) (hstep : Master.step event s = .ok s') :
    Supervised s' := by
  cases step_cases hstep with
  | nothing answer => exact h
  | requested =>
      exact h.frame (h.processes.congr rfl rfl) rfl rfl rfl h.restarting h.forking
  | moved answer place hnext =>
      refine h.frame (h.processes.congr rfl rfl) rfl rfl rfl ?_ ?_
      · intro idx hplace
        cases hnext with
        | restart idx' hfrom =>
            rcases hfrom with hrunning | ⟨idx'', hbefore⟩
            · exact hrunning
            · exact h.restarting idx'' hbefore
        | _ => cases hplace
      · intro hplace
        cases hnext <;> cases hplace
  | worker pid act =>
      exact h.frame (h.processes.map (sameProcess_act pid act) rfl rfl) rfl rfl rfl
        h.restarting h.forking
  | signalled answer pid pids hplace =>
      refine h.frame (h.processes.map (sameProcess_send pid) rfl rfl) rfl rfl rfl ?_ ?_
      · intro idx hother
        cases hother
      · intro hother
        cases hother
  | started answer pid hplace hfresh =>
      have hrunning := h.forking hplace
      obtain ⟨hlast, hruns⟩ := h.unborn s.workers.length (Nat.le_refl _)
      have hothers : ∀ (worker : WorkerSlot) slot', slot' ≠ s.workers.length →
          (s.workers ++ [worker])[slot']? = s.workers[slot']? := by
        intro worker slot' hne
        by_cases hlt : slot' < s.workers.length
        · exact List.getElem?_append_left hlt
        · have hlength : (s.workers ++ [worker]).length ≤ slot' := by
            rw [List.length_append, List.length_singleton]
            omega
          rw [List.getElem?_eq_none hlength, List.getElem?_eq_none (by omega)]
      have hself : ∀ worker : WorkerSlot,
          (s.workers ++ [worker])[s.workers.length]? = some worker := by
        intro worker
        rw [List.getElem?_append_right (Nat.le_refl _), Nat.sub_self]
        rfl
      have hvacant : ∀ worker, s.workers[s.workers.length]? = some worker →
          worker.pid = none := by
        intro worker hworker
        rw [List.getElem?_eq_none (Nat.le_refl _)] at hworker
        cases hworker
      refine h.change (h.processes.forked hfresh rfl hvacant (hself _) rfl (hothers _))
        (by rfl) (hself _) ?_ (hothers _) rfl rfl ?_ ?_ ?_
      · refine ⟨rfl, .running pid answer.now rfl rfl ?_, ?_⟩
        · rw [lastOf_cons, if_pos (by rfl)]
        · intro _
          rw [failedRuns_spawned, hruns]
          rfl
      · exact ⟨⟨h.not_stopping hrunning, .first hlast⟩, h.lawful⟩
      · exact fun _ _ => hrunning
      · exact fun _ => hrunning
  | restarted answer idx worker pid hplace hworker hdue hfresh =>
      have hrunning := h.restarting idx hplace
      have hsound := h.slots idx worker hworker
      have hidx := hsound.cpuId
      subst hidx
      have hself : ∀ worker' : WorkerSlot,
          (s.workers.set worker.cpuId worker')[worker.cpuId]? = some worker' := by
        intro worker'
        exact List.getElem?_set_self (List.getElem?_eq_some_iff.mp hworker).1
      have hothers : ∀ (worker' : WorkerSlot) slot', slot' ≠ worker.cpuId →
          (s.workers.set worker.cpuId worker')[slot']? = s.workers[slot']? :=
        fun worker' slot' hne => List.getElem?_set_ne (Ne.symm hne)
      have hvacant : ∀ worker', s.workers[worker.cpuId]? = some worker' → worker'.pid = none := by
        intro worker' hworker'
        rw [hworker] at hworker'
        injection hworker' with hworker'
        unfold WorkerSlot.isDue at hdue
        rw [Bool.and_eq_true, Option.isNone_iff_eq_none] at hdue
        exact hworker' ▸ hdue.1
      refine h.change (h.processes.forked hfresh rfl hvacant (hself _) rfl (hothers _))
        (by rfl) (hself _) ?_ (hothers _) rfl rfl ?_ ?_ ?_
      · refine ⟨rfl, .running pid answer.now rfl rfl ?_, ?_⟩
        · rw [lastOf_cons, if_pos (by rfl)]
        · rw [failedRuns_spawned]
          exact hsound.failures
      · exact ⟨⟨h.not_stopping hrunning, hsound.agrees.of_isDue hdue⟩, h.lawful⟩
      · exact fun _ _ => hrunning
      · exact fun hother => (by cases hother)
  | stopped answer hplace hbefore =>
      refine ⟨h.processes.congr rfl rfl, ?_, ?_, ?_, h.lawful, ?_, ?_⟩
      · intro slot worker hworker
        have hsound : SlotSound slot s.stopping (.stopping :: s.history) worker :=
          (h.slots slot worker hworker).cons (by simp [HistoryItem.slot?])
        exact ⟨hsound.cpuId, hsound.agrees, fun hrunning => by cases hrunning⟩
      · exact h.unborn
      · exact ⟨fun _ => List.mem_cons_self, fun _ => rfl⟩
      · exact fun idx hother => (by cases hother)
      · exact fun hother => (by cases hother)
  | reaped answer status p pid hmem hended hpid hplace =>
      have hown := h.processes.ended p hmem status hended
      rw [hown] at hpid
      injection hpid with hpid
      subst hpid
      obtain ⟨worker, hworker, hpid, hfind⟩ := h.processes.find hmem
      have hrecord : s.recordExit answer status p.pid = { s with
          processes := s.processes.filter (fun q => q.pid != p.pid)
          workers := s.workers.set p.cpuId
            (worker.recordExit s.stopping status answer.now answer.later)
          place := .checking
          history := .exited p.cpuId status (answer.now - worker.startedAt) answer.later
            :: s.history } := by
        unfold System.recordExit
        dsimp only
        rw [hfind]
        dsimp only
        rw [hworker]
      have hself : ∀ worker' : WorkerSlot,
          (s.workers.set p.cpuId worker')[p.cpuId]? = some worker' := by
        intro worker'
        exact List.getElem?_set_self (List.getElem?_eq_some_iff.mp hworker).1
      have hothers : ∀ (worker' : WorkerSlot) slot', slot' ≠ p.cpuId →
          (s.workers.set p.cpuId worker')[slot']? = s.workers[slot']? :=
        fun worker' slot' hne => List.getElem?_set_ne (Ne.symm hne)
      have hnone : (worker.recordExit s.stopping status answer.now answer.later).pid = none := by
        unfold WorkerSlot.recordExit
        dsimp only
        split_ifs <;> rfl
      have hspawned := (h.slots p.cpuId worker hworker).agrees.of_running hpid
      rw [hrecord]
      refine h.change (h.processes.reaped hmem rfl (hself _) hnone (hothers _)) (by rfl) (hself _)
        ((h.slots p.cpuId worker hworker).recordExit p.pid hpid) (hothers _) rfl rfl
        ⟨hspawned, h.lawful⟩ ?_ ?_
      · exact fun idx hother => (by cases hother)
      · exact fun hother => (by cases hother)

/-! ## §4. Whole executions. -/

theorem Supervised.start {totalWorkers : Nat} (h : System.start totalWorkers s) :
    Supervised s := by
  unfold System.start at h
  subst h
  refine ⟨⟨?_, ?_, List.nodup_nil, ?_⟩, ?_, fun _ _ => ⟨rfl, rfl⟩, ?_, trivial, ?_, fun _ => rfl⟩
  · exact fun p hp => (by cases hp)
  · exact fun slot worker pid hworker => (by cases hworker)
  · exact fun p hp => (by cases hp)
  · exact fun slot worker hworker => (by cases hworker)
  · exact ⟨fun hfalse => (by cases hfalse), fun hmem => (by cases hmem)⟩
  · exact fun idx hplace => (by cases hplace)

theorem Execution.supervised {totalWorkers : Nat} {Meets : System → Event → Prop}
    (h : Execution (System.start totalWorkers) step Meets s) : Supervised s :=
  h.invariant (fun _ => .start) (fun _ _ _ hinv _ hstep => hinv.step hstep)

/-- Nothing more happens to a slot whose worker exited in order. -/
theorem Lawful.after_clean_exit {later earlier : List HistoryItem} {status : WaitStatus}
    {ran time : Nat} (hclean : statusFailed status = false)
    (h : Lawful (later ++ .exited slot status ran time :: earlier)) :
    lastOf slot (later ++ .exited slot status ran time :: earlier)
        = some (.exited slot status ran time)
      ∧ ∀ item ∈ later, item.slot? ≠ some slot := by
  induction later with
  | nil => exact ⟨by rw [List.nil_append, lastOf_cons, if_pos (by rfl)], by simp⟩
  | cons item later ih =>
      obtain ⟨hlast, hnone⟩ := ih h.tail
      have hother : item.slot? ≠ some slot := by
        intro hitem
        -- a start needs a failure before it, and an exit a start
        cases item with
        | spawned slot' pid time' =>
            injection hitem with hitem
            subst hitem
            cases h.1.2 with
            | first hfirst => cases hlast.symm.trans hfirst
            | again status' _ _ hexited hfailed =>
                injection hlast.symm.trans hexited with hexited
                injection hexited with _ hsame
                rw [← hsame, hclean] at hfailed
                cases hfailed
        | exited slot' status' ran' time' =>
            injection hitem with hitem
            subst hitem
            obtain ⟨pid, time'', hspawned⟩ := h.1
            cases hlast.symm.trans hspawned
        | stopping => cases hitem
      refine ⟨?_, ?_⟩
      · rw [List.cons_append, lastOf_cons, if_neg hother]
        exact hlast
      · intro item' hmem
        rcases List.mem_cons.mp hmem with rfl | hmem
        · exact hother
        · exact hnone item' hmem

/-- Two children of the master are never of one slot. -/
theorem Owned.one_each (h : Owned s) (slot : Nat) :
    (s.processes.filter (fun p => p.cpuId == slot)).length ≤ 1 := by
  have hsame : ∀ p ∈ s.processes.filter (fun p => p.cpuId == slot),
      ∀ q ∈ s.processes.filter (fun p => p.cpuId == slot), p.pid = q.pid := by
    intro p hp q hq
    rw [List.mem_filter] at hp hq
    obtain ⟨worker, hworker, hpid⟩ := h.owner p hp.1
    obtain ⟨worker', hworker', hpid'⟩ := h.owner q hq.1
    have hcpu : p.cpuId = q.cpuId := (eq_of_beq hp.2).trans (eq_of_beq hq.2).symm
    rw [hcpu, hworker'] at hworker
    injection hworker with hworker
    rw [← hworker, hpid'] at hpid
    exact (Option.some.inj hpid).symm
  have hdistinct : ((s.processes.filter (fun p => p.cpuId == slot)).map WorkerProcess.pid).Nodup :=
    h.distinct.sublist (List.filter_sublist.map _)
  generalize s.processes.filter (fun p => p.cpuId == slot) = children at hsame hdistinct
  cases children with
  | nil => exact Nat.zero_le 1
  | cons p children =>
      cases children with
      | nil => exact Nat.le_refl 1
      | cons q children =>
          have hpq := hsame p List.mem_cons_self q (List.mem_cons_of_mem p List.mem_cons_self)
          simp [hpq] at hdistinct

/-- **Workers are restarted one at a time, after a failure and its delay, and not
once the master stops**; and the master returns `Ok` only when no worker is left. -/
theorem restarts_wait {totalWorkers : Nat} (h : Reachable totalWorkers s) :
    (∀ slot, (s.processes.filter (fun p => p.cpuId == slot)).length ≤ 1)
    ∧ (∀ later slot status ran time earlier,
      s.history = later ++ .exited slot status ran time :: earlier →
      statusFailed status = false → ∀ pid time', .spawned slot pid time' ∉ later)
    ∧ (∀ later slot pid time earlier, s.history = later ++ .spawned slot pid time :: earlier →
      MaySpawn slot time earlier)
    ∧ (∀ later earlier, s.history = later ++ .stopping :: earlier →
      ∀ slot pid time, .spawned slot pid time ∉ later)
    ∧ ∀ event, step event s = .error .ok →
      s.processes = [] ∧ ∀ worker ∈ s.workers, worker.pid = none := by
  have hinv := Execution.supervised h
  have hlawful := hinv.lawful
  refine ⟨hinv.processes.one_each, ?_, ?_, ?_, ?_⟩
  · intro later slot status ran time earlier hhistory hclean pid time' hmem
    rw [hhistory] at hlawful
    exact (hlawful.after_clean_exit hclean).2 _ hmem rfl
  · intro later slot pid time earlier hhistory
    rw [hhistory] at hlawful
    exact hlawful.spawned.2
  · intro later earlier hhistory slot pid time hmem
    obtain ⟨before, after, hsplit⟩ := List.append_of_mem hmem
    rw [hhistory, hsplit, List.append_assoc, List.cons_append] at hlawful
    exact hlawful.spawned.1 (List.mem_append_right _ List.mem_cons_self)
  · intro event hreturns
    have hnone := step_returns hreturns
    refine ⟨?_, hnone⟩
    rw [List.eq_nil_iff_forall_not_mem]
    intro p hp
    obtain ⟨worker, hworker, hpid⟩ := hinv.processes.owner p hp
    rw [hnone worker (List.mem_of_getElem? hworker)] at hpid
    cases hpid

section Example

/-- What happened to a slot whose worker was killed after 40 ms, and forked again
after another 110 ms. -/
def killedOnce : List HistoryItem :=
  [.exited 0 (.signaled 7 9 false) 40000000 40000000, .spawned 0 7 0]

theorem restarts_wait_killed : MaySpawn 0 150000000 killedOnce := by
  have hrun : runsTo 1 (fun _ _ => true)
      [.goesOn 0 7, .goesOn 0 7, .goesOn 0 7, .worker 7 (.killed 9 false), .reaps 40000000 7,
       .goesOn 40000000 8, .goesOn 40000000 8, .goesOn 40000000 8, .goesOn 40000000 8,
       .goesOn 40000000 8, .goesOn 150000000 8, .goesOn 150000000 8]
      (fun s => s.history == .spawned 0 8 150000000 :: killedOnce) = true := by
    decide +kernel
  obtain ⟨s, hs, hp⟩ := reachable_of_runsTo hrun
  exact (restarts_wait hs).2.2.1 [] 0 8 150000000 killedOnce (eq_of_beq hp)

end Example

end Thwip.Master
