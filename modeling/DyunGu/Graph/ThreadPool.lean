import DyunGu.Graph.PipeDepth

namespace DyunGu
namespace Graph
namespace ThreadPool

open Core (usizeMax)

/-!
# The thread pool

Each worker has a queue of jobs.  It takes from the front of its own queue or
steals from the back of the others, and goes to sleep under the signal lock
when it finds that no job is pending.  A spawn puts its job into the shortest
queue, counts it, and then wakes one worker under the lock.  Dropping the pool
sets the shutdown flag, wakes everybody and joins the workers.

Every access to a queue, to the counter of pending jobs and to the lock is a
step of its own, and the steps of all threads interleave.  The counter is a
machine word; a spawn counts its job only after a worker can already have taken
it.  Jobs return without a panic, and are known by the number of the spawn.
-/

/-- Where a worker is in its loop. -/
inductive WorkerPhase where
  | scanning
  | stealing (next : Nat)
  /-- A job has left its queue and is still counted. -/
  | took (job : Nat)
  | running (job : Nat)
  | locking
  /-- The lock is held, for the test before the wait. -/
  | checking
  | rechecking
  /-- The counter was zero, and the lock is about to be given up for the wait. -/
  | drowsy
  | asleep
  | woken
  /-- The lock is held again, for the test after the wait. -/
  | finalCheck
  | exited
deriving DecidableEq, Repr

namespace WorkerPhase

def holdsLock : WorkerPhase -> Bool
  | .checking | .rechecking | .drowsy | .finalCheck => true
  | _ => false

def jobs : WorkerPhase -> List Nat
  | .took job | .running job => [job]
  | _ => []

/-- Jobs that were taken out of a queue and not yet counted off. -/
def uncounted : WorkerPhase -> Nat
  | .took _ => 1
  | _ => 0

/-- The worker looks for a job before it sleeps. -/
def searching : WorkerPhase -> Nat
  | .scanning | .stealing _ | .locking | .checking | .rechecking | .woken | .finalCheck => 1
  | _ => 0

def sleeps : WorkerPhase -> Bool
  | .drowsy | .asleep => true
  | _ => false

@[simp] theorem jobs_scanning : WorkerPhase.scanning.jobs = [] := rfl

@[simp] theorem jobs_took (job : Nat) : (WorkerPhase.took job).jobs = [job] := rfl

@[simp] theorem jobs_running (job : Nat) : (WorkerPhase.running job).jobs = [job] := rfl

@[simp] theorem jobs_asleep : WorkerPhase.asleep.jobs = [] := rfl

@[simp] theorem jobs_woken : WorkerPhase.woken.jobs = [] := rfl

theorem jobs_of_searching {phase : WorkerPhase} (searches : phase.searching = 1) :
    phase.jobs = [] := by
  cases phase <;> first | rfl | cases searches

theorem weights_of_searching {phase : WorkerPhase} (searches : phase.searching = 1) :
    phase.uncounted = 0 ∧ phase.sleeps = false := by
  cases phase <;> first | exact ⟨rfl, rfl⟩ | cases searches

end WorkerPhase

/-- Where a call of `spawn` is. -/
inductive SpawnPhase where
  | idle
  | measuring (job next shortest target : Nat)
  | chosen (job target : Nat)
  /-- The job is in the queue and not yet counted. -/
  | pushed
  | counted
deriving DecidableEq, Repr

namespace SpawnPhase

def jobs : SpawnPhase -> List Nat
  | .measuring job _ _ _ | .chosen job _ => [job]
  | _ => []

def ahead : SpawnPhase -> Nat
  | .pushed => 1
  | _ => 0

/-- The call has put its job into a queue and has not woken anybody yet. -/
def signals : SpawnPhase -> Nat
  | .pushed | .counted => 1
  | _ => 0

/-- What a call takes up in memory: itself, and its job while it has it. -/
def size : SpawnPhase -> Nat
  | .idle => 0
  | .measuring _ _ _ _ | .chosen _ _ => 2
  | .pushed | .counted => 1

@[simp] theorem jobs_idle : SpawnPhase.idle.jobs = [] := rfl

@[simp] theorem jobs_measuring (job next shortest target : Nat) :
    (SpawnPhase.measuring job next shortest target).jobs = [job] := rfl

@[simp] theorem jobs_chosen (job target : Nat) :
    (SpawnPhase.chosen job target).jobs = [job] := rfl

@[simp] theorem jobs_pushed : SpawnPhase.pushed.jobs = [] := rfl

@[simp] theorem jobs_counted : SpawnPhase.counted.jobs = [] := rfl

theorem weights_of_jobs {phase : SpawnPhase} {job : Nat} (has : phase.jobs = [job]) :
    phase.ahead = 0 ∧ phase.signals = 0 ∧ phase.size = 2 := by
  cases phase <;> first | exact ⟨rfl, rfl, rfl⟩ | cases has

end SpawnPhase

/-- What there is memory for.  A job is boxed, so that there are fewer jobs than
addresses. -/
structure Pool where
  memory : Nat
  small : memory <= usizeMax

variable {k s : Nat}

structure State (k s : Nat) where
  queues : Fin k -> List Nat
  pending : Nat
  shutdown : Bool
  worker : Fin k -> WorkerPhase
  spawner : Fin s -> SpawnPhase
  spawned : Nat
  executed : List Nat

namespace State

/-- `ThreadPool::new`, with the workers started. -/
def start : State k s where
  queues := fun _ => []
  pending := 0
  shutdown := false
  worker := fun _ => .scanning
  spawner := fun _ => .idle
  spawned := 0
  executed := []

def queued (state : State k s) : Nat := ∑ i, (state.queues i).length

def uncounted (state : State k s) : Nat := ∑ i, (state.worker i).uncounted

def searching (state : State k s) : Nat := ∑ i, (state.worker i).searching

def ahead (state : State k s) : Nat := ∑ j, (state.spawner j).ahead

def signals (state : State k s) : Nat := ∑ j, (state.spawner j).signals

/-- What the jobs and the calls take up. -/
def size (state : State k s) : Nat :=
  state.queued + ∑ i, (state.worker i).jobs.length + ∑ j, (state.spawner j).size

def lockFree (state : State k s) : Bool :=
  decide (forall i, (state.worker i).holdsLock = false)

/-- In how many places a job is. -/
def places (state : State k s) (job : Nat) : Nat :=
  ∑ i, (state.queues i).count job + ∑ i, (state.worker i).jobs.count job +
    ∑ j, (state.spawner j).jobs.count job + state.executed.count job

end State

inductive Label (k s : Nat) where
  | work (i : Fin k)
  /-- A wait may return without a notification. -/
  | wakeUp (i : Fin k)
  | spawn (j : Fin s)
  /-- The next step of a call, with the worker that it wakes if it wakes one. -/
  | push (j : Fin s) (wakes : Option (Fin k))
  | drop
deriving DecidableEq, Repr

/-- A worker goes on to another phase and touches nothing else. -/
def State.enter (state : State k s) (i : Fin k) (phase : WorkerPhase) : State k s :=
  { state with worker := Function.update state.worker i phase }

/-- A worker takes a job out of a queue and leaves these in it. -/
def State.take (state : State k s) (i queue : Fin k) (rest : List Nat) (job : Nat) : State k s :=
  { state with
    queues := Function.update state.queues queue rest
    worker := Function.update state.worker i (.took job) }

/-- One step of `worker_loop`. -/
def workerStep (state : State k s) (i : Fin k) : Option (State k s) :=
  match state.worker i with
  | .scanning =>
      match state.queues i with
      | job :: rest => some (state.take i i rest job)
      | [] => some (state.enter i (.stealing 0))
  | .stealing next =>
      if isQueue : next < k then
        if (⟨next, isQueue⟩ : Fin k) = i then some (state.enter i (.stealing (next + 1)))
        else
          match (state.queues ⟨next, isQueue⟩).getLast? with
          | some job =>
              some (state.take i ⟨next, isQueue⟩ (state.queues ⟨next, isQueue⟩).dropLast job)
          | none => some (state.enter i (.stealing (next + 1)))
      else some (state.enter i .locking)
  | .took job =>
      some { state.enter i (.running job) with pending := fetchSub state.pending }
  | .running job =>
      some { state.enter i .scanning with executed := state.executed ++ [job] }
  | .locking => if state.lockFree then some (state.enter i .checking) else none
  | .checking =>
      if state.shutdown && decide (state.pending = 0) then some (state.enter i .exited)
      else some (state.enter i .rechecking)
  | .rechecking =>
      if state.pending = 0 then some (state.enter i .drowsy) else some (state.enter i .scanning)
  | .drowsy => some (state.enter i .asleep)
  | .woken => if state.lockFree then some (state.enter i .finalCheck) else none
  | .finalCheck =>
      if state.shutdown && decide (state.pending = 0) then some (state.enter i .exited)
      else some (state.enter i .scanning)
  | .asleep | .exited => none

/-- `notify_one`: some sleeping worker is woken, if there is one. -/
def notifyOne (state : State k s) (wakes : Option (Fin k)) : Option (State k s) :=
  match wakes with
  | some i => if state.worker i = .asleep then some (state.enter i .woken) else none
  | none => if forall i, state.worker i ≠ .asleep then some state else none

/-- One step of `try_push`. -/
def pushStep (state : State k s) (j : Fin s) (wakes : Option (Fin k)) : Option (State k s) :=
  match state.spawner j with
  | .idle => none
  | .measuring job next shortest target =>
      if isQueue : next < k then
        let length := (state.queues ⟨next, isQueue⟩).length
        some { state with
          spawner := Function.update state.spawner j
            (if length < shortest then .measuring job (next + 1) length next
              else .measuring job (next + 1) shortest target) }
      else some { state with spawner := Function.update state.spawner j (.chosen job target) }
  | .chosen job target =>
      if isQueue : target < k then
        some { state with
          queues := Function.update state.queues ⟨target, isQueue⟩
            (state.queues ⟨target, isQueue⟩ ++ [job])
          spawner := Function.update state.spawner j .pushed }
      else none
  | .pushed =>
      some { state with
        pending := fetchAdd state.pending
        spawner := Function.update state.spawner j .counted }
  | .counted =>
      if state.lockFree then
        notifyOne { state with spawner := Function.update state.spawner j .idle } wakes
      else none

namespace Pool

variable (pool : Pool)

def step (state : State k s) : Label k s -> Option (State k s)
  | .work i => workerStep state i
  | .wakeUp i =>
      if state.worker i = .asleep then some (state.enter i .woken) else none
  | .spawn j =>
      if state.spawner j = .idle ∧ state.shutdown = false ∧ state.size + 2 <= pool.memory then
        some { state with
          spawner := Function.update state.spawner j (.measuring state.spawned 0 usizeMax 0)
          spawned := state.spawned + 1 }
      else none
  | .push j wakes => pushStep state j wakes
  | .drop =>
      if state.shutdown = false ∧ (forall j, state.spawner j = .idle) ∧ state.lockFree = true then
        some { state with
          shutdown := true
          worker := fun i => if state.worker i = .asleep then .woken else state.worker i }
      else none

def machine : Machine (State k s) (Label k s) where
  step := pool.step

end Pool

/-! ## What a step changes -/

/-- A worker goes on to another phase without a job. -/
inductive Shift (state : State k s) : WorkerPhase -> WorkerPhase -> Prop where
  | searches {before after : WorkerPhase} (was : before.searching = 1) (is : after.searching = 1)
      (lock : after.holdsLock = true -> before.holdsLock = true ∨ state.lockFree = true) :
      Shift state before after
  | drowses (none_ : state.pending = 0) : Shift state .rechecking .drowsy
  | sleeps : Shift state .drowsy .asleep
  | wakes : Shift state .asleep .woken
  | exits {before : WorkerPhase} (was : before.searching = 1) (down : state.shutdown = true)
      (none_ : state.pending = 0) : Shift state before .exited

inductive Change (pool : Pool) (state : State k s) : State k s -> Prop where
  | shifts {i : Fin k} {before after : WorkerPhase} (was : state.worker i = before)
      (shift : Shift state before after) : Change pool state (state.enter i after)
  | takes {i queue : Fin k} {before after : List Nat} {job : Nat}
      (was : (state.worker i).searching = 1) (held : state.queues queue = before ++ job :: after) :
      Change pool state (state.take i queue (before ++ after) job)
  | counts {i : Fin k} {job : Nat} (was : state.worker i = .took job) :
      Change pool state { state.enter i (.running job) with pending := fetchSub state.pending }
  | finishes {i : Fin k} {job : Nat} (was : state.worker i = .running job) :
      Change pool state { state.enter i .scanning with executed := state.executed ++ [job] }
  | calls {j : Fin s} (was : state.spawner j = .idle) (isUp : state.shutdown = false)
      (room : state.size + 2 <= pool.memory) :
      Change pool state { state with
        spawner := Function.update state.spawner j (.measuring state.spawned 0 usizeMax 0)
        spawned := state.spawned + 1 }
  | measures {j : Fin s} {before after : SpawnPhase} {job : Nat} (was : state.spawner j = before)
      (hasJob : before.jobs = [job]) (keepsJob : after.jobs = [job]) :
      Change pool state { state with spawner := Function.update state.spawner j after }
  | pushes {j : Fin s} {queue : Fin k} {job target : Nat}
      (was : state.spawner j = .chosen job target) :
      Change pool state { state with
        queues := Function.update state.queues queue (state.queues queue ++ [job])
        spawner := Function.update state.spawner j .pushed }
  | adds {j : Fin s} (was : state.spawner j = .pushed) :
      Change pool state { state with
        pending := fetchAdd state.pending
        spawner := Function.update state.spawner j .counted }
  | notifies {j : Fin s} {i : Fin k} (was : state.spawner j = .counted)
      (free : state.lockFree = true) (sleeps : state.worker i = .asleep) :
      Change pool state { state.enter i .woken with
        spawner := Function.update state.spawner j .idle }
  | leaves {j : Fin s} (was : state.spawner j = .counted) (free : state.lockFree = true)
      (nobody : forall i, state.worker i ≠ .asleep) :
      Change pool state { state with spawner := Function.update state.spawner j .idle }
  | drops (isUp : state.shutdown = false) (quiet : forall j, state.spawner j = .idle)
      (free : state.lockFree = true) :
      Change pool state { state with
        shutdown := true
        worker := fun i => if state.worker i = .asleep then .woken else state.worker i }

section Changes

variable {pool : Pool} {state next : State k s}

theorem change_of_work {i : Fin k} (stepped : workerStep state i = some next) :
    Change pool state next := by
  unfold workerStep at stepped
  cases was : state.worker i with
  | scanning =>
      rw [was] at stepped
      dsimp only at stepped
      split at stepped
      · rename_i job rest held
        cases stepped
        rw [← List.nil_append rest]
        exact .takes (by rw [was]; rfl) held
      · cases stepped
        exact .shifts was (.searches rfl rfl fun holds => by cases holds)
  | stealing place =>
      rw [was] at stepped
      dsimp only at stepped
      have goesOn : Change pool state (state.enter i (.stealing (place + 1))) :=
        .shifts was (.searches rfl rfl fun holds => by cases holds)
      split at stepped
      · split at stepped
        · cases stepped
          exact goesOn
        · split at stepped
          · rename_i job isLast
            cases stepped
            have held := List.dropLast_append_getLast? job isLast
            have takes : Change pool state (state.take i ⟨place, ‹_›⟩
                ((state.queues ⟨place, ‹_›⟩).dropLast ++ []) job) :=
              .takes (by rw [was]; rfl) held.symm
            rw [List.append_nil] at takes
            exact takes
          · cases stepped
            exact goesOn
      · cases stepped
        exact .shifts was (.searches rfl rfl fun holds => by cases holds)
  | took job =>
      rw [was] at stepped
      cases stepped
      exact .counts was
  | running job =>
      rw [was] at stepped
      cases stepped
      exact .finishes was
  | locking =>
      rw [was] at stepped
      dsimp only at stepped
      split at stepped
      · rename_i free
        cases stepped
        exact .shifts was (.searches rfl rfl fun _ => Or.inr free)
      · cases stepped
  | checking =>
      rw [was] at stepped
      dsimp only at stepped
      split at stepped
      · rename_i both
        rw [Bool.and_eq_true, decide_eq_true_eq] at both
        cases stepped
        exact .shifts was (.exits rfl both.1 both.2)
      · cases stepped
        exact .shifts was (.searches rfl rfl fun _ => Or.inl rfl)
  | rechecking =>
      rw [was] at stepped
      dsimp only at stepped
      split at stepped
      · rename_i none_
        cases stepped
        exact .shifts was (.drowses none_)
      · cases stepped
        exact .shifts was (.searches rfl rfl fun holds => by cases holds)
  | drowsy =>
      rw [was] at stepped
      cases stepped
      exact .shifts was .sleeps
  | asleep =>
      rw [was] at stepped
      cases stepped
  | woken =>
      rw [was] at stepped
      dsimp only at stepped
      split at stepped
      · rename_i free
        cases stepped
        exact .shifts was (.searches rfl rfl fun _ => Or.inr free)
      · cases stepped
  | finalCheck =>
      rw [was] at stepped
      dsimp only at stepped
      split at stepped
      · rename_i both
        rw [Bool.and_eq_true, decide_eq_true_eq] at both
        cases stepped
        exact .shifts was (.exits rfl both.1 both.2)
      · cases stepped
        exact .shifts was (.searches rfl rfl fun holds => by cases holds)
  | exited =>
      rw [was] at stepped
      cases stepped

theorem change_of_push {j : Fin s} {wakes : Option (Fin k)}
    (stepped : pushStep state j wakes = some next) : Change pool state next := by
  unfold pushStep at stepped
  cases was : state.spawner j with
  | idle =>
      rw [was] at stepped
      cases stepped
  | measuring job place shortest target =>
      rw [was] at stepped
      dsimp only at stepped
      split at stepped
      · cases stepped
        refine @Change.measures _ _ _ _ _ _ _ job was rfl ?_
        split <;> rfl
      · cases stepped
        exact @Change.measures _ _ _ _ _ _ _ job was rfl rfl
  | chosen job target =>
      rw [was] at stepped
      dsimp only at stepped
      split at stepped
      · cases stepped
        exact .pushes was
      · cases stepped
  | pushed =>
      rw [was] at stepped
      cases stepped
      exact .adds was
  | counted =>
      rw [was] at stepped
      dsimp only at stepped
      split at stepped
      · rename_i free
        unfold notifyOne at stepped
        split at stepped
        · split at stepped
          · rename_i sleeps
            cases stepped
            exact .notifies was free sleeps
          · cases stepped
        · split at stepped
          · rename_i nobody
            cases stepped
            exact .leaves was free nobody
          · cases stepped
      · cases stepped

theorem change_of_step {label : Label k s} (stepped : pool.step state label = some next) :
    Change pool state next := by
  cases label with
  | work i => exact change_of_work stepped
  | wakeUp i =>
      simp only [Pool.step] at stepped
      split at stepped
      · rename_i was
        cases stepped
        exact .shifts was .wakes
      · cases stepped
  | spawn j =>
      simp only [Pool.step] at stepped
      split at stepped
      · rename_i may
        cases stepped
        exact .calls may.1 may.2.1 may.2.2
      · cases stepped
  | push j wakes => exact change_of_push stepped
  | drop =>
      simp only [Pool.step] at stepped
      split at stepped
      · rename_i may
        cases stepped
        exact .drops may.1 may.2.1 may.2.2
      · cases stepped

end Changes

/-! ## Every job is in one place -/

theorem Shift.jobs_nil {state : State k s} {before after : WorkerPhase}
    (shift : Shift state before after) : before.jobs = [] ∧ after.jobs = [] := by
  cases shift with
  | searches was is _ =>
      exact ⟨WorkerPhase.jobs_of_searching was, WorkerPhase.jobs_of_searching is⟩
  | drowses _ => exact ⟨rfl, rfl⟩
  | sleeps => exact ⟨rfl, rfl⟩
  | wakes => exact ⟨rfl, rfl⟩
  | exits was _ _ => exact ⟨WorkerPhase.jobs_of_searching was, rfl⟩

section Places

variable (state : State k s) (job : Nat)

theorem count_worker (i : Fin k) (phase : WorkerPhase) :
    ∑ other, (Function.update state.worker i phase other).jobs.count job +
        (state.worker i).jobs.count job =
      ∑ other, (state.worker other).jobs.count job + phase.jobs.count job :=
  Indexed.sum_update (fun phase => phase.jobs.count job) state.worker i phase

theorem count_spawner (j : Fin s) (phase : SpawnPhase) :
    ∑ other, (Function.update state.spawner j phase other).jobs.count job +
        (state.spawner j).jobs.count job =
      ∑ other, (state.spawner other).jobs.count job + phase.jobs.count job :=
  Indexed.sum_update (fun phase => phase.jobs.count job) state.spawner j phase

theorem count_queue (queue : Fin k) (held : List Nat) :
    ∑ other, (Function.update state.queues queue held other).count job +
        (state.queues queue).count job =
      ∑ other, (state.queues other).count job + held.count job :=
  Indexed.sum_update (fun held => held.count job) state.queues queue held

end Places

/-- Waking everybody changes nothing that is counted over the workers. -/
theorem sum_woken (weight : WorkerPhase -> Nat) (same : weight .woken = weight .asleep)
    (state : State k s) :
    ∑ i, weight (if state.worker i = .asleep then .woken else state.worker i) =
      ∑ i, weight (state.worker i) := by
  apply Finset.sum_congr rfl
  intro i _
  split
  · rename_i sleeps
    rw [sleeps, same]
  · rfl

/-- A step keeps every job in its one place, and a call brings in a new one. -/
theorem Change.places {pool : Pool} {state next : State k s} (change : Change pool state next)
    (job : Nat) :
    next.spawned = state.spawned ∧ next.places job = state.places job ∨
      next.spawned = state.spawned + 1 ∧
        next.places job = state.places job + if job = state.spawned then 1 else 0 := by
  cases change with
  | @shifts i before after was shift =>
      have workers := count_worker state job i after
      rw [was, shift.jobs_nil.1, shift.jobs_nil.2] at workers
      refine Or.inl ⟨rfl, ?_⟩
      unfold State.places State.enter
      dsimp only
      simp only [List.count_nil] at workers
      omega
  | @takes i queue before after taken was held =>
      have workers := count_worker state job i (.took taken)
      have queues := count_queue state job queue (before ++ after)
      rw [WorkerPhase.jobs_of_searching was] at workers
      rw [held] at queues
      simp only [WorkerPhase.jobs_took, List.count_nil, List.count_append, List.count_cons]
        at workers queues
      refine Or.inl ⟨rfl, ?_⟩
      unfold State.places State.take
      dsimp only
      omega
  | @counts i taken was =>
      have workers := count_worker state job i (.running taken)
      rw [was] at workers
      refine Or.inl ⟨rfl, ?_⟩
      unfold State.places State.enter
      dsimp only
      simp only [WorkerPhase.jobs_took, WorkerPhase.jobs_running] at workers
      omega
  | @finishes i ran was =>
      have workers := count_worker state job i .scanning
      rw [was] at workers
      refine Or.inl ⟨rfl, ?_⟩
      unfold State.places State.enter
      dsimp only
      simp only [WorkerPhase.jobs_running, WorkerPhase.jobs_scanning, List.count_nil,
        List.count_append] at workers ⊢
      omega
  | @calls j was isUp room =>
      have spawners := count_spawner state job j (.measuring state.spawned 0 usizeMax 0)
      rw [was] at spawners
      refine Or.inr ⟨rfl, ?_⟩
      unfold State.places
      dsimp only
      simp only [SpawnPhase.jobs_idle, SpawnPhase.jobs_measuring, List.count_nil, List.count_cons,
        beq_iff_eq] at spawners
      have flip : (state.spawned = job) = (job = state.spawned) := propext eq_comm
      simp only [flip] at spawners
      omega
  | @measures j before after measured was hasJob keepsJob =>
      have spawners := count_spawner state job j after
      rw [was, hasJob, keepsJob] at spawners
      refine Or.inl ⟨rfl, ?_⟩
      unfold State.places
      dsimp only
      omega
  | @pushes j queue pushed target was =>
      have spawners := count_spawner state job j .pushed
      have queues := count_queue state job queue (state.queues queue ++ [pushed])
      rw [was] at spawners
      simp only [SpawnPhase.jobs_chosen, SpawnPhase.jobs_pushed, List.count_nil, List.count_append]
        at spawners queues
      refine Or.inl ⟨rfl, ?_⟩
      unfold State.places
      dsimp only
      omega
  | @adds j was =>
      have spawners := count_spawner state job j .counted
      rw [was] at spawners
      simp only [SpawnPhase.jobs_pushed, SpawnPhase.jobs_counted, List.count_nil] at spawners
      refine Or.inl ⟨rfl, ?_⟩
      unfold State.places
      dsimp only
      omega
  | @notifies j i was free sleeps =>
      have spawners := count_spawner state job j .idle
      have workers := count_worker state job i .woken
      rw [was] at spawners
      rw [sleeps] at workers
      simp only [SpawnPhase.jobs_counted, SpawnPhase.jobs_idle, WorkerPhase.jobs_asleep,
        WorkerPhase.jobs_woken, List.count_nil] at spawners workers
      refine Or.inl ⟨rfl, ?_⟩
      unfold State.places State.enter
      dsimp only
      omega
  | @leaves j was free nobody =>
      have spawners := count_spawner state job j .idle
      rw [was] at spawners
      simp only [SpawnPhase.jobs_counted, SpawnPhase.jobs_idle, List.count_nil] at spawners
      refine Or.inl ⟨rfl, ?_⟩
      unfold State.places
      dsimp only
      omega
  | drops isUp quiet free =>
      have workers := sum_woken (fun phase => phase.jobs.count job) rfl state
      refine Or.inl ⟨rfl, ?_⟩
      unfold State.places
      dsimp only
      omega

/-- Every job that was spawned is in one place, and there are no others. -/
theorem places_of_reachable {pool : Pool} {state : State k s}
    (reachable : pool.machine.Reachable State.start state) (job : Nat) :
    state.places job = if job < state.spawned then 1 else 0 := by
  refine pool.machine.run_invariant
    (fun state => forall job, state.places job = if job < state.spawned then 1 else 0)
    (fun state label next once stepped job => ?_) (fun job => ?_) reachable job
  · have before := once job
    rcases (change_of_step stepped).places job with ⟨same, places⟩ | ⟨more, places⟩
    · rw [same, places, before]
    · rw [more, places, before]
      split <;> split <;> split <;> omega
  · simp [State.places, State.start, WorkerPhase.jobs, SpawnPhase.jobs]

/-! ## The counter -/

section Sums

variable (state : State k s)

theorem sum_worker (weight : WorkerPhase -> Nat) (i : Fin k) (phase : WorkerPhase) :
    ∑ other, weight (Function.update state.worker i phase other) + weight (state.worker i) =
      ∑ other, weight (state.worker other) + weight phase :=
  Indexed.sum_update weight state.worker i phase

theorem sum_spawner (weight : SpawnPhase -> Nat) (j : Fin s) (phase : SpawnPhase) :
    ∑ other, weight (Function.update state.spawner j phase other) + weight (state.spawner j) =
      ∑ other, weight (state.spawner other) + weight phase :=
  Indexed.sum_update weight state.spawner j phase

theorem sum_queue (queue : Fin k) (held : List Nat) :
    ∑ other, (Function.update state.queues queue held other).length +
        (state.queues queue).length =
      ∑ other, (state.queues other).length + held.length :=
  Indexed.sum_update List.length state.queues queue held

end Sums

theorem fetchAdd_cases {value : Nat} (word : value <= usizeMax) :
    value = usizeMax ∧ fetchAdd value = 0 ∨ value < usizeMax ∧ fetchAdd value = value + 1 := by
  unfold fetchAdd
  rcases Nat.lt_or_eq_of_le word with less | equal
  · exact Or.inr ⟨less, Nat.mod_eq_of_lt (by omega)⟩
  · exact Or.inl ⟨equal, by rw [equal, Nat.mod_self]⟩

theorem fetchSub_cases {value : Nat} (word : value <= usizeMax) :
    value = 0 ∧ fetchSub value = usizeMax ∨ 0 < value ∧ fetchSub value = value - 1 := by
  unfold fetchSub
  rcases Nat.eq_zero_or_pos value with none_ | some_
  · exact Or.inl ⟨none_, by rw [none_, Nat.zero_add, Nat.mod_eq_of_lt (Nat.lt_succ_self _)]⟩
  · refine Or.inr ⟨some_, ?_⟩
    have wraps : value + usizeMax = value - 1 + (usizeMax + 1) := by omega
    rw [wraps, Nat.add_mod_right, Nat.mod_eq_of_lt (by omega)]

/-- The counter lags behind the queues by the spawns that have not counted yet,
and is ahead of them by the jobs that were taken and are still counted.  It has
wrapped around while it should be negative. -/
structure Balanced (pool : Pool) (state : State k s) : Prop where
  balance : state.pending + state.ahead = state.queued + state.uncounted ∨
    state.pending + state.ahead = state.queued + state.uncounted + (usizeMax + 1)
  word : state.pending <= usizeMax
  room : state.size <= pool.memory

theorem Balanced.start (pool : Pool) : Balanced pool (State.start : State k s) where
  balance := by
    refine Or.inl ?_
    simp [State.start, State.ahead, State.queued, State.uncounted, SpawnPhase.ahead,
      WorkerPhase.uncounted]
  word := Nat.zero_le _
  room := by
    simp [State.start, State.size, State.queued, SpawnPhase.size, WorkerPhase.jobs]

theorem Shift.uncounted_zero {state : State k s} {before after : WorkerPhase}
    (shift : Shift state before after) : before.uncounted = 0 ∧ after.uncounted = 0 := by
  cases shift with
  | searches was is _ =>
      exact ⟨(WorkerPhase.weights_of_searching was).1, (WorkerPhase.weights_of_searching is).1⟩
  | drowses _ => exact ⟨rfl, rfl⟩
  | sleeps => exact ⟨rfl, rfl⟩
  | wakes => exact ⟨rfl, rfl⟩
  | exits was _ _ => exact ⟨(WorkerPhase.weights_of_searching was).1, rfl⟩

/-- What is counted is part of what there is memory for. -/
theorem Balanced.small {pool : Pool} {state : State k s} (balanced : Balanced pool state) :
    state.queued + state.uncounted <= usizeMax ∧ state.ahead <= usizeMax := by
  have room := balanced.room
  have small := pool.small
  have held : state.uncounted <= ∑ i, (state.worker i).jobs.length := by
    apply Finset.sum_le_sum
    intro i _
    cases state.worker i <;> simp [WorkerPhase.uncounted, WorkerPhase.jobs]
  have calls : state.ahead <= ∑ j, (state.spawner j).size := by
    apply Finset.sum_le_sum
    intro j _
    cases state.spawner j <;> simp [SpawnPhase.ahead, SpawnPhase.size]
  unfold State.size at room
  omega

theorem Balanced.step {pool : Pool} {state next : State k s} (balanced : Balanced pool state)
    (change : Change pool state next) : Balanced pool next := by
  have balance := balanced.balance
  have word := balanced.word
  have room := balanced.room
  have small := balanced.small
  simp only [State.ahead, State.queued, State.uncounted] at balance small
  simp only [State.size, State.queued] at room
  cases change with
  | @shifts i before after was shift =>
      have counted := sum_worker state WorkerPhase.uncounted i after
      have jobs := sum_worker state (fun phase => phase.jobs.length) i after
      rw [was, shift.uncounted_zero.1, shift.uncounted_zero.2] at counted
      rw [was, shift.jobs_nil.1, shift.jobs_nil.2] at jobs
      refine ⟨?_, word, ?_⟩
      · simp only [State.ahead, State.queued, State.uncounted, State.enter]
        omega
      · simp only [State.size, State.queued, State.enter]
        omega
  | @takes i queue before after taken was held =>
      have counted := sum_worker state WorkerPhase.uncounted i (.took taken)
      have jobs := sum_worker state (fun phase => phase.jobs.length) i (.took taken)
      have queues := sum_queue state queue (before ++ after)
      rw [(WorkerPhase.weights_of_searching was).1] at counted
      rw [WorkerPhase.jobs_of_searching was] at jobs
      rw [held, List.length_append, List.length_append, List.length_cons] at queues
      have one : (WorkerPhase.took taken).uncounted = 1 := rfl
      have size : (WorkerPhase.took taken).jobs.length = 1 := rfl
      rw [one] at counted
      rw [size, List.length_nil] at jobs
      refine ⟨?_, word, ?_⟩
      · simp only [State.ahead, State.queued, State.uncounted, State.take]
        omega
      · simp only [State.size, State.queued, State.take]
        omega
  | @counts i taken was =>
      have counted := sum_worker state WorkerPhase.uncounted i (.running taken)
      have jobs := sum_worker state (fun phase => phase.jobs.length) i (.running taken)
      rw [was] at counted jobs
      have one : (WorkerPhase.took taken).uncounted = 1 := rfl
      have none_ : (WorkerPhase.running taken).uncounted = 0 := rfl
      have same : (WorkerPhase.took taken).jobs.length = (WorkerPhase.running taken).jobs.length :=
        rfl
      rw [one, none_] at counted
      refine ⟨?_, ?_, ?_⟩
      · simp only [State.ahead, State.queued, State.uncounted, State.enter]
        rcases fetchSub_cases word with ⟨_, wraps⟩ | ⟨_, less⟩ <;> omega
      · exact Nat.le_of_lt_succ (Nat.mod_lt _ (Nat.succ_pos _))
      · simp only [State.size, State.queued, State.enter]
        omega
  | @finishes i ran was =>
      have counted := sum_worker state WorkerPhase.uncounted i .scanning
      have jobs := sum_worker state (fun phase => phase.jobs.length) i .scanning
      rw [was] at counted jobs
      have before : (WorkerPhase.running ran).uncounted = WorkerPhase.scanning.uncounted := rfl
      have gone : (WorkerPhase.scanning).jobs.length = 0 := rfl
      refine ⟨?_, word, ?_⟩
      · simp only [State.ahead, State.queued, State.uncounted, State.enter]
        omega
      · simp only [State.size, State.queued, State.enter]
        omega
  | @calls j was isUp free =>
      have aheads := sum_spawner state SpawnPhase.ahead j (.measuring state.spawned 0 usizeMax 0)
      have sizes := sum_spawner state SpawnPhase.size j (.measuring state.spawned 0 usizeMax 0)
      rw [was] at aheads sizes
      have none_ : SpawnPhase.idle.ahead =
          (SpawnPhase.measuring state.spawned 0 usizeMax 0).ahead := rfl
      have two : (SpawnPhase.measuring state.spawned 0 usizeMax 0).size =
          SpawnPhase.idle.size + 2 := rfl
      simp only [State.size, State.queued] at free
      refine ⟨?_, word, ?_⟩
      · simp only [State.ahead, State.queued, State.uncounted]
        omega
      · simp only [State.size, State.queued]
        omega
  | @measures j before after measured was hasJob keepsJob =>
      have aheads := sum_spawner state SpawnPhase.ahead j after
      have sizes := sum_spawner state SpawnPhase.size j after
      rcases SpawnPhase.weights_of_jobs hasJob with ⟨isAhead, _, isSize⟩
      rcases SpawnPhase.weights_of_jobs keepsJob with ⟨isAhead', _, isSize'⟩
      rw [was, isAhead, isAhead'] at aheads
      rw [was, isSize, isSize'] at sizes
      refine ⟨?_, word, ?_⟩
      · simp only [State.ahead, State.queued, State.uncounted]
        omega
      · simp only [State.size, State.queued]
        omega
  | @pushes j queue pushed target was =>
      have aheads := sum_spawner state SpawnPhase.ahead j .pushed
      have sizes := sum_spawner state SpawnPhase.size j .pushed
      have queues := sum_queue state queue (state.queues queue ++ [pushed])
      rw [was] at aheads sizes
      rw [List.length_append, List.length_singleton] at queues
      have none_ : (SpawnPhase.chosen pushed target).ahead = 0 := rfl
      have one : SpawnPhase.pushed.ahead = 1 := rfl
      have two : (SpawnPhase.chosen pushed target).size = SpawnPhase.pushed.size + 1 := rfl
      rw [none_, one] at aheads
      refine ⟨?_, word, ?_⟩
      · simp only [State.ahead, State.queued, State.uncounted]
        omega
      · simp only [State.size, State.queued]
        omega
  | @adds j was =>
      have aheads := sum_spawner state SpawnPhase.ahead j .counted
      have sizes := sum_spawner state SpawnPhase.size j .counted
      rw [was] at aheads sizes
      have one : SpawnPhase.pushed.ahead = 1 := rfl
      have none_ : SpawnPhase.counted.ahead = 0 := rfl
      have same : SpawnPhase.pushed.size = SpawnPhase.counted.size := rfl
      rw [one, none_] at aheads
      refine ⟨?_, ?_, ?_⟩
      · simp only [State.ahead, State.queued, State.uncounted]
        rcases fetchAdd_cases word with ⟨_, wraps⟩ | ⟨_, more⟩ <;> omega
      · exact Nat.le_of_lt_succ (Nat.mod_lt _ (Nat.succ_pos _))
      · simp only [State.size, State.queued]
        omega
  | @notifies j i was free sleeps =>
      have aheads := sum_spawner state SpawnPhase.ahead j .idle
      have sizes := sum_spawner state SpawnPhase.size j .idle
      have counted := sum_worker state WorkerPhase.uncounted i .woken
      have jobs := sum_worker state (fun phase => phase.jobs.length) i .woken
      rw [was] at aheads sizes
      rw [sleeps] at counted jobs
      have none_ : SpawnPhase.counted.ahead = SpawnPhase.idle.ahead := rfl
      have smaller : SpawnPhase.counted.size = SpawnPhase.idle.size + 1 := rfl
      have same : WorkerPhase.asleep.uncounted = WorkerPhase.woken.uncounted := rfl
      have gone : WorkerPhase.asleep.jobs.length = WorkerPhase.woken.jobs.length := rfl
      refine ⟨?_, word, ?_⟩
      · simp only [State.ahead, State.queued, State.uncounted, State.enter]
        omega
      · simp only [State.size, State.queued, State.enter]
        omega
  | @leaves j was free nobody =>
      have aheads := sum_spawner state SpawnPhase.ahead j .idle
      have sizes := sum_spawner state SpawnPhase.size j .idle
      rw [was] at aheads sizes
      have none_ : SpawnPhase.counted.ahead = SpawnPhase.idle.ahead := rfl
      have smaller : SpawnPhase.counted.size = SpawnPhase.idle.size + 1 := rfl
      refine ⟨?_, word, ?_⟩
      · simp only [State.ahead, State.queued, State.uncounted]
        omega
      · simp only [State.size, State.queued]
        omega
  | drops isUp quiet free =>
      have counted := sum_woken WorkerPhase.uncounted rfl state
      have jobs := sum_woken (fun phase => phase.jobs.length) rfl state
      refine ⟨?_, word, ?_⟩
      · simp only [State.ahead, State.queued, State.uncounted]
        omega
      · simp only [State.size, State.queued]
        omega

/-- A counter that is zero says that every queued job is one that a spawn is
still about to count. -/
theorem Balanced.zero {pool : Pool} {state : State k s} (balanced : Balanced pool state) :
    state.pending = 0 -> state.queued + state.uncounted = state.ahead := by
  intro none_
  have balance := balanced.balance
  have small := balanced.small
  omega

/-- With no spawn about to count, the counter is zero when there is no job left
to take or to count off. -/
theorem Balanced.pending_zero {pool : Pool} {state : State k s} (balanced : Balanced pool state)
    (quiet : state.ahead = 0) (none_ : state.queued + state.uncounted = 0) :
    state.pending = 0 := by
  have balance := balanced.balance
  have word := balanced.word
  omega

end ThreadPool
end Graph
end DyunGu
