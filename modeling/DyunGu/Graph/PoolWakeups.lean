import DyunGu.Graph.ThreadPool

namespace DyunGu
namespace Graph
namespace ThreadPool

variable {k s : Nat}

/-!
# No wake-up is lost

A worker goes to sleep under the signal lock, and only if the counter of pending
jobs is zero; a job that is queued then is that of a spawn which is still going
to wake somebody.  So while a worker sleeps there are as many workers looking
for a job, or spawns about to wake one, as there are jobs in the queues.
-/

theorem lockFree_iff {state : State k s} :
    state.lockFree = true <-> forall i, (state.worker i).holdsLock = false := by
  unfold State.lockFree
  rw [decide_eq_true_eq]

/-- One worker at most is in the section that the signal lock guards. -/
def Exclusive (state : State k s) : Prop :=
  forall i j, (state.worker i).holdsLock = true -> (state.worker j).holdsLock = true -> i = j

section Exclusion

variable {state : State k s} {i : Fin k} {phase : WorkerPhase}

/-- Entering the section needs the lock to be free or held. -/
theorem Exclusive.update (exclusive : Exclusive state)
    (lock : phase.holdsLock = true ->
      (state.worker i).holdsLock = true ∨ state.lockFree = true) :
    forall first second,
      (Function.update state.worker i phase first).holdsLock = true ->
      (Function.update state.worker i phase second).holdsLock = true -> first = second := by
  have others : forall other, other ≠ i ->
      (Function.update state.worker i phase other).holdsLock = true ->
      phase.holdsLock = true -> False := by
    intro other differs holds entered
    rw [Function.update_of_ne differs] at holds
    rcases lock entered with held | free
    · exact differs (exclusive other i holds held)
    · rw [lockFree_iff.mp free other] at holds
      cases holds
  intro first second holdsFirst holdsSecond
  by_cases isFirst : first = i
  · by_cases isSecond : second = i
    · rw [isFirst, isSecond]
    · rw [isFirst, Function.update_self] at holdsFirst
      exact (others second isSecond holdsSecond holdsFirst).elim
  · by_cases isSecond : second = i
    · rw [isSecond, Function.update_self] at holdsSecond
      exact (others first isFirst holdsFirst holdsSecond).elim
    · rw [Function.update_of_ne isFirst] at holdsFirst
      rw [Function.update_of_ne isSecond] at holdsSecond
      exact exclusive first second holdsFirst holdsSecond

theorem Shift.lock {before after : WorkerPhase} (shift : Shift state before after) :
    after.holdsLock = true -> before.holdsLock = true ∨ state.lockFree = true := by
  cases shift with
  | searches _ _ lock => exact lock
  | drowses _ => exact fun _ => Or.inl rfl
  | sleeps => exact fun holds => by cases holds
  | wakes => exact fun holds => by cases holds
  | exits _ _ _ => exact fun holds => by cases holds

end Exclusion

theorem Exclusive.step {pool : Pool} {state next : State k s} (exclusive : Exclusive state)
    (change : Change pool state next) : Exclusive next := by
  cases change with
  | shifts was shift =>
      subst was
      exact exclusive.update shift.lock
  | takes was held => exact exclusive.update fun holds => by cases holds
  | counts was => exact exclusive.update fun holds => by cases holds
  | finishes was => exact exclusive.update fun holds => by cases holds
  | calls was isUp room => exact exclusive
  | measures was hasJob keepsJob => exact exclusive
  | pushes was => exact exclusive
  | adds was => exact exclusive
  | notifies was free sleeps => exact exclusive.update fun holds => by cases holds
  | leaves was free nobody => exact exclusive
  | drops isUp quiet free =>
      intro first second holdsFirst
      dsimp only at holdsFirst
      split at holdsFirst
      · cases holdsFirst
      · rw [lockFree_iff.mp free first] at holdsFirst
        cases holdsFirst

/-- While a worker sleeps, every queued job has somebody of its own who looks
for it or is about to wake somebody. -/
def Covered (state : State k s) : Prop :=
  state.shutdown = false -> forall i, (state.worker i).sleeps = true ->
    state.queued <= state.searching + state.signals

/-- Only the new phase of a worker can make it sleep. -/
theorem sleeps_of_update {state : State k s} {i other : Fin k} {phase : WorkerPhase}
    (sleeps : (Function.update state.worker i phase other).sleeps = true)
    (awake : phase.sleeps = false) : (state.worker other).sleeps = true := by
  by_cases same : other = i
  · rw [same, Function.update_self, awake] at sleeps
    cases sleeps
  · rw [Function.update_of_ne same] at sleeps
    exact sleeps

theorem ahead_le_signals (state : State k s) : state.ahead <= state.signals := by
  apply Finset.sum_le_sum
  intro j _
  cases state.spawner j <;> simp [SpawnPhase.ahead, SpawnPhase.signals]

theorem Covered.step {pool : Pool} {state next : State k s} (covered : Covered state)
    (balanced : Balanced pool state) (change : Change pool state next) : Covered next := by
  intro isUp other sleeps
  cases change with
  | @shifts i before after was shift =>
      have seek := sum_worker state WorkerPhase.searching i after
      rw [was] at seek
      have up : state.shutdown = false := isUp
      simp only [State.queued, State.searching, State.signals, State.enter]
      cases shift with
      | searches wasSeeking isSeeking _ =>
          have now := covered up other
            (sleeps_of_update sleeps (WorkerPhase.weights_of_searching isSeeking).2)
          simp only [State.queued, State.searching, State.signals] at now
          omega
      | drowses none_ =>
          have counted := balanced.zero none_
          have ahead := ahead_le_signals state
          simp only [State.queued, State.signals] at counted ahead
          omega
      | sleeps =>
          have now := covered up i (by rw [was]; rfl)
          have same : WorkerPhase.drowsy.searching = WorkerPhase.asleep.searching := rfl
          simp only [State.queued, State.searching, State.signals] at now
          omega
      | wakes =>
          have now := covered up i (by rw [was]; rfl)
          have none_ : WorkerPhase.asleep.searching = 0 := rfl
          simp only [State.queued, State.searching, State.signals] at now
          omega
      | exits _ down _ =>
          rw [up] at down
          cases down
  | @takes i queue before after taken was held =>
      have seek := sum_worker state WorkerPhase.searching i (.took taken)
      have queues := sum_queue state queue (before ++ after)
      rw [was] at seek
      rw [held, List.length_append, List.length_append, List.length_cons] at queues
      have now := covered isUp other (sleeps_of_update sleeps rfl)
      simp only [State.queued, State.searching, State.signals] at now
      simp only [State.queued, State.searching, State.signals, State.take]
      omega
  | @counts i taken was =>
      have seek := sum_worker state WorkerPhase.searching i (.running taken)
      rw [was] at seek
      have same : (WorkerPhase.took taken).searching = (WorkerPhase.running taken).searching := rfl
      have now := covered isUp other (sleeps_of_update sleeps rfl)
      simp only [State.queued, State.searching, State.signals] at now
      simp only [State.queued, State.searching, State.signals, State.enter]
      omega
  | @finishes i ran was =>
      have seek := sum_worker state WorkerPhase.searching i .scanning
      rw [was] at seek
      have none_ : (WorkerPhase.running ran).searching = 0 := rfl
      have now := covered isUp other (sleeps_of_update sleeps rfl)
      simp only [State.queued, State.searching, State.signals] at now
      simp only [State.queued, State.searching, State.signals, State.enter]
      omega
  | @calls j was _ room =>
      have signal := sum_spawner state SpawnPhase.signals j
        (.measuring state.spawned 0 Core.usizeMax 0)
      rw [was] at signal
      have none_ : SpawnPhase.idle.signals = 0 := rfl
      have now := covered isUp other sleeps
      simp only [State.queued, State.searching, State.signals] at now
      simp only [State.queued, State.searching, State.signals]
      omega
  | @measures j before after measured was hasJob keepsJob =>
      have signal := sum_spawner state SpawnPhase.signals j after
      rw [was, (SpawnPhase.weights_of_jobs hasJob).2.1] at signal
      have now := covered isUp other sleeps
      simp only [State.queued, State.searching, State.signals] at now
      simp only [State.queued, State.searching, State.signals]
      omega
  | @pushes j queue pushed target was =>
      have signal := sum_spawner state SpawnPhase.signals j .pushed
      have queues := sum_queue state queue (state.queues queue ++ [pushed])
      rw [was] at signal
      rw [List.length_append, List.length_singleton] at queues
      have none_ : (SpawnPhase.chosen pushed target).signals = 0 := rfl
      have one : SpawnPhase.pushed.signals = 1 := rfl
      have now := covered isUp other sleeps
      simp only [State.queued, State.searching, State.signals] at now
      simp only [State.queued, State.searching, State.signals]
      omega
  | @adds j was =>
      have signal := sum_spawner state SpawnPhase.signals j .counted
      rw [was] at signal
      have same : SpawnPhase.pushed.signals = SpawnPhase.counted.signals := rfl
      have now := covered isUp other sleeps
      simp only [State.queued, State.searching, State.signals] at now
      simp only [State.queued, State.searching, State.signals]
      omega
  | @notifies j i was free wasAsleep =>
      have signal := sum_spawner state SpawnPhase.signals j .idle
      have seek := sum_worker state WorkerPhase.searching i .woken
      rw [was] at signal
      rw [wasAsleep] at seek
      have one : SpawnPhase.counted.signals = SpawnPhase.idle.signals + 1 := rfl
      have more : WorkerPhase.woken.searching = WorkerPhase.asleep.searching + 1 := rfl
      have now := covered isUp other (sleeps_of_update sleeps rfl)
      simp only [State.queued, State.searching, State.signals] at now
      simp only [State.queued, State.searching, State.signals, State.enter]
      omega
  | leaves was free nobody =>
      -- Who sleeps without being asleep holds the lock.
      have isDrowsy : (state.worker other).holdsLock = true := by
        cases phase : state.worker other with
        | drowsy => rfl
        | asleep => exact absurd phase (nobody other)
        | _ =>
            rw [phase] at sleeps
            cases sleeps
      rw [lockFree_iff.mp free other] at isDrowsy
      cases isDrowsy
  | drops _ quiet free => cases isUp

/-! ## What holds in every reachable state -/

/-- After the shutdown no call of `spawn` is in progress: dropping the pool
needs it unshared. -/
def Closed (state : State k s) : Prop :=
  state.shutdown = true -> forall j, state.spawner j = .idle

/-- Nobody leaves while there is a job to take. -/
def Emptied (state : State k s) : Prop :=
  forall i, state.worker i = .exited ->
    state.shutdown = true ∧ state.queued = 0 ∧ state.uncounted = 0

structure Sound (pool : Pool) (state : State k s) : Prop where
  balanced : Balanced pool state
  exclusive : Exclusive state
  covered : Covered state
  closed : Closed state
  emptied : Emptied state

theorem Closed.step {pool : Pool} {state next : State k s} (closed : Closed state)
    (change : Change pool state next) : Closed next := by
  intro down j
  have idle : state.shutdown = true -> forall {j : Fin s} {phase : SpawnPhase},
      state.spawner j = phase -> phase ≠ .idle -> False := by
    intro isDown j phase was busy
    exact busy (was.symm.trans (closed isDown j))
  cases change with
  | shifts was shift => exact closed down j
  | takes was held => exact closed down j
  | counts was => exact closed down j
  | finishes was => exact closed down j
  | calls was isUp room =>
      have isDown : state.shutdown = true := down
      rw [isUp] at isDown
      cases isDown
  | @measures caller before after job was hasJob keepsJob =>
      refine (idle down was fun isIdle => ?_).elim
      rw [isIdle] at hasJob
      cases hasJob
  | pushes was => exact (idle down was SpawnPhase.noConfusion).elim
  | adds was => exact (idle down was SpawnPhase.noConfusion).elim
  | notifies was free sleeps => exact (idle down was SpawnPhase.noConfusion).elim
  | leaves was free nobody => exact (idle down was SpawnPhase.noConfusion).elim
  | drops isUp quiet free => exact quiet j

theorem ahead_of_closed {state : State k s} (closed : Closed state)
    (down : state.shutdown = true) : state.ahead = 0 := by
  apply Finset.sum_eq_zero
  intro j _
  rw [closed down j]
  rfl

/-- Who exits after a step has exited before it, or exits in it. -/
theorem exited_of_update {state : State k s} {i other : Fin k} {phase : WorkerPhase}
    (exits : Function.update state.worker i phase other = .exited) (stays : phase ≠ .exited) :
    state.worker other = .exited := by
  by_cases same : other = i
  · rw [same, Function.update_self] at exits
    exact absurd exits stays
  · rw [Function.update_of_ne same] at exits
    exact exits

theorem uncounted_pos {state : State k s} {i : Fin k} {job : Nat}
    (was : state.worker i = .took job) : 0 < state.uncounted := by
  have one := Indexed.le_sum (fun i => (state.worker i).uncounted) i
  rw [was] at one
  exact one

theorem queued_pos {state : State k s} {queue : Fin k} {before after : List Nat} {job : Nat}
    (held : state.queues queue = before ++ job :: after) : 0 < state.queued := by
  have some_ := Indexed.le_sum (fun queue => (state.queues queue).length) queue
  rw [held, List.length_append, List.length_cons] at some_
  unfold State.queued
  omega

theorem Emptied.step {pool : Pool} {state next : State k s} (emptied : Emptied state)
    (closed : Closed state) (balanced : Balanced pool state)
    (change : Change pool state next) : Emptied next := by
  intro other exits
  cases change with
  | @shifts i before after was shift =>
      have counted := sum_worker state WorkerPhase.uncounted i after
      rw [was, shift.uncounted_zero.1, shift.uncounted_zero.2] at counted
      have same : (state.enter i after).uncounted = state.uncounted := counted
      rw [same]
      cases shift with
      | exits _ down none_ =>
          have empty := balanced.zero none_
          rw [ahead_of_closed closed down] at empty
          refine ⟨down, ?_, by omega⟩
          change state.queued = 0
          omega
      | searches _ is _ =>
          exact emptied other (exited_of_update exits fun isExit => by
            rw [isExit] at is
            cases is)
      | drowses _ => exact emptied other (exited_of_update exits WorkerPhase.noConfusion)
      | sleeps => exact emptied other (exited_of_update exits WorkerPhase.noConfusion)
      | wakes => exact emptied other (exited_of_update exits WorkerPhase.noConfusion)
  | takes was held =>
      have none_ := (emptied other (exited_of_update exits WorkerPhase.noConfusion)).2.1
      have some_ := queued_pos held
      omega
  | counts was =>
      have none_ := (emptied other (exited_of_update exits WorkerPhase.noConfusion)).2.2
      have some_ := uncounted_pos was
      omega
  | @finishes i ran was =>
      have counted := sum_worker state WorkerPhase.uncounted i .scanning
      rw [was] at counted
      have same : ({ state.enter i .scanning with
          executed := state.executed ++ [ran] } : State k s).uncounted = state.uncounted := counted
      rw [same]
      exact emptied other (exited_of_update exits WorkerPhase.noConfusion)
  | calls was isUp room => exact emptied other exits
  | measures was hasJob keepsJob => exact emptied other exits
  | @pushes j queue pushed target was =>
      have down := (emptied other exits).1
      have isIdle := closed down j
      rw [was] at isIdle
      cases isIdle
  | adds was => exact emptied other exits
  | @notifies j i was free sleeps =>
      have down := (emptied other (exited_of_update exits WorkerPhase.noConfusion)).1
      have isIdle := closed down j
      rw [was] at isIdle
      cases isIdle
  | leaves was free nobody => exact emptied other exits
  | drops isUp quiet free =>
      dsimp only at exits
      split at exits
      · cases exits
      · have down := (emptied other exits).1
        rw [isUp] at down
        cases down

theorem Sound.start (pool : Pool) : Sound pool (State.start : State k s) where
  balanced := Balanced.start pool
  exclusive := fun _ _ impossible => by cases impossible
  covered := fun _ _ impossible => by cases impossible
  closed := fun _ _ => rfl
  emptied := fun _ impossible => by cases impossible

theorem Sound.step {pool : Pool} {state next : State k s} (sound : Sound pool state)
    (change : Change pool state next) : Sound pool next where
  balanced := sound.balanced.step change
  exclusive := sound.exclusive.step change
  covered := sound.covered.step sound.balanced change
  closed := sound.closed.step change
  emptied := sound.emptied.step sound.closed sound.balanced change

theorem Sound.of_reachable {pool : Pool} {state : State k s}
    (reachable : pool.machine.Reachable State.start state) : Sound pool state :=
  pool.machine.run_invariant (Sound pool)
    (fun _ _ _ sound stepped => sound.step (change_of_step stepped)) (Sound.start pool) reachable

/-- No wake-up is lost before the pool is dropped: while a worker sleeps and no
call of `spawn` is about to wake somebody, there are as many workers looking for
a job as there are jobs in the queues.  So if the others are all busy, there is
no job in any queue. -/
theorem no_lost_wakeup {pool : Pool} {state : State k s}
    (reachable : pool.machine.Reachable State.start state) (isUp : state.shutdown = false)
    (settled : forall j, (state.spawner j).signals = 0) {i : Fin k}
    (sleeps : state.worker i = .asleep) :
    state.queued <= state.searching ∧
      ((forall other, (state.worker other).searching = 0) ->
        forall queue, state.queues queue = []) := by
  have covered := (Sound.of_reachable reachable).covered isUp i (by rw [sleeps]; rfl)
  have none_ : state.signals = 0 := Finset.sum_eq_zero fun j _ => settled j
  refine ⟨by omega, fun busy queue => ?_⟩
  have nobody : state.searching = 0 := Finset.sum_eq_zero fun other _ => busy other
  have held := Indexed.le_sum (fun queue => (state.queues queue).length) queue
  have empty : (state.queues queue).length = 0 := by
    unfold State.queued at covered
    omega
  exact List.length_eq_zero_iff.mp empty

/-- A pool with room for three jobs. -/
def smallPool : Pool := ⟨6, by decide⟩

def firstWorker : Fin 2 := ⟨0, Nat.two_pos⟩

def secondWorker : Fin 2 := ⟨1, Nat.one_lt_two⟩

/-- From looking at its own queue to the wait, when all queues are empty. -/
def fallsAsleep (i : Fin 2) : List (Label 2 1) := List.replicate 8 (.work i)

def onlySpawner : Fin 1 := ⟨0, Nat.one_pos⟩

/-- A whole call of `spawn`. -/
def spawnOne (wakes : Option (Fin 2)) : List (Label 2 1) :=
  .spawn onlySpawner :: List.replicate 5 (.push onlySpawner none) ++ [.push onlySpawner wakes]

/-- Both workers sleep when a job comes, and one of them is woken. -/
def wokenForJob : List (Label 2 1) :=
  fallsAsleep firstWorker ++ fallsAsleep secondWorker ++ spawnOne (some firstWorker)

theorem woken_for_job :
    (smallPool.machine.after State.start wokenForJob).queued = 1 ∧
      (smallPool.machine.after State.start wokenForJob).queued <=
        (smallPool.machine.after State.start wokenForJob).searching := by
  have reachable : smallPool.machine.Reachable State.start
      (smallPool.machine.after State.start wokenForJob) :=
    ⟨wokenForJob, smallPool.machine.run_after (by decide)⟩
  refine ⟨by decide, (no_lost_wakeup reachable (by decide) (by decide) (i := secondWorker) ?_).1⟩
  decide

/-- Every job is run once: it is never in two places, and when all workers have
left, the jobs that were run are those that were spawned. -/
theorem jobs_run_once {pool : Pool} {state : State k s} (some_ : 0 < k)
    (reachable : pool.machine.Reachable State.start state) :
    (forall job, state.places job = if job < state.spawned then 1 else 0) ∧
      ((forall i, state.worker i = .exited) ->
        state.executed.Perm (List.range state.spawned)) := by
  have once := places_of_reachable reachable
  refine ⟨once, fun exits => ?_⟩
  have sound := Sound.of_reachable reachable
  rcases sound.emptied ⟨0, some_⟩ (exits _) with ⟨down, empty, _⟩
  rw [List.perm_iff_count]
  intro job
  have place := once job
  have queues : ∑ queue, (state.queues queue).count job = 0 := by
    apply Finset.sum_eq_zero
    intro queue _
    have held := Indexed.le_sum (fun queue => (state.queues queue).length) queue
    unfold State.queued at empty
    have nothing : (state.queues queue).length = 0 := by omega
    rw [List.length_eq_zero_iff.mp nothing]
    rfl
  have workers : ∑ i, (state.worker i).jobs.count job = 0 := by
    apply Finset.sum_eq_zero
    intro i _
    rw [exits i]
    rfl
  have spawners : ∑ j, (state.spawner j).jobs.count job = 0 := by
    apply Finset.sum_eq_zero
    intro j _
    rw [sound.closed down j]
    rfl
  simp only [State.places, queues, workers, spawners, Nat.zero_add] at place
  rw [place]
  split
  · rename_i isJob
    exact (List.count_eq_one_of_mem List.nodup_range (List.mem_range.mpr isJob)).symm
  · rename_i noJob
    exact (List.count_eq_zero_of_not_mem fun member => noJob (List.mem_range.mp member)).symm

/-- One job from its spawn until both workers have left. -/
def oneJob : List (Label 2 1) :=
  spawnOne none ++ List.replicate 3 (.work firstWorker) ++ .drop ::
    List.replicate 6 (.work firstWorker) ++ List.replicate 6 (.work secondWorker)

theorem one_job_run :
    (smallPool.machine.after State.start oneJob).executed.Perm (List.range 1) := by
  have reachable : smallPool.machine.Reachable State.start
      (smallPool.machine.after State.start oneJob) :=
    ⟨oneJob, smallPool.machine.run_after (by decide)⟩
  exact (jobs_run_once Nat.two_pos reachable).2 (by decide)

end ThreadPool
end Graph
end DyunGu
