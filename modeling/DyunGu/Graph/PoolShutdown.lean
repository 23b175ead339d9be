import DyunGu.Graph.PoolWakeups

namespace DyunGu
namespace Graph
namespace ThreadPool

variable {k s : Nat}

/-!
# When dropping the pool returns

Dropping the pool joins all workers.  After the shutdown flag is set a worker
leaves when it finds the counter of pending jobs at zero.  It reads the counter
twice: a worker that first sees a job pending and then none goes to sleep, after
the last wake-up there was.  From then on the drop can only be saved by a wait
that returns on its own.

A state is lost if a worker sleeps or is bound to.  From every other state the
workers can still finish their jobs and leave.
-/

/-- A worker sleeps, or cannot avoid it any more. -/
def Lost (state : State k s) : Prop :=
  Exists fun i => state.worker i = .asleep ∨ state.worker i = .drowsy ∨
    (state.worker i = .rechecking ∧ state.pending = 0)

/-- The steps that do not wake a worker for no reason. -/
def Notified (_ : State k s) (label : Label k s) : Prop :=
  forall i, label ≠ .wakeUp i

/-- All workers have left. -/
def Finished (state : State k s) : Prop :=
  forall i, state.worker i = .exited

section Frames

variable {pool : Pool} {state next : State k s} {i : Fin k}

/-- A worker changes its own phase, and the counter only when it counts off a
job it took. -/
theorem workerStep_frame (stepped : workerStep state i = some next) :
    (forall other, other ≠ i -> next.worker other = state.worker other) ∧
      next.shutdown = state.shutdown ∧
      (next.pending = state.pending ∨ Exists fun job => state.worker i = .took job) := by
  have enters : forall phase, (forall other, other ≠ i ->
        (state.enter i phase).worker other = state.worker other) ∧
      (state.enter i phase).shutdown = state.shutdown ∧
      ((state.enter i phase).pending = state.pending ∨
        Exists fun job => state.worker i = .took job) :=
    fun phase => ⟨fun other differs => Function.update_of_ne differs _ _, rfl, Or.inl rfl⟩
  unfold workerStep at stepped
  cases was : state.worker i with
  | took job =>
      rw [was] at stepped
      cases stepped
      exact ⟨fun other differs => Function.update_of_ne differs _ _, rfl, Or.inr ⟨job, rfl⟩⟩
  | running job =>
      rw [was] at stepped
      cases stepped
      exact ⟨fun other differs => Function.update_of_ne differs _ _, rfl, Or.inl rfl⟩
  | scanning =>
      rw [was] at stepped
      dsimp only at stepped
      split at stepped
      · cases stepped
        exact ⟨fun other differs => Function.update_of_ne differs _ _, rfl, Or.inl rfl⟩
      · cases stepped
        rw [← was]
        exact enters _
  | stealing place =>
      rw [was] at stepped
      dsimp only at stepped
      rw [← was]
      split at stepped
      · split at stepped
        · cases stepped
          exact enters _
        · split at stepped
          · cases stepped
            exact ⟨fun other differs => Function.update_of_ne differs _ _, rfl, Or.inl rfl⟩
          · cases stepped
            exact enters _
      · cases stepped
        exact enters _
  | drowsy =>
      rw [was] at stepped
      cases stepped
      rw [← was]
      exact enters _
  | asleep =>
      rw [was] at stepped
      cases stepped
  | exited =>
      rw [was] at stepped
      cases stepped
  | _ =>
      rw [was] at stepped
      dsimp only at stepped
      rw [← was]
      split at stepped <;> first | cases stepped; exact enters _ | cases stepped

end Frames

/-- Without a wake-up nothing saves a lost state. -/
theorem Lost.step {pool : Pool} {state next : State k s} (lost : Lost state)
    (sound : Sound pool state) (down : state.shutdown = true) {label : Label k s}
    (notified : Notified state label) (stepped : pool.step state label = some next) :
    Lost next ∧ next.shutdown = true := by
  rcases lost with ⟨i, isLost⟩
  cases label with
  | work other =>
      have stepped : workerStep state other = some next := stepped
      rcases workerStep_frame stepped with ⟨others, sameDown, pending⟩
      refine ⟨⟨i, ?_⟩, sameDown.trans down⟩
      by_cases same : i = other
      · subst same
        unfold workerStep at stepped
        rcases isLost with sleeps | drowsy | ⟨rechecks, none_⟩
        · rw [sleeps] at stepped
          cases stepped
        · rw [drowsy] at stepped
          cases stepped
          exact Or.inl (Function.update_self _ _ _)
        · rw [rechecks] at stepped
          dsimp only at stepped
          rw [if_pos none_] at stepped
          cases stepped
          exact Or.inr (Or.inl (Function.update_self _ _ _))
      · rw [others i same]
        rcases isLost with sleeps | drowsy | ⟨rechecks, none_⟩
        · exact Or.inl sleeps
        · exact Or.inr (Or.inl drowsy)
        · refine Or.inr (Or.inr ⟨rechecks, ?_⟩)
          rcases pending with kept | ⟨job, took⟩
          · rw [kept, none_]
          · have counted := sound.balanced.zero none_
            rw [ahead_of_closed sound.closed down] at counted
            have some_ := uncounted_pos took
            omega
  | wakeUp other => exact absurd rfl (notified other)
  | spawn j =>
      simp only [Pool.step] at stepped
      split at stepped
      · rename_i may
        rw [down] at may
        cases may.2.1
      · cases stepped
  | push j wakes =>
      simp only [Pool.step, pushStep, sound.closed down j] at stepped
      cases stepped
  | drop =>
      simp only [Pool.step] at stepped
      split at stepped
      · rename_i may
        rw [down] at may
        cases may.1
      · cases stepped

theorem not_finished_of_lost {state : State k s} (lost : Lost state) : ¬ Finished state := by
  intro finished
  rcases lost with ⟨i, sleeps | drowsy | ⟨rechecks, _⟩⟩
  · rw [finished i] at sleeps
    cases sleeps
  · rw [finished i] at drowsy
    cases drowsy
  · rw [finished i] at rechecks
    cases rechecks


/-! ## Who is not lost can finish -/

/-- The workers can still get to the end without a wake-up for no reason. -/
def CanFinish (pool : Pool) (state : State k s) : Prop :=
  Exists fun final => pool.machine.Leads Notified state final ∧ Finished final

/-- The pool is being dropped, and no worker is lost. -/
structure Leaving (pool : Pool) (state : State k s) : Prop where
  sound : Sound pool state
  down : state.shutdown = true
  found : ¬ Lost state

/-- What is left to do with the jobs: to take them, to count them off and to run
them. -/
def WorkerPhase.owes : WorkerPhase -> Nat
  | .took _ => 2
  | .running _ => 1
  | _ => 0

def State.load (state : State k s) : Nat := 3 * state.queued + ∑ i, (state.worker i).owes

section Progress

variable {pool : Pool} {state next : State k s} {i : Fin k} {phase : WorkerPhase}

theorem CanFinish.of_work (stepped : workerStep state i = some next)
    (later : CanFinish pool next) : CanFinish pool state := by
  rcases later with ⟨final, leads, finished⟩
  have admitted : Notified state (.work i) := fun _ isWake => by cases isWake
  exact ⟨final, Machine.Leads.head pool.machine admitted stepped leads, finished⟩

theorem lost_of_enter (kept : phase ≠ .asleep ∧ phase ≠ .drowsy)
    (recheck : phase = .rechecking -> state.pending ≠ 0) (lost : Lost (state.enter i phase)) :
    Lost state := by
  rcases lost with ⟨other, isLost⟩
  by_cases same : other = i
  · subst same
    simp only [State.enter, Function.update_self] at isLost
    rcases isLost with sleeps | drowsy | ⟨rechecks, none_⟩
    · exact absurd sleeps kept.1
    · exact absurd drowsy kept.2
    · exact absurd none_ (recheck rechecks)
  · simp only [State.enter, Function.update_of_ne same] at isLost
    exact ⟨other, isLost⟩

/-- A worker that goes on to another phase, if that is not to sleep. -/
theorem Leaving.enter (leaving : Leaving pool state)
    (stepped : workerStep state i = some (state.enter i phase))
    (kept : phase ≠ .asleep ∧ phase ≠ .drowsy)
    (recheck : phase = .rechecking -> state.pending ≠ 0) :
    Leaving pool (state.enter i phase) where
  sound := leaving.sound.step (change_of_work stepped)
  down := leaving.down
  found := fun lost => leaving.found (lost_of_enter kept recheck lost)

/-- While nobody has the lock, a step that takes it for nobody loses nobody. -/
theorem Leaving.of_free (leaving : Leaving pool state) (free : state.lockFree = true)
    (stepped : workerStep state i = some next) (same : next.shutdown = state.shutdown)
    (phases : next.worker = Function.update state.worker i phase)
    (kept : phase ≠ .asleep ∧ phase.holdsLock = false) : Leaving pool next where
  sound := leaving.sound.step (change_of_work stepped)
  down := same.trans leaving.down
  found := by
    intro lost
    rcases lost with ⟨other, isLost⟩
    rw [phases] at isLost
    by_cases isWorker : other = i
    · rw [isWorker, Function.update_self] at isLost
      rcases isLost with sleeps | drowsy | ⟨rechecks, _⟩
      · exact kept.1 sleeps
      · rw [drowsy] at kept
        cases kept.2
      · rw [rechecks] at kept
        cases kept.2
    · rw [Function.update_of_ne isWorker] at isLost
      have noLock := lockFree_iff.mp free other
      rcases isLost with sleeps | drowsy | ⟨rechecks, _⟩
      · exact leaving.found ⟨other, Or.inl sleeps⟩
      · rw [drowsy] at noLock
        cases noLock
      · rw [rechecks] at noLock
        cases noLock

@[simp] theorem enter_worker : (state.enter i phase).worker i = phase :=
  Function.update_self _ _ _

@[simp] theorem enter_enter (later : WorkerPhase) :
    (state.enter i phase).enter i later = state.enter i later := by
  simp [State.enter]

/-- The only worker that had the lock gives it up. -/
theorem lockFree_of_release (exclusive : Exclusive state)
    (held : (state.worker i).holdsLock = true) (released : phase.holdsLock = false) :
    (state.enter i phase).lockFree = true := by
  rw [lockFree_iff]
  intro other
  by_cases same : other = i
  · rw [same, enter_worker, released]
  · simp only [State.enter, Function.update_of_ne same]
    cases holds : (state.worker other).holdsLock with
    | false => rfl
    | true => exact absurd (exclusive other i holds held) same

theorem lockFree_enter (free : state.lockFree = true) (without : phase.holdsLock = false) :
    (state.enter i phase).lockFree = true := by
  rw [lockFree_iff] at free ⊢
  intro other
  by_cases same : other = i
  · rw [same, enter_worker, without]
  · simp only [State.enter, Function.update_of_ne same]
    exact free other

theorem load_enter (was : (state.worker i).owes = 0) (is : phase.owes = 0) :
    (state.enter i phase).load = state.load := by
  have owed := sum_worker state WorkerPhase.owes i phase
  rw [was, is] at owed
  simp only [State.load, State.queued, State.enter]
  omega

theorem load_take {queue : Fin k} {before after : List Nat} {job : Nat}
    (was : (state.worker i).owes = 0) (held : state.queues queue = before ++ job :: after) :
    (state.take i queue (before ++ after) job).load < state.load := by
  have owed := sum_worker state WorkerPhase.owes i (.took job)
  have queues := sum_queue state queue (before ++ after)
  rw [was] at owed
  rw [held, List.length_append, List.length_append, List.length_cons] at queues
  have two : (WorkerPhase.took job).owes = 2 := rfl
  simp only [State.load, State.queued, State.take]
  omega

/-- The counter is zero if and only if no job waits to be taken or counted off,
once the pool is being dropped. -/
theorem Leaving.pending_zero_iff (leaving : Leaving pool state) :
    state.pending = 0 <-> state.queued = 0 ∧ state.uncounted = 0 := by
  have quiet := ahead_of_closed leaving.sound.closed leaving.down
  constructor
  · intro none_
    have counted := leaving.sound.balanced.zero none_
    omega
  · intro nothing
    exact leaving.sound.balanced.pending_zero quiet (by omega)

/-- A worker that has the lock tests the counter.  It leaves when there is nothing
left to take or to count off, and else it goes back to look for a job. -/
theorem Leaving.test (leaving : Leaving pool state)
    (holds : (state.worker i).holdsLock = true)
    (exits : state.pending = 0 -> Leaving pool (state.enter i .exited) ->
      CanFinish pool (state.enter i .exited))
    (again : state.pending ≠ 0 -> Leaving pool (state.enter i .scanning) ->
      CanFinish pool (state.enter i .scanning)) : CanFinish pool state := by
  have awake : WorkerPhase.exited ≠ .asleep ∧ WorkerPhase.exited ≠ .drowsy :=
    ⟨WorkerPhase.noConfusion, WorkerPhase.noConfusion⟩
  have awake' : WorkerPhase.scanning ≠ .asleep ∧ WorkerPhase.scanning ≠ .drowsy :=
    ⟨WorkerPhase.noConfusion, WorkerPhase.noConfusion⟩
  cases was : state.worker i with
  | checking =>
      by_cases none_ : state.pending = 0
      · have stepped : workerStep state i = some (state.enter i .exited) := by
          simp [workerStep, was, leaving.down, none_]
        exact .of_work stepped
          (exits none_ (leaving.enter stepped awake WorkerPhase.noConfusion))
      · have first : workerStep state i = some (state.enter i .rechecking) := by
          simp [workerStep, was, none_]
        have entered := leaving.enter first ⟨WorkerPhase.noConfusion, WorkerPhase.noConfusion⟩
          (fun _ => none_)
        have still : (state.enter i .rechecking).pending ≠ 0 := none_
        have second : workerStep (state.enter i .rechecking) i =
            some ((state.enter i .rechecking).enter i .scanning) := by
          simp [workerStep, still]
        have left := entered.enter second awake' WorkerPhase.noConfusion
        rw [enter_enter] at second left
        exact .of_work first (.of_work second (again none_ left))
  | rechecking =>
      have some_ : state.pending ≠ 0 := fun none_ =>
        leaving.found ⟨i, Or.inr (Or.inr ⟨was, none_⟩)⟩
      have stepped : workerStep state i = some (state.enter i .scanning) := by
        simp [workerStep, was, some_]
      exact .of_work stepped (again some_ (leaving.enter stepped awake' WorkerPhase.noConfusion))
  | drowsy => exact absurd ⟨i, Or.inr (Or.inl was)⟩ leaving.found
  | finalCheck =>
      by_cases none_ : state.pending = 0
      · have stepped : workerStep state i = some (state.enter i .exited) := by
          simp [workerStep, was, leaving.down, none_]
        exact .of_work stepped
          (exits none_ (leaving.enter stepped awake WorkerPhase.noConfusion))
      · have stepped : workerStep state i = some (state.enter i .scanning) := by
          simp [workerStep, was, none_]
        exact .of_work stepped (again none_ (leaving.enter stepped awake' WorkerPhase.noConfusion))
  | _ =>
      rw [was] at holds
      cases holds

theorem WorkerPhase.owes_of_holdsLock (holds : phase.holdsLock = true) : phase.owes = 0 := by
  cases phase <;> first | rfl | cases holds

/-- Enough that the drop returns once there is nobody in the section of the
lock. -/
theorem Leaving.release (leaving : Leaving pool state)
    (later : forall {next : State k s}, Leaving pool next -> next.lockFree = true ->
      next.load = state.load -> CanFinish pool next) : CanFinish pool state := by
  by_cases free : state.lockFree = true
  · exact later leaving free rfl
  · rw [lockFree_iff, not_forall] at free
    rcases free with ⟨i, holds⟩
    have holds : (state.worker i).holdsLock = true := by simpa using holds
    have owed := WorkerPhase.owes_of_holdsLock holds
    refine leaving.test holds (fun _ left => ?_) (fun _ left => ?_)
    · exact later left (lockFree_of_release leaving.sound.exclusive holds rfl)
        (load_enter owed rfl)
    · exact later left (lockFree_of_release leaving.sound.exclusive holds rfl)
        (load_enter owed rfl)

/-- From here a worker looks at all queues but its own.  It takes a job, or it
goes on to the lock after it found them all empty. -/
theorem Leaving.steal (leaving : Leaving pool state) (free : state.lockFree = true)
    {place : Nat} (was : state.worker i = .stealing place)
    (fewer : forall {next : State k s}, Leaving pool next -> next.load < state.load ->
      CanFinish pool next)
    (locks : (forall queue : Fin k, place <= queue.val -> queue ≠ i -> state.queues queue = []) ->
      Leaving pool (state.enter i .locking) -> CanFinish pool (state.enter i .locking)) :
    CanFinish pool state := by
  induction left : k - place generalizing state place with
  | zero =>
      have past : ¬ place < k := by omega
      have stepped : workerStep state i = some (state.enter i .locking) := by
        simp [workerStep, was, past]
      refine .of_work stepped (locks (fun queue isAfter => ?_) (leaving.enter stepped
        ⟨WorkerPhase.noConfusion, WorkerPhase.noConfusion⟩ WorkerPhase.noConfusion))
      exact absurd queue.isLt (by omega)
  | succ left ih =>
      have isQueue : place < k := by omega
      -- Going on to the next queue, when this one is empty or the worker's own.
      have goesOn : ((⟨place, isQueue⟩ : Fin k) ≠ i -> state.queues ⟨place, isQueue⟩ = []) ->
          workerStep state i = some (state.enter i (.stealing (place + 1))) ->
          CanFinish pool state := by
        intro empty stepped
        have entered := leaving.enter stepped
          ⟨WorkerPhase.noConfusion, WorkerPhase.noConfusion⟩ WorkerPhase.noConfusion
        have sameLoad : (state.enter i (.stealing (place + 1))).load = state.load :=
          load_enter (by rw [was]; rfl) rfl
        refine .of_work stepped (ih entered (lockFree_enter free rfl) enter_worker ?_ ?_ (by omega))
        · intro next leavingNext less
          exact fewer leavingNext (by omega)
        · intro rest enteredLock
          rw [enter_enter] at enteredLock ⊢
          refine locks (fun queue isAfter differs => ?_) enteredLock
          rcases Nat.lt_or_eq_of_le isAfter with later | same
          · exact rest queue later differs
          · have isThis : queue = ⟨place, isQueue⟩ := Fin.ext same.symm
            rw [isThis] at differs ⊢
            exact empty differs
      by_cases own : (⟨place, isQueue⟩ : Fin k) = i
      · exact goesOn (fun differs => absurd own differs)
          (by simp only [workerStep, was, dif_pos isQueue, if_pos own])
      · cases last : (state.queues ⟨place, isQueue⟩).getLast? with
        | none =>
            exact goesOn (fun _ => List.getLast?_eq_none_iff.mp last)
              (by simp only [workerStep, was, dif_pos isQueue, if_neg own, last])
        | some job =>
            have held := List.dropLast_append_getLast? job last
            have stepped : workerStep state i = some (state.take i ⟨place, isQueue⟩
                (state.queues ⟨place, isQueue⟩).dropLast job) := by
              simp only [workerStep, was, dif_pos isQueue, if_neg own, last]
            have less : (state.take i ⟨place, isQueue⟩
                ((state.queues ⟨place, isQueue⟩).dropLast ++ []) job).load < state.load :=
              load_take (by rw [was]; rfl) held.symm
            rw [List.append_nil] at less
            exact .of_work stepped (fewer (leaving.of_free free stepped rfl rfl
              ⟨WorkerPhase.noConfusion, rfl⟩) less)

/-- A worker that begins to look finds a job if there is one. -/
theorem Leaving.scan (leaving : Leaving pool state) (free : state.lockFree = true)
    (was : state.worker i = .scanning)
    (fewer : forall {next : State k s}, Leaving pool next -> next.load < state.load ->
      CanFinish pool next)
    (locks : state.queued = 0 -> Leaving pool (state.enter i .locking) ->
      CanFinish pool (state.enter i .locking)) : CanFinish pool state := by
  cases held : state.queues i with
  | cons job rest =>
      have stepped : workerStep state i = some (state.take i i rest job) := by
        simp only [workerStep, was, held]
      have less : (state.take i i ([] ++ rest) job).load < state.load :=
        load_take (by rw [was]; rfl) held
      exact .of_work stepped (fewer (leaving.of_free free stepped rfl rfl
        ⟨WorkerPhase.noConfusion, rfl⟩) less)
  | nil =>
      have stepped : workerStep state i = some (state.enter i (.stealing 0)) := by
        simp only [workerStep, was, held]
      have entered := leaving.enter stepped
        ⟨WorkerPhase.noConfusion, WorkerPhase.noConfusion⟩ WorkerPhase.noConfusion
      have sameLoad : (state.enter i (.stealing 0)).load = state.load :=
        load_enter (by rw [was]; rfl) rfl
      refine .of_work stepped (entered.steal (lockFree_enter free rfl) enter_worker ?_ ?_)
      · intro next leavingNext less
        exact fewer leavingNext (by omega)
      · intro others enteredLock
        rw [enter_enter] at enteredLock ⊢
        refine locks (Finset.sum_eq_zero fun queue _ => ?_) enteredLock
        by_cases own : queue = i
        · rw [own, held]
          rfl
        · have empty : state.queues queue = [] := others queue (Nat.zero_le _) own
          rw [empty]
          rfl

/-- A worker that gets the lock in order to test the counter. -/
theorem Leaving.lock (leaving : Leaving pool state) (free : state.lockFree = true)
    (waits : state.worker i = .locking ∨ state.worker i = .woken)
    (exits : state.pending = 0 -> Leaving pool (state.enter i .exited) ->
      CanFinish pool (state.enter i .exited))
    (again : state.pending ≠ 0 -> Leaving pool (state.enter i .scanning) ->
      CanFinish pool (state.enter i .scanning)) : CanFinish pool state := by
  have tests : forall {phase : WorkerPhase}, phase.holdsLock = true ->
      phase ≠ .asleep ∧ phase ≠ .drowsy -> phase ≠ .rechecking ->
      workerStep state i = some (state.enter i phase) -> CanFinish pool state := by
    intro phase holds awake before stepped
    have entered := leaving.enter stepped awake fun rechecks => absurd rechecks before
    refine .of_work stepped (entered.test (by rw [enter_worker, holds]) ?_ ?_)
    · rw [enter_enter]
      exact exits
    · rw [enter_enter]
      exact again
  rcases waits with was | was
  · exact @tests .checking rfl ⟨WorkerPhase.noConfusion, WorkerPhase.noConfusion⟩
      WorkerPhase.noConfusion (by simp only [workerStep, was, if_pos free])
  · exact @tests .finalCheck rfl ⟨WorkerPhase.noConfusion, WorkerPhase.noConfusion⟩
      WorkerPhase.noConfusion (by simp only [workerStep, was, if_pos free])

/-- A worker without a job either takes one or gets to test the counter. -/
theorem Leaving.search (leaving : Leaving pool state) (free : state.lockFree = true)
    (stays : state.worker i ≠ .exited) (idle : (state.worker i).owes = 0)
    (fewer : forall {next : State k s}, Leaving pool next -> next.load < state.load ->
      CanFinish pool next)
    (exits : state.pending = 0 -> Leaving pool (state.enter i .exited) ->
      CanFinish pool (state.enter i .exited))
    (again : state.pending ≠ 0 -> Leaving pool (state.enter i .scanning) ->
      CanFinish pool (state.enter i .scanning)) : CanFinish pool state := by
  have noLock := lockFree_iff.mp free i
  have locks : Leaving pool (state.enter i .locking) ->
      CanFinish pool (state.enter i .locking) := by
    intro entered
    refine entered.lock (lockFree_enter free rfl) (Or.inl enter_worker) ?_ ?_
    · rw [enter_enter]
      exact exits
    · rw [enter_enter]
      exact again
  cases was : state.worker i with
  | scanning => exact leaving.scan free was fewer fun _ entered => locks entered
  | stealing place => exact leaving.steal free was fewer fun _ entered => locks entered
  | locking => exact leaving.lock free (Or.inl was) exits again
  | woken => exact leaving.lock free (Or.inr was) exits again
  | took job =>
      rw [was] at idle
      cases idle
  | running job =>
      rw [was] at idle
      cases idle
  | asleep => exact absurd ⟨i, Or.inl was⟩ leaving.found
  | exited => exact absurd was stays
  | _ =>
      rw [was] at noLock
      cases noLock

/-- One for every worker that has not left. -/
def WorkerPhase.remains : WorkerPhase -> Nat
  | .exited => 0
  | _ => 1

theorem WorkerPhase.remains_pos (stays : phase ≠ .exited) : phase.remains = 1 := by
  cases phase <;> first | rfl | exact absurd rfl stays

def State.remaining (state : State k s) : Nat := ∑ i, (state.worker i).remains

theorem remaining_enter_exited (stays : state.worker i ≠ .exited) :
    (state.enter i .exited).remaining < state.remaining := by
  have counts := sum_worker state WorkerPhase.remains i .exited
  rw [WorkerPhase.remains_pos stays] at counts
  have gone : WorkerPhase.exited.remains = 0 := rfl
  simp only [State.remaining, State.enter]
  omega

/-- Nothing is left to take, to count off or to run: the workers leave, one after
the other. -/
theorem Leaving.exits (leaving : Leaving pool state) (free : state.lockFree = true)
    (none_ : state.pending = 0) (done : forall i, (state.worker i).owes = 0)
    (fewer : forall {next : State k s}, Leaving pool next -> next.load < state.load ->
      CanFinish pool next) : CanFinish pool state := by
  induction left : state.remaining using Nat.strong_induction_on generalizing state with
  | _ left ih =>
      by_cases finished : Finished state
      · exact ⟨state, Machine.Leads.refl pool.machine Notified state, finished⟩
      · rw [Finished, not_forall] at finished
        rcases finished with ⟨i, stays⟩
        refine leaving.search free stays (done i) fewer (fun _ leavingNext => ?_)
          (fun some_ => absurd none_ some_)
        refine ih _ (left ▸ remaining_enter_exited stays) leavingNext (lockFree_enter free rfl)
          none_ (fun other => ?_) (fun next less => ?_) rfl
        · by_cases same : other = i
          · rw [same, enter_worker]
            rfl
          · simp only [State.enter, Function.update_of_ne same]
            exact done other
        · exact fewer next (by rw [load_enter (done i) rfl] at less; exact less)

/-- A job that was taken is counted off and run. -/
theorem Leaving.work (leaving : Leaving pool state) (free : state.lockFree = true)
    (busy : (state.worker i).owes ≠ 0)
    (fewer : forall {next : State k s}, Leaving pool next -> next.load < state.load ->
      CanFinish pool next) : CanFinish pool state := by
  cases was : state.worker i with
  | took job =>
      have stepped : workerStep state i = some { state.enter i (.running job) with
          pending := fetchSub state.pending } := by
        simp only [workerStep, was]
      have owed := sum_worker state WorkerPhase.owes i (.running job)
      rw [was] at owed
      have two : (WorkerPhase.took job).owes = 2 := rfl
      have one : (WorkerPhase.running job).owes = 1 := rfl
      refine .of_work stepped (fewer (leaving.of_free free stepped rfl rfl
        ⟨WorkerPhase.noConfusion, rfl⟩) ?_)
      simp only [State.load, State.queued, State.enter]
      omega
  | running job =>
      have stepped : workerStep state i = some { state.enter i .scanning with
          executed := state.executed ++ [job] } := by
        simp only [workerStep, was]
      have owed := sum_worker state WorkerPhase.owes i .scanning
      rw [was] at owed
      have one : (WorkerPhase.running job).owes = 1 := rfl
      have none_ : WorkerPhase.scanning.owes = 0 := rfl
      refine .of_work stepped (fewer (leaving.of_free free stepped rfl rfl
        ⟨WorkerPhase.noConfusion, rfl⟩) ?_)
      simp only [State.load, State.queued, State.enter]
      omega
  | _ =>
      rw [was] at busy
      exact absurd rfl busy

theorem WorkerPhase.uncounted_of_owes (idle : phase.owes = 0) : phase.uncounted = 0 := by
  cases phase <;> first | rfl | cases idle

/-- Every state of a drop that is not lost can finish. -/
theorem Leaving.canFinish (leaving : Leaving pool state) : CanFinish pool state := by
  -- One job after the other is taken, counted off and run.
  induction size : state.load using Nat.strong_induction_on generalizing state with
  | _ size ih =>
      refine leaving.release fun {state'} leaving free sameLoad => ?_
      have fewer : forall {next : State k s}, Leaving pool next -> next.load < state'.load ->
          CanFinish pool next :=
        fun {next} leavingNext less => ih next.load (by omega) leavingNext rfl
      by_cases idle : forall i, (state'.worker i).owes = 0
      · by_cases none_ : state'.pending = 0
        · exact leaving.exits free none_ idle fewer
        · have counted : state'.uncounted = 0 :=
            Finset.sum_eq_zero fun i _ => WorkerPhase.uncounted_of_owes (idle i)
          have some_ : state'.queued ≠ 0 := fun empty =>
            none_ (leaving.pending_zero_iff.mpr ⟨empty, counted⟩)
          rcases Finset.exists_ne_zero_of_sum_ne_zero some_ with ⟨i, _, _⟩
          have stays : state'.worker i ≠ .exited := fun exits =>
            some_ (leaving.sound.emptied i exits).2.1
          refine leaving.search free stays (idle i) fewer (fun zero => absurd zero none_)
            (fun _ looks => ?_)
          have sameLoad : (state'.enter i .scanning).load = state'.load :=
            load_enter (idle i) rfl
          refine looks.scan (lockFree_enter free rfl) enter_worker ?_
            (fun empty => absurd empty some_)
          exact fun leavingNext less => fewer leavingNext (by omega)
      · rw [not_forall] at idle
        rcases idle with ⟨i, busy⟩
        exact leaving.work free busy fewer

end Progress

/-- When dropping the pool returns without help: in a state that is reached once
the shutdown flag is set, the workers can still all leave if and only if none of
them sleeps, is on its way to sleep, or is about to read a counter of zero after
it has read another value. -/
theorem drop_returns_iff {pool : Pool} {state : State k s}
    (reachable : pool.machine.Reachable State.start state) (down : state.shutdown = true) :
    CanFinish pool state <-> ¬ Lost state := by
  have sound := Sound.of_reachable reachable
  constructor
  · rintro ⟨final, leads, finished⟩ lost
    have kept : Sound pool final ∧ final.shutdown = true ∧ Lost final := by
      refine leads.invariant pool.machine
        (fun state => Sound pool state ∧ state.shutdown = true ∧ Lost state) ?_
        ⟨sound, down, lost⟩
      rintro state label next ⟨sound, down, lost⟩ notified stepped
      have stays := lost.step sound down notified stepped
      exact ⟨sound.step (change_of_step stepped), stays.2, stays.1⟩
    exact not_finished_of_lost kept.2.2 finished
  · exact fun found => Leaving.canFinish ⟨sound, down, found⟩

/-- The second worker sees a job pending that the first has taken, and reads the
counter again when the first has counted the job off. -/
def missedShutdown : List (Label 2 1) :=
  spawnOne none ++ [.work firstWorker, .drop] ++ List.replicate 6 (.work secondWorker) ++
    [.work firstWorker]

theorem missed_shutdown :
    ¬ CanFinish smallPool (smallPool.machine.after State.start missedShutdown) := by
  have reachable : smallPool.machine.Reachable State.start
      (smallPool.machine.after State.start missedShutdown) :=
    ⟨missedShutdown, smallPool.machine.run_after (by decide)⟩
  rw [drop_returns_iff reachable (by decide), not_not]
  exact ⟨secondWorker, by decide⟩

end ThreadPool
end Graph
end DyunGu
