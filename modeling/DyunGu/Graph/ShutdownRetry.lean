import DyunGu.Graph.StatusRuns

namespace DyunGu
namespace Graph
namespace RunningGraph

variable {T : Type}

/-!
# Shutting down again after a timeout

A call of `shutdown` joins the workers node by node and gives up at the first
one that is late.  The errors of the workers it has joined until then are known
to this call alone, so what the next call reports depends on the workers that
are left for it.
-/

/-- One call of `shutdown`: which workers have ended when it waits for them,
and whether its deadline can be computed. -/
structure Attempt where
  seen : Nat -> Bool
  overflows : Bool

/-- What a call learns of a worker. -/
def Attempt.finished (attempt : Attempt) (outcome : Nat -> WorkerEnd) (worker : Nat) :
    Option WorkerEnd := if attempt.seen worker then some (outcome worker) else none

def attempt (outcome : Nat -> WorkerEnd) (graph : RunningGraph T) (attempt : Attempt) :
    RunningGraph T × Except Error Unit :=
  graph.shutdown (attempt.finished outcome) attempt.overflows

/-- The graph after some calls. -/
def afterAttempts (outcome : Nat -> WorkerEnd) (graph : RunningGraph T)
    (attempts : List Attempt) : RunningGraph T :=
  attempts.foldl (fun graph next => (graph.attempt outcome next).1) graph

def Owns (graph : RunningGraph T) (name : String) (worker : Nat) : Prop :=
  Exists fun node => graph.workers[name]? = some node ∧ worker ∈ node.workers

/-- A failure that was joined is what the last call reports. -/
def Remembers (outcome : Nat -> WorkerEnd) (graph : RunningGraph T) (earlier : List Attempt)
    (last : Attempt) : Prop :=
  let (after, answer) := (graph.afterAttempts outcome earlier).attempt outcome last
  (forall message, answer ≠ .error (.timeout message)) ->
    (Exists fun name => Exists fun worker => graph.Owns name worker ∧ ¬ after.Owns name worker ∧
      (outcome worker).report true name ≠ none) ->
    (Exists fun error => answer = .error error) ∧ after.status = .failed ∧
      after.rootCause.isSome = true

/-! ## Which workers are left -/

/-- The workers of some nodes in the order in which they are joined. -/
def joinOrder (nodes : List (String × LiveNode)) : List (String × Nat) :=
  nodes.flatMap fun entry => entry.2.workers.reverse.map fun worker => (entry.1, worker)

/-- The workers that some calls leave. -/
def leftBy (workers : List (String × Nat)) (attempts : List Attempt) : List (String × Nat) :=
  attempts.foldl
    (fun left next =>
      if next.overflows then left else left.dropWhile fun worker => next.seen worker.2) workers

def pending (graph : RunningGraph T) : List (String × Nat) := joinOrder graph.workers.toList

theorem owns_iff (graph : RunningGraph T) (name : String) (worker : Nat) :
    graph.Owns name worker <-> (name, worker) ∈ graph.pending := by
  unfold Owns pending joinOrder
  constructor
  · rintro ⟨node, found, member⟩
    refine List.mem_flatMap.mpr ⟨(name, node), ?_, ?_⟩
    · exact Std.TreeMap.mem_toList_iff_getElem?_eq_some.mpr found
    · exact List.mem_map.mpr ⟨worker, List.mem_reverse.mpr member, rfl⟩
  · intro member
    rcases List.mem_flatMap.mp member with ⟨⟨other, node⟩, isEntry, inNode⟩
    rcases List.mem_map.mp inNode with ⟨same, isWorker, pair⟩
    cases pair
    exact ⟨node, Std.TreeMap.mem_toList_iff_getElem?_eq_some.mp isEntry,
      List.mem_reverse.mp isWorker⟩

theorem drainWorkers_left (finished : Nat -> Option WorkerEnd) (name : String)
    (first : Option Error) (workers : List Nat) :
    (drainWorkers finished name first workers).1 =
        workers.dropWhile (fun worker => (finished worker).isSome) ∧
      (drainWorkers finished name first workers).2.2 =
        !(drainWorkers finished name first workers).1.isEmpty := by
  induction workers generalizing first with
  | nil => exact ⟨rfl, rfl⟩
  | cons worker workers ih =>
      unfold drainWorkers
      rw [List.dropWhile_cons]
      cases ended : finished worker with
      | none => exact ⟨rfl, rfl⟩
      | some ending => exact ih _

theorem shutdownNodes_left (finished : Nat -> Option WorkerEnd) (first : Option Error)
    (nodes : List (String × LiveNode)) :
    joinOrder (shutdownNodes finished first nodes).1 =
      (joinOrder nodes).dropWhile fun worker => (finished worker.2).isSome := by
  induction nodes generalizing first with
  | nil => rfl
  | cons entry nodes ih =>
      rcases entry with ⟨name, node⟩
      have drained := drainWorkers_left finished name first node.workers.reverse
      have order : forall workers others, joinOrder ((name, { node with workers := workers }) ::
          others) = workers.reverse.map (fun worker => (name, worker)) ++ joinOrder others :=
        fun _ _ => rfl
      have mapped : (node.workers.reverse.map fun worker => (name, worker)).dropWhile
          (fun worker => (finished worker.2).isSome) =
          (drainWorkers finished name first node.workers.reverse).1.map
            fun worker => (name, worker) := by
        rw [drained.1, List.dropWhile_map]
        rfl
      rw [show joinOrder ((name, node) :: nodes) = _ from order node.workers nodes,
        List.dropWhile_append, mapped]
      unfold shutdownNodes
      rcases answer : drainWorkers finished name first node.workers.reverse with
        ⟨left, later, late⟩
      have isLate : late = !left.isEmpty := by
        have same := drained.2
        rw [answer] at same
        exact same
      rw [List.isEmpty_map]
      cases left with
      | nil =>
          cases isLate
          exact ih later
      | cons worker left =>
          cases isLate
          show joinOrder ((name, { node with workers := (worker :: left).reverse }) :: nodes) = _
          rw [order, List.reverse_reverse]
          rfl

/-- A call stops the graph and changes its workers. -/
theorem shutdown_pending (finished : Nat -> Option WorkerEnd) (overflows : Bool)
    (graph : RunningGraph T) :
    (graph.shutdown finished overflows).1.pending =
      if overflows then graph.pending
      else graph.pending.dropWhile fun worker => (finished worker.2).isSome := by
  have stopped : graph.requestStop.pending = graph.pending := by
    unfold pending requestStop joinOrder
    dsimp only
    rw [Std.TreeMap.toList_map, List.flatMap_map]
  have sorted : (shutdownNodes finished none graph.requestStop.workers.toList).1.Pairwise
      fun first second => compare first.1 second.1 = .lt := by
    have names := shutdownNodes_names finished none graph.requestStop.workers.toList
    have ordered : (graph.requestStop.workers.toList.map Prod.fst).Pairwise
        fun first second => compare first second = .lt :=
      List.pairwise_map.mpr Std.TreeMap.ordered_keys_toList
    rw [← names] at ordered
    exact List.pairwise_map.mp ordered
  have left := shutdownNodes_left finished none graph.requestStop.workers.toList
  change _ = graph.requestStop.pending.dropWhile _ at left
  rw [stopped] at left
  unfold shutdown
  cases overflows with
  | true => exact stopped
  | false =>
      rcases answer : shutdownNodes finished none graph.requestStop.workers.toList with
        ⟨nodes, error, late⟩
      rw [answer] at left sorted
      have rebuilt : joinOrder (Std.TreeMap.ofList nodes compare).toList = joinOrder nodes := by
        rw [OrderedMap.toList_ofList sorted]
      dsimp only
      rw [if_neg Bool.false_ne_true, if_neg Bool.false_ne_true, ← left, ← rebuilt, answer]
      cases late with
      | true => rfl
      | false =>
          cases error with
          | none => rfl
          | some error => rfl

theorem finished_isSome (attempt : Attempt) (outcome : Nat -> WorkerEnd) (worker : Nat) :
    (attempt.finished outcome worker).isSome = attempt.seen worker := by
  unfold Attempt.finished
  cases attempt.seen worker <;> rfl

/-- The calls leave the workers that each of them leaves in turn. -/
theorem afterAttempts_pending (outcome : Nat -> WorkerEnd) (graph : RunningGraph T)
    (attempts : List Attempt) :
    (graph.afterAttempts outcome attempts).pending = leftBy graph.pending attempts := by
  induction attempts generalizing graph with
  | nil => rfl
  | cons next attempts ih =>
      show ((graph.attempt outcome next).1.afterAttempts outcome attempts).pending = _
      rw [ih]
      unfold attempt
      rw [shutdown_pending]
      simp only [finished_isSome]
      rfl

/-! ## What the last call reports -/

theorem allQuiet_iff (finished : Nat -> Option WorkerEnd) (graph : RunningGraph T) :
    graph.AllQuiet finished <->
      forall worker, worker ∈ graph.pending -> EndedQuietly finished worker.1 worker.2 := by
  constructor
  · rintro quiet ⟨name, worker⟩ member
    rcases (owns_iff graph name worker).mpr member with ⟨node, found, inNode⟩
    exact quiet name node found worker inNode
  · intro quiet name node found worker member
    exact quiet (name, worker) ((owns_iff graph name worker).mp ⟨node, found, member⟩)

theorem endedQuietly_iff (attempt : Attempt) (outcome : Nat -> WorkerEnd) (name : String)
    (worker : Nat) :
    EndedQuietly (attempt.finished outcome) name worker <->
      attempt.seen worker = true ∧ (outcome worker).report true name = none := by
  unfold EndedQuietly Attempt.finished
  constructor
  · rintro ⟨ending, ended, quiet⟩
    split at ended
    · rename_i seen
      cases ended
      exact ⟨seen, quiet⟩
    · cases ended
  · rintro ⟨seen, quiet⟩
    exact ⟨outcome worker, if_pos seen, quiet⟩

/-- An error other than a timeout leaves the graph failed. -/
theorem shutdown_error {finished : Nat -> Option WorkerEnd} {overflows : Bool}
    {graph after : RunningGraph T} {error : Error}
    (failed : graph.shutdown finished overflows = (after, .error error))
    (inTime : forall message, error ≠ .timeout message) :
    after.status = .failed ∧ after.rootCause.isSome = true := by
  unfold shutdown at failed
  dsimp only at failed
  split at failed
  · cases failed
    exact absurd rfl (inTime _)
  · split at failed
    · cases failed
      exact absurd rfl (inTime _)
    · cases failed
      exact ⟨rfl, rfl⟩
    · cases failed

/-- When the last of some calls succeeds. -/
theorem last_ok_iff (outcome : Nat -> WorkerEnd) (graph : RunningGraph T)
    (earlier : List Attempt) (last : Attempt) :
    ((graph.afterAttempts outcome earlier).attempt outcome last).2 = .ok () <->
      last.overflows = false ∧ forall worker, worker ∈ leftBy graph.pending earlier ->
        last.seen worker.2 = true ∧ (outcome worker.2).report true worker.1 = none := by
  unfold attempt
  rw [shutdown_ok_iff, allQuiet_iff, afterAttempts_pending]
  simp only [endedQuietly_iff]

/-- A call that succeeds leaves no worker. -/
theorem pending_of_ok {outcome : Nat -> WorkerEnd} {graph : RunningGraph T}
    {earlier : List Attempt} {last : Attempt}
    (succeeds : ((graph.afterAttempts outcome earlier).attempt outcome last).2 = .ok ()) :
    ((graph.afterAttempts outcome earlier).attempt outcome last).1.pending = [] := by
  rcases (last_ok_iff outcome graph earlier last).mp succeeds with ⟨inTime, quiet⟩
  have notOverflows : ¬ last.overflows = true := by
    rw [inTime]
    exact Bool.false_ne_true
  unfold attempt
  rw [shutdown_pending, if_neg notOverflows, afterAttempts_pending, List.dropWhile_eq_nil_iff]
  intro worker member
  rw [finished_isSome]
  exact (quiet worker member).1

/-- The last call reports a failure unless all workers that the earlier calls
have left for it are joined in time and end well. -/
theorem remembers_iff (outcome : Nat -> WorkerEnd) (graph : RunningGraph T)
    (earlier : List Attempt) (last : Attempt) :
    Remembers outcome graph earlier last <->
      (forall worker, worker ∈ graph.pending -> (outcome worker.2).report true worker.1 = none) ∨
      last.overflows = true ∨
      Exists fun worker => worker ∈ leftBy graph.pending earlier ∧
        (last.seen worker.2 = false ∨ (outcome worker.2).report true worker.1 ≠ none) := by
  have succeeds := last_ok_iff outcome graph earlier last
  have empties := @pending_of_ok _ outcome graph earlier last
  unfold Remembers
  rcases answer : (graph.afterAttempts outcome earlier).attempt outcome last with ⟨after, result⟩
  rw [answer] at succeeds empties
  dsimp only
  constructor
  · intro remembers
    by_contra fails
    rw [not_or, not_or] at fails
    rcases fails with ⟨complains, notOverflows, allQuiet⟩
    have isOk : result = .ok () := by
      refine succeeds.mpr ⟨Bool.not_eq_true _ ▸ notOverflows, fun worker member => ?_⟩
      by_contra late
      refine allQuiet ⟨worker, member, ?_⟩
      rw [not_and_or] at late
      rcases late with late | noisy
      · exact Or.inl (Bool.not_eq_true _ ▸ late)
      · exact Or.inr noisy
    rw [not_forall] at complains
    rcases complains with ⟨⟨name, worker⟩, noisy⟩
    rw [Classical.not_imp] at noisy
    have notOwned : ¬ after.Owns name worker := by
      rw [owns_iff, empties isOk]
      exact List.not_mem_nil
    have inTime : forall message, result ≠ .error (.timeout message) := by
      intro message impossible
      rw [isOk] at impossible
      cases impossible
    rcases (remembers inTime
      ⟨name, worker, (owns_iff graph name worker).mpr noisy.1, notOwned, noisy.2⟩).1 with
      ⟨error, isError⟩
    rw [isOk] at isError
    cases isError
  · rintro condition inTime ⟨name, worker, owned, _, noisy⟩
    cases result with
    | error error =>
        refine ⟨⟨error, rfl⟩, shutdown_error answer ?_⟩
        intro message isTimeout
        exact inTime message (congrArg Except.error isTimeout)
    | ok done =>
        rcases succeeds.mp rfl with ⟨notOverflows, quiet⟩
        rcases condition with allQuiet | overflows | ⟨other, member, late | complains⟩
        · exact absurd (allQuiet (name, worker) ((owns_iff graph name worker).mp owned)) noisy
        · rw [notOverflows] at overflows
          cases overflows
        · rw [(quiet other member).1] at late
          cases late
        · exact absurd (quiet other member).2 complains

/-! ## The camera graph -/

/-- The camera panics and the store ends well. -/
def cameraOutcome (worker : Nat) : WorkerEnd := if worker = 0 then .panicked else .ok

/-- The store is late. -/
def impatient : Attempt := ⟨fun worker => decide (worker = 0), false⟩

def patient : Attempt := ⟨fun _ => true, false⟩

/-- The first call joins the camera and gives up on the store.  The second one
joins the store and reports success. -/
theorem camera_panic_forgotten :
    Exists fun graph => cameraStarted = .ok graph ∧ graph.status = .running ∧
      ¬ Remembers cameraOutcome graph [impatient] patient := by
  have outcome : cameraStarted.toOption.map (fun graph =>
      let last := (graph.afterAttempts cameraOutcome [impatient]).attempt cameraOutcome patient
      (graph.pending, last.1.pending, last.2)) =
        some ([("camera", 0), ("store", 1)], [], .ok ()) := by
    decide +kernel
  rcases camera_starts with ⟨graph, starts, _, _, running⟩
  refine ⟨graph, starts, running, fun remembers => ?_⟩
  unfold Remembers at remembers
  rw [starts] at outcome
  rcases answered : (graph.afterAttempts cameraOutcome [impatient]).attempt cameraOutcome patient
    with ⟨after, answer⟩
  rw [answered] at remembers
  simp only [Except.toOption, Option.map_some, answered, Option.some.injEq, Prod.mk.injEq]
    at outcome
  rcases outcome with ⟨pending, emptied, isOk⟩
  have owned : graph.Owns "camera" 0 := by
    rw [owns_iff, pending]
    exact List.mem_cons_self
  have joined : ¬ after.Owns "camera" 0 := by
    rw [owns_iff, emptied]
    exact List.not_mem_nil
  have inTime : forall message, answer ≠ .error (.timeout message) := by
    intro message impossible
    rw [isOk] at impossible
    cases impossible
  have noisy : (cameraOutcome 0).report true "camera" ≠ none := by decide
  rcases remembers inTime ⟨"camera", 0, owned, joined, noisy⟩ with ⟨⟨error, isError⟩, _⟩
  rw [isOk] at isError
  cases isError

end RunningGraph
end Graph
end DyunGu
