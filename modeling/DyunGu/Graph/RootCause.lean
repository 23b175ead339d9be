import DyunGu.Graph.ShutdownRetry

namespace DyunGu
namespace Graph

open Core (ResourcePolicy)

namespace RunningGraph

variable {E T : Type}

/-!
# The root cause of a failure, and the end of a graph

A graph that fails keeps the text of its first failure.  An update can fail
the graph, or let a failed graph run again, but no call forgets that text.
`finishReport` joins what is left of a graph that has ended and reports on it.
-/

/-- Join all workers that are left and report on the graph, where `report` is
what collecting the report answers. -/
def finishReport (ends : Nat -> WorkerEnd) (report : Except Error Unit) (graph : RunningGraph T) :
    Except Error Unit :=
  match graph.workers.toList.foldl
      (fun first entry =>
        match joinWorkers false entry.1 ends entry.2.workers with
        | .ok () => first
        | .error error => selectError first error) none with
  | some error => .error error
  | none => report

/-- Nothing has happened, or the graph has failed. -/
def Blames (before after : RunningGraph T) : Prop :=
  (after.status = before.status ∧ after.rootCause = before.rootCause) ∨
    (after.status = .failed ∧ Exists fun cause =>
      after.rootCause = some (before.rootCause.getD cause))

theorem Blames.refl (graph : RunningGraph T) : Blames graph graph := Or.inl ⟨rfl, rfl⟩

theorem Blames.trans {first second third : RunningGraph T} (early : Blames first second)
    (late : Blames second third) : Blames first third := by
  rcases late with ⟨status, cause⟩ | ⟨failed, later, cause⟩
  · unfold Blames
    rw [status, cause]
    exact early
  · refine Or.inr ⟨failed, ?_⟩
    rcases early with ⟨_, same⟩ | ⟨_, earlier, same⟩
    · exact ⟨later, same ▸ cause⟩
    · refine ⟨earlier, ?_⟩
      rw [cause, same]
      rfl

theorem Blames.fails (graph : RunningGraph T) (error : Error) :
    Blames graph ((graph.setRootCause error).setStatus .failed) := Or.inr ⟨rfl, _, rfl⟩

/-! ## What an update does to the root cause -/

private theorem launch_blames (spawn : Spawning) (policy : ResourcePolicy)
    (connections : List String) (graph : RunningGraph T) (name : String)
    (prepared : PreparedNode E T) :
    Blames graph (launch spawn policy connections graph name prepared).1 := by
  unfold launch
  split
  · exact .refl graph
  · split
    · exact Or.inl ⟨rfl, rfl⟩
    · exact Or.inl ⟨rfl, rfl⟩

/-- A step of an update keeps status and root cause, or it fails. -/
private def BlamesOnError (before : RunningGraph T)
    (after : RunningGraph T × Except Error Unit) : Prop :=
  (after.1.status = before.status ∧ after.1.rootCause = before.rootCause) ∨
    (after.2 ≠ .ok () ∧ after.1.status = .failed ∧ Exists fun cause =>
      after.1.rootCause = some (before.rootCause.getD cause))

private theorem blamesOnError_of_error {before after : RunningGraph T}
    (blames : Blames before after) (error : Error) :
    BlamesOnError before (after, .error error) :=
  blames.imp_right fun failed => ⟨fun impossible => (by cases impossible), failed⟩

private theorem rollBack_blames (registry : Registry) (env : UpdateEnv E T)
    (graph : RunningGraph T) (joined : List String) (error unrestored : Error) :
    BlamesOnError graph (rollBack registry env graph joined error unrestored) := by
  have blames : Blames graph (rollBack registry env graph joined error unrestored).1 :=
    rollBack_relates Blames Blames.refl (fun _ _ _ => Blames.trans) Blames.fails registry env graph
    (fun before name node prepared policy _ _ _ =>
      launch_blames env.restoreSpawn policy graph.spec.connections before node.name prepared)
    error unrestored
  unfold rollBack at blames ⊢
  split at blames
  · exact blamesOnError_of_error blames unrestored
  · exact blamesOnError_of_error blames error

private theorem spawnPrepared_keeps (env : UpdateEnv E T) (plan : Plan E T)
    (candidate : GraphSpec) (graph : RunningGraph T) (nodes : List NodeSpec) :
    (spawnPrepared env plan candidate graph nodes).1.status = graph.status ∧
      (spawnPrepared env plan candidate graph nodes).1.rootCause = graph.rootCause := by
  refine spawnPrepared_relates
    (fun before after : RunningGraph T =>
      after.status = before.status ∧ after.rootCause = before.rootCause)
    (fun _ => ⟨rfl, rfl⟩)
    (fun _ _ _ early late => ⟨late.1.trans early.1, late.2.trans early.2⟩)
    env plan candidate ?_ graph nodes
  intro graph name prepared _ _
  unfold launch
  split
  · exact ⟨rfl, rfl⟩
  · split
    · exact ⟨rfl, rfl⟩
    · exact ⟨rfl, rfl⟩

private theorem switchAndSpawn_blames (env : UpdateEnv E T) (plan : Plan E T)
    (candidate : GraphSpec) (graph : RunningGraph T) :
    BlamesOnError graph (switchAndSpawn env plan candidate graph) := by
  unfold switchAndSpawn
  split
  · exact Or.inl ⟨rfl, rfl⟩
  · rename_i switch _
    dsimp only
    have keeps := spawnPrepared_keeps env plan candidate
      { graph with
        routes := switchedRoutes switch.edges candidate.connections
        nextPipe := switch.nextPipe } candidate.nodes
    have failed : forall {spawned : RunningGraph T} (error : Error),
        spawned.status = graph.status ∧ spawned.rootCause = graph.rootCause ->
        BlamesOnError graph (spawned.failWith error) := by
      rintro spawned error ⟨_, cause⟩
      exact Or.inr ⟨fun impossible => (by cases impossible), rfl, error.toText, by
        rw [← cause]
        rfl⟩
    split
    · exact failed _ ⟨rfl, rfl⟩
    · split
      · rename_i spawned
        rw [spawned] at keeps
        exact failed _ keeps
      · rename_i spawned
        rw [spawned] at keeps
        split
        · exact failed _ keeps
        · exact Or.inl keeps

private theorem applyHotUpdateCandidate_blames (registry : Registry) (env : UpdateEnv E T)
    (graph : RunningGraph T) (diff : GraphDiff) (candidate : GraphSpec) :
    BlamesOnError graph (applyHotUpdateCandidate registry env graph diff candidate) := by
  unfold applyHotUpdateCandidate
  split
  · exact Or.inl ⟨rfl, rfl⟩
  · dsimp only
    split
    · exact rollBack_blames registry env _ _ _ _
    · split
      · exact rollBack_blames registry env _ _ _ _
      · exact switchAndSpawn_blames env _ candidate _

/-- After a reload the graph runs and has the root cause it had, or the reload
has failed and so has the graph. -/
private theorem reload_blames (registry : Registry) (env : UpdateEnv E T)
    (graph : RunningGraph T) (diff : GraphDiff) (candidate : GraphSpec) :
    ((graph.reload registry env diff candidate).1.status = .running ∧
        (graph.reload registry env diff candidate).1.rootCause = graph.rootCause) ∨
      ((graph.reload registry env diff candidate).2 ≠ .ok () ∧
        (graph.reload registry env diff candidate).1.status = .failed ∧
        Exists fun cause => (graph.reload registry env diff candidate).1.rootCause =
          some (graph.rootCause.getD cause)) := by
  have blames := applyHotUpdateCandidate_blames registry env (graph.setStatus .reloading) diff
    candidate
  unfold reload
  split
  · rename_i after runs
    rw [runs] at blames
    rcases blames with ⟨_, cause⟩ | ⟨impossible, _⟩
    · exact Or.inl ⟨rfl, cause⟩
    · exact absurd rfl impossible
  · rename_i after error runs
    rw [runs] at blames
    split
    · rename_i failed
      rcases blames with ⟨reloading, _⟩ | blamed
      · cases failed.symm.trans reloading
      · exact Or.inr blamed
    · rename_i alive
      rcases blames with ⟨_, cause⟩ | ⟨_, failed, _⟩
      · exact Or.inl ⟨rfl, cause⟩
      · exact absurd failed alive

/-- The graph keeps its status, or runs, with the root cause it had, or it has
failed. -/
def Carries (before after : RunningGraph T) : Prop :=
  (after.rootCause = before.rootCause ∧
      (after.status = before.status ∨ after.status = .running)) ∨
    (after.status = .failed ∧ Exists fun cause =>
      after.rootCause = some (before.rootCause.getD cause))

theorem hotUpdate_carries (registry : Registry) (env : UpdateEnv E T) (graph : RunningGraph T)
    (request : Request) : Carries graph (graph.hotUpdate registry env request).1 := by
  unfold Carries
  cases reloads : graph.reloads registry request with
  | true =>
      rw [hotUpdate_of_reloads env reloads]
      rcases graph.reload_blames registry env (request.toDiff graph.spec)
        (request.candidate graph.spec) with ⟨running, cause⟩ | ⟨_, failed⟩
      · exact Or.inl ⟨cause, Or.inr running⟩
      · exact Or.inr failed
  | false =>
      left
      rcases hotUpdate_of_not_reloads env reloads with same | ⟨error, same⟩ | ⟨spec, _, same⟩
      · rw [same]
        exact ⟨rfl, Or.inl rfl⟩
      · rw [same]
        exact ⟨rfl, Or.inl rfl⟩
      · rw [same]
        exact ⟨rfl, Or.inl rfl⟩

/-! ## When a poll finds that a graph has ended -/

private theorem pollWorkers_quiet (finished : Nat -> Option WorkerEnd) (name : String)
    (first : Option Error) (workers : List Nat) :
    pollWorkers finished name first workers = ([], none) <->
      first = none ∧ forall worker, worker ∈ workers -> EndedQuietly finished name worker := by
  induction workers generalizing first with
  | nil =>
      constructor
      · intro quiet
        exact ⟨(Prod.mk.inj quiet).2, fun _ impossible => by cases impossible⟩
      · rintro ⟨rfl, _⟩
        rfl
  | cons worker workers ih =>
      rw [List.forall_mem_cons]
      unfold pollWorkers
      cases ended : finished worker with
      | none =>
          constructor
          · intro impossible
            cases (Prod.mk.inj impossible).1
          · rintro ⟨_, ⟨ending, impossible, _⟩, _⟩
            rw [ended] at impossible
            cases impossible
      | some ending =>
          dsimp only
          rw [ih, collectError_none]
          constructor
          · rintro ⟨⟨none_, quiet⟩, others⟩
            exact ⟨none_, ⟨ending, ended, quiet⟩, others⟩
          · rintro ⟨none_, ⟨other, isEnded, quiet⟩, others⟩
            rw [ended] at isEnded
            cases isEnded
            exact ⟨⟨none_, quiet⟩, others⟩

/-- No worker of the nodes is left. -/
def Emptied (nodes : List (String × LiveNode)) : Prop :=
  (nodes.all fun entry => entry.2.workers.isEmpty) = true

private theorem pollNodes_quiet (finished : Nat -> Option WorkerEnd) (first : Option Error)
    (nodes : List (String × LiveNode)) :
    (pollNodes finished first nodes).2 = none ∧ Emptied (pollNodes finished first nodes).1 <->
      first = none ∧ forall entry, entry ∈ nodes -> forall worker, worker ∈ entry.2.workers ->
        EndedQuietly finished entry.1 worker := by
  induction nodes generalizing first with
  | nil => exact ⟨fun quiet => ⟨quiet.1, fun _ impossible => by cases impossible⟩,
      fun quiet => ⟨quiet.1, rfl⟩⟩
  | cons entry nodes ih =>
      rcases entry with ⟨name, node⟩
      rw [List.forall_mem_cons]
      have polled := pollWorkers_quiet finished name first node.workers
      unfold pollNodes
      rcases answer : pollWorkers finished name first node.workers with ⟨left, later⟩
      rw [answer] at polled
      have others := ih later
      unfold Emptied at others ⊢
      dsimp only
      rw [List.all_cons, Bool.and_eq_true, List.isEmpty_iff]
      constructor
      · rintro ⟨none_, isLeft, emptied⟩
        rcases others.mp ⟨none_, emptied⟩ with ⟨rfl, quiet⟩
        rcases polled.mp (Prod.ext isLeft rfl) with ⟨isFirst, now⟩
        exact ⟨isFirst, now, quiet⟩
      · rintro ⟨isFirst, now, quiet⟩
        rcases Prod.mk.inj (polled.mpr ⟨isFirst, now⟩) with ⟨isLeft, none_⟩
        rcases others.mpr ⟨none_, quiet⟩ with ⟨noError, emptied⟩
        exact ⟨noError, isLeft, emptied⟩

theorem pending_of_emptied {graph : RunningGraph T} (emptied : Emptied graph.workers.toList) :
    graph.pending = [] := by
  refine List.flatMap_eq_nil_iff.mpr fun entry member => ?_
  rw [List.isEmpty_iff.mp (List.all_eq_true.mp emptied entry member)]
  rfl

/-- A poll that succeeds keeps the root cause. -/
theorem poll_ok {finished : Nat -> Option WorkerEnd} {graph : RunningGraph T}
    (ok : (graph.poll finished).2 = .ok ()) :
    graph.status ≠ .failed ∧ (graph.poll finished).1.rootCause = graph.rootCause ∧
      ((graph.poll finished).1.status = graph.status ∨
        (graph.poll finished).1.status = .stopped) := by
  unfold poll at ok ⊢
  split at ok
  · cases ok
  · rename_i alive
    rw [if_neg alive]
    split at ok
    · cases ok
    · rename_i answer
      split at ok
      · rename_i emptied
        rw [if_pos emptied]
        exact ⟨alive, rfl, Or.inr rfl⟩
      · rename_i busy
        rw [if_neg busy]
        exact ⟨alive, rfl, Or.inl rfl⟩

/-- A poll finds that a running graph has stopped exactly when all workers that
are left have ended quietly, and it leaves none of them. -/
theorem poll_stopped_iff {finished : Nat -> Option WorkerEnd} {graph : RunningGraph T}
    (running : graph.status = .running) :
    ((graph.poll finished).2 = .ok () ∧ (graph.poll finished).1.status = .stopped) <->
      graph.AllQuiet finished := by
  have quiet := pollNodes_quiet finished none graph.workers.toList
  have asList : (forall entry, entry ∈ graph.workers.toList ->
      forall worker, worker ∈ entry.2.workers -> EndedQuietly finished entry.1 worker) <->
        graph.AllQuiet finished := by
    constructor
    · intro quiet name node found
      exact quiet (name, node) (Std.TreeMap.mem_toList_iff_getElem?_eq_some.mpr found)
    · rintro quiet ⟨name, node⟩ member
      exact quiet name node (Std.TreeMap.mem_toList_iff_getElem?_eq_some.mp member)
  rw [asList] at quiet
  have alive : ¬ graph.status = .failed := by
    rw [running]
    exact fun impossible => by cases impossible
  unfold poll
  rw [if_neg alive]
  rcases answer : pollNodes finished none graph.workers.toList with ⟨nodes, error⟩
  rw [answer] at quiet
  cases error with
  | some error =>
      constructor
      · rintro ⟨impossible, _⟩
        cases impossible
      · intro ended
        cases (quiet.mpr ⟨rfl, ended⟩).1
  | none =>
      dsimp only
      constructor
      · rintro ⟨_, stopped⟩
        split at stopped
        · rename_i emptied
          exact (quiet.mp ⟨rfl, emptied⟩).2
        · cases running.symm.trans stopped
      · intro ended
        have emptied : (nodes.all fun entry => entry.2.workers.isEmpty) = true :=
          (quiet.mpr ⟨rfl, ended⟩).2
        rw [if_pos emptied]
        exact ⟨rfl, rfl⟩

theorem poll_pending {finished : Nat -> Option WorkerEnd} {graph : RunningGraph T}
    (ended : graph.AllQuiet finished) (running : graph.status = .running) :
    (graph.poll finished).1.pending = [] := by
  have quiet := (pollNodes_quiet finished none graph.workers.toList).mpr ⟨rfl, fun entry member =>
    ended entry.1 entry.2 (Std.TreeMap.mem_toList_iff_getElem?_eq_some.mp member)⟩
  have names := pollNodes_names finished none graph.workers.toList
  have alive : ¬ graph.status = .failed := by
    rw [running]
    exact fun impossible => by cases impossible
  unfold poll
  rw [if_neg alive]
  rcases answer : pollNodes finished none graph.workers.toList with ⟨nodes, error⟩
  rw [answer] at quiet names
  rcases quiet with ⟨rfl, emptied⟩
  change (nodes.all fun entry => entry.2.workers.isEmpty) = true at emptied
  have sorted : nodes.Pairwise fun first second => compare first.1 second.1 = .lt := by
    have ordered : (graph.workers.toList.map Prod.fst).Pairwise
        fun first second => compare first second = .lt :=
      List.pairwise_map.mpr Std.TreeMap.ordered_keys_toList
    rw [← names] at ordered
    exact List.pairwise_map.mp ordered
  dsimp only
  rw [if_pos emptied]
  refine pending_of_emptied ?_
  change Emptied (Std.TreeMap.ofList nodes compare).toList
  rw [OrderedMap.toList_ofList sorted]
  exact emptied

/-! ## The report -/

/-- A shutdown that succeeds leaves no worker. -/
theorem shutdown_pending_of_quiet {finished : Nat -> Option WorkerEnd} {graph : RunningGraph T}
    (ended : graph.AllQuiet finished) : (graph.shutdown finished false).1.pending = [] := by
  rw [shutdown_pending, if_neg Bool.false_ne_true, List.dropWhile_eq_nil_iff]
  intro worker member
  rcases (allQuiet_iff finished graph).mp ended worker member with ⟨ending, isEnded, _⟩
  rw [isEnded]
  rfl

/-- A graph without workers has nothing to join. -/
theorem finish_of_pending {graph : RunningGraph T} (none_ : graph.pending = [])
    (ends : Nat -> WorkerEnd) (report : Except Error Unit) :
    graph.finishReport ends report = report := by
  have joined : forall (nodes : List (String × LiveNode)), joinOrder nodes = [] ->
      nodes.foldl (fun first entry =>
        match joinWorkers false entry.1 ends entry.2.workers with
        | .ok () => first
        | .error error => selectError first error) none = none := by
    intro nodes
    induction nodes with
    | nil => exact fun _ => rfl
    | cons entry nodes ih =>
        intro nothing
        rcases List.append_eq_nil_iff.mp nothing with ⟨own, others⟩
        have noWorkers : entry.2.workers = [] :=
          List.reverse_eq_nil_iff.mp (List.map_eq_nil_iff.mp own)
        rw [List.foldl_cons, noWorkers]
        exact ih others
  unfold finishReport
  rw [joined graph.workers.toList none_]

end RunningGraph
end Graph
end DyunGu
