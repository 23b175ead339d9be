import DyunGu.Graph.HotUpdate
import DyunGu.Graph.Rollback
import DyunGu.Lib.Machine

namespace DyunGu
namespace Graph
namespace RunningGraph

variable {E T : Type}

/-!
# The status of a running graph over whole runs

The status is to be final once a graph was told to stop or has ended: it
should not run again, and a failure should stay visible.  Neither update
looks at the status it starts from, and `shutdown` reports a failed graph as
stopped when no worker is left to complain.
-/

/-- The calls on a running graph, with what its workers and its environment
answer. -/
inductive Operation (E T : Type) where
  | requestStop
  | shutdown (finished : Nat -> Option WorkerEnd) (overflows : Bool)
  | poll (finished : Nat -> Option WorkerEnd)
  | update (env : UpdateEnv E T) (request : Request)

namespace Operation

/-- The graph after a call. -/
def result (registry : Registry) (graph : RunningGraph T) : Operation E T -> RunningGraph T
  | .requestStop => graph.requestStop
  | .shutdown finished overflows => (graph.shutdown finished overflows).1
  | .poll finished => (graph.poll finished).1
  | .update env request => (graph.hotUpdate registry env request).1

/-- The statuses that the graph shows from the beginning of a call to its end. -/
def shows (registry : Registry) (graph : RunningGraph T) (call : Operation E T) :
    List GraphStatus :=
  match call with
  | .requestStop | .poll _ => [(call.result registry graph).status]
  | .shutdown _ _ => [graph.requestStop.status, (call.result registry graph).status]
  | .update _ request =>
      if graph.reloads registry request then
        [.reloading, (call.result registry graph).status]
      else [(call.result registry graph).status]

end Operation

/-- The calls on a graph, one after another. -/
def calls (registry : Registry) : Machine (RunningGraph T) (Operation E T) where
  step graph call := some (call.result registry graph)

/-- All statuses that a graph shows during a run. -/
def shown (registry : Registry) : RunningGraph T -> List (Operation E T) -> List GraphStatus
  | _, [] => []
  | graph, call :: rest =>
      call.shows registry graph ++ shown registry (call.result registry graph) rest

/-- The status is final: a graph that was told to stop or has ended never
shows that it runs or reloads, and a failed one never that it has stopped. -/
def FinalStatus (registry : Registry) (graph : RunningGraph T) (run : List (Operation E T)) :
    Prop :=
  forall before after middle, run = before ++ after ->
    (calls registry).run graph before = some middle ->
    forall status, status ∈ shown registry middle after ->
      (middle.Sealed -> status ≠ .running ∧ status ≠ .reloading) ∧
        (middle.status = .failed -> status ≠ .stopped ∧ status ≠ .running)

/-! ## The condition -/

/-- The worker has ended without an error other than a cancellation. -/
def EndedQuietly (finished : Nat -> Option WorkerEnd) (name : String) (worker : Nat) : Prop :=
  Exists fun ending => finished worker = some ending ∧ ending.report true name = none

/-- No worker that is left has anything to complain. -/
def AllQuiet (finished : Nat -> Option WorkerEnd) (graph : RunningGraph T) : Prop :=
  forall (name : String) (node : LiveNode), graph.workers[name]? = some node ->
    forall worker, worker ∈ node.workers -> EndedQuietly finished name worker

/-- A failed graph is shut down only while some worker is late or complains,
and a graph that is to run no more gets no update that reloads it. -/
def Respects (registry : Registry) (graph : RunningGraph T) : Operation E T -> Prop
  | .requestStop | .poll _ => True
  | .shutdown finished overflows =>
      graph.status = .failed -> overflows = true ∨ ¬ graph.AllQuiet finished
  | .update _ request => graph.Sealed -> graph.reloads registry request = false

/-! ## When a shutdown succeeds -/

theorem collectError_none {first report : Option Error} :
    collectError first report = none <-> first = none ∧ report = none := by
  cases report with
  | none => exact ⟨fun none_ => ⟨none_, rfl⟩, fun both => both.1⟩
  | some error =>
      constructor
      · intro none_
        have kept := selectError_isSome first error
        change selectError first error = none at none_
        rw [none_] at kept
        cases kept
      · rintro ⟨_, impossible⟩
        cases impossible

private theorem drainWorkers_quiet (finished : Nat -> Option WorkerEnd) (name : String)
    (first : Option Error) (workers : List Nat) :
    (drainWorkers finished name first workers).2 = (none, false) <->
      first = none ∧ forall worker, worker ∈ workers -> EndedQuietly finished name worker := by
  induction workers generalizing first with
  | nil =>
      constructor
      · intro quiet
        exact ⟨(Prod.mk.inj quiet).1, fun _ impossible => by cases impossible⟩
      · rintro ⟨rfl, _⟩
        rfl
  | cons worker workers ih =>
      rw [List.forall_mem_cons]
      unfold drainWorkers
      cases ended : finished worker with
      | none =>
          constructor
          · intro impossible
            cases impossible
          · rintro ⟨_, ⟨ending, impossible, _⟩, _⟩
            rw [ended] at impossible
            cases impossible
      | some ending =>
          dsimp only
          rw [ih, collectError_none]
          constructor
          · rintro ⟨⟨none_, quiet⟩, later⟩
            exact ⟨none_, ⟨ending, ended, quiet⟩, later⟩
          · rintro ⟨none_, ⟨other, same, quiet⟩, later⟩
            rw [ended] at same
            cases same
            exact ⟨⟨none_, quiet⟩, later⟩

private theorem shutdownNodes_quiet (finished : Nat -> Option WorkerEnd) (first : Option Error)
    (nodes : List (String × LiveNode)) :
    (shutdownNodes finished first nodes).2 = (none, false) <->
      first = none ∧ forall entry, entry ∈ nodes -> forall worker, worker ∈ entry.2.workers ->
        EndedQuietly finished entry.1 worker := by
  induction nodes generalizing first with
  | nil =>
      constructor
      · intro quiet
        exact ⟨(Prod.mk.inj quiet).1, fun _ impossible => by cases impossible⟩
      · rintro ⟨rfl, _⟩
        rfl
  | cons entry nodes ih =>
      rcases entry with ⟨name, node⟩
      rw [List.forall_mem_cons]
      have drained := drainWorkers_quiet finished name first node.workers.reverse
      simp only [List.mem_reverse] at drained
      unfold shutdownNodes
      cases answer : drainWorkers finished name first node.workers.reverse with
      | mk left state =>
          rcases state with ⟨later, late⟩
          rw [answer] at drained
          cases late with
          | true =>
              constructor
              · intro impossible
                cases impossible
              · rintro ⟨none_, quiet, _⟩
                have impossible := drained.mpr ⟨none_, quiet⟩
                cases impossible
          | false =>
              change (shutdownNodes finished later nodes).2 = _ <-> _
              rw [ih]
              constructor
              · rintro ⟨rfl, others⟩
                rcases drained.mp rfl with ⟨none_, quiet⟩
                exact ⟨none_, quiet, others⟩
              · rintro ⟨none_, quiet, others⟩
                have same := drained.mpr ⟨none_, quiet⟩
                exact ⟨(Prod.mk.inj same).1, others⟩

/-- Telling the nodes to stop leaves their workers. -/
theorem requestStop_quiet (finished : Nat -> Option WorkerEnd) (graph : RunningGraph T) :
    graph.requestStop.AllQuiet finished <-> graph.AllQuiet finished := by
  have lookup : forall name : String, graph.requestStop.workers[name]? =
      (graph.workers[name]?).map fun node => { node with stop := true } := by
    intro name
    change (graph.workers.map fun _ node => { node with stop := true })[name]? = _
    rw [Std.TreeMap.getElem?_map]
  constructor
  · intro quiet name node found worker member
    refine quiet name { node with stop := true } ?_ worker member
    rw [lookup, found]
    rfl
  · intro quiet name node found worker member
    rw [lookup] at found
    rcases Option.map_eq_some_iff.mp found with ⟨old, was, rfl⟩
    exact quiet name old was worker member

/-- A shutdown succeeds if all workers that are left have ended quietly. -/
theorem shutdown_ok_iff (finished : Nat -> Option WorkerEnd) (overflows : Bool)
    (graph : RunningGraph T) :
    (graph.shutdown finished overflows).2 = .ok () <->
      overflows = false ∧ graph.AllQuiet finished := by
  have nodes := shutdownNodes_quiet finished none graph.requestStop.workers.toList
  have asList : (forall entry, entry ∈ graph.requestStop.workers.toList ->
      forall worker, worker ∈ entry.2.workers -> EndedQuietly finished entry.1 worker) <->
        graph.AllQuiet finished := by
    rw [← requestStop_quiet]
    constructor
    · intro quiet name node found
      exact quiet (name, node) (Std.TreeMap.mem_toList_iff_getElem?_eq_some.mpr found)
    · rintro quiet ⟨name, node⟩ member
      exact quiet name node (Std.TreeMap.mem_toList_iff_getElem?_eq_some.mp member)
  rw [asList] at nodes
  unfold shutdown
  cases overflows with
  | true =>
      constructor
      · intro impossible
        cases impossible
      · rintro ⟨impossible, _⟩
        cases impossible
  | false =>
      dsimp only
      rw [if_neg Bool.false_ne_true]
      rcases answer : shutdownNodes finished none graph.requestStop.workers.toList with
        ⟨left, error, late⟩
      rw [answer] at nodes
      have outcome : ((error, late) = (none, false)) <-> graph.AllQuiet finished := by
        rw [nodes]
        exact ⟨fun both => both.2, fun quiet => ⟨rfl, quiet⟩⟩
      rw [← outcome]
      cases late with
      | true => exact ⟨fun impossible => (by cases impossible), fun both => (by cases both.2)⟩
      | false =>
          cases error with
          | none => exact ⟨fun _ => ⟨rfl, rfl⟩, fun _ => rfl⟩
          | some error =>
              exact ⟨fun impossible => (by cases impossible), fun both => (by cases both.2)⟩

/-! ## When an update raises the stop flag -/

/-- A step of an update either leaves the stop flag or fails the graph. -/
private def KeepsStop (before : RunningGraph T) (after : RunningGraph T × Except Error Unit) :
    Prop :=
  after.1.stop = before.stop ∨ (after.1.status = .failed ∧ after.2 ≠ .ok ())

private theorem rollBack_stop (registry : Registry) (env : UpdateEnv E T)
    (graph : RunningGraph T) (joined : List String) (error unrestored : Error) :
    KeepsStop graph (rollBack registry env graph joined error unrestored) :=
  (rollBack_spawned registry env graph joined error unrestored).imp_left Spawned.stop

private theorem failWith_stop (before graph : RunningGraph T) (error : Error) :
    KeepsStop before (graph.failWith error) :=
  Or.inr ⟨rfl, fun impossible => by cases impossible⟩

private theorem switchAndSpawn_stop (env : UpdateEnv E T) (plan : Plan E T)
    (candidate : GraphSpec) (graph : RunningGraph T) :
    KeepsStop graph (switchAndSpawn env plan candidate graph) := by
  unfold switchAndSpawn
  split
  · exact Or.inl rfl
  · dsimp only
    split
    · exact failWith_stop graph _ _
    · split
      · exact failWith_stop graph _ _
      · rename_i spawned
        split
        · exact failWith_stop graph _ _
        · left
          exact (spawnPrepared_spawned (fun _ member => member) spawned).stop

private theorem applyHotUpdateCandidate_stop (registry : Registry) (env : UpdateEnv E T)
    (graph : RunningGraph T) (diff : GraphDiff) (candidate : GraphSpec) :
    KeepsStop graph (applyHotUpdateCandidate registry env graph diff candidate) := by
  unfold applyHotUpdateCandidate
  split
  · exact Or.inl rfl
  · dsimp only
    split
    · exact rollBack_stop registry env _ _ _ _
    · split
      · exact rollBack_stop registry env _ _ _ _
      · exact switchAndSpawn_stop env _ candidate _

/-- An update of a graph that was not told to stop does not stop it, or it
leaves the graph failed. -/
private theorem reload_stop (registry : Registry) (env : UpdateEnv E T) (graph : RunningGraph T)
    (diff : GraphDiff) (candidate : GraphSpec) :
    (graph.reload registry env diff candidate).1.stop = graph.stop ∨
      (graph.reload registry env diff candidate).1.status = .failed := by
  have keeps := applyHotUpdateCandidate_stop registry env (graph.setStatus .reloading) diff
    candidate
  unfold reload
  split
  · rename_i after runs
    rw [runs] at keeps
    rcases keeps with kept | ⟨_, impossible⟩
    · exact Or.inl kept
    · exact absurd rfl impossible
  · rename_i after error runs
    rw [runs] at keeps
    split
    · rename_i failed
      exact Or.inr failed
    · rename_i alive
      rcases keeps with kept | ⟨failed, _⟩
      · exact Or.inl kept
      · exact absurd failed alive

/-! ## One call -/

/-- The statuses of a graph that is to run no more. -/
def Ending (status : GraphStatus) : Prop :=
  status = .draining ∨ status = .stopped ∨ status = .failed

/-- A graph that was told to stop says so. -/
def Settled (graph : RunningGraph T) : Prop :=
  graph.stop = true -> Ending graph.status

private theorem Settled.ending {graph : RunningGraph T} (settled : graph.Settled)
    (isSealed : graph.Sealed) : Ending graph.status := by
  rcases isSealed with stop | ended
  · exact settled stop
  · exact Or.inr ended

/-- An update that does not reload leaves the stop flag and the status. -/
private theorem update_quiet {registry : Registry} (env : UpdateEnv E T) {graph : RunningGraph T}
    {request : Request} (stays : graph.reloads registry request = false) :
    (graph.hotUpdate registry env request).1.stop = graph.stop ∧
      (graph.hotUpdate registry env request).1.status = graph.status := by
  rcases hotUpdate_of_not_reloads env stays with same | ⟨error, same⟩ | ⟨spec, _, same⟩
  · rw [same]
    exact ⟨rfl, rfl⟩
  · rw [same]
    exact ⟨rfl, rfl⟩
  · rw [same]
    exact ⟨rfl, rfl⟩

private theorem Sealed.of_same {graph after : RunningGraph T} (isSealed : graph.Sealed)
    (stop : after.stop = graph.stop) (status : after.status = graph.status) : after.Sealed := by
  unfold Sealed
  rw [stop, status]
  exact isSealed

private theorem requestStop_ending (graph : RunningGraph T) :
    Ending graph.requestStop.status := by
  rcases graph.requestStop_status with draining | ⟨same, stopped | failed⟩
  · exact Or.inl draining
  · exact Or.inr (Or.inl (same.trans stopped))
  · exact Or.inr (Or.inr (same.trans failed))

private theorem shutdown_ending (finished : Nat -> Option WorkerEnd) (overflows : Bool)
    (graph : RunningGraph T) : Ending (graph.shutdown finished overflows).1.status := by
  rcases (graph.shutdown_status finished overflows).2 with ⟨same, _⟩ | ⟨failed, _⟩ | ⟨stopped, _⟩
  · rw [same]
    exact graph.requestStop_ending
  · exact Or.inr (Or.inr failed)
  · exact Or.inr (Or.inl stopped)

/-- A call that respects the condition keeps the graph settled. -/
theorem settled_step {registry : Registry} {graph : RunningGraph T} (settled : graph.Settled)
    {call : Operation E T} (respects : graph.Respects registry call) :
    (call.result registry graph).Settled := by
  cases call with
  | requestStop => exact fun _ => graph.requestStop_ending
  | shutdown finished overflows => exact fun _ => graph.shutdown_ending finished overflows
  | poll finished =>
      intro stop
      rcases graph.poll_status finished with ⟨sameStop, same | ⟨_, failed | stopped⟩⟩
      · change Ending (graph.poll finished).1.status
        rw [same]
        exact settled (sameStop.symm.trans stop)
      · exact Or.inr (Or.inr failed)
      · exact Or.inr (Or.inl stopped)
  | update env request =>
      intro stop
      cases reloads : graph.reloads registry request with
      | false =>
          rcases update_quiet env reloads with ⟨sameStop, same⟩
          change Ending (graph.hotUpdate registry env request).1.status
          rw [same]
          exact settled (sameStop.symm.trans stop)
      | true =>
          have keeps := graph.reload_stop registry env (request.toDiff graph.spec)
            (request.candidate graph.spec)
          rw [← hotUpdate_of_reloads env reloads] at keeps
          rcases keeps with kept | failed
          · have stays := respects (Or.inl (kept.symm.trans stop))
            rw [reloads] at stays
            cases stays
          · exact Or.inr (Or.inr failed)

/-- A sealed graph stays sealed, and does not show that it runs or reloads. -/
theorem sealed_step {registry : Registry} {graph : RunningGraph T} (settled : graph.Settled)
    (isSealed : graph.Sealed) {call : Operation E T} (respects : graph.Respects registry call) :
    (call.result registry graph).Sealed ∧
      forall status, status ∈ call.shows registry graph -> Ending status := by
  cases call with
  | requestStop =>
      refine ⟨Or.inl rfl, fun status member => ?_⟩
      rw [List.mem_singleton.mp member]
      exact graph.requestStop_ending
  | shutdown finished overflows =>
      refine ⟨Or.inl (graph.shutdown_status finished overflows).1, fun status member => ?_⟩
      rcases List.mem_cons.mp member with rfl | member
      · exact graph.requestStop_ending
      · rw [List.mem_singleton.mp member]
        exact graph.shutdown_ending finished overflows
  | poll finished =>
      rcases graph.poll_status finished with ⟨sameStop, same | ⟨_, ended⟩⟩
      · refine ⟨isSealed.of_same sameStop same, fun status member => ?_⟩
        rw [List.mem_singleton.mp member]
        change Ending (graph.poll finished).1.status
        rw [same]
        exact settled.ending isSealed
      · refine ⟨Or.inr ended.symm, fun status member => ?_⟩
        rw [List.mem_singleton.mp member]
        exact Or.inr ended.symm
  | update env request =>
      have stays := respects isSealed
      rcases update_quiet env stays with ⟨sameStop, same⟩
      refine ⟨isSealed.of_same sameStop same, fun status member => ?_⟩
      rw [Operation.shows, stays, if_neg Bool.false_ne_true] at member
      rw [List.mem_singleton.mp member]
      change Ending (graph.hotUpdate registry env request).1.status
      rw [same]
      exact settled.ending isSealed

/-- A failed graph shows nothing else. -/
theorem failed_step {registry : Registry} {graph : RunningGraph T}
    (failed : graph.status = .failed) {call : Operation E T}
    (respects : graph.Respects registry call) :
    (call.result registry graph).status = .failed ∧
      forall status, status ∈ call.shows registry graph -> status = .failed := by
  have stopped : graph.requestStop.status = .failed := by
    rw [requestStop, failed]
  cases call with
  | requestStop => exact ⟨stopped, fun status member => List.mem_singleton.mp member ▸ stopped⟩
  | shutdown finished overflows =>
      have result : (graph.shutdown finished overflows).1.status = .failed := by
        rcases (graph.shutdown_status finished overflows).2 with ⟨same, _⟩ | ⟨fails, _⟩ | ⟨_, ok⟩
        · exact same.trans stopped
        · exact fails
        · rcases (graph.shutdown_ok_iff finished overflows).mp ok with ⟨inTime, quiet⟩
          rcases respects failed with late | loud
          · rw [inTime] at late
            cases late
          · exact absurd quiet loud
      refine ⟨result, fun status member => ?_⟩
      rcases List.mem_cons.mp member with rfl | member
      · exact stopped
      · exact List.mem_singleton.mp member ▸ result
  | poll finished =>
      have result : (graph.poll finished).1.status = .failed := by
        rcases (graph.poll_status finished).2 with same | ⟨alive, _⟩
        · exact same.trans failed
        · exact absurd failed alive
      exact ⟨result, fun status member => List.mem_singleton.mp member ▸ result⟩
  | update env request =>
      have stays := respects (Or.inr (Or.inr failed))
      have result : (graph.hotUpdate registry env request).1.status = .failed :=
        (update_quiet env stays).2.trans failed
      refine ⟨result, fun status member => ?_⟩
      rw [Operation.shows, stays, if_neg Bool.false_ne_true] at member
      exact List.mem_singleton.mp member ▸ result

/-! ## Whole runs -/

private theorem sealed_run {registry : Registry} {graph : RunningGraph T}
    {run : List (Operation E T)} (settled : graph.Settled) (isSealed : graph.Sealed)
    (meets : (calls registry).Meets (Respects registry) graph run) :
    forall status, status ∈ shown registry graph run -> Ending status := by
  induction run generalizing graph with
  | nil =>
      intro _ impossible
      cases impossible
  | cons call rest ih =>
      intro status member
      rcases sealed_step settled isSealed meets.1 with ⟨stillSealed, now⟩
      rcases List.mem_append.mp member with during | later
      · exact now status during
      · exact ih (settled_step settled meets.1) stillSealed (meets.2 _ rfl) status later

private theorem failed_run {registry : Registry} {graph : RunningGraph T}
    {run : List (Operation E T)} (failed : graph.status = .failed)
    (meets : (calls registry).Meets (Respects registry) graph run) :
    forall status, status ∈ shown registry graph run -> status = .failed := by
  induction run generalizing graph with
  | nil =>
      intro _ impossible
      cases impossible
  | cons call rest ih =>
      intro status member
      rcases failed_step failed meets.1 with ⟨stillFailed, now⟩
      rcases List.mem_append.mp member with during | later
      · exact now status during
      · exact ih stillFailed (meets.2 _ rfl) status later

/-- A call after which the status stays final respects the condition. -/
private theorem respects_of_finalStatus {registry : Registry} {graph : RunningGraph T}
    {call : Operation E T} {rest : List (Operation E T)}
    (final : FinalStatus registry graph (call :: rest)) : graph.Respects registry call := by
  have now : forall status, status ∈ call.shows registry graph ->
      (graph.Sealed -> status ≠ .running ∧ status ≠ .reloading) ∧
        (graph.status = .failed -> status ≠ .stopped ∧ status ≠ .running) :=
    fun status member => final [] (call :: rest) graph rfl rfl status
      (List.mem_append_left _ member)
  cases call with
  | requestStop => trivial
  | poll finished => trivial
  | shutdown finished overflows =>
      intro failed
      by_contra unlawful
      rw [not_or, Bool.not_eq_true, not_not] at unlawful
      have ok := (graph.shutdown_ok_iff finished overflows).mpr unlawful
      have stopped : (graph.shutdown finished overflows).1.status = .stopped := by
        rcases (graph.shutdown_status finished overflows).2 with
          ⟨_, impossible⟩ | ⟨_, impossible⟩ | ⟨stopped, _⟩
        · exact absurd ok impossible
        · exact absurd ok impossible
        · exact stopped
      exact ((now _ (List.mem_cons_of_mem _ List.mem_cons_self)).2 failed).1 stopped
  | update env request =>
      intro isSealed
      cases reloads : graph.reloads registry request with
      | false => rfl
      | true =>
          have showing : GraphStatus.reloading ∈
              (Operation.update env request).shows registry graph := by
            rw [Operation.shows, reloads, if_pos rfl]
            exact List.mem_cons_self
          exact absurd rfl ((now _ showing).1 isSealed).2

/-- The status of a graph is final in exactly those runs in which no update
reloads a graph that is to run no more, and no failed graph is shut down
without a complaint. -/
theorem finalStatus_iff {registry : Registry} {graph : RunningGraph T}
    (fresh : graph.stop = false) (run : List (Operation E T)) :
    FinalStatus registry graph run <->
      (calls registry).Meets (Respects registry) graph run := by
  constructor
  · clear fresh
    intro final
    induction run generalizing graph with
    | nil => trivial
    | cons call rest ih =>
        refine ⟨respects_of_finalStatus final, fun next stepped => ih ?_⟩
        intro before after middle split reached
        refine final (call :: before) after middle ?_ ?_
        · rw [split, List.cons_append]
        · exact Machine.run_cons_iff _ |>.mpr ⟨next, stepped, reached⟩
  · intro meets before after middle split reached
    rw [split] at meets
    have initial : graph.Settled := by
      intro stop
      rw [fresh] at stop
      cases stop
    have settled : middle.Settled := by
      refine Machine.run_invariant_of_meets _ Settled ?_ initial (Machine.Meets.first _ meets)
        reached
      intro state call next settled respects stepped
      cases stepped
      exact settled_step settled respects
    have rest := Machine.Meets.rest _ meets reached
    intro status member
    constructor
    · intro isSealed
      rcases sealed_run settled isSealed rest status member with rfl | rfl | rfl
      · exact ⟨fun impossible => (by cases impossible), fun impossible => (by cases impossible)⟩
      · exact ⟨fun impossible => (by cases impossible), fun impossible => (by cases impossible)⟩
      · exact ⟨fun impossible => (by cases impossible), fun impossible => (by cases impossible)⟩
    · intro failed
      rw [failed_run failed rest status member]
      exact ⟨fun impossible => (by cases impossible), fun impossible => (by cases impossible)⟩

/-! ## Graphs that do not fail stay consistent -/

theorem shutdownNodes_names (finished : Nat -> Option WorkerEnd) (first : Option Error)
    (nodes : List (String × LiveNode)) :
    (shutdownNodes finished first nodes).1.map Prod.fst = nodes.map Prod.fst := by
  induction nodes generalizing first with
  | nil => rfl
  | cons entry nodes ih =>
      unfold shutdownNodes
      split
      · rfl
      · rename_i later _
        rw [List.map_cons, List.map_cons, ← ih later]

theorem pollNodes_names (finished : Nat -> Option WorkerEnd) (first : Option Error)
    (nodes : List (String × LiveNode)) :
    (pollNodes finished first nodes).1.map Prod.fst = nodes.map Prod.fst := by
  induction nodes generalizing first with
  | nil => rfl
  | cons entry nodes ih =>
      unfold pollNodes
      rw [List.map_cons, List.map_cons, ← ih]

/-- Workers that are joined leave their node behind. -/
private theorem Consistent.of_names {graph after : RunningGraph T} (consistent : graph.Consistent)
    (spec : after.spec = graph.spec) (policy : after.policy = graph.policy)
    (routes : after.routes = graph.routes) {nodes : List (String × LiveNode)}
    (names : nodes.map Prod.fst = graph.workers.toList.map Prod.fst)
    (workers : after.workers = Std.TreeMap.ofList nodes) : after.Consistent := by
  refine consistent.of_workers spec policy routes fun name member => consistent.known name ?_
  rw [workers, Std.TreeMap.mem_ofList, List.contains_iff_mem, names,
    Std.TreeMap.map_fst_toList_eq_keys, Std.TreeMap.mem_keys] at member
  exact member

private theorem Consistent.requestStop {graph : RunningGraph T} (consistent : graph.Consistent) :
    graph.requestStop.Consistent := by
  refine consistent.of_workers rfl rfl rfl fun name member => consistent.known name ?_
  exact Std.TreeMap.mem_map.mp member

/-- A call keeps the graph consistent unless it leaves it failed. -/
theorem consistent_step {registry : Registry} {graph : RunningGraph T}
    (consistent : graph.Consistent) {call : Operation E T}
    (alive : (call.result registry graph).status ≠ .failed) :
    (call.result registry graph).Consistent := by
  cases call with
  | requestStop => exact consistent.requestStop
  | shutdown finished overflows =>
      have keeps : forall {nodes : List (String × LiveNode)} {end_ : Option Error × Bool}
          {after : RunningGraph T},
          shutdownNodes finished none graph.requestStop.workers.toList = (nodes, end_) ->
          after.spec = graph.spec -> after.policy = graph.policy -> after.routes = graph.routes ->
          after.workers = Std.TreeMap.ofList nodes -> after.Consistent := by
        intro nodes end_ after answer spec policy routes workers
        have names := shutdownNodes_names finished none graph.requestStop.workers.toList
        rw [answer] at names
        exact consistent.requestStop.of_names spec policy routes names workers
      change (graph.shutdown finished overflows).1.Consistent
      unfold shutdown
      dsimp only
      split
      · exact consistent.requestStop
      · split
        · rename_i answer
          exact keeps answer rfl rfl rfl rfl
        · rename_i answer
          exact keeps answer rfl rfl rfl rfl
        · rename_i answer
          exact keeps answer rfl rfl rfl rfl
  | poll finished =>
      have names := pollNodes_names finished none graph.workers.toList
      change (graph.poll finished).1.Consistent
      unfold poll
      split
      · exact consistent
      · split
        · rename_i answer
          rw [answer] at names
          exact consistent.of_names rfl rfl rfl names rfl
        · rename_i answer
          rw [answer] at names
          split
          · exact consistent.of_names rfl rfl rfl names rfl
          · exact consistent.of_names rfl rfl rfl names rfl
  | update env request => exact hotUpdate_consistent consistent request alive

/-- Every state of a run in which the graph does not fail is consistent. -/
theorem consistent_run {registry : Registry} {graph final : RunningGraph T}
    (consistent : graph.Consistent) {run : List (Operation E T)}
    (alive : (calls registry).Meets
      (fun state (call : Operation E T) => (call.result registry state).status ≠ .failed) graph run)
    (reached : (calls registry).run graph run = some final) : final.Consistent := by
  refine Machine.run_invariant_of_meets _ Consistent ?_ consistent alive reached
  intro state call next consistent alive stepped
  cases stepped
  exact consistent_step consistent alive

/-- The camera graph is told to stop and shut down, and both are repeated. -/
theorem camera_orderly_end :
    Exists fun graph : RunningGraph Nat => cameraStarted = .ok graph ∧ graph.stop = false ∧
      FinalStatus (E := String) RuntimeGraph.cameraRegistry graph
        [.requestStop, .shutdown (fun _ => some .ok) false, .poll fun _ => none, .requestStop] := by
  rcases camera_starts with ⟨graph, starts, _, live, running⟩
  refine ⟨graph, starts, live.running, (finalStatus_iff live.running _).mpr ?_⟩
  refine ⟨trivial, fun next stepped => ⟨?_, fun _ _ => ⟨trivial, fun _ _ => ⟨trivial, fun _ _ =>
    trivial⟩⟩⟩⟩
  intro failed
  cases stepped
  change graph.requestStop.status = .failed at failed
  rw [requestStop, running] at failed
  cases failed

/-- A graph that was told to stop is updated, and runs again. -/
theorem update_revives_stopped_camera :
    Exists fun graph => cameraStarted = .ok graph ∧ graph.stop = false ∧
      ¬ FinalStatus RuntimeGraph.cameraRegistry graph
        [.requestStop, .update (cameraEnv .ok false) (.changes cameraChange)] := by
  have outcome : cameraStarted.toOption.map (fun graph =>
      shown RuntimeGraph.cameraRegistry graph.requestStop
        [.update (cameraEnv .ok false) (.changes cameraChange)]) =
        some [.reloading, .running] := by
    decide +kernel
  rcases camera_starts with ⟨graph, starts, _, live, _⟩
  refine ⟨graph, starts, live.running, fun final => ?_⟩
  rw [starts] at outcome
  have showing : shown RuntimeGraph.cameraRegistry graph.requestStop
      [.update (cameraEnv .ok false) (.changes cameraChange)] = [.reloading, .running] :=
    Option.some.inj outcome
  have later := final [.requestStop] [.update (cameraEnv .ok false) (.changes cameraChange)]
    graph.requestStop rfl rfl .running
  rw [showing] at later
  exact ((later (List.mem_cons_of_mem _ List.mem_cons_self)).1 (Or.inl rfl)).1 rfl

end RunningGraph
end Graph
end DyunGu
