import DyunGu.Graph.Consistent
import Mathlib.Data.List.TakeWhile

namespace DyunGu
namespace Graph
namespace RunningGraph

open DyunGu.Core (ResourcePolicy)

variable {E T : Type}

/-!
# Which failed updates restore the graph

A failed update that does not end in the failed status is to leave the
previous specification, the previous routes and every worker in place.  The
rollback respawns the nodes that were joined, but not the one whose join
failed, and does not lower the stop flags of the nodes behind it.
-/

/-- What a failed update owes a graph that it does not leave failed. -/
def Restored (before : RunningGraph T) (after : RunningGraph T × Except Error Unit) : Prop :=
  (Exists fun error => after.2 = .error error) -> after.1.status ≠ .failed ->
    after.1.spec = before.spec ∧ after.1.routes = before.routes ∧ after.1.AllLive

/-! ## The condition -/

/-- What an update does before it touches a worker: it has nothing more to
do, it is refused, or it has a plan. -/
inductive Course (E T : Type) where
  | idle
  | refused
  | planned (plan : Plan E T)

def Course.ofPlan : Except Error (Plan E T) -> Course E T
  | .error _ => .refused
  | .ok plan => .planned plan

def course (registry : Registry) (env : UpdateEnv E T) (graph : RunningGraph T)
    (request : Request) : Course E T :=
  if (request.toDiff graph.spec).isEmpty then
    if request.passes registry graph.policy ||
        !configChanged graph.spec (request.candidate graph.spec) then .idle
    else .refused
  else .ofPlan (plan registry env graph (request.toDiff graph.spec) (request.candidate graph.spec))

/-- No worker of the node ends in an error other than a cancellation. -/
def endsCleanly (env : UpdateEnv E T) (workers : Std.TreeMap String LiveNode)
    (name : String) : Bool :=
  match workers[name]? with
  | none => true
  | some node => (joinWorkers true name env.ends node.workers).isOk

def hasWorkers (workers : Std.TreeMap String LiveNode) (name : String) : Bool :=
  decide (name ∈ workers)

/-- The nodes that an update joins before the first one that ends badly. -/
def joinedFirst (env : UpdateEnv E T) (workers : Std.TreeMap String LiveNode)
    (names : List String) : List String :=
  (names.takeWhile (endsCleanly env workers)).filter (hasWorkers workers)

/-- The previous workers of the node can be created and spawned again. -/
def Recreates (registry : Registry) (env : UpdateEnv E T) (spec : GraphSpec)
    (name : String) : Prop :=
  forall node, findNode spec name = some node ->
    Exists fun prepared : PreparedNode E T =>
      PreparedNode.new registry env.restore node = .ok prepared ∧
        env.restoreSpawn node.name prepared.elements.length = none

/-- All workers are live, or belong to nodes that an update joins. -/
structure LiveOutside (graph : RunningGraph T) (affected : List String) : Prop where
  running : graph.stop = false
  live : forall node, node ∈ graph.spec.nodes ->
    Exists fun workers : LiveNode => graph.workers[node.name]? = some workers ∧
      (node.name ∉ affected -> workers.stop = false ∧
        workers.workers.length = node.threads.getD 1)

/-- A refused update restores a graph whose workers are all live.  A planned
one does so if no affected node ends badly, or if some node that was joined
before cannot be spawned again, which leaves the graph failed. -/
def Restores (registry : Registry) (env : UpdateEnv E T) (graph : RunningGraph T) :
    Course E T -> Prop
  | .idle => True
  | .refused => graph.AllLive
  | .planned plan =>
      (forall name, name ∈ joinedFirst env graph.workers plan.affected.keys ->
        Recreates registry env graph.spec name) ->
      (forall name, name ∈ plan.affected.keys -> endsCleanly env graph.workers name = true) ∧
        (env.afterQuiesce = true -> graph.LiveOutside plan.affected.keys)

/-! ## Stopping and joining -/

theorem endsCleanly_raised (env : UpdateEnv E T) (names : List String)
    (workers : Std.TreeMap String LiveNode) :
    endsCleanly env (names.foldl raiseStop workers) = endsCleanly env workers := by
  funext name
  unfold endsCleanly
  rw [raiseStops_lookup]
  cases workers[name]? with
  | none => rfl
  | some node =>
      rw [Option.map_some]
      dsimp only
      by_cases raised : name ∈ names
      · rw [if_pos raised]
      · rw [if_neg raised]

theorem joinedFirst_raised (env : UpdateEnv E T) (raised names : List String)
    (workers : Std.TreeMap String LiveNode) :
    joinedFirst env (raised.foldl raiseStop workers) names = joinedFirst env workers names := by
  unfold joinedFirst
  rw [endsCleanly_raised]
  refine List.filter_congr fun name _ => ?_
  rw [hasWorkers, hasWorkers, decide_eq_decide, mem_raised]

theorem joinedFirst_nodup (env : UpdateEnv E T) (workers : Std.TreeMap String LiveNode)
    {names : List String} (distinct : names.Nodup) : (joinedFirst env workers names).Nodup :=
  (distinct.sublist (List.takeWhile_sublist _)).filter _

theorem mem_joinedFirst {env : UpdateEnv E T} {workers : Std.TreeMap String LiveNode}
    {names : List String} {name : String} :
    name ∈ joinedFirst env workers names <->
      name ∈ names.takeWhile (endsCleanly env workers) ∧ name ∈ workers := by
  rw [joinedFirst, List.mem_filter, hasWorkers, decide_eq_true_eq]

/-- What is left when joining ended at a node that ends badly. -/
structure JoinFailed (env : UpdateEnv E T) (whole workers : Std.TreeMap String LiveNode)
    (names : List String) (left : Std.TreeMap String LiveNode) (bad : String) : Prop where
  member : bad ∈ names
  dirty : endsCleanly env whole bad = false
  gone : bad ∉ left
  cleared : forall name : String, name ∈ names.takeWhile (endsCleanly env whole) -> name ∉ left
  shrinks : forall name : String, name ∈ left -> name ∈ workers

/-- What is left when all affected nodes were joined. -/
structure AllJoined (env : UpdateEnv E T) (whole workers : Std.TreeMap String LiveNode)
    (names : List String) (left : Std.TreeMap String LiveNode) : Prop where
  clean : forall name : String, name ∈ names -> endsCleanly env whole name = true
  lookup : forall name : String, left[name]? = if name ∈ names then none else workers[name]?

section Joining

variable {env : UpdateEnv E T} {whole workers later left : Std.TreeMap String LiveNode}
variable {name bad : String} {names : List String}

/-- A node that ends cleanly comes before one that does not. -/
theorem JoinFailed.cons (failed : JoinFailed env whole later names left bad)
    (clean : endsCleanly env whole name = true)
    (without : forall other : String, later[other]? =
      if name = other then none else workers[other]?) :
    JoinFailed env whole workers (name :: names) left bad := by
  refine ⟨List.mem_cons_of_mem _ failed.member, failed.dirty, failed.gone,
    fun other member => ?_, fun other member => ?_⟩
  · rw [List.takeWhile_cons_of_pos clean] at member
    rcases List.mem_cons.mp member with rfl | member
    · intro inLeft
      have found := failed.shrinks _ inLeft
      rw [Std.TreeMap.mem_iff_isSome_getElem?, without, if_pos rfl] at found
      cases found
    · exact failed.cleared other member
  · have found := failed.shrinks other member
    rw [Std.TreeMap.mem_iff_isSome_getElem?, without] at found
    split at found
    · cases found
    · exact Std.TreeMap.mem_iff_isSome_getElem?.mpr found

theorem AllJoined.cons (all : AllJoined env whole later names left)
    (clean : endsCleanly env whole name = true)
    (without : forall other : String, later[other]? =
      if name = other then none else workers[other]?) :
    AllJoined env whole workers (name :: names) left := by
  refine ⟨fun other member => ?_, fun other => ?_⟩
  · rcases List.mem_cons.mp member with rfl | member
    · exact clean
    · exact all.clean other member
  · rw [all.lookup, without]
    by_cases isName : name = other
    · rw [if_pos isName, ite_self, if_pos (List.mem_cons.mpr (Or.inl isName.symm))]
    · have further : other ∈ name :: names <-> other ∈ names := by
        rw [List.mem_cons, or_iff_right (fun isHead => isName isHead.symm)]
      simp only [if_neg isName, further]

end Joining

/-- The loop that joins the affected nodes.  The nodes ahead still have the
workers they had when the loop began. -/
theorem joinAffected_outcome (env : UpdateEnv E T) (removed : List String)
    (whole : Std.TreeMap String LiveNode) {names : List String} (distinct : names.Nodup)
    (workers : Std.TreeMap String LiveNode) (records : NodeRecords T)
    (joined : List String)
    (ahead : forall name : String, name ∈ names -> workers[name]? = whole[name]?) :
    (Exists fun left => Exists fun kept => Exists fun error => Exists fun bad =>
      joinAffected env.ends removed workers records joined names =
        (left, kept, joined ++ joinedFirst env whole names, some error) ∧
      JoinFailed env whole workers names left bad) ∨
    (Exists fun left => Exists fun kept =>
      joinAffected env.ends removed workers records joined names =
        (left, kept, joined ++ joinedFirst env whole names, none) ∧
      AllJoined env whole workers names left) := by
  induction names generalizing workers records joined with
  | nil =>
      refine Or.inr ⟨workers, records, ?_, fun _ impossible => (by cases impossible), fun name => ?_⟩
      · rw [joinAffected, joinedFirst, List.takeWhile_nil, List.filter_nil, List.append_nil]
      · rw [if_neg List.not_mem_nil]
  | cons name names ih =>
      rw [List.nodup_cons] at distinct
      have here := ahead name List.mem_cons_self
      unfold joinAffected
      cases found : workers[name]? with
      | none =>
          rw [found] at here
          have clean : endsCleanly env whole name = true := by
            rw [endsCleanly, ← here]
          have without : forall other : String, workers[other]? =
              if name = other then none else workers[other]? := by
            intro other
            by_cases isName : name = other
            · rw [if_pos isName, ← isName, found]
            · rw [if_neg isName]
          have skipped : ¬ hasWorkers whole name = true := by
            rw [hasWorkers, decide_eq_true_eq, Std.TreeMap.mem_iff_isSome_getElem?, ← here]
            exact Bool.false_ne_true
          have same : joinedFirst env whole (name :: names) = joinedFirst env whole names := by
            rw [joinedFirst, List.takeWhile_cons_of_pos clean, List.filter_cons_of_neg skipped]
            rfl
          rw [same]
          rcases ih distinct.2 workers (if name ∈ removed then records.remove name else records) joined
            (fun other member => ahead other (List.mem_cons_of_mem _ member)) with
            ⟨left, kept, error, bad, joins, failed⟩ | ⟨left, kept, joins, all⟩
          · exact Or.inl ⟨left, kept, error, bad, joins, failed.cons clean without⟩
          · exact Or.inr ⟨left, kept, joins, all.cons clean without⟩
      | some node =>
          rw [found] at here
          have worked : hasWorkers whole name = true := by
            rw [hasWorkers, decide_eq_true_eq, Std.TreeMap.mem_iff_isSome_getElem?, ← here]
            rfl
          dsimp only
          cases ended : joinWorkers true name env.ends node.workers with
          | error error =>
              have dirty : endsCleanly env whole name = false := by
                rw [endsCleanly, ← here]
                dsimp only
                rw [ended]
                rfl
              have nothing : (name :: names).takeWhile (endsCleanly env whole) = [] :=
                List.takeWhile_cons_of_neg (by rw [dirty]; exact Bool.false_ne_true)
              refine Or.inl ⟨workers.erase name, records, error, name, ?_, List.mem_cons_self, dirty,
                ?_, fun other member => ?_, fun other member => ?_⟩
              · rw [joinedFirst, nothing, List.filter_nil, List.append_nil]
              · rw [OrderedMap.mem_erase]
                exact fun both => both.1 rfl
              · rw [nothing] at member
                cases member
              · exact ((OrderedMap.mem_erase _ _ _).mp member).2
          | ok _ =>
              have clean : endsCleanly env whole name = true := by
                rw [endsCleanly, ← here]
                dsimp only
                rw [ended]
                rfl
              have first : joined ++ joinedFirst env whole (name :: names) =
                  joined ++ [name] ++ joinedFirst env whole names := by
                rw [joinedFirst, List.takeWhile_cons_of_pos clean, List.filter_cons_of_pos worked,
                  List.append_cons]
                rfl
              have stillAhead : forall other : String, other ∈ names ->
                  (workers.erase name)[other]? = whole[other]? := by
                intro other member
                rw [OrderedMap.getElem?_erase, if_neg]
                · exact ahead other (List.mem_cons_of_mem _ member)
                · exact fun same => distinct.1 (same ▸ member)
              rw [first]
              rcases ih distinct.2 (workers.erase name)
                (if name ∈ removed then records.remove name else records) (joined ++ [name]) stillAhead
                with ⟨left, kept, error, bad, joins, failed⟩ | ⟨left, kept, joins, all⟩
              · exact Or.inl ⟨left, kept, error, bad, joins,
                  failed.cons clean (OrderedMap.getElem?_erase workers name)⟩
              · exact Or.inr ⟨left, kept, joins,
                  all.cons clean (OrderedMap.getElem?_erase workers name)⟩

/-! ## Spawning the joined nodes again -/

theorem findNode_some {spec : GraphSpec} {name : String} {node : NodeSpec}
    (found : findNode spec name = some node) : node ∈ spec.nodes ∧ node.name = name := by
  unfold findNode at found
  have holds := List.find?_some found
  exact ⟨List.mem_of_find?_eq_some found, of_decide_eq_true holds⟩

private theorem findNode_of_mem {spec : GraphSpec} (accepted : spec.Accepted) {node : NodeSpec}
    (member : node ∈ spec.nodes) : findNode spec node.name = some node := by
  cases found : findNode spec node.name with
  | none =>
      unfold findNode at found
      rw [List.find?_eq_none] at found
      exact absurd (decide_eq_true rfl) (found node member)
  | some other =>
      rcases findNode_some found with ⟨otherMember, same⟩
      rw [List.inj_on_of_nodup_map accepted.names otherMember member same]

/-- The graph after some of its nodes were spawned again. -/
private structure Respawned (names : List String) (before after : RunningGraph T) : Prop where
  spec : after.spec = before.spec
  policy : after.policy = before.policy
  routes : after.routes = before.routes
  status : after.status = before.status
  stop : after.stop = before.stop
  others : forall name : String, name ∉ names -> after.workers[name]? = before.workers[name]?
  live : forall node, node ∈ before.spec.nodes -> node.name ∈ names ->
    Exists fun workers : LiveNode => after.workers[node.name]? = some workers ∧
      workers.stop = false ∧ workers.workers.length = node.threads.getD 1

private theorem Consistent.prepared_workers {graph : RunningGraph T}
    (consistent : graph.Consistent) {node : NodeSpec} (member : node ∈ graph.spec.nodes)
    {registry : Registry} {create : Creation E T} {prepared : PreparedNode E T}
    (prepares : PreparedNode.new registry create node = .ok prepared) :
    prepared.elements.length = node.threads.getD 1 := by
  rw [RuntimeGraph.prepared_length prepares]
  have positive := consistent.accepted.threads node member
  cases count : node.threads with
  | none => rfl
  | some threads =>
      rw [count] at positive
      have nonzero : threads ≠ 0 := fun zero => positive (congrArg some zero)
      rw [Option.getD_some]
      omega

/-- One more node is spawned on unchanged routes, or cannot be. -/
private theorem Consistent.launch_outcome {graph : RunningGraph T}
    (consistent : graph.Consistent) (spawn : Spawning) (policy : ResourcePolicy)
    (name : String) (prepared : PreparedNode E T) :
    (spawn name prepared.elements.length = none ∧ Exists fun after =>
      launch spawn policy graph.spec.connections graph name prepared = (after, .ok ()) ∧
        Launched name prepared.elements.length graph after) ∨
    (spawn name prepared.elements.length ≠ none ∧ Exists fun after => Exists fun error =>
      launch spawn policy graph.spec.connections graph name prepared = (after, .error error)) := by
  cases launches : launch spawn policy graph.spec.connections graph name prepared with
  | mk after outcome =>
      have whole := launches
      unfold launch at launches
      rw [consistent.checkRoutes_ok name fun _ member => member] at launches
      dsimp only at launches
      cases answer : spawn name prepared.elements.length with
      | none =>
          rw [answer] at launches
          cases launches
          exact Or.inl ⟨rfl, _, rfl, launch_ok whole⟩
      | some reason =>
          rw [answer] at launches
          cases launches
          exact Or.inr ⟨fun impossible => (by cases impossible), _, _, rfl⟩

private theorem respawnNodes_outcome (registry : Registry) (env : UpdateEnv E T)
    (policy : ResourcePolicy) {spec : GraphSpec} {names : List String} (distinct : names.Nodup)
    (named : forall name, name ∈ names -> name ∈ spec.nodes.map NodeSpec.name)
    {graph : RunningGraph T} (consistent : graph.Consistent) (stored : graph.spec = spec)
    (absent : forall name : String, name ∈ names -> name ∉ graph.workers) :
    ((forall name, name ∈ names -> Recreates registry env spec name) ∧ Exists fun after =>
      respawnNodes registry env policy spec graph names = (after, .ok ()) ∧
        Respawned names graph after) ∨
    ((¬ forall name, name ∈ names -> Recreates registry env spec name) ∧
      Exists fun after => Exists fun error =>
        respawnNodes registry env policy spec graph names = (after, .error error)) := by
  induction names generalizing graph with
  | nil =>
      refine Or.inl ⟨fun _ impossible => (by cases impossible), graph, rfl, rfl, rfl, rfl, rfl, rfl,
        fun _ _ => rfl, fun _ _ impossible => (by cases impossible)⟩
  | cons name names ih =>
      rw [List.nodup_cons] at distinct
      rcases List.mem_map.mp (named name List.mem_cons_self) with ⟨node, member, isName⟩
      subst stored
      have found : findNode graph.spec name = some node := by
        rw [← isName]
        exact findNode_of_mem consistent.accepted member
      unfold respawnNodes
      rw [found]
      dsimp only
      rw [if_neg (absent name List.mem_cons_self)]
      cases prepares : PreparedNode.new registry env.restore node with
      | error error =>
          refine Or.inr ⟨fun recreates => ?_, graph, error, rfl⟩
          rcases recreates name List.mem_cons_self node found with ⟨prepared, succeeds, _⟩
          rw [prepares] at succeeds
          cases succeeds
      | ok prepared =>
          dsimp only
          rcases consistent.launch_outcome env.restoreSpawn policy node.name prepared with
            ⟨spawns, after, launched, one⟩ | ⟨blocked, after, error, launched⟩
          · rw [launched]
            dsimp only
            have again : Recreates registry env graph.spec name := by
              intro other foundOther
              rw [found] at foundOther
              cases foundOther
              exact ⟨prepared, prepares, spawns⟩
            have next : after.Consistent := by
              refine consistent.of_workers one.spec one.policy one.routes fun other inWorkers => ?_
              rw [one.workers, OrderedMap.mem_insert] at inWorkers
              rcases inWorkers with rfl | inWorkers
              · exact List.mem_map_of_mem member
              · exact consistent.known other inWorkers
            have stillAbsent : forall other : String, other ∈ names -> other ∉ after.workers := by
              intro other inNames inWorkers
              rw [one.workers, OrderedMap.mem_insert] at inWorkers
              rcases inWorkers with same | inWorkers
              · rw [← same, isName] at inNames
                exact distinct.1 inNames
              · exact absent other (List.mem_cons_of_mem _ inNames) inWorkers
            rcases ih distinct.2
              (fun other inNames => named other (List.mem_cons_of_mem _ inNames)) next one.spec
              stillAbsent with
              ⟨recreates, final, spawned, respawned⟩ | ⟨stuck, final, error, failed⟩
            · refine Or.inl ⟨fun other inNames => ?_, final, spawned,
                respawned.spec.trans one.spec, respawned.policy.trans one.policy,
                respawned.routes.trans one.routes, respawned.status.trans one.status,
                respawned.stop.trans one.stop, fun other outside => ?_,
                fun other inSpec inNames => ?_⟩
              · rcases List.mem_cons.mp inNames with rfl | inNames
                · exact again
                · exact recreates other inNames
              · rw [List.mem_cons, not_or] at outside
                rw [respawned.others other outside.2, one.workers, OrderedMap.getElem?_insert,
                  if_neg]
                exact fun same => outside.1 (same.symm.trans isName)
              · by_cases later : other.name ∈ names
                · exact respawned.live other (one.spec ▸ inSpec) later
                · have isNode : other = node := by
                    apply List.inj_on_of_nodup_map consistent.accepted.names inSpec member
                    rcases List.mem_cons.mp inNames with isHead | inNames
                    · exact isHead.trans isName.symm
                    · exact absurd inNames later
                  rw [respawned.others other.name later, one.workers, isNode,
                    OrderedMap.getElem?_insert, if_pos rfl]
                  refine ⟨_, rfl, rfl, ?_⟩
                  rw [List.length_range', consistent.prepared_workers member prepares]
            · refine Or.inr ⟨fun recreates => ?_, final, error, failed⟩
              exact stuck fun other inNames => recreates other (List.mem_cons_of_mem _ inNames)
          · rw [launched]
            refine Or.inr ⟨fun recreates => ?_, after, error, rfl⟩
            rcases recreates name List.mem_cons_self node found with ⟨other, succeeds, spawns⟩
            rw [prepares] at succeeds
            cases succeeds
            exact blocked spawns

private theorem rollBack_outcome (registry : Registry) (env : UpdateEnv E T)
    {graph : RunningGraph T} (consistent : graph.Consistent) {joined : List String}
    (distinct : joined.Nodup)
    (named : forall name, name ∈ joined -> name ∈ graph.spec.nodes.map NodeSpec.name)
    (absent : forall name : String, name ∈ joined -> name ∉ graph.workers)
    (error unrestored : Error) :
    ((forall name, name ∈ joined -> Recreates registry env graph.spec name) ∧
      Exists fun after => rollBack registry env graph joined error unrestored =
        (after, .error error) ∧ Respawned joined graph after) ∨
    ((¬ forall name, name ∈ joined -> Recreates registry env graph.spec name) ∧
      Exists fun after => rollBack registry env graph joined error unrestored =
        (after, .error unrestored) ∧ after.status = .failed) := by
  rcases consistent.granted with ⟨effective, granted⟩
  unfold rollBack respawnNodesFromSpec
  rw [granted]
  dsimp only
  rcases respawnNodes_outcome registry env effective distinct named consistent rfl absent with
    ⟨recreates, after, spawned, respawned⟩ | ⟨stuck, after, restoreError, failed⟩
  · rw [spawned]
    exact Or.inl ⟨recreates, after, rfl, respawned⟩
  · rw [failed]
    exact Or.inr ⟨stuck, _, rfl, rfl⟩

/-! ## Switching the routes -/

/-- From the switch on, an update succeeds or leaves the graph failed. -/
private theorem switchAndSpawn_outcome (env : UpdateEnv E T) (plan : Plan E T)
    (candidate : GraphSpec) (graph : RunningGraph T)
    (switches : Exists fun switch => switchEdges candidate.execution plan.affected
      ⟨graph.routes.edges, {}, [], graph.nextPipe⟩ candidate.connections = (switch, .ok ())) :
    (switchAndSpawn env plan candidate graph).2 = .ok () ∨
      (switchAndSpawn env plan candidate graph).1.status = .failed := by
  rcases switches with ⟨switch, switched⟩
  unfold switchAndSpawn
  rw [switched]
  dsimp only
  split
  · exact Or.inr rfl
  · split
    · exact Or.inr rfl
    · split
      · exact Or.inr rfl
      · exact Or.inl rfl

/-! ## The update -/

/-- Whether a graph is all live does not depend on its status. -/
private theorem allLive_setStatus {graph : RunningGraph T} {status : GraphStatus} :
    (graph.setStatus status).AllLive <-> graph.AllLive :=
  ⟨fun live => ⟨live.running, live.live⟩, fun live => ⟨live.running, live.live⟩⟩

private theorem restored_of_ok {before : RunningGraph T}
    {after : RunningGraph T × Except Error Unit} (ok : after.2 = .ok ()) :
    Restored before after := by
  rintro ⟨error, failed⟩
  rw [ok] at failed
  cases failed

private theorem restored_of_failed {before : RunningGraph T}
    {after : RunningGraph T × Except Error Unit} (failed : after.1.status = .failed) :
    Restored before after := by
  intro _ alive
  exact absurd failed alive

/-- What an update under the reloading status restores. -/
private theorem reload_restored {registry : Registry} {env : UpdateEnv E T}
    {graph : RunningGraph T} {diff : GraphDiff} {candidate : GraphSpec}
    {result : RunningGraph T × Except Error Unit}
    (runs : applyHotUpdateCandidate registry env (graph.setStatus .reloading) diff candidate =
      result) :
    Restored graph (graph.reload registry env diff candidate) <-> Restored graph result := by
  unfold reload
  rw [runs]
  rcases result with ⟨after, error | ok⟩
  · dsimp only
    by_cases failed : after.status = .failed
    · rw [if_pos failed]
    · rw [if_neg failed]
      unfold Restored
      refine forall_congr' fun _ => ?_
      simp only [allLive_setStatus]
      exact ⟨fun restored _ => restored (fun impossible => by cases impossible),
        fun restored _ => restored failed⟩
  · exact ⟨fun _ => restored_of_ok rfl, fun _ => restored_of_ok rfl⟩

/-- A graph whose affected nodes were all joined and spawned again is live if
it was live outside these nodes, and all of these had workers. -/
private theorem respawned_live {env : UpdateEnv E T} {graph quiesced after : RunningGraph T}
    {names : List String}
    (clean : forall name, name ∈ names -> endsCleanly env graph.workers name = true)
    (specs : quiesced.spec = graph.spec) (stops : quiesced.stop = graph.stop)
    (lookup : forall name : String, quiesced.workers[name]? =
      if name ∈ names then none else graph.workers[name]?)
    (respawned : Respawned (joinedFirst env graph.workers names) quiesced after) :
    after.AllLive <-> graph.LiveOutside names := by
  have joined : forall name, name ∈ joinedFirst env graph.workers names <->
      name ∈ names ∧ name ∈ graph.workers := by
    intro name
    rw [mem_joinedFirst, List.takeWhile_eq_self_iff.mpr clean]
  have outside : forall name : String, name ∉ names ->
      after.workers[name]? = graph.workers[name]? := by
    intro name notNamed
    rw [respawned.others name (fun inside => notNamed ((joined name).mp inside).1), lookup,
      if_neg notNamed]
  have spec : after.spec = graph.spec := respawned.spec.trans specs
  have stop : after.stop = graph.stop := respawned.stop.trans stops
  constructor
  · intro live
    refine ⟨stop ▸ live.running, fun node member => ?_⟩
    rcases live.live node (spec.symm ▸ member) with ⟨workers, found, lowered, count⟩
    by_cases inside : node.name ∈ names
    · by_cases worked : node.name ∈ graph.workers
      · rcases (OrderedMap.mem_iff _ _).mp worked with ⟨old, was⟩
        exact ⟨old, was, fun notNamed => absurd inside notNamed⟩
      · rw [respawned.others node.name (fun isJoined => worked ((joined _).mp isJoined).2), lookup,
          if_pos inside] at found
        cases found
    · rw [outside node.name inside] at found
      exact ⟨workers, found, fun _ => ⟨lowered, count⟩⟩
  · intro live
    refine ⟨stop.trans live.running, fun node member => ?_⟩
    rw [spec] at member
    rcases live.live node member with ⟨workers, found, others⟩
    by_cases inside : node.name ∈ names
    · have worked : node.name ∈ graph.workers := (OrderedMap.mem_iff _ _).mpr ⟨workers, found⟩
      exact respawned.live node (specs.symm ▸ member) ((joined _).mpr ⟨inside, worked⟩)
    · rcases others inside with ⟨lowered, count⟩
      exact ⟨workers, (outside node.name inside).trans found, lowered, count⟩

/-- The loop that joins the affected nodes, once they have all been told to
stop. -/
theorem joinRaised_outcome (env : UpdateEnv E T) (removed : List String) (graph : RunningGraph T)
    {names : List String} (distinct : names.Nodup) :
    (Exists fun left => Exists fun kept => Exists fun error => Exists fun bad =>
      joinAffected env.ends removed (names.foldl raiseStop graph.workers) graph.records [] names =
        (left, kept, joinedFirst env graph.workers names, some error) ∧
      JoinFailed env (names.foldl raiseStop graph.workers) (names.foldl raiseStop graph.workers)
        names left bad) ∨
    (Exists fun left => Exists fun kept =>
      joinAffected env.ends removed (names.foldl raiseStop graph.workers) graph.records [] names =
        (left, kept, joinedFirst env graph.workers names, none) ∧
      AllJoined env (names.foldl raiseStop graph.workers) (names.foldl raiseStop graph.workers)
        names left) := by
  have joins := joinAffected_outcome env removed (names.foldl raiseStop graph.workers) distinct
    (names.foldl raiseStop graph.workers) graph.records [] fun _ _ => rfl
  rw [List.nil_append, joinedFirst_raised] at joins
  exact joins

/-- The graph without the workers that were joined is as consistent as before. -/
private theorem consistent_joined {graph : RunningGraph T} (consistent : graph.Consistent)
    {left : Std.TreeMap String LiveNode} (kept : NodeRecords T)
    (shrinks : forall name : String, name ∈ left -> name ∈ graph.workers) :
    RunningGraph.Consistent
      { graph with
        status := .reloading, workers := left
        sinks := kept.sinks, metrics := kept.metrics } :=
  consistent.of_workers rfl rfl rfl fun name member => consistent.known name (shrinks name member)

/-- A node whose join failed is never spawned again, so the graph is restored
only in that it is left failed. -/
private theorem interrupted_restored (registry : Registry) {env : UpdateEnv E T}
    (graph : RunningGraph T) {quiesced : RunningGraph T} (consistent : quiesced.Consistent)
    (specs : quiesced.spec = graph.spec) {names : List String} (distinct : names.Nodup)
    (known : forall name : String, name ∈ graph.workers ->
      name ∈ graph.spec.nodes.map NodeSpec.name)
    (cleared : forall name : String, name ∈ names.takeWhile (endsCleanly env graph.workers) ->
      name ∉ quiesced.workers)
    (alive : quiesced.status ≠ .failed) {bad : String}
    (dirty : endsCleanly env graph.workers bad = false) (gone : bad ∉ quiesced.workers)
    (error : Error) :
    Restored graph (rollBack registry env quiesced (joinedFirst env graph.workers names) error
      error) <->
      ¬ forall name, name ∈ joinedFirst env graph.workers names ->
        Recreates registry env graph.spec name := by
  have named : forall name, name ∈ joinedFirst env graph.workers names ->
      name ∈ quiesced.spec.nodes.map NodeSpec.name :=
    fun name member => specs.symm ▸ known name (mem_joinedFirst.mp member).2
  have absent : forall name : String, name ∈ joinedFirst env graph.workers names ->
      name ∉ quiesced.workers :=
    fun name member => cleared name (mem_joinedFirst.mp member).1
  have outcome := rollBack_outcome registry env consistent
    (joinedFirst_nodup env graph.workers distinct) named absent error error
  rw [specs] at outcome
  rcases outcome with ⟨recreates, after, rolled, respawned⟩ | ⟨stuck, after, rolled, failed⟩
  · rw [rolled]
    refine ⟨fun restored => ?_, fun impossible => absurd recreates impossible⟩
    have badNode : bad ∈ graph.spec.nodes.map NodeSpec.name := by
      apply known bad
      rw [OrderedMap.mem_iff]
      cases found : graph.workers[bad]? with
      | none =>
          rw [endsCleanly, found] at dirty
          cases dirty
      | some node => exact ⟨node, rfl⟩
    rcases List.mem_map.mp badNode with ⟨node, member, isBad⟩
    rcases restored ⟨error, rfl⟩ (respawned.status ▸ alive) with ⟨_, _, live⟩
    have inSpec : node ∈ after.spec.nodes := by
      rw [respawned.spec, specs]
      exact member
    have notJoined : bad ∉ joinedFirst env graph.workers names := by
      intro joined
      have clean := List.mem_takeWhile_imp (mem_joinedFirst.mp joined).1
      rw [dirty] at clean
      cases clean
    rcases live.live node inSpec with ⟨workers, found, _⟩
    rw [isBad, respawned.others bad notJoined] at found
    exact absurd ((OrderedMap.mem_iff _ _).mpr ⟨workers, found⟩) gone
  · rw [rolled]
    exact ⟨fun _ => stuck, fun _ => restored_of_failed failed⟩

/-- A failure after all nodes were joined. -/
private theorem rolledBack_restored (registry : Registry) {env : UpdateEnv E T}
    (graph : RunningGraph T) {quiesced : RunningGraph T} (consistent : quiesced.Consistent)
    (specs : quiesced.spec = graph.spec) (routes : quiesced.routes = graph.routes)
    (stops : quiesced.stop = graph.stop) (alive : quiesced.status ≠ .failed)
    {names : List String} (distinct : names.Nodup)
    (known : forall name : String, name ∈ graph.workers ->
      name ∈ graph.spec.nodes.map NodeSpec.name)
    (clean : forall name, name ∈ names -> endsCleanly env graph.workers name = true)
    (lookup : forall name : String, quiesced.workers[name]? =
      if name ∈ names then none else graph.workers[name]?)
    (error unrestored : Error) :
    Restored graph (rollBack registry env quiesced (joinedFirst env graph.workers names) error
      unrestored) <->
      ((forall name, name ∈ joinedFirst env graph.workers names ->
        Recreates registry env graph.spec name) -> graph.LiveOutside names) := by
  have named : forall name, name ∈ joinedFirst env graph.workers names ->
      name ∈ quiesced.spec.nodes.map NodeSpec.name :=
    fun name member => specs.symm ▸ known name (mem_joinedFirst.mp member).2
  have absent : forall name : String, name ∈ joinedFirst env graph.workers names ->
      name ∉ quiesced.workers := by
    intro name member
    have inNames : name ∈ names :=
      (List.takeWhile_sublist _).subset (mem_joinedFirst.mp member).1
    rw [Std.TreeMap.mem_iff_isSome_getElem?, lookup, if_pos inNames]
    exact Bool.false_ne_true
  have outcome := rollBack_outcome registry env consistent
    (joinedFirst_nodup env graph.workers distinct) named absent error unrestored
  rw [specs] at outcome
  rcases outcome with ⟨recreates, after, rolled, respawned⟩ | ⟨stuck, after, rolled, failed⟩
  · rw [rolled]
    have live := respawned_live clean specs stops lookup respawned
    constructor
    · intro restored _
      exact live.mp (restored ⟨error, rfl⟩ (respawned.status ▸ alive)).2.2
    · intro outside _ _
      exact ⟨respawned.spec.trans specs, respawned.routes.trans routes,
        live.mpr (outside recreates)⟩
  · rw [rolled]
    exact ⟨fun _ recreates => absurd recreates stuck, fun _ => restored_of_failed failed⟩

/-- A planned update restores the graph exactly if its condition holds. -/
private theorem planned_restored {registry : Registry} {env : UpdateEnv E T}
    {graph : RunningGraph T} (consistent : graph.Consistent) {diff : GraphDiff}
    {candidate : GraphSpec} (covers : GraphSpec.Covers graph.spec candidate diff)
    {plan : Plan E T} (planned : RunningGraph.plan registry env graph diff candidate = .ok plan) :
    Restored graph (applyHotUpdateCandidate registry env (graph.setStatus .reloading) diff
      candidate) <-> Restores registry env graph (.planned plan) := by
  rcases plan_ok planned with ⟨_, accepted, named⟩
  have distinct : plan.affected.keys.Nodup := OrderedMap.nodup_keys plan.affected
  have reloading : RunningGraph.plan registry env (graph.setStatus .reloading) diff candidate =
      .ok plan := planned
  have joins := joinRaised_outcome env diff.removedNodes graph distinct
  dsimp only [RunningGraph.records] at joins
  unfold applyHotUpdateCandidate
  rw [reloading]
  dsimp only [setStatus, RunningGraph.records, RunningGraph.quiesced]
  rcases joins with ⟨left, kept, error, bad, joins, failed⟩ | ⟨left, kept, joins, all⟩
  · rw [joins]
    dsimp only
    have quiesced := consistent_joined consistent kept fun name member =>
      (mem_raised _ _ _).mp (failed.shrinks name member)
    have cleared := failed.cleared
    have dirty := failed.dirty
    rw [endsCleanly_raised] at cleared dirty
    rw [interrupted_restored registry graph quiesced rfl distinct consistent.known cleared
      (fun impossible => by cases impossible) dirty failed.gone error]
    constructor
    · intro stuck recreates
      exact absurd recreates stuck
    · intro restores recreates
      rw [(restores recreates).1 bad failed.member] at dirty
      cases dirty
  · rw [joins]
    dsimp only
    have lookup : forall name : String, left[name]? =
        if name ∈ plan.affected.keys then none else graph.workers[name]? := by
      intro name
      rw [all.lookup, raiseStops_lookup]
      by_cases inside : name ∈ plan.affected.keys
      · rw [if_pos inside, if_pos inside]
      · simp only [if_neg inside, Option.map_id']
    have clean := all.clean
    rw [endsCleanly_raised] at clean
    have shrinks : forall name : String, name ∈ left -> name ∈ graph.workers := by
      intro name member
      rw [Std.TreeMap.mem_iff_isSome_getElem?, lookup] at member
      split at member
      · cases member
      · exact Std.TreeMap.mem_iff_isSome_getElem?.mpr member
    have quiesced := consistent_joined consistent kept shrinks
    cases fault : env.afterQuiesce with
    | true =>
        rw [if_pos rfl, rolledBack_restored registry graph quiesced rfl rfl rfl
          (fun impossible => by cases impossible) distinct consistent.known clean lookup]
        constructor
        · intro outside recreates
          exact ⟨clean, fun _ => outside recreates⟩
        · intro restores recreates
          exact (restores recreates).2 fault
    | false =>
        rw [if_neg Bool.false_ne_true]
        have switched := switchAndSpawn_outcome env plan candidate
          { graph with
            status := .reloading, workers := left
            sinks := kept.sinks, metrics := kept.metrics }
          (quiesced.switches accepted covers named graph.nextPipe)
        constructor
        · intro _ _
          refine ⟨clean, fun impossible => ?_⟩
          rw [fault] at impossible
          cases impossible
        · intro _
          rcases switched with ok | failed
          · exact restored_of_ok ok
          · exact restored_of_failed failed

/-! ## Which requests are planned -/

/-- A candidate that can be planned passes the checks before the reload. -/
private theorem passes_of_plan {registry : Registry} {env : UpdateEnv E T}
    {graph : RunningGraph T} {request : Request} {plan : Plan E T}
    (planned : RunningGraph.plan registry env graph (request.toDiff graph.spec)
      (request.candidate graph.spec) = .ok plan) :
    request.passes registry graph.policy = true := by
  cases request with
  | changes diff => rfl
  | whole spec =>
      unfold RunningGraph.plan at planned
      rcases Outcome.bind_ok planned with ⟨effective, granted, planned⟩
      rcases Outcome.bind_ok planned with ⟨_, validated, _⟩
      change effectiveLimits graph.policy spec = .ok effective at granted
      change spec.validateWithPolicy registry effective = _ at validated
      rw [Request.passes, granted]
      dsimp only
      rw [validated]
      rfl

/-- A request that has nothing more to do succeeds. -/
theorem hotUpdate_idle {registry : Registry} {env : UpdateEnv E T}
    {graph : RunningGraph T} {request : Request}
    (idle : course registry env graph request = .idle) :
    (graph.hotUpdate registry env request).2 = .ok () := by
  unfold course at idle
  split at idle
  · rename_i empty
    split at idle
    · rename_i quiet
      cases request with
      | changes diff =>
          change diff.isEmpty = true at empty
          rw [hotUpdate, applyHotUpdate, if_pos empty]
      | whole spec =>
          change (GraphSpec.diff graph.spec spec).isEmpty = true at empty
          change (Request.passes registry graph.policy (.whole spec) ||
            !configChanged graph.spec spec) = true at quiet
          rw [hotUpdate, applyHotUpdateSpec]
          dsimp only
          rw [empty, Bool.true_and]
          cases unchanged : configChanged graph.spec spec with
          | false => rfl
          | true =>
              rw [unchanged, Bool.not_true, Bool.or_false, Request.passes] at quiet
              rw [Bool.not_true, if_neg Bool.false_ne_true]
              cases limits : effectiveLimits graph.policy spec with
              | error error =>
                  rw [limits] at quiet
                  cases quiet
              | ok effective =>
                  rw [limits] at quiet
                  dsimp only at quiet ⊢
                  cases checked : spec.validateWithPolicy registry effective with
                  | error error =>
                      rw [checked] at quiet
                      cases quiet
                  | ok _ => rfl
    · cases idle
  · cases planned : RunningGraph.plan registry env graph (request.toDiff graph.spec)
      (request.candidate graph.spec) with
    | error error =>
        rw [planned] at idle
        cases idle
    | ok plan =>
        rw [planned] at idle
        cases idle

/-- A candidate that fails the checks before the reload changes nothing. -/
private theorem hotUpdate_unchecked {registry : Registry} (env : UpdateEnv E T)
    {graph : RunningGraph T} {request : Request}
    (unchecked : request.passes registry graph.policy = false)
    (asked : (request.toDiff graph.spec).isEmpty = false ∨
      configChanged graph.spec (request.candidate graph.spec) = true) :
    Exists fun error => graph.hotUpdate registry env request = (graph, .error error) := by
  cases request with
  | changes diff => cases unchecked
  | whole spec =>
      change (GraphSpec.diff graph.spec spec).isEmpty = false ∨
        configChanged graph.spec spec = true at asked
      have goesOn : ((GraphSpec.diff graph.spec spec).isEmpty &&
          !configChanged graph.spec spec) = false := by
        rcases asked with changed | changed
        · rw [changed, Bool.false_and]
        · rw [changed, Bool.not_true, Bool.and_false]
      rw [Request.passes] at unchecked
      rw [hotUpdate, applyHotUpdateSpec]
      rw [goesOn, if_neg Bool.false_ne_true]
      cases limits : effectiveLimits graph.policy spec with
      | error error => exact ⟨error, rfl⟩
      | ok effective =>
          rw [limits] at unchecked
          dsimp only at unchecked ⊢
          cases checked : spec.validateWithPolicy registry effective with
          | error error => exact ⟨error, rfl⟩
          | ok _ =>
              rw [checked] at unchecked
              cases unchecked

/-- A refused request leaves everything but the status as it is. -/
theorem hotUpdate_refused {registry : Registry} {env : UpdateEnv E T}
    {graph : RunningGraph T} {request : Request}
    (refused : course registry env graph request = .refused) :
    Exists fun error => Exists fun status => (status = graph.status ∨ status = .running) ∧
      graph.hotUpdate registry env request = (graph.setStatus status, .error error) := by
  cases passes : request.passes registry graph.policy with
  | false =>
      have asked : (request.toDiff graph.spec).isEmpty = false ∨
          configChanged graph.spec (request.candidate graph.spec) = true := by
        cases empty : (request.toDiff graph.spec).isEmpty with
        | false => exact Or.inl rfl
        | true =>
            right
            by_contra unchanged
            rw [Bool.not_eq_true] at unchanged
            rw [course, if_pos empty, passes, unchanged] at refused
            cases refused
      rcases hotUpdate_unchecked env passes asked with ⟨error, refuses⟩
      exact ⟨error, graph.status, Or.inl rfl, refuses⟩
  | true =>
      have changed : (request.toDiff graph.spec).isEmpty = false := by
        by_contra empty
        rw [Bool.not_eq_false] at empty
        rw [course, if_pos empty, passes] at refused
        cases refused
      have goes : graph.reloads registry request = true := by
        rw [reloads, changed, passes]
        rfl
      rw [course, changed] at refused
      cases planned : RunningGraph.plan registry env graph (request.toDiff graph.spec)
          (request.candidate graph.spec) with
      | ok plan =>
          rw [planned] at refused
          cases refused
      | error error =>
          have stays : applyHotUpdateCandidate registry env (graph.setStatus .reloading)
              (request.toDiff graph.spec) (request.candidate graph.spec) =
                (graph.setStatus .reloading, .error error) := by
            unfold applyHotUpdateCandidate
            change (match RunningGraph.plan registry env graph (request.toDiff graph.spec)
              (request.candidate graph.spec) with
              | .error error => _
              | .ok plan => _) = _
            rw [planned]
          refine ⟨error, .running, Or.inr rfl, ?_⟩
          rw [hotUpdate_of_reloads env goes, reload, stays]
          rfl

/-! ## The result -/

/-- A planned request has its plan, and reloads the graph. -/
theorem planned_of_course {registry : Registry} {env : UpdateEnv E T} {graph : RunningGraph T}
    {request : Request} {plan : Plan E T}
    (decided : course registry env graph request = .planned plan) :
    RunningGraph.plan registry env graph (request.toDiff graph.spec)
      (request.candidate graph.spec) = .ok plan ∧ graph.reloads registry request = true := by
  have changed : (request.toDiff graph.spec).isEmpty = false := by
    cases empty : (request.toDiff graph.spec).isEmpty with
    | false => rfl
    | true =>
        rw [course, if_pos empty] at decided
        split at decided <;> cases decided
  have planned : RunningGraph.plan registry env graph (request.toDiff graph.spec)
      (request.candidate graph.spec) = .ok plan := by
    rw [course, if_neg (by rw [changed]; exact Bool.false_ne_true)] at decided
    cases made : RunningGraph.plan registry env graph (request.toDiff graph.spec)
        (request.candidate graph.spec) with
    | error error =>
        rw [made] at decided
        cases decided
    | ok other =>
        rw [made] at decided
        cases decided
        rfl
  have goes : graph.reloads registry request = true := by
    rw [reloads, changed, passes_of_plan planned]
    rfl
  exact ⟨planned, goes⟩

/-- Whether a failed update restores a graph is decided by how the workers of
the affected nodes end.  If some of them end badly, then the graph is restored
only if the rollback fails too and says so. -/
theorem restored_iff {registry : Registry} {env : UpdateEnv E T} {graph : RunningGraph T}
    (consistent : graph.Consistent) (alive : graph.status ≠ .failed) (request : Request) :
    Restored graph (graph.hotUpdate registry env request) <->
      Restores registry env graph (course registry env graph request) := by
  cases decided : course registry env graph request with
  | idle => exact ⟨fun _ => trivial, fun _ => restored_of_ok (hotUpdate_idle decided)⟩
  | refused =>
      rcases hotUpdate_refused decided with ⟨error, status, isStatus, refuses⟩
      have notFailed : status ≠ .failed := by
        rcases isStatus with rfl | rfl
        · exact alive
        · exact fun impossible => by cases impossible
      rw [refuses]
      constructor
      · intro restored
        exact allLive_setStatus.mp (restored ⟨error, rfl⟩ notFailed).2.2
      · intro live _ _
        exact ⟨rfl, rfl, allLive_setStatus.mpr live⟩
  | planned plan =>
      rcases planned_of_course decided with ⟨planned, goes⟩
      rw [hotUpdate_of_reloads env goes, reload_restored rfl]
      exact planned_restored consistent (Request.covers graph.spec request) planned

/-- Workers that end without an error are joined without one. -/
private theorem endsCleanly_of_ok {env : UpdateEnv E T}
    (quiet : forall thread, env.ends thread = .ok) (workers : Std.TreeMap String LiveNode)
    (name : String) :
    endsCleanly env workers name = true := by
  have loop : forall threads : List Nat, threads.foldl
      (fun first thread => collectError first ((env.ends thread).report true name)) none =
        none := by
    intro threads
    induction threads with
    | nil => rfl
    | cons thread threads ih =>
        rw [List.foldl_cons, quiet thread]
        exact ih
  unfold endsCleanly
  split
  · rfl
  · rw [joinWorkers, loop]
    rfl

private theorem AllLive.outside {graph : RunningGraph T} (live : graph.AllLive)
    (affected : List String) : graph.LiveOutside affected where
  running := live.running
  live := by
    intro node member
    rcases live.live node member with ⟨workers, found, lowered, count⟩
    exact ⟨workers, found, fun _ => ⟨lowered, count⟩⟩

/-! ## The camera graph -/

/-- The camera gets new parameters. -/
def cameraChange : GraphDiff where
  addedNodes := []
  removedNodes := []
  updatedNodes := [⟨"camera", "source", none, false, none, none, none, none, .bool true⟩]
  addedConnections := []
  removedConnections := []

/-- All elements can be created and all threads be spawned.  The argument is
how workers end. -/
def cameraEnv (ends : WorkerEnd) (afterQuiesce : Bool) : UpdateEnv String Nat where
  prepare := RuntimeGraph.cameraCreation
  ends := fun _ => ends
  restore := RuntimeGraph.cameraCreation
  restoreSpawn := fun _ _ => none
  spawn := fun _ _ => none
  drain := fun _ => .ok ()
  afterPrepare := false
  afterQuiesce := afterQuiesce
  afterSwitch := false

/-- A fault after the camera was joined: it is spawned again, and the graph
is what it was. -/
theorem camera_restored :
    Exists fun graph => cameraStarted = .ok graph ∧ graph.Consistent ∧ graph.status ≠ .failed ∧
      Restored graph (graph.hotUpdate RuntimeGraph.cameraRegistry (cameraEnv .ok true)
        (.changes cameraChange)) := by
  rcases camera_starts with ⟨graph, starts, consistent, live, running⟩
  have alive : graph.status ≠ .failed := by
    rw [running]
    exact fun impossible => by cases impossible
  refine ⟨graph, starts, consistent, alive, (restored_iff consistent alive _).mpr ?_⟩
  cases course RuntimeGraph.cameraRegistry (cameraEnv .ok true) graph (.changes cameraChange) with
  | idle => trivial
  | refused => exact live
  | planned plan =>
      intro _
      exact ⟨fun name _ => endsCleanly_of_ok (fun _ => rfl) graph.workers name,
        fun _ => live.outside _⟩

/-- The camera ends with an error while it is joined.  The update fails and
the graph runs on, but without the camera. -/
theorem failed_join_strands_camera :
    Exists fun graph => cameraStarted = .ok graph ∧ graph.Consistent ∧ graph.AllLive ∧
      graph.status = .running ∧
      ¬ Restored graph (graph.hotUpdate RuntimeGraph.cameraRegistry
        (cameraEnv (.failed (.runtime "camera lost")) false) (.changes cameraChange)) := by
  have outcome : cameraStarted.toOption.map (fun graph =>
      let after := graph.hotUpdate RuntimeGraph.cameraRegistry
        (cameraEnv (.failed (.runtime "camera lost")) false) (.changes cameraChange)
      (after.2, after.1.status, after.1.workers.keys, after.1.spec.nodes.map NodeSpec.name)) =
        some (.error (.runtime "camera lost"), .running, ["store"], ["camera", "store"]) := by
    decide +kernel
  rcases camera_starts with ⟨graph, starts, consistent, live, running⟩
  refine ⟨graph, starts, consistent, live, running, fun restored => ?_⟩
  rw [starts] at outcome
  change some (_, _, _, _) = _ at outcome
  rw [Option.some.injEq, Prod.mk.injEq, Prod.mk.injEq, Prod.mk.injEq] at outcome
  rcases outcome with ⟨fails, status, workers, names⟩
  rcases restored ⟨_, fails⟩ (fun failed => by rw [status] at failed; cases failed) with
    ⟨_, _, stillLive⟩
  have hasCamera : "camera" ∈ ["camera", "store"] := List.mem_cons_self
  rw [← names] at hasCamera
  rcases List.mem_map.mp hasCamera with ⟨node, member, isCamera⟩
  rcases stillLive.live node member with ⟨left, found, _⟩
  have inKeys : node.name ∈ ["store"] := by
    rw [← workers, Std.TreeMap.mem_keys, OrderedMap.mem_iff]
    exact ⟨left, found⟩
  rw [isCamera] at inKeys
  revert inKeys
  decide

end RunningGraph
end Graph
end DyunGu
