import DyunGu.Graph.Collected

namespace DyunGu
namespace Graph

open DyunGu.Core (ResourcePolicy)

variable {E T : Type}

/-!
# How collectors come and go

The factory of a sink makes an empty collector.  So the collectors of a graph
that was just started are empty, and an update leaves each of them as it was,
or drops the collector of a node that it touches, or puts an empty one in its
place.
-/

/-- Every sink that is created has collected nothing. -/
def Creation.Fresh (create : Creation E T) : Prop :=
  forall (node : NodeSpec) (index : Nat) (created : CreatedElement E T)
    (collector : SinkCollector T), create node index = .ok created ->
      created.handle = .sink collector -> collector.tensors = []

def ElementHandle.Fresh (handle : ElementHandle T) : Prop :=
  forall collector, handle = .sink collector -> collector.tensors = []

theorem PreparedNode.fresh_of_new {registry : Registry} {create : Creation E T}
    (fresh : Creation.Fresh create) {node : NodeSpec} {prepared : PreparedNode E T}
    (prepares : PreparedNode.new registry create node = .ok prepared) :
    prepared.handle.Fresh := by
  rcases Outcome.bind_ok prepares with ⟨created, creates, rest⟩
  rcases Outcome.bind_ok rest with ⟨_, _, rest⟩
  rcases Outcome.bind_ok rest with ⟨elements, _, isPrepared⟩
  cases isPrepared
  unfold createElement at creates
  split at creates
  · cases creates
  · exact fun collector isSink => fresh node 0 created collector creates isSink

/-! ## Starting -/

namespace RuntimeGraph

/-- No node holds a sink that has collected anything. -/
def FreshNodes (nodes : Nodes E T) : Prop :=
  forall (name : String) (node : NodeRuntime E T), nodes[name]? = some node -> node.handle.Fresh

theorem FreshNodes.insert {nodes : Nodes E T} (fresh : FreshNodes nodes) (name : String)
    {node : NodeRuntime E T} (new : node.handle.Fresh) : FreshNodes (nodes.insert name node) := by
  intro other found isFound
  rw [OrderedMap.getElem?_insert] at isFound
  by_cases same : name = other
  · rw [if_pos same] at isFound
    cases isFound
    exact new
  · rw [if_neg same] at isFound
    exact fresh other found isFound

theorem createNodes_fresh {registry : Registry} {create : Creation E T}
    (fresh : Creation.Fresh create) {specs : List NodeSpec} {before nodes : Nodes E T}
    (start : FreshNodes before) (created : createNodes registry create before specs = .ok nodes) :
    FreshNodes nodes := by
  induction specs generalizing before with
  | nil =>
      cases created
      exact start
  | cons spec specs ih =>
      unfold createNodes at created
      split at created
      · cases created
      · rename_i prepared prepares
        exact ih (start.insert spec.name (PreparedNode.fresh_of_new fresh prepares)) created

theorem connect_fresh {execution : ExecutionSpec} {before after : Wiring E T}
    {connection : String} (start : FreshNodes before.nodes)
    (connects : connect execution before connection = .ok after) : FreshNodes after.nodes := by
  unfold connect at connects
  split at connects
  · cases connects
  · rename_i parsed _
    dsimp only at connects
    split at connects
    · cases connects
    · rename_i source isSource
      have opened : FreshNodes (before.nodes.insert parsed.fromNode
          { source with
            outputs := source.outputs.insert parsed.fromPort
              (source.outputs.getD parsed.fromPort [] ++ [execution.pipe before.nextPipe]) }) :=
        start.insert parsed.fromNode (start _ source isSource)
      split at connects
      · cases connects
      · rename_i target isTarget
        split at connects
        · cases connects
        · cases connects
          exact opened.insert parsed.toNode (opened _ target isTarget)

theorem connectAll_fresh {execution : ExecutionSpec} {connections : List String}
    {before after : Wiring E T} (start : FreshNodes before.nodes)
    (connects : connectAll execution before connections = .ok after) :
    FreshNodes after.nodes := by
  induction connections generalizing before with
  | nil =>
      cases connects
      exact start
  | cons connection connections ih =>
      unfold connectAll at connects
      split at connects
      · cases connects
      · rename_i next isNext
        exact ih (connect_fresh start isNext) connects

theorem sinks_empty {policy : ResourcePolicy} {nodes : Nodes E T} (fresh : FreshNodes nodes)
    {name : String} {collector : SinkCollector T}
    (found : (sinks policy nodes)[name]? = some collector) : collector.tensors = [] := by
  have all : forall (name : String) (collector : SinkCollector T),
      (sinks policy nodes)[name]? = some collector -> collector.tensors = [] := by
    unfold sinks
    apply List.foldlRecOn (motive := fun table : Std.TreeMap String (SinkCollector T) compare =>
      forall (name : String) (collector : SinkCollector T), table[name]? = some collector ->
        collector.tensors = [])
    · intro other collector impossible
      rw [Std.TreeMap.getElem?_emptyc] at impossible
      cases impossible
    · intro table empty entry member
      have here := fresh entry.1 entry.2 (Std.TreeMap.mem_toList_iff_getElem?_eq_some.mp member)
      split
      · rename_i made isSink
        intro other found isFound
        rw [OrderedMap.getElem?_insert] at isFound
        by_cases same : entry.1 = other
        · rw [if_pos same] at isFound
          cases isFound
          exact here made isSink
        · rw [if_neg same] at isFound
          exact empty other found isFound
      · exact empty
      · exact empty
  exact all name collector found

/-- A graph that is built without inputs and started has empty collectors. -/
theorem started_empty {registry : Registry} {create : Creation E T}
    (fresh : Creation.Fresh create) {storageBytes : T -> Except Core.Error Nat}
    {policy : ResourcePolicy} {spec : GraphSpec} {built : RuntimeGraph E}
    {collectors : Std.TreeMap String (SinkCollector T)}
    (builds : build registry create storageBytes policy spec [] = .ok (built, collectors))
    {spawn : Spawning} {graph : RunningGraph T}
    (starts : built.start spawn collectors = .ok graph) {name : String}
    {collector : SinkCollector T} (found : graph.sinks[name]? = some collector) :
    collector.tensors = [] := by
  have same : graph.sinks = collectors := by
    unfold start at starts
    split at starts
    · cases starts
    · split at starts
      · cases starts
        rfl
      · cases starts
  rw [same] at found
  rcases Outcome.bind_ok builds with ⟨effective, _, rest⟩
  rcases Outcome.bind_ok rest with ⟨created, creates, rest⟩
  rcases Outcome.bind_ok rest with ⟨injected, injects, rest⟩
  cases injects
  rcases Outcome.bind_ok rest with ⟨wiring, wires, rest⟩
  split at rest
  · cases rest
  · cases rest
    refine sinks_empty (connectAll_fresh ?_ wires) found
    refine createNodes_fresh fresh ?_ creates
    intro other node impossible
    rw [Std.TreeMap.getElem?_emptyc] at impossible
    cases impossible

end RuntimeGraph

/-! ## Updating -/

/-- Each collector is as it was, or it belongs to a node that is renewed and
has nothing. -/
def Renews (renewed : String -> Prop) (before after : Std.TreeMap String (SinkCollector T)) :
    Prop :=
  forall name : String, after[name]? = before[name]? ∨
    renewed name ∧ forall collector, after[name]? = some collector -> collector.tensors = []

namespace Renews

variable {renewed : String -> Prop} {first second third : Std.TreeMap String (SinkCollector T)}

theorem refl (sinks : Std.TreeMap String (SinkCollector T)) : Renews renewed sinks sinks :=
  fun _ => Or.inl rfl

theorem trans (one : Renews renewed first second) (two : Renews renewed second third) :
    Renews renewed first third := by
  intro name
  rcases two name with same | isNew
  · rw [same]
    exact one name
  · exact Or.inr isNew

theorem erase (sinks : Std.TreeMap String (SinkCollector T)) {name : String}
    (isRenewed : renewed name) : Renews renewed sinks (sinks.erase name) := by
  intro other
  rw [OrderedMap.getElem?_erase]
  by_cases same : name = other
  · rw [if_pos same]
    exact Or.inr ⟨same ▸ isRenewed, fun _ impossible => by cases impossible⟩
  · rw [if_neg same]
    exact Or.inl rfl

theorem insert (sinks : Std.TreeMap String (SinkCollector T)) {name : String}
    (isRenewed : renewed name) {collector : SinkCollector T} (empty : collector.tensors = []) :
    Renews renewed sinks (sinks.insert name collector) := by
  intro other
  rw [OrderedMap.getElem?_insert]
  by_cases same : name = other
  · rw [if_pos same]
    refine Or.inr ⟨same ▸ isRenewed, fun found isFound => ?_⟩
    cases isFound
    exact empty
  · rw [if_neg same]
    exact Or.inl rfl

end Renews

namespace RunningGraph

variable {renewed : String -> Prop}

theorem launch_renews (spawn : Spawning) (policy : ResourcePolicy) (connections : List String)
    (graph : RunningGraph T) {name : String} {prepared : PreparedNode E T}
    (fresh : prepared.handle.Fresh) (isRenewed : renewed name) :
    Renews renewed graph.sinks
      (launch spawn policy connections graph name prepared).1.sinks := by
  unfold launch
  split
  · exact Renews.refl _
  · split
    · exact Renews.refl _
    · dsimp only
      split
      · rename_i collector isSink
        exact Renews.insert _ isRenewed (fresh collector isSink)
      · exact Renews.refl _
      · exact Renews.refl _

theorem findNode_name {spec : GraphSpec} {name : String} {node : NodeSpec}
    (found : findNode spec name = some node) : node.name = name := by
  have holds := List.find?_some found
  exact of_decide_eq_true holds

theorem rollBack_renews {registry : Registry} {env : UpdateEnv E T}
    (fresh : Creation.Fresh env.restore) {joined : List String}
    (all : forall name, name ∈ joined -> renewed name) (graph : RunningGraph T)
    (error unrestored : Error) :
    Renews renewed graph.sinks (rollBack registry env graph joined error unrestored).1.sinks := by
  apply rollBack_relates (fun before after => Renews renewed before.sinks after.sinks)
    (fun graph => Renews.refl graph.sinks) (fun _ _ _ first second => first.trans second)
    (fun graph _ => Renews.refl graph.sinks)
  intro before name node prepared policy member found prepares
  have isRenewed : renewed node.name := by
    rw [findNode_name found]
    exact all name member
  exact launch_renews env.restoreSpawn policy graph.spec.connections before
    (PreparedNode.fresh_of_new fresh prepares) isRenewed

/-- Joining drops collectors of nodes that are joined, and only their names
come to those that were joined. -/
theorem joinAffected_renews (ends : Nat -> WorkerEnd) (removed : List String)
    {names : List String} (all : forall name, name ∈ names -> renewed name)
    {joined : List String} (already : forall name, name ∈ joined -> renewed name)
    (workers : Std.TreeMap String LiveNode) (records : NodeRecords T) :
    Renews renewed records.sinks
        (joinAffected ends removed workers records joined names).2.1.sinks ∧
      forall name, name ∈ (joinAffected ends removed workers records joined names).2.2.1 ->
        renewed name := by
  induction names generalizing joined workers records with
  | nil => exact ⟨Renews.refl _, already⟩
  | cons name names ih =>
      have here := all name List.mem_cons_self
      have later : forall other, other ∈ names -> renewed other :=
        fun other member => all other (List.mem_cons_of_mem _ member)
      have kept : Renews renewed records.sinks
          (if name ∈ removed then records.remove name else records).sinks := by
        split
        · exact Renews.erase _ here
        · exact Renews.refl _
      unfold joinAffected
      dsimp only
      split
      · have rest := ih later already workers
          (if name ∈ removed then records.remove name else records)
        exact ⟨kept.trans rest.1, rest.2⟩
      · split
        · exact ⟨Renews.refl _, already⟩
        · have joinedOnce : forall other, other ∈ joined ++ [name] -> renewed other := by
            intro other member
            rcases List.mem_append.mp member with before | isName
            · exact already other before
            · rw [List.mem_singleton.mp isName]
              exact here
          have rest := ih later joinedOnce (workers.erase name)
            (if name ∈ removed then records.remove name else records)
          exact ⟨kept.trans rest.1, rest.2⟩

theorem prepareNodes_fresh {registry : Registry} {create : Creation E T}
    (fresh : Creation.Fresh create) {affected : NameSet} {nodes : List NodeSpec}
    {before prepared : Std.TreeMap String (PreparedNode E T)}
    (start : forall (name : String) (node : PreparedNode E T), before[name]? = some node ->
      node.handle.Fresh)
    (prepares : prepareNodes registry create affected before nodes = .ok prepared) :
    forall (name : String) (node : PreparedNode E T), prepared[name]? = some node ->
      node.handle.Fresh := by
  induction nodes generalizing before with
  | nil =>
      cases prepares
      exact start
  | cons spec nodes ih =>
      unfold prepareNodes at prepares
      split at prepares
      · rcases Outcome.bind_ok prepares with ⟨made, makes, rest⟩
        refine ih ?_ rest
        intro name node found
        rw [OrderedMap.getElem?_insert] at found
        by_cases same : spec.name = name
        · rw [if_pos same] at found
          cases found
          exact PreparedNode.fresh_of_new fresh makes
        · rw [if_neg same] at found
          exact start name node found
      · exact ih start prepares

theorem spawnPrepared_renews (env : UpdateEnv E T) {plan : Plan E T}
    (fresh : forall (name : String) (node : PreparedNode E T), plan.prepared[name]? = some node ->
      node.handle.Fresh)
    (all : forall name : String, name ∈ plan.affected -> renewed name) (candidate : GraphSpec)
    (graph : RunningGraph T) (nodes : List NodeSpec) :
    Renews renewed graph.sinks (spawnPrepared env plan candidate graph nodes).1.sinks := by
  apply spawnPrepared_relates (fun before after => Renews renewed before.sinks after.sinks)
    (fun graph => Renews.refl graph.sinks) (fun _ _ _ first second => first.trans second)
  intro before name prepared isAffected found
  exact launch_renews env.spawn plan.effective candidate.connections before
    (fresh name prepared found) (all name isAffected)

theorem switchAndSpawn_renews (env : UpdateEnv E T) {plan : Plan E T}
    (fresh : forall (name : String) (node : PreparedNode E T), plan.prepared[name]? = some node ->
      node.handle.Fresh)
    (all : forall name : String, name ∈ plan.affected -> renewed name) (candidate : GraphSpec)
    (graph : RunningGraph T) :
    Renews renewed graph.sinks (switchAndSpawn env plan candidate graph).1.sinks := by
  unfold switchAndSpawn
  split
  · exact Renews.refl _
  · rename_i switch _
    dsimp only
    split
    · exact Renews.refl _
    · have spawned := spawnPrepared_renews env fresh all candidate
        { graph with
          routes := switchedRoutes switch.edges candidate.connections
          nextPipe := switch.nextPipe } candidate.nodes
      split
      · rename_i after error isSpawned
        rw [isSpawned] at spawned
        exact spawned
      · rename_i after isSpawned
        rw [isSpawned] at spawned
        split
        · exact spawned
        · exact spawned

/-- The nodes that an update with this difference stops and creates again. -/
def Touched (diff : GraphDiff) (name : String) : Prop :=
  match affectedNames diff with
  | .ok names => name ∈ names
  | .error _ => False

instance (diff : GraphDiff) (name : String) : Decidable (Touched diff name) := by
  unfold Touched
  split
  · infer_instance
  · infer_instance

/-- The sinks that an update creates are empty. -/
structure UpdateEnv.Fresh (env : UpdateEnv E T) : Prop where
  prepare : Creation.Fresh env.prepare
  restore : Creation.Fresh env.restore

theorem applyHotUpdateCandidate_renews (registry : Registry) {env : UpdateEnv E T}
    (fresh : env.Fresh) (graph : RunningGraph T) (diff : GraphDiff) (candidate : GraphSpec) :
    Renews (Touched diff) graph.sinks
      (applyHotUpdateCandidate registry env graph diff candidate).1.sinks := by
  unfold applyHotUpdateCandidate
  split
  · exact Renews.refl _
  · rename_i plan planned
    rcases Outcome.bind_ok planned with ⟨effective, _, rest⟩
    rcases Outcome.bind_ok rest with ⟨_, _, rest⟩
    rcases Outcome.bind_ok rest with ⟨affected, names, rest⟩
    rcases Outcome.bind_ok rest with ⟨prepared, prepares, rest⟩
    rcases Outcome.bind_ok rest with ⟨_, _, isPlan⟩
    cases isPlan
    have all : forall name : String, name ∈ affected -> Touched diff name := by
      intro name member
      unfold Touched
      rw [names]
      exact member
    have freshNodes := prepareNodes_fresh fresh.prepare
      (fun name node impossible => by
        rw [Std.TreeMap.getElem?_emptyc] at impossible
        cases impossible) prepares
    have nothing : forall name, name ∈ ([] : List String) -> Touched diff name :=
      fun _ impossible => by cases impossible
    have joins := joinAffected_renews env.ends diff.removedNodes
      (fun name member => all name (Std.TreeMap.mem_keys.mp member)) nothing
      (affected.keys.foldl raiseStop graph.workers) graph.records
    dsimp only
    split
    · rename_i workers records joined error isJoined
      rw [isJoined] at joins
      exact joins.1.trans (rollBack_renews fresh.restore joins.2 _ _ _)
    · rename_i workers records joined isJoined
      rw [isJoined] at joins
      split
      · exact joins.1.trans (rollBack_renews fresh.restore joins.2 _ _ _)
      · exact joins.1.trans (switchAndSpawn_renews env freshNodes all candidate _)

theorem reload_renews (registry : Registry) {env : UpdateEnv E T} (fresh : env.Fresh)
    (graph : RunningGraph T) (diff : GraphDiff) (candidate : GraphSpec) :
    Renews (Touched diff) graph.sinks (graph.reload registry env diff candidate).1.sinks := by
  have applied := applyHotUpdateCandidate_renews registry fresh
    (graph.setStatus .reloading) diff candidate
  unfold reload
  split
  · rename_i after isApplied
    rw [isApplied] at applied
    exact applied
  · rename_i after error isApplied
    rw [isApplied] at applied
    split
    · exact applied
    · exact applied

/-- An update renews at most the collectors of the nodes it touches. -/
theorem applyHotUpdateSpec_renews (registry : Registry) {env : UpdateEnv E T}
    (fresh : env.Fresh) (graph : RunningGraph T) (new : GraphSpec) :
    Renews (Touched (GraphSpec.diff graph.spec new)) graph.sinks
      (graph.applyHotUpdateSpec registry env new).1.sinks := by
  unfold applyHotUpdateSpec
  dsimp only
  split
  · exact Renews.refl _
  · split
    · exact Renews.refl _
    · split
      · exact Renews.refl _
      · split
        · exact Renews.refl _
        · have reloaded := reload_renews registry fresh graph
            (GraphSpec.diff graph.spec new) new
          split
          · rename_i after isReloaded
            rw [isReloaded] at reloaded
            exact reloaded
          · rename_i after error isReloaded
            rw [isReloaded] at reloaded
            exact reloaded

/-- A successful update answers with the difference of the specifications. -/
theorem applyHotUpdateSpec_diff {registry : Registry} {env : UpdateEnv E T}
    {graph : RunningGraph T} {new : GraphSpec} {diff : GraphDiff}
    (succeeds : (graph.applyHotUpdateSpec registry env new).2 = .ok diff) :
    diff = GraphSpec.diff graph.spec new := by
  unfold applyHotUpdateSpec at succeeds
  dsimp only at succeeds
  split at succeeds
  · exact (Except.ok.inj succeeds).symm
  · split at succeeds
    · cases succeeds
    · split at succeeds
      · cases succeeds
      · split at succeeds
        · exact (Except.ok.inj succeeds).symm
        · split at succeeds
          · exact (Except.ok.inj succeeds).symm
          · cases succeeds

/-! ## Stopping and polling -/

@[simp] theorem requestStop_sinks (graph : RunningGraph T) :
    graph.requestStop.sinks = graph.sinks := rfl

theorem shutdown_sinks (finished : Nat -> Option WorkerEnd) (overflows : Bool)
    (graph : RunningGraph T) : (graph.shutdown finished overflows).1.sinks = graph.sinks := by
  unfold shutdown
  dsimp only
  split
  · rfl
  · split
    · rfl
    · rfl
    · rfl

theorem poll_sinks (finished : Nat -> Option WorkerEnd) (graph : RunningGraph T) :
    (graph.poll finished).1.sinks = graph.sinks := by
  unfold poll
  split
  · rfl
  · split
    · rfl
    · split
      · rfl
      · rfl

end RunningGraph
end Graph
end DyunGu
