import DyunGu.Graph.HotUpdate
import DyunGu.Graph.Wiring

namespace DyunGu
namespace Graph
namespace RunningGraph

open DyunGu.Core (ResourcePolicy)

variable {E T : Type}

/-!
# Consistent graphs

In a consistent graph the specification was validated and the workers and
the routes belong to it.  Starting a graph makes it consistent, and it stays
so through every update that does not leave it failed.
-/

/-- The specification was validated, has workers for no other nodes, and is
the one the routes were made for. -/
structure Consistent (graph : RunningGraph T) : Prop where
  accepted : graph.spec.Accepted
  granted : Exists fun effective => effectiveLimits graph.policy graph.spec = .ok effective
  known : forall name : String, name ∈ graph.workers -> name ∈ graph.spec.nodes.map NodeSpec.name
  edges : forall connection : String, connection ∈ graph.spec.connections ->
    connection ∈ graph.routes.edges
  inputs : forall edge : ConnectionSpec, edge ∈ graph.spec.parsedConnections ->
    edge.input ∈ graph.routes.inputs
  outputs : forall edge : ConnectionSpec, edge ∈ graph.spec.parsedConnections ->
    edge.output ∈ graph.routes.outputs

/-- Workers of nodes of the specification may come and go. -/
theorem Consistent.of_workers {graph after : RunningGraph T}
    (consistent : graph.Consistent) (spec : after.spec = graph.spec)
    (policy : after.policy = graph.policy) (routes : after.routes = graph.routes)
    (known : forall name : String, name ∈ after.workers ->
      name ∈ graph.spec.nodes.map NodeSpec.name) : after.Consistent where
  accepted := spec ▸ consistent.accepted
  granted := by
    rw [spec, policy]
    exact consistent.granted
  known := by
    rw [spec]
    exact known
  edges := by
    rw [spec, routes]
    exact consistent.edges
  inputs := by
    rw [spec, routes]
    exact consistent.inputs
  outputs := by
    rw [spec, routes]
    exact consistent.outputs

/-! ## Graphs as they are started -/

private theorem mem_sendersFrom {edges : Std.TreeMap String EdgeRoute} {connections : List String}
    {connection : String} (member : connection ∈ connections) (routed : connection ∈ edges)
    {edge : ConnectionSpec} (parses : ConnectionSpec.parseOk connection = some edge) :
    RuntimeGraph.sendersFrom edges connections edge.output ≠ [] := by
  rcases (OrderedMap.mem_iff _ _).mp routed with ⟨route, found⟩
  have sends : route.sender ∈ RuntimeGraph.sendersFrom edges connections edge.output := by
    refine List.mem_filterMap.mpr ⟨connection, member, ?_⟩
    rw [parses, found, Option.map_some, if_pos rfl, Option.map_some]
  exact List.ne_nil_of_mem sends

/-- A graph that was validated, built and started is consistent, and all its
workers are live. -/
theorem started_consistent {registry : Registry} {limits : ResourcePolicy} {spec : GraphSpec}
    (validated : spec.validateWithPolicy registry limits = .ok ())
    {create : Creation E T} {storageBytes : T -> Except Core.Error Nat}
    {policy : ResourcePolicy} {inputs : List (String × List T)} {built : RuntimeGraph E}
    {sinks : Std.TreeMap String (SinkCollector T)}
    (builds : RuntimeGraph.build registry create storageBytes policy spec inputs =
      .ok (built, sinks)) {spawn : Spawning} {graph : RunningGraph T}
    (starts : built.start spawn sinks = .ok graph) :
    graph.Consistent ∧ graph.AllLive ∧ graph.status = .running := by
  have accepted := GraphSpec.accepted_of_validateWithPolicy validated
  rcases RuntimeGraph.build_outcome accepted registry create storageBytes policy inputs with
    ⟨failure, fails, _⟩ | ⟨other, others, same, isSpec, isPolicy, ⟨effective, granted⟩, wired⟩
  · rw [fails] at builds
    cases builds
  · rw [same] at builds
    cases builds
    rcases RuntimeGraph.start_outcome accepted isSpec wired spawn sinks with
      ⟨node, reason, fails⟩ | ⟨running, started, specs, routes, policies, status, known, live⟩
    · rw [fails] at starts
      cases starts
    · rw [started] at starts
      cases starts
      have routed : forall edge : ConnectionSpec, edge ∈ spec.parsedConnections ->
          Exists fun connection => connection ∈ spec.connections ∧
            ConnectionSpec.parse connection = .ok edge ∧
            ConnectionSpec.parseOk connection = some edge := by
        intro edge member
        rcases List.mem_filterMap.mp member with ⟨connection, inSpec, parses⟩
        rcases accepted.parsed inSpec with ⟨other, parsed, same, _⟩
        rw [parses] at same
        cases same
        exact ⟨connection, inSpec, parsed, parses⟩
      refine ⟨?_, live, status⟩
      exact
        { accepted := specs ▸ accepted
          granted := by
            refine ⟨effective, ?_⟩
            rw [effectiveLimits, specs, policies, isPolicy, granted]
            rfl
          known := by
            rw [specs]
            exact known
          edges := by
            intro connection member
            rw [specs] at member
            rw [routes, wired.edges]
            exact member
          inputs := by
            intro edge member
            rw [specs] at member
            rcases routed edge member with ⟨connection, inSpec, parsed, _⟩
            rcases (OrderedMap.mem_iff _ _).mp ((wired.edges connection).mpr inSpec) with
              ⟨route, found⟩
            rw [routes]
            refine (OrderedMap.mem_iff _ _).mpr ⟨route.receiver, ?_⟩
            exact (wired.inputs _ _).mpr
              ⟨connection, edge, route, inSpec, parsed, rfl, found, rfl⟩
          outputs := by
            intro edge member
            rw [specs] at member
            rcases routed edge member with ⟨connection, inSpec, _, parses⟩
            have senders := mem_sendersFrom inSpec ((wired.edges connection).mpr inSpec) parses
            rw [← wired.outputs, Std.TreeMap.getD_eq_getD_getElem?] at senders
            rw [routes, Std.TreeMap.mem_iff_isSome_getElem?]
            by_contra absent
            rw [Bool.not_eq_true, Option.isSome_eq_false_iff, Option.isNone_iff_eq_none] at absent
            rw [absent] at senders
            exact senders rfl }

def cameraStarted : Except BuildFailure (RunningGraph Nat) := do
  let (graph, sinks) <- RuntimeGraph.build RuntimeGraph.cameraRegistry RuntimeGraph.cameraCreation
    (fun _ => .ok 4) ResourcePolicy.default RuntimeGraph.cameraSpec []
  graph.start (fun _ _ => none) sinks

theorem camera_starts :
    Exists fun graph => cameraStarted = .ok graph ∧ graph.Consistent ∧ graph.AllLive ∧
      graph.status = .running := by
  have validated : RuntimeGraph.cameraSpec.validateWithPolicy RuntimeGraph.cameraRegistry
      ResourcePolicy.default = .ok () := by
    decide +kernel
  have outcome : cameraStarted.toOption.isSome = true := by
    decide +kernel
  unfold cameraStarted at outcome ⊢
  cases builds : RuntimeGraph.build RuntimeGraph.cameraRegistry RuntimeGraph.cameraCreation
      (fun _ => .ok 4) ResourcePolicy.default RuntimeGraph.cameraSpec [] with
  | error failure =>
      rw [builds] at outcome
      cases outcome
  | ok built =>
      rw [builds] at outcome
      change (RuntimeGraph.start (fun _ _ => none) built.1 built.2).toOption.isSome =
        true at outcome
      change Exists fun graph =>
        RuntimeGraph.start (fun _ _ => none) built.1 built.2 = .ok graph ∧ _
      cases starts : RuntimeGraph.start (fun _ _ => none) built.1 built.2 with
      | error failure =>
          rw [starts] at outcome
          cases outcome
      | ok graph => exact ⟨graph, rfl, started_consistent validated builds starts⟩

/-! ## What an update has planned -/

/-- On the routes of its own specification every node finds its ports. -/
theorem Consistent.checkRoutes_ok {graph : RunningGraph T} (consistent : graph.Consistent)
    (name : String) {connections : List String}
    (within : forall connection, connection ∈ connections ->
      connection ∈ graph.spec.connections) :
    checkRoutes graph.routes name connections = .ok () := by
  induction connections with
  | nil => rfl
  | cons connection connections ih =>
      rcases consistent.accepted.parsed (within connection List.mem_cons_self) with
        ⟨edge, parses, _, member⟩
      have entered : ¬ (edge.toNode = name ∧ (name, edge.toPort) ∉ graph.routes.inputs) := by
        rintro ⟨rfl, missing⟩
        exact missing (consistent.inputs edge member)
      have left : ¬ (edge.fromNode = name ∧ (name, edge.fromPort) ∉ graph.routes.outputs) := by
        rintro ⟨rfl, missing⟩
        exact missing (consistent.outputs edge member)
      rw [checkRoutes, parses]
      dsimp only [bind, Except.bind]
      rw [reject, if_neg entered]
      dsimp only
      rw [reject, if_neg left]
      exact ih fun other inRest => within other (List.mem_cons_of_mem _ inRest)

private theorem mem_endpoints {connections ends : List String}
    (succeeds : endpoints connections = .ok ends) {connection : String}
    (member : connection ∈ connections) {edge : ConnectionSpec}
    (parses : ConnectionSpec.parse connection = .ok edge) : edge.toNode ∈ ends := by
  induction connections generalizing ends with
  | nil => cases member
  | cons first rest ih =>
      unfold endpoints at succeeds
      cases parsesFirst : ConnectionSpec.parse first with
      | error error =>
          rw [parsesFirst] at succeeds
          cases succeeds
      | ok parsed =>
          cases later : endpoints rest with
          | error error =>
              rw [parsesFirst, later] at succeeds
              cases succeeds
          | ok others =>
              rw [parsesFirst, later] at succeeds
              cases succeeds
              rcases List.mem_cons.mp member with rfl | member
              · rw [parses] at parsesFirst
                cases parsesFirst
                exact List.mem_cons_of_mem _ List.mem_cons_self
              · exact List.mem_cons_of_mem _ (List.mem_cons_of_mem _ (ih later member))

/-- The nodes that a diff removes are affected, and so are the nodes at which
an added connection ends. -/
private theorem affectedNames_ok {diff : GraphDiff} {affected : NameSet}
    (succeeds : affectedNames diff = .ok affected) :
    (forall name, name ∈ diff.removedNodes -> name ∈ affected) ∧
      forall connection, connection ∈ diff.addedConnections -> forall edge : ConnectionSpec,
        ConnectionSpec.parse connection = .ok edge -> edge.toNode ∈ affected := by
  unfold affectedNames at succeeds
  cases found : endpoints (diff.addedConnections ++ diff.removedConnections) with
  | error error =>
      rw [found] at succeeds
      cases succeeds
  | ok ends =>
      rw [found] at succeeds
      cases succeeds
      have collected := OrderedMap.mem_foldl_insert id (fun _ : String => ())
        (diff.removedNodes ++ diff.updatedNodes.map NodeSpec.name ++
          diff.addedNodes.map NodeSpec.name ++ ends) ({} : NameSet)
      constructor
      · intro name removed
        refine (collected name).mpr (Or.inl ?_)
        rw [List.map_id]
        simp only [List.mem_append]
        exact Or.inl (Or.inl (Or.inl removed))
      · intro connection added edge parses
        refine (collected edge.toNode).mpr (Or.inl ?_)
        rw [List.map_id]
        exact List.mem_append_right _
          (mem_endpoints found (List.mem_append_left _ added) parses)

/-- The loop over the connections finds a route for each that it keeps. -/
private theorem switchEdges_succeeds (execution : ExecutionSpec) (affected : NameSet)
    {connections : List String} (distinct : connections.Nodup) (switch : Switch)
    (parses : forall connection, connection ∈ connections ->
      Exists fun edge => ConnectionSpec.parse connection = .ok edge ∧
        (edge.toNode ∉ affected -> connection ∈ switch.left)) :
    Exists fun final => switchEdges execution affected switch connections = (final, .ok ()) := by
  induction connections generalizing switch with
  | nil => exact ⟨switch, rfl⟩
  | cons connection connections ih =>
      rw [List.nodup_cons] at distinct
      rcases parses connection List.mem_cons_self with ⟨edge, parsed, kept⟩
      have ahead : forall other, other ∈ connections ->
          Exists fun edge => ConnectionSpec.parse other = .ok edge ∧
            (edge.toNode ∉ affected -> other ∈ switch.left.erase connection) := by
        intro other member
        rcases parses other (List.mem_cons_of_mem _ member) with ⟨otherEdge, otherParsed, keeps⟩
        refine ⟨otherEdge, otherParsed, fun outside => ?_⟩
        rw [OrderedMap.mem_erase]
        exact ⟨fun same => distinct.1 (same ▸ member), keeps outside⟩
      unfold switchEdges
      rw [parsed]
      dsimp only
      by_cases inside : edge.toNode ∈ affected
      · rw [if_pos inside]
        exact ih distinct.2 _ ahead
      · rw [if_neg inside]
        rcases (OrderedMap.mem_iff _ _).mp (kept inside) with ⟨old, found⟩
        rw [found]
        exact ih distinct.2 _ ahead

/-- What a plan has settled: the candidate was validated and all nodes that a
change of the diff names are affected. -/
theorem plan_ok {registry : Registry} {env : UpdateEnv E T} {graph : RunningGraph T}
    {diff : GraphDiff} {candidate : GraphSpec} {plan : Plan E T}
    (planned : RunningGraph.plan registry env graph diff candidate = .ok plan) :
    effectiveLimits graph.policy candidate = .ok plan.effective ∧ candidate.Accepted ∧
      affectedNames diff = .ok plan.affected := by
  unfold RunningGraph.plan at planned
  rcases Outcome.bind_ok planned with ⟨effective, granted, planned⟩
  rcases Outcome.bind_ok planned with ⟨_, validated, planned⟩
  rcases Outcome.bind_ok planned with ⟨affected, named, planned⟩
  rcases Outcome.bind_ok planned with ⟨prepared, _, planned⟩
  rcases Outcome.bind_ok planned with ⟨_, _, planned⟩
  cases planned
  exact ⟨granted, GraphSpec.accepted_of_validateWithPolicy validated, named⟩

/-- A planned update finds all routes it keeps. -/
theorem Consistent.switches {graph : RunningGraph T} (consistent : graph.Consistent)
    {diff : GraphDiff} {candidate : GraphSpec} (accepted : candidate.Accepted)
    (covers : GraphSpec.Covers graph.spec candidate diff) {affected : NameSet}
    (named : affectedNames diff = .ok affected) (nextPipe : Nat) :
    Exists fun switch => switchEdges candidate.execution affected
      ⟨graph.routes.edges, {}, [], nextPipe⟩ candidate.connections = (switch, .ok ()) := by
  refine switchEdges_succeeds _ _ accepted.distinct _ fun connection member => ?_
  rcases accepted.parses connection member with ⟨edge, parses⟩
  refine ⟨edge, parses, fun outside => ?_⟩
  rcases covers connection member with before | added
  · exact consistent.edges connection before
  · exact absurd ((affectedNames_ok named).2 connection added edge parses) outside

theorem Request.covers (old : GraphSpec) (request : Request) :
    GraphSpec.Covers old (request.candidate old) (request.toDiff old) := by
  cases request with
  | changes diff => exact GraphSpec.mergeForDiff_covers old diff
  | whole spec => exact GraphSpec.diff_covers old spec

theorem Request.keepsNames (old : GraphSpec) (request : Request) :
    GraphSpec.KeepsNames old (request.candidate old) (request.toDiff old) := by
  cases request with
  | changes diff => exact GraphSpec.mergeForDiff_keepsNames old diff
  | whole spec => exact GraphSpec.diff_keepsNames old spec

/-! ## Stopping the affected workers -/

private theorem raiseStop_lookup (workers : Std.TreeMap String LiveNode) (raised name : String) :
    (raiseStop workers raised)[name]? =
      (workers[name]?).map fun node =>
        if raised = name then { node with stop := true } else node := by
  unfold raiseStop
  by_cases same : raised = name
  · rw [same]
    cases found : workers[name]? with
    | none =>
        dsimp only
        rw [found]
        rfl
    | some node =>
        dsimp only
        rw [OrderedMap.getElem?_insert, if_pos rfl, Option.map_some, if_pos rfl]
  · have unchanged : (workers[name]?).map
        (fun node => if raised = name then { node with stop := true } else node) =
          workers[name]? := by
      cases workers[name]? with
      | none => rfl
      | some node => rw [Option.map_some, if_neg same]
    rw [unchanged]
    split
    · rw [OrderedMap.getElem?_insert, if_neg same]
    · rfl

theorem raiseStops_lookup (names : List String) (workers : Std.TreeMap String LiveNode)
    (name : String) :
    (names.foldl raiseStop workers)[name]? =
      (workers[name]?).map fun node =>
        if name ∈ names then { node with stop := true } else node := by
  induction names generalizing workers with
  | nil =>
      rw [List.foldl_nil]
      cases workers[name]? with
      | none => rfl
      | some node => rw [Option.map_some, if_neg List.not_mem_nil]
  | cons first rest ih =>
      rw [List.foldl_cons, ih, raiseStop_lookup, Option.map_map]
      cases workers[name]? with
      | none => rfl
      | some node =>
          rw [Option.map_some, Option.map_some, Option.some.injEq, Function.comp_apply]
          by_cases same : first = name
          · rw [if_pos same, if_pos (List.mem_cons.mpr (Or.inl same.symm)), ite_self]
          · have later : name ∈ first :: rest <-> name ∈ rest := by
              rw [List.mem_cons, or_iff_right (fun isFirst => same isFirst.symm)]
            simp only [if_neg same, later]

/-- Raising stop flags does not change which nodes have workers. -/
theorem mem_raised (names : List String) (workers : Std.TreeMap String LiveNode)
    (name : String) : name ∈ names.foldl raiseStop workers <-> name ∈ workers := by
  rw [Std.TreeMap.mem_iff_isSome_getElem?, Std.TreeMap.mem_iff_isSome_getElem?,
    raiseStops_lookup, Option.isSome_map]

/-- Joining removes workers, and all of the affected ones if it succeeds. -/
private theorem joinAffected_left {ends : Nat -> WorkerEnd} {removed names joined all : List String}
    {workers left : Std.TreeMap String LiveNode} {records kept : NodeRecords T}
    {failure : Option Error}
    (joins : joinAffected ends removed workers records joined names = (left, kept, all, failure)) :
    (forall name : String, name ∈ left -> name ∈ workers) ∧
      (failure = none -> forall name : String, name ∈ names -> name ∉ left) := by
  induction names generalizing workers records joined with
  | nil =>
      cases joins
      exact ⟨fun _ member => member, fun _ _ impossible => by cases impossible⟩
  | cons first rest ih =>
      unfold joinAffected at joins
      dsimp only at joins
      split at joins
      · rename_i absent
        rcases ih joins with ⟨shrinks, cleared⟩
        refine ⟨shrinks, fun succeeds name member => ?_⟩
        rcases List.mem_cons.mp member with rfl | later
        · intro inLeft
          have there := Std.TreeMap.mem_iff_isSome_getElem?.mp (shrinks _ inLeft)
          rw [absent] at there
          cases there
        · exact cleared succeeds name later
      · split at joins
        · cases joins
          refine ⟨fun name member => ((OrderedMap.mem_erase _ _ _).mp member).2,
            fun impossible => ?_⟩
          cases impossible
        · rcases ih joins with ⟨shrinks, cleared⟩
          refine ⟨fun name member => ((OrderedMap.mem_erase _ _ _).mp (shrinks name member)).2,
            fun succeeds name member => ?_⟩
          rcases List.mem_cons.mp member with rfl | later
          · intro inLeft
            exact ((OrderedMap.mem_erase _ _ _).mp (shrinks _ inLeft)).1 rfl
          · exact cleared succeeds name later

/-! ## Updates keep graphs consistent -/

/-- A graph after workers of some of these nodes were spawned. -/
structure Spawned (names : List String) (before after : RunningGraph T) : Prop where
  spec : after.spec = before.spec
  policy : after.policy = before.policy
  routes : after.routes = before.routes
  stop : after.stop = before.stop
  known : forall name : String, name ∈ after.workers -> name ∈ before.workers ∨ name ∈ names

private theorem Spawned.refl (names : List String) (graph : RunningGraph T) :
    Spawned names graph graph :=
  ⟨rfl, rfl, rfl, rfl, fun _ member => Or.inl member⟩

private theorem Spawned.cons {names : List String} {name : String} {count : Nat}
    {before middle after : RunningGraph T} (first : Launched name count before middle)
    (here : name ∈ names) (later : Spawned names middle after) : Spawned names before after where
  spec := later.spec.trans first.spec
  policy := later.policy.trans first.policy
  routes := later.routes.trans first.routes
  stop := later.stop.trans first.stop
  known := by
    intro other member
    rcases later.known other member with inMiddle | named
    · rw [first.workers, OrderedMap.mem_insert] at inMiddle
      rcases inMiddle with rfl | inBefore
      · exact Or.inr here
      · exact Or.inl inBefore
    · exact Or.inr named

theorem respawnNodes_spawned {registry : Registry} {env : UpdateEnv E T}
    {policy : ResourcePolicy} {spec : GraphSpec} {names : List String}
    {graph after : RunningGraph T}
    (spawned : respawnNodes registry env policy spec graph names = (after, .ok ())) :
    Spawned (spec.nodes.map NodeSpec.name) graph after := by
  induction names generalizing graph with
  | nil =>
      cases spawned
      exact Spawned.refl _ _
  | cons name names ih =>
      unfold respawnNodes at spawned
      split at spawned
      · exact ih spawned
      · rename_i node found
        split at spawned
        · exact ih spawned
        · split at spawned
          · cases spawned
          · split at spawned
            · cases spawned
            · rename_i launched
              refine Spawned.cons (launch_ok launched) ?_ (ih spawned)
              exact List.mem_map_of_mem (List.mem_of_find?_eq_some found)

theorem spawnPrepared_spawned {env : UpdateEnv E T} {plan : Plan E T}
    {candidate : GraphSpec} {nodes : List NodeSpec}
    (within : forall node, node ∈ nodes -> node ∈ candidate.nodes)
    {graph after : RunningGraph T}
    (spawned : spawnPrepared env plan candidate graph nodes = (after, .ok ())) :
    Spawned (candidate.nodes.map NodeSpec.name) graph after := by
  induction nodes generalizing graph with
  | nil =>
      cases spawned
      exact Spawned.refl _ _
  | cons node nodes ih =>
      have rest := fun other member => within other (List.mem_cons_of_mem node member)
      unfold spawnPrepared at spawned
      split at spawned
      · split at spawned
        · exact ih rest spawned
        · split at spawned
          · cases spawned
          · rename_i launched
            refine Spawned.cons (launch_ok launched) ?_ (ih rest spawned)
            exact List.mem_map_of_mem (within node List.mem_cons_self)
      · exact ih rest spawned

/-- An update leaves a consistent graph, or fails it and says so. -/
private def StaysConsistent (result : RunningGraph T × Except Error Unit) : Prop :=
  result.1.Consistent ∨ (result.1.status = .failed ∧ result.2 ≠ .ok ())

private theorem failWith_staysConsistent (graph : RunningGraph T) (error : Error) :
    StaysConsistent (graph.failWith error) :=
  Or.inr ⟨rfl, fun impossible => by cases impossible⟩

/-- A rollback spawns the joined nodes again, or fails the graph and says so. -/
theorem rollBack_spawned (registry : Registry) (env : UpdateEnv E T) (graph : RunningGraph T)
    (joined : List String) (error unrestored : Error) :
    Spawned (graph.spec.nodes.map NodeSpec.name) graph
        (rollBack registry env graph joined error unrestored).1 ∨
      ((rollBack registry env graph joined error unrestored).1.status = .failed ∧
        (rollBack registry env graph joined error unrestored).2 ≠ .ok ()) := by
  unfold rollBack
  split
  · exact Or.inr ⟨rfl, fun impossible => by cases impossible⟩
  · rename_i restored
    unfold respawnNodesFromSpec at restored
    split at restored
    · cases restored
    · have spawned := respawnNodes_spawned restored
      exact Or.inl ⟨spawned.spec, spawned.policy, spawned.routes, spawned.stop, spawned.known⟩

private theorem rollBack_consistent {registry : Registry} {env : UpdateEnv E T}
    {graph : RunningGraph T} (consistent : graph.Consistent) (joined : List String)
    (error unrestored : Error) :
    StaysConsistent (rollBack registry env graph joined error unrestored) := by
  refine (rollBack_spawned registry env graph joined error unrestored).imp_left fun spawned => ?_
  refine consistent.of_workers spawned.spec spawned.policy spawned.routes fun name member => ?_
  rcases spawned.known name member with before | named
  · exact consistent.known name before
  · exact named

private theorem switchEdges_edges {execution : ExecutionSpec} {affected : NameSet}
    {connections : List String} {switch final : Switch}
    (switches : switchEdges execution affected switch connections = (final, .ok ())) :
    forall connection : String, connection ∈ connections ∨ connection ∈ switch.edges ->
      connection ∈ final.edges := by
  induction connections generalizing switch with
  | nil =>
      cases switches
      rintro connection (impossible | member)
      · cases impossible
      · exact member
  | cons first rest ih =>
      have entered : forall (route : EdgeRoute) (connection : String),
          connection ∈ first :: rest ∨ connection ∈ switch.edges ->
            connection ∈ rest ∨ connection ∈ switch.edges.insert first route := by
        intro route connection member
        rw [OrderedMap.mem_insert]
        rcases member with inList | there
        · rcases List.mem_cons.mp inList with rfl | later
          · exact Or.inr (Or.inl rfl)
          · exact Or.inl later
        · exact Or.inr (Or.inr there)
      unfold switchEdges at switches
      split at switches
      · cases switches
      · dsimp only at switches
        split at switches
        · exact fun connection member => ih switches connection (entered _ connection member)
        · split at switches
          · cases switches
          · exact fun connection member => ih switches connection (entered _ connection member)

/-- The tables over the new edges have the ports of all connections. -/
private theorem switchedRoutes_ports {edges : Std.TreeMap String EdgeRoute} {spec : GraphSpec}
    (routed : forall connection : String, connection ∈ spec.connections -> connection ∈ edges)
    {edge : ConnectionSpec} (member : edge ∈ spec.parsedConnections) :
    edge.input ∈ (switchedRoutes edges spec.connections).inputs ∧
      edge.output ∈ (switchedRoutes edges spec.connections).outputs := by
  rcases List.mem_filterMap.mp member with ⟨connection, inSpec, parses⟩
  rcases (OrderedMap.mem_iff _ _).mp (routed connection inSpec) with ⟨route, found⟩
  constructor
  · refine OrderedMap.mem_foldl_of_enters (fun inputs other there => ?_) (fun inputs => ?_) inSpec _
    · split
      · exact (OrderedMap.mem_insert _ _ _ _).mpr (Or.inr there)
      · exact there
    · rw [parses, found]
      exact (OrderedMap.mem_insert _ _ _ _).mpr (Or.inl rfl)
  · refine OrderedMap.mem_foldl_of_enters (fun outputs other there => ?_) (fun outputs => ?_)
      inSpec _
    · split
      · exact (OrderedMap.mem_insert _ _ _ _).mpr (Or.inr there)
      · exact there
    · rw [parses, found]
      exact (OrderedMap.mem_insert _ _ _ _).mpr (Or.inl rfl)

/-- The update that succeeds leaves the graph consistent with the candidate. -/
private theorem switchAndSpawn_consistent {env : UpdateEnv E T} {plan : Plan E T}
    {candidate : GraphSpec} {graph : RunningGraph T} (accepted : candidate.Accepted)
    (granted : effectiveLimits graph.policy candidate = .ok plan.effective)
    (known : forall name : String, name ∈ graph.workers ->
      name ∈ candidate.nodes.map NodeSpec.name)
    (switches : Exists fun switch => switchEdges candidate.execution plan.affected
      ⟨graph.routes.edges, {}, [], graph.nextPipe⟩ candidate.connections = (switch, .ok ())) :
    StaysConsistent (switchAndSpawn env plan candidate graph) := by
  rcases switches with ⟨switch, switched⟩
  unfold switchAndSpawn
  rw [switched]
  dsimp only
  split
  · exact failWith_staysConsistent _ _
  · split
    · exact failWith_staysConsistent _ _
    · rename_i spawned
      split
      · exact failWith_staysConsistent _ _
      · left
        have nodes := spawnPrepared_spawned (fun _ member => member) spawned
        have edges : forall connection : String, connection ∈ candidate.connections ->
            connection ∈ switch.edges :=
          fun connection member => switchEdges_edges switched connection (Or.inl member)
        exact
          { accepted := accepted
            granted := ⟨plan.effective, by
              dsimp only
              rw [nodes.policy]
              exact granted⟩
            known := by
              intro name member
              rcases nodes.known name member with before | named
              · exact known name before
              · exact named
            edges := by
              intro connection member
              dsimp only
              rw [nodes.routes]
              exact edges connection member
            inputs := by
              intro edge member
              dsimp only
              rw [nodes.routes]
              exact (switchedRoutes_ports edges member).1
            outputs := by
              intro edge member
              dsimp only
              rw [nodes.routes]
              exact (switchedRoutes_ports edges member).2 }

private theorem applyHotUpdateCandidate_consistent {registry : Registry} {env : UpdateEnv E T}
    {graph : RunningGraph T} (consistent : graph.Consistent) {diff : GraphDiff}
    {candidate : GraphSpec} (covers : GraphSpec.Covers graph.spec candidate diff)
    (keeps : GraphSpec.KeepsNames graph.spec candidate diff) :
    StaysConsistent (applyHotUpdateCandidate registry env graph diff candidate) := by
  unfold applyHotUpdateCandidate
  split
  · exact Or.inl consistent
  · rename_i plan planned
    rcases plan_ok planned with ⟨granted, accepted, named⟩
    dsimp only
    split
    · rename_i joins
      refine rollBack_consistent ?_ _ _ _
      refine consistent.of_workers rfl rfl rfl fun name member => ?_
      exact consistent.known name ((mem_raised _ _ _).mp ((joinAffected_left joins).1 name member))
    · rename_i left kept joined joins
      rcases joinAffected_left joins with ⟨shrinks, cleared⟩
      have still : forall name : String, name ∈ left ->
          name ∈ graph.spec.nodes.map NodeSpec.name :=
        fun name member => consistent.known name ((mem_raised _ _ _).mp (shrinks name member))
      have quiesced : RunningGraph.Consistent (graph.quiesced left kept) :=
        consistent.of_workers rfl rfl rfl still
      split
      · exact rollBack_consistent quiesced _ _ _
      · refine switchAndSpawn_consistent accepted granted (fun name member => ?_)
          (quiesced.switches accepted covers named graph.nextPipe)
        rcases keeps name (still name member) with inCandidate | removed
        · exact inCandidate
        · have inAffected := (affectedNames_ok named).1 name removed
          exact absurd member (cleared rfl name (Std.TreeMap.mem_keys.mpr inAffected))

private theorem Consistent.setStatus {graph : RunningGraph T} (consistent : graph.Consistent)
    (status : GraphStatus) : (graph.setStatus status).Consistent :=
  consistent.of_workers rfl rfl rfl consistent.known

private theorem reload_consistent {registry : Registry} {env : UpdateEnv E T}
    {graph : RunningGraph T} (consistent : graph.Consistent) {diff : GraphDiff}
    {candidate : GraphSpec} (covers : GraphSpec.Covers graph.spec candidate diff)
    (keeps : GraphSpec.KeepsNames graph.spec candidate diff)
    (alive : (graph.reload registry env diff candidate).1.status ≠ .failed) :
    (graph.reload registry env diff candidate).1.Consistent := by
  have stays : StaysConsistent
      (applyHotUpdateCandidate registry env (graph.setStatus .reloading) diff candidate) :=
    applyHotUpdateCandidate_consistent (consistent.setStatus .reloading) covers keeps
  unfold reload at alive ⊢
  split
  · rename_i runs
    rw [runs] at stays
    rcases stays with kept | ⟨_, impossible⟩
    · exact kept.setStatus .running
    · exact absurd rfl impossible
  · rename_i after error runs
    rw [runs] at stays alive
    dsimp only at alive
    split
    · rename_i failed
      rw [if_pos failed] at alive
      exact absurd failed alive
    · rename_i running
      rcases stays with kept | ⟨failed, _⟩
      · exact kept.setStatus .running
      · exact absurd failed running

/-- Storing another configuration of the same nodes and connections. -/
private theorem ConfigOnly.consistent {registry : Registry} {graph : RunningGraph T}
    {request : Request} {spec : GraphSpec} (config : ConfigOnly registry graph request spec)
    (consistent : graph.Consistent) :
    RunningGraph.Consistent { graph with spec := spec } := by
  rcases config.validated with ⟨effective, granted, validated⟩
  have same := config.same
  rw [GraphDiff.isEmpty, Bool.and_eq_true, Bool.and_eq_true, Bool.and_eq_true, Bool.and_eq_true]
    at same
  have connections : forall connection, connection ∈ spec.connections ->
      connection ∈ graph.spec.connections := by
    intro connection member
    rcases GraphSpec.diff_covers graph.spec spec connection member with before | added
    · exact before
    · rw [List.isEmpty_iff.mp same.1.2] at added
      cases added
  have edges : forall edge : ConnectionSpec, edge ∈ spec.parsedConnections ->
      edge ∈ graph.spec.parsedConnections := by
    intro edge member
    rcases List.mem_filterMap.mp member with ⟨connection, inSpec, parses⟩
    exact List.mem_filterMap.mpr ⟨connection, connections connection inSpec, parses⟩
  exact
    { accepted := GraphSpec.accepted_of_validateWithPolicy validated
      granted := ⟨effective, granted⟩
      known := by
        intro name member
        rcases GraphSpec.diff_keepsNames graph.spec spec name (consistent.known name member) with
          kept | removed
        · exact kept
        · rw [List.isEmpty_iff.mp same.1.1.1.2] at removed
          cases removed
      edges := fun connection member => consistent.edges connection (connections connection member)
      inputs := fun edge member => consistent.inputs edge (edges edge member)
      outputs := fun edge member => consistent.outputs edge (edges edge member) }

/-- A graph stays consistent through every update that does not fail it. -/
theorem hotUpdate_consistent {registry : Registry} {env : UpdateEnv E T} {graph : RunningGraph T}
    (consistent : graph.Consistent) (request : Request)
    (alive : (graph.hotUpdate registry env request).1.status ≠ .failed) :
    (graph.hotUpdate registry env request).1.Consistent := by
  cases goes : graph.reloads registry request with
  | true =>
      rw [hotUpdate_of_reloads env goes] at alive ⊢
      exact reload_consistent consistent (request.covers graph.spec) (request.keepsNames graph.spec)
        alive
  | false =>
      rcases hotUpdate_of_not_reloads env goes with same | ⟨error, same⟩ | ⟨spec, config, same⟩
      · rw [same]
        exact consistent
      · rw [same]
        exact consistent
      · rw [same]
        exact config.consistent consistent

end RunningGraph
end Graph
end DyunGu
