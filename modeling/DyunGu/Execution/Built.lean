import DyunGu.Execution.Concurrent
import DyunGu.Graph.Cycles
import DyunGu.Graph.Wiring
import DyunGu.Lib.Digraph

namespace DyunGu
namespace Execution

open DyunGu.Graph
open DyunGu.Core (ResourcePolicy)

variable {T R M : Type}

/-!
# The workers of a built graph

A graph that was validated and built has the pipes of its connections at the
ports of its workers.  With one worker for each node nobody shares an end of a
pipe, and without a cycle packets only go upwards, so that the workers run as
their elements do alone.

The ports of a worker are kept in a hash map, whose order is not known but does
not change.  The queue of an input element is shared with the handle through
which it was filled.
-/

def Element.loaded (queue : List T) : Element T R M -> Element T R M
  | .input _ => .input queue
  | element => element

/-! ## What the builder gives the workers -/

section Builder

variable {E : Type}

/-- Every pipe was made for the execution mode. -/
theorem connectAll_pipes {execution : ExecutionSpec} {connections : List String}
    {wiring final : RuntimeGraph.Wiring E T}
    (made : forall (connection : String) (route : EdgeRoute),
      wiring.edges[connection]? = some route ->
        Exists fun id => route.sender = execution.pipe id)
    (connects : RuntimeGraph.connectAll execution wiring connections = .ok final)
    (connection : String) (route : EdgeRoute) (found : final.edges[connection]? = some route) :
    Exists fun id => route.sender = execution.pipe id := by
  induction connections generalizing wiring with
  | nil =>
      cases connects
      exact made connection route found
  | cons first connections ih =>
      unfold RuntimeGraph.connectAll at connects
      cases entered : RuntimeGraph.connect execution wiring first with
      | error failure =>
          rw [entered] at connects
          cases connects
      | ok next =>
          rw [entered] at connects
          refine ih (fun other otherRoute looked => ?_) connects
          unfold RuntimeGraph.connect at entered
          split at entered
          · cases entered
          · dsimp only at entered
            split at entered
            · cases entered
            · split at entered
              · cases entered
              · split at entered
                · cases entered
                · cases entered
                  dsimp only at looked
                  rw [OrderedMap.getElem?_insert] at looked
                  split at looked
                  · cases looked
                    exact ⟨wiring.nextPipe, rfl⟩
                  · exact made other otherRoute looked

/-- The contexts of a built graph are fresh, and so are its pipes. -/
theorem built_fresh {registry : Registry} {create : Creation E T}
    {storageBytes : T -> Except Core.Error Nat} {policy : ResourcePolicy} {spec : GraphSpec}
    {inputs : List (String × List T)} {graph : RuntimeGraph E}
    {sinks : Std.TreeMap String (SinkCollector T)}
    (builds : RuntimeGraph.build registry create storageBytes policy spec inputs =
      .ok (graph, sinks)) :
    (forall exec, exec ∈ graph.nodes ->
      exec.io.shouldStop = false ∧ exec.io.eos.seen = false) ∧
    forall (connection : String) (route : EdgeRoute),
      graph.routes.edges[connection]? = some route ->
        Exists fun id => route.sender = spec.execution.pipe id := by
  rcases Outcome.bind_ok builds with ⟨effective, _, builds⟩
  rcases Outcome.bind_ok builds with ⟨created, _, builds⟩
  rcases Outcome.bind_ok builds with ⟨nodes, _, builds⟩
  rcases Outcome.bind_ok builds with ⟨wiring, connects, builds⟩
  split at builds
  · cases builds
  · cases builds
    constructor
    · intro exec member
      rcases List.mem_flatMap.mp member with ⟨_, _, inExec⟩
      rcases List.mem_map.mp inExec with ⟨_, _, rfl⟩
      exact ⟨rfl, rfl⟩
    · refine connectAll_pipes (fun connection route found => ?_) connects
      rw [Std.TreeMap.getElem?_emptyc] at found
      cases found

end Builder

/-! ## The deployment of a graph -/

/-- A wired graph with one worker for each node, whose connections all enter
ports named "in" and close no cycle. -/
structure Plumbed (spec : GraphSpec) (graph : RuntimeGraph (Element T R M)) : Prop where
  accepted : spec.Accepted
  wired : graph.Wired spec
  single : forall node, node ∈ spec.nodes -> node.threads.getD 1 = 1
  entersIn : forall edge, edge ∈ spec.parsedConnections -> edge.toPort = "in"
  acyclic : ¬ Digraph.Cyclic fun first second =>
    (first, second) ∈ spec.parsedConnections.map fun edge => (edge.fromNode, edge.toNode)
  fresh : forall exec, exec ∈ graph.nodes -> exec.io.shouldStop = false ∧ exec.io.eos.seen = false
  made : forall (connection : String) (route : EdgeRoute),
    graph.routes.edges[connection]? = some route ->
      Exists fun id => route.sender = spec.execution.pipe id

namespace Plumbed

variable {spec : GraphSpec} {graph : RuntimeGraph (Element T R M)}

theorem of_build {registry : Registry} {limits policy : ResourcePolicy}
    {create : Creation (Element T R M) T}
    {storageBytes : T -> Except Core.Error Nat} {inputs : List (String × List T)}
    {sinks : Std.TreeMap String (SinkCollector T)}
    (validated : spec.validateWithPolicy registry limits = .ok ())
    (forbids : spec.allowCycles = false)
    (single : forall node, node ∈ spec.nodes -> node.threads.getD 1 = 1)
    (entersIn : forall edge, edge ∈ spec.parsedConnections -> edge.toPort = "in")
    (builds : RuntimeGraph.build registry create storageBytes policy spec inputs =
      .ok (graph, sinks)) : Plumbed spec graph := by
  have wired := ((RuntimeGraph.validated_builds validated create storageBytes policy
    inputs).2 graph sinks builds).1
  rcases built_fresh builds with ⟨fresh, made⟩
  have search := (GraphSpec.hasCycle_exact spec.nodes
    (spec.parsedConnections.map fun edge => (edge.fromNode, edge.toNode))).2
  rw [GraphSpec.hasCycle_of_validateWithPolicy validated forbids] at search
  exact
    { accepted := GraphSpec.accepted_of_validateWithPolicy validated
      wired := wired
      single := single
      entersIn := entersIn
      acyclic := fun cyclic => Bool.false_ne_true (search.mpr cyclic)
      fresh := fresh
      made := made }

variable (plumbed : Plumbed spec graph)

include plumbed

/-- A name has one worker. -/
theorem names_nodup : (graph.nodes.map RuntimeGraph.ExecNode.name).Nodup := by
  rw [List.nodup_iff_count_le_one]
  intro name
  by_cases known : name ∈ spec.nodes.map NodeSpec.name
  · rcases List.mem_map.mp known with ⟨node, inSpec, rfl⟩
    have workers := plumbed.wired.workers node inSpec
    rw [plumbed.single node inSpec] at workers
    rw [List.count, List.countP_map, ← workers, List.countP_eq_length_filter]
    apply Nat.le_of_eq
    congr 2
  · rw [List.count_eq_zero_of_not_mem]
    · exact Nat.zero_le 1
    · intro member
      rcases List.mem_map.mp member with ⟨exec, inNodes, rfl⟩
      exact known (plumbed.wired.known exec inNodes)

theorem index_of_name {first second : Fin graph.nodes.length}
    (same : (graph.nodes.get first).name = (graph.nodes.get second).name) : first = second := by
  have injective := List.nodup_iff_injective_get.mp plumbed.names_nodup
  have lift : forall node : Fin graph.nodes.length,
      (graph.nodes.get node).name = (graph.nodes.map RuntimeGraph.ExecNode.name).get
        (node.cast (List.length_map _).symm) := by
    intro node
    simp
  rw [lift, lift] at same
  have value := congrArg Fin.val (injective same)
  exact Fin.ext value

/-- The pipe at an input port is that of a connection into it. -/
theorem input_connection {node : Fin graph.nodes.length} {pipe : Pipe}
    (isInput : (graph.nodes.get node).receivers["in"]? = some pipe) :
    Exists fun connection => Exists fun edge => Exists fun route =>
      connection ∈ spec.connections ∧ ConnectionSpec.parse connection = .ok edge ∧
        edge.input = ((graph.nodes.get node).name, "in") ∧
        graph.routes.edges[connection]? = some route ∧ route.receiver = pipe := by
  rw [(plumbed.wired.contexts _ (List.get_mem graph.nodes node) "in").1] at isInput
  exact (plumbed.wired.inputs _ pipe).mp isInput

/-- The pipes at an output port are those of the connections out of it. -/
theorem output_connection {node : Fin graph.nodes.length} {port : String} {pipe : Pipe}
    (sends : pipe ∈ (graph.nodes.get node).senders.getD port []) :
    Exists fun connection => Exists fun edge => Exists fun route =>
      connection ∈ spec.connections ∧ ConnectionSpec.parse connection = .ok edge ∧
        edge.output = ((graph.nodes.get node).name, port) ∧
        graph.routes.edges[connection]? = some route ∧ route.sender = pipe := by
  rw [Std.TreeMap.getD_eq_getD_getElem?,
    (plumbed.wired.contexts _ (List.get_mem graph.nodes node) port).2,
    ← Std.TreeMap.getD_eq_getD_getElem?, plumbed.wired.outputs, RuntimeGraph.sendersFrom,
    List.mem_filterMap] at sends
  rcases sends with ⟨connection, inSpec, isSender⟩
  split at isSender
  · rename_i isKey
    rcases plumbed.accepted.parsed inSpec with ⟨edge, parses, parsed, _⟩
    rw [parsed, Option.map_some, Option.some.injEq] at isKey
    rcases Option.map_eq_some_iff.mp isSender with ⟨route, found, isPipe⟩
    exact ⟨connection, edge, route, inSpec, parses, isKey, found, isPipe⟩
  · cases isSender

/-- Two routes over one pipe are of one connection. -/
theorem same_connection {first second : String} {route other : EdgeRoute}
    (found : graph.routes.edges[first]? = some route)
    (otherFound : graph.routes.edges[second]? = some other)
    (same : route.sender = other.sender) : first = second := by
  apply plumbed.wired.separate first second route other found otherFound
  rw [← plumbed.wired.joined first route found, ← plumbed.wired.joined second other otherFound]
  exact same

/-- The workers of the graph at the pipes of its connections, with the output
ports of each in some order. -/
def deployment (order : Fin graph.nodes.length -> List String -> List String)
    (queues : String -> List T) : Deployment graph.nodes.length T R M where
  io := fun node =>
    { (graph.nodes.get node).io with
      outputs := order node (graph.nodes.get node).io.outputs }
  element := fun node =>
    (graph.nodes.get node).element.loaded (queues (graph.nodes.get node).name)
  input := fun node => (graph.nodes.get node).receivers["in"]?
  outputs := fun node => (graph.nodes.get node).senders
  readOnce := by
    intro first second pipe isInput otherInput
    rcases plumbed.input_connection isInput with
      ⟨connection, edge, route, _, parses, enters, found, isPipe⟩
    rcases plumbed.input_connection otherInput with
      ⟨other, otherEdge, otherRoute, _, otherParses, otherEnters, otherFound, otherPipe⟩
    have same := plumbed.wired.separate connection other route otherRoute found otherFound
      (isPipe.trans otherPipe.symm)
    subst same
    rw [parses] at otherParses
    cases otherParses
    apply plumbed.index_of_name
    rw [enters] at otherEnters
    exact congrArg Prod.fst otherEnters
  writeOnce := by
    intro first second port otherPort pipe sends otherSends
    rcases plumbed.output_connection sends with
      ⟨connection, edge, route, _, parses, leaves, found, isPipe⟩
    rcases plumbed.output_connection otherSends with
      ⟨other, otherEdge, otherRoute, _, otherParses, otherLeaves, otherFound, otherPipe⟩
    have same := plumbed.same_connection found otherFound (isPipe.trans otherPipe.symm)
    subst same
    rw [parses] at otherParses
    cases otherParses
    apply plumbed.index_of_name
    rw [leaves] at otherLeaves
    exact congrArg Prod.fst otherLeaves
  unstopped := fun node => (plumbed.fresh _ (List.get_mem graph.nodes node)).1
  unseen := fun node => (plumbed.fresh _ (List.get_mem graph.nodes node)).2

theorem layered (order : Fin graph.nodes.length -> List String -> List String)
    (queues : String -> List T) : Exists fun rank : Fin graph.nodes.length -> Nat =>
      (plumbed.deployment order queues).network.Layered rank ∧
        forall node, rank node < graph.nodes.length := by
  let step := fun first second : Fin graph.nodes.length =>
    ((graph.nodes.get first).name, (graph.nodes.get second).name) ∈
      spec.parsedConnections.map fun edge => (edge.fromNode, edge.toNode)
  have acyclic : ¬ Digraph.Cyclic step := by
    rintro ⟨node, cycle⟩
    exact plumbed.acyclic ⟨(graph.nodes.get node).name,
      cycle.lift (fun node => (graph.nodes.get node).name) fun _ _ next => next⟩
  rcases Digraph.exists_rank acyclic with ⟨rank, rises, low⟩
  rw [Fintype.card_fin] at low
  refine ⟨rank, ⟨?_, ?_⟩, low⟩
  · intro pipe node isWriter
    rcases Deployment.writer_eq_some.mp isWriter with ⟨port, sends⟩
    rcases plumbed.output_connection sends with
      ⟨connection, edge, route, inSpec, parses, leaves, found, isPipe⟩
    rcases plumbed.accepted.parsed inSpec with ⟨parsedEdge, parsesTo, _, inParsed⟩
    rw [parses] at parsesTo
    cases parsesTo
    rcases List.mem_map.mp (plumbed.accepted.joins edge inParsed).2 with ⟨target, inNodes, isName⟩
    have workers := plumbed.wired.workers target inNodes
    rw [plumbed.single target inNodes] at workers
    have positive : 0 < (graph.nodes.filter
        (RuntimeGraph.ExecNode.isNamed target.name)).length := by omega
    rcases List.length_pos_iff_exists_mem.mp positive with ⟨exec, inFilter⟩
    rcases List.mem_filter.mp inFilter with ⟨inGraph, named⟩
    have isTarget : exec.name = edge.toNode := (of_decide_eq_true named).trans isName
    rcases List.mem_iff_get.mp inGraph with ⟨reader, isExec⟩
    have readsPipe : (graph.nodes.get reader).receivers["in"]? = some pipe := by
      rw [(plumbed.wired.contexts _ (List.get_mem graph.nodes reader) "in").1]
      refine (plumbed.wired.inputs _ pipe).mpr
        ⟨connection, edge, route, inSpec, parses, ?_, found, ?_⟩
      · rw [ConnectionSpec.input, plumbed.entersIn edge inParsed, isExec, isTarget]
      · rw [← plumbed.wired.joined connection route found]
        exact isPipe
    refine ⟨reader, readsPipe, rises node reader (List.mem_map.mpr ⟨edge, inParsed, ?_⟩)⟩
    rw [isExec, isTarget]
    exact congrArg (fun key => (key, edge.toNode)) (congrArg Prod.fst leaves)
  · intro pipe node isWriter
    rcases Deployment.writer_eq_some.mp isWriter with ⟨port, sends⟩
    rcases plumbed.output_connection sends with
      ⟨connection, edge, route, _, _, _, found, isPipe⟩
    rcases plumbed.made connection route found with ⟨id, isMade⟩
    have positive := plumbed.accepted.capacity
    intro full
    change pipe.capacity = some 0 at full
    rw [← isPipe, isMade] at full
    unfold ExecutionSpec.pipe at full
    split at full
    · exact positive (Option.some.inj full)
    · cases full
    · cases full

end Plumbed

/-- The workers of a graph that was validated and built. -/
abbrev builtDeployment {registry : Registry} {limits policy : ResourcePolicy}
    {spec : GraphSpec} {create : Creation (Element T R M) T}
    {storageBytes : T -> Except Core.Error Nat} {inputs : List (String × List T)}
    {graph : RuntimeGraph (Element T R M)} {sinks : Std.TreeMap String (SinkCollector T)}
    (validated : spec.validateWithPolicy registry limits = .ok ())
    (forbids : spec.allowCycles = false)
    (single : forall node, node ∈ spec.nodes -> node.threads.getD 1 = 1)
    (entersIn : forall edge, edge ∈ spec.parsedConnections -> edge.toPort = "in")
    (builds : RuntimeGraph.build registry create storageBytes policy spec inputs =
      .ok (graph, sinks))
    (order : Fin graph.nodes.length -> List String -> List String) (queues : String -> List T) :
    Deployment graph.nodes.length T R M :=
  (Plumbed.of_build validated forbids single entersIn builds).deployment order queues

/-- A validated graph without cycles, with one worker for each node and one
input port for each of them, runs as its elements do one after another:
whatever the interleaving, the capacity of the pipes and the order of the port
tables, nobody fails, no set of workers waits for each other, and when all have
returned every element is in the state in which its plain run over the whole of
its input leaves it. -/
theorem built_refines_plain {registry : Registry} {limits policy : ResourcePolicy}
    {spec : GraphSpec} {create : Creation (Element T R M) T}
    {storageBytes : T -> Except Core.Error Nat} {inputs : List (String × List T)}
    {graph : RuntimeGraph (Element T R M)} {sinks : Std.TreeMap String (SinkCollector T)}
    (validated : spec.validateWithPolicy registry limits = .ok ())
    (forbids : spec.allowCycles = false)
    (single : forall node, node ∈ spec.nodes -> node.threads.getD 1 = 1)
    (entersIn : forall edge, edge ∈ spec.parsedConnections -> edge.toPort = "in")
    (builds : RuntimeGraph.build registry create storageBytes policy spec inputs =
      .ok (graph, sinks))
    (order : Fin graph.nodes.length -> List String -> List String) (queues : String -> List T)
    (succeeds :
      (builtDeployment validated forbids single entersIn builds order queues).Succeeds) :
    Exists fun total => forall labels state,
      (builtDeployment validated forbids single entersIn builds order queues).machine.run
        (builtDeployment validated forbids single entersIn builds order queues).initial labels =
          some state ->
      (builtDeployment validated forbids single entersIn builds order queues).Refines total
        (labels.filterMap Deployment.Label.moved).length state := by
  rcases (Plumbed.of_build validated forbids single entersIn builds).layered order queues with
    ⟨rank, layered, low⟩
  exact Deployment.refines_plain succeeds layered low

/-! ## A camera whose frames are split -/

def splitRegistry : Registry where
  elements :=
    [⟨"source", [], [⟨"out", none, false⟩], [], none⟩,
      ⟨"distributor", [⟨"in", none, true⟩], [⟨"out0", none, false⟩, ⟨"out1", none, false⟩], [],
        none⟩,
      ⟨"sink", [⟨"in", none, true⟩], [], [], none⟩]
  modelSourceSize := fun _ => .ok 0
  sourceOutputTensorBytes := fun _ => .ok 16
  mockInferenceOutputTensorBytes := fun _ => .ok 16

def splitSpec : GraphSpec :=
  { GraphSpec.default with
    execution := { ExecutionSpec.default with queueCapacity := 1 }
    nodes :=
      [⟨"camera", "source", none, false, none, none, none, none, .null⟩,
       ⟨"split", "distributor", none, false, none, none, none, none, .null⟩,
       ⟨"left", "sink", some 1, true, none, none, none, none, .null⟩,
       ⟨"right", "sink", some 1, true, none, none, none, none, .null⟩]
    connections := ["camera.out -> split.in", "split.out0 -> left.in", "split.out1 -> right.in"] }

def splitLayout : PayloadLayout Nat where
  desc := fun _ => ⟨⟨[1, 4]⟩, none, ⟨.float, 32, 1⟩, .nc, .cpu⟩
  detection := 0
  classification := 0
  face := 0
  track := 0
  ocrText := 0

def splitCreation : Creation (Element Nat Nat Nat) Nat := fun node _ =>
  if node.kind = "source" then .ok ⟨.source 3 .ok, .none⟩
  else if node.kind = "distributor" then .ok ⟨.distributor .roundRobin 0, .none⟩
  else .ok ⟨.sink splitLayout (MeteredCollector.new 8 1024), .sink ⟨[], 0, 0⟩⟩

def splitBuild : Except BuildFailure (RuntimeGraph (Element Nat Nat Nat) ×
    Std.TreeMap String (SinkCollector Nat)) :=
  RuntimeGraph.build splitRegistry splitCreation (fun _ => .ok 16) ResourcePolicy.default splitSpec
    []

theorem split_validated :
    splitSpec.validateWithPolicy splitRegistry ResourcePolicy.default = .ok () := by
  decide +kernel

theorem split_entersIn : forall edge, edge ∈ splitSpec.parsedConnections -> edge.toPort = "in" := by
  decide +kernel

/-- The workers of the camera graph, with the port tables in order. -/
abbrev splitDeployment {graph : RuntimeGraph (Element Nat Nat Nat)}
    {sinks : Std.TreeMap String (SinkCollector Nat)} (builds : splitBuild = .ok (graph, sinks)) :
    Deployment graph.nodes.length Nat Nat Nat :=
  builtDeployment split_validated rfl (by decide) split_entersIn builds (fun _ ports => ports)
    fun _ => []

/-- Whether the plain runs over what was built succeed. -/
def splitSucceeds : Bool :=
  match builds : splitBuild with
  | .ok (_, _) => decide (splitDeployment builds).Succeeds
  | .error _ => false

theorem split_succeeds : splitSucceeds = true := by
  decide +kernel

/-- Three frames are split over pipes with room for one packet each. -/
theorem split_refines_plain : Exists fun graph => Exists fun sinks =>
    Exists fun builds : splitBuild = .ok (graph, sinks) => Exists fun total =>
      forall labels state,
        (splitDeployment builds).machine.run (splitDeployment builds).initial labels =
          some state ->
        (splitDeployment builds).Refines total
          (labels.filterMap Deployment.Label.moved).length state := by
  have succeeds := split_succeeds
  unfold splitSucceeds at succeeds
  split at succeeds
  · rename_i graph sinks builds
    exact ⟨graph, sinks, builds, built_refines_plain split_validated rfl (by decide)
      split_entersIn builds (fun _ ports => ports) (fun _ => []) (of_decide_eq_true succeeds)⟩
  · cases succeeds

end Execution
end DyunGu
