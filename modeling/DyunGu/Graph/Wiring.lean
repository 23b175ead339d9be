import DyunGu.Graph.Build

namespace DyunGu
namespace Graph
namespace RuntimeGraph

open DyunGu.Core (ResourcePolicy)

variable {E T : Type}

/-!
# The builder wires what the validator accepts

The structural rules are written twice, in the validator over names and in
the builder over tables of ports.  Where the first holds, the second finds
nothing to report, and what it has built has one pipe per connection.
-/

/-- The senders of the connections that leave an output port, in order. -/
def sendersFrom (edges : Std.TreeMap String EdgeRoute) (connections : List String)
    (key : String × String) : List Pipe :=
  connections.filterMap fun connection =>
    if (ConnectionSpec.parseOk connection).map ConnectionSpec.output = some key then
      edges[connection]?.map EdgeRoute.sender
    else none

/-- The routes of a graph are the connections of its specification: one pipe
for each, no two of them the same, one receiver at each connected input port
and at each output port the senders of its connections in order. -/
structure Wired (spec : GraphSpec) (graph : RuntimeGraph E) : Prop where
  distinct : spec.connections.Nodup
  edges : forall connection : String,
    connection ∈ graph.routes.edges <-> connection ∈ spec.connections
  joined : forall (connection : String) (route : EdgeRoute),
    graph.routes.edges[connection]? = some route -> route.sender = route.receiver
  separate : forall (first second : String) (route other : EdgeRoute),
    graph.routes.edges[first]? = some route ->
    graph.routes.edges[second]? = some other -> route.receiver = other.receiver ->
    first = second
  inputs : forall (key : String × String) (pipe : Pipe), graph.routes.inputs[key]? = some pipe <->
    Exists fun connection => Exists fun edge => Exists fun route =>
      connection ∈ spec.connections ∧ ConnectionSpec.parse connection = .ok edge ∧
        edge.input = key ∧ graph.routes.edges[connection]? = some route ∧
        route.receiver = pipe
  single : forall first second edge other, first ∈ spec.connections ->
    second ∈ spec.connections -> ConnectionSpec.parse first = .ok edge ->
    ConnectionSpec.parse second = .ok other -> edge.input = other.input -> first = second
  outputs : forall key : String × String, graph.routes.outputs.getD key [] =
    sendersFrom graph.routes.edges spec.connections key
  contexts : forall exec, exec ∈ graph.nodes -> forall port : String,
    exec.receivers[port]? = graph.routes.inputs[(exec.name, port)]? ∧
      exec.senders[port]? = graph.routes.outputs[(exec.name, port)]?
  workers : forall node, node ∈ spec.nodes ->
    (graph.nodes.filter (ExecNode.isNamed node.name)).length =
      node.threads.getD 1
  known : forall exec, exec ∈ graph.nodes -> exec.name ∈ spec.nodes.map NodeSpec.name
  unstopped : forall exec, exec ∈ graph.nodes -> exec.io.controlStop = false

/-! ## The nodes -/

private theorem createInstances_length {registry : Registry} {create : Creation E T}
    {node : NodeSpec} {count index : Nat} {elements : List E}
    (creates : createInstances registry create node count index = .ok elements) :
    elements.length = count := by
  induction count generalizing index elements with
  | zero =>
      cases creates
      rfl
  | succ count ih =>
      unfold createInstances at creates
      cases made : createElement registry create node index with
      | error error =>
          rw [made] at creates
          cases creates
      | ok created =>
          rw [made] at creates
          dsimp only [bind, Except.bind] at creates
          split at creates
          · cases creates
          · split at creates
            · cases creates
            · rename_i later
              cases creates
              rw [List.length_cons, ih later]

/-- As many elements as the node asks for, and at least one. -/
theorem prepared_length {registry : Registry} {create : Creation E T} {node : NodeSpec}
    {prepared : PreparedNode E T}
    (prepares : PreparedNode.new registry create node = .ok prepared) :
    prepared.elements.length = node.threads.getD 1 - 1 + 1 := by
  unfold PreparedNode.new at prepares
  cases made : createElement registry create node 0 with
  | error error =>
      rw [made] at prepares
      cases prepares
  | ok created =>
      rw [made] at prepares
      dsimp only [bind, Except.bind] at prepares
      split at prepares
      · cases prepares
      · split at prepares
        · cases prepares
        · rename_i later
          cases prepares
          rw [List.length_cons, createInstances_length later]

/-- A node table for these node specifications. -/
structure Tabled (specs : List NodeSpec) (nodes : Nodes E T) : Prop where
  domain : forall name : String, name ∈ nodes <-> name ∈ specs.map NodeSpec.name
  named : forall (name : String) (node : NodeRuntime E T),
    nodes[name]? = some node -> node.name = name
  sized : forall spec, spec ∈ specs -> forall node : NodeRuntime E T,
    nodes[spec.name]? = some node -> node.elements.length = spec.threads.getD 1 - 1 + 1

/-- No port of any node is connected yet. -/
def Blank (nodes : Nodes E T) : Prop :=
  forall (name : String) (node : NodeRuntime E T), nodes[name]? = some node ->
    node.inputs = {} ∧ node.outputs = {}

private theorem createNodes_tabled {registry : Registry} {create : Creation E T}
    {before specs : List NodeSpec} {nodes result : Nodes E T} (table : Tabled before nodes)
    (blank : Blank nodes) (distinct : ((before ++ specs).map NodeSpec.name).Nodup)
    (creates : createNodes registry create nodes specs = .ok result) :
    Tabled (before ++ specs) result ∧ Blank result := by
  induction specs generalizing before nodes with
  | nil =>
      cases creates
      rw [List.append_nil]
      exact ⟨table, blank⟩
  | cons spec specs ih =>
      unfold createNodes at creates
      cases prepares : PreparedNode.new registry create spec with
      | error error =>
          rw [prepares] at creates
          cases creates
      | ok prepared =>
          rw [prepares] at creates
          dsimp only at creates
          have fresh : spec.name ∉ before.map NodeSpec.name := by
            rw [List.map_append, List.nodup_append] at distinct
            intro member
            exact distinct.2.2 _ member _ List.mem_cons_self rfl
          have next : Tabled (before ++ [spec]) (nodes.insert spec.name
              { name := spec.name, elements := prepared.elements, handle := prepared.handle
                inputs := {}, outputs := {} }) := by
            refine { domain := fun name => ?_, named := fun name node found => ?_
                     sized := fun other member node found => ?_ }
            · rw [OrderedMap.mem_insert, table.domain, List.map_append, List.mem_append,
                List.map_singleton, List.mem_singleton, or_comm, eq_comm]
            · rw [OrderedMap.getElem?_insert] at found
              split at found
              · rename_i same
                cases found
                exact same
              · exact table.named name node found
            · rw [OrderedMap.getElem?_insert] at found
              rcases List.mem_append.mp member with old | new
              · have differ : spec.name ≠ other.name := fun same =>
                  fresh (same ▸ List.mem_map.mpr ⟨other, old, rfl⟩)
                rw [if_neg differ] at found
                exact table.sized other old node found
              · rw [List.mem_singleton.mp new, if_pos rfl] at found
                cases found
                rw [List.mem_singleton.mp new]
                exact prepared_length prepares
          have stillBlank : Blank (nodes.insert spec.name
              { name := spec.name, elements := prepared.elements, handle := prepared.handle
                inputs := {}, outputs := {} }) := by
            intro name node found
            rw [OrderedMap.getElem?_insert] at found
            split at found
            · cases found
              exact ⟨rfl, rfl⟩
            · exact blank name node found
          have split : before ++ spec :: specs = (before ++ [spec]) ++ specs := by
            rw [List.append_assoc, List.singleton_append]
          rw [split] at distinct ⊢
          exact ih next stillBlank distinct creates

/-- Injecting inputs changes only handles. -/
private theorem injectInputs_tabled {storageBytes : T -> Except Core.Error Nat}
    {policy : ResourcePolicy} {specs : List NodeSpec} {nodes result : Nodes E T}
    {inputs : List (String × List T)} (table : Tabled specs nodes) (blank : Blank nodes)
    (injects : injectInputs storageBytes policy nodes inputs = .ok result) :
    Tabled specs result ∧ Blank result := by
  induction inputs generalizing nodes with
  | nil =>
      cases injects
      exact ⟨table, blank⟩
  | cons input inputs ih =>
      rcases input with ⟨name, tensors⟩
      unfold injectInputs at injects
      split at injects
      · rename_i node found
        split at injects
        · rename_i queue handle
          split at injects
          · cases injects
          · refine ih ?_ ?_ injects
            · refine { domain := fun other => ?_, named := fun other later looked => ?_
                       sized := fun spec member later looked => ?_ }
              · rw [OrderedMap.mem_insert, ← table.domain]
                constructor
                · rintro (rfl | member)
                  · exact (OrderedMap.mem_iff _ _).mpr ⟨node, found⟩
                  · exact member
                · exact Or.inr
              · rw [OrderedMap.getElem?_insert] at looked
                split at looked
                · rename_i same
                  cases looked
                  rw [← same]
                  exact table.named name node found
                · exact table.named other later looked
              · rw [OrderedMap.getElem?_insert] at looked
                split at looked
                · rename_i same
                  cases looked
                  rw [same] at found
                  exact table.sized spec member node found
                · exact table.sized spec member later looked
            · intro other later looked
              rw [OrderedMap.getElem?_insert] at looked
              split at looked
              · cases looked
                exact blank name node found
              · exact blank other later looked
        · cases injects
        · cases injects
      · cases injects

/-! ## The connections -/

/-- A node after the connection has been entered at its ports. -/
private def entered (edge : ConnectionSpec) (pipe : Pipe) (name : String)
    (node : NodeRuntime E T) : NodeRuntime E T :=
  { node with
    outputs := if edge.fromNode = name then
        node.outputs.insert edge.fromPort (node.outputs.getD edge.fromPort [] ++ [pipe])
      else node.outputs
    inputs := if edge.toNode = name then node.inputs.insert edge.toPort pipe else node.inputs }

private theorem entered_inputs (edge : ConnectionSpec) (pipe : Pipe) (name : String)
    (node : NodeRuntime E T) (port : String) :
    (entered edge pipe name node).inputs[port]? =
      if edge.input = (name, port) then some pipe else node.inputs[port]? := by
  rw [entered, ConnectionSpec.input]
  dsimp only
  by_cases atNode : edge.toNode = name
  · rw [if_pos atNode, OrderedMap.getElem?_insert, atNode]
    simp only [Prod.mk.injEq, true_and]
  · rw [if_neg atNode, if_neg]
    exact fun isKey => atNode (congrArg Prod.fst isKey)

private theorem entered_outputs (edge : ConnectionSpec) (pipe : Pipe) (name : String)
    (node : NodeRuntime E T) (port : String) :
    (entered edge pipe name node).outputs.getD port [] =
      node.outputs.getD port [] ++ if edge.output = (name, port) then [pipe] else [] := by
  rw [entered, ConnectionSpec.output]
  dsimp only
  by_cases atNode : edge.fromNode = name
  · rw [if_pos atNode, Std.TreeMap.getD_eq_getD_getElem?, OrderedMap.getElem?_insert, atNode]
    simp only [Prod.mk.injEq, true_and]
    by_cases atPort : edge.fromPort = port
    · rw [if_pos atPort, if_pos atPort, atPort]
      rfl
    · rw [if_neg atPort, if_neg atPort, List.append_nil, ← Std.TreeMap.getD_eq_getD_getElem?]
  · rw [if_neg atNode, if_neg, List.append_nil]
    exact fun isKey => atNode (congrArg Prod.fst isKey)

/-- What the loop has made of the connections before this point. -/
structure Linked (before : List String) (wiring : Wiring E T) : Prop where
  edges : forall connection : String, connection ∈ wiring.edges <-> connection ∈ before
  joined : forall (connection : String) (route : EdgeRoute),
    wiring.edges[connection]? = some route ->
      route.sender = route.receiver ∧ route.receiver.id < wiring.nextPipe
  separate : forall (first second : String) (route other : EdgeRoute),
    wiring.edges[first]? = some route -> wiring.edges[second]? = some other ->
    route.receiver = other.receiver -> first = second
  inputs : forall (name : String) (node : NodeRuntime E T), wiring.nodes[name]? = some node ->
    forall (port : String) (pipe : Pipe), node.inputs[port]? = some pipe <->
      Exists fun connection => Exists fun edge => Exists fun route =>
        connection ∈ before ∧ ConnectionSpec.parseOk connection = some edge ∧
          edge.input = (name, port) ∧ wiring.edges[connection]? = some route ∧
          route.receiver = pipe
  outputs : forall (name : String) (node : NodeRuntime E T), wiring.nodes[name]? = some node ->
    forall port : String, node.outputs.getD port [] =
      sendersFrom wiring.edges before (name, port)

private theorem linked_nil {nodes : Nodes E T} (blank : Blank nodes) :
    Linked [] (⟨nodes, {}, 0⟩ : Wiring E T) where
  edges := fun connection => by
    simp
  joined := fun connection route found => by
    rw [Std.TreeMap.getElem?_emptyc] at found
    cases found
  separate := fun first second route other found => by
    rw [Std.TreeMap.getElem?_emptyc] at found
    cases found
  inputs := fun name node found port pipe => by
    rw [(blank name node found).1, Std.TreeMap.getElem?_emptyc]
    constructor
    · intro impossible
      cases impossible
    · rintro ⟨_, _, _, impossible, _⟩
      cases impossible
  outputs := fun name node found port => by
    rw [(blank name node found).2, Std.TreeMap.getD_eq_getD_getElem?,
      Std.TreeMap.getElem?_emptyc]
    rfl

/-- A connection between known nodes into a free port is entered. -/
private theorem connect_enters (execution : ExecutionSpec) {wiring : Wiring E T}
    {connection : String} {edge : ConnectionSpec}
    (parses : ConnectionSpec.parse connection = .ok edge)
    {source target : NodeRuntime E T} (hasSource : wiring.nodes[edge.fromNode]? = some source)
    (hasTarget : wiring.nodes[edge.toNode]? = some target) (free : edge.toPort ∉ target.inputs) :
    Exists fun next => connect execution wiring connection = .ok next ∧
      next.edges = wiring.edges.insert connection
        ⟨execution.pipe wiring.nextPipe, execution.pipe wiring.nextPipe⟩ ∧
      next.nextPipe = wiring.nextPipe + 1 ∧
      forall name : String, next.nodes[name]? =
        (wiring.nodes[name]?).map (entered edge (execution.pipe wiring.nextPipe) name) := by
  unfold connect
  rw [parses]
  dsimp only
  rw [hasSource]
  dsimp only
  by_cases loop : edge.fromNode = edge.toNode
  · rw [loop] at hasSource
    rw [hasTarget] at hasSource
    cases hasSource
    rw [OrderedMap.getElem?_insert, if_pos loop]
    dsimp only
    rw [if_neg free]
    refine ⟨_, rfl, rfl, rfl, fun name => ?_⟩
    dsimp only
    rw [OrderedMap.getElem?_insert, OrderedMap.getElem?_insert, loop]
    by_cases here : edge.toNode = name
    · rw [if_pos here, ← here, hasTarget, Option.map_some, entered, if_pos loop, if_pos rfl]
    · rw [if_neg here, if_neg here]
      cases wiring.nodes[name]? with
      | none => rfl
      | some node =>
          rw [Option.map_some, entered, if_neg here, if_neg (loop ▸ here)]
  · rw [OrderedMap.getElem?_insert, if_neg loop, hasTarget]
    dsimp only
    rw [if_neg free]
    refine ⟨_, rfl, rfl, rfl, fun name => ?_⟩
    dsimp only
    rw [OrderedMap.getElem?_insert, OrderedMap.getElem?_insert]
    by_cases atTarget : edge.toNode = name
    · rw [if_pos atTarget, ← atTarget, hasTarget, Option.map_some, entered, if_neg loop,
        if_pos rfl]
    · rw [if_neg atTarget]
      by_cases atSource : edge.fromNode = name
      · rw [if_pos atSource, ← atSource, hasSource, Option.map_some, entered, if_pos rfl,
          if_neg (fun same => loop same.symm)]
      · rw [if_neg atSource]
        cases wiring.nodes[name]? with
        | none => rfl
        | some node => rw [Option.map_some, entered, if_neg atSource, if_neg atTarget]

private theorem tabled_of_entered {specs : List NodeSpec} {nodes next : Nodes E T}
    {edge : ConnectionSpec} {pipe : Pipe} (table : Tabled specs nodes)
    (lookups : forall name : String, next[name]? =
      (nodes[name]?).map (entered edge pipe name)) : Tabled specs next := by
  refine { domain := fun name => ?_, named := fun name node found => ?_
           sized := fun spec member node found => ?_ }
  · rw [← table.domain, OrderedMap.mem_iff, OrderedMap.mem_iff, lookups]
    simp only [Option.map_eq_some_iff]
    constructor
    · rintro ⟨_, node, found, _⟩
      exact ⟨node, found⟩
    · rintro ⟨node, found⟩
      exact ⟨_, node, found, rfl⟩
  · rw [lookups, Option.map_eq_some_iff] at found
    rcases found with ⟨old, found, rfl⟩
    exact table.named name old found
  · rw [lookups, Option.map_eq_some_iff] at found
    rcases found with ⟨old, found, rfl⟩
    exact table.sized spec member old found

/-- The senders of a port after one more connection has its route. -/
private theorem sendersFrom_snoc {edges : Std.TreeMap String EdgeRoute} {before : List String}
    {connection : String} {edge : ConnectionSpec} {route : EdgeRoute}
    (parses : ConnectionSpec.parseOk connection = some edge) (fresh : connection ∉ before)
    (key : String × String) :
    sendersFrom (edges.insert connection route) (before ++ [connection]) key =
      sendersFrom edges before key ++ if edge.output = key then [route.sender] else [] := by
  unfold sendersFrom
  rw [List.filterMap_append]
  congr 1
  · refine List.filterMap_congr fun other member => ?_
    have differ : connection ≠ other := fun same => fresh (same ▸ member)
    rw [OrderedMap.getElem?_insert, if_neg differ]
  · simp only [List.filterMap_cons, List.filterMap_nil, parses, Option.map_some,
      Option.some.injEq, OrderedMap.getElem?_insert, if_true]
    by_cases isKey : edge.output = key
    · simp only [isKey, if_true]
    · simp only [isKey, if_false]

private theorem connect_linked {execution : ExecutionSpec} {before : List String}
    {wiring next : Wiring E T} {connection : String} {edge : ConnectionSpec}
    (linked : Linked before wiring) (fresh : connection ∉ before)
    (parses : ConnectionSpec.parseOk connection = some edge)
    (edges : next.edges = wiring.edges.insert connection
      ⟨execution.pipe wiring.nextPipe, execution.pipe wiring.nextPipe⟩)
    (nextPipe : next.nextPipe = wiring.nextPipe + 1)
    (unused : forall other edge', other ∈ before -> ConnectionSpec.parseOk other = some edge' ->
      edge'.input ≠ edge.input)
    (lookups : forall name : String, next.nodes[name]? =
      (wiring.nodes[name]?).map (entered edge (execution.pipe wiring.nextPipe) name)) :
    Linked (before ++ [connection]) next := by
  have routeOf : forall other : String, next.edges[other]? =
      if connection = other then
        some ⟨execution.pipe wiring.nextPipe, execution.pipe wiring.nextPipe⟩
      else wiring.edges[other]? := by
    intro other
    rw [edges, OrderedMap.getElem?_insert]
  -- The number of the new pipe is above those of all earlier ones.
  have apart : forall (other : String) (route : EdgeRoute), wiring.edges[other]? = some route ->
      route.receiver ≠ execution.pipe wiring.nextPipe := by
    intro other route found same
    have below := (linked.joined other route found).2
    rw [same, ExecutionSpec.pipe_id] at below
    exact Nat.lt_irrefl _ below
  refine { edges := fun other => ?_, joined := fun other route found => ?_
           separate := fun first second route other foundFirst foundSecond same => ?_
           inputs := fun name node found port pipe => ?_
           outputs := fun name node found port => ?_ }
  · rw [edges, OrderedMap.mem_insert, linked.edges, List.mem_append, List.mem_singleton,
      or_comm, eq_comm]
  · rw [routeOf] at found
    rw [nextPipe]
    split at found
    · cases found
      exact ⟨rfl, by rw [ExecutionSpec.pipe_id]; exact Nat.lt_succ_self _⟩
    · have kept := linked.joined other route found
      exact ⟨kept.1, Nat.lt_succ_of_lt kept.2⟩
  · rw [routeOf] at foundFirst foundSecond
    by_cases isFirst : connection = first
    · by_cases isSecond : connection = second
      · exact isFirst.symm.trans isSecond
      · rw [if_pos isFirst] at foundFirst
        rw [if_neg isSecond] at foundSecond
        cases foundFirst
        exact absurd same.symm (apart second other foundSecond)
    · rw [if_neg isFirst] at foundFirst
      by_cases isSecond : connection = second
      · rw [if_pos isSecond] at foundSecond
        cases foundSecond
        exact absurd same (apart first route foundFirst)
      · rw [if_neg isSecond] at foundSecond
        exact linked.separate first second route other foundFirst foundSecond same
  · rw [lookups, Option.map_eq_some_iff] at found
    rcases found with ⟨before_, found, rfl⟩
    have held := linked.inputs name before_ found port pipe
    rw [entered_inputs]
    constructor
    · intro stored
      by_cases here : edge.input = (name, port)
      · rw [if_pos here] at stored
        cases stored
        exact ⟨connection, edge, _, List.mem_append_right _ (List.mem_singleton_self _),
          parses, here, (routeOf connection).trans (if_pos rfl), rfl⟩
      · rw [if_neg here] at stored
        rcases held.mp stored with ⟨other, edge', route, member, parses', isKey, routed, isPipe⟩
        have differ : connection ≠ other := fun same => fresh (same ▸ member)
        refine ⟨other, edge', route, List.mem_append_left _ member, parses', isKey, ?_, isPipe⟩
        rw [routeOf, if_neg differ]
        exact routed
    · rintro ⟨other, edge', route, member, parses', isKey, routed, isPipe⟩
      rcases List.mem_append.mp member with earlier | new
      · have differ : connection ≠ other := fun same => fresh (same ▸ earlier)
        rw [routeOf, if_neg differ] at routed
        rw [if_neg]
        · exact held.mpr ⟨other, edge', route, earlier, parses', isKey, routed, isPipe⟩
        · exact fun here => unused other edge' earlier parses' (isKey.trans here.symm)
      · rw [List.mem_singleton.mp new] at parses' routed
        rw [parses] at parses'
        cases parses'
        rw [routeOf, if_pos rfl] at routed
        cases routed
        rw [if_pos isKey, ← isPipe]
  · rw [lookups, Option.map_eq_some_iff] at found
    rcases found with ⟨before_, found, rfl⟩
    rw [edges, sendersFrom_snoc parses fresh, entered_outputs,
      linked.outputs name before_ found port]

/-- The loop over the connections of an accepted specification completes. -/
private theorem connectAll_linked {spec : GraphSpec} (accepted : spec.Accepted)
    (execution : ExecutionSpec) {before after : List String} {wiring : Wiring E T}
    (split : spec.connections = before ++ after) (table : Tabled spec.nodes wiring.nodes)
    (linked : Linked before wiring) :
    Exists fun final => connectAll execution wiring after = .ok final ∧
      Tabled spec.nodes final.nodes ∧ Linked spec.connections final := by
  induction after generalizing before wiring with
  | nil =>
      rw [List.append_nil] at split
      rw [split]
      exact ⟨wiring, rfl, table, linked⟩
  | cons connection after ih =>
      have member : connection ∈ spec.connections := by
        rw [split]
        exact List.mem_append_right _ List.mem_cons_self
      have fresh : connection ∉ before := by
        have distinct := accepted.distinct
        rw [split, List.nodup_append] at distinct
        intro earlier
        exact distinct.2.2 connection earlier connection List.mem_cons_self rfl
      rcases accepted.parsed member with ⟨edge, parses, parsed, inParsed⟩
      have unused : forall other edge', other ∈ before ->
          ConnectionSpec.parseOk other = some edge' -> edge'.input ≠ edge.input := by
        intro other edge' earlier parses' same
        have inSpec : other ∈ spec.connections := by
          rw [split]
          exact List.mem_append_left _ earlier
        exact fresh (accepted.single inSpec member parses' parsed same ▸ earlier)
      have joins := accepted.joins edge inParsed
      rw [← table.domain, OrderedMap.mem_iff, ← table.domain, OrderedMap.mem_iff] at joins
      rcases joins with ⟨⟨source, hasSource⟩, ⟨target, hasTarget⟩⟩
      have free : edge.toPort ∉ target.inputs := by
        intro taken
        rcases (OrderedMap.mem_iff _ _).mp taken with ⟨pipe, stored⟩
        rcases (linked.inputs _ _ hasTarget _ _).mp stored with
          ⟨other, edge', _, earlier, parses', isKey, _⟩
        exact unused other edge' earlier parses' isKey
      rcases connect_enters execution parses hasSource hasTarget free with
        ⟨next, connects, edges, nextPipe, lookups⟩
      have linkedNext := connect_linked linked fresh parsed edges nextPipe unused lookups
      rcases ih (by rw [split, List.append_assoc, List.singleton_append])
        (tabled_of_entered table lookups) linkedNext with ⟨final, connectsAll, tableFinal, all⟩
      refine ⟨final, ?_, tableFinal, all⟩
      rw [connectAll, connects]
      exact connectsAll

/-! ## The tables of routes -/

private theorem portEntries_nodup {Value : Type} {specs : List NodeSpec} {nodes : Nodes E T}
    (table : Tabled specs nodes) (ports : NodeRuntime E T -> Std.TreeMap String Value) :
    ((portEntries ports nodes).map Prod.fst).Nodup := by
  unfold portEntries
  rw [List.map_flatMap, List.nodup_flatMap]
  constructor
  · intro entry _
    rw [List.map_map]
    have keys := OrderedMap.nodup_toList_keys (ports entry.2)
    have injective : Function.Injective fun port : String => (entry.2.name, port) :=
      fun _ _ same => congrArg Prod.snd same
    rw [← List.nodup_map_iff injective, List.map_map] at keys
    exact keys
  · have keys := OrderedMap.nodup_toList_keys nodes
    rw [List.Nodup, List.pairwise_map] at keys
    apply keys.imp_of_mem
    intro first second inFirst inSecond differ key inKeys inOthers
    dsimp only at inKeys inOthers
    rw [List.map_map] at inKeys inOthers
    rcases List.mem_map.mp inKeys with ⟨_, _, rfl⟩
    rcases List.mem_map.mp inOthers with ⟨_, _, same⟩
    have firstName := table.named _ _ (Std.TreeMap.mem_toList_iff_getElem?_eq_some.mp inFirst)
    have secondName := table.named _ _ (Std.TreeMap.mem_toList_iff_getElem?_eq_some.mp inSecond)
    have names : second.2.name = first.2.name := congrArg Prod.fst same
    rw [firstName, secondName] at names
    exact differ names.symm

/-- A table of ports answers as the tables of the single nodes do. -/
private theorem portTable_lookup {Value : Type} {specs : List NodeSpec} {nodes : Nodes E T}
    (table : Tabled specs nodes) (ports : NodeRuntime E T -> Std.TreeMap String Value)
    (name port : String) :
    (portTable ports nodes)[(name, port)]? =
      (nodes[name]?).bind fun node => (ports node)[port]? := by
  refine Option.ext fun value => ?_
  unfold portTable
  rw [OrderedMap.getElem?_foldl_insert _ _ _ _ (portEntries_nodup table ports),
    Option.bind_eq_some_iff]
  constructor
  · rintro (⟨entry, member, isKey, rfl⟩ | ⟨_, impossible⟩)
    · rcases List.mem_flatMap.mp member with ⟨source, inNodes, inPorts⟩
      rcases List.mem_map.mp inPorts with ⟨pair, inTable, rfl⟩
      have found := Std.TreeMap.mem_toList_iff_getElem?_eq_some.mp inNodes
      rw [Prod.mk.injEq, table.named _ _ found] at isKey
      rw [isKey.1] at found
      refine ⟨source.2, found, ?_⟩
      rw [← isKey.2]
      exact Std.TreeMap.mem_toList_iff_getElem?_eq_some.mp inTable
    · rw [Std.TreeMap.getElem?_emptyc] at impossible
      cases impossible
  · rintro ⟨node, found, stored⟩
    refine Or.inl ⟨((name, port), value), ?_, rfl, rfl⟩
    refine List.mem_flatMap.mpr ⟨(name, node),
      Std.TreeMap.mem_toList_iff_getElem?_eq_some.mpr found, ?_⟩
    refine List.mem_map.mpr ⟨(port, value),
      Std.TreeMap.mem_toList_iff_getElem?_eq_some.mpr stored, ?_⟩
    rw [table.named _ _ found]

/-! ## The workers -/

private theorem mem_execNodes {capacity : Nat} {routes : RuntimeRoutes}
    {node : NodeRuntime E T} {exec : ExecNode E} (member : exec ∈ execNodes capacity routes node) :
    exec.name = node.name ∧ exec.receivers = node.inputs ∧
      exec.senders = node.outputs.map fun port senders =>
        (routes.outputs[(node.name, port)]?).getD senders := by
  rcases List.mem_map.mp member with ⟨_, _, rfl⟩
  exact ⟨rfl, rfl, rfl⟩

/-- The workers of one name are the instances of the node of that name. -/
private theorem filter_execNodes {specs : List NodeSpec} {nodes : Nodes E T}
    (table : Tabled specs nodes) (capacity : Nat) (routes : RuntimeRoutes) {name : String}
    {node : NodeRuntime E T} (found : nodes[name]? = some node) :
    (nodes.toList.flatMap fun entry => execNodes capacity routes entry.2).filter
      (ExecNode.isNamed name) = execNodes capacity routes node := by
  have keys := OrderedMap.nodup_toList_keys nodes
  have member := Std.TreeMap.mem_toList_iff_getElem?_eq_some.mpr found
  have names : forall entry, entry ∈ nodes.toList -> entry.2.name = entry.1 := fun entry inNodes =>
    table.named _ _ (Std.TreeMap.mem_toList_iff_getElem?_eq_some.mp inNodes)
  rcases List.append_of_mem member with ⟨before, after, split⟩
  rw [split] at keys names ⊢
  rw [List.map_append, List.map_cons, List.nodup_middle, List.nodup_cons, List.mem_append]
    at keys
  have others : forall entry, entry ∈ before ++ after ->
      (execNodes capacity routes entry.2).filter (ExecNode.isNamed name) = [] := by
    intro entry inOthers
    refine List.filter_eq_nil_iff.mpr fun exec inExec => ?_
    rw [ExecNode.isNamed, decide_eq_true_eq, (mem_execNodes inExec).1]
    intro same
    rcases List.mem_append.mp inOthers with inBefore | inAfter
    · rw [names entry (List.mem_append_left _ inBefore)] at same
      exact keys.1 (Or.inl (List.mem_map.mpr ⟨entry, inBefore, same⟩))
    · rw [names entry (List.mem_append_right _ (List.mem_cons_of_mem _ inAfter))] at same
      exact keys.1 (Or.inr (List.mem_map.mpr ⟨entry, inAfter, same⟩))
  rw [List.flatMap_append, List.flatMap_cons, List.filter_append, List.filter_append,
    List.filter_flatMap, List.filter_flatMap]
  have empty : forall entries : List (String × NodeRuntime E T), entries ⊆ before ++ after ->
      (entries.flatMap fun entry =>
        (execNodes capacity routes entry.2).filter (ExecNode.isNamed name)) = [] := by
    intro entries within
    exact List.flatMap_eq_nil_iff.mpr fun entry inEntries => others entry (within inEntries)
  rw [empty before (List.subset_append_left _ _), empty after (List.subset_append_right _ _),
    List.nil_append, List.append_nil]
  refine List.filter_eq_self.mpr fun exec inExec => ?_
  rw [ExecNode.isNamed, decide_eq_true_eq, (mem_execNodes inExec).1, table.named _ _ found]

/-! ## The built graph -/

section Built

variable {spec : GraphSpec} {wiring : Wiring E T}

/-- A worker has the ports of the node it belongs to. -/
private theorem node_of_exec (table : Tabled spec.nodes wiring.nodes) {capacity : Nat}
    {exec : ExecNode E} (member : exec ∈ wiring.nodes.toList.flatMap fun entry =>
      execNodes capacity wiring.routes entry.2) :
    Exists fun node => wiring.nodes[exec.name]? = some node ∧
      exec.receivers = node.inputs ∧
      exec.senders = node.outputs.map fun port senders =>
        (wiring.routes.outputs[(exec.name, port)]?).getD senders := by
  rcases List.mem_flatMap.mp member with ⟨entry, inNodes, inExec⟩
  have found := Std.TreeMap.mem_toList_iff_getElem?_eq_some.mp inNodes
  rcases mem_execNodes inExec with ⟨isName, receivers, senders⟩
  rw [table.named _ _ found] at isName senders
  refine ⟨entry.2, ?_, receivers, ?_⟩
  · rw [isName]
    exact found
  · rw [isName]
    exact senders

/-- The input of a port is the receiver of the connection into it. -/
private theorem routed_input (accepted : spec.Accepted) (table : Tabled spec.nodes wiring.nodes)
    (linked : Linked spec.connections wiring) (name port : String) (pipe : Pipe) :
    wiring.routes.inputs[(name, port)]? = some pipe <->
      Exists fun connection => Exists fun edge => Exists fun route =>
        connection ∈ spec.connections ∧ ConnectionSpec.parse connection = .ok edge ∧
          edge.input = (name, port) ∧ wiring.edges[connection]? = some route ∧
          route.receiver = pipe := by
  change (portTable NodeRuntime.inputs wiring.nodes)[(name, port)]? = some pipe <-> _
  rw [portTable_lookup table, Option.bind_eq_some_iff]
  constructor
  · rintro ⟨node, found, stored⟩
    rcases (linked.inputs name node found port pipe).mp stored with
      ⟨connection, edge, route, member, parsed, isKey, routed, isPipe⟩
    rcases accepted.parsed member with ⟨edge', parses, parsed', _⟩
    rw [parsed] at parsed'
    cases parsed'
    exact ⟨connection, edge, route, member, parses, isKey, routed, isPipe⟩
  · rintro ⟨connection, edge, route, member, parses, isKey, routed, isPipe⟩
    rcases accepted.parsed member with ⟨edge', parses', parsed, inParsed⟩
    rw [parses] at parses'
    cases parses'
    have known := (accepted.joins edge inParsed).2
    rw [ConnectionSpec.input, Prod.mk.injEq] at isKey
    rw [isKey.1, ← table.domain, OrderedMap.mem_iff] at known
    rcases known with ⟨node, found⟩
    refine ⟨node, found, (linked.inputs name node found port pipe).mpr ?_⟩
    refine ⟨connection, edge, route, member, parsed, ?_, routed, isPipe⟩
    rw [ConnectionSpec.input, isKey.1, isKey.2]

private theorem routed_outputs (accepted : spec.Accepted)
    (table : Tabled spec.nodes wiring.nodes) (linked : Linked spec.connections wiring)
    (name port : String) :
    wiring.routes.outputs.getD (name, port) [] =
      sendersFrom wiring.edges spec.connections (name, port) := by
  rw [Std.TreeMap.getD_eq_getD_getElem?]
  change ((portTable NodeRuntime.outputs wiring.nodes)[(name, port)]?).getD [] = _
  rw [portTable_lookup table]
  cases found : wiring.nodes[name]? with
  | some node =>
      rw [Option.bind_some, ← Std.TreeMap.getD_eq_getD_getElem?]
      exact linked.outputs name node found port
  | none =>
      rw [Option.bind_none, Option.getD_none, sendersFrom, eq_comm, List.filterMap_eq_nil_iff]
      intro connection member
      rcases accepted.parsed member with ⟨edge, _, parsed, inParsed⟩
      rw [if_neg]
      rw [parsed, Option.map_some, Option.some.injEq, ConnectionSpec.output, Prod.mk.injEq]
      rintro ⟨isName, _⟩
      have known := (accepted.joins edge inParsed).1
      rw [isName, ← table.domain, OrderedMap.mem_iff, found] at known
      rcases known with ⟨_, impossible⟩
      cases impossible

end Built

private theorem wired_of_linked {spec : GraphSpec} (accepted : spec.Accepted)
    {wiring : Wiring E T} (table : Tabled spec.nodes wiring.nodes)
    (linked : Linked spec.connections wiring) (policy : ResourcePolicy) :
    Wired spec
      { nodes := wiring.nodes.toList.flatMap fun entry =>
          execNodes spec.execution.queueCapacity wiring.routes entry.2
        routes := wiring.routes
        spec := spec
        policy := policy
        metrics := wiring.nodes.map fun _ _ => ()
        nextPipe := wiring.nextPipe } := by
  refine
    { distinct := accepted.distinct, edges := linked.edges
      joined := fun connection route found => (linked.joined connection route found).1
      separate := linked.separate, inputs := fun key pipe => ?_
      single := fun first second edge other inFirst inSecond parses parses' same => ?_
      outputs := fun key => ?_, contexts := fun exec member port => ?_
      workers := fun node member => ?_, known := fun exec member => ?_
      unstopped := fun exec member => ?_ }
  · exact routed_input accepted table linked key.1 key.2 pipe
  · rcases accepted.parsed inFirst with ⟨_, parsesFirst, parsedFirst, _⟩
    rcases accepted.parsed inSecond with ⟨_, parsesSecond, parsedSecond, _⟩
    rw [parses] at parsesFirst
    rw [parses'] at parsesSecond
    cases parsesFirst
    cases parsesSecond
    exact accepted.single inFirst inSecond parsedFirst parsedSecond same
  · exact routed_outputs accepted table linked key.1 key.2
  · rcases node_of_exec table member with ⟨node, found, receivers, senders⟩
    constructor
    · change _ = (portTable NodeRuntime.inputs wiring.nodes)[(exec.name, port)]?
      rw [portTable_lookup table, found, receivers]
      rfl
    · have table_ : wiring.routes.outputs[(exec.name, port)]? = node.outputs[port]? := by
        change (portTable NodeRuntime.outputs wiring.nodes)[(exec.name, port)]? = _
        rw [portTable_lookup table, found]
        rfl
      rw [senders, Std.TreeMap.getElem?_map, table_]
      cases node.outputs[port]? <;> rfl
  · have known : node.name ∈ spec.nodes.map NodeSpec.name := List.mem_map.mpr ⟨node, member, rfl⟩
    rw [← table.domain, OrderedMap.mem_iff] at known
    rcases known with ⟨runtime, found⟩
    rw [filter_execNodes table _ _ found, execNodes, List.length_map,
      table.sized node member runtime found]
    have positive := accepted.threads node member
    cases threads : node.threads with
    | none => rfl
    | some count =>
        rw [threads, Ne, Option.some.injEq] at positive
        rw [Option.getD_some]
        omega
  · rcases node_of_exec table member with ⟨node, found, _⟩
    rw [← table.domain, OrderedMap.mem_iff]
    exact ⟨node, found⟩
  · rcases List.mem_flatMap.mp member with ⟨_, _, inExec⟩
    rcases List.mem_map.mp inExec with ⟨_, _, rfl⟩
    rfl

private theorem createNodes_failure {registry : Registry} {create : Creation E T}
    {specs : List NodeSpec} {nodes : Nodes E T} {failure : BuildFailure}
    (fails : createNodes registry create nodes specs = .error failure) :
    failure.structural = false := by
  induction specs generalizing nodes with
  | nil => cases fails
  | cons spec specs ih =>
      unfold createNodes at fails
      split at fails
      · cases fails
        rfl
      · exact ih fails

private theorem injectInputs_failure {storageBytes : T -> Except Core.Error Nat}
    {policy : ResourcePolicy} {nodes : Nodes E T} {inputs : List (String × List T)}
    {failure : BuildFailure}
    (fails : injectInputs storageBytes policy nodes inputs = .error failure) :
    failure.structural = false := by
  induction inputs generalizing nodes with
  | nil => cases fails
  | cons input inputs ih =>
      rcases input with ⟨name, tensors⟩
      unfold injectInputs at fails
      split at fails
      · split at fails
        · split at fails
          · cases fails
            rfl
          · exact ih fails
        · cases fails
          rfl
        · cases fails
          rfl
      · cases fails
        rfl

private theorem unconnectedInput_none {spec : GraphSpec} {wiring : Wiring E T}
    (table : Tabled spec.nodes wiring.nodes) (linked : Linked spec.connections wiring) :
    unconnectedInput spec.connections wiring.nodes = none := by
  unfold unconnectedInput
  rw [List.find?_eq_none]
  intro key member
  rcases List.mem_map.mp member with ⟨entry, inEntries, rfl⟩
  rcases List.mem_flatMap.mp inEntries with ⟨source, inNodes, inPorts⟩
  rcases List.mem_map.mp inPorts with ⟨pair, inTable, rfl⟩
  have found := Std.TreeMap.mem_toList_iff_getElem?_eq_some.mp inNodes
  have stored := Std.TreeMap.mem_toList_iff_getElem?_eq_some.mp inTable
  rcases (linked.inputs _ _ found _ _).mp stored with
    ⟨connection, edge, _, inSpec, parsed, isKey, _⟩
  rw [ConnectionSpec.input, Prod.mk.injEq] at isKey
  rw [Bool.not_eq_true, Bool.not_eq_false', hasUpstream, List.any_eq_true]
  refine ⟨connection, inSpec, ?_⟩
  rw [parsed]
  refine decide_eq_true ⟨?_, isKey.2⟩
  rw [isKey.1, table.named _ _ found]

/-- Building an accepted specification wires it, or fails for a reason that
is not in its structure. -/
theorem build_outcome {spec : GraphSpec} (accepted : spec.Accepted) (registry : Registry)
    (create : Creation E T) (storageBytes : T -> Except Core.Error Nat)
    (policy : ResourcePolicy) (inputs : List (String × List T)) :
    (Exists fun failure => build registry create storageBytes policy spec inputs =
      .error failure ∧ failure.structural = false) ∨
    (Exists fun graph => Exists fun sinks =>
      build registry create storageBytes policy spec inputs = .ok (graph, sinks) ∧
        graph.spec = spec ∧ graph.policy = policy ∧
        (Exists fun effective => policy.effectiveFor spec.limits = .ok effective) ∧
        Wired spec graph) := by
  unfold build
  cases limits : policy.effectiveFor spec.limits with
  | error error => exact Or.inl ⟨.limits error, rfl, rfl⟩
  | ok effective =>
      cases creates : createNodes registry create {} spec.nodes with
      | error failure => exact Or.inl ⟨failure, rfl, createNodes_failure creates⟩
      | ok created =>
          cases injects : injectInputs storageBytes effective created inputs with
          | error failure =>
              exact Or.inl ⟨failure, by
                dsimp only [Except.mapError, bind, Except.bind]
                rw [injects], injectInputs_failure injects⟩
          | ok nodes =>
              have start : Tabled [] ({} : Nodes E T) :=
                { domain := fun name => by simp
                  named := fun name node found => by
                    rw [Std.TreeMap.getElem?_emptyc] at found
                    cases found
                  sized := fun _ impossible => by cases impossible }
              have blank : Blank ({} : Nodes E T) := fun name node found => by
                rw [Std.TreeMap.getElem?_emptyc] at found
                cases found
              rcases createNodes_tabled start blank accepted.names creates with ⟨table, unlinked⟩
              rcases injectInputs_tabled table unlinked injects with ⟨table, unlinked⟩
              rw [List.nil_append] at table
              rcases connectAll_linked accepted spec.execution
                (List.nil_append spec.connections).symm table (linked_nil unlinked) with
                ⟨wiring, connects, table, linked⟩
              refine Or.inr ⟨_, sinks effective wiring.nodes, ?_, rfl, rfl, ⟨effective, rfl⟩,
                wired_of_linked accepted table linked policy⟩
              dsimp only [Except.mapError, bind, Except.bind]
              rw [injects]
              dsimp only
              rw [connects]
              dsimp only
              rw [unconnectedInput_none table linked]

/-! ## The started graph -/

/-- Grouping keeps, under each name, the workers of that name in order. -/
private theorem grouped_lookup (nodes : List (ExecNode E)) (name : String) :
    (grouped nodes)[name]? =
      match nodes.filter (ExecNode.isNamed name) with
      | [] => none
      | first :: others => some (first :: others) := by
  have loop : forall (nodes : List (ExecNode E))
      (groups : Std.TreeMap String (List (ExecNode E))),
      (nodes.foldl (fun groups node =>
        groups.insert node.name (groups.getD node.name [] ++ [node])) groups)[name]? =
      match nodes.filter (ExecNode.isNamed name) with
      | [] => groups[name]?
      | first :: others => some (groups.getD name [] ++ first :: others) := by
    intro nodes
    induction nodes with
    | nil => exact fun _ => rfl
    | cons node nodes ih =>
        intro groups
        rw [List.foldl_cons, ih]
        by_cases here : node.name = name
        · have named : ExecNode.isNamed name node = true := decide_eq_true here
          rw [List.filter_cons_of_pos named, here]
          cases nodes.filter (ExecNode.isNamed name) with
          | nil =>
              dsimp only
              rw [OrderedMap.getElem?_insert, if_pos rfl]
          | cons first others =>
              dsimp only
              rw [Std.TreeMap.getD_eq_getD_getElem?, OrderedMap.getElem?_insert, if_pos rfl,
                Option.getD_some, List.append_assoc, List.singleton_append]
        · have other : ¬ ExecNode.isNamed name node = true := by
            rw [ExecNode.isNamed, decide_eq_true_eq]
            exact here
          rw [List.filter_cons_of_neg other]
          cases nodes.filter (ExecNode.isNamed name) with
          | nil =>
              dsimp only
              rw [OrderedMap.getElem?_insert, if_neg here]
          | cons first others =>
              dsimp only
              rw [Std.TreeMap.getD_eq_getD_getElem?, OrderedMap.getElem?_insert, if_neg here,
                Std.TreeMap.getD_eq_getD_getElem?]
  have whole := loop nodes {}
  rw [grouped, whole]
  cases nodes.filter (ExecNode.isNamed name) with
  | nil => exact Std.TreeMap.getElem?_emptyc
  | cons first others =>
      dsimp only
      rw [Std.TreeMap.getD_eq_getD_getElem?, Std.TreeMap.getElem?_emptyc]
      rfl

/-- The loop over the nodes finds a group for each, and leaves none over. -/
private theorem startNodes_outcome (spawn : Spawning) {specs : List NodeSpec}
    (distinct : (specs.map NodeSpec.name).Nodup)
    {groups : Std.TreeMap String (List (ExecNode E))} (workers : Std.TreeMap String LiveNode)
    (next : Nat)
    (domain : forall name : String, name ∈ groups <-> name ∈ specs.map NodeSpec.name)
    (sized : forall spec, spec ∈ specs -> Exists fun first => Exists fun others =>
      groups[spec.name]? = some (first :: others) ∧ first.io.controlStop = false ∧
        others.length + 1 = spec.threads.getD 1) :
    (Exists fun node => Exists fun reason =>
      startNodes spawn groups workers next specs = .error (.spawn node reason)) ∨
    (Exists fun left => Exists fun live => Exists fun last =>
      startNodes spawn groups workers next specs = .ok (left, live, last) ∧
        (forall name : String, name ∉ left) ∧
        (forall name : String, name ∉ specs.map NodeSpec.name -> live[name]? = workers[name]?) ∧
        forall spec, spec ∈ specs -> Exists fun node : LiveNode =>
          live[spec.name]? = some node ∧ node.stop = false ∧
            node.workers.length = spec.threads.getD 1) := by
  induction specs generalizing groups workers next with
  | nil =>
      refine Or.inr ⟨groups, workers, next, rfl, fun name member => ?_, fun _ _ => rfl,
        fun _ impossible => by cases impossible⟩
      have none_ := (domain name).mp member
      cases none_
  | cons spec specs ih =>
      rcases sized spec List.mem_cons_self with ⟨first, others, found, unstopped, size⟩
      rw [List.map_cons, List.nodup_cons] at distinct
      unfold startNodes
      rw [found]
      dsimp only
      cases answer : spawn spec.name (others.length + 1) with
      | some reason => exact Or.inl ⟨spec.name, reason, rfl⟩
      | none =>
          dsimp only
          have domainNext : forall name : String, name ∈ groups.erase spec.name <->
              name ∈ specs.map NodeSpec.name := by
            intro name
            rw [OrderedMap.mem_erase, domain, List.map_cons, List.mem_cons]
            constructor
            · rintro ⟨differ, same | member⟩
              · exact absurd same.symm differ
              · exact member
            · intro member
              exact ⟨fun same => distinct.1 (same ▸ member), Or.inr member⟩
          have sizedNext : forall other, other ∈ specs -> Exists fun first => Exists fun others =>
              (groups.erase spec.name)[other.name]? = some (first :: others) ∧
                first.io.controlStop = false ∧ others.length + 1 = other.threads.getD 1 := by
            intro other member
            rcases sized other (List.mem_cons_of_mem _ member) with ⟨head, tail, looked, facts⟩
            have differ : spec.name ≠ other.name := fun same =>
              distinct.1 (same ▸ List.mem_map.mpr ⟨other, member, rfl⟩)
            refine ⟨head, tail, ?_, facts⟩
            rw [OrderedMap.getElem?_erase, if_neg differ]
            exact looked
          rcases ih distinct.2 (workers.insert spec.name
            ⟨first.io.controlStop, List.range' next (others.length + 1)⟩)
            (next + (others.length + 1)) domainNext sizedNext with
            failed | ⟨left, live, last, starts, none_, kept, all⟩
          · exact Or.inl failed
          · refine Or.inr ⟨left, live, last, starts, none_, fun name absent => ?_,
              fun other member => ?_⟩
            · rw [List.map_cons, List.mem_cons, not_or] at absent
              rw [kept name absent.2, OrderedMap.getElem?_insert, if_neg (Ne.symm absent.1)]
            · rcases List.mem_cons.mp member with rfl | member
              · refine ⟨⟨first.io.controlStop, List.range' next (others.length + 1)⟩, ?_,
                  unstopped, ?_⟩
                · rw [kept _ distinct.1, OrderedMap.getElem?_insert, if_pos rfl]
                · rw [List.length_range', size]
              · exact all other member

/-- Starting a wired graph gives every node its workers, or fails because a
thread could not be spawned. -/
theorem start_outcome {spec : GraphSpec} (accepted : spec.Accepted) {graph : RuntimeGraph E}
    (isSpec : graph.spec = spec) (wired : Wired spec graph) (spawn : Spawning)
    (sinks : Std.TreeMap String (SinkCollector T)) :
    (Exists fun node => Exists fun reason =>
      graph.start spawn sinks = .error (.spawn node reason)) ∨
    (Exists fun running => graph.start spawn sinks = .ok running ∧ running.spec = spec ∧
      running.routes = graph.routes ∧ running.policy = graph.policy ∧
      running.status = .running ∧
      (forall name : String, name ∈ running.workers -> name ∈ spec.nodes.map NodeSpec.name) ∧
      running.AllLive) := by
  have workersOf : forall node, node ∈ spec.nodes -> Exists fun first => Exists fun others =>
      (grouped graph.nodes)[node.name]? = some (first :: others) ∧
        first.io.controlStop = false ∧ others.length + 1 = node.threads.getD 1 := by
    intro node member
    have size := wired.workers node member
    have positive := accepted.threads node member
    rw [grouped_lookup]
    cases group : graph.nodes.filter (ExecNode.isNamed node.name) with
    | nil =>
        rw [group, List.length_nil] at size
        cases threads : node.threads with
        | none =>
            rw [threads] at size
            cases size
        | some count =>
            rw [threads, Option.getD_some] at size
            exact absurd (by rw [threads, ← size]) positive
    | cons first others =>
        rw [group, List.length_cons] at size
        refine ⟨first, others, rfl, wired.unstopped first ?_, size⟩
        have inGroup : first ∈ graph.nodes.filter (ExecNode.isNamed node.name) := by
          rw [group]
          exact List.mem_cons_self
        exact (List.mem_filter.mp inGroup).1
  have domain : forall name : String, name ∈ grouped graph.nodes <->
      name ∈ spec.nodes.map NodeSpec.name := by
    intro name
    rw [OrderedMap.mem_iff]
    constructor
    · rintro ⟨group, found⟩
      rw [grouped_lookup] at found
      cases members : graph.nodes.filter (ExecNode.isNamed name) with
      | nil =>
          rw [members] at found
          cases found
      | cons first others =>
          have inGroup : first ∈ graph.nodes.filter (ExecNode.isNamed name) := by
            rw [members]
            exact List.mem_cons_self
          rcases List.mem_filter.mp inGroup with ⟨inNodes, isName⟩
          rw [← of_decide_eq_true isName]
          exact wired.known first inNodes
    · intro member
      rcases List.mem_map.mp member with ⟨node, inSpec, rfl⟩
      rcases workersOf node inSpec with ⟨first, others, found, _⟩
      exact ⟨first :: others, found⟩
  unfold start
  rw [isSpec]
  rcases startNodes_outcome spawn accepted.names {} 0 domain workersOf with
    ⟨node, reason, fails⟩ | ⟨left, live, last, starts, none_, kept, all⟩
  · rw [fails]
    exact Or.inl ⟨node, reason, rfl⟩
  · rw [starts]
    have empty : left.isEmpty = true := Std.TreeMap.isEmpty_iff_forall_not_mem.mpr none_
    have known : forall name : String, name ∈ live -> name ∈ spec.nodes.map NodeSpec.name := by
      intro name member
      by_contra unknown
      rw [Std.TreeMap.mem_iff_isSome_getElem?, kept name unknown,
        Std.TreeMap.getElem?_emptyc] at member
      cases member
    dsimp only
    rw [if_pos empty]
    exact Or.inr ⟨_, rfl, rfl, rfl, rfl, rfl, known, { running := rfl, live := all }⟩

/-! ## The validator is sound for the builder -/

/-- A validated specification builds and starts without any structural
error, with whatever registry and policy it was validated and whatever the
environment answers, and the built graph has exactly its connections. -/
theorem validated_builds {registry : Registry} {limits : ResourcePolicy} {spec : GraphSpec}
    (validated : spec.validateWithPolicy registry limits = .ok ())
    (create : Creation E T) (storageBytes : T -> Except Core.Error Nat)
    (policy : ResourcePolicy) (inputs : List (String × List T)) :
    (forall failure, build registry create storageBytes policy spec inputs = .error failure ->
      failure.structural = false) ∧
    (forall graph sinks, build registry create storageBytes policy spec inputs =
        .ok (graph, sinks) ->
      Wired spec graph ∧ forall spawn,
        (forall failure, graph.start spawn sinks = .error failure ->
          failure.structural = false) ∧
        (forall running, graph.start spawn sinks = .ok running ->
          running.routes = graph.routes ∧ running.AllLive)) := by
  have accepted := GraphSpec.accepted_of_validateWithPolicy validated
  rcases build_outcome accepted registry create storageBytes policy inputs with
    ⟨failure, fails, unstructural⟩ | ⟨graph, sinks, builds, isSpec, _, _, wired⟩
  · constructor
    · intro other fails'
      rw [fails] at fails'
      cases fails'
      exact unstructural
    · intro graph sinks builds
      rw [fails] at builds
      cases builds
  · constructor
    · intro other fails
      rw [builds] at fails
      cases fails
    · intro other others builds'
      rw [builds] at builds'
      cases builds'
      refine ⟨wired, fun spawn => ?_⟩
      rcases start_outcome accepted isSpec wired spawn sinks with
        ⟨node, reason, fails⟩ | ⟨running, starts, _, routes, _, _, _, live⟩
      · constructor
        · intro failure fails'
          rw [fails] at fails'
          cases fails'
          rfl
        · intro running starts
          rw [fails] at starts
          cases starts
      · constructor
        · intro failure fails
          rw [starts] at fails
          cases fails
        · intro other starts'
          rw [starts] at starts'
          cases starts'
          exact ⟨routes, live⟩

/-- A registry with a source and a sink. -/
def cameraRegistry : Registry where
  elements :=
    [⟨"source", [], [⟨"out", none, false⟩], [], none⟩,
      ⟨"sink", [⟨"in", none, true⟩], [], [], none⟩]
  modelSourceSize := fun _ => .ok 0
  sourceOutputTensorBytes := fun _ => .ok 16
  mockInferenceOutputTensorBytes := fun _ => .ok 16

/-- A camera whose frames are stored. -/
def cameraSpec : GraphSpec :=
  { GraphSpec.default with
    nodes :=
      [⟨"camera", "source", none, false, none, none, none, none, .null⟩,
       ⟨"store", "sink", some 1, true, none, none, none, none, .null⟩]
    connections := ["camera.out -> store.in"] }

def cameraCreation : Creation String Nat := fun node _ =>
  .ok ⟨node.kind, if node.kind = "sink" then .sink ⟨[], 0, 0⟩ else .none⟩

/-- The camera graph is accepted, and what is built of it is wired. -/
theorem camera_wired :
    cameraSpec.validateWithPolicy cameraRegistry ResourcePolicy.default = .ok () ∧
      Exists fun graph => Exists fun sinks =>
        build cameraRegistry cameraCreation (fun _ => .ok 4) ResourcePolicy.default cameraSpec [] =
          .ok (graph, sinks) ∧
        Wired cameraSpec graph ∧
        graph.routes.outputs.getD ("camera", "out") [] = [⟨0, some 20⟩] := by
  have validated : cameraSpec.validateWithPolicy cameraRegistry ResourcePolicy.default =
      .ok () := by
    decide +kernel
  have outcome : (build cameraRegistry cameraCreation (fun _ => .ok 4) ResourcePolicy.default
      cameraSpec []).toOption.map (fun built =>
        built.1.routes.outputs.getD ("camera", "out") []) = some [⟨0, some 20⟩] := by
    decide +kernel
  rcases Option.map_eq_some_iff.mp outcome with ⟨⟨graph, sinks⟩, built, senders⟩
  have builds : build cameraRegistry cameraCreation (fun _ => .ok 4) ResourcePolicy.default
      cameraSpec [] = .ok (graph, sinks) := by
    cases result : build cameraRegistry cameraCreation (fun _ => .ok 4) ResourcePolicy.default
        cameraSpec [] with
    | error failure =>
        rw [result] at built
        cases built
    | ok pair =>
        rw [result] at built
        cases built
        rfl
  refine ⟨validated, graph, sinks, builds, ?_, senders⟩
  exact ((validated_builds validated cameraCreation (fun _ => .ok 4) ResourcePolicy.default
    []).2 graph sinks builds).1

end RuntimeGraph
end Graph
end DyunGu
