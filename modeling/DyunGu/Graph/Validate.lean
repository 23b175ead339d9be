import DyunGu.Backend.Metrics
import DyunGu.Core.DataType
import DyunGu.Graph.Spec
import DyunGu.Lib.Outcome
import Mathlib.Data.List.Nodup
import Mathlib.Data.List.Pairwise

namespace DyunGu
namespace Graph

open DyunGu.Core (ResourcePolicy)

/-!
# Validation of a graph specification

`validate_with_policy` checks counts and execution settings, then every node,
then every connection against the ports of the two nodes it joins, then that
required inputs are connected, and last that there is no cycle.

What an element kind checks of its own parameters is given by the registry,
as are the sizes that the built-in parsers compute from parameters.
-/

structure PortSchema where
  name : String
  dtype : Option Core.DataType
  required : Bool
deriving DecidableEq, Repr

/-- Of the parameter fields of an element only the names are kept. -/
structure ElementDescriptor where
  kind : String
  inputPorts : List PortSchema
  outputPorts : List PortSchema
  params : List String
  validate : Option (NodeSpec -> Except Error Unit)

/-- The registered elements, with the sizes that validation asks the built-in
kinds for: the model of an inference node and the output tensor of a source
and of a mock inference node. -/
structure Registry where
  elements : List ElementDescriptor
  modelSourceSize : Value -> Except Error Nat
  sourceOutputTensorBytes : NodeSpec -> Except Error Nat
  mockInferenceOutputTensorBytes : NodeSpec -> Except Error Nat

/-- Fail with this error under this condition. -/
def reject (condition : Prop) [Decidable condition] (error : Error) : Except Error Unit :=
  if condition then .error error else .ok ()

def okOr {Result : Type} (found : Option Result) (error : Error) : Except Error Result :=
  match found with
  | some result => .ok result
  | none => .error error

namespace Registry

def findElement (registry : Registry) (kind : String) : Option ElementDescriptor :=
  registry.elements.find? fun descriptor => decide (descriptor.kind = kind)

def elementPorts (registry : Registry) (kind : String) :
    Except Error (List PortSchema × List PortSchema) :=
  match registry.findElement kind with
  | some descriptor => .ok (descriptor.inputPorts, descriptor.outputPorts)
  | none => .error (.unknownNodeKind kind)

def validateElement (registry : Registry) (node : NodeSpec) : Except Error Unit :=
  match registry.findElement node.kind with
  | none => .error (.unknownNodeKind node.kind)
  | some descriptor =>
      match descriptor.validate with
      | some validate => validate node
      | none => .ok ()

def checkModelBytes (registry : Registry) (params : Value) (policy : ResourcePolicy) :
    Except Error Unit := do
  let size <- registry.modelSourceSize params
  (policy.checkModelBytes size).mapError fun error => .core error.toText

end Registry

namespace GraphSpec

/-- An error found in the parameters of a node is reported at that node. -/
def atParams (node : NodeSpec) (error : Error) : Error :=
  .validation ("nodes[" ++ node.name ++ "].params") error.toText

/-- The number of workers, saturating like the machine integer it is. -/
def totalWorkers (nodes : List NodeSpec) : Nat :=
  nodes.foldl (fun total node => min (total + node.threads.getD 1) Backend.u64Max) 0

def validateCounts (spec : GraphSpec) (policy : ResourcePolicy) : Except Error Unit := do
  reject (policy.maxNodes < spec.nodes.length) (.validation "nodes"
    ("node count " ++ toString spec.nodes.length ++ " exceeds limit " ++
      toString policy.maxNodes))
  reject (policy.maxConnections < spec.connections.length) (.validation "connections"
    ("connection count " ++ toString spec.connections.length ++ " exceeds limit " ++
      toString policy.maxConnections))
  reject (policy.maxNodes < totalWorkers spec.nodes) (.validation "nodes"
    ("total worker threads " ++ toString (totalWorkers spec.nodes) ++ " exceeds node limit " ++
      toString policy.maxNodes))
  reject (spec.execution.queueCapacity = 0) (.validation "execution.queue_capacity"
    "queue_capacity must be at least 1")
  reject (policy.maxConnections < spec.execution.queueCapacity)
    (.validation "execution.queue_capacity"
      ("queue_capacity " ++ toString spec.execution.queueCapacity ++
        " exceeds connection limit " ++ toString policy.maxConnections))

def validateWorkers (execution : ExecutionSpec) (policy : ResourcePolicy) : Except Error Unit :=
  match execution.parallel, execution.workers with
  | _, some 0 => .error (.validation "execution.workers" "workers must be at least 1")
  | .sequential, some _ | .pipeline, some _ =>
      .error (.validation "execution.workers" "workers is only supported with task parallelism")
  | .task, some workers =>
      reject (policy.maxNodes < workers) (.validation "execution.workers"
        ("workers " ++ toString workers ++ " exceeds node limit " ++ toString policy.maxNodes))
  | _, none => .ok ()

def validateNode (registry : Registry) (policy : ResourcePolicy) (parallel : ParallelType)
    (seen : List String) (node : NodeSpec) : Except Error Unit := do
  reject (node.name ∈ seen) (.duplicateNode node.name)
  reject (node.threads = some 0)
    (.validation ("nodes[" ++ node.name ++ "].threads") "threads must be >= 1")
  reject (node.threads.any (fun threads => decide (policy.maxNodes < threads)) = true)
    (.validation ("nodes[" ++ node.name ++ "].threads")
      ("threads " ++ toString (node.threads.getD 0) ++ " exceeds node limit " ++
        toString policy.maxNodes))
  reject (parallel ≠ .pipeline ∧ node.threads.any (fun threads => decide (1 < threads)) = true)
    (.validation ("nodes[" ++ node.name ++ "].threads")
      "threads > 1 requires Pipeline execution")
  let _ <- registry.elementPorts node.kind
  (registry.validateElement node).mapError (atParams node)
  if node.kind = "inference" then
    (registry.checkModelBytes node.params policy).mapError (atParams node)
  else .ok ()

def validateNodes (registry : Registry) (policy : ResourcePolicy) (parallel : ParallelType) :
    List String -> List NodeSpec -> Except Error Unit
  | _, [] => .ok ()
  | seen, node :: nodes => do
      validateNode registry policy parallel seen node
      validateNodes registry policy parallel (node.name :: seen) nodes

/-- The output tensors that the parameters of a node ask for are checked
before anything runs. -/
def validateOutputs (registry : Registry) (policy : ResourcePolicy) :
    List NodeSpec -> Except Error Unit
  | [] => .ok ()
  | node :: nodes => do
      let outputBytes :=
        if node.kind = "source" then some (registry.sourceOutputTensorBytes node)
        else if node.kind = "mock_inference" then
          some (registry.mockInferenceOutputTensorBytes node)
        else none
      match outputBytes with
      | none => validateOutputs registry policy nodes
      | some computed =>
          let bytes <- computed.mapError (atParams node)
          (policy.checkTensorBytes bytes).mapError fun error =>
            atParams node (.core error.toText)
          validateOutputs registry policy nodes

def nodeKinds (nodes : List NodeSpec) : Std.TreeMap String String :=
  nodes.foldl (fun kinds node => kinds.insert node.name node.kind) {}

def findPort (ports : List PortSchema) (name : String) : Option PortSchema :=
  ports.find? fun port => decide (port.name = name)

/-- Two ports that both name a type name the same one. -/
def dtypesDiffer (out into : PortSchema) : Bool :=
  match out.dtype, into.dtype with
  | some first, some second => decide (first ≠ second)
  | _, _ => false

/-- What the loop over the connections has collected. -/
structure Checked where
  seenEdges : List ConnectionSpec
  connectedInputs : List (String × String)
  edges : List (String × String)

def validateConnection (registry : Registry) (nodes : List NodeSpec)
    (kinds : Std.TreeMap String String) (index : Nat) (checked : Checked) (connection : String) :
    Except Error Checked := do
  let parsed <- ConnectionSpec.parse connection
  let fromKind <- okOr kinds[parsed.fromNode]?
    (.validation ("connections[" ++ connection ++ "]")
      ("unknown source node " ++ parsed.fromNode))
  reject (nodes.any (fun node => decide (node.name = parsed.fromNode) && node.sink) = true)
    (.validation ("connections[" ++ toString index ++ "]")
      ("sink node " ++ parsed.fromNode ++ " cannot have outgoing connection " ++ connection))
  let toKind <- okOr kinds[parsed.toNode]?
    (.validation ("connections[" ++ connection ++ "]")
      ("unknown destination node " ++ parsed.toNode))
  let (_, outPorts) <- registry.elementPorts fromKind
  let (inPorts, _) <- registry.elementPorts toKind
  let out <- okOr (findPort outPorts parsed.fromPort)
    (.unknownPort parsed.fromNode parsed.fromPort)
  let into <- okOr (findPort inPorts parsed.toPort) (.unknownPort parsed.toNode parsed.toPort)
  reject (dtypesDiffer out into = true)
    (.portTypeMismatch parsed.fromNode parsed.fromPort parsed.toNode parsed.toPort)
  reject (parsed ∈ checked.seenEdges) (.validation ("connections[" ++ toString index ++ "]")
    ("duplicate connection: " ++ parsed.toText))
  reject (parsed.input ∈ checked.connectedInputs)
    (.validation ("connections[" ++ toString index ++ "]")
      ("input port " ++ parsed.toNode ++ "." ++ parsed.toPort ++
        " already has an incoming connection"))
  .ok
    { seenEdges := parsed :: checked.seenEdges
      connectedInputs := parsed.input :: checked.connectedInputs
      edges := checked.edges ++ [(parsed.fromNode, parsed.toNode)] }

def validateConnections (registry : Registry) (nodes : List NodeSpec)
    (kinds : Std.TreeMap String String) : Nat -> Checked -> List String -> Except Error Checked
  | _, checked, [] => .ok checked
  | index, checked, connection :: connections => do
      let checked <- validateConnection registry nodes kinds index checked connection
      validateConnections registry nodes kinds (index + 1) checked connections

def validateRequired (registry : Registry) (connectedInputs : List (String × String)) :
    List NodeSpec -> Except Error Unit
  | [] => .ok ()
  | node :: nodes => do
      let (inPorts, _) <- registry.elementPorts node.kind
      match inPorts.find? fun port =>
          port.required && decide ((node.name, port.name) ∉ connectedInputs) with
      | some port =>
          .error (.validation ("nodes[" ++ node.name ++ "].ports[" ++ port.name ++ "]")
            ("required input port " ++ node.name ++ "." ++ port.name ++
              " has no incoming connection"))
      | none => validateRequired registry connectedInputs nodes

/-! ## Cycles -/

inductive Color where
  | white
  | gray
  | black
deriving DecidableEq, Repr

/-- The colors set so far; a node without one is white. -/
abbrev Colors := Std.TreeMap String Color

def adjacency (nodes : List NodeSpec) (edges : List (String × String)) :
    Std.TreeMap String (List String) :=
  edges.foldl (fun table edge => table.insert edge.1 (table.getD edge.1 [] ++ [edge.2]))
    (nodes.foldl (fun table node => table.insertIfNew node.name []) {})

/-- The search from one node, and whether it met a gray one.  The first
argument bounds the depth of the recursion; each nested call has turned one
more node gray, so one more than the number of nodes is enough. -/
def dfs (table : Std.TreeMap String (List String)) : Nat -> String -> Colors -> Bool × Colors
  | 0, _, colors => (false, colors)
  | depth + 1, node, colors =>
      let searched := (table.getD node []).foldl
        (fun (state : Bool × Colors) neighbor =>
          if state.1 then state
          else
            match state.2.getD neighbor .white with
            | .gray => (true, state.2)
            | .white => dfs table depth neighbor state.2
            | .black => state)
        (false, colors.insert node .gray)
      if searched.1 then searched else (false, searched.2.insert node .black)

def hasCycle (nodes : List NodeSpec) (edges : List (String × String)) : Bool :=
  let table := adjacency nodes edges
  (table.keys.foldl
    (fun (state : Bool × Colors) node =>
      if state.1 then state
      else if state.2.getD node .white = .white then dfs table (table.size + 1) node state.2
      else state)
    (false, {})).1

/-! ## The validator -/

def validateWithPolicy (registry : Registry) (spec : GraphSpec) (policy : ResourcePolicy) :
    Except Error Unit := do
  spec.validateCounts policy
  validateWorkers spec.execution policy
  validateNodes registry policy spec.execution.parallel [] spec.nodes
  validateOutputs registry policy spec.nodes
  let checked <- validateConnections registry spec.nodes (nodeKinds spec.nodes) 0 ⟨[], [], []⟩
    spec.connections
  validateRequired registry checked.connectedInputs spec.nodes
  reject (spec.allowCycles = false ∧ hasCycle spec.nodes checked.edges = true) .cycleDetected

/-! ## What an accepted specification guarantees -/

/-- The connections of a specification, parsed.  Every accepted connection
parses, so nothing is left out there. -/
def parsedConnections (spec : GraphSpec) : List ConnectionSpec :=
  spec.connections.filterMap ConnectionSpec.parseOk

/-- The structural rules: names are unique, every node has a worker, every
connection parses and joins two nodes, and no input port is entered twice. -/
structure Accepted (spec : GraphSpec) : Prop where
  names : (spec.nodes.map NodeSpec.name).Nodup
  threads : forall node, node ∈ spec.nodes -> node.threads ≠ some 0
  capacity : spec.execution.queueCapacity ≠ 0
  parses : forall connection, connection ∈ spec.connections ->
    Exists fun edge => ConnectionSpec.parse connection = .ok edge
  inputs : (spec.parsedConnections.map ConnectionSpec.input).Nodup
  joins : forall edge, edge ∈ spec.parsedConnections ->
    edge.fromNode ∈ spec.nodes.map NodeSpec.name ∧ edge.toNode ∈ spec.nodes.map NodeSpec.name

theorem reject_iff {condition : Prop} [Decidable condition] {error : Error} {value : Unit} :
    reject condition error = .ok value <-> ¬ condition := by
  unfold reject
  split
  · rename_i holds
    simp [holds]
  · rename_i fails
    simp [fails]

theorem okOr_ok {Result : Type} {found : Option Result} {error : Error} {result : Result}
    (succeeds : okOr found error = .ok result) : found = some result := by
  cases found with
  | none => cases succeeds
  | some value =>
      cases succeeds
      rfl

private theorem validateNodes_ok {registry : Registry} {policy : ResourcePolicy}
    {parallel : ParallelType} {nodes : List NodeSpec} {seen : List String}
    (passes : validateNodes registry policy parallel seen nodes = .ok ()) :
    (nodes.map NodeSpec.name).Nodup ∧
      (forall node, node ∈ nodes -> node.name ∉ seen ∧ node.threads ≠ some 0) := by
  induction nodes generalizing seen with
  | nil => exact ⟨List.nodup_nil, fun _ impossible => by cases impossible⟩
  | cons node nodes ih =>
      rcases Outcome.bind_ok passes with ⟨_, checks, rest⟩
      rcases Outcome.bind_ok checks with ⟨_, fresh, checks⟩
      rcases Outcome.bind_ok checks with ⟨_, threads, _⟩
      rcases ih rest with ⟨names, others⟩
      constructor
      · rw [List.map_cons, List.nodup_cons]
        refine ⟨fun twice => ?_, names⟩
        rcases List.mem_map.mp twice with ⟨other, member, same⟩
        exact (others other member).1 (same ▸ List.mem_cons_self)
      · intro other member
        rcases List.mem_cons.mp member with rfl | member
        · exact ⟨reject_iff.mp fresh, reject_iff.mp threads⟩
        · exact ⟨fun old => (others other member).1 (List.mem_cons_of_mem _ old),
            (others other member).2⟩

/-- Only the names of nodes have a kind. -/
private theorem mem_of_nodeKinds {nodes : List NodeSpec} {kinds : Std.TreeMap String String}
    {name kind : String}
    (found : (nodes.foldl (fun kinds node => kinds.insert node.name node.kind) kinds)[name]? =
      some kind) : name ∈ nodes.map NodeSpec.name ∨ kinds[name]? = some kind := by
  induction nodes generalizing kinds with
  | nil => exact Or.inr found
  | cons node nodes ih =>
      rcases ih found with later | before
      · exact Or.inl (List.mem_cons_of_mem _ later)
      · rw [Std.TreeMap.getElem?_insert] at before
        split at before
        · rename_i same
          rw [Std.LawfulEqCmp.compare_eq_iff_eq] at same
          exact Or.inl (same ▸ List.mem_cons_self)
        · exact Or.inr before

private theorem validateConnection_ok {registry : Registry} {nodes : List NodeSpec}
    {index : Nat} {checked next : Checked} {connection : String}
    (passes : validateConnection registry nodes (nodeKinds nodes) index checked connection =
      .ok next) :
    Exists fun edge => ConnectionSpec.parse connection = .ok edge ∧
      edge.fromNode ∈ nodes.map NodeSpec.name ∧ edge.toNode ∈ nodes.map NodeSpec.name ∧
      edge.input ∉ checked.connectedInputs ∧
      next.connectedInputs = edge.input :: checked.connectedInputs := by
  have named : forall {name kind : String}, (nodeKinds nodes)[name]? = some kind ->
      name ∈ nodes.map NodeSpec.name := by
    intro name kind found
    rcases mem_of_nodeKinds found with member | impossible
    · exact member
    · rw [Std.TreeMap.getElem?_emptyc] at impossible
      cases impossible
  rcases Outcome.bind_ok passes with ⟨edge, parses, passes⟩
  rcases Outcome.bind_ok passes with ⟨_, source, passes⟩
  rcases Outcome.bind_ok passes with ⟨_, _, passes⟩
  rcases Outcome.bind_ok passes with ⟨_, target, passes⟩
  rcases Outcome.bind_ok passes with ⟨⟨_, outPorts⟩, _, passes⟩
  rcases Outcome.bind_ok passes with ⟨⟨inPorts, _⟩, _, passes⟩
  rcases Outcome.bind_ok passes with ⟨_, _, passes⟩
  rcases Outcome.bind_ok passes with ⟨_, _, passes⟩
  rcases Outcome.bind_ok passes with ⟨_, _, passes⟩
  rcases Outcome.bind_ok passes with ⟨_, _, passes⟩
  rcases Outcome.bind_ok passes with ⟨_, free, passes⟩
  cases passes
  exact ⟨edge, parses, named (okOr_ok source), named (okOr_ok target), reject_iff.mp free, rfl⟩

private theorem validateConnections_ok {registry : Registry} {nodes : List NodeSpec}
    {index : Nat} {checked final : Checked} {connections : List String}
    (passes : validateConnections registry nodes (nodeKinds nodes) index checked connections =
      .ok final) :
    (forall connection, connection ∈ connections ->
      Exists fun edge => ConnectionSpec.parse connection = .ok edge ∧
        edge.fromNode ∈ nodes.map NodeSpec.name ∧ edge.toNode ∈ nodes.map NodeSpec.name ∧
        edge.input ∉ checked.connectedInputs) ∧
      ((connections.filterMap ConnectionSpec.parseOk).map ConnectionSpec.input).Nodup := by
  induction connections generalizing index checked with
  | nil => exact ⟨fun _ impossible => (by cases impossible), List.nodup_nil⟩
  | cons connection connections ih =>
      rcases Outcome.bind_ok passes with ⟨next, first, rest⟩
      rcases validateConnection_ok first with ⟨edge, parses, source, target, free, grows⟩
      rcases ih rest with ⟨others, nodup⟩
      constructor
      · intro other member
        rcases List.mem_cons.mp member with rfl | member
        · exact ⟨edge, parses, source, target, free⟩
        · rcases others other member with ⟨edge', parses', source', target', free'⟩
          rw [grows] at free'
          exact ⟨edge', parses', source', target', fun old =>
            free' (List.mem_cons_of_mem _ old)⟩
      · have kept : ConnectionSpec.parseOk connection = some edge := by
          rw [ConnectionSpec.parseOk, parses]
          rfl
        rw [List.filterMap_cons_some kept, List.map_cons, List.nodup_cons]
        refine ⟨fun twice => ?_, nodup⟩
        rcases List.mem_map.mp twice with ⟨other, member, same⟩
        rcases List.mem_filterMap.mp member with ⟨text, inRest, parsed⟩
        rcases others text inRest with ⟨edge', parses', _, _, free'⟩
        rw [ConnectionSpec.parseOk, parses'] at parsed
        cases parsed
        rw [grows, same] at free'
        exact free' List.mem_cons_self

/-- The validator checks the structural rules. -/
theorem accepted_of_validateWithPolicy {registry : Registry} {spec : GraphSpec}
    {policy : ResourcePolicy} (passes : validateWithPolicy registry spec policy = .ok ()) :
    Accepted spec := by
  rcases Outcome.bind_ok passes with ⟨_, counts, passes⟩
  rcases Outcome.bind_ok passes with ⟨_, _, passes⟩
  rcases Outcome.bind_ok passes with ⟨_, nodes, passes⟩
  rcases Outcome.bind_ok passes with ⟨_, _, passes⟩
  rcases Outcome.bind_ok passes with ⟨_, connections, _⟩
  rcases Outcome.bind_ok counts with ⟨_, _, counts⟩
  rcases Outcome.bind_ok counts with ⟨_, _, counts⟩
  rcases Outcome.bind_ok counts with ⟨_, _, counts⟩
  rcases Outcome.bind_ok counts with ⟨_, capacity, _⟩
  rcases validateNodes_ok nodes with ⟨names, threads⟩
  rcases validateConnections_ok connections with ⟨edges, inputs⟩
  refine
    { names := names, threads := fun node member => (threads node member).2
      capacity := reject_iff.mp capacity, parses := fun connection member => ?_, inputs := inputs
      joins := fun edge member => ?_ }
  · rcases edges connection member with ⟨edge, parses, _⟩
    exact ⟨edge, parses⟩
  · rcases List.mem_filterMap.mp member with ⟨connection, inSpec, parsed⟩
    rcases edges connection inSpec with ⟨edge', parses, source, target, _⟩
    rw [ConnectionSpec.parseOk, parses] at parsed
    cases parsed
    exact ⟨source, target⟩

/-- The loop over the connections collects the nodes that each of them joins. -/
private theorem validateConnections_edges {registry : Registry} {nodes : List NodeSpec}
    {index : Nat} {checked final : Checked} {connections : List String}
    (passes : validateConnections registry nodes (nodeKinds nodes) index checked connections =
      .ok final) :
    final.edges = checked.edges ++ (connections.filterMap ConnectionSpec.parseOk).map
      fun edge => (edge.fromNode, edge.toNode) := by
  induction connections generalizing index checked with
  | nil =>
      cases passes
      exact (List.append_nil _).symm
  | cons connection connections ih =>
      rcases Outcome.bind_ok passes with ⟨next, first, rest⟩
      rcases Outcome.bind_ok first with ⟨edge, parses, first⟩
      rcases Outcome.bind_ok first with ⟨_, _, first⟩
      rcases Outcome.bind_ok first with ⟨_, _, first⟩
      rcases Outcome.bind_ok first with ⟨_, _, first⟩
      rcases Outcome.bind_ok first with ⟨_, _, first⟩
      rcases Outcome.bind_ok first with ⟨_, _, first⟩
      rcases Outcome.bind_ok first with ⟨_, _, first⟩
      rcases Outcome.bind_ok first with ⟨_, _, first⟩
      rcases Outcome.bind_ok first with ⟨_, _, first⟩
      rcases Outcome.bind_ok first with ⟨_, _, first⟩
      rcases Outcome.bind_ok first with ⟨_, _, first⟩
      have grows : next.edges = checked.edges ++ [(edge.fromNode, edge.toNode)] := by
        cases first
        rfl
      have kept : ConnectionSpec.parseOk connection = some edge := by
        rw [ConnectionSpec.parseOk, parses]
        rfl
      rw [ih rest, grows, List.filterMap_cons_some kept, List.map_cons, List.append_assoc,
        List.singleton_append]

/-- Where cycles are not allowed the validator has looked for one along the
connections. -/
theorem hasCycle_of_validateWithPolicy {registry : Registry} {spec : GraphSpec}
    {policy : ResourcePolicy} (passes : validateWithPolicy registry spec policy = .ok ())
    (forbids : spec.allowCycles = false) :
    hasCycle spec.nodes (spec.parsedConnections.map fun edge => (edge.fromNode, edge.toNode)) =
      false := by
  rcases Outcome.bind_ok passes with ⟨_, _, passes⟩
  rcases Outcome.bind_ok passes with ⟨_, _, passes⟩
  rcases Outcome.bind_ok passes with ⟨_, _, passes⟩
  rcases Outcome.bind_ok passes with ⟨_, _, passes⟩
  rcases Outcome.bind_ok passes with ⟨checked, connections, passes⟩
  rcases Outcome.bind_ok passes with ⟨_, _, acyclic⟩
  have edges := validateConnections_edges connections
  rw [List.nil_append] at edges
  have clear := reject_iff.mp acyclic
  rw [edges] at clear
  exact Bool.eq_false_iff.mpr fun cyclic => clear ⟨forbids, cyclic⟩

/-- Two texts do not enter one input port. -/
def EnterApart (first second : String) : Prop :=
  forall edge, ConnectionSpec.parseOk first = some edge ->
    forall other, ConnectionSpec.parseOk second = some other -> edge.input ≠ other.input

instance : Std.Symm EnterApart where
  symm := fun _ _ apart edge parses other parses' same =>
    apart other parses' edge parses same.symm

private theorem Accepted.apart {spec : GraphSpec} (accepted : Accepted spec) :
    spec.connections.Pairwise EnterApart := by
  have inputs := accepted.inputs
  rw [parsedConnections, List.Nodup, List.pairwise_map, List.pairwise_filterMap] at inputs
  exact inputs

theorem Accepted.parsed {spec : GraphSpec} (accepted : Accepted spec) {connection : String}
    (member : connection ∈ spec.connections) :
    Exists fun edge => ConnectionSpec.parse connection = .ok edge ∧
      ConnectionSpec.parseOk connection = some edge ∧ edge ∈ spec.parsedConnections := by
  rcases accepted.parses connection member with ⟨edge, parses⟩
  have parsed : ConnectionSpec.parseOk connection = some edge := by
    rw [ConnectionSpec.parseOk, parses]
    rfl
  exact ⟨edge, parses, parsed, List.mem_filterMap.mpr ⟨connection, member, parsed⟩⟩

/-- Connections into one input port are one connection. -/
theorem Accepted.single {spec : GraphSpec} (accepted : Accepted spec) {first second : String}
    (inFirst : first ∈ spec.connections) (inSecond : second ∈ spec.connections)
    {edge other : ConnectionSpec} (parsesFirst : ConnectionSpec.parseOk first = some edge)
    (parsesSecond : ConnectionSpec.parseOk second = some other)
    (same : edge.input = other.input) : first = second := by
  by_contra differ
  exact accepted.apart.forall inFirst inSecond differ edge parsesFirst other parsesSecond same

theorem Accepted.distinct {spec : GraphSpec} (accepted : Accepted spec) :
    spec.connections.Nodup := by
  apply accepted.apart.imp_of_mem
  intro first second member _ apart same
  rcases accepted.parsed member with ⟨edge, _, parsed, _⟩
  exact apart edge parsed edge (same ▸ parsed) rfl

end GraphSpec
end Graph
end DyunGu
