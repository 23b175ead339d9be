import DyunGu.Graph.Element
import DyunGu.Graph.Validate
import DyunGu.Lib.OrderedMap

namespace DyunGu
namespace Graph

open DyunGu.Core (ResourcePolicy)

variable {E T : Type}

/-!
# Building and starting a graph

`RuntimeGraph::build` creates the elements of every node, makes one pipe per
connection and enters its two ends at the ports it joins; `start` gives every
element a worker thread.  Elements and tensors are arguments of the model,
and so is what creating an element or spawning a thread answers.

The two halves of a pipe are written as the pipe itself, which has an
identity, so that two routes are the same exactly when their pipes are.
Failed allocations are left out.
-/

structure Pipe where
  id : Nat
  capacity : Option Nat
deriving DecidableEq, Repr

/-- The pipe that an execution mode uses on an edge. -/
def ExecutionSpec.pipe (execution : ExecutionSpec) (id : Nat) : Pipe :=
  match execution.parallel with
  | .pipeline => ⟨id, some execution.queueCapacity⟩
  | .sequential | .task => ⟨id, none⟩

@[simp] theorem ExecutionSpec.pipe_id (execution : ExecutionSpec) (id : Nat) :
    (execution.pipe id).id = id := by
  unfold ExecutionSpec.pipe
  split <;> rfl

structure EdgeRoute where
  sender : Pipe
  receiver : Pipe
deriving DecidableEq, Repr

/-- Maps over ports, which are pairs of a node and a port name. -/
abbrev PortMap (Value : Type) := Std.TreeMap (String × String) Value (lexOrd.compare)

structure RuntimeRoutes where
  edges : Std.TreeMap String EdgeRoute
  inputs : PortMap Pipe
  outputs : PortMap (List Pipe)

/-- What a sink has collected, and the budget it collects under. -/
structure SinkCollector (T : Type) where
  tensors : List T
  maxPackets : Nat
  maxBytes : Nat
deriving DecidableEq, Repr

def SinkCollector.setBudget (collector : SinkCollector T) (maxPackets maxBytes : Nat) :
    SinkCollector T :=
  { collector with maxPackets := maxPackets, maxBytes := maxBytes }

inductive ElementHandle (T : Type) where
  | none
  | input (queue : List T)
  | sink (collector : SinkCollector T)
deriving DecidableEq, Repr

def ElementHandle.isNone : ElementHandle T -> Bool
  | .none => true
  | .input _ | .sink _ => false

structure CreatedElement (E T : Type) where
  element : E
  handle : ElementHandle T

/-- What creating an instance of a node answers, by the number of instances
that were created before it. -/
abbrev Creation (E T : Type) := NodeSpec -> Nat -> Except Error (CreatedElement E T)

def createElement (registry : Registry) (create : Creation E T) (node : NodeSpec)
    (index : Nat) : Except Error (CreatedElement E T) :=
  match registry.findElement node.kind with
  | none => .error (.unknownNodeKind node.kind)
  | some _ => create node index

def singleInstance (node : NodeSpec) : Error :=
  .config ("node " ++ node.name ++
    " cannot be multi-instanced because source elements and elements with special handles " ++
    "are single-instance")

/-- The instances of a node after the first one. -/
def createInstances (registry : Registry) (create : Creation E T) (node : NodeSpec) :
    Nat -> Nat -> Except Error (List E)
  | 0, _ => .ok []
  | count + 1, index => do
      let created <- createElement registry create node index
      reject (node.kind = "source" ∨ created.handle.isNone = false) (singleInstance node)
      let elements <- createInstances registry create node count (index + 1)
      .ok (created.element :: elements)

structure PreparedNode (E T : Type) where
  handle : ElementHandle T
  elements : List E

/-- The elements of a node, as the builder and a hot update create them. -/
def PreparedNode.new (registry : Registry) (create : Creation E T) (node : NodeSpec) :
    Except Error (PreparedNode E T) := do
  let created <- createElement registry create node 0
  reject (1 < node.threads.getD 1 ∧ (node.kind = "source" ∨ created.handle.isNone = false))
    (singleInstance node)
  let elements <- createInstances registry create node (node.threads.getD 1 - 1) 1
  .ok ⟨created.handle, created.element :: elements⟩

structure NodeRuntime (E T : Type) where
  name : String
  elements : List E
  handle : ElementHandle T
  inputs : Std.TreeMap String Pipe
  outputs : Std.TreeMap String (List Pipe)

/-- The ways in which building and starting a graph end without one. -/
inductive BuildFailure where
  | limits (error : Core.Error)
  | create (error : Error)
  | unknownInput (name : String)
  | injected (error : Core.Error)
  | connection (error : Error)
  | missingSource (node : String)
  | missingDestination (node : String)
  | multipleInbound (node port : String)
  | noUpstream (node port : String)
  | missingRuntimeNode (node : String)
  | noWorkers (node : String)
  | spawn (node reason : String)
  | unknownNodes
deriving DecidableEq, Repr

namespace BuildFailure

/-- The error that is returned for a failure. -/
def toError : BuildFailure -> Error
  | .limits error | .injected error => .core error.toText
  | .create error | .connection error => error
  | .unknownInput name => .config ("unknown input node " ++ name ++ " for injected tensors")
  | .missingSource node => .config ("missing source node " ++ node)
  | .missingDestination node => .config ("missing destination node " ++ node)
  | .multipleInbound node port =>
      .config ("multiple inbound edges to " ++ node ++ "." ++ port ++ " are not supported")
  | .noUpstream node port =>
      .config ("input port " ++ node ++ "." ++ port ++ " has no upstream connection")
  | .missingRuntimeNode node => .runtime ("missing runtime node " ++ node)
  | .noWorkers node => .runtime ("node " ++ node ++ " has no executable workers")
  | .spawn node reason =>
      .runtime ("failed to spawn worker for node " ++ node ++ ": " ++ reason)
  | .unknownNodes => .runtime "runtime contains unknown nodes"

/-- The failures that say that nodes and connections do not fit together. -/
def structural : BuildFailure -> Bool
  | .connection _ | .missingSource _ | .missingDestination _ | .multipleInbound _ _
  | .noUpstream _ _ | .missingRuntimeNode _ | .noWorkers _ | .unknownNodes => true
  | .limits _ | .create _ | .unknownInput _ | .injected _ | .spawn _ _ => false

end BuildFailure

namespace RuntimeGraph

abbrev Nodes (E T : Type) := Std.TreeMap String (NodeRuntime E T)

def createNodes (registry : Registry) (create : Creation E T) :
    Nodes E T -> List NodeSpec -> Except BuildFailure (Nodes E T)
  | nodes, [] => .ok nodes
  | nodes, node :: rest =>
      match PreparedNode.new registry create node with
      | .error error => .error (.create error)
      | .ok prepared =>
          createNodes registry create
            (nodes.insert node.name
              { name := node.name
                elements := prepared.elements
                handle := prepared.handle
                inputs := {}
                outputs := {} }) rest

/-! ## Injected inputs -/

/-- The bytes of the tensors for one input, each within the tensor limit. -/
def injectedBytes (storageBytes : T -> Except Core.Error Nat) (policy : ResourcePolicy) :
    Nat -> List T -> Except Core.Error Nat
  | total, [] => .ok total
  | total, tensor :: tensors => do
      let bytes <- storageBytes tensor
      policy.checkTensorBytes bytes
      injectedBytes storageBytes policy (min (total + bytes) Backend.u64Max) tensors

def checkInjected (storageBytes : T -> Except Core.Error Nat) (policy : ResourcePolicy)
    (queue tensors : List T) : Except Core.Error Unit := do
  let bytes <- injectedBytes storageBytes policy 0 tensors
  policy.checkBufferPackets (min (queue.length + tensors.length) Backend.u64Max)
  policy.checkBufferBytes bytes

def injectInputs (storageBytes : T -> Except Core.Error Nat) (policy : ResourcePolicy) :
    Nodes E T -> List (String × List T) -> Except BuildFailure (Nodes E T)
  | nodes, [] => .ok nodes
  | nodes, (name, tensors) :: inputs =>
      match nodes[name]? with
      | some node =>
          match node.handle with
          | .input queue =>
              match checkInjected storageBytes policy queue tensors with
              | .error error => .error (.injected error)
              | .ok () =>
                  injectInputs storageBytes policy
                    (nodes.insert name { node with handle := .input (queue ++ tensors) }) inputs
          | .none | .sink _ => .error (.unknownInput name)
      | none => .error (.unknownInput name)

/-! ## Wiring -/

/-- What the loop over the connections has made so far. -/
structure Wiring (E T : Type) where
  nodes : Nodes E T
  edges : Std.TreeMap String EdgeRoute
  nextPipe : Nat

def connect (execution : ExecutionSpec) (wiring : Wiring E T) (connection : String) :
    Except BuildFailure (Wiring E T) :=
  match ConnectionSpec.parse connection with
  | .error error => .error (.connection error)
  | .ok parsed =>
      let pipe := execution.pipe wiring.nextPipe
      match wiring.nodes[parsed.fromNode]? with
      | none => .error (.missingSource parsed.fromNode)
      | some source =>
          let nodes := wiring.nodes.insert parsed.fromNode
            { source with
              outputs := source.outputs.insert parsed.fromPort
                (source.outputs.getD parsed.fromPort [] ++ [pipe]) }
          match nodes[parsed.toNode]? with
          | none => .error (.missingDestination parsed.toNode)
          | some target =>
              if parsed.toPort ∈ target.inputs then
                .error (.multipleInbound parsed.toNode parsed.toPort)
              else
                .ok
                  { nodes := nodes.insert parsed.toNode
                      { target with inputs := target.inputs.insert parsed.toPort pipe }
                    edges := wiring.edges.insert connection ⟨pipe, pipe⟩
                    nextPipe := wiring.nextPipe + 1 }

def connectAll (execution : ExecutionSpec) :
    Wiring E T -> List String -> Except BuildFailure (Wiring E T)
  | wiring, [] => .ok wiring
  | wiring, connection :: connections =>
      match connect execution wiring connection with
      | .error failure => .error failure
      | .ok next => connectAll execution next connections

/-- The entries of a loop over the ports of all nodes. -/
def portEntries {Value : Type} (ports : NodeRuntime E T -> Std.TreeMap String Value)
    (nodes : Nodes E T) : List ((String × String) × Value) :=
  nodes.toList.flatMap fun entry =>
    (ports entry.2).toList.map fun port => ((entry.2.name, port.1), port.2)

def portTable {Value : Type} (ports : NodeRuntime E T -> Std.TreeMap String Value)
    (nodes : Nodes E T) : PortMap Value :=
  (portEntries ports nodes).foldl (fun table entry => table.insert entry.1 entry.2) {}

def Wiring.routes (wiring : Wiring E T) : RuntimeRoutes where
  edges := wiring.edges
  inputs := portTable NodeRuntime.inputs wiring.nodes
  outputs := portTable NodeRuntime.outputs wiring.nodes

/-- Whether some connection enters this input port. -/
def hasUpstream (connections : List String) (node port : String) : Bool :=
  connections.any fun connection =>
    match ConnectionSpec.parseOk connection with
    | some parsed => decide (parsed.toNode = node ∧ parsed.toPort = port)
    | none => false

/-- The first input port, in the order of the tables, that none enters. -/
def unconnectedInput (connections : List String) (nodes : Nodes E T) :
    Option (String × String) :=
  ((portEntries NodeRuntime.inputs nodes).map Prod.fst).find? fun key =>
    !hasUpstream connections key.1 key.2

/-! ## The runtime graph -/

/-- One instance of a node, with the pipes behind the ports of its context. -/
structure ExecNode (E : Type) where
  name : String
  element : E
  io : ElementIo
  receivers : Std.TreeMap String Pipe
  senders : Std.TreeMap String (List Pipe)

def ExecNode.isNamed (name : String) (exec : ExecNode E) : Bool :=
  decide (exec.name = name)

end RuntimeGraph

/-- Of the metrics only the names of the nodes that have them are kept. -/
structure RuntimeGraph (E : Type) where
  nodes : List (RuntimeGraph.ExecNode E)
  routes : RuntimeRoutes
  spec : GraphSpec
  policy : ResourcePolicy
  metrics : Std.TreeMap String Unit
  nextPipe : Nat

namespace RuntimeGraph

def execNodes (queueCapacity : Nat) (routes : RuntimeRoutes) (node : NodeRuntime E T) :
    List (ExecNode E) :=
  node.elements.map fun element =>
    { name := node.name
      element := element
      io := ElementIo.built node.name node.inputs.keys node.outputs.keys node.elements.length
        queueCapacity
      receivers := node.inputs
      senders := node.outputs.map fun port senders =>
        (routes.outputs[(node.name, port)]?).getD senders }

/-- The collectors of the sinks, under the budget of the effective policy. -/
def sinks (policy : ResourcePolicy) (nodes : Nodes E T) :
    Std.TreeMap String (SinkCollector T) :=
  nodes.toList.foldl
    (fun sinks entry =>
      match entry.2.handle with
      | .sink collector =>
          sinks.insert entry.1
            (collector.setBudget policy.maxBufferPackets policy.maxBufferBytes)
      | .none | .input _ => sinks)
    {}

def build (registry : Registry) (create : Creation E T)
    (storageBytes : T -> Except Core.Error Nat) (policy : ResourcePolicy) (spec : GraphSpec)
    (inputs : List (String × List T)) :
    Except BuildFailure (RuntimeGraph E × Std.TreeMap String (SinkCollector T)) := do
  let effective <- (policy.effectiveFor spec.limits).mapError .limits
  let created <- createNodes registry create {} spec.nodes
  let nodes <- injectInputs storageBytes effective created inputs
  let wiring <- connectAll spec.execution ⟨nodes, {}, 0⟩ spec.connections
  match unconnectedInput spec.connections wiring.nodes with
  | some (node, port) => .error (.noUpstream node port)
  | none =>
      .ok
        ({ nodes := wiring.nodes.toList.flatMap fun entry =>
             execNodes spec.execution.queueCapacity wiring.routes entry.2
           routes := wiring.routes
           spec := spec
           policy := policy
           metrics := wiring.nodes.map fun _ _ => ()
           nextPipe := wiring.nextPipe },
         sinks effective wiring.nodes)

end RuntimeGraph

/-! ## Starting -/

/-- Lifecycle status of a running graph. -/
inductive GraphStatus where
  | starting
  | running
  | draining
  | stopped
  | failed
  | reloading
deriving DecidableEq, Repr

/-- The stop flag and the threads of one node. -/
structure LiveNode where
  stop : Bool
  workers : List Nat
deriving DecidableEq, Repr

structure RunningGraph (T : Type) where
  spec : GraphSpec
  policy : ResourcePolicy
  stop : Bool
  workers : Std.TreeMap String LiveNode
  routes : RuntimeRoutes
  sinks : Std.TreeMap String (SinkCollector T)
  metrics : Std.TreeMap String Unit
  status : GraphStatus
  rootCause : Option String
  nextPipe : Nat
  nextThread : Nat

/-- Every node of the specification has all of its workers, and nobody has
told any of them to stop. -/
structure RunningGraph.AllLive (graph : RunningGraph T) : Prop where
  running : graph.stop = false
  live : forall node, node ∈ graph.spec.nodes -> Exists fun workers : LiveNode =>
    graph.workers[node.name]? = some workers ∧ workers.stop = false ∧
      workers.workers.length = node.threads.getD 1

/-- What spawning the threads of a node answers, by their number: the text of
the error of the first one that could not be spawned, if any. -/
abbrev Spawning := String -> Nat -> Option String

namespace RuntimeGraph

def grouped (nodes : List (ExecNode E)) : Std.TreeMap String (List (ExecNode E)) :=
  nodes.foldl (fun groups node => groups.insert node.name (groups.getD node.name [] ++ [node])) {}

/-- Spawn the workers of one node after another.  A failure stops and joins
what was spawned, and nothing of it is left. -/
def startNodes (spawn : Spawning) : Std.TreeMap String (List (ExecNode E)) ->
    Std.TreeMap String LiveNode -> Nat -> List NodeSpec ->
    Except BuildFailure (Std.TreeMap String (List (ExecNode E)) ×
      Std.TreeMap String LiveNode × Nat)
  | groups, workers, next, [] => .ok (groups, workers, next)
  | groups, workers, next, node :: rest =>
      match groups[node.name]? with
      | none => .error (.missingRuntimeNode node.name)
      | some [] => .error (.noWorkers node.name)
      | some (first :: others) =>
          match spawn node.name (others.length + 1) with
          | some reason => .error (.spawn node.name reason)
          | none =>
              startNodes spawn (groups.erase node.name)
                (workers.insert node.name
                  ⟨first.io.controlStop, List.range' next (others.length + 1)⟩)
                (next + (others.length + 1)) rest

def start (spawn : Spawning) (graph : RuntimeGraph E)
    (sinks : Std.TreeMap String (SinkCollector T)) : Except BuildFailure (RunningGraph T) :=
  match startNodes spawn (grouped graph.nodes) {} 0 graph.spec.nodes with
  | .error failure => .error failure
  | .ok (groups, workers, next) =>
      if groups.isEmpty then
        .ok
          { spec := graph.spec
            policy := graph.policy
            stop := false
            workers := workers
            routes := graph.routes
            sinks := sinks
            metrics := graph.metrics
            status := .running
            rootCause := none
            nextPipe := graph.nextPipe
            nextThread := next }
      else .error .unknownNodes

end RuntimeGraph
end Graph
end DyunGu
