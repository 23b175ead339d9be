import DyunGu.Core.Memory
import DyunGu.Graph.Collected
import DyunGu.Lib.Machine

namespace DyunGu

open Core (ResourcePolicy)
open Graph

variable {E T : Type}

/-!
# The engine behind the C interface

An engine has a specification, a graph that is built from it, and either
inputs that wait for a one-shot run or a running graph.  Outputs wait in a
queue until they are polled.  Every call holds the lock of the engine, so
calls are steps; what the element factories, threads and workers answer is an
argument of the call.
-/

namespace Graph

/-- The checks of a specification under the published limits. -/
def GraphSpec.validate (registry : Registry) (spec : GraphSpec) : Except Error Unit :=
  spec.validateWithPolicy registry ResourcePolicy.default

/-- A graph that is ready to start; of the process policy the part that speaks
of resources is kept. -/
structure BuiltGraph where
  spec : GraphSpec
  policy : ResourcePolicy
deriving DecidableEq

/-- What the element factories and the spawning of threads answer. -/
structure StartEnv (E T : Type) where
  create : Creation E T
  spawn : Spawning

namespace BuiltGraph

/-- The limits of a specification, and whether it is valid under them. -/
def check (registry : Registry) (policy : ResourcePolicy) (spec : GraphSpec) :
    Except Error Unit := do
  let effective <- RunningGraph.effectiveLimits policy spec
  spec.validateWithPolicy registry effective

def newWithProcessPolicy (registry : Registry) (spec : GraphSpec) (policy : ResourcePolicy) :
    Except Error BuiltGraph := do
  check registry policy spec
  .ok ⟨spec, policy⟩

def reload (registry : Registry) (graph : BuiltGraph) (spec : GraphSpec) :
    Except Error (BuiltGraph × GraphDiff) := do
  check registry graph.policy spec
  .ok ({ graph with spec := spec }, GraphSpec.diff graph.spec spec)

def start (registry : Registry) (storageBytes : T -> Except Core.Error Nat) (env : StartEnv E T)
    (graph : BuiltGraph) (inputs : List (String × List T)) : Except Error (RunningGraph T) :=
  let started := do
    let (runtime, sinks) <- RuntimeGraph.build registry env.create storageBytes graph.policy
      graph.spec inputs
    runtime.start env.spawn sinks
  started.mapError BuildFailure.toError

end BuiltGraph

namespace RunningGraph

/-- Join all workers of all nodes.  `collected` is what each sink has collected
by then; the result is what the report says of the sinks. -/
def finish (graph : RunningGraph T) (ends : Nat -> WorkerEnd) (collected : String -> List T) :
    Except Error (List (String × List T)) :=
  let joined := graph.workers.toList.foldl
    (fun first entry =>
      match joinWorkers false entry.1 ends entry.2.workers with
      | .ok () => first
      | .error error => selectError first error) none
  match joined with
  | some error => .error error
  | none =>
      .ok (graph.sinks.toList.map fun entry => (entry.1, entry.2.tensors ++ collected entry.1))

end RunningGraph
end Graph

namespace Capi

inductive EnginePollOutput (T : Type) where
  | tensor (tensor : T)
  | pending
  | endOfStream
deriving DecidableEq, Repr

structure Engine (T : Type) where
  spec : GraphSpec
  graph : Option BuiltGraph
  running : Option (RunningGraph T)
  outputs : List T
  pendingInputs : Std.TreeMap String (List T)
  streamEnded : Bool

/-- What the environment answers to a one-shot run. -/
structure RunEnv (E T : Type) extends StartEnv E T where
  ends : Nat -> WorkerEnd
  collected : String -> List T

namespace Engine

def new : Engine T where
  spec := GraphSpec.default
  graph := none
  running := none
  outputs := []
  pendingInputs := {}
  streamEnded := false

def invalidate (engine : Engine T) : Engine T :=
  { engine with
    graph := none, running := none, outputs := [], pendingInputs := {}, streamEnded := false }

/-- The path of a reload on which the graph runs.  The running graph is updated
before the built one. -/
def reloadRunning (registry : Registry) (installed : ResourcePolicy)
    (env : RunningGraph.UpdateEnv E T) (engine : Engine T) (running : RunningGraph T)
    (spec : GraphSpec) : Engine T × Except Error GraphDiff :=
  match running.applyHotUpdateSpec registry env spec with
  | (running, .error error) => ({ engine with running := some running }, .error error)
  | (running, .ok diff) =>
      let rebuilt :=
        match engine.graph with
        | some graph => (graph.reload registry spec).map Prod.fst
        | none => BuiltGraph.newWithProcessPolicy registry spec installed
      match rebuilt with
      | .error error => ({ engine with running := some running }, .error error)
      | .ok graph =>
          ({ engine with
              running := some running, graph := some graph, spec := spec, outputs := [] },
            .ok diff)

/-- The paths on which it does not. -/
def reloadIdle (registry : Registry) (engine : Engine T) (spec : GraphSpec) :
    Engine T × Except Error GraphDiff :=
  match engine.graph with
  | some graph =>
      match graph.reload registry spec with
      | .error error => (engine, .error error)
      | .ok (graph, diff) =>
          ({ engine with graph := some graph, spec := spec, outputs := [] }, .ok diff)
  | none => ({ engine with spec := spec, outputs := [] }, .ok (GraphSpec.diff engine.spec spec))

def reload (registry : Registry) (installed : ResourcePolicy) (env : RunningGraph.UpdateEnv E T)
    (engine : Engine T) (spec : GraphSpec) : Engine T × Except Error GraphDiff :=
  if engine.pendingInputs.isEmpty = false then
    (engine, .error (.invalidState
      "cannot reload while inputs are pending; run them before reloading"))
  else
    let engine := { engine with streamEnded := false }
    match spec.validate registry with
    | .error error => (engine, .error error)
    | .ok () =>
        match engine.running with
        | some running => reloadRunning registry installed env engine running spec
        | none => reloadIdle registry engine spec

def inputNodeName (engine : Engine T) : Except Error String :=
  match engine.spec.nodes.filter fun node => decide (node.kind = "input") with
  | [node] => .ok node.name
  | _ => .error (.invalidState "graph must contain exactly one input node")

/-- How many inputs wait, and how many bytes they have. -/
def pendingTotals (storageBytes : T -> Except Core.Error Nat) (engine : Engine T) : Nat × Nat :=
  engine.pendingInputs.toList.foldl
    (fun totals entry =>
      (Core.saturatingAdd totals.1 entry.2.length,
        Core.saturatingAdd totals.2 (entry.2.foldl
          (fun bytes tensor =>
            Core.saturatingAdd bytes ((storageBytes tensor).toOption.getD Core.usizeMax)) 0)))
    (0, 0)

def push (storageBytes : T -> Except Core.Error Nat) (engine : Engine T) (tensor : T) :
    Engine T × Except Error Unit :=
  if engine.running.isSome then
    (engine, .error (.invalidState
      "cannot push inputs while graph is running; use run for one-shot execution"))
  else if engine.graph.isNone then
    (engine, .error (.notBuilt "engine must be built before pushing input"))
  else
    match storageBytes tensor with
    | .error error => (engine, .error (.core error.toText))
    | .ok newBytes =>
        let totalPackets := Core.saturatingAdd (engine.pendingTotals storageBytes).1 1
        let totalBytes := Core.saturatingAdd (engine.pendingTotals storageBytes).2 newBytes
        if engine.spec.limits.maxBufferPackets < totalPackets then
          (engine, .error (.invalidState ("pending input count " ++ toString totalPackets ++
            " would exceed max_buffer_packets " ++
            toString engine.spec.limits.maxBufferPackets)))
        else if engine.spec.limits.maxBufferBytes < totalBytes then
          (engine, .error (.invalidState ("pending input bytes " ++ toString totalBytes ++
            " would exceed max_buffer_bytes " ++ toString engine.spec.limits.maxBufferBytes)))
        else
          match engine.inputNodeName with
          | .error error => (engine, .error error)
          | .ok name =>
              ({ engine with
                  pendingInputs := engine.pendingInputs.insert name
                    (engine.pendingInputs.getD name [] ++ [tensor]) }, .ok ())

def run (registry : Registry) (storageBytes : T -> Except Core.Error Nat) (env : RunEnv E T)
    (engine : Engine T) : Engine T × Except Error Unit :=
  if engine.running.isSome then
    (engine, .error (.invalidState
      "cannot run one-shot execution while graph is running; shutdown first"))
  else
    match engine.graph with
    | none => (engine, .error (.notBuilt "engine must be built first"))
    | some graph =>
        let cleared := { engine with outputs := [], streamEnded := false }
        let report := do
          let running <- graph.start registry storageBytes env.toStartEnv
            engine.pendingInputs.toList
          running.finish env.ends env.collected
        match report with
        | .error error => (cleared, .error error)
        | .ok sinks =>
            ({ cleared with
                pendingInputs := {}, outputs := sinks.flatMap Prod.snd, streamEnded := true },
              .ok ())

def init (registry : Registry) (storageBytes : T -> Except Core.Error Nat)
    (installed : ResourcePolicy) (env : StartEnv E T) (engine : Engine T) :
    Engine T × Except Error Unit :=
  if engine.running.isSome then
    (engine, .error (.invalidState "engine is already running"))
  else if engine.pendingInputs.isEmpty = false then
    (engine, .error (.invalidState
      ("cannot switch to streaming with pending one-shot inputs; run or clear them first")))
  else
    let built : Except Error BuiltGraph :=
      match engine.graph with
      | some graph => .ok graph
      | none => do
          engine.spec.validate registry
          BuiltGraph.newWithProcessPolicy registry engine.spec installed
    match built with
    | .error error => (engine, .error error)
    | .ok graph =>
        let engine := { engine with graph := some graph }
        match graph.start registry storageBytes env [] with
        | .error error => (engine, .error error)
        | .ok running =>
            ({ engine with running := some running, outputs := [], streamEnded := false }, .ok ())

def stop (engine : Engine T) : Engine T × Except Error Unit :=
  match engine.running with
  | none => (engine, .error .notRunning)
  | some running => ({ engine with running := some running.requestStop }, .ok ())

/-- An error that a later call may not see again. -/
def retryable : Error -> Bool
  | .timeout _ => true
  | _ => false

/-- Only after a timeout the running graph is kept for another call. -/
def shutdown (finished : Nat -> Option WorkerEnd) (overflows : Bool) (engine : Engine T) :
    Engine T × Except Error Unit :=
  match engine.running with
  | none => ({ engine with streamEnded := true }, .ok ())
  | some running =>
      match running.shutdown finished overflows with
      | (running, .error error) =>
          ({ engine with running := if retryable error then some running else none },
            .error error)
      | (_, .ok ()) => ({ engine with running := none, streamEnded := true }, .ok ())

/-- The queue of outputs after the first part of a poll: what the sinks have
collected comes behind what waits. -/
def refill (finished : Nat -> Option WorkerEnd) (engine : Engine T) :
    Engine T × Except Error Unit :=
  match engine.running with
  | none => (engine, .ok ())
  | some running =>
      let (polled, answer) := running.poll finished
      let (drained, tensors) := polled.drainSinks
      ({ engine with running := some drained, outputs := engine.outputs ++ tensors }, answer)

/-- What a poll says when the queue is empty. -/
def emptyAnswer (engine : Engine T) : Except Error (EnginePollOutput T) :=
  let ended := if engine.streamEnded then .endOfStream else .pending
  match engine.running with
  | none => .ok ended
  | some running =>
      match running.status with
      | .failed => .error (.runtime (running.rootCause.getD ""))
      | .stopped => .ok .endOfStream
      | .starting | .running | .draining | .reloading => .ok ended

def pollOutput (finished : Nat -> Option WorkerEnd) (engine : Engine T) :
    Engine T × Except Error (EnginePollOutput T) :=
  match engine.refill finished with
  | (engine, .error error) => (engine, .error error)
  | (engine, .ok ()) =>
      match engine.outputs with
      | tensor :: outputs => ({ engine with outputs := outputs }, .ok (.tensor tensor))
      | [] => (engine, engine.emptyAnswer)

/-! ## The calls -/

/-- An error of the graph, or of the call itself. -/
inductive CallError where
  | graph (error : Error)
  | parse (message : String)
  | runtime (message : String)
deriving DecidableEq, Repr

/-- A specification that was read from text or from a file, and is valid. -/
def checked (registry : Registry) (parsed : Except Error GraphSpec) : Except Error GraphSpec := do
  let spec <- parsed
  spec.validate registry
  .ok spec

/-- `dg_engine_load_string` and `dg_engine_load_file`, which differ in how they
come by a specification. -/
def load (registry : Registry) (engine : Engine T) (parsed : Except Error GraphSpec) :
    Engine T × Except CallError Unit :=
  match checked registry parsed with
  | .error error => (engine, .error (.graph error))
  | .ok spec =>
      if engine.running.isSome then
        (engine, .error (.runtime
          "graph is currently running; shutdown before loading a new spec"))
      else (({ engine with spec := spec } : Engine T).invalidate, .ok ())

/-- `dg_engine_reload_string` and `dg_engine_reload_file`. -/
def reloadFrom (registry : Registry) (installed : ResourcePolicy)
    (env : RunningGraph.UpdateEnv E T) (engine : Engine T) (parsed : Except Error GraphSpec) :
    Engine T × Except Error GraphDiff :=
  match checked registry parsed with
  | .error error => (engine, .error error)
  | .ok spec => engine.reload registry installed env spec

/-- A change of the specification by hand. -/
def edit (engine : Engine T) (change : GraphSpec -> GraphSpec) (refusal : String) :
    Engine T × Except CallError Unit :=
  if engine.running.isSome then (engine, .error (.runtime refusal))
  else (({ engine with spec := change engine.spec } : Engine T).invalidate, .ok ())

/-- The parameters are parsed from text; no text stands for no parameters. -/
def addNode (engine : Engine T) (name kind : String) (params : Except String Value) :
    Engine T × Except CallError Unit :=
  match params with
  | .error message => (engine, .error (.parse message))
  | .ok params =>
      engine.edit
        (fun spec =>
          { spec with
            nodes := spec.nodes ++ [⟨name, kind, none, false, none, none, none, none, params⟩] })
        "graph is currently running; shutdown before adding nodes"

def removeNode (engine : Engine T) (name : String) : Engine T × Except CallError Unit :=
  engine.edit
    (fun spec =>
      { spec with
        nodes := spec.nodes.filter fun node => decide (node.name ≠ name)
        connections := spec.connections.filter fun connection =>
          match ConnectionSpec.parseOk connection with
          | some parsed => decide (parsed.fromNode ≠ name ∧ parsed.toNode ≠ name)
          | none => false })
    "graph is currently running; shutdown before removing nodes"

def connect (engine : Engine T) (connection : String) : Engine T × Except CallError Unit :=
  match ConnectionSpec.parse connection with
  | .error error => (engine, .error (.graph error))
  | .ok _ =>
      engine.edit (fun spec => { spec with connections := spec.connections ++ [connection] })
        "graph is currently running; shutdown before modifying connections"

def disconnect (engine : Engine T) (connection : String) : Engine T × Except CallError Unit :=
  engine.edit
    (fun spec =>
      { spec with
        connections := spec.connections.filter fun item => decide (item ≠ connection) })
    "graph is currently running; shutdown before modifying connections"

def build (registry : Registry) (installed : ResourcePolicy) (engine : Engine T) :
    Engine T × Except CallError Unit :=
  if engine.running.isSome then
    (engine, .error (.runtime "graph is currently running; shutdown before building"))
  else
    match (do engine.spec.validate registry
              BuiltGraph.newWithProcessPolicy registry engine.spec installed) with
    | .error error => (engine, .error (.graph error))
    | .ok graph =>
        ({ engine with graph := some graph, outputs := [], streamEnded := false }, .ok ())

/-- A sink of the running graph collects a tensor. -/
def collect (engine : Engine T) (name : String) (tensor : T) : Engine T :=
  { engine with running := engine.running.map fun running => running.collect name tensor }

/-- The calls on an engine with all that the environment answers, and the sinks
at work between the calls. -/
inductive Operation (E T : Type) where
  | load (parsed : Except Error GraphSpec)
  | addNode (name kind : String) (params : Except String Value)
  | removeNode (name : String)
  | connect (connection : String)
  | disconnect (connection : String)
  | build (installed : ResourcePolicy)
  | push (tensor : T)
  | run (env : RunEnv E T)
  | init (installed : ResourcePolicy) (env : StartEnv E T)
  | reload (installed : ResourcePolicy) (env : RunningGraph.UpdateEnv E T)
      (parsed : Except Error GraphSpec)
  | poll (finished : Nat -> Option WorkerEnd)
  | stop
  | shutdown (finished : Nat -> Option WorkerEnd) (overflows : Bool)
  | collect (name : String) (tensor : T)

variable (registry : Registry) (storageBytes : T -> Except Core.Error Nat)

/-- The engine after a call. -/
def perform (engine : Engine T) : Operation E T -> Engine T
  | .load parsed => (engine.load registry parsed).1
  | .addNode name kind params => (engine.addNode name kind params).1
  | .removeNode name => (engine.removeNode name).1
  | .connect connection => (engine.connect connection).1
  | .disconnect connection => (engine.disconnect connection).1
  | .build installed => (engine.build registry installed).1
  | .push tensor => (engine.push storageBytes tensor).1
  | .run env => (engine.run registry storageBytes env).1
  | .init installed env => (engine.init registry storageBytes installed env).1
  | .reload installed env parsed => (engine.reloadFrom registry installed env parsed).1
  | .poll finished => (engine.pollOutput finished).1
  | .stop => engine.stop.1
  | .shutdown finished overflows => (engine.shutdown finished overflows).1
  | .collect name tensor => engine.collect name tensor

def machine : Machine (Engine T) (Operation E T) where
  step engine operation := some (engine.perform registry storageBytes operation)

end Engine
end Capi
end DyunGu
