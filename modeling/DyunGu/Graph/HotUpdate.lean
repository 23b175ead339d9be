import DyunGu.Graph.Diff
import DyunGu.Graph.Lifecycle

namespace DyunGu
namespace Graph
namespace RunningGraph

open DyunGu.Core (ResourcePolicy)

variable {E T : Type}

/-!
# Hot updates

A hot update validates the candidate, prepares the replacements of all nodes
it affects, stops and joins the workers of these nodes, switches the routes,
spawns the replacements and drains the old pipes into the new ones.  Up to
the switch a failure is to be undone by spawning the old workers again; from
the switch on a failure marks the graph as failed.

What creating elements, joining workers, spawning threads and draining pipes
answer is given by the environment of one update, and so are the points at
which a fault is injected.
-/

abbrev NameSet := Std.TreeMap String Unit

/-- A pipe to be drained: the old receiver, the new sender, and whether the
upstream node keeps its workers. -/
structure Drain where
  receiver : Pipe
  sender : Pipe
  upstreamStaysLive : Bool
deriving DecidableEq, Repr

structure UpdateEnv (E T : Type) where
  prepare : Creation E T
  ends : Nat -> WorkerEnd
  restore : Creation E T
  restoreSpawn : Spawning
  spawn : Spawning
  drain : List Drain -> Except Error Unit
  afterPrepare : Bool
  afterQuiesce : Bool
  afterSwitch : Bool

def injectedFault (point : String) : Error :=
  .runtime ("injected hot-update fault at " ++ point)

/-! ## Planning -/

/-- The nodes at both ends of these connections. -/
def endpoints : List String -> Except Error (List String)
  | [] => .ok []
  | connection :: connections => do
      let parsed <- ConnectionSpec.parse connection
      let others <- endpoints connections
      .ok (parsed.fromNode :: parsed.toNode :: others)

def affectedNames (diff : GraphDiff) : Except Error NameSet := do
  let ends <- endpoints (diff.addedConnections ++ diff.removedConnections)
  .ok ((diff.removedNodes ++ diff.updatedNodes.map NodeSpec.name ++
    diff.addedNodes.map NodeSpec.name ++ ends).foldl (fun names name => names.insert name ()) {})

def prepareNodes (registry : Registry) (create : Creation E T) (affected : NameSet) :
    Std.TreeMap String (PreparedNode E T) -> List NodeSpec ->
    Except Error (Std.TreeMap String (PreparedNode E T))
  | prepared, [] => .ok prepared
  | prepared, node :: nodes =>
      if node.name ∈ affected then do
        let elements <- PreparedNode.new registry create node
        prepareNodes registry create affected (prepared.insert node.name elements) nodes
      else prepareNodes registry create affected prepared nodes

/-- What an update has ready before it touches a worker. -/
structure Plan (E T : Type) where
  effective : ResourcePolicy
  affected : NameSet
  prepared : Std.TreeMap String (PreparedNode E T)

def effectiveLimits (policy : ResourcePolicy) (spec : GraphSpec) : Except Error ResourcePolicy :=
  (policy.effectiveFor spec.limits).mapError fun error => .validation "limits" error.toText

def plan (registry : Registry) (env : UpdateEnv E T) (graph : RunningGraph T)
    (diff : GraphDiff) (candidate : GraphSpec) : Except Error (Plan E T) := do
  let effective <- effectiveLimits graph.policy candidate
  candidate.validateWithPolicy registry effective
  let affected <- affectedNames diff
  let prepared <- prepareNodes registry env.prepare affected {} candidate.nodes
  reject (env.afterPrepare = true) (injectedFault "AfterPrepare")
  .ok ⟨effective, affected, prepared⟩

/-! ## Stopping the affected workers -/

def raiseStop (workers : Std.TreeMap String LiveNode) (name : String) :
    Std.TreeMap String LiveNode :=
  match workers[name]? with
  | some node => workers.insert name { node with stop := true }
  | none => workers

/-- What a running graph keeps of its nodes beside their workers. -/
structure NodeRecords (T : Type) where
  sinks : Std.TreeMap String (SinkCollector T)
  metrics : Std.TreeMap String Unit

def NodeRecords.remove (records : NodeRecords T) (name : String) : NodeRecords T where
  sinks := records.sinks.erase name
  metrics := records.metrics.erase name

/-- Join the affected nodes in order.  The result has the workers and records
that are left, the names that were joined, and the error of the node at which
the loop ended early. -/
def joinAffected (ends : Nat -> WorkerEnd) (removed : List String) :
    Std.TreeMap String LiveNode -> NodeRecords T -> List String -> List String ->
    Std.TreeMap String LiveNode × NodeRecords T × List String × Option Error
  | workers, records, joined, [] => (workers, records, joined, none)
  | workers, records, joined, name :: names =>
      let kept := if name ∈ removed then records.remove name else records
      match workers[name]? with
      | none => joinAffected ends removed workers kept joined names
      | some node =>
          match joinWorkers true name ends node.workers with
          | .error error => (workers.erase name, records, joined, some error)
          | .ok () => joinAffected ends removed (workers.erase name) kept (joined ++ [name]) names

def records (graph : RunningGraph T) : NodeRecords T := ⟨graph.sinks, graph.metrics⟩

/-- The graph with the workers and records that joining has left. -/
def quiesced (graph : RunningGraph T) (workers : Std.TreeMap String LiveNode)
    (records : NodeRecords T) : RunningGraph T :=
  { graph with workers := workers, sinks := records.sinks, metrics := records.metrics }

/-! ## Spawning workers -/

/-- Stop all workers and join them, after a thread could not be spawned. -/
def abortSpawns (graph : RunningGraph T) : RunningGraph T :=
  { graph with
    stop := true
    workers := graph.workers.map fun _ _ => ⟨true, []⟩ }

/-- Every port of the node that a connection names has a route. -/
def checkRoutes (routes : RuntimeRoutes) (name : String) : List String -> Except Error Unit
  | [] => .ok ()
  | connection :: connections => do
      let parsed <- ConnectionSpec.parse connection
      reject (parsed.toNode = name ∧ (name, parsed.toPort) ∉ routes.inputs)
        (.runtime "missing input route")
      reject (parsed.fromNode = name ∧ (name, parsed.fromPort) ∉ routes.outputs)
        (.runtime "missing output route")
      checkRoutes routes name connections

/-- Spawn the prepared workers of one node on the current routes. -/
def launch (spawn : Spawning) (policy : ResourcePolicy) (connections : List String)
    (graph : RunningGraph T) (name : String) (prepared : PreparedNode E T) :
    RunningGraph T × Except Error Unit :=
  match checkRoutes graph.routes name connections with
  | .error error => (graph, .error error)
  | .ok () =>
      match spawn name prepared.elements.length with
      | some reason =>
          (graph.abortSpawns,
            .error (.runtime ("failed to spawn worker for node " ++ name ++ ": " ++ reason)))
      | none =>
          ({ graph with
              workers := graph.workers.insert name
                ⟨false, List.range' graph.nextThread prepared.elements.length⟩
              nextThread := graph.nextThread + prepared.elements.length
              metrics := graph.metrics.insert name ()
              sinks :=
                match prepared.handle with
                | .sink collector =>
                    graph.sinks.insert name
                      (collector.setBudget policy.maxBufferPackets policy.maxBufferBytes)
                | .none | .input _ => graph.sinks },
            .ok ())

/-- The graph after the workers of one node were spawned. -/
structure Launched (name : String) (count : Nat) (before after : RunningGraph T) : Prop where
  spec : after.spec = before.spec
  policy : after.policy = before.policy
  routes : after.routes = before.routes
  status : after.status = before.status
  stop : after.stop = before.stop
  workers : after.workers =
    before.workers.insert name ⟨false, List.range' before.nextThread count⟩

theorem launch_ok {spawn : Spawning} {policy : ResourcePolicy} {connections : List String}
    {graph after : RunningGraph T} {name : String} {prepared : PreparedNode E T}
    (launched : launch spawn policy connections graph name prepared = (after, .ok ())) :
    Launched name prepared.elements.length graph after := by
  unfold launch at launched
  split at launched
  · cases launched
  · split at launched
    · cases launched
    · cases launched
      exact ⟨rfl, rfl, rfl, rfl, rfl, rfl⟩

def findNode (spec : GraphSpec) (name : String) : Option NodeSpec :=
  spec.nodes.find? fun node => decide (node.name = name)

def respawnNodes (registry : Registry) (env : UpdateEnv E T) (policy : ResourcePolicy)
    (spec : GraphSpec) : RunningGraph T -> List String -> RunningGraph T × Except Error Unit
  | graph, [] => (graph, .ok ())
  | graph, name :: names =>
      match findNode spec name with
      | none => respawnNodes registry env policy spec graph names
      | some node =>
          if name ∈ graph.workers then respawnNodes registry env policy spec graph names
          else
            match PreparedNode.new registry env.restore node with
            | .error error => (graph, .error error)
            | .ok prepared =>
                match launch env.restoreSpawn policy spec.connections graph node.name prepared with
                | (graph, .error error) => (graph, .error error)
                | (graph, .ok ()) => respawnNodes registry env policy spec graph names

def respawnNodesFromSpec (registry : Registry) (env : UpdateEnv E T) (graph : RunningGraph T)
    (spec : GraphSpec) (names : List String) : RunningGraph T × Except Error Unit :=
  match effectiveLimits graph.policy spec with
  | .error error => (graph, .error error)
  | .ok effective => respawnNodes registry env effective spec graph names

/-- Spawn the joined workers again after a failure before the switch. -/
def rollBack (registry : Registry) (env : UpdateEnv E T) (graph : RunningGraph T)
    (joined : List String) (error unrestored : Error) : RunningGraph T × Except Error Unit :=
  match respawnNodesFromSpec registry env graph graph.spec joined with
  | (graph, .error restoreError) =>
      ((graph.setRootCause restoreError).setStatus .failed, .error unrestored)
  | (graph, .ok ()) => (graph, .error error)

/-! ## Switching the routes -/

/-- What the loop over the candidate's connections has made so far: the old
edges that are left, the new edges, and the pipes to drain. -/
structure Switch where
  left : Std.TreeMap String EdgeRoute
  edges : Std.TreeMap String EdgeRoute
  drains : List Drain
  nextPipe : Nat

def switchEdges (execution : ExecutionSpec) (affected : NameSet) :
    Switch -> List String -> Switch × Except Error Unit
  | switch, [] => (switch, .ok ())
  | switch, connection :: connections =>
      match ConnectionSpec.parse connection with
      | .error error => (switch, .error error)
      | .ok parsed =>
          let left := switch.left.erase connection
          if parsed.toNode ∈ affected then
            let pipe := execution.pipe switch.nextPipe
            switchEdges execution affected
              { left := left
                edges := switch.edges.insert connection ⟨pipe, pipe⟩
                drains :=
                  match switch.left[connection]? with
                  | some old =>
                      switch.drains ++
                        [⟨old.receiver, pipe, decide (parsed.fromNode ∉ affected)⟩]
                  | none => switch.drains
                nextPipe := switch.nextPipe + 1 } connections
          else
            match switch.left[connection]? with
            | none =>
                ({ switch with left := left },
                  .error (.runtime ("missing route for connection " ++ connection)))
            | some old =>
                switchEdges execution affected
                  { switch with left := left, edges := switch.edges.insert connection old }
                  connections

/-- The tables of ports over the new edges. -/
def switchedRoutes (edges : Std.TreeMap String EdgeRoute) (connections : List String) :
    RuntimeRoutes where
  edges := edges
  inputs := connections.foldl
    (fun (inputs : PortMap Pipe) connection =>
      match ConnectionSpec.parseOk connection, edges[connection]? with
      | some parsed, some route => inputs.insert parsed.input route.receiver
      | _, _ => inputs) {}
  outputs := connections.foldl
    (fun (outputs : PortMap (List Pipe)) connection =>
      match ConnectionSpec.parseOk connection, edges[connection]? with
      | some parsed, some route =>
          outputs.insert parsed.output (outputs.getD parsed.output [] ++ [route.sender])
      | _, _ => outputs) {}

def spawnPrepared (env : UpdateEnv E T) (plan : Plan E T) (candidate : GraphSpec) :
    RunningGraph T -> List NodeSpec -> RunningGraph T × Except Error Unit
  | graph, [] => (graph, .ok ())
  | graph, node :: nodes =>
      if node.name ∈ plan.affected then
        match plan.prepared[node.name]? with
        | none => spawnPrepared env plan candidate graph nodes
        | some prepared =>
            match launch env.spawn plan.effective candidate.connections graph node.name
                prepared with
            | (graph, .error error) => (graph, .error error)
            | (graph, .ok ()) => spawnPrepared env plan candidate graph nodes
      else spawnPrepared env plan candidate graph nodes

/-! ## Launches in a row

What each launch does to a graph, a row of launches does. -/

section Launches

variable (relates : RunningGraph T -> RunningGraph T -> Prop)
  (refl : forall graph, relates graph graph)
  (trans : forall first second third, relates first second -> relates second third ->
    relates first third)

include refl trans

theorem respawnNodes_relates (registry : Registry) (env : UpdateEnv E T)
    (policy : ResourcePolicy) (spec : GraphSpec) {names : List String}
    (launches : forall graph name node prepared, name ∈ names ->
      findNode spec name = some node -> PreparedNode.new registry env.restore node = .ok prepared ->
      relates graph (launch env.restoreSpawn policy spec.connections graph node.name prepared).1)
    (graph : RunningGraph T) :
    relates graph (respawnNodes registry env policy spec graph names).1 := by
  induction names generalizing graph with
  | nil => exact refl graph
  | cons name names ih =>
      have rest := ih fun graph other node prepared member =>
        launches graph other node prepared (List.mem_cons_of_mem _ member)
      unfold respawnNodes
      split
      · exact rest graph
      · rename_i node found
        split
        · exact rest graph
        · split
          · exact refl graph
          · rename_i prepared prepares
            have launched := launches graph name node prepared List.mem_cons_self found prepares
            split
            · rename_i after error isLaunched
              rw [isLaunched] at launched
              exact launched
            · rename_i after isLaunched
              rw [isLaunched] at launched
              exact trans _ _ _ launched (rest after)

theorem rollBack_relates
    (fails : forall graph error, relates graph ((setRootCause graph error).setStatus .failed))
    (registry : Registry) (env : UpdateEnv E T) (graph : RunningGraph T) {joined : List String}
    (launches : forall before name node prepared policy, name ∈ joined ->
      findNode graph.spec name = some node ->
      PreparedNode.new registry env.restore node = .ok prepared ->
      relates before
        (launch env.restoreSpawn policy graph.spec.connections before node.name prepared).1)
    (error unrestored : Error) :
    relates graph (rollBack registry env graph joined error unrestored).1 := by
  have respawned : relates graph
      (respawnNodesFromSpec registry env graph graph.spec joined).1 := by
    unfold respawnNodesFromSpec
    split
    · exact refl graph
    · rename_i effective _
      exact respawnNodes_relates relates refl trans registry env effective graph.spec
        (fun before name node prepared => launches before name node prepared effective) graph
  unfold rollBack
  split
  · rename_i after restoreError isRolled
    rw [isRolled] at respawned
    exact trans _ _ _ respawned (fails after restoreError)
  · rename_i after isRolled
    rw [isRolled] at respawned
    exact respawned

theorem spawnPrepared_relates (env : UpdateEnv E T) (plan : Plan E T) (candidate : GraphSpec)
    (launches : forall graph name prepared, name ∈ plan.affected ->
      plan.prepared[name]? = some prepared ->
      relates graph
        (launch env.spawn plan.effective candidate.connections graph name prepared).1)
    (graph : RunningGraph T) (nodes : List NodeSpec) :
    relates graph (spawnPrepared env plan candidate graph nodes).1 := by
  induction nodes generalizing graph with
  | nil => exact refl graph
  | cons node nodes ih =>
      unfold spawnPrepared
      split
      · rename_i isAffected
        split
        · exact ih graph
        · rename_i prepared found
          have launched := launches graph node.name prepared isAffected found
          split
          · rename_i after error isLaunched
            rw [isLaunched] at launched
            exact launched
          · rename_i after isLaunched
            rw [isLaunched] at launched
            exact trans _ _ _ launched (ih after)
      · exact ih graph

end Launches

/-! ## The second half -/

/-- A failure after the switch cannot be undone. -/
def failWith (graph : RunningGraph T) (error : Error) : RunningGraph T × Except Error Unit :=
  ((graph.setRootCause error).setStatus .failed, .error error)

/-- The second half of an update, from the switch of the routes on. -/
def switchAndSpawn (env : UpdateEnv E T) (plan : Plan E T) (candidate : GraphSpec)
    (graph : RunningGraph T) : RunningGraph T × Except Error Unit :=
  match switchEdges candidate.execution plan.affected
      ⟨graph.routes.edges, {}, [], graph.nextPipe⟩ candidate.connections with
  | (switch, .error error) =>
      ({ graph with
          routes := { graph.routes with edges := switch.left }
          nextPipe := switch.nextPipe }, .error error)
  | (switch, .ok ()) =>
      let switched : RunningGraph T :=
        { graph with
          routes := switchedRoutes switch.edges candidate.connections
          nextPipe := switch.nextPipe }
      if env.afterSwitch then failWith switched (injectedFault "AfterSwitch")
      else
        match spawnPrepared env plan candidate switched candidate.nodes with
        | (spawned, .error error) => failWith spawned error
        | (spawned, .ok ()) =>
            match env.drain switch.drains with
            | .error error => failWith spawned error
            | .ok () => ({ spawned with spec := candidate }, .ok ())

/-! ## The update -/

def applyHotUpdateCandidate (registry : Registry) (env : UpdateEnv E T)
    (graph : RunningGraph T) (diff : GraphDiff) (candidate : GraphSpec) :
    RunningGraph T × Except Error Unit :=
  match plan registry env graph diff candidate with
  | .error error => (graph, .error error)
  | .ok plan =>
      let raised := plan.affected.keys.foldl raiseStop graph.workers
      match joinAffected env.ends diff.removedNodes raised graph.records [] plan.affected.keys with
      | (workers, records, joined, some error) =>
          rollBack registry env (graph.quiesced workers records) joined error error
      | (workers, records, joined, none) =>
          let quiesced := graph.quiesced workers records
          if env.afterQuiesce then
            rollBack registry env quiesced joined (injectedFault "AfterQuiesce")
              (.runtime "injected hot-update fault at AfterQuiesce; restore failed")
          else switchAndSpawn env plan candidate quiesced

/-- Run the update under the reloading status. -/
def reload (registry : Registry) (env : UpdateEnv E T) (graph : RunningGraph T)
    (diff : GraphDiff) (candidate : GraphSpec) : RunningGraph T × Except Error Unit :=
  match applyHotUpdateCandidate registry env (graph.setStatus .reloading) diff candidate with
  | (graph, .ok ()) => (graph.setStatus .running, .ok ())
  | (graph, .error error) =>
      if graph.status = .failed then (graph, .error error)
      else (graph.setStatus .running, .error error)

def applyHotUpdate (registry : Registry) (env : UpdateEnv E T) (graph : RunningGraph T)
    (diff : GraphDiff) : RunningGraph T × Except Error Unit :=
  if diff.isEmpty then (graph, .ok ())
  else graph.reload registry env diff (graph.spec.mergeForDiff diff)

/-- Whether anything but nodes and connections differs. -/
def configChanged (old new : GraphSpec) : Bool :=
  decide (old.limits ≠ new.limits ∨ old.execution ≠ new.execution ∨
    old.defaults ≠ new.defaults ∨ old.variableValues ≠ new.variableValues ∨
    old.allowCycles ≠ new.allowCycles ∨ old.templates ≠ new.templates)

def applyHotUpdateSpec (registry : Registry) (env : UpdateEnv E T) (graph : RunningGraph T)
    (new : GraphSpec) : RunningGraph T × Except Error GraphDiff :=
  let diff := GraphSpec.diff graph.spec new
  if diff.isEmpty && !configChanged graph.spec new then (graph, .ok diff)
  else
    match effectiveLimits graph.policy new with
    | .error error => (graph, .error error)
    | .ok effective =>
        match new.validateWithPolicy registry effective with
        | .error error => (graph, .error error)
        | .ok () =>
            if diff.isEmpty then ({ graph with spec := new }, .ok diff)
            else
              match graph.reload registry env diff new with
              | (graph, .ok ()) => (graph, .ok diff)
              | (graph, .error error) => (graph, .error error)

/-! ## Requests -/

/-- Both ways to ask for an update. -/
inductive Request where
  | changes (diff : GraphDiff)
  | whole (spec : GraphSpec)

namespace Request

def toDiff (old : GraphSpec) : Request -> GraphDiff
  | .changes diff => diff
  | .whole spec => GraphSpec.diff old spec

def candidate (old : GraphSpec) : Request -> GraphSpec
  | .changes diff => old.mergeForDiff diff
  | .whole spec => spec

/-- Whether the request passes the checks that are made of it before the
status says that the graph reloads.  A diff is not checked there. -/
def passes (registry : Registry) (policy : ResourcePolicy) : Request -> Bool
  | .changes _ => true
  | .whole spec =>
      match effectiveLimits policy spec with
      | .error _ => false
      | .ok effective => (spec.validateWithPolicy registry effective).isOk

end Request

/-- Whether the status becomes reloading. -/
def reloads (registry : Registry) (graph : RunningGraph T) (request : Request) : Bool :=
  !(request.toDiff graph.spec).isEmpty && request.passes registry graph.policy

def hotUpdate (registry : Registry) (env : UpdateEnv E T) (graph : RunningGraph T) :
    Request -> RunningGraph T × Except Error Unit
  | .changes diff => graph.applyHotUpdate registry env diff
  | .whole spec =>
      ((graph.applyHotUpdateSpec registry env spec).1,
        (graph.applyHotUpdateSpec registry env spec).2.map fun _ => ())

theorem hotUpdate_of_reloads {registry : Registry} (env : UpdateEnv E T)
    {graph : RunningGraph T} {request : Request} (goes : graph.reloads registry request = true) :
    graph.hotUpdate registry env request =
      graph.reload registry env (request.toDiff graph.spec) (request.candidate graph.spec) := by
  rw [reloads, Bool.and_eq_true, Bool.not_eq_true'] at goes
  rcases goes with ⟨changed, passes⟩
  cases request with
  | changes diff =>
      change diff.isEmpty = false at changed
      rw [hotUpdate, applyHotUpdate, changed, if_neg Bool.false_ne_true]
      rfl
  | whole spec =>
      change (GraphSpec.diff graph.spec spec).isEmpty = false at changed
      rw [Request.passes] at passes
      have result : graph.applyHotUpdateSpec registry env spec =
          match graph.reload registry env (GraphSpec.diff graph.spec spec) spec with
          | (graph', .ok ()) => (graph', .ok (GraphSpec.diff graph.spec spec))
          | (graph', .error error) => (graph', .error error) := by
        rw [applyHotUpdateSpec, changed, Bool.false_and, if_neg Bool.false_ne_true]
        cases limits : effectiveLimits graph.policy spec with
        | error error =>
            rw [limits] at passes
            cases passes
        | ok effective =>
            rw [limits] at passes
            dsimp only at passes ⊢
            cases checked : spec.validateWithPolicy registry effective with
            | error error =>
                rw [checked] at passes
                cases passes
            | ok _ =>
                dsimp only
                rw [if_neg Bool.false_ne_true]
      rw [hotUpdate, result]
      change _ = graph.reload registry env (GraphSpec.diff graph.spec spec) spec
      rcases graph.reload registry env (GraphSpec.diff graph.spec spec) spec with
        ⟨after, _ | _⟩ <;> rfl

/-- The update stores a validated specification with the same nodes and
connections, and does nothing else. -/
structure ConfigOnly (registry : Registry) (graph : RunningGraph T) (request : Request)
    (spec : GraphSpec) : Prop where
  asked : request = .whole spec
  same : (GraphSpec.diff graph.spec spec).isEmpty = true
  validated : Exists fun effective => effectiveLimits graph.policy spec = .ok effective ∧
    spec.validateWithPolicy registry effective = .ok ()

/-- An update that does not reload at most stores the new configuration. -/
theorem hotUpdate_of_not_reloads {registry : Registry} (env : UpdateEnv E T)
    {graph : RunningGraph T} {request : Request} (stays : graph.reloads registry request = false) :
    graph.hotUpdate registry env request = (graph, .ok ()) ∨
      (Exists fun error => graph.hotUpdate registry env request = (graph, .error error)) ∨
      Exists fun spec => ConfigOnly registry graph request spec ∧
        graph.hotUpdate registry env request = ({ graph with spec := spec }, .ok ()) := by
  cases request with
  | changes diff =>
      have empty : diff.isEmpty = true := by
        simpa [reloads, Request.toDiff, Request.passes] using stays
      left
      rw [hotUpdate, applyHotUpdate, empty]
      rfl
  | whole spec =>
      rw [hotUpdate, applyHotUpdateSpec]
      split
      · exact Or.inl rfl
      · cases limits : effectiveLimits graph.policy spec with
        | error error => exact Or.inr (Or.inl ⟨error, rfl⟩)
        | ok effective =>
            dsimp only
            cases checked : spec.validateWithPolicy registry effective with
            | error error => exact Or.inr (Or.inl ⟨error, rfl⟩)
            | ok _ =>
                have empty : (GraphSpec.diff graph.spec spec).isEmpty = true := by
                  simpa [reloads, Request.toDiff, Request.passes, limits, checked, Except.isOk,
                    Except.toBool] using stays
                dsimp only
                rw [empty]
                exact Or.inr (Or.inr ⟨spec, ⟨rfl, empty, effective, limits, checked⟩, rfl⟩)

end RunningGraph
end Graph
end DyunGu
