import DyunGu.Graph.Build

namespace DyunGu
namespace Graph

variable {T : Type}

/-!
# Stopping and polling a running graph

`request_stop`, `shutdown` and `poll` write the status of a running graph
and join its workers.  Which workers have ended, and how, is an argument of
each call; a worker that `shutdown` waits for past its deadline has no end.
-/

/-- How a worker thread ended. -/
inductive WorkerEnd where
  | ok
  | failed (error : Error)
  | panicked
deriving DecidableEq, Repr

/-- What joining a worker reports; a cancelled worker may end with one of the
cancellation errors. -/
def WorkerEnd.report (cancelled : Bool) (name : String) : WorkerEnd -> Option Error
  | .ok => none
  | .failed error => if cancelled && error.isCancellation then none else some error
  | .panicked => some (.element name "worker panicked")

/-- The error to return after one more report. -/
def collectError (first report : Option Error) : Option Error :=
  match report with
  | none => first
  | some error => selectError first error

/-- Join all workers of a node, the last one first. -/
def joinWorkers (cancelled : Bool) (name : String) (ends : Nat -> WorkerEnd)
    (workers : List Nat) : Except Error Unit :=
  match workers.reverse.foldl
      (fun first worker => collectError first ((ends worker).report cancelled name)) none with
  | none => .ok ()
  | some error => .error error

namespace RunningGraph

/-- The first error to fail a graph stays its root cause. -/
def setRootCause (graph : RunningGraph T) (error : Error) : RunningGraph T :=
  { graph with rootCause := some (graph.rootCause.getD error.toText) }

def setStatus (graph : RunningGraph T) (status : GraphStatus) : RunningGraph T :=
  { graph with status := status }

def requestStop (graph : RunningGraph T) : RunningGraph T :=
  { graph with
    status :=
      match graph.status with
      | .starting | .running | .reloading => .draining
      | .draining | .stopped | .failed => graph.status
    stop := true
    workers := graph.workers.map fun _ node => { node with stop := true } }

/-- Pop and join the workers of a node, given last one first, until one has
not ended when the deadline passes. -/
def drainWorkers (finished : Nat -> Option WorkerEnd) (name : String) :
    Option Error -> List Nat -> List Nat × Option Error × Bool
  | first, [] => ([], first, false)
  | first, worker :: workers =>
      match finished worker with
      | none => (worker :: workers, first, true)
      | some ending =>
          drainWorkers finished name (collectError first (ending.report true name)) workers

def shutdownNodes (finished : Nat -> Option WorkerEnd) :
    Option Error -> List (String × LiveNode) -> List (String × LiveNode) × Option Error × Bool
  | first, [] => ([], first, false)
  | first, (name, node) :: nodes =>
      match drainWorkers finished name first node.workers.reverse with
      | (left, first, true) =>
          ((name, { node with workers := left.reverse }) :: nodes, first, true)
      | (left, first, false) =>
          let (others, first, timedOut) := shutdownNodes finished first nodes
          ((name, { node with workers := left.reverse }) :: others, first, timedOut)

/-- Whether the deadline can be computed at all is the second argument. -/
def shutdown (finished : Nat -> Option WorkerEnd) (overflows : Bool) (graph : RunningGraph T) :
    RunningGraph T × Except Error Unit :=
  let graph := graph.requestStop
  if overflows then (graph, .error (.timeout "shutdown timeout overflowed"))
  else
    match shutdownNodes finished none graph.workers.toList with
    | (nodes, _, true) =>
        ({ graph with workers := Std.TreeMap.ofList nodes },
          .error (.timeout "shutdown timed out"))
    | (nodes, some error, false) =>
        (({ graph with workers := Std.TreeMap.ofList nodes }.setRootCause error).setStatus
          .failed, .error error)
    | (nodes, none, false) =>
        ({ graph with workers := Std.TreeMap.ofList nodes }.setStatus .stopped, .ok ())

/-- Join those workers of a node that have ended, and keep the others. -/
def pollWorkers (finished : Nat -> Option WorkerEnd) (name : String) :
    Option Error -> List Nat -> List Nat × Option Error
  | first, [] => ([], first)
  | first, worker :: workers =>
      match finished worker with
      | none =>
          let (left, first) := pollWorkers finished name first workers
          (worker :: left, first)
      | some ending =>
          pollWorkers finished name (collectError first (ending.report true name)) workers

def pollNodes (finished : Nat -> Option WorkerEnd) :
    Option Error -> List (String × LiveNode) -> List (String × LiveNode) × Option Error
  | first, [] => ([], first)
  | first, (name, node) :: nodes =>
      let (left, first) := pollWorkers finished name first node.workers
      let (others, first) := pollNodes finished first nodes
      ((name, { node with workers := left }) :: others, first)

def poll (finished : Nat -> Option WorkerEnd) (graph : RunningGraph T) :
    RunningGraph T × Except Error Unit :=
  if graph.status = .failed then
    (graph, .error (.runtime (graph.rootCause.getD "graph failed")))
  else
    match pollNodes finished none graph.workers.toList with
    | (nodes, some error) =>
        (({ graph with workers := Std.TreeMap.ofList nodes }.setRootCause error).setStatus
          .failed, .error error)
    | (nodes, none) =>
        if nodes.all fun entry => entry.2.workers.isEmpty then
          ({ graph with workers := Std.TreeMap.ofList nodes }.setStatus .stopped, .ok ())
        else ({ graph with workers := Std.TreeMap.ofList nodes }, .ok ())

/-! ## What they do to the status -/

/-- A graph that is to run no more: it was told to stop, or it has ended. -/
def Sealed (graph : RunningGraph T) : Prop :=
  graph.stop = true ∨ graph.status = .stopped ∨ graph.status = .failed

@[simp] theorem requestStop_stop (graph : RunningGraph T) : graph.requestStop.stop = true := rfl

theorem requestStop_status (graph : RunningGraph T) :
    graph.requestStop.status = .draining ∨
      (graph.requestStop.status = graph.status ∧
        (graph.status = .stopped ∨ graph.status = .failed)) := by
  unfold requestStop
  cases graph.status with
  | starting => exact Or.inl rfl
  | running => exact Or.inl rfl
  | reloading => exact Or.inl rfl
  | draining => exact Or.inl rfl
  | stopped => exact Or.inr ⟨rfl, Or.inl rfl⟩
  | failed => exact Or.inr ⟨rfl, Or.inr rfl⟩

/-- A shutdown leaves the status of the stop request, or the graph has failed
with an error, or all workers were joined without one. -/
theorem shutdown_status (finished : Nat -> Option WorkerEnd) (overflows : Bool)
    (graph : RunningGraph T) :
    (graph.shutdown finished overflows).1.stop = true ∧
      (((graph.shutdown finished overflows).1.status = graph.requestStop.status ∧
          (graph.shutdown finished overflows).2 ≠ .ok ()) ∨
        ((graph.shutdown finished overflows).1.status = .failed ∧
          (graph.shutdown finished overflows).2 ≠ .ok ()) ∨
        ((graph.shutdown finished overflows).1.status = .stopped ∧
          (graph.shutdown finished overflows).2 = .ok ())) := by
  unfold shutdown
  cases overflows with
  | true => exact ⟨rfl, Or.inl ⟨rfl, fun impossible => by cases impossible⟩⟩
  | false =>
      dsimp only
      rw [if_neg Bool.false_ne_true]
      split
      · exact ⟨rfl, Or.inl ⟨rfl, fun impossible => by cases impossible⟩⟩
      · exact ⟨rfl, Or.inr (Or.inl ⟨rfl, fun impossible => by cases impossible⟩)⟩
      · exact ⟨rfl, Or.inr (Or.inr ⟨rfl, rfl⟩)⟩

theorem poll_status (finished : Nat -> Option WorkerEnd) (graph : RunningGraph T) :
    (graph.poll finished).1.stop = graph.stop ∧
      ((graph.poll finished).1.status = graph.status ∨
        (graph.status ≠ .failed ∧ ((graph.poll finished).1.status = .failed ∨
          (graph.poll finished).1.status = .stopped))) := by
  unfold poll
  split
  · exact ⟨rfl, Or.inl rfl⟩
  · rename_i alive
    split
    · exact ⟨rfl, Or.inr ⟨alive, Or.inl rfl⟩⟩
    · split
      · exact ⟨rfl, Or.inr ⟨alive, Or.inr rfl⟩⟩
      · exact ⟨rfl, Or.inl rfl⟩

end RunningGraph
end Graph
end DyunGu
