import DyunGu.Capi.Modes

namespace DyunGu

open Core (ResourcePolicy)
open Graph

variable {E T : Type}

/-!
# Reloads that fail

A reload that fails before the running graph has accepted the candidate is to
change nothing.  It looks at the inputs that wait first, but it takes back that
the stream has ended before it looks at the candidate.
-/

namespace Graph.RunningGraph

/-! ## A failed update keeps the specification -/

theorem launch_spec (spawn : Spawning) (policy : ResourcePolicy) (connections : List String)
    (graph : RunningGraph T) (name : String) (prepared : PreparedNode E T) :
    (launch spawn policy connections graph name prepared).1.spec = graph.spec := by
  unfold launch
  split
  · rfl
  · split
    · rfl
    · rfl

theorem rollBack_spec (registry : Registry) (env : UpdateEnv E T) (graph : RunningGraph T)
    (joined : List String) (error unrestored : Error) :
    (rollBack registry env graph joined error unrestored).1.spec = graph.spec :=
  rollBack_relates (fun before after => after.spec = before.spec) (fun _ => rfl)
    (fun _ _ _ first second => second.trans first) (fun _ _ => rfl) registry env graph
    (fun _ _ _ _ _ _ _ _ => launch_spec _ _ _ _ _ _) error unrestored

theorem spawnPrepared_spec (env : UpdateEnv E T) (plan : Plan E T) (candidate : GraphSpec)
    (graph : RunningGraph T) (nodes : List NodeSpec) :
    (spawnPrepared env plan candidate graph nodes).1.spec = graph.spec :=
  spawnPrepared_relates (fun before after => after.spec = before.spec) (fun _ => rfl)
    (fun _ _ _ first second => second.trans first) env plan candidate
    (fun _ _ _ _ _ => launch_spec _ _ _ _ _ _) graph nodes

/-- The specification of a result that is an error. -/
def KeepsSpec (graph : RunningGraph T) (result : RunningGraph T × Except Error Unit) : Prop :=
  (Exists fun error => result.2 = .error error) -> result.1.spec = graph.spec

theorem switchAndSpawn_spec (env : UpdateEnv E T) (plan : Plan E T) (candidate : GraphSpec)
    (graph : RunningGraph T) : KeepsSpec graph (switchAndSpawn env plan candidate graph) := by
  unfold switchAndSpawn
  split
  · exact fun _ => rfl
  · rename_i switch _
    dsimp only
    split
    · exact fun _ => rfl
    · have spawned := spawnPrepared_spec env plan candidate
        { graph with
          routes := switchedRoutes switch.edges candidate.connections
          nextPipe := switch.nextPipe } candidate.nodes
      split
      · rename_i after error isSpawned
        rw [isSpawned] at spawned
        exact fun _ => spawned
      · rename_i after isSpawned
        rw [isSpawned] at spawned
        split
        · exact fun _ => spawned
        · rintro ⟨error, impossible⟩
          cases impossible

theorem reload_spec (registry : Registry) (env : UpdateEnv E T) (graph : RunningGraph T)
    (diff : GraphDiff) (candidate : GraphSpec) :
    KeepsSpec graph (graph.reload registry env diff candidate) := by
  have applied : KeepsSpec graph (applyHotUpdateCandidate registry env
      (graph.setStatus .reloading) diff candidate) := by
    unfold applyHotUpdateCandidate
    split
    · exact fun _ => rfl
    · dsimp only
      split
      · exact fun _ => rollBack_spec registry env _ _ _ _
      · split
        · exact fun _ => rollBack_spec registry env _ _ _ _
        · exact switchAndSpawn_spec env _ candidate _
  unfold reload
  split
  · rintro ⟨error, impossible⟩
    cases impossible
  · rename_i after error isApplied
    rw [isApplied] at applied
    split
    · exact applied
    · exact fun _ => applied ⟨error, rfl⟩

theorem applyHotUpdateSpec_spec {registry : Registry} {env : UpdateEnv E T}
    {graph after : RunningGraph T} {new : GraphSpec} {error : Error}
    (failed : graph.applyHotUpdateSpec registry env new = (after, .error error)) :
    after.spec = graph.spec := by
  unfold applyHotUpdateSpec at failed
  dsimp only at failed
  split at failed
  · cases failed
  · split at failed
    · cases failed
      rfl
    · split at failed
      · cases failed
        rfl
      · split at failed
        · cases failed
        · have reloaded := reload_spec registry env graph (GraphSpec.diff graph.spec new) new
          split at failed
          · cases failed
          · rename_i isReloaded
            cases failed
            rw [isReloaded] at reloaded
            exact reloaded ⟨error, rfl⟩

end Graph.RunningGraph

namespace Capi
namespace Engine

/-! ## What a failed reload changes -/

/-- The running graph has taken the candidate. -/
def Accepts (registry : Registry) (env : RunningGraph.UpdateEnv E T) (engine : Engine T)
    (spec : GraphSpec) : Prop :=
  Exists fun running => engine.running = some running ∧
    Exists fun diff => (running.applyHotUpdateSpec registry env spec).2 = .ok diff

/-- All that a reload is to leave as it was.  A poll is asked at the same
running graph before and after. -/
structure Unchanged (before after : Engine T) : Prop where
  spec : after.spec = before.spec
  graph : after.graph = before.graph
  running : after.running.map RunningGraph.spec = before.running.map RunningGraph.spec
  outputs : after.outputs = before.outputs
  pendingInputs : after.pendingInputs = before.pendingInputs
  streamEnded : after.streamEnded = before.streamEnded
  polls : forall (running : Option (RunningGraph T)) (finished : Nat -> Option WorkerEnd),
    (pollOutput finished { after with running := running }).2 =
      (pollOutput finished { before with running := running }).2

/-- A reload that fails in time changes at most the running graph, and takes
back that the stream has ended. -/
theorem reload_failed {registry : Registry} {installed : ResourcePolicy}
    {env : RunningGraph.UpdateEnv E T} {engine : Engine T} {spec : GraphSpec} {error : Error}
    (failed : (engine.reload registry installed env spec).2 = .error error)
    (early : ¬ engine.Accepts registry env spec) :
    Exists fun running => running.map RunningGraph.spec = engine.running.map RunningGraph.spec ∧
      (engine.reload registry installed env spec).1 =
        { engine with
          running := running
          streamEnded :=
            if engine.pendingInputs.isEmpty = false then engine.streamEnded else false } := by
  unfold reload at failed ⊢
  by_cases waiting : engine.pendingInputs.isEmpty = false
  · rw [if_pos waiting, if_pos waiting]
    exact ⟨engine.running, rfl, rfl⟩
  · rw [if_neg waiting] at failed ⊢
    rw [if_neg waiting]
    dsimp only at failed ⊢
    split
    · exact ⟨engine.running, rfl, rfl⟩
    · rename_i valid
      rw [valid] at failed
      dsimp only at failed
      split
      · rename_i running isRunning
        rw [isRunning] at failed
        dsimp only at failed
        unfold reloadRunning at failed ⊢
        split
        · rename_i after raised updated
          refine ⟨some after, ?_, rfl⟩
          rw [isRunning, Option.map_some, Option.map_some,
            RunningGraph.applyHotUpdateSpec_spec updated]
        · rename_i after diff updated
          exact absurd ⟨running, isRunning, diff, by rw [updated]⟩ early
      · rename_i isIdle
        rw [isIdle] at failed
        dsimp only at failed
        unfold reloadIdle at failed ⊢
        dsimp only at failed ⊢
        split
        · rename_i graph isGraph
          rw [isGraph] at failed
          dsimp only at failed
          split
          · exact ⟨engine.running, rfl, rfl⟩
          · rename_i isReloaded
            rw [isReloaded] at failed
            cases failed
        · rename_i bare
          rw [bare] at failed
          cases failed

def twoNodes : ResourcePolicy := { ResourcePolicy.default with maxNodes := 2 }

/-- The relay within its limits. -/
def smallRelay : GraphSpec := { relaySpec with limits := twoNodes }

/-- The relay is built and shut down, so that its stream has ended. -/
def endedOperations : List (Operation String Nat) :=
  [.load (.ok smallRelay), .build twoNodes, .shutdown (fun _ => none) false]

/-- The relay is built and no more. -/
def builtOperations : List (Operation String Nat) := [.load (.ok smallRelay), .build twoNodes]

def relayUpdate : RunningGraph.UpdateEnv String Nat := RunningGraph.cameraEnv .ok false

end Engine
end Capi
end DyunGu
