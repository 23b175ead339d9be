import DyunGu.Capi.Engine

namespace DyunGu
namespace Capi
namespace Engine

open Core (ResourcePolicy u32Max)
open Graph

variable {E T : Type}

/-!
# The modes of an engine

An engine is bare, built, built with inputs that wait for a run, or running.
Every call checks the mode it finds and leaves one of these behind, whether it
succeeds or fails.
-/

/-- The inputs that wait for a one-shot run. -/
def pending (engine : Engine T) : List T := engine.pendingInputs.toList.flatMap Prod.snd

/-- The bytes of a tensor; more than any limit where they cannot be told. -/
def bytesOf (storageBytes : T -> Except Core.Error Nat) (tensor : T) : Nat :=
  (storageBytes tensor).toOption.getD Core.usizeMax

structure Mode (storageBytes : T -> Except Core.Error Nat) (engine : Engine T) : Prop where
  running : engine.running.isSome = true ->
    engine.graph.isSome = true ∧ engine.pendingInputs.isEmpty = true
  built : forall graph, engine.graph = some graph ->
    graph.spec = engine.spec ∧ graph.spec.limits.validate = .ok ()
  pendingBuilt : engine.pendingInputs.isEmpty = false -> engine.graph.isSome = true
  pendingNode : forall name : String, name ∈ engine.pendingInputs ->
    engine.inputNodeName = .ok name
  packets : engine.pending.length <= engine.spec.limits.maxBufferPackets
  bytes : (engine.pending.map (bytesOf storageBytes)).sum <= engine.spec.limits.maxBufferBytes

/-! ## Sums that stop at the largest number -/

theorem saturating_foldl (sizeOf : T -> Nat) (start : Nat) (items : List T) :
    items.foldl (fun total item => Core.saturatingAdd total (sizeOf item))
        (min start Core.usizeMax) =
      min (start + (items.map sizeOf).sum) Core.usizeMax := by
  induction items generalizing start with
  | nil => rfl
  | cons item items ih =>
      have first : Core.saturatingAdd (min start Core.usizeMax) (sizeOf item) =
          min (start + sizeOf item) Core.usizeMax := by
        unfold Core.saturatingAdd
        omega
      rw [List.foldl_cons, first, ih, List.map_cons, List.sum_cons, Nat.add_assoc]

theorem pendingTotals_eq (storageBytes : T -> Except Core.Error Nat) (engine : Engine T) :
    engine.pendingTotals storageBytes =
      (min engine.pending.length Core.usizeMax,
        min (engine.pending.map (bytesOf storageBytes)).sum Core.usizeMax) := by
  have loop : forall (entries : List (String × List T)) (packets bytes : Nat),
      entries.foldl
        (fun totals entry =>
          (Core.saturatingAdd totals.1 entry.2.length,
            Core.saturatingAdd totals.2 (entry.2.foldl
              (fun bytes tensor => Core.saturatingAdd bytes (bytesOf storageBytes tensor)) 0)))
        (min packets Core.usizeMax, min bytes Core.usizeMax) =
      (min (packets + (entries.flatMap Prod.snd).length) Core.usizeMax,
        min (bytes + ((entries.flatMap Prod.snd).map (bytesOf storageBytes)).sum)
          Core.usizeMax) := by
    intro entries
    induction entries with
    | nil => exact fun _ _ => rfl
    | cons entry entries ih =>
        intro packets bytes
        have inner := saturating_foldl (bytesOf storageBytes) 0 entry.2
        rw [Nat.zero_min, Nat.zero_add] at inner
        have moved : (Core.saturatingAdd (min packets Core.usizeMax) entry.2.length,
            Core.saturatingAdd (min bytes Core.usizeMax)
              (min (entry.2.map (bytesOf storageBytes)).sum Core.usizeMax)) =
            (min (packets + entry.2.length) Core.usizeMax,
              min (bytes + (entry.2.map (bytesOf storageBytes)).sum) Core.usizeMax) := by
          unfold Core.saturatingAdd
          rw [Prod.mk.injEq]
          omega
        rw [List.foldl_cons, inner, moved, ih, List.flatMap_cons, List.length_append,
          List.map_append, List.sum_append, Nat.add_assoc, Nat.add_assoc]
  have whole := loop engine.pendingInputs.toList 0 0
  rw [Nat.zero_min, Nat.zero_add, Nat.zero_add] at whole
  exact whole

/-! ## Changes that keep the mode -/

section Keep

variable {storageBytes : T -> Except Core.Error Nat} {engine after : Engine T}

/-- The mode does not depend on the outputs, the flag of the stream, or what
the running graph does. -/
theorem Mode.keep (mode : Mode storageBytes engine) (spec : after.spec = engine.spec)
    (graph : after.graph = engine.graph) (pending : after.pendingInputs = engine.pendingInputs)
    (running : after.running.isSome = true -> engine.running.isSome = true) :
    Mode storageBytes after := by
  have inputs : after.pending = engine.pending := by
    unfold Engine.pending
    rw [pending]
  have named : after.inputNodeName = engine.inputNodeName := by
    unfold inputNodeName
    rw [spec]
  constructor
  · rw [graph, pending]
    exact fun runs => mode.running (running runs)
  · rw [graph, spec]
    exact mode.built
  · rw [graph, pending]
    exact mode.pendingBuilt
  · rw [pending, named]
    exact mode.pendingNode
  · rw [inputs, spec]
    exact mode.packets
  · rw [inputs, spec]
    exact mode.bytes

theorem pending_of_isEmpty (empty : engine.pendingInputs.isEmpty = true) :
    engine.pending = [] := by
  rw [← Std.TreeMap.isEmpty_toList, List.isEmpty_iff] at empty
  unfold pending
  rw [empty]
  rfl

/-- An engine without inputs that wait. -/
theorem Mode.of_noInputs (empty : engine.pendingInputs.isEmpty = true)
    (running : engine.running.isSome = true -> engine.graph.isSome = true)
    (built : forall graph, engine.graph = some graph ->
      graph.spec = engine.spec ∧ graph.spec.limits.validate = .ok ()) :
    Mode storageBytes engine where
  running runs := ⟨running runs, empty⟩
  built := built
  pendingBuilt := fun waits => by
    rw [empty] at waits
    cases waits
  pendingNode := fun name member =>
    absurd member (Std.TreeMap.isEmpty_iff_forall_not_mem.mp empty name)
  packets := by
    rw [pending_of_isEmpty empty]
    exact Nat.zero_le _
  bytes := by
    rw [pending_of_isEmpty empty]
    exact Nat.zero_le _

theorem Mode.invalidate (engine : Engine T) : Mode storageBytes engine.invalidate :=
  Mode.of_noInputs rfl (fun impossible => by cases impossible)
    fun _ impossible => by cases impossible

theorem Mode.edit (mode : Mode storageBytes engine) (change : GraphSpec -> GraphSpec)
    (refusal : String) : Mode storageBytes (engine.edit change refusal).1 := by
  unfold Engine.edit
  split
  · exact mode
  · exact Mode.invalidate _

end Keep

/-! ## Building -/

theorem limits_of_check {registry : Registry} {policy : ResourcePolicy} {spec : GraphSpec}
    (checks : BuiltGraph.check registry policy spec = .ok ()) :
    spec.limits.validate = .ok () := by
  rcases Outcome.bind_ok checks with ⟨effective, granted, _⟩
  unfold RunningGraph.effectiveLimits at granted
  cases limits : policy.effectiveFor spec.limits with
  | error error =>
      rw [limits] at granted
      cases granted
  | ok given => exact (ResourcePolicy.effectiveFor_iff.mp limits).2.2

theorem built_of_new {registry : Registry} {policy : ResourcePolicy} {spec : GraphSpec}
    {graph : BuiltGraph}
    (built : BuiltGraph.newWithProcessPolicy registry spec policy = .ok graph) :
    graph.spec = spec ∧ graph.spec.limits.validate = .ok () := by
  rcases Outcome.bind_ok built with ⟨_, checks, made⟩
  cases made
  exact ⟨rfl, limits_of_check checks⟩

theorem built_of_reload {registry : Registry} {before graph : BuiltGraph} {spec : GraphSpec}
    {diff : GraphDiff} (reloaded : before.reload registry spec = .ok (graph, diff)) :
    graph.spec = spec ∧ graph.spec.limits.validate = .ok () := by
  rcases Outcome.bind_ok reloaded with ⟨_, checks, made⟩
  cases made
  exact ⟨rfl, limits_of_check checks⟩

section Calls

variable {storageBytes : T -> Except Core.Error Nat} {engine : Engine T}

theorem Mode.load (mode : Mode storageBytes engine) (registry : Registry)
    (parsed : Except Error GraphSpec) : Mode storageBytes (engine.load registry parsed).1 := by
  unfold Engine.load
  split
  · exact mode
  · split
    · exact mode
    · exact Mode.invalidate _

theorem Mode.build (mode : Mode storageBytes engine) (registry : Registry)
    (installed : ResourcePolicy) : Mode storageBytes (engine.build registry installed).1 := by
  unfold Engine.build
  split
  · exact mode
  · rename_i idle
    split
    · exact mode
    · rename_i graph made
      rcases Outcome.bind_ok made with ⟨_, _, built⟩
      have isBuilt := built_of_new built
      refine ⟨fun runs => absurd runs idle, ?_, fun _ => rfl, mode.pendingNode, mode.packets,
        mode.bytes⟩
      rintro other isGraph
      cases isGraph
      exact isBuilt

/-- Inputs that all wait for one node are one list. -/
theorem pending_insert {name : String} (only : forall key, key ∈ engine.pendingInputs -> key = name)
    (tensor : T) :
    ({ engine with
        pendingInputs := engine.pendingInputs.insert name
          (engine.pendingInputs.getD name [] ++ [tensor]) } : Engine T).pending =
      engine.pending ++ [tensor] := by
  have onlyAfter : forall key, key ∈ engine.pendingInputs.insert name
      (engine.pendingInputs.getD name [] ++ [tensor]) -> key = name := by
    intro key member
    rcases (OrderedMap.mem_insert _ _ _ _).mp member with same | old
    · exact same.symm
    · exact only key old
  unfold pending
  dsimp only
  rw [OrderedMap.toList_of_only onlyAfter, OrderedMap.toList_of_only only,
    Std.TreeMap.getElem?_insert_self, Std.TreeMap.getD_eq_getD_getElem?]
  cases engine.pendingInputs[name]? with
  | none => rfl
  | some tensors => simp only [Option.toList_some, List.map_singleton, List.flatMap_singleton,
      Option.getD_some]

/-- One more input for the only input node. -/
theorem Mode.push (mode : Mode storageBytes engine) (tensor : T) :
    Mode storageBytes (engine.push storageBytes tensor).1 := by
  unfold Engine.push
  split
  · exact mode
  · rename_i idle
    split
    · exact mode
    · rename_i hasGraph
      rw [Bool.not_eq_true, Option.isNone_eq_false_iff] at hasGraph
      split
      · exact mode
      · rename_i newBytes measured
        dsimp only
        rw [pendingTotals_eq]
        split
        · exact mode
        · rename_i packets
          split
          · exact mode
          · rename_i bytes
            split
            · exact mode
            · rename_i name named
              rcases Option.isSome_iff_exists.mp hasGraph with ⟨graph, isGraph⟩
              have only : forall key, key ∈ engine.pendingInputs -> key = name := by
                intro key member
                have same := mode.pendingNode key member
                rw [named] at same
                exact (Except.ok.inj same).symm
              have small := (ResourcePolicy.validate_iff.mp (mode.built graph isGraph).2).2
              rw [(mode.built graph isGraph).1] at small
              have fewPackets := small.bufferPackets
              have fewBytes := small.bufferBytes
              have large : u32Max < Core.usizeMax := by decide
              have inputs := pending_insert only tensor
              refine ⟨fun runs => absurd runs idle, mode.built, fun _ => hasGraph, ?_, ?_, ?_⟩
              · intro key member
                rcases (OrderedMap.mem_insert _ _ _ _).mp member with same | old
                · rw [← same]
                  exact named
                · exact mode.pendingNode key old
              · rw [inputs, List.length_append, List.length_singleton]
                show _ <= engine.spec.limits.maxBufferPackets
                unfold Core.saturatingAdd at packets
                dsimp only at fewPackets
                omega
              · rw [inputs, List.map_append, List.sum_append, List.map_singleton,
                  List.sum_singleton, bytesOf, measured]
                unfold Core.saturatingAdd at bytes
                dsimp only at fewBytes
                show _ + newBytes <= engine.spec.limits.maxBufferBytes
                omega

/-- A run that fails leaves the inputs that wait for it. -/
theorem run_failed {registry : Registry} {env : RunEnv E T} {error : Error}
    (failed : (engine.run registry storageBytes env).2 = .error error) :
    (engine.run registry storageBytes env).1.pendingInputs = engine.pendingInputs := by
  unfold Engine.run at failed ⊢
  split
  · rfl
  · rename_i idle
    rw [if_neg idle] at failed
    split
    · rfl
    · rename_i graph isGraph
      rw [isGraph] at failed
      dsimp only at failed ⊢
      split
      · rfl
      · rename_i sinks done
        rw [done] at failed
        cases failed

theorem Mode.run (mode : Mode storageBytes engine) (registry : Registry) (env : RunEnv E T) :
    Mode storageBytes (engine.run registry storageBytes env).1 := by
  unfold Engine.run
  split
  · exact mode
  · rename_i idle
    split
    · exact mode
    · dsimp only
      split
      · exact mode.keep rfl rfl rfl fun runs => runs
      · exact Mode.of_noInputs rfl (fun runs => absurd runs idle) mode.built

theorem Mode.init (mode : Mode storageBytes engine) (registry : Registry)
    (installed : ResourcePolicy) (env : StartEnv E T) :
    Mode storageBytes (engine.init registry storageBytes installed env).1 := by
  unfold Engine.init
  split
  · exact mode
  · rename_i idle
    split
    · exact mode
    · rename_i empty
      rw [Bool.not_eq_false] at empty
      dsimp only
      split
      · exact mode
      · rename_i graph made
        have isBuilt : graph.spec = engine.spec ∧ graph.spec.limits.validate = .ok () := by
          split at made
          · rename_i old isOld
            cases made
            exact mode.built _ isOld
          · rcases Outcome.bind_ok made with ⟨_, _, built⟩
            exact built_of_new built
        have built : forall other, some graph = some other ->
            other.spec = engine.spec ∧ other.spec.limits.validate = .ok () := by
          rintro other isGraph
          cases isGraph
          exact isBuilt
        split
        · exact Mode.of_noInputs empty (fun runs => absurd runs idle) built
        · exact Mode.of_noInputs empty (fun _ => rfl) built

theorem Mode.reloadRunning (mode : Mode storageBytes engine) (registry : Registry)
    (installed : ResourcePolicy) (env : RunningGraph.UpdateEnv E T) (running : RunningGraph T)
    (isRunning : engine.running = some running) (spec : GraphSpec) :
    Mode storageBytes (engine.reloadRunning registry installed env running spec).1 := by
  have runs : engine.running.isSome = true := isRunning ▸ rfl
  unfold Engine.reloadRunning
  split
  · exact mode.keep rfl rfl rfl fun _ => runs
  · dsimp only
    split
    · exact mode.keep rfl rfl rfl fun _ => runs
    · rename_i graph rebuilt
      have isBuilt : graph.spec = spec ∧ graph.spec.limits.validate = .ok () := by
        split at rebuilt
        · rename_i old isOld
          cases reloaded : old.reload registry spec with
          | error error =>
              rw [reloaded] at rebuilt
              cases rebuilt
          | ok pair =>
              rw [reloaded] at rebuilt
              cases rebuilt
              exact built_of_reload reloaded
        · exact built_of_new rebuilt
      refine Mode.of_noInputs (mode.running runs).2 (fun _ => rfl) ?_
      rintro other isGraph
      cases isGraph
      exact isBuilt

theorem Mode.reloadIdle (mode : Mode storageBytes engine)
    (empty : engine.pendingInputs.isEmpty = true) (isIdle : engine.running = none)
    (registry : Registry) (spec : GraphSpec) :
    Mode storageBytes (engine.reloadIdle registry spec).1 := by
  have idle : ¬ engine.running.isSome = true := by
    rw [isIdle]
    exact Bool.false_ne_true
  unfold Engine.reloadIdle
  split
  · split
    · exact mode
    · rename_i graph diff reloaded
      refine Mode.of_noInputs empty (fun runs => absurd runs idle) ?_
      rintro other isGraph
      cases isGraph
      exact built_of_reload reloaded
  · rename_i bare
    refine Mode.of_noInputs empty (fun runs => absurd runs idle) ?_
    intro graph isGraph
    rw [show engine.graph = some graph from isGraph] at bare
    cases bare

theorem Mode.reload (mode : Mode storageBytes engine) (registry : Registry)
    (installed : ResourcePolicy) (env : RunningGraph.UpdateEnv E T) (spec : GraphSpec) :
    Mode storageBytes (engine.reload registry installed env spec).1 := by
  unfold Engine.reload
  split
  · exact mode
  · rename_i empty
    rw [Bool.not_eq_false] at empty
    have reset : Mode storageBytes { engine with streamEnded := false } :=
      mode.keep rfl rfl rfl fun runs => runs
    dsimp only
    split
    · exact reset
    · split
      · rename_i running isRunning
        exact reset.reloadRunning registry installed env running isRunning spec
      · rename_i isIdle
        exact reset.reloadIdle empty isIdle registry spec

theorem Mode.shutdown (mode : Mode storageBytes engine) (finished : Nat -> Option WorkerEnd)
    (overflows : Bool) : Mode storageBytes (engine.shutdown finished overflows).1 := by
  unfold Engine.shutdown
  split
  · exact mode.keep rfl rfl rfl fun runs => runs
  · rename_i running isRunning
    split
    · exact mode.keep rfl rfl rfl fun _ => isRunning ▸ rfl
    · exact mode.keep rfl rfl rfl fun impossible => by cases impossible

theorem Mode.pollOutput (mode : Mode storageBytes engine) (finished : Nat -> Option WorkerEnd) :
    Mode storageBytes (engine.pollOutput finished).1 := by
  have refilled : Mode storageBytes (engine.refill finished).1 := by
    unfold Engine.refill
    split
    · exact mode
    · rename_i running isRunning
      exact mode.keep rfl rfl rfl fun _ => isRunning ▸ rfl
  unfold Engine.pollOutput
  split
  · rename_i after error isRefilled
    rw [isRefilled] at refilled
    exact refilled
  · rename_i after isRefilled
    rw [isRefilled] at refilled
    split
    · exact refilled.keep rfl rfl rfl fun runs => runs
    · exact refilled

/-- Every call keeps the mode. -/
theorem Mode.perform (mode : Mode storageBytes engine) (registry : Registry)
    (operation : Operation E T) :
    Mode storageBytes (engine.perform registry storageBytes operation) := by
  cases operation with
  | load parsed => exact mode.load registry parsed
  | addNode name kind params =>
      show Mode storageBytes (engine.addNode name kind params).1
      unfold Engine.addNode
      split
      · exact mode
      · exact mode.edit _ _
  | removeNode name => exact mode.edit _ _
  | connect connection =>
      show Mode storageBytes (engine.connect connection).1
      unfold Engine.connect
      split
      · exact mode
      · exact mode.edit _ _
  | disconnect connection => exact mode.edit _ _
  | build installed => exact mode.build registry installed
  | push tensor => exact mode.push tensor
  | run env => exact mode.run registry env
  | init installed env => exact mode.init registry installed env
  | reload installed env parsed =>
      show Mode storageBytes (engine.reloadFrom registry installed env parsed).1
      unfold Engine.reloadFrom
      split
      · exact mode
      · exact mode.reload registry installed env _
  | poll finished => exact mode.pollOutput finished
  | stop =>
      show Mode storageBytes engine.stop.1
      unfold Engine.stop
      split
      · exact mode
      · rename_i running isRunning
        exact mode.keep rfl rfl rfl fun _ => isRunning ▸ rfl
  | shutdown finished overflows => exact mode.shutdown finished overflows
  | collect name tensor =>
      refine mode.keep rfl rfl rfl fun runs => ?_
      change (engine.running.map _).isSome = true at runs
      rw [Option.isSome_map] at runs
      exact runs

end Calls

/-- In every state that an engine can reach, the mode holds, and a run that
fails leaves the inputs in place. -/
theorem reachable_mode (registry : Registry) (storageBytes : T -> Except Core.Error Nat)
    (operations : List (Operation E T)) (engine : Engine T)
    (reached : (machine registry storageBytes).run new operations = some engine) :
    Mode storageBytes engine ∧
      forall (env : RunEnv E T) (error : Error),
        (engine.run registry storageBytes env).2 = .error error ->
        (engine.run registry storageBytes env).1.pendingInputs = engine.pendingInputs := by
  refine ⟨?_, fun env error failed => run_failed failed⟩
  refine (machine registry storageBytes).run_invariant (Mode storageBytes) ?_ ?_
    ⟨operations, reached⟩
  · intro state operation next mode stepped
    cases stepped
    exact mode.perform registry operation
  · exact Mode.of_noInputs rfl (fun impossible => by cases impossible)
      fun _ impossible => by cases impossible

/-- A registry with an input and a sink. -/
def relayRegistry : Registry where
  elements :=
    [⟨"input", [], [⟨"out", none, false⟩], [], none⟩,
      ⟨"sink", [⟨"in", none, true⟩], [], [], none⟩]
  modelSourceSize := fun _ => .ok 0
  sourceOutputTensorBytes := fun _ => .ok 16
  mockInferenceOutputTensorBytes := fun _ => .ok 16

/-- What comes in goes out. -/
def relaySpec : GraphSpec :=
  { GraphSpec.default with
    nodes :=
      [⟨"in", "input", none, false, none, none, none, none, .null⟩,
       ⟨"out", "sink", none, true, none, none, none, none, .null⟩]
    connections := ["in.out -> out.in"] }

/-- A specification is loaded and built, and an input is pushed. -/
def relayOperations : List (Operation String Nat) :=
  [.load (.ok relaySpec), .build ResourcePolicy.default, .push 7]

theorem relay_mode :
    Exists fun engine => (machine relayRegistry fun _ : Nat => .ok 4).run new relayOperations =
      some engine ∧ engine.pending = [7] ∧ Mode (fun _ => .ok 4) engine := by
  have outcome : ((machine relayRegistry fun _ : Nat => .ok 4).run new relayOperations).map
      pending = some [7] := by
    decide +kernel
  rcases Option.map_eq_some_iff.mp outcome with ⟨engine, reached, inputs⟩
  exact ⟨engine, reached, inputs,
    (reachable_mode relayRegistry (fun _ => .ok 4) relayOperations engine reached).1⟩

end Engine
end Capi
end DyunGu
