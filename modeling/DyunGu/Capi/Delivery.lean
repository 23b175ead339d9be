import DyunGu.Capi.Polling
import DyunGu.Graph.Collectors

namespace DyunGu

open Core (ResourcePolicy)
open Graph

variable {E T : Type}

/-!
# Which poll returns a tensor

Tensors go from the collectors of the sinks to the queue of the engine and from
there to the caller.  Each tensor is marked with the sink that collects it and
with the number of those collected before, and a log keeps what was collected,
returned, and dropped by a reload or start that succeeded.
-/

namespace Graph.RunningGraph

/-- What the collector of a sink holds. -/
def row (graph : RunningGraph T) (sink : String) : List T :=
  (graph.sinks[sink]?.map SinkCollector.tensors).getD []

theorem row_eq_nil {graph : RunningGraph T} {sink : String}
    (empty : forall collector, graph.sinks[sink]? = some collector -> collector.tensors = []) :
    graph.row sink = [] := by
  unfold row
  cases found : graph.sinks[sink]? with
  | none => rfl
  | some collector => exact empty collector found

theorem row_congr {first second : RunningGraph T} (same : second.sinks = first.sinks)
    (sink : String) : second.row sink = first.row sink := by
  unfold row
  rw [same]

theorem row_drained (graph : RunningGraph T) (sink : String) :
    graph.drainSinks.1.row sink = [] := by
  apply row_eq_nil
  intro collector found
  change (graph.sinks.map fun _ collector => collector.drainTensors.1)[sink]? = _ at found
  rw [Std.TreeMap.getElem?_map] at found
  rcases Option.map_eq_some_iff.mp found with ⟨old, _, rfl⟩
  rfl

theorem row_collect {graph : RunningGraph T} {sink : String} (known : sink ∈ graph.sinks)
    (tensor : T) (other : String) :
    (graph.collect sink tensor).row other =
      if sink = other then graph.row other ++ [tensor] else graph.row other := by
  rcases (OrderedMap.mem_iff _ _).mp known with ⟨collector, found⟩
  unfold collect row
  rw [found]
  dsimp only
  rw [OrderedMap.getElem?_insert]
  by_cases same : sink = other
  · rw [if_pos same, if_pos same, ← same, found]
    rfl
  · rw [if_neg same, if_neg same]

end Graph.RunningGraph

namespace Capi

/-- A tensor with the sink that has collected it, and how many tensors were
collected before. -/
structure Mark (T : Type) where
  sink : String
  time : Nat
  tensor : T
deriving DecidableEq, Repr

/-- The tensors of one sink. -/
def Mark.on (sink : String) (marks : List (Mark T)) : List (Mark T) :=
  marks.filter fun mark => decide (mark.sink = sink)

namespace Engine

def row (engine : Engine T) (sink : String) : List T :=
  match engine.running with
  | none => []
  | some running => running.row sink

/-- All that the collectors hold. -/
def gathered (engine : Engine T) : List T :=
  match engine.running with
  | none => []
  | some running => running.drainSinks.2

/-- What a sink has collected and no poll has returned. -/
def waiting (engine : Engine (Mark T)) (sink : String) : List (Mark T) :=
  Mark.on sink engine.outputs ++ engine.row sink

end Engine

/-- The environment of a start, with empty sinks. -/
structure FreshStart (E T : Type) extends StartEnv E T where
  fresh : Creation.Fresh create

/-- The environment of an update, with empty sinks. -/
structure FreshUpdate (E T : Type) where
  env : RunningGraph.UpdateEnv E T
  fresh : env.Fresh

/-- The calls of a streaming session, and the sinks at work between them. -/
inductive Call (E T : Type) where
  | init (installed : ResourcePolicy) (env : FreshStart E (Mark T))
  | poll (finished : Nat -> Option WorkerEnd)
  | reload (installed : ResourcePolicy) (env : FreshUpdate E (Mark T))
      (parsed : Except Error GraphSpec)
  | stop
  | shutdown (finished : Nat -> Option WorkerEnd) (overflows : Bool)
  | collect (sink : String) (tensor : T)

structure Log (T : Type) where
  engine : Engine (Mark T)
  collected : List (Mark T)
  returned : List (Mark T)
  dropped : List (Mark T)

namespace Log

/-- The tensor that an answer gives. -/
def given : Except Error (EnginePollOutput T) -> List T
  | .ok (.tensor tensor) => [tensor]
  | .ok .pending | .ok .endOfStream | .error _ => []

/-- What a reload that succeeds drops: the queue, and of the collectors of the
nodes it touches those that it removes or replaces. -/
def droppedBy (before after : Engine (Mark T)) (diff : GraphDiff) : List (Mark T) :=
  before.outputs ++ before.gathered.filter fun mark =>
    decide (RunningGraph.Touched diff mark.sink ∧
      mark.time ∉ (after.row mark.sink).map Mark.time)

variable (registry : Registry) (storageBytes : T -> Except Core.Error Nat)

def step (log : Log T) : Call E T -> Option (Log T)
  | .init installed env =>
      let (engine, answer) := log.engine.init registry (fun mark => storageBytes mark.tensor)
        installed env.toStartEnv
      some { log with
        engine := engine
        dropped :=
          match answer with
          | .ok () => log.dropped ++ log.engine.outputs
          | .error _ => log.dropped }
  | .poll finished =>
      let (engine, answer) := log.engine.pollOutput finished
      some { log with engine := engine, returned := log.returned ++ given answer }
  | .reload installed env parsed =>
      let (engine, answer) := log.engine.reloadFrom registry installed env.env parsed
      some { log with
        engine := engine
        dropped :=
          match answer with
          | .ok diff => log.dropped ++ droppedBy log.engine engine diff
          | .error _ => log.dropped }
  | .stop => some { log with engine := log.engine.stop.1 }
  | .shutdown finished overflows =>
      some { log with engine := (log.engine.shutdown finished overflows).1 }
  | .collect sink tensor =>
      match log.engine.running with
      | none => none
      | some running =>
          if sink ∈ running.sinks then
            let mark : Mark T := ⟨sink, log.collected.length, tensor⟩
            some { log with
              engine := log.engine.collect sink mark
              collected := log.collected ++ [mark] }
          else none

def machine : Machine (Log T) (Call E T) := ⟨step registry storageBytes⟩

/-- A reload that fails loses nothing that was collected, and a shutdown that
ends the session finds the collectors empty. -/
def Spares (log : Log T) : Call E T -> Prop
  | .reload installed env parsed =>
      (Exists fun error =>
        (log.engine.reloadFrom registry installed env.env parsed).2 = .error error) ->
      forall sink mark, mark ∈ log.engine.row sink ->
        mark ∈ (log.engine.reloadFrom registry installed env.env parsed).1.row sink
  | .shutdown finished overflows =>
      (log.engine.shutdown finished overflows).1.running = none ->
      forall sink, log.engine.row sink = []
  | .init .. | .poll _ | .stop | .collect .. => True

/-- Each tensor that the sink has collected was returned once, waits, or was
dropped; those that were returned and those that wait are in order; and when a
poll says that the stream has ended, none waits. -/
structure Delivered (log : Log T) (sink : String) : Prop where
  distinct : (Mark.on sink log.collected).Pairwise fun early late => early.time < late.time
  once : (Mark.on sink log.returned ++ log.engine.waiting sink ++ Mark.on sink log.dropped).Perm
    (Mark.on sink log.collected)
  ordered : (Mark.on sink log.returned ++ log.engine.waiting sink).Pairwise
    fun early late => early.time < late.time
  inTime : forall finished, (log.engine.pollOutput finished).2 = .ok .endOfStream ->
    log.engine.waiting sink = []

end Log

theorem Mark.on_append (sink : String) (first second : List (Mark T)) :
    Mark.on sink (first ++ second) = Mark.on sink first ++ Mark.on sink second :=
  List.filter_append ..

namespace Engine

/-- Every collector holds tensors of its own sink. -/
def Own (engine : Engine (Mark T)) : Prop :=
  forall sink mark, mark ∈ engine.row sink -> mark.sink = sink

variable {engine : Engine (Mark T)}

theorem on_gathered (own : engine.Own) (sink : String) :
    Mark.on sink engine.gathered = engine.row sink := by
  unfold Own at own
  unfold gathered row at *
  cases isRunning : engine.running with
  | none => rfl
  | some running =>
      rw [isRunning] at own
      refine OrderedMap.filter_flatMap running.sinks SinkCollector.tensors Mark.sink ?_ sink
      intro name collector found mark member
      refine own name mark ?_
      show mark ∈ running.row name
      unfold RunningGraph.row
      rw [found]
      exact member

/-! ## Polling -/

/-- After the first part of a poll all that waits is in the queue. -/
theorem refill_waiting (own : engine.Own) (finished : Nat -> Option WorkerEnd) (sink : String) :
    (engine.refill finished).1.row sink = [] ∧
      Mark.on sink (engine.refill finished).1.outputs = engine.waiting sink := by
  have gathers := on_gathered own sink
  unfold refill waiting
  cases isRunning : engine.running with
  | none =>
      have none_ : engine.row sink = [] := by
        unfold row
        rw [isRunning]
      rw [none_, List.append_nil]
      exact ⟨rfl, rfl⟩
  | some running =>
      dsimp only
      refine ⟨(running.poll finished).1.row_drained sink, ?_⟩
      rw [Mark.on_append, ← gathers]
      unfold gathered
      rw [isRunning]
      unfold RunningGraph.drainSinks
      rw [running.poll_sinks finished]

/-- A poll returns what waits first in the queue, and leaves the rest. -/
theorem pollOutput_waiting (own : engine.Own) (finished : Nat -> Option WorkerEnd)
    (sink : String) :
    (engine.pollOutput finished).1.row sink = [] ∧
      engine.waiting sink = Mark.on sink (Log.given (engine.pollOutput finished).2) ++
        (engine.pollOutput finished).1.waiting sink := by
  rcases refill_waiting own finished sink with ⟨empty, queue⟩
  unfold pollOutput
  rcases refilled : engine.refill finished with ⟨after, answer⟩
  rw [refilled] at empty queue
  dsimp only at empty queue
  have rest : after.waiting sink = engine.waiting sink := by
    rw [waiting, empty, List.append_nil, queue]
  cases answer with
  | error error => exact ⟨empty, rest.symm⟩
  | ok done =>
      dsimp only
      cases outputs : after.outputs with
      | cons tensor others =>
          refine ⟨empty, ?_⟩
          rw [← rest, waiting, outputs, ← List.singleton_append, Mark.on_append,
            List.append_assoc]
          rfl
      | nil =>
          have silent : Log.given after.emptyAnswer = [] := by
            unfold emptyAnswer
            dsimp only
            split
            · split <;> rfl
            · split
              · rfl
              · rfl
              all_goals split <;> rfl
          refine ⟨empty, ?_⟩
          show _ = Mark.on sink (Log.given after.emptyAnswer) ++ after.waiting sink
          rw [silent, rest]
          rfl

/-- Nothing waits when a poll says that the stream has ended. -/
theorem waiting_of_ended (own : engine.Own) {finished : Nat -> Option WorkerEnd}
    (ended : (engine.pollOutput finished).2 = .ok .endOfStream) (sink : String) :
    engine.waiting sink = [] := by
  rcases refill_waiting own finished sink with ⟨empty, queue⟩
  unfold pollOutput at ended
  rcases refilled : engine.refill finished with ⟨after, answer⟩
  rw [refilled] at queue ended
  dsimp only at queue
  cases answer with
  | error error => cases ended
  | ok done =>
      dsimp only at ended
      cases outputs : after.outputs with
      | cons tensor others =>
          rw [outputs] at ended
          cases ended
      | nil =>
          rw [← queue, outputs]
          rfl

/-! ## Starting and reloading -/

/-- Nothing is in the collectors while no graph runs. -/
theorem row_idle {engine : Engine T} (idle : engine.running = none) (sink : String) :
    engine.row sink = [] := by
  unfold row
  rw [idle]

/-- A start that succeeds clears the queue, and its sinks are empty. -/
theorem init_started {registry : Registry} {storageBytes : T -> Except Core.Error Nat}
    {installed : ResourcePolicy} {env : StartEnv E T} {engine : Engine T}
    (fresh : Creation.Fresh env.create)
    (succeeds : (engine.init registry storageBytes installed env).2 = .ok ()) :
    engine.running = none ∧
      (engine.init registry storageBytes installed env).1.outputs = [] ∧
      forall sink, (engine.init registry storageBytes installed env).1.row sink = [] := by
  unfold init at succeeds ⊢
  split at succeeds
  · cases succeeds
  · rename_i idle
    rw [if_neg idle]
    split at succeeds
    · cases succeeds
    · rename_i empty
      rw [if_neg empty]
      dsimp only at succeeds ⊢
      split at succeeds
      · cases succeeds
      · rename_i graph built
        split at succeeds
        · cases succeeds
        · rename_i running starts
          refine ⟨Option.not_isSome_iff_eq_none.mp idle, rfl, fun sink => ?_⟩
          apply RunningGraph.row_eq_nil
          intro collector found
          rcases Outcome.bind_ok (Outcome.mapError_ok starts) with ⟨⟨runtime, sinks⟩, builds, runs⟩
          exact RuntimeGraph.started_empty fresh builds runs found

/-- A shutdown that keeps the running graph keeps the collectors. -/
theorem shutdown_row {engine : Engine T} {finished : Nat -> Option WorkerEnd} {overflows : Bool}
    {kept : RunningGraph T} (keeps : (engine.shutdown finished overflows).1.running = some kept)
    (sink : String) :
    (engine.shutdown finished overflows).1.row sink = engine.row sink := by
  unfold row
  rw [keeps]
  unfold shutdown at keeps
  cases isRunning : engine.running with
  | none =>
      rw [isRunning] at keeps
      cases keeps
  | some running =>
      have same := running.shutdown_sinks finished overflows
      rw [isRunning] at keeps
      dsimp only at keeps
      rcases answered : running.shutdown finished overflows with ⟨after, answer⟩
      rw [answered] at keeps same
      cases answer with
      | ok done => cases keeps
      | error error =>
          dsimp only at keeps
          split at keeps
          · cases keeps
            exact RunningGraph.row_congr same sink
          · cases keeps

/-- What a reload does to the queue and the collectors. -/
structure Rearranges (before : Engine T) (result : Engine T × Except Error GraphDiff) : Prop where
  failed : forall error, result.2 = .error error -> result.1.outputs = before.outputs
  succeeded : forall diff, result.2 = .ok diff -> result.1.outputs = []
  rows : forall sink, result.1.row sink = before.row sink ∨
    result.1.row sink = [] ∧ forall diff, result.2 = .ok diff -> RunningGraph.Touched diff sink

theorem Rearranges.refused {before after : Engine T} (error : Error)
    (outputs : after.outputs = before.outputs) (running : after.running = before.running) :
    Rearranges before (after, .error error) where
  failed := fun _ _ => outputs
  succeeded := fun _ impossible => by cases impossible
  rows := fun sink => by
    left
    show after.row sink = before.row sink
    unfold row
    rw [running]

theorem Rearranges.reloadRunning (registry : Registry) (installed : ResourcePolicy)
    {env : RunningGraph.UpdateEnv E T} (fresh : env.Fresh) {engine : Engine T}
    {running : RunningGraph T} (isRunning : engine.running = some running) (spec : GraphSpec) :
    Rearranges engine (engine.reloadRunning registry installed env running spec) := by
  have renews := RunningGraph.applyHotUpdateSpec_renews registry fresh running spec
  have isDiff := @RunningGraph.applyHotUpdateSpec_diff E T registry env running spec
  have before : forall sink, engine.row sink = running.row sink := by
    intro sink
    unfold row
    rw [isRunning]
  unfold Engine.reloadRunning
  rcases updated : running.applyHotUpdateSpec registry env spec with ⟨after, answer⟩
  rw [updated] at renews isDiff
  have rows : forall sink, after.row sink = engine.row sink ∨
      after.row sink = [] ∧
        RunningGraph.Touched (GraphSpec.diff running.spec spec) sink := by
    intro sink
    rw [before]
    rcases renews sink with same | ⟨touched, empty⟩
    · left
      unfold RunningGraph.row
      rw [same]
    · exact Or.inr ⟨RunningGraph.row_eq_nil empty, touched⟩
  have kept : forall error, Rearranges engine
      (({ engine with running := some after } : Engine T), .error error) := by
    intro error
    refine ⟨fun _ _ => rfl, fun _ impossible => (by cases impossible), fun sink => ?_⟩
    rcases rows sink with same | ⟨empty, _⟩
    · exact Or.inl same
    · exact Or.inr ⟨empty, fun _ impossible => by cases impossible⟩
  cases answer with
  | error error => exact kept error
  | ok diff =>
      dsimp only
      split
      · exact kept _
      · refine ⟨fun _ impossible => (by cases impossible), fun _ _ => rfl, fun sink => ?_⟩
        rcases rows sink with same | ⟨empty, touched⟩
        · exact Or.inl same
        · refine Or.inr ⟨empty, ?_⟩
          rintro other isOther
          cases isOther
          rw [isDiff rfl]
          exact touched

theorem Rearranges.reloadIdle (registry : Registry) (engine : Engine T) (spec : GraphSpec) :
    Rearranges engine (engine.reloadIdle registry spec) := by
  have cleared : forall (graph : Option BuiltGraph) (diff : GraphDiff), Rearranges engine
      (({ engine with graph := graph, spec := spec, outputs := [] } : Engine T), .ok diff) := by
    intro graph diff
    exact ⟨fun _ impossible => (by cases impossible), fun _ _ => rfl, fun _ => Or.inl rfl⟩
  unfold Engine.reloadIdle
  split
  · split
    · exact Rearranges.refused _ rfl rfl
    · exact cleared _ _
  · exact cleared _ _

theorem Rearranges.reloadFrom (registry : Registry) (installed : ResourcePolicy)
    {env : RunningGraph.UpdateEnv E T} (fresh : env.Fresh) (engine : Engine T)
    (parsed : Except Error GraphSpec) :
    Rearranges engine (engine.reloadFrom registry installed env parsed) := by
  unfold Engine.reloadFrom
  split
  · exact Rearranges.refused _ rfl rfl
  · rename_i spec _
    unfold Engine.reload
    split
    · exact Rearranges.refused _ rfl rfl
    · dsimp only
      split
      · exact Rearranges.refused _ rfl rfl
      · split
        · rename_i running isRunning
          have result := Rearranges.reloadRunning registry installed fresh
            (show ({ engine with streamEnded := false } : Engine T).running = some running
              from isRunning) spec
          exact ⟨result.failed, result.succeeded, result.rows⟩
        · have result := Rearranges.reloadIdle registry { engine with streamEnded := false } spec
          exact ⟨result.failed, result.succeeded, result.rows⟩

end Engine

/-! ## The invariant -/

namespace Log

structure Tracked (log : Log T) : Prop where
  clock : log.collected.map Mark.time = List.range log.collected.length
  own : log.engine.Own
  shared : forall sink,
    (Mark.on sink log.returned ++ log.engine.waiting sink ++ Mark.on sink log.dropped).Perm
      (Mark.on sink log.collected)
  ordered : forall sink, (Mark.on sink log.returned ++ log.engine.waiting sink).Pairwise
    fun early late => early.time < late.time

section Dropped

variable {before after : Engine (Mark T)} {sink : String}

theorem on_droppedBy (own : before.Own) (after : Engine (Mark T)) (diff : GraphDiff)
    (sink : String) :
    Mark.on sink (droppedBy before after diff) =
      Mark.on sink before.outputs ++ (before.row sink).filter fun mark =>
        decide (RunningGraph.Touched diff mark.sink ∧
          mark.time ∉ (after.row mark.sink).map Mark.time) := by
  rw [droppedBy, Mark.on_append, ← Engine.on_gathered own sink]
  unfold Mark.on
  rw [List.filter_filter, List.filter_filter]
  simp only [Bool.and_comm]

/-- A collector that stays loses only what the queue holds of it. -/
theorem on_droppedBy_same (own : before.Own) (same : after.row sink = before.row sink)
    (diff : GraphDiff) :
    Mark.on sink (droppedBy before after diff) = Mark.on sink before.outputs := by
  rw [on_droppedBy own, List.filter_eq_nil_iff.mpr, List.append_nil]
  intro mark member gone
  rw [decide_eq_true_eq, own sink mark member, same] at gone
  exact gone.2 (List.mem_map_of_mem member)

theorem on_droppedBy_touched (own : before.Own) (empty : after.row sink = [])
    {diff : GraphDiff} (touched : RunningGraph.Touched diff sink) :
    Mark.on sink (droppedBy before after diff) = before.waiting sink := by
  rw [on_droppedBy own, List.filter_eq_self.mpr]
  · rfl
  · intro mark member
    rw [decide_eq_true_eq, own sink mark member, empty]
    exact ⟨touched, List.not_mem_nil⟩

end Dropped

namespace Tracked

variable {log : Log T} {engine : Engine (Mark T)}

/-- A step that leaves the queue and the collectors. -/
theorem keep (tracked : Tracked log) (outputs : engine.outputs = log.engine.outputs)
    (rows : forall sink, engine.row sink = log.engine.row sink) :
    Tracked { log with engine := engine } := by
  have waits : forall sink, engine.waiting sink = log.engine.waiting sink := by
    intro sink
    unfold Engine.waiting
    rw [outputs, rows]
  refine ⟨tracked.clock, ?_, ?_, ?_⟩
  · intro sink mark member
    rw [rows] at member
    exact tracked.own sink mark member
  · intro sink
    rw [waits]
    exact tracked.shared sink
  · intro sink
    rw [waits]
    exact tracked.ordered sink

/-- A step that drops some of what waits. -/
theorem drop (tracked : Tracked log) {lost : List (Mark T)} (own : engine.Own)
    (fewer : forall sink, (engine.waiting sink).Sublist (log.engine.waiting sink))
    (shares : forall sink, (engine.waiting sink ++ Mark.on sink lost).Perm
      (log.engine.waiting sink)) :
    Tracked { log with engine := engine, dropped := log.dropped ++ lost } := by
  refine ⟨tracked.clock, own, fun sink => ?_, fun sink => ?_⟩
  · refine List.Perm.trans ?_ (tracked.shared sink)
    dsimp only
    rw [Mark.on_append, List.append_assoc, List.append_assoc]
    refine List.Perm.append_left _ ?_
    calc engine.waiting sink ++ (Mark.on sink log.dropped ++ Mark.on sink lost)
      _ |>.Perm (engine.waiting sink ++ (Mark.on sink lost ++ Mark.on sink log.dropped)) :=
          List.Perm.append_left _ List.perm_append_comm
      _ |>.Perm (engine.waiting sink ++ Mark.on sink lost ++ Mark.on sink log.dropped) := by
          rw [List.append_assoc]
      _ |>.Perm (log.engine.waiting sink ++ Mark.on sink log.dropped) :=
          List.Perm.append_right _ (shares sink)
  · exact (tracked.ordered sink).sublist (List.Sublist.append_left (fewer sink) _)

variable {registry : Registry} {storageBytes : T -> Except Core.Error Nat} {next : Log T}

theorem init (tracked : Tracked log) {installed : ResourcePolicy} {env : FreshStart E (Mark T)}
    (stepped : log.step registry storageBytes (.init installed env) = some next) :
    Tracked next := by
  have failed := @Engine.init_failed E (Mark T) registry (fun mark => storageBytes mark.tensor)
    log.engine installed env.toStartEnv
  have started := @Engine.init_started E (Mark T) registry (fun mark => storageBytes mark.tensor)
    installed env.toStartEnv log.engine env.fresh
  rw [step] at stepped
  rcases answered : log.engine.init registry (fun mark => storageBytes mark.tensor) installed
    env.toStartEnv with ⟨after, answer⟩
  rw [answered] at stepped failed started
  cases answer with
  | error error =>
      have isNext := Option.some.inj stepped
      subst isNext
      rcases failed (fun impossible => by cases impossible) with ⟨graph, same⟩
      dsimp only at same
      rw [same]
      exact tracked.keep rfl fun _ => rfl
  | ok done =>
      have isNext := Option.some.inj stepped
      subst isNext
      rcases started rfl with ⟨idle, cleared, empty⟩
      dsimp only at cleared empty
      have nothing : forall sink, after.waiting sink = [] := by
        intro sink
        unfold Engine.waiting
        rw [cleared, empty]
        rfl
      refine tracked.drop ?_ (fun sink => ?_) fun sink => ?_
      · intro sink mark member
        rw [empty] at member
        cases member
      · rw [nothing]
        exact List.nil_sublist _
      · rw [nothing, List.nil_append, Engine.waiting, Engine.row_idle idle, List.append_nil]

theorem poll (tracked : Tracked log) {finished : Nat -> Option WorkerEnd}
    (stepped : log.step (E := E) registry storageBytes (.poll finished) = some next) :
    Tracked next := by
  have waits := Engine.pollOutput_waiting tracked.own finished
  rw [step] at stepped
  rcases answered : log.engine.pollOutput finished with ⟨after, answer⟩
  rw [answered] at stepped waits
  have isNext := Option.some.inj stepped
  subst isNext
  have moved : forall sink, Mark.on sink (log.returned ++ given answer) ++ after.waiting sink =
      Mark.on sink log.returned ++ log.engine.waiting sink := by
    intro sink
    rw [(waits sink).2, Mark.on_append, List.append_assoc]
  refine ⟨tracked.clock, ?_, fun sink => ?_, fun sink => ?_⟩
  · intro sink mark member
    rw [(waits sink).1] at member
    cases member
  · rw [moved]
    exact tracked.shared sink
  · rw [moved]
    exact tracked.ordered sink

theorem reload (tracked : Tracked log) {installed : ResourcePolicy}
    {env : FreshUpdate E (Mark T)} {parsed : Except Error GraphSpec}
    (spares : log.Spares registry (.reload installed env parsed))
    (stepped : log.step registry storageBytes (.reload installed env parsed) = some next) :
    Tracked next := by
  have rearranges := Engine.Rearranges.reloadFrom registry installed env.fresh log.engine parsed
  rw [Spares] at spares
  rw [step] at stepped
  rcases answered : log.engine.reloadFrom registry installed env.env parsed with ⟨after, answer⟩
  rw [answered] at stepped spares rearranges
  cases answer with
  | error error =>
      have isNext := Option.some.inj stepped
      subst isNext
      refine tracked.keep (rearranges.failed error rfl) fun sink => ?_
      rcases rearranges.rows sink with same | ⟨empty, _⟩
      · exact same
      · dsimp only at empty spares
        rw [empty]
        refine (List.eq_nil_iff_forall_not_mem.mpr fun mark member => ?_).symm
        have kept := spares ⟨error, rfl⟩ sink mark member
        rw [empty] at kept
        cases kept
  | ok diff =>
      have isNext := Option.some.inj stepped
      subst isNext
      have cleared : after.outputs = [] := rearranges.succeeded diff rfl
      have rows : forall sink, after.waiting sink = after.row sink := by
        intro sink
        unfold Engine.waiting
        rw [cleared]
        rfl
      -- What is dropped of a collector is nothing or all of it.
      have lost : forall sink, after.row sink = log.engine.row sink ∧
            Mark.on sink (droppedBy log.engine after diff) = Mark.on sink log.engine.outputs ∨
          after.row sink = [] ∧
            Mark.on sink (droppedBy log.engine after diff) = log.engine.waiting sink := by
        intro sink
        rcases rearranges.rows sink with same | ⟨empty, touched⟩
        · exact .inl ⟨same, on_droppedBy_same tracked.own same diff⟩
        · exact .inr ⟨empty, on_droppedBy_touched tracked.own empty (touched diff rfl)⟩
      refine tracked.drop ?_ (fun sink => ?_) fun sink => ?_
      · intro sink mark member
        rcases lost sink with ⟨same, _⟩ | ⟨empty, _⟩
        · rw [same] at member
          exact tracked.own sink mark member
        · rw [empty] at member
          cases member
      · rw [rows]
        rcases lost sink with ⟨same, _⟩ | ⟨empty, _⟩
        · rw [same]
          exact List.sublist_append_right _ _
        · rw [empty]
          exact List.nil_sublist _
      · rw [rows]
        rcases lost sink with ⟨same, dropped⟩ | ⟨empty, dropped⟩
        · rw [same, dropped]
          exact List.perm_append_comm
        · rw [empty, dropped]
          exact List.Perm.refl _

theorem stop (tracked : Tracked log)
    (stepped : log.step (E := E) registry storageBytes .stop = some next) : Tracked next := by
  rw [step] at stepped
  have isNext := Option.some.inj stepped
  subst isNext
  unfold Engine.stop
  cases isRunning : log.engine.running with
  | none => exact tracked
  | some running =>
      refine tracked.keep rfl fun sink => ?_
      unfold Engine.row
      rw [isRunning]
      exact RunningGraph.row_congr running.requestStop_sinks sink

theorem shutdown (tracked : Tracked log) {finished : Nat -> Option WorkerEnd} {overflows : Bool}
    (spares : log.Spares (E := E) registry (.shutdown finished overflows))
    (stepped : log.step (E := E) registry storageBytes (.shutdown finished overflows) =
      some next) : Tracked next := by
  rw [Spares] at spares
  rw [step] at stepped
  have isNext := Option.some.inj stepped
  subst isNext
  have outputs : (log.engine.shutdown finished overflows).1.outputs = log.engine.outputs := by
    unfold Engine.shutdown
    split
    · rfl
    · split
      · rfl
      · rfl
  refine tracked.keep outputs fun sink => ?_
  cases ended : (log.engine.shutdown finished overflows).1.running with
  | none => rw [spares ended, Engine.row_idle ended]
  | some kept => exact Engine.shutdown_row ended sink

/-- What was returned and what waits was collected before. -/
theorem earlier (tracked : Tracked log) {sink : String} {mark : Mark T}
    (member : mark ∈ Mark.on sink log.returned ++ log.engine.waiting sink) :
    mark.time < log.collected.length := by
  have isCollected : mark ∈ Mark.on sink log.collected :=
    (tracked.shared sink).mem_iff.mp (List.mem_append_left _ member)
  have time := List.mem_map_of_mem (f := Mark.time) (List.mem_filter.mp isCollected).1
  rw [tracked.clock] at time
  exact List.mem_range.mp time

/-- A new tensor comes last in the collector of its sink. -/
theorem collected (tracked : Tracked log) {running : RunningGraph (Mark T)}
    (isRunning : log.engine.running = some running) {sink : String}
    (known : sink ∈ running.sinks) (tensor : T) :
    Tracked { log with
      engine := log.engine.collect sink ⟨sink, log.collected.length, tensor⟩
      collected := log.collected ++ [⟨sink, log.collected.length, tensor⟩] } := by
  have rows : forall other,
      (log.engine.collect sink ⟨sink, log.collected.length, tensor⟩).row other =
        if sink = other then
          log.engine.row other ++ [⟨sink, log.collected.length, tensor⟩]
        else log.engine.row other := by
    intro other
    unfold Engine.collect Engine.row
    rw [isRunning]
    exact RunningGraph.row_collect known _ other
  have waits : forall other,
      (log.engine.collect sink ⟨sink, log.collected.length, tensor⟩).waiting other =
        log.engine.waiting other ++ Mark.on other [⟨sink, log.collected.length, tensor⟩] := by
    intro other
    show Mark.on other log.engine.outputs ++ _ = _
    rw [rows]
    unfold Engine.waiting Mark.on
    by_cases same : sink = other
    · rw [if_pos same, List.filter_singleton, decide_eq_true same, List.append_assoc]
      rfl
    · rw [if_neg same, List.filter_singleton, decide_eq_false same]
      exact (List.append_nil _).symm
  refine ⟨?_, ?_, fun other => ?_, fun other => ?_⟩
  · rw [List.map_append, tracked.clock, List.length_append, List.length_singleton,
      List.range_succ]
    rfl
  · intro other mark member
    change mark ∈ (log.engine.collect sink ⟨sink, log.collected.length, tensor⟩).row other at member
    rw [rows] at member
    by_cases same : sink = other
    · rw [if_pos same] at member
      rcases List.mem_append.mp member with old | isNew
      · exact tracked.own other mark old
      · rw [List.mem_singleton.mp isNew]
        exact same
    · rw [if_neg same] at member
      exact tracked.own other mark member
  · dsimp only
    rw [waits, Mark.on_append]
    refine List.Perm.trans ?_ (List.Perm.append_right _ (tracked.shared other))
    simp only [List.append_assoc]
    refine List.Perm.append_left _ (List.Perm.append_left _ List.perm_append_comm)
  · dsimp only
    rw [waits, ← List.append_assoc, List.pairwise_append]
    refine ⟨tracked.ordered other, ?_, ?_⟩
    · exact List.Pairwise.sublist List.filter_sublist (List.pairwise_singleton _ _)
    · intro early isEarly late isLate
      have isNew := List.mem_singleton.mp (List.mem_filter.mp isLate).1
      rw [isNew]
      exact tracked.earlier isEarly

theorem collect (tracked : Tracked log) {sink : String} {tensor : T}
    (stepped : log.step (E := E) registry storageBytes (.collect sink tensor) = some next) :
    Tracked next := by
  rw [step] at stepped
  cases isRunning : log.engine.running with
  | none =>
      rw [isRunning] at stepped
      cases stepped
  | some running =>
      rw [isRunning] at stepped
      dsimp only at stepped
      by_cases known : sink ∈ running.sinks
      · rw [if_pos known] at stepped
        have isNext := Option.some.inj stepped
        subst isNext
        exact tracked.collected isRunning known tensor
      · rw [if_neg known] at stepped
        cases stepped

/-- Every step keeps the log. -/
theorem performed (tracked : Tracked log) {call : Call E T} (spares : log.Spares registry call)
    (stepped : log.step registry storageBytes call = some next) : Tracked next := by
  cases call with
  | init installed env => exact tracked.init stepped
  | poll finished => exact tracked.poll stepped
  | reload installed env parsed => exact tracked.reload spares stepped
  | stop => exact tracked.stop stepped
  | shutdown finished overflows => exact tracked.shutdown spares stepped
  | collect sink tensor => exact tracked.collect stepped

theorem delivered (tracked : Tracked log) (sink : String) : Delivered log sink where
  distinct := by
    have ordered : log.collected.Pairwise fun early late => early.time < late.time := by
      rw [← List.pairwise_map (f := Mark.time) (R := (· < ·)), tracked.clock]
      exact List.pairwise_lt_range
    exact ordered.sublist List.filter_sublist
  once := tracked.shared sink
  ordered := tracked.ordered sink
  inTime := fun _ ended => Engine.waiting_of_ended tracked.own ended sink

end Tracked

/-- The log of an engine at whose sinks nothing was collected yet. -/
def start (engine : Engine (Mark T)) : Log T := ⟨engine, [], [], []⟩

/-- In every run in which failing reloads and shutdowns spare what is in the
collectors, each tensor is returned once and in order, still waits, or was
dropped by a reload or a start that succeeded, and none waits when a poll says
that the stream has ended. -/
theorem delivered_once (registry : Registry) (storageBytes : T -> Except Core.Error Nat)
    (engine : Engine (Mark T)) (idle : engine.running = none) (empty : engine.outputs = [])
    (calls : List (Call E T)) (log : Log T)
    (spares : (machine registry storageBytes).Meets (Spares registry) (start engine) calls)
    (reached : (machine registry storageBytes).run (start engine) calls = some log)
    (sink : String) : Delivered log sink := by
  refine Tracked.delivered ?_ sink
  refine (machine registry storageBytes).run_invariant_of_meets Tracked
    (fun _ _ _ tracked spares stepped => tracked.performed spares stepped) ?_ spares reached
  have nothing : forall sink, engine.waiting sink = [] := by
    intro sink
    unfold Engine.waiting
    rw [empty, Engine.row_idle idle]
    rfl
  refine ⟨rfl, ?_, fun sink => ?_, fun sink => ?_⟩
  · intro sink mark member
    rw [show (start engine).engine.row sink = _ from Engine.row_idle idle sink] at member
    cases member
  · show (Mark.on sink [] ++ engine.waiting sink ++ Mark.on sink []).Perm (Mark.on sink [])
    rw [nothing]
    exact List.Perm.refl _
  · show (Mark.on sink [] ++ engine.waiting sink).Pairwise _
    rw [nothing]
    exact List.Pairwise.nil

/-! ## The camera graph -/

/-- The elements of the camera graph, for marked tensors. -/
def markedCreation : Creation String (Mark Nat) := fun node _ =>
  .ok ⟨node.kind, if node.kind = "sink" then .sink ⟨[], 0, 0⟩ else .none⟩

theorem markedCreation_fresh : Creation.Fresh markedCreation := by
  intro node index created collector creates isSink
  cases creates
  dsimp only at isSink
  split at isSink
  · cases isSink
    rfl
  · cases isSink

def markedStart : FreshStart String (Mark Nat) :=
  ⟨⟨markedCreation, fun _ _ => none⟩, markedCreation_fresh⟩

def markedUpdate : FreshUpdate String (Mark Nat) where
  env :=
    { prepare := markedCreation
      ends := fun _ => .ok
      restore := markedCreation
      restoreSpawn := fun _ _ => none
      spawn := fun _ _ => none
      drain := fun _ => .ok ()
      afterPrepare := false
      afterQuiesce := false
      afterSwitch := false }
  fresh := ⟨markedCreation_fresh, markedCreation_fresh⟩

/-- An engine with the specification of the camera graph. -/
def cameraEngine : Engine (Mark Nat) := { Engine.new with spec := RuntimeGraph.cameraSpec }

/-- The store collects two tensors and one is polled; then the session times
out once, and what is no specification is not reloaded. -/
def storeCalls : List (Call String Nat) :=
  [.init ResourcePolicy.default markedStart, .collect "store" 7, .collect "store" 8,
    .poll fun _ => none, .stop, .shutdown (fun _ => none) true,
    .reload ResourcePolicy.default markedUpdate (.error (.json "no specification")),
    .poll fun _ => none]

theorem store_delivered :
    Exists fun log =>
      (machine RuntimeGraph.cameraRegistry fun _ : Nat => .ok 4).run (start cameraEngine)
        storeCalls = some log ∧ log.returned = [⟨"store", 0, 7⟩, ⟨"store", 1, 8⟩] ∧
      Delivered log "store" := by
  have outcome : ((machine RuntimeGraph.cameraRegistry fun _ : Nat => .ok 4).run
      (start cameraEngine) storeCalls).map returned =
        some [⟨"store", 0, 7⟩, ⟨"store", 1, 8⟩] := by
    decide +kernel
  rcases Option.map_eq_some_iff.mp outcome with ⟨log, reached, returned⟩
  refine ⟨log, reached, returned, ?_⟩
  refine delivered_once RuntimeGraph.cameraRegistry (fun _ => .ok 4) cameraEngine rfl rfl
    storeCalls log ?_ reached "store"
  have late : forall log : Log Nat, log.Spares (E := String) RuntimeGraph.cameraRegistry
      (.shutdown (fun _ => none) true) := by
    intro log ended sink
    refine Engine.row_idle ?_ sink
    cases isRunning : log.engine.running with
    | none => rfl
    | some running =>
        unfold Engine.shutdown at ended
        rw [isRunning] at ended
        cases ended
  exact ⟨trivial, fun _ _ => ⟨trivial, fun _ _ => ⟨trivial, fun _ _ => ⟨trivial, fun _ _ =>
    ⟨trivial, fun _ _ => ⟨late _, fun _ _ => ⟨fun _ _ _ member => member, fun _ _ =>
      ⟨trivial, fun _ _ => trivial⟩⟩⟩⟩⟩⟩⟩⟩

/-- The same specification is reloaded while the second tensor is in the
queue, and the session ends. -/
def reloadCalls : List (Call String Nat) :=
  [.init ResourcePolicy.default markedStart, .collect "store" 7, .collect "store" 8,
    .poll fun _ => none,
    .reload ResourcePolicy.default markedUpdate (.ok RuntimeGraph.cameraSpec),
    .shutdown (fun _ => some .ok) false]

/-- The stream has ended, and the second tensor was not returned. -/
theorem reload_drops_queue :
    Exists fun log =>
      (machine RuntimeGraph.cameraRegistry fun _ : Nat => .ok 4).run (start cameraEngine)
        reloadCalls = some log ∧
      (log.engine.pollOutput fun _ => none).2.toOption = some .endOfStream ∧
      Mark.mk "store" 1 8 ∈ log.collected ∧ Mark.mk "store" 1 8 ∉ log.returned := by
  have outcome : ((machine RuntimeGraph.cameraRegistry fun _ : Nat => .ok 4).run
      (start cameraEngine) reloadCalls).map (fun log =>
        ((log.engine.pollOutput fun _ => none).2.toOption, log.collected, log.returned)) =
          some (some .endOfStream, [⟨"store", 0, 7⟩, ⟨"store", 1, 8⟩], [⟨"store", 0, 7⟩]) := by
    decide +kernel
  rcases Option.map_eq_some_iff.mp outcome with ⟨log, reached, facts⟩
  rw [Prod.mk.injEq, Prod.mk.injEq] at facts
  rcases facts with ⟨ended, collected, returned⟩
  refine ⟨log, reached, ended, ?_, ?_⟩
  · rw [collected]
    exact List.mem_cons_of_mem _ List.mem_cons_self
  · rw [returned]
    decide

end Log
end Capi
end DyunGu
