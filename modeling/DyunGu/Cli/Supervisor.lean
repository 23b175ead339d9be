import DyunGu.Graph.RootCause
import DyunGu.Lib.Machine
import DyunGu.Lib.Saturation

namespace DyunGu
namespace Cli

open Graph

variable {E T : Type}

/-!
# The supervisor of a graph

The command line runs a graph under a loop that takes one event at a time: a
signal, a reload of the watched file, or, when nothing came for a while, a poll
of the graph.  A second thread answers health requests out of a record that the
loop writes.  The loop ends with an exit code, or with an error of printing.
-/

/-! ## What the health requests see -/

/-- Of the metrics of an element only this is read here. -/
structure ElementMetricsSnapshot where
  reconnecting : Bool

abbrev ElementMetrics := Std.TreeMap String ElementMetricsSnapshot

def statusText : GraphStatus -> String
  | .starting => "Starting"
  | .running => "Running"
  | .draining => "Draining"
  | .stopped => "Stopped"
  | .failed => "Failed"
  | .reloading => "Reloading"

/-- Shared snapshot of graph state exposed by the ops server. -/
structure OpsState where
  status : GraphStatus
  rootCause : Option String
  elementMetrics : ElementMetrics
  ready : Bool
  readyReason : Option String
  reloadAttemptsTotal : Nat
  reloadSuccessTotal : Nat
  reloadRejectedTotal : Nat
  /-- Lowered when the server is asked to stop or has left its loop. -/
  supervisorHealthy : Bool

namespace OpsState

def initial : OpsState where
  status := .starting
  rootCause := none
  elementMetrics := {}
  ready := false
  readyReason := some "graph is starting"
  reloadAttemptsTotal := 0
  reloadSuccessTotal := 0
  reloadRejectedTotal := 0
  supervisorHealthy := true

def reconnecting (metrics : ElementMetrics) : Bool :=
  metrics.toList.any fun entry => entry.2.reconnecting

def isLive (ops : OpsState) : Bool := ops.supervisorHealthy

def isReady (ops : OpsState) : Bool :=
  ops.ready && decide (ops.status = .running) && ops.rootCause.isNone && ops.supervisorHealthy &&
    !reconnecting ops.elementMetrics

def readReadyReason (ops : OpsState) : String :=
  match ops.readyReason with
  | some reason => reason
  | none => ops.rootCause.getD ("graph status is " ++ statusText ops.status)

/-- The status code and the text that `/readyz` answers. -/
def readyzResponse (ops : OpsState) : Nat × String :=
  if ops.isReady then (200, "ready\n") else (503, ops.readReadyReason)

def livezResponse (ops : OpsState) : Nat × String :=
  if ops.isLive then (200, "ok\n") else (503, "not live\n")

def updateOpsState (ops : OpsState) (status : GraphStatus) (rootCause : Option String)
    (metrics : ElementMetrics) : OpsState :=
  let ready := decide (status = .running) && !reconnecting metrics
  { ops with
    status := status
    rootCause := rootCause
    elementMetrics := metrics
    ready := ready
    readyReason :=
      if ready then none
      else if reconnecting metrics then some "stream element is connecting or reconnecting"
      else if status = .reloading then some "graph configuration is reloading"
      else some (rootCause.getD ("graph status is " ++ statusText status)) }

/-- The counters are unsigned numbers of 64 bits that saturate. -/
def counted (total : Nat) : Nat := Saturation.satAdd (UInt64.size - 1) total 1

def recordReloadAttempt (ops : OpsState) : OpsState :=
  { ops with reloadAttemptsTotal := counted ops.reloadAttemptsTotal }

def recordReloadSuccess (ops : OpsState) : OpsState :=
  { ops with reloadSuccessTotal := counted ops.reloadSuccessTotal }

def recordReloadRejected (ops : OpsState) : OpsState :=
  { ops with reloadRejectedTotal := counted ops.reloadRejectedTotal }

end OpsState

/-! ## The loop -/

/-- What the loop takes next, with what its environment answers.  In all of
them `report` is what collecting and printing the final report gives, and
`printed` what printing the changes gives. -/
inductive Event (E T : Type) where
  | signal (finished : Nat -> Option WorkerEnd) (overflows : Bool) (ends : Nat -> WorkerEnd)
      (report : Except Error Unit)
  | reload (env : RunningGraph.UpdateEnv E T) (spec : GraphSpec) (diff : GraphDiff)
      (printed : Except Error Unit)
  | refused (error : Error)
  /-- No event came in time, so the graph is polled. -/
  | timeout (finished : Nat -> Option WorkerEnd) (metrics : ElementMetrics)
      (ends : Nat -> WorkerEnd) (report : Except Error Unit)
  | disconnected
  /-- The thread of the server leaves its loop. -/
  | serverEnds

structure Supervisor (T : Type) where
  running : Option (RunningGraph T)
  ops : OpsState
  /-- The exit code, once the loop has ended. -/
  result : Option (Except Error Nat)

namespace Supervisor

def start (graph : RunningGraph T) : Supervisor T := ⟨some graph, .initial, none⟩

/-- Leave the loop, whereupon the server is stopped. -/
def leave (state : Supervisor T) (result : Except Error Nat) : Supervisor T :=
  { state with
    ops := { state.ops with supervisorHealthy := false }
    result := some result }

def exitCode (shutdown : Except Error Unit) (finished : Except Error Unit) : Except Error Nat :=
  match shutdown with
  | .ok () => finished.map fun _ => 0
  | .error (.timeout _) => .ok 4
  | .error _ => .ok 3

/-- A signal ends the loop.  Without a graph it breaks, here and below. -/
def takeSignal (state : Supervisor T) (finished : Nat -> Option WorkerEnd) (overflows : Bool)
    (ends : Nat -> WorkerEnd) (report : Except Error Unit) : Supervisor T :=
  let state := { state with ops := state.ops.updateOpsState .draining none {} }
  match state.running with
  | none => state.leave (.ok 0)
  | some graph =>
      let (graph, answer) := graph.requestStop.shutdown finished overflows
      { state with running := none }.leave (exitCode answer (graph.finishReport ends report))

def takeReload (registry : Registry) (state : Supervisor T)
    (env : RunningGraph.UpdateEnv E T) (spec : GraphSpec) (diff : GraphDiff)
    (printed : Except Error Unit) : Supervisor T :=
  match state.running with
  | none => state.leave (.ok 0)
  | some graph =>
      let ops := state.ops.recordReloadAttempt
      match graph.applyHotUpdateSpec registry env spec with
      | (graph, .ok applied) =>
          let state := ⟨some graph, ops.recordReloadSuccess, none⟩
          if applied.isEmpty && diff.isEmpty then state
          else
            match printed with
            | .ok () => state
            | .error error => state.leave (.error error)
      | (graph, .error _) => ⟨some graph, ops.recordReloadRejected, none⟩

def takeTimeout (state : Supervisor T) (finished : Nat -> Option WorkerEnd)
    (metrics : ElementMetrics) (ends : Nat -> WorkerEnd) (report : Except Error Unit) :
    Supervisor T :=
  match state.running with
  | none => state.leave (.ok 0)
  | some graph =>
      match graph.poll finished with
      | (graph, .ok ()) =>
          let ops := state.ops.updateOpsState graph.status graph.rootCause metrics
          if graph.status = .stopped then
            leave ⟨none, ops, none⟩ ((graph.finishReport ends report).map fun _ => 0)
          else ⟨some graph, ops, none⟩
      | (graph, .error error) =>
          leave ⟨some graph, state.ops.updateOpsState .failed (some error.toText) {}, none⟩ (.ok 3)

def take (registry : Registry) (state : Supervisor T) : Event E T -> Supervisor T
  | .signal finished overflows ends report => state.takeSignal finished overflows ends report
  | .reload env spec diff printed => state.takeReload registry env spec diff printed
  | .refused _ => { state with ops := state.ops.recordReloadAttempt.recordReloadRejected }
  | .timeout finished metrics ends report => state.takeTimeout finished metrics ends report
  | .disconnected => state.leave (.ok 3)
  | .serverEnds => { state with ops := { state.ops with supervisorHealthy := false } }

def machine (registry : Registry) : Machine (Supervisor T) (Event E T) where
  step state event := if state.result.isSome then none else some (state.take registry event)

/-! ## What the loop holds -/

/-- The graph was found failed after one of the events. -/
def HasFailed (registry : Registry) (graph : RunningGraph T) (events : List (Event E T)) : Prop :=
  Exists fun before => Exists fun after => Exists fun state => Exists fun held =>
    events = before ++ after ∧ (machine registry).run (start graph) before = some state ∧
      state.running = some held ∧ held.status = .failed

/-- What is so while the loop goes on: it holds a graph that runs or has failed,
and the graph has a root cause if it ever failed. -/
structure GoesOn (registry : Registry) (graph : RunningGraph T) (events : List (Event E T))
    (state : Supervisor T) (held : RunningGraph T) : Prop where
  holds : state.running = some held
  unended : state.result = none
  status : held.status = .running ∨ held.status = .failed
  cause : held.rootCause.isSome = true <-> HasFailed registry graph events

section Step

variable {registry : Registry} {graph held : RunningGraph T} {events : List (Event E T)}
  {state next : Supervisor T} {event : Event E T}

/-- A step is the loop taking an event before it has ended. -/
theorem step_iff : (machine registry).step state event = some next <->
    state.result = none ∧ next = state.take registry event := by
  change (if state.result.isSome = true then none else some (state.take registry event)) = _ <-> _
  cases state.result with
  | none => exact ⟨fun stepped => ⟨rfl, (Option.some.inj stepped).symm⟩, fun both => both.2 ▸ rfl⟩
  | some result => exact ⟨fun stepped => (by cases stepped), fun both => (by cases both.1)⟩

theorem hasFailed_concat (reached : (machine registry).run (start graph) (events ++ [event]) =
    some next) :
    HasFailed registry graph (events ++ [event]) <->
      HasFailed registry graph events ∨
        Exists fun after => next.running = some after ∧ after.status = .failed := by
  constructor
  · rintro ⟨before, rest, state, held, split, early, holds, failed⟩
    rcases List.eq_nil_or_concat rest with rfl | ⟨others, last, rfl⟩
    · rw [List.append_nil] at split
      rw [← split, reached] at early
      cases early
      exact Or.inr ⟨held, holds, failed⟩
    · rw [List.concat_eq_append, ← List.append_assoc] at split
      exact Or.inl ⟨before, others, state, held, (List.append_inj' split rfl).1, early, holds,
        failed⟩
  · rintro (⟨before, rest, state, held, rfl, early, holds, failed⟩ | ⟨after, holds, failed⟩)
    · exact ⟨before, rest ++ [event], state, held, List.append_assoc .., early, holds, failed⟩
    · exact ⟨events ++ [event], [], next, after, (List.append_nil _).symm, reached, holds, failed⟩

/-- The graph that the loop holds after an event carries on the one before. -/
theorem take_carries (holds : state.running = some held)
    (goesOn : (state.take registry event).result = none) :
    Exists fun after => (state.take registry event).running = some after ∧
      held.Carries after := by
  have same : held.Carries held := Or.inl ⟨rfl, Or.inl rfl⟩
  cases event with
  | signal finished overflows ends report =>
      change (state.takeSignal finished overflows ends report).result = none at goesOn
      unfold takeSignal at goesOn
      dsimp only at goesOn
      rw [holds] at goesOn
      cases goesOn
  | reload env spec diff printed =>
      have carries : held.Carries (held.applyHotUpdateSpec registry env spec).1 :=
        held.hotUpdate_carries registry env (.whole spec)
      change (state.takeReload registry env spec diff printed).result = none at goesOn
      change Exists fun after => (state.takeReload registry env spec diff printed).running =
        some after ∧ _
      unfold takeReload at goesOn ⊢
      rw [holds] at goesOn ⊢
      dsimp only at goesOn ⊢
      rcases updated : held.applyHotUpdateSpec registry env spec with ⟨after, refused | applied⟩
      · rw [updated] at carries
        exact ⟨after, rfl, carries⟩
      · rw [updated] at carries goesOn
        dsimp only at goesOn ⊢
        split
        · exact ⟨after, rfl, carries⟩
        · rename_i changed
          rw [if_neg changed] at goesOn
          cases printed with
          | ok printed => exact ⟨after, rfl, carries⟩
          | error error => cases goesOn
  | refused error => exact ⟨held, holds, same⟩
  | timeout finished metrics ends report =>
      change (state.takeTimeout finished metrics ends report).result = none at goesOn
      change Exists fun after => (state.takeTimeout finished metrics ends report).running =
        some after ∧ _
      unfold takeTimeout at goesOn ⊢
      rw [holds] at goesOn ⊢
      dsimp only at goesOn ⊢
      have ok := @RunningGraph.poll_ok _ finished held
      rcases polled : held.poll finished with ⟨after, error | ⟨⟩⟩
      · rw [polled] at goesOn
        cases goesOn
      · rw [polled] at goesOn ok
        rcases ok rfl with ⟨_, cause, status⟩
        dsimp only at goesOn ⊢
        split
        · rename_i stopped
          rw [if_pos stopped] at goesOn
          cases goesOn
        · rename_i alive
          exact ⟨after, rfl, Or.inl ⟨cause, Or.inl (status.resolve_right alive)⟩⟩
  | disconnected => cases goesOn
  | serverEnds => exact ⟨held, holds, same⟩

/-- The loop holds a graph as long as it goes on. -/
theorem GoesOn.take (goes : GoesOn registry graph events state held)
    (reached : (machine registry).run (start graph) events = some state)
    (goesOn : (state.take registry event).result = none) :
    Exists fun after =>
      GoesOn registry graph (events ++ [event]) (state.take registry event) after := by
  rcases take_carries goes.holds goesOn with ⟨after, holds, carries⟩
  have runs : (machine registry).run (start graph) (events ++ [event]) =
      some (state.take registry event) :=
    Machine.run_concat_iff _ |>.mpr ⟨state, reached, step_iff.mpr ⟨goes.unended, rfl⟩⟩
  have failed := hasFailed_concat runs
  rw [holds] at failed
  refine ⟨after, holds, goesOn, ?_, ?_⟩
  · rcases carries with ⟨_, same | running⟩ | ⟨failed, _⟩
    · exact same ▸ goes.status
    · exact Or.inl running
    · exact Or.inr failed
  · rw [failed]
    constructor
    · intro caused
      rcases carries with ⟨cause, _⟩ | ⟨fails, _⟩
      · exact Or.inl (goes.cause.mp (cause ▸ caused))
      · exact Or.inr ⟨after, rfl, fails⟩
    · rintro (before | ⟨_, isAfter, fails⟩)
      · rcases carries with ⟨cause, _⟩ | ⟨_, cause, isCause⟩
        · rw [cause]
          exact goes.cause.mpr before
        · rw [isCause]
          rfl
      · cases isAfter
        rcases carries with ⟨cause, same | running⟩ | ⟨_, cause, isCause⟩
        · rw [cause]
          exact goes.cause.mpr ⟨events, [], state, held, (List.append_nil _).symm, reached,
            goes.holds, same.symm.trans fails⟩
        · cases running.symm.trans fails
        · rw [isCause]
          rfl

end Step

theorem goesOn_run {registry : Registry} {graph : RunningGraph T}
    (running : graph.status = .running) (fresh : graph.rootCause = none)
    {events : List (Event E T)} {state : Supervisor T}
    (reached : (machine registry).run (start graph) events = some state)
    (goesOn : state.result = none) :
    Exists fun held => GoesOn registry graph events state held := by
  refine Machine.run_history (machine registry)
    (fun events (state : Supervisor T) => state.result = none ->
      Exists fun held => GoesOn registry graph events state held) ?_ ?_ reached goesOn
  · intro events event state next early goes stepped goesOn
    rcases step_iff.mp stepped with ⟨unended, rfl⟩
    rcases goes unended with ⟨held, holds⟩
    exact holds.take early goesOn
  · intro _
    refine ⟨graph, rfl, rfl, Or.inl running, ?_⟩
    rw [fresh]
    constructor
    · intro impossible
      cases impossible
    · rintro ⟨before, after, state, held, split, early, holds, failed⟩
      rcases List.nil_eq_append_iff.mp split with ⟨rfl, rfl⟩
      cases early
      cases holds
      cases running.symm.trans failed

/-! ## When the supervisor is ready -/

/-- The events after which the record shows another status. -/
def refreshes : Event E T -> Bool
  | .signal _ _ _ _ | .timeout _ _ _ _ => true
  | .reload _ _ _ _ | .refused _ | .disconnected | .serverEnds => false

/-- After these events a poll finds a graph that runs, of which no element
reconnects and which has never failed. -/
def Shows (registry : Registry) (graph : RunningGraph T) (before : List (Event E T)) :
    Event E T -> Prop
  | .timeout finished metrics _ _ =>
      OpsState.reconnecting metrics = false ∧ ¬ HasFailed registry graph before ∧
        Exists fun state => Exists fun held =>
          (machine registry).run (start graph) before = some state ∧
            state.running = some held ∧ (held.poll finished).1.status = .running
  | _ => False

/-- The last event that refreshed the record has shown a graph that runs. -/
def LastShows (registry : Registry) (graph : RunningGraph T) (events : List (Event E T)) : Prop :=
  Exists fun before => Exists fun event => Exists fun after =>
    events = before ++ event :: after ∧ Shows registry graph before event ∧
      forall later, later ∈ after -> refreshes later = false

section Ready

variable {registry : Registry} {graph held : RunningGraph T} {events : List (Event E T)}
  {state next : Supervisor T} {event : Event E T}

theorem lastShows_concat :
    LastShows registry graph (events ++ [event]) <->
      Shows registry graph events event ∨
        (refreshes event = false ∧ LastShows registry graph events) := by
  constructor
  · rintro ⟨before, shown, after, split, shows_, stale⟩
    rcases List.eq_nil_or_concat after with rfl | ⟨others, last, rfl⟩
    · rcases List.append_inj' split rfl with ⟨rfl, same⟩
      cases same
      exact Or.inl shows_
    · rw [List.concat_eq_append] at split stale
      rw [← List.cons_append, ← List.append_assoc] at split
      rcases List.append_inj' split rfl with ⟨rfl, same⟩
      cases same
      refine Or.inr ⟨stale _ (List.mem_append_right _ List.mem_cons_self), before, shown, others,
        rfl, shows_, fun later member => stale later (List.mem_append_left _ member)⟩
  · rintro (shows_ | ⟨isStale, before, shown, after, rfl, shows_, stale⟩)
    · exact ⟨events, event, [], rfl, shows_, fun _ impossible => by cases impossible⟩
    · refine ⟨before, shown, after ++ [event], List.append_assoc .., shows_, ?_⟩
      intro later member
      rcases List.mem_append.mp member with inAfter | isLast
      · exact stale later inAfter
      · exact List.mem_singleton.mp isLast ▸ isStale

/-- What health requests see, apart from the health of the supervisor. -/
def sees (ops : OpsState) : Bool :=
  ops.ready && decide (ops.status = .running) && ops.rootCause.isNone &&
    !OpsState.reconnecting ops.elementMetrics

theorem isReady_iff (ops : OpsState) :
    ops.isReady = true <-> sees ops = true ∧ ops.supervisorHealthy = true := by
  unfold OpsState.isReady sees
  simp only [Bool.and_eq_true]
  tauto

/-- What an event does to the loop and to the record. -/
inductive Outcome (state : Supervisor T) (held : RunningGraph T) (event : Event E T)
    (next : Supervisor T) : Prop where
  | leaves {last : Supervisor T} {result : Except Error Nat} (leaves : next = last.leave result)
  | ends (isEnd : event = .serverEnds) (unhealthy : next.ops.supervisorHealthy = false)
  | keeps (stale : refreshes event = false) (other : event ≠ .serverEnds)
      (goesOn : next.result = none) (sight : sees next.ops = sees state.ops)
      (health : next.ops.supervisorHealthy = state.ops.supervisorHealthy)
  | polls {finished : Nat -> Option WorkerEnd} {metrics : ElementMetrics}
      {ends : Nat -> WorkerEnd} {report : Except Error Unit}
      (isPoll : event = .timeout finished metrics ends report)
      (ok : (held.poll finished).2 = .ok ()) (goesOn : next.result = none)
      (ops : next.ops = state.ops.updateOpsState (held.poll finished).1.status
        (held.poll finished).1.rootCause metrics)

theorem take_outcome (holds : state.running = some held) (unended : state.result = none) :
    Outcome state held event (state.take registry event) := by
  cases event with
  | signal finished overflows ends report =>
      change Outcome state held _ (state.takeSignal finished overflows ends report)
      unfold takeSignal
      dsimp only
      rw [holds]
      exact .leaves rfl
  | reload env spec diff printed =>
      have other : Event.reload env spec diff printed ≠ .serverEnds :=
        fun impossible => by cases impossible
      change Outcome state held _ (state.takeReload registry env spec diff printed)
      unfold takeReload
      rw [holds]
      dsimp only
      rcases held.applyHotUpdateSpec registry env spec with ⟨after, refused | applied⟩
      · exact .keeps rfl other rfl rfl rfl
      · dsimp only
        split
        · exact .keeps rfl other rfl rfl rfl
        · cases printed with
          | ok printed => exact .keeps rfl other rfl rfl rfl
          | error error => exact .leaves rfl
  | refused error =>
      exact .keeps rfl (fun impossible => by cases impossible) unended rfl rfl
  | timeout finished metrics ends report =>
      change Outcome state held _ (state.takeTimeout finished metrics ends report)
      unfold takeTimeout
      rw [holds]
      dsimp only
      rcases polled : held.poll finished with ⟨after, error | ⟨⟩⟩
      · exact .leaves rfl
      · dsimp only
        split
        · exact .leaves rfl
        · exact .polls rfl (by rw [polled]) rfl (by rw [polled])
  | disconnected => exact .leaves rfl
  | serverEnds => exact .ends rfl rfl

theorem healthy_take (holds : state.running = some held) (unended : state.result = none) :
    (state.take registry event).ops.supervisorHealthy = true <->
      (state.take registry event).result = none ∧ event ≠ .serverEnds ∧
        state.ops.supervisorHealthy = true := by
  rcases take_outcome holds unended with ⟨isLeft⟩ | ⟨isEnd, unhealthy⟩ |
    ⟨_, other, goesOn, _, health⟩ | ⟨isPoll, _, goesOn, ops⟩
  · rw [isLeft]
    exact ⟨fun impossible => (by cases impossible), fun both => (by cases both.1)⟩
  · rw [unhealthy]
    exact ⟨fun impossible => (by cases impossible), fun both => absurd isEnd both.2.1⟩
  · rw [health]
    exact ⟨fun healthy => ⟨goesOn, other, healthy⟩, fun both => both.2.2⟩
  · have other : event ≠ .serverEnds := by
      rw [isPoll]
      exact fun impossible => by cases impossible
    rw [ops]
    exact ⟨fun healthy => ⟨goesOn, other, healthy⟩, fun both => both.2.2⟩

/-- What the record shows after an event: the graph that the event has polled,
or what it has shown before. -/
theorem sees_take (goes : GoesOn registry graph events state held)
    (reached : (machine registry).run (start graph) events = some state)
    (goesOn : (state.take registry event).result = none) (other : event ≠ .serverEnds) :
    sees (state.take registry event).ops = true <->
      Shows registry graph events event ∨ (refreshes event = false ∧ sees state.ops = true) := by
  rcases @take_outcome _ _ registry _ _ event goes.holds goes.unended with ⟨isLeft⟩ | ⟨isEnd, _⟩ |
    ⟨stale, _, _, sight, _⟩ | ⟨isPoll, ok, _, ops⟩
  · rw [isLeft] at goesOn
    cases goesOn
  · exact absurd isEnd other
  · rw [sight, stale]
    constructor
    · exact fun shown => Or.inr ⟨rfl, shown⟩
    · rintro (shows_ | ⟨_, shown⟩)
      · cases event with
        | timeout finished metrics ends report => cases stale
        | _ => cases shows_
      · exact shown
  · rename_i finished metrics ends report
    subst isPoll
    rcases RunningGraph.poll_ok ok with ⟨_, cause, _⟩
    rw [ops]
    unfold sees OpsState.updateOpsState Shows
    dsimp only
    rw [cause]
    simp only [Bool.and_eq_true, decide_eq_true_eq, Bool.not_eq_true', Option.isNone_iff_eq_none,
      refreshes, Bool.true_eq_false, false_and, or_false]
    have failed : held.rootCause = none <-> ¬ HasFailed registry graph events := by
      rw [← goes.cause, Bool.not_eq_true, Option.isSome_eq_false_iff, Option.isNone_iff_eq_none]
    rw [failed]
    constructor
    · rintro ⟨⟨⟨⟨running, calm⟩, _⟩, never⟩, _⟩
      exact ⟨calm, never, state, held, reached, goes.holds, running⟩
    · rintro ⟨calm, never, other, found, isState, isHeld, running⟩
      rw [reached] at isState
      cases isState
      rw [goes.holds] at isHeld
      cases isHeld
      exact ⟨⟨⟨⟨running, calm⟩, running⟩, never⟩, calm⟩

end Ready

section Runs

variable {registry : Registry} {runtime : RuntimeGraph E} {spawn : Spawning}
  {sinks : Std.TreeMap String (SinkCollector T)} {graph : RunningGraph T}

theorem started (starts : runtime.start spawn sinks = .ok graph) :
    graph.status = .running ∧ graph.rootCause = none := by
  unfold RuntimeGraph.start at starts
  split at starts
  · cases starts
  · split at starts
    · cases starts
      exact ⟨rfl, rfl⟩
    · cases starts

variable (starts : runtime.start spawn sinks = .ok graph) {events : List (Event E T)}
  {state : Supervisor T}

include starts

/-- The supervisor is healthy until its loop or its server ends. -/
theorem healthy_iff (reached : (machine registry).run (start graph) events = some state) :
    state.ops.supervisorHealthy = true <-> state.result = none ∧ Event.serverEnds ∉ events := by
  rcases started starts with ⟨running, fresh⟩
  refine Machine.run_history (machine registry)
    (fun events (state : Supervisor T) => state.ops.supervisorHealthy = true <->
      state.result = none ∧ Event.serverEnds ∉ events) ?_ ?_ reached
  · intro events event state next early healthy stepped
    rcases step_iff.mp stepped with ⟨unended, rfl⟩
    rcases goesOn_run running fresh early unended with ⟨held, goes⟩
    rw [healthy_take goes.holds unended, healthy, List.mem_append, List.mem_singleton]
    constructor
    · rintro ⟨goesOn, other, _, never⟩
      refine ⟨goesOn, ?_⟩
      rintro (before | isEnd)
      · exact never before
      · exact other isEnd.symm
    · rintro ⟨goesOn, never⟩
      exact ⟨goesOn, fun isEnd => never (Or.inr isEnd.symm), unended,
        fun before => never (Or.inl before)⟩
  · exact ⟨fun _ => ⟨rfl, List.not_mem_nil⟩, fun _ => rfl⟩

/-- `/readyz` says ready exactly while the loop and the server go on and the
last event that refreshed the record was a poll that found a running graph, of
which no element reconnected and which had never failed. -/
theorem ready_iff (reached : (machine registry).run (start graph) events = some state) :
    state.ops.readyzResponse = (200, "ready\n") <->
      state.result = none ∧ Event.serverEnds ∉ events ∧ LastShows registry graph events := by
  rcases started starts with ⟨running, fresh⟩
  have shown : state.ops.supervisorHealthy = true ->
      (sees state.ops = true <-> LastShows registry graph events) := by
    refine Machine.run_history (machine registry)
      (fun events (state : Supervisor T) => state.ops.supervisorHealthy = true ->
        (sees state.ops = true <-> LastShows registry graph events)) ?_ ?_ reached
    · intro events event state next early shown stepped healthy
      rcases step_iff.mp stepped with ⟨unended, rfl⟩
      rcases goesOn_run running fresh early unended with ⟨held, goes⟩
      rcases (healthy_take goes.holds unended).mp healthy with ⟨goesOn, other, before⟩
      rw [sees_take goes early goesOn other, lastShows_concat, shown before]
    · intro _
      constructor
      · intro impossible
        cases impossible
      · rintro ⟨before, event, after, impossible, _⟩
        cases before <;> cases impossible
  have healthy := healthy_iff starts reached
  have answers : state.ops.readyzResponse = (200, "ready\n") <-> state.ops.isReady = true := by
    unfold OpsState.readyzResponse
    split
    · rename_i ready
      exact ⟨fun _ => ready, fun _ => rfl⟩
    · rename_i unready
      exact ⟨fun impossible => (by cases impossible), fun ready => absurd ready unready⟩
  rw [answers, isReady_iff]
  constructor
  · rintro ⟨seen, isHealthy⟩
    rcases healthy.mp isHealthy with ⟨goesOn, serves⟩
    exact ⟨goesOn, serves, (shown isHealthy).mp seen⟩
  · rintro ⟨goesOn, serves, lastShows⟩
    have isHealthy := healthy.mpr ⟨goesOn, serves⟩
    exact ⟨(shown isHealthy).mpr lastShows, isHealthy⟩

omit starts

/-! ## How the supervisor exits -/

/-- A signal or a poll finds that all workers that are left have ended without
an error, and the report is printed.  A signal does not ask whether the graph
has failed before. -/
def Succeeds (held : RunningGraph T) : Event E T -> Prop
  | .signal finished overflows _ report =>
      overflows = false ∧ held.AllQuiet finished ∧ report = .ok ()
  | .timeout finished _ _ report =>
      held.status = .running ∧ held.AllQuiet finished ∧ report = .ok ()
  | _ => False

/-- The report or the changes could not be printed. -/
def Unprinted (error : Error) : Event E T -> Prop
  | .signal _ _ _ report | .timeout _ _ _ report => report = .error error
  | .reload _ _ _ printed => printed = .error error
  | _ => False

theorem exitCode_ok (answer : Except Error Unit) :
    (answer.map fun _ => 0) = .ok 0 <-> answer = .ok () := by
  cases answer with
  | ok done => exact ⟨fun _ => rfl, fun _ => rfl⟩
  | error error =>
      exact ⟨fun impossible => (by cases impossible), fun impossible => (by cases impossible)⟩

theorem takeSignal_result {state : Supervisor T} {held : RunningGraph T}
    (holds : state.running = some held) (finished : Nat -> Option WorkerEnd) (overflows : Bool)
    (ends : Nat -> WorkerEnd) (report : Except Error Unit) :
    ((overflows = false ∧ held.AllQuiet finished) ∧
        (state.takeSignal finished overflows ends report).result =
          some (report.map fun _ => 0)) ∨
      (¬ (overflows = false ∧ held.AllQuiet finished) ∧
        ((state.takeSignal finished overflows ends report).result = some (.ok 4) ∨
          (state.takeSignal finished overflows ends report).result = some (.ok 3))) := by
  have ok := held.requestStop.shutdown_ok_iff finished overflows
  rw [RunningGraph.requestStop_quiet] at ok
  have result : (state.takeSignal finished overflows ends report).result =
      some (exitCode (held.requestStop.shutdown finished overflows).2
        ((held.requestStop.shutdown finished overflows).1.finishReport ends report)) := by
    unfold takeSignal
    dsimp only
    rw [holds]
    rfl
  rw [result]
  by_cases quiet : overflows = false ∧ held.AllQuiet finished
  · left
    rw [ok.mpr quiet]
    rcases quiet with ⟨rfl, quiet⟩
    rw [RunningGraph.finish_of_pending (RunningGraph.shutdown_pending_of_quiet
      ((RunningGraph.requestStop_quiet finished held).mpr quiet))]
    exact ⟨⟨rfl, quiet⟩, rfl⟩
  · refine Or.inr ⟨quiet, ?_⟩
    cases answer : (held.requestStop.shutdown finished overflows).2 with
    | ok done => exact absurd (ok.mp answer) quiet
    | error error =>
        cases error with
        | timeout message => exact Or.inl rfl
        | _ => exact Or.inr rfl

theorem takeTimeout_result {state : Supervisor T} {held : RunningGraph T}
    (holds : state.running = some held) (status : held.status = .running ∨ held.status = .failed)
    (finished : Nat -> Option WorkerEnd) (metrics : ElementMetrics)
    (ends : Nat -> WorkerEnd) (report : Except Error Unit) :
    ((held.status = .running ∧ held.AllQuiet finished) ∧
        (state.takeTimeout finished metrics ends report).result =
          some (report.map fun _ => 0)) ∨
      (¬ (held.status = .running ∧ held.AllQuiet finished) ∧
        ((state.takeTimeout finished metrics ends report).result = none ∨
          (state.takeTimeout finished metrics ends report).result = some (.ok 3))) := by
  have stops := @RunningGraph.poll_stopped_iff _ finished held
  have pending := @RunningGraph.poll_pending _ finished held
  have ok := @RunningGraph.poll_ok _ finished held
  unfold takeTimeout
  rw [holds]
  dsimp only
  rcases polled : held.poll finished with ⟨after, error | ⟨⟩⟩
  · rw [polled] at stops
    refine Or.inr ⟨fun both => ?_, Or.inr rfl⟩
    cases ((stops both.1).mpr both.2).1
  · rw [polled] at stops pending ok
    have running := status.resolve_right (ok rfl).1
    dsimp only at stops pending ⊢
    split
    · rename_i stopped
      have quiet := (stops running).mp ⟨rfl, stopped⟩
      rw [RunningGraph.finish_of_pending (pending quiet running)]
      exact Or.inl ⟨⟨running, quiet⟩, rfl⟩
    · rename_i alive
      exact Or.inr ⟨fun both => alive ((stops running).mpr both.2).2, Or.inl rfl⟩

include starts

/-- The exit code is 0 exactly if the last event found all workers that were
left ended without an error.  What `finishReport` then joins is nothing, so an error
that leaves the supervisor is one of printing. -/
theorem exit_success_iff {event : Event E T}
    (reached : (machine registry).run (start graph) (events ++ [event]) = some state) :
    (state.result = some (.ok 0) <-> Exists fun before => Exists fun held =>
        (machine registry).run (start graph) events = some before ∧
          before.running = some held ∧ Succeeds held event) ∧
      forall error, state.result = some (.error error) -> Unprinted error event := by
  rcases started starts with ⟨running, fresh⟩
  rcases Machine.run_concat_iff _ |>.mp reached with ⟨before, early, stepped⟩
  rcases step_iff.mp stepped with ⟨unended, rfl⟩
  rcases goesOn_run running fresh early unended with ⟨held, goes⟩
  have only : (Exists fun before => Exists fun held =>
      (machine registry).run (start graph) events = some before ∧
        before.running = some held ∧ Succeeds held event) <-> Succeeds held event := by
    constructor
    · rintro ⟨other, found, isState, isHeld, succeeds⟩
      rw [early] at isState
      cases isState
      rw [goes.holds] at isHeld
      cases isHeld
      exact succeeds
    · exact fun succeeds => ⟨before, held, early, goes.holds, succeeds⟩
  rw [only]
  have printing : forall {report : Except Error Unit} {error : Error},
      some (report.map fun _ => 0) = some (Except.error error) -> report = .error error := by
    intro report error same
    cases report with
    | ok done => cases same
    | error other =>
        cases same
        rfl
  cases event with
  | signal finished overflows ends report =>
      change ((before.takeSignal finished overflows ends report).result = _ <-> _) ∧
        forall error, (before.takeSignal finished overflows ends report).result = _ -> _
      rcases takeSignal_result goes.holds finished overflows ends report with
        ⟨quiet, result⟩ | ⟨loud, result | result⟩
      · rw [result, Option.some.injEq, exitCode_ok]
        exact ⟨⟨fun isOk => ⟨quiet.1, quiet.2, isOk⟩, fun both => both.2.2⟩, fun _ => printing⟩
      · rw [result]
        exact ⟨⟨fun impossible => (by cases impossible),
          fun both => absurd ⟨both.1, both.2.1⟩ loud⟩, fun _ impossible => (by cases impossible)⟩
      · rw [result]
        exact ⟨⟨fun impossible => (by cases impossible),
          fun both => absurd ⟨both.1, both.2.1⟩ loud⟩, fun _ impossible => (by cases impossible)⟩
  | timeout finished metrics ends report =>
      change ((before.takeTimeout finished metrics ends report).result = _ <-> _) ∧
        forall error, (before.takeTimeout finished metrics ends report).result = _ -> _
      rcases takeTimeout_result goes.holds goes.status finished metrics ends report with
        ⟨quiet, result⟩ | ⟨loud, result | result⟩
      · rw [result, Option.some.injEq, exitCode_ok]
        exact ⟨⟨fun isOk => ⟨quiet.1, quiet.2, isOk⟩, fun both => both.2.2⟩, fun _ => printing⟩
      · rw [result]
        exact ⟨⟨fun impossible => (by cases impossible),
          fun both => absurd ⟨both.1, both.2.1⟩ loud⟩, fun _ impossible => (by cases impossible)⟩
      · rw [result]
        exact ⟨⟨fun impossible => (by cases impossible),
          fun both => absurd ⟨both.1, both.2.1⟩ loud⟩, fun _ impossible => (by cases impossible)⟩
  | reload env spec diff printed =>
      change ((before.takeReload registry env spec diff printed).result = _ <-> False) ∧
        forall error, (before.takeReload registry env spec diff printed).result = _ ->
          printed = .error error
      unfold takeReload
      rw [goes.holds]
      dsimp only
      rcases held.applyHotUpdateSpec registry env spec with ⟨after, refused | applied⟩
      · exact ⟨⟨fun impossible => (by cases impossible), False.elim⟩,
          fun _ impossible => (by cases impossible)⟩
      · dsimp only
        split
        · exact ⟨⟨fun impossible => (by cases impossible), False.elim⟩,
            fun _ impossible => (by cases impossible)⟩
        · cases printed with
          | ok printed =>
              exact ⟨⟨fun impossible => (by cases impossible), False.elim⟩,
                fun _ impossible => (by cases impossible)⟩
          | error error =>
              refine ⟨⟨fun impossible => (by cases impossible), False.elim⟩, ?_⟩
              intro other same
              cases same
              rfl
  | refused error =>
      change (before.result = _ <-> False) ∧ forall error, before.result = _ -> False
      rw [unended]
      exact ⟨⟨fun impossible => (by cases impossible), False.elim⟩,
        fun _ impossible => (by cases impossible)⟩
  | disconnected =>
      exact ⟨⟨fun impossible => (by cases impossible), False.elim⟩,
        fun _ impossible => (by cases impossible)⟩
  | serverEnds =>
      change (before.result = _ <-> False) ∧ forall error, before.result = _ -> False
      rw [unended]
      exact ⟨⟨fun impossible => (by cases impossible), False.elim⟩,
        fun _ impossible => (by cases impossible)⟩

end Runs

/-! ## The camera graph -/

/-- The camera graph is built and started. -/
theorem camera_parts :
    Exists fun runtime => Exists fun sinks => Exists fun graph : RunningGraph Nat =>
      RunningGraph.cameraStarted = .ok graph ∧
        RuntimeGraph.start (E := String) (fun _ _ => none) runtime sinks = .ok graph := by
  rcases RunningGraph.camera_starts with ⟨graph, starts, _⟩
  have parts := starts
  unfold RunningGraph.cameraStarted at parts
  cases builds : RuntimeGraph.build RuntimeGraph.cameraRegistry RuntimeGraph.cameraCreation
      (fun _ => .ok 4) Core.ResourcePolicy.default RuntimeGraph.cameraSpec [] with
  | error failure =>
      rw [builds] at parts
      cases parts
  | ok built =>
      rw [builds] at parts
      exact ⟨built.1, built.2, graph, starts, parts⟩

/-- Nobody has ended, and the camera does not reconnect. -/
def calmPoll : Event String Nat :=
  .timeout (fun _ => none) (Std.TreeMap.ofList [("camera", ElementMetricsSnapshot.mk false)])
    (fun _ => .ok) (.ok ())

/-- The camera gets new parameters, and a fault comes after the routes were
switched. -/
def lateFault : Event String Nat :=
  .reload { RunningGraph.cameraEnv .ok false with afterSwitch := true }
    (RuntimeGraph.cameraSpec.mergeForDiff RunningGraph.cameraChange) RunningGraph.cameraChange
    (.ok ())

def orderlySignal : Event String Nat := .signal (fun _ => some .ok) false (fun _ => .ok) (.ok ())

/-- A reload comes to nothing after the poll, and requests are still told that
the graph is ready. -/
theorem camera_ready_after_fault :
    Exists fun graph => Exists fun state : Supervisor Nat =>
      RunningGraph.cameraStarted = .ok graph ∧
        (machine RuntimeGraph.cameraRegistry).run (start graph) [calmPoll, lateFault] =
          some state ∧
        (state.running.map RunningGraph.status = some .failed) ∧
        LastShows RuntimeGraph.cameraRegistry graph [calmPoll, lateFault] := by
  have outcome : RunningGraph.cameraStarted.toOption.map (fun graph =>
      ((machine RuntimeGraph.cameraRegistry).run (start graph) [calmPoll, lateFault]).map
        fun state => (state.running.map RunningGraph.status, state.ops.readyzResponse)) =
      some (some (some .failed, (200, "ready\n"))) := by
    decide +kernel
  rcases camera_parts with ⟨runtime, sinks, graph, isGraph, starts⟩
  rw [isGraph] at outcome
  rcases Option.map_eq_some_iff.mp (Option.some.inj outcome) with ⟨state, reached, shown⟩
  rcases Prod.mk.inj shown with ⟨status, answer⟩
  exact ⟨graph, state, isGraph, reached, status, ((ready_iff starts reached).mp answer).2.2⟩

/-- The graph has failed, and a signal that comes before the next poll lets the
supervisor exit with 0. -/
theorem camera_fault_exits_success :
    Exists fun graph => Exists fun before : Supervisor Nat => Exists fun held =>
      RunningGraph.cameraStarted = .ok graph ∧
        (machine RuntimeGraph.cameraRegistry).run (start graph) [calmPoll, lateFault] =
          some before ∧
        before.running = some held ∧ held.status = .failed ∧ Succeeds held orderlySignal := by
  have outcome : RunningGraph.cameraStarted.toOption.map (fun graph =>
      (((machine RuntimeGraph.cameraRegistry).run (start graph) [calmPoll, lateFault]).map
        fun state => state.running.map RunningGraph.status,
      ((machine RuntimeGraph.cameraRegistry).run (start graph)
        ([calmPoll, lateFault] ++ [orderlySignal])).map fun state => state.result)) =
      some (some (some .failed), some (some (.ok 0))) := by
    decide +kernel
  rcases camera_parts with ⟨runtime, sinks, graph, isGraph, starts⟩
  rw [isGraph] at outcome
  rcases Prod.mk.inj (Option.some.inj outcome) with ⟨early, late⟩
  rcases Option.map_eq_some_iff.mp late with ⟨state, reached, result⟩
  rcases (exit_success_iff starts reached).1.mp result with
    ⟨before, held, isBefore, holds, succeeds⟩
  refine ⟨graph, before, held, isGraph, isBefore, holds, ?_, succeeds⟩
  rw [isBefore] at early
  change some (before.running.map RunningGraph.status) = _ at early
  rw [holds] at early
  exact Option.some.inj (Option.some.inj early)

end Supervisor
end Cli
end DyunGu
