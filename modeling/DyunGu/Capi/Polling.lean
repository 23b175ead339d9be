import DyunGu.Capi.Engine
import DyunGu.Graph.StatusRuns

namespace DyunGu
namespace Capi
namespace Engine

open Core (ResourcePolicy)
open Graph

variable {E T : Type}

/-!
# Polling after the end of a session

Whether a session is over is written in two fields, the running graph and the
flag of the stream.  A shutdown that meets a worker with an error takes the
running graph and leaves the flag; a reload that the built graph refuses takes
the flag back.  Where neither happens, polling ends.
-/

/-- No graph runs, and a poll of the empty queue says that the stream has
ended. -/
structure Over (engine : Engine T) : Prop where
  idle : engine.running = none
  ended : engine.streamEnded = true

/-- The polls give some of the tensors that wait, in order, and say that the
stream has ended only after the last one. -/
def Ends (waiting : List T) (answers : List (Except Error (EnginePollOutput T))) : Prop :=
  Exists fun given => Exists fun left => Exists fun ends =>
    waiting = given ++ left ∧ (ends = 0 ∨ left = []) ∧
      answers = (given.map fun tensor => .ok (.tensor tensor)) ++
        List.replicate ends (.ok .endOfStream)

section Calls

variable (registry : Registry) (storageBytes : T -> Except Core.Error Nat)

/-- The answers to the polls among some calls. -/
def polled : Engine T -> List (Operation E T) -> List (Except Error (EnginePollOutput T))
  | _, [] => []
  | engine, operation :: operations =>
      let later := polled (engine.perform registry storageBytes operation) operations
      match operation with
      | .poll finished => (engine.pollOutput finished).2 :: later
      | _ => later

/-- The calls after which a poll may speak of a new session. -/
def Opens (engine : Engine T) : Operation E T -> Prop
  | .load parsed => (engine.load registry parsed).2 = .ok ()
  | .build installed => (engine.build registry installed).2 = .ok ()
  | .init installed env => (engine.init registry storageBytes installed env).2 = .ok ()
  | .reload installed env parsed =>
      Exists fun diff => (engine.reloadFrom registry installed env parsed).2 = .ok diff
  | .run _ | .addNode .. | .removeNode _ | .connect _ | .disconnect _ => True
  | .push _ | .poll _ | .stop | .shutdown .. | .collect .. => False

/-- A reload with a valid specification that the policy of the built graph
does not admit. -/
def Refuses (engine : Engine T) : Operation E T -> Prop
  | .reload _ _ parsed =>
      engine.pendingInputs.isEmpty = true ∧
        Exists fun spec => Exists fun graph => checked registry parsed = .ok spec ∧
          engine.graph = some graph ∧ BuiltGraph.check registry graph.policy spec ≠ .ok ()
  | _ => False

/-- What is asked of the calls after the end of a session. -/
def Rests (engine : Engine T) (operation : Operation E T) : Prop :=
  ¬ engine.Opens registry storageBytes operation ∧ ¬ engine.Refuses registry operation

end Calls

/-! ## Calls that leave the session -/

/-- An input comes to those that wait, or nothing happens. -/
theorem push_inputs (storageBytes : T -> Except Core.Error Nat) (engine : Engine T) (tensor : T) :
    Exists fun inputs =>
      (engine.push storageBytes tensor).1 = { engine with pendingInputs := inputs } := by
  unfold push
  split
  · exact ⟨_, rfl⟩
  · split
    · exact ⟨_, rfl⟩
    · split
      · exact ⟨_, rfl⟩
      · dsimp only
        split
        · exact ⟨_, rfl⟩
        · split
          · exact ⟨_, rfl⟩
          · split
            · exact ⟨_, rfl⟩
            · exact ⟨_, rfl⟩

section Failing

variable {registry : Registry} {storageBytes : T -> Except Core.Error Nat} {engine : Engine T}

theorem load_failed {parsed : Except Error GraphSpec}
    (failed : (engine.load registry parsed).2 ≠ .ok ()) :
    (engine.load registry parsed).1 = engine := by
  unfold load at failed ⊢
  split
  · rfl
  · rename_i spec valid
    rw [valid] at failed
    dsimp only at failed
    split
    · rfl
    · rename_i idle
      rw [if_neg idle] at failed
      exact absurd rfl failed

theorem build_failed {installed : ResourcePolicy}
    (failed : (engine.build registry installed).2 ≠ .ok ()) :
    (engine.build registry installed).1 = engine := by
  unfold build at failed ⊢
  split
  · rfl
  · rename_i idle
    rw [if_neg idle] at failed
    split
    · rfl
    · rename_i graph made
      rw [made] at failed
      exact absurd rfl failed

/-- A start that fails may leave a graph that was built for it. -/
theorem init_failed {installed : ResourcePolicy} {env : StartEnv E T}
    (failed : (engine.init registry storageBytes installed env).2 ≠ .ok ()) :
    Exists fun graph =>
      (engine.init registry storageBytes installed env).1 = { engine with graph := graph } := by
  unfold init at failed ⊢
  split
  · exact ⟨engine.graph, rfl⟩
  · rename_i idle
    rw [if_neg idle] at failed
    split
    · exact ⟨engine.graph, rfl⟩
    · rename_i empty
      rw [if_neg empty] at failed
      dsimp only at failed ⊢
      split
      · exact ⟨engine.graph, rfl⟩
      · rename_i graph made
        rw [made] at failed
        dsimp only at failed
        split
        · exact ⟨some graph, rfl⟩
        · rename_i running started
          rw [started] at failed
          exact absurd rfl failed

/-- While no graph runs, a reload that fails is refused by the built graph or
changes nothing. -/
theorem reloadFrom_failed {installed : ResourcePolicy} {env : RunningGraph.UpdateEnv E T}
    {parsed : Except Error GraphSpec} (idle : engine.running = none)
    (failed : ¬ Exists fun diff => (engine.reloadFrom registry installed env parsed).2 = .ok diff)
    (admitted : ¬ engine.Refuses registry (.reload installed env parsed)) :
    (engine.reloadFrom registry installed env parsed).1 = engine := by
  unfold reloadFrom at failed ⊢
  split
  · rfl
  · rename_i spec valid
    rw [valid] at failed
    dsimp only at failed
    unfold reload at failed ⊢
    split
    · rfl
    · rename_i empty
      rw [if_neg empty] at failed
      rcases Outcome.bind_ok valid with ⟨same, isParsed, checks⟩
      rcases Outcome.bind_ok checks with ⟨_, isValid, isSame⟩
      cases isSame
      dsimp only at failed
      rw [isValid, idle] at failed
      dsimp only at failed
      exfalso
      apply failed
      unfold reloadIdle
      dsimp only
      cases built : engine.graph with
      | none => exact ⟨_, rfl⟩
      | some graph =>
          have passes : BuiltGraph.check registry graph.policy spec = .ok () := by
            by_contra refused
            exact admitted ⟨Bool.not_eq_false _ ▸ empty, spec, graph, valid, built, refused⟩
          refine ⟨GraphSpec.diff graph.spec spec, ?_⟩
          dsimp only
          unfold BuiltGraph.reload
          rw [passes]
          rfl

end Failing

/-! ## A session that stays over -/

section Resting

variable {registry : Registry} {storageBytes : T -> Except Core.Error Nat} {engine : Engine T}

/-- A poll gives the tensor that waits first. -/
theorem Over.poll (over_ : engine.Over) (finished : Nat -> Option WorkerEnd) :
    (engine.pollOutput finished).1 = { engine with outputs := engine.outputs.tail } ∧
      (engine.pollOutput finished).2 =
        match engine.outputs with
        | tensor :: _ => .ok (.tensor tensor)
        | [] => .ok .endOfStream := by
  have refilled : engine.refill finished = (engine, .ok ()) := by
    unfold refill
    rw [over_.idle]
  unfold pollOutput
  rw [refilled]
  dsimp only
  cases waiting : engine.outputs with
  | cons tensor outputs => exact ⟨rfl, rfl⟩
  | nil =>
      refine ⟨?_, ?_⟩
      · show engine = { engine with outputs := [] }
        rw [← waiting]
      · unfold emptyAnswer
        rw [over_.idle, over_.ended]
        rfl

/-- The calls that rest keep the session over, and no call but a poll touches
the queue. -/
theorem Over.perform (over_ : engine.Over) {operation : Operation E T}
    (rests : engine.Rests registry storageBytes operation) :
    (engine.perform registry storageBytes operation).Over ∧
      ((engine.perform registry storageBytes operation).outputs = engine.outputs ∨
        Exists fun finished => operation = .poll finished) := by
  cases operation with
  | load parsed =>
      have same := load_failed rests.1
      exact ⟨by rw [Engine.perform, same]; exact over_, Or.inl (by rw [Engine.perform, same])⟩
  | build installed =>
      have same := build_failed rests.1
      exact ⟨by rw [Engine.perform, same]; exact over_, Or.inl (by rw [Engine.perform, same])⟩
  | init installed env =>
      rcases init_failed rests.1 with ⟨graph, same⟩
      rw [Engine.perform, same]
      exact ⟨⟨over_.idle, over_.ended⟩, Or.inl rfl⟩
  | reload installed env parsed =>
      have same := reloadFrom_failed over_.idle rests.1 rests.2
      rw [Engine.perform, same]
      exact ⟨over_, Or.inl rfl⟩
  | run env => exact absurd trivial rests.1
  | addNode name kind params => exact absurd trivial rests.1
  | removeNode name => exact absurd trivial rests.1
  | connect connection => exact absurd trivial rests.1
  | disconnect connection => exact absurd trivial rests.1
  | push tensor =>
      rcases push_inputs storageBytes engine tensor with ⟨inputs, same⟩
      rw [Engine.perform, same]
      exact ⟨⟨over_.idle, over_.ended⟩, Or.inl rfl⟩
  | poll finished =>
      rw [Engine.perform, (over_.poll finished).1]
      exact ⟨⟨over_.idle, over_.ended⟩, Or.inr ⟨finished, rfl⟩⟩
  | stop =>
      have same : engine.stop.1 = engine := by
        unfold stop
        rw [over_.idle]
      rw [Engine.perform, same]
      exact ⟨over_, Or.inl rfl⟩
  | shutdown finished overflows =>
      have same : (engine.shutdown finished overflows).1 = { engine with streamEnded := true } := by
        unfold shutdown
        rw [over_.idle]
      rw [Engine.perform, same]
      exact ⟨⟨over_.idle, rfl⟩, Or.inl rfl⟩
  | collect name tensor =>
      refine ⟨⟨?_, over_.ended⟩, Or.inl rfl⟩
      show engine.running.map _ = none
      rw [over_.idle]
      rfl

/-- While a session is over, the polls among the calls end. -/
theorem Over.polled (over_ : engine.Over) {operations : List (Operation E T)}
    (rest : (machine registry storageBytes).Meets (Rests registry storageBytes) engine
      operations) :
    Ends engine.outputs (polled registry storageBytes engine operations) := by
  induction operations generalizing engine with
  | nil => exact ⟨[], engine.outputs, 0, rfl, Or.inl rfl, rfl⟩
  | cons operation operations ih =>
      rcases over_.perform rest.1 with ⟨stillOver, queue⟩
      have later := ih stillOver (rest.2 _ rfl)
      by_cases polls : Exists fun finished => operation = .poll finished
      · rcases polls with ⟨finished, rfl⟩
        rcases over_.poll finished with ⟨next, answer⟩
        rw [show engine.perform registry storageBytes (.poll finished) = _ from next] at later
        show Ends engine.outputs ((engine.pollOutput finished).2 ::
          Engine.polled registry storageBytes (engine.pollOutput finished).1 operations)
        rw [answer, next]
        rcases later with ⟨given, left, ends, isQueue, last, answers⟩
        rw [answers]
        cases waiting : engine.outputs with
        | cons tensor outputs =>
            rw [waiting] at isQueue
            refine ⟨tensor :: given, left, ends, ?_, last, rfl⟩
            exact congrArg (tensor :: ·) isQueue
        | nil =>
            rw [waiting, List.tail_nil, List.nil_eq_append_iff] at isQueue
            rcases isQueue with ⟨rfl, rfl⟩
            exact ⟨[], [], ends + 1, rfl, Or.inr rfl, rfl⟩
      · rcases queue with same | isPoll
        · rw [same] at later
          have skips : Engine.polled registry storageBytes engine (operation :: operations) =
              Engine.polled registry storageBytes
                (engine.perform registry storageBytes operation) operations := by
            cases operation with
            | poll finished => exact absurd ⟨finished, rfl⟩ polls
            | _ => rfl
          rw [skips]
          exact later
        · exact absurd isPoll polls

/-- A shutdown answers as the running graph does. -/
theorem shutdown_answer {running : RunningGraph T} {finished : Nat -> Option WorkerEnd}
    {overflows : Bool} (started : engine.running = some running) :
    (engine.shutdown finished overflows).2 = (running.shutdown finished overflows).2 := by
  unfold shutdown
  rw [started]
  dsimp only
  rcases running.shutdown finished overflows with ⟨after, answer⟩
  cases answer with
  | ok done => rfl
  | error error => rfl

/-- A shutdown in time that finds no worker with an error ends the session. -/
theorem shutdown_over {running : RunningGraph T} {finished : Nat -> Option WorkerEnd}
    {overflows : Bool} (started : engine.running = some running)
    (inTime : forall message,
      (engine.shutdown finished overflows).2 ≠ .error (.timeout message))
    (quiet : running.AllQuiet finished) : (engine.shutdown finished overflows).1.Over := by
  unfold shutdown at inTime ⊢
  rw [started] at inTime ⊢
  dsimp only at inTime ⊢
  cases overflows with
  | true => exact absurd rfl (inTime "shutdown timeout overflowed")
  | false =>
      have ok := (running.shutdown_ok_iff finished false).mpr ⟨rfl, quiet⟩
      rcases answer : running.shutdown finished false with ⟨after, result⟩
      rw [answer] at ok
      cases ok
      exact ⟨rfl, rfl⟩

end Resting

/-- After a shutdown in time that finds no worker with an error, and as long as
no new session is opened and no reload is refused by the built graph, the polls
give tensors of the queue and then the end of the stream. -/
theorem polling_ends (registry : Registry) (storageBytes : T -> Except Core.Error Nat)
    (engine : Engine T) (running : RunningGraph T) (finished : Nat -> Option WorkerEnd)
    (overflows : Bool) (later : List (Operation E T)) (started : engine.running = some running)
    (inTime : forall message,
      (engine.shutdown finished overflows).2 ≠ .error (.timeout message))
    (quiet : running.AllQuiet finished)
    (rest : (machine registry storageBytes).Meets (Rests registry storageBytes)
      (engine.shutdown finished overflows).1 later) :
    Ends (engine.shutdown finished overflows).1.outputs
      (polled registry storageBytes (engine.shutdown finished overflows).1 later) :=
  (shutdown_over started inTime quiet).polled rest

/-! ## The camera graph -/

/-- The environment of the camera graph. -/
def cameraStart : StartEnv String Nat := ⟨RuntimeGraph.cameraCreation, fun _ _ => none⟩

/-- The camera graph is loaded and started. -/
def cameraSession : List (Operation String Nat) :=
  [.load (.ok RuntimeGraph.cameraSpec), .init ResourcePolicy.default cameraStart]

/-- The store collects two tensors, and the first of them is polled. -/
def cameraPolled : List (Operation String Nat) :=
  cameraSession ++ [.collect "store" 7, .collect "store" 8, .poll fun _ => none]

/-- Two polls, with a stop and a reload of what is no specification between. -/
def cameraRest : List (Operation String Nat) :=
  [.poll fun _ => none, .stop,
    .reload ResourcePolicy.default (RunningGraph.cameraEnv .ok false)
      (.error (.json "no specification")), .poll fun _ => none]

theorem camera_polling_ends :
    Exists fun engine => (machine RuntimeGraph.cameraRegistry fun _ : Nat => .ok 4).run new
        cameraPolled = some engine ∧
      (engine.shutdown (fun _ => some .ok) false).1.outputs = [8] ∧
      Ends [8] (polled RuntimeGraph.cameraRegistry (fun _ : Nat => .ok 4)
        (engine.shutdown (fun _ => some .ok) false).1 cameraRest) := by
  have outcome : ((machine RuntimeGraph.cameraRegistry fun _ : Nat => .ok 4).run new
      cameraPolled).map (fun engine =>
        let ended := engine.shutdown (fun _ => some .ok) false
        (engine.running.isSome, ended.2.toOption, ended.1.outputs)) =
          some (true, some (), [8]) := by
    decide +kernel
  rcases Option.map_eq_some_iff.mp outcome with ⟨engine, reached, facts⟩
  simp only [Prod.mk.injEq] at facts
  rcases facts with ⟨runs, succeeded, waiting⟩
  rcases Option.isSome_iff_exists.mp runs with ⟨running, started⟩
  refine ⟨engine, reached, waiting, ?_⟩
  have quiet : running.AllQuiet fun _ => some .ok := by
    refine ((running.shutdown_ok_iff _ false).mp ?_).2
    rw [shutdown_answer started] at succeeded
    cases answer : (running.shutdown (fun _ => some .ok) false).2 with
    | ok done => rfl
    | error error =>
        rw [answer] at succeeded
        cases succeeded
  rw [← waiting]
  refine polling_ends RuntimeGraph.cameraRegistry _ engine running _ false cameraRest started ?_
    quiet ?_
  · intro message isTimeout
    rw [isTimeout] at succeeded
    cases succeeded
  · refine ⟨⟨id, id⟩, fun _ _ => ⟨⟨id, id⟩, fun _ _ => ⟨⟨?_, ?_⟩, fun _ _ =>
      ⟨⟨id, id⟩, fun _ _ => trivial⟩⟩⟩⟩
    · rintro ⟨diff, impossible⟩
      cases impossible
    · rintro ⟨_, spec, graph, impossible, _⟩
      cases impossible

/-- The camera panics, and the store ends well. -/
def cameraPanics (worker : Nat) : Option WorkerEnd := some (if worker = 0 then .panicked else .ok)

/-- A poll of an engine that was left open. -/
theorem poll_open {engine : Engine T} (idle : engine.running = none)
    (notEnded : engine.streamEnded = false) (empty : engine.outputs = [])
    (finished : Nat -> Option WorkerEnd) :
    engine.pollOutput finished = (engine, .ok .pending) := by
  have refilled : engine.refill finished = (engine, .ok ()) := by
    unfold refill
    rw [idle]
  unfold pollOutput
  rw [refilled]
  dsimp only
  rw [empty]
  show (engine, engine.emptyAnswer) = _
  unfold emptyAnswer
  rw [idle, notEnded]
  rfl

/-- A shutdown that reports the panic ends the session, and every poll after it
says that there is more to come. -/
theorem panic_polls_forever :
    Exists fun engine => (machine RuntimeGraph.cameraRegistry fun _ : Nat => .ok 4).run new
        cameraSession = some engine ∧
      engine.running.isSome = true ∧
      (Exists fun error => (engine.shutdown cameraPanics false).2 = .error error ∧
        retryable error = false) ∧
      (engine.shutdown cameraPanics false).1.running = none ∧
      forall polls, polled RuntimeGraph.cameraRegistry (fun _ : Nat => .ok 4)
          (engine.shutdown cameraPanics false).1
          (List.replicate polls (Operation.poll (E := String) fun _ => none)) =
        List.replicate polls (.ok .pending) := by
  have outcome : ((machine RuntimeGraph.cameraRegistry fun _ : Nat => .ok 4).run new
      cameraSession).map (fun engine =>
        let ended := engine.shutdown cameraPanics false
        ([engine.running.isSome, ended.1.running.isSome, ended.1.streamEnded],
          ended.2.toOption, ended.1.outputs)) = some ([true, false, false], none, []) := by
    decide +kernel
  rcases Option.map_eq_some_iff.mp outcome with ⟨engine, reached, facts⟩
  simp only [Prod.mk.injEq, List.cons.injEq, and_true] at facts
  rcases facts with ⟨⟨runs, idle, notEnded⟩, failed, empty⟩
  rw [Option.isSome_eq_false_iff, Option.isNone_iff_eq_none] at idle
  refine ⟨engine, reached, runs, ?_, idle, fun polls => ?_⟩
  · rcases Option.isSome_iff_exists.mp runs with ⟨running, started⟩
    unfold shutdown at failed idle ⊢
    rw [started] at failed idle ⊢
    dsimp only at failed idle ⊢
    rcases answer : running.shutdown cameraPanics false with ⟨after, result⟩
    rw [answer] at failed idle
    cases result with
    | ok done => cases failed
    | error error =>
        refine ⟨error, rfl, ?_⟩
        by_contra again
        rw [Bool.not_eq_false] at again
        dsimp only at idle
        rw [again] at idle
        cases idle
  · have stays := poll_open idle notEnded empty fun _ => none
    induction polls with
    | zero => rfl
    | succ polls ih =>
        rw [List.replicate_succ, List.replicate_succ, polled, Engine.perform, stays]
        exact congrArg _ ih

end Engine
end Capi
end DyunGu
