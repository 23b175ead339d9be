import DyunGu.Openvino.Capacity

namespace DyunGu
namespace Openvino

open Core Backend

/-!
# Compiled models and synchronous runs

The requests of a reshaped model replace those of the old one.  A reshape that
stops while it makes them leaves requests of a model that the backend does not
describe.

A synchronous run answers with the first submission that is ready, which is its
own if nothing else is in flight.
-/

namespace World

/-- All requests are of the compiled model. -/
def Uniform (backend : Backend) : Prop :=
  forall request, request ∈ requests [] backend -> backend.compiledModel = some request.model

/-- A reshape whose requests can be made in part only. -/
def Halfway (backend : Backend) : Event -> Prop
  | .reshape shapes answers =>
      reshapeChecks shapes answers backend = .ok () ∧ answers.compiled = none ∧
        answers.made (backend.maxInFlight - 1) = none ∧
        Exists fun index => index < backend.maxInFlight ∧ (answers.made index).isSome = true
  | _ => False

/-- Requests are made from the last index on, until one fails. -/
theorem makeRequests_counts {answer : Nat -> Option String} {model count : Nat}
    {backend : Backend} :
    ((makeRequests answer model count backend).reply = .ok () <->
        forall index, index < count -> answer index = none) ∧
      ((makeRequests answer model count backend).backend.made = backend.made <->
        count = 0 ∨ (answer (count - 1)).isSome = true) := by
  induction count generalizing backend with
  | zero =>
      exact ⟨⟨fun _ _ impossible => absurd impossible (Nat.not_lt_zero _), fun _ => rfl⟩,
        ⟨fun _ => Or.inl rfl, fun _ => rfl⟩⟩
  | succ count ih =>
      unfold makeRequests
      cases isAnswer : answer count with
      | some text =>
          refine ⟨⟨fun impossible => (by cases impossible), fun all => ?_⟩,
            ⟨fun _ => Or.inr ?_, fun _ => rfl⟩⟩
          · have impossible := all count (Nat.lt_succ_self count)
            rw [isAnswer] at impossible
            cases impossible
          · rw [Nat.add_sub_cancel, isAnswer]
            rfl
      | none =>
          rcases @ih { backend with
            freeRequests := ⟨backend.made, model⟩ :: backend.freeRequests
            made := backend.made + 1 } with ⟨done, _⟩
          rcases @makeRequests_cases answer model count { backend with
            freeRequests := ⟨backend.made, model⟩ :: backend.freeRequests
            made := backend.made + 1 } with ⟨new, isBackend, _⟩
          refine ⟨done.trans ⟨fun all index below => ?_, fun all index below =>
            all index (below.trans (Nat.lt_succ_self count))⟩, ⟨fun same => ?_, ?_⟩⟩
          · rcases Nat.lt_succ_iff_lt_or_eq.mp below with less | rfl
            · exact all index less
            · exact isAnswer
          · dsimp only at same
            rw [isBackend] at same
            dsimp only at same
            omega
          · rw [Nat.add_sub_cancel, isAnswer]
            rintro (impossible | impossible) <;> cases impossible

theorem uniform_of_subset {backend other : Backend} (uniform : Uniform backend)
    (model : other.compiledModel = backend.compiledModel)
    (subset : forall request, request ∈ requests [] other -> request ∈ requests [] backend) :
    Uniform other := fun request member => by
  rw [model]
  exact uniform request (subset request member)

theorem uniform_take {answer : Option String} {backend : Backend} {request : Request}
    (uniform : Uniform backend) (taken : (takeFreeRequest answer backend).reply = .ok request) :
    Uniform (takeFreeRequest answer backend).backend ∧
      (takeFreeRequest answer backend).backend.compiledModel = some request.model := by
  rcases takeFreeRequest_cases taken with ⟨rest, free, same⟩ | ⟨_, _, isModel, same⟩
  · rw [same]
    refine ⟨uniform_of_subset uniform rfl fun other member => ?_, uniform request ?_⟩
    · rw [requests, List.nil_append, free, List.cons_append]
      exact List.mem_cons_of_mem _ member
    · rw [requests, List.nil_append, free]
      exact List.mem_cons_self
  · rw [same]
    exact ⟨uniform_of_subset uniform rfl fun _ member => member, isModel⟩

theorem uniform_submit {inputs : List Input} {sequence : UInt64} {answers : SubmitAnswers}
    {backend : Backend} (uniform : Uniform backend) :
    Uniform (submit inputs sequence answers backend).backend := by
  rcases submit_cases inputs sequence answers backend with
    ⟨_, same | ⟨request, taken, same⟩⟩ | ⟨_, request, tensors, taken, _, same⟩
  · rw [same]
    exact uniform
  · rw [same]
    exact (uniform_take uniform taken).1
  · rcases uniform_take uniform taken with ⟨kept, isModel⟩
    rw [same]
    intro other member
    change other ∈ _ ++ List.map InFlightRequest.request (_ ++ [_]) at member
    rw [List.map_append, ← List.append_assoc] at member
    rcases List.mem_append.mp member with earlier | isNew
    · exact kept other earlier
    · rw [List.mem_singleton.mp isNew]
      exact isModel

theorem uniform_poll {answers : PollAnswers} {backend : Backend} (uniform : Uniform backend) :
    Uniform (poll answers backend).backend := by
  rcases poll_cases answers backend with
    ⟨_, same, _⟩ | ⟨before, entry, after, _, split, same | same, _⟩
  · rw [same]
    exact uniform
  · rw [same]
    refine uniform_of_subset uniform rfl fun other member => ?_
    rw [requests, split, List.map_append, List.map_cons]
    simp only [requests, List.nil_append, List.map_append, List.mem_append, List.mem_cons]
      at member ⊢
    tauto
  · rw [same]
    refine uniform_of_subset uniform rfl fun other member => ?_
    rw [requests, split, List.map_append, List.map_cons]
    simp only [requests, List.nil_append, List.map_append, List.mem_append, List.mem_cons]
      at member ⊢
    tauto

/-- A reshape keeps the requests of one model, except halfway. -/
theorem uniform_reshape {bound : Nat} {shapes : List Shape} {answers : ReshapeAnswers}
    {backend : Backend} (sized : Sized bound backend) (some_ : 0 < bound)
    (uniform : Uniform backend) :
    Uniform (reshape shapes answers backend).backend <->
      ¬ Halfway backend (.reshape shapes answers) := by
  rcases sized.compiled with ⟨model, isModel, known⟩
  unfold reshape
  cases checked : reshapeChecks shapes answers backend with
  | error error =>
      refine ⟨fun _ halfway => ?_, fun _ => uniform⟩
      rcases halfway with ⟨impossible, _⟩
      rw [checked] at impossible
      cases impossible
  | ok done =>
      have idle := reshapeChecks_idle checked
      dsimp only
      cases compiled : answers.compiled with
      | some text =>
          refine ⟨fun _ halfway => ?_, fun _ request member => ?_⟩
          · rcases halfway with ⟨_, impossible, _⟩
            rw [compiled] at impossible
            cases impossible
          · rw [requests] at member
            dsimp only at member
            rw [idle] at member
            cases member
      | none =>
          rcases @makeRequests_cases answers.made backend.compilations backend.maxInFlight
            { backend with freeRequests := [], compilations := backend.compilations + 1 }
            with ⟨new, isBackend, _, ofModel, _⟩
          rcases @makeRequests_counts answers.made backend.compilations backend.maxInFlight
            { backend with freeRequests := [], compilations := backend.compilations + 1 }
            with ⟨all, first⟩
          rw [isBackend] at first
          rw [List.append_nil] at isBackend
          dsimp only at first ⊢
          have there : requests [] { backend with
              freeRequests := new, made := backend.made + new.length
              compilations := backend.compilations + 1 } = new := by
            rw [requests]
            dsimp only
            rw [idle, List.nil_append]
            exact List.append_nil new
          cases reply : (makeRequests answers.made backend.compilations backend.maxInFlight
            { backend with
              freeRequests := [], compilations := backend.compilations + 1 }).reply with
          | error error =>
              have stops : Exists fun index =>
                  index < backend.maxInFlight ∧ (answers.made index).isSome = true := by
                by_contra none_
                have impossible := all.mpr fun index below => by
                  by_contra isSome_
                  exact none_ ⟨index, below, Option.isSome_iff_ne_none.mpr isSome_⟩
                rw [reply] at impossible
                cases impossible
              dsimp only
              rw [isBackend]
              constructor
              · rintro kept ⟨_, _, isFirst, _⟩
                have some_' : new ≠ [] := by
                  intro empty
                  rw [empty] at first
                  rcases first.mp rfl with zero | isSome_
                  · exact absurd (sized.isBound.symm.trans zero) (Nat.ne_of_gt some_)
                  · rw [isFirst] at isSome_
                    cases isSome_
                rcases List.exists_mem_of_ne_nil new some_' with ⟨request, member⟩
                have same := kept request (by rw [there]; exact member)
                rw [ofModel request member] at same
                have same' := isModel.symm.trans same
                cases same'
                exact absurd known (Nat.lt_irrefl _)
              · intro whole request member
                rw [there] at member
                exfalso
                refine whole ⟨checked, compiled, ?_, stops⟩
                by_contra isSome_
                have empty := first.mpr (Or.inr (Option.isSome_iff_ne_none.mpr isSome_))
                have zero : new.length = 0 := by omega
                rw [List.length_eq_zero_iff.mp zero] at member
                cases member
          | ok done =>
              refine ⟨fun _ halfway => ?_, fun _ => ?_⟩
              · rcases halfway with ⟨_, _, _, index, below, isSome_⟩
                rw [all.mp reply index below] at isSome_
                cases isSome_
              · dsimp only
                rw [isBackend]
                have remade : forall inputInfos outputInfos : List TensorInfo,
                    Uniform { backend with
                      freeRequests := new, made := backend.made + new.length
                      compilations := backend.compilations + 1
                      compiledModel := some backend.compilations
                      inputInfos := inputInfos, outputInfos := outputInfos } := by
                  intro inputInfos outputInfos request member
                  have inNew : request ∈ new := by
                    rw [← there]
                    exact member
                  rw [ofModel request inNew]
                cases describeOutputs answers with
                | error error => exact remade _ _
                | ok infos => exact remade _ _

theorem uniform_step {bound : Nat} {event : Event} {world : World}
    (sized : Sized bound world.backend) (some_ : 0 < bound) (notInit : event.isInit = false)
    (uniform : Uniform world.backend) :
    Uniform (world.step event).backend <-> ¬ Halfway world.backend event := by
  cases event with
  | init options answers => cases notInit
  | submit inputs sequence answers => exact ⟨fun _ => id, fun _ => uniform_submit uniform⟩
  | poll answers => exact ⟨fun _ => id, fun _ => uniform_poll uniform⟩
  | cancel answers =>
      refine ⟨fun _ => id, fun _ => uniform_of_subset uniform rfl fun other member => ?_⟩
      change other ∈ world.backend.freeRequests ++ [] at member
      rw [List.append_nil] at member
      exact List.mem_append_left _ member
  | reshape shapes answers => exact uniform_reshape sized some_ uniform

theorem uniform_opened {options : Nat} {answers : InitAnswers}
    (opened : (Backend.init options answers .new).reply = .ok ()) :
    Uniform (Backend.init options answers .new).backend := by
  rcases init_opened opened with ⟨new, _, ofModel, same⟩
  rw [same]
  intro request member
  change request ∈ new ++ [] at member
  rw [List.append_nil] at member
  rw [ofModel request member]

/-- After one initialization all requests are of the compiled model, in every
state of a run, exactly if no reshape of the run has stopped halfway. -/
theorem models_agree_iff {options : Nat} {answers : InitAnswers} {events : List Event}
    (opened : (Backend.init options answers .new).reply = .ok ())
    (once : machine.Meets (fun _ event => event.isInit = false)
      (start.step (.init options answers)) events) :
    machine.Meets (fun world event => ¬ Halfway world.backend event)
        (start.step (.init options answers)) events <->
      forall before after world, events = before ++ after ->
        machine.run (start.step (.init options answers)) before = some world ->
        Uniform world.backend := by
  have positive : 0 < max 1 (min options 64) := Nat.lt_of_lt_of_le Nat.one_pos (Nat.le_max_left _ _)
  have rule : forall (events : List Event) (world : World),
      Sized (max 1 (min options 64)) world.backend -> Uniform world.backend ->
      machine.Meets (fun _ event => event.isInit = false) world events ->
      (machine.Meets (fun world event => ¬ Halfway world.backend event) world events <->
        forall before after final, events = before ++ after ->
          machine.run world before = some final -> Uniform final.backend) := by
    intro events
    induction events with
    | nil =>
        intro world _ uniform _
        refine ⟨fun _ before after final split reached => ?_, fun _ => trivial⟩
        rcases List.nil_eq_append_iff.mp split with ⟨rfl, rfl⟩
        cases reached
        exact uniform
    | cons event events ih =>
        intro world sized uniform meets
        have step := uniform_step sized positive meets.1 uniform
        have later := fun kept => ih (world.step event) (sized_step sized meets.1) kept
          (meets.2 _ rfl)
        constructor
        · intro whole before after final split reached
          have kept := step.mpr whole.1
          cases before with
          | nil =>
              cases reached
              exact uniform
          | cons first before =>
              cases split
              rcases machine.run_cons_iff.mp reached with ⟨next, stepped, rest⟩
              cases stepped
              exact (later kept).mp (whole.2 _ rfl) before after final rfl rest
        · intro all
          have kept := all [event] events (world.step event) rfl rfl
          refine ⟨step.mp kept, fun next stepped => ?_⟩
          cases stepped
          refine (later kept).mpr fun before after final split reached => ?_
          exact all (event :: before) after final (congrArg (List.cons event) split)
            (machine.run_cons_iff.mpr ⟨_, rfl, reached⟩)
  exact rule events _ (sized_opened opened) (uniform_opened opened) once

/-- The SDK makes the first of two requests and refuses the second. -/
def secondRefused : ReshapeAnswers :=
  ⟨fun _ => none, none, none, fun index => if index = 1 then none else some "no memory",
    .ok 0, .ok []⟩

theorem halfway_mixes :
    ¬ forall before after world, [Event.reshape [] secondRefused] = before ++ after ->
      machine.run (start.step (.init 2 ⟨.ok (), .ok (), [], [], .ok (), fun _ => none⟩)) before =
        some world -> Uniform world.backend := by
  intro uniform
  have whole := (@models_agree_iff 2 ⟨.ok (), .ok (), [], [], .ok (), fun _ => none⟩
    [.reshape [] secondRefused] rfl ⟨rfl, fun _ _ => trivial⟩).mpr uniform
  exact whole.1 ⟨rfl, rfl, rfl, 0, by decide, rfl⟩

/-! ## Synchronous runs -/

/-- Polls that find only one submission in flight answer for it. -/
theorem runPolls_own {polls : List PollAnswers} {backend : Backend} {calls : Calls}
    {entry : InFlightRequest} {outcome : Outcome (List (List UInt8))} {first : Nat -> Phase}
    {phases : Nat -> Phase} {outputs : List (List UInt8)} (only : backend.inFlight = [entry])
    (performed : requestUsage.perform first calls = some phases)
    (pooled : Pooled [] backend phases)
    (returned : runPolls polls backend calls = some outcome)
    (answered : outcome.reply = .ok outputs) :
    outcome.backend.inFlight = [] ∧ Exists fun waited => Exists fun final =>
      outcome.calls = waited ++ entry.request.calls
        (outputs.zipIdx.map fun output => Call.read output.2 output.1) ∧
      requestUsage.perform first waited = some final ∧
      final entry.request.handle = .ended entry.inputs := by
  induction polls generalizing backend calls phases with
  | nil => cases returned
  | cons answers later ih =>
      unfold runPolls at returned
      dsimp only at returned
      cases reply : (Backend.poll answers backend).reply with
      | error error =>
          rw [reply] at returned
          cases returned
          cases answered
      | ok found =>
          rw [reply] at returned
          rcases poll_cases answers backend with
            ⟨_, same, pending⟩ | ⟨before, polledEntry, after, _, split, left, isReady⟩
          · rw [pending] at reply
            cases reply
            dsimp only at returned
            rcases @poll_keeps answers backend phases pooled with ⟨next, waited, kept⟩
            rw [same] at returned kept
            exact ih only (requestUsage.perform_append performed waited) kept returned
          · rcases isReady found reply with ⟨found, rfl⟩
            cases returned
            cases answered
            rcases poll_reads pooled reply with ⟨other, waits, member, _, isCalls, waited, _⟩
            rw [only] at member split
            cases List.mem_singleton.mp member
            have empty : before ++ after = [] := by
              have length := congrArg List.length split
              simp only [List.length_append, List.length_cons, List.length_nil] at length
              exact List.append_eq_nil_iff.mpr
                ⟨List.length_eq_zero_iff.mp (by omega), List.length_eq_zero_iff.mp (by omega)⟩
            refine ⟨?_, calls ++ waits, _, ?_, requestUsage.perform_append performed waited,
              Function.update_self _ _ _⟩
            · rcases left with same | same <;> (dsimp only; rw [same]; exact empty)
            · rw [List.append_assoc, ← isCalls]

/-- A run that starts with nothing in flight answers with outputs of its own
inputs, and leaves nothing in flight. -/
theorem run_returns_own {events : List Event} {world : World} {inputs : List Input}
    {submitted : SubmitAnswers} {polls : List PollAnswers}
    {outcome : Outcome (List (List UInt8))} {outputs : List (List UInt8)}
    (reached : machine.run start events = some world) (idle : world.backend.inFlight = [])
    (returned : Backend.run inputs submitted polls world.backend = some outcome)
    (answered : outcome.reply = .ok outputs) :
    outcome.backend.inFlight = [] ∧ Exists fun request : Request => Exists fun tensors =>
      Exists fun waited => Exists fun phases =>
        Filled world.backend.inputInfos inputs tensors ∧
        outcome.calls = waited ++ request.calls
          (outputs.zipIdx.map fun output => Call.read output.2 output.1) ∧
        requestUsage.perform (fun _ => .absent) (world.log ++ waited) = some phases ∧
        phases request.handle = .ended tensors := by
  rcases (accounted_run reached).respected with ⟨phases, performed, pooled⟩
  rcases @submit_keeps inputs 0 submitted world.backend phases pooled with
    ⟨middle, submittedCalls, kept⟩
  unfold Backend.run at returned
  dsimp only at returned
  rcases submit_cases inputs 0 submitted world.backend with
    ⟨⟨error, refused⟩, _⟩ | ⟨accepted, request, tensors, taken, filled, grown⟩
  · rw [refused] at returned
    cases returned
    cases answered
  · rw [accepted] at returned
    have only : (Backend.submit inputs 0 submitted world.backend).backend.inFlight =
        [⟨request, tensors, 0⟩] := by
      rw [grown, takeFreeRequest_inFlight taken, idle]
      rfl
    rcases runPolls_own only submittedCalls kept returned answered with
      ⟨empty, waited, final, isCalls, respected, ended⟩
    exact ⟨empty, request, tensors, waited, final, filled, isCalls,
      requestUsage.perform_append performed respected, ended⟩

def pairOpened : World := machine.after start [.init 2 pairModel]

def firstReady : PollAnswers :=
  ⟨fun _ => .finished, none, fun _ => ⟨none, none, .ok [9, 9]⟩⟩

theorem idle_run_returns_own : Exists fun outcome =>
    Backend.run [.ok [5, 6]] pairStarted [firstReady] pairOpened.backend = some outcome ∧
      outcome.backend.inFlight = [] ∧ Exists fun request : Request => Exists fun tensors =>
        Exists fun waited => Exists fun phases =>
          Filled pairOpened.backend.inputInfos [.ok [5, 6]] tensors ∧
          outcome.calls = waited ++ request.calls
            (([[9, 9]] : List (List UInt8)).zipIdx.map fun output =>
              Call.read output.2 output.1) ∧
          requestUsage.perform (fun _ => .absent) (pairOpened.log ++ waited) = some phases ∧
          phases request.handle = .ended tensors :=
  ⟨_, rfl, @run_returns_own [.init 2 pairModel] pairOpened [.ok [5, 6]] pairStarted [firstReady]
    _ [[9, 9]] (machine.run_after rfl) rfl rfl rfl⟩

/-- With another submission in flight a run answers for that one, and its own is
left behind. -/
example :
    (Backend.run [.ok [5, 6]] pairStarted [firstReady] (machine.after start
      [.init 2 pairModel, .submit [.ok [1, 2]] 7 pairStarted]).backend).map
      (fun outcome => outcome.backend.inFlight.map InFlightRequest.sequence) = some [0] := rfl

end World
end Openvino
end DyunGu
