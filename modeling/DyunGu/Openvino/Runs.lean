import DyunGu.Openvino.Isolation

namespace DyunGu
namespace Openvino

open Core

/-!
# Runs of the OpenVINO backend

The operations come in any order, with any answers of the SDK.  Every accepted
submission is in flight, answered, failed or cancelled, exactly one of them, and
failures cost no capacity.
-/

namespace Backend

/-! ## What an operation leaves -/

theorem makeRequests_cases {answer : Nat -> Option String} {model count : Nat}
    {backend : Backend} :
    Exists fun new => (makeRequests answer model count backend).backend =
        { backend with
          freeRequests := new ++ backend.freeRequests, made := backend.made + new.length } ∧
      new.length <= count ∧ (forall request, request ∈ new -> request.model = model) ∧
      ((makeRequests answer model count backend).reply = .ok () -> new.length = count) := by
  induction count generalizing backend with
  | zero =>
      exact ⟨[], rfl, Nat.le_refl 0, fun _ impossible => (by cases impossible), fun _ => rfl⟩
  | succ count ih =>
      unfold makeRequests
      cases answer count with
      | some text =>
          exact ⟨[], rfl, Nat.zero_le _, fun _ impossible => (by cases impossible),
            fun impossible => by cases impossible⟩
      | none =>
          rcases @ih { backend with
            freeRequests := ⟨backend.made, model⟩ :: backend.freeRequests
            made := backend.made + 1 } with ⟨new, isBackend, few, ofModel, all⟩
          refine ⟨new ++ [⟨backend.made, model⟩], ?_, ?_, ?_, ?_⟩
          · refine isBackend.trans ?_
            rw [List.append_assoc, List.length_append]
            have sum : backend.made + 1 + new.length = backend.made + (new.length + 1) := by omega
            exact congrArg (fun made => ({ backend with
              freeRequests := new ++ ⟨backend.made, model⟩ :: backend.freeRequests
              made := made } : Backend)) sum
          · rw [List.length_append]
            exact Nat.succ_le_succ few
          · intro request member
            rcases List.mem_append.mp member with inNew | isFirst
            · exact ofModel request inNew
            · rw [List.mem_singleton.mp isFirst]
          · intro done
            rw [List.length_append, all done]
            rfl

/-- A free request is taken, or a new one is made while there is room. -/
theorem takeFreeRequest_cases {answer : Option String} {backend : Backend} {request : Request}
    (taken : (takeFreeRequest answer backend).reply = .ok request) :
    (Exists fun rest => backend.freeRequests = request :: rest ∧
      (takeFreeRequest answer backend).backend = { backend with freeRequests := rest }) ∨
    (backend.freeRequests = [] ∧ backend.inFlight.length < backend.maxInFlight ∧
      backend.compiledModel = some request.model ∧
      (takeFreeRequest answer backend).backend =
        { backend with made := backend.made + 1 }) := by
  unfold takeFreeRequest at taken ⊢
  cases free : backend.freeRequests with
  | cons first rest =>
      rw [free] at taken
      cases taken
      exact Or.inl ⟨rest, rfl, rfl⟩
  | nil =>
      rw [free] at taken
      dsimp only at taken ⊢
      by_cases full : backend.maxInFlight <= ([] : List Request).length + backend.inFlight.length
      · rw [if_pos full] at taken
        cases taken
      · rw [if_neg full] at taken ⊢
        cases compiled : backend.compiledModel with
        | none =>
            rw [compiled] at taken
            cases taken
        | some model =>
            rw [compiled] at taken
            cases answer with
            | some text => cases taken
            | none =>
                cases taken
                rw [List.length_nil] at full
                exact Or.inr ⟨rfl, by omega, rfl, rfl⟩

theorem takeFreeRequest_unchanged {answer : Option String} {backend : Backend} {error : Error}
    (refused : (takeFreeRequest answer backend).reply = .error error) :
    (takeFreeRequest answer backend).backend = backend := by
  unfold takeFreeRequest at refused ⊢
  cases free : backend.freeRequests with
  | cons first rest =>
      rw [free] at refused
      cases refused
  | nil =>
      rw [free] at refused
      dsimp only at refused ⊢
      split
      · rfl
      · rename_i room
        rw [if_neg room] at refused
        cases compiled : backend.compiledModel with
        | none => rfl
        | some model =>
            cases answer with
            | some text => rfl
            | none =>
                rw [compiled] at refused
                cases refused

/-- The tensors of a submission hold its inputs, described as the model says. -/
structure Filled (infos : List TensorInfo) (inputs : List Input) (tensors : List OvTensor) : Prop
  where
  bytes : inputs = tensors.map fun tensor => Except.ok tensor.bytes
  described : List.Forall₂ (fun info tensor => tensor.dims = info.shape.dims ∧
    mapElementType info.dtype = .ok tensor.elementType) infos tensors

theorem fillInputTensors_filled {answers : Nat -> TensorAnswer} {index : Nat}
    {infos : List TensorInfo} {inputs : List Input} {tensors : List OvTensor}
    (count : inputs.length = infos.length)
    (filled : fillInputTensors answers index infos inputs = .ok tensors) :
    Filled infos inputs tensors := by
  induction infos generalizing index inputs tensors with
  | nil =>
      rw [List.length_eq_zero_iff.mp count] at filled ⊢
      cases filled
      exact ⟨rfl, .nil⟩
  | cons info infos ih =>
      cases inputs with
      | nil => cases count
      | cons input inputs =>
          rcases Outcome.bind_ok filled with ⟨tensor, isTensor, rest⟩
          rcases Outcome.bind_ok rest with ⟨others, isOthers, same⟩
          cases same
          rcases ih (Nat.succ.inj count) isOthers with ⟨bytes, described⟩
          unfold fillInputTensor at isTensor
          rcases Outcome.bind_ok isTensor with ⟨_, _, rest⟩
          rcases Outcome.bind_ok rest with ⟨_, _, rest⟩
          rcases Outcome.bind_ok rest with ⟨elementType, isType, rest⟩
          rcases Outcome.bind_ok rest with ⟨size, _, rest⟩
          rcases Outcome.bind_ok rest with ⟨read, isRead, rest⟩
          have isInput := Outcome.mapError_ok isRead
          split at rest
          · cases rest
          · cases rest
            refine ⟨?_, .cons ⟨rfl, isType⟩ described⟩
            rw [isInput, bytes]
            rfl

/-- A refused submission leaves the backend, or costs a request that was free; an
accepted one is in flight after the others. -/
theorem submit_cases (inputs : List Input) (sequence : UInt64) (answers : SubmitAnswers)
    (backend : Backend) :
    ((Exists fun error => (submit inputs sequence answers backend).reply = .error error) ∧
      ((submit inputs sequence answers backend).backend = backend ∨
        Exists fun request => (takeFreeRequest answers.created backend).reply = .ok request ∧
          (submit inputs sequence answers backend).backend =
            (takeFreeRequest answers.created backend).backend)) ∨
    ((submit inputs sequence answers backend).reply = .ok () ∧
      Exists fun request => Exists fun tensors =>
        (takeFreeRequest answers.created backend).reply = .ok request ∧
        Filled backend.inputInfos inputs tensors ∧
        (submit inputs sequence answers backend).backend =
          { (takeFreeRequest answers.created backend).backend with
            inFlight := (takeFreeRequest answers.created backend).backend.inFlight ++
              [⟨request, tensors, sequence⟩] }) := by
  unfold submit
  by_cases count : inputs.length ≠ backend.inputInfos.length
  · rw [if_pos count]
    exact Or.inl ⟨⟨_, rfl⟩, Or.inl rfl⟩
  rw [if_neg count]
  cases filled : fillInputTensors answers.tensors 0 backend.inputInfos inputs with
  | error error => exact Or.inl ⟨⟨error, rfl⟩, Or.inl rfl⟩
  | ok tensors =>
      dsimp only
      cases taken : (takeFreeRequest answers.created backend).reply with
      | error error => exact Or.inl ⟨⟨error, rfl⟩, Or.inl (takeFreeRequest_unchanged taken)⟩
      | ok request =>
          dsimp only
          cases setInputs answers.set 0 tensors with
          | mk sets result =>
              cases result with
              | error error => exact Or.inl ⟨⟨error, rfl⟩, Or.inr ⟨request, rfl, rfl⟩⟩
              | ok done =>
                  cases answers.started with
                  | some text => exact Or.inl ⟨⟨_, rfl⟩, Or.inr ⟨request, rfl, rfl⟩⟩
                  | none =>
                      exact Or.inr ⟨rfl, request, tensors, rfl,
                        fillInputTensors_filled (not_not.mp count) filled, rfl⟩

theorem takeReady_of_some {answers : Nat -> Wait} {index : Nat}
    {entries rest : List InFlightRequest} {entry : InFlightRequest} {waits : Calls}
    (taken : takeReady answers index entries = (waits, some (entry, rest))) :
    Exists fun before => Exists fun after =>
      entries = before ++ entry :: after ∧ rest = before ++ after := by
  induction entries generalizing index rest waits with
  | nil => cases taken
  | cons first entries ih =>
      unfold takeReady at taken
      cases answer : answers index with
      | finished =>
          rw [answer] at taken
          cases taken
          exact ⟨[], _, rfl, rfl⟩
      | failed =>
          rw [answer] at taken
          cases taken
          exact ⟨[], _, rfl, rfl⟩
      | notReady =>
          rw [answer] at taken
          dsimp only at taken
          cases later : takeReady answers (index + 1) entries with
          | mk calls found =>
              rw [later] at taken
              cases found with
              | none => cases taken
              | some found =>
                  cases taken
                  rcases ih later with ⟨before, after, split, isRest⟩
                  refine ⟨first :: before, after, ?_, ?_⟩
                  · rw [split]
                    rfl
                  · rw [isRest]
                    rfl

theorem takeReady_blind {answers others : Nat -> Wait} {index : Nat}
    {entries : List InFlightRequest}
    (same : forall index, answers index = .notReady <-> others index = .notReady) :
    (takeReady answers index entries).2 = (takeReady others index entries).2 := by
  induction entries generalizing index with
  | nil => rfl
  | cons entry entries ih =>
      have here := same index
      unfold takeReady
      cases answer : answers index with
      | notReady =>
          rw [here.mp answer]
          exact congrArg (Option.map _) ih
      | finished =>
          rw [answer] at here
          cases other : others index with
          | notReady => cases here.mpr other
          | finished => rfl
          | failed => rfl
      | failed =>
          rw [answer] at here
          cases other : others index with
          | notReady => cases here.mpr other
          | finished => rfl
          | failed => rfl

/-- A poll does not tell an inference that has failed from one that has finished:
if its request still has outputs, they are the answer. -/
theorem poll_blind {answers others : PollAnswers} (backend : Backend)
    (same : forall index, answers.waits index = .notReady <-> others.waits index = .notReady)
    (first : answers.first = others.first) (outputs : answers.outputs = others.outputs) :
    (poll answers backend).reply = (poll others backend).reply ∧
      (poll answers backend).backend = (poll others backend).backend := by
  have ready := @takeReady_blind _ _ 0 backend.inFlight same
  unfold poll
  rw [first, outputs]
  cases taken : takeReady answers.waits 0 backend.inFlight with
  | mk waits found =>
      cases other : takeReady others.waits 0 backend.inFlight with
      | mk otherWaits otherFound =>
          rw [taken, other] at ready
          cases ready
          cases found with
          | none => exact ⟨rfl, rfl⟩
          | some found =>
              dsimp only
              cases others.first with
              | some text => exact ⟨rfl, rfl⟩
              | none =>
                  dsimp only
                  cases copyOutputTensors others.outputs 0 backend.outputInfos with
                  | mk reads result => cases result <;> exact ⟨rfl, rfl⟩

/-- The submission that a poll is about. -/
def polled (answers : PollAnswers) (backend : Backend) : Option InFlightRequest :=
  (takeReady answers.waits 0 backend.inFlight).2.map Prod.fst

/-- A poll finds nothing, or it is about one submission that leaves, and whose
request is given back or given up. -/
theorem poll_cases (answers : PollAnswers) (backend : Backend) :
    (polled answers backend = none ∧ (poll answers backend).backend = backend ∧
      (poll answers backend).reply = .ok .pending) ∨
    Exists fun before => Exists fun entry => Exists fun after =>
      polled answers backend = some entry ∧ backend.inFlight = before ++ entry :: after ∧
      ((poll answers backend).backend = { backend with
          inFlight := before ++ after, freeRequests := entry.request :: backend.freeRequests } ∨
        (poll answers backend).backend = { backend with inFlight := before ++ after }) ∧
      forall found, (poll answers backend).reply = .ok found ->
        Exists fun outputs => found = .ready outputs entry.sequence := by
  unfold poll polled
  cases taken : takeReady answers.waits 0 backend.inFlight with
  | mk waits ready =>
      cases ready with
      | none => exact Or.inl ⟨rfl, rfl, rfl⟩
      | some ready =>
          rcases ready with ⟨entry, entries⟩
          rcases takeReady_of_some taken with ⟨before, after, split, rfl⟩
          refine Or.inr ⟨before, entry, after, rfl, split, ?_⟩
          dsimp only
          cases answers.first with
          | some text => exact ⟨Or.inl rfl, fun _ impossible => by cases impossible⟩
          | none =>
              dsimp only
              cases copyOutputTensors answers.outputs 0 backend.outputInfos with
              | mk reads result =>
                  cases result with
                  | error error => exact ⟨Or.inr rfl, fun _ impossible => by cases impossible⟩
                  | ok outputs =>
                      refine ⟨Or.inl rfl, fun found same => ?_⟩
                      cases same
                      exact ⟨outputs, rfl⟩

/-- A reshape changes nothing, gives up all requests, or makes some or all of
them again. -/
theorem reshape_cases (shapes : List Shape) (answers : ReshapeAnswers) (backend : Backend) :
    (reshape shapes answers backend).backend = backend ∨
    (reshapeChecks shapes answers backend = .ok () ∧
      ((reshape shapes answers backend).backend = { backend with freeRequests := [] } ∨
        Exists fun new => new.length <= backend.maxInFlight ∧
          (forall request, request ∈ new -> request.model = backend.compilations) ∧
          ((reshape shapes answers backend).backend = { backend with
              freeRequests := new, made := backend.made + new.length
              compilations := backend.compilations + 1 } ∨
            Exists fun inputInfos => Exists fun outputInfos =>
              (reshape shapes answers backend).backend = { backend with
                freeRequests := new, made := backend.made + new.length
                compilations := backend.compilations + 1
                compiledModel := some backend.compilations
                inputInfos := inputInfos, outputInfos := outputInfos }))) := by
  unfold reshape
  cases checked : reshapeChecks shapes answers backend with
  | error error => exact Or.inl rfl
  | ok done =>
      refine Or.inr ⟨rfl, ?_⟩
      dsimp only
      cases answers.compiled with
      | some text => exact Or.inl rfl
      | none =>
          rcases @makeRequests_cases answers.made backend.compilations backend.maxInFlight
            { backend with freeRequests := [], compilations := backend.compilations + 1 }
            with ⟨new, isBackend, few, ofModel, _⟩
          rw [List.append_nil] at isBackend
          refine Or.inr ⟨new, few, ofModel, ?_⟩
          dsimp only
          cases (makeRequests answers.made backend.compilations backend.maxInFlight
            { backend with
              freeRequests := [], compilations := backend.compilations + 1 }).reply with
          | error error => exact Or.inl isBackend
          | ok done =>
              refine Or.inr ?_
              dsimp only
              rw [isBackend]
              cases describeOutputs answers with
              | error error => exact ⟨_, _, rfl⟩
              | ok infos => exact ⟨_, _, rfl⟩

theorem init_inFlight (options : Nat) (answers : InitAnswers) (backend : Backend) :
    (init options answers backend).backend.inFlight = backend.inFlight := by
  unfold init
  cases answers.contract with
  | error error => rfl
  | ok done =>
      dsimp only
      cases answers.prepared with
      | error error => rfl
      | ok done =>
          rcases @makeRequests_cases answers.made backend.compilations (max 1 (min options 64))
            { backend with
              maxInFlight := max 1 (min options 64), compilations := backend.compilations + 1 }
            with ⟨new, isBackend, _⟩
          dsimp only
          split <;> (dsimp only; rw [isBackend])

theorem reshape_inFlight (shapes : List Shape) (answers : ReshapeAnswers) (backend : Backend) :
    (reshape shapes answers backend).backend.inFlight = backend.inFlight := by
  rcases reshape_cases shapes answers backend with
    same | ⟨_, same | ⟨_, _, _, same | ⟨_, _, same⟩⟩⟩ <;> rw [same]

theorem takeFreeRequest_inFlight {answer : Option String} {backend : Backend}
    {request : Request} (taken : (takeFreeRequest answer backend).reply = .ok request) :
    (takeFreeRequest answer backend).backend.inFlight = backend.inFlight := by
  rcases takeFreeRequest_cases taken with ⟨_, _, same⟩ | ⟨_, _, _, same⟩ <;> rw [same]

end Backend

open Backend

/-! ## Histories -/

inductive Event where
  | init (options : Nat) (answers : InitAnswers)
  | submit (inputs : List Input) (sequence : UInt64) (answers : SubmitAnswers)
  | poll (answers : PollAnswers)
  | cancel (answers : Nat -> Bool)
  | reshape (shapes : List Shape) (answers : ReshapeAnswers)

def Event.isInit : Event -> Bool
  | .init _ _ => true
  | _ => false

/-- What became of a submission. -/
inductive Fate where
  | answered (outputs : List (List UInt8))
  | failed
  | cancelled
deriving DecidableEq, Repr

def Fate.ofReply : Except Error InferPoll -> Fate
  | .ok (.ready outputs _) => .answered outputs
  | _ => .failed

/-- The backend with all calls it has made, and its submissions. -/
structure World where
  backend : Backend
  log : Calls
  accepted : List InFlightRequest
  settled : List (InFlightRequest × Fate)

namespace World

def start : World := ⟨.new, [], [], []⟩

def step (world : World) : Event -> World
  | .init options answers =>
      let outcome := Backend.init options answers world.backend
      { world with backend := outcome.backend, log := world.log ++ outcome.calls }
  | .submit inputs sequence answers =>
      let outcome := Backend.submit inputs sequence answers world.backend
      { world with
        backend := outcome.backend
        log := world.log ++ outcome.calls
        accepted := world.accepted ++
          outcome.backend.inFlight.drop world.backend.inFlight.length }
  | .poll answers =>
      let outcome := Backend.poll answers world.backend
      { world with
        backend := outcome.backend
        log := world.log ++ outcome.calls
        settled := world.settled ++
          ((polled answers world.backend).map fun entry =>
            (entry, Fate.ofReply outcome.reply)).toList }
  | .cancel answers =>
      let outcome := Backend.cancel answers world.backend
      { world with
        backend := outcome.backend
        log := world.log ++ outcome.calls
        settled := world.settled ++ world.backend.inFlight.map fun entry => (entry, .cancelled) }
  | .reshape shapes answers =>
      let outcome := Backend.reshape shapes answers world.backend
      { world with backend := outcome.backend, log := world.log ++ outcome.calls }

def machine : Machine World Event := ⟨fun world event => some (world.step event)⟩

/-- The submission of a history that an accepted one was made by. -/
def Submitted (events : List Event) (entry : InFlightRequest) : Prop :=
  Exists fun before => Exists fun answers => Exists fun after =>
    events = before ++
      .submit (entry.inputs.map fun tensor => .ok tensor.bytes) entry.sequence answers :: after

theorem Submitted.append {events : List Event} {entry : InFlightRequest}
    (submitted : Submitted events entry) (event : Event) :
    Submitted (events ++ [event]) entry := by
  rcases submitted with ⟨before, answers, after, split⟩
  refine ⟨before, answers, after ++ [event], ?_⟩
  rw [split, List.append_assoc]
  rfl

/-- The requests have been used as they allow, and every accepted submission is
in flight or settled. -/
structure Accounted (events : List Event) (world : World) : Prop where
  respected : Exists fun phases =>
    requestUsage.perform (fun _ => .absent) world.log = some phases ∧
      Pooled [] world.backend phases
  ledger : world.accepted.Perm (world.settled.map Prod.fst ++ world.backend.inFlight)
  submitted : forall entry, entry ∈ world.accepted -> Submitted events entry

/-- Calls that keep the pool can follow any history. -/
theorem Accounted.continued {events : List Event} {world : World} {calls : Calls}
    {backend : Backend} (accounted : Accounted events world)
    (keeps : forall phases, Pooled [] world.backend phases -> Keeps phases calls [] backend) :
    Exists fun phases => requestUsage.perform (fun _ => .absent) (world.log ++ calls) =
      some phases ∧ Pooled [] backend phases := by
  rcases accounted.respected with ⟨phases, performed, pooled⟩
  rcases keeps phases pooled with ⟨final, later, kept⟩
  exact ⟨final, requestUsage.perform_append performed later, kept⟩

theorem accounted_step {events : List Event} {event : Event} {world : World}
    (accounted : Accounted events world) : Accounted (events ++ [event]) (world.step event) := by
  have earlier : forall entry, entry ∈ world.accepted -> Submitted (events ++ [event]) entry :=
    fun entry member => (accounted.submitted entry member).append event
  cases event with
  | init options answers =>
      refine ⟨accounted.continued fun phases => init_keeps, ?_, earlier⟩
      have same := init_inFlight options answers world.backend
      exact same ▸ accounted.ledger
  | submit inputs sequence answers =>
      have respected := accounted.continued fun phases =>
        @submit_keeps inputs sequence answers world.backend phases
      have taken : forall request,
          (takeFreeRequest answers.created world.backend).reply = .ok request ->
          (takeFreeRequest answers.created world.backend).backend.inFlight =
            world.backend.inFlight := fun _ => takeFreeRequest_inFlight
      rcases submit_cases inputs sequence answers world.backend with
        ⟨_, left⟩ | ⟨_, request, tensors, isTaken, filled, grown⟩
      · have same : (Backend.submit inputs sequence answers world.backend).backend.inFlight =
            world.backend.inFlight := by
          rcases left with same | ⟨request, isTaken, same⟩
          · rw [same]
          · rw [same]
            exact taken request isTaken
        have none_ : (Backend.submit inputs sequence answers world.backend).backend.inFlight.drop
            world.backend.inFlight.length = [] := by
          rw [same]
          exact List.drop_length
        refine ⟨respected, ?_, ?_⟩
        · change (world.accepted ++ _).Perm (world.settled.map Prod.fst ++
            (Backend.submit inputs sequence answers world.backend).backend.inFlight)
          rw [none_, List.append_nil, same]
          exact accounted.ledger
        · intro entry member
          change entry ∈ world.accepted ++ _ at member
          rw [none_, List.append_nil] at member
          exact earlier entry member
      · have inFlight : (Backend.submit inputs sequence answers world.backend).backend.inFlight =
            world.backend.inFlight ++ [⟨request, tensors, sequence⟩] := by
          rw [grown, taken request isTaken]
        have new : (Backend.submit inputs sequence answers world.backend).backend.inFlight.drop
            world.backend.inFlight.length = [⟨request, tensors, sequence⟩] := by
          rw [inFlight]
          exact List.drop_left
        refine ⟨respected, ?_, ?_⟩
        · change (world.accepted ++ _).Perm (world.settled.map Prod.fst ++
            (Backend.submit inputs sequence answers world.backend).backend.inFlight)
          rw [new, inFlight, ← List.append_assoc]
          exact accounted.ledger.append_right _
        · intro entry member
          change entry ∈ world.accepted ++ _ at member
          rw [new] at member
          rcases List.mem_append.mp member with isEarlier | isNew
          · exact earlier entry isEarlier
          · rw [List.mem_singleton.mp isNew]
            refine ⟨events, answers, [], ?_⟩
            rw [← filled.bytes]
  | poll answers =>
      refine ⟨accounted.continued fun phases => poll_keeps, ?_, earlier⟩
      change world.accepted.Perm ((world.settled ++ _).map Prod.fst ++
        (Backend.poll answers world.backend).backend.inFlight)
      rcases poll_cases answers world.backend with
        ⟨isNone, same, _⟩ | ⟨before, entry, after, isPolled, split, left, _⟩
      · rw [isNone, same]
        change world.accepted.Perm ((world.settled ++ []).map Prod.fst ++ _)
        rw [List.append_nil]
        exact accounted.ledger
      · have inFlight : (Backend.poll answers world.backend).backend.inFlight =
            before ++ after := by
          rcases left with same | same <;> rw [same]
        rw [isPolled, inFlight, List.map_append]
        change world.accepted.Perm ((world.settled.map Prod.fst ++ [entry]) ++ _)
        refine accounted.ledger.trans ?_
        rw [split, List.append_assoc]
        exact List.perm_middle.append_left _
  | cancel answers =>
      refine ⟨accounted.continued fun phases => cancelAll_keeps rfl, ?_, earlier⟩
      change world.accepted.Perm ((world.settled ++ _).map Prod.fst ++ [])
      rw [List.append_nil, List.map_append, List.map_map]
      have cancelled : world.backend.inFlight.map
          (Prod.fst ∘ fun entry => (entry, Fate.cancelled)) = world.backend.inFlight :=
        List.map_id _
      rw [cancelled]
      exact accounted.ledger
  | reshape shapes answers =>
      refine ⟨accounted.continued fun phases => reshape_keeps, ?_, earlier⟩
      have same := reshape_inFlight shapes answers world.backend
      exact same ▸ accounted.ledger

theorem accounted_run {events : List Event} {world : World}
    (reached : machine.run start events = some world) : Accounted events world := by
  refine machine.run_history Accounted ?_ ?_ reached
  · intro events event state next _ accounted stepped
    cases stepped
    exact accounted_step accounted
  · refine ⟨⟨_, rfl, .of_new⟩, .refl _, fun entry impossible => by cases impossible⟩

/-! ## Answers are of their submissions -/

/-- What an answering poll asks of the requests: the one it is about has ended,
and its outputs are read in their order. -/
theorem poll_reads {answers : PollAnswers} {backend : Backend} {phases : Nat -> Phase}
    {outputs : List (List UInt8)} {sequence : UInt64} (pooled : Pooled [] backend phases)
    (answered : (Backend.poll answers backend).reply = .ok (.ready outputs sequence)) :
    Exists fun entry => Exists fun waits => entry ∈ backend.inFlight ∧
      entry.sequence = sequence ∧
      (Backend.poll answers backend).calls = waits ++ entry.request.calls
        (outputs.zipIdx.map fun output => Call.read output.2 output.1) ∧
      requestUsage.perform phases waits =
        some (Function.update phases entry.request.handle (.ended entry.inputs)) ∧
      List.Forall₂ (fun info output => outputBytes info = .ok output.length)
        backend.outputInfos outputs := by
  have found := @takeReady_split answers.waits 0 backend.inFlight phases pooled.running
  unfold Backend.poll at answered ⊢
  cases taken : takeReady answers.waits 0 backend.inFlight with
  | mk waits ready =>
      rw [taken] at found answered
      cases ready with
      | none => cases answered
      | some ready =>
          rcases ready with ⟨entry, entries⟩
          rcases found with ⟨before, after, split, rfl, performed⟩
          dsimp only at answered ⊢
          cases first : answers.first with
          | some text =>
              rw [first] at answered
              cases answered
          | none =>
              rw [first] at answered
              have reads := (@copyOutputTensors_reads answers.outputs 0 backend.outputInfos
                entry.inputs).2
              dsimp only at answered ⊢
              cases copied : copyOutputTensors answers.outputs 0 backend.outputInfos with
              | mk calls result =>
                  rw [copied] at reads answered
                  cases result with
                  | error error => cases answered
                  | ok found =>
                      cases answered
                      rcases reads outputs rfl with ⟨isReads, lengths⟩
                      dsimp only at isReads
                      refine ⟨entry, waits, ?_, rfl, ?_, performed, lengths⟩
                      · rw [split]
                        exact List.mem_append_right _ List.mem_cons_self
                      · dsimp only
                        rw [isReads]

/-- In every history, what a poll answers under a sequence number was read from a
request that had been given the inputs of the submission with that number, was
started then, and has not been touched since but to wait for it. -/
theorem answer_isolated {events : List Event} {world : World} {answers : PollAnswers}
    {outputs : List (List UInt8)} {sequence : UInt64}
    (reached : machine.run start events = some world)
    (answered : (Backend.poll answers world.backend).reply = .ok (.ready outputs sequence)) :
    Exists fun entry => Exists fun waits => Exists fun phases =>
      Submitted events entry ∧ entry ∈ world.backend.inFlight ∧ entry.sequence = sequence ∧
      (Backend.poll answers world.backend).calls = waits ++ entry.request.calls
        (outputs.zipIdx.map fun output => Call.read output.2 output.1) ∧
      requestUsage.perform (fun _ => .absent) (world.log ++ waits) = some phases ∧
      phases entry.request.handle = .ended entry.inputs ∧
      List.Forall₂ (fun info output => outputBytes info = .ok output.length)
        world.backend.outputInfos outputs := by
  have accounted := accounted_run reached
  rcases accounted.respected with ⟨phases, performed, pooled⟩
  rcases poll_reads pooled answered with
    ⟨entry, waits, member, isSequence, calls, waited, lengths⟩
  have wasAccepted : entry ∈ world.accepted :=
    accounted.ledger.mem_iff.mpr (List.mem_append_right _ member)
  exact ⟨entry, waits, _, accounted.submitted entry wasAccepted, member, isSequence, calls,
    requestUsage.perform_append performed waited, Function.update_self _ _ _, lengths⟩

/-- A model with one input and one output of two bytes. -/
def pairOfBytes : TensorInfo := ⟨some "pair", ⟨[2]⟩, ⟨.uint, 8, 1⟩, some .auto, .cpu⟩

def pairModel : InitAnswers :=
  ⟨.ok (), .ok (), [pairOfBytes], [pairOfBytes], .ok (), fun _ => none⟩

def pairStarted : SubmitAnswers := ⟨fun _ => ⟨none, .ok 2⟩, none, fun _ => none, none⟩

def twoSubmissions : List Event :=
  [.init 2 pairModel, .submit [.ok [1, 2]] 7 pairStarted, .submit [.ok [3, 4]] 8 pairStarted]

def twoInFlight : World := machine.after start twoSubmissions

/-- The second submission is ready before the first. -/
def secondReady : PollAnswers :=
  ⟨fun index => if index = 1 then .finished else .notReady, none, fun _ => ⟨none, none, .ok [9, 9]⟩⟩

theorem second_answered :
    Exists fun entry => Exists fun waits => Exists fun phases =>
      Submitted twoSubmissions entry ∧ entry ∈ twoInFlight.backend.inFlight ∧
      entry.sequence = 8 ∧
      (Backend.poll secondReady twoInFlight.backend).calls = waits ++ entry.request.calls
        ([([9, 9], 0)].map fun output => Call.read output.2 output.1) ∧
      requestUsage.perform (fun _ => .absent) (twoInFlight.log ++ waits) = some phases ∧
      phases entry.request.handle = .ended entry.inputs ∧
      List.Forall₂ (fun info output => outputBytes info = .ok output.length)
        twoInFlight.backend.outputInfos ([[9, 9]] : List (List UInt8)) :=
  @answer_isolated twoSubmissions twoInFlight secondReady [[9, 9]] 8 (machine.run_after rfl) rfl

end World
end Openvino
end DyunGu
