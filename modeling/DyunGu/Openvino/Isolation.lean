import DyunGu.Lib.Machine
import DyunGu.Lib.Usage
import DyunGu.Openvino.Requests
import Mathlib.Data.List.Perm.Basic
import Mathlib.Data.List.Nodup

namespace DyunGu
namespace Openvino

open Core

/-!
# Requests are used by one submission at a time

A request is given its inputs, started, waited for and read, in this order, and
nothing touches it in between.  So what a poll reads from a request was computed
for the inputs of the submission that it names.
-/

/-- The phases of a request.  A request that was started and is no longer waited
for has ended; its outputs are there until it is given other inputs. -/
inductive Phase where
  | absent
  | resting (bound : List OvTensor)
  | running (inputs : List OvTensor)
  | ended (inputs : List OvTensor)
  | abandoned
  | released
deriving DecidableEq, Repr

/-- What the backend may ask of a request.  A request in use is released only
when its cancellation has failed. -/
def requestUsage : Usage Phase Call where
  next
    | .absent, .create _ => some (.resting [])
    | .resting bound, .set index tensor =>
        if index = bound.length then some (.resting (bound ++ [tensor])) else none
    | .ended _, .set index tensor => if index = 0 then some (.resting [tensor]) else none
    | .resting bound, .start true => some (.running bound)
    | .resting bound, .start false => some (.resting bound)
    | .ended _, .start true => some (.running [])
    | .ended _, .start false => some (.resting [])
    | .running inputs, .wait .notReady => some (.running inputs)
    | .running inputs, .wait .finished => some (.ended inputs)
    | .running inputs, .wait .failed => some (.ended inputs)
    | .ended inputs, .read _ _ => some (.ended inputs)
    | .running inputs, .cancel true => some (.ended inputs)
    | .running _, .cancel false => some .abandoned
    | .resting _, .release => some .released
    | .ended _, .release => some .released
    | .abandoned, .release => some .released
    | _, _ => none

/-- A request that may be given inputs from the first one on. -/
inductive Reusable : Phase -> Prop where
  | resting : Reusable (.resting [])
  | ended (inputs : List OvTensor) : Reusable (.ended inputs)

theorem Reusable.released {phase : Phase} (reusable : Reusable phase) :
    requestUsage.after phase [.release] = some .released := by
  cases reusable with
  | resting => rfl
  | ended inputs => rfl

/-! ## The pool -/

/-- The requests there are, those in hand first. -/
def requests (held : List Request) (backend : Backend) : List Request :=
  held ++ backend.freeRequests ++ backend.inFlight.map InFlightRequest.request

/-- Every request is in one place, in the phase that belongs there, and the
others are released. -/
structure Pooled (held : List Request) (backend : Backend) (phases : Nat -> Phase) : Prop where
  distinct : ((requests held backend).map Request.handle).Nodup
  named : forall request, request ∈ requests held backend -> request.handle < backend.made
  absent : forall handle, backend.made <= handle -> phases handle = .absent
  reusable : forall request, request ∈ held ++ backend.freeRequests ->
    Reusable (phases request.handle)
  running : forall entry, entry ∈ backend.inFlight ->
    phases entry.request.handle = .running entry.inputs
  released : forall handle, handle < backend.made ->
    handle ∉ (requests held backend).map Request.handle -> phases handle = .released

namespace Pooled

variable {held : List Request} {backend : Backend} {phases : Nat -> Phase}

theorem of_new : Pooled [] Backend.new fun _ => .absent where
  distinct := List.nodup_nil
  named := fun _ impossible => by cases impossible
  absent := fun _ _ => rfl
  reusable := fun _ impossible => by cases impossible
  running := fun _ impossible => by cases impossible
  released := fun _ impossible => absurd impossible (Nat.not_lt_zero _)

/-- The same requests in other places. -/
theorem moved {other : Backend} {kept : List Request} (pooled : Pooled held backend phases)
    (same : (requests kept other).Perm (requests held backend)) (made : other.made = backend.made)
    (reusable : forall request, request ∈ kept ++ other.freeRequests ->
      request ∈ held ++ backend.freeRequests)
    (inFlight : other.inFlight = backend.inFlight) : Pooled kept other phases where
  distinct := (same.map Request.handle).nodup_iff.mpr pooled.distinct
  named := fun request member => by
    rw [made]
    exact pooled.named request (same.mem_iff.mp member)
  absent := fun handle above => pooled.absent handle (made ▸ above)
  reusable := fun request member => pooled.reusable request (reusable request member)
  running := fun entry member => pooled.running entry (inFlight ▸ member)
  released := fun handle below notThere => by
    refine pooled.released handle (made ▸ below) fun there => notThere ?_
    exact (same.map Request.handle).mem_iff.mpr there

theorem take {request : Request} {rest : List Request} (pooled : Pooled held backend phases)
    (free : backend.freeRequests = request :: rest) :
    Pooled (request :: held) { backend with freeRequests := rest } phases := by
  refine pooled.moved ?_ rfl ?_ rfl
  · rw [requests, requests, free]
    exact (List.perm_middle.symm.append_right _)
  · intro member there
    rw [free]
    rcases List.mem_append.mp there with inHand | inRest
    · rcases List.mem_cons.mp inHand with rfl | inHeld
      · exact List.mem_append_right _ List.mem_cons_self
      · exact List.mem_append_left _ inHeld
    · exact List.mem_append_right _ (List.mem_cons_of_mem _ inRest)

theorem giveBack {request : Request} (pooled : Pooled (request :: held) backend phases) :
    Pooled held { backend with freeRequests := request :: backend.freeRequests } phases := by
  refine pooled.moved ?_ rfl ?_ rfl
  · rw [requests, requests]
    exact List.perm_middle.append_right _
  · intro member there
    rcases List.mem_append.mp there with inHeld | inFree
    · exact List.mem_append_left _ (List.mem_cons_of_mem _ inHeld)
    · rcases List.mem_cons.mp inFree with rfl | inRest
      · exact List.mem_append_left _ List.mem_cons_self
      · exact List.mem_append_right _ inRest

/-- The handle of a request in hand is that of no other. -/
theorem head_apart {request : Request} (pooled : Pooled (request :: held) backend phases) :
    forall other, other ∈ requests held backend -> other.handle ≠ request.handle := by
  intro other member same
  have distinct := pooled.distinct
  rw [requests, List.cons_append, List.cons_append, List.map_cons, List.nodup_cons] at distinct
  exact distinct.1 (same ▸ List.mem_map_of_mem member)

/-- What becomes of a request in hand does not change the others. -/
theorem dropped {request : Request} (pooled : Pooled (request :: held) backend phases) :
    Pooled held backend (Function.update phases request.handle .released) := by
  have apart := pooled.head_apart
  have distinct := pooled.distinct
  rw [requests, List.cons_append, List.cons_append, List.map_cons, List.nodup_cons] at distinct
  have below : request.handle < backend.made := pooled.named request (by
    rw [requests]
    exact List.mem_append_left _ (List.mem_append_left _ List.mem_cons_self))
  refine ⟨distinct.2, ?_, ?_, ?_, ?_, ?_⟩
  · intro other member
    refine pooled.named other ?_
    rw [requests, List.cons_append, List.cons_append]
    exact List.mem_cons_of_mem _ member
  · intro handle above
    rw [Function.update_of_ne (by omega)]
    exact pooled.absent handle above
  · intro other member
    rw [Function.update_of_ne (apart other (List.mem_append_left _ member))]
    refine pooled.reusable other ?_
    rw [List.cons_append]
    exact List.mem_cons_of_mem _ member
  · intro entry member
    rw [Function.update_of_ne (apart entry.request
      (List.mem_append_right _ (List.mem_map_of_mem member)))]
    exact pooled.running entry member
  · intro handle small notThere
    by_cases same : handle = request.handle
    · rw [same, Function.update_self]
    · rw [Function.update_of_ne same]
      refine pooled.released handle small fun there => ?_
      rw [requests, List.cons_append, List.cons_append, List.map_cons, List.mem_cons] at there
      rcases there with isRequest | isOther
      · exact same isRequest
      · exact notThere isOther

/-- A request in hand is started. -/
theorem started {request : Request} (pooled : Pooled (request :: held) backend phases)
    (inputs : List OvTensor) (sequence : UInt64) :
    Pooled held { backend with inFlight := backend.inFlight ++ [⟨request, inputs, sequence⟩] }
      (Function.update phases request.handle (.running inputs)) := by
  have apart := pooled.head_apart
  have same : (requests held { backend with
      inFlight := backend.inFlight ++ [⟨request, inputs, sequence⟩] }).Perm
      (requests (request :: held) backend) := by
    rw [requests, requests, List.map_append, ← List.append_assoc]
    exact List.perm_append_comm
  refine ⟨(same.map Request.handle).nodup_iff.mpr pooled.distinct, ?_, ?_, ?_, ?_, ?_⟩
  · exact fun other member => pooled.named other (same.mem_iff.mp member)
  · intro handle above
    have below := pooled.named request (same.mem_iff.mp (same.mem_iff.mpr List.mem_cons_self))
    have differs : handle ≠ request.handle := fun equal => absurd above (by
      rw [equal]
      exact Nat.not_le.mpr below)
    rw [Function.update_of_ne differs]
    exact pooled.absent handle above
  · intro other member
    rw [Function.update_of_ne (apart other (List.mem_append_left _ member))]
    exact pooled.reusable other (List.mem_cons_of_mem _ member)
  · intro entry member
    rcases List.mem_append.mp member with earlier | isNew
    · rw [Function.update_of_ne (apart entry.request
        (List.mem_append_right _ (List.mem_map_of_mem earlier)))]
      exact pooled.running entry earlier
    · rw [List.mem_singleton.mp isNew, Function.update_self]
  · intro handle small notThere
    have outside := fun there => notThere ((same.map Request.handle).mem_iff.mpr there)
    have differs : handle ≠ request.handle := fun equal =>
      outside (equal ▸ List.mem_map_of_mem List.mem_cons_self)
    rw [Function.update_of_ne differs]
    exact pooled.released handle small outside

/-- A new request. -/
theorem created (pooled : Pooled held backend phases) (model : Nat) :
    Pooled (⟨backend.made, model⟩ :: held) { backend with made := backend.made + 1 }
      (Function.update phases backend.made (.resting [])) := by
  have apart : forall other, other ∈ requests held backend -> other.handle ≠ backend.made :=
    fun other member => Nat.ne_of_lt (pooled.named other member)
  refine ⟨?_, ?_, ?_, ?_, ?_, ?_⟩
  · refine List.nodup_cons.mpr ⟨fun there => ?_, pooled.distinct⟩
    rcases List.mem_map.mp there with ⟨other, member, same⟩
    exact apart other member same
  · intro other member
    rcases List.mem_cons.mp member with rfl | isOther
    · exact Nat.lt_succ_self _
    · exact (pooled.named other isOther).trans (Nat.lt_succ_self _)
  · intro handle above
    have above' : backend.made + 1 <= handle := above
    rw [Function.update_of_ne (by omega)]
    exact pooled.absent handle (by omega)
  · intro other member
    rcases List.mem_cons.mp member with rfl | isOther
    · rw [Function.update_self]
      exact .resting
    · rw [Function.update_of_ne (apart other (List.mem_append_left _ isOther))]
      exact pooled.reusable other isOther
  · intro entry member
    rw [Function.update_of_ne (apart entry.request
      (List.mem_append_right _ (List.mem_map_of_mem member)))]
    exact pooled.running entry member
  · intro handle small notThere
    have small' : handle < backend.made + 1 := small
    have differs : handle ≠ backend.made := fun equal =>
      notThere (equal ▸ List.mem_cons_self)
    rw [Function.update_of_ne differs]
    exact pooled.released handle (by omega) fun there => notThere (List.mem_cons_of_mem _ there)

/-- A request that is no longer waited for is in hand. -/
theorem finished {before after : List InFlightRequest} {entry : InFlightRequest}
    (pooled : Pooled held backend phases) (inFlight : backend.inFlight = before ++ entry :: after) :
    Pooled (entry.request :: held) { backend with inFlight := before ++ after }
      (Function.update phases entry.request.handle (.ended entry.inputs)) := by
  have same : (requests (entry.request :: held) { backend with
      inFlight := before ++ after }).Perm (requests held backend) := by
    rw [requests, requests, inFlight, List.map_append, List.map_append, List.map_cons,
      List.cons_append, List.cons_append, ← List.append_assoc, ← List.append_assoc]
    exact List.perm_middle.symm
  have distinct := (same.map Request.handle).nodup_iff.mpr pooled.distinct
  have apart : forall other, other ∈ requests held { backend with inFlight := before ++ after } ->
      other.handle ≠ entry.request.handle := by
    intro other member equal
    rw [requests, List.cons_append, List.cons_append, List.map_cons, List.nodup_cons] at distinct
    exact distinct.1 (equal ▸ List.mem_map_of_mem member)
  have isThere : entry.request ∈ requests held backend :=
    same.mem_iff.mp List.mem_cons_self
  refine ⟨distinct, fun other member => pooled.named other (same.mem_iff.mp member), ?_, ?_, ?_, ?_⟩
  · intro handle above
    have below := pooled.named entry.request isThere
    have above' : backend.made <= handle := above
    rw [Function.update_of_ne (by omega)]
    exact pooled.absent handle above
  · intro other member
    rcases List.mem_cons.mp member with rfl | isOther
    · rw [Function.update_self]
      exact .ended entry.inputs
    · rw [Function.update_of_ne (apart other (List.mem_append_left _ isOther))]
      exact pooled.reusable other isOther
  · intro other member
    rw [Function.update_of_ne (apart other.request
      (List.mem_append_right _ (List.mem_map_of_mem member)))]
    refine pooled.running other ?_
    rw [inFlight]
    rcases List.mem_append.mp member with early | late
    · exact List.mem_append_left _ early
    · exact List.mem_append_right _ (List.mem_cons_of_mem _ late)
  · intro handle small notThere
    have differs : handle ≠ entry.request.handle := fun equal =>
      notThere (equal ▸ List.mem_cons_self)
    rw [Function.update_of_ne differs]
    refine pooled.released handle small fun there => notThere ?_
    exact (same.map Request.handle).mem_iff.mpr there

/-- The descriptions of the model have nothing to do with the pool. -/
theorem described {other : Backend} (pooled : Pooled held backend phases)
    (free : other.freeRequests = backend.freeRequests)
    (inFlight : other.inFlight = backend.inFlight) (made : other.made = backend.made) :
    Pooled held other phases := by
  refine pooled.moved ?_ made ?_ inFlight
  · rw [requests, requests, free, inFlight]
  · rw [free]
    exact fun _ member => member

end Pooled

/-- Calls that the requests allow and that lead from pool to pool. -/
def Keeps (phases : Nat -> Phase) (calls : Calls) (kept : List Request)
    (backend : Backend) : Prop :=
  Exists fun final => requestUsage.perform phases calls = some final ∧ Pooled kept backend final

theorem Keeps.append {phases middle : Nat -> Phase} {first second : Calls}
    {kept : List Request} {backend : Backend}
    (early : requestUsage.perform phases first = some middle)
    (late : Keeps middle second kept backend) :
    Keeps phases (first ++ second) kept backend := by
  rcases late with ⟨final, performed, pooled⟩
  exact ⟨final, requestUsage.perform_append early performed, pooled⟩

/-! ## What the operations ask of the requests -/

namespace Backend

theorem makeRequests_keeps {answer : Nat -> Option String} {model count : Nat}
    {backend : Backend} {held : List Request} {phases : Nat -> Phase}
    (pooled : Pooled held backend phases) :
    Keeps phases (makeRequests answer model count backend).calls held
      (makeRequests answer model count backend).backend := by
  induction count generalizing backend phases with
  | zero => exact ⟨phases, rfl, pooled⟩
  | succ count ih =>
      unfold makeRequests
      cases answer count with
      | some text => exact ⟨phases, rfl, pooled⟩
      | none =>
          have isAbsent := pooled.absent backend.made (Nat.le_refl _)
          have performed : requestUsage.perform phases
              (Request.calls ⟨backend.made, model⟩ [.create model]) =
              some (Function.update phases backend.made (.resting [])) :=
            requestUsage.perform_one (by
              rw [isAbsent]
              rfl)
          exact Keeps.append performed (ih (pooled.created model).giveBack)

/-- A request that is taken may be given inputs; where none can be taken nothing
changes. -/
theorem takeFreeRequest_keeps {answer : Option String} {backend : Backend} {held : List Request}
    {phases : Nat -> Phase} (pooled : Pooled held backend phases) :
    match (takeFreeRequest answer backend).reply with
    | .error _ =>
        (takeFreeRequest answer backend).backend = backend ∧
          (takeFreeRequest answer backend).calls = []
    | .ok request =>
        Keeps phases (takeFreeRequest answer backend).calls (request :: held)
          (takeFreeRequest answer backend).backend := by
  unfold takeFreeRequest
  cases free : backend.freeRequests with
  | cons request rest => exact ⟨phases, rfl, pooled.take free⟩
  | nil =>
      dsimp only
      by_cases full : backend.maxInFlight <= ([] : List Request).length + backend.inFlight.length
      · rw [if_pos full]
        exact ⟨rfl, rfl⟩
      · rw [if_neg full]
        cases backend.compiledModel with
        | none => exact ⟨rfl, rfl⟩
        | some model =>
            cases answer with
            | some text => exact ⟨rfl, rfl⟩
            | none =>
                have isAbsent := pooled.absent backend.made (Nat.le_refl _)
                exact ⟨_, requestUsage.perform_one (by
                  rw [isAbsent]
                  rfl), (pooled.created model).described free.symm rfl rfl⟩

theorem setInputs_after {answers : Nat -> Option String} {tensors bound : List OvTensor} :
    Exists fun given =>
      requestUsage.after (.resting bound) (setInputs answers bound.length tensors).1 =
          some (.resting given) ∧
        ((setInputs answers bound.length tensors).2 = .ok () -> given = bound ++ tensors) := by
  induction tensors generalizing bound with
  | nil => exact ⟨bound, rfl, fun _ => (List.append_nil bound).symm⟩
  | cons tensor tensors ih =>
      unfold setInputs
      cases answers bound.length with
      | some text => exact ⟨bound, rfl, fun impossible => by cases impossible⟩
      | none =>
          rcases @ih (bound ++ [tensor]) with ⟨given, after, all⟩
          rw [List.length_append, List.length_singleton] at after all
          refine ⟨given, ?_, fun done => ?_⟩
          · rw [Usage.after]
            have next : requestUsage.next (.resting bound) (.set bound.length tensor) =
                some (.resting (bound ++ [tensor])) := if_pos rfl
            rw [next]
            exact after
          · rw [all done, List.append_assoc]
            rfl

/-- A reusable request is given the inputs, all of them before it is started. -/
theorem setInputs_use {answers : Nat -> Option String} {tensors : List OvTensor} {phase : Phase}
    (reusable : Reusable phase) :
    requestUsage.after phase ((setInputs answers 0 tensors).1 ++ [.release]) = some .released ∧
      ((setInputs answers 0 tensors).2 = .ok () ->
        requestUsage.after phase ((setInputs answers 0 tensors).1 ++ [.start true]) =
            some (.running tensors) ∧
          requestUsage.after phase
              ((setInputs answers 0 tensors).1 ++ [.start false, .release]) =
            some .released) := by
  have resting : forall {before : Phase} {sets : List Call} {given : List OvTensor},
      requestUsage.after before sets = some (.resting given) ->
      requestUsage.after before (sets ++ [.release]) = some .released ∧
        requestUsage.after before (sets ++ [.start true]) = some (.running given) ∧
        requestUsage.after before (sets ++ [.start false, .release]) = some .released := by
    intro before sets given after
    exact ⟨requestUsage.after_of_append after rfl, requestUsage.after_of_append after rfl,
      requestUsage.after_of_append after rfl⟩
  cases reusable with
  | resting =>
      rcases @setInputs_after answers tensors [] with ⟨given, after, all⟩
      rcases resting after with ⟨release, start, refused⟩
      refine ⟨release, fun done => ?_⟩
      rw [all done] at start
      exact ⟨start, refused⟩
  | ended inputs =>
      cases tensors with
      | nil => exact ⟨rfl, fun _ => ⟨rfl, rfl⟩⟩
      | cons tensor tensors =>
          unfold setInputs
          cases answers 0 with
          | some text => exact ⟨rfl, fun impossible => by cases impossible⟩
          | none =>
              rcases @setInputs_after answers tensors [tensor] with ⟨given, after, all⟩
              have next : requestUsage.after (.ended inputs)
                  (.set 0 tensor :: (setInputs answers 1 tensors).1) = some (.resting given) :=
                after
              rcases resting next with ⟨release, start, refused⟩
              refine ⟨release, fun done => ?_⟩
              rw [all done] at start
              exact ⟨start, refused⟩

theorem submit_keeps {inputs : List Input} {sequence : UInt64} {answers : SubmitAnswers}
    {backend : Backend} {phases : Nat -> Phase} (pooled : Pooled [] backend phases) :
    Keeps phases (submit inputs sequence answers backend).calls []
      (submit inputs sequence answers backend).backend := by
  have unchanged : Keeps phases [] [] backend := ⟨phases, rfl, pooled⟩
  unfold submit
  by_cases count : inputs.length ≠ backend.inputInfos.length
  · rw [if_pos count]
    exact unchanged
  rw [if_neg count]
  cases fillInputTensors answers.tensors 0 backend.inputInfos inputs with
  | error error => exact unchanged
  | ok tensors =>
      have taken := @takeFreeRequest_keeps answers.created backend [] phases pooled
      dsimp only
      cases reply : (takeFreeRequest answers.created backend).reply with
      | error error =>
          rw [reply] at taken
          dsimp only at taken ⊢
          rw [taken.1, taken.2]
          exact unchanged
      | ok request =>
          rw [reply] at taken
          rcases taken with ⟨middle, performed, inHand⟩
          have use := @setInputs_use answers.set tensors _
            (inHand.reusable request List.mem_cons_self)
          have released : forall calls : List Call,
              requestUsage.after (middle request.handle) calls = some .released ->
              Keeps phases ((takeFreeRequest answers.created backend).calls ++
                request.calls calls) [] (takeFreeRequest answers.created backend).backend :=
            fun calls after => Keeps.append performed
              ⟨_, requestUsage.perform_one after, inHand.dropped⟩
          dsimp only
          cases sets : setInputs answers.set 0 tensors with
          | mk sets result =>
              rw [sets] at use
              cases result with
              | error error => exact released _ use.1
              | ok done =>
                  rcases use.2 rfl with ⟨start, refused⟩
                  cases answers.started with
                  | some text => exact released _ refused
                  | none =>
                      exact Keeps.append performed
                        ⟨_, requestUsage.perform_one start, inHand.started tensors sequence⟩

/-- The requests before the one that is taken out still run; that one has
ended, and its order among the others is all that is lost of it. -/
theorem takeReady_split {answers : Nat -> Wait} {index : Nat} {entries : List InFlightRequest}
    {phases : Nat -> Phase}
    (running : forall entry, entry ∈ entries ->
      phases entry.request.handle = .running entry.inputs) :
    match takeReady answers index entries with
    | (waits, none) => requestUsage.perform phases waits = some phases
    | (waits, some (entry, rest)) =>
        Exists fun before => Exists fun after =>
          entries = before ++ entry :: after ∧ rest = before ++ after ∧
            requestUsage.perform phases waits =
              some (Function.update phases entry.request.handle (.ended entry.inputs)) := by
  induction entries generalizing index with
  | nil => exact rfl
  | cons first entries ih =>
      have isRunning := running first List.mem_cons_self
      have ends : forall answer : Wait, answer ≠ .notReady ->
          requestUsage.perform phases (first.request.calls [.wait answer]) =
            some (Function.update phases first.request.handle (.ended first.inputs)) := by
        intro answer ready
        refine requestUsage.perform_one ?_
        rw [isRunning]
        cases answer with
        | notReady => exact absurd rfl ready
        | finished => rfl
        | failed => rfl
      unfold takeReady
      cases answer : answers index with
      | finished => exact ⟨[], entries, rfl, rfl, ends .finished nofun⟩
      | failed => exact ⟨[], entries, rfl, rfl, ends .failed nofun⟩
      | notReady =>
          have waits : requestUsage.perform phases (first.request.calls [.wait .notReady]) =
              some phases := by
            have one := @Usage.perform_one _ _ _ requestUsage _ phases first.request.handle
              [.wait .notReady] (.running first.inputs) (by
                rw [isRunning]
                rfl)
            rw [← isRunning, Function.update_eq_self] at one
            exact one
          have later := @ih (index + 1) fun entry member =>
            running entry (List.mem_cons_of_mem _ member)
          dsimp only
          cases taken : takeReady answers (index + 1) entries with
          | mk calls found =>
              rw [taken] at later
              cases found with
              | none => exact requestUsage.perform_append waits later
              | some found =>
                  rcases later with ⟨before, after, split, rest, performed⟩
                  refine ⟨first :: before, after, ?_, ?_,
                    requestUsage.perform_append waits performed⟩
                  · rw [split]
                    rfl
                  · rw [rest]
                    rfl

/-- Outputs are read in their order, each of the length that its description
gives. -/
theorem copyOutputTensors_reads {answers : Nat -> OutputAnswer} {index : Nat}
    {infos : List TensorInfo} {inputs : List OvTensor} :
    requestUsage.after (.ended inputs) (copyOutputTensors answers index infos).1 =
        some (.ended inputs) ∧
      forall outputs, (copyOutputTensors answers index infos).2 = .ok outputs ->
        (copyOutputTensors answers index infos).1 =
            (outputs.zipIdx index).map (fun output => Call.read output.2 output.1) ∧
          List.Forall₂ (fun info output => outputBytes info = .ok output.length) infos outputs := by
  induction infos generalizing index with
  | nil =>
      refine ⟨rfl, fun outputs same => ?_⟩
      cases same
      exact ⟨rfl, .nil⟩
  | cons info infos ih =>
      unfold copyOutputTensors
      cases expected : (answers index).expected info with
      | error error => exact ⟨rfl, fun _ impossible => by cases impossible⟩
      | ok length =>
          dsimp only
          cases (answers index).raw with
          | error text => exact ⟨rfl, fun _ impossible => by cases impossible⟩
          | ok bytes =>
              dsimp only
              by_cases differs : bytes.length ≠ length
              · rw [if_pos differs]
                exact ⟨rfl, fun _ impossible => by cases impossible⟩
              · rw [if_neg differs]
                rcases @ih (index + 1) with ⟨after, all⟩
                refine ⟨after, fun outputs same => ?_⟩
                dsimp only at same
                cases copied : (copyOutputTensors answers (index + 1) infos).2 with
                | error error =>
                    rw [copied] at same
                    cases same
                | ok later =>
                    rw [copied] at same
                    cases same
                    rcases all later copied with ⟨reads, lengths⟩
                    refine ⟨?_, .cons ?_ lengths⟩
                    · rw [reads]
                      rfl
                    · rw [not_not.mp differs]
                      rcases Outcome.bind_ok expected with ⟨_, _, rest⟩
                      rcases Outcome.bind_ok rest with ⟨found, isFound, rest⟩
                      rcases Outcome.bind_ok rest with ⟨_, _, same⟩
                      cases same
                      exact Outcome.mapError_ok isFound

theorem poll_keeps {answers : PollAnswers} {backend : Backend} {phases : Nat -> Phase}
    (pooled : Pooled [] backend phases) :
    Keeps phases (poll answers backend).calls [] (poll answers backend).backend := by
  have found := @takeReady_split answers.waits 0 backend.inFlight phases pooled.running
  unfold poll
  cases taken : takeReady answers.waits 0 backend.inFlight with
  | mk waits ready =>
      rw [taken] at found
      cases ready with
      | none => exact ⟨phases, found, pooled⟩
      | some ready =>
          rcases ready with ⟨entry, entries⟩
          rcases found with ⟨before, after, split, rfl, performed⟩
          have inHand := pooled.finished split
          dsimp only
          cases answers.first with
          | some text => exact ⟨_, performed, inHand.giveBack⟩
          | none =>
              have reads := (@copyOutputTensors_reads answers.outputs 0 backend.outputInfos
                entry.inputs).1
              have ended : Function.update phases entry.request.handle (.ended entry.inputs)
                  entry.request.handle = .ended entry.inputs := Function.update_self _ _ _
              dsimp only
              cases copied : copyOutputTensors answers.outputs 0 backend.outputInfos with
              | mk calls result =>
                  rw [copied] at reads
                  cases result with
                  | error error =>
                      refine Keeps.append performed
                        ⟨_, requestUsage.perform_one ?_, inHand.dropped⟩
                      rw [ended]
                      exact requestUsage.after_of_append reads rfl
                  | ok outputs =>
                      refine Keeps.append performed ⟨_, requestUsage.perform_one (by
                        rw [ended]
                        exact reads), ?_⟩
                      rw [Function.update_idem]
                      exact inHand.giveBack

theorem cancelAll_keeps {answers : Nat -> Bool} {index : Nat} {entries : List InFlightRequest}
    {backend : Backend} {phases : Nat -> Phase} (inFlight : backend.inFlight = entries)
    (pooled : Pooled [] backend phases) :
    Keeps phases (cancelAll answers index entries) [] { backend with inFlight := [] } := by
  induction entries generalizing index backend phases with
  | nil => exact ⟨phases, rfl, pooled.described rfl inFlight.symm rfl⟩
  | cons entry entries ih =>
      have isRunning := pooled.running entry (inFlight ▸ List.mem_cons_self)
      have given := (@Pooled.finished _ _ _ [] _ _ pooled inFlight).dropped
      rw [Function.update_idem] at given
      have performed : requestUsage.perform phases
          (entry.request.calls [.cancel (answers index), .release]) =
          some (Function.update phases entry.request.handle .released) :=
        requestUsage.perform_one (by
          rw [isRunning]
          cases answers index <;> rfl)
      exact Keeps.append performed
        (@ih (index + 1) { backend with inFlight := entries } _ rfl given)

theorem releases_keep {free : List Request} {backend : Backend} {phases : Nat -> Phase}
    (isFree : backend.freeRequests = free) (pooled : Pooled [] backend phases) :
    Keeps phases (free.flatMap fun request => request.calls [.release]) []
      { backend with freeRequests := [] } := by
  induction free generalizing backend phases with
  | nil => exact ⟨phases, rfl, pooled.described isFree.symm rfl rfl⟩
  | cons request rest ih =>
      have inHand := pooled.take isFree
      have performed : requestUsage.perform phases (request.calls [.release]) =
          some (Function.update phases request.handle .released) :=
        requestUsage.perform_one (inHand.reusable request List.mem_cons_self).released
      rw [List.flatMap_cons]
      exact Keeps.append performed
        (@ih { backend with freeRequests := rest } _ rfl inHand.dropped)

theorem reshape_keeps {shapes : List Shape} {answers : ReshapeAnswers} {backend : Backend}
    {phases : Nat -> Phase} (pooled : Pooled [] backend phases) :
    Keeps phases (reshape shapes answers backend).calls []
      (reshape shapes answers backend).backend := by
  unfold reshape
  cases reshapeChecks shapes answers backend with
  | error error => exact ⟨phases, rfl, pooled⟩
  | ok done =>
      rcases releases_keep rfl pooled with ⟨middle, performed, cleared⟩
      dsimp only
      cases answers.compiled with
      | some text => exact ⟨middle, performed, cleared⟩
      | none =>
          rcases @makeRequests_keeps answers.made backend.compilations backend.maxInFlight
            { backend with freeRequests := [], compilations := backend.compilations + 1 } []
            middle (cleared.described rfl rfl rfl) with ⟨final, made, remade⟩
          have both := requestUsage.perform_append performed made
          dsimp only
          cases (makeRequests answers.made backend.compilations backend.maxInFlight
            { backend with
              freeRequests := [], compilations := backend.compilations + 1 }).reply with
          | error error => exact ⟨final, both, remade⟩
          | ok done =>
              dsimp only
              cases describeOutputs answers with
              | error error => exact ⟨final, both, remade.described rfl rfl rfl⟩
              | ok infos => exact ⟨final, both, remade.described rfl rfl rfl⟩

theorem init_keeps {options : Nat} {answers : InitAnswers} {backend : Backend}
    {phases : Nat -> Phase} (pooled : Pooled [] backend phases) :
    Keeps phases (init options answers backend).calls [] (init options answers backend).backend := by
  unfold init
  cases answers.contract with
  | error error => exact ⟨phases, rfl, pooled⟩
  | ok done =>
      dsimp only
      cases answers.prepared with
      | error error => exact ⟨phases, rfl, pooled.described rfl rfl rfl⟩
      | ok done =>
          rcases @makeRequests_keeps answers.made backend.compilations (max 1 (min options 64))
            { backend with
              maxInFlight := max 1 (min options 64), compilations := backend.compilations + 1 } []
            phases (pooled.described rfl rfl rfl) with ⟨final, made, remade⟩
          dsimp only
          cases (makeRequests answers.made backend.compilations (max 1 (min options 64))
            { backend with
              maxInFlight := max 1 (min options 64)
              compilations := backend.compilations + 1 }).reply with
          | error error => exact ⟨final, made, remade⟩
          | ok done => exact ⟨final, made, remade.described rfl rfl rfl⟩

end Backend
end Openvino
end DyunGu
