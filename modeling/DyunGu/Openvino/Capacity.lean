import DyunGu.Openvino.Runs

namespace DyunGu
namespace Openvino

open Core Backend

/-!
# Capacity and compiled models

A backend that was initialized once never has more requests than it was given
room for, loses none of that room to failures, and uses requests of one compiled
model unless a reshape stops halfway.
-/

namespace World

/-- A backend with room for a number of requests. -/
structure Sized (bound : Nat) (backend : Backend) : Prop where
  isBound : backend.maxInFlight = bound
  fits : backend.freeRequests.length + backend.inFlight.length <= bound
  compiled : Exists fun model => backend.compiledModel = some model ∧ model < backend.compilations

/-- What an initialization that succeeds makes of a new backend. -/
theorem init_opened {options : Nat} {answers : InitAnswers}
    (opened : (Backend.init options answers .new).reply = .ok ()) :
    Exists fun new => new.length <= max 1 (min options 64) ∧
      (forall request, request ∈ new -> request.model = 0) ∧
      (Backend.init options answers .new).backend =
        ⟨answers.inputInfos, answers.outputInfos, some 0, new, [], max 1 (min options 64),
          new.length, 1⟩ := by
  unfold Backend.init at opened ⊢
  cases contract : answers.contract with
  | error error =>
      rw [contract] at opened
      cases opened
  | ok done =>
      rw [contract] at opened
      dsimp only at opened ⊢
      cases prepared : answers.prepared with
      | error error =>
          rw [prepared] at opened
          cases opened
      | ok done =>
          rw [prepared] at opened
          rcases @makeRequests_cases answers.made Backend.new.compilations
            (max 1 (min options 64)) { Backend.new with
              maxInFlight := max 1 (min options 64), compilations := Backend.new.compilations + 1 }
            with ⟨new, isBackend, few, ofModel, _⟩
          refine ⟨new, few, ofModel, ?_⟩
          dsimp only at opened ⊢
          cases made : (makeRequests answers.made Backend.new.compilations
            (max 1 (min options 64)) { Backend.new with
              maxInFlight := max 1 (min options 64)
              compilations := Backend.new.compilations + 1 }).reply with
          | error error =>
              rw [made] at opened
              cases opened
          | ok done =>
              dsimp only
              rw [isBackend]
              simp only [Backend.new, List.append_nil, Nat.zero_add]

theorem sized_opened {options : Nat} {answers : InitAnswers}
    (opened : (Backend.init options answers .new).reply = .ok ()) :
    Sized (max 1 (min options 64)) (Backend.init options answers .new).backend := by
  rcases init_opened opened with ⟨new, few, _, same⟩
  rw [same]
  exact ⟨rfl, few, 0, rfl, Nat.one_pos⟩

theorem reshapeChecks_idle {shapes : List Shape} {answers : ReshapeAnswers} {backend : Backend}
    (checked : reshapeChecks shapes answers backend = .ok ()) : backend.inFlight = [] := by
  unfold reshapeChecks at checked
  by_contra busy
  rw [if_pos busy] at checked
  cases checked

theorem sized_take {bound : Nat} {answer : Option String} {backend : Backend}
    {request : Request} (sized : Sized bound backend)
    (taken : (takeFreeRequest answer backend).reply = .ok request) :
    (takeFreeRequest answer backend).backend.freeRequests.length +
        ((takeFreeRequest answer backend).backend.inFlight.length + 1) <= bound ∧
      Sized bound (takeFreeRequest answer backend).backend := by
  have fits := sized.fits
  rcases takeFreeRequest_cases taken with ⟨rest, free, same⟩ | ⟨free, room, _, same⟩
  · rw [free, List.length_cons] at fits
    rw [same]
    exact ⟨by dsimp only; omega, sized.isBound, by dsimp only; omega, sized.compiled⟩
  · rw [sized.isBound] at room
    rw [same]
    refine ⟨?_, sized.isBound, sized.fits, sized.compiled⟩
    dsimp only
    rw [free, List.length_nil]
    omega

theorem sized_step {bound : Nat} {event : Event} {world : World}
    (sized : Sized bound world.backend) (notInit : event.isInit = false) :
    Sized bound (world.step event).backend := by
  have fits := sized.fits
  cases event with
  | init options answers => cases notInit
  | submit inputs sequence answers =>
      change Sized bound (Backend.submit inputs sequence answers world.backend).backend
      rcases submit_cases inputs sequence answers world.backend with
        ⟨_, same | ⟨request, taken, same⟩⟩ | ⟨_, request, tensors, taken, _, same⟩
      · rw [same]
        exact sized
      · rw [same]
        exact (sized_take sized taken).2
      · rcases sized_take sized taken with ⟨room, kept⟩
        rw [same]
        refine ⟨kept.isBound, ?_, kept.compiled⟩
        dsimp only
        rw [List.length_append, List.length_singleton]
        exact room
  | poll answers =>
      change Sized bound (Backend.poll answers world.backend).backend
      rcases poll_cases answers world.backend with
        ⟨_, same, _⟩ | ⟨before, entry, after, _, split, same | same, _⟩
      · rw [same]
        exact sized
      · rw [split, List.length_append, List.length_cons] at fits
        rw [same]
        refine ⟨sized.isBound, ?_, sized.compiled⟩
        dsimp only
        rw [List.length_cons, List.length_append]
        omega
      · rw [split, List.length_append, List.length_cons] at fits
        rw [same]
        refine ⟨sized.isBound, ?_, sized.compiled⟩
        dsimp only
        rw [List.length_append]
        omega
  | cancel answers =>
      refine ⟨sized.isBound, ?_, sized.compiled⟩
      change world.backend.freeRequests.length + 0 <= bound
      omega
  | reshape shapes answers =>
      change Sized bound (Backend.reshape shapes answers world.backend).backend
      rcases reshape_cases shapes answers world.backend with same | ⟨checked, rest⟩
      · rw [same]
        exact sized
      · rcases sized.compiled with ⟨model, isModel, known⟩
        have idle : world.backend.inFlight.length = 0 := by
          rw [reshapeChecks_idle checked]
          rfl
        rcases rest with same | ⟨new, few, _, same | ⟨_, _, same⟩⟩
        · rw [same]
          refine ⟨sized.isBound, ?_, sized.compiled⟩
          dsimp only
          rw [idle, List.length_nil]
          exact Nat.zero_le bound
        · rw [same]
          refine ⟨sized.isBound, ?_, model, isModel, known.trans (Nat.lt_succ_self _)⟩
          dsimp only
          rw [idle]
          exact sized.isBound ▸ few
        · rw [same]
          refine ⟨sized.isBound, ?_, _, rfl, Nat.lt_succ_self _⟩
          dsimp only
          rw [idle]
          exact sized.isBound ▸ few

/-- There is a request for a submission as long as fewer are in flight than there
is room for. -/
theorem taken_iff {bound : Nat} {backend : Backend} (sized : Sized bound backend) :
    (Exists fun request => (takeFreeRequest none backend).reply = .ok request) <->
      backend.inFlight.length < bound := by
  constructor
  · rintro ⟨request, taken⟩
    have room := (sized_take sized taken).1
    rw [takeFreeRequest_inFlight taken] at room
    omega
  · intro room
    rcases sized.compiled with ⟨model, isModel, _⟩
    unfold takeFreeRequest
    cases free : backend.freeRequests with
    | cons request rest => exact ⟨request, rfl⟩
    | nil =>
        have hasRoom : ¬ backend.maxInFlight <=
            ([] : List Request).length + backend.inFlight.length := by
          rw [sized.isBound, List.length_nil]
          omega
        dsimp only
        rw [if_neg hasRoom, isModel]
        exact ⟨_, rfl⟩

/-- The requests that the SDK holds are those of the pool. -/
theorem live_iff {backend : Backend} {phases : Nat -> Phase} (pooled : Pooled [] backend phases)
    (handle : Nat) :
    handle ∈ (requests [] backend).map Request.handle <->
      phases handle ≠ .absent ∧ phases handle ≠ .released := by
  constructor
  · intro member
    rcases List.mem_map.mp member with ⟨request, inPool, rfl⟩
    rcases List.mem_append.mp inPool with isFree | isBusy
    · have reusable := pooled.reusable request isFree
      generalize phases request.handle = phase at reusable
      cases reusable with
      | resting => exact ⟨nofun, nofun⟩
      | ended inputs => exact ⟨nofun, nofun⟩
    · rcases List.mem_map.mp isBusy with ⟨entry, isEntry, rfl⟩
      rw [pooled.running entry isEntry]
      exact ⟨nofun, nofun⟩
  · rintro ⟨isMade, isKept⟩
    by_contra notThere
    by_cases below : handle < backend.made
    · exact isKept (pooled.released handle below notThere)
    · exact isMade (pooled.absent handle (Nat.le_of_not_lt below))

theorem sized_run {options : Nat} {answers : InitAnswers} {events : List Event} {world : World}
    (opened : (Backend.init options answers .new).reply = .ok ())
    (once : machine.Meets (fun _ event => event.isInit = false)
      (start.step (.init options answers)) events)
    (reached : machine.run (start.step (.init options answers)) events = some world) :
    Sized (max 1 (min options 64)) world.backend :=
  machine.run_invariant_of_meets (fun world => Sized (max 1 (min options 64)) world.backend)
    (fun state event next sized notInit stepped => by
      cases stepped
      exact sized_step sized notInit)
    (sized_opened opened) once reached

/-- After one initialization every accepted submission is in flight or settled,
once.  A submission finds a request exactly as long as fewer are in flight than
the limit, however many failed before, and the SDK never holds more requests
than the limit. -/
theorem capacity_kept {options : Nat} {answers : InitAnswers} {events : List Event}
    {world : World} (opened : (Backend.init options answers .new).reply = .ok ())
    (once : machine.Meets (fun _ event => event.isInit = false)
      (start.step (.init options answers)) events)
    (reached : machine.run (start.step (.init options answers)) events = some world) :
    world.accepted.Perm (world.settled.map Prod.fst ++ world.backend.inFlight) ∧
      ((Exists fun request => (takeFreeRequest none world.backend).reply = .ok request) <->
        world.backend.inFlight.length < max 1 (min options 64)) ∧
      Exists fun phases => Exists fun live : List Nat =>
        requestUsage.perform (fun _ => .absent) world.log = some phases ∧ live.Nodup ∧
        live.length <= max 1 (min options 64) ∧
        forall handle, handle ∈ live <-> phases handle ≠ .absent ∧ phases handle ≠ .released := by
  have sized := sized_run opened once reached
  have accounted : Accounted (.init options answers :: events) world :=
    accounted_run (machine.run_cons_iff.mpr ⟨_, rfl, reached⟩)
  rcases accounted.respected with ⟨phases, performed, pooled⟩
  refine ⟨accounted.ledger, taken_iff sized, phases,
    (requests [] world.backend).map Request.handle, performed, pooled.distinct, ?_,
    live_iff pooled⟩
  rw [List.length_map, requests, List.nil_append, List.length_append, List.length_map]
  exact sized.fits

def unitModel : InitAnswers := ⟨.ok (), .ok (), [], [], .ok (), fun _ => none⟩

/-- The first submission cannot be started; its request is given up. -/
def refusedAndAccepted : List Event :=
  [.submit [] 7 ⟨fun _ => ⟨none, .ok 0⟩, none, fun _ => none, some "busy"⟩,
    .submit [] 8 ⟨fun _ => ⟨none, .ok 0⟩, none, fun _ => none, none⟩]

def afterRefusal : World :=
  machine.after (start.step (.init 1 unitModel)) refusedAndAccepted

theorem refusal_costs_nothing :
    afterRefusal.accepted.Perm
        (afterRefusal.settled.map Prod.fst ++ afterRefusal.backend.inFlight) ∧
      ((Exists fun request =>
          (takeFreeRequest none afterRefusal.backend).reply = .ok request) <->
        afterRefusal.backend.inFlight.length < 1) ∧
      Exists fun phases => Exists fun live : List Nat =>
        requestUsage.perform (fun _ => .absent) afterRefusal.log = some phases ∧ live.Nodup ∧
        live.length <= 1 ∧
        forall handle, handle ∈ live <-> phases handle ≠ .absent ∧ phases handle ≠ .released :=
  @capacity_kept 1 unitModel refusedAndAccepted afterRefusal rfl
    ⟨rfl, fun next stepped => by
      cases stepped
      exact ⟨rfl, fun next stepped => trivial⟩⟩
    (machine.run_after rfl)

end World
end Openvino
end DyunGu
