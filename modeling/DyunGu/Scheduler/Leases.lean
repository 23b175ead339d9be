import DyunGu.Scheduler.State
import Mathlib.Data.List.Perm.Basic

namespace DyunGu
namespace Scheduler

open DyunGu.Backend (u64Max)
open DyunGu.Core (DeviceKind CoreSelection)

/-!
# Leases over whole runs

A scheduler together with the leases that are alive.  A step is an acquire
with any request, or the drop of any live lease.  The load of every core is
the number of live leases on it, whatever the order of the steps.
-/

namespace Leasing

structure State where
  scheduler : SchedulerState
  leases : List Lease

inductive Label where
  | acquire (request : Request) (moment : Moment)
  | drop (index : Nat)

def step (state : State) : Label -> Option State
  | .acquire request moment =>
      (state.scheduler.acquireLease request moment).map fun
        | (next, .error _) => { state with scheduler := next }
        | (next, .ok lease) => ⟨next, state.leases ++ [lease]⟩
  | .drop index =>
      state.leases[index]?.bind fun lease =>
        (state.scheduler.release lease.allocation).map fun next =>
          ⟨next, state.leases.eraseIdx index⟩

def machine : Machine State Label where
  step := step

def initial (topology : Topology) : State where
  scheduler := SchedulerState.fromTopology topology
  leases := []

/-- The number of live leases on a core. -/
def placed (leases : List Lease) (allocation : Allocation) : Nat :=
  leases.countP fun lease => decide (lease.allocation = allocation)

/-- The load of a core, if there is such a core. -/
def loadOf (scheduler : SchedulerState) (allocation : Allocation) : Option Nat :=
  (scheduler.siteAt allocation).map fun site => site.core.load

/-- Every load is the number of live leases on the core, no release has found
an empty core, and every live lease is on a core. -/
structure Balanced (state : State) : Prop where
  loads : forall allocation site, state.scheduler.siteAt allocation = some site ->
    site.core.load = placed state.leases allocation ∧ site.core.underflowCount = 0
  sites : forall lease, lease ∈ state.leases ->
    Exists fun site => state.scheduler.siteAt lease.allocation = some site

/-! ## What a lease is made of -/

theorem acquireLease_spec (scheduler : SchedulerState) (request : Request) (moment : Moment) :
    Exists fun next =>
      (Exists fun error => scheduler.acquireLease request moment = some (next, .error error) ∧
        SchedulerState.Acquired scheduler request moment next (.error error)) ∨
      (Exists fun allocation => Exists fun site => Exists fun before =>
        scheduler.acquireLease request moment =
            some (next, .ok ⟨allocation, site.kind, site.deviceId, site.core.id⟩) ∧
          SchedulerState.Acquired scheduler request moment next (.ok allocation) ∧
          scheduler.siteAt allocation = some before ∧ next.siteAt allocation = some site ∧
          site = { before with core := before.core.loaded } ∧
          next.devices = (scheduler.updateCore allocation CoreState.loaded).devices) := by
  rcases scheduler.acquire_spec request moment with ⟨next, answer, acquires, acquired⟩
  refine ⟨next, ?_⟩
  unfold SchedulerState.acquireLease
  rw [acquires]
  cases answer with
  | error error => exact Or.inl ⟨error, rfl, acquired⟩
  | ok allocation =>
      have changed : Exists fun before => scheduler.siteAt allocation = some before ∧
          next.devices = (scheduler.updateCore allocation CoreState.loaded).devices := by
        cases acquired with
        | recalled known found room devices affinity => exact ⟨_, found, devices⟩
        | chosen unknown member found room devices affinity => exact ⟨_, found, devices⟩
      rcases changed with ⟨before, found, devices⟩
      have after : next.siteAt allocation =
          some { before with core := before.core.loaded } := by
        rw [SchedulerState.siteAt_of_devices devices, SchedulerState.siteAt_updateCore, found,
          Option.map_some, if_pos rfl]
      refine Or.inr ⟨allocation, _, before, ?_, acquired, found, after, rfl, devices⟩
      dsimp only
      rw [after]
      rfl

/-! ## The loads are conserved -/

theorem initial_balanced (topology : Topology) : Balanced (initial topology) where
  loads := by
    intro allocation site found
    unfold initial SchedulerState.fromTopology SchedulerState.siteAt at found
    rw [Option.bind_eq_some_iff] at found
    rcases found with ⟨device, inDevices, inCores⟩
    rw [List.getElem?_map, Option.map_eq_some_iff] at inDevices
    rcases inDevices with ⟨source, _, rfl⟩
    rw [List.getElem?_map, Option.map_map, Option.map_eq_some_iff] at inCores
    rcases inCores with ⟨core, _, rfl⟩
    exact ⟨rfl, rfl⟩
  sites := fun _ impossible => by cases impossible

/-- A request that fails leaves the load of every core as it was. -/
theorem loadOf_of_error {scheduler next : SchedulerState} {request : Request} {moment : Moment}
    {error : Error}
    (fails : SchedulerState.Acquired scheduler request moment next (.error error))
    (allocation : Allocation) :
    loadOf next allocation = loadOf scheduler allocation ∧
      (next.siteAt allocation).map (fun site => site.core.underflowCount) =
        (scheduler.siteAt allocation).map fun site => site.core.underflowCount := by
  unfold loadOf
  cases fails with
  | refused error unknown devices affinity =>
      rw [SchedulerState.siteAt_of_devices devices]
      exact ⟨rfl, rfl⟩
  | @overflowed full _ only found _ devices affinity =>
      rw [SchedulerState.siteAt_of_devices devices, SchedulerState.siteAt_updateCore]
      cases scheduler.siteAt allocation with
      | none => exact ⟨rfl, rfl⟩
      | some site =>
          by_cases same : full = allocation
          · simp [same, CoreState.overflowed]
          · simp [same]

private theorem Balanced.of_error {state : State} (balanced : Balanced state)
    {next : SchedulerState} {request : Request} {moment : Moment} {error : Error}
    (fails : SchedulerState.Acquired state.scheduler request moment next (.error error)) :
    Balanced { state with scheduler := next } where
  loads := by
    intro allocation site found
    change next.siteAt allocation = some site at found
    rcases loadOf_of_error fails allocation with ⟨load, underflow⟩
    rw [loadOf, loadOf, found] at load
    rw [found] at underflow
    cases before : state.scheduler.siteAt allocation with
    | none =>
        rw [before] at load
        cases load
    | some old =>
        rw [before, Option.map_some, Option.map_some, Option.some.injEq] at load underflow
        rw [load, underflow]
        exact balanced.loads allocation old before
  sites := by
    intro lease member
    rcases balanced.sites lease member with ⟨old, before⟩
    have load := (loadOf_of_error fails lease.allocation).1
    rw [loadOf, loadOf, before, Option.map_some, Option.map_eq_some_iff] at load
    rcases load with ⟨site, found, _⟩
    exact ⟨site, found⟩

private theorem Balanced.of_ok {state : State} (balanced : Balanced state)
    {next : SchedulerState} {lease : Lease} {before : Site}
    (found : state.scheduler.siteAt lease.allocation = some before)
    (devices : next.devices =
      (state.scheduler.updateCore lease.allocation CoreState.loaded).devices) :
    Balanced ⟨next, state.leases ++ [lease]⟩ where
  loads := by
    intro allocation site isSite
    change next.siteAt allocation = some site at isSite
    rw [SchedulerState.siteAt_of_devices devices, SchedulerState.siteAt_updateCore,
      Option.map_eq_some_iff] at isSite
    rcases isSite with ⟨old, isOld, rfl⟩
    rcases balanced.loads allocation old isOld with ⟨load, underflow⟩
    unfold placed at load ⊢
    rw [List.countP_append, List.countP_singleton]
    by_cases same : lease.allocation = allocation
    · simp only [same, if_true, decide_true, CoreState.loaded]
      exact ⟨by rw [load], underflow⟩
    · simp only [same, if_false, decide_false, Bool.false_eq_true]
      exact ⟨load, underflow⟩
  sites := by
    intro other member
    change Exists fun site => next.siteAt other.allocation = some site
    rw [SchedulerState.siteAt_of_devices devices, SchedulerState.siteAt_updateCore]
    rcases List.mem_append.mp member with earlier | last
    · rcases balanced.sites other earlier with ⟨old, isOld⟩
      exact ⟨_, by rw [isOld, Option.map_some]⟩
    · rw [List.mem_singleton.mp last, found]
      exact ⟨_, rfl⟩

/-- A lease that is dropped is on a core with a load, so the release takes one
off it. -/
private theorem Balanced.of_drop {state : State} (balanced : Balanced state) {index : Nat}
    {lease : Lease} (isLease : state.leases[index]? = some lease) :
    Exists fun next => state.scheduler.release lease.allocation = some next ∧
      Balanced ⟨next, state.leases.eraseIdx index⟩ := by
  have member := List.mem_of_getElem? isLease
  rcases balanced.sites lease member with ⟨site, found⟩
  have split : forall allocation, placed state.leases allocation =
      placed (state.leases.eraseIdx index) allocation +
        if lease.allocation = allocation then 1 else 0 := by
    intro allocation
    rcases List.getElem?_eq_some_iff.mp isLease with ⟨bound, isAt⟩
    have cut := List.getElem_cons_eraseIdx_perm bound
    unfold placed
    rw [← cut.countP_eq, List.countP_cons, isAt]
    simp only [decide_eq_true_eq]
  refine ⟨state.scheduler.updateCore lease.allocation CoreState.released, ?_, ?_⟩
  · rw [SchedulerState.release, found]
  · refine { loads := ?_, sites := ?_ }
    · intro allocation other isOther
      change (state.scheduler.updateCore lease.allocation
        CoreState.released).siteAt allocation = some other at isOther
      rw [SchedulerState.siteAt_updateCore, Option.map_eq_some_iff] at isOther
      rcases isOther with ⟨old, isOld, rfl⟩
      rcases balanced.loads allocation old isOld with ⟨load, underflow⟩
      have parts := split allocation
      by_cases same : lease.allocation = allocation
      · change _ = placed (state.leases.eraseIdx index) allocation ∧ _
        rw [if_pos same] at parts ⊢
        have positive : 1 <= old.core.load := by omega
        simp only [CoreState.released, if_pos positive]
        exact ⟨by omega, underflow⟩
      · change _ = placed (state.leases.eraseIdx index) allocation ∧ _
        rw [if_neg same] at parts ⊢
        exact ⟨by omega, underflow⟩
    · intro other kept
      rcases balanced.sites other (List.mem_of_mem_eraseIdx kept) with ⟨old, isOld⟩
      change Exists fun site => (state.scheduler.updateCore lease.allocation
        CoreState.released).siteAt other.allocation = some site
      rw [SchedulerState.siteAt_updateCore, isOld]
      exact ⟨_, rfl⟩

theorem step_balanced {state next : State} (balanced : Balanced state) {label : Label}
    (stepped : step state label = some next) : Balanced next := by
  cases label with
  | acquire request moment =>
      rcases acquireLease_spec state.scheduler request moment with
        ⟨after, ⟨error, is, fails⟩ |
          ⟨allocation, site, before, is, _, found, _, _, devices⟩⟩
      · simp only [step, is, Option.map_some, Option.some.injEq] at stepped
        rw [← stepped]
        exact balanced.of_error fails
      · simp only [step, is, Option.map_some, Option.some.injEq] at stepped
        rw [← stepped]
        exact balanced.of_ok found devices
  | drop index =>
      simp only [step, Option.bind_eq_some_iff, Option.map_eq_some_iff] at stepped
      rcases stepped with ⟨lease, isLease, after, releases, rfl⟩
      rcases balanced.of_drop isLease with ⟨other, isOther, result⟩
      rw [releases] at isOther
      cases isOther
      exact result

theorem run_balanced {topology : Topology} {state : State}
    (reachable : machine.Reachable (initial topology) state) : Balanced state :=
  machine.run_invariant Balanced (fun _ _ _ holds stepped => step_balanced holds stepped)
    (initial_balanced topology) reachable

/-- After every run each core's load is the number of live leases on it and
nothing has underflowed.  From there no acquire and no drop panics, and an
acquire that fails changes no load. -/
theorem load_conserved {topology : Topology} {state : State}
    (reachable : machine.Reachable (initial topology) state) :
    (forall allocation site, state.scheduler.siteAt allocation = some site ->
      site.core.load = placed state.leases allocation ∧ site.core.underflowCount = 0) ∧
    (forall request moment, Exists fun result =>
      state.scheduler.acquireLease request moment = some result) ∧
    (forall request moment next error,
      state.scheduler.acquireLease request moment = some (next, .error error) ->
      forall allocation, loadOf next allocation = loadOf state.scheduler allocation) ∧
    (forall index, index < state.leases.length ->
      Exists fun next => step state (.drop index) = some next) := by
  have balanced := run_balanced reachable
  refine ⟨balanced.loads, ?_, ?_, ?_⟩
  · intro request moment
    rcases acquireLease_spec state.scheduler request moment with
      ⟨after, ⟨error, is, _⟩ | ⟨allocation, site, before, is, _⟩⟩
    · exact ⟨_, is⟩
    · exact ⟨_, is⟩
  · intro request moment next error isError allocation
    rcases acquireLease_spec state.scheduler request moment with
      ⟨after, ⟨other, is, fails⟩ | ⟨allocation', site, before, is, _⟩⟩
    · rw [isError] at is
      cases is
      exact (loadOf_of_error fails allocation).1
    · rw [isError] at is
      cases is
  · intro index bound
    have isLease := List.getElem?_eq_getElem bound
    rcases balanced.of_drop isLease with ⟨next, releases, _⟩
    refine ⟨⟨next, state.leases.eraseIdx index⟩, ?_⟩
    simp only [step, isLease, Option.bind_some, releases, Option.map_some]

/-- One chip with two cores. -/
def twoCores : Topology where
  devices := [⟨.rknnNpu, 0, [0, 1]⟩]
  valid := by decide

def moment : Moment := ⟨0, 0, ""⟩

/-- Three leases on two cores, one of them dropped, and a refused request. -/
def mixedRun : List Label :=
  [.acquire (Request.auto .rknnNpu) moment,
    .acquire { Request.auto .rknnNpu with affinityKey := some "stream" } moment,
    .acquire (Request.explicit .rknnNpu 0 (.single 7)) moment,
    .acquire { Request.auto .rknnNpu with affinityKey := some "stream" } moment, .drop 0]

theorem mixedRun_conserved :
    Exists fun state => machine.run (initial twoCores) mixedRun = some state ∧
      loadOf state.scheduler ⟨0, 0⟩ = some 0 ∧ loadOf state.scheduler ⟨0, 1⟩ = some 2 ∧
      placed state.leases ⟨0, 1⟩ = 2 ∧
      (forall index, index < state.leases.length ->
        Exists fun next => step state (.drop index) = some next) := by
  have facts : (machine.run (initial twoCores) mixedRun).map (fun state =>
      (loadOf state.scheduler ⟨0, 0⟩, loadOf state.scheduler ⟨0, 1⟩,
        placed state.leases ⟨0, 1⟩)) = some (some 0, some 2, 2) := by
    decide +kernel
  rcases Option.map_eq_some_iff.mp facts with ⟨state, reached, loads⟩
  rw [Prod.mk.injEq, Prod.mk.injEq] at loads
  exact ⟨state, reached, loads.1, loads.2.1, loads.2.2,
    (load_conserved ⟨mixedRun, reached⟩).2.2.2⟩

/-! ## Which requests a lease honours -/

/-- The core of the lease satisfies every constraint of the request. -/
structure Honours (request : Request) (lease : Lease) : Prop where
  kind : lease.kind = request.kind
  device : forall id, request.deviceId = some id -> lease.deviceId = id
  selection : request.coreSelection.contains lease.coreId = true
  allowed : forall placements, request.allowedPlacements = some placements ->
    (lease.deviceId, lease.coreId) ∈ placements

/-- The key of the request remembers a core, with room for one more lease,
that the allowed placements of the request leave out. -/
def RemembersForbidden (scheduler : SchedulerState) (request : Request) (now : Nat) : Prop :=
  Exists fun allocation => scheduler.remembered request now = some allocation ∧
    Exists fun site => scheduler.siteAt allocation = some site ∧ site.core.load < u64Max ∧
      Exists fun placements => request.allowedPlacements = some placements ∧
        (site.deviceId, site.core.id) ∉ placements

private def existsSome {T : Type} (found : Option T) {property : T -> Prop}
    [forall value, Decidable (property value)] :
    Decidable (Exists fun value => found = some value ∧ property value) :=
  match found with
  | none => isFalse fun impossible => by
      rcases impossible with ⟨_, absent, _⟩
      cases absent
  | some value => decidable_of_iff (property value) (by simp)

instance (scheduler : SchedulerState) (request : Request) (now : Nat) :
    Decidable (RemembersForbidden scheduler request now) :=
  @existsSome _ _ _ fun _ =>
    @existsSome _ _ _ fun _ => @instDecidableAnd _ _ _ (@existsSome _ _ _ fun _ => inferInstance)

private theorem siteMatches_iff (request : Request) (site : Site) :
    SchedulerState.siteMatches request site = true <->
      site.kind = request.kind ∧ forall id, request.deviceId = some id -> site.deviceId = id := by
  rw [SchedulerState.siteMatches, Bool.and_eq_true, decide_eq_true_eq]
  cases request.deviceId with
  | none => simp
  | some id => simp

/-- A request whose key remembers a suitable core with room is given that
core. -/
theorem acquireLease_of_remembered {scheduler : SchedulerState} {request : Request}
    {moment : Moment} {allocation : Allocation} {site : Site}
    (known : scheduler.remembered request moment.lookup = some allocation)
    (found : scheduler.siteAt allocation = some site) (room : site.core.load < u64Max) :
    Exists fun next => scheduler.acquireLease request moment =
      some (next, .ok ⟨allocation, site.kind, site.deviceId, site.core.id⟩) := by
  rcases acquireLease_spec scheduler request moment with
    ⟨next, ⟨error, is, fails⟩ | ⟨other, after, before, is, acquired, isBefore, _, shape, _⟩⟩
  · cases fails with
    | refused error unknown devices affinity =>
        rw [known] at unknown
        cases unknown
    | overflowed only isSite full devices affinity =>
        rw [only allocation known] at found
        rw [found] at isSite
        cases isSite
        exact absurd room (Nat.not_lt_of_le full)
  · cases acquired with
    | chosen unknown member isSite room devices affinity =>
        rw [known] at unknown
        cases unknown
    | recalled isKnown isSite room devices affinity =>
        rw [known] at isKnown
        cases isKnown
        rw [found] at isBefore
        cases isBefore
        rw [shape] at is
        exact ⟨next, is⟩

/-- A core taken from the candidates has passed every filter. -/
private theorem honours_of_candidate {scheduler : SchedulerState} {request : Request}
    {candidate : Candidate} (member : candidate ∈ scheduler.candidates request) {site : Site}
    (found : scheduler.siteAt ⟨candidate.deviceIndex, candidate.coreIndex⟩ = some site)
    (allocation : Allocation) :
    Honours request ⟨allocation, site.kind, site.deviceId, site.core.id⟩ := by
  rcases (scheduler.mem_candidates request candidate).mp member with
    ⟨other, isOther, suits, allowed, _⟩
  rw [found] at isOther
  cases isOther
  rcases (siteMatches_iff request site).mp suits with ⟨kind, device⟩
  simp only [SchedulerState.coreAllowed, Bool.and_eq_true] at allowed
  refine { kind := kind, device := device, selection := allowed.1.1, allowed := ?_ }
  intro placements isPlacements
  have inside := allowed.1.2
  rw [isPlacements] at inside
  exact of_decide_eq_true inside

/-- A lease honours its request in every state but one: the key remembers a
core that the request does not allow. -/
theorem honours_iff (scheduler : SchedulerState) (request : Request) (moment : Moment) :
    (forall next lease, scheduler.acquireLease request moment = some (next, .ok lease) ->
      Honours request lease) <-> ¬ RemembersForbidden scheduler request moment.lookup := by
  constructor
  · rintro honours ⟨allocation, known, site, found, room, placements, isAllowed, outside⟩
    rcases acquireLease_of_remembered known found room with ⟨next, is⟩
    exact outside ((honours next _ is).allowed placements isAllowed)
  · intro allowed next lease isLease
    rcases acquireLease_spec scheduler request moment with
      ⟨after, ⟨error, is, _⟩ | ⟨allocation, site, before, is, acquired, found, _, shape, _⟩⟩
    · rw [isLease] at is
      cases is
    rw [isLease] at is
    cases is
    rw [shape]
    cases acquired with
    | chosen unknown member isSite room devices affinity =>
        rw [found] at isSite
        cases isSite
        exact honours_of_candidate member found _
    | recalled known isSite room devices affinity =>
        rw [found] at isSite
        cases isSite
        rcases SchedulerState.remembered_eq_some known with ⟨_, _, site, isSite, suits, selected⟩
        rw [found] at isSite
        cases isSite
        rcases (siteMatches_iff request before).mp suits with ⟨kind, device⟩
        refine { kind := kind, device := device, selection := selected, allowed := ?_ }
        intro placements isPlacements
        by_contra outside
        exact allowed ⟨allocation, known, before, found, room, placements, isPlacements, outside⟩

/-- A stream is placed on core 0; its next request allows core 1 only. -/
def confinedRequest : Request :=
  { Request.auto .rknnNpu with
    affinityKey := some "stream", allowedPlacements := some [(0, 1)] }

theorem remembered_core_forbidden :
    Exists fun state => machine.Reachable (initial twoCores) state ∧
      Exists fun next => Exists fun lease =>
        state.scheduler.acquireLease confinedRequest moment = some (next, .ok lease) ∧
          ¬ Honours confinedRequest lease := by
  have facts : (machine.run (initial twoCores)
      [.acquire { Request.auto .rknnNpu with affinityKey := some "stream" } moment]).bind
        (fun state => (state.scheduler.acquireLease confinedRequest moment).map Prod.snd) =
      some (.ok ⟨⟨0, 0⟩, .rknnNpu, 0, 0⟩) := by
    decide +kernel
  rcases Option.bind_eq_some_iff.mp facts with ⟨state, reached, acquires⟩
  rcases Option.map_eq_some_iff.mp acquires with ⟨⟨next, answer⟩, isResult, isLease⟩
  dsimp only at isLease
  rw [isLease] at isResult
  refine ⟨state, ⟨_, reached⟩, next, _, isResult, ?_⟩
  intro honours
  have inside := honours.allowed [(0, 1)] rfl
  revert inside
  decide

end Leasing
end Scheduler
end DyunGu
