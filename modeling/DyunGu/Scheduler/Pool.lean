import DyunGu.Scheduler.Leases
import Mathlib.Logic.Function.Basic

namespace DyunGu
namespace Scheduler

open DyunGu.Backend (u64Max)
open DyunGu.Core (DeviceKind CoreSelection)

/-!
# Instance pools

A pool gives every model instance a placement and hands out instances under
leases of a scheduler that several pools share.  A checkout is not atomic: it
looks its key up in the table of the pool, acquires a core from the scheduler,
chooses an instance on that core, and records the instance, each under a lock
of its own.  The steps of all checkouts interleave freely.

A checkout that finds its key keeps the lock of the table until it has its
core.  Here the two are separate steps, so more interleavings are covered than
the lock admits.
-/

structure Placement where
  kind : DeviceKind
  deviceId : Nat
  coreId : Nat
deriving DecidableEq, Repr

/-- `poisoned` says that a holder of the lock of the cursor has panicked. -/
structure InstancePool where
  placements : List Placement
  allowedPlacements : List (Nat × Nat)
  nextInstance : Nat
  poisoned : Bool
  affinity : BoundedAffinityTable Nat
deriving DecidableEq, Repr

def maxInstanceCount : Nat := 1024

/-- What the caller asks of a pool. -/
inductive Call where
  | checkout (policy : SchedulingPolicy) (key : Option String)
  | checkoutExplicit (deviceId coreId : Nat)
deriving DecidableEq, Repr

def Call.key : Call -> Option String
  | .checkout _ key => key
  | .checkoutExplicit _ _ => none

namespace InstancePool

/-- The cores of a topology that a pool may use, in order. -/
def available (topology : Topology) (kind : DeviceKind) (selection : CoreSelection) :
    List Placement :=
  (topology.devices.filter fun device => decide (device.kind = kind)).flatMap fun device =>
    (device.cores.filter fun core => selection.contains core).map fun core =>
      ⟨kind, device.id, core⟩

/-- With fewer cores than instances the placements are used again. -/
def spread (available : List Placement) (instanceCount : Nat) : List Placement :=
  (List.range instanceCount).filterMap fun index => available[index % available.length]?

def new (topology : Topology) (kind : DeviceKind) (instanceCount : Nat)
    (selection : CoreSelection) : Except Error InstancePool :=
  if instanceCount = 0 then .error .invalidInstanceCount
  else if maxInstanceCount < instanceCount then
    .error (.instanceCountOutOfRange instanceCount maxInstanceCount)
  else if available topology kind selection = [] then .error (.noMatchingDevice kind)
  else
    let placements := spread (available topology kind selection) instanceCount
    .ok
      { placements := placements
        allowedPlacements :=
          (placements.map fun placement => (placement.deviceId, placement.coreId)).dedup
        nextInstance := 0
        poisoned := false
        affinity := BoundedAffinityTable.new instanceCount SchedulerState.affinityTtl }

/-- The request of a checkout that has found no instance for its key. -/
def request (pool : InstancePool) (kind : DeviceKind) : Call -> Request
  | .checkout policy key =>
      { Request.auto kind with
        policy := policy, allowedPlacements := some pool.allowedPlacements, affinityKey := key }
  | .checkoutExplicit deviceId coreId =>
      { Request.explicit kind deviceId (.single coreId) with
        allowedPlacements := some [(deviceId, coreId)] }

def requestOf (pool : InstancePool) (call : Call) : Option Request :=
  pool.placements.head?.map fun first => pool.request first.kind call

/-- The request of a checkout that has found an instance for its key. -/
def requestAt (placement : Placement) : Request :=
  { Request.explicit placement.kind placement.deviceId (.single placement.coreId) with
    allowedPlacements := some [(placement.deviceId, placement.coreId)] }

/-- The instances on a placement. -/
def matching (pool : InstancePool) (placement : Placement) : List Nat :=
  (pool.placements.zipIdx.filter fun entry => decide (entry.1 = placement)).map Prod.snd

end InstancePool

def Lease.placement (lease : Lease) : Placement :=
  ⟨lease.kind, lease.deviceId, lease.coreId⟩

/-- How far a checkout has come.  A checkout that has returned keeps its
instance on record after its lease is dropped. -/
inductive Phase where
  | entered
  | found (instanceIndex : Nat)
  | missed
  | acquired (lease : Lease)
  | chosen (lease : Lease) (instanceIndex : Nat)
  | returned (lease : Lease) (instanceIndex : Nat) (placement : Placement)
  | dropped (instanceIndex : Nat) (placement : Placement)
  | failed (error : Error)
  | panicked
deriving DecidableEq, Repr

namespace Phase

/-- The instance and the placement that the checkout has returned. -/
def result : Phase -> Option (Nat × Placement)
  | .returned _ instanceIndex placement | .dropped instanceIndex placement =>
      some (instanceIndex, placement)
  | _ => none

theorem result_eq_some {phase : Phase} {instanceIndex : Nat} {placement : Placement}
    (is : phase.result = some (instanceIndex, placement)) :
    (Exists fun lease => phase = .returned lease instanceIndex placement) ∨
      phase = .dropped instanceIndex placement := by
  unfold result at is
  split at is
  · cases is
    exact Or.inl ⟨_, rfl⟩
  · cases is
    exact Or.inr rfl
  · cases is

/-- The lease that the checkout holds. -/
def lease : Phase -> Option Lease
  | .acquired lease | .chosen lease _ | .returned lease _ _ => some lease
  | _ => none

/-- The checkout has returned, failed or panicked. -/
def isOver : Phase -> Bool
  | .returned _ _ _ | .dropped _ _ | .failed _ | .panicked => true
  | .entered | .found _ | .missed | .acquired _ | .chosen _ _ => false

end Phase

/-! ## The steps of one checkout -/

namespace InstancePool

/-- What a call does before it takes any lock. -/
def enter (pool : InstancePool) : Call -> Phase
  | .checkout _ (some _) => .entered
  | .checkout _ none => .missed
  | .checkoutExplicit deviceId coreId =>
      if (deviceId, coreId) ∈ pool.allowedPlacements then .missed else .failed .noAvailableCore

def lookUp (pool : InstancePool) (key : String) (now : Nat) : InstancePool × Phase :=
  match pool.affinity.get key now with
  | (affinity, some instanceIndex) => ({ pool with affinity := affinity }, .found instanceIndex)
  | (affinity, none) => ({ pool with affinity := affinity }, .missed)

/-- Acquire the core of the instance that was found. -/
def acquireFound (pool : InstancePool) (scheduler : SchedulerState) (instanceIndex : Nat)
    (moment : Moment) : SchedulerState × Phase :=
  match pool.placements[instanceIndex]? with
  | none => (scheduler, .panicked)
  | some placement =>
      match scheduler.acquireLease (requestAt placement) moment with
      | none => (scheduler, .panicked)
      | some (scheduler, .error error) => (scheduler, .failed error)
      | some (scheduler, .ok lease) => (scheduler, .returned lease instanceIndex placement)

def acquireMissed (pool : InstancePool) (scheduler : SchedulerState) (call : Call)
    (moment : Moment) : SchedulerState × Phase :=
  match pool.requestOf call with
  | none => (scheduler, .panicked)
  | some request =>
      match scheduler.acquireLease request moment with
      | none => (scheduler, .panicked)
      | some (scheduler, .error error) => (scheduler, .failed error)
      | some (scheduler, .ok lease) => (scheduler, .acquired lease)

/-- Where a checkout goes once its instance is chosen: a key is still to be
recorded. -/
def settle (call : Call) (lease : Lease) (instanceIndex : Nat) : Phase :=
  match call.key with
  | some _ => .chosen lease instanceIndex
  | none => .returned lease instanceIndex lease.placement

/-- A checkout that ends without a result gives its lease back. -/
def giveBack (scheduler : SchedulerState) (lease : Lease) (phase : Phase) :
    SchedulerState × Phase :=
  match scheduler.release lease.allocation with
  | none => (scheduler, .panicked)
  | some next => (next, phase)

/-- Choose an instance on the core of the lease.  A remainder by zero panics
under the lock of the cursor. -/
def choose (pool : InstancePool) (scheduler : SchedulerState) (call : Call) (lease : Lease) :
    SchedulerState × InstancePool × Phase :=
  match pool.matching lease.placement with
  | [instanceIndex] => (scheduler, pool, settle call lease instanceIndex)
  | several =>
      if pool.poisoned then
        let (scheduler, phase) := giveBack scheduler lease (.failed .noAvailableCore)
        (scheduler, pool, phase)
      else
        match several[pool.nextInstance % several.length]? with
        | none =>
            let (scheduler, phase) := giveBack scheduler lease .panicked
            (scheduler, { pool with poisoned := true }, phase)
        | some instanceIndex =>
            (scheduler, { pool with nextInstance := (pool.nextInstance + 1) % UInt64.size },
              settle call lease instanceIndex)

/-- Record the chosen instance under the key. -/
def record (pool : InstancePool) (call : Call) (lease : Lease) (instanceIndex : Nat)
    (moment : Moment) : InstancePool × Phase :=
  match call.key with
  | some key =>
      ({ pool with
          affinity := pool.affinity.insert key instanceIndex moment.record moment.tie },
        .returned lease instanceIndex lease.placement)
  | none => (pool, .returned lease instanceIndex lease.placement)

/-- The next step of a checkout that is not over. -/
def advance (pool : InstancePool) (scheduler : SchedulerState) (call : Call) (phase : Phase)
    (moment : Moment) : Option (SchedulerState × InstancePool × Phase) :=
  match phase with
  | .entered =>
      call.key.map fun key =>
        let (pool, phase) := pool.lookUp key moment.lookup
        (scheduler, pool, phase)
  | .found instanceIndex =>
      let (scheduler, phase) := pool.acquireFound scheduler instanceIndex moment
      some (scheduler, pool, phase)
  | .missed =>
      let (scheduler, phase) := pool.acquireMissed scheduler call moment
      some (scheduler, pool, phase)
  | .acquired lease => some (pool.choose scheduler call lease)
  | .chosen lease instanceIndex =>
      let (pool, phase) := pool.record call lease instanceIndex moment
      some (scheduler, pool, phase)
  | .returned _ _ _ | .dropped _ _ | .failed _ | .panicked => none

end InstancePool

/-! ## All checkouts of all pools -/

namespace Pooling

structure Checkout (n : Nat) where
  pool : Fin n
  call : Call
  phase : Phase
deriving DecidableEq

structure State (n : Nat) where
  scheduler : SchedulerState
  pools : Fin n -> InstancePool
  checkouts : List (Checkout n)

inductive Label (n : Nat) where
  | start (pool : Fin n) (call : Call)
  | advance (index : Nat) (moment : Moment)
  | drop (index : Nat)
  | removeAffinity (pool : Fin n) (key : String)

variable {n : Nat}

/-- One checkout takes its next step. -/
def advance (state : State n) (index : Nat) (moment : Moment) : Option (State n) :=
  state.checkouts[index]?.bind fun checkout =>
    ((state.pools checkout.pool).advance state.scheduler checkout.call checkout.phase
      moment).map fun (scheduler, pool, phase) =>
        { scheduler := scheduler
          pools := Function.update state.pools checkout.pool pool
          checkouts := state.checkouts.set index { checkout with phase := phase } }

/-- The holder of a returned lease drops it. -/
def drop (state : State n) (index : Nat) : Option (State n) :=
  state.checkouts[index]?.bind fun checkout =>
    match checkout.phase with
    | .returned lease instanceIndex placement =>
        let (scheduler, phase) := InstancePool.giveBack state.scheduler lease
          (.dropped instanceIndex placement)
        some
          { state with
            scheduler := scheduler
            checkouts := state.checkouts.set index { checkout with phase := phase } }
    | _ => none

def step (state : State n) : Label n -> Option (State n)
  | .start pool call =>
      some { state with
        checkouts := state.checkouts ++ [⟨pool, call, (state.pools pool).enter call⟩] }
  | .advance index moment => advance state index moment
  | .drop index => drop state index
  | .removeAffinity pool key =>
      some { state with
        pools := Function.update state.pools pool
          { state.pools pool with affinity := (state.pools pool).affinity.remove key } }

def machine (n : Nat) : Machine (State n) (Label n) where
  step := step

/-- Pools that were built over the topology of one scheduler. -/
structure Pools (n : Nat) where
  topology : Topology
  pool : Fin n -> InstancePool
  built : forall i, Exists fun kind => Exists fun instanceCount => Exists fun selection =>
    InstancePool.new topology kind instanceCount selection = .ok (pool i)

def initial (pools : Pools n) : State n where
  scheduler := SchedulerState.fromTopology pools.topology
  pools := pools.pool
  checkouts := []

/-- Only a lease that was returned can be dropped. -/
theorem drop_eq_some {state next : State n} {index : Nat} (drops : drop state index = some next) :
    Exists fun checkout => Exists fun lease => Exists fun instanceIndex => Exists fun placement =>
      state.checkouts[index]? = some checkout ∧
        checkout.phase = .returned lease instanceIndex placement ∧
        next =
          { state with
            scheduler := (InstancePool.giveBack state.scheduler lease
              (.dropped instanceIndex placement)).1
            checkouts := state.checkouts.set index
              { checkout with phase := (InstancePool.giveBack state.scheduler lease
                (.dropped instanceIndex placement)).2 } } := by
  rcases Option.bind_eq_some_iff.mp drops with ⟨checkout, found, moved⟩
  split at moved
  · rename_i lease instanceIndex placement isReturned
    exact ⟨checkout, lease, instanceIndex, placement, found, isReturned,
      (Option.some.inj moved).symm⟩
  · cases moved

end Pooling

/-! ## What stays as it is -/

namespace SchedulerState

/-- The placement that an allocation stands for. -/
def placeOf (scheduler : SchedulerState) (allocation : Allocation) : Option Placement :=
  (scheduler.siteAt allocation).map fun site => ⟨site.kind, site.deviceId, site.core.id⟩

theorem placeOf_of_siteAt {scheduler : SchedulerState} {allocation : Allocation} {site : Site}
    (found : scheduler.siteAt allocation = some site) :
    scheduler.placeOf allocation = some ⟨site.kind, site.deviceId, site.core.id⟩ := by
  rw [placeOf, found, Option.map_some]

theorem placeOf_of_devices {scheduler next : SchedulerState}
    (same : next.devices = scheduler.devices) : next.placeOf = scheduler.placeOf := by
  funext allocation
  unfold placeOf
  rw [siteAt_of_devices same]

theorem placeOf_updateCore (scheduler : SchedulerState) (allocation : Allocation)
    (change : CoreState -> CoreState) (keeps : forall core, (change core).id = core.id) :
    (scheduler.updateCore allocation change).placeOf = scheduler.placeOf := by
  funext other
  unfold placeOf
  rw [siteAt_updateCore, Option.map_map]
  congr 1
  funext site
  by_cases same : allocation = other
  · simp [same, keeps]
  · simp [same]

/-- No acquire moves a core. -/
theorem Acquired.placeOf {scheduler next : SchedulerState} {request : Request} {moment : Moment}
    {answer : Except Error Allocation} (acquired : Acquired scheduler request moment next answer) :
    next.placeOf = scheduler.placeOf := by
  cases acquired with
  | refused error unknown devices affinity => exact placeOf_of_devices devices
  | overflowed only found full devices affinity =>
      rw [placeOf_of_devices devices]
      exact placeOf_updateCore scheduler _ CoreState.overflowed fun _ => rfl
  | recalled known found room devices affinity =>
      rw [placeOf_of_devices devices]
      exact placeOf_updateCore scheduler _ CoreState.loaded fun _ => rfl
  | chosen unknown member found room devices affinity =>
      rw [placeOf_of_devices devices]
      exact placeOf_updateCore scheduler _ CoreState.loaded fun _ => rfl

theorem release_of_placeOf {scheduler : SchedulerState} {allocation : Allocation}
    {placement : Placement} (placed : scheduler.placeOf allocation = some placement) :
    scheduler.release allocation =
      some (scheduler.updateCore allocation CoreState.released) := by
  unfold placeOf at placed
  unfold release
  cases found : scheduler.siteAt allocation with
  | none =>
      rw [found] at placed
      cases placed
  | some site => rfl

theorem placeOf_released (scheduler : SchedulerState) (allocation : Allocation) :
    (scheduler.updateCore allocation CoreState.released).placeOf = scheduler.placeOf := by
  apply placeOf_updateCore
  intro core
  unfold CoreState.released
  split <;> rfl

end SchedulerState

/-- What an acquire of a lease gives: the scheduler has moved no core, and the
lease stands for the core of its allocation. -/
theorem Leasing.acquireLease_places (scheduler : SchedulerState) (request : Request)
    (moment : Moment) :
    Exists fun next => Exists fun answer =>
      scheduler.acquireLease request moment = some (next, answer) ∧
        SchedulerState.Acquired scheduler request moment next
          (answer.map Lease.allocation) ∧
        next.placeOf = scheduler.placeOf ∧
        forall lease, answer = .ok lease ->
          scheduler.placeOf lease.allocation = some lease.placement := by
  rcases acquireLease_spec scheduler request moment with
    ⟨next, ⟨error, is, fails⟩ | ⟨allocation, site, before, is, acquired, found, _, shape, _⟩⟩
  · exact ⟨next, .error error, is, fails, fails.placeOf, fun _ impossible => by cases impossible⟩
  · refine ⟨next, _, is, acquired, acquired.placeOf, ?_⟩
    intro lease isLease
    cases isLease
    rw [SchedulerState.placeOf_of_siteAt found, shape]
    rfl

namespace InstancePool

variable {pool pool' : InstancePool} {scheduler scheduler' : SchedulerState} {call : Call}
  {phase phase' : Phase} {moment : Moment}

/-- A lease is given back, unless its core is not known. -/
theorem giveBack_cases (scheduler : SchedulerState) (lease : Lease) (phase : Phase) :
    (giveBack scheduler lease phase).1 = scheduler ∨
      (giveBack scheduler lease phase).1 =
        scheduler.updateCore lease.allocation CoreState.released := by
  unfold giveBack
  cases releases : scheduler.release lease.allocation with
  | none => exact Or.inl rfl
  | some next =>
      unfold SchedulerState.release at releases
      split at releases
      · cases releases
      · cases releases
        exact Or.inr rfl

theorem giveBack_placeOf (scheduler : SchedulerState) (lease : Lease) (phase : Phase) :
    (giveBack scheduler lease phase).1.placeOf = scheduler.placeOf := by
  rcases giveBack_cases scheduler lease phase with kept | given
  · rw [kept]
  · rw [given]
    exact SchedulerState.placeOf_released scheduler lease.allocation

/-- What no step of a checkout changes: where the cores are, the placements of
the pool and the placements it allows. -/
structure Frame (scheduler scheduler' : SchedulerState) (pool pool' : InstancePool) : Prop where
  places : scheduler'.placeOf = scheduler.placeOf
  placements : pool'.placements = pool.placements
  allowed : pool'.allowedPlacements = pool.allowedPlacements

theorem advance_frame
    (advances : pool.advance scheduler call phase moment = some (scheduler', pool', phase')) :
    Frame scheduler scheduler' pool pool' := by
  have acquires : forall request, forall next answer,
      scheduler.acquireLease request moment = some (next, answer) ->
      next.placeOf = scheduler.placeOf := by
    intro request next answer is
    rcases Leasing.acquireLease_places scheduler request moment with ⟨_, _, same, _, places, _⟩
    rw [is] at same
    cases same
    exact places
  cases phase with
  | entered =>
      rcases Option.map_eq_some_iff.mp advances with ⟨key, _, is⟩
      cases is
      split <;> exact ⟨rfl, rfl, rfl⟩
  | found instanceIndex =>
      cases advances
      refine ⟨?_, rfl, rfl⟩
      split
      · rfl
      · split
        · rfl
        · exact acquires _ _ _ ‹_›
        · exact acquires _ _ _ ‹_›
  | missed =>
      cases advances
      refine ⟨?_, rfl, rfl⟩
      split
      · rfl
      · split
        · rfl
        · exact acquires _ _ _ ‹_›
        · exact acquires _ _ _ ‹_›
  | acquired lease =>
      have chosen : Frame scheduler (pool.choose scheduler call lease).1 pool
          (pool.choose scheduler call lease).2.1 := by
        unfold choose
        split
        · exact ⟨rfl, rfl, rfl⟩
        · split
          · exact ⟨giveBack_placeOf _ _ _, rfl, rfl⟩
          · split
            · exact ⟨giveBack_placeOf _ _ _, rfl, rfl⟩
            · exact ⟨rfl, rfl, rfl⟩
      rw [Option.some.inj advances] at chosen
      exact chosen
  | chosen lease instanceIndex =>
      cases advances
      split <;> exact ⟨rfl, rfl, rfl⟩
  | returned lease instanceIndex placement => cases advances
  | dropped instanceIndex placement => cases advances
  | failed error => cases advances
  | panicked => cases advances

end InstancePool
end Scheduler
end DyunGu
