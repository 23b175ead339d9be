import DyunGu.Backend.Metrics
import DyunGu.Core.Device
import DyunGu.Lib.Machine
import DyunGu.Scheduler.Affinity
import Mathlib.Algebra.GroupWithZero.Nat
import Mathlib.Data.Prod.Lex

namespace DyunGu
namespace Scheduler

open DyunGu.Backend (u64Max)
open DyunGu.Core (DeviceKind CoreSelection)

/-!
# The scheduler

The scheduler hands out leases on the cores of a topology.  A request names a
kind of device and may name a device, a selection of cores and a list of
allowed placements; a request with an affinity key prefers the core that the
key was last placed on.

An index that is out of bounds panics in the source.  An operation that
indexes therefore returns an option, and `none` is the panic.
-/

inductive Error where
  | emptyTopology
  | duplicateDevice (kind : DeviceKind) (id : Nat)
  | emptyDevice (kind : DeviceKind) (id : Nat)
  | coreIdOutOfRange (kind : DeviceKind) (id coreId : Nat)
  | duplicateCore (kind : DeviceKind) (id coreId : Nat)
  | unknownDevice (kind : DeviceKind) (id : Nat)
  | noMatchingDevice (kind : DeviceKind)
  | invalidCoreMask (mask : BitVec 32)
  | missingCore (mask : BitVec 32) (coreId : Nat)
  | noAvailableCore
  | invalidInstanceCount
  | instanceCountOutOfRange (requested limit : Nat)
  | loadOverflow
deriving DecidableEq, Repr

/-! ## Topologies -/

structure Device where
  kind : DeviceKind
  id : Nat
  cores : List Nat
deriving DecidableEq, Repr

def validateCores (device : Device) : List Nat -> List Nat -> Except Error Unit
  | _, [] => .ok ()
  | seen, core :: cores =>
      if 32 <= core then .error (.coreIdOutOfRange device.kind device.id core)
      else if core ∈ seen then .error (.duplicateCore device.kind device.id core)
      else validateCores device (core :: seen) cores

def validateDevices : List (DeviceKind × Nat) -> List Device -> Except Error Unit
  | _, [] => .ok ()
  | seen, device :: devices =>
      if (device.kind, device.id) ∈ seen then
        .error (.duplicateDevice device.kind device.id)
      else if device.cores = [] then .error (.emptyDevice device.kind device.id)
      else
        match validateCores device [] device.cores with
        | .error error => .error error
        | .ok () => validateDevices ((device.kind, device.id) :: seen) devices

def validateTopology (devices : List Device) : Except Error Unit :=
  if devices = [] then .error .emptyTopology else validateDevices [] devices

/-- The devices of a process.  A topology is only built from devices that
pass the validation. -/
structure Topology where
  devices : List Device
  valid : validateTopology devices = .ok ()

/-! ## Requests and state -/

inductive SchedulingMode where
  | auto
  | explicit
deriving DecidableEq, Repr

inductive SchedulingPolicy where
  | leastLoaded
  | roundRobin
deriving DecidableEq, Repr

structure Request where
  kind : DeviceKind
  deviceId : Option Nat
  mode : SchedulingMode
  coreSelection : CoreSelection
  affinityKey : Option String
  policy : SchedulingPolicy
  allowedPlacements : Option (List (Nat × Nat))
deriving DecidableEq, Repr

namespace Request

def auto (kind : DeviceKind) : Request where
  kind := kind
  deviceId := none
  mode := .auto
  coreSelection := .auto
  affinityKey := none
  policy := .leastLoaded
  allowedPlacements := none

def explicit (kind : DeviceKind) (deviceId : Nat) (coreSelection : CoreSelection) :
    Request where
  kind := kind
  deviceId := some deviceId
  mode := .explicit
  coreSelection := coreSelection
  affinityKey := none
  policy := .leastLoaded
  allowedPlacements := none

end Request

structure CoreState where
  id : Nat
  load : Nat
  overflowCount : Nat
  underflowCount : Nat
deriving DecidableEq, Repr

namespace CoreState

def loaded (core : CoreState) : CoreState :=
  { core with load := core.load + 1 }

def overflowed (core : CoreState) : CoreState :=
  { core with overflowCount := core.overflowCount + 1 }

/-- A release that finds no load is counted and leaves the load at zero. -/
def released (core : CoreState) : CoreState :=
  if 1 <= core.load then { core with load := core.load - 1 }
  else { core with underflowCount := core.underflowCount + 1, load := 0 }

end CoreState

structure DeviceState where
  kind : DeviceKind
  id : Nat
  cores : List CoreState
deriving DecidableEq, Repr

structure Allocation where
  deviceIndex : Nat
  coreIndex : Nat
deriving DecidableEq, Repr

structure SchedulerState where
  devices : List DeviceState
  affinity : BoundedAffinityTable Allocation
  roundRobinCursor : Nat
deriving DecidableEq, Repr

structure Site where
  kind : DeviceKind
  deviceId : Nat
  core : CoreState
deriving DecidableEq, Repr

/-- What the environment decides in one call: the readings of the clock, and
which of several equally old entries a table meets first. -/
structure Moment where
  lookup : Nat
  record : Nat
  tie : String
deriving DecidableEq, Repr

structure Candidate where
  deviceIndex : Nat
  coreIndex : Nat
  load : Nat
  deviceId : Nat
  coreId : Nat
deriving DecidableEq, Repr

namespace SchedulerState

def affinityTtl : Nat := 600 * 1000000000

def fromTopology (topology : Topology) : SchedulerState where
  devices := topology.devices.map fun device =>
    { kind := device.kind, id := device.id
      cores := device.cores.map fun core => ⟨core, 0, 0, 0⟩ }
  affinity := BoundedAffinityTable.new
    (max (topology.devices.map fun device => device.cores.length).sum 1) affinityTtl
  roundRobinCursor := 0

/-- The core that an allocation names, with the kind and the id of its
device. -/
def siteAt (state : SchedulerState) (allocation : Allocation) : Option Site :=
  state.devices[allocation.deviceIndex]?.bind fun device =>
    device.cores[allocation.coreIndex]?.map fun core => ⟨device.kind, device.id, core⟩

def updateCore (state : SchedulerState) (allocation : Allocation)
    (change : CoreState -> CoreState) : SchedulerState :=
  { state with
    devices := state.devices.modify allocation.deviceIndex fun device =>
      { device with cores := device.cores.modify allocation.coreIndex change } }

def increment (state : SchedulerState) (allocation : Allocation) :
    Option (SchedulerState × Except Error Unit) :=
  match state.siteAt allocation with
  | none => none
  | some site =>
      if site.core.load + 1 <= u64Max then
        some (state.updateCore allocation CoreState.loaded, .ok ())
      else some (state.updateCore allocation CoreState.overflowed, .error .loadOverflow)

def release (state : SchedulerState) (allocation : Allocation) : Option SchedulerState :=
  match state.siteAt allocation with
  | none => none
  | some _ => some (state.updateCore allocation CoreState.released)

/-- A device of the kind, and the one that is named if one is. -/
def deviceMatches (request : Request) (device : DeviceState) : Bool :=
  decide (device.kind = request.kind) &&
    request.deviceId.all fun id => decide (device.id = id)

def deviceIndexes (state : SchedulerState) (request : Request) : List Nat :=
  (state.devices.zipIdx.filter fun entry => deviceMatches request entry.1).map Prod.snd

def allocationIsValid (state : SchedulerState) (kind : DeviceKind) (deviceIndexes : List Nat)
    (allocation : Allocation) (selection : CoreSelection) : Bool :=
  match state.siteAt allocation with
  | none => false
  | some site =>
      decide (site.kind = kind) && decide (allocation.deviceIndex ∈ deviceIndexes) &&
        selection.contains site.core.id

/-- The core that is remembered for the key of the request, if it is still
remembered and suits the request.  The allowed placements are not looked at. -/
def remembered (state : SchedulerState) (request : Request) (now : Nat) : Option Allocation :=
  match request.mode, request.affinityKey with
  | .auto, some key =>
      (state.affinity.live key now).filter fun allocation =>
        state.allocationIsValid request.kind (state.deviceIndexes request) allocation
          request.coreSelection
  | _, _ => none

/-- Looking the key up marks its entry as used, or drops it when it has
expired. -/
def lookedUp (state : SchedulerState) (request : Request) (now : Nat) : SchedulerState :=
  match request.mode, request.affinityKey with
  | .auto, some key => { state with affinity := (state.affinity.get key now).1 }
  | _, _ => state

instance (place : Nat × Nat) (placements : List (Nat × Nat)) : Decidable (place ∈ placements) :=
  inferInstance

def coreAllowed (request : Request) (deviceId coreId : Nat) : Bool :=
  request.coreSelection.contains coreId &&
    (request.allowedPlacements.all fun placements => decide ((deviceId, coreId) ∈ placements)) &&
    (request.coreSelection.isExplicit || decide (request.mode = .auto) ||
      request.coreSelection.contains coreId)

def candidates (state : SchedulerState) (request : Request) : List Candidate :=
  (state.deviceIndexes request).flatMap fun deviceIndex =>
    match state.devices[deviceIndex]? with
    | none => []
    | some device =>
        (device.cores.zipIdx.filter fun entry => coreAllowed request device.id entry.1.id).map
          fun entry => ⟨deviceIndex, entry.2, entry.1.load, device.id, entry.1.id⟩

def noCandidate (selection : CoreSelection) : Error :=
  match selection with
  | .mask mask => .invalidCoreMask mask
  | .single coreId => .missingCore (if coreId < 32 then 1#32 <<< coreId else 0#32) coreId
  | .auto | .all => .noAvailableCore

/-- The candidates are taken in turn only by an automatic request that names
no cores; every other request takes the first of the least loaded ones. -/
def takesTurn (request : Request) : Bool :=
  decide (request.mode = .auto) && !request.coreSelection.isExplicit &&
    decide (request.policy = .roundRobin)

def leastLoaded (candidates : List Candidate) : Option Candidate :=
  candidates.argmin fun candidate =>
    toLex (candidate.load, toLex (candidate.deviceId, candidate.coreId))

def select (state : SchedulerState) (request : Request) (candidates : List Candidate) :
    SchedulerState × Option Candidate :=
  if takesTurn request then
    ({ state with roundRobinCursor := (state.roundRobinCursor + 1) % UInt64.size },
      candidates[state.roundRobinCursor % candidates.length]?)
  else (state, leastLoaded candidates)

/-- Place the request on an allocation and remember it under the key. -/
def place (state : SchedulerState) (request : Request) (moment : Moment)
    (allocation : Allocation) : Option (SchedulerState × Except Error Allocation) :=
  match state.increment allocation with
  | none => none
  | some (state, .error error) => some (state, .error error)
  | some (state, .ok ()) =>
      match request.affinityKey with
      | none => some (state, .ok allocation)
      | some key =>
          some ({ state with
            affinity := state.affinity.insert key allocation moment.record moment.tie },
            .ok allocation)

def noDevice (request : Request) : Error :=
  match request.deviceId with
  | some id => .unknownDevice request.kind id
  | none => .noMatchingDevice request.kind

def acquire (state : SchedulerState) (request : Request) (moment : Moment) :
    Option (SchedulerState × Except Error Allocation) :=
  if state.deviceIndexes request = [] then some (state, .error (noDevice request))
  else
    let lookedUp := state.lookedUp request moment.lookup
    match state.remembered request moment.lookup with
    | some allocation =>
        match lookedUp.increment allocation with
        | none => none
        | some (next, .error error) => some (next, .error error)
        | some (next, .ok ()) => some (next, .ok allocation)
    | none =>
        let candidates := lookedUp.candidates request
        if candidates = [] then some (lookedUp, .error (noCandidate request.coreSelection))
        else
          match lookedUp.select request candidates with
          | (next, none) => some (next, .error .noAvailableCore)
          | (next, some candidate) =>
              next.place request moment ⟨candidate.deviceIndex, candidate.coreIndex⟩

end SchedulerState

/-! ## Leases -/

structure Lease where
  allocation : Allocation
  kind : DeviceKind
  deviceId : Nat
  coreId : Nat
deriving DecidableEq, Repr

def SchedulerState.acquireLease (state : SchedulerState) (request : Request) (moment : Moment) :
    Option (SchedulerState × Except Error Lease) :=
  match state.acquire request moment with
  | none => none
  | some (next, .error error) => some (next, .error error)
  | some (next, .ok allocation) =>
      (next.siteAt allocation).map fun site =>
        (next, .ok ⟨allocation, site.kind, site.deviceId, site.core.id⟩)

/-! ## What one acquire can do -/

namespace SchedulerState

theorem siteAt_updateCore (state : SchedulerState) (allocation other : Allocation)
    (change : CoreState -> CoreState) :
    (state.updateCore allocation change).siteAt other =
      (state.siteAt other).map fun site =>
        if allocation = other then { site with core := change site.core } else site := by
  rcases allocation with ⟨device, core⟩
  rcases other with ⟨device', core'⟩
  unfold siteAt updateCore
  simp only [List.getElem?_modify, Allocation.mk.injEq]
  cases state.devices[device']? with
  | none => rfl
  | some found =>
      by_cases sameDevice : device = device'
      · simp only [sameDevice, if_true, true_and, Option.map_eq_map, Option.map_some,
          Option.bind_some, List.getElem?_modify]
        cases found.cores[core']? with
        | none => rfl
        | some view =>
            by_cases sameCore : core = core'
            · simp [sameCore]
            · simp [sameCore]
      · simp [sameDevice, Function.comp_def]

theorem siteAt_of_devices {state next : SchedulerState} (same : next.devices = state.devices)
    (allocation : Allocation) : next.siteAt allocation = state.siteAt allocation := by
  unfold siteAt
  rw [same]

theorem lookedUp_devices (state : SchedulerState) (request : Request) (now : Nat) :
    (state.lookedUp request now).devices = state.devices := by
  unfold lookedUp
  split <;> rfl

theorem mem_deviceIndexes (state : SchedulerState) (request : Request) (index : Nat) :
    index ∈ state.deviceIndexes request <->
      Exists fun device => state.devices[index]? = some device ∧
        deviceMatches request device = true := by
  unfold deviceIndexes
  simp only [List.mem_map, List.mem_filter, Prod.exists, exists_eq_right,
    List.mem_zipIdx_iff_getElem?]

/-- The kind and the device that a request names. -/
def siteMatches (request : Request) (site : Site) : Bool :=
  decide (site.kind = request.kind) &&
    request.deviceId.all fun id => decide (site.deviceId = id)

private theorem siteAt_eq_some {state : SchedulerState} {allocation : Allocation} {site : Site} :
    state.siteAt allocation = some site <->
      Exists fun device => state.devices[allocation.deviceIndex]? = some device ∧
        device.cores[allocation.coreIndex]? = some site.core ∧ device.kind = site.kind ∧
        device.id = site.deviceId := by
  unfold siteAt
  rw [Option.bind_eq_some_iff]
  constructor
  · rintro ⟨device, found, inDevice⟩
    rcases Option.map_eq_some_iff.mp inDevice with ⟨core, isCore, rfl⟩
    exact ⟨device, found, isCore, rfl, rfl⟩
  · rintro ⟨device, found, isCore, kind, id⟩
    refine ⟨device, found, ?_⟩
    rw [isCore, Option.map_some, kind, id]

/-- The device of a core is listed for a request if it suits the request. -/
theorem mem_deviceIndexes_of_siteAt {state : SchedulerState} {allocation : Allocation}
    {site : Site} (found : state.siteAt allocation = some site) {request : Request} :
    allocation.deviceIndex ∈ state.deviceIndexes request <->
      siteMatches request site = true := by
  rcases siteAt_eq_some.mp found with ⟨device, atIndex, _, kind, id⟩
  rw [mem_deviceIndexes, siteMatches, ← kind, ← id]
  constructor
  · rintro ⟨other, atOther, suits⟩
    rw [atIndex] at atOther
    cases atOther
    exact suits
  · exact fun suits => ⟨device, atIndex, suits⟩

theorem allocationIsValid_iff (state : SchedulerState) (request : Request)
    (allocation : Allocation) :
    state.allocationIsValid request.kind (state.deviceIndexes request) allocation
        request.coreSelection = true <->
      Exists fun site => state.siteAt allocation = some site ∧
        siteMatches request site = true ∧ request.coreSelection.contains site.core.id = true := by
  unfold allocationIsValid
  cases found : state.siteAt allocation with
  | none => simp
  | some site =>
      simp only [Bool.and_eq_true, decide_eq_true_eq, mem_deviceIndexes_of_siteAt found,
        Option.some.injEq, exists_eq_left']
      constructor
      · rintro ⟨⟨_, suits⟩, selected⟩
        exact ⟨suits, selected⟩
      · rintro ⟨suits, selected⟩
        refine ⟨⟨?_, suits⟩, selected⟩
        rw [siteMatches, Bool.and_eq_true, decide_eq_true_eq] at suits
        exact suits.1

/-- The candidates of a request are the cores that suit it in every respect. -/
theorem mem_candidates (state : SchedulerState) (request : Request) (candidate : Candidate) :
    candidate ∈ state.candidates request <->
      Exists fun site =>
        state.siteAt ⟨candidate.deviceIndex, candidate.coreIndex⟩ = some site ∧
        siteMatches request site = true ∧
        coreAllowed request site.deviceId site.core.id = true ∧
        candidate = ⟨candidate.deviceIndex, candidate.coreIndex, site.core.load, site.deviceId,
          site.core.id⟩ := by
  unfold candidates
  rw [List.mem_flatMap]
  constructor
  · rintro ⟨index, listed, member⟩
    rcases (mem_deviceIndexes state request index).mp listed with ⟨device, found, suits⟩
    rw [found] at member
    rcases List.mem_map.mp member with ⟨⟨core, coreIndex⟩, inCores, rfl⟩
    rcases List.mem_filter.mp inCores with ⟨atIndex, allowed⟩
    rw [List.mem_zipIdx_iff_getElem?] at atIndex
    exact ⟨⟨device.kind, device.id, core⟩,
      siteAt_eq_some.mpr ⟨device, found, atIndex, rfl, rfl⟩, suits, allowed, rfl⟩
  · rintro ⟨site, found, suits, allowed, shape⟩
    rcases siteAt_eq_some.mp found with ⟨device, atIndex, isCore, kind, id⟩
    refine ⟨candidate.deviceIndex, ?_, ?_⟩
    · rw [mem_deviceIndexes]
      refine ⟨device, atIndex, ?_⟩
      rw [siteMatches, ← kind, ← id] at suits
      exact suits
    · dsimp only at atIndex isCore
      rw [atIndex]
      rw [← id] at allowed shape
      exact List.mem_map.mpr ⟨(site.core, candidate.coreIndex),
        List.mem_filter.mpr ⟨List.mem_zipIdx_iff_getElem?.mpr isCore, allowed⟩, shape.symm⟩

theorem remembered_eq_some {state : SchedulerState} {request : Request} {now : Nat}
    {allocation : Allocation} (found : state.remembered request now = some allocation) :
    request.mode = .auto ∧
      (Exists fun key => request.affinityKey = some key ∧
        state.affinity.live key now = some allocation) ∧
      (Exists fun site => state.siteAt allocation = some site ∧
        siteMatches request site = true ∧
        request.coreSelection.contains site.core.id = true) := by
  unfold remembered at found
  split at found
  · rename_i key mode hasKey
    rw [Option.filter_eq_some_iff] at found
    exact ⟨mode, ⟨key, hasKey, found.1⟩,
      (allocationIsValid_iff state request allocation).mp found.2⟩
  · cases found

/-- The affinity table after a request that was placed anew. -/
def recorded (state : SchedulerState) (request : Request) (moment : Moment)
    (allocation : Allocation) : BoundedAffinityTable Allocation :=
  match request.affinityKey with
  | none => (state.lookedUp request moment.lookup).affinity
  | some key => (state.lookedUp request moment.lookup).affinity.insert key allocation
      moment.record moment.tie

/-- All that an acquire can do: it is refused before any core is touched, it
fails on a core whose load is at its maximum, it takes the core remembered for
its key, or it takes a candidate. -/
inductive Acquired (state : SchedulerState) (request : Request) (moment : Moment) :
    SchedulerState -> Except Error Allocation -> Prop
  | refused {next : SchedulerState} (error : Error)
      (unknown : state.remembered request moment.lookup = none)
      (devices : next.devices = state.devices)
      (affinity : next.affinity = state.affinity ∨
        next.affinity = (state.lookedUp request moment.lookup).affinity) :
      Acquired state request moment next (.error error)
  | overflowed {next : SchedulerState} {allocation : Allocation} {site : Site}
      (only : forall other, state.remembered request moment.lookup = some other ->
        other = allocation)
      (found : state.siteAt allocation = some site) (full : u64Max <= site.core.load)
      (devices : next.devices = (state.updateCore allocation CoreState.overflowed).devices)
      (affinity : next.affinity = (state.lookedUp request moment.lookup).affinity) :
      Acquired state request moment next (.error .loadOverflow)
  | recalled {next : SchedulerState} {allocation : Allocation} {site : Site}
      (known : state.remembered request moment.lookup = some allocation)
      (found : state.siteAt allocation = some site) (room : site.core.load < u64Max)
      (devices : next.devices = (state.updateCore allocation CoreState.loaded).devices)
      (affinity : next.affinity = (state.lookedUp request moment.lookup).affinity) :
      Acquired state request moment next (.ok allocation)
  | chosen {next : SchedulerState} {candidate : Candidate} {site : Site}
      (unknown : state.remembered request moment.lookup = none)
      (member : candidate ∈ state.candidates request)
      (found : state.siteAt ⟨candidate.deviceIndex, candidate.coreIndex⟩ = some site)
      (room : site.core.load < u64Max)
      (devices : next.devices = (state.updateCore
        ⟨candidate.deviceIndex, candidate.coreIndex⟩ CoreState.loaded).devices)
      (affinity : next.affinity =
        state.recorded request moment ⟨candidate.deviceIndex, candidate.coreIndex⟩) :
      Acquired state request moment next
        (.ok ⟨candidate.deviceIndex, candidate.coreIndex⟩)

theorem updateCore_devices {state next : SchedulerState} (same : next.devices = state.devices)
    (allocation : Allocation) (change : CoreState -> CoreState) :
    (next.updateCore allocation change).devices =
      (state.updateCore allocation change).devices := by
  unfold updateCore
  rw [same]

/-- Incrementing a core that exists adds to its load, or fails at the
maximum. -/
theorem increment_eq {state : SchedulerState} {allocation : Allocation} {site : Site}
    (found : state.siteAt allocation = some site) :
    state.increment allocation =
      if site.core.load < u64Max then
        some (state.updateCore allocation CoreState.loaded, .ok ())
      else some (state.updateCore allocation CoreState.overflowed, .error .loadOverflow) := by
  unfold increment
  rw [found]
  rfl

theorem candidates_congr {state next : SchedulerState} (same : next.devices = state.devices)
    (request : Request) : next.candidates request = state.candidates request := by
  unfold candidates deviceIndexes
  rw [same]

/-- A choice among candidates is one of them, and there is one. -/
theorem select_mem (state : SchedulerState) (request : Request) {candidates : List Candidate}
    (some_ : candidates ≠ []) :
    Exists fun candidate => (state.select request candidates).2 = some candidate ∧
      candidate ∈ candidates ∧
      (state.select request candidates).1.devices = state.devices ∧
      (state.select request candidates).1.affinity = state.affinity := by
  unfold select
  split
  · have bound : state.roundRobinCursor % candidates.length < candidates.length :=
      Nat.mod_lt _ (List.length_pos_iff.mpr some_)
    exact ⟨candidates[state.roundRobinCursor % candidates.length],
      List.getElem?_eq_getElem bound, List.getElem_mem bound, rfl, rfl⟩
  · cases least : leastLoaded candidates with
    | none => exact absurd (List.argmin_eq_none.mp least) some_
    | some candidate => exact ⟨candidate, rfl, List.argmin_mem least, rfl, rfl⟩

/-- An acquire never panics, and it does one of the things listed. -/
theorem acquire_spec (state : SchedulerState) (request : Request) (moment : Moment) :
    Exists fun next => Exists fun answer =>
      state.acquire request moment = some (next, answer) ∧
        Acquired state request moment next answer := by
  have looked := lookedUp_devices state request moment.lookup
  unfold acquire
  split
  · rename_i noDevices
    refine ⟨_, _, rfl, .refused _ ?_ rfl (Or.inl rfl)⟩
    cases known : state.remembered request moment.lookup with
    | none => rfl
    | some allocation =>
        rcases remembered_eq_some known with ⟨_, _, site, found, suits, _⟩
        have listed := (mem_deviceIndexes_of_siteAt found).mpr suits
        rw [noDevices] at listed
        cases listed
  dsimp only
  cases known : state.remembered request moment.lookup with
  | some allocation =>
      rcases remembered_eq_some known with ⟨_, _, site, found, _, _⟩
      have foundAfter := (siteAt_of_devices looked allocation).trans found
      dsimp only
      rw [increment_eq foundAfter]
      by_cases room : site.core.load < u64Max
      · rw [if_pos room]
        exact ⟨_, _, rfl, .recalled known found room (updateCore_devices looked _ _) rfl⟩
      · rw [if_neg room]
        refine ⟨_, _, rfl, .overflowed (fun other isOther => ?_) found (Nat.le_of_not_lt room)
          (updateCore_devices looked _ _) rfl⟩
        rw [known] at isOther
        cases isOther
        rfl
  | none =>
      dsimp only
      rw [candidates_congr looked]
      split
      · exact ⟨_, _, rfl, .refused _ known looked (Or.inr rfl)⟩
      rename_i some_
      rcases select_mem (state.lookedUp request moment.lookup) request some_ with
        ⟨candidate, isChosen, member, devices, affinity⟩
      rcases (mem_candidates state request candidate).mp member with ⟨site, found, _⟩
      rcases selection : (state.lookedUp request moment.lookup).select request
        (state.candidates request) with ⟨next, choice⟩
      rw [selection] at isChosen devices affinity
      dsimp only at isChosen devices affinity
      rw [isChosen]
      have sameDevices : next.devices = state.devices := devices.trans looked
      have foundAfter := (siteAt_of_devices sameDevices
        ⟨candidate.deviceIndex, candidate.coreIndex⟩).trans found
      dsimp only [place]
      rw [increment_eq foundAfter]
      by_cases room : site.core.load < u64Max
      · rw [if_pos room]
        dsimp only
        cases hasKey : request.affinityKey with
        | none =>
            refine ⟨_, _, rfl, .chosen known member found room
              (updateCore_devices sameDevices _ _) ?_⟩
            rw [recorded, hasKey]
            exact affinity
        | some key =>
            refine ⟨_, _, rfl, .chosen known member found room
              (updateCore_devices sameDevices _ _) ?_⟩
            rw [recorded, hasKey, ← affinity]
            rfl
      · rw [if_neg room]
        refine ⟨_, _, rfl, .overflowed (fun other isOther => ?_) found (Nat.le_of_not_lt room)
          (updateCore_devices sameDevices _ _) affinity⟩
        rw [known] at isOther
        cases isOther

theorem acquired_of_acquire {state next : SchedulerState} {request : Request} {moment : Moment}
    {answer : Except Error Allocation}
    (acquires : state.acquire request moment = some (next, answer)) :
    Acquired state request moment next answer := by
  rcases acquire_spec state request moment with ⟨other, reply, is, acquired⟩
  rw [acquires] at is
  cases is
  exact acquired

end SchedulerState
end Scheduler
end DyunGu
