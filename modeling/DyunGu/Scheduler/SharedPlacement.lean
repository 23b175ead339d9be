import DyunGu.Scheduler.Agreement

namespace DyunGu
namespace Scheduler

open DyunGu.Backend (u64Max)
open DyunGu.Core (DeviceKind CoreSelection)

/-!
# Instances that share a placement

A pool with more instances than cores uses its placements again.  Two
checkouts of one key that both miss are then given one core and two of its
instances.  Together with the agreement on pools without shared placements
this settles when the checkouts of one key agree.
-/

/-! ## The placements of a new pool -/

/-- The cores of a device that passes the validation are distinct. -/
theorem validateCores_nodup {device : Device} {seen cores : List Nat}
    (valid : validateCores device seen cores = .ok ()) :
    cores.Nodup ∧ forall core, core ∈ cores -> core ∉ seen := by
  induction cores generalizing seen with
  | nil => exact ⟨List.nodup_nil, fun _ impossible => by cases impossible⟩
  | cons core cores ih =>
      unfold validateCores at valid
      split at valid
      · cases valid
      split at valid
      · cases valid
      rename_i unseen
      have rest := ih valid
      constructor
      · rw [List.nodup_cons]
        exact ⟨fun member => rest.2 core member List.mem_cons_self, rest.1⟩
      · intro other member
        rcases List.mem_cons.mp member with rfl | later
        · exact unseen
        · exact fun isSeen => rest.2 other later (List.mem_cons_of_mem _ isSeen)

/-- The devices of a topology that passes the validation are distinct, and so
are the cores of each. -/
theorem validateDevices_distinct {seen : List (DeviceKind × Nat)} {devices : List Device}
    (valid : validateDevices seen devices = .ok ()) :
    devices.Pairwise (fun left right => (left.kind, left.id) ≠ (right.kind, right.id)) ∧
      forall device, device ∈ devices ->
        device.cores.Nodup ∧ (device.kind, device.id) ∉ seen := by
  induction devices generalizing seen with
  | nil => exact ⟨List.Pairwise.nil, fun _ impossible => by cases impossible⟩
  | cons device devices ih =>
      unfold validateDevices at valid
      split at valid
      · cases valid
      rename_i unseen
      split at valid
      · cases valid
      split at valid
      · cases valid
      rename_i cores
      have rest := ih valid
      constructor
      · rw [List.pairwise_cons]
        refine ⟨?_, rest.1⟩
        intro other member same
        exact (rest.2 other member).2 (same ▸ List.mem_cons_self)
      · intro other member
        rcases List.mem_cons.mp member with rfl | later
        · exact ⟨(validateCores_nodup cores).1, unseen⟩
        · exact ⟨(rest.2 other later).1,
            fun isSeen => (rest.2 other later).2 (List.mem_cons_of_mem _ isSeen)⟩

namespace InstancePool

/-- No core of a topology is available twice. -/
theorem available_nodup (topology : Topology) (kind : DeviceKind) (selection : CoreSelection) :
    (available topology kind selection).Nodup := by
  have valid := topology.valid
  unfold validateTopology at valid
  split at valid
  · cases valid
  have distinct := validateDevices_distinct valid
  unfold available
  rw [List.nodup_flatMap]
  constructor
  · intro device member
    apply List.Nodup.map
    · intro left right same
      cases same
      rfl
    · exact ((distinct.2 device (List.mem_of_mem_filter member)).1).filter _
  · apply List.Pairwise.imp_of_mem _ (distinct.1.filter _)
    intro left right inLeft inRight differ placement isLeft isRight
    rcases List.mem_map.mp isLeft with ⟨core, _, rfl⟩
    rcases List.mem_map.mp isRight with ⟨other, _, same⟩
    have leftKind := (List.mem_filter.mp inLeft).2
    have rightKind := (List.mem_filter.mp inRight).2
    rw [decide_eq_true_eq] at leftKind rightKind
    apply differ
    rw [leftKind, rightKind, (Placement.mk.inj same).2.1]

theorem spread_getElem? {cores : List Placement} (some_ : cores ≠ []) {instanceCount index : Nat}
    (bound : index < instanceCount) :
    (spread cores instanceCount)[index]? = cores[index % cores.length]? := by
  have positive : 0 < cores.length := List.length_pos_iff.mpr some_
  have total : spread cores instanceCount = (List.range instanceCount).map
      fun other => cores.get ⟨other % cores.length, Nat.mod_lt _ positive⟩ := by
    unfold spread
    rw [← List.filterMap_eq_map]
    apply List.filterMap_congr
    intro other _
    exact List.getElem?_eq_getElem (Nat.mod_lt _ positive)
  rw [total, List.getElem?_map, List.getElem?_range bound, Option.map_some]
  exact (List.getElem?_eq_getElem (Nat.mod_lt _ positive)).symm

/-- With enough cores every instance has a placement of its own. -/
theorem spread_nodup {cores : List Placement} (nodup : cores.Nodup) (some_ : cores ≠ [])
    {instanceCount : Nat} (enough : instanceCount <= cores.length) :
    (spread cores instanceCount).Nodup := by
  have taken : spread cores instanceCount = cores.take instanceCount := by
    apply List.ext_getElem?
    intro index
    rw [List.getElem?_take]
    split
    · rename_i bound
      rw [spread_getElem? some_ bound, Nat.mod_eq_of_lt (by omega)]
    · rw [List.getElem?_eq_none]
      rw [spread_length some_]
      omega
  rw [taken]
  exact nodup.sublist (List.take_sublist instanceCount cores)

/-- What a pool is when it is built. -/
theorem new_eq_ok {topology : Topology} {kind : DeviceKind} {instanceCount : Nat}
    {selection : CoreSelection} {pool : InstancePool}
    (built : new topology kind instanceCount selection = .ok pool) :
    available topology kind selection ≠ [] ∧
      pool.placements = spread (available topology kind selection) instanceCount ∧
      pool.allowedPlacements =
        (pool.placements.map fun placement => (placement.deviceId, placement.coreId)).dedup ∧
      pool.nextInstance = 0 ∧ pool.poisoned = false ∧ pool.affinity.entries = [] := by
  unfold new at built
  split at built
  · cases built
  split at built
  · cases built
  split at built
  · cases built
  rename_i some_
  cases built
  exact ⟨some_, rfl, rfl, rfl, rfl, rfl⟩

theorem matching_nodup (pool : InstancePool) (placement : Placement) :
    (pool.matching placement).Nodup := by
  unfold matching
  have indices : (pool.placements.zipIdx.map Prod.snd).Nodup := by
    rw [List.zipIdx_map_snd]
    exact List.nodup_range' 1
  exact indices.sublist (List.Sublist.map Prod.snd List.filter_sublist)

/-- A placement with two instances has a first and a second one. -/
theorem matching_two {pool : InstancePool} {placement : Placement} {i j : Nat} (differ : i ≠ j)
    (isLeft : pool.placements[i]? = some placement)
    (isRight : pool.placements[j]? = some placement) :
    Exists fun left => Exists fun right => Exists fun rest =>
      pool.matching placement = left :: right :: rest ∧ left ≠ right := by
  have nodup := pool.matching_nodup placement
  rw [← mem_matching] at isLeft isRight
  rcases several : pool.matching placement with _ | ⟨left, _ | ⟨right, rest⟩⟩
  · rw [several] at isLeft
    cases isLeft
  · rw [several, List.mem_singleton] at isLeft isRight
    exact absurd (isLeft.trans isRight.symm) differ
  · refine ⟨left, right, rest, rfl, ?_⟩
    rw [several, List.nodup_cons] at nodup
    intro same
    exact nodup.1 (same ▸ List.mem_cons_self)

end InstancePool

/-! ## The first core of a fresh scheduler -/

private theorem filter_zipIdx {T : Type} (keeps : T -> Bool) (entries : List T) :
    (entries.zipIdx.filter fun entry => keeps entry.1).map Prod.fst = entries.filter keeps := by
  have filtered : (entries.zipIdx.map Prod.fst).filter keeps =
      (entries.zipIdx.filter fun entry => keeps entry.1).map Prod.fst := List.filter_map
  rw [List.zipIdx_map_fst] at filtered
  exact filtered.symm

namespace SchedulerState

/-- The candidates of a request are met in the order of the devices. -/
theorem candidates_places (state : SchedulerState) (request : Request) :
    (state.candidates request).map (fun candidate => (candidate.deviceId, candidate.coreId)) =
      (state.devices.filter (deviceMatches request)).flatMap fun device =>
        (device.cores.filter fun core => coreAllowed request device.id core.id).map
          fun core => (device.id, core.id) := by
  rw [← filter_zipIdx (deviceMatches request), List.flatMap_map]
  unfold candidates deviceIndexes
  rw [List.map_flatMap, List.flatMap_map]
  apply List.flatMap_congr
  rintro ⟨device, index⟩ member
  have found : state.devices[index]? = some device :=
    List.mem_zipIdx_iff_getElem?.mp (List.mem_of_mem_filter member)
  dsimp only
  rw [found, ← filter_zipIdx (fun core : CoreState => coreAllowed request device.id core.id),
    List.map_map, List.map_map]
  rfl

/-- A pool with at least as many instances as cores may use all of them, in
the order of the topology. -/
theorem candidates_available {topology : Topology} {kind : DeviceKind} {instanceCount : Nat}
    {selection : CoreSelection} {pool : InstancePool}
    (built : InstancePool.new topology kind instanceCount selection = .ok pool)
    (enough : (InstancePool.available topology kind selection).length <= instanceCount)
    (policy : SchedulingPolicy) (key : Option String) :
    ((fromTopology topology).candidates (pool.request kind (.checkout policy key))).map
        (fun candidate => (candidate.deviceId, candidate.coreId)) =
      (InstancePool.available topology kind selection).map
        fun placement => (placement.deviceId, placement.coreId) := by
  rcases InstancePool.new_eq_ok built with ⟨some_, placements, allowed, _⟩
  have all : forall placement, placement ∈ InstancePool.available topology kind selection ->
      placement ∈ pool.placements := by
    intro placement member
    rcases List.mem_iff_getElem?.mp member with ⟨index, found⟩
    have bound := (List.getElem?_eq_some_iff.mp found).1
    rw [placements, List.mem_iff_getElem?]
    refine ⟨index, ?_⟩
    rw [InstancePool.spread_getElem? some_ (by omega), Nat.mod_eq_of_lt bound, found]
  have drawn : forall placement, placement ∈ pool.placements ->
      placement ∈ InstancePool.available topology kind selection := by
    intro placement member
    rw [placements] at member
    rcases List.mem_filterMap.mp member with ⟨index, _, found⟩
    exact List.mem_of_getElem? found
  have selects : forall device, device ∈ topology.devices -> device.kind = kind ->
      forall core, core ∈ device.cores ->
        ((device.id, core) ∈ pool.allowedPlacements <-> selection.contains core = true) := by
    intro device inDevices isKind core inCores
    rw [allowed, List.mem_dedup, List.mem_map]
    constructor
    · rintro ⟨placement, member, same⟩
      rcases List.mem_flatMap.mp (drawn placement member) with ⟨_, _, inDevice⟩
      rcases List.mem_map.mp inDevice with ⟨other, kept, rfl⟩
      rw [← (Prod.mk.inj same).2]
      exact (List.mem_filter.mp kept).2
    · intro contains
      refine ⟨⟨kind, device.id, core⟩, all _ ?_, rfl⟩
      refine List.mem_flatMap.mpr ⟨device, ?_, ?_⟩
      · exact List.mem_filter.mpr ⟨inDevices, decide_eq_true isKind⟩
      · exact List.mem_map.mpr ⟨core, List.mem_filter.mpr ⟨inCores, contains⟩, rfl⟩
  rw [candidates_places, InstancePool.available, List.map_flatMap]
  unfold fromTopology
  rw [List.filter_map, List.flatMap_map]
  have same : (deviceMatches (pool.request kind (.checkout policy key)) ∘ fun device : Device =>
      ({ kind := device.kind, id := device.id
         cores := device.cores.map fun core => ⟨core, 0, 0, 0⟩ } : DeviceState)) =
      fun device => decide (device.kind = kind) := by
    funext device
    exact Bool.and_true _
  rw [same]
  apply List.flatMap_congr
  intro device member
  rcases List.mem_filter.mp member with ⟨inDevices, isKind⟩
  rw [decide_eq_true_eq] at isKind
  dsimp only
  rw [List.filter_map, List.map_map, List.map_map]
  have cores : device.cores.filter ((fun core : CoreState => coreAllowed
      (pool.request kind (.checkout policy key)) device.id core.id) ∘ fun core => ⟨core, 0, 0, 0⟩) =
      device.cores.filter fun core => selection.contains core := by
    apply List.filter_congr
    intro core inCores
    rw [Bool.eq_iff_iff, ← selects device inDevices isKind core inCores]
    simp [coreAllowed, InstancePool.request, Request.auto, CoreSelection.contains]
  rw [cores]
  rfl

/-- A request that is taken in turn and remembers nothing is placed on the
candidate at the cursor. -/
theorem acquire_turn {state : SchedulerState} {request : Request} {moment : Moment}
    (unknown : state.remembered request moment.lookup = none)
    (turn : takesTurn request = true) {candidate : Candidate} {site : Site}
    (isTurn : (state.candidates request)[state.roundRobinCursor %
      (state.candidates request).length]? = some candidate)
    (found : state.siteAt ⟨candidate.deviceIndex, candidate.coreIndex⟩ = some site)
    (room : site.core.load < u64Max) :
    Exists fun next => state.acquire request moment =
      some (next, .ok ⟨candidate.deviceIndex, candidate.coreIndex⟩) := by
  have looked := lookedUp_devices state request moment.lookup
  have member := List.mem_of_getElem? isTurn
  have listed : state.deviceIndexes request ≠ [] := by
    intro empty
    rcases (mem_candidates state request candidate).mp member with ⟨other, isOther, suits, _⟩
    have inList := (mem_deviceIndexes_of_siteAt isOther).mpr suits
    rw [empty] at inList
    cases inList
  have cursor : (state.lookedUp request moment.lookup).roundRobinCursor =
      state.roundRobinCursor := by
    unfold lookedUp
    split <;> rfl
  unfold acquire
  rw [if_neg listed, unknown]
  dsimp only
  rw [candidates_congr looked, if_neg (List.ne_nil_of_mem member), select, if_pos turn, cursor,
    isTurn]
  dsimp only [place]
  have foundAfter : ({ state.lookedUp request moment.lookup with
      roundRobinCursor := (state.roundRobinCursor + 1) % UInt64.size } : SchedulerState).siteAt
        ⟨candidate.deviceIndex, candidate.coreIndex⟩ = some site :=
    (siteAt_of_devices looked _).trans found
  rw [increment_eq foundAfter, if_pos room]
  dsimp only
  split
  · exact ⟨_, rfl⟩
  · exact ⟨_, rfl⟩

end SchedulerState

namespace InstancePool

variable {pool : InstancePool} {scheduler next : SchedulerState} {call : Call} {moment : Moment}

/-- A checkout is given the core that the scheduler gives its request. -/
theorem acquireMissed_of_acquire {request : Request}
    (requests : pool.requestOf call = some request) {allocation : Allocation}
    (acquires : scheduler.acquire request moment = some (next, .ok allocation))
    {placement : Placement} (placed : scheduler.placeOf allocation = some placement) :
    Exists fun lease => pool.acquireMissed scheduler call moment = (next, .acquired lease) ∧
      lease.placement = placement := by
  have after : next.placeOf allocation = some placement := by
    rw [(SchedulerState.acquired_of_acquire acquires).placeOf]
    exact placed
  rcases Option.map_eq_some_iff.mp after with ⟨site, found, rfl⟩
  refine ⟨⟨allocation, site.kind, site.deviceId, site.core.id⟩, ?_, rfl⟩
  unfold acquireMissed SchedulerState.acquireLease
  rw [requests]
  dsimp only
  rw [acquires]
  dsimp only
  rw [found]
  rfl

/-- Of several instances on the core the cursor names one. -/
theorem choose_several (scheduler : SchedulerState) {lease : Lease} {left right : Nat}
    {rest : List Nat} (several : pool.matching lease.placement = left :: right :: rest)
    (clear : pool.poisoned = false) {key : String} (hasKey : call.key = some key)
    {instanceIndex : Nat}
    (isTurn : (left :: right :: rest)[pool.nextInstance % (rest.length + 2)]? =
      some instanceIndex) :
    pool.choose scheduler call lease =
      (scheduler, { pool with nextInstance := (pool.nextInstance + 1) % UInt64.size },
        .chosen lease instanceIndex) := by
  unfold choose settle
  rw [several, clear, hasKey]
  dsimp only [List.length_cons]
  rw [if_neg Bool.false_ne_true, isTurn]

end InstancePool

/-! ## Two checkouts that both miss -/

namespace Pooling

variable {n : Nat}

/-- Looking up at time zero finds nothing expired. -/
theorem live_zero {T : Type} (table : BoundedAffinityTable T) (key : String) :
    table.live key 0 = table.valueOf key := by
  rw [BoundedAffinityTable.live_eq, BoundedAffinityTable.valueOf]
  cases table.find key with
  | none => rfl
  | some entry => simp [BoundedAffinityTable.isExpired]

/-- Two checkouts of one call on one of the pools. -/
def twin (pools : Pools n) (p : Fin n) (call : Call) (scheduler : SchedulerState)
    (pool : InstancePool) (first second : Phase) : State n where
  scheduler := scheduler
  pools := Function.update pools.pool p pool
  checkouts := [⟨p, call, first⟩, ⟨p, call, second⟩]

/-- The moment at which nothing has expired. -/
def outset : Moment := ⟨0, 0, ""⟩

section Twin

variable {pools : Pools n} {p : Fin n} {call : Call} {key : String}
  {scheduler scheduler' : SchedulerState} {pool pool' : InstancePool} {first second phase : Phase}

/-- A step at the outset that drops the key from neither table disturbs
nothing. -/
theorem undisturbed_twin {index : Nat} {next : State n}
    (steps : advance (twin pools p call scheduler pool first second) index outset = some next)
    (table : pool.affinity.valueOf key ≠ none -> (next.pools p).affinity.valueOf key ≠ none)
    (memory : scheduler.affinity.valueOf key ≠ none ->
      next.scheduler.affinity.valueOf key ≠ none) :
    Undisturbed p key (twin pools p call scheduler pool first second) (.advance index outset) := by
  refine ⟨live_zero _ key, live_zero _ key, ?_⟩
  intro other isOther
  rw [steps] at isOther
  cases isOther
  refine ⟨?_, memory⟩
  unfold twin
  dsimp only
  rw [Function.update_self]
  exact table

/-- The first of the two takes a step. -/
theorem leads_first
    (advances : pool.advance scheduler call first outset = some (scheduler', pool', phase))
    (table : pool.affinity.valueOf key ≠ none -> pool'.affinity.valueOf key ≠ none)
    (memory : scheduler.affinity.valueOf key ≠ none ->
      scheduler'.affinity.valueOf key ≠ none) :
    (machine n).Leads (Undisturbed p key) (twin pools p call scheduler pool first second)
      (twin pools p call scheduler' pool' phase second) := by
  have steps : advance (twin pools p call scheduler pool first second) 0 outset =
      some (twin pools p call scheduler' pool' phase second) := by
    unfold advance twin
    simp only [List.getElem?_cons_zero, Option.bind_some, Function.update_self, advances,
      Option.map_some, Function.update_idem, List.set_cons_zero]
  refine Machine.Leads.head (machine n) (undisturbed_twin steps ?_ memory) steps
    (Machine.Leads.refl _ _ _)
  unfold twin
  dsimp only
  rw [Function.update_self]
  exact table

/-- The second of the two takes a step. -/
theorem leads_second
    (advances : pool.advance scheduler call second outset = some (scheduler', pool', phase))
    (table : pool.affinity.valueOf key ≠ none -> pool'.affinity.valueOf key ≠ none)
    (memory : scheduler.affinity.valueOf key ≠ none ->
      scheduler'.affinity.valueOf key ≠ none) :
    (machine n).Leads (Undisturbed p key) (twin pools p call scheduler pool first second)
      (twin pools p call scheduler' pool' first phase) := by
  have steps : advance (twin pools p call scheduler pool first second) 1 outset =
      some (twin pools p call scheduler' pool' first phase) := by
    unfold advance twin
    simp only [List.getElem?_cons_succ, List.getElem?_cons_zero, Option.bind_some,
      Function.update_self, advances, Option.map_some, Function.update_idem, List.set_cons_succ,
      List.set_cons_zero]
  refine Machine.Leads.head (machine n) (undisturbed_twin steps ?_ memory) steps
    (Machine.Leads.refl _ _ _)
  unfold twin
  dsimp only
  rw [Function.update_self]
  exact table

end Twin

/-- Two calls with the key enter before either takes a step. -/
theorem leads_twin (pools : Pools n) (p : Fin n) (policy : SchedulingPolicy) (key : String) :
    (machine n).Leads (Undisturbed p key) (initial pools)
      (twin pools p (.checkout policy (some key)) (SchedulerState.fromTopology pools.topology)
        (pools.pool p) .entered .entered) := by
  have enters : (machine n).step (initial pools) (.start p (.checkout policy (some key))) =
      some { initial pools with checkouts := [⟨p, .checkout policy (some key), .entered⟩] } := rfl
  refine Machine.Leads.head (machine n) ?_ enters ?_
  · exact fun _ => rfl
  have follows : (machine n).step
      { initial pools with checkouts := [⟨p, .checkout policy (some key), .entered⟩] }
      (.start p (.checkout policy (some key))) =
        some { initial pools with
          checkouts := [⟨p, .checkout policy (some key), .entered⟩,
            ⟨p, .checkout policy (some key), .entered⟩] } := rfl
  refine Machine.Leads.head (machine n) ?_ follows ?_
  · exact fun _ => rfl
  unfold twin
  rw [Function.update_eq_self]
  exact Machine.Leads.refl _ _ _

/-- Both calls find the key in no table. -/
theorem advance_entered {pool : InstancePool} (empty : pool.affinity.entries = [])
    (scheduler : SchedulerState) (policy : SchedulingPolicy) (key : String) (moment : Moment) :
    pool.advance scheduler (.checkout policy (some key)) .entered moment =
      some (scheduler, pool, .missed) := by
  have absent : pool.affinity.get key moment.lookup = (pool.affinity, none) := by
    unfold BoundedAffinityTable.get BoundedAffinityTable.find
    rw [empty]
    rfl
  change some (scheduler, (pool.lookUp key moment.lookup).1, (pool.lookUp key moment.lookup).2) = _
  unfold InstancePool.lookUp
  rw [absent]

/-- The scheduler gives both calls the first core that is available. -/
theorem acquire_both {topology : Topology} {kind : DeviceKind} {instanceCount : Nat}
    {selection : CoreSelection} {pool : InstancePool}
    (built : InstancePool.new topology kind instanceCount selection = .ok pool)
    (enough : (InstancePool.available topology kind selection).length <= instanceCount)
    {head : Placement}
    (isHead : (InstancePool.available topology kind selection)[0]? = some head)
    (isFirst : pool.placements[0]? = some head) (key : String) :
    Exists fun middle => Exists fun final => Exists fun left => Exists fun right =>
      pool.acquireMissed (SchedulerState.fromTopology topology)
          (.checkout .roundRobin (some key)) outset = (middle, .acquired left) ∧
        pool.acquireMissed middle (.checkout .roundRobin (some key)) outset =
          (final, .acquired right) ∧
        left.placement = head ∧ right.placement = head ∧
        final.affinity.valueOf key ≠ none := by
  have isKind : head.kind = kind := InstancePool.mem_available (List.mem_of_getElem? isHead)
  have first : pool.placements.head? = some head := by
    rw [List.head?_eq_getElem?]
    exact isFirst
  have requests : pool.requestOf (.checkout .roundRobin (some key)) =
      some (pool.request kind (.checkout .roundRobin (some key))) := by
    rw [InstancePool.requestOf, first, Option.map_some, isKind]
  -- the candidate at the cursor is the first core that is available
  have places := SchedulerState.candidates_available built enough .roundRobin (some key)
  have turn := congrArg (fun pairs : List (Nat × Nat) => pairs[0]?) places
  simp only [List.getElem?_map, isHead, Option.map_some] at turn
  rcases Option.map_eq_some_iff.mp turn with ⟨candidate, isCandidate, pair⟩
  rcases (SchedulerState.mem_candidates _ _ candidate).mp (List.mem_of_getElem? isCandidate) with
    ⟨site, found, suits, _, shape⟩
  have isPlace : Placement.mk site.kind site.deviceId site.core.id = head := by
    rw [SchedulerState.siteMatches, Bool.and_eq_true, decide_eq_true_eq] at suits
    rw [shape] at pair
    rcases head with ⟨ownKind, deviceId, coreId⟩
    cases pair
    change ownKind = kind at isKind
    rw [suits.1, isKind]
    rfl
  have idle : site.core.load = 0 := by
    have balanced := (Leasing.initial_balanced topology).loads
      ⟨candidate.deviceIndex, candidate.coreIndex⟩ site found
    exact balanced.1
  have placed := SchedulerState.placeOf_of_siteAt found
  rw [isPlace] at placed
  rcases SchedulerState.acquire_turn (show SchedulerState.remembered _ _ outset.lookup = none
    from rfl) rfl (Nat.zero_mod _ ▸ isCandidate) found (by rw [idle]; decide) with
    ⟨middle, acquires⟩
  rcases InstancePool.acquireMissed_of_acquire requests acquires placed with
    ⟨left, isLeft, leftPlace⟩
  have acquired := SchedulerState.acquired_of_acquire acquires
  have memory := acquired.valueOf_of_ok rfl (live_zero _ key)
  have loaded : middle.siteAt ⟨candidate.deviceIndex, candidate.coreIndex⟩ =
      some { site with core := site.core.loaded } := by
    rw [SchedulerState.siteAt_of_devices acquired.devices_of_ok,
      SchedulerState.siteAt_updateCore, found, Option.map_some, if_pos rfl]
  have stands : middle.placeOf ⟨candidate.deviceIndex, candidate.coreIndex⟩ = some head := by
    rw [acquired.placeOf]
    exact placed
  have room : site.core.load + 1 < u64Max := by
    rw [idle]
    decide
  have hasKey : (Call.checkout .roundRobin (some key)).key = some key := rfl
  have live : middle.affinity.live key outset.lookup = middle.affinity.valueOf key :=
    live_zero _ key
  have known := pool.remembered_of_valueOf live memory stands isKind .roundRobin
  rcases Leasing.acquireLease_of_remembered known loaded room with ⟨final, leases⟩
  have second : pool.acquireMissed middle (.checkout .roundRobin (some key)) outset =
      (final, .acquired ⟨⟨candidate.deviceIndex, candidate.coreIndex⟩, site.kind,
        site.deviceId, site.core.id⟩) := by
    unfold InstancePool.acquireMissed
    rw [requests]
    dsimp only
    rw [leases]
    rfl
  have agrees := acquireMissed_agrees hasKey live memory stands first rfl
  rw [second] at agrees
  refine ⟨middle, final, left, _, isLeft, second, leftPlace, isPlace, ?_⟩
  rw [agrees.1]
  exact Option.some_ne_none _

/-- Two checkouts that both miss are given two instances of one core. -/
theorem twin_disagree (pools : Pools n) (p : Fin n) (key : String)
    (shared : ¬ (pools.pool p).placements.Nodup) :
    Exists fun final => (machine n).Leads (Undisturbed p key) (initial pools) final ∧
      ¬ Agree p key 0 final := by
  rcases pools.built p with ⟨kind, instanceCount, selection, built⟩
  rcases InstancePool.new_eq_ok built with ⟨some_, placements, _, cursor, clear, empty⟩
  have positive := List.length_pos_iff.mpr some_
  have few : (InstancePool.available pools.topology kind selection).length < instanceCount := by
    by_contra enough
    apply shared
    rw [placements]
    exact InstancePool.spread_nodup (InstancePool.available_nodup _ _ _) some_ (by omega)
  have isHead := List.getElem?_eq_getElem positive
  -- the first core has the first instance and the one after the last core
  have isFirst := InstancePool.spread_getElem? some_ (Nat.lt_of_le_of_lt (Nat.zero_le _) few)
  have isNext := InstancePool.spread_getElem? some_ few
  rw [Nat.zero_mod, isHead, ← placements] at isFirst
  rw [Nat.mod_self, isHead, ← placements] at isNext
  rcases InstancePool.matching_two (Nat.ne_of_lt positive) isFirst isNext with
    ⟨one, two, rest, several, differ⟩
  rcases acquire_both built (Nat.le_of_lt few) isHead isFirst key with
    ⟨middle, last, left, right, acquiresLeft, acquiresRight, atLeft, atRight, kept⟩
  have unrecorded : (pools.pool p).affinity.valueOf key = none := by
    unfold BoundedAffinityTable.valueOf BoundedAffinityTable.find
    rw [empty]
    rfl
  have hasKey : (Call.checkout .roundRobin (some key)).key = some key := rfl
  -- both miss
  have entered := leads_twin pools p .roundRobin key
  have miss := advance_entered empty (SchedulerState.fromTopology pools.topology) .roundRobin key
    outset
  have missed := entered.trans (machine n) (leads_first miss id id)
  have bothMissed := missed.trans (machine n) (leads_second miss id id)
  -- both are given the first core
  have acquiring : (pools.pool p).advance (SchedulerState.fromTopology pools.topology)
      (.checkout .roundRobin (some key)) .missed outset =
        some (middle, pools.pool p, .acquired left) := by
    unfold InstancePool.advance
    dsimp only
    rw [acquiresLeft]
  have acquired := bothMissed.trans (machine n)
    (leads_first acquiring id fun known => absurd rfl known)
  have acquiringToo : (pools.pool p).advance middle (.checkout .roundRobin (some key)) .missed
      outset = some (last, pools.pool p, .acquired right) := by
    unfold InstancePool.advance
    dsimp only
    rw [acquiresRight]
  have bothAcquired := acquired.trans (machine n) (leads_second acquiringToo id fun _ => kept)
  -- each takes its turn on the instances of the core
  have chooses := InstancePool.choose_several last (atLeft ▸ several) clear hasKey
    (show (one :: two :: rest)[(pools.pool p).nextInstance % (rest.length + 2)]? = some one by
      rw [cursor, Nat.zero_mod]
      rfl)
  have chosen := bothAcquired.trans (machine n)
    (leads_first (congrArg some chooses) id id)
  have turned : InstancePool.matching { pools.pool p with
      nextInstance := ((pools.pool p).nextInstance + 1) % UInt64.size } right.placement =
        one :: two :: rest := atRight ▸ several
  have choosesToo := InstancePool.choose_several last turned clear hasKey
    (show (one :: two :: rest)[((pools.pool p).nextInstance + 1) % UInt64.size %
        (rest.length + 2)]? = some two by
      rw [cursor, show (0 + 1) % UInt64.size = 1 from rfl, Nat.mod_eq_of_lt (by omega)]
      rfl)
  have bothChosen := chosen.trans (machine n) (leads_second (congrArg some choosesToo) id id)
  -- each is recorded and returned
  have recorded := bothChosen.trans (machine n)
    (leads_first (InstancePool.advance_chosen _ last hasKey left one outset)
      (fun known => absurd unrecorded known) id)
  have bothRecorded := recorded.trans (machine n)
    (leads_second (InstancePool.advance_chosen _ last hasKey right two outset)
      (fun _ => by
        dsimp only
        rw [BoundedAffinityTable.valueOf_insert, if_pos rfl]
        exact Option.some_ne_none two) id)
  refine ⟨_, bothRecorded, ?_⟩
  intro agree
  exact differ (agree 0 1 _ _ (Nat.zero_le 0) (Nat.zero_le 1) rfl rfl rfl rfl rfl rfl _ _ rfl rfl)

/-- Checkouts of one key on one pool agree, whatever the interleaving, exactly
if no two instances of the pool share a placement. -/
theorem agreement_iff (pools : Pools n) (p : Fin n) (key : String) :
    (forall start, (machine n).Reachable (initial pools) start -> Idle key start ->
      forall labels final, (machine n).Meets (Undisturbed p key) start labels ->
        (machine n).run start labels = some final ->
        Agree p key start.checkouts.length final) <->
      (pools.pool p).placements.Nodup := by
  constructor
  · intro agree
    by_contra shared
    rcases twin_disagree pools p key shared with ⟨final, ⟨labels, meets, reached⟩, disagree⟩
    have idle : Idle key (initial pools) := fun _ impossible => by cases impossible
    exact disagree (agree (initial pools) (Machine.Reachable.refl _ _) idle labels final meets
      reached)
  · intro nodup start reachable idle labels final undisturbed reached
    apply agree_of_nodup idle _ undisturbed reached
    rw [reachable_placements reachable]
    exact nodup

/-- One core and two instances on it. -/
def oneCore : Pools 1 where
  topology := ⟨[⟨.rknnNpu, 0, [0]⟩], by decide⟩
  pool := fun _ =>
    { placements := [⟨.rknnNpu, 0, 0⟩, ⟨.rknnNpu, 0, 0⟩]
      allowedPlacements := [(0, 0)]
      nextInstance := 0
      poisoned := false
      affinity := BoundedAffinityTable.new 2 SchedulerState.affinityTtl }
  built := fun _ => ⟨.rknnNpu, 2, .auto, by decide +kernel⟩

/-- Both checkouts look the key up before either records its instance. -/
def bothMiss : List (Label 1) :=
  let moment := Leasing.moment
  let pool : Fin 1 := ⟨0, Nat.one_pos⟩
  [.start pool (.checkout .leastLoaded (some "stream")),
    .start pool (.checkout .leastLoaded (some "stream")),
    .advance 0 moment, .advance 1 moment, .advance 0 moment, .advance 1 moment,
    .advance 0 moment, .advance 1 moment, .advance 0 moment, .advance 1 moment]

theorem shared_core_disagrees :
    Idle "stream" (initial oneCore) ∧
      (machine 1).Meets (Undisturbed 0 "stream") (initial oneCore) bothMiss ∧
      Exists fun final => (machine 1).run (initial oneCore) bothMiss = some final ∧
        ¬ Agree 0 "stream" (initial oneCore).checkouts.length final := by
  have facts : ((machine 1).run (initial oneCore) bothMiss).map State.checkouts =
      some [⟨0, .checkout .leastLoaded (some "stream"),
          .returned ⟨⟨0, 0⟩, .rknnNpu, 0, 0⟩ 0 ⟨.rknnNpu, 0, 0⟩⟩,
        ⟨0, .checkout .leastLoaded (some "stream"),
          .returned ⟨⟨0, 0⟩, .rknnNpu, 0, 0⟩ 1 ⟨.rknnNpu, 0, 0⟩⟩] := by
    decide +kernel
  rcases Option.map_eq_some_iff.mp facts with ⟨final, reached, checkouts⟩
  have idle : Idle "stream" (initial oneCore) := fun _ impossible => by cases impossible
  refine ⟨idle, by decide +kernel, final, reached, ?_⟩
  intro agree
  have same := agree 0 1 _ _ (Nat.zero_le 0) (Nat.zero_le 1) (by rw [checkouts]; rfl)
    (by rw [checkouts]; rfl) rfl rfl rfl rfl _ _ rfl rfl
  cases same

end Pooling
end Scheduler
end DyunGu
