import DyunGu.Scheduler.Pool
import Mathlib.Data.List.Dedup

namespace DyunGu
namespace Scheduler

open DyunGu.Backend (u64Max)
open DyunGu.Core (DeviceKind CoreSelection)

/-!
# Checkouts of pools that share a scheduler

The scheduler remembers a core for every affinity key, and it does not ask
which pool the key came from.  A checkout that is given a core without an
instance of its pool panics.  As long as no checkout meets a core remembered
for its key that its pool has no instance on, nothing panics and every
placement that is returned is the one of the returned instance.
-/

/-- What holds of a pool from its construction on. -/
structure InstancePool.WellFormed (pool : InstancePool) : Prop where
  nonempty : pool.placements ≠ []
  kinds : forall first, first ∈ pool.placements -> forall second, second ∈ pool.placements ->
    first.kind = second.kind
  allowed : forall pair, pair ∈ pool.allowedPlacements <->
    Exists fun placement => placement ∈ pool.placements ∧
      (placement.deviceId, placement.coreId) = pair
  entries : pool.affinity.All fun instanceIndex => instanceIndex < pool.placements.length

namespace InstancePool

theorem mem_available {topology : Topology} {kind : DeviceKind} {selection : CoreSelection}
    {placement : Placement} (member : placement ∈ available topology kind selection) :
    placement.kind = kind := by
  unfold available at member
  rcases List.mem_flatMap.mp member with ⟨device, _, inDevice⟩
  rcases List.mem_map.mp inDevice with ⟨core, _, rfl⟩
  rfl

theorem spread_length {cores : List Placement} (some_ : cores ≠ []) (instanceCount : Nat) :
    (spread cores instanceCount).length = instanceCount := by
  unfold spread
  induction instanceCount with
  | zero => rfl
  | succ count ih =>
      have bound : count % cores.length < cores.length :=
        Nat.mod_lt _ (List.length_pos_iff.mpr some_)
      rw [List.range_succ, List.filterMap_append, List.length_append, ih]
      simp [List.getElem?_eq_getElem bound]

theorem new_wellFormed {topology : Topology} {kind : DeviceKind} {instanceCount : Nat}
    {selection : CoreSelection} {pool : InstancePool}
    (built : new topology kind instanceCount selection = .ok pool) : pool.WellFormed := by
  unfold new at built
  split at built
  · cases built
  rename_i positive
  split at built
  · cases built
  split at built
  · cases built
  rename_i some_
  cases built
  have drawn : forall placement,
      placement ∈ spread (available topology kind selection) instanceCount ->
      placement.kind = kind := by
    intro placement member
    rcases List.mem_filterMap.mp member with ⟨index, _, found⟩
    exact mem_available (List.mem_of_getElem? found)
  refine
    { nonempty := ?_, kinds := ?_, allowed := ?_
      entries := BoundedAffinityTable.All.new _ _ _ }
  · intro empty
    have size := spread_length some_ instanceCount
    rw [List.length_eq_zero_iff.mpr empty] at size
    exact positive size.symm
  · intro first inFirst second inSecond
    rw [drawn first inFirst, drawn second inSecond]
  · intro pair
    rw [List.mem_dedup, List.mem_map]

/-- The instances on a placement are the indices that hold it. -/
theorem mem_matching (pool : InstancePool) (placement : Placement) (index : Nat) :
    index ∈ pool.matching placement <-> pool.placements[index]? = some placement := by
  unfold matching
  simp only [List.mem_map, List.mem_filter, Prod.exists, exists_eq_right,
    List.mem_zipIdx_iff_getElem?, decide_eq_true_eq, exists_eq_right]

end InstancePool

/-- What a checkout can rely on in each phase. -/
def PhaseOk (pool : InstancePool) (call : Call) : Phase -> Prop
  | .entered | .failed _ => True
  | .found instanceIndex => instanceIndex < pool.placements.length
  | .missed => forall deviceId coreId, call = .checkoutExplicit deviceId coreId ->
      (deviceId, coreId) ∈ pool.allowedPlacements
  | .acquired lease => lease.placement ∈ pool.placements
  | .chosen lease instanceIndex => pool.placements[instanceIndex]? = some lease.placement
  | .returned _ instanceIndex placement | .dropped instanceIndex placement =>
      pool.placements[instanceIndex]? = some placement
  | .panicked => False

/-- The lease that a checkout holds stands for the core of its allocation. -/
def Held (scheduler : SchedulerState) (phase : Phase) : Prop :=
  forall lease, phase.lease = some lease ->
    scheduler.placeOf lease.allocation = some lease.placement

theorem PhaseOk.congr {pool next : InstancePool} {call : Call} {phase : Phase}
    (ok : PhaseOk pool call phase) (placements : next.placements = pool.placements)
    (allowed : next.allowedPlacements = pool.allowedPlacements) : PhaseOk next call phase := by
  unfold PhaseOk at ok ⊢
  rw [placements, allowed]
  exact ok

theorem Held.congr {scheduler next : SchedulerState} {phase : Phase}
    (held : Held scheduler phase) (same : next.placeOf = scheduler.placeOf) :
    Held next phase := by
  intro lease isLease
  rw [same]
  exact held lease isLease

/-- The outcome of one step of a checkout. -/
structure StepOk (scheduler : SchedulerState) (pool : InstancePool) (call : Call)
    (pool' : InstancePool) (phase' : Phase) : Prop where
  wellFormed : pool'.WellFormed
  phase : PhaseOk pool call phase'
  held : Held scheduler phase'

namespace InstancePool

variable {pool : InstancePool} {scheduler : SchedulerState} {call : Call} {moment : Moment}

/-- The allowed placements of a checkout's request are placements of the pool. -/
theorem WellFormed.request_allowed (wellFormed : pool.WellFormed)
    (ok : PhaseOk pool call .missed) {request : Request}
    (requests : pool.requestOf call = some request) {lease : Lease}
    (honours : Leasing.Honours request lease) : lease.placement ∈ pool.placements := by
  rcases Option.map_eq_some_iff.mp requests with ⟨first, isFirst, rfl⟩
  have inFirst : first ∈ pool.placements := List.mem_of_head? isFirst
  have inAllowed : (lease.deviceId, lease.coreId) ∈ pool.allowedPlacements := by
    cases call with
    | checkout policy key => exact honours.allowed _ rfl
    | checkoutExplicit deviceId coreId =>
        have only := honours.allowed _ rfl
        rw [List.mem_singleton] at only
        rw [only]
        exact ok deviceId coreId rfl
  have kind : lease.kind = first.kind := by
    cases call with
    | checkout policy key => exact honours.kind
    | checkoutExplicit deviceId coreId => exact honours.kind
  rcases (wellFormed.allowed _).mp inAllowed with ⟨placement, member, same⟩
  rw [Prod.mk.injEq] at same
  have sameKind := wellFormed.kinds first inFirst placement member
  have whole : lease.placement = placement := by
    rcases placement with ⟨_, _, _⟩
    unfold Lease.placement
    rw [← same.1, ← same.2, kind, sameKind]
  rw [whole]
  exact member

theorem enter_ok (pool : InstancePool) (call : Call) : PhaseOk pool call (pool.enter call) := by
  cases call with
  | checkout policy key =>
      cases key with
      | none => exact fun _ _ impossible => by cases impossible
      | some key => trivial
  | checkoutExplicit deviceId coreId =>
      unfold enter
      dsimp only
      split
      · rename_i listed
        intro device core same
        cases same
        exact listed
      · trivial

theorem enter_lease (pool : InstancePool) (call : Call) : (pool.enter call).lease = none := by
  cases call with
  | checkout policy key => cases key <;> rfl
  | checkoutExplicit deviceId coreId =>
      unfold enter
      dsimp only
      split <;> rfl

theorem lookUp_ok (wellFormed : pool.WellFormed) (key : String) (now : Nat)
    (isKeyed : call.key = some key) :
    StepOk scheduler pool call (pool.lookUp key now).1 (pool.lookUp key now).2 := by
  have entries := wellFormed.entries.get key now
  have answer : (pool.affinity.get key now).2 = pool.affinity.live key now := rfl
  unfold lookUp
  rcases looked : pool.affinity.get key now with ⟨table, found⟩
  rw [looked] at entries answer
  cases found with
  | none =>
      refine
        { wellFormed := ⟨wellFormed.nonempty, wellFormed.kinds, wellFormed.allowed, entries⟩
          phase := ?_, held := fun _ impossible => by cases impossible }
      intro deviceId coreId isExplicit
      rw [isExplicit] at isKeyed
      cases isKeyed
  | some instanceIndex =>
      exact
        { wellFormed := ⟨wellFormed.nonempty, wellFormed.kinds, wellFormed.allowed, entries⟩
          phase := wellFormed.entries key instanceIndex
            (BoundedAffinityTable.valueOf_of_live answer.symm)
          held := fun _ impossible => by cases impossible }

theorem acquireFound_ok (wellFormed : pool.WellFormed) {instanceIndex : Nat}
    (bound : instanceIndex < pool.placements.length) :
    StepOk scheduler pool call pool
      (pool.acquireFound scheduler instanceIndex moment).2 := by
  unfold acquireFound
  rw [List.getElem?_eq_getElem bound]
  rcases Leasing.acquireLease_places scheduler (requestAt pool.placements[instanceIndex]) moment
    with ⟨next, answer, is, _, _, stands⟩
  dsimp only
  rw [is]
  cases answer with
  | error error =>
      exact
        { wellFormed := wellFormed
          phase := trivial, held := fun _ impossible => by cases impossible }
  | ok lease =>
      refine
        { wellFormed := wellFormed
          phase := List.getElem?_eq_getElem bound, held := ?_ }
      intro other isOther
      cases isOther
      exact stands lease rfl

/-- The core that a checkout is given has an instance of its pool, unless the
scheduler remembers a core for the key that the pool does not have. -/
theorem acquireMissed_ok (wellFormed : pool.WellFormed) (ok : PhaseOk pool call .missed)
    (allowed : forall request, request ∈ pool.requestOf call ->
      ¬ Leasing.RemembersForbidden scheduler request moment.lookup) :
    StepOk scheduler pool call pool (pool.acquireMissed scheduler call moment).2 := by
  unfold acquireMissed
  cases requests : pool.requestOf call with
  | none =>
      rw [requestOf, Option.map_eq_none_iff, List.head?_eq_none_iff] at requests
      exact absurd requests wellFormed.nonempty
  | some request =>
      rcases Leasing.acquireLease_places scheduler request moment with
        ⟨next, answer, is, _, _, stands⟩
      dsimp only
      rw [is]
      cases answer with
      | error error =>
          exact
            { wellFormed := wellFormed
              phase := trivial, held := fun _ impossible => by cases impossible }
      | ok lease =>
          have honours := (Leasing.honours_iff scheduler request moment).mpr
            (allowed request requests) next lease is
          refine
            { wellFormed := wellFormed
              phase := wellFormed.request_allowed ok requests honours, held := ?_ }
          intro other isOther
          cases isOther
          exact stands lease rfl

theorem settle_ok (call : Call) {lease : Lease} {instanceIndex : Nat}
    (holds : pool.placements[instanceIndex]? = some lease.placement) :
    PhaseOk pool call (settle call lease instanceIndex) ∧
      (settle call lease instanceIndex).lease = some lease := by
  unfold settle
  cases call.key with
  | none => exact ⟨holds, rfl⟩
  | some key => exact ⟨holds, rfl⟩

theorem giveBack_eq {lease : Lease}
    (stands : scheduler.placeOf lease.allocation = some lease.placement) (phase : Phase) :
    giveBack scheduler lease phase =
      (scheduler.updateCore lease.allocation CoreState.released, phase) := by
  unfold giveBack
  rw [SchedulerState.release_of_placeOf stands]

/-- With an instance on the core there is something to choose from. -/
theorem choose_ok (wellFormed : pool.WellFormed) (call : Call) {lease : Lease}
    (ok : lease.placement ∈ pool.placements)
    (stands : scheduler.placeOf lease.allocation = some lease.placement) :
    StepOk scheduler pool call (pool.choose scheduler call lease).2.1
      (pool.choose scheduler call lease).2.2 := by
  have holds : forall index, index ∈ pool.matching lease.placement ->
      pool.placements[index]? = some lease.placement :=
    fun index => (pool.mem_matching lease.placement index).mp
  have settled : forall index, index ∈ pool.matching lease.placement ->
      forall next : InstancePool, next.WellFormed ->
        StepOk scheduler pool call next (settle call lease index) := by
    intro index member next formed
    rcases settle_ok call (holds index member) with ⟨phase, isLease⟩
    refine
      { wellFormed := formed, phase := phase, held := ?_ }
    intro other isOther
    rw [isLease] at isOther
    cases isOther
    exact stands
  have nonempty : pool.matching lease.placement ≠ [] := by
    rcases List.mem_iff_getElem?.mp ok with ⟨index, isAt⟩
    exact List.ne_nil_of_mem ((pool.mem_matching lease.placement index).mpr isAt)
  unfold choose
  split
  · rename_i index only
    apply settled index (by rw [only]; exact List.mem_singleton_self index) pool
    exact wellFormed
  · split
    · rw [giveBack_eq stands]
      exact
        { wellFormed := wellFormed, phase := trivial
          held := fun _ impossible => by cases impossible }
    · have bound : pool.nextInstance % (pool.matching lease.placement).length <
          (pool.matching lease.placement).length :=
        Nat.mod_lt _ (List.length_pos_iff.mpr nonempty)
      rw [List.getElem?_eq_getElem bound]
      dsimp only
      apply settled _ (List.getElem_mem bound)
      exact ⟨wellFormed.nonempty, wellFormed.kinds, wellFormed.allowed, wellFormed.entries⟩

theorem record_ok (wellFormed : pool.WellFormed) {lease : Lease} {instanceIndex : Nat}
    (ok : pool.placements[instanceIndex]? = some lease.placement)
    (stands : scheduler.placeOf lease.allocation = some lease.placement) :
    StepOk scheduler pool call (pool.record call lease instanceIndex moment).1
      (pool.record call lease instanceIndex moment).2 := by
  have held : Held scheduler (.returned lease instanceIndex lease.placement) := by
    intro other isOther
    cases isOther
    exact stands
  unfold record
  cases call.key with
  | none =>
      exact
        { wellFormed := wellFormed
          phase := ok, held := held }
  | some key =>
      have bound : instanceIndex < pool.placements.length :=
        (List.getElem?_eq_some_iff.mp ok).1
      exact
        { wellFormed := ⟨wellFormed.nonempty, wellFormed.kinds, wellFormed.allowed,
            wellFormed.entries.insert bound key moment.record moment.tie⟩
          phase := ok, held := held }

/-- One step of a checkout keeps the pool in order and leads to a phase the
checkout can rely on. -/
theorem advance_ok (wellFormed : pool.WellFormed) {phase : Phase}
    (ok : PhaseOk pool call phase) (held : Held scheduler phase)
    (allowed : phase = .missed -> forall request, request ∈ pool.requestOf call ->
      ¬ Leasing.RemembersForbidden scheduler request moment.lookup)
    {scheduler' : SchedulerState} {pool' : InstancePool} {phase' : Phase}
    (advances : pool.advance scheduler call phase moment = some (scheduler', pool', phase')) :
    StepOk scheduler pool call pool' phase' := by
  cases phase with
  | entered =>
      rcases Option.map_eq_some_iff.mp advances with ⟨key, isKeyed, is⟩
      cases is
      exact lookUp_ok wellFormed key moment.lookup isKeyed
  | found instanceIndex =>
      cases advances
      exact acquireFound_ok wellFormed ok
  | missed =>
      cases advances
      exact acquireMissed_ok wellFormed ok (allowed rfl)
  | acquired lease =>
      have chosen := choose_ok wellFormed call ok (held lease rfl)
      rw [Option.some.inj advances] at chosen
      exact chosen
  | chosen lease instanceIndex =>
      cases advances
      exact record_ok wellFormed ok (held lease rfl)
  | returned lease instanceIndex placement => cases advances
  | dropped instanceIndex placement => cases advances
  | failed error => cases advances
  | panicked => cases advances

end InstancePool

/-! ## Runs of all checkouts -/

namespace Pooling

variable {n : Nat}

/-- No checkout has panicked, and every returned placement is the placement of
the returned instance. -/
def Safe (state : State n) : Prop :=
  forall checkout, checkout ∈ state.checkouts -> checkout.phase ≠ .panicked ∧
    forall instanceIndex placement, checkout.phase.result = some (instanceIndex, placement) ->
      (state.pools checkout.pool).placements[instanceIndex]? = some placement

/-- A checkout that goes to the scheduler does not meet a core that is
remembered for its key and that its pool has no instance on. -/
def Undivided (state : State n) : Label n -> Prop
  | .advance index moment => forall checkout, checkout ∈ state.checkouts[index]? ->
      checkout.phase = .missed ->
      forall request, request ∈ (state.pools checkout.pool).requestOf checkout.call ->
        ¬ Leasing.RemembersForbidden state.scheduler request moment.lookup
  | .start _ _ | .drop _ | .removeAffinity _ _ => True

instance (state : State n) (label : Label n) : Decidable (Undivided state label) := by
  cases label <;> unfold Undivided <;> infer_instance

structure Inv (state : State n) : Prop where
  pools : forall i, (state.pools i).WellFormed
  phases : forall checkout, checkout ∈ state.checkouts ->
    PhaseOk (state.pools checkout.pool) checkout.call checkout.phase
  held : forall checkout, checkout ∈ state.checkouts -> Held state.scheduler checkout.phase

theorem initial_inv (pools : Pools n) : Inv (initial pools) where
  pools := by
    intro i
    rcases pools.built i with ⟨kind, instanceCount, selection, built⟩
    exact InstancePool.new_wellFormed built
  phases := fun _ impossible => by cases impossible
  held := fun _ impossible => by cases impossible

theorem Inv.safe {state : State n} (inv : Inv state) : Safe state := by
  intro checkout member
  have ok := inv.phases checkout member
  constructor
  · intro panicked
    rw [panicked] at ok
    exact ok
  · intro instanceIndex placement isResult
    rcases Phase.result_eq_some isResult with ⟨lease, phase⟩ | phase
    · rw [phase] at ok
      exact ok
    · rw [phase] at ok
      exact ok

/-- One checkout moves on with a pool of the same placements; the others keep
what they rely on. -/
private theorem Inv.move {state : State n} (inv : Inv state) (index : Nat)
    {checkout : Checkout n} {scheduler : SchedulerState} {pool : InstancePool} {phase : Phase}
    (frame : InstancePool.Frame state.scheduler scheduler (state.pools checkout.pool) pool)
    (ok : StepOk state.scheduler (state.pools checkout.pool) checkout.call pool phase) :
    Inv
      { scheduler := scheduler
        pools := Function.update state.pools checkout.pool pool
        checkouts := state.checkouts.set index { checkout with phase := phase } } := by
  have shape : forall i, (Function.update state.pools checkout.pool pool i).placements =
      (state.pools i).placements ∧
      (Function.update state.pools checkout.pool pool i).allowedPlacements =
        (state.pools i).allowedPlacements := by
    intro i
    by_cases same : i = checkout.pool
    · rw [same, Function.update_self]
      exact ⟨frame.placements, frame.allowed⟩
    · rw [Function.update_of_ne same]
      exact ⟨rfl, rfl⟩
  refine { pools := ?_, phases := ?_, held := ?_ }
  · intro i
    by_cases same : i = checkout.pool
    · simp only [same, Function.update_self]
      exact ok.wellFormed
    · simp only [Function.update_of_ne same]
      exact inv.pools i
  · intro other member
    rcases List.mem_or_eq_of_mem_set member with before | rfl
    · exact (inv.phases other before).congr (shape other.pool).1 (shape other.pool).2
    · exact ok.phase.congr (shape checkout.pool).1 (shape checkout.pool).2
  · intro other member
    rcases List.mem_or_eq_of_mem_set member with before | rfl
    · exact (inv.held other before).congr frame.places
    · exact ok.held.congr frame.places

private theorem update_same (pools : Fin n -> InstancePool) (i : Fin n) :
    Function.update pools i (pools i) = pools :=
  Function.update_eq_self i pools

theorem step_inv {state next : State n} (inv : Inv state) {label : Label n}
    (undivided : Undivided state label) (stepped : step state label = some next) :
    Inv next := by
  cases label with
  | start pool call =>
      cases stepped
      refine { pools := inv.pools, phases := ?_, held := ?_ }
      · intro checkout member
        rcases List.mem_append.mp member with before | last
        · exact inv.phases checkout before
        · rw [List.mem_singleton.mp last]
          exact InstancePool.enter_ok (state.pools pool) call
      · intro checkout member
        rcases List.mem_append.mp member with before | last
        · exact inv.held checkout before
        · rw [List.mem_singleton.mp last]
          intro lease isLease
          rw [InstancePool.enter_lease] at isLease
          cases isLease
  | advance index moment =>
      rcases Option.bind_eq_some_iff.mp stepped with ⟨checkout, found, moved⟩
      rcases Option.map_eq_some_iff.mp moved with ⟨⟨scheduler, pool, phase⟩, advances, rfl⟩
      have member := List.mem_of_getElem? found
      exact inv.move index (InstancePool.advance_frame advances)
        (InstancePool.advance_ok (inv.pools checkout.pool) (inv.phases checkout member)
          (inv.held checkout member) (undivided checkout found) advances)
  | drop index =>
      rcases drop_eq_some stepped with
        ⟨checkout, lease, instanceIndex, placement, found, phase, rfl⟩
      have member := List.mem_of_getElem? found
      have ok := inv.phases checkout member
      have held := inv.held checkout member
      rw [phase] at ok held
      rw [InstancePool.giveBack_eq (held lease rfl)]
      have frame : InstancePool.Frame state.scheduler
          (state.scheduler.updateCore lease.allocation CoreState.released)
          (state.pools checkout.pool) (state.pools checkout.pool) :=
        ⟨SchedulerState.placeOf_released state.scheduler lease.allocation, rfl, rfl⟩
      have dropped : StepOk state.scheduler (state.pools checkout.pool) checkout.call
          (state.pools checkout.pool) (.dropped instanceIndex placement) :=
        { wellFormed := inv.pools checkout.pool
          phase := ok, held := fun _ impossible => by cases impossible }
      have result := inv.move index frame dropped
      rw [update_same] at result
      exact result
  | removeAffinity pool key =>
      cases stepped
      have shape : forall i, (Function.update state.pools pool
          { state.pools pool with affinity := (state.pools pool).affinity.remove key }
          i).placements = (state.pools i).placements ∧
          (Function.update state.pools pool
            { state.pools pool with affinity := (state.pools pool).affinity.remove key }
            i).allowedPlacements = (state.pools i).allowedPlacements := by
        intro i
        by_cases same : i = pool
        · rw [same, Function.update_self]
          exact ⟨rfl, rfl⟩
        · rw [Function.update_of_ne same]
          exact ⟨rfl, rfl⟩
      refine { pools := ?_, phases := ?_, held := inv.held }
      · intro i
        by_cases same : i = pool
        · simp only [same, Function.update_self]
          have old := inv.pools pool
          exact ⟨old.nonempty, old.kinds, old.allowed, old.entries.remove key⟩
        · simp only [Function.update_of_ne same]
          exact inv.pools i
      · intro checkout member
        exact (inv.phases checkout member).congr (shape checkout.pool).1 (shape checkout.pool).2

/-- In every run whose checkouts meet no core remembered for another pool,
nothing panics and every result is consistent. -/
theorem undivided_safe (pools : Pools n) {labels : List (Label n)} {final : State n}
    (undivided : (machine n).Meets Undivided (initial pools) labels)
    (reached : (machine n).run (initial pools) labels = some final) : Safe final :=
  ((machine n).run_invariant_of_meets Inv
    (fun _ _ _ holds admitted stepped => step_inv holds admitted stepped)
    (initial_inv pools) undivided reached).safe

/-- A core remembered for the key without an instance of the pool is a panic
two steps later. -/
theorem divided_panics {state : State n} {index : Nat} {checkout : Checkout n}
    (found : state.checkouts[index]? = some checkout) (missed : checkout.phase = .missed)
    (wellFormed : (state.pools checkout.pool).WellFormed)
    (sound : (state.pools checkout.pool).poisoned = false) {policy : SchedulingPolicy}
    {key : Option String} (isCall : checkout.call = .checkout policy key) {request : Request}
    (requests : (state.pools checkout.pool).requestOf checkout.call = some request)
    {moment : Moment}
    (remembers : Leasing.RemembersForbidden state.scheduler request moment.lookup)
    (later : Moment) :
    Exists fun final =>
      (machine n).run state [.advance index moment, .advance index later] = some final ∧
        final.checkouts[index]? = some { checkout with phase := .panicked } := by
  have bound := (List.getElem?_eq_some_iff.mp found).1
  rcases remembers with
    ⟨allocation, known, site, isSite, room, placements, isAllowed, outside⟩
  rcases Leasing.acquireLease_of_remembered known isSite room with ⟨next, acquires⟩
  have allowed : placements = (state.pools checkout.pool).allowedPlacements := by
    rcases Option.map_eq_some_iff.mp requests with ⟨first, _, rfl⟩
    rw [isCall] at isAllowed
    exact (Option.some.inj isAllowed).symm
  have nothing : (state.pools checkout.pool).matching
      ⟨site.kind, site.deviceId, site.core.id⟩ = [] := by
    rw [List.eq_nil_iff_forall_not_mem]
    intro other member
    rw [InstancePool.mem_matching] at member
    apply outside
    rw [allowed, wellFormed.allowed]
    exact ⟨_, List.mem_of_getElem? member, rfl⟩
  have first : advance state index moment = some
      { state with
        scheduler := next
        checkouts := state.checkouts.set index { checkout with
          phase := .acquired ⟨allocation, site.kind, site.deviceId, site.core.id⟩ } } := by
    unfold advance
    rw [found, Option.bind_some, missed]
    simp only [InstancePool.advance, InstancePool.acquireMissed, requests, acquires,
      Option.map_some, Function.update_eq_self]
  have second : Exists fun final => advance
      { state with
        scheduler := next
        checkouts := state.checkouts.set index { checkout with
          phase := .acquired ⟨allocation, site.kind, site.deviceId, site.core.id⟩ } } index later =
        some final ∧ final.checkouts[index]? = some { checkout with phase := .panicked } := by
    unfold advance
    rw [List.getElem?_set_self bound, Option.bind_some]
    simp only [InstancePool.advance, InstancePool.choose, Lease.placement, nothing, sound,
      Bool.false_eq_true, if_false, List.getElem?_nil, Option.map_some, List.set_set]
    unfold InstancePool.giveBack
    split
    · exact ⟨_, rfl, List.getElem?_set_self bound⟩
    · exact ⟨_, rfl, List.getElem?_set_self bound⟩
  rcases second with ⟨final, advances, panicked⟩
  exact ⟨final, (machine n).run_cons_iff.mpr ⟨_, first,
    (machine n).run_cons_iff.mpr ⟨final, advances, rfl⟩⟩, panicked⟩

/-! ## Two pools and one key -/

/-- A pool of one instance on one core of the two. -/
def poolOn (core : Nat) : InstancePool where
  placements := [⟨.rknnNpu, 0, core⟩]
  allowedPlacements := [(0, core)]
  nextInstance := 0
  poisoned := false
  affinity := BoundedAffinityTable.new 1 SchedulerState.affinityTtl

def twoPools : Pools 2 where
  topology := Leasing.twoCores
  pool := fun i => poolOn i
  built := fun i =>
    ⟨.rknnNpu, 1, .single i, by
      match i with
      | 0 => decide +kernel
      | 1 => decide +kernel⟩

/-- A whole checkout by one pool, and the steps of a second one up to the
choice of its instance. -/
def sharedKey : List (Label 2) :=
  let moment := Leasing.moment
  let left : Fin 2 := ⟨0, Nat.two_pos⟩
  let right : Fin 2 := ⟨1, Nat.one_lt_two⟩
  [.start left (.checkout .leastLoaded (some "stream")), .advance 0 moment, .advance 0 moment,
    .advance 0 moment, .advance 0 moment,
    .start right (.checkout .leastLoaded (some "stream")), .advance 1 moment, .advance 1 moment,
    .advance 1 moment]

/-- Both pools with keys of their own. -/
def ownKeys : List (Label 2) :=
  let moment := Leasing.moment
  let left : Fin 2 := ⟨0, Nat.two_pos⟩
  let right : Fin 2 := ⟨1, Nat.one_lt_two⟩
  [.start left (.checkout .leastLoaded (some "left")),
    .start right (.checkout .roundRobin (some "right")),
    .advance 1 moment, .advance 0 moment, .advance 0 moment, .advance 1 moment,
    .start left (.checkoutExplicit 0 0), .advance 0 moment, .advance 1 moment, .advance 2 moment,
    .advance 2 moment, .advance 1 moment, .advance 0 moment, .drop 0]

theorem ownKeys_safe :
    Exists fun final => (machine 2).run (initial twoPools) ownKeys = some final ∧
      final.checkouts.map (fun checkout => checkout.phase.result) =
        [some (0, ⟨.rknnNpu, 0, 0⟩), some (0, ⟨.rknnNpu, 0, 1⟩), some (0, ⟨.rknnNpu, 0, 0⟩)] ∧
      Safe final := by
  have facts : ((machine 2).run (initial twoPools) ownKeys).map (fun state =>
      state.checkouts.map fun checkout => checkout.phase.result) =
      some [some (0, ⟨.rknnNpu, 0, 0⟩), some (0, ⟨.rknnNpu, 0, 1⟩),
        some (0, ⟨.rknnNpu, 0, 0⟩)] := by
    decide +kernel
  rcases Option.map_eq_some_iff.mp facts with ⟨final, reached, results⟩
  exact ⟨final, reached, results, undivided_safe twoPools (by decide +kernel) reached⟩

theorem shared_key_panics :
    Exists fun final => (machine 2).run (initial twoPools) sharedKey = some final ∧
      ¬ Safe final := by
  have facts : ((machine 2).run (initial twoPools) sharedKey).map (fun state =>
      state.checkouts.map Checkout.phase) =
      some [.returned ⟨⟨0, 0⟩, .rknnNpu, 0, 0⟩ 0 ⟨.rknnNpu, 0, 0⟩, .panicked] := by
    decide +kernel
  rcases Option.map_eq_some_iff.mp facts with ⟨final, reached, phases⟩
  refine ⟨final, reached, ?_⟩
  intro safe
  have member : Phase.panicked ∈ final.checkouts.map Checkout.phase := by
    rw [phases]
    exact List.mem_cons_of_mem _ List.mem_cons_self
  rcases List.mem_map.mp member with ⟨checkout, inCheckouts, panicked⟩
  exact (safe checkout inCheckouts).1 panicked

end Pooling
end Scheduler
end DyunGu
