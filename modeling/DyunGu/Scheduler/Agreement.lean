import DyunGu.Scheduler.Checkout

namespace DyunGu
namespace Scheduler

open DyunGu.Backend (u64Max)
open DyunGu.Core (DeviceKind CoreSelection)

/-!
# Agreement of the checkouts of one key

Checkouts with one key on one pool are to return one instance.  Two of them
may both find the key unrecorded.  The table of the scheduler then gives both
the same core, but it knows nothing of instances: on a core with several
instances each of the two takes its turn.  So they agree whatever the
interleaving exactly if no two instances of the pool share a placement.
-/

/-! ## The entries of one key under each operation -/

namespace SchedulerState

variable {scheduler next : SchedulerState} {request : Request} {moment : Moment}

/-- A look-up under a key drops its value if that has expired, and leaves the
values of the other keys. -/
theorem lookedUp_valueOf_cases (scheduler : SchedulerState) (request : Request) (key : String)
    (now : Nat) :
    (scheduler.lookedUp request now).affinity.valueOf key = scheduler.affinity.valueOf key ∨
      (request.affinityKey = some key ∧
        (scheduler.lookedUp request now).affinity.valueOf key =
          scheduler.affinity.live key now) := by
  unfold lookedUp
  split
  · rename_i other _ hasKey
    dsimp only
    rw [BoundedAffinityTable.valueOf_get]
    by_cases same : other = key
    · rw [if_pos same, same]
      exact Or.inr ⟨hasKey.trans (congrArg some same), rfl⟩
    · rw [if_neg same]
      exact Or.inl rfl
  · exact Or.inl rfl

theorem lookedUp_valueOf_of_ne (scheduler : SchedulerState) {key : String}
    (differ : request.affinityKey ≠ some key) (now : Nat) :
    (scheduler.lookedUp request now).affinity.valueOf key =
      scheduler.affinity.valueOf key := by
  rcases lookedUp_valueOf_cases scheduler request key now with kept | ⟨same, _⟩
  · exact kept
  · exact absurd same differ

/-- A look-up under the key leaves its value as long as it has not expired. -/
theorem lookedUp_valueOf (request : Request) {key : String} {now : Nat}
    (fresh : scheduler.affinity.live key now = scheduler.affinity.valueOf key) :
    (scheduler.lookedUp request now).affinity.valueOf key =
      scheduler.affinity.valueOf key := by
  rcases lookedUp_valueOf_cases scheduler request key now with kept | ⟨_, dropped⟩
  · exact kept
  · exact dropped.trans fresh

/-- A request under another key keeps the value of a key, or evicts it. -/
theorem Acquired.valueOf_of_ne {answer : Except Error Allocation}
    (acquired : Acquired scheduler request moment next answer) {key : String}
    (differ : request.affinityKey ≠ some key) :
    next.affinity.valueOf key = scheduler.affinity.valueOf key ∨
      next.affinity.valueOf key = none := by
  have looked := lookedUp_valueOf_of_ne scheduler differ moment.lookup
  cases acquired with
  | refused error unknown devices affinity =>
      rcases affinity with same | same
      · rw [same]
        exact Or.inl rfl
      · rw [same]
        exact Or.inl looked
  | overflowed only found full devices affinity =>
      rw [affinity]
      exact Or.inl looked
  | recalled known found room devices affinity =>
      rw [affinity]
      exact Or.inl looked
  | chosen unknown member found room devices affinity =>
      rw [affinity]
      unfold recorded
      cases hasKey : request.affinityKey with
      | none => exact Or.inl looked
      | some other =>
          dsimp only
          rw [BoundedAffinityTable.valueOf_insert, if_neg]
          · split
            · exact Or.inr rfl
            · exact Or.inl looked
          · intro same
            rw [hasKey, same] at differ
            exact differ rfl

/-- A request that is placed under the key leaves the key at its core. -/
theorem Acquired.valueOf_of_ok {allocation : Allocation}
    (acquired : Acquired scheduler request moment next (.ok allocation)) {key : String}
    (hasKey : request.affinityKey = some key)
    (fresh : scheduler.affinity.live key moment.lookup = scheduler.affinity.valueOf key) :
    next.affinity.valueOf key = some allocation := by
  cases acquired with
  | recalled known found room devices affinity =>
      rcases remembered_eq_some known with ⟨_, ⟨other, isKey, isLive⟩, _⟩
      rw [hasKey] at isKey
      cases isKey
      rw [affinity, lookedUp_valueOf request fresh, ← fresh, isLive]
  | chosen unknown member found room devices affinity =>
      rw [affinity, recorded, hasKey]
      dsimp only
      rw [BoundedAffinityTable.valueOf_insert, if_pos rfl]

/-- A request that is placed adds to the load of its core and changes no
other. -/
theorem Acquired.devices_of_ok {allocation : Allocation}
    (acquired : Acquired scheduler request moment next (.ok allocation)) :
    next.devices = (scheduler.updateCore allocation CoreState.loaded).devices := by
  cases acquired with
  | recalled known found room devices affinity => exact devices
  | chosen unknown member found room devices affinity => exact devices

theorem Acquired.valueOf_of_error {error : Error}
    (acquired : Acquired scheduler request moment next (.error error)) {key : String}
    (fresh : scheduler.affinity.live key moment.lookup = scheduler.affinity.valueOf key) :
    next.affinity.valueOf key = scheduler.affinity.valueOf key := by
  have looked := lookedUp_valueOf request fresh
  cases acquired with
  | refused error unknown devices affinity =>
      rcases affinity with same | same
      · rw [same]
      · rw [same]
        exact looked
  | overflowed only found full devices affinity =>
      rw [affinity]
      exact looked

/-- A core that is remembered and suits the request is the one it is given. -/
theorem Acquired.eq_of_remembered {own allocation : Allocation}
    (acquired : Acquired scheduler request moment next (.ok own))
    (known : scheduler.remembered request moment.lookup = some allocation) :
    own = allocation := by
  cases acquired with
  | recalled isKnown found room devices affinity =>
      rw [known] at isKnown
      cases isKnown
      rfl
  | chosen unknown member found room devices affinity =>
      rw [known] at unknown
      cases unknown

/-- The core of a request is of the requested kind. -/
theorem Acquired.kind_of_ok {allocation : Allocation}
    (acquired : Acquired scheduler request moment next (.ok allocation)) {placement : Placement}
    (placed : scheduler.placeOf allocation = some placement) :
    placement.kind = request.kind := by
  have suits : Exists fun site => scheduler.siteAt allocation = some site ∧
      siteMatches request site = true := by
    cases acquired with
    | recalled known found room devices affinity =>
        rcases remembered_eq_some known with ⟨_, _, site, isSite, suits, _⟩
        exact ⟨site, isSite, suits⟩
    | @chosen candidate _ unknown member found room devices affinity =>
        rcases (mem_candidates scheduler request candidate).mp member with
          ⟨site, isSite, suits, _⟩
        exact ⟨site, isSite, suits⟩
  rcases suits with ⟨site, isSite, suits⟩
  rw [placeOf_of_siteAt isSite] at placed
  cases placed
  rw [siteMatches, Bool.and_eq_true, decide_eq_true_eq] at suits
  exact suits.1

end SchedulerState
namespace InstancePool

variable {pool pool' : InstancePool} {scheduler scheduler' : SchedulerState} {call : Call}
  {phase phase' : Phase} {moment : Moment}

theorem giveBack_affinity (scheduler : SchedulerState) (lease : Lease) (phase : Phase) :
    (giveBack scheduler lease phase).1.affinity = scheduler.affinity := by
  rcases giveBack_cases scheduler lease phase with kept | given
  · rw [kept]
  · rw [given]
    rfl

theorem requestOf_key {request : Request} (requests : pool.requestOf call = some request) :
    request.affinityKey = call.key := by
  rcases Option.map_eq_some_iff.mp requests with ⟨first, _, rfl⟩
  cases call <;> rfl

/-- A core of the right kind that is kept for the key is remembered by every
checkout with the key. -/
theorem remembered_of_valueOf (pool : InstancePool) {key : String} {now : Nat}
    (live : scheduler.affinity.live key now = scheduler.affinity.valueOf key)
    {allocation : Allocation} (memory : scheduler.affinity.valueOf key = some allocation)
    {placement : Placement} (stands : scheduler.placeOf allocation = some placement)
    {kind : DeviceKind} (isKind : placement.kind = kind) (policy : SchedulingPolicy) :
    scheduler.remembered (pool.request kind (.checkout policy (some key))) now =
      some allocation := by
  rcases Option.map_eq_some_iff.mp stands with ⟨site, found, rfl⟩
  change (scheduler.affinity.live key now).filter _ = some allocation
  rw [live, memory, Option.filter_some, if_pos]
  rw [SchedulerState.allocationIsValid_iff]
  refine ⟨site, found, ?_, rfl⟩
  rw [SchedulerState.siteMatches, Bool.and_eq_true, decide_eq_true_eq]
  exact ⟨isKind, rfl⟩

/-- Choosing an instance touches no table, and an instance that is chosen is
on the core of the lease. -/
theorem choose_spec (pool : InstancePool) (scheduler : SchedulerState) (call : Call)
    (lease : Lease) :
    (pool.choose scheduler call lease).1.affinity = scheduler.affinity ∧
      (pool.choose scheduler call lease).2.1.affinity = pool.affinity ∧
      ((Exists fun error => (pool.choose scheduler call lease).2.2 = .failed error) ∨
        (pool.choose scheduler call lease).2.2 = .panicked ∨
        Exists fun index => pool.placements[index]? = some lease.placement ∧
          (pool.choose scheduler call lease).2.2 = settle call lease index) := by
  have ended : forall phase, (giveBack scheduler lease phase).2 = phase ∨
      (giveBack scheduler lease phase).2 = .panicked := by
    intro phase
    unfold giveBack
    split
    · exact Or.inr rfl
    · exact Or.inl rfl
  unfold choose
  split
  · rename_i index only
    refine ⟨rfl, rfl, Or.inr (Or.inr ⟨index, ?_, rfl⟩)⟩
    rw [← mem_matching, only]
    exact List.mem_singleton_self index
  · split
    · refine ⟨giveBack_affinity _ _ _, rfl, ?_⟩
      rcases ended (.failed .noAvailableCore) with is | is
      · exact Or.inl ⟨_, is⟩
      · exact Or.inr (Or.inl is)
    · split
      · refine ⟨giveBack_affinity _ _ _, rfl, Or.inr (Or.inl ?_)⟩
        rcases ended .panicked with is | is
        · exact is
        · exact is
      · rename_i index isAt
        refine ⟨rfl, rfl, Or.inr (Or.inr ⟨index, ?_, rfl⟩)⟩
        rw [← mem_matching]
        exact List.mem_of_getElem? isAt

/-- What acquiring the core of a found instance does. -/
theorem acquireFound_spec (pool : InstancePool) (scheduler : SchedulerState)
    (instanceIndex : Nat) (moment : Moment) (key : String) :
    ((pool.acquireFound scheduler instanceIndex moment).1.affinity.valueOf key =
        scheduler.affinity.valueOf key ∨
      (pool.acquireFound scheduler instanceIndex moment).1.affinity.valueOf key = none) ∧
      ((pool.acquireFound scheduler instanceIndex moment).2 = .panicked ∨
        (Exists fun error =>
          (pool.acquireFound scheduler instanceIndex moment).2 = .failed error) ∨
        Exists fun lease => Exists fun placement =>
          pool.placements[instanceIndex]? = some placement ∧
            (pool.acquireFound scheduler instanceIndex moment).2 =
              .returned lease instanceIndex placement) := by
  unfold acquireFound
  cases isAt : pool.placements[instanceIndex]? with
  | none => exact ⟨Or.inl rfl, Or.inl rfl⟩
  | some placement =>
      rcases Leasing.acquireLease_places scheduler (requestAt placement) moment with
        ⟨next, answer, is, acquired, _, _⟩
      have kept : next.affinity.valueOf key = scheduler.affinity.valueOf key ∨
          next.affinity.valueOf key = none :=
        acquired.valueOf_of_ne fun impossible => by cases impossible
      dsimp only
      rw [is]
      cases answer with
      | error error => exact ⟨kept, Or.inr (Or.inl ⟨error, rfl⟩)⟩
      | ok lease => exact ⟨kept, Or.inr (Or.inr ⟨lease, placement, rfl, rfl⟩)⟩

/-- What asking the scheduler for a core does. -/
theorem acquireMissed_spec (pool : InstancePool) (scheduler : SchedulerState) (call : Call)
    (moment : Moment) :
    (pool.acquireMissed scheduler call moment = (scheduler, .panicked) ∧
        pool.requestOf call = none) ∨
      (Exists fun request => Exists fun next => pool.requestOf call = some request ∧
        ((Exists fun error =>
            pool.acquireMissed scheduler call moment = (next, .failed error) ∧
              SchedulerState.Acquired scheduler request moment next (.error error)) ∨
          Exists fun lease =>
            pool.acquireMissed scheduler call moment = (next, .acquired lease) ∧
              SchedulerState.Acquired scheduler request moment next (.ok lease.allocation) ∧
              scheduler.placeOf lease.allocation = some lease.placement)) := by
  unfold acquireMissed
  cases requests : pool.requestOf call with
  | none => exact Or.inl ⟨rfl, rfl⟩
  | some request =>
      rcases Leasing.acquireLease_places scheduler request moment with
        ⟨next, answer, is, acquired, _, stands⟩
      refine Or.inr ⟨request, next, rfl, ?_⟩
      dsimp only
      rw [is]
      cases answer with
      | error error => exact Or.inl ⟨error, rfl, acquired⟩
      | ok lease => exact Or.inr ⟨lease, rfl, acquired, stands lease rfl⟩

/-- A checkout that is ended takes no further step. -/
theorem advance_of_isOver (ended : phase.isOver = true) :
    pool.advance scheduler call phase moment = none := by
  cases phase with
  | returned lease instanceIndex placement => rfl
  | dropped instanceIndex placement => rfl
  | failed error => rfl
  | panicked => rfl
  | entered => cases ended
  | found instanceIndex => cases ended
  | missed => cases ended
  | acquired lease => cases ended
  | chosen lease instanceIndex => cases ended

theorem enter_of_key {key : String} (hasKey : call.key = some key) :
    pool.enter call = .entered := by
  rcases call with ⟨policy, _ | own⟩ | ⟨deviceId, coreId⟩
  · cases hasKey
  · rfl
  · cases hasKey

theorem advance_chosen (pool : InstancePool) (scheduler : SchedulerState) {key : String}
    (hasKey : call.key = some key) (lease : Lease) (instanceIndex : Nat) (moment : Moment) :
    pool.advance scheduler call (.chosen lease instanceIndex) moment =
      some (scheduler,
        { pool with
          affinity := pool.affinity.insert key instanceIndex moment.record moment.tie },
        .returned lease instanceIndex lease.placement) := by
  unfold advance record
  dsimp only
  rw [hasKey]

/-- A step of a checkout with another key keeps the value of a key in both
tables, or evicts it. -/
theorem advance_valueOf_of_ne {key : String} (differ : call.key ≠ some key)
    (advances : pool.advance scheduler call phase moment = some (scheduler', pool', phase')) :
    (scheduler'.affinity.valueOf key = scheduler.affinity.valueOf key ∨
        scheduler'.affinity.valueOf key = none) ∧
      (pool'.affinity.valueOf key = pool.affinity.valueOf key ∨
        pool'.affinity.valueOf key = none) := by
  cases phase with
  | entered =>
      rcases Option.map_eq_some_iff.mp advances with ⟨other, hasKey, is⟩
      cases is
      refine ⟨Or.inl rfl, Or.inl ?_⟩
      have looked := pool.affinity.valueOf_get other key moment.lookup
      rw [if_neg (fun same => differ (by rw [hasKey, same]))] at looked
      split
      · rename_i is
        rw [is] at looked
        exact looked
      · rename_i is
        rw [is] at looked
        exact looked
  | found instanceIndex =>
      cases advances
      exact ⟨(pool.acquireFound_spec scheduler instanceIndex moment key).1, Or.inl rfl⟩
  | missed =>
      cases advances
      refine ⟨?_, Or.inl rfl⟩
      change (pool.acquireMissed scheduler call moment).1.affinity.valueOf key = _ ∨
        (pool.acquireMissed scheduler call moment).1.affinity.valueOf key = _
      rcases pool.acquireMissed_spec scheduler call moment with
        ⟨is, _⟩ | ⟨request, next, requests, ⟨error, is, acquired⟩ | ⟨lease, is, acquired, _⟩⟩
      · rw [is]
        exact Or.inl rfl
      · rw [is]
        exact acquired.valueOf_of_ne (by rw [requestOf_key requests]; exact differ)
      · rw [is]
        exact acquired.valueOf_of_ne (by rw [requestOf_key requests]; exact differ)
  | acquired lease =>
      have tables := pool.choose_spec scheduler call lease
      rw [Option.some.inj advances] at tables
      dsimp only at tables
      rw [tables.1, tables.2.1]
      exact ⟨Or.inl rfl, Or.inl rfl⟩
  | chosen lease instanceIndex =>
      cases advances
      refine ⟨Or.inl rfl, ?_⟩
      split
      · rename_i other hasKey
        dsimp only
        rw [BoundedAffinityTable.valueOf_insert, if_neg fun same => differ (by rw [hasKey, same])]
        split
        · exact Or.inr rfl
        · exact Or.inl rfl
      · exact Or.inl rfl
  | returned lease instanceIndex placement => cases advances
  | dropped instanceIndex placement => cases advances
  | failed error => cases advances
  | panicked => cases advances

end InstancePool
/-! ## Checkouts of one key in a stretch of a run -/

namespace Pooling

variable {n : Nat}

/-- All checkouts with the key are ended. -/
def Idle (key : String) (state : State n) : Prop :=
  forall checkout, checkout ∈ state.checkouts -> checkout.call.key = some key ->
    checkout.phase.isOver = true

/-- The step starts no checkout with the key on another pool, and it does not
evict, expire or remove what the two tables keep under the key. -/
def Undisturbed (p : Fin n) (key : String) (state : State n) : Label n -> Prop
  | .start pool call => call.key = some key -> pool = p
  | .drop _ => True
  | .removeAffinity pool other => ¬ (pool = p ∧ other = key)
  | .advance index moment =>
      (state.pools p).affinity.live key moment.lookup = (state.pools p).affinity.valueOf key ∧
      state.scheduler.affinity.live key moment.lookup = state.scheduler.affinity.valueOf key ∧
      forall next, advance state index moment = some next ->
        ((state.pools p).affinity.valueOf key ≠ none ->
          (next.pools p).affinity.valueOf key ≠ none) ∧
        (state.scheduler.affinity.valueOf key ≠ none ->
          next.scheduler.affinity.valueOf key ≠ none)

instance (p : Fin n) (key : String) (state : State n) :
    forall label, Decidable (Undisturbed p key state label)
  | .start pool call => inferInstanceAs (Decidable (call.key = some key -> pool = p))
  | .drop _ => isTrue trivial
  | .removeAffinity pool other => inferInstanceAs (Decidable (¬ (pool = p ∧ other = key)))
  | .advance index moment =>
      inferInstanceAs (Decidable
        ((state.pools p).affinity.live key moment.lookup =
            (state.pools p).affinity.valueOf key ∧
          state.scheduler.affinity.live key moment.lookup =
            state.scheduler.affinity.valueOf key ∧
          forall next, next ∈ advance state index moment ->
            ((state.pools p).affinity.valueOf key ≠ none ->
              (next.pools p).affinity.valueOf key ≠ none) ∧
            (state.scheduler.affinity.valueOf key ≠ none ->
              next.scheduler.affinity.valueOf key ≠ none)))

/-- The checkouts with the key on the pool, from the first one of the stretch
on, have returned one instance. -/
def Agree (p : Fin n) (key : String) (first : Nat) (state : State n) : Prop :=
  forall i j left right, first <= i -> first <= j ->
    state.checkouts[i]? = some left -> state.checkouts[j]? = some right ->
    left.pool = p -> right.pool = p -> left.call.key = some key -> right.call.key = some key ->
    forall leftResult rightResult, left.phase.result = some leftResult ->
      right.phase.result = some rightResult -> leftResult.1 = rightResult.1

/-- The checkout has not been given a core or an instance. -/
def Early : Phase -> Prop
  | .entered | .missed | .failed _ | .panicked => True
  | .found _ | .acquired _ | .chosen _ _ | .returned _ _ _ | .dropped _ _ => False

/-- All that the checkout has been given is at one place. -/
def At (placements : List Placement) (place : Option Placement) : Phase -> Prop
  | .entered | .missed | .failed _ | .panicked => True
  | .found instanceIndex => placements[instanceIndex]? = place
  | .acquired lease => place = some lease.placement
  | .chosen lease instanceIndex =>
      place = some lease.placement ∧ placements[instanceIndex]? = place
  | .returned _ instanceIndex _ | .dropped instanceIndex _ =>
      placements[instanceIndex]? = place ∧ place ≠ none

theorem Early.isAt {phase : Phase} (early : Early phase) (placements : List Placement)
    (place : Option Placement) : At placements place phase := by
  cases phase with
  | entered => trivial
  | missed => trivial
  | failed error => trivial
  | panicked => trivial
  | found instanceIndex => exact early.elim
  | acquired lease => exact early.elim
  | chosen lease instanceIndex => exact early.elim
  | returned lease instanceIndex placement => exact early.elim
  | dropped instanceIndex placement => exact early.elim

/-- The entries of a list after one was replaced. -/
private theorem getElem?_set_cases {T : Type} {entries : List T} {index i : Nat}
    {old new entry : T} (found : entries[index]? = some old)
    (isEntry : (entries.set index new)[i]? = some entry) :
    entries[i]? = some entry ∨ entry = new := by
  have bound := (List.getElem?_eq_some_iff.mp found).1
  by_cases same : index = i
  · rw [← same, List.getElem?_set_self bound] at isEntry
    exact Or.inr (Option.some.inj isEntry).symm
  · rw [List.getElem?_set_ne same] at isEntry
    exact Or.inl isEntry

/-- The entries of a list after one was added. -/
private theorem getElem?_concat_cases {T : Type} {entries : List T} {i : Nat} {new entry : T}
    (isEntry : (entries ++ [new])[i]? = some entry) :
    entries[i]? = some entry ∨ entry = new := by
  rw [List.getElem?_append] at isEntry
  split at isEntry
  · exact Or.inl isEntry
  · exact Or.inr (List.mem_singleton.mp (List.mem_of_getElem? isEntry))

/-- An entry that is kept or dropped, and is not dropped, is kept. -/
private theorem eq_of_kept {T : Type} {before after : Option T}
    (same : after = before ∨ after = none) (kept : before ≠ none -> after ≠ none) :
    after = before := by
  rcases same with same | gone
  · exact same
  · cases before with
    | none => exact gone
    | some value => exact absurd gone (kept (Option.some_ne_none value))

/-- The scheduler remembers the place for the key, and it suits the pool. -/
def Remembers (p : Fin n) (key : String) (place : Option Placement) (state : State n) : Prop :=
  Exists fun allocation => Exists fun placement => Exists fun head =>
    state.scheduler.affinity.valueOf key = some allocation ∧ place = some placement ∧
      state.scheduler.placeOf allocation = some placement ∧
      (state.pools p).placements.head? = some head ∧ placement.kind = head.kind

section Stretch

variable {p : Fin n} {key : String} {first : Nat} {state next : State n}

/-- The checkouts with the key that belong to the stretch are on the pool;
earlier ones are over. -/
structure Stretch (p : Fin n) (key : String) (first : Nat) (state : State n) : Prop where
  size : first <= state.checkouts.length
  here : forall i checkout, first <= i -> state.checkouts[i]? = some checkout ->
    checkout.call.key = some key -> checkout.pool = p
  ended : forall i checkout, i < first -> state.checkouts[i]? = some checkout ->
    checkout.call.key = some key -> checkout.phase.isOver = true

/-- No checkout of the stretch has been given anything yet. -/
structure Fresh (p : Fin n) (key : String) (first : Nat) (state : State n) : Prop where
  unrecorded : (state.pools p).affinity.valueOf key = none
  early : forall i checkout, first <= i -> state.checkouts[i]? = some checkout ->
    checkout.call.key = some key -> Early checkout.phase

/-- All that the checkouts of the stretch have been given is at one place, and
a checkout that still has to ask the scheduler will be given that place. -/
structure Agreed (p : Fin n) (key : String) (first : Nat) (place : Option Placement)
    (state : State n) : Prop where
  recorded : forall instanceIndex,
    (state.pools p).affinity.valueOf key = some instanceIndex ->
      (state.pools p).placements[instanceIndex]? = place
  placed : forall i checkout, first <= i -> state.checkouts[i]? = some checkout ->
    checkout.call.key = some key -> At (state.pools p).placements place checkout.phase
  remembered : ((state.pools p).affinity.valueOf key = none ∨
      Exists fun i => Exists fun checkout => first <= i ∧
        state.checkouts[i]? = some checkout ∧ checkout.call.key = some key ∧
        checkout.phase = .missed) ->
    Remembers p key place state

theorem Fresh.keep (fresh : Fresh p key first state)
    (unrecorded : (next.pools p).affinity.valueOf key = none)
    (moved : forall i checkout, first <= i -> next.checkouts[i]? = some checkout ->
      checkout.call.key = some key ->
      state.checkouts[i]? = some checkout ∨ Early checkout.phase) :
    Fresh p key first next where
  unrecorded := unrecorded
  early := by
    intro i checkout late found hasKey
    rcases moved i checkout late found hasKey with before | early
    · exact fresh.early i checkout late before hasKey
    · exact early

theorem Agreed.keep {place : Option Placement} (agreed : Agreed p key first place state)
    (places : next.scheduler.placeOf = state.scheduler.placeOf)
    (placements : (next.pools p).placements = (state.pools p).placements)
    (table : (next.pools p).affinity.valueOf key = (state.pools p).affinity.valueOf key)
    (memory : next.scheduler.affinity.valueOf key = state.scheduler.affinity.valueOf key)
    (moved : forall i checkout, first <= i -> next.checkouts[i]? = some checkout ->
      checkout.call.key = some key -> state.checkouts[i]? = some checkout ∨
        At (state.pools p).placements place checkout.phase ∧
          (checkout.phase = .missed -> (state.pools p).affinity.valueOf key = none)) :
    Agreed p key first place next where
  recorded := by
    intro instanceIndex isRecorded
    rw [table] at isRecorded
    rw [placements]
    exact agreed.recorded instanceIndex isRecorded
  placed := by
    intro i checkout late found hasKey
    rw [placements]
    rcases moved i checkout late found hasKey with before | ⟨at_, _⟩
    · exact agreed.placed i checkout late before hasKey
    · exact at_
  remembered := by
    intro asks
    have asked : Remembers p key place state := by
      apply agreed.remembered
      rcases asks with unrecorded | ⟨i, checkout, late, found, hasKey, missed⟩
      · rw [table] at unrecorded
        exact Or.inl unrecorded
      · rcases moved i checkout late found hasKey with before | ⟨_, unrecorded⟩
        · exact Or.inr ⟨i, checkout, late, before, hasKey, missed⟩
        · exact Or.inl (unrecorded missed)
    rcases asked with ⟨allocation, placement, head, isMemory, isPlace, stands, isHead, kind⟩
    refine ⟨allocation, placement, head, memory.trans isMemory, isPlace, ?_, ?_, kind⟩
    · rw [places]
      exact stands
    · rw [placements]
      exact isHead

/-- A checkout of the stretch that asks the scheduler is given the agreed
place, or, if it is the first, sets it. -/
theorem acquireMissed_agrees
    {pool : InstancePool} {call : Call} {moment : Moment} {scheduler : SchedulerState}
    (hasKey : call.key = some key)
    (live : scheduler.affinity.live key moment.lookup = scheduler.affinity.valueOf key)
    {allocation : Allocation} {placement head : Placement}
    (memory : scheduler.affinity.valueOf key = some allocation)
    (stands : scheduler.placeOf allocation = some placement)
    (isHead : pool.placements.head? = some head) (kind : placement.kind = head.kind) :
    (pool.acquireMissed scheduler call moment).1.affinity.valueOf key = some allocation ∧
      ((Exists fun error => (pool.acquireMissed scheduler call moment).2 = .failed error) ∨
        Exists fun lease => (pool.acquireMissed scheduler call moment).2 = .acquired lease ∧
          lease.placement = placement) := by
  rcases call with ⟨policy, own⟩ | ⟨deviceId, coreId⟩
  · change own = some key at hasKey
    subst hasKey
    have requests : pool.requestOf (.checkout policy (some key)) =
        some (pool.request head.kind (.checkout policy (some key))) := by
      rw [InstancePool.requestOf, isHead]
      rfl
    have known := pool.remembered_of_valueOf live memory stands kind policy
    rcases pool.acquireMissed_spec scheduler (.checkout policy (some key)) moment with
      ⟨_, absent⟩ |
        ⟨request, next, isRequest, ⟨error, is, acquired⟩ | ⟨lease, is, acquired, placed⟩⟩
    · rw [requests] at absent
      cases absent
    · rw [requests] at isRequest
      cases isRequest
      rw [is]
      exact ⟨(acquired.valueOf_of_error live).trans memory, Or.inl ⟨error, rfl⟩⟩
    · rw [requests] at isRequest
      cases isRequest
      rw [is]
      have isOwn := acquired.valueOf_of_ok rfl live
      rw [acquired.eq_of_remembered known] at isOwn placed
      rw [stands] at placed
      exact ⟨isOwn, Or.inr ⟨lease, rfl, (Option.some.inj placed).symm⟩⟩
  · cases hasKey

/-- The first checkout of the stretch that is given a core sets the place. -/
theorem Fresh.acquireMissed (fresh : Fresh p key first state) {index : Nat}
    {checkout : Checkout n} (found : state.checkouts[index]? = some checkout)
    (hasKey : checkout.call.key = some key) {moment : Moment}
    (live : state.scheduler.affinity.live key moment.lookup =
      state.scheduler.affinity.valueOf key)
    {scheduler : SchedulerState} {phase : Phase}
    (acquires : (state.pools p).acquireMissed state.scheduler checkout.call moment =
      (scheduler, phase))
    (pools : next.pools p = state.pools p) (isScheduler : next.scheduler = scheduler)
    (checkouts : next.checkouts =
      state.checkouts.set index { checkout with phase := phase }) :
    Fresh p key first next ∨ Exists fun place => Agreed p key first place next := by
  have moved : forall (i : Nat) (other : Checkout n), next.checkouts[i]? = some other ->
      state.checkouts[i]? = some other ∨ other = { checkout with phase := phase } := by
    intro i other isOther
    rw [checkouts] at isOther
    exact getElem?_set_cases found isOther
  have unrecorded : (next.pools p).affinity.valueOf key = none := by
    rw [pools]
    exact fresh.unrecorded
  have stays : Early phase -> Fresh p key first next := by
    intro early
    refine fresh.keep unrecorded fun i other late isOther _ => ?_
    rcases moved i other isOther with before | rfl
    · exact Or.inl before
    · exact Or.inr early
  rcases (state.pools p).acquireMissed_spec state.scheduler checkout.call moment with
    ⟨is, _⟩ | ⟨request, after, requests, ⟨error, is, acquired⟩ | ⟨lease, is, acquired, stands⟩⟩
  · rw [acquires] at is
    cases is
    exact Or.inl (stays trivial)
  · rw [acquires] at is
    cases is
    exact Or.inl (stays trivial)
  · rw [acquires] at is
    cases is
    refine Or.inr ⟨some lease.placement, ?_, ?_, ?_⟩
    · intro instanceIndex isRecorded
      rw [unrecorded] at isRecorded
      cases isRecorded
    · intro i other late isOther own
      rcases moved i other isOther with before | rfl
      · exact (fresh.early i other late before own).isAt _ _
      · rfl
    · intro _
      rcases Option.map_eq_some_iff.mp requests with ⟨head, isHead, isRequest⟩
      refine ⟨lease.allocation, lease.placement, head, ?_, rfl, ?_, ?_, ?_⟩
      · rw [isScheduler]
        apply acquired.valueOf_of_ok _ live
        rw [InstancePool.requestOf_key requests, hasKey]
      · rw [isScheduler, acquired.placeOf]
        exact stands
      · rw [pools]
        exact isHead
      · rw [acquired.kind_of_ok stands, ← isRequest]
        cases checkout.call <;> rfl

/-- Either nothing has been given out yet, or all of it is at one place. -/
def Progress (p : Fin n) (key : String) (first : Nat) (state : State n) : Prop :=
  Fresh p key first state ∨ Exists fun place => Agreed p key first place state

/-- A checkout of the stretch moves on by what the table of its pool says, or
by what it has already been given. -/
structure Moves (pool : InstancePool) (key : String) (phase phase' : Phase) : Prop where
  early : pool.affinity.valueOf key = none -> Early phase -> Early phase'
  placed : forall place, (forall instanceIndex,
      pool.affinity.valueOf key = some instanceIndex ->
        pool.placements[instanceIndex]? = place) ->
    At pool.placements place phase -> At pool.placements place phase'
  missed : phase' = .missed -> pool.affinity.valueOf key = none

/-- A step that leaves both tables at the key and moves checkouts on by what
they know keeps the stretch on its way. -/
theorem Progress.keep (progress : Progress p key first state)
    (frame : InstancePool.Frame state.scheduler next.scheduler (state.pools p) (next.pools p))
    (table : (next.pools p).affinity.valueOf key = (state.pools p).affinity.valueOf key)
    (memory : next.scheduler.affinity.valueOf key = state.scheduler.affinity.valueOf key)
    (moved : forall i checkout, first <= i -> next.checkouts[i]? = some checkout ->
      checkout.call.key = some key ->
      state.checkouts[i]? = some checkout ∨ checkout.phase = .entered ∨
        Exists fun old => state.checkouts[i]? = some old ∧ old.call.key = some key ∧
          Moves (state.pools p) key old.phase checkout.phase) :
    Progress p key first next := by
  rcases progress with fresh | ⟨place, agreed⟩
  · refine Or.inl (fresh.keep (table.trans fresh.unrecorded) ?_)
    intro i checkout late found hasKey
    rcases moved i checkout late found hasKey with same | entered | ⟨old, isOld, own, moves⟩
    · exact Or.inl same
    · rw [entered]
      exact Or.inr trivial
    · exact Or.inr (moves.early fresh.unrecorded (fresh.early i old late isOld own))
  · refine Or.inr ⟨place, agreed.keep frame.places frame.placements table memory ?_⟩
    intro i checkout late found hasKey
    rcases moved i checkout late found hasKey with same | entered | ⟨old, isOld, own, moves⟩
    · exact Or.inl same
    · rw [entered]
      exact Or.inr ⟨trivial, fun impossible => by cases impossible⟩
    · exact Or.inr ⟨moves.placed place agreed.recorded (agreed.placed i old late isOld own),
        moves.missed⟩

/-- The checkouts of a state after one has moved on. -/
private theorem moved_set {pool : InstancePool} {checkouts : List (Checkout n)} {index i : Nat}
    {checkout other : Checkout n} (found : checkouts[index]? = some checkout)
    (hasKey : checkout.call.key = some key) {phase : Phase}
    (moves : Moves pool key checkout.phase phase)
    (isOther : (checkouts.set index { checkout with phase := phase })[i]? = some other) :
    checkouts[i]? = some other ∨ other.phase = .entered ∨
      Exists fun old => checkouts[i]? = some old ∧ old.call.key = some key ∧
        Moves pool key old.phase other.phase := by
  by_cases same : index = i
  · rw [← same, List.getElem?_set_self (List.getElem?_eq_some_iff.mp found).1] at isOther
    cases isOther
    exact Or.inr (Or.inr ⟨checkout, same ▸ found, hasKey, moves⟩)
  · rw [List.getElem?_set_ne same] at isOther
    exact Or.inl isOther

/-- A phase that a checkout ends in without an instance fits everything. -/
theorem Moves.ends {pool : InstancePool} {phase phase' : Phase} (early : Early phase')
    (going : phase' ≠ .missed) : Moves pool key phase phase' where
  early := fun _ _ => early
  placed := fun place _ _ => early.isAt pool.placements place
  missed := fun impossible => absurd impossible going

theorem moves_lookUp {pool : InstancePool} {now : Nat}
    (live : pool.affinity.live key now = pool.affinity.valueOf key) :
    Moves pool key .entered (pool.lookUp key now).2 ∧
      (pool.lookUp key now).1.affinity.valueOf key = pool.affinity.valueOf key := by
  have table := pool.affinity.valueOf_get key key now
  rw [if_pos rfl, live] at table
  have answer : (pool.affinity.get key now).2 = pool.affinity.valueOf key := live
  unfold InstancePool.lookUp
  rcases looked : pool.affinity.get key now with ⟨after, found⟩
  rw [looked] at table answer
  cases found with
  | none =>
      refine ⟨⟨fun _ _ => trivial, fun _ _ _ => trivial, fun _ => answer.symm⟩, table⟩
  | some instanceIndex =>
      refine ⟨⟨?_, ?_, fun impossible => by cases impossible⟩, table⟩
      · intro absent
        rw [← answer] at absent
        cases absent
      · intro place recorded _
        exact recorded instanceIndex answer.symm

theorem moves_acquireFound {pool : InstancePool} {scheduler : SchedulerState}
    {instanceIndex : Nat} {moment : Moment} :
    Moves pool key (.found instanceIndex)
      (pool.acquireFound scheduler instanceIndex moment).2 := by
  rcases (pool.acquireFound_spec scheduler instanceIndex moment key).2 with
    is | ⟨error, is⟩ | ⟨lease, placement, isAt, is⟩
  · rw [is]
    exact Moves.ends trivial (fun impossible => by cases impossible)
  · rw [is]
    exact Moves.ends trivial (fun impossible => by cases impossible)
  · rw [is]
    refine ⟨fun _ early => early.elim, ?_, fun impossible => by cases impossible⟩
    intro place _ found
    refine ⟨found, ?_⟩
    change pool.placements[instanceIndex]? = place at found
    rw [← found, isAt]
    exact Option.some_ne_none _

theorem moves_choose (pool : InstancePool) (scheduler : SchedulerState) {call : Call}
    (hasKey : call.key = some key) (lease : Lease) :
    Moves pool key (.acquired lease) (pool.choose scheduler call lease).2.2 := by
  rcases (pool.choose_spec scheduler call lease).2.2 with
    ⟨error, is⟩ | is | ⟨index, isAt, is⟩
  · rw [is]
    exact Moves.ends trivial (fun impossible => by cases impossible)
  · rw [is]
    exact Moves.ends trivial (fun impossible => by cases impossible)
  · rw [is, InstancePool.settle, hasKey]
    refine ⟨fun _ early => early.elim, ?_, fun impossible => by cases impossible⟩
    intro place _ given
    exact ⟨given, isAt.trans given.symm⟩

theorem moves_giveBack {pool : InstancePool} {scheduler : SchedulerState} {lease : Lease}
    {instanceIndex : Nat} {placement : Placement} :
    Moves pool key (.returned lease instanceIndex placement)
      (InstancePool.giveBack scheduler lease (.dropped instanceIndex placement)).2 := by
  unfold InstancePool.giveBack
  split
  · exact Moves.ends trivial (fun impossible => by cases impossible)
  · exact ⟨fun _ early => early.elim, fun _ _ given => given,
      fun impossible => by cases impossible⟩

/-- Recording the chosen instance leaves the table at the agreed place. -/
theorem Progress.record (progress : Progress p key first state) {index : Nat}
    {checkout : Checkout n} (late : first <= index)
    (found : state.checkouts[index]? = some checkout) (hasKey : checkout.call.key = some key)
    {lease : Lease} {instanceIndex : Nat} (chosen : checkout.phase = .chosen lease instanceIndex)
    (scheduler : next.scheduler = state.scheduler)
    (placements : (next.pools p).placements = (state.pools p).placements)
    (table : (next.pools p).affinity.valueOf key = some instanceIndex)
    (checkouts : next.checkouts = state.checkouts.set index
      { checkout with phase := .returned lease instanceIndex lease.placement }) :
    Progress p key first next := by
  rcases progress with fresh | ⟨place, agreed⟩
  · have early := fresh.early index checkout late found hasKey
    rw [chosen] at early
    exact early.elim
  · have given := agreed.placed index checkout late found hasKey
    rw [chosen] at given
    refine Or.inr ⟨place, ?_, ?_, ?_⟩
    · intro other isOther
      rw [table] at isOther
      cases isOther
      rw [placements]
      exact given.2
    · intro i other isLate isOther own
      rw [placements]
      rw [checkouts] at isOther
      rcases getElem?_set_cases found isOther with before | rfl
      · exact agreed.placed i other isLate before own
      · refine ⟨given.2, ?_⟩
        rw [given.1]
        exact Option.some_ne_none _
    · intro asks
      have asked : Remembers p key place state := by
        rcases asks with unrecorded | ⟨i, other, isLate, isOther, own, missed⟩
        · rw [table] at unrecorded
          cases unrecorded
        · rw [checkouts] at isOther
          rcases getElem?_set_cases found isOther with before | rfl
          · exact agreed.remembered (Or.inr ⟨i, other, isLate, before, own, missed⟩)
          · cases missed
      rcases asked with ⟨allocation, placement, head, memory, isPlace, stands, isHead, kind⟩
      refine ⟨allocation, placement, head, ?_, isPlace, ?_, ?_, kind⟩
      · rw [scheduler]
        exact memory
      · rw [scheduler]
        exact stands
      · rw [placements]
        exact isHead

/-- A checkout of the stretch asks the scheduler for a core. -/
theorem Progress.acquireMissed (progress : Progress p key first state) {index : Nat}
    {checkout : Checkout n} (late : first <= index)
    (found : state.checkouts[index]? = some checkout) (hasKey : checkout.call.key = some key)
    (missed : checkout.phase = .missed) {moment : Moment}
    (live : state.scheduler.affinity.live key moment.lookup =
      state.scheduler.affinity.valueOf key)
    (pools : next.pools p = state.pools p)
    (places : next.scheduler.placeOf = state.scheduler.placeOf)
    {phase : Phase}
    (acquires : (state.pools p).acquireMissed state.scheduler checkout.call moment =
      (next.scheduler, phase))
    (checkouts : next.checkouts =
      state.checkouts.set index { checkout with phase := phase }) :
    Progress p key first next := by
  rcases progress with fresh | ⟨place, agreed⟩
  · exact fresh.acquireMissed found hasKey live acquires pools rfl checkouts
  rcases agreed.remembered (Or.inr ⟨index, checkout, late, found, hasKey, missed⟩) with
    ⟨allocation, placement, head, memory, isPlace, stands, isHead, kind⟩
  have given := acquireMissed_agrees hasKey live memory stands isHead kind
  rw [acquires] at given
  refine Or.inr ⟨place, agreed.keep places (by rw [pools]) (by rw [pools])
    (given.1.trans memory.symm) ?_⟩
  intro i other isLate isOther own
  rw [checkouts] at isOther
  rcases getElem?_set_cases found isOther with before | rfl
  · exact Or.inl before
  · rcases given.2 with ⟨error, is⟩ | ⟨lease, is, same⟩
    · dsimp only at is
      rw [is]
      exact Or.inr ⟨trivial, fun impossible => by cases impossible⟩
    · dsimp only at is
      rw [is]
      refine Or.inr ⟨?_, fun impossible => by cases impossible⟩
      rw [isPlace, ← same]
      rfl

/-- A checkout of the stretch takes its next step. -/
theorem Progress.own (progress : Progress p key first state) (stretch : Stretch p key first state)
    {index : Nat} {checkout : Checkout n} (found : state.checkouts[index]? = some checkout)
    (hasKey : checkout.call.key = some key) {moment : Moment}
    (tableLive : (state.pools p).affinity.live key moment.lookup =
      (state.pools p).affinity.valueOf key)
    (memoryLive : state.scheduler.affinity.live key moment.lookup =
      state.scheduler.affinity.valueOf key)
    {scheduler : SchedulerState} {pool : InstancePool} {phase : Phase}
    (kept : state.scheduler.affinity.valueOf key ≠ none ->
      scheduler.affinity.valueOf key ≠ none)
    (steps : (state.pools checkout.pool).advance state.scheduler checkout.call checkout.phase
      moment = some (scheduler, pool, phase)) :
    Progress p key first
      { scheduler := scheduler
        pools := Function.update state.pools checkout.pool pool
        checkouts := state.checkouts.set index { checkout with phase := phase } } := by
  have late : first <= index := by
    by_contra early
    have ended := stretch.ended index checkout (by omega) found hasKey
    rw [InstancePool.advance_of_isOver ended] at steps
    cases steps
  -- the pool of the checkout is the pool of the stretch
  obtain rfl := stretch.here index checkout late found hasKey
  have frame := InstancePool.advance_frame steps
  have keep : pool.affinity.valueOf key = (state.pools checkout.pool).affinity.valueOf key ->
      scheduler.affinity.valueOf key = state.scheduler.affinity.valueOf key ->
      Moves (state.pools checkout.pool) key checkout.phase phase -> Progress checkout.pool key first
        { scheduler := scheduler
          pools := Function.update state.pools checkout.pool pool
          checkouts := state.checkouts.set index { checkout with phase := phase } } := by
    intro table memory moves
    refine progress.keep ?_ ?_ memory fun i other _ isOther _ => ?_
    · dsimp only
      rw [Function.update_self]
      exact frame
    · dsimp only
      rw [Function.update_self]
      exact table
    · exact moved_set found hasKey moves isOther
  cases isPhase : checkout.phase with
  | entered =>
      rw [isPhase] at steps keep
      rcases Option.map_eq_some_iff.mp steps with ⟨own, isOwn, is⟩
      rw [hasKey] at isOwn
      cases isOwn
      have looked := moves_lookUp tableLive
      cases is
      exact keep looked.2 rfl looked.1
  | found instanceIndex =>
      rw [isPhase] at steps keep
      have memory := ((state.pools checkout.pool).acquireFound_spec state.scheduler
        instanceIndex moment key).1
      cases steps
      exact keep rfl (eq_of_kept memory kept) moves_acquireFound
  | missed =>
      rw [isPhase] at steps
      cases steps
      refine progress.acquireMissed late found hasKey isPhase memoryLive ?_ frame.places rfl rfl
      exact Function.update_self checkout.pool _ _
  | acquired lease =>
      rw [isPhase] at steps keep
      have tables := (state.pools checkout.pool).choose_spec state.scheduler checkout.call lease
      have moves := moves_choose (state.pools checkout.pool) state.scheduler hasKey lease
      rw [Option.some.inj steps] at tables moves
      exact keep (congrArg (BoundedAffinityTable.valueOf · key) tables.2.1)
        (congrArg (BoundedAffinityTable.valueOf · key) tables.1) moves
  | chosen lease instanceIndex =>
      rw [isPhase, InstancePool.advance_chosen _ _ hasKey] at steps
      cases steps
      refine progress.record late found hasKey isPhase rfl ?_ ?_ rfl
      · dsimp only
        rw [Function.update_self]
      · dsimp only
        rw [Function.update_self]
        exact (BoundedAffinityTable.valueOf_insert ..).trans (if_pos rfl)
  | returned lease instanceIndex placement =>
      rw [isPhase] at steps
      cases steps
  | dropped instanceIndex placement =>
      rw [isPhase] at steps
      cases steps
  | failed error =>
      rw [isPhase] at steps
      cases steps
  | panicked =>
      rw [isPhase] at steps
      cases steps

theorem advance_progress (stretch : Stretch p key first state)
    (progress : Progress p key first state) {index : Nat} {moment : Moment}
    (undisturbed : Undisturbed p key state (.advance index moment))
    (advances : advance state index moment = some next) : Progress p key first next := by
  rcases undisturbed with ⟨tableLive, memoryLive, kept⟩
  have keeps := kept next advances
  rcases Option.bind_eq_some_iff.mp advances with ⟨checkout, found, moved⟩
  rcases Option.map_eq_some_iff.mp moved with ⟨⟨scheduler, pool, phase⟩, steps, rfl⟩
  have ownFrame := InstancePool.advance_frame steps
  have frame : InstancePool.Frame state.scheduler scheduler (state.pools p)
      (Function.update state.pools checkout.pool pool p) := by
    by_cases same : p = checkout.pool
    · rw [same, Function.update_self]
      exact ownFrame
    · rw [Function.update_of_ne same]
      exact ⟨ownFrame.places, rfl, rfl⟩
  by_cases hasKey : checkout.call.key = some key
  · exact progress.own stretch found hasKey tableLive memoryLive keeps.2 steps
  · have tables := InstancePool.advance_valueOf_of_ne hasKey steps
    refine progress.keep frame ?_ (eq_of_kept tables.1 keeps.2) ?_
    · by_cases same : p = checkout.pool
      · have ownKeeps := keeps.1
        dsimp only at ownKeeps ⊢
        rw [same, Function.update_self] at ownKeeps ⊢
        exact eq_of_kept tables.2 ownKeeps
      · dsimp only
        rw [Function.update_of_ne same]
    · intro i other late isOther own
      rcases getElem?_set_cases found isOther with before | rfl
      · exact Or.inl before
      · exact absurd own hasKey

/-- A checkout of the state moves on, and stays ended if it was. -/
theorem Stretch.move (stretch : Stretch p key first state) {index : Nat} {checkout : Checkout n}
    (found : state.checkouts[index]? = some checkout) {phase : Phase}
    (ended : checkout.phase.isOver = true -> phase.isOver = true)
    (checkouts : next.checkouts = state.checkouts.set index { checkout with phase := phase }) :
    Stretch p key first next where
  size := by
    rw [checkouts, List.length_set]
    exact stretch.size
  here := by
    intro i other late isOther hasKey
    rw [checkouts] at isOther
    by_cases same : index = i
    · rw [← same, List.getElem?_set_self (List.getElem?_eq_some_iff.mp found).1] at isOther
      cases isOther
      exact stretch.here index checkout (same ▸ late) found hasKey
    · rw [List.getElem?_set_ne same] at isOther
      exact stretch.here i other late isOther hasKey
  ended := by
    intro i other early isOther hasKey
    rw [checkouts] at isOther
    by_cases same : index = i
    · rw [← same, List.getElem?_set_self (List.getElem?_eq_some_iff.mp found).1] at isOther
      cases isOther
      exact ended (stretch.ended index checkout (same ▸ early) found hasKey)
    · rw [List.getElem?_set_ne same] at isOther
      exact stretch.ended i other early isOther hasKey

theorem step_stretch (stretch : Stretch p key first state) {label : Label n}
    (undisturbed : Undisturbed p key state label) (steps : step state label = some next) :
    Stretch p key first next := by
  cases label with
  | start pool call =>
      cases steps
      have size := stretch.size
      refine ⟨?_, ?_, ?_⟩
      · rw [List.length_append]
        omega
      · intro i other late isOther hasKey
        rcases getElem?_concat_cases isOther with before | rfl
        · exact stretch.here i other late before hasKey
        · exact undisturbed hasKey
      · intro i other early isOther hasKey
        rw [List.getElem?_append_left (by omega)] at isOther
        exact stretch.ended i other early isOther hasKey
  | advance index moment =>
      rcases Option.bind_eq_some_iff.mp steps with ⟨checkout, found, moved⟩
      rcases Option.map_eq_some_iff.mp moved with ⟨⟨scheduler, pool, phase⟩, advances, rfl⟩
      refine stretch.move found ?_ rfl
      intro ended
      rw [InstancePool.advance_of_isOver ended] at advances
      cases advances
  | drop index =>
      rcases drop_eq_some steps with ⟨checkout, lease, instanceIndex, placement, found, _, rfl⟩
      refine stretch.move found ?_ rfl
      intro _
      unfold InstancePool.giveBack
      split <;> rfl
  | removeAffinity pool other =>
      cases steps
      exact ⟨stretch.size, stretch.here, stretch.ended⟩

/-- No step of an undisturbed run breaks the agreement. -/
theorem step_progress (stretch : Stretch p key first state)
    (progress : Progress p key first state) {label : Label n}
    (undisturbed : Undisturbed p key state label) (steps : step state label = some next) :
    Progress p key first next := by
  cases label with
  | start pool call =>
      cases steps
      refine progress.keep ⟨rfl, rfl, rfl⟩ rfl rfl ?_
      intro i checkout _ found hasKey
      rcases getElem?_concat_cases found with before | rfl
      · exact Or.inl before
      · exact Or.inr (Or.inl (InstancePool.enter_of_key hasKey))
  | advance index moment => exact advance_progress stretch progress undisturbed steps
  | drop index =>
      rcases drop_eq_some steps with
        ⟨checkout, lease, instanceIndex, placement, found, returned, rfl⟩
      refine progress.keep ⟨InstancePool.giveBack_placeOf _ _ _, rfl, rfl⟩ rfl ?_ ?_
      · exact congrArg (BoundedAffinityTable.valueOf · key) (InstancePool.giveBack_affinity _ _ _)
      · intro i other _ isOther hasKey
        by_cases own : checkout.call.key = some key
        · refine moved_set found own ?_ isOther
          rw [returned]
          exact moves_giveBack
        · rcases getElem?_set_cases found isOther with before | rfl
          · exact Or.inl before
          · exact absurd hasKey own
  | removeAffinity pool other =>
      cases steps
      have table : (Function.update state.pools pool { state.pools pool with
          affinity := (state.pools pool).affinity.remove other } p).affinity.valueOf key =
            (state.pools p).affinity.valueOf key := by
        by_cases same : p = pool
        · subst same
          rw [Function.update_self]
          dsimp only
          rw [BoundedAffinityTable.valueOf_remove, if_neg]
          intro isKey
          exact undisturbed ⟨rfl, isKey⟩
        · rw [Function.update_of_ne same]
      refine progress.keep ⟨rfl, ?_, ?_⟩ table rfl fun _ _ _ found _ => Or.inl found
      · by_cases same : p = pool
        · subst same
          dsimp only
          rw [Function.update_self]
        · dsimp only
          rw [Function.update_of_ne same]
      · by_cases same : p = pool
        · subst same
          dsimp only
          rw [Function.update_self]
        · dsimp only
          rw [Function.update_of_ne same]

/-- A stretch starts where all checkouts with the key are ended. -/
theorem Idle.progress (idle : Idle key state) :
    Stretch p key state.checkouts.length state ∧
      Progress p key state.checkouts.length state := by
  have none_ : forall i checkout, state.checkouts.length <= i ->
      state.checkouts[i]? ≠ some checkout := by
    intro i checkout late found
    have bound := (List.getElem?_eq_some_iff.mp found).1
    omega
  refine ⟨⟨Nat.le_refl _, ?_, ?_⟩, ?_⟩
  · intro i checkout late found
    exact absurd found (none_ i checkout late)
  · intro i checkout _ found hasKey
    exact idle checkout (List.mem_of_getElem? found) hasKey
  · cases table : (state.pools p).affinity.valueOf key with
    | none =>
        exact Or.inl ⟨table, fun i checkout late found => absurd found (none_ i checkout late)⟩
    | some instanceIndex =>
        refine Or.inr ⟨(state.pools p).placements[instanceIndex]?, ?_, ?_, ?_⟩
        · intro other isOther
          rw [table] at isOther
          cases isOther
          rfl
        · intro i checkout late found
          exact absurd found (none_ i checkout late)
        · rintro (unrecorded | ⟨i, checkout, late, found, _⟩)
          · rw [table] at unrecorded
            cases unrecorded
          · exact absurd found (none_ i checkout late)

/-- What the checkouts of a stretch return is at one place. -/
theorem Progress.result (progress : Progress p key first state) :
    Exists fun place => forall i checkout result, first <= i ->
      state.checkouts[i]? = some checkout -> checkout.call.key = some key ->
      checkout.phase.result = some result ->
      (state.pools p).placements[result.1]? = place ∧ place ≠ none := by
  rcases progress with fresh | ⟨place, agreed⟩
  · refine ⟨none, ?_⟩
    rintro i checkout ⟨instanceIndex, placement⟩ late found hasKey returned
    have early := fresh.early i checkout late found hasKey
    rcases Phase.result_eq_some returned with ⟨lease, is⟩ | is
    · rw [is] at early
      exact early.elim
    · rw [is] at early
      exact early.elim
  · refine ⟨place, ?_⟩
    rintro i checkout ⟨instanceIndex, placement⟩ late found hasKey returned
    have given := agreed.placed i checkout late found hasKey
    rcases Phase.result_eq_some returned with ⟨lease, is⟩ | is
    · rw [is] at given
      exact given
    · rw [is] at given
      exact given

theorem Progress.agree (progress : Progress p key first state)
    (nodup : (state.pools p).placements.Nodup) : Agree p key first state := by
  rcases progress.result with ⟨place, placed⟩
  intro i j left right lateLeft lateRight isLeft isRight _ _ ownLeft ownRight leftResult
    rightResult returnedLeft returnedRight
  have atLeft := placed i left leftResult lateLeft isLeft ownLeft returnedLeft
  have atRight := placed j right rightResult lateRight isRight ownRight returnedRight
  cases is : place with
  | none => exact absurd is atLeft.2
  | some placement =>
      have bound : leftResult.1 < (state.pools p).placements.length :=
        (List.getElem?_eq_some_iff.mp (atLeft.1.trans is)).1
      exact (List.getElem?_inj bound nodup).mp (atLeft.1.trans atRight.1.symm)

/-- The placements of a pool never change. -/
theorem step_placements {label : Label n} (steps : step state label = some next) :
    (next.pools p).placements = (state.pools p).placements := by
  cases label with
  | start pool call =>
      cases steps
      rfl
  | advance index moment =>
      rcases Option.bind_eq_some_iff.mp steps with ⟨checkout, _, moved⟩
      rcases Option.map_eq_some_iff.mp moved with ⟨⟨scheduler, pool, phase⟩, advances, rfl⟩
      dsimp only
      by_cases same : p = checkout.pool
      · rw [same, Function.update_self]
        exact (InstancePool.advance_frame advances).placements
      · rw [Function.update_of_ne same]
  | drop index =>
      rcases drop_eq_some steps with ⟨checkout, lease, instanceIndex, placement, _, _, rfl⟩
      rfl
  | removeAffinity pool other =>
      cases steps
      dsimp only
      by_cases same : p = pool
      · rw [same, Function.update_self]
      · rw [Function.update_of_ne same]

theorem reachable_placements (reached : (machine n).Reachable state next) :
    (next.pools p).placements = (state.pools p).placements :=
  (machine n).run_invariant
    (fun other => (other.pools p).placements = (state.pools p).placements)
    (fun _ _ _ same stepped => (step_placements stepped).trans same) rfl reached

/-- Checkouts with one key agree on a pool whose instances are all at places
of their own. -/
theorem agree_of_nodup (idle : Idle key state) (nodup : (state.pools p).placements.Nodup)
    {labels : List (Label n)} (undisturbed : (machine n).Meets (Undisturbed p key) state labels)
    (reached : (machine n).run state labels = some next) :
    Agree p key state.checkouts.length next := by
  have holds := (machine n).run_invariant_of_meets
    (fun other => Stretch p key state.checkouts.length other ∧
      Progress p key state.checkouts.length other)
    (fun _ _ _ both admitted stepped =>
      ⟨step_stretch both.1 admitted stepped, step_progress both.1 both.2 admitted stepped⟩)
    (Idle.progress idle) undisturbed reached
  refine holds.2.agree ?_
  rw [reachable_placements ⟨labels, reached⟩]
  exact nodup

end Stretch
end Pooling
end Scheduler
end DyunGu
