import DyunGu.Lib.Shares
import DyunGu.Scheduler.Leases
import Mathlib.Data.Finset.Card
import Mathlib.Data.List.Sort

namespace DyunGu
namespace Scheduler

open DyunGu.Backend (u64Max)
open DyunGu.Core (DeviceKind CoreSelection)

/-!
# Fairness of the policies

What the two policies do over any number of acquires on the same cores.  A
request that is answered from the affinity table is not placed by a policy, and
one that names cores or is not automatic is placed on a least loaded core
whatever its policy.
-/

def Candidate.allocation (candidate : Candidate) : Allocation :=
  ⟨candidate.deviceIndex, candidate.coreIndex⟩

/-- The order of the cores in a topology. -/
def Allocation.Before (first second : Allocation) : Prop :=
  first.deviceIndex < second.deviceIndex ∨
    (first.deviceIndex = second.deviceIndex ∧ first.coreIndex < second.coreIndex)

instance : Std.Irrefl Allocation.Before where
  irrefl := by
    rintro core (device | ⟨_, index⟩)
    · exact Nat.lt_irrefl _ device
    · exact Nat.lt_irrefl _ index

instance : Std.Antisymm Allocation.Before where
  antisymm := by
    rintro first second (device | ⟨device, index⟩) (back | ⟨back, indexBack⟩) <;> omega

namespace SchedulerState

/-- The cores that a request can be placed on, in the order of the topology. -/
def eligible (state : SchedulerState) (request : Request) : List Allocation :=
  (state.candidates request).map Candidate.allocation

theorem zipIdx_sorted {T : Type} (items : List T) :
    items.zipIdx.Pairwise fun first second => first.2 < second.2 := by
  apply List.pairwise_map.mp
  rw [List.zipIdx_map_snd]
  exact List.pairwise_lt_range'

theorem deviceIndexes_sorted (state : SchedulerState) (request : Request) :
    (state.deviceIndexes request).Pairwise (· < ·) :=
  List.pairwise_map.mpr ((zipIdx_sorted state.devices).filter _)

theorem eligible_sorted (state : SchedulerState) (request : Request) :
    (state.eligible request).Pairwise Allocation.Before := by
  unfold eligible candidates
  rw [List.map_flatMap, List.pairwise_flatMap]
  constructor
  · intro index _
    cases state.devices[index]? with
    | none => exact List.Pairwise.nil
    | some device =>
        dsimp only
        rw [List.map_map, List.pairwise_map]
        refine ((zipIdx_sorted device.cores).filter _).imp ?_
        exact fun before => Or.inr ⟨rfl, before⟩
  · refine (deviceIndexes_sorted state request).imp ?_
    intro first second before left inFirst right inSecond
    rcases List.mem_map.mp inFirst with ⟨leftCandidate, onFirst, rfl⟩
    rcases List.mem_map.mp inSecond with ⟨rightCandidate, onSecond, rfl⟩
    split at onFirst
    · cases onFirst
    · split at onSecond
      · cases onSecond
      · rcases List.mem_map.mp onFirst with ⟨_, _, rfl⟩
        rcases List.mem_map.mp onSecond with ⟨_, _, rfl⟩
        exact Or.inl before

/-! ## What a policy decides -/

theorem lookedUp_cursor (state : SchedulerState) (request : Request) (now : Nat) :
    (state.lookedUp request now).roundRobinCursor = state.roundRobinCursor := by
  unfold lookedUp
  split <;> rfl

theorem select_congr {state next : SchedulerState}
    (same : next.roundRobinCursor = state.roundRobinCursor) (request : Request)
    (candidates : List Candidate) :
    (next.select request candidates).2 = (state.select request candidates).2 ∧
      (next.select request candidates).1.roundRobinCursor =
        (state.select request candidates).1.roundRobinCursor := by
  unfold select
  rw [same]
  split
  · exact ⟨rfl, rfl⟩
  · exact ⟨rfl, same⟩

theorem increment_cursor {state next : SchedulerState} {allocation : Allocation}
    {answer : Except Error Unit} (incremented : state.increment allocation = some (next, answer)) :
    next.roundRobinCursor = state.roundRobinCursor := by
  unfold increment at incremented
  split at incremented
  · cases incremented
  · split at incremented <;> cases incremented <;> rfl

theorem place_ok {state next : SchedulerState} {request : Request} {moment : Moment}
    {allocation placed : Allocation}
    (places : state.place request moment allocation = some (next, .ok placed)) :
    allocation = placed ∧ next.roundRobinCursor = state.roundRobinCursor := by
  unfold place at places
  split at places
  · cases places
  · cases places
  · rename_i incremented
    have cursor := increment_cursor incremented
    split at places <;> cases places <;> exact ⟨rfl, cursor⟩

/-- An acquire that is not answered from the affinity table takes the core that
is selected, and a turn is over whether or not the core has room. -/
theorem acquire_selected {state next : SchedulerState} {request : Request} {moment : Moment}
    {allocation : Allocation} (unknown : state.remembered request moment.lookup = none)
    (acquires : state.acquire request moment = some (next, .ok allocation)) :
    Exists fun candidate =>
      (state.select request (state.candidates request)).2 = some candidate ∧
      candidate.allocation = allocation ∧
      next.roundRobinCursor =
        (state.select request (state.candidates request)).1.roundRobinCursor := by
  rcases select_congr (lookedUp_cursor state request moment.lookup) request
    (state.candidates request) with ⟨sameChoice, sameCursor⟩
  unfold acquire at acquires
  split at acquires
  · cases acquires
  dsimp only at acquires
  rw [unknown, candidates_congr (lookedUp_devices state request moment.lookup)] at acquires
  dsimp only at acquires
  split at acquires
  · cases acquires
  · rw [← sameChoice, ← sameCursor]
    split at acquires
    · cases acquires
    · rename_i chosenState candidate selection
      rcases place_ok acquires with ⟨isPlaced, cursor⟩
      rw [selection]
      exact ⟨candidate, rfl, isPlaced, cursor⟩

theorem select_least {request : Request} (notTurns : takesTurn request = false)
    (state : SchedulerState) (candidates : List Candidate) :
    (state.select request candidates).2 = leastLoaded candidates := by
  unfold select
  rw [notTurns]
  rfl

theorem select_turn {request : Request} (turns : takesTurn request = true)
    (state : SchedulerState) (candidates : List Candidate) :
    (state.select request candidates).2 =
        candidates[state.roundRobinCursor % candidates.length]? ∧
      (state.select request candidates).1.roundRobinCursor =
        (state.roundRobinCursor + 1) % UInt64.size := by
  unfold select
  rw [turns]
  exact ⟨rfl, rfl⟩

/-- The core of a candidate has its load. -/
theorem loadOf_candidate {state : SchedulerState} {request : Request} {candidate : Candidate}
    (member : candidate ∈ state.candidates request) :
    Leasing.loadOf state candidate.allocation = some candidate.load := by
  rcases (mem_candidates state request candidate).mp member with ⟨site, found, _, _, isShape⟩
  rw [Leasing.loadOf, Candidate.allocation, found, isShape]
  rfl

/-- The least loaded candidate has no more load than any other. -/
theorem leastLoaded_le {candidates : List Candidate} {chosen other : Candidate}
    (isLeast : leastLoaded candidates = some chosen) (member : other ∈ candidates) :
    chosen.load <= other.load := by
  have key := List.le_of_mem_argmin member isLeast
  rcases Prod.Lex.toLex_le_toLex.mp key with less | ⟨same, _⟩
  · exact Nat.le_of_lt less
  · exact Nat.le_of_eq same

end SchedulerState

namespace Leasing

open Shares (Level rounds)

def load (state : State) (core : Allocation) : Nat := (loadOf state.scheduler core).getD 0

/-- An acquire that is placed by a policy on some of the given cores.  Turns are
taken, or else the least loaded core is. -/
def Decided (cores : Finset Allocation) (turns : Bool) (state : State) : Label -> Prop
  | .drop _ => False
  | .acquire request moment =>
      state.scheduler.remembered request moment.lookup = none ∧
        SchedulerState.takesTurn request = turns ∧
        forall core, core ∈ state.scheduler.eligible request <-> core ∈ cores

/-- An acquire that gives a lease. -/
def Granted (state : State) : Label -> Prop
  | .drop _ => False
  | .acquire request moment =>
      Exists fun next => Exists fun lease =>
        state.scheduler.acquireLease request moment = some (next, .ok lease)

theorem acquire_of_lease {scheduler next : SchedulerState} {request : Request} {moment : Moment}
    {lease : Lease} (leases : scheduler.acquireLease request moment = some (next, .ok lease)) :
    scheduler.acquire request moment = some (next, .ok lease.allocation) := by
  unfold SchedulerState.acquireLease at leases
  split at leases
  · cases leases
  · cases leases
  · rename_i after allocation acquires
    rcases Option.map_eq_some_iff.mp leases with ⟨site, _, same⟩
    cases same
    exact acquires

theorem loadOf_of_loaded {scheduler next : SchedulerState} {allocation : Allocation}
    (devices : next.devices = (scheduler.updateCore allocation CoreState.loaded).devices)
    (core : Allocation) :
    loadOf next core = (loadOf scheduler core).map fun load =>
      if allocation = core then load + 1 else load := by
  rw [loadOf, SchedulerState.siteAt_of_devices devices, SchedulerState.siteAt_updateCore, loadOf]
  cases scheduler.siteAt core with
  | none => rfl
  | some site =>
      by_cases same : allocation = core
      · simp [same, CoreState.loaded]
      · simp [same]

variable {cores : Finset Allocation} {state next final : State}

/-- A least loaded core keeps the loads level. -/
theorem step_level {label : Label} (decided : Decided cores false state label)
    (stepped : step state label = some next) (level : Level (load state) cores) :
    Level (load next) cores := by
  cases label with
  | drop index => exact decided.elim
  | acquire request moment =>
      rcases decided with ⟨unknown, notTurns, isEligible⟩
      rcases acquireLease_spec state.scheduler request moment with
        ⟨after, ⟨error, is, fails⟩ | ⟨allocation, site, before, is, _, found, _, _, devices⟩⟩
      · simp only [step, is, Option.map_some, Option.some.injEq] at stepped
        refine level.congr fun core _ => ?_
        rw [← stepped]
        exact congrArg (fun load => load.getD 0) (loadOf_of_error fails core).1
      · simp only [step, is, Option.map_some, Option.some.injEq] at stepped
        rcases SchedulerState.acquire_selected unknown (acquire_of_lease is) with
          ⟨candidate, isChosen, rfl, _⟩
        rw [SchedulerState.select_least notTurns] at isChosen
        have member := List.argmin_mem isChosen
        have own := SchedulerState.loadOf_candidate member
        have after_eq : next.scheduler = after := by rw [← stepped]
        have raised (core : Allocation) := loadOf_of_loaded devices core
        refine level.raise ((isEligible _).mp (List.mem_map_of_mem member)) ?_ ?_ ?_
        · intro other isOther
          rcases List.mem_map.mp ((isEligible other).mpr isOther) with ⟨second, among, rfl⟩
          rw [load, load, own, SchedulerState.loadOf_candidate among]
          exact SchedulerState.leastLoaded_le isChosen among
        · rw [load, after_eq, raised, load, own]
          simp
        · intro other _ different
          rw [load, after_eq, raised, load]
          simp only [if_neg (Ne.symm different), Option.map_id']

/-- One more turn: the core is that at the place of the cursor. -/
theorem step_turn {order : List Allocation} {label : Label}
    (sorted : order.Pairwise Allocation.Before) (members : forall core, core ∈ order <-> core ∈ cores)
    (decided : Decided cores true state label) (granted : Granted state label)
    (stepped : step state label = some next) :
    next.scheduler.roundRobinCursor = (state.scheduler.roundRobinCursor + 1) % UInt64.size ∧
      Exists fun lease => next.leases = state.leases ++ [lease] ∧
        order[state.scheduler.roundRobinCursor % order.length]? = some lease.allocation := by
  cases label with
  | drop index => exact decided.elim
  | acquire request moment =>
      rcases decided with ⟨unknown, turns, isEligible⟩
      rcases granted with ⟨after, lease, leases⟩
      simp only [step, leases, Option.map_some, Option.some.injEq] at stepped
      rw [← stepped]
      rcases SchedulerState.acquire_selected unknown (acquire_of_lease leases) with
        ⟨candidate, isChosen, isCore, cursor⟩
      rcases SchedulerState.select_turn turns state.scheduler
        (state.scheduler.candidates request) with ⟨inTurn, advanced⟩
      refine ⟨cursor.trans advanced, lease, rfl, ?_⟩
      have same : state.scheduler.eligible request = order :=
        (SchedulerState.eligible_sorted _ _).eq_of_mem_iff sorted fun core =>
          (isEligible core).trans (members core).symm
      rw [← same, SchedulerState.eligible, List.length_map, List.getElem?_map, ← inTurn, isChosen,
        ← isCore]
      rfl

theorem run_level {labels : List Label} (level : Level (load state) cores)
    (meets : machine.Meets (Decided cores false) state labels)
    (reached : machine.run state labels = some final) : Level (load final) cores :=
  machine.run_invariant_of_meets (fun state => Level (load state) cores)
    (fun _ _ _ level decided stepped => step_level decided stepped level) level meets reached

/-- The leases on a core grow with its turns. -/
theorem run_turns {order : List Allocation} {position : Nat} {core : Allocation}
    {labels : List Label} (sorted : order.Pairwise Allocation.Before)
    (members : forall core, core ∈ order <-> core ∈ cores)
    (isCore : order[position]? = some core)
    (meets : machine.Meets (fun state label => Decided cores true state label ∧
      Granted state label) state labels)
    (reached : machine.run state labels = some final)
    (unwrapped : state.scheduler.roundRobinCursor + labels.length <= UInt64.size) :
    placed final.leases core + rounds order.length position state.scheduler.roundRobinCursor =
      placed state.leases core +
        rounds order.length position (state.scheduler.roundRobinCursor + labels.length) := by
  induction labels generalizing state with
  | nil =>
      cases reached
      rfl
  | cons label labels ih =>
      rcases machine.run_cons_iff.mp reached with ⟨next, stepped, rest⟩
      rcases meets with ⟨⟨decided, granted⟩, meets⟩
      rcases step_turn sorted members decided granted stepped with
        ⟨cursor, lease, leases, inTurn⟩
      have below := (List.getElem?_eq_some_iff.mp isCore).1
      have turn := Shares.rounds_succ below state.scheduler.roundRobinCursor
      have onCore : placed next.leases core = placed state.leases core +
          if state.scheduler.roundRobinCursor % order.length = position then 1 else 0 := by
        have sameTurn : lease.allocation = core <->
            state.scheduler.roundRobinCursor % order.length = position := by
          constructor
          · intro same
            have inOrder := (List.getElem?_eq_some_iff.mp inTurn).1
            exact (List.getElem?_inj inOrder sorted.nodup).mp (by rw [inTurn, isCore, same])
          · intro same
            rw [same, isCore] at inTurn
            exact (Option.some.inj inTurn).symm
        unfold placed
        rw [leases, List.countP_append, List.countP_singleton]
        simp only [decide_eq_true_eq, sameTurn]
      have later := ih (meets next stepped) rest
      rw [List.length_cons] at unwrapped ⊢
      have onward : state.scheduler.roundRobinCursor + (labels.length + 1) =
          state.scheduler.roundRobinCursor + 1 + labels.length := by omega
      rw [onward] at unwrapped ⊢
      by_cases last : state.scheduler.roundRobinCursor + 1 < UInt64.size
      · rw [cursor, Nat.mod_eq_of_lt last] at later
        have followed := later unwrapped
        omega
      · -- the cursor has wrapped, so this was the last acquire
        have ended : labels.length = 0 := by omega
        have wraps : next.scheduler.roundRobinCursor = 0 := by
          have full : state.scheduler.roundRobinCursor + 1 = UInt64.size := by omega
          rw [cursor, full, Nat.mod_self]
        rw [wraps, ended, Nat.add_zero] at later
        have followed := later (Nat.zero_le _)
        rw [ended, Nat.add_zero]
        omega

/-- Acquires that are decided by least load keep the loads of their cores within
one of each other, and acquires that are decided in turn give every core its
share, rounded down or up. -/
theorem policies_fair (cores : Finset Allocation) (state final : State) (labels : List Label)
    (reached : machine.run state labels = some final) :
    ((forall core, core ∈ cores -> load state core = 0) ->
      machine.Meets (Decided cores false) state labels ->
        forall first second, first ∈ cores -> second ∈ cores ->
          load final first <= load final second + 1) ∧
    (state.scheduler.roundRobinCursor + labels.length <= UInt64.size ->
      machine.Meets (fun state label => Decided cores true state label ∧ Granted state label)
        state labels ->
        forall core, core ∈ cores ->
          placed final.leases core = placed state.leases core + labels.length / cores.card ∨
          placed final.leases core =
            placed state.leases core + (labels.length + cores.card - 1) / cores.card) := by
  constructor
  · intro idle meets first second isFirst isSecond
    exact run_level (Level.of_zero idle) meets reached first second isFirst isSecond
  · intro unwrapped meets core isCore
    cases labels with
    | nil =>
        cases reached
        left
        simp
    | cons label labels =>
        cases label with
        | drop index => exact meets.1.1.elim
        | acquire request moment =>
            have isEligible := meets.1.1.2.2
            have sorted := state.scheduler.eligible_sorted request
            have card : (state.scheduler.eligible request).length = cores.card := by
              rw [← List.toFinset_card_of_nodup sorted.nodup]
              congr 1
              ext core
              rw [List.mem_toFinset, isEligible]
            rcases List.getElem?_of_mem ((isEligible core).mpr isCore) with ⟨position, atPosition⟩
            have shared := run_turns sorted isEligible atPosition meets reached unwrapped
            rw [card] at shared
            have some_ : 0 < cores.card := Finset.card_pos.mpr ⟨core, isCore⟩
            rcases Shares.rounds_between some_ position state.scheduler.roundRobinCursor
              (Label.acquire request moment :: labels).length with floor | ceil
            · left
              omega
            · right
              omega

def inTurn : Request := { Request.auto .rknnNpu with policy := .roundRobin }

/-- Three acquires of one kind. -/
def thrice (request : Request) : List Label := List.replicate 3 (.acquire request moment)

/-- Both cores can be had, nothing is remembered, and there is a lease. -/
def plain (turns : Bool) (state : State) : Label -> Bool
  | .drop _ => false
  | .acquire request moment =>
      decide (state.scheduler.remembered request moment.lookup = none) &&
        decide (SchedulerState.takesTurn request = turns) &&
        decide (state.scheduler.eligible request = [⟨0, 0⟩, ⟨0, 1⟩]) &&
        match state.scheduler.acquireLease request moment with
        | some (_, .ok _) => true
        | _ => false

theorem plain_decided {turns : Bool} {label : Label} (checked : plain turns state label = true) :
    Decided {⟨0, 0⟩, ⟨0, 1⟩} turns state label ∧ Granted state label := by
  cases label with
  | drop index => cases checked
  | acquire request moment =>
      simp only [plain, Bool.and_eq_true, decide_eq_true_eq] at checked
      rcases checked with ⟨⟨⟨unknown, turn⟩, isEligible⟩, leases⟩
      refine ⟨⟨unknown, turn, fun core => ?_⟩, ?_⟩
      · rw [isEligible]
        simp
      · split at leases
        · rename_i next lease granted
          exact ⟨next, lease, granted⟩
        · cases leases

theorem thrice_fair :
    (Exists fun final => machine.run (initial twoCores) (thrice (Request.auto .rknnNpu)) =
      some final ∧ load final ⟨0, 0⟩ <= load final ⟨0, 1⟩ + 1) ∧
    Exists fun final => machine.run (initial twoCores) (thrice inTurn) = some final ∧
      (placed final.leases ⟨0, 0⟩ = 1 ∨ placed final.leases ⟨0, 0⟩ = 2) := by
  constructor
  · have reached := machine.run_after (show (machine.run (initial twoCores)
      (thrice (Request.auto .rknnNpu))).isSome = true by decide +kernel)
    have meets : machine.Meets (fun state label => plain false state label = true)
        (initial twoCores) (thrice (Request.auto .rknnNpu)) := by decide +kernel
    refine ⟨_, reached, ?_⟩
    refine (policies_fair {⟨0, 0⟩, ⟨0, 1⟩} _ _ _ reached).1 (by decide +kernel)
      (meets.mono machine fun _ _ checked => (plain_decided checked).1) _ _ (by decide) (by decide)
  · have reached := machine.run_after (show (machine.run (initial twoCores)
      (thrice inTurn)).isSome = true by decide +kernel)
    have meets : machine.Meets (fun state label => plain true state label = true)
        (initial twoCores) (thrice inTurn) := by decide +kernel
    refine ⟨_, reached, ?_⟩
    have fair := (policies_fair {⟨0, 0⟩, ⟨0, 1⟩} _ _ _ reached).2 (by decide +kernel)
      (meets.mono machine fun _ _ checked => plain_decided checked) ⟨0, 0⟩ (by decide)
    exact fair

def keyed (request : Request) : Request := { request with affinityKey := some "stream" }

/-- A request that is remembered stays on its core, and one that names all cores
takes no turn. -/
theorem remembered_unfair :
    (machine.run (initial twoCores) (thrice (keyed (Request.auto .rknnNpu)))).map
        (fun final => (load final ⟨0, 0⟩, load final ⟨0, 1⟩)) = some (3, 0) ∧
    (machine.run (initial twoCores) (thrice (keyed inTurn))).map
        (fun final => (placed final.leases ⟨0, 0⟩, placed final.leases ⟨0, 1⟩)) = some (3, 0) ∧
    (machine.run (initial twoCores) (thrice (Request.explicit .rknnNpu 0 (.single 0)) ++
        thrice { inTurn with coreSelection := .all })).map
        (fun final => (placed final.leases ⟨0, 0⟩, placed final.leases ⟨0, 1⟩)) = some (3, 3) := by
  decide +kernel

end Leasing
end Scheduler
end DyunGu
