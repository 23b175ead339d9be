import Mathlib.Data.List.Nodup
import Mathlib.Data.List.Perm.Subperm
import Mathlib.Data.List.Range
import Mathlib.Data.Nat.Find
import Mathlib.Logic.Relation

namespace DyunGu
namespace Flood

open Relation

/-!
# Searches from one cell

A search takes up cells from a queue and puts the cells beside them into it.
What has been taken up and what is queued is described by the cells that the
search still owes a look at, so that the rules below follow the steps of a loop.
At the end nothing is owed and the search has all cells that can be reached.
-/

section Search

variable {Cell : Type} {Adj : Cell -> Cell -> Prop} {start : Cell} {queue points : List Cell}
    {owed : Cell -> Prop}

/-- The cells found so far, some of which have been taken up. -/
structure Frontier (Adj : Cell -> Cell -> Prop) (start : Cell) (queue points : List Cell)
    (owed : Cell -> Prop) : Prop where
  nodup : (points ++ queue).Nodup
  started : start ∈ points ++ queue
  reached : forall cell, cell ∈ points ++ queue -> ReflTransGen Adj start cell
  closed : forall cell, cell ∈ points -> forall next, Adj cell next ->
    next ∈ points ++ queue ∨ owed next

theorem Frontier.begin (Adj : Cell -> Cell -> Prop) (start : Cell) :
    Frontier Adj start [start] [] fun _ => False where
  nodup := List.nodup_singleton start
  started := List.mem_singleton_self start
  reached := by
    intro cell member
    rw [List.nil_append, List.mem_singleton] at member
    rw [member]
  closed := fun _ member => nomatch member

/-- A cell that is taken up is owed a look at the cells beside it. -/
theorem Frontier.pop {cell : Cell} (frontier : Frontier Adj start (cell :: queue) points owed)
    (settled : forall next, ¬owed next) :
    Frontier Adj start queue (points ++ [cell]) (Adj cell) := by
  have same : points ++ [cell] ++ queue = points ++ cell :: queue := by
    rw [List.append_assoc, List.singleton_append]
  refine ⟨?_, ?_, ?_, ?_⟩
  · rw [same]
    exact frontier.nodup
  · rw [same]
    exact frontier.started
  · rw [same]
    exact frontier.reached
  · rw [same]
    intro other member next adjacent
    rcases List.mem_append.mp member with old | new
    · exact Or.inl ((frontier.closed other old next adjacent).resolve_right (settled next))
    · cases List.mem_singleton.mp new
      exact Or.inr adjacent

/-- A look at some cells leaves the others owed. -/
theorem Frontier.look {others : Cell -> Prop} (frontier : Frontier Adj start queue points owed)
    (looked : forall next, ReflTransGen Adj start next -> owed next ->
      next ∈ points ++ queue ∨ others next) :
    Frontier Adj start queue points others where
  nodup := frontier.nodup
  started := frontier.started
  reached := frontier.reached
  closed := by
    intro cell member next adjacent
    rcases frontier.closed cell member next adjacent with found | isOwed
    · exact Or.inl found
    · exact looked next
        ((frontier.reached cell (List.mem_append_left queue member)).tail adjacent) isOwed

/-- A new cell is put into the queue. -/
theorem Frontier.push {cell : Cell} (frontier : Frontier Adj start queue points owed)
    (fresh : cell ∉ points ++ queue) (reached : ReflTransGen Adj start cell) :
    Frontier Adj start (queue ++ [cell]) points owed := by
  have same : points ++ (queue ++ [cell]) = points ++ queue ++ [cell] :=
    (List.append_assoc points queue [cell]).symm
  refine ⟨?_, ?_, ?_, ?_⟩
  · rw [same]
    exact List.nodup_append_comm.mpr (List.nodup_cons.mpr ⟨fresh, frontier.nodup⟩)
  · rw [same]
    exact List.mem_append_left _ frontier.started
  · rw [same]
    intro other member
    rcases List.mem_append.mp member with old | new
    · exact frontier.reached other old
    · rw [List.mem_singleton.mp new]
      exact reached
  · rw [same]
    intro other member next adjacent
    exact (frontier.closed other member next adjacent).imp_left
      fun found => List.mem_append_left _ found

/-- A search with an empty queue has found the cells that can be reached. -/
theorem Frontier.done (frontier : Frontier Adj start [] points owed)
    (settled : forall next, ¬owed next) (cell : Cell) :
    cell ∈ points <-> ReflTransGen Adj start cell := by
  have closed := frontier.closed
  have started := frontier.started
  have reached := frontier.reached
  rw [List.append_nil] at started reached closed
  constructor
  · exact reached cell
  · intro path
    induction path with
    | refl => exact started
    | tail _ adjacent ih => exact (closed _ ih _ adjacent).resolve_right (settled _)

end Search

/-!
## Components of numbered cells

The cells of a component are found from its smallest one when the cells are gone
through in order.
-/

section Components

variable {Inside : Nat -> Prop} {Adj : Nat -> Nat -> Prop}

/-- The cells that can be reached from each other. -/
def Joined (Adj : Nat -> Nat -> Prop) : Nat -> Nat -> Prop := ReflTransGen Adj

/-- The smallest cell of its component. -/
def IsLeader (Inside : Nat -> Prop) (Adj : Nat -> Nat -> Prop) (cell : Nat) : Prop :=
  Inside cell ∧ forall other, Joined Adj cell other -> cell <= other

theorem Joined.symm (symmetric : forall first second, Adj first second -> Adj second first)
    {first second : Nat} (joined : Joined Adj first second) : Joined Adj second first :=
  have : Std.Symm Adj := ⟨symmetric⟩
  (ReflTransGen.stdSymm : Std.Symm (ReflTransGen Adj)).symm first second joined

/-- What is kept between adjacent cells is kept throughout a component. -/
theorem Joined.keep {Kept : Nat -> Prop}
    (keeps : forall first second, Adj first second -> Kept first -> Kept second)
    {first second : Nat} (joined : Joined Adj first second) (kept : Kept first) : Kept second := by
  induction joined with
  | refl => exact kept
  | tail _ adjacent ih => exact keeps _ _ adjacent ih

section Lists

open Classical

/-- The smallest cells of the components below a bound, in order. -/
noncomputable def leaders (Inside : Nat -> Prop) (Adj : Nat -> Nat -> Prop) (bound : Nat) :
    List Nat :=
  (List.range bound).filter fun cell => decide (IsLeader Inside Adj cell)

/-- The component of a cell, in order. -/
noncomputable def component (Adj : Nat -> Nat -> Prop) (bound cell : Nat) : List Nat :=
  (List.range bound).filter fun other => decide (Joined Adj cell other)

theorem mem_leaders {bound cell : Nat} :
    cell ∈ leaders Inside Adj bound <-> cell < bound ∧ IsLeader Inside Adj cell := by
  rw [leaders, List.mem_filter, List.mem_range, decide_eq_true_iff]

theorem mem_component {bound cell other : Nat} :
    other ∈ component Adj bound cell <-> other < bound ∧ Joined Adj cell other := by
  rw [component, List.mem_filter, List.mem_range, decide_eq_true_iff]

theorem leaders_sorted (Inside : Nat -> Prop) (Adj : Nat -> Nat -> Prop) (bound : Nat) :
    (leaders Inside Adj bound).Pairwise (· < ·) := List.pairwise_lt_range.filter _

theorem component_nodup (Adj : Nat -> Nat -> Prop) (bound cell : Nat) :
    (component Adj bound cell).Nodup := List.nodup_range.filter _

theorem leaders_succ_of_leader {bound : Nat} (isLeader : IsLeader Inside Adj bound) :
    leaders Inside Adj (bound + 1) = leaders Inside Adj bound ++ [bound] := by
  rw [leaders, List.range_succ, List.filter_append, List.filter_singleton,
    decide_eq_true isLeader]
  rfl

theorem leaders_succ_of_not {bound : Nat} (other : ¬IsLeader Inside Adj bound) :
    leaders Inside Adj (bound + 1) = leaders Inside Adj bound := by
  rw [leaders, List.range_succ, List.filter_append, List.filter_singleton,
    decide_eq_false other,
    cond_false, List.append_nil]
  rfl

theorem leaders_prefix {first second : Nat} (le : first <= second) :
    leaders Inside Adj first <+: leaders Inside Adj second := by
  induction second, le using Nat.le_induction with
  | base => exact List.prefix_rfl
  | succ second _ ih =>
      by_cases isLeader : IsLeader Inside Adj second
      · rw [leaders_succ_of_leader isLeader]
        exact ih.trans (List.prefix_append _ _)
      · rw [leaders_succ_of_not isLeader]
        exact ih

end Lists

/-- Each cell inside is in the component of a leader that is not larger. -/
theorem exists_leader (symmetric : forall first second, Adj first second -> Adj second first)
    (inside : forall first second, Adj first second -> Inside first -> Inside second) {cell : Nat}
    (isInside : Inside cell) : Exists fun leader =>
      IsLeader Inside Adj leader ∧ Joined Adj leader cell ∧ leader <= cell := by
  classical
  have some : Exists fun other => Joined Adj cell other := ⟨cell, ReflTransGen.refl⟩
  have joined : Joined Adj cell (Nat.find some) := Nat.find_spec some
  refine ⟨Nat.find some, ⟨joined.keep inside isInside, ?_⟩, joined.symm symmetric,
    Nat.find_min' some ReflTransGen.refl⟩
  intro other further
  exact Nat.find_min' some (joined.trans further)

/-- A component has only one leader. -/
theorem leader_unique (symmetric : forall first second, Adj first second -> Adj second first)
    {first second cell : Nat} (isFirst : IsLeader Inside Adj first)
    (isSecond : IsLeader Inside Adj second) (fromFirst : Joined Adj first cell)
    (fromSecond : Joined Adj second cell) : first = second :=
  Nat.le_antisymm (isFirst.2 second (fromFirst.trans (fromSecond.symm symmetric)))
    (isSecond.2 first (fromSecond.trans (fromFirst.symm symmetric)))

/-- The cells of the components whose leaders are below a bound. -/
def Earlier (Inside : Nat -> Prop) (Adj : Nat -> Nat -> Prop) (bound cell : Nat) : Prop :=
  Exists fun leader => leader < bound ∧ IsLeader Inside Adj leader ∧ Joined Adj leader cell

theorem Earlier.keep {bound first second : Nat} (adjacent : Adj first second)
    (earlier : Earlier Inside Adj bound first) : Earlier Inside Adj bound second := by
  rcases earlier with ⟨leader, below, isLeader, joined⟩
  exact ⟨leader, below, isLeader, joined.tail adjacent⟩

/-- The component of a leader is in no earlier one. -/
theorem IsLeader.apart (symmetric : forall first second, Adj first second -> Adj second first)
    {leader cell : Nat} (isLeader : IsLeader Inside Adj leader) (joined : Joined Adj leader cell) :
    ¬Earlier Inside Adj leader cell := by
  rintro ⟨other, below, _, fromOther⟩
  exact Nat.not_le.mpr below
    (isLeader.2 other (joined.trans (fromOther.symm symmetric)))

/-- A cell inside that is in no earlier component starts a new one. -/
theorem isLeader_iff (symmetric : forall first second, Adj first second -> Adj second first)
    (inside : forall first second, Adj first second -> Inside first -> Inside second) {cell : Nat} :
    IsLeader Inside Adj cell <-> Inside cell ∧ ¬Earlier Inside Adj cell cell := by
  constructor
  · intro isLeader
    exact ⟨isLeader.1, isLeader.apart symmetric ReflTransGen.refl⟩
  · rintro ⟨isInside, new⟩
    rcases exists_leader symmetric inside isInside with ⟨leader, isLeader, joined, atMost⟩
    rcases Nat.lt_or_eq_of_le atMost with below | same
    · exact absurd ⟨leader, below, isLeader, joined⟩ new
    · rw [← same]
      exact isLeader

theorem earlier_succ_of_leader {bound cell : Nat} (isLeader : IsLeader Inside Adj bound) :
    Earlier Inside Adj (bound + 1) cell <->
      Earlier Inside Adj bound cell ∨ Joined Adj bound cell := by
  constructor
  · rintro ⟨leader, below, isFirst, joined⟩
    rcases Nat.lt_or_eq_of_le (Nat.le_of_lt_succ below) with early | same
    · exact Or.inl ⟨leader, early, isFirst, joined⟩
    · rw [← same]
      exact Or.inr joined
  · rintro (⟨leader, below, isFirst, joined⟩ | joined)
    · exact ⟨leader, below.trans (Nat.lt_succ_self bound), isFirst, joined⟩
    · exact ⟨bound, Nat.lt_succ_self bound, isLeader, joined⟩

theorem earlier_succ_of_not {bound cell : Nat} (other : ¬IsLeader Inside Adj bound) :
    Earlier Inside Adj (bound + 1) cell <-> Earlier Inside Adj bound cell := by
  constructor
  · rintro ⟨leader, below, isFirst, joined⟩
    rcases Nat.lt_or_eq_of_le (Nat.le_of_lt_succ below) with early | same
    · exact ⟨leader, early, isFirst, joined⟩
    · exact absurd (same ▸ isFirst) other
  · rintro ⟨leader, below, isFirst, joined⟩
    exact ⟨leader, below.trans (Nat.lt_succ_self bound), isFirst, joined⟩

/-- A search from a leader finds the cells of its component once each. -/
theorem Frontier.component {start bound : Nat} {points : List Nat} {owed : Nat -> Prop}
    (frontier : Frontier Adj start [] points owed) (settled : forall next, ¬owed next)
    (bounded : forall cell, Joined Adj start cell -> cell < bound) :
    points.Perm (component Adj bound start) := by
  have nodup := frontier.nodup
  rw [List.append_nil] at nodup
  refine (List.perm_ext_iff_of_nodup nodup (component_nodup Adj bound start)).mpr ?_
  intro cell
  rw [mem_component, frontier.done settled]
  exact ⟨fun joined => ⟨bounded cell joined, joined⟩, And.right⟩

/-- A search has never taken up more cells than the component has. -/
theorem Frontier.length_le {start bound : Nat} {queue points : List Nat} {owed : Nat -> Prop}
    (frontier : Frontier Adj start queue points owed)
    (bounded : forall cell, Joined Adj start cell -> cell < bound) :
    points.length <= (Flood.component Adj bound start).length := by
  have nodup := (List.nodup_append.mp frontier.nodup).1
  refine (nodup.subperm ?_).length_le
  intro cell member
  have joined := frontier.reached cell (List.mem_append_left queue member)
  exact mem_component.mpr ⟨bounded cell joined, joined⟩

end Components

end Flood
end DyunGu
