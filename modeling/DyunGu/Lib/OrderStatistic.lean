import Mathlib.Algebra.Order.Ring.Nat
import Mathlib.Data.List.Pairwise
import Mathlib.Order.Bounds.Defs
import Mathlib.Order.Lattice

namespace DyunGu
namespace OrderStatistic

/-!
# Order statistics and counts

The value of a rank is no larger than a bound exactly if at least so many
values are no larger than it.  So the counts below some bounds tell between
which of them the value lies.
-/

section Ranks

variable {Value : Type} [LinearOrder Value]

theorem mergeSort_sorted {Item : Type} (key : Item -> Value) (items : List Item) :
    (items.mergeSort fun first second => decide (key first <= key second)).Pairwise
      fun first second => key first <= key second := by
  refine (List.pairwise_mergeSort ?_ ?_ items).imp of_decide_eq_true
  · intro first second third below above
    rw [decide_eq_true_eq] at below above ⊢
    exact below.trans above
  · intro first second
    rw [Bool.or_eq_true, decide_eq_true_eq, decide_eq_true_eq]
    exact le_total (key first) (key second)

/-- The values from the smallest to the largest. -/
def ordered (values : List Value) : List Value :=
  values.mergeSort fun first second => decide (first <= second)

/-- The value of a rank, counted from one. -/
def smallest (values : List Value) (rank : Nat) : Option Value := (ordered values)[rank - 1]?

def countLe (values : List Value) (bound : Value) : Nat :=
  values.countP fun value => decide (value <= bound)

theorem ordered_perm (values : List Value) : (ordered values).Perm values :=
  List.mergeSort_perm values _

theorem ordered_sorted (values : List Value) : (ordered values).Pairwise (· <= ·) :=
  mergeSort_sorted id values

theorem smallest_of_rank {values : List Value} {rank : Nat} (positive : 1 <= rank)
    (within : rank <= values.length) : Exists fun value => smallest values rank = some value := by
  have bound : rank - 1 < (ordered values).length := by
    rw [(ordered_perm values).length_eq]
    omega
  exact ⟨_, List.getElem?_eq_getElem bound⟩

/-- In a sorted list the values up to a bound come first. -/
theorem sorted_le_iff {values : List Value} (sorted : values.Pairwise (· <= ·)) {index : Nat}
    {value : Value} (isAt : values[index]? = some value) (bound : Value) :
    value <= bound <-> index < countLe values bound := by
  induction values generalizing index with
  | nil => cases isAt
  | cons first values ih =>
      rcases List.pairwise_cons.mp sorted with ⟨least, others⟩
      rw [countLe, List.countP_cons]
      by_cases small : first <= bound
      · rw [decide_eq_true small, if_pos rfl]
        cases index with
        | zero =>
            cases isAt
            exact ⟨fun _ => Nat.succ_pos _, fun _ => small⟩
        | succ index => exact (ih others isAt).trans Nat.succ_lt_succ_iff.symm
      · have large : forall other, other ∈ first :: values -> ¬ other <= bound := by
          intro other member below
          rcases List.mem_cons.mp member with rfl | member
          · exact small below
          · exact small ((least other member).trans below)
        have none : values.countP (fun other => decide (other <= bound)) = 0 := by
          apply List.countP_eq_zero.mpr
          intro other member
          simpa using large other (List.mem_cons_of_mem first member)
        rw [none, decide_eq_false small]
        exact ⟨fun below => absurd below (large value (List.mem_of_getElem? isAt)),
          fun impossible => absurd impossible (Nat.not_lt_zero index)⟩

theorem smallest_le_iff {values : List Value} {rank : Nat} {value : Value} (positive : 1 <= rank)
    (isAt : smallest values rank = some value) (bound : Value) :
    value <= bound <-> rank <= countLe values bound := by
  have counted : countLe (ordered values) bound = countLe values bound :=
    (ordered_perm values).countP_eq _
  rw [sorted_le_iff (ordered_sorted values) isAt bound, counted]
  omega

/-- The first of some ascending bounds that is large enough is the least one. -/
theorem find_least {bounds : List Value} (ascending : bounds.Pairwise (· <= ·)) {value bound : Value}
    (found : bounds.find? (fun bound => decide (value <= bound)) = some bound) :
    IsLeast {bound | bound ∈ bounds ∧ value <= bound} bound := by
  rcases List.find?_eq_some_iff_append.mp found with ⟨enough, before, after, rfl, early⟩
  constructor
  · exact ⟨List.mem_append_right before List.mem_cons_self, of_decide_eq_true enough⟩
  · rintro other ⟨member, isEnough⟩
    rcases List.mem_append.mp member with isBefore | member
    · have small := early other isBefore
      rw [decide_eq_true isEnough] at small
      cases small
    · rcases List.mem_cons.mp member with rfl | isAfter
      · exact le_refl _
      · exact (List.pairwise_cons.mp (List.pairwise_append.mp ascending).2.1).1 other isAfter

theorem findIdx_le_iff {bounds : List Value} (ascending : bounds.Pairwise (· <= ·)) {index : Nat}
    {bound : Value} (isAt : bounds[index]? = some bound) (value : Value) :
    bounds.findIdx (fun bound => decide (value <= bound)) <= index <-> value <= bound := by
  rcases List.getElem?_eq_some_iff.mp isAt with ⟨within, rfl⟩
  constructor
  · intro found
    have inside := found.trans_lt within
    have enough := of_decide_eq_true (List.findIdx_getElem (w := inside))
    have inOrder : (⟨_, inside⟩ : Fin bounds.length) <= ⟨index, within⟩ := found
    exact enough.trans (ascending.rel_get_of_le inOrder)
  · intro enough
    by_contra late
    have small := List.not_of_lt_findIdx (Nat.lt_of_not_le late)
    rw [decide_eq_true enough] at small
    cases small

end Ranks

/-! ## The items with the smallest keys -/

section Keys

variable {Item Key : Type} [LinearOrder Key]

/-- The items in the order of their keys. -/
def sortByKey (key : Item -> Key) (items : List Item) : List Item :=
  items.mergeSort fun first second => decide (key first <= key second)

variable {key : Item -> Key} {items : List Item} {item : Item}

theorem sortByKey_perm (key : Item -> Key) (items : List Item) : (sortByKey key items).Perm items :=
  List.mergeSort_perm items _

theorem sortByKey_sorted (key : Item -> Key) (items : List Item) :
    (sortByKey key items).Pairwise fun first second => key first <= key second :=
  mergeSort_sorted key items

/-- How many items have a smaller key. -/
def rank (key : Item -> Key) (items : List Item) (item : Item) : Nat :=
  items.countP fun other => decide (key other < key item)

/-- With different keys the rank of an item is its position. -/
theorem rank_eq_position (distinct : (items.map key).Nodup) {before after : List Item}
    (placed : sortByKey key items = before ++ item :: after) :
    rank key items item = before.length := by
  have sorted := sortByKey_sorted key items
  have nodup := ((sortByKey_perm key items).map key).nodup_iff.mpr distinct
  rw [placed] at sorted nodup
  rw [rank, ← (sortByKey_perm key items).countP_eq, placed, List.countP_append, List.countP_cons]
  rcases List.pairwise_append.mp sorted with ⟨_, later, cross⟩
  have first : before.countP (fun other => decide (key other < key item)) = before.length := by
    refine List.countP_eq_length.mpr fun other member => decide_eq_true ?_
    refine lt_of_le_of_ne (cross other member item List.mem_cons_self) fun same => ?_
    rw [List.map_append, List.map_cons] at nodup
    exact (List.nodup_append.mp nodup).2.2 _ (List.mem_map_of_mem member) _ List.mem_cons_self same
  have last : after.countP (fun other => decide (key other < key item)) = 0 := by
    refine List.countP_eq_zero.mpr fun other member smaller => ?_
    exact absurd (of_decide_eq_true smaller)
      (not_lt_of_ge ((List.pairwise_cons.mp later).1 other member))
  rw [first, last]
  simp

/-- An item stays among the first ones exactly if fewer are before it. -/
theorem mem_take_sortByKey (distinct : (items.map key).Nodup) (member : item ∈ items) (count : Nat) :
    item ∈ (sortByKey key items).take count <-> rank key items item < count := by
  have nodup := ((sortByKey_perm key items).map key).nodup_iff.mpr distinct
  rcases List.append_of_mem ((sortByKey_perm key items).mem_iff.mpr member) with
    ⟨before, after, placed⟩
  rw [rank_eq_position distinct placed, placed]
  rw [placed, List.map_append, List.map_cons] at nodup
  constructor
  · intro kept
    by_contra early
    rw [List.take_append_of_le_length (Nat.le_of_not_lt early)] at kept
    exact (List.nodup_append.mp nodup).2.2 _ (List.mem_map_of_mem (List.mem_of_mem_take kept)) _
      List.mem_cons_self rfl
  · intro early
    refine List.mem_of_getElem? (i := before.length) ?_
    rw [List.getElem?_take_of_lt early, List.getElem?_append_right (Nat.le_refl _), Nat.sub_self]
    rfl

end Keys

/-! ## Tallies -/

section Tallies

variable {Value : Type}

/-- How many values fall on each of the first indices. -/
def tally (index : Value -> Nat) (size : Nat) (values : List Value) : List Nat :=
  (List.range size).map fun slot => values.countP fun value => decide (index value = slot)

@[simp] theorem tally_length (index : Value -> Nat) (size : Nat) (values : List Value) :
    (tally index size values).length = size := by
  rw [tally, List.length_map, List.length_range]

theorem tally_nil (index : Value -> Nat) (size : Nat) :
    tally index size [] = List.replicate size 0 := by
  simp [tally, List.map_const']

/-- What falls below a slot falls on one of the slots before it. -/
theorem sum_tally (index : Value -> Nat) (size : Nat) (values : List Value) :
    (tally index size values).sum = values.countP fun value => decide (index value < size) := by
  induction size with
  | zero => simp [tally]
  | succ size ih =>
      have last : tally index (size + 1) values =
          tally index size values ++ [values.countP fun value => decide (index value = size)] := by
        rw [tally, List.range_succ, List.map_append]
        rfl
      rw [last, List.sum_append, ih, List.sum_singleton]
      clear last ih
      induction values with
      | nil => rfl
      | cons value values ih =>
          simp only [List.countP_cons, decide_eq_true_eq]
          rw [← ih]
          split_ifs <;> omega

theorem tally_le (index : Value -> Nat) (size : Nat) (values : List Value) (slot : Nat) :
    (tally index size values).getD slot 0 <= values.length := by
  rw [List.getD_eq_getElem?_getD, tally, List.getElem?_map]
  cases (List.range size)[slot]? with
  | none => exact Nat.zero_le _
  | some slot => exact List.countP_le_length

theorem take_tally (index : Value -> Nat) {size count : Nat} (within : count <= size)
    (values : List Value) :
    (tally index size values).take count = tally index count values := by
  rw [tally, ← List.map_take, List.take_range, Nat.min_eq_left within]
  rfl

/-- One more value adds one to its slot. -/
theorem tally_append (index : Value -> Nat) (size : Nat) (values : List Value) (value : Value) :
    tally index size (values ++ [value]) =
      (tally index size values).set (index value)
        ((tally index size values).getD (index value) 0 + 1) := by
  apply List.ext_getElem
  · simp
  · intro slot bound _
    rw [tally_length] at bound
    rw [List.getElem_set]
    by_cases same : index value = slot
    · subst same
      simp [tally, List.getD, bound]
    · simp [tally, same]

end Tallies

end OrderStatistic
end DyunGu
