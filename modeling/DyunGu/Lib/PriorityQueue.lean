import Mathlib.Data.List.Sort
import Mathlib.Data.Multiset.Basic
import Mathlib.Order.Defs.LinearOrder

namespace DyunGu

/-!
# Priority queues

A priority queue holds items and gives out one with the greatest key.  Which
one it gives when several have that key is left open, so that a program proved
with these laws is right for every implementation that meets them.
-/

/-- The operations of a priority queue and what they do to the items held. -/
structure PriorityQueue {Item Key : Type} [LinearOrder Key] (key : Item -> Key) where
  Queue : Type
  items : Queue -> Multiset Item
  empty : Queue
  len : Queue -> Nat
  push : Queue -> Item -> Queue
  peek : Queue -> Option Item
  pop : Queue -> Option Item × Queue
  intoSortedVec : Queue -> List Item
  items_empty : items empty = 0
  len_eq : forall queue, len queue = (items queue).card
  items_push : forall queue item, items (push queue item) = item ::ₘ items queue
  peek_none : forall queue, peek queue = none -> items queue = 0
  peek_some : forall queue greatest, peek queue = some greatest ->
    greatest ∈ items queue ∧ forall item, item ∈ items queue -> key item <= key greatest
  pop_none : forall queue, (pop queue).1 = none -> items queue = 0
  pop_some : forall queue greatest, (pop queue).1 = some greatest ->
    greatest ::ₘ items (pop queue).2 = items queue ∧
      forall item, item ∈ items queue -> key item <= key greatest
  items_sorted : forall queue, (intoSortedVec queue : Multiset Item) = items queue
  sorted : forall queue, (intoSortedVec queue).Pairwise fun first second =>
    key first <= key second

namespace PriorityQueue

variable {Item Key : Type} [LinearOrder Key] {key : Item -> Key}

/-- A queue that shows nothing is empty, so one that is not empty gives an
item that no other one is above. -/
theorem pop_greatest (heap : PriorityQueue key) {queue : heap.Queue} {shown : Item}
    (peeks : heap.peek queue = some shown) : Exists fun greatest =>
      greatest ::ₘ heap.items (heap.pop queue).2 = heap.items queue ∧
        key greatest = key shown := by
  rcases heap.peek_some queue shown peeks with ⟨held, above⟩
  cases popped : (heap.pop queue).1 with
  | none =>
      rw [heap.pop_none queue popped] at held
      exact absurd held (Multiset.notMem_zero shown)
  | some greatest =>
      rcases heap.pop_some queue greatest popped with ⟨split, most⟩
      have isHeld : greatest ∈ heap.items queue := by
        rw [← split]
        exact Multiset.mem_cons_self greatest _
      exact ⟨greatest, split, le_antisymm (above greatest isHeld) (most shown held)⟩

/-! ## Queues as lists in order -/

/-- The order of a list whose head has the greatest key. -/
def Descending (key : Item -> Key) (first second : Item) : Prop := key second <= key first

instance (key : Item -> Key) : DecidableRel (Descending key) :=
  fun first second => inferInstanceAs (Decidable (key second <= key first))

instance (key : Item -> Key) : IsTrans Item (Descending key) :=
  ⟨fun _ _ _ first second => le_trans second first⟩

instance (key : Item -> Key) : Std.Total (Descending key) :=
  ⟨fun first second => le_total (key second) (key first)⟩

theorem Descending.head {items : List Item} {greatest : Item}
    (ordered : items.Pairwise (Descending key)) (first : items.head? = some greatest) :
    greatest :: items.tail = items ∧ forall item, item ∈ items -> key item <= key greatest := by
  rcases List.head?_eq_some_iff.mp first with ⟨others, same⟩
  subst same
  refine ⟨rfl, ?_⟩
  intro item held
  rcases List.mem_cons.mp held with same | other
  · rw [same]
  · exact (List.pairwise_cons.mp ordered).1 item other

/-- The queue that keeps its items in order. -/
def ofLists (key : Item -> Key) : PriorityQueue key where
  Queue := { items : List Item // items.Pairwise (Descending key) }
  items := fun queue => queue.val
  empty := ⟨[], List.Pairwise.nil⟩
  len := fun queue => queue.val.length
  push := fun queue item =>
    ⟨queue.val.orderedInsert (Descending key) item, queue.property.orderedInsert item queue.val⟩
  peek := fun queue => queue.val.head?
  pop := fun queue => (queue.val.head?, ⟨queue.val.tail, queue.property.tail⟩)
  intoSortedVec := fun queue => queue.val.reverse
  items_empty := rfl
  len_eq := fun queue => (Multiset.coe_card queue.val).symm
  items_push := fun queue item =>
    Multiset.coe_eq_coe.mpr (List.perm_orderedInsert (Descending key) item queue.val)
  peek_none := fun queue shows => by
    rw [List.head?_eq_none_iff.mp shows]
    rfl
  peek_some := fun queue _ shows =>
    ⟨List.mem_of_head? shows, (Descending.head queue.property shows).2⟩
  pop_none := fun queue pops => by
    rw [List.head?_eq_none_iff.mp pops]
    rfl
  pop_some := fun queue _ pops => by
    rcases Descending.head queue.property pops with ⟨split, most⟩
    exact ⟨congrArg Multiset.ofList split, most⟩
  items_sorted := fun queue => Multiset.coe_eq_coe.mpr queue.val.reverse_perm
  sorted := fun queue => List.pairwise_reverse.mpr queue.property

end PriorityQueue
end DyunGu
