import Mathlib.Data.List.Basic
import Mathlib.Order.Basic

namespace DyunGu
namespace Slices

/-!
# Reading and writing parts of a buffer

A part of a buffer is read or overwritten only if all of it is there.  After a
number of writes each position has the value of the last write that covers it,
or what it had before.
-/

variable {Item : Type}

/-- `count` items from `start` on. -/
def slice (items : List Item) (start count : Nat) : Option (List Item) :=
  if start + count <= items.length then some ((items.drop start).take count) else none

/-- The items with a piece in place of as many items from `start` on. -/
def splice (items : List Item) (start : Nat) (piece : List Item) : Option (List Item) :=
  if start + piece.length <= items.length then
    some (items.take start ++ (piece ++ items.drop (start + piece.length)))
  else none

theorem slice_of_le {items : List Item} {start count : Nat} (fits : start + count <= items.length) :
    slice items start count = some ((items.drop start).take count) := if_pos fits

theorem slice_length {items : List Item} {start count : Nat} (fits : start + count <= items.length) :
    ((items.drop start).take count).length = count := by
  rw [List.length_take, List.length_drop]
  omega

theorem slice_getElem? (items : List Item) (start : Nat) {count offset : Nat}
    (within : offset < count) :
    ((items.drop start).take count)[offset]? = items[start + offset]? := by
  rw [List.getElem?_take_of_lt within, List.getElem?_drop]

/-- A piece and the position of its first item. -/
structure Write (Item : Type) where
  start : Nat
  piece : List Item

namespace Write

def stop (write : Write Item) : Nat := write.start + write.piece.length

def Covers (write : Write Item) (position : Nat) : Prop :=
  write.start <= position ∧ position < write.stop

instance (write : Write Item) (position : Nat) : Decidable (write.Covers position) :=
  inferInstanceAs (Decidable (_ ∧ _))

/-- No position is covered by both. -/
def Apart (first second : Write Item) : Prop :=
  forall position, first.Covers position -> ¬ second.Covers position

def perform (items : List Item) (write : Write Item) : Option (List Item) :=
  splice items write.start write.piece

/-- What the items are after a write that fits. -/
def result (items : List Item) (write : Write Item) : List Item :=
  items.take write.start ++ (write.piece ++ items.drop write.stop)

theorem perform_of_le {items : List Item} {write : Write Item} (fits : write.stop <= items.length) :
    write.perform items = some (write.result items) := if_pos fits

theorem result_length {items : List Item} {write : Write Item} (fits : write.stop <= items.length) :
    (write.result items).length = items.length := by
  rw [stop] at fits
  simp only [result, List.length_append, List.length_take, List.length_drop, stop]
  omega

theorem result_covered {items : List Item} {write : Write Item} (fits : write.stop <= items.length)
    {position : Nat} (covered : write.Covers position) :
    (write.result items)[position]? = write.piece[position - write.start]? := by
  rcases covered with ⟨after, before⟩
  rw [stop] at fits before
  have skipped : (items.take write.start).length = write.start := by
    rw [List.length_take]
    omega
  rw [result, List.getElem?_append_right (skipped.trans_le after), skipped,
    List.getElem?_append_left (by omega)]

theorem result_uncovered {items : List Item} {write : Write Item} (fits : write.stop <= items.length)
    {position : Nat} (uncovered : ¬ write.Covers position) :
    (write.result items)[position]? = items[position]? := by
  have skipped : (items.take write.start).length = write.start := by
    rw [List.length_take]
    exact Nat.min_eq_left (Nat.le_trans (Nat.le_add_right _ _) fits)
  rw [result]
  by_cases before : position < write.start
  · rw [List.getElem?_append_left (skipped.symm ▸ before), List.getElem?_take_of_lt before]
  · have after : write.stop <= position :=
      Nat.le_of_not_lt fun inside => uncovered ⟨Nat.le_of_not_lt before, inside⟩
    have isStop : write.stop = write.start + write.piece.length := rfl
    rw [List.getElem?_append_right (by omega), skipped, List.getElem?_append_right (by omega),
      List.getElem?_drop]
    congr 1
    omega

end Write

/-! ## Several writes -/

def performAll (items : List Item) (writes : List (Write Item)) : Option (List Item) :=
  writes.foldlM Write.perform items

/-- Each position has what the last write over it put there. -/
structure Written (items : List Item) (writes : List (Write Item)) (result : List Item) : Prop where
  length : result.length = items.length
  uncovered : forall position, (forall write, write ∈ writes -> ¬ write.Covers position) ->
    result[position]? = items[position]?
  last : forall before write after, writes = before ++ write :: after ->
    forall position, write.Covers position ->
      (forall later, later ∈ after -> ¬ later.Covers position) ->
        result[position]? = write.piece[position - write.start]?

theorem performAll_written {items : List Item} {writes : List (Write Item)}
    (fits : forall write, write ∈ writes -> write.stop <= items.length) :
    Exists fun result => performAll items writes = some result ∧ Written items writes result := by
  induction writes generalizing items with
  | nil =>
      refine ⟨items, rfl, rfl, fun _ _ => rfl, ?_⟩
      intro before write after split
      cases before <;> cases split
  | cons write writes ih =>
      rcases List.forall_mem_cons.mp fits with ⟨first, others⟩
      have length := Write.result_length first
      have rest : forall later, later ∈ writes -> later.stop <= (write.result items).length := by
        rwa [length]
      rcases ih rest with ⟨result, performed, written⟩
      refine ⟨result, ?_, written.length.trans length, ?_, ?_⟩
      · rw [performAll, List.foldlM_cons, Write.perform_of_le first]
        exact performed
      · intro position none
        rcases List.forall_mem_cons.mp none with ⟨notFirst, notOthers⟩
        rw [written.uncovered position notOthers, Write.result_uncovered first notFirst]
      · intro before last after split position covers notLater
        cases before with
        | nil =>
            cases split
            rw [written.uncovered position notLater, Write.result_covered first covers]
        | cons early before =>
            cases split
            exact written.last before last after rfl position covers notLater

/-- Among writes that do not touch each other, each leaves its piece. -/
theorem Written.apart {items result : List Item} {writes : List (Write Item)}
    (written : Written items writes result) (apart : writes.Pairwise Write.Apart)
    {write : Write Item} (member : write ∈ writes) {position : Nat} (covers : write.Covers position) :
    result[position]? = write.piece[position - write.start]? := by
  rcases List.append_of_mem member with ⟨before, after, rfl⟩
  refine written.last before write after rfl position covers ?_
  intro later isLater
  exact (List.pairwise_cons.mp (List.pairwise_append.mp apart).2.1).1 later isLater position covers

/-! ## Pieces next to each other -/

/-- The writes of pieces one after the other. -/
def adjacent (start : Nat) : List (List Item) -> List (Write Item)
  | [] => []
  | piece :: pieces => ⟨start, piece⟩ :: adjacent (start + piece.length) pieces

/-- They fill the buffer from the start on. -/
theorem performAll_adjacent (done : List Item) {pieces : List (List Item)} {rest : List Item}
    (fits : pieces.flatten.length <= rest.length) :
    performAll (done ++ rest) (adjacent done.length pieces) =
      some (done ++ (pieces.flatten ++ rest.drop pieces.flatten.length)) := by
  induction pieces generalizing done rest with
  | nil => rfl
  | cons piece pieces ih =>
      rw [List.flatten_cons, List.length_append] at fits
      have stop : (⟨done.length, piece⟩ : Write Item).stop <= (done ++ rest).length := by
        rw [Write.stop, List.length_append]
        exact Nat.add_le_add_left (Nat.le_trans (Nat.le_add_right _ _) fits) _
      have after : pieces.flatten.length <= (rest.drop piece.length).length := by
        rw [List.length_drop]
        omega
      have written : Write.result (done ++ rest) ⟨done.length, piece⟩ =
          (done ++ piece) ++ rest.drop piece.length := by
        rw [Write.result, Write.stop, List.take_left, List.drop_append, List.append_assoc,
          Nat.add_sub_cancel_left, List.drop_eq_nil_of_le (Nat.le_add_right _ _), List.nil_append]
      have next := ih (done ++ piece) after
      rw [List.length_append] at next
      rw [adjacent, performAll, List.foldlM_cons, Write.perform_of_le stop, written]
      refine next.trans ?_
      rw [List.flatten_cons, List.length_append, List.drop_drop, List.append_assoc,
        List.append_assoc]

/-- Items in order of their positions are written next to each other. -/
theorem adjacent_map {Place : Type} {items : List Place} {position : Place -> Nat}
    {piece : Place -> List Item} {size base : Nat}
    (inOrder : items.map position = List.range' base items.length)
    (sized : forall item, item ∈ items -> (piece item).length = size) :
    adjacent (base * size) (items.map piece) =
        items.map (fun item => ⟨position item * size, piece item⟩) ∧
      (items.map piece).flatten.length = items.length * size := by
  induction items generalizing base with
  | nil => exact ⟨rfl, (Nat.zero_mul size).symm⟩
  | cons item items ih =>
      rw [List.map_cons, List.length_cons, List.range'_succ, List.cons.injEq] at inOrder
      rcases inOrder with ⟨isBase, inOrder⟩
      rcases List.forall_mem_cons.mp sized with ⟨first, others⟩
      rcases ih inOrder others with ⟨isAdjacent, isLength⟩
      rw [List.map_cons, adjacent, first, ← Nat.succ_mul, isAdjacent, List.map_cons, isBase,
        List.flatten_cons, List.length_append, isLength, first, List.length_cons, Nat.succ_mul,
        Nat.add_comm]
      exact ⟨rfl, rfl⟩

/-- Counting by rows. -/
theorem range_mul (count size : Nat) :
    (List.range count).flatMap (fun outer => (List.range size).map (outer * size + ·)) =
      List.range (count * size) := by
  induction count with
  | zero => simp
  | succ count ih =>
      rw [List.range_succ, List.flatMap_append, ih, Nat.succ_mul, List.range_add,
        List.flatMap_singleton]

/-! ## Loops -/

/-- A loop finishes if no round panics in a state that the rounds before it may
leave. -/
theorem foldlM_some {State Item : Type} (inv : State -> Prop) {step : State -> Item -> Option State}
    {items : List Item} (each : forall item, item ∈ items -> forall state, inv state ->
      Exists fun next => step state item = some next ∧ inv next) {state : State} (holds : inv state) :
    Exists fun final => items.foldlM step state = some final ∧ inv final := by
  induction items generalizing state with
  | nil => exact ⟨state, rfl, holds⟩
  | cons item items ih =>
      rcases List.forall_mem_cons.mp each with ⟨first, others⟩
      rcases first state holds with ⟨next, stepped, nextHolds⟩
      rcases ih others nextHolds with ⟨final, run, finalHolds⟩
      refine ⟨final, ?_, finalHolds⟩
      rw [List.foldlM_cons, stepped]
      exact run

/-- A loop does not finish if one round panics in every state. -/
theorem foldlM_none {State Item : Type} {step : State -> Item -> Option State} {items : List Item}
    {item : Item} (member : item ∈ items) (panics : forall state, step state item = none)
    (state : State) : items.foldlM step state = none := by
  induction items generalizing state with
  | nil => cases member
  | cons first items ih =>
      rw [List.foldlM_cons]
      rcases List.mem_cons.mp member with rfl | later
      · rw [panics]
        rfl
      · cases step state first with
        | none => rfl
        | some next => exact ih later next

/-- A loop depends only on what its rounds do to the items. -/
theorem foldlM_congr {State Item : Type} {M : Type -> Type} [Monad M]
    {step other : State -> Item -> M State} {items : List Item}
    (same : forall item, item ∈ items -> forall state, step state item = other state item)
    (state : State) : items.foldlM step state = items.foldlM other state := by
  induction items generalizing state with
  | nil => rfl
  | cons item items ih =>
      rcases List.forall_mem_cons.mp same with ⟨first, others⟩
      rw [List.foldlM_cons, List.foldlM_cons, first]
      congr 1
      funext next
      exact ih others next

/-- A loop that finishes does so too when each of its rounds may do more. -/
theorem foldlM_mono {State Item : Type} {step other : State -> Item -> Option State}
    (broader : forall state item next, step state item = some next ->
      other state item = some next) {items : List Item} {state final : State}
    (run : items.foldlM step state = some final) : items.foldlM other state = some final := by
  induction items generalizing state with
  | nil => exact run
  | cons item items ih =>
      rw [List.foldlM_cons] at run ⊢
      rcases Option.bind_eq_some_iff.mp run with ⟨next, stepped, rest⟩
      rw [broader state item next stepped]
      exact ih rest

/-- A loop within a loop is a loop over all its rounds. -/
theorem foldlM_flatMap {State Outer Inner : Type} {M : Type -> Type} [Monad M] [LawfulMonad M]
    (step : State -> Inner -> M State) (rounds : Outer -> List Inner) (items : List Outer)
    (state : State) :
    (items.flatMap rounds).foldlM step state =
      items.foldlM (fun state item => (rounds item).foldlM step state) state := by
  induction items generalizing state with
  | nil => rfl
  | cons item items ih =>
      rw [List.flatMap_cons, List.foldlM_append, List.foldlM_cons]
      congr 1
      funext next
      exact ih next

end Slices
end DyunGu
