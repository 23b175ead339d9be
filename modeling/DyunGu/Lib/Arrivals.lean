import Mathlib.Data.List.Basic

namespace DyunGu

/-!
# Queues that are kept in rows

A queue of items with keys may be kept as one row of items for each key and
one list of the keys in order of arrival.  No item says where it stands among
those of other keys, but the `n`th occurrence of a key in the list belongs to
the `n`th item of its row.  The representation therefore survives the removal
of the first or the last item of a row only if the first or the last
occurrence of its key goes with it.
-/

namespace Arrivals

variable {Key Item : Type} [DecidableEq Key]

/-- The rows and the list of keys of some items in order of arrival. -/
structure Represents (keyOf : Item -> Key) (items : List Item) (row : Key -> List Item)
    (keys : List Key) : Prop where
  order : keys = items.map keyOf
  rows : forall key, row key = items.filter fun item => decide (keyOf item = key)

variable {keyOf : Item -> Key} {items : List Item} {row after : Key -> List Item}
  {keys : List Key}

theorem Represents.nil : Represents keyOf [] (fun _ => []) [] :=
  ⟨rfl, fun _ => rfl⟩

theorem Represents.mem (queue : Represents keyOf items row keys) {key : Key} {item : Item} :
    item ∈ row key <-> item ∈ items ∧ keyOf item = key := by
  rw [queue.rows, List.mem_filter, decide_eq_true_eq]

/-- A new item comes last in its row, and its key last in the list. -/
theorem Represents.push (queue : Represents keyOf items row keys) (item : Item)
    (rows : forall key, after key =
      if keyOf item = key then row (keyOf item) ++ [item] else row key) :
    Represents keyOf (items ++ [item]) after (keys ++ [keyOf item]) := by
  constructor
  · rw [queue.order, List.map_append]
    rfl
  · intro key
    rw [rows, List.filter_append]
    by_cases same : keyOf item = key
    · rw [if_pos same, queue.rows, same, List.filter_cons, if_pos (decide_eq_true same)]
      rfl
    · rw [if_neg same, queue.rows,
        List.filter_cons_of_neg (by rw [decide_eq_true_eq]; exact same)]
      exact (List.append_nil _).symm

/-- What is left of a queue from which an item is taken. -/
theorem rows_without (before later : List Item) {item : Item} {key : Key} {others : List Item}
    (isKey : keyOf item = key)
    (kept : (before ++ later).filter (fun item => decide (keyOf item = key)) = others)
    (other : Key) :
    ((before ++ later).filter fun item => decide (keyOf item = other)) =
      if key = other then others
      else (before ++ item :: later).filter fun item => decide (keyOf item = other) := by
  by_cases same : key = other
  · rw [if_pos same, ← same, kept]
  · rw [if_neg same, List.filter_append, List.filter_append, List.filter_cons_of_neg]
    rw [decide_eq_true_eq, isKey]
    exact same

/-- The queue read from its other end. -/
theorem Represents.reverse (queue : Represents keyOf items row keys) :
    Represents keyOf items.reverse (fun key => (row key).reverse) keys.reverse := by
  constructor
  · rw [queue.order, List.map_reverse]
  · intro key
    rw [queue.rows, List.filter_reverse]

/-- The first key of the list belongs to the first item of all. -/
theorem Represents.takeFront (queue : Represents keyOf items row keys) {key : Key}
    {rest : List Key} (front : keys = key :: rest) :
    Exists fun item => Exists fun others => Exists fun later =>
      items = item :: later ∧ row key = item :: others ∧
        forall after : Key -> List Item,
          (forall other, after other = if key = other then others else row other) ->
          Represents keyOf later after rest := by
  rw [queue.order] at front
  rcases List.map_eq_cons_iff.mp front with ⟨item, later, split, isKey, isRest⟩
  have first : row key =
      item :: later.filter fun item => decide (keyOf item = key) := by
    rw [queue.rows, split, List.filter_cons, if_pos (decide_eq_true isKey)]
  refine ⟨item, _, later, split, first, fun after rows => ⟨isRest.symm, fun other => ?_⟩⟩
  rw [rows, queue.rows, split]
  have left := rows_without [] later isKey rfl other
  rw [List.nil_append, List.nil_append] at left
  exact left.symm

section Removal

variable [BEq Key] [LawfulBEq Key]

/-- The list without the last occurrence of a key. -/
def eraseLast (key : Key) (keys : List Key) : List Key := (keys.reverse.erase key).reverse

/-- The first item of a row has the first occurrence of its key. -/
theorem Represents.takeFirst (queue : Represents keyOf items row keys) {key : Key} {item : Item}
    {others : List Item} (first : row key = item :: others)
    (rows : forall other, after other = if key = other then others else row other) :
    Exists fun before => Exists fun later =>
      items = before ++ item :: later ∧ (forall early, early ∈ before -> keyOf early ≠ key) ∧
        Represents keyOf (before ++ later) after (keys.erase key) := by
  rw [queue.rows] at first
  rcases List.filter_eq_cons_iff.mp first with ⟨before, later, split, early, isKey, rest⟩
  rw [decide_eq_true_eq] at isKey
  have apart : forall early, early ∈ before -> keyOf early ≠ key := by
    intro other member isKey
    exact early other member (decide_eq_true isKey)
  refine ⟨before, later, split, apart, ?_, ?_⟩
  · have absent : key ∉ before.map keyOf := by
      intro member
      rcases List.mem_map.mp member with ⟨other, inBefore, isKey⟩
      exact apart other inBefore isKey
    rw [queue.order, split, List.map_append, List.map_cons, isKey, List.erase_append_right _ absent,
      List.erase_cons_head, List.map_append]
  · have kept : (before ++ later).filter (fun item => decide (keyOf item = key)) = others := by
      rw [List.filter_append, rest, List.filter_eq_nil_iff.mpr early]
      rfl
    intro other
    rw [rows, queue.rows, split]
    exact (rows_without before later isKey kept other).symm

/-- The last item of a row has the last occurrence of its key. -/
theorem Represents.takeLast (queue : Represents keyOf items row keys) {key : Key} {item : Item}
    {others : List Item} (last : row key = others ++ [item])
    (rows : forall other, after other = if key = other then others else row other) :
    Exists fun before => Exists fun later =>
      items = before ++ item :: later ∧ (forall late, late ∈ later -> keyOf late ≠ key) ∧
        Represents keyOf (before ++ later) after (eraseLast key keys) := by
  have turned : (row key).reverse = item :: others.reverse := by
    rw [last, List.reverse_append]
    rfl
  have rowsTurned : forall other, (after other).reverse =
      if key = other then others.reverse else (row other).reverse := by
    intro other
    rw [rows]
    split <;> rfl
  rcases queue.reverse.takeFirst turned rowsTurned with ⟨later, before, split, apart, left⟩
  refine ⟨before.reverse, later.reverse, ?_, ?_, ?_⟩
  · rw [← List.reverse_reverse items, split, List.reverse_append, List.reverse_cons,
      List.append_assoc]
    rfl
  · intro late member
    exact apart late (List.mem_reverse.mp member)
  · have back := left.reverse
    rw [List.reverse_append] at back
    refine ⟨back.order, fun other => ?_⟩
    rw [← back.rows, List.reverse_reverse]

end Removal

end Arrivals
end DyunGu
