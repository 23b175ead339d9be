import DyunGu.Lib.Records
import Mathlib.Data.List.Perm.Basic

namespace DyunGu

/-!
# Shared values with a count of their references

An allocation keeps the number of references to a value.  A new allocation has
one, a clone adds one, and the drop that takes the last one hands out the value
to be destroyed.  Allocations are numbered and never removed, so a number
stands for the same value for ever; the value of an allocation without
references is a record of what was there.

References are kept by owners, and the counts are balanced when each of them is
the number of its owners.  Where the owners are themselves shared values, the
values that are still alive are the owners of the next allocations.
-/

/-- One allocation. -/
structure Shared (V : Type) where
  strong : Nat
  value : V
deriving DecidableEq, Repr

namespace Shared

variable {V : Type}

def clone (cells : List (Shared V)) (id : Nat) : List (Shared V) :=
  cells.modify id fun cell => { cell with strong := cell.strong + 1 }

/-- The value is handed out where the reference was the last one. -/
def drop (cells : List (Shared V)) (id : Nat) : List (Shared V) × Option V :=
  match cells[id]? with
  | none => (cells, none)
  | some cell =>
      (cells.set id { cell with strong := cell.strong - 1 },
        if cell.strong = 1 then some cell.value else none)

theorem drop_found {cells : List (Shared V)} {id : Nat} {cell : Shared V}
    (isFound : cells[id]? = some cell) :
    drop cells id = (cells.set id { cell with strong := cell.strong - 1 },
      if cell.strong = 1 then some cell.value else none) := by
  unfold drop
  rw [isFound]

/-- The number of references to an allocation, zero where there is none. -/
def references (cells : List (Shared V)) (id : Nat) : Nat :=
  (cells[id]?.map strong).getD 0

/-- The value of an allocation, also after its end. -/
def valueAt (cells : List (Shared V)) (id : Nat) : Option V := cells[id]?.map value

/-- The values that have references. -/
def living (cells : List (Shared V)) : List V :=
  (cells.filter fun cell => decide (0 < cell.strong)).map value

/-- Every count is the number of owners. -/
def Balanced (cells : List (Shared V)) (owners : List Nat) : Prop :=
  forall id, references cells id = owners.count id

namespace Balanced

variable {cells : List (Shared V)} {owners : List Nat} {id : Nat}

theorem perm {others : List Nat} (balanced : Balanced cells owners)
    (same : owners.Perm others) : Balanced cells others := by
  intro id
  rw [balanced id, same.count_eq]

/-- What has an owner is there. -/
theorem found (balanced : Balanced cells owners) (owner : id ∈ owners) :
    Exists fun cell => cells[id]? = some cell ∧ 0 < cell.strong := by
  have positive : 0 < references cells id := by
    rw [balanced id]
    exact List.count_pos_iff.mpr owner
  unfold references at positive
  cases isFound : cells[id]? with
  | none =>
      rw [isFound] at positive
      cases positive
  | some cell =>
      rw [isFound] at positive
      exact ⟨cell, rfl, positive⟩

/-- What has references has an owner. -/
theorem owner_of_found {cell : Shared V} (balanced : Balanced cells owners)
    (isFound : cells[id]? = some cell) (positive : 0 < cell.strong) : id ∈ owners := by
  apply List.count_pos_iff.mp
  rw [← balanced id]
  unfold references
  rw [isFound]
  exact positive

theorem create (balanced : Balanced cells owners) (value : V) :
    Balanced (cells ++ [⟨1, value⟩]) (cells.length :: owners) := by
  intro id
  unfold references
  rw [Records.find_concat, List.count_cons, ← balanced id]
  by_cases same : cells.length = id
  · rw [if_pos same, ← same]
    unfold references
    rw [List.getElem?_eq_none (Nat.le_refl _)]
    simp
  · rw [if_neg same, if_neg (by simpa using same)]
    rfl

theorem clone (balanced : Balanced cells owners) (owner : id ∈ owners) :
    Balanced (clone cells id) (id :: owners) := by
  rcases balanced.found owner with ⟨cell, isFound, _⟩
  intro other
  have before := balanced other
  unfold references at before
  unfold references Shared.clone
  rw [List.getElem?_modify, List.count_cons]
  by_cases same : id = other
  · rw [← same] at before ⊢
    rw [isFound] at before ⊢
    simp at before ⊢
    exact before
  · rw [← before, if_neg (by simpa using same)]
    simp [same]

theorem drop (balanced : Balanced cells (id :: owners)) : Balanced (drop cells id).1 owners := by
  rcases balanced.found List.mem_cons_self with ⟨cell, isFound, _⟩
  intro other
  have before := balanced other
  unfold references at before
  unfold references
  rw [drop_found isFound, Records.find_set isFound]
  rw [List.count_cons] at before
  by_cases same : id = other
  · rw [← same] at before ⊢
    rw [isFound] at before
    rw [if_pos rfl]
    simp at before ⊢
    omega
  · rw [if_neg same]
    rw [if_neg (by simpa using same)] at before
    exact before

end Balanced

section Values

variable {cells : List (Shared V)} {id : Nat}

theorem valueAt_create (value : V) {old : V} (known : valueAt cells id = some old) :
    valueAt (cells ++ [⟨1, value⟩]) id = some old := by
  unfold valueAt at known ⊢
  cases isFound : cells[id]? with
  | none =>
      rw [isFound] at known
      cases known
  | some cell =>
      rw [List.getElem?_append_left (Records.length_of_found isFound), isFound, ← known, isFound]

theorem valueAt_created (cells : List (Shared V)) (value : V) :
    valueAt (cells ++ [⟨1, value⟩]) cells.length = some value := by
  unfold valueAt
  rw [List.getElem?_concat_length]
  rfl

theorem valueAt_drop (cells : List (Shared V)) (id other : Nat) :
    valueAt (drop cells id).1 other = valueAt cells other := by
  unfold valueAt
  cases isFound : cells[id]? with
  | none =>
      unfold drop
      rw [isFound]
  | some cell =>
      rw [drop_found isFound, Records.find_set isFound]
      by_cases same : id = other
      · rw [if_pos same, ← same, isFound]
        rfl
      · rw [if_neg same]

/-- The value a drop hands out is that of its allocation. -/
theorem drop_value {value : V} (last : (drop cells id).2 = some value) :
    Exists fun cell => cells[id]? = some cell ∧ cell.strong = 1 ∧ cell.value = value := by
  cases isFound : cells[id]? with
  | none =>
      unfold drop at last
      rw [isFound] at last
      cases last
  | some cell =>
      rw [drop_found isFound] at last
      dsimp only at last
      by_cases one : cell.strong = 1
      · rw [if_pos one] at last
        exact ⟨cell, rfl, one, Option.some.inj last⟩
      · rw [if_neg one] at last
        cases last

theorem living_create (cells : List (Shared V)) (value : V) :
    living (cells ++ [⟨1, value⟩]) = living cells ++ [value] := by
  simp [living]

/-- A living value is that of an allocation with references. -/
theorem mem_living {value : V} : value ∈ living cells <->
    Exists fun id : Nat => Exists fun cell => cells[id]? = some cell ∧ 0 < cell.strong ∧
      cell.value = value := by
  unfold living
  simp only [List.mem_map, List.mem_filter, decide_eq_true_eq]
  constructor
  · rintro ⟨cell, ⟨member, positive⟩, same⟩
    rcases List.mem_iff_getElem?.mp member with ⟨id, isFound⟩
    exact ⟨id, cell, isFound, positive, same⟩
  · rintro ⟨id, cell, isFound, positive, same⟩
    exact ⟨cell, ⟨Records.mem_of_found isFound, positive⟩, same⟩

/-- Where a count changes and does not reach or leave zero, the living values
stay. -/
theorem living_set {cell : Shared V} {count : Nat} (isFound : cells[id]? = some cell)
    (before : 0 < cell.strong) (after : 0 < count) :
    living (cells.set id { cell with strong := count }) = living cells := by
  unfold living
  induction cells generalizing id with
  | nil => cases isFound
  | cons first cells ih =>
      cases id with
      | zero =>
          cases isFound
          simp [List.set_cons_zero, before, after]
      | succ id =>
          have rest := ih isFound
          rw [List.set_cons_succ, List.filter_cons, List.filter_cons]
          split
          · rw [List.map_cons, List.map_cons, rest]
          · exact rest

/-- Where a count reaches zero, the value is no longer among the living. -/
theorem living_set_zero {cell : Shared V} (isFound : cells[id]? = some cell)
    (before : 0 < cell.strong) :
    (living cells).Perm (cell.value :: living (cells.set id { cell with strong := 0 })) := by
  unfold living
  induction cells generalizing id with
  | nil => cases isFound
  | cons first cells ih =>
      cases id with
      | zero =>
          cases isFound
          simp [List.set_cons_zero, before]
      | succ id =>
          have rest := ih isFound
          rw [List.set_cons_succ, List.filter_cons, List.filter_cons]
          split
          · rw [List.map_cons, List.map_cons]
            exact (rest.cons _).trans (List.Perm.swap _ _ _)
          · exact rest

theorem living_clone {cell : Shared V} (isFound : cells[id]? = some cell)
    (positive : 0 < cell.strong) : living (clone cells id) = living cells := by
  unfold clone
  rw [List.modify_eq_set_getElem?, isFound]
  exact living_set isFound positive (Nat.succ_pos _)

/-- A drop that is not the last one keeps the value alive. -/
theorem living_drop_none {owners : List Nat} (balanced : Balanced cells (id :: owners))
    (kept : (drop cells id).2 = none) : living (drop cells id).1 = living cells := by
  rcases balanced.found List.mem_cons_self with ⟨cell, isFound, positive⟩
  rw [drop_found isFound] at kept ⊢
  dsimp only at kept ⊢
  have more : cell.strong ≠ 1 := by
    intro one
    rw [if_pos one] at kept
    cases kept
  exact living_set isFound positive (by omega)

theorem living_drop_some {value : V} (last : (drop cells id).2 = some value) :
    (living cells).Perm (value :: living (drop cells id).1) := by
  rcases drop_value last with ⟨cell, isFound, one, rfl⟩
  have after : (drop cells id).1 = cells.set id { cell with strong := 0 } := by
    rw [drop_found isFound, one]
  rw [after]
  exact living_set_zero isFound (by omega)

end Values
end Shared
end DyunGu
