import Mathlib.Data.List.Basic

namespace DyunGu
namespace Records

/-!
# Lists of records

Parties of a protocol that come and go are kept in a list.  A new one is put
at its end, and a step replaces one record in its place.
-/

universe u

variable {Value : Type u} {records : List Value} {i : Nat} {old new : Value}

theorem length_of_found (found : records[i]? = some old) : i < records.length :=
  (List.getElem?_eq_some_iff.mp found).1

theorem find_set (found : records[i]? = some old) (new : Value) (j : Nat) :
    (records.set i new)[j]? = if i = j then some new else records[j]? := by
  rw [List.getElem?_set]
  by_cases same : i = j
  · rw [if_pos same, if_pos same, if_pos (length_of_found found)]
  · rw [if_neg same, if_neg same]

theorem find_concat (records : List Value) (new : Value) (j : Nat) :
    (records ++ [new])[j]? = if records.length = j then some new else records[j]? := by
  by_cases same : records.length = j
  · rw [if_pos same, ← same, List.getElem?_concat_length]
  · rw [if_neg same]
    rcases Nat.lt_or_gt_of_ne same with after | before
    · rw [List.getElem?_eq_none (by simp; omega), List.getElem?_eq_none (by omega)]
    · exact List.getElem?_append_left before

/-- The number of records of a sort after one of them is replaced. -/
theorem countP_set (sort : Value -> Bool) (found : records[i]? = some old) (new : Value) :
    (records.set i new).countP sort + (if sort old then 1 else 0) =
      records.countP sort + (if sort new then 1 else 0) := by
  induction records generalizing i with
  | nil => cases found
  | cons first records ih =>
      cases i with
      | zero =>
          cases found
          rw [List.set_cons_zero, List.countP_cons, List.countP_cons]
          omega
      | succ i =>
          have rest := ih found
          rw [List.set_cons_succ, List.countP_cons, List.countP_cons]
          omega

theorem mem_of_found (found : records[i]? = some old) : old ∈ records :=
  List.mem_of_getElem? found

theorem forall_set {property : Value -> Prop}
    (all : forall record, record ∈ records -> property record) (holds : property new) :
    forall record, record ∈ records.set i new -> property record := by
  intro record member
  rcases List.mem_or_eq_of_mem_set member with member | rfl
  · exact all record member
  · exact holds

theorem forall_concat {property : Value -> Prop}
    (all : forall record, record ∈ records -> property record) (holds : property new) :
    forall record, record ∈ records ++ [new] -> property record := by
  intro record member
  rcases List.mem_append.mp member with member | isNew
  · exact all record member
  · rw [List.mem_singleton.mp isNew]
    exact holds

theorem mem_set_self (found : records[i]? = some old) (new : Value) :
    new ∈ records.set i new :=
  List.mem_set (length_of_found found) new

/-- A record that is not the one replaced stays. -/
theorem mem_set_of_ne (found : records[i]? = some old) (new : Value) {other : Value}
    (member : other ∈ records) (distinct : other ≠ old) : other ∈ records.set i new := by
  rcases List.mem_iff_getElem?.mp member with ⟨j, atJ⟩
  apply List.mem_of_getElem? (i := j)
  rw [find_set found]
  by_cases same : i = j
  · rw [same, atJ] at found
    cases found
    exact absurd rfl distinct
  · rw [if_neg same]
    exact atJ

/-- Of the records of a sort none goes away, and those that come are fresh. -/
structure Carried (sort fresh : Value -> Prop) (before after : List Value) : Prop where
  stays : forall record, record ∈ before -> sort record -> record ∈ after
  comes : forall record, record ∈ after -> sort record -> record ∈ before ∨ fresh record

variable {sort fresh : Value -> Prop}

theorem Carried.refl (records : List Value) : Carried sort fresh records records :=
  ⟨fun _ member _ => member, fun _ member _ => Or.inl member⟩

theorem Carried.concat (isFresh : fresh new) : Carried sort fresh records (records ++ [new]) := by
  refine ⟨fun record member _ => List.mem_append_left _ member, fun record member _ => ?_⟩
  rcases List.mem_append.mp member with before | isNew
  · exact Or.inl before
  · rw [List.mem_singleton.mp isNew]
    exact Or.inr isFresh

theorem Carried.set (found : records[i]? = some old) (apart : ¬ sort old) (apartToo : ¬ sort new) :
    Carried sort fresh records (records.set i new) := by
  refine ⟨fun record member holds => ?_, fun record member holds => ?_⟩
  · apply mem_set_of_ne found new member
    rintro rfl
    exact apart holds
  · rcases List.mem_or_eq_of_mem_set member with before | rfl
    · exact Or.inl before
    · exact absurd holds apartToo

end Records
end DyunGu
