import Mathlib.Data.List.Basic
import Mathlib.Data.String.Basic
import Mathlib.Order.Defs.LinearOrder

namespace DyunGu
namespace KeyedList

/-!
# Maps as lists in key order

A finite map with ordered keys, kept as the list of its entries in the order
of their keys.  Two such lists that answer every lookup alike are equal.
-/

variable {Key Value Other : Type} [LinearOrder Key]

def find (key : Key) : List (Key × Value) -> Option Value
  | [] => none
  | entry :: entries => if entry.1 = key then some entry.2 else find key entries

/-- Put a value under a key, in place of the one that was there. -/
def insert (key : Key) (value : Value) : List (Key × Value) -> List (Key × Value)
  | [] => [(key, value)]
  | entry :: entries =>
      if key < entry.1 then (key, value) :: entry :: entries
      else if entry.1 = key then (key, value) :: entries
      else entry :: insert key value entries

def erase (key : Key) (entries : List (Key × Value)) : List (Key × Value) :=
  entries.filter fun entry => decide (entry.1 ≠ key)

/-- Put in all entries of another map. -/
def extend (entries additions : List (Key × Value)) : List (Key × Value) :=
  additions.foldl (fun entries addition => insert addition.1 addition.2 entries) entries

def Ordered (entries : List (Key × Value)) : Prop :=
  entries.Pairwise fun first second => first.1 < second.1

instance (entries : List (Key × Value)) : Decidable (Ordered entries) :=
  inferInstanceAs (Decidable (entries.Pairwise _))

theorem find_insert (key other : Key) (value : Value) (entries : List (Key × Value)) :
    find other (insert key value entries) =
      if key = other then some value else find other entries := by
  induction entries with
  | nil => rfl
  | cons entry entries ih =>
      unfold insert
      split
      · rfl
      · split
        · rename_i isKey
          by_cases same : key = other
          · simp [find, same]
          · rw [if_neg same]
            simp only [find, if_neg same]
            rw [if_neg (fun isOther => same (isKey.symm.trans isOther))]
        · rename_i isOther
          simp only [find, ih]
          by_cases same : key = other
          · rw [if_pos same, if_pos same, if_neg fun isEntry => isOther (isEntry.trans same.symm)]
          · rw [if_neg same, if_neg same]

theorem find_erase (key other : Key) (entries : List (Key × Value)) :
    find other (erase key entries) = if key = other then none else find other entries := by
  induction entries with
  | nil => exact (ite_self _).symm
  | cons entry entries ih =>
      unfold erase at ih ⊢
      by_cases isKey : entry.1 = key
      · rw [List.filter_cons_of_neg (by simp [isKey]), ih]
        by_cases same : key = other
        · rw [if_pos same, if_pos same]
        · rw [if_neg same, if_neg same, find, if_neg fun isOther => same (isKey.symm.trans isOther)]
      · rw [List.filter_cons_of_pos (by simp [isKey]), find, find, ih]
        by_cases same : key = other
        · rw [if_pos same, if_pos same, if_neg fun isOther => isKey (isOther.trans same.symm)]
        · rw [if_neg same, if_neg same]

theorem mem_of_find {key : Key} {value : Value} {entries : List (Key × Value)}
    (found : find key entries = some value) : (key, value) ∈ entries := by
  induction entries with
  | nil => cases found
  | cons entry entries ih =>
      unfold find at found
      split at found
      · rename_i isKey
        cases found
        rw [← isKey]
        exact List.mem_cons_self
      · exact List.mem_cons_of_mem _ (ih found)

theorem find_of_mem {key : Key} {value : Value} {entries : List (Key × Value)}
    (ordered : Ordered entries) (member : (key, value) ∈ entries) :
    find key entries = some value := by
  induction entries with
  | nil => cases member
  | cons entry entries ih =>
      unfold Ordered at ordered
      rw [List.pairwise_cons] at ordered
      unfold find
      rcases List.mem_cons.mp member with rfl | later
      · rw [if_pos rfl]
      · rw [if_neg (ne_of_lt (ordered.1 _ later))]
        exact ih ordered.2 later

theorem find_isSome {key : Key} {entries : List (Key × Value)} :
    (find key entries).isSome = true <-> key ∈ entries.map Prod.fst := by
  induction entries with
  | nil => simp [find]
  | cons entry entries ih =>
      unfold find
      by_cases isKey : entry.1 = key
      · simp [isKey]
      · rw [if_neg isKey, ih, List.map_cons, List.mem_cons]
        exact ⟨Or.inr, fun member => member.resolve_left fun same => isKey same.symm⟩

theorem erase_of_find {key : Key} {entries : List (Key × Value)}
    (absent : find key entries = none) : erase key entries = entries := by
  unfold erase
  rw [List.filter_eq_self]
  intro entry member
  rw [decide_eq_true_eq]
  intro isKey
  have there : (find key entries).isSome = true := by
    rw [find_isSome]
    exact List.mem_map.mpr ⟨entry, member, isKey⟩
  rw [absent] at there
  cases there

/-- A key that is not that of any entry is not in the map. -/
theorem find_of_distinct {key : Key} {entries : List (Key × Value)}
    (distinct : forall entry, entry ∈ entries -> key ≠ entry.1) : find key entries = none := by
  cases lookup : find key entries with
  | none => rfl
  | some value => exact absurd rfl (distinct _ (mem_of_find lookup))

theorem find_of_before {key : Key} {entries : List (Key × Value)}
    (before : forall entry, entry ∈ entries -> key < entry.1) : find key entries = none :=
  find_of_distinct fun entry member => ne_of_lt (before entry member)

theorem mem_insert {key : Key} {value : Value} {entries : List (Key × Value)}
    {entry : Key × Value} (member : entry ∈ insert key value entries) :
    entry = (key, value) ∨ entry ∈ entries := by
  induction entries with
  | nil => exact Or.inl (List.mem_singleton.mp member)
  | cons first entries ih =>
      unfold insert at member
      split at member
      · exact List.mem_cons.mp member
      · split at member
        · rcases List.mem_cons.mp member with is | later
          · exact Or.inl is
          · exact Or.inr (List.mem_cons_of_mem _ later)
        · rcases List.mem_cons.mp member with rfl | later
          · exact Or.inr List.mem_cons_self
          · exact (ih later).imp_right (List.mem_cons_of_mem _)

theorem ordered_insert {entries : List (Key × Value)} (ordered : Ordered entries) (key : Key)
    (value : Value) : Ordered (insert key value entries) := by
  induction entries with
  | nil => exact List.pairwise_singleton _ _
  | cons entry entries ih =>
      unfold Ordered at ordered
      rw [List.pairwise_cons] at ordered
      unfold insert
      split
      · rename_i before
        refine List.pairwise_cons.mpr ⟨?_, List.pairwise_cons.mpr ordered⟩
        intro other member
        rcases List.mem_cons.mp member with rfl | later
        · exact before
        · exact lt_trans before (ordered.1 other later)
      · rename_i notBefore
        split
        · rename_i isKey
          refine List.pairwise_cons.mpr ⟨fun other member => ?_, ordered.2⟩
          exact isKey ▸ ordered.1 other member
        · rename_i isOther
          refine List.pairwise_cons.mpr ⟨fun other member => ?_, ih ordered.2⟩
          rcases mem_insert member with rfl | later
          · exact lt_of_le_of_ne (not_lt.mp notBefore) isOther
          · exact ordered.1 other later

theorem ordered_erase {entries : List (Key × Value)} (ordered : Ordered entries) (key : Key) :
    Ordered (erase key entries) :=
  List.Pairwise.filter _ ordered

/-- Maps that answer every lookup alike are equal. -/
theorem ext_of_find {first second : List (Key × Value)} (ordered : Ordered first)
    (orderedToo : Ordered second) (same : forall key, find key first = find key second) :
    first = second := by
  induction first generalizing second with
  | nil =>
      cases second with
      | nil => rfl
      | cons entry entries =>
          have found := same entry.1
          simp [find] at found
  | cons head tail ih =>
      cases second with
      | nil =>
          have found := same head.1
          simp [find] at found
      | cons entry entries =>
          unfold Ordered at ordered orderedToo
          rw [List.pairwise_cons] at ordered orderedToo
          have keys : head.1 = entry.1 := by
            rcases lt_trichotomy head.1 entry.1 with before | is | after
            · have found := same head.1
              simp only [find, if_true, if_neg (ne_of_gt before)] at found
              have member := mem_of_find found.symm
              exact absurd (orderedToo.1 _ member) (not_lt.mpr (le_of_lt before))
            · exact is
            · have found := same entry.1
              simp only [find, if_true, if_neg (ne_of_gt after)] at found
              have member := mem_of_find found
              exact absurd (ordered.1 _ member) (not_lt.mpr (le_of_lt after))
          have values : head.2 = entry.2 := by
            have found := same head.1
            simp only [find, if_true, if_pos keys.symm] at found
            exact Option.some.inj found
          have rest : tail = entries := by
            apply ih ordered.2 orderedToo.2
            intro key
            have found := same key
            unfold find at found
            by_cases isKey : head.1 = key
            · rw [← isKey, find_of_before ordered.1, keys, find_of_before orderedToo.1]
            · rw [if_neg isKey, if_neg (keys ▸ isKey)] at found
              exact found
          rw [show head = entry from Prod.ext keys values, rest]

theorem find_map (change : Value -> Other) (key : Key) (entries : List (Key × Value)) :
    find key (entries.map fun entry => (entry.1, change entry.2)) =
      (find key entries).map change := by
  induction entries with
  | nil => rfl
  | cons entry entries ih =>
      simp only [List.map_cons, find]
      split
      · rfl
      · exact ih

theorem ordered_map {entries : List (Key × Value)} (ordered : Ordered entries)
    (change : Value -> Other) :
    Ordered (entries.map fun entry => (entry.1, change entry.2)) := by
  unfold Ordered
  rw [List.pairwise_map]
  exact ordered

theorem ordered_extend {entries : List (Key × Value)} (ordered : Ordered entries)
    (additions : List (Key × Value)) : Ordered (extend entries additions) := by
  unfold extend
  induction additions generalizing entries with
  | nil => exact ordered
  | cons addition additions ih => exact ih (ordered_insert ordered addition.1 addition.2)

theorem find_extend {additions : List (Key × Value)}
    (distinct : additions.Pairwise fun first second => first.1 ≠ second.1)
    (entries : List (Key × Value)) (key : Key) :
    find key (extend entries additions) = (find key additions).or (find key entries) := by
  unfold extend
  induction additions generalizing entries with
  | nil => rfl
  | cons addition additions ih =>
      rw [List.pairwise_cons] at distinct
      rw [List.foldl_cons, ih distinct.2, find_insert, find]
      by_cases isKey : addition.1 = key
      · rw [if_pos isKey, if_pos isKey, ← isKey, find_of_distinct distinct.1]
        rfl
      · rw [if_neg isKey, if_neg isKey]

theorem Ordered.distinct {entries : List (Key × Value)} (ordered : Ordered entries) :
    entries.Pairwise fun first second => first.1 ≠ second.1 :=
  List.Pairwise.imp ne_of_lt ordered

/-- A map with one key for each value has no value twice. -/
theorem nodup_values {entries : List (Key × Value)} (ordered : Ordered entries)
    (single : forall key other value, find key entries = some value ->
      find other entries = some value -> key = other) : (entries.map Prod.snd).Nodup := by
  unfold List.Nodup
  rw [List.pairwise_map]
  refine List.Pairwise.imp_of_mem ?_ ordered
  intro first second member memberToo before same
  have found := find_of_mem ordered member
  rw [same] at found
  exact ne_of_lt before (single _ _ _ found (find_of_mem ordered memberToo))

/-- A map put into an empty one stays as it is. -/
theorem extend_nil {entries : List (Key × Value)} (ordered : Ordered entries) :
    extend [] entries = entries := by
  apply ext_of_find (ordered_extend List.Pairwise.nil entries) ordered
  intro key
  rw [find_extend ordered.distinct]
  exact Option.or_none

/-- Changing the values changes them wherever entries are put in. -/
theorem insert_map (change : Value -> Other) (key : Key) (value : Value)
    (entries : List (Key × Value)) :
    insert key (change value) (entries.map fun entry => (entry.1, change entry.2)) =
      (insert key value entries).map fun entry => (entry.1, change entry.2) := by
  induction entries with
  | nil => rfl
  | cons entry entries ih =>
      simp only [List.map_cons, insert]
      split
      · rfl
      · split
        · rfl
        · rw [ih, List.map_cons]

end KeyedList
end DyunGu
