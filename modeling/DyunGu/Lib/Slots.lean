import Mathlib.Data.List.AList
import Mathlib.Data.List.Perm.Basic

namespace DyunGu

/-!
# Maps from keys to rows of items

A finite map whose values are lists, with a missing key for an empty list.
What the map holds in all is determined up to order by one row and by the map
without it, so a change of one row changes the whole by that row alone.
-/

/-- A finite map to lists of items. -/
abbrev Slots (Key Item : Type) := AList fun _ : Key => List Item

namespace Slots

variable {Key Item : Type} [DecidableEq Key]

/-- The items under a key. -/
def slot (key : Key) (slots : Slots Key Item) : List Item := (slots.lookup key).getD []

/-- Change the items under a key; no key is kept for an empty list. -/
def setSlot (key : Key) (items : List Item) (slots : Slots Key Item) : Slots Key Item :=
  if items = [] then slots.erase key else slots.insert key items

/-- All items of the map. -/
def all (slots : Slots Key Item) : List Item := slots.entries.flatMap Sigma.snd

@[simp] theorem slot_empty (key : Key) : slot key (∅ : Slots Key Item) = [] := rfl

theorem slot_setSlot (key other : Key) (items : List Item) (slots : Slots Key Item) :
    slot other (setSlot key items slots) = if key = other then items else slot other slots := by
  unfold slot setSlot
  by_cases same : key = other
  · rw [if_pos same, ← same]
    split
    · rename_i empty
      rw [AList.lookup_erase, empty]
      rfl
    · rw [AList.lookup_insert]
      rfl
  · rw [if_neg same]
    split
    · rw [AList.lookup_erase_ne (Ne.symm same)]
    · rw [AList.lookup_insert_ne (Ne.symm same)]

/-- One row, and the map without it. -/
theorem all_perm (key : Key) (slots : Slots Key Item) :
    (all slots).Perm (slot key slots ++ all (slots.erase key)) := by
  unfold all slot
  show (slots.entries.flatMap Sigma.snd).Perm
    ((slots.lookup key).getD [] ++ (slots.entries.kerase key).flatMap Sigma.snd)
  by_cases member : key ∈ slots.entries.keys
  · rcases List.exists_of_kerase member with ⟨items, before, after, _, whole, erased⟩
    have found : slots.lookup key = some items := by
      apply AList.mem_lookup_iff.mpr
      rw [whole]
      exact List.mem_append_right _ List.mem_cons_self
    rw [found, erased, whole, List.flatMap_append, List.flatMap_append, List.flatMap_cons,
      Option.getD_some]
    exact List.perm_append_comm_assoc _ _ _
  · have absent : slots.lookup key = none := AList.lookup_eq_none.mpr member
    rw [absent, List.kerase_of_notMem_keys member]
    exact List.Perm.refl _

theorem all_setSlot (key : Key) (items : List Item) (slots : Slots Key Item) :
    (all (setSlot key items slots)).Perm (items ++ all (slots.erase key)) := by
  unfold setSlot
  split
  · rename_i empty
    rw [empty]
    exact List.Perm.refl _
  · exact List.Perm.refl _

/-- A row that loses one item takes it from the whole. -/
theorem all_take {key : Key} {item : Item} {items : List Item} {slots : Slots Key Item}
    (row : (slot key slots).Perm (item :: items)) :
    (all slots).Perm (item :: all (setSlot key items slots)) := by
  have whole := all_perm key slots
  have others := all_setSlot key items slots
  exact whole.trans ((row.append_right _).trans (others.symm.cons item))

/-- A row that gains one item brings it into the whole. -/
theorem all_give (key : Key) (item : Item) (slots : Slots Key Item) :
    (all (setSlot key (slot key slots ++ [item]) slots)).Perm (item :: all slots) := by
  have others := all_setSlot key (slot key slots ++ [item]) slots
  have whole := all_perm key slots
  have moved : (slot key slots ++ [item]).Perm (item :: slot key slots) :=
    List.perm_append_singleton item _
  exact others.trans ((moved.append_right _).trans (whole.symm.cons item))

theorem mem_all {item : Item} {slots : Slots Key Item} :
    item ∈ all slots <-> Exists fun key => item ∈ slot key slots := by
  constructor
  · intro member
    rcases List.mem_flatMap.mp member with ⟨⟨key, items⟩, isEntry, inItems⟩
    refine ⟨key, ?_⟩
    unfold slot
    rw [AList.mem_lookup_iff.mpr isEntry]
    exact inItems
  · rintro ⟨key, member⟩
    exact (all_perm key slots).mem_iff.mpr (List.mem_append_left _ member)

end Slots
end DyunGu
