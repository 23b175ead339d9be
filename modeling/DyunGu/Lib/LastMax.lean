import Mathlib.Data.List.Basic
import Mathlib.Order.Lattice

namespace DyunGu
namespace LastMax

/-!
# The last of the largest items

A scan from the left that lets go of the item it holds as soon as another one
is at least as large ends with the last of the largest items.
-/

variable {Item Score : Type} [LinearOrder Score]

/-- The later of two items is preferred unless it is smaller. -/
def pick (score : Item -> Score) (held item : Item) : Item :=
  if score item < score held then held else item

def lastMax (score : Item -> Score) : List Item -> Option Item
  | [] => none
  | first :: items => some (items.foldl (pick score) first)

/-- Nothing is larger than `best`, and what comes after it is smaller. -/
def IsLastMax (score : Item -> Score) (items : List Item) (best : Item) : Prop :=
  Exists fun before => Exists fun after => items = before ++ best :: after ∧
    (forall item, item ∈ before -> score item <= score best) ∧
    forall item, item ∈ after -> score item < score best

variable {score : Item -> Score} {items : List Item} {best : Item}

theorem IsLastMax.mem (isLast : IsLastMax score items best) : best ∈ items := by
  rcases isLast with ⟨before, after, rfl, _, _⟩
  exact List.mem_append_right before List.mem_cons_self

theorem IsLastMax.le (isLast : IsLastMax score items best) :
    forall item, item ∈ items -> score item <= score best := by
  rcases isLast with ⟨before, after, rfl, early, late⟩
  intro item member
  rcases List.mem_append.mp member with isBefore | member
  · exact early item isBefore
  · rcases List.mem_cons.mp member with rfl | isAfter
    · exact le_refl _
    · exact (late item isAfter).le

/-- One more item at the end is the last of the largest or leaves that as it
was. -/
theorem IsLastMax.pick (isLast : IsLastMax score items best) (item : Item) :
    IsLastMax score (items ++ [item]) (pick score best item) := by
  rw [LastMax.pick]
  by_cases smaller : score item < score best
  · rw [if_pos smaller]
    rcases isLast with ⟨before, after, rfl, early, late⟩
    refine ⟨before, after ++ [item], by simp, early, ?_⟩
    intro other member
    rcases List.mem_append.mp member with isAfter | isItem
    · exact late other isAfter
    · rw [List.mem_singleton.mp isItem]
      exact smaller
  · rw [if_neg smaller]
    have larger := le_of_not_gt smaller
    refine ⟨items, [], rfl, fun other member => (isLast.le other member).trans larger, ?_⟩
    intro other member
    cases member

theorem foldl_pick {seen : List Item} (isLast : IsLastMax score seen best) (items : List Item) :
    IsLastMax score (seen ++ items) (items.foldl (LastMax.pick score) best) := by
  induction items generalizing seen best with
  | nil =>
      rw [List.append_nil]
      exact isLast
  | cons item items ih =>
      have next := ih (isLast.pick item)
      rw [List.append_assoc] at next
      exact next

theorem lastMax_eq_some (found : lastMax score items = some best) :
    IsLastMax score items best := by
  cases items with
  | nil => cases found
  | cons first items =>
      cases found
      exact foldl_pick ⟨[], [], rfl, by simp, by simp⟩ items

theorem lastMax_of_ne_nil (score : Item -> Score) (nonempty : items ≠ []) :
    Exists fun best => lastMax score items = some best := by
  cases items with
  | nil => exact absurd rfl nonempty
  | cons first items => exact ⟨_, rfl⟩

end LastMax
end DyunGu
