import Mathlib.Data.List.Basic

namespace DyunGu
namespace Deal

variable {Item : Type}

/-!
# Dealing a list out in turn

A list is dealt out to a number of hands by giving each hand an item in turn.
Hand `j` of `n` gets the items at the positions `j`, `j + n`, `j + 2 n` and so
on, which says at once that nothing is lost or given twice and that the order
is kept.
-/

/-- The items of a hand that has to wait for its turn. -/
def hand (hands : Nat) : Nat -> List Item -> List Item
  | _, [] => []
  | 0, item :: items => item :: hand hands (hands - 1) items
  | wait + 1, _ :: items => hand hands wait items

theorem getElem?_hand {hands : Nat} (some_ : 0 < hands) (wait : Nat) (items : List Item)
    (turn : Nat) : (hand hands wait items)[turn]? = items[wait + hands * turn]? := by
  induction items generalizing wait turn with
  | nil => simp [hand]
  | cons item items ih =>
      cases wait with
      | zero =>
          cases turn with
          | zero => simp [hand]
          | succ turn =>
              rw [hand, List.getElem?_cons_succ, ih]
              have position : 0 + hands * (turn + 1) = (hands - 1 + hands * turn) + 1 := by
                rw [Nat.mul_succ]
                omega
              rw [position, List.getElem?_cons_succ]
      | succ wait =>
          have position : wait + 1 + hands * turn = (wait + hands * turn) + 1 := by omega
          rw [hand, ih, position, List.getElem?_cons_succ]

end Deal
end DyunGu
