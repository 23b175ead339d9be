import Mathlib.Algebra.Order.Group.Multiset
import Mathlib.Data.List.Perm.Basic
import Mathlib.Order.Lattice.Nat

namespace DyunGu
namespace Selection

/-!
# Selecting from a list

Two ways to select from a list of items.  The greedy one goes through the list
and keeps each item that no kept item suppresses.  The other one takes the best
items of the list, up to a given number of them, whatever their order.
-/

/-! ## Greedy selection -/

section Greedy

variable {Item : Type}

/-- A candidate is kept unless an item kept before suppresses it. -/
def consider (suppresses : Item -> Item -> Bool) (kept : List Item) (candidate : Item) :
    List Item :=
  if kept.any (fun existing => suppresses existing candidate) then kept
  else kept ++ [candidate]

/-- The items of a list that are kept. -/
def greedy (suppresses : Item -> Item -> Bool) (items : List Item) : List Item :=
  items.foldl (consider suppresses) []

/-- What the items kept from a list are: they are some of them in their order,
none of them suppresses a later one, and each of the others is suppressed by a
kept item that comes before it. -/
structure Chosen (suppresses : Item -> Item -> Bool) (before : Item -> Item -> Prop)
    (items kept : List Item) : Prop where
  sublist : kept.Sublist items
  apart : kept.Pairwise fun existing candidate => suppresses existing candidate = false
  covered : Exists fun dropped => (kept ++ dropped).Perm items ∧
    forall candidate, candidate ∈ dropped -> Exists fun existing =>
      existing ∈ kept ∧ suppresses existing candidate = true ∧ before existing candidate

variable {suppresses : Item -> Item -> Bool} {before : Item -> Item -> Prop}
    {items kept : List Item} {candidate : Item}

theorem Chosen.nil : Chosen suppresses before [] [] :=
  ⟨List.Sublist.refl [], List.Pairwise.nil, [], List.Perm.refl [], by simp⟩

/-- A suppressed candidate joins the dropped items. -/
theorem Chosen.drop (chosen : Chosen suppresses before items kept)
    (ordered : forall item, item ∈ items -> before item candidate)
    (suppressed : Exists fun existing => existing ∈ kept ∧ suppresses existing candidate = true) :
    Chosen suppresses before (items ++ [candidate]) kept := by
  rcases chosen.covered with ⟨dropped, split, covered⟩
  refine ⟨chosen.sublist.trans (List.sublist_append_left items [candidate]), chosen.apart,
    dropped ++ [candidate], ?_, ?_⟩
  · rw [← List.append_assoc]
    exact split.append_right [candidate]
  · intro other isDropped
    rcases List.mem_append.mp isDropped with earlier | last
    · exact covered other earlier
    · rw [List.mem_singleton.mp last]
      rcases suppressed with ⟨existing, isKept, suppresses⟩
      exact ⟨existing, isKept, suppresses, ordered existing (chosen.sublist.subset isKept)⟩

/-- A candidate that nothing suppresses joins the kept items. -/
theorem Chosen.keep (chosen : Chosen suppresses before items kept)
    (free : forall existing, existing ∈ kept -> suppresses existing candidate = false) :
    Chosen suppresses before (items ++ [candidate]) (kept ++ [candidate]) := by
  rcases chosen.covered with ⟨dropped, split, covered⟩
  refine ⟨chosen.sublist.append (List.Sublist.refl [candidate]), ?_, dropped, ?_, ?_⟩
  · rw [List.pairwise_append]
    refine ⟨chosen.apart, List.pairwise_singleton _ candidate, ?_⟩
    intro existing isKept other isLast
    rw [List.mem_singleton.mp isLast]
    exact free existing isKept
  · calc (kept ++ [candidate] ++ dropped).Perm (kept ++ (dropped ++ [candidate])) := by
          rw [List.append_assoc]
          exact List.perm_append_comm.append_left kept
      _ = (kept ++ dropped) ++ [candidate] := (List.append_assoc kept dropped [candidate]).symm
      List.Perm _ (items ++ [candidate]) := split.append_right [candidate]
  · intro other isDropped
    rcases covered other isDropped with ⟨existing, isKept, suppressed⟩
    exact ⟨existing, List.mem_append_left [candidate] isKept, suppressed⟩

theorem Chosen.consider (chosen : Chosen suppresses before items kept)
    (ordered : forall item, item ∈ items -> before item candidate) :
    Chosen suppresses before (items ++ [candidate])
      (Selection.consider suppresses kept candidate) := by
  rw [Selection.consider]
  split
  · rename_i suppressed
    exact chosen.drop ordered (List.any_eq_true.mp suppressed)
  · rename_i free
    refine chosen.keep ?_
    intro existing isKept
    by_contra suppressed
    exact free (List.any_eq_true.mpr ⟨existing, isKept, Bool.eq_true_of_not_eq_false suppressed⟩)

/-- The greedy selection from a list that is in order. -/
theorem greedy_chosen (ordered : items.Pairwise before) :
    Chosen suppresses before items (greedy suppresses items) := by
  induction items using List.reverseRecOn with
  | nil => exact Chosen.nil
  | append_singleton items last ih =>
      rcases List.pairwise_append.mp ordered with ⟨initial, _, cross⟩
      rw [greedy, List.foldl_append]
      refine (ih initial).consider ?_
      intro item isItem
      exact cross item isItem last (List.mem_singleton_self last)

end Greedy

/-! ## The best items -/

section Best

variable {Item Key : Type} [LinearOrder Key]

/-- No more than a number of the items, and as many as there are up to that
number, such that none of the others has a greater key than one of them. -/
def Best (key : Item -> Key) (number : Nat) (items top : Multiset Item) : Prop :=
  top.card = min number items.card ∧
    Exists fun rest => items = top + rest ∧
      forall low, low ∈ rest -> forall high, high ∈ top -> key low <= key high

variable {key : Item -> Key} {number : Nat} {items top : Multiset Item} {item : Item}

theorem Best.zero : Best key number 0 0 :=
  ⟨by simp, 0, by simp, by simp⟩

/-- While there is room for one more item, nothing was left out. -/
theorem Best.whole (best : Best key number items top) (room : top.card < number) :
    items = top := by
  rcases best with ⟨size, rest, split, _⟩
  have all : items.card = top.card + rest.card := by rw [split, Multiset.card_add]
  have none : rest.card = 0 := by omega
  rw [split, Multiset.card_eq_zero.mp none, add_zero]

theorem Best.add (best : Best key number items top) (room : top.card < number) :
    Best key number (item ::ₘ items) (item ::ₘ top) := by
  rw [best.whole room]
  refine ⟨?_, 0, (add_zero _).symm, by simp⟩
  rw [Multiset.card_cons]
  omega

/-- An item that is not above the lowest of the best ones is left out. -/
theorem Best.skip (best : Best key number items top) (full : number <= top.card)
    {lowest : Item} (least : forall high, high ∈ top -> key lowest <= key high)
    (below : key item <= key lowest) : Best key number (item ::ₘ items) top := by
  rcases best with ⟨size, rest, split, greatest⟩
  refine ⟨?_, item ::ₘ rest, ?_, ?_⟩
  · rw [Multiset.card_cons]
    omega
  · rw [split, Multiset.add_cons]
  · intro low isRest high isTop
    rcases Multiset.mem_cons.mp isRest with same | other
    · rw [same]
      exact below.trans (least high isTop)
    · exact greatest low other high isTop

/-- An item above the lowest of the best ones takes its place. -/
theorem Best.replace {lowest : Item} {others : Multiset Item}
    (best : Best key number items (lowest ::ₘ others))
    (full : number <= (lowest ::ₘ others).card)
    (least : forall high, high ∈ lowest ::ₘ others -> key lowest <= key high)
    (above : key lowest < key item) : Best key number (item ::ₘ items) (item ::ₘ others) := by
  rcases best with ⟨size, rest, split, greatest⟩
  refine ⟨?_, lowest ::ₘ rest, ?_, ?_⟩
  · simp only [Multiset.card_cons] at size full ⊢
    omega
  · rw [split, Multiset.cons_add, Multiset.cons_add, Multiset.add_cons]
  · have lowestBelow : forall high, high ∈ item ::ₘ others -> key lowest <= key high := by
      intro high isTop
      rcases Multiset.mem_cons.mp isTop with same | other
      · rw [same]
        exact le_of_lt above
      · exact least high (Multiset.mem_cons_of_mem other)
    intro low isRest high isTop
    rcases Multiset.mem_cons.mp isRest with same | other
    · rw [same]
      exact lowestBelow high isTop
    · exact (greatest low other lowest (Multiset.mem_cons_self lowest others)).trans
        (lowestBelow high isTop)

end Best

end Selection
end DyunGu
