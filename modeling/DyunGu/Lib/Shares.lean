import Mathlib.Algebra.Order.Ring.Nat
import Mathlib.Data.Nat.ModEq
import Mathlib.Data.Set.Basic
import Mathlib.Tactic.Ring

namespace DyunGu
namespace Shares

/-!
# Fair shares

Two ways to share among a set of parties.  Who always gives to one that has
least keeps the shares level, and who gives in turn serves each party as often
as the number of turns says, up to one.
-/

section Level

variable {Party : Type}

/-- No party has more than one share more than another. -/
def Level (shares : Party -> Nat) (parties : Set Party) : Prop :=
  forall first second, first ∈ parties -> second ∈ parties -> shares first <= shares second + 1

variable {shares later : Party -> Nat} {parties : Set Party} {chosen : Party}

theorem Level.of_zero (idle : forall party, party ∈ parties -> shares party = 0) :
    Level shares parties := by
  intro first second isFirst _
  rw [idle first isFirst]
  exact Nat.zero_le _

theorem Level.congr (level : Level shares parties)
    (same : forall party, party ∈ parties -> later party = shares party) :
    Level later parties := by
  intro first second isFirst isSecond
  rw [same first isFirst, same second isSecond]
  exact level first second isFirst isSecond

/-- One more share for a party that has least. -/
theorem Level.raise (level : Level shares parties) (isChosen : chosen ∈ parties)
    (least : forall other, other ∈ parties -> shares chosen <= shares other)
    (raised : later chosen = shares chosen + 1)
    (others : forall other, other ∈ parties -> other ≠ chosen -> later other = shares other) :
    Level later parties := by
  intro first second isFirst isSecond
  have between := level first second isFirst isSecond
  by_cases firstChosen : first = chosen
  · subst firstChosen
    by_cases same : second = first
    · rw [same]
      exact Nat.le_succ _
    · rw [raised, others second isSecond same]
      exact Nat.succ_le_succ (least second isSecond)
  · rw [others first isFirst firstChosen]
    by_cases same : second = chosen
    · subst same
      rw [raised]
      exact between.trans (Nat.le_succ _)
    · rw [others second isSecond same]
      exact between

end Level

/-! ## Turns -/

/-- How many of the turns before a number are those of a position. -/
def rounds (parties position number : Nat) : Nat := (number + (parties - 1 - position)) / parties

/-- The turn of a number is that of its remainder. -/
theorem rounds_succ {parties position : Nat} (below : position < parties) (number : Nat) :
    rounds parties position (number + 1) =
      rounds parties position number + if number % parties = position then 1 else 0 := by
  have shifted : number + 1 + (parties - 1 - position) =
      number + (parties - 1 - position) + 1 := by omega
  rw [rounds, rounds, shifted, Nat.succ_div]
  congr 1
  have turn : parties ∣ number + (parties - 1 - position) + 1 <-> number % parties = position := by
    have bound := Nat.mod_lt number (Nat.zero_lt_of_lt below)
    have split : number + (parties - 1 - position) + 1 =
        parties * (number / parties) + (number % parties + (parties - position)) := by
      have whole := Nat.div_add_mod number parties
      omega
    rw [split, Nat.dvd_add_right (Nat.dvd_mul_right _ _)]
    constructor
    · intro divides
      have once := Nat.eq_of_dvd_of_lt_two_mul (by omega) divides (by omega)
      omega
    · rintro rfl
      rw [Nat.add_sub_cancel' (Nat.le_of_lt bound)]
  simp only [turn]

/-- Some consecutive turns are shared as evenly as they can be. -/
theorem rounds_between {parties : Nat} (some_ : 0 < parties) (position start count : Nat) :
    rounds parties position (start + count) = rounds parties position start + count / parties ∨
    rounds parties position (start + count) =
      rounds parties position start + (count + parties - 1) / parties := by
  have bound := Nat.mod_lt (start + (parties - 1 - position)) some_
  have shifted : start + count + (parties - 1 - position) =
      start + (parties - 1 - position) + count := by omega
  rw [rounds, rounds, shifted, Nat.add_div some_, Nat.add_assoc]
  by_cases carries : parties <= (start + (parties - 1 - position)) % parties + count % parties
  · right
    have less : parties - 1 < parties := Nat.sub_one_lt_of_lt some_
    have up : (count + parties - 1) / parties = count / parties + 1 := by
      rw [Nat.add_sub_assoc some_, Nat.add_div some_, Nat.div_eq_of_lt less, Nat.mod_eq_of_lt less,
        if_pos (by omega)]
    rw [if_pos carries, up]
  · left
    rw [if_neg carries, Nat.add_zero]

end Shares
end DyunGu
