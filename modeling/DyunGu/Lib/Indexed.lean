import Mathlib.Algebra.BigOperators.Fin
import Mathlib.Algebra.Order.BigOperators.Group.Finset
import Mathlib.Logic.Function.Basic

namespace DyunGu
namespace Indexed

/-!
# Families of parties and their totals

Protocols with a fixed number of parties keep one local value per party and
count something over all of them.  A step replaces one local value, and these
lemmas say what that does to a total.
-/

variable {k : Nat} {Value : Type}

/-- Replacing one local value replaces one summand. -/
theorem sum_update (weight : Value -> Nat) (values : Fin k -> Value) (i : Fin k)
    (after : Value) :
    ∑ j, weight (Function.update values i after j) + weight (values i) =
      ∑ j, weight (values j) + weight after := by
  have others : ∑ j ∈ Finset.univ.erase i, weight (Function.update values i after j) =
      ∑ j ∈ Finset.univ.erase i, weight (values j) := by
    apply Finset.sum_congr rfl
    intro j member
    rw [Function.update_of_ne (Finset.ne_of_mem_erase member)]
  have before := Finset.add_sum_erase Finset.univ (fun j => weight (values j)) (Finset.mem_univ i)
  have now := Finset.add_sum_erase Finset.univ
    (fun j => weight (Function.update values i after j)) (Finset.mem_univ i)
  simp only [Function.update_self] at now
  omega

/-- After a local value was replaced, a party has the new value or its own. -/
theorem update_cases {Party : Type} [DecidableEq Party] {values : Party -> Value}
    {changed party : Party} {after value : Value}
    (has : Function.update values changed after party = value) :
    (party = changed ∧ after = value) ∨ (party ≠ changed ∧ values party = value) := by
  by_cases same : party = changed
  · rw [same, Function.update_self] at has
    exact Or.inl ⟨same, has⟩
  · rw [Function.update_of_ne same] at has
    exact Or.inr ⟨same, has⟩

/-- One party contributes at most the total. -/
theorem le_sum (weight : Fin k -> Nat) (i : Fin k) : weight i <= ∑ j, weight j :=
  Finset.single_le_sum (fun _ _ => Nat.zero_le _) (Finset.mem_univ i)

end Indexed
end DyunGu
