import Mathlib.Data.Set.Insert
import Mathlib.Data.Fintype.Card
import Mathlib.Logic.Relation

namespace DyunGu
namespace Digraph

open Relation

variable {Node : Type} {edge : Node -> Node -> Prop}

/-!
# Cycles of a directed graph

A set of nodes is settled if no edge leads out of it and no cycle goes through
it.  A search may settle a node whose successors are all settled, so a set that
grows in this way stays settled.
-/

/-- Some walk along at least one edge comes back to its start. -/
def Cyclic (edge : Node -> Node -> Prop) : Prop :=
  Exists fun node => TransGen edge node node

/-- An edge back to a node that leads here closes a cycle. -/
theorem cyclic_of_back_edge {early late : Node} (leads : ReflTransGen edge early late)
    (back : edge late early) : Cyclic edge :=
  ⟨late, TransGen.head' back leads⟩

structure Settled (edge : Node -> Node -> Prop) (nodes : Set Node) : Prop where
  closed : forall first second, first ∈ nodes -> edge first second -> second ∈ nodes
  acyclic : forall node, node ∈ nodes -> ¬ TransGen edge node node

theorem settled_empty : Settled edge (∅ : Set Node) where
  closed := fun _ _ impossible => absurd impossible (Set.notMem_empty _)
  acyclic := fun _ impossible => absurd impossible (Set.notMem_empty _)

namespace Settled

variable {nodes : Set Node} (settled : Settled edge nodes)

include settled

/-- No walk leads out. -/
theorem walk {first last : Node} (member : first ∈ nodes) (leads : ReflTransGen edge first last) :
    last ∈ nodes := by
  induction leads with
  | refl => exact member
  | tail _ step ih => exact settled.closed _ _ ih step

theorem insert {node : Node} (successors : forall next, edge node next -> next ∈ nodes)
    (fresh : node ∉ nodes) : Settled edge (insert node nodes) where
  closed := by
    intro first second member step
    rcases Set.mem_insert_iff.mp member with rfl | member
    · exact Set.mem_insert_of_mem _ (successors second step)
    · exact Set.mem_insert_of_mem _ (settled.closed first second member step)
  acyclic := by
    intro other member cycle
    rcases Set.mem_insert_iff.mp member with rfl | member
    · rcases TransGen.head'_iff.mp cycle with ⟨next, step, back⟩
      exact fresh (settled.walk (successors next step) back)
    · exact settled.acyclic other member cycle

end Settled

/-- Without cycles the nodes can be ranked so that every edge leads to a higher
rank: count the nodes that lead to a node. -/
theorem exists_rank [Fintype Node] (acyclic : ¬ Cyclic edge) :
    Exists fun rank : Node -> Nat =>
      (forall first second, edge first second -> rank first < rank second) ∧
        forall node, rank node < Fintype.card Node := by
  classical
  let before := fun node => Finset.univ.filter fun other => TransGen edge other node
  refine ⟨fun node => (before node).card, ?_, ?_⟩
  · intro first second step
    apply Finset.card_lt_card
    refine (Finset.ssubset_iff_of_subset ?_).mpr ⟨first, ?_, ?_⟩
    · intro other member
      have leads := (Finset.mem_filter.mp member).2
      exact Finset.mem_filter.mpr ⟨Finset.mem_univ other, leads.tail step⟩
    · exact Finset.mem_filter.mpr ⟨Finset.mem_univ first, TransGen.single step⟩
    · intro member
      exact acyclic ⟨first, (Finset.mem_filter.mp member).2⟩
  · intro node
    apply Finset.card_lt_card
    refine Finset.ssubset_univ_iff.mpr fun whole => ?_
    have member : node ∈ before node := by
      rw [whole]
      exact Finset.mem_univ node
    exact acyclic ⟨node, (Finset.mem_filter.mp member).2⟩

end Digraph
end DyunGu
