import Mathlib.Algebra.BigOperators.Ring.List
import Mathlib.Algebra.Order.BigOperators.Group.List
import Mathlib.Algebra.Order.Ring.Nat
import Mathlib.Data.List.TakeWhile
import Mathlib.Order.Bounds.Defs

namespace DyunGu
namespace Strided

/-!
# Strided index spaces

An index space has one extent for each dimension.  Strides send an index to an
offset.  The index whose coordinates are all the last ones has the largest
offset, and with row-major strides that offset is one less than the number of
indices.
-/

/-- An index has one coordinate below each extent. -/
def InBounds (index extents : List Nat) : Prop := List.Forall₂ (· < ·) index extents

def offset (index strides : List Nat) : Nat := (List.zipWith (· * ·) index strides).sum

/-- The last index. -/
def corner (extents : List Nat) : List Nat := extents.map (· - 1)

/-- The offsets that are reached. -/
def offsets (extents strides : List Nat) : Set Nat :=
  {position | Exists fun index => InBounds index extents ∧ offset index strides = position}

/-- The stride of a dimension is the product of the extents after it. -/
def rowMajor : List Nat -> List Nat
  | [] => []
  | _ :: extents => extents.prod :: rowMajor extents

@[simp] theorem offset_nil (strides : List Nat) : offset [] strides = 0 := rfl

@[simp] theorem offset_nil_strides (index : List Nat) : offset index [] = 0 := by
  cases index <;> rfl

@[simp] theorem offset_cons (coordinate stride : Nat) (index strides : List Nat) :
    offset (coordinate :: index) (stride :: strides) =
      coordinate * stride + offset index strides := by
  simp [offset]

@[simp] theorem corner_cons (extent : Nat) (extents : List Nat) :
    corner (extent :: extents) = (extent - 1) :: corner extents := rfl

@[simp] theorem rowMajor_length (extents : List Nat) :
    (rowMajor extents).length = extents.length := by
  induction extents with
  | nil => rfl
  | cons extent extents ih => simp [rowMajor, ih]

theorem corner_inBounds {extents : List Nat} (nonzero : 0 ∉ extents) :
    InBounds (corner extents) extents := by
  induction extents with
  | nil => exact List.Forall₂.nil
  | cons extent extents ih =>
      rcases not_or.mp (mt List.mem_cons.mpr nonzero) with ⟨isNonzero, others⟩
      exact List.Forall₂.cons (Nat.sub_one_lt (Ne.symm isNonzero)) (ih others)

theorem offset_le_corner {index extents : List Nat} (strides : List Nat)
    (inBounds : InBounds index extents) :
    offset index strides <= offset (corner extents) strides := by
  induction inBounds generalizing strides with
  | nil => exact Nat.le_refl _
  | cons below _ ih =>
      cases strides with
      | nil => simp
      | cons stride strides =>
          rw [corner_cons, offset_cons, offset_cons]
          exact Nat.add_le_add (Nat.mul_le_mul_right stride (Nat.le_sub_one_of_lt below))
            (ih strides)

/-- The last index reaches the largest offset. -/
theorem corner_isGreatest {extents : List Nat} (nonzero : 0 ∉ extents) (strides : List Nat) :
    IsGreatest (offsets extents strides) (offset (corner extents) strides) := by
  constructor
  · exact ⟨corner extents, corner_inBounds nonzero, rfl⟩
  · rintro position ⟨index, inBounds, rfl⟩
    exact offset_le_corner strides inBounds

/-- With row-major strides nothing is left out before the last offset. -/
theorem offset_corner_rowMajor {extents : List Nat} (nonzero : 0 ∉ extents) :
    offset (corner extents) (rowMajor extents) + 1 = extents.prod := by
  induction extents with
  | nil => rfl
  | cons extent extents ih =>
      rcases not_or.mp (mt List.mem_cons.mpr nonzero) with ⟨isNonzero, others⟩
      rw [corner_cons, rowMajor, offset_cons, List.prod_cons, Nat.add_assoc, ih others,
        ← Nat.succ_mul]
      congr 1
      omega

theorem prod_pos {factors : List Nat} (nonzero : 0 ∉ factors) : 0 < factors.prod :=
  Nat.pos_of_ne_zero (List.prod_ne_zero nonzero)

theorem rowMajor_nonzero {extents : List Nat} (nonzero : 0 ∉ extents) : 0 ∉ rowMajor extents := by
  induction extents with
  | nil => exact List.not_mem_nil
  | cons extent extents ih =>
      rcases not_or.mp (mt List.mem_cons.mpr nonzero) with ⟨_, others⟩
      exact List.not_mem_cons_of_ne_of_not_mem (prod_pos others).ne (ih others)

/-! ## The last dimension -/

theorem offset_append {index strides : List Nat} (same : index.length = strides.length)
    (coordinate stride : Nat) :
    offset (index ++ [coordinate]) (strides ++ [stride]) =
      offset index strides + coordinate * stride := by
  rw [offset, List.zipWith_append same, List.sum_append]
  simp [offset]

/-- The stride of a dimension that an index does not have is not looked at. -/
theorem offset_append_stride {index strides : List Nat} (same : index.length = strides.length)
    (stride : Nat) : offset index (strides ++ [stride]) = offset index strides := by
  rw [offset, ← List.append_nil index, List.zipWith_append same, offset]
  simp

theorem offset_scale (index strides : List Nat) (factor : Nat) :
    offset index (strides.map (· * factor)) = offset index strides * factor := by
  induction index generalizing strides with
  | nil => simp
  | cons coordinate index ih =>
      cases strides with
      | nil => simp
      | cons stride strides =>
          rw [List.map_cons, offset_cons, offset_cons, ih, Nat.add_mul, Nat.mul_assoc]

theorem inBounds_append {index extents : List Nat} {coordinate extent : Nat}
    (inBounds : InBounds index extents) (below : coordinate < extent) :
    InBounds (index ++ [coordinate]) (extents ++ [extent]) :=
  List.rel_append inBounds (List.Forall₂.cons below List.Forall₂.nil)

theorem InBounds.append_exists {index extents : List Nat} {extent : Nat}
    (inBounds : InBounds index (extents ++ [extent])) : Exists fun init => Exists fun coordinate =>
      index = init ++ [coordinate] ∧ InBounds init extents ∧ coordinate < extent := by
  induction extents generalizing index with
  | nil =>
      cases inBounds with
      | cons below rest =>
          cases rest
          exact ⟨[], _, rfl, List.Forall₂.nil, below⟩
  | cons other extents ih =>
      cases inBounds with
      | cons below rest =>
          rcases ih rest with ⟨init, coordinate, rfl, initInBounds, lastBelow⟩
          exact ⟨_ :: init, coordinate, rfl, List.Forall₂.cons below initInBounds, lastBelow⟩

theorem InBounds.length_eq {index extents : List Nat} (inBounds : InBounds index extents) :
    index.length = extents.length := List.Forall₂.length_eq inBounds

/-- Different indices have different offsets. -/
def Separates (strides extents : List Nat) : Prop :=
  forall first second, InBounds first extents -> InBounds second extents ->
    offset first strides = offset second strides -> first = second

/-! ## Products of some of the extents -/

/-- The factors before the first zero. -/
def leading (factors : List Nat) : List Nat := factors.takeWhile (· ≠ 0)

theorem leading_nonzero (factors : List Nat) : 0 ∉ leading factors := by
  intro member
  have isNonzero := List.mem_takeWhile_imp member
  simp at isNonzero

theorem leading_eq_self {factors : List Nat} (nonzero : 0 ∉ factors) :
    leading factors = factors := by
  apply List.takeWhile_eq_self_iff.mpr
  intro factor member
  exact decide_eq_true fun isZero => nonzero (isZero ▸ member)

theorem leading_cons_zero (factors : List Nat) : leading (0 :: factors) = [] := by
  simp [leading]

theorem leading_cons {factor : Nat} (nonzero : factor ≠ 0) (factors : List Nat) :
    leading (factor :: factors) = factor :: leading factors := by
  simp [leading, nonzero]

theorem leading_append {factors : List Nat} (nonzero : 0 ∉ factors) (others : List Nat) :
    leading (factors ++ 0 :: others) = factors := by
  induction factors with
  | nil => exact leading_cons_zero others
  | cons factor factors ih =>
      rcases not_or.mp (mt List.mem_cons.mpr nonzero) with ⟨isNonzero, rest⟩
      rw [List.cons_append, leading_cons (Ne.symm isNonzero), ih rest]

/-- The factors that are not zero. -/
def nonzeros (factors : List Nat) : List Nat := factors.filter (· ≠ 0)

theorem nonzeros_nonzero (factors : List Nat) : 0 ∉ nonzeros factors := by
  simp [nonzeros]

theorem leading_prod_le (factors : List Nat) : (leading factors).prod <= (nonzeros factors).prod := by
  induction factors with
  | nil => exact Nat.le_refl _
  | cons factor factors ih =>
      by_cases isZero : factor = 0
      · subst isZero
        rw [leading_cons_zero]
        exact prod_pos (nonzeros_nonzero _)
      · have kept : nonzeros (factor :: factors) = factor :: nonzeros factors := by
          simp [nonzeros, isZero]
        rw [leading_cons isZero, kept, List.prod_cons, List.prod_cons]
        exact Nat.mul_le_mul_left factor ih

theorem nonzeros_perm {first second : List Nat} (permuted : first.Perm second) :
    (nonzeros first).prod = (nonzeros second).prod :=
  (permuted.filter _).prod_eq

/-- The zeros can come first or last. -/
theorem exists_perms {factors : List Nat} (isEmpty : 0 ∈ factors) :
    (Exists fun others => (0 :: others).Perm factors) ∧
      Exists fun others => (nonzeros factors ++ 0 :: others).Perm factors := by
  constructor
  · exact ⟨_, (List.perm_cons_erase isEmpty).symm⟩
  · have isZero : 0 ∈ factors.filter (fun factor => !decide (factor ≠ 0)) :=
      List.mem_filter.mpr ⟨isEmpty, rfl⟩
    refine ⟨_, ((List.perm_cons_erase isZero).symm.append_left _).trans ?_⟩
    exact List.filter_append_perm _ factors

/-- Trailing factors of a product without a zero are no larger than it. -/
theorem suffix_prod_le {tail factors : List Nat} (suffix : tail <:+ factors)
    (nonzero : 0 ∉ factors) : tail.prod <= factors.prod := by
  rcases suffix with ⟨head, rfl⟩
  rw [List.prod_append]
  exact Nat.le_mul_of_pos_left _ (prod_pos fun member => nonzero (List.mem_append_left _ member))

end Strided
end DyunGu
