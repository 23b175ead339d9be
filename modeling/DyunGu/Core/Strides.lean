import DyunGu.Core.Tensor
import DyunGu.Lib.Outcome
import DyunGu.Lib.Strided

namespace DyunGu
namespace Core

/-!
# Counts of elements and contiguous strides

The logical count is a product that is checked from the left, the contiguous
strides are products that are checked from the right, and the physical count
is one more than a checked sum.
-/

open Strided

namespace Strides

/-- The loop from the last dimension to the first, with the next stride. -/
def contiguousFrom : List Nat -> Except TensorError (List Nat × Nat)
  | [] => .ok ([], 1)
  | dim :: dims => do
      let (values, stride) <- contiguousFrom dims
      let next <- orElseError (checkedMul stride dim) (.shape "contiguous stride overflow")
      return (stride :: values, next)

/-- The memory for the values is part of the environment, and there is
enough. -/
def contiguousFor (shape : Shape) : Except TensorError Strides := do
  let (values, _) <- contiguousFrom shape.dims
  return ⟨values⟩

def isContiguousFor (strides : Strides) (shape : Shape) : Except TensorError Bool := do
  let contiguous <- contiguousFor shape
  return decide (strides.values = contiguous.values)

end Strides

def Shape.contiguousStrides (shape : Shape) : Except TensorError Strides :=
  Strides.contiguousFor shape

section Checked

variable {first second : Nat}

theorem checkedMul_of_le (fits : first * second <= usizeMax) (error : TensorError) :
    orElseError (checkedMul first second) error = .ok (first * second) := by
  rw [checkedMul, if_pos fits]
  rfl

theorem checkedMul_of_lt (overflows : usizeMax < first * second) (error : TensorError) :
    orElseError (checkedMul first second) error = .error error := by
  rw [checkedMul, if_neg (Nat.not_le.mpr overflows)]
  rfl

theorem checkedAdd_of_le (fits : first + second <= usizeMax) (error : TensorError) :
    orElseError (checkedAdd first second) error = .ok (first + second) := by
  rw [checkedAdd, if_pos fits]
  rfl

theorem checkedAdd_of_lt (overflows : usizeMax < first + second) (error : TensorError) :
    orElseError (checkedAdd first second) error = .error error := by
  rw [checkedAdd, if_neg (Nat.not_le.mpr overflows)]
  rfl

end Checked

/-! ## The logical count -/

/-- After a zero nothing overflows, and before it the products only grow. -/
theorem elementCount_from (dims : List Nat) {total : Nat} (fits : total <= usizeMax) :
    dims.foldlM (fun total dim =>
        orElseError (checkedMul total dim) (.shape "shape element count overflow")) total =
      if total * (leading dims).prod <= usizeMax then .ok (total * dims.prod)
      else .error (.shape "shape element count overflow") := by
  induction dims generalizing total with
  | nil => simp [leading, fits, pure, Except.pure]
  | cons dim dims ih =>
      rw [List.foldlM_cons, List.prod_cons]
      by_cases isZero : dim = 0
      · subst isZero
        rw [checkedMul_of_le (Nat.zero_le _), leading_cons_zero]
        refine (ih (Nat.zero_le _)).trans ?_
        simp [fits]
      · have grows : total * dim <= total * (dim * (leading dims).prod) :=
          Nat.mul_le_mul_left _ (Nat.le_mul_of_pos_right _ (prod_pos (leading_nonzero dims)))
        rw [leading_cons isZero, List.prod_cons]
        by_cases small : total * dim <= usizeMax
        · rw [checkedMul_of_le small]
          refine (ih small).trans ?_
          rw [Nat.mul_assoc, Nat.mul_assoc]
        · rw [checkedMul_of_lt (Nat.not_le.mp small), if_neg (by omega)]
          rfl

theorem Shape.elementCount_eq (shape : Shape) :
    shape.elementCount =
      if (leading shape.dims).prod <= usizeMax then .ok shape.dims.prod
      else .error (.shape "shape element count overflow") := by
  have counted := elementCount_from shape.dims (show 1 <= usizeMax by decide)
  rw [Nat.one_mul, Nat.one_mul] at counted
  exact counted

/-- The count that the dimensions have by definition, as far as it is a machine
word. -/
def Shape.trueCount (shape : Shape) : Except TensorError Nat :=
  if shape.dims.prod <= usizeMax then .ok shape.dims.prod
  else .error (.shape "shape element count overflow")

theorem Shape.elementCount_of_ok {shape : Shape} {count : Nat}
    (counted : shape.elementCount = .ok count) : count = shape.dims.prod := by
  rw [elementCount_eq] at counted
  split at counted
  · cases counted
    rfl
  · cases counted

theorem Shape.elementCount_of_nonzero {shape : Shape} (nonzero : 0 ∉ shape.dims) :
    shape.elementCount = shape.trueCount := by
  rw [elementCount_eq, trueCount, leading_eq_self nonzero]

theorem Shape.trueCount_of_zero {shape : Shape} (isEmpty : 0 ∈ shape.dims) :
    shape.trueCount = .ok 0 := by
  rw [trueCount, List.prod_eq_zero isEmpty]
  rfl

theorem Shape.trueCount_perm {first second : Shape} (permuted : first.dims.Perm second.dims) :
    first.trueCount = second.trueCount := by
  rw [trueCount, trueCount, permuted.prod_eq]

/-- A shape with a zero is counted exactly if nothing before the first zero
overflows. -/
theorem Shape.elementCount_of_zero {shape : Shape} (isEmpty : 0 ∈ shape.dims) :
    shape.elementCount = .ok 0 <-> (leading shape.dims).prod <= usizeMax := by
  rw [elementCount_eq, List.prod_eq_zero isEmpty]
  constructor
  · intro counted
    split at counted
    · rename_i fits
      exact fits
    · cases counted
  · intro fits
    rw [if_pos fits]

/-- The count is the product exactly if no dimension is zero or nothing before
the first zero overflows.  It is the same for all orders of the dimensions
exactly if no dimension is zero or the other dimensions do not overflow. -/
theorem Shape.elementCount_faithful (shape : Shape) :
    (shape.elementCount = shape.trueCount <->
      0 ∉ shape.dims ∨ (leading shape.dims).prod <= usizeMax) ∧
    ((forall permuted : Shape, permuted.dims.Perm shape.dims ->
        permuted.elementCount = shape.elementCount) <->
      0 ∉ shape.dims ∨ (nonzeros shape.dims).prod <= usizeMax) := by
  by_cases isEmpty : 0 ∈ shape.dims
  · rw [trueCount_of_zero isEmpty, elementCount_of_zero isEmpty]
    refine ⟨⟨Or.inr, fun either => either.resolve_left (not_not.mpr isEmpty)⟩, ?_⟩
    constructor
    · intro unchanged
      rcases exists_perms isEmpty with ⟨⟨others, zeroFirst⟩, zeros, zeroLast⟩
      have early : (Shape.mk (0 :: others)).elementCount = .ok 0 := by
        rw [elementCount_of_zero List.mem_cons_self, leading_cons_zero]
        decide
      rw [unchanged _ zeroFirst, ← unchanged _ zeroLast] at early
      rw [elementCount_of_zero (by simp), leading_append (nonzeros_nonzero _)] at early
      exact Or.inr early
    · intro either permuted isPerm
      have fits := either.resolve_left (not_not.mpr isEmpty)
      have counted : forall other : Shape, other.dims.Perm shape.dims ->
          other.elementCount = .ok 0 := by
        intro other same
        rw [elementCount_of_zero (same.mem_iff.mpr isEmpty)]
        exact (leading_prod_le _).trans ((nonzeros_perm same).trans_le fits)
      rw [counted permuted isPerm, counted shape (List.Perm.refl _)]
  · rw [elementCount_of_nonzero isEmpty]
    refine ⟨⟨fun _ => Or.inl isEmpty, fun _ => rfl⟩, fun _ => Or.inl isEmpty, ?_⟩
    intro _ permuted isPerm
    rw [elementCount_of_nonzero (mt isPerm.mem_iff.mp isEmpty)]
    exact trueCount_perm isPerm

/-- A zero behind an overflow is not seen, and one before it hides it. -/
theorem elementCount_late_zero :
    (Shape.mk [2 ^ 63, 4, 0]).elementCount = .error (.shape "shape element count overflow") ∧
    (Shape.mk [2 ^ 63, 4, 0]).trueCount = .ok 0 ∧
    [0, 2 ^ 63, 4].Perm [2 ^ 63, 4, 0] ∧ (Shape.mk [0, 2 ^ 63, 4]).elementCount = .ok 0 := by
  decide

/-! ## Contiguous strides -/

/-- Every product of trailing dimensions is a machine word. -/
def TrailingFit (dims : List Nat) : Prop := forall tail, tail <:+ dims -> tail.prod <= usizeMax

theorem trailingFit_nil : TrailingFit [] := by
  intro tail suffix
  rw [List.suffix_nil.mp suffix]
  decide

theorem trailingFit_cons {dim : Nat} {dims : List Nat} :
    TrailingFit (dim :: dims) <-> dim * dims.prod <= usizeMax ∧ TrailingFit dims := by
  constructor
  · intro fit
    refine ⟨fit _ List.suffix_rfl, ?_⟩
    intro tail suffix
    exact fit tail (suffix.trans (List.suffix_cons dim dims))
  · rintro ⟨whole, fit⟩ tail suffix
    rcases List.suffix_cons_iff.mp suffix with rfl | suffix
    · exact whole
    · exact fit tail suffix

/-- Without a zero, the largest of these products is that of all dimensions. -/
theorem trailingFit_of_nonzero {dims : List Nat} (nonzero : 0 ∉ dims) :
    TrailingFit dims <-> dims.prod <= usizeMax :=
  ⟨fun fit => fit dims List.suffix_rfl,
    fun fits _ suffix => (suffix_prod_le suffix nonzero).trans fits⟩

namespace Strides

theorem contiguousFrom_of_fit {dims : List Nat} (fit : TrailingFit dims) :
    contiguousFrom dims = .ok (rowMajor dims, dims.prod) := by
  induction dims with
  | nil => rfl
  | cons dim dims ih =>
      rcases trailingFit_cons.mp fit with ⟨whole, fit⟩
      rw [Nat.mul_comm] at whole
      rw [contiguousFrom, ih fit]
      show (orElseError (checkedMul dims.prod dim) _ >>= _) = _
      rw [checkedMul_of_le whole, rowMajor, List.prod_cons, Nat.mul_comm]
      rfl

theorem contiguousFrom_of_not_fit {dims : List Nat} (overflows : ¬ TrailingFit dims) :
    contiguousFrom dims = .error (.shape "contiguous stride overflow") := by
  induction dims with
  | nil => exact absurd trailingFit_nil overflows
  | cons dim dims ih =>
      rw [contiguousFrom]
      by_cases fit : TrailingFit dims
      · have large : usizeMax < dims.prod * dim := by
          apply Nat.not_le.mp
          intro whole
          rw [Nat.mul_comm] at whole
          exact overflows (trailingFit_cons.mpr ⟨whole, fit⟩)
        rw [contiguousFrom_of_fit fit]
        show (orElseError (checkedMul dims.prod dim) _ >>= _) = _
        rw [checkedMul_of_lt large]
        rfl
      · rw [ih fit]
        rfl

theorem contiguousFor_of_fit {shape : Shape} (fit : TrailingFit shape.dims) :
    contiguousFor shape = .ok ⟨rowMajor shape.dims⟩ := by
  rw [contiguousFor, contiguousFrom_of_fit fit]
  rfl

theorem contiguousFor_of_not_fit {shape : Shape} (overflows : ¬ TrailingFit shape.dims) :
    contiguousFor shape = .error (.shape "contiguous stride overflow") := by
  rw [contiguousFor, contiguousFrom_of_not_fit overflows]
  rfl

theorem contiguousFor_eq_ok {shape : Shape} {strides : Strides} :
    contiguousFor shape = .ok strides <->
      TrailingFit shape.dims ∧ strides = ⟨rowMajor shape.dims⟩ := by
  by_cases fit : TrailingFit shape.dims
  · rw [contiguousFor_of_fit fit]
    constructor
    · rintro ⟨⟩
      exact ⟨fit, rfl⟩
    · rintro ⟨_, rfl⟩
      rfl
  · rw [contiguousFor_of_not_fit fit]
    constructor
    · rintro ⟨⟩
    · intro both
      exact absurd both.1 fit

/-! ## The physical count -/

/-- What one dimension adds to the largest offset. -/
def addOffset (maxIndex : Nat) (pair : Nat × Nat) : Except TensorError Nat := do
  if pair.2 = 0 then
    throw (.shape "stride must be non-zero")
  let offset <- orElseError (checkedMul (pair.1 - 1) pair.2)
    (.shape "stride physical offset overflow")
  orElseError (checkedAdd maxIndex offset) (.shape "physical element count overflow")

theorem addOffset_of_le {maxIndex dim stride : Nat} (nonzero : stride ≠ 0)
    (fits : maxIndex + (dim - 1) * stride <= usizeMax) :
    addOffset maxIndex (dim, stride) = .ok (maxIndex + (dim - 1) * stride) := by
  unfold addOffset
  rw [if_neg nonzero, checkedMul_of_le ((Nat.le_add_left _ _).trans fits)]
  exact checkedAdd_of_le fits _

theorem addOffset_eq_ok {maxIndex dim stride index : Nat}
    (added : addOffset maxIndex (dim, stride) = .ok index) :
    stride ≠ 0 ∧ index = maxIndex + (dim - 1) * stride ∧ index <= usizeMax := by
  unfold addOffset at added
  split at added
  · cases added
  · rename_i nonzero
    by_cases small : (dim - 1) * stride <= usizeMax
    · rw [checkedMul_of_le small] at added
      change orElseError (checkedAdd maxIndex ((dim - 1) * stride)) _ = _ at added
      by_cases fits : maxIndex + (dim - 1) * stride <= usizeMax
      · rw [checkedAdd_of_le fits] at added
        cases added
        exact ⟨nonzero, rfl, fits⟩
      · rw [checkedAdd_of_lt (Nat.not_le.mp fits)] at added
        cases added
    · rw [checkedMul_of_lt (Nat.not_le.mp small)] at added
      cases added

/-- The sum is that of the last index, and no part of it overflows unless all
of it does. -/
theorem addOffsets_eq_ok (dims values : List Nat) (sameRank : values.length = dims.length)
    {maxIndex : Nat} (fits : maxIndex <= usizeMax) (index : Nat) :
    (dims.zip values).foldlM addOffset maxIndex = .ok index <->
      0 ∉ values ∧ maxIndex + offset (corner dims) values <= usizeMax ∧
        index = maxIndex + offset (corner dims) values := by
  induction dims generalizing values maxIndex with
  | nil =>
      cases List.length_eq_zero_iff.mp sameRank
      simp [corner, fits, pure, Except.pure, eq_comm]
  | cons dim dims ih =>
      cases values with
      | nil => cases sameRank
      | cons stride values =>
          have sameRank : values.length = dims.length := Nat.succ.inj sameRank
          rw [List.zip_cons_cons, List.foldlM_cons, corner_cons, offset_cons, ← Nat.add_assoc]
          constructor
          · intro summed
            rcases Outcome.bind_iff.mp summed with ⟨next, added, later⟩
            rcases addOffset_eq_ok added with ⟨nonzero, rfl, small⟩
            rcases (ih values sameRank small).mp later with ⟨others, total, isIndex⟩
            exact ⟨List.not_mem_cons_of_ne_of_not_mem (Ne.symm nonzero) others, total, isIndex⟩
          · rintro ⟨nonzero, total, isIndex⟩
            rcases not_or.mp (mt List.mem_cons.mpr nonzero) with ⟨isNonzero, others⟩
            have small := (Nat.le_add_right _ _).trans total
            rw [addOffset_of_le (Ne.symm isNonzero) small]
            exact (ih values sameRank small).mpr ⟨others, total, isIndex⟩

/-- With a zero among the dimensions nothing is stored. -/
theorem physicalElementCount_of_zero {strides : Strides} {shape : Shape}
    (sameRank : strides.values.length = shape.dims.length) (isEmpty : 0 ∈ shape.dims) :
    strides.physicalElementCount shape = .ok 0 := by
  unfold physicalElementCount
  rw [if_neg (not_not.mpr sameRank), if_pos isEmpty]
  rfl

theorem physicalElementCount_eq_ok {strides : Strides} {shape : Shape} {count : Nat}
    (sameRank : strides.values.length = shape.dims.length) (nonzero : 0 ∉ shape.dims) :
    strides.physicalElementCount shape = .ok count <->
      0 ∉ strides.values ∧ offset (corner shape.dims) strides.values + 1 <= usizeMax ∧
        count = offset (corner shape.dims) strides.values + 1 := by
  unfold physicalElementCount
  rw [if_neg (not_not.mpr sameRank), if_neg nonzero]
  by_cases scalar : shape.dims = []
  · rw [if_pos scalar]
    rw [scalar] at sameRank
    rw [scalar, List.length_eq_zero_iff.mp sameRank]
    constructor
    · rintro ⟨⟩
      exact ⟨List.not_mem_nil, by decide, rfl⟩
    · rintro ⟨_, _, rfl⟩
      rfl
  · rw [if_neg scalar]
    have summed := addOffsets_eq_ok shape.dims strides.values sameRank (Nat.zero_le usizeMax)
    simp only [Nat.zero_add] at summed
    constructor
    · intro counted
      rcases Outcome.bind_iff.mp counted with ⟨index, sum, last⟩
      rcases (summed index).mp sum with ⟨isNonzero, _, rfl⟩
      by_cases fits : offset (corner shape.dims) strides.values + 1 <= usizeMax
      · rw [checkedAdd_of_le fits] at last
        cases last
        exact ⟨isNonzero, fits, rfl⟩
      · rw [checkedAdd_of_lt (Nat.not_le.mp fits)] at last
        cases last
    · rintro ⟨isNonzero, fits, rfl⟩
      have sum := (summed _).mpr ⟨isNonzero, (Nat.le_succ _).trans fits, rfl⟩
      exact Outcome.bind_iff.mpr ⟨_, sum, checkedAdd_of_le fits _⟩

/-- What is stored contiguously is what is counted, if it can be counted. -/
theorem physicalElementCount_rowMajor {shape : Shape} {count : Nat}
    (counted : shape.elementCount = .ok count) :
    physicalElementCount ⟨rowMajor shape.dims⟩ shape = .ok count := by
  have isProduct := Shape.elementCount_of_ok counted
  by_cases isEmpty : 0 ∈ shape.dims
  · rw [isProduct, List.prod_eq_zero isEmpty]
    exact physicalElementCount_of_zero (rowMajor_length _) isEmpty
  · rw [Shape.elementCount_of_nonzero isEmpty, Shape.trueCount] at counted
    split at counted
    · rename_i fits
      rw [physicalElementCount_eq_ok (rowMajor_length _) isEmpty, offset_corner_rowMajor isEmpty]
      exact ⟨rowMajor_nonzero isEmpty, fits, isProduct⟩
    · cases counted

/-- Without zero dimensions, the physical count is one more than the largest
offset that an index within the shape reaches, and with contiguous strides it
is the logical count. -/
theorem physicalElementCount_extent (strides : Strides) (shape : Shape)
    (nonzero : 0 ∉ shape.dims) :
    (forall count, strides.values.length = shape.dims.length ->
      strides.physicalElementCount shape = .ok count ->
        Exists fun largest => IsGreatest (offsets shape.dims strides.values) largest ∧
          count = largest + 1) ∧
    (contiguousFor shape = .ok strides ->
      strides.physicalElementCount shape = shape.elementCount) := by
  constructor
  · intro count sameRank counted
    rcases (physicalElementCount_eq_ok sameRank nonzero).mp counted with ⟨_, _, isCount⟩
    exact ⟨_, corner_isGreatest nonzero strides.values, isCount⟩
  · intro contiguous
    rcases contiguousFor_eq_ok.mp contiguous with ⟨fit, rfl⟩
    have fits := (trailingFit_of_nonzero nonzero).mp fit
    have counted : shape.elementCount = .ok shape.dims.prod := by
      rw [Shape.elementCount_of_nonzero nonzero, Shape.trueCount, if_pos fits]
    rw [counted]
    exact physicalElementCount_rowMajor counted

/-- Two rows of three elements, one element apart from each other and next to
each other. -/
theorem rows_extent :
    (Exists fun largest => IsGreatest (offsets [2, 3] [4, 1]) largest ∧ 7 = largest + 1) ∧
    physicalElementCount ⟨[3, 1]⟩ ⟨[2, 3]⟩ = Shape.elementCount ⟨[2, 3]⟩ :=
  ⟨(physicalElementCount_extent ⟨[4, 1]⟩ ⟨[2, 3]⟩ (by decide)).1 7 rfl (by decide),
    (physicalElementCount_extent ⟨[3, 1]⟩ ⟨[2, 3]⟩ (by decide)).2 (by decide)⟩

end Strides
end Core
end DyunGu
