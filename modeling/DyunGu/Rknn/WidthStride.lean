import DyunGu.Rknn.PaddedLayout

namespace DyunGu
namespace Rknn

open Core Outcome Strided Odometer

/-!
# Strides from the width stride of the device

The device reports how many elements apart the rows are.  The products of this
number with the sizes are checked, and it is not compared with the width.
-/

/-- What the strides are needed for: the device stride is refused or not
needed, or the strides separate all indices and no data is lost. -/
def KeepsData (shape : Shape) : Except (Fault IoError) (Option Strides) -> Prop
  | .error (.error _) => True
  | .error .panic => False
  | .ok none => True
  | .ok (some strides) => Separates strides.values shape.dims ∧
      forall room fuel elemBytes contiguous padded, (outerDims shape).prod <= fuel ->
        padBytes room fuel contiguous shape strides elemBytes = some (.ok padded) ->
          depadBytes room fuel padded shape strides elemBytes =
            some ((tryZeroedVec room contiguous.length).map fun _ => contiguous)

/-- No row is wider than the device stride, or there is one row only, or the
strides are no machine words. -/
def RowsApart (layout : DataFormat) (dims : List Nat) (wStride : Nat) : Prop :=
  match layout, dims with
  | .nchw, [n, c, h, w] =>
      wStride = 0 ∨ w <= wStride ∨ n * c * h = 1 ∨ usizeMax < c * h * wStride
  | .nhwc, [n, h, w, c] =>
      wStride = 0 ∨ w <= wStride ∨ n * h = 1 ∨ usizeMax < h * (wStride * c)
  | _, _ => True

theorem keepsData_iff {shape : Shape} {strides : Strides} :
    KeepsData shape (.ok (some strides)) <-> Separates strides.values shape.dims := by
  constructor
  · intro keeps
    exact keeps.1
  · intro separates
    exact ⟨separates, fun _ _ _ _ _ enough isPadded =>
      padBytes_restored isPadded separates enough⟩

/-- Without a stride there is nothing to lose. -/
theorem stridesFromWStride_none {shape : Shape} {layout : DataFormat} {wStride : Nat}
    (unneeded : wStride = 0 ∨ shape.dims.length ≠ 4) :
    stridesFromWStride shape layout wStride = .ok none := if_pos unneeded

section Images

variable {n c h w wStride : Nat}

theorem nchw_strides (positive : 0 < wStride) (channels : 0 < c) (padded : wStride ≠ w) :
    (usizeMax < c * h * wStride ∧ Exists fun error =>
      stridesFromWStride ⟨[n, c, h, w]⟩ .nchw wStride = .error (.error error)) ∨
    (c * h * wStride <= usizeMax ∧ stridesFromWStride ⟨[n, c, h, w]⟩ .nchw wStride =
      .ok (some ⟨[c * h * wStride, h * wStride, wStride, 1]⟩)) := by
  have asked : ¬ (wStride = 0 ∨ [n, c, h, w].length ≠ 4) := by
    simp
    omega
  have unfolded : stridesFromWStride ⟨[n, c, h, w]⟩ .nchw wStride =
      (if wStride = w then .ok none
      else do
        let ch <- orBackend (checkedMul c h)
          "NCHW outer stride overflow in strides_from_w_stride"
        let chw <- orBackend (checkedMul ch wStride)
          "NCHW outer stride overflow in strides_from_w_stride"
        let hw <- orBackend (checkedMul h wStride)
          "NCHW inner stride overflow in strides_from_w_stride"
        .ok (some ⟨[chw, hw, wStride, 1]⟩)) := if_neg asked
  have plane : c * h <= c * h * wStride := Nat.le_mul_of_pos_right _ positive
  have row : h * wStride <= c * h * wStride := by
    rw [Nat.mul_assoc]
    exact Nat.le_mul_of_pos_left _ channels
  rw [unfolded, if_neg padded]
  by_cases fits : c * h * wStride <= usizeMax
  · refine Or.inr ⟨fits, ?_⟩
    rw [checkedMul_eq_some.mpr ⟨rfl, plane.trans fits⟩]
    show (orBackend (checkedMul (c * h) wStride) _ >>= _) = _
    rw [checkedMul_eq_some.mpr ⟨rfl, fits⟩, checkedMul_eq_some.mpr ⟨rfl, row.trans fits⟩]
    rfl
  · refine Or.inl ⟨Nat.lt_of_not_le fits, ?_⟩
    by_cases planeFits : c * h <= usizeMax
    · refine ⟨.backend "NCHW outer stride overflow in strides_from_w_stride", ?_⟩
      rw [checkedMul_eq_some.mpr ⟨rfl, planeFits⟩]
      show (orBackend (checkedMul (c * h) wStride) _ >>= _) = _
      rw [checkedMul, if_neg fits]
      rfl
    · refine ⟨.backend "NCHW outer stride overflow in strides_from_w_stride", ?_⟩
      rw [checkedMul, if_neg planeFits]
      rfl

theorem nhwc_strides (positive : 0 < wStride) (rows : 0 < h) (padded : wStride ≠ w) :
    (usizeMax < h * (wStride * c) ∧ Exists fun error =>
      stridesFromWStride ⟨[n, h, w, c]⟩ .nhwc wStride = .error (.error error)) ∨
    (h * (wStride * c) <= usizeMax ∧ stridesFromWStride ⟨[n, h, w, c]⟩ .nhwc wStride =
      .ok (some ⟨[h * (wStride * c), wStride * c, c, 1]⟩)) := by
  have asked : ¬ (wStride = 0 ∨ [n, h, w, c].length ≠ 4) := by
    simp
    omega
  have unfolded : stridesFromWStride ⟨[n, h, w, c]⟩ .nhwc wStride =
      (if wStride = w then .ok none
      else do
        let wc <- orBackend (checkedMul wStride c)
          "NHWC inner stride overflow in strides_from_w_stride"
        let hwc <- orBackend (checkedMul h wc)
          "NHWC outer stride overflow in strides_from_w_stride"
        .ok (some ⟨[hwc, wc, c, 1]⟩)) := if_neg asked
  have row : wStride * c <= h * (wStride * c) := Nat.le_mul_of_pos_left _ rows
  rw [unfolded, if_neg padded]
  by_cases fits : h * (wStride * c) <= usizeMax
  · refine Or.inr ⟨fits, ?_⟩
    rw [checkedMul_eq_some.mpr ⟨rfl, row.trans fits⟩]
    show (orBackend (checkedMul h (wStride * c)) _ >>= _) = _
    rw [checkedMul_eq_some.mpr ⟨rfl, fits⟩]
    rfl
  · refine Or.inl ⟨Nat.lt_of_not_le fits, ?_⟩
    by_cases rowFits : wStride * c <= usizeMax
    · refine ⟨.backend "NHWC outer stride overflow in strides_from_w_stride", ?_⟩
      rw [checkedMul_eq_some.mpr ⟨rfl, rowFits⟩]
      show (orBackend (checkedMul h (wStride * c)) _ >>= _) = _
      rw [checkedMul, if_neg fits]
      rfl
    · refine ⟨.backend "NHWC inner stride overflow in strides_from_w_stride", ?_⟩
      rw [checkedMul, if_neg rowFits]
      rfl

/-- The strides are those of rows that are `wStride` apart. -/
theorem nchw_separates (positive : 0 < wStride) (nonzero : 0 ∉ [n, c, h]) :
    Separates [c * h * wStride, h * wStride, wStride, 1] [n, c, h, w] <->
      w <= wStride ∨ n * c * h = 1 := by
  have isRows : [c * h * wStride, h * wStride, wStride, 1] =
      (rowMajor [n, c, h]).map (· * wStride) ++ [1] := by
    simp [rowMajor]
  have isCount : [n, c, h].prod = n * c * h := by
    simp [Nat.mul_assoc]
  rw [isRows, ← isCount]
  exact separates_rows positive nonzero

theorem nhwc_separates (positive : 0 < wStride) (nonzero : 0 ∉ [n, h]) (channels : 0 < c) :
    Separates [h * (wStride * c), wStride * c, c, 1] [n, h, w, c] <->
      w <= wStride ∨ n * h = 1 := by
  have isBlocks : [h * (wStride * c), wStride * c, c, 1] =
      ((rowMajor [n, h]).map (· * wStride) ++ [1]).map (· * c) ++ [1] := by
    simp [rowMajor, Nat.mul_assoc]
  have isCount : [n, h].prod = n * h := by
    simp
  rw [isBlocks, ← isCount]
  have sameRank : [n, h, w].length = ((rowMajor [n, h]).map (· * wStride) ++ [1]).length := rfl
  exact (separates_block sameRank channels).trans (separates_rows positive nonzero)

/-- What the strides of one layout promise: they are not needed, or a product
overflows, or they separate the indices exactly if the rows lie apart. -/
theorem keepsData_of_strides {shape : Shape} {layout : DataFormat} {strides : List Nat}
    {product rows : Nat}
    (unneeded : wStride = w -> wStride ≠ 0 ->
      stridesFromWStride shape layout wStride = .ok none)
    (needed : 0 < wStride -> wStride ≠ w ->
      (usizeMax < product ∧ Exists fun error =>
        stridesFromWStride shape layout wStride = .error (.error error)) ∨
      (product <= usizeMax ∧ stridesFromWStride shape layout wStride = .ok (some ⟨strides⟩)))
    (separates : 0 < wStride ->
      (Separates strides shape.dims <-> w <= wStride ∨ rows = 1)) :
    KeepsData shape (stridesFromWStride shape layout wStride) <->
      wStride = 0 ∨ w <= wStride ∨ rows = 1 ∨ usizeMax < product := by
  by_cases isZero : wStride = 0
  · rw [stridesFromWStride_none (Or.inl isZero)]
    exact iff_of_true trivial (Or.inl isZero)
  by_cases same : wStride = w
  · rw [unneeded same isZero]
    exact iff_of_true trivial (Or.inr (Or.inl same.ge))
  have positive := Nat.pos_of_ne_zero isZero
  rcases needed positive same with ⟨overflows, error, fails⟩ | ⟨fits, isStrides⟩
  · rw [fails]
    exact iff_of_true trivial (Or.inr (Or.inr (Or.inr overflows)))
  · rw [isStrides, keepsData_iff, separates positive]
    constructor
    · rintro (wide | single)
      · exact Or.inr (Or.inl wide)
      · exact Or.inr (Or.inr (Or.inl single))
    · rintro (zero | wide | single | overflows)
      · exact absurd zero isZero
      · exact Or.inl wide
      · exact Or.inr single
      · exact absurd fits (Nat.not_le.mpr overflows)

theorem nchw_keepsData (nonzero : 0 ∉ [n, c, h, w]) :
    KeepsData ⟨[n, c, h, w]⟩ (stridesFromWStride ⟨[n, c, h, w]⟩ .nchw wStride) <->
      RowsApart .nchw [n, c, h, w] wStride := by
  have positive : 0 ∉ [n, c, h] ∧ 0 < c := by
    simp only [List.mem_cons, List.not_mem_nil, or_false, not_or] at nonzero ⊢
    omega
  refine keepsData_of_strides (fun same isUsed => ?_)
    (fun isPositive padded => nchw_strides isPositive positive.2 padded)
    (fun isPositive => nchw_separates isPositive positive.1)
  exact (if_neg (by simp; omega)).trans (if_pos same)

theorem nhwc_keepsData (nonzero : 0 ∉ [n, h, w, c]) :
    KeepsData ⟨[n, h, w, c]⟩ (stridesFromWStride ⟨[n, h, w, c]⟩ .nhwc wStride) <->
      RowsApart .nhwc [n, h, w, c] wStride := by
  have positive : 0 ∉ [n, h] ∧ 0 < h ∧ 0 < c := by
    simp only [List.mem_cons, List.not_mem_nil, or_false, not_or] at nonzero ⊢
    omega
  refine keepsData_of_strides (fun same isUsed => ?_)
    (fun isPositive padded => nhwc_strides isPositive positive.2.1 padded)
    (fun isPositive => nhwc_separates isPositive positive.1 positive.2.2)
  exact (if_neg (by simp; omega)).trans (if_pos same)

end Images

/-- The device stride keeps all data exactly if it is no smaller than the width,
apart from strides that are refused and images of one row. -/
theorem widthStride_keepsData_iff (shape : Shape) (layout : DataFormat) (wStride : Nat)
    (nonzero : 0 ∉ shape.dims) :
    KeepsData shape (stridesFromWStride shape layout wStride) <->
      RowsApart layout shape.dims wStride := by
  rcases shape with ⟨dims⟩
  have otherwise (unneeded : stridesFromWStride ⟨dims⟩ layout wStride = .ok none)
      (apart : RowsApart layout dims wStride) :
      KeepsData ⟨dims⟩ (stridesFromWStride ⟨dims⟩ layout wStride) <->
        RowsApart layout dims wStride := by
    rw [unneeded]
    exact iff_of_true trivial apart
  match dims with
  | [first, second, third, fourth] =>
      cases layout with
      | nchw => exact nchw_keepsData nonzero
      | nhwc => exact nhwc_keepsData nonzero
      | _ => exact otherwise (ite_self _) trivial
  | [] | [_] | [_, _] | [_, _, _] | _ :: _ :: _ :: _ :: _ :: _ =>
      refine otherwise (stridesFromWStride_none (Or.inr (by simp))) ?_
      cases layout <;> trivial

/-- A row of three that is said to be two wide. -/
theorem narrowStride_overlaps :
    stridesFromWStride ⟨[1, 1, 2, 3]⟩ .nchw 2 = .ok (some ⟨[4, 4, 2, 1]⟩) ∧
      ¬ KeepsData ⟨[1, 1, 2, 3]⟩ (stridesFromWStride ⟨[1, 1, 2, 3]⟩ .nchw 2) ∧
      padBytes (fun _ => true) 2 [1, 2, 3, 4, 5, 6] ⟨[1, 1, 2, 3]⟩ ⟨[4, 4, 2, 1]⟩ 1 =
        some (.ok [1, 2, 4, 5, 6]) ∧
      depadBytes (fun _ => true) 2 [1, 2, 4, 5, 6] ⟨[1, 1, 2, 3]⟩ ⟨[4, 4, 2, 1]⟩ 1 =
        some (.ok [1, 2, 4, 4, 5, 6]) := by
  refine ⟨by decide, ?_, by decide, by decide⟩
  rw [nchw_keepsData (by decide), RowsApart]
  decide

theorem wideStride_kept :
    KeepsData ⟨[1, 2, 2, 3]⟩ (stridesFromWStride ⟨[1, 2, 2, 3]⟩ .nchw 4) :=
  (widthStride_keepsData_iff ⟨[1, 2, 2, 3]⟩ .nchw 4 (by decide)).mpr (Or.inr (Or.inl (by decide)))

end Rknn
end DyunGu
