import DyunGu.Core.MediaInfo
import DyunGu.Graph.Error
import DyunGu.Lib.Outcome
import DyunGu.Lib.Raster

namespace DyunGu
namespace Elements

open Core Outcome Raster Slices

/-!
# Letterbox resize

An image is scaled to fit into a target and centered there.  The scale and the
sizes that it gives are floating-point numbers, which are rounded and then
clamped; everything after that is integer arithmetic on indices.  The arithmetic
on floating-point numbers is a parameter here, so that it may round as it likes.
-/

/-- The floating-point operations, with `room` for the memory that is left. -/
structure FloatArith (F : Type) where
  ofNat : Nat -> F
  half : F
  sub : F -> F -> F
  mul : F -> F -> F
  div : F -> F -> F
  min : F -> F -> F
  isFinite : F -> Bool
  isNegative : F -> Bool
  /-- Rounding to a whole number, if that is a machine word. -/
  round : F -> Option Nat
  room : Nat -> Bool

structure Letterbox (F : Type) where
  sourceWidth : Nat
  sourceHeight : Nat
  targetWidth : Nat
  targetHeight : Nat
  scale : F
  padX : F
  padY : F
deriving DecidableEq, Repr

def orConfig {Value : Type} (result : Option Value) (message : String) :
    Except Graph.Error Value :=
  match result with
  | none => .error (.config message)
  | some value => .ok value

theorem orConfig_ok {Value : Type} {result : Option Value} {message : String} {value : Value} :
    orConfig result message = .ok value <-> result = some value := by
  cases result with
  | none =>
      constructor
      · rintro ⟨⟩
      · rintro ⟨⟩
  | some other =>
      constructor
      · rintro ⟨⟩
        rfl
      · rintro ⟨⟩
        rfl

variable {F : Type}

/-- Larger numbers are not all represented. -/
def maxExactDimension : Nat := 16777216

def usizeToF32 (arith : FloatArith F) (value : Nat) : Except Graph.Error F :=
  if value > maxExactDimension then
    .error (.config "dimension cannot be represented exactly as f32")
  else .ok (arith.ofNat value)

def roundToUsize (arith : FloatArith F) (value : F) (field : String) : Except Graph.Error Nat :=
  if arith.isFinite value = false ∨ arith.isNegative value = true then
    .error (.config (field ++ " must be finite and non-negative"))
  else orConfig (arith.round value) (field ++ " is out of range")

def Letterbox.new (arith : FloatArith F) (sourceWidth sourceHeight targetWidth targetHeight : Nat) :
    Except Graph.Error (Letterbox F) := do
  if sourceWidth = 0 ∨ sourceHeight = 0 ∨ targetWidth = 0 ∨ targetHeight = 0 then
    throw (.config "letterbox dimensions must be non-zero")
  let sourceWidthF <- usizeToF32 arith sourceWidth
  let sourceHeightF <- usizeToF32 arith sourceHeight
  let targetWidthF <- usizeToF32 arith targetWidth
  let targetHeightF <- usizeToF32 arith targetHeight
  let scale := arith.min (arith.div targetWidthF sourceWidthF) (arith.div targetHeightF sourceHeightF)
  let resizedWidth := arith.mul sourceWidthF scale
  let resizedHeight := arith.mul sourceHeightF scale
  pure
    { sourceWidth := sourceWidth
      sourceHeight := sourceHeight
      targetWidth := targetWidth
      targetHeight := targetHeight
      scale := scale
      padX := arith.mul (arith.sub targetWidthF resizedWidth) arith.half
      padY := arith.mul (arith.sub targetHeightF resizedHeight) arith.half }

/-- What the checks of `resize_letterbox` find. -/
structure ResizePlan (F : Type) where
  letterbox : Letterbox F
  resizedWidth : Nat
  resizedHeight : Nat
  targetSize : Nat

/-- The size of an image, if it is a machine word. -/
def imageSize (width height channels : Nat) : Option Nat :=
  (checkedMul width height).bind fun size => checkedMul size channels

/-- What the scale makes of a source size, within the target. -/
def resizedSize (arith : FloatArith F) (letterbox : Letterbox F) (source target : Nat)
    (field : String) : Except Graph.Error Nat := do
  let sourceF <- usizeToF32 arith source
  let rounded <- roundToUsize arith (arith.mul sourceF letterbox.scale) field
  return min (max rounded 1) target

/-- `resize_letterbox` up to its loops. -/
def resizeChecks (arith : FloatArith F) (source : List F)
    (channels sourceWidth sourceHeight targetWidth targetHeight : Nat) :
    Except Graph.Error (ResizePlan F) := do
  if channels = 0 then
    throw (.config "resize channels must be non-zero")
  let expected <- orConfig (imageSize sourceWidth sourceHeight channels)
    "resize source size overflow"
  if source.length ≠ expected then
    throw (.config "resize source length does not match dimensions")
  let letterbox <- Letterbox.new arith sourceWidth sourceHeight targetWidth targetHeight
  let resizedWidth <- resizedSize arith letterbox sourceWidth targetWidth "resized width"
  let resizedHeight <- resizedSize arith letterbox sourceHeight targetHeight "resized height"
  let targetSize <- orConfig (imageSize targetWidth targetHeight channels)
    "resize target size overflow"
  if arith.room targetSize = false then
    throw (.config "resize output allocation failed")
  return ⟨letterbox, resizedWidth, resizedHeight, targetSize⟩

def checkedDiv (first second : Nat) : Option Nat :=
  if second = 0 then none else some (first / second)

/-- `(y * width + x) * channels`, where an overflow is a panic. -/
def pixelIndex (width channels y x : Nat) : Option Nat := do
  let row <- checkedMul y width
  let pixel <- checkedAdd row x
  checkedMul pixel channels

/-- `((y + pad_y) * width + x + pad_x) * channels`, where an overflow is a
panic. -/
def paddedIndex (width channels padY padX y x : Nat) : Option Nat := do
  let line <- checkedAdd y padY
  let row <- checkedMul line width
  let column <- checkedAdd row x
  let pixel <- checkedAdd column padX
  checkedMul pixel channels

namespace ResizePlan

variable (plan : ResizePlan F)

def padX : Nat := (plan.letterbox.targetWidth - plan.resizedWidth) / 2

def padY : Nat := (plan.letterbox.targetHeight - plan.resizedHeight) / 2

/-- The samples of one pixel are copied. -/
def copyPixel (source : List F) (channels y x sourceY sourceX : Nat) (output : List F) :
    Option (List F) := do
  let sourceIndex <- pixelIndex plan.letterbox.sourceWidth channels sourceY sourceX
  let targetIndex <- paddedIndex plan.letterbox.targetWidth channels plan.padY plan.padX y x
  let pixel <- slice source sourceIndex channels
  splice output targetIndex pixel

def copyRow (source : List F) (channels : Nat) (output : List F) (y : Nat) :
    Except (Fault Graph.Error) (List F) := do
  let sourceY <- orFail (orConfig
    (checkedDiv (saturatingMul y plan.letterbox.sourceHeight) plan.resizedHeight)
    "resize source y overflow")
  (List.range plan.resizedWidth).foldlM (fun output x => do
    let sourceX <- orFail (orConfig
      (checkedDiv (saturatingMul x plan.letterbox.sourceWidth) plan.resizedWidth)
      "resize source x overflow")
    orPanic (plan.copyPixel source channels y x sourceY sourceX output)) output

end ResizePlan

def resizeLetterbox (arith : FloatArith F) (source : List F)
    (channels sourceWidth sourceHeight targetWidth targetHeight : Nat) (padding : F) :
    Except (Fault Graph.Error) (List F × Letterbox F) := do
  let plan <- orFail (resizeChecks arith source channels sourceWidth sourceHeight targetWidth
    targetHeight)
  let output <- (List.range plan.resizedHeight).foldlM (plan.copyRow source channels)
    (List.replicate plan.targetSize padding)
  return (output, plan.letterbox)

/-! ## What the checks promise -/

theorem usizeToF32_ok {arith : FloatArith F} {value : Nat} {float : F}
    (represented : usizeToF32 arith value = .ok float) : value <= maxExactDimension := by
  rw [usizeToF32] at represented
  split at represented
  · cases represented
  · rename_i small
    exact Nat.le_of_not_lt small

/-- The sizes of a letterbox are those it was made for, none of them zero, and
small enough to be represented. -/
structure Letterbox.Between (letterbox : Letterbox F)
    (sourceWidth sourceHeight targetWidth targetHeight : Nat) : Prop where
  isSourceWidth : letterbox.sourceWidth = sourceWidth
  isSourceHeight : letterbox.sourceHeight = sourceHeight
  isTargetWidth : letterbox.targetWidth = targetWidth
  isTargetHeight : letterbox.targetHeight = targetHeight
  nonzero : 0 < sourceWidth ∧ 0 < sourceHeight ∧ 0 < targetWidth ∧ 0 < targetHeight
  small : sourceWidth <= maxExactDimension ∧ sourceHeight <= maxExactDimension ∧
    targetWidth <= maxExactDimension ∧ targetHeight <= maxExactDimension

theorem Letterbox.new_ok {arith : FloatArith F}
    {sourceWidth sourceHeight targetWidth targetHeight : Nat} {letterbox : Letterbox F}
    (made : Letterbox.new arith sourceWidth sourceHeight targetWidth targetHeight = .ok letterbox) :
    letterbox.Between sourceWidth sourceHeight targetWidth targetHeight := by
  unfold Letterbox.new at made
  split at made
  · cases made
  · rename_i nonzero
    rcases bind_ok made with ⟨_, isSourceWidth, made⟩
    rcases bind_ok made with ⟨_, isSourceHeight, made⟩
    rcases bind_ok made with ⟨_, isTargetWidth, made⟩
    rcases bind_ok made with ⟨_, isTargetHeight, made⟩
    cases made
    refine ⟨rfl, rfl, rfl, rfl, by omega, ?_⟩
    exact ⟨usizeToF32_ok isSourceWidth, usizeToF32_ok isSourceHeight,
      usizeToF32_ok isTargetWidth, usizeToF32_ok isTargetHeight⟩

theorem imageSize_eq_some {width height channels size : Nat}
    (found : imageSize width height channels = some size) :
    size = width * height * channels ∧ width * height * channels <= usizeMax := by
  rcases Option.bind_eq_some_iff.mp found with ⟨pixels, isPixels, isSize⟩
  rcases checkedMul_eq_some.mp isPixels with ⟨rfl, _⟩
  exact checkedMul_eq_some.mp isSize

/-- However the scale rounds, the resized size is at least one and at most that
of the target. -/
theorem resizedSize_ok {arith : FloatArith F} {letterbox : Letterbox F} {source target : Nat}
    {field : String} {size : Nat} (positive : 0 < target)
    (found : resizedSize arith letterbox source target field = .ok size) :
    1 <= size ∧ size <= target := by
  rcases bind_ok found with ⟨_, _, found⟩
  rcases bind_ok found with ⟨rounded, _, found⟩
  cases found
  exact ⟨Nat.le_min.mpr ⟨Nat.le_max_right _ _, positive⟩, Nat.min_le_right _ _⟩

/-- What is known when the loops start. -/
structure ResizePlan.Sound (plan : ResizePlan F) (source : List F)
    (channels sourceWidth sourceHeight targetWidth targetHeight : Nat) : Prop where
  between : plan.letterbox.Between sourceWidth sourceHeight targetWidth targetHeight
  isSource : source.length = sourceHeight * sourceWidth * channels
  sourceFits : sourceHeight * sourceWidth * channels <= usizeMax
  isTarget : plan.targetSize = targetHeight * targetWidth * channels
  targetFits : targetHeight * targetWidth * channels <= usizeMax
  width : 1 <= plan.resizedWidth ∧ plan.resizedWidth <= targetWidth
  height : 1 <= plan.resizedHeight ∧ plan.resizedHeight <= targetHeight

theorem resizeChecks_ok {arith : FloatArith F} {source : List F}
    {channels sourceWidth sourceHeight targetWidth targetHeight : Nat} {plan : ResizePlan F}
    (accepted : resizeChecks arith source channels sourceWidth sourceHeight targetWidth targetHeight =
      .ok plan) : plan.Sound source channels sourceWidth sourceHeight targetWidth targetHeight := by
  unfold resizeChecks at accepted
  split at accepted
  · cases accepted
  · rcases bind_ok accepted with ⟨expected, isExpected, accepted⟩
    rcases imageSize_eq_some (orConfig_ok.mp isExpected) with ⟨rfl, sourceFits⟩
    split at accepted
    · cases accepted
    · rename_i length
      rcases bind_ok accepted with ⟨letterbox, made, accepted⟩
      have between := Letterbox.new_ok made
      rcases bind_ok accepted with ⟨resizedWidth, isWidth, accepted⟩
      rcases bind_ok accepted with ⟨resizedHeight, isHeight, accepted⟩
      rcases bind_ok accepted with ⟨targetSize, isTarget, accepted⟩
      rcases imageSize_eq_some (orConfig_ok.mp isTarget) with ⟨rfl, targetFits⟩
      split at accepted
      · cases accepted
      · cases accepted
        rw [Nat.mul_comm sourceWidth] at sourceFits
        rw [Nat.mul_comm targetWidth] at targetFits
        refine ⟨between, ?_, sourceFits, ?_, targetFits,
          resizedSize_ok between.nonzero.2.2.1 isWidth,
          resizedSize_ok between.nonzero.2.2.2 isHeight⟩
        · rw [not_not.mp length, Nat.mul_comm sourceWidth]
        · exact congrArg (· * channels) (Nat.mul_comm targetWidth targetHeight)

theorem channels_pos {arith : FloatArith F} {source : List F}
    {channels sourceWidth sourceHeight targetWidth targetHeight : Nat} {plan : ResizePlan F}
    (accepted : resizeChecks arith source channels sourceWidth sourceHeight targetWidth targetHeight =
      .ok plan) : 0 < channels := by
  unfold resizeChecks at accepted
  split at accepted
  · cases accepted
  · rename_i nonzero
    exact Nat.pos_of_ne_zero nonzero

/-! ## The loops -/

/-- No step of the index arithmetic overflows inside an image. -/
theorem pixelIndex_eq {height width channels y x : Nat} (positive : 0 < channels) (isRow : y < height)
    (isColumn : x < width) (fits : height * width * channels <= usizeMax) :
    pixelIndex width channels y x = some (offset width channels y x) := by
  have inside := (offset_le channels isRow isColumn).trans fits
  have isOffset : offset width channels y x = (y * width + x) * channels := rfl
  have pixel : y * width + x <= (y * width + x) * channels := Nat.le_mul_of_pos_right _ positive
  rw [pixelIndex, checkedMul_eq_some.mpr ⟨rfl, by omega⟩]
  show (checkedAdd (y * width) x >>= fun pixel => checkedMul pixel channels) = _
  rw [checkedAdd_eq_some.mpr ⟨rfl, by omega⟩]
  exact checkedMul_eq_some.mpr ⟨rfl, by omega⟩

theorem paddedIndex_eq {height width channels padY padX y x : Nat} (positive : 0 < channels)
    (isRow : padY + y < height) (isColumn : padX + x < width)
    (fits : height * width * channels <= usizeMax) :
    paddedIndex width channels padY padX y x = some (offset width channels (padY + y) (padX + x)) := by
  have inside := (offset_le channels isRow isColumn).trans fits
  have isOffset : offset width channels (padY + y) (padX + x) =
      ((padY + y) * width + (padX + x)) * channels := rfl
  have pixel := Nat.le_mul_of_pos_right ((padY + y) * width + (padX + x)) positive
  have line : padY + y <= (padY + y) * width := Nat.le_mul_of_pos_right _ (Nat.zero_lt_of_lt isColumn)
  have sameLine : y + padY = padY + y := Nat.add_comm _ _
  have sameColumn : (padY + y) * width + x + padX = (padY + y) * width + (padX + x) := by omega
  rw [paddedIndex, checkedAdd_eq_some.mpr ⟨sameLine.symm, by omega⟩]
  show (checkedMul (padY + y) width >>= _) = _
  rw [checkedMul_eq_some.mpr ⟨rfl, by omega⟩]
  show (checkedAdd ((padY + y) * width) x >>= _) = _
  rw [checkedAdd_eq_some.mpr ⟨rfl, by omega⟩]
  show (checkedAdd ((padY + y) * width + x) padX >>= fun pixel => checkedMul pixel channels) = _
  rw [checkedAdd_eq_some.mpr ⟨sameColumn.symm, by omega⟩]
  exact checkedMul_eq_some.mpr ⟨rfl, by omega⟩

/-- The nearest coordinate of the source lies in it. -/
theorem nearest_lt {coordinate source resized : Nat} (within : coordinate < resized)
    (positive : 0 < source) : coordinate * source / resized < source := by
  rw [Nat.div_lt_iff_lt_mul (Nat.zero_lt_of_lt within), Nat.mul_comm source]
  exact Nat.mul_lt_mul_of_pos_right within positive

/-- The coordinates are too small for the product to saturate. -/
theorem nearest_eq {coordinate source resized target : Nat} {message : String}
    (within : coordinate < resized) (resizedSmall : resized <= target)
    (targetSmall : target <= maxExactDimension) (sourceSmall : source <= maxExactDimension) :
    orConfig (checkedDiv (saturatingMul coordinate source) resized) message =
      .ok (coordinate * source / resized) := by
  have product : coordinate * source <= maxExactDimension * maxExactDimension :=
    Nat.mul_le_mul (by omega) sourceSmall
  have fits : coordinate * source <= usizeMax := product.trans (by decide)
  rw [saturatingMul_of_le fits, checkedDiv, if_neg (by omega)]
  rfl

namespace ResizePlan

variable (plan : ResizePlan F)

/-- Where the resized image lies in the target. -/
def area : Area := ⟨plan.padY, plan.padX, plan.resizedHeight, plan.resizedWidth⟩

/-- The nearest pixel of the source. -/
def nearest (y x : Nat) : Nat × Nat :=
  (y * plan.letterbox.sourceHeight / plan.resizedHeight,
    x * plan.letterbox.sourceWidth / plan.resizedWidth)

def pixel (source : List F) (channels y x : Nat) : List F :=
  (source.drop (offset plan.letterbox.sourceWidth channels (plan.nearest y x).1
    (plan.nearest y x).2)).take channels

variable {plan} {source : List F} {channels sourceWidth sourceHeight targetWidth targetHeight : Nat}

theorem Sound.area_within
    (sound : plan.Sound source channels sourceWidth sourceHeight targetWidth targetHeight) :
    plan.area.Within targetHeight targetWidth := by
  have width := sound.width
  have height := sound.height
  simp only [Area.Within, area, padX, padY, sound.between.isTargetWidth,
    sound.between.isTargetHeight]
  omega

theorem Sound.nearest_lt {y x : Nat}
    (sound : plan.Sound source channels sourceWidth sourceHeight targetWidth targetHeight)
    (isRow : y < plan.resizedHeight) (isColumn : x < plan.resizedWidth) :
    (plan.nearest y x).1 < sourceHeight ∧ (plan.nearest y x).2 < sourceWidth := by
  simp only [nearest, sound.between.isSourceWidth, sound.between.isSourceHeight]
  exact ⟨Elements.nearest_lt isRow sound.between.nonzero.2.1,
    Elements.nearest_lt isColumn sound.between.nonzero.1⟩

/-- The samples of the nearest pixel lie in the source. -/
theorem Sound.pixel_fits {y x : Nat}
    (sound : plan.Sound source channels sourceWidth sourceHeight targetWidth targetHeight)
    (isRow : y < plan.resizedHeight) (isColumn : x < plan.resizedWidth) :
    offset plan.letterbox.sourceWidth channels (plan.nearest y x).1 (plan.nearest y x).2 +
      channels <= source.length := by
  rcases sound.nearest_lt isRow isColumn with ⟨row, column⟩
  rw [sound.isSource, sound.between.isSourceWidth]
  exact offset_le channels row column

theorem Sound.sized
    (sound : plan.Sound source channels sourceWidth sourceHeight targetWidth targetHeight) :
    Sized plan.area channels (plan.pixel source channels) :=
  fun _ _ isRow isColumn => slice_length (sound.pixel_fits isRow isColumn)

/-- A round of the inner loop is one write. -/
theorem Sound.copyPixel_eq {y x : Nat} (positive : 0 < channels)
    (sound : plan.Sound source channels sourceWidth sourceHeight targetWidth targetHeight)
    (isRow : y < plan.resizedHeight) (isColumn : x < plan.resizedWidth) (output : List F) :
    plan.copyPixel source channels y x (plan.nearest y x).1 (plan.nearest y x).2 output =
      Write.perform output ⟨offset targetWidth channels (plan.padY + y) (plan.padX + x),
        plan.pixel source channels y x⟩ := by
  rcases sound.nearest_lt isRow isColumn with ⟨row, column⟩
  rcases sound.area_within with ⟨rowsFit, columnsFit⟩
  simp only [area] at rowsFit columnsFit
  have isSource := pixelIndex_eq positive row column sound.sourceFits
  have isTarget := paddedIndex_eq positive (show plan.padY + y < targetHeight by omega)
    (show plan.padX + x < targetWidth by omega) sound.targetFits
  have fits := sound.pixel_fits isRow isColumn
  rw [sound.between.isSourceWidth] at fits
  rw [copyPixel, sound.between.isSourceWidth, isSource, sound.between.isTargetWidth, isTarget]
  show (slice source _ channels >>= fun pixel => splice output _ pixel) = _
  rw [slice_of_le fits, pixel, sound.between.isSourceWidth]
  rfl

theorem Sound.copyRow_eq {y : Nat} (positive : 0 < channels)
    (sound : plan.Sound source channels sourceWidth sourceHeight targetWidth targetHeight)
    (isRow : y < plan.resizedHeight) (output : List F) :
    plan.copyRow source channels output y =
      orPanic ((List.range plan.resizedWidth).foldlM (fun output x =>
        Write.perform output ⟨offset targetWidth channels (plan.padY + y) (plan.padX + x),
          plan.pixel source channels y x⟩) output) := by
  rcases sound.between.small with ⟨sourceWidthSmall, sourceHeightSmall, targetWidthSmall,
    targetHeightSmall⟩
  have isSourceY : orConfig (checkedDiv (saturatingMul y plan.letterbox.sourceHeight)
      plan.resizedHeight) "resize source y overflow" = .ok (plan.nearest y 0).1 :=
    nearest_eq isRow sound.height.2 targetHeightSmall
      (sound.between.isSourceHeight.trans_le sourceHeightSmall)
  rw [copyRow, isSourceY, ← foldlM_orPanic]
  apply foldlM_congr
  intro x member output
  have isColumn := List.mem_range.mp member
  have isSourceX : orConfig (checkedDiv (saturatingMul x plan.letterbox.sourceWidth)
      plan.resizedWidth) "resize source x overflow" = .ok (plan.nearest y x).2 :=
    nearest_eq isColumn sound.width.2 targetWidthSmall
      (sound.between.isSourceWidth.trans_le sourceWidthSmall)
  rw [isSourceX, ← sound.copyPixel_eq positive isRow isColumn output]
  rfl

/-- The target holds the nearest pixels of the source in the resized area and
the padding around it. -/
structure Fitted (plan : ResizePlan F) (source : List F)
    (channels sourceWidth sourceHeight targetWidth targetHeight : Nat) (padding : F)
    (output : List F) : Prop where
  within : plan.area.Within targetHeight targetWidth
  nonempty : 1 <= plan.area.rows ∧ 1 <= plan.area.columns
  length : output.length = targetHeight * targetWidth * channels
  inside : forall y x, y < plan.resizedHeight -> x < plan.resizedWidth ->
    y * sourceHeight / plan.resizedHeight < sourceHeight ∧
      x * sourceWidth / plan.resizedWidth < sourceWidth
  sample : forall y x sample, y < targetHeight -> x < targetWidth -> sample < channels ->
    output[offset targetWidth channels y x + sample]? =
      if plan.area.Contains y x then
        source[offset sourceWidth channels ((y - plan.padY) * sourceHeight / plan.resizedHeight)
          ((x - plan.padX) * sourceWidth / plan.resizedWidth) + sample]?
      else some padding

theorem Sound.fitted (positive : 0 < channels)
    (sound : plan.Sound source channels sourceWidth sourceHeight targetWidth targetHeight)
    (padding : F) : Exists fun output =>
      (List.range plan.resizedHeight).foldlM (plan.copyRow source channels)
        (List.replicate plan.targetSize padding) = .ok output ∧
      plan.Fitted source channels sourceWidth sourceHeight targetWidth targetHeight padding
        output := by
  have isImage : (List.replicate plan.targetSize padding).length =
      targetHeight * targetWidth * channels := by
    rw [List.length_replicate, sound.isTarget]
  rcases performAll_tiles isImage sound.area_within sound.sized with ⟨output, performed, length, samples⟩
  refine ⟨output, ?_, sound.area_within, ⟨sound.height.1, sound.width.1⟩, length.trans isImage, ?_, ?_⟩
  · rw [performAll_tiles_eq] at performed
    have loops := foldlM_congr (fun y member => sound.copyRow_eq positive (List.mem_range.mp member))
      (List.replicate plan.targetSize padding)
    rw [loops, foldlM_orPanic]
    exact congrArg orPanic performed
  · intro y x isRow isColumn
    have nearest := sound.nearest_lt isRow isColumn
    simp only [ResizePlan.nearest, sound.between.isSourceWidth, sound.between.isSourceHeight]
      at nearest
    exact nearest
  · intro y x sample isRow isColumn isSample
    rw [samples y x sample isRow isColumn isSample]
    by_cases contained : plan.area.Contains y x
    · rw [if_pos contained, if_pos contained, pixel, slice_getElem? _ _ isSample,
        sound.between.isSourceWidth, nearest, sound.between.isSourceWidth,
        sound.between.isSourceHeight]
      rfl
    · have position := (Nat.add_lt_add_left isSample _).trans_le
        (offset_le channels isRow isColumn)
      rw [if_neg contained, if_neg contained, List.getElem?_replicate, if_pos]
      rw [sound.isTarget]
      exact position

end ResizePlan

section Resize

variable {arith : FloatArith F} {source : List F}
    {channels sourceWidth sourceHeight targetWidth targetHeight : Nat} {plan : ResizePlan F}

theorem resizeLetterbox_of_ok (accepted : resizeChecks arith source channels sourceWidth sourceHeight
    targetWidth targetHeight = .ok plan) (padding : F) : Exists fun output =>
      resizeLetterbox arith source channels sourceWidth sourceHeight targetWidth targetHeight padding =
        .ok (output, plan.letterbox) ∧
      plan.Fitted source channels sourceWidth sourceHeight targetWidth targetHeight padding
        output := by
  rcases (resizeChecks_ok accepted).fitted (channels_pos accepted) padding
    with ⟨output, loops, fitted⟩
  refine ⟨output, ?_, fitted⟩
  rw [resizeLetterbox, accepted]
  exact bind_iff.mpr ⟨plan, rfl, bind_eq_ok loops rfl⟩

theorem resizeLetterbox_of_error {error : Graph.Error} (refused : resizeChecks arith source channels
    sourceWidth sourceHeight targetWidth targetHeight = .error error) (padding : F) :
    resizeLetterbox arith source channels sourceWidth sourceHeight targetWidth targetHeight padding =
      .error (.error error) := by
  rw [resizeLetterbox, refused]
  rfl

end Resize

/-- Whatever the scale rounds to, accepted sizes never make the loops leave the
source or the target. -/
theorem resizeLetterbox_fitted (arith : FloatArith F) (source : List F)
    (channels sourceWidth sourceHeight targetWidth targetHeight : Nat) (padding : F) :
    match resizeChecks arith source channels sourceWidth sourceHeight targetWidth targetHeight with
    | .error error => resizeLetterbox arith source channels sourceWidth sourceHeight targetWidth
        targetHeight padding = .error (.error error)
    | .ok plan => Exists fun output =>
        resizeLetterbox arith source channels sourceWidth sourceHeight targetWidth targetHeight
          padding = .ok (output, plan.letterbox) ∧
        plan.Fitted source channels sourceWidth sourceHeight targetWidth targetHeight padding
          output := by
  cases checks : resizeChecks arith source channels sourceWidth sourceHeight targetWidth
      targetHeight with
  | error error => exact resizeLetterbox_of_error checks padding
  | ok plan => exact resizeLetterbox_of_ok checks padding

end Elements
end DyunGu
