import DyunGu.Elements.TensorValues

namespace DyunGu
namespace Elements

open Core Outcome Raster Slices

/-!
# Preprocessing for a classifier

The samples of an image tensor are brought from planes into pixels, resized
into a letterbox and normalized.  The samples are looked up by the logical shape
of the tensor.
-/

/-- The channels, the height and the width of an image tensor. -/
def imageDims (desc : TensorDesc) : Option (Nat × Nat × Nat) :=
  match desc.format, desc.shape.dims with
  | .nchw, [1, channels, height, width] => some (channels, height, width)
  | .nchw, [channels, height, width] => some (channels, height, width)
  | _, _ => none

/-- The mean and the deviation of each channel. -/
structure Normalization (F : Type) where
  mean : Fin 3 -> F
  std : Fin 3 -> F

variable {F : Type}

/-- One sample is moved from its plane to its pixel; an overflow is a panic, and
so is an index that is too large. -/
def moveSample (values : List F) (height width channels channel y x : Nat) (hwc : List F) :
    Option (List F) := do
  let planeRow <- checkedMul channel height
  let row <- checkedAdd planeRow y
  let rowStart <- checkedMul row width
  let source <- checkedAdd rowStart x
  let pixel <- pixelIndex width channels y x
  let target <- checkedAdd pixel channel
  let value <- values[source]?
  if target < hwc.length then some (hwc.set target value) else none

/-- The loops from planes to pixels. -/
def toPixels (values : List F) (channels height width : Nat) (hwc : List F) : Option (List F) :=
  (List.range channels).foldlM (fun hwc channel =>
    (List.range height).foldlM (fun hwc y =>
      (List.range width).foldlM (fun hwc x =>
        moveSample values height width channels channel y x hwc) hwc) hwc) hwc

/-- The bytes of one more normalized sample. -/
def normalizeSample (arith : SampleArith F) (normalization : Normalization F) (resized : List F)
    (width : Nat) (channel : Fin 3) (y x : Nat) (bytes : List UInt8) : Option (List UInt8) := do
  let pixel <- pixelIndex width 3 y x
  let index <- checkedAdd pixel channel
  let sample <- resized[index]?
  let value := arith.div sample (arith.ofNat 255)
  let normalized := arith.div (arith.sub value (normalization.mean channel))
    (normalization.std channel)
  some (bytes ++ arith.toBytes normalized)

/-- The loops from pixels to the normalized bytes of the planes. -/
def normalizedBytes (arith : SampleArith F) (normalization : Normalization F) (resized : List F)
    (height width : Nat) : Option (List UInt8) :=
  (List.finRange 3).foldlM (fun bytes channel =>
    (List.range height).foldlM (fun bytes y =>
      (List.range width).foldlM (fun bytes x =>
        normalizeSample arith normalization resized width channel y x bytes) bytes) bytes) []

/-- The bytes of the output become those that are given. -/
def writeTensor (tensor : BackedTensor) (bytes : List UInt8) : Except BufferError BackedTensor := do
  let storage <- tensor.buffer.storage.storage.writeFromSlice bytes
  return { tensor with
    buffer := { tensor.buffer with storage := { tensor.buffer.storage with storage := storage } } }

def resnetPreprocessTensor (arith : SampleArith F) (device : Device) (policy : ResourcePolicy)
    (input : BackedTensor) (width height : Nat) (normalization : Normalization F) :
    Except (Fault AlgorithmError) BackedTensor := do
  let (channels, sourceHeight, sourceWidth) <- orFail (match imageDims input.desc with
    | some dims => .ok dims
    | none => .error (.graph (.config "resnet preprocess expects NCHW rank 3/4 input")))
  if channels ≠ 3 then
    .error (.error (.graph (.config "resnet expects three channels")))
  else do
    let values <- orFail (tensorValues arith input)
    if arith.room values.length = false then
      .error (.error (.graph (.runtime "resnet preprocess hwc allocation failed")))
    else do
      let hwc <- orPanic (toPixels values channels sourceHeight sourceWidth
        (List.replicate values.length arith.zero))
      let (resized, _) <- (resizeLetterbox arith.toFloatArith hwc channels sourceWidth sourceHeight
        width height arith.zero).mapError (Fault.map .graph)
      let output <- orFail ((BackedTensor.allocateWithPolicy device
        (TensorDesc.new ⟨[1, 3, height, width]⟩ f32 .nchw .cpu) policy).mapError .storage)
      if arith.room output.buffer.len = false then
        .error (.error (.graph (.runtime "resnet preprocess output bytes allocation failed")))
      else do
        let bytes <- orPanic (normalizedBytes arith normalization resized height width)
        orFail ((writeTensor output bytes).mapError .buffer)

/-! ## When the loops stay inside -/

/-- All samples of the logical shape are there. -/
def Covers (values : List F) (height width : Nat) : Prop := 3 * height * width <= values.length

theorem moveSample_some {values hwc : List F} {height width channel y x : Nat}
    (covers : Covers values height width) (fits : values.length <= usizeMax)
    (isChannel : channel < 3) (isRow : y < height) (isColumn : x < width)
    (length : hwc.length = values.length) : Exists fun next =>
      moveSample values height width 3 channel y x hwc = some next ∧
        next.length = values.length := by
  have line : channel * height + y < 3 * height := pixel_lt isChannel isRow
  have source : (channel * height + y) * width + x < 3 * height * width := pixel_lt line isColumn
  have target := offset_le 3 isRow isColumn
  have sameSize : height * width * 3 = 3 * height * width := by
    rw [Nat.mul_comm, Nat.mul_assoc]
  have isOffset : offset width 3 y x = (y * width + x) * 3 := rfl
  have isCovered : 3 * height * width <= values.length := covers
  have rowStart : channel * height + y <= (channel * height + y) * width :=
    Nat.le_mul_of_pos_right _ (Nat.zero_lt_of_lt isColumn)
  have isPixel := pixelIndex_eq (show 0 < 3 by decide) isRow isColumn
    (show height * width * 3 <= usizeMax by omega)
  have isValue : values[(channel * height + y) * width + x]? =
      some values[(channel * height + y) * width + x] := List.getElem?_eq_getElem (by omega)
  refine ⟨hwc.set (offset width 3 y x + channel) values[(channel * height + y) * width + x], ?_, ?_⟩
  · rw [moveSample, checkedMul_eq_some.mpr ⟨rfl, by omega⟩]
    show (checkedAdd (channel * height) y >>= _) = _
    rw [checkedAdd_eq_some.mpr ⟨rfl, by omega⟩]
    show (checkedMul (channel * height + y) width >>= _) = _
    rw [checkedMul_eq_some.mpr ⟨rfl, by omega⟩]
    show (checkedAdd ((channel * height + y) * width) x >>= _) = _
    rw [checkedAdd_eq_some.mpr ⟨rfl, by omega⟩, isPixel]
    show (checkedAdd (offset width 3 y x) channel >>= _) = _
    rw [checkedAdd_eq_some.mpr ⟨rfl, by omega⟩]
    show (values[(channel * height + y) * width + x]? >>= _) = _
    rw [isValue]
    exact if_pos (by omega)
  · rw [List.length_set, length]

/-- A sample that is moved has been found where the shape says. -/
theorem moveSample_lt {values hwc next : List F} {height width channel y x : Nat}
    (moved : moveSample values height width 3 channel y x hwc = some next) :
    (channel * height + y) * width + x < values.length := by
  rcases Option.bind_eq_some_iff.mp moved with ⟨planeRow, isPlaneRow, moved⟩
  rcases Option.bind_eq_some_iff.mp moved with ⟨row, isRow, moved⟩
  rcases Option.bind_eq_some_iff.mp moved with ⟨rowStart, isRowStart, moved⟩
  rcases Option.bind_eq_some_iff.mp moved with ⟨source, isSource, moved⟩
  rcases Option.bind_eq_some_iff.mp moved with ⟨_, _, moved⟩
  rcases Option.bind_eq_some_iff.mp moved with ⟨_, _, moved⟩
  rcases Option.bind_eq_some_iff.mp moved with ⟨value, isValue, _⟩
  rcases checkedMul_eq_some.mp isPlaneRow with ⟨rfl, _⟩
  rcases checkedAdd_eq_some.mp isRow with ⟨rfl, _⟩
  rcases checkedMul_eq_some.mp isRowStart with ⟨rfl, _⟩
  rcases checkedAdd_eq_some.mp isSource with ⟨rfl, _⟩
  exact (List.getElem?_eq_some_iff.mp isValue).1

theorem toPixels_some {values : List F} {height width : Nat} (covers : Covers values height width)
    (fits : values.length <= usizeMax) (zero : F) : Exists fun hwc =>
      toPixels values 3 height width (List.replicate values.length zero) = some hwc := by
  have length : (List.replicate values.length zero).length = values.length := List.length_replicate
  rcases foldlM_some (fun hwc : List F => hwc.length = values.length)
    (fun channel isChannel _ length => foldlM_some _ (fun y isRow _ length =>
      foldlM_some _ (fun x isColumn _ length => moveSample_some covers fits
        (List.mem_range.mp isChannel) (List.mem_range.mp isRow) (List.mem_range.mp isColumn) length)
        length) length) length with ⟨hwc, moved, _⟩
  exact ⟨hwc, moved⟩

/-- The last sample is missing if any is. -/
theorem toPixels_none {values : List F} {height width : Nat}
    (uncovered : ¬ Covers values height width) (hwc : List F) :
    toPixels values 3 height width hwc = none := by
  have short : values.length < 3 * height * width := Nat.lt_of_not_le uncovered
  have isHeight : 0 < height := by
    apply Nat.pos_of_ne_zero
    rintro rfl
    simp at short
  have isWidth : 0 < width := by
    apply Nat.pos_of_ne_zero
    rintro rfl
    simp at short
  have missing : forall hwc, moveSample values height width 3 2 (height - 1) (width - 1) hwc = none := by
    intro hwc
    cases moved : moveSample values height width 3 2 (height - 1) (width - 1) hwc with
    | none => rfl
    | some next =>
        have found := moveSample_lt moved
        have lastRow : 2 * height + (height - 1) + 1 = 3 * height := by omega
        have last : (2 * height + (height - 1)) * width + width = 3 * height * width := by
          rw [← Nat.succ_mul, Nat.succ_eq_add_one, lastRow]
        omega
  refine foldlM_none (List.mem_range.mpr (show 2 < 3 by decide)) (fun hwc => ?_) hwc
  refine foldlM_none (List.mem_range.mpr (Nat.sub_one_lt isHeight.ne')) (fun hwc => ?_) hwc
  exact foldlM_none (List.mem_range.mpr (Nat.sub_one_lt isWidth.ne')) missing hwc

theorem normalizeSample_some (arith : SampleArith F) (normalization : Normalization F)
    {resized : List F} {height width : Nat} (length : resized.length = height * width * 3)
    (fits : height * width * 3 <= usizeMax) (channel : Fin 3) {y x : Nat} (isRow : y < height)
    (isColumn : x < width) (bytes : List UInt8) : Exists fun next =>
      normalizeSample arith normalization resized width channel y x bytes = some next := by
  have inside := offset_le 3 isRow isColumn
  have isChannel := channel.isLt
  have isSample : resized[offset width 3 y x + channel]? =
      some resized[offset width 3 y x + channel] := List.getElem?_eq_getElem (by omega)
  refine ⟨bytes ++ arith.toBytes (arith.div (arith.sub
    (arith.div resized[offset width 3 y x + channel] (arith.ofNat 255))
    (normalization.mean channel)) (normalization.std channel)), ?_⟩
  rw [normalizeSample, pixelIndex_eq (by decide) isRow isColumn fits]
  show (checkedAdd (offset width 3 y x) channel >>= _) = _
  rw [checkedAdd_eq_some.mpr ⟨rfl, by omega⟩]
  show (resized[offset width 3 y x + channel]? >>= _) = _
  rw [isSample]
  rfl

/-- The resized image has all the samples that are normalized. -/
theorem normalizedBytes_some (arith : SampleArith F) (normalization : Normalization F)
    {resized : List F} {height width : Nat} (length : resized.length = height * width * 3)
    (fits : height * width * 3 <= usizeMax) : Exists fun bytes =>
      normalizedBytes arith normalization resized height width = some bytes := by
  rcases foldlM_some (fun _ : List UInt8 => True)
    (fun channel _ _ _ => foldlM_some _ (fun y isRow _ _ => foldlM_some _ (fun x isColumn bytes _ =>
      (normalizeSample_some arith normalization length fits channel (List.mem_range.mp isRow)
        (List.mem_range.mp isColumn) bytes).imp fun _ made => ⟨made, trivial⟩)
      trivial) trivial) (show (fun _ : List UInt8 => True) [] from trivial) with ⟨bytes, made, _⟩
  exact ⟨bytes, made⟩

/-- What follows the loops from planes to pixels does not panic. -/
theorem resized_safe (arith : SampleArith F) (normalization : Normalization F) (hwc : List F)
    (sourceWidth sourceHeight width height : Nat) :
    (Exists fun error => (resizeLetterbox arith.toFloatArith hwc 3 sourceWidth sourceHeight width
      height arith.zero).mapError (Fault.map AlgorithmError.graph) = .error (.error error)) ∨
    Exists fun resized => Exists fun letterbox => Exists fun bytes =>
      (resizeLetterbox arith.toFloatArith hwc 3 sourceWidth sourceHeight width height
        arith.zero).mapError (Fault.map AlgorithmError.graph) = .ok (resized, letterbox) ∧
      normalizedBytes arith normalization resized height width = some bytes := by
  cases checks : resizeChecks arith.toFloatArith hwc 3 sourceWidth sourceHeight width height with
  | error error =>
      refine Or.inl ⟨.graph error, ?_⟩
      rw [resizeLetterbox_of_error checks]
      rfl
  | ok plan =>
      rcases resizeLetterbox_of_ok checks arith.zero with ⟨resized, isResized, fitted⟩
      rcases normalizedBytes_some arith normalization fitted.length
        (resizeChecks_ok checks).targetFits with ⟨bytes, isBytes⟩
      refine Or.inr ⟨resized, plan.letterbox, bytes, ?_, isBytes⟩
      rw [isResized]
      rfl

theorem imageDims_prod {desc : TensorDesc} {channels height width : Nat}
    (isImage : imageDims desc = some (channels, height, width)) :
    desc.shape.dims.prod = channels * height * width := by
  rw [imageDims] at isImage
  split at isImage
  · rename_i isDims
    cases isImage
    rw [isDims]
    simp [Nat.mul_assoc]
  · rename_i isDims
    cases isImage
    rw [isDims]
    simp [Nat.mul_assoc]
  · cases isImage

/-- An image of three channels whose values are read has all elements of its
logical shape stored. -/
def StoresImage (arith : SampleArith F) (input : BackedTensor) : Prop :=
  forall height width values, imageDims input.desc = some (3, height, width) ->
    tensorValues arith input = .ok values -> arith.room values.length = true ->
      forall count, input.desc.physicalElements = .ok count -> 3 * height * width <= count

/-- A tensor without explicit strides stores its whole shape. -/
theorem storesImage_of_plain (arith : SampleArith F) {input : BackedTensor}
    (plain : input.desc.strides = none) : StoresImage arith input := by
  intro height width values isImage _ _ count isCount
  have counted : input.desc.shape.elementCount = .ok count := by
    rw [TensorDesc.physicalElements, plain] at isCount
    exact isCount
  rw [Shape.elementCount_of_ok counted, imageDims_prod isImage]

theorem imageDims_ok {desc : TensorDesc} {dims : Nat × Nat × Nat} {error : AlgorithmError}
    (isDims : orFail (match imageDims desc with
      | some dims => .ok dims
      | none => .error error) = .ok dims) : imageDims desc = some dims := by
  have isDims := orFail_ok isDims
  split at isDims
  · rename_i held isHeld
    cases isDims
    exact isHeld
  · cases isDims

/-- The loops are safe if all samples of the shape are stored. -/
theorem preprocess_safe {arith : SampleArith F} {input : BackedTensor} (built : input.Built)
    {stored : StoredBuffer} (same : stored.buffer = input.buffer) (stores : StoresImage arith input)
    (device : Device) (policy : ResourcePolicy) (width height : Nat)
    (normalization : Normalization F) :
    Safe (resnetPreprocessTensor arith device policy input width height normalization) := by
  refine safe_bind (safe_orFail _) fun dims isDims => ?_
  rcases dims with ⟨channels, sourceHeight, sourceWidth⟩
  have isImage := imageDims_ok isDims
  dsimp only
  split
  · exact safe_error _
  · rename_i three
    cases not_not.mp three
    refine safe_bind (safe_orFail _) fun values isRead => ?_
    have read := orFail_ok isRead
    split
    · exact safe_error _
    · rename_i room
      rcases tensorValues_length built.stored same read with ⟨isCount, fits⟩
      have covers := stores _ _ _ isImage read (Bool.eq_true_of_not_eq_false room) _ isCount
      rcases toPixels_some covers fits arith.zero with ⟨hwc, moved⟩
      refine safe_bind (safe_orPanic moved) fun pixels _ => ?_
      rcases resized_safe arith normalization pixels sourceWidth sourceHeight width height with
        ⟨error, fails⟩ | ⟨resized, letterbox, bytes, isResized, isBytes⟩
      · rw [fails]
        exact safe_bind (safe_error error) fun _ isOk => nomatch isOk
      · rw [isResized]
        refine safe_bind (safe_ok _) fun pair isPair => ?_
        cases isPair
        refine safe_bind (safe_orFail _) fun output _ => ?_
        split
        · exact safe_error _
        · exact safe_bind (safe_orPanic isBytes) fun _ _ => safe_orFail _

/-- The preprocessing reads only inside the values of a tensor exactly if all
samples of its shape are stored. -/
theorem preprocess_safe_iff (arith : SampleArith F) (device : Device) (policy : ResourcePolicy)
    {input : BackedTensor} (built : input.Built) (stored : StoredBuffer)
    (same : stored.buffer = input.buffer) (width height : Nat) (normalization : Normalization F) :
    resnetPreprocessTensor arith device policy input width height normalization ≠
      .error .panic <-> StoresImage arith input := by
  constructor
  · intro safe sourceHeight sourceWidth values isImage read room count isCount
    rcases tensorValues_length built.stored same read with ⟨isLength, _⟩
    cases isLength.symm.trans isCount
    by_contra uncovered
    apply safe
    refine bind_panic (3, sourceHeight, sourceWidth) (by rw [isImage]; rfl) ?_
    refine (if_neg (not_not.mpr rfl)).trans (bind_panic values (by rw [read]; rfl) ?_)
    refine (if_neg (by rw [room]; decide)).trans ?_
    rw [toPixels_none uncovered]
    rfl
  · intro stores
    exact preprocess_safe built same stores device policy width height normalization

/-! ## Samples that lie on each other -/

/-- Samples that are whole numbers, and zeros as bytes. -/
def wholeSamples : SampleArith Nat where
  ofNat := id
  half := 0
  sub := (· - ·)
  mul := (· * ·)
  div := (· / ·)
  min := Nat.min
  isFinite := fun _ => true
  isNegative := fun _ => false
  round := some
  room := fun _ => true
  zero := 0
  ofByte := UInt8.toNat
  ofBytes := fun bytes => bytes.foldr (fun byte rest => byte.toNat + 256 * rest) 0
  toBytes := fun _ => [0, 0, 0, 0]

def someDevice : Device := Device.pooled MemoryPoolConfig.default MemoryPool.plenty [] 0

/-- Each channel is left as it is. -/
def unchanged : Normalization Nat := ⟨fun _ => 0, fun _ => 1⟩

/-- One pixel. -/
def onePixel : BackedTensor := ⟨TensorDesc.new ⟨[3, 1, 1]⟩ u8 .nchw .cpu, BackedTensor.hostBuffer 3⟩

theorem onePixel_safe :
    resnetPreprocessTensor wholeSamples someDevice ResourcePolicy.default onePixel 1 1 unchanged ≠
      .error .panic :=
  (preprocess_safe_iff wholeSamples someDevice ResourcePolicy.default
    (.given onePixel.desc onePixel.buffer (by decide))
    (StoredBuffer.ofHost .cpu ⟨3, 1⟩ (List.replicate 3 0) List.length_replicate) rfl 1 1
    unchanged).mpr (storesImage_of_plain wholeSamples rfl)

/-- Twelve samples in five bytes. -/
def overlapping : BackedTensor :=
  ⟨⟨⟨[3, 2, 2]⟩, some ⟨[1, 1, 1]⟩, u8, .nchw, .cpu⟩, BackedTensor.hostBuffer 5⟩

theorem overlapping_panics :
    BackedTensor.fromBuffer overlapping.desc (BackedTensor.hostBuffer 5) = .ok overlapping ∧
      resnetPreprocessTensor wholeSamples someDevice ResourcePolicy.default overlapping 1 1
        unchanged = .error .panic :=
  ⟨by decide, rfl⟩

end Elements
end DyunGu
