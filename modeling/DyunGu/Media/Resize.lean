import DyunGu.Lib.Raster
import DyunGu.Media.Ops

namespace DyunGu
namespace Media

open Core Outcome Raster Slices

/-!
# Resizing to the nearest pixels

The loops write the target pixel by pixel.  They multiply the coordinates of the
target by the sizes of the source.  A build with overflow checks panics if such
a product is too large, and in a build without them it wraps around.
-/

/-- Multiplication of machine words, with or without overflow checks. -/
def mulUsize (checked : Bool) (first second : Nat) : Option Nat :=
  if first * second <= usizeMax then some (first * second)
  else if checked then none
  else some (wrapUsize (first * second))

def addUsize (checked : Bool) (first second : Nat) : Option Nat :=
  if first + second <= usizeMax then some (first + second)
  else if checked then none
  else some (wrapUsize (first + second))

/-- `(y * width + x) * channels`. -/
def pixelOffset (checked : Bool) (width channels y x : Nat) : Option Nat := do
  let row <- mulUsize checked y width
  let pixel <- addUsize checked row x
  mulUsize checked pixel channels

structure ResizeCore where
  dstWidth : Nat
  dstHeight : Nat
  ready : List MediaFrame
  eos : Bool

/-- The sizes and the bytes of an image. -/
structure SourceImage where
  height : Nat
  width : Nat
  channels : Nat
  bytes : List UInt8

namespace ResizeCore

variable (core : ResizeCore) (checked : Bool)

/-- What is read of a frame before the loops. -/
def source (room : Nat -> Bool) (frame : MediaFrame) : Except MediaError SourceImage := do
  let (srcHeight, srcWidth, channels) <- imageGeometry frame "media_resize"
  if srcHeight = 0 ∨ srcWidth = 0 ∨ core.dstHeight = 0 ∨ core.dstWidth = 0 then
    .error (.media "media_resize: image dimensions must be non-zero")
  else do
    let expected <- checkedPixelCount srcHeight srcWidth channels "media_resize"
    let src <- readBytes room frame
    if src.length ≠ expected then
      .error (.media s!"media_resize: buffer has {src.length} bytes, expected {expected}")
    else do
      let outLen <- checkedPixelCount core.dstHeight core.dstWidth channels "media_resize"
      if room outLen = false then
        .error (.media s!"media_resize: allocation failed for {outLen} bytes")
      else .ok ⟨srcHeight, srcWidth, channels, src⟩

/-- A round of the inner loop. -/
def copyPixel (source : SourceImage) (srcY dstY dstX : Nat) (dst : List UInt8) :
    Option (List UInt8) := do
  let scaled <- mulUsize checked dstX source.width
  let srcX := scaled / core.dstWidth
  let srcOffset <- pixelOffset checked source.width source.channels srcY srcX
  let dstOffset <- pixelOffset checked core.dstWidth source.channels dstY dstX
  let pixel <- slice source.bytes srcOffset source.channels
  splice dst dstOffset pixel

/-- A round of the outer loop. -/
def copyRow (source : SourceImage) (dst : List UInt8) (dstY : Nat) : Option (List UInt8) := do
  let scaled <- mulUsize checked dstY source.height
  let srcY := scaled / core.dstHeight
  (List.range core.dstWidth).foldlM (fun dst dstX => core.copyPixel checked source srcY dstY dstX dst)
    dst

def copyPixels (source : SourceImage) : Option (List UInt8) :=
  (List.range core.dstHeight).foldlM (core.copyRow checked source)
    (List.replicate (core.dstHeight * core.dstWidth * source.channels) 0)

def resize (room : Nat -> Bool) (frame : MediaFrame) : Except (Fault MediaError) MediaFrame := do
  let source <- orFail (core.source room frame)
  let dst <- orPanic (core.copyPixels checked source)
  return hostImage frame core.dstHeight core.dstWidth source.channels dst

def submitImage (room : Nat -> Bool) (frame : MediaFrame) :
    Except (Fault MediaError) Unit × ResizeCore :=
  if core.eos then
    (.error (.error (.media "media_resize: frame submitted after end of stream")), core)
  else if frame.isEndOfStream then (.ok (), { core with eos := true })
  else
    match core.resize checked room frame with
    | .error fault => (.error fault, core)
    | .ok resized => (.ok (), { core with ready := core.ready ++ [resized] })

end ResizeCore

/-! ## Machine words -/

theorem wrapUsize_of_le {value : Nat} (fits : value <= usizeMax) : wrapUsize value = value :=
  Nat.mod_eq_of_lt (Nat.lt_succ_of_le fits)

theorem wrapUsize_le (value : Nat) : wrapUsize value <= value := Nat.mod_le _ _

theorem mulUsize_of_le (checked : Bool) {first second : Nat} (fits : first * second <= usizeMax) :
    mulUsize checked first second = some (first * second) := if_pos fits

theorem addUsize_of_le (checked : Bool) {first second : Nat} (fits : first + second <= usizeMax) :
    addUsize checked first second = some (first + second) := if_pos fits

theorem mulUsize_wrapping (first second : Nat) :
    mulUsize false first second = some (wrapUsize (first * second)) := by
  by_cases fits : first * second <= usizeMax
  · rw [mulUsize_of_le false fits, wrapUsize_of_le fits]
  · exact if_neg fits

/-- A product that passes the overflow check is the one without it. -/
theorem mulUsize_mono {checked : Bool} {first second product : Nat}
    (isProduct : mulUsize checked first second = some product) :
    mulUsize false first second = some product := by
  cases checked with
  | false => exact isProduct
  | true =>
      by_cases fits : first * second <= usizeMax
      · rw [mulUsize_of_le true fits] at isProduct
        rw [mulUsize_of_le false fits]
        exact isProduct
      · rw [mulUsize, if_neg fits] at isProduct
        cases isProduct

theorem addUsize_mono {checked : Bool} {first second sum : Nat}
    (isSum : addUsize checked first second = some sum) :
    addUsize false first second = some sum := by
  cases checked with
  | false => exact isSum
  | true =>
      by_cases fits : first + second <= usizeMax
      · rw [addUsize_of_le true fits] at isSum
        rw [addUsize_of_le false fits]
        exact isSum
      · rw [addUsize, if_neg fits] at isSum
        cases isSum

/-- Inside an image nothing overflows. -/
theorem pixelOffset_eq (checked : Bool) {height width channels y x : Nat} (isRow : y < height)
    (isColumn : x < width) (pixels : height * width <= usizeMax)
    (fits : height * width * channels <= usizeMax) :
    pixelOffset checked width channels y x = some (offset width channels y x) := by
  have isPixel := pixel_lt isRow isColumn
  have inside := (offset_le channels isRow isColumn).trans fits
  have isOffset : offset width channels y x = (y * width + x) * channels := rfl
  rw [pixelOffset, mulUsize_of_le checked (by omega)]
  show (addUsize checked (y * width) x >>= fun pixel => mulUsize checked pixel channels) = _
  rw [addUsize_of_le checked (by omega)]
  exact mulUsize_of_le checked (by omega)

/-- Even a product that wraps around leads to a coordinate of the source. -/
theorem sourceCoordinate_lt {srcSize dstSize coordinate : Nat} (inside : coordinate < dstSize)
    (nonempty : 0 < srcSize) : sourceCoordinate srcSize dstSize coordinate < srcSize := by
  refine Nat.div_lt_of_lt_mul ?_
  exact Nat.lt_of_le_of_lt (wrapUsize_le _) (Nat.mul_lt_mul_of_pos_right inside nonempty)

theorem sourceCoordinate_of_le {srcSize dstSize coordinate : Nat}
    (fits : coordinate * srcSize <= usizeMax) :
    sourceCoordinate srcSize dstSize coordinate = coordinate * srcSize / dstSize := by
  rw [sourceCoordinate, wrapUsize_of_le fits]

/-! ## The loops -/

theorem checkedPixelCount_ok {height width channels count : Nat} {element : String}
    (counted : checkedPixelCount height width channels element = .ok count) :
    count = height * width * channels ∧ height * width <= usizeMax ∧
      height * width * channels <= usizeMax := by
  rw [checkedPixelCount] at counted
  split at counted
  · rename_i product isProduct
    cases counted
    rcases Option.bind_eq_some_iff.mp isProduct with ⟨pixels, isPixels, isCount⟩
    rcases checkedMul_eq_some.mp isPixels with ⟨rfl, pixelsFit⟩
    rcases checkedMul_eq_some.mp isCount with ⟨rfl, fits⟩
    exact ⟨rfl, pixelsFit, fits⟩
  · cases counted

theorem imageGeometry_ok {frame : MediaFrame} {element : String} {height width channels : Nat}
    (isImage : imageGeometry frame element = .ok (height, width, channels)) :
    frame.shape = [height, width, channels] := by
  rw [imageGeometry] at isImage
  split at isImage
  · rename_i shape
    cases isImage
    exact shape
  · cases isImage

namespace ResizeCore

variable {core : ResizeCore} {checked : Bool}

/-- What is known of an image and a target before the loops. -/
structure Accepts (core : ResizeCore) (source : SourceImage) : Prop where
  nonempty : 0 < source.height ∧ 0 < source.width ∧ 0 < core.dstHeight ∧ 0 < core.dstWidth
  length : source.bytes.length = source.height * source.width * source.channels
  pixels : source.height * source.width <= usizeMax
  fits : source.height * source.width * source.channels <= usizeMax
  dstPixels : core.dstHeight * core.dstWidth <= usizeMax
  dstFits : core.dstHeight * core.dstWidth * source.channels <= usizeMax

theorem source_ok {room : Nat -> Bool} {frame : MediaFrame} {source : SourceImage}
    (isSource : core.source room frame = .ok source) :
    frame.shape = [source.height, source.width, source.channels] ∧
      readBytes room frame = .ok source.bytes ∧ core.Accepts source := by
  rcases bind_ok isSource with ⟨⟨height, width, channels⟩, isShape, isSource⟩
  dsimp only at isSource
  split at isSource
  · cases isSource
  · rename_i nonzero
    rcases bind_ok isSource with ⟨expected, isExpected, isSource⟩
    rcases bind_ok isSource with ⟨src, read, isSource⟩
    split at isSource
    · cases isSource
    · rename_i length
      rcases bind_ok isSource with ⟨outLen, isOutLen, isSource⟩
      split at isSource
      · cases isSource
      · cases isSource
        rcases checkedPixelCount_ok isExpected with ⟨rfl, pixels, fits⟩
        rcases checkedPixelCount_ok isOutLen with ⟨rfl, dstPixels, dstFits⟩
        have nonempty : 0 < height ∧ 0 < width ∧ 0 < core.dstHeight ∧ 0 < core.dstWidth := by
          omega
        exact ⟨imageGeometry_ok isShape, read, nonempty, not_not.mp length, pixels, fits, dstPixels, dstFits⟩

/-- The bytes that are copied to a pixel when products wrap around. -/
def nearestPixel (core : ResizeCore) (source : SourceImage) (y x : Nat) : List UInt8 :=
  (source.bytes.drop (offset source.width source.channels
    (sourceCoordinate source.height core.dstHeight y)
    (sourceCoordinate source.width core.dstWidth x))).take source.channels

theorem Accepts.source_fits {source : SourceImage} (accepts : core.Accepts source) {y x : Nat}
    (isRow : y < core.dstHeight) (isColumn : x < core.dstWidth) :
    offset source.width source.channels (sourceCoordinate source.height core.dstHeight y)
      (sourceCoordinate source.width core.dstWidth x) + source.channels <= source.bytes.length := by
  rw [accepts.length]
  exact offset_le source.channels (sourceCoordinate_lt isRow accepts.nonempty.1)
    (sourceCoordinate_lt isColumn accepts.nonempty.2.1)

theorem Accepts.sized {source : SourceImage} (accepts : core.Accepts source) {y x : Nat}
    (isRow : y < core.dstHeight) (isColumn : x < core.dstWidth) :
    (core.nearestPixel source y x).length = source.channels :=
  slice_length (accepts.source_fits isRow isColumn)

/-- Without overflow checks a round is one write. -/
theorem Accepts.copyPixel_eq {source : SourceImage} (accepts : core.Accepts source) {y x : Nat}
    (isRow : y < core.dstHeight) (isColumn : x < core.dstWidth) (dst : List UInt8) :
    core.copyPixel false source (sourceCoordinate source.height core.dstHeight y) y x dst =
      Write.perform dst ⟨offset core.dstWidth source.channels y x,
        core.nearestPixel source y x⟩ := by
  have isSource := pixelOffset_eq false (sourceCoordinate_lt isRow accepts.nonempty.1)
    (sourceCoordinate_lt isColumn accepts.nonempty.2.1) accepts.pixels accepts.fits
  have isTarget := pixelOffset_eq false isRow isColumn accepts.dstPixels accepts.dstFits
  rw [copyPixel, mulUsize_wrapping]
  show (pixelOffset false source.width source.channels
    (sourceCoordinate source.height core.dstHeight y) (sourceCoordinate source.width core.dstWidth x)
      >>= _) = _
  rw [isSource, isTarget]
  show (slice source.bytes _ source.channels >>= fun pixel => splice dst _ pixel) = _
  rw [slice_of_le (accepts.source_fits isRow isColumn)]
  rfl

theorem Accepts.copyPixels_wrapping {source : SourceImage} (accepts : core.Accepts source) :
    core.copyPixels false source =
      performAll (List.replicate (core.dstHeight * core.dstWidth * source.channels) 0)
        (tiles ⟨0, 0, core.dstHeight, core.dstWidth⟩ core.dstWidth source.channels
          (core.nearestPixel source)) := by
  rw [copyPixels, performAll_tiles_eq]
  refine foldlM_congr (fun y isRow dst => ?_) _
  rw [copyRow, mulUsize_wrapping]
  refine foldlM_congr (fun x isColumn dst => ?_) _
  simp only [Nat.zero_add]
  exact accepts.copyPixel_eq (List.mem_range.mp isRow) (List.mem_range.mp isColumn) dst

/-- What the loops compute with overflow checks they compute without them. -/
theorem copyPixels_mono {source : SourceImage} {dst : List UInt8}
    (copied : core.copyPixels checked source = some dst) :
    core.copyPixels false source = some dst := by
  have offsetMono {width channels y x result : Nat}
      (isOffset : pixelOffset checked width channels y x = some result) :
      pixelOffset false width channels y x = some result := by
    rcases Option.bind_eq_some_iff.mp isOffset with ⟨row, isRow, isOffset⟩
    rcases Option.bind_eq_some_iff.mp isOffset with ⟨pixel, isPixel, isOffset⟩
    rw [pixelOffset, mulUsize_mono isRow]
    show (addUsize false row x >>= fun pixel => mulUsize false pixel channels) = _
    rw [addUsize_mono isPixel]
    exact mulUsize_mono isOffset
  refine foldlM_mono (fun dst y next copied => ?_) copied
  rcases Option.bind_eq_some_iff.mp copied with ⟨scaledY, isScaledY, copied⟩
  rw [copyRow, mulUsize_mono isScaledY]
  refine foldlM_mono (fun dst x next copied => ?_) copied
  rcases Option.bind_eq_some_iff.mp copied with ⟨scaledX, isScaledX, copied⟩
  rcases Option.bind_eq_some_iff.mp copied with ⟨srcOffset, isSrcOffset, copied⟩
  rcases Option.bind_eq_some_iff.mp copied with ⟨dstOffset, isDstOffset, copied⟩
  rw [copyPixel, mulUsize_mono isScaledX]
  show (pixelOffset false source.width source.channels (scaledY / core.dstHeight)
    (scaledX / core.dstWidth) >>= _) = _
  rw [offsetMono isSrcOffset, offsetMono isDstOffset]
  exact copied

/-- The loops of a build without overflow checks as a whole. -/
theorem Accepts.copyPixels_eq {source : SourceImage} (accepts : core.Accepts source) :
    core.copyPixels false source = some (nearestBytes source.bytes source.height source.width
      core.dstHeight core.dstWidth source.channels) := by
  rw [accepts.copyPixels_wrapping, performAll_image List.length_replicate
    fun y x isRow isColumn => accepts.sized isRow isColumn]
  rfl

theorem resizeFrame_eq (room : Nat -> Bool) (frame : MediaFrame) :
    resizeFrame room core.dstWidth core.dstHeight frame =
      core.source room frame >>= fun source =>
        .ok (hostImage frame core.dstHeight core.dstWidth source.channels
          (nearestBytes source.bytes source.height source.width core.dstHeight core.dstWidth
            source.channels)) := by
  rw [resizeFrame, source]
  cases imageGeometry frame "media_resize" with
  | error error => rfl
  | ok geometry =>
      rcases geometry with ⟨srcHeight, srcWidth, channels⟩
      by_cases zero : srcHeight = 0 ∨ srcWidth = 0 ∨ core.dstHeight = 0 ∨ core.dstWidth = 0
      · simp only [zero, if_true, bind, Except.bind, throw, throwThe, MonadExceptOf.throw]
      · simp only [zero, if_false, bind, Except.bind]
        cases checkedPixelCount srcHeight srcWidth channels "media_resize" with
        | error error => rfl
        | ok expected =>
            cases readBytes room frame with
            | error error => rfl
            | ok src =>
                by_cases length : src.length = expected
                · simp only [length, ne_eq, not_true, if_false]
                  cases checkedPixelCount core.dstHeight core.dstWidth channels "media_resize" with
                  | error error => rfl
                  | ok outLen =>
                      cases isRoom : room outLen with
                      | false =>
                          simp only [isRoom, if_true]
                          rfl
                      | true =>
                          simp only [isRoom, Bool.true_eq_false, if_false]
                          rfl
                · simp only [length, ne_eq, not_false_eq_true, if_true, throw, throwThe,
                    MonadExceptOf.throw]

/-- What a frame becomes without overflow checks. -/
theorem resize_wrapping (room : Nat -> Bool) (frame : MediaFrame) :
    core.resize false room frame =
      orFail (resizeFrame room core.dstWidth core.dstHeight frame) := by
  rw [resizeFrame_eq, resize]
  cases isSource : core.source room frame with
  | error error => rfl
  | ok source =>
      show (orPanic (core.copyPixels false source) >>= _) = _
      rw [(source_ok isSource).2.2.copyPixels_eq]
      rfl

/-- Without overflow checks nothing panics. -/
theorem resize_safe (room : Nat -> Bool) (frame : MediaFrame) :
    Safe (core.resize false room frame) := by
  rw [resize_wrapping]
  exact safe_orFail _

/-! ## The nearest pixels -/

/-- All products are machine words, all bytes are inside, and each pixel is the
nearest one. -/
structure Nearest (core : ResizeCore) (source : SourceImage) (dst : List UInt8) : Prop where
  scaled : forall y x, y < core.dstHeight -> x < core.dstWidth ->
    y * source.height <= usizeMax ∧ x * source.width <= usizeMax
  offsets : forall y x, y < core.dstHeight -> x < core.dstWidth ->
    y * source.height / core.dstHeight * source.width <= usizeMax ∧
      offset source.width source.channels (y * source.height / core.dstHeight)
        (x * source.width / core.dstWidth) <= usizeMax ∧
      y * core.dstWidth <= usizeMax ∧ offset core.dstWidth source.channels y x <= usizeMax
  inside : forall y x, y < core.dstHeight -> x < core.dstWidth ->
    offset source.width source.channels (y * source.height / core.dstHeight)
        (x * source.width / core.dstWidth) + source.channels <= source.bytes.length ∧
      offset core.dstWidth source.channels y x + source.channels <= dst.length
  pixels : forall y x sample, y < core.dstHeight -> x < core.dstWidth ->
    sample < source.channels ->
      dst[offset core.dstWidth source.channels y x + sample]? =
        source.bytes[offset source.width source.channels (y * source.height / core.dstHeight)
          (x * source.width / core.dstWidth) + sample]?

/-- The largest products of a coordinate of the target and a size of the source
are machine words. -/
def Fits (core : ResizeCore) (height width : Nat) : Prop :=
  (core.dstHeight - 1) * height <= usizeMax ∧ (core.dstWidth - 1) * width <= usizeMax

theorem Fits.scaled {height width : Nat} (largest : core.Fits height width) {y x : Nat}
    (isRow : y < core.dstHeight) (isColumn : x < core.dstWidth) :
    y * height <= usizeMax ∧ x * width <= usizeMax :=
  ⟨(Nat.mul_le_mul_right _ (Nat.le_sub_one_of_lt isRow)).trans largest.1,
    (Nat.mul_le_mul_right _ (Nat.le_sub_one_of_lt isColumn)).trans largest.2⟩

/-- Sizes up to two to the 32 are safe. -/
theorem fits_of_small {height width : Nat} (sourceSmall : height <= 2 ^ 32 ∧ width <= 2 ^ 32)
    (targetSmall : core.dstHeight <= 2 ^ 32 ∧ core.dstWidth <= 2 ^ 32) :
    core.Fits height width := by
  have most {size coordinate : Nat} (isSize : size <= 2 ^ 32) (isCoordinate : coordinate <= 2 ^ 32) :
      (coordinate - 1) * size <= usizeMax :=
    (Nat.mul_le_mul (Nat.sub_le_sub_right isCoordinate 1) isSize).trans (by decide)
  exact ⟨most sourceSmall.1 targetSmall.1, most sourceSmall.2 targetSmall.2⟩

theorem Accepts.nearest {source : SourceImage} (accepts : core.Accepts source)
    (largest : core.Fits source.height source.width) {dst : List UInt8}
    (copied : core.copyPixels checked source = some dst) : core.Nearest source dst := by
  have zeros : (List.replicate (core.dstHeight * core.dstWidth * source.channels)
      (0 : UInt8)).length = core.dstHeight * core.dstWidth * source.channels :=
    List.length_replicate
  have sized : Sized ⟨0, 0, core.dstHeight, core.dstWidth⟩ source.channels
      (core.nearestPixel source) := fun _ _ isRow isColumn => accepts.sized isRow isColumn
  have within : Area.Within ⟨0, 0, core.dstHeight, core.dstWidth⟩ core.dstHeight core.dstWidth :=
    ⟨(Nat.zero_add _).le, (Nat.zero_add _).le⟩
  rcases performAll_tiles zeros within sized with ⟨result, performed, length, samples⟩
  have isDst : result = dst := Option.some.inj (performed.symm.trans
    (accepts.copyPixels_wrapping.symm.trans (copyPixels_mono copied)))
  subst isDst
  have isRowOf {y : Nat} (isRow : y < core.dstHeight) :
      y * source.height / core.dstHeight < source.height :=
    Nat.div_lt_of_lt_mul (Nat.mul_lt_mul_of_pos_right isRow accepts.nonempty.1)
  have isColumnOf {x : Nat} (isColumn : x < core.dstWidth) :
      x * source.width / core.dstWidth < source.width :=
    Nat.div_lt_of_lt_mul (Nat.mul_lt_mul_of_pos_right isColumn accepts.nonempty.2.1)
  have inSource {y x : Nat} (isRow : y < core.dstHeight) (isColumn : x < core.dstWidth) :=
    offset_le source.channels (isRowOf isRow) (isColumnOf isColumn)
  have inTarget {y x : Nat} (isRow : y < core.dstHeight) (isColumn : x < core.dstWidth) :=
    offset_le source.channels isRow isColumn
  constructor
  · intro y x isRow isColumn
    exact largest.scaled isRow isColumn
  · intro y x isRow isColumn
    have sourceRows := Nat.mul_le_mul_right source.width (isRowOf isRow).le
    have targetRows := Nat.mul_le_mul_right core.dstWidth isRow.le
    have sourceBytes := (inSource isRow isColumn).trans accepts.fits
    have targetBytes := (inTarget isRow isColumn).trans accepts.dstFits
    exact ⟨sourceRows.trans accepts.pixels, by omega, targetRows.trans accepts.dstPixels, by omega⟩
  · intro y x isRow isColumn
    rw [accepts.length, length, zeros]
    exact ⟨inSource isRow isColumn, inTarget isRow isColumn⟩
  · intro y x sample isRow isColumn isSample
    have contained : Area.Contains ⟨0, 0, core.dstHeight, core.dstWidth⟩ y x :=
      ⟨⟨Nat.zero_le y, isRow.trans_eq (Nat.zero_add _).symm⟩, Nat.zero_le x,
        isColumn.trans_eq (Nat.zero_add _).symm⟩
    rcases largest.scaled isRow isColumn with ⟨rowFits, columnFits⟩
    rw [samples y x sample isRow isColumn isSample, if_pos contained, nearestPixel,
      slice_getElem? _ _ isSample, Nat.sub_zero, Nat.sub_zero, sourceCoordinate_of_le rowFits,
      sourceCoordinate_of_le columnFits]

/-- The bytes of the frame that was made last are the nearest pixels of the
image that was submitted. -/
def Resized (core : ResizeCore) (room : Nat -> Bool) (frame : MediaFrame) (next : ResizeCore) :
    Prop :=
  Exists fun source => Exists fun dst =>
    frame.shape = [source.height, source.width, source.channels] ∧
      readBytes room frame = .ok source.bytes ∧
      next = { core with
        ready := core.ready ++
          [hostImage frame core.dstHeight core.dstWidth source.channels dst] } ∧
      core.Nearest source dst

/-- The products with the sizes of the frame are machine words. -/
def ScalesSafely (core : ResizeCore) (frame : MediaFrame) : Prop :=
  forall height width channels, frame.shape = [height, width, channels] -> core.Fits height width

theorem Resized.scalesSafely {room : Nat -> Bool} {frame : MediaFrame} {next : ResizeCore}
    (resized : core.Resized room frame next)
    (nonempty : 0 < core.dstHeight ∧ 0 < core.dstWidth) : core.ScalesSafely frame := by
  rcases resized with ⟨source, _, isShape, _, _, nearest⟩
  intro height width channels isOther
  cases isShape.symm.trans isOther
  exact nearest.scaled (core.dstHeight - 1) (core.dstWidth - 1) (Nat.sub_one_lt nonempty.1.ne')
    (Nat.sub_one_lt nonempty.2.ne')

/-- An image that is accepted, in a build with or without overflow checks, is
resized to its nearest pixels without an overflow exactly if the largest products
do not overflow. -/
theorem submitImage_resized_iff (core next : ResizeCore) (checked : Bool) (room : Nat -> Bool)
    (frame : MediaFrame) (isImage : frame.isEndOfStream = false)
    (accepted : core.submitImage checked room frame = (.ok (), next)) :
    core.Resized room frame next <-> core.ScalesSafely frame := by
  rw [submitImage, isImage] at accepted
  split at accepted
  · cases accepted
  · split at accepted
    · rename_i isEnd
      cases isEnd
    · split at accepted
      · cases accepted
      · rename_i resized isResized
        cases accepted
        rcases bind_ok isResized with ⟨source, isSource, isResized⟩
        rcases bind_ok isResized with ⟨dst, copied, isResized⟩
        cases isResized
        rcases source_ok (orFail_ok isSource) with ⟨shape, read, accepts⟩
        constructor
        · intro isResized
          exact isResized.scalesSafely accepts.nonempty.2.2
        · intro safely
          refine ⟨source, dst, shape, read, rfl, ?_⟩
          exact accepts.nearest (safely _ _ _ shape) (orPanic_ok copied)

def enough (_ : Nat) : Bool := true

theorem length_sized (bytes : List UInt8) :
    bytes.length = (BufferDesc.mk bytes.length 1).sizeBytes := rfl

/-- An image in host memory. -/
def image (height width channels : Nat) (bytes : List UInt8) : MediaFrame where
  kind := .image
  dtype := u8
  format := .nhwc
  shape := [height, width, channels]
  device := .cpu
  domain := .host
  buffer := .ofHost .cpu ⟨bytes.length, 1⟩ bytes (length_sized bytes)
  metadata := .empty

/-- A row of two pixels of two channels becomes one of three. -/
theorem twoPixels_resized :
    (ResizeCore.mk 3 1 [] false).Resized enough (image 1 2 2 [1, 2, 3, 4])
      ⟨3, 1, [hostImage (image 1 2 2 [1, 2, 3, 4]) 1 3 2 [1, 2, 1, 2, 3, 4]], false⟩ := by
  refine (submitImage_resized_iff ⟨3, 1, [], false⟩ _ true enough _ rfl rfl).mpr ?_
  intro height width channels isShape
  cases isShape
  exact fits_of_small ⟨by decide, by decide⟩ ⟨by decide, by decide⟩

/-- An image without channels that is two to the 63 pixels high. -/
def tallImage : MediaFrame := image (2 ^ 63) 1 0 []

/-- Twice the height is no machine word.  With overflow checks that is a panic. -/
theorem tallImage_overflows :
    (Exists fun next =>
      (ResizeCore.mk 1 3 [] false).submitImage false enough tallImage = (.ok (), next) ∧
        ¬ (ResizeCore.mk 1 3 [] false).Resized enough tallImage next) ∧
      ((ResizeCore.mk 1 3 [] false).submitImage true enough tallImage).1 = .error .panic := by
  refine ⟨⟨⟨1, 3, [hostImage tallImage 3 1 0 []], false⟩, rfl, ?_⟩, rfl⟩
  intro resized
  have safely := resized.scalesSafely ⟨by decide, by decide⟩ (2 ^ 63) 1 0 rfl
  exact absurd safely.1 (by decide)

end ResizeCore

end Media
end DyunGu
