import DyunGu.Core.MediaInfo

namespace DyunGu
namespace Core

/-!
# Where the samples of an image lie

What the pixel formats define, apart from what the validation asks for: how
many planes there are, how many rows a plane has and how many bytes a row.  A
sample is a byte.  Subsampled chroma has one sample for two pixels, and one for
the last pixel of an odd number of them.
-/

def samplePlanes : PixelFormat -> Nat
  | .yuv420p | .yuv422p | .yuv444p => 3
  | .nv12 | .nv21 => 2
  | .rgb24 | .bgr24 | .rgba | .bgra | .gray8 => 1
  | .unknown => 0

def sampleRows (format : PixelFormat) (planeIndex height : Nat) : Nat :=
  match format with
  | .yuv420p | .nv12 | .nv21 => if planeIndex = 0 then height else (height + 1) / 2
  | .yuv422p | .yuv444p | .rgb24 | .bgr24 | .rgba | .bgra | .gray8 | .unknown => height

/-- The chroma plane of a semi-planar format has two samples side by side. -/
def sampleRowBytes (format : PixelFormat) (planeIndex width : Nat) : Nat :=
  match format with
  | .yuv420p | .yuv422p => if planeIndex = 0 then width else (width + 1) / 2
  | .nv12 | .nv21 => if planeIndex = 0 then width else 2 * ((width + 1) / 2)
  | .rgb24 | .bgr24 => 3 * width
  | .rgba | .bgra => 4 * width
  | .yuv444p | .gray8 | .unknown => width

def isSemiPlanar : PixelFormat -> Bool
  | .nv12 | .nv21 => true
  | .yuv420p | .yuv422p | .yuv444p | .rgb24 | .bgr24 | .rgba | .bgra | .gray8 | .unknown => false

/-- A rectangle ends within 32 bits. -/
def MediaRect.Fits (rect : MediaRect) : Prop :=
  rect.width.toNat + rect.x.toNat < UInt32.size ∧ rect.height.toNat + rect.y.toNat < UInt32.size

theorem MediaRect.fits_of_validate {rect : MediaRect} (valid : rect.validate = .ok ()) :
    rect.Fits := by
  unfold MediaRect.validate at valid
  by_cases width : UInt32.size <= rect.width.toNat + rect.x.toNat
  · rw [if_pos width] at valid
    cases valid
  · rw [if_neg width] at valid
    by_cases height : UInt32.size <= rect.height.toNat + rect.y.toNat
    · rw [if_pos height] at valid
      cases valid
    · exact ⟨Nat.lt_of_not_le width, Nat.lt_of_not_le height⟩

/-! ## The rules of the validation beside the formats -/

theorem planeRowCount_eq (format : PixelFormat) (planeIndex height : Nat) :
    planeRowCount format planeIndex height = sampleRows format planeIndex height := by
  cases planeIndex <;> cases format <;> rfl

theorem planes_of_expected {format : PixelFormat} {count : Nat}
    (expected : expectedPlaneCount format = .ok count) : count = samplePlanes format := by
  cases format <;> cases expected <;> rfl

/-- A product of a width and the bytes of a pixel does not saturate. -/
theorem bytesPerPixelRow_fits {format : PixelFormat} {bpp : Nat}
    (known : bytesPerPixelRow format = .ok bpp) (width : UInt32) :
    width.toNat * bpp <= usizeMax := by
  have small : bpp <= 4 := by
    cases format <;> cases known <;> decide
  have narrow := width.toNat_lt
  calc width.toNat * bpp <= 2 ^ 32 * 4 := Nat.mul_le_mul (Nat.le_of_lt narrow) small
    _ <= usizeMax := by decide

theorem sampleRowBytes_odd {format : PixelFormat} {width : Nat}
    (semiPlanar : isSemiPlanar format = true) (odd : width % 2 = 1) :
    sampleRowBytes format 1 width = width + 1 := by
  have rounded : 2 * ((width + 1) / 2) = width + 1 := by omega
  cases format with
  | nv12 => exact rounded
  | nv21 => exact rounded
  | _ => cases semiPlanar

theorem sampleRows_pos (format : PixelFormat) (planeIndex : Nat) {height : Nat}
    (tall : 0 < height) : 0 < sampleRows format planeIndex height := by
  have half : 0 < (height + 1) / 2 := by omega
  cases planeIndex with
  | zero => cases format <;> exact tall
  | succ planeIndex => cases format <;> first | exact tall | exact half

/-- The least stride covers a row, except that of the chroma of a semi-planar
format of odd width. -/
theorem sampleRowBytes_le {format : PixelFormat} {bpp planeIndex : Nat}
    (known : bytesPerPixelRow format = .ok bpp) (width : UInt32)
    (even : isSemiPlanar format = true -> planeIndex ≠ 0 -> width.toNat % 2 = 0) :
    sampleRowBytes format planeIndex width.toNat <=
      minPlaneStride format planeIndex width.toNat bpp := by
  have whole := saturatingMul_of_le (bytesPerPixelRow_fits known width)
  cases planeIndex with
  | zero => cases format <;> cases known <;> simp [sampleRowBytes, minPlaneStride, whole] <;> omega
  | succ planeIndex =>
      cases format with
      | nv12 =>
          have isEven := even rfl (Nat.succ_ne_zero planeIndex)
          show 2 * ((width.toNat + 1) / 2) <= width.toNat
          omega
      | nv21 =>
          have isEven := even rfl (Nat.succ_ne_zero planeIndex)
          show 2 * ((width.toNat + 1) / 2) <= width.toNat
          omega
      | _ => cases known <;> simp [sampleRowBytes, minPlaneStride, whole] <;> omega

namespace ImageMediaInfo

/-- All planes are there, and each byte of each sample lies in its plane and in
the buffer. -/
structure SamplesInside (info : ImageMediaInfo) (bufferSize : Nat) : Prop where
  count : info.planes.length = samplePlanes info.pixelFormat
  inside : forall index plane, info.planes[index]? = some plane -> forall row byte,
    row < sampleRows info.pixelFormat index info.codedHeight.toNat ->
    byte < sampleRowBytes info.pixelFormat index info.codedWidth.toNat ->
      row * plane.stride + byte < plane.len ∧
        plane.offset + row * plane.stride + byte < bufferSize

/-- Nothing that the validation computes leaves its type. -/
structure ArithmeticFits (info : ImageMediaInfo) : Prop where
  visible : info.visibleRect.Fits
  crop : forall rect, info.cropRect = some rect -> rect.Fits
  planes : forall index plane, info.planes[index]? = some plane ->
    plane.offset + plane.len <= usizeMax ∧
      Exists fun bpp => bytesPerPixelRow info.pixelFormat = .ok bpp ∧
        info.codedWidth.toNat * bpp <= usizeMax ∧
        plane.stride * (planeRowCount info.pixelFormat index info.codedHeight.toNat - 1) <=
          usizeMax ∧
        plane.offset +
            plane.stride * (planeRowCount info.pixelFormat index info.codedHeight.toNat - 1) +
          minPlaneStride info.pixelFormat index info.codedWidth.toNat bpp <= usizeMax

/-- The chroma plane of a semi-planar image of odd width ends behind the second
sample of its last pixel. -/
def ChromaCovered (info : ImageMediaInfo) : Prop :=
  isSemiPlanar info.pixelFormat = true -> info.codedWidth.toNat % 2 = 1 ->
    forall plane, info.planes[1]? = some plane ->
      plane.stride * (sampleRows info.pixelFormat 1 info.codedHeight.toNat - 1) +
        (info.codedWidth.toNat + 1) <= plane.len

variable {info : ImageMediaInfo} {bufferSize : Nat}

theorem Accepted.known (accepted : info.Accepted bufferSize) :
    Exists fun bpp => bytesPerPixelRow info.pixelFormat = .ok bpp := by
  have count := accepted.count
  cases format : info.pixelFormat with
  | unknown =>
      rw [format] at count
      cases count
  | _ => exact ⟨_, rfl⟩

theorem Accepted.arithmeticFits (accepted : info.Accepted bufferSize) : info.ArithmeticFits := by
  rcases accepted.known with ⟨bpp, known⟩
  constructor
  · exact MediaRect.fits_of_validate accepted.visible
  · intro rect isCrop
    have crop := accepted.crop
    rw [isCrop] at crop
    exact MediaRect.fits_of_validate crop
  · intro index plane isPlane
    have nonempty := minPlaneStride_pos index accepted.width known
    rcases (validatePlane_eq_ok known nonempty).mp (accepted.planes index plane isPlane) with
      ⟨_, _, _, whole, inside⟩
    refine ⟨whole, bpp, known, bytesPerPixelRow_fits known info.codedWidth, ?_, ?_⟩ <;> omega

/-- The only plane of a semi-planar image besides the first one is the second
one. -/
theorem Accepted.semiPlanar_index (accepted : info.Accepted bufferSize)
    (semiPlanar : isSemiPlanar info.pixelFormat = true) {index : Nat} {plane : MediaPlaneLayout}
    (isPlane : info.planes[index]? = some plane) (chroma : index ≠ 0) : index = 1 := by
  have below := (List.getElem?_eq_some_iff.mp isPlane).1
  have two : samplePlanes info.pixelFormat = 2 := by
    cases format : info.pixelFormat <;> rw [format] at semiPlanar <;> cases semiPlanar <;> rfl
  rw [planes_of_expected accepted.count, two] at below
  omega

/-- The samples of a plane whose last row is inside. -/
theorem samples_inside {stride rows rowBytes len row byte : Nat}
    (lastRow : stride * (rows - 1) + rowBytes <= len) (isRow : row < rows)
    (isByte : byte < rowBytes) : row * stride + byte < len := by
  calc row * stride + byte < row * stride + rowBytes := Nat.add_lt_add_left isByte _
    _ <= stride * (rows - 1) + rowBytes := by
        rw [Nat.mul_comm]
        exact Nat.add_le_add_right (Nat.mul_le_mul_left _ (Nat.le_sub_one_of_lt isRow)) _
    _ <= len := lastRow

/-- An accepted image has all its samples in its planes, and nothing wrapped,
exactly if its chroma plane covers its last row.  This is not asked for where
the format is semi-planar and the width odd. -/
theorem validate_sound (info : ImageMediaInfo) (bufferSize : Nat)
    (valid : info.validate bufferSize = .ok ()) :
    info.SamplesInside bufferSize ∧ info.ArithmeticFits <-> info.ChromaCovered := by
  have accepted := validate_eq_ok.mp valid
  rcases accepted.known with ⟨bpp, known⟩
  constructor
  · rintro ⟨samples, _⟩ semiPlanar odd plane isPlane
    have rows := sampleRows_pos info.pixelFormat 1 accepted.height
    have row := sampleRowBytes_odd semiPlanar odd
    have last := samples.inside 1 plane isPlane _ info.codedWidth.toNat
      (Nat.sub_one_lt_of_lt rows) (row ▸ Nat.lt_succ_self _)
    rw [Nat.mul_comm]
    exact Nat.succ_le_of_lt last.1
  · intro covered
    refine ⟨⟨planes_of_expected accepted.count, ?_⟩, accepted.arithmeticFits⟩
    intro index plane isPlane row byte isRow isByte
    have nonempty := minPlaneStride_pos index accepted.width known
    rcases (validatePlane_eq_ok known nonempty).mp (accepted.planes index plane isPlane) with
      ⟨_, inBuffer, _, _, inside⟩
    have lastRow : plane.stride * (sampleRows info.pixelFormat index info.codedHeight.toNat - 1) +
        sampleRowBytes info.pixelFormat index info.codedWidth.toNat <= plane.len := by
      by_cases wider : isSemiPlanar info.pixelFormat = true ∧ index ≠ 0 ∧
          info.codedWidth.toNat % 2 = 1
      · rcases wider with ⟨semiPlanar, chroma, odd⟩
        cases accepted.semiPlanar_index semiPlanar isPlane chroma
        rw [sampleRowBytes_odd semiPlanar odd]
        exact covered semiPlanar odd plane isPlane
      · have row := sampleRowBytes_le known info.codedWidth fun semiPlanar chroma =>
          (Nat.mod_two_eq_zero_or_one _).resolve_right fun odd => wider ⟨semiPlanar, chroma, odd⟩
        rw [planeRowCount_eq] at inside
        exact (Nat.add_le_add_left row _).trans inside
    have inPlane := samples_inside lastRow isRow isByte
    exact ⟨inPlane, by omega⟩

/-- An image of a format with planes as given. -/
def sized (format : PixelFormat) (width height : UInt32) (planes : List MediaPlaneLayout) :
    ImageMediaInfo where
  pixelFormat := format
  codedWidth := width
  codedHeight := height
  visibleRect := ⟨0, 0, width, height⟩
  cropRect := none
  colorPrimaries := .unknown
  colorTransfer := .unknown
  colorMatrix := .unknown
  colorRange := .unknown
  flags := ⟨false⟩
  sampleType := .uint8
  sampleLayout := .planar
  planes := planes
  fenceId := none

/-- Three by three pixels in three planes. -/
def oddPlanar : ImageMediaInfo := sized .yuv420p 3 3 [⟨0, 3, 9⟩, ⟨9, 2, 4⟩, ⟨13, 2, 4⟩]

theorem oddPlanar_inside : oddPlanar.SamplesInside 17 := by
  refine ((validate_sound oddPlanar 17 (by decide)).mpr ?_).1
  intro semiPlanar
  cases semiPlanar

/-- Three pixels side by side, twice, whose chroma has a place for three of its
four samples. -/
def oddSemiPlanar : ImageMediaInfo := sized .nv12 3 2 [⟨0, 3, 6⟩, ⟨6, 3, 3⟩]

theorem oddSemiPlanar_accepted :
    oddSemiPlanar.validate 9 = .ok () ∧ ¬ oddSemiPlanar.SamplesInside 9 := by
  refine ⟨by decide, ?_⟩
  intro samples
  have last := samples.inside 1 ⟨6, 3, 3⟩ rfl 0 3 (by decide) (by decide)
  exact absurd last.1 (by decide)

end ImageMediaInfo
end Core
end DyunGu
