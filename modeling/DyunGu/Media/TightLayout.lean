import DyunGu.Core.PlaneSamples
import DyunGu.Media.DecodedImage

namespace DyunGu
namespace Media

open DyunGu.Core

/-!
# The layout of repacked images

An image without one buffer of its own is copied row by row, one plane behind
the other.  The bridge describes the planes that come of it, and the validation
of the core checks the description by rules of its own.
-/

/-- Bytes of all rows. -/
def specBytes (specs : List (Nat × Nat)) : Nat := (specs.map fun spec => spec.1 * spec.2).sum

/-- The planes behind each other, if there is no limit to their size. -/
def packed : Nat -> List (Nat × Nat) -> List MediaPlaneLayout
  | _, [] => []
  | offset, (rows, rowBytes) :: rest =>
      ⟨offset, rowBytes, rows * rowBytes⟩ :: packed (offset + rows * rowBytes) rest

@[simp] theorem specBytes_cons (rows rowBytes : Nat) (rest : List (Nat × Nat)) :
    specBytes ((rows, rowBytes) :: rest) = rows * rowBytes + specBytes rest := by
  simp [specBytes]

theorem orElseMedia_eq_ok {T : Type} {result : Option T} {message : String} {value : T} :
    orElseMedia result message = .ok value <-> result = some value := by
  cases result with
  | none => exact ⟨nofun, nofun⟩
  | some found =>
      exact ⟨fun same => congrArg some (Except.ok.inj same),
        fun same => congrArg Except.ok (Option.some.inj same)⟩

theorem tightPlaneLayouts_ok {specs : List (Nat × Nat)} {offset : Nat}
    {planes : List MediaPlaneLayout} (within : offset <= usizeMax)
    (laid : tightPlaneLayouts offset specs = .ok planes) :
    planes = packed offset specs ∧ offset + specBytes specs <= usizeMax := by
  induction specs generalizing offset planes with
  | nil =>
      cases laid
      exact ⟨rfl, within⟩
  | cons spec rest ih =>
      rcases spec with ⟨rows, rowBytes⟩
      rcases Outcome.bind_ok laid with ⟨len, isLen, laid⟩
      rcases Outcome.bind_ok laid with ⟨next, isNext, laid⟩
      rcases Outcome.bind_ok laid with ⟨others, isOthers, laid⟩
      cases laid
      rcases checkedMul_eq_some.mp (orElseMedia_eq_ok.mp isLen) with ⟨rfl, _⟩
      rcases checkedAdd_eq_some.mp (orElseMedia_eq_ok.mp isNext) with ⟨rfl, fits⟩
      rcases ih fits isOthers with ⟨rfl, total⟩
      refine ⟨rfl, ?_⟩
      rw [specBytes_cons, ← Nat.add_assoc]
      exact total

/-! ## Back to back -/

theorem packed_bytes (offset : Nat) (specs : List (Nat × Nat)) :
    ((packed offset specs).map fun plane => plane.len).sum = specBytes specs := by
  induction specs generalizing offset with
  | nil => rfl
  | cons spec rest ih =>
      rw [packed, List.map_cons, List.sum_cons, ih]
      exact (specBytes_cons spec.1 spec.2 rest).symm

/-- A plane starts where those before it end. -/
theorem packed_offset {offset : Nat} {specs : List (Nat × Nat)} {index : Nat}
    {plane : MediaPlaneLayout} (isPlane : (packed offset specs)[index]? = some plane) :
    plane.offset = offset + (((packed offset specs).take index).map fun plane => plane.len).sum := by
  induction specs generalizing offset index with
  | nil => cases isPlane
  | cons spec rest ih =>
      cases index with
      | zero =>
          cases isPlane
          rfl
      | succ index =>
          rw [packed, List.take_succ_cons, List.map_cons, List.sum_cons, ← Nat.add_assoc]
          exact ih isPlane

theorem packed_length (offset : Nat) (specs : List (Nat × Nat)) :
    (packed offset specs).length = specs.length := by
  induction specs generalizing offset with
  | nil => rfl
  | cons spec rest ih => exact congrArg (· + 1) (ih _)

theorem le_offset_of_packed {offset : Nat} {specs : List (Nat × Nat)} {plane : MediaPlaneLayout}
    (member : plane ∈ packed offset specs) : offset <= plane.offset := by
  rcases List.getElem?_of_mem member with ⟨index, isPlane⟩
  rw [packed_offset isPlane]
  exact Nat.le_add_right _ _

theorem packed_disjoint (offset : Nat) (specs : List (Nat × Nat)) :
    (packed offset specs).Pairwise fun first second =>
      first.offset + first.len <= second.offset := by
  induction specs generalizing offset with
  | nil => exact List.Pairwise.nil
  | cons spec rest ih =>
      exact List.Pairwise.cons (fun plane member => le_offset_of_packed member) (ih _)

/-- What a plane of the layout has from its rows. -/
theorem packed_spec {offset : Nat} {specs : List (Nat × Nat)} {index : Nat}
    {plane : MediaPlaneLayout} (isPlane : (packed offset specs)[index]? = some plane) :
    Exists fun rows => specs[index]? = some (rows, plane.stride) ∧
      plane.len = rows * plane.stride ∧
      plane.offset + plane.len <= offset + specBytes specs := by
  induction specs generalizing offset index with
  | nil => cases isPlane
  | cons spec rest ih =>
      rcases spec with ⟨rows, rowBytes⟩
      cases index with
      | zero =>
          cases isPlane
          refine ⟨rows, rfl, rfl, ?_⟩
          rw [specBytes_cons, ← Nat.add_assoc]
          exact Nat.le_add_right _ _
      | succ index =>
          rcases ih isPlane with ⟨planeRows, isSpec, isLen, inside⟩
          refine ⟨planeRows, isSpec, isLen, ?_⟩
          rw [specBytes_cons]
          omega

/-! ## What the rows fill -/

/-- The copied rows are as long as they should be and have the bytes of their
source. -/
theorem copyRows_ok {src : List UInt8} {index stride rowBytes row rows : Nat}
    {bytes : List UInt8} (copied : copyRows src index stride rowBytes row rows = .ok bytes) :
    bytes.length = rows * rowBytes ∧ forall later byte, later < rows -> byte < rowBytes ->
      Exists fun value => bytes[later * rowBytes + byte]? = some value ∧
        src[(row + later) * stride + byte]? = some value := by
  induction rows generalizing row bytes with
  | zero =>
      cases copied
      exact ⟨(Nat.zero_mul _).symm, fun _ _ impossible => absurd impossible (Nat.not_lt_zero _)⟩
  | succ rows ih =>
      rcases Outcome.bind_ok copied with ⟨start, isStart, copied⟩
      rcases Outcome.bind_ok copied with ⟨last, isLast, copied⟩
      rcases checkedMul_eq_some.mp (orElseMedia_eq_ok.mp isStart) with ⟨rfl, _⟩
      rcases checkedAdd_eq_some.mp (orElseMedia_eq_ok.mp isLast) with ⟨rfl, _⟩
      by_cases short : src.length < row * stride + rowBytes
      · rw [if_pos short] at copied
        cases copied
      · rw [if_neg short] at copied
        rcases Outcome.bind_ok copied with ⟨rest, isRest, copied⟩
        cases copied
        rcases ih isRest with ⟨length, filled⟩
        have first : ((src.drop (row * stride)).take rowBytes).length = rowBytes := by
          rw [List.length_take, List.length_drop]
          omega
        constructor
        · rw [List.length_append, first, length, Nat.succ_mul, Nat.add_comm]
        · intro later byte isLater isByte
          cases later with
          | zero =>
              have inSource : row * stride + byte < src.length := by omega
              refine ⟨src[row * stride + byte], ?_, List.getElem?_eq_getElem inSource⟩
              rw [Nat.zero_mul, Nat.zero_add, List.getElem?_append_left (first.symm ▸ isByte),
                List.getElem?_take_of_lt isByte, List.getElem?_drop]
              exact List.getElem?_eq_getElem inSource
          | succ later =>
              rcases filled later byte (Nat.lt_of_succ_lt_succ isLater) isByte with
                ⟨value, isValue, isSource⟩
              refine ⟨value, ?_, ?_⟩
              · have behind : (later + 1) * rowBytes + byte =
                    rowBytes + (later * rowBytes + byte) := by
                  rw [Nat.succ_mul]
                  omega
                rw [behind, List.getElem?_append_right (by omega), first, Nat.add_sub_cancel_left]
                exact isValue
              · rw [← Nat.add_assoc, Nat.add_right_comm]
                exact isSource

/-- The rows of a plane of an image are those that its layout describes. -/
structure RowsCopied (image : AvImage) (index : Nat) (plane : MediaPlaneLayout) (rows : Nat)
    (bytes : List UInt8) : Prop where
  isLen : plane.len = rows * plane.stride
  copied : Exists fun src => Exists fun source =>
    image.planeHostBytes index = .ok (some src) ∧ image.planes[index]? = some (some source) ∧
      forall row byte, row < rows -> byte < plane.stride ->
        Exists fun value => bytes[plane.offset + (row * plane.stride + byte)]? = some value ∧
          src[row * source.stride + byte]? = some value

/-- The copied planes are as long as they should be, and behind bytes that end
where the layout starts they have their places. -/
theorem copyPlanes_ok {image : AvImage} {start : Nat} {specs : List (Nat × Nat)}
    {bytes before : List UInt8} (copied : image.copyPlanes start specs = .ok bytes) :
    bytes.length = specBytes specs ∧ forall index plane rows,
      (packed before.length specs)[index]? = some plane ->
      specs[index]? = some (rows, plane.stride) ->
        RowsCopied image (start + index) plane rows (before ++ bytes) := by
  induction specs generalizing start bytes before with
  | nil =>
      cases copied
      exact ⟨rfl, fun _ _ _ impossible => absurd impossible (by simp [packed])⟩
  | cons spec rest ih =>
      rcases spec with ⟨specRows, rowBytes⟩
      rcases Outcome.bind_ok copied with ⟨found, isFound, copied⟩
      cases found with
      | none => cases copied
      | some src =>
          dsimp only at copied
          rcases Outcome.bind_ok copied with ⟨_, same, copied⟩
          cases same
          rcases Outcome.bind_ok copied with ⟨source, isSource, copied⟩
          by_cases narrow : source.stride < rowBytes
          · rw [if_pos narrow] at copied
            cases copied
          · rw [if_neg narrow] at copied
            rcases Outcome.bind_ok copied with ⟨first, isFirst, copied⟩
            rcases Outcome.bind_ok copied with ⟨others, isOthers, copied⟩
            cases copied
            rcases copyRows_ok isFirst with ⟨length, filled⟩
            have isSource : image.planes[start]? = some (some source) :=
              Option.join_eq_some_iff.mp (orElseMedia_eq_ok.mp isSource)
            have later := @ih (start + 1) others (before ++ first) isOthers
            rw [List.length_append, length] at later
            constructor
            · rw [List.length_append, length, later.1, specBytes_cons]
            · intro index plane rows isPlane isSpec
              rw [← List.append_assoc]
              cases index with
              | zero =>
                  cases isPlane
                  cases isSpec
                  refine ⟨rfl, src, source, isFound, isSource, ?_⟩
                  intro row byte isRow isByte
                  rcases filled row byte isRow isByte with ⟨value, isValue, inSource⟩
                  rw [Nat.zero_add] at inSource
                  refine ⟨value, ?_, inSource⟩
                  have inFirst := (List.getElem?_eq_some_iff.mp isValue).1
                  rw [List.append_assoc, List.getElem?_append_right (Nat.le_add_right _ _),
                    Nat.add_sub_cancel_left, List.getElem?_append_left inFirst]
                  exact isValue
              | succ index =>
                  rw [← Nat.add_assoc, Nat.add_right_comm]
                  exact later.2 index plane rows isPlane isSpec

/-! ## The geometry of the bridge beside the rules of the core -/

/-- The rows are the same, and the row bytes are the least stride of the core,
except for the chroma of `Yuv422P`. -/
theorem planeGeometry_spec {format : PixelFormat} {width height : Nat}
    {specs : List (Nat × Nat)} (planned : planeGeometry format width height = .ok specs)
    (fits : width <= usizeMax) :
    specs.length = samplePlanes format ∧ forall index rows rowBytes,
      specs[index]? = some (rows, rowBytes) ->
        rows = planeRowCount format index height ∧
        (format ≠ .yuv422p ∨ index = 0 -> forall bpp, bytesPerPixelRow format = .ok bpp ->
          rowBytes = minPlaneStride format index width bpp) ∧
        (format = .yuv422p -> index ≠ 0 -> rowBytes = (width + 1) / 2) := by
  have whole := saturatingMul_one fits
  cases format <;> cases planned <;> refine ⟨rfl, ?_⟩ <;> intro index rows rowBytes isSpec <;>
    rcases index with _ | _ | _ | index <;> cases isSpec <;>
    refine ⟨rfl, ?_, ?_⟩ <;> simp [minPlaneStride, bytesPerPixelRow, whole]

theorem planeGeometry_known {format : PixelFormat} {width height : Nat}
    {specs : List (Nat × Nat)} (planned : planeGeometry format width height = .ok specs) :
    Exists fun bpp => bytesPerPixelRow format = .ok bpp ∧
      expectedPlaneCount format = .ok (samplePlanes format) := by
  cases format <;> cases planned <;> exact ⟨_, rfl, rfl⟩

/-- Bytes of all planes. -/
def totalLen (planes : List MediaPlaneLayout) : Nat := (planes.map fun plane => plane.len).sum

/-- Each plane starts where those before it end, so that no two overlap. -/
structure BackToBack (planes : List MediaPlaneLayout) : Prop where
  offsets : forall index plane, planes[index]? = some plane ->
    plane.offset = totalLen (planes.take index)
  disjoint : planes.Pairwise fun first second => first.offset + first.len <= second.offset

/-- The copied rows of an image are the planes of a description, and nothing
else. -/
structure Fills (info : ImageMediaInfo) (image : AvImage) (bytes : List UInt8) : Prop where
  length : bytes.length = totalLen info.planes
  rows : forall index plane, info.planes[index]? = some plane ->
    RowsCopied image index plane
      (planeRowCount info.pixelFormat index info.codedHeight.toNat) bytes

/-- An image of the described format and size. -/
structure Describes (info : ImageMediaInfo) (image : AvImage) : Prop where
  pixel : image.pixel = info.pixelFormat
  width : image.codedWidth = info.codedWidth
  height : image.codedHeight = info.codedHeight

theorem repackRows_of_materialized {room : Nat -> Bool} {image : AvImage} {bytes : List UInt8}
    (materialized : image.materializeHostBytes room = .ok (bytes, true)) :
    image.repackRows room = .ok bytes := by
  unfold AvImage.materializeHostBytes at materialized
  split at materialized
  · rcases Outcome.bind_ok materialized with ⟨_, _, cloned⟩
    cases cloned
  · split at materialized
    · rcases Outcome.bind_ok materialized with ⟨found, _, materialized⟩
      dsimp only at materialized
      cases found with
      | some src =>
          rcases Outcome.bind_ok materialized with ⟨_, _, materialized⟩
          rcases Outcome.bind_ok materialized with ⟨_, _, cloned⟩
          cases cloned
      | none =>
          rcases Outcome.bind_ok materialized with ⟨staged, _, materialized⟩
          cases staged with
          | none => cases materialized
          | some src =>
              rcases Outcome.bind_ok materialized with ⟨_, _, materialized⟩
              rcases Outcome.bind_ok materialized with ⟨_, _, cloned⟩
              cases cloned
    · rcases Outcome.bind_ok materialized with ⟨_, repacked, same⟩
      cases same
      exact repacked

section Layout

variable {info : ImageMediaInfo} {specs : List (Nat × Nat)}

theorem fits_usize (info : ImageMediaInfo) : info.codedWidth.toNat <= usizeMax :=
  (Nat.le_of_lt info.codedWidth.toNat_lt).trans (by decide)

theorem packed_fills {room : Nat -> Bool} {image : AvImage} {bytes : List UInt8}
    (planned : planeGeometry info.pixelFormat info.codedWidth.toNat info.codedHeight.toNat =
      .ok specs)
    (isPacked : info.planes = packed 0 specs) (describes : Describes info image)
    (repacked : image.repackRows room = .ok bytes) : Fills info image bytes := by
  rcases Outcome.bind_ok repacked with ⟨found, isFound, copied⟩
  rw [describes.pixel, describes.width, describes.height, planned] at isFound
  cases isFound
  rcases Outcome.bind_ok copied with ⟨total, _, copied⟩
  by_cases full : room total = false
  · rw [if_pos full] at copied
    cases copied
  · rw [if_neg full] at copied
    rcases @copyPlanes_ok image 0 specs bytes [] copied with ⟨length, placed⟩
    constructor
    · rw [length, totalLen, isPacked, packed_bytes]
    · intro index plane isPlane
      rw [isPacked] at isPlane
      rcases packed_spec isPlane with ⟨rows, isSpec, _⟩
      have isRows := ((planeGeometry_spec planned (fits_usize info)).2 index rows _ isSpec).1
      have copiedRows := placed index plane rows isPlane isSpec
      rw [Nat.zero_add] at copiedRows
      exact isRows ▸ copiedRows

/-- A plane of the layout passes exactly if its rows are as long as the core
asks for. -/
theorem packed_valid {bpp index : Nat} {plane : MediaPlaneLayout}
    (known : bytesPerPixelRow info.pixelFormat = .ok bpp) (wide : 0 < info.codedWidth.toNat)
    (tall : 0 < info.codedHeight.toNat)
    (planned : planeGeometry info.pixelFormat info.codedWidth.toNat info.codedHeight.toNat =
      .ok specs)
    (total : specBytes specs <= usizeMax) (isPlane : (packed 0 specs)[index]? = some plane) :
    info.validatePlane (specBytes specs) index plane = .ok () <->
      minPlaneStride info.pixelFormat index info.codedWidth.toNat bpp <= plane.stride := by
  have nonempty := minPlaneStride_pos index wide known
  rcases packed_spec isPlane with ⟨rows, isSpec, isLen, inside⟩
  rcases (planeGeometry_spec planned (fits_usize info)).2 index rows plane.stride isSpec with
    ⟨isRows, _⟩
  have rowsPos : 0 < rows := by
    rw [isRows, planeRowCount_eq]
    exact sampleRows_pos _ index tall
  rw [ImageMediaInfo.validatePlane_eq_ok known nonempty, ← isRows, isLen]
  rw [isLen, Nat.zero_add] at inside
  constructor
  · rintro ⟨_, _, covers, _⟩
    exact covers
  · intro covers
    refine ⟨by omega, inside, covers, inside.trans total, ?_⟩
    calc plane.stride * (rows - 1) + minPlaneStride info.pixelFormat index
          info.codedWidth.toNat bpp
        <= plane.stride * (rows - 1) + plane.stride := Nat.add_le_add_left covers _
      _ = rows * plane.stride := by
          rw [← Nat.mul_succ, Nat.succ_eq_add_one, Nat.sub_add_cancel rowsPos, Nat.mul_comm]

/-- They are, except for the chroma of `Yuv422P` of more than one column. -/
theorem packed_covers {bpp index : Nat} {plane : MediaPlaneLayout}
    (known : bytesPerPixelRow info.pixelFormat = .ok bpp) (wide : 0 < info.codedWidth.toNat)
    (planned : planeGeometry info.pixelFormat info.codedWidth.toNat info.codedHeight.toNat =
      .ok specs)
    (isPlane : (packed 0 specs)[index]? = some plane) :
    minPlaneStride info.pixelFormat index info.codedWidth.toNat bpp <= plane.stride <->
      (info.pixelFormat ≠ .yuv422p ∨ index = 0) ∨ info.codedWidth.toNat = 1 := by
  rcases packed_spec isPlane with ⟨rows, isSpec, _⟩
  rcases (planeGeometry_spec planned (fits_usize info)).2 index rows plane.stride isSpec with
    ⟨_, same, halved⟩
  by_cases regular : info.pixelFormat ≠ .yuv422p ∨ index = 0
  · rw [same regular bpp known]
    exact ⟨fun _ => Or.inl regular, fun _ => Nat.le_refl _⟩
  · rcases not_or.mp regular with ⟨isFormat, chroma⟩
    have isFormat := not_not.mp isFormat
    rw [halved isFormat chroma]
    rw [isFormat] at known ⊢
    cases known
    have whole : minPlaneStride .yuv422p index info.codedWidth.toNat 1 =
        info.codedWidth.toNat := saturatingMul_one (fits_usize info)
    rw [whole]
    constructor
    · intro covers
      exact Or.inr (by omega)
    · rintro (impossible | single)
      · exact absurd impossible (not_or.mpr ⟨not_not.mpr rfl, chroma⟩)
      · omega

end Layout

/-- The layout of a repacked image is accepted, lies back to back and is filled
by the copied rows exactly if the format is not `Yuv422P` or the image is one
pixel wide. -/
theorem tight_layout_agrees (info : ImageMediaInfo)
    (wide : info.codedWidth ≠ 0) (tall : info.codedHeight ≠ 0)
    (visible : info.visibleRect.validate = .ok ()) (crop : validateCrop info.cropRect = .ok ())
    (laid : tightPlaneLayoutsForFormat info.pixelFormat info.codedWidth.toNat
      info.codedHeight.toNat = .ok info.planes) :
    (info.validate (totalLen info.planes) = .ok () ∧ BackToBack info.planes ∧
      forall room image bytes, Describes info image ->
        image.materializeHostBytes room = .ok (bytes, true) -> Fills info image bytes) <->
      info.pixelFormat ≠ .yuv422p ∨ info.codedWidth = 1 := by
  rcases Outcome.bind_ok laid with ⟨specs, planned, laid⟩
  rcases tightPlaneLayouts_ok (Nat.zero_le _) laid with ⟨isPacked, total⟩
  rw [Nat.zero_add] at total
  have positive {side : UInt32} (nonzero : side ≠ 0) : 0 < side.toNat :=
    Nat.pos_of_ne_zero fun isZero => nonzero (UInt32.toNat_inj.mp isZero)
  have single : info.codedWidth = 1 <-> info.codedWidth.toNat = 1 := UInt32.toNat_inj.symm
  have isTotal : totalLen info.planes = specBytes specs := by
    rw [totalLen, isPacked, packed_bytes]
  have count := (planeGeometry_spec planned (fits_usize info)).1
  rw [isTotal, single]
  rcases planeGeometry_known planned with ⟨bpp, known, expected⟩
  have valid {index : Nat} {plane : MediaPlaneLayout}
      (isPlane : info.planes[index]? = some plane) :=
    (packed_valid known (positive wide) (positive tall) planned total (isPacked ▸ isPlane)).trans
      (packed_covers known (positive wide) planned (isPacked ▸ isPlane))
  constructor
  · rintro ⟨accepted, _⟩
    by_cases regular : info.pixelFormat ≠ .yuv422p
    · exact Or.inl regular
    · have three : 1 < info.planes.length := by
        rw [isPacked, packed_length, count, not_not.mp regular]
        decide
      have second := (ImageMediaInfo.validate_eq_ok.mp accepted).planes 1 _
        (List.getElem?_eq_getElem three)
      rcases (valid (List.getElem?_eq_getElem three)).mp second with (regular | impossible) | single
      · exact Or.inl regular
      · cases impossible
      · exact Or.inr single
  · intro condition
    refine ⟨ImageMediaInfo.validate_eq_ok.mpr ⟨positive wide, positive tall, visible, crop, ?_, ?_⟩,
      ⟨?_, ?_⟩, ?_⟩
    · rw [isPacked, packed_length, count]
      exact expected
    · intro index plane isPlane
      refine (valid isPlane).mpr ?_
      rcases condition with regular | single
      · exact Or.inl (Or.inl regular)
      · exact Or.inr single
    · intro index plane isPlane
      rw [isPacked] at isPlane ⊢
      exact (packed_offset isPlane).trans (Nat.zero_add _)
    · rw [isPacked]
      exact packed_disjoint 0 specs
    · intro room image bytes describes materialized
      exact packed_fills planned isPacked describes (repackRows_of_materialized materialized)

theorem oddPlanar_agrees :
    ImageMediaInfo.oddPlanar.validate (totalLen ImageMediaInfo.oddPlanar.planes) = .ok () ∧
      BackToBack ImageMediaInfo.oddPlanar.planes := by
  have agrees := (tight_layout_agrees ImageMediaInfo.oddPlanar (by decide) (by decide) (by decide)
    (by decide) (by decide)).mpr (Or.inl (by decide))
  exact ⟨agrees.1, agrees.2.1⟩

/-- Two pixels side by side, with one sample of each chroma. -/
def twoPixels : ImageMediaInfo :=
  ImageMediaInfo.sized .yuv422p 2 1 [⟨0, 2, 2⟩, ⟨2, 1, 1⟩, ⟨3, 1, 1⟩]

theorem twoPixels_refused :
    tightPlaneLayoutsForFormat .yuv422p 2 1 = .ok twoPixels.planes ∧
    twoPixels.visibleRect.validate = .ok () ∧
    twoPixels.validate (totalLen twoPixels.planes) =
      .error (.invalidArgument "plane stride 1 is less than minimum 2 for format Yuv422P") := by
  decide +kernel

end Media
end DyunGu
