import DyunGu.Core.Tensor
import DyunGu.Lib.Outcome

namespace DyunGu
namespace Core

/-!
# Media metadata

What travels with an encoded packet or a decoded image: timing, codec or pixel
format, and where the planes of an image lie in its buffer.
-/

/-- Of the error categories of the core crate, those that a check of metadata
raises. -/
inductive MediaInfoError where
  | invalidArgument (message : String)
  | unsupported (message : String)
deriving DecidableEq, Repr

def MediaInfoError.toText : MediaInfoError -> String
  | .invalidArgument message => "invalid argument: " ++ message
  | .unsupported message => "unsupported: " ++ message

def maxCodecConfigCount : Nat := 8

def maxCodecConfigTotalBytes : Nat := 4 * 2 ^ 20

structure MediaTimeBase where
  num : UInt32
  den : UInt32
deriving DecidableEq, Repr

def MediaTimeBase.validate (base : MediaTimeBase) : Except MediaInfoError Unit :=
  if base.den = 0 then
    .error (.invalidArgument
      s!"media timebase denominator must be non-zero, got {base.num}/{base.den}")
  else .ok ()

structure MediaTiming where
  pts : Option Int64
  dts : Option Int64
  timeBase : Option MediaTimeBase
deriving DecidableEq, Repr

def MediaTiming.validate (timing : MediaTiming) : Except MediaInfoError Unit :=
  match timing.timeBase with
  | some base => base.validate
  | none => .ok ()

inductive MediaKind where
  | video
  | audio
  | data
  | subtitle
  | unknown
deriving DecidableEq, Repr

inductive MediaCodec where
  | h264
  | h265
  | h266
  | av1
  | vp8
  | vp9
  | mjpeg
  | jpeg
  | aac
  | adpcm
  | opus
  | g711a
  | g711u
  | mp2
  | mp3
  | unknown
deriving DecidableEq, Repr

inductive BitstreamFormat where
  | h264AnnexB
  | h264Avcc
  | h265AnnexB
  | h265Hvcc
  | vp8Frame
  | vp9Frame
  | av1Obu
  | jpegInterchange
  | aacRaw
  | aacAdts
  | unknown
deriving DecidableEq, Repr

structure EncodedPacketFlags where
  key : Bool
  lost : Bool
  corrupt : Bool
deriving DecidableEq, Repr

def EncodedPacketFlags.none : EncodedPacketFlags := ⟨false, false, false⟩

structure MediaCodecConfig where
  format : BitstreamFormat
  data : List UInt8
deriving DecidableEq, Repr

structure EncodedMediaInfo where
  streamIndex : UInt32
  trackId : Option UInt64
  mediaKind : MediaKind
  codec : MediaCodec
  bitstreamFormat : BitstreamFormat
  flags : EncodedPacketFlags
  codecConfigs : List MediaCodecConfig
deriving DecidableEq, Repr

namespace EncodedMediaInfo

/-- The total is compared after every item. -/
def configBytes (configs : List MediaCodecConfig) : Except MediaInfoError Nat :=
  configs.foldlM (fun total config =>
    match checkedAdd total config.data.length with
    | none => .error (.invalidArgument "codec config total size overflow")
    | some total =>
        if maxCodecConfigTotalBytes < total then
          .error (.invalidArgument
            s!"codec config total size exceeds {maxCodecConfigTotalBytes} bytes")
        else .ok total) 0

def validate (info : EncodedMediaInfo) : Except MediaInfoError Unit := do
  if maxCodecConfigCount < info.codecConfigs.length then
    throw (.invalidArgument (s!"codec config count {info.codecConfigs.length} exceeds " ++
      s!"maximum {maxCodecConfigCount}"))
  let _ <- configBytes info.codecConfigs
  if info.bitstreamFormat = .unknown ∧ info.codec ≠ .unknown then
    throw (.invalidArgument "bitstream format Unknown is only valid when codec is Unknown")

end EncodedMediaInfo

inductive PixelFormat where
  | yuv420p
  | yuv422p
  | yuv444p
  | nv12
  | nv21
  | rgb24
  | bgr24
  | rgba
  | bgra
  | gray8
  | unknown
deriving DecidableEq, Repr

/-- The name that a message gives. -/
def PixelFormat.name : PixelFormat -> String
  | .yuv420p => "Yuv420P"
  | .yuv422p => "Yuv422P"
  | .yuv444p => "Yuv444P"
  | .nv12 => "Nv12"
  | .nv21 => "Nv21"
  | .rgb24 => "Rgb24"
  | .bgr24 => "Bgr24"
  | .rgba => "Rgba"
  | .bgra => "Bgra"
  | .gray8 => "Gray8"
  | .unknown => "Unknown"

inductive ColorPrimaries where
  | unknown
  | bt709
  | bt601
  | bt2020
deriving DecidableEq, Repr

inductive ColorTransfer where
  | unknown
  | bt709
  | linear
  | srgb
deriving DecidableEq, Repr

inductive ColorMatrix where
  | unknown
  | bt709
  | bt601
  | bt2020
deriving DecidableEq, Repr

inductive ColorRange where
  | unknown
  | limited
  | full
deriving DecidableEq, Repr

inductive SampleLayout where
  | planar
  | semiPlanar
  | interleaved
deriving DecidableEq, Repr

inductive SampleType where
  | uint8
  | uint16
  | float16
  | float32
deriving DecidableEq, Repr

structure ImageFlags where
  key : Bool
deriving DecidableEq, Repr

structure MediaRect where
  x : UInt32
  y : UInt32
  width : UInt32
  height : UInt32
deriving DecidableEq, Repr

def MediaRect.validate (rect : MediaRect) : Except MediaInfoError Unit := do
  if UInt32.size <= rect.width.toNat + rect.x.toNat then
    throw (.invalidArgument "rect width + x overflows u32")
  if UInt32.size <= rect.height.toNat + rect.y.toNat then
    throw (.invalidArgument "rect height + y overflows u32")

def validateCrop : Option MediaRect -> Except MediaInfoError Unit
  | some crop => crop.validate
  | none => .ok ()

structure MediaPlaneLayout where
  offset : Nat
  stride : Nat
  len : Nat
deriving DecidableEq, Repr

def MediaPlaneLayout.endOffset (plane : MediaPlaneLayout) : Except MediaInfoError Nat :=
  match checkedAdd plane.offset plane.len with
  | none => .error (.invalidArgument "plane offset + len overflows")
  | some last => .ok last

structure ImageMediaInfo where
  pixelFormat : PixelFormat
  codedWidth : UInt32
  codedHeight : UInt32
  visibleRect : MediaRect
  cropRect : Option MediaRect
  colorPrimaries : ColorPrimaries
  colorTransfer : ColorTransfer
  colorMatrix : ColorMatrix
  colorRange : ColorRange
  flags : ImageFlags
  sampleType : SampleType
  sampleLayout : SampleLayout
  planes : List MediaPlaneLayout
  fenceId : Option UInt64
deriving DecidableEq, Repr

def expectedPlaneCount (format : PixelFormat) : Except MediaInfoError Nat :=
  match format with
  | .yuv420p | .yuv422p | .yuv444p => .ok 3
  | .nv12 | .nv21 => .ok 2
  | .rgb24 | .bgr24 | .rgba | .bgra | .gray8 => .ok 1
  | .unknown =>
      .error (.unsupported "cannot validate plane layout for Unknown pixel format")

def bytesPerPixelRow (format : PixelFormat) : Except MediaInfoError Nat :=
  match format with
  | .rgb24 | .bgr24 => .ok 3
  | .rgba | .bgra => .ok 4
  | .gray8 | .yuv420p | .yuv422p | .yuv444p | .nv12 | .nv21 => .ok 1
  | .unknown => .error (.unsupported "cannot compute row bytes for Unknown pixel format")

def planeRowCount (format : PixelFormat) (planeIndex height : Nat) : Nat :=
  match format with
  | .yuv420p | .nv12 | .nv21 => if 0 < planeIndex then (height + 1) / 2 else height
  | _ => height

def saturatingMul (first second : Nat) : Nat := min (first * second) usizeMax

theorem saturatingMul_of_le {first second : Nat} (fits : first * second <= usizeMax) :
    saturatingMul first second = first * second := Nat.min_eq_left fits

theorem saturatingMul_one {width : Nat} (fits : width <= usizeMax) :
    saturatingMul width 1 = width := by
  rw [saturatingMul_of_le (by omega), Nat.mul_one]

/-- Bytes of a row of the plane. -/
def minPlaneStride (format : PixelFormat) (planeIndex width bpp : Nat) : Nat :=
  match format with
  | .yuv420p => if 0 < planeIndex then (width + 1) / 2 else saturatingMul width bpp
  | .nv12 | .nv21 => width
  | .yuv422p | .yuv444p | .rgb24 | .bgr24 | .rgba | .bgra | .gray8 | .unknown =>
      saturatingMul width bpp

/-- The last row of the plane must end within it. -/
def validatePlaneStride (format : PixelFormat) (plane : MediaPlaneLayout) (planeIndex : Nat)
    (codedWidth codedHeight : UInt32) : Except MediaInfoError Unit := do
  let bpp <- bytesPerPixelRow format
  let minStride := minPlaneStride format planeIndex codedWidth.toNat bpp
  if plane.stride < minStride then
    throw (.invalidArgument (s!"plane stride {plane.stride} is less than minimum {minStride} " ++
      s!"for format {format.name}"))
  let rows := planeRowCount format planeIndex codedHeight.toNat
  match checkedAdd plane.offset (saturatingMul plane.stride (rows - 1)) with
  | none => throw (.invalidArgument "last row offset overflow")
  | some lastRowStart =>
      match checkedAdd lastRowStart minStride with
      | none => throw (.invalidArgument "last row end overflow")
      | some lastRowEnd =>
          let planeEnd <- plane.endOffset
          if planeEnd < lastRowEnd then
            throw (.invalidArgument "last valid row extends beyond plane length")

theorem endOffset_eq_ok {plane : MediaPlaneLayout} {last : Nat} :
    plane.endOffset = .ok last <->
      last = plane.offset + plane.len ∧ plane.offset + plane.len <= usizeMax := by
  unfold MediaPlaneLayout.endOffset
  rw [← checkedAdd_eq_some]
  cases checkedAdd plane.offset plane.len with
  | none => exact ⟨nofun, nofun⟩
  | some last => exact ⟨fun same => congrArg some (Except.ok.inj same), fun same =>
      congrArg Except.ok (Option.some.inj same)⟩

theorem minPlaneStride_pos {format : PixelFormat} {width bpp : Nat} (planeIndex : Nat)
    (wide : 0 < width) (known : bytesPerPixelRow format = .ok bpp) :
    0 < minPlaneStride format planeIndex width bpp := by
  have bytes : 0 < bpp := by
    cases format <;> cases known <;> decide
  have row : 0 < saturatingMul width bpp := lt_min (Nat.mul_pos wide bytes) (by decide)
  unfold minPlaneStride
  split
  · split
    · omega
    · exact row
  · exact wide
  · exact wide
  all_goals exact row

/-- Exactly the planes pass whose rows lie within them, each in its stride.
Nothing saturates, since a row has at least one byte. -/
theorem validatePlaneStride_eq_ok {format : PixelFormat} {plane : MediaPlaneLayout}
    {planeIndex bpp : Nat} {codedWidth codedHeight : UInt32}
    (known : bytesPerPixelRow format = .ok bpp)
    (nonempty : 0 < minPlaneStride format planeIndex codedWidth.toNat bpp) :
    validatePlaneStride format plane planeIndex codedWidth codedHeight = .ok () <->
      minPlaneStride format planeIndex codedWidth.toNat bpp <= plane.stride ∧
        plane.offset + plane.len <= usizeMax ∧
        plane.stride * (planeRowCount format planeIndex codedHeight.toNat - 1) +
          minPlaneStride format planeIndex codedWidth.toNat bpp <= plane.len := by
  constructor
  · intro valid
    rcases Outcome.bind_ok valid with ⟨found, isFound, checked⟩
    cases known.symm.trans isFound
    dsimp only at checked
    split at checked
    · cases checked
    · rename_i wide
      split at checked
      · cases checked
      · rename_i lastRowStart isStart
        split at checked
        · cases checked
        · rename_i lastRowEnd isEnd
          rcases Outcome.bind_ok checked with ⟨planeEnd, isPlaneEnd, within⟩
          split at within
          · cases within
          · rename_i inside
            have start := checkedAdd_eq_some.mp isStart
            have last := checkedAdd_eq_some.mp isEnd
            have planeLast := endOffset_eq_ok.mp isPlaneEnd
            refine ⟨Nat.le_of_not_lt wide, planeLast.2, ?_⟩
            unfold saturatingMul at start
            omega
  · rintro ⟨wide, whole, inside⟩
    refine Outcome.bind_eq_ok known ?_
    have start : checkedAdd plane.offset (saturatingMul plane.stride
        (planeRowCount format planeIndex codedHeight.toNat - 1)) =
          some (plane.offset +
            plane.stride * (planeRowCount format planeIndex codedHeight.toNat - 1)) := by
      rw [saturatingMul_of_le (by omega)]
      exact checkedAdd_eq_some.mpr ⟨rfl, by omega⟩
    have last := checkedAdd_eq_some.mpr ⟨rfl, show plane.offset +
      plane.stride * (planeRowCount format planeIndex codedHeight.toNat - 1) +
        minPlaneStride format planeIndex codedWidth.toNat bpp <= usizeMax by omega⟩
    dsimp only
    rw [if_neg (Nat.not_lt.mpr wide), start]
    dsimp only
    rw [last]
    refine Outcome.bind_eq_ok (endOffset_eq_ok.mpr ⟨rfl, whole⟩) ?_
    exact if_neg (by omega)

namespace ImageMediaInfo

def validatePlane (info : ImageMediaInfo) (bufferSize : Nat) (index : Nat)
    (plane : MediaPlaneLayout) : Except MediaInfoError Unit := do
  if plane.stride = 0 then
    throw (.invalidArgument "plane stride must be non-zero")
  let last <- plane.endOffset
  if bufferSize < last then
    throw (.invalidArgument s!"plane end offset {last} exceeds buffer size {bufferSize}")
  validatePlaneStride info.pixelFormat plane index info.codedWidth info.codedHeight

/-- The planes from the given index on. -/
def validatePlanes (info : ImageMediaInfo) (bufferSize : Nat) :
    Nat -> List MediaPlaneLayout -> Except MediaInfoError Unit
  | _, [] => .ok ()
  | index, plane :: rest => do
      info.validatePlane bufferSize index plane
      validatePlanes info bufferSize (index + 1) rest

def validate (info : ImageMediaInfo) (bufferSize : Nat) : Except MediaInfoError Unit := do
  if info.codedWidth = 0 ∨ info.codedHeight = 0 then
    throw (.invalidArgument "coded width and height must be non-zero")
  info.visibleRect.validate
  validateCrop info.cropRect
  let expectedPlanes <- expectedPlaneCount info.pixelFormat
  if info.planes.length ≠ expectedPlanes then
    throw (.invalidArgument (s!"pixel format {info.pixelFormat.name} requires " ++
      s!"{expectedPlanes} planes, got {info.planes.length}"))
  info.validatePlanes bufferSize 0 info.planes

theorem validatePlane_eq_ok {info : ImageMediaInfo} {bufferSize index bpp : Nat}
    {plane : MediaPlaneLayout} (known : bytesPerPixelRow info.pixelFormat = .ok bpp)
    (nonempty : 0 < minPlaneStride info.pixelFormat index info.codedWidth.toNat bpp) :
    info.validatePlane bufferSize index plane = .ok () <->
      plane.stride ≠ 0 ∧ plane.offset + plane.len <= bufferSize ∧
        minPlaneStride info.pixelFormat index info.codedWidth.toNat bpp <= plane.stride ∧
        plane.offset + plane.len <= usizeMax ∧
        plane.stride * (planeRowCount info.pixelFormat index info.codedHeight.toNat - 1) +
          minPlaneStride info.pixelFormat index info.codedWidth.toNat bpp <= plane.len := by
  rw [← validatePlaneStride_eq_ok known nonempty]
  unfold validatePlane
  constructor
  · intro valid
    split at valid
    · cases valid
    · rename_i nonzero
      rcases Outcome.bind_ok valid with ⟨last, isLast, checked⟩
      split at checked
      · cases checked
      · rename_i inside
        rw [(endOffset_eq_ok.mp isLast).1] at inside
        exact ⟨nonzero, Nat.le_of_not_lt inside, checked⟩
  · rintro ⟨nonzero, inside, checked⟩
    rw [if_neg nonzero]
    have whole := ((validatePlaneStride_eq_ok known nonempty).mp checked).2.1
    refine Outcome.bind_eq_ok (endOffset_eq_ok.mpr ⟨rfl, whole⟩) ?_
    rw [if_neg (Nat.not_lt.mpr inside)]
    exact checked

theorem validatePlanes_eq_ok {info : ImageMediaInfo} {bufferSize : Nat} (start : Nat)
    (planes : List MediaPlaneLayout) :
    info.validatePlanes bufferSize start planes = .ok () <->
      forall index plane, planes[index]? = some plane ->
        info.validatePlane bufferSize (start + index) plane = .ok () := by
  induction planes generalizing start with
  | nil => exact ⟨fun _ _ _ impossible => absurd impossible (by simp), fun _ => rfl⟩
  | cons first planes ih =>
      rw [validatePlanes]
      constructor
      · intro valid index plane isPlane
        rcases Outcome.bind_ok valid with ⟨_, firstValid, rest⟩
        cases index with
        | zero =>
            cases isPlane
            exact firstValid
        | succ index =>
            rw [← Nat.add_assoc, Nat.add_right_comm]
            exact (ih (start + 1)).mp rest index plane isPlane
      · intro each
        refine Outcome.bind_eq_ok (each 0 first rfl) ((ih (start + 1)).mpr ?_)
        intro index plane isPlane
        rw [Nat.add_right_comm]
        exact each (index + 1) plane isPlane

/-- What is accepted: a picture, rectangles that do not wrap, as many planes as
the format has, and each of them in its place. -/
structure Accepted (info : ImageMediaInfo) (bufferSize : Nat) : Prop where
  width : 0 < info.codedWidth.toNat
  height : 0 < info.codedHeight.toNat
  visible : info.visibleRect.validate = .ok ()
  crop : validateCrop info.cropRect = .ok ()
  count : expectedPlaneCount info.pixelFormat = .ok info.planes.length
  planes : forall index plane, info.planes[index]? = some plane ->
    info.validatePlane bufferSize index plane = .ok ()

theorem validate_eq_ok {info : ImageMediaInfo} {bufferSize : Nat} :
    info.validate bufferSize = .ok () <-> info.Accepted bufferSize := by
  have positive {side : UInt32} : ¬ side = 0 <-> 0 < side.toNat := by
    rw [← UInt32.toNat_inj]
    exact Nat.pos_iff_ne_zero.symm
  unfold validate
  constructor
  · intro valid
    split at valid
    · cases valid
    · rename_i nonzero
      rcases Outcome.bind_ok valid with ⟨_, visible, afterRect⟩
      rcases Outcome.bind_ok afterRect with ⟨_, crop, afterCrop⟩
      rcases Outcome.bind_ok afterCrop with ⟨expected, isExpected, checked⟩
      split at checked
      · cases checked
      · rename_i same
        rw [← not_not.mp same] at isExpected
        have each := (validatePlanes_eq_ok 0 info.planes).mp checked
        simp only [Nat.zero_add] at each
        exact ⟨positive.mp (not_or.mp nonzero).1, positive.mp (not_or.mp nonzero).2, visible,
          crop, isExpected, each⟩
  · intro accepted
    have nonzero := not_or.mpr ⟨positive.mpr accepted.width, positive.mpr accepted.height⟩
    rw [if_neg nonzero]
    refine Outcome.bind_eq_ok accepted.visible (Outcome.bind_eq_ok accepted.crop ?_)
    refine Outcome.bind_eq_ok accepted.count ?_
    rw [if_neg (not_not.mpr rfl)]
    refine (validatePlanes_eq_ok 0 info.planes).mpr ?_
    simpa only [Nat.zero_add] using accepted.planes

end ImageMediaInfo

inductive MediaPayloadInfo where
  | encoded (info : EncodedMediaInfo)
  | image (info : ImageMediaInfo)
deriving DecidableEq, Repr

structure MediaInfo where
  timing : MediaTiming
  payload : MediaPayloadInfo
deriving DecidableEq, Repr

namespace MediaInfo

def encoded (info : EncodedMediaInfo) (timing : MediaTiming) :
    Except MediaInfoError MediaInfo := do
  timing.validate
  info.validate
  return ⟨timing, .encoded info⟩

def image (info : ImageMediaInfo) (timing : MediaTiming) (bufferSize : Nat) :
    Except MediaInfoError MediaInfo := do
  timing.validate
  info.validate bufferSize
  return ⟨timing, .image info⟩

end MediaInfo
end Core
end DyunGu
