import DyunGu.Lib.Outcome
import DyunGu.Media.Bridge
import Mathlib.Algebra.Order.BigOperators.GroupWithZero.List
import Mathlib.Algebra.Order.Ring.Nat

namespace DyunGu
namespace Media

open DyunGu.Core
open DyunGu.Graph (Packet PacketMeta PacketPayload)

/-!
# Decoded images as frames

The bytes of an image follow its planes, with the strides and the padding that
its decoder left.  The shape of its frame is only the geometry, height by width
and for one plane the channels.  What the codec library answers about the
memory of an image is part of the image.
-/

variable {Q R : Type}

/-- Pixel formats of the codec library. -/
inductive ImageInfo where
  | yuv420p
  | yuv422p
  | yuv444p
  | nv12
  | nv21
  | rgb24
  | bgr24
  | rgba
  | bgra
  | gray8
  | yuv420p10le
  | p010
deriving DecidableEq, Repr

structure AvImage where
  format : ImageInfo
  codedWidth : UInt32
  codedHeight : UInt32
  planes : List (Option MediaPlaneLayout)
  planeCount : Nat
  pts : Option Int64
  dts : Option Int64
  domain : MemoryDomain
  size : Nat
  external : ExternalHandle
  hostBytes : Option (List UInt8)
  planeHostBytes : Nat -> Except MediaError (Option (List UInt8))
  staged : Except MediaError (Option (List UInt8))

def avcodecImageToCorePixel : ImageInfo -> PixelFormat
  | .yuv420p => .yuv420p
  | .yuv422p => .yuv422p
  | .yuv444p => .yuv444p
  | .nv12 => .nv12
  | .nv21 => .nv21
  | .rgb24 => .rgb24
  | .bgr24 => .bgr24
  | .rgba => .rgba
  | .bgra => .bgra
  | .gray8 => .gray8
  | .yuv420p10le | .p010 => .unknown

def isMultiplanePixel : PixelFormat -> Bool
  | .yuv420p | .yuv422p | .yuv444p | .nv12 | .nv21 => true
  | .rgb24 | .bgr24 | .rgba | .bgra | .gray8 | .unknown => false

def sampleLayoutOf : ImageInfo -> SampleLayout
  | .nv12 | .nv21 => .semiPlanar
  | .yuv420p | .yuv422p | .yuv444p => .planar
  | .rgb24 | .bgr24 | .rgba | .bgra | .gray8 | .yuv420p10le | .p010 => .interleaved

namespace AvImage

def imageMediaInfo (image : AvImage) : ImageMediaInfo where
  pixelFormat := avcodecImageToCorePixel image.format
  codedWidth := image.codedWidth
  codedHeight := image.codedHeight
  visibleRect := ⟨0, 0, image.codedWidth, image.codedHeight⟩
  cropRect := none
  colorPrimaries := .unknown
  colorTransfer := .unknown
  colorMatrix := .unknown
  colorRange := .unknown
  flags := ⟨false⟩
  sampleType := .uint8
  sampleLayout := sampleLayoutOf image.format
  planes := image.planes.filterMap id
  fenceId := none

/-- `image_to_media_info`. -/
def toMediaInfo (image : AvImage) (bufferSize : Nat) : Except MediaError MediaInfo :=
  (MediaInfo.image image.imageMediaInfo ⟨image.pts, image.dts, none⟩ bufferSize).mapError infoError

end AvImage

/-- Rows of each plane and bytes of a row. -/
def planeGeometry (format : PixelFormat) (width height : Nat) :
    Except MediaError (List (Nat × Nat)) :=
  let chromaWidth := (width + 1) / 2
  let chromaHeight := (height + 1) / 2
  match format with
  | .yuv420p =>
      .ok [(height, width), (chromaHeight, chromaWidth), (chromaHeight, chromaWidth)]
  | .yuv422p => .ok [(height, width), (height, chromaWidth), (height, chromaWidth)]
  | .yuv444p => .ok [(height, width), (height, width), (height, width)]
  | .nv12 | .nv21 => .ok [(height, width), (chromaHeight, width)]
  | .gray8 => .ok [(height, width)]
  | .rgb24 | .bgr24 => .ok [(height, saturatingMul width 3)]
  | .rgba | .bgra => .ok [(height, saturatingMul width 4)]
  | .unknown =>
      .error (.other "unsupported: no host plane geometry for pixel format Unknown")

def orElseMedia {T : Type} (result : Option T) (message : String) : Except MediaError T :=
  match result with
  | none => .error (.media message)
  | some value => .ok value

/-- The planes behind each other from an offset on. -/
def tightPlaneLayouts : Nat -> List (Nat × Nat) -> Except MediaError (List MediaPlaneLayout)
  | _, [] => .ok []
  | offset, (rows, rowBytes) :: rest => do
      let len <- orElseMedia (checkedMul rows rowBytes) "plane length overflow"
      let next <- orElseMedia (checkedAdd offset len) "plane offset overflow"
      let planes <- tightPlaneLayouts next rest
      return ⟨offset, rowBytes, len⟩ :: planes

def tightPlaneLayoutsForFormat (format : PixelFormat) (width height : Nat) :
    Except MediaError (List MediaPlaneLayout) := do
  let specs <- planeGeometry format width height
  tightPlaneLayouts 0 specs

/-- `room` says whether there is memory for so many bytes. -/
def tryCloneBytes (room : Nat -> Bool) (bytes : List UInt8) : Except MediaError (List UInt8) :=
  if room bytes.length then .ok bytes
  else .error (.media s!"media bytes allocation failed for {bytes.length} bytes")

/-- The first bytes of each row, from the given row on. -/
def copyRows (src : List UInt8) (index stride rowBytes : Nat) :
    Nat -> Nat -> Except MediaError (List UInt8)
  | _, 0 => .ok []
  | row, rows + 1 => do
      let start <- orElseMedia (checkedMul row stride) "plane row offset overflow"
      let last <- orElseMedia (checkedAdd start rowBytes) "plane row end overflow"
      if src.length < last then
        throw (.media s!"plane {index} row {row} exceeds host bytes")
      let rest <- copyRows src index stride rowBytes (row + 1) rows
      return (src.drop start).take rowBytes ++ rest

namespace AvImage

def copyPlanes (image : AvImage) : Nat -> List (Nat × Nat) -> Except MediaError (List UInt8)
  | _, [] => .ok []
  | index, (rows, rowBytes) :: rest => do
      let found <- image.planeHostBytes index
      let src <- match found with
        | some src => pure src
        | none => throw (.other (s!"buffer error: avcodec image plane {index} is not " ++
            "host-readable; domain mismatch"))
      let plane <- orElseMedia (image.planes[index]?.join)
        s!"avcodec image missing plane descriptor {index}"
      if plane.stride < rowBytes then
        throw (.media (s!"plane {index} stride {plane.stride} is less than effective row " ++
          s!"bytes {rowBytes}"))
      let bytes <- copyRows src index plane.stride rowBytes 0 rows
      let others <- copyPlanes image (index + 1) rest
      return bytes ++ others

def pixel (image : AvImage) : PixelFormat := avcodecImageToCorePixel image.format

def repackRows (room : Nat -> Bool) (image : AvImage) : Except MediaError (List UInt8) := do
  let specs <- planeGeometry image.pixel image.codedWidth.toNat image.codedHeight.toNat
  let total <- specs.foldlM (fun total spec => do
    let plane <- orElseMedia (checkedMul spec.1 spec.2) "image row bytes total overflow"
    orElseMedia (checkedAdd total plane) "image row bytes total overflow") 0
  if room total = false then
    throw (.media s!"image repack allocation failed for {total} bytes")
  image.copyPlanes 0 specs

/-- The bytes, and whether the rows were packed anew. -/
def materializeHostBytes (room : Nat -> Bool) (image : AvImage) :
    Except MediaError (List UInt8 × Bool) :=
  match image.hostBytes.filter fun bytes => !bytes.isEmpty with
  | some bytes => do
      let bytes <- tryCloneBytes room bytes
      return (bytes, false)
  | none =>
      if !isMultiplanePixel image.pixel && decide (image.planeCount <= 1) then do
        let found <- image.planeHostBytes 0
        let bytes <- match found with
          | some bytes => pure bytes
          | none => do
              let staged <- image.staged
              match staged with
              | some bytes => pure bytes
              | none => throw (.other ("buffer error: avcodec image staging did not produce " ++
                  "host-readable bytes"))
        let bytes <- tryCloneBytes room bytes
        return (bytes, false)
      else do
        let bytes <- image.repackRows room
        return (bytes, true)

/-- `share_avcodec_handle` of the memory of the image. -/
def shareHandle (room : Nat -> Bool) (image : AvImage) (device : DeviceKind) :
    Except MediaError StoredBuffer :=
  match image.hostBytes with
  | some bytes => do
      let bytes <- tryCloneBytes room bytes
      match StoredBuffer.fromExternalWithHostBytes device image.domain ⟨image.size, 1⟩
          image.external bytes with
      | .ok buffer => return buffer
      | .error _ => throw (.other "buffer error: external bytes do not match descriptor size")
  | none => .ok (.fromExternal device image.domain ⟨image.size, 1⟩ image.external)

end AvImage

/-- Shape and format of a frame; none for a format that is not known. -/
def imageLayout (format : PixelFormat) (width height : Nat) : Option (List Nat × DataFormat) :=
  match format with
  | .yuv420p | .yuv422p | .yuv444p | .nv12 | .nv21 => some ([height, width], .auto)
  | .gray8 => some ([height, width, 1], .nhwc)
  | .rgb24 | .bgr24 => some ([height, width, 3], .nhwc)
  | .rgba | .bgra => some ([height, width, 4], .nhwc)
  | .unknown => none

/-- The device whose memory the domain is. -/
def imageDevice : MemoryDomain -> Except MediaError DeviceKind
  | .cudaDevice => .ok .cudaGpu
  | .mppBuffer | .dmaBuf | .drmPrime => .ok .rknnNpu
  | .vaapiSurface => .error (.media "unsupported avcodec image device domain VaapiSurface")
  | .sophonDevice => .error (.media "unsupported avcodec image device domain SophonDevice")
  | .opaqueDomain => .error (.media "unsupported avcodec image device domain Opaque")
  | .host => .error (.media "unsupported avcodec image device domain Host")

/-- A frame of the image without its metadata. -/
def imageFrame (layout : List Nat × DataFormat) (buffer : StoredBuffer) : MediaFrame where
  kind := .image
  dtype := u8
  format := layout.2
  shape := layout.1
  device := buffer.device
  domain := buffer.domain
  buffer := buffer
  metadata := .empty

def MediaFrame.describe (frame : MediaFrame) (info : MediaInfo) : Except MediaError MediaFrame := do
  let metadata <- { frame.metadata with mediaInfo := some info }.normalize
  return { frame with metadata := metadata }

namespace AvImage

/-- The name of a format that no frame is made of. -/
def formatName (format : ImageInfo) : String :=
  match format with
  | .yuv420p10le => "Yuv420p10le"
  | .p010 => "P010"
  | other => (avcodecImageToCorePixel other).name

/-- Rows that were packed anew have other planes. -/
def placePlanes (image : AvImage) (repacked : Bool) (info : MediaInfo) :
    Except MediaError MediaInfo :=
  if repacked then do
    let planes <- tightPlaneLayoutsForFormat image.pixel image.codedWidth.toNat
      image.codedHeight.toNat
    return ⟨info.timing, .image { image.imageMediaInfo with planes := planes }⟩
  else .ok info

/-- `avcodec_image_to_bridged_media_frame` without its report. -/
def toBridgedMediaFrame (room : Nat -> Bool) (image : AvImage) : Except MediaError MediaFrame := do
  let layout <- orElseMedia
    (imageLayout image.pixel image.codedWidth.toNat image.codedHeight.toNat)
    s!"unsupported packed avcodec image format {formatName image.format}"
  if image.domain ≠ .host then
    let device <- imageDevice image.domain
    let buffer <- image.shareHandle room device
    let info <- image.toMediaInfo image.size
    (imageFrame layout buffer).describe info
  else
    let host <- image.materializeHostBytes room
    let info <- image.toMediaInfo host.1.length
    let placed <- image.placePlanes host.2 info
    (imageFrame layout (.ofHost .cpu ⟨host.1.length, 1⟩ host.1 rfl)).describe placed

end AvImage

/-! ## Which images survive the transport -/

/-- A frame made of an image with this description, with the stream and the
tags that it was given. -/
structure DecodedImage (frame : MediaFrame) (info : ImageMediaInfo) (timing : MediaTiming)
    (streamId : Option String) (tags : List (String × String)) : Prop where
  isImage : frame.kind = .image
  dtype : frame.dtype = u8
  layout : imageLayout info.pixelFormat info.codedWidth.toNat info.codedHeight.toNat =
    some (frame.shape, frame.format)
  device : frame.buffer.device = frame.device
  metadata : frame.metadata = .described streamId tags ⟨timing, .image info⟩

theorem describe_decoded {layout : List Nat × DataFormat} {buffer : StoredBuffer}
    {info : ImageMediaInfo} {timing : MediaTiming} {frame : MediaFrame}
    (isLayout : imageLayout info.pixelFormat info.codedWidth.toNat info.codedHeight.toNat =
      some layout)
    (made : (imageFrame layout buffer).describe ⟨timing, .image info⟩ = .ok frame) :
    DecodedImage frame info timing none [] := by
  cases made
  exact ⟨rfl, rfl, isLayout, rfl, rfl⟩

namespace AvImage

theorem toMediaInfo_ok {image : AvImage} {bufferSize : Nat} {info : MediaInfo}
    (made : image.toMediaInfo bufferSize = .ok info) :
    info = ⟨⟨image.pts, image.dts, none⟩, .image image.imageMediaInfo⟩ := by
  rcases Outcome.bind_ok (Outcome.mapError_ok made) with ⟨_, -, checked⟩
  rcases Outcome.bind_ok checked with ⟨_, -, result⟩
  cases result
  rfl

theorem placePlanes_ok {image : AvImage} {repacked : Bool} {timing : MediaTiming}
    {placed : MediaInfo}
    (made : image.placePlanes repacked ⟨timing, .image image.imageMediaInfo⟩ = .ok placed) :
    Exists fun planes => placed = ⟨timing, .image { image.imageMediaInfo with planes := planes }⟩ :=
    by
  unfold placePlanes at made
  split at made
  · rcases Outcome.bind_ok made with ⟨planes, -, result⟩
    cases result
    exact ⟨planes, rfl⟩
  · cases made
    exact ⟨_, rfl⟩

/-- Every frame that is made of an image is one. -/
theorem toBridgedMediaFrame_decoded {room : Nat -> Bool} {image : AvImage} {frame : MediaFrame}
    (made : image.toBridgedMediaFrame room = .ok frame) :
    Exists fun info => Exists fun timing => DecodedImage frame info timing none [] := by
  rcases Outcome.bind_ok made with ⟨layout, found, rest⟩
  have isLayout : imageLayout image.pixel image.codedWidth.toNat image.codedHeight.toNat =
      some layout := by
    unfold orElseMedia at found
    split at found
    · cases found
    · rename_i isSome
      cases found
      exact isSome
  split at rest
  · rcases Outcome.bind_ok rest with ⟨device, -, onDevice⟩
    rcases Outcome.bind_ok onDevice with ⟨buffer, -, withBuffer⟩
    rcases Outcome.bind_ok withBuffer with ⟨info, described, result⟩
    cases toMediaInfo_ok described
    exact ⟨_, _, describe_decoded isLayout result⟩
  · rcases Outcome.bind_ok rest with ⟨host, -, onHost⟩
    rcases Outcome.bind_ok onHost with ⟨info, described, withInfo⟩
    rcases Outcome.bind_ok withInfo with ⟨placed, isPlaced, result⟩
    cases toMediaInfo_ok described
    rcases placePlanes_ok isPlaced with ⟨planes, rfl⟩
    exact ⟨_, _, describe_decoded isLayout result⟩

end AvImage

/-- Elements of a shape without zeros. -/
theorem elementCount_eq_ok {dims : List Nat} {count : Nat}
    (positive : forall dim, dim ∈ dims -> 0 < dim) :
    Shape.elementCount ⟨dims⟩ = .ok count <-> dims.prod = count ∧ dims.prod <= usizeMax := by
  have nonzero : 0 ∉ dims := fun isZero => Nat.lt_irrefl 0 (positive 0 isZero)
  rw [Shape.elementCount_of_nonzero nonzero, Shape.trueCount]
  by_cases fits : dims.prod <= usizeMax
  · rw [if_pos fits]
    exact ⟨fun same => ⟨Except.ok.inj same, fits⟩, fun same => congrArg Except.ok same.1⟩
  · rw [if_neg fits]
    constructor
    · rintro ⟨⟩
    · intro within
      exact absurd within.2 fits

/-- As many bytes as elements, unless their bits are too many to count. -/
theorem storageBytes_u8 {dims : List Nat} {format : DataFormat} {device : DeviceKind}
    {bytes : Nat} (positive : forall dim, dim ∈ dims -> 0 < dim) :
    (TensorDesc.new ⟨dims⟩ u8 format device).storageBytes = .ok bytes <->
      bytes = dims.prod ∧ 8 * dims.prod <= usizeMax := by
  have whole : (TensorDesc.new ⟨dims⟩ u8 format device).storageBytes =
      (Shape.elementCount ⟨dims⟩ >>= u8.storageBytesForElements) := rfl
  have eight : u8.sizeInBits = 8 := by decide
  rw [whole]
  cases counted : Shape.elementCount ⟨dims⟩ with
  | error error =>
      constructor
      · rintro ⟨⟩
      · intro within
        have fits : dims.prod <= usizeMax := by omega
        rw [(elementCount_eq_ok positive).mpr ⟨rfl, fits⟩] at counted
        cases counted
  | ok count =>
      cases ((elementCount_eq_ok positive).mp counted).1
      show u8.storageBytesForElements dims.prod = .ok bytes <-> _
      unfold DataType.storageBytesForElements
      rw [eight, checkedMul]
      by_cases fits : 8 * dims.prod <= usizeMax
      · rw [if_pos fits]
        have exact8 : (8 * dims.prod + 7) / 8 = dims.prod := by omega
        constructor
        · intro same
          exact ⟨(Except.ok.inj same).symm.trans exact8, fits⟩
        · rintro ⟨rfl, -⟩
          exact congrArg Except.ok exact8
      · rw [if_neg fits]
        constructor
        · rintro ⟨⟩
        · intro within
          exact absurd within.2 fits

/-- Bytes that the shape of a frame counts for a pixel. -/
def channels : PixelFormat -> Nat
  | .rgb24 | .bgr24 => 3
  | .rgba | .bgra => 4
  | .gray8 | .yuv420p | .yuv422p | .yuv444p | .nv12 | .nv21 | .unknown => 1

/-- Bytes of the coded geometry if each pixel takes those of its channels. -/
def packedBytes (info : ImageMediaInfo) : Nat :=
  info.codedHeight.toNat * info.codedWidth.toNat * channels info.pixelFormat

theorem imageLayout_prod {format : PixelFormat} {width height : Nat} {shape : List Nat}
    {layout : DataFormat} (isLayout : imageLayout format width height = some (shape, layout)) :
    shape.prod = height * width * channels format := by
  cases format with
  | unknown => cases isLayout
  | _ =>
      cases isLayout
      simp [channels, Nat.mul_assoc]

theorem imageLayout_positive {format : PixelFormat} {width height : Nat} {shape : List Nat}
    {layout : DataFormat} (isLayout : imageLayout format width height = some (shape, layout))
    (positive : 0 < width ∧ 0 < height) : forall dim, dim ∈ shape -> 0 < dim := by
  cases format with
  | unknown => cases isLayout
  | _ =>
      cases isLayout
      simp [positive]

theorem multiplane_rows {format : PixelFormat} (multiplane : isMultiplanePixel format = true)
    {width : Nat} (fits : width <= usizeMax) (height : Nat) :
    bytesPerPixelRow format = .ok 1 ∧ channels format = 1 ∧
      minPlaneStride format 0 width 1 = width ∧ planeRowCount format 0 height = height := by
  have whole := saturatingMul_one fits
  cases format with
  | yuv420p => exact ⟨rfl, rfl, whole, rfl⟩
  | yuv422p => exact ⟨rfl, rfl, whole, rfl⟩
  | yuv444p => exact ⟨rfl, rfl, whole, rfl⟩
  | nv12 => exact ⟨rfl, rfl, rfl, rfl⟩
  | nv21 => exact ⟨rfl, rfl, rfl, rfl⟩
  | _ => cases multiplane

/-- Planes that do not overlap do not fit into the first of them. -/
theorem packedBytes_lt {info : ImageMediaInfo} {bufferSize : Nat}
    {first second : MediaPlaneLayout} {rest : List MediaPlaneLayout}
    (valid : info.validate bufferSize = .ok ())
    (multiplane : isMultiplanePixel info.pixelFormat = true)
    (planes : info.planes = first :: second :: rest)
    (behind : first.offset + first.len <= second.offset) : packedBytes info < bufferSize := by
  have accepted := ImageMediaInfo.validate_eq_ok.mp valid
  have firstValid := accepted.planes 0 first (by rw [planes]; rfl)
  have secondValid := accepted.planes 1 second (by rw [planes]; rfl)
  have fits : info.codedWidth.toNat <= usizeMax :=
    Nat.le_trans (Nat.le_of_lt info.codedWidth.toNat_lt) (by decide)
  rcases multiplane_rows multiplane fits info.codedHeight.toNat with ⟨known, one, widthRow, rows⟩
  have firstFits := (ImageMediaInfo.validatePlane_eq_ok known
    (minPlaneStride_pos 0 accepted.width known)).mp firstValid
  have secondFits := (ImageMediaInfo.validatePlane_eq_ok known
    (minPlaneStride_pos 1 accepted.width known)).mp secondValid
  have secondRow := minPlaneStride_pos 1 accepted.width known
  rw [widthRow, rows] at firstFits
  rcases firstFits with ⟨_, _, wide, _, inside⟩
  have height : info.codedHeight.toNat * info.codedWidth.toNat <= first.len := by
    calc info.codedHeight.toNat * info.codedWidth.toNat
        = (info.codedHeight.toNat - 1) * info.codedWidth.toNat + info.codedWidth.toNat := by
          rw [← Nat.succ_mul, Nat.succ_eq_add_one, Nat.sub_add_cancel accepted.height]
      _ <= first.stride * (info.codedHeight.toNat - 1) + info.codedWidth.toNat := by
          rw [Nat.mul_comm]
          exact Nat.add_le_add_right (Nat.mul_le_mul_right _ wide) _
      _ <= first.len := inside
  rw [packedBytes, one, Nat.mul_one]
  omega

namespace DecodedImage

variable {frame : MediaFrame} {info : ImageMediaInfo} {timing : MediaTiming}
  {streamId : Option String} {tags : List (String × String)}

/-- The tensor of the frame, if its buffer is as long as its shape says. -/
theorem storageBytes_iff (decoded : DecodedImage frame info timing streamId tags)
    (valid : info.validate frame.buffer.len = .ok ()) :
    (FullDesc.new ⟨frame.shape⟩ frame.dtype frame.format frame.device :
        FullDesc Q).storageBytes = .ok frame.buffer.len <->
      frame.buffer.len = packedBytes info ∧ 8 * packedBytes info <= usizeMax := by
  have accepted := ImageMediaInfo.validate_eq_ok.mp valid
  have positive : forall dim, dim ∈ frame.shape -> 0 < dim :=
    imageLayout_positive decoded.layout ⟨accepted.width, accepted.height⟩
  have whole : frame.shape.prod = packedBytes info := imageLayout_prod decoded.layout
  rw [decoded.dtype, ← whole]
  exact storageBytes_u8 positive

theorem sent_iff (decoded : DecodedImage frame info timing streamId tags)
    {packet : Packet (StoredTensor Q) R MediaInfo} :
    mediaFrameToGraphPacket frame = .ok packet <->
      Exists fun tensor : StoredTensor Q =>
        (tensor.desc = .new ⟨frame.shape⟩ frame.dtype frame.format frame.device ∧
          tensor.buffer = frame.buffer) ∧
        ⟨⟨0, streamId, tags, some ⟨timing, .image info⟩⟩, .tensor tensor⟩ = packet := by
  have isData : frame.kind ≠ .endOfStream := by
    rw [decoded.isImage]
    exact nofun
  have isMeta : frame.metadata = packetMeta ⟨0, streamId, tags, some ⟨timing, .image info⟩⟩ :=
    decoded.metadata
  exact mediaFrameToGraphPacket_eq_ok isData isMeta

/-- A frame of a decoded image comes back if and only if its buffer is exactly
as long as its coded geometry: then it has no padding, and no plane beyond the
first adds to it. -/
theorem round_trip_iff (decoded : DecodedImage frame info timing streamId tags)
    (valid : info.validate frame.buffer.len = .ok ()) :
    (Exists fun packet : Packet (StoredTensor Q) R MediaInfo => Exists fun back =>
      mediaFrameToGraphPacket frame = .ok packet ∧ graphPacketToMediaFrame packet = .ok back ∧
      back.buffer = frame.buffer ∧ back.shape = frame.shape ∧ back.dtype = frame.dtype ∧
      back.format = frame.format ∧ back.device = frame.device ∧
      back.metadata.streamId = streamId ∧ back.metadata.tags = tags ∧
      back.metadata.mediaInfo = some ⟨timing, .image info⟩) <->
    frame.buffer.len = packedBytes info ∧ 8 * packedBytes info <= usizeMax := by
  rw [← @storageBytes_iff Q _ _ _ _ _ decoded valid]
  constructor
  · rintro ⟨packet, back, sent, -⟩
    rcases decoded.sent_iff.mp sent with ⟨tensor, ⟨isDesc, isBuffer⟩, -⟩
    rw [← isDesc, ← isBuffer]
    exact tensor.sized
  · intro sized
    let tensor : StoredTensor Q :=
      ⟨.new ⟨frame.shape⟩ frame.dtype frame.format frame.device, frame.buffer, sized,
        decoded.device⟩
    exact ⟨_, _, decoded.sent_iff.mpr ⟨tensor, ⟨rfl, rfl⟩, rfl⟩,
      graphPacketToMediaFrame_tensor _ tensor, rfl, rfl, rfl, rfl, rfl, rfl, rfl, rfl⟩

/-- No image of several planes that do not overlap comes back. -/
theorem multiplane_lost (decoded : DecodedImage frame info timing streamId tags)
    (valid : info.validate frame.buffer.len = .ok ())
    (multiplane : isMultiplanePixel info.pixelFormat = true)
    {first second : MediaPlaneLayout} {rest : List MediaPlaneLayout}
    (planes : info.planes = first :: second :: rest)
    (behind : first.offset + first.len <= second.offset) :
    forall packet : Packet (StoredTensor Q) R MediaInfo,
      mediaFrameToGraphPacket frame ≠ .ok packet := by
  intro packet sent
  rcases decoded.sent_iff.mp sent with ⟨tensor, ⟨isDesc, isBuffer⟩, -⟩
  have sized := tensor.sized
  rw [isDesc, isBuffer, decoded.storageBytes_iff valid] at sized
  exact Nat.ne_of_gt (packedBytes_lt valid multiplane planes behind) sized.1

/-- A gray image of two rows without padding. -/
def grayImage : AvImage where
  format := .gray8
  codedWidth := 2
  codedHeight := 2
  planes := [some ⟨0, 2, 4⟩]
  planeCount := 1
  pts := some 40
  dts := none
  domain := .host
  size := 4
  external := .none
  hostBytes := some [1, 2, 3, 4]
  planeHostBytes _ := .ok none
  staged := .ok none

theorem grayImage_returns :
    Exists fun frame => Exists fun info => Exists fun timing =>
      grayImage.toBridgedMediaFrame (fun _ => true) = .ok frame ∧
      DecodedImage frame info timing none [] ∧ info.validate frame.buffer.len = .ok () ∧
      Exists fun packet : Packet (StoredTensor Nat) Unit MediaInfo => Exists fun back =>
        mediaFrameToGraphPacket frame = .ok packet ∧ graphPacketToMediaFrame packet = .ok back ∧
        back.buffer = frame.buffer ∧ back.shape = frame.shape ∧ back.dtype = frame.dtype ∧
        back.format = frame.format ∧ back.device = frame.device ∧
        back.metadata.streamId = none ∧ back.metadata.tags = [] ∧
        back.metadata.mediaInfo = some ⟨timing, .image info⟩ := by
  have made : grayImage.toBridgedMediaFrame (fun _ => true) = .ok
      { imageFrame ([2, 2, 1], .nhwc) (.ofHost .cpu ⟨4, 1⟩ [1, 2, 3, 4] rfl) with
        metadata := .described none [] ⟨⟨some 40, none, none⟩, .image grayImage.imageMediaInfo⟩ } :=
    rfl
  have decoded : DecodedImage
      { imageFrame ([2, 2, 1], .nhwc) (.ofHost .cpu ⟨4, 1⟩ [1, 2, 3, 4] rfl) with
        metadata := .described none [] ⟨⟨some 40, none, none⟩, .image grayImage.imageMediaInfo⟩ }
      grayImage.imageMediaInfo ⟨some 40, none, none⟩ none [] := ⟨rfl, rfl, rfl, rfl, rfl⟩
  exact ⟨_, _, _, made, decoded, rfl, (round_trip_iff decoded rfl).mpr ⟨rfl, by decide⟩⟩

/-- The same image with a plane of colors behind that of its brightness. -/
def nv12Image : AvImage :=
  { grayImage with
    format := .nv12
    planes := [some ⟨0, 2, 4⟩, some ⟨4, 2, 2⟩]
    planeCount := 2
    size := 6
    hostBytes := some [1, 2, 3, 4, 5, 6] }

theorem nv12Image_fails :
    Exists fun frame =>
      nv12Image.toBridgedMediaFrame (fun _ => true) = .ok frame ∧
      DecodedImage frame nv12Image.imageMediaInfo ⟨some 40, none, none⟩ none [] ∧
      nv12Image.imageMediaInfo.validate frame.buffer.len = .ok () ∧
      mediaFrameToGraphPacket frame = (.error (.other
        "tensor error: buffer size does not match tensor descriptor") :
          Except _ (Packet (StoredTensor Nat) Unit _)) :=
  ⟨_, rfl, ⟨rfl, rfl, rfl, rfl, rfl⟩, rfl, rfl⟩

end DecodedImage

end Media
end DyunGu
