import DyunGu.Core.Buffer
import DyunGu.Core.Reshape
import DyunGu.Graph.Packet
import DyunGu.Media.FrameMeta

namespace DyunGu
namespace Media

open DyunGu.Core
open DyunGu.Graph (Packet PacketMeta PacketPayload)

/-!
# Between packets of the graph and frames of the media elements

A packet carries a tensor with its whole description, a frame only the shape,
the data type, the format and the device.  On the way back the description is
made anew, and the size of the buffer is compared with it again.

Scales of a quantization are of type `Q`, and results other than tensors of
type `R`.
-/

variable {Q R : Type}

inductive QuantizationScheme where
  | none
  | affineAsymmetric
  | symmetric
  | dynamicFixedPoint
deriving DecidableEq, Repr

structure Quantization (Q : Type) where
  scheme : QuantizationScheme
  scale : List Q
  zeroPoint : List Int32
  axis : Option Nat
deriving DecidableEq

def Quantization.none : Quantization Q := ⟨.none, [], [], .none⟩

/-- A description with its name and its quantization. -/
structure FullDesc (Q : Type) extends TensorDesc where
  name : Option String
  quant : Quantization Q
deriving DecidableEq

def FullDesc.new (shape : Shape) (dtype : DataType) (format : DataFormat) (device : DeviceKind) :
    FullDesc Q := ⟨TensorDesc.new shape dtype format device, none, .none⟩

/-- A buffer with a description that gives its size and its device. -/
structure StoredTensor (Q : Type) where
  desc : FullDesc Q
  buffer : StoredBuffer
  sized : desc.storageBytes = .ok buffer.len
  onDevice : buffer.device = desc.device

def StoredTensor.fromBuffer (desc : FullDesc Q) (buffer : StoredBuffer) :
    Except TensorError (StoredTensor Q) :=
  match size : desc.storageBytes with
  | .error error => .error error
  | .ok bytes =>
      if sized : buffer.len = bytes then
        if onDevice : buffer.device = desc.device then
          .ok ⟨desc, buffer, sized ▸ size, onDevice⟩
        else .error (.tensor "buffer device does not match tensor descriptor")
      else .error (.tensor "buffer size does not match tensor descriptor")

/-- A tensor is made exactly of a buffer of the described size and device. -/
theorem StoredTensor.fromBuffer_eq_ok {desc : FullDesc Q} {buffer : StoredBuffer}
    {tensor : StoredTensor Q} :
    fromBuffer desc buffer = .ok tensor <-> tensor.desc = desc ∧ tensor.buffer = buffer := by
  constructor
  · intro made
    unfold fromBuffer at made
    split at made
    · cases made
    · split at made
      · split at made
        · cases made
          exact ⟨rfl, rfl⟩
        · cases made
      · cases made
  · rintro ⟨rfl, rfl⟩
    rcases tensor with ⟨desc, buffer, sized, onDevice⟩
    unfold fromBuffer
    dsimp only
    split
    · rename_i failed
      rw [sized] at failed
      cases failed
    · rename_i bytes found
      rw [sized] at found
      cases found
      rw [dif_pos rfl, dif_pos onDevice]

/-- The tensor of a packet is one that the constructors of the core accept. -/
theorem StoredTensor.built (tensor : StoredTensor Q) :
    BackedTensor.Built ⟨tensor.desc.toTensorDesc, tensor.buffer.buffer⟩ := by
  refine .given tensor.desc.toTensorDesc tensor.buffer.buffer ?_
  refine Outcome.bind_eq_ok (congrArg (Except.mapError StorageError.tensor) tensor.sized) ?_
  have same : tensor.buffer.buffer.len = tensor.buffer.len := rfl
  rw [if_neg (not_not.mpr same)]
  exact if_neg (not_not.mpr tensor.onDevice)

/-! ## Frames -/

inductive MediaFrameKind where
  | tensor
  | image
  | endOfStream
deriving DecidableEq, Repr

structure MediaFrame where
  kind : MediaFrameKind
  dtype : DataType
  format : DataFormat
  shape : List Nat
  device : DeviceKind
  domain : MemoryDomain
  buffer : StoredBuffer
  metadata : MediaFrameMeta

def u8 : DataType := ⟨.uint, 8, 1⟩

namespace MediaFrame

def fromTensor (tensor : StoredTensor Q) : MediaFrame where
  kind := .tensor
  dtype := tensor.desc.dtype
  format := tensor.desc.format
  shape := tensor.desc.shape.dims
  device := tensor.desc.device
  domain := tensor.buffer.domain
  buffer := tensor.buffer
  metadata := .empty

/-- No bytes are asked for, so the allocation cannot fail. -/
def endOfStream : MediaFrame where
  kind := .endOfStream
  dtype := u8
  format := .auto
  shape := []
  device := .cpu
  domain := .host
  buffer := .ofHost .cpu ⟨0, 1⟩ [] rfl
  metadata := .empty

def isEndOfStream (frame : MediaFrame) : Bool := decide (frame.kind = .endOfStream)

end MediaFrame

/-- The number of a kind of payload other than tensors. -/
def payloadDiscriminant {T : Type} : PacketPayload T R -> Nat
  | .tensor _ => 0
  | .detections _ => 1
  | .classifications _ => 2
  | .faces _ => 3
  | .tracks _ => 4
  | .ocr _ => 5
  | .endOfStream => 6

/-- Whether the payload is shared makes no difference. -/
def graphPacketToMediaFrame (packet : Packet (StoredTensor Q) R MediaInfo) :
    Except MediaError MediaFrame :=
  if packet.isEos then .ok .endOfStream
  else
    match packet.payload with
    | .tensor tensor => do
        let frame := MediaFrame.fromTensor tensor
        let timing := frame.metadata.timing
        let given := { frame.metadata with
          streamId := packet.metadata.streamId
          tags := packet.metadata.tags
          mediaInfo := packet.metadata.mediaInfo }
        let timed :=
          if given.mediaInfo.isNone then { given with pts := timing.pts, dts := timing.dts }
          else given
        let metadata <- timed.normalize
        return { frame with metadata := metadata }
    | other => .error (.other (s!"invalid argument: graph packet payload is not a media tensor: " ++
        s!"Discriminant({payloadDiscriminant other})"))

/-- The description that a packet is given: also timestamps alone make one. -/
def transported (metadata : MediaFrameMeta) : Option MediaInfo :=
  let timing := metadata.timing
  metadata.mediaInfo.or
    (if timing.pts.isSome || timing.dts.isSome || timing.timeBase.isSome then
      some ⟨timing, .encoded unknownEncoded⟩
    else none)

def mediaFrameToGraphPacket (frame : MediaFrame) :
    Except MediaError (Packet (StoredTensor Q) R MediaInfo) :=
  if frame.isEndOfStream then .ok Packet.eos
  else
    match frame.metadata.normalize with
    | .error error => .error error
    | .ok metadata =>
        let desc := FullDesc.new ⟨frame.shape⟩ frame.dtype frame.format frame.device
        match StoredTensor.fromBuffer desc frame.buffer with
        | .error error => .error (.other error.toText)
        | .ok tensor =>
            .ok ((Packet.tensor tensor).withMeta
              ⟨0, metadata.streamId, metadata.tags, transported metadata⟩)

/-! ## Round trips -/

/-- The metadata that a packet gives to a frame. -/
def packetMeta (metadata : PacketMeta MediaInfo) : MediaFrameMeta :=
  match metadata.mediaInfo with
  | some info => .described metadata.streamId metadata.tags info
  | none => ⟨none, none, metadata.streamId, metadata.tags, none, none⟩

theorem packetMeta_normalize (metadata : PacketMeta MediaInfo) :
    (packetMeta metadata).normalize = .ok (packetMeta metadata) := by
  unfold packetMeta
  cases metadata.mediaInfo with
  | some info => exact MediaFrameMeta.normalize_described _ _ info
  | none => exact MediaFrameMeta.normalize_bare _ _

theorem graphPacketToMediaFrame_tensor (metadata : PacketMeta MediaInfo)
    (tensor : StoredTensor Q) :
    graphPacketToMediaFrame (⟨metadata, .tensor tensor⟩ : Packet (StoredTensor Q) R MediaInfo) =
      .ok { MediaFrame.fromTensor tensor with metadata := packetMeta metadata } := by
  unfold graphPacketToMediaFrame packetMeta
  cases info : metadata.mediaInfo with
  | some info => rfl
  | none => rfl

theorem packetMeta_transported (metadata : PacketMeta MediaInfo) :
    (⟨0, (packetMeta metadata).streamId, (packetMeta metadata).tags,
      transported (packetMeta metadata)⟩ : PacketMeta MediaInfo) =
        { metadata with sequence := 0 } := by
  unfold packetMeta
  cases info : metadata.mediaInfo with
  | some info => rfl
  | none => rfl

/-- With metadata from a packet, only the tensor can fail. -/
theorem mediaFrameToGraphPacket_eq_ok {frame : MediaFrame} {metadata : PacketMeta MediaInfo}
    {packet : Packet (StoredTensor Q) R MediaInfo} (isData : frame.kind ≠ .endOfStream)
    (isMeta : frame.metadata = packetMeta metadata) :
    mediaFrameToGraphPacket frame = .ok packet <->
      Exists fun tensor : StoredTensor Q =>
        (tensor.desc = .new ⟨frame.shape⟩ frame.dtype frame.format frame.device ∧
          tensor.buffer = frame.buffer) ∧
        ⟨{ metadata with sequence := 0 }, .tensor tensor⟩ = packet := by
  have isNotEnd : frame.isEndOfStream = false := decide_eq_false isData
  unfold mediaFrameToGraphPacket
  rw [isNotEnd, if_neg Bool.false_ne_true, isMeta, packetMeta_normalize]
  dsimp only
  rw [packetMeta_transported]
  constructor
  · intro result
    split at result
    · cases result
    · rename_i tensor made
      exact ⟨tensor, StoredTensor.fromBuffer_eq_ok.mp made, Except.ok.inj result⟩
  · rintro ⟨tensor, parts, rfl⟩
    rw [StoredTensor.fromBuffer_eq_ok.mpr parts]
    rfl

/-- The description that a frame leaves of one. -/
def FullDesc.bare (desc : FullDesc Q) : FullDesc Q :=
  .new desc.shape desc.dtype desc.format desc.device

theorem FullDesc.bare_eq_iff (desc : FullDesc Q) :
    desc.bare = desc <-> desc.name = none ∧ desc.strides = none ∧ desc.quant = .none := by
  rcases desc with ⟨⟨shape, strides, dtype, format, device⟩, name, quant⟩
  constructor
  · intro same
    cases same
    exact ⟨rfl, rfl, rfl⟩
  · rintro ⟨isName, isStrides, isQuant⟩
    cases isName
    cases isStrides
    cases isQuant
    rfl

/-- A tensor packet comes back with its bytes, its description and its metadata
if and only if the description has no name, no strides and no quantization. -/
theorem packet_round_trip_iff (metadata : PacketMeta MediaInfo) (tensor : StoredTensor Q) :
    (Exists fun frame => Exists fun back : PacketMeta MediaInfo =>
      Exists fun returned : StoredTensor Q =>
        graphPacketToMediaFrame (⟨metadata, .tensor tensor⟩ : Packet _ R _) = .ok frame ∧
        mediaFrameToGraphPacket frame = .ok (⟨back, .tensor returned⟩ : Packet _ R _) ∧
        returned.buffer = tensor.buffer ∧ returned.desc = tensor.desc ∧
        back.streamId = metadata.streamId ∧ back.tags = metadata.tags ∧
        back.mediaInfo = metadata.mediaInfo) <->
      tensor.desc.name = none ∧ tensor.desc.strides = none ∧ tensor.desc.quant = .none := by
  rw [← FullDesc.bare_eq_iff, graphPacketToMediaFrame_tensor]
  have spec : forall packet : Packet (StoredTensor Q) R MediaInfo,
      mediaFrameToGraphPacket
          { MediaFrame.fromTensor tensor with metadata := packetMeta metadata } = .ok packet <->
        Exists fun returned : StoredTensor Q =>
          (returned.desc = tensor.desc.bare ∧ returned.buffer = tensor.buffer) ∧
          ⟨{ metadata with sequence := 0 }, .tensor returned⟩ = packet :=
    fun packet => mediaFrameToGraphPacket_eq_ok nofun rfl
  constructor
  · rintro ⟨frame, back, returned, isFrame, result, -, sameDesc, -⟩
    cases isFrame
    rcases (spec _).mp result with ⟨made, ⟨isBare, -⟩, isPacket⟩
    cases isPacket
    exact isBare.symm.trans sameDesc
  · intro bare
    exact ⟨_, { metadata with sequence := 0 }, tensor, rfl,
      (spec _).mpr ⟨tensor, ⟨bare.symm, rfl⟩, rfl⟩, rfl, rfl, rfl, rfl, rfl⟩

/-- Two rows of two bytes, four bytes apart. -/
def paddedTensor : StoredTensor Nat where
  desc := { TensorDesc.new ⟨[2, 2]⟩ u8 .auto .cpu with
    strides := some ⟨[4, 1]⟩, name := none, quant := .none }
  buffer := .ofHost .cpu ⟨6, 1⟩ [1, 2, 0, 0, 3, 4] rfl
  sized := by decide
  onDevice := rfl

theorem paddedTensor_fails :
    Exists fun frame =>
      graphPacketToMediaFrame (Packet.tensor paddedTensor : Packet _ Unit _) = .ok frame ∧
      mediaFrameToGraphPacket frame = (.error (.other
        "tensor error: buffer size does not match tensor descriptor") :
          Except _ (Packet (StoredTensor Nat) Unit _)) :=
  ⟨_, rfl, rfl⟩

end Media
end DyunGu
