import DyunGu.Media.Bridge
import DyunGu.Media.MediaElement
import DyunGu.Stream.Error
import DyunGu.Stream.Queue
import DyunGu.Stream.Track
import DyunGu.Core.Resource
import Std.Data.TreeMap

namespace DyunGu
namespace Stream

open Core Media
open DyunGu.Graph (Packet PacketMeta)

variable {Q R : Type}

/-!
# Relaying a stream through the graph

A frame of the streaming SDK becomes a frame of the media elements, the pull
element makes a packet of it with what the announced track says, the push
element makes a frame of the packet again, and that becomes a frame of the SDK.
On the way a frame is refused where its description contradicts the track, and
what the description cannot say is lost.
-/

/-- A frame of the SDK, with its flags other than the one of keyframes apart. -/
structure AvFrame where
  trackId : UInt32
  mediaKind : MediaStreamKind
  codec : MediaStreamCodec
  format : MediaStreamFormat
  pts : Int64
  dts : Int64
  timebase : MediaStreamTimebase
  payload : List UInt8
  keyframe : Bool
  otherFlags : UInt32
deriving DecidableEq, Repr

abbrev Tracks := Std.TreeMap UInt64 TrackInfo

/-! ## From the SDK -/

def checkFrameBytes (policy : ResourcePolicy) (bytes : Nat) : Except Core.Error Unit :=
  if policy.maxFrameBytes < bytes then
    .error (.config s!"frame bytes {bytes} exceeds limit {policy.maxFrameBytes}")
  else .ok ()

def cheetahFrameMetadata (frame : AvFrame) : MediaStreamMetadata where
  trackId := frame.trackId.toUInt64
  mediaKind := frame.mediaKind
  codec := frame.codec
  format := frame.format
  timebase := frame.timebase
  keyframe := frame.keyframe

def frameBitstreamFormat (codec : MediaStreamCodec) : MediaStreamFormat -> BitstreamFormat
  | .canonicalH26x =>
      match codec with
      | .h265 | .h266 => .h265AnnexB
      | _ => .h264AnnexB
  | .canonicalAv1Obu => .av1Obu
  | .canonicalVp8Frame => .vp8Frame
  | .canonicalVp9Frame => .vp9Frame
  | .mjpegFrame => .jpegInterchange
  | .aacRaw => .aacRaw
  | .adpcmPacket | .opusPacket | .g711Packet | .mp2Frame | .mp3Frame | .dataPacket | .unknown =>
      .unknown

def cheetahEncodedInfo (frame : AvFrame) : EncodedMediaInfo where
  streamIndex := frame.trackId
  trackId := some frame.trackId.toUInt64
  mediaKind := streamKindToMedia frame.mediaKind
  codec := streamCodecToMedia frame.codec
  bitstreamFormat := frameBitstreamFormat frame.codec frame.format
  flags := ⟨frame.keyframe, false, false⟩
  codecConfigs := []

/-- An error of the core crate among those of streams. -/
def mediaError (error : MediaError) : Error := .buffer error.toText

/-- The metadata of a frame before it is normalized. -/
def cheetahMeta (frame : AvFrame) (info : MediaInfo) : MediaFrameMeta where
  pts := some frame.pts
  dts := some frame.dts
  streamId := some (toString frame.trackId)
  tags := []
  mediaInfo := some info
  streamMetadata := some (cheetahFrameMetadata frame)

theorem hostPayload_sized (payload : List UInt8) :
    payload.length = (⟨payload.length, 1⟩ : BufferDesc).sizeBytes := rfl

/-- A copy of the payload in host memory. -/
def hostPayload (payload : List UInt8) : StoredBuffer :=
  .ofHost .cpu ⟨payload.length, 1⟩ payload (hostPayload_sized payload)

/-- `room` says whether there is memory for so many bytes. -/
def cheetahAvframeToMediaFrame (policy : ResourcePolicy) (room : Nat -> Bool)
    (frame : AvFrame) : Except Error Media.MediaFrame :=
  if frame.timebase.den = 0 then
    .error (.invalidArgument "stream frame has zero timebase denominator")
  else
    match checkFrameBytes policy frame.payload.length with
    | .error error => .error (.invalidArgument error.toText)
    | .ok () =>
        if room frame.payload.length then
          match MediaInfo.encoded (cheetahEncodedInfo frame)
              ⟨some frame.pts, some frame.dts, some ⟨frame.timebase.num, frame.timebase.den⟩⟩ with
          | .error error => .error (.buffer error.toText)
          | .ok info =>
              match (cheetahMeta frame info).normalize with
              | .error error => .error (mediaError error)
              | .ok metadata =>
                  .ok
                    { kind := .tensor
                      dtype := u8
                      format := .auto
                      shape := []
                      device := .cpu
                      domain := .host
                      buffer := hostPayload frame.payload
                      metadata := metadata }
        else
          .error (.runtime (s!"stream bridge payload allocation failed for " ++
            s!"{frame.payload.length} bytes"))

/-! ## Into the graph -/

/-- `str::parse` of a number that is at most `most`, where a number that is not
negative may have a sign. -/
def parseDigits (most : Nat) (digits : List Char) : Option Nat :=
  if digits.isEmpty || digits.any (fun c => !c.isDigit) then none
  else
    let value := digits.foldl (fun value c => value * 10 + (c.toNat - '0'.toNat)) 0
    if value <= most then some value else none

def parseU64 (text : String) : Option UInt64 :=
  let digits := match text.toList with
    | '+' :: rest => rest
    | all => all
  (parseDigits (UInt64.size - 1) digits).map UInt64.ofNat

def parseI64 (text : String) : Option Int64 :=
  match text.toList with
  | '-' :: rest => (parseDigits (2 ^ 63) rest).map fun value => Int64.ofInt (-(value : Int))
  | '+' :: rest => (parseDigits (2 ^ 63 - 1) rest).map fun value => Int64.ofInt value
  | all => (parseDigits (2 ^ 63 - 1) all).map fun value => Int64.ofInt value

def lookup (tags : List (String × String)) (key : String) : Option String :=
  (tags.find? fun entry => decide (entry.1 = key)).map Prod.snd

def ptsTag : String := "pts"

def dtsTag : String := "dts"

/-- The tag of a frame says that it is a keyframe. -/
def taggedKeyframe (tags : List (String × String)) : Bool :=
  decide (lookup tags keyframeTag = some "true")

def infoKeyframe (info : MediaInfo) : Bool :=
  match info.payload with
  | .encoded encoded => encoded.flags.key
  | .image image => image.flags.key

def resolveFrameTrackId (metadata : MediaFrameMeta) : Except Graph.Error UInt64 :=
  let described := metadata.mediaInfo.bind fun info =>
    match info.payload with
    | .encoded encoded => encoded.trackId
    | .image _ => none
  match described with
  | some trackId => .ok trackId
  | none =>
      match metadata.streamMetadata with
      | some legacy => .ok legacy.trackId
      | none =>
          match metadata.streamId with
          | some streamId =>
              match parseU64 streamId with
              | some trackId => .ok trackId
              | none =>
                  .error (.runtime
                    ("stream frame stream_id `" ++ streamId ++ "` is not a valid track id"))
          | none =>
              .error (.runtime ("stream frame has no track_id in media_info, stream_metadata, " ++
                "or stream_id"))

/-- The track of a frame; the only track is that of a frame that names none. -/
def frameTrackId (tracks : Tracks) (metadata : MediaFrameMeta) : Except Graph.Error UInt64 :=
  match resolveFrameTrackId metadata with
  | .ok trackId => .ok trackId
  | .error error =>
      match tracks.keys with
      | [only] => .ok only
      | _ => .error error

/-- The description that a track gives to a frame. -/
def trackEncodedInfo (track : TrackInfo) (trackId : UInt64) (key : Bool)
    (configs : List MediaCodecConfig) : EncodedMediaInfo where
  streamIndex := trackId.toUInt32
  trackId := some trackId
  mediaKind := streamKindToMedia track.mediaKind
  codec := streamCodecToMedia track.codec
  bitstreamFormat := trackBitstreamFormat track.codec
  flags := ⟨key, false, false⟩
  codecConfigs := configs

def checkExisting (encoded : EncodedMediaInfo) (trackId : UInt64) :
    Option MediaInfo -> Except Graph.Error Unit
  | some ⟨_, .encoded existing⟩ => do
      if existing.codec ≠ .unknown ∧ existing.codec ≠ encoded.codec then
        throw (.runtime (s!"frame media_info codec {mediaCodecName existing.codec} conflicts " ++
          s!"with track codec {mediaCodecName encoded.codec}"))
      match existing.trackId with
      | some existingTrack =>
          if existingTrack ≠ trackId then
            throw (.runtime (s!"frame media_info track_id {existingTrack} conflicts with " ++
              s!"resolved track_id {trackId}"))
      | none => pure ()
  | _ => .ok ()

/-- A frame keeps its timestamps, in the clock of its track. -/
def trackTiming (metadata : MediaFrameMeta) (track : TrackInfo) : MediaTiming where
  pts := metadata.pts.or (metadata.mediaInfo.bind fun info => info.timing.pts)
  dts := metadata.dts.or (metadata.mediaInfo.bind fun info => info.timing.dts)
  timeBase := some ⟨1, track.clockRate⟩

def frameKey (metadata : MediaFrameMeta) : Bool :=
  ((metadata.mediaInfo.map infoKeyframe).or
    (metadata.streamMetadata.map MediaStreamMetadata.keyframe)).getD
      (taggedKeyframe metadata.tags)

/-- The description of the frame is replaced by that of its track. -/
def describeByTrack (room : Nat -> Bool) (metadata : MediaFrameMeta) (trackId : UInt64)
    (track : TrackInfo) : Except Graph.Error MediaFrameMeta :=
  if track.clockRate = 0 then
    .error (.runtime s!"announced track {trackId} has invalid zero clock_rate")
  else
    match trackCodecConfigs room track with
    | .error error =>
        .error (.runtime s!"track {trackId} codec config build failed: {error.toText}")
    | .ok configs =>
        if UInt32.size <= trackId.toNat then
          .error (.runtime s!"track_id {trackId} exceeds u32 stream_index")
        else
          let timing := trackTiming metadata track
          let encoded := trackEncodedInfo track trackId (frameKey metadata) configs
          match checkExisting encoded trackId metadata.mediaInfo with
          | .error error => .error error
          | .ok () =>
              match MediaInfo.encoded encoded timing with
              | .error error =>
                  .error (.runtime
                    s!"invalid media_info constructed from track: {error.toText}")
              | .ok info =>
                  .ok { metadata with
                    mediaInfo := some info, pts := timing.pts, dts := timing.dts }

def enrichFrameMediaInfoFromTracks (tracks : Tracks) (room : Nat -> Bool)
    (metadata : MediaFrameMeta) : Except Graph.Error MediaFrameMeta :=
  if tracks.isEmpty then .ok metadata
  else
    match frameTrackId tracks metadata with
    | .error error => .error error
    | .ok trackId =>
        match tracks[trackId]? with
        | none =>
            .error (.runtime s!"frame track_id {trackId} is not in announced TrackInfo set")
        | some track => describeByTrack room metadata trackId track

def normalizationError (error : MediaError) : Graph.Error :=
  .runtime ("media frame metadata normalization failed: " ++ error.toText)

def mediaFrameToPacket (tracks : Tracks) (room : Nat -> Bool) (sequence : Nat)
    (frame : Media.MediaFrame) : Except Graph.Error (Packet (StoredTensor Q) R MediaInfo) := do
  let shape := if frame.shape.isEmpty then [frame.buffer.len] else frame.shape
  let enriched <- enrichFrameMediaInfoFromTracks tracks room frame.metadata
  let metadata <- enriched.normalize.mapError normalizationError
  let tensor <- (StoredTensor.fromBuffer
    (FullDesc.new ⟨shape⟩ frame.dtype frame.format frame.device) frame.buffer).mapError
      fun error => Graph.Error.core error.toText
  return (Packet.tensor tensor).withMeta
    ⟨sequence, metadata.streamId, metadata.tags, metadata.mediaInfo⟩

/-! ## Out of the graph -/

/-- Whether the description is one of decoded pixels. -/
def isImage : Option MediaInfo -> Bool
  | some ⟨_, .image _⟩ => true
  | _ => false

def packetToMediaFrame (packet : Packet (StoredTensor Q) R MediaInfo) :
    Except Graph.Error Media.MediaFrame :=
  match packet.tensorRef with
  | none => .error (.runtime "expected tensor payload")
  | some tensor => do
      let given := packet.metadata
      let frame := Media.MediaFrame.fromTensor tensor
      let kind :=
        if lookup given.tags mediaTag = some "video" ∧ isImage given.mediaInfo = true then
          MediaFrameKind.image
        else frame.kind
      let taken : MediaFrameMeta :=
        { frame.metadata with
          streamId := given.streamId, tags := given.tags, mediaInfo := given.mediaInfo }
      let timed : MediaFrameMeta :=
        if taken.mediaInfo.isNone then
          { taken with
            pts := (lookup given.tags ptsTag).bind parseI64
            dts := (lookup given.tags dtsTag).bind parseI64 }
        else taken
      let metadata <- timed.normalize.mapError normalizationError
      return { frame with kind := kind, metadata := metadata }

/-! ## Back to the SDK -/

def streamMetadataFromMediaInfo (info : MediaInfo) : Except Error MediaStreamMetadata :=
  match info.payload with
  | .image _ => .error (.invalidArgument "cheetah push requires encoded media_info payload")
  | .encoded encoded =>
      let timebase := info.timing.timeBase.getD ⟨1, 1⟩
      .ok
        { trackId := encoded.trackId.getD encoded.streamIndex.toUInt64
          mediaKind := mediaKindToStream encoded.mediaKind
          codec := mediaCodecToStream encoded.codec
          format := bitstreamToStreamFormat encoded.bitstreamFormat
          timebase := ⟨timebase.num, timebase.den⟩
          keyframe := encoded.flags.key }

def canonicalFormat : MediaStreamCodec -> MediaStreamFormat
  | .h264 | .h265 | .h266 => .canonicalH26x
  | .av1 => .canonicalAv1Obu
  | .vp8 => .canonicalVp8Frame
  | .vp9 => .canonicalVp9Frame
  | .mjpeg => .mjpegFrame
  | .aac => .aacRaw
  | .adpcm => .adpcmPacket
  | .opus => .opusPacket
  | .g711a | .g711u => .g711Packet
  | .mp2 => .mp2Frame
  | .mp3 => .mp3Frame
  | .unknown => .unknown

/-- What is known of a frame without description, from the announced tracks. -/
def announcedMetadata (cached : Tracks) (metadata : MediaFrameMeta) :
    Except Error MediaStreamMetadata :=
  match metadata.streamId with
  | none =>
      .error (.invalidArgument
        "stream frame has no media_info, stream_metadata, or stream_id track id")
  | some streamId =>
      match parseU64 streamId with
      | none => .error (.invalidArgument "stream frame stream_id is not a valid track id")
      | some trackId =>
          match cached[trackId]? with
          | none =>
              .error (.invalidArgument
                s!"no announced cheetah track metadata for track id {trackId}")
          | some track =>
              if track.clockRate = 0 then
                .error (.invalidArgument
                  s!"announced cheetah track {trackId} has an invalid zero clock rate")
              else
                .ok ⟨trackId, track.mediaKind, track.codec, canonicalFormat track.codec,
                  ⟨1, track.clockRate⟩, taggedKeyframe metadata.tags⟩

def pushMetadata (cached : Tracks) (metadata : MediaFrameMeta) :
    Except Error MediaStreamMetadata :=
  match metadata.mediaInfo with
  | some info => streamMetadataFromMediaInfo info
  | none =>
      match metadata.streamMetadata with
      | some legacy => .ok legacy
      | none => announcedMetadata cached metadata

def mediaFrameToCheetahAvframe (policy : ResourcePolicy) (room : Nat -> Bool)
    (frame : Media.MediaFrame) (metadata : MediaStreamMetadata) : Except Error AvFrame :=
  match checkFrameBytes policy frame.buffer.len with
  | .error error => .error (.invalidArgument error.toText)
  | .ok () =>
      match readBytes room frame with
      | .error error => .error (mediaError error)
      | .ok payload =>
          if UInt32.size <= metadata.trackId.toNat then
            .error (.invalidArgument
              s!"stream metadata track id {metadata.trackId} exceeds cheetah TrackId range")
          else
            .ok
              { trackId := metadata.trackId.toUInt32
                mediaKind := metadata.mediaKind
                codec := metadata.codec
                format := metadata.format
                pts := frame.metadata.pts.getD 0
                dts := frame.metadata.dts.getD 0
                timebase := metadata.timebase
                payload := payload
                keyframe := metadata.keyframe
                otherFlags := 0 }

/-- What the publisher is given for a frame. -/
def pushFrame (cached : Tracks) (policy : ResourcePolicy) (room : Nat -> Bool)
    (frame : Media.MediaFrame) : Except Error AvFrame := do
  let metadata <- pushMetadata cached frame.metadata
  mediaFrameToCheetahAvframe policy room frame metadata

end Stream
end DyunGu
