import DyunGu.Core.MediaInfo
import DyunGu.Media.AsyncPump

namespace DyunGu
namespace Media

open DyunGu.Core

/-!
# The metadata of a media frame

A frame carries its media description twice: as `mediaInfo`, and as the older
`streamMetadata` with timestamps beside it.  Normalizing fills in the one that
is missing and refuses two that contradict each other.
-/

inductive MediaStreamKind where
  | video
  | audio
  | data
  | subtitle
deriving DecidableEq, Repr

inductive MediaStreamCodec where
  | h264
  | h265
  | h266
  | av1
  | vp8
  | vp9
  | mjpeg
  | aac
  | adpcm
  | opus
  | g711a
  | g711u
  | mp2
  | mp3
  | unknown
deriving DecidableEq, Repr

inductive MediaStreamFormat where
  | canonicalH26x
  | canonicalAv1Obu
  | canonicalVp8Frame
  | canonicalVp9Frame
  | mjpegFrame
  | aacRaw
  | adpcmPacket
  | opusPacket
  | g711Packet
  | mp2Frame
  | mp3Frame
  | dataPacket
  | unknown
deriving DecidableEq, Repr

structure MediaStreamTimebase where
  num : UInt32
  den : UInt32
deriving DecidableEq, Repr

structure MediaStreamMetadata where
  trackId : UInt64
  mediaKind : MediaStreamKind
  codec : MediaStreamCodec
  format : MediaStreamFormat
  timebase : MediaStreamTimebase
  keyframe : Bool
deriving DecidableEq, Repr

def streamKindToMedia : MediaStreamKind -> MediaKind
  | .video => .video
  | .audio => .audio
  | .data => .data
  | .subtitle => .subtitle

def streamCodecToMedia : MediaStreamCodec -> MediaCodec
  | .h264 => .h264
  | .h265 => .h265
  | .h266 => .h266
  | .av1 => .av1
  | .vp8 => .vp8
  | .vp9 => .vp9
  | .mjpeg => .mjpeg
  | .aac => .aac
  | .adpcm => .adpcm
  | .opus => .opus
  | .g711a => .g711a
  | .g711u => .g711u
  | .mp2 => .mp2
  | .mp3 => .mp3
  | .unknown => .unknown

def streamFormatToBitstream : MediaStreamFormat -> BitstreamFormat
  | .canonicalH26x => .h264AnnexB
  | .canonicalAv1Obu => .av1Obu
  | .canonicalVp8Frame => .vp8Frame
  | .canonicalVp9Frame => .vp9Frame
  | .mjpegFrame => .jpegInterchange
  | .aacRaw => .aacRaw
  | .adpcmPacket | .opusPacket | .g711Packet | .mp2Frame | .mp3Frame | .dataPacket | .unknown =>
      .unknown

def MediaStreamMetadata.base (legacy : MediaStreamMetadata) : MediaTimeBase :=
  ⟨legacy.timebase.num, legacy.timebase.den⟩

def infoError (error : MediaInfoError) : MediaError := .other error.toText

def mediaInfoFromStreamMetadata (legacy : MediaStreamMetadata) (timing : MediaTiming) :
    Except MediaError MediaInfo :=
  (MediaInfo.encoded
    { streamIndex := 0
      trackId := some legacy.trackId
      mediaKind := streamKindToMedia legacy.mediaKind
      codec := streamCodecToMedia legacy.codec
      bitstreamFormat := streamFormatToBitstream legacy.format
      flags := ⟨legacy.keyframe, false, false⟩
      codecConfigs := [] } timing).mapError infoError

def mediaCodecToStream : MediaCodec -> MediaStreamCodec
  | .h264 => .h264
  | .h265 => .h265
  | .h266 => .h266
  | .av1 => .av1
  | .vp8 => .vp8
  | .vp9 => .vp9
  | .mjpeg => .mjpeg
  | .aac => .aac
  | .adpcm => .adpcm
  | .opus => .opus
  | .g711a => .g711a
  | .g711u => .g711u
  | .mp2 => .mp2
  | .mp3 => .mp3
  | .jpeg | .unknown => .unknown

def bitstreamToStreamFormat : BitstreamFormat -> MediaStreamFormat
  | .h264AnnexB | .h265AnnexB => .canonicalH26x
  | .av1Obu => .canonicalAv1Obu
  | .vp8Frame => .canonicalVp8Frame
  | .vp9Frame => .canonicalVp9Frame
  | .jpegInterchange => .mjpegFrame
  | .aacRaw | .aacAdts => .aacRaw
  | .h264Avcc | .h265Hvcc | .unknown => .unknown

def mediaKindToStream : MediaKind -> MediaStreamKind
  | .video | .unknown => .video
  | .audio => .audio
  | .data => .data
  | .subtitle => .subtitle

def legacyFromMediaInfo (info : MediaInfo) : Option MediaStreamMetadata :=
  match info.payload with
  | .image _ => none
  | .encoded encoded =>
      let timebase := info.timing.timeBase.getD ⟨1, 1⟩
      some
        { trackId := encoded.trackId.getD 0
          mediaKind := mediaKindToStream encoded.mediaKind
          codec := mediaCodecToStream encoded.codec
          format := bitstreamToStreamFormat encoded.bitstreamFormat
          timebase := ⟨timebase.num, timebase.den⟩
          keyframe := encoded.flags.key }

/-- The names that a message gives. -/
def MediaStreamCodec.name : MediaStreamCodec -> String
  | .h264 => "H264"
  | .h265 => "H265"
  | .h266 => "H266"
  | .av1 => "AV1"
  | .vp8 => "VP8"
  | .vp9 => "VP9"
  | .mjpeg => "MJPEG"
  | .aac => "AAC"
  | .adpcm => "ADPCM"
  | .opus => "Opus"
  | .g711a => "G711A"
  | .g711u => "G711U"
  | .mp2 => "MP2"
  | .mp3 => "MP3"
  | .unknown => "Unknown"

def mediaCodecName : MediaCodec -> String
  | .jpeg => "Jpeg"
  | codec => (mediaCodecToStream codec).name

def legacyConflictsWithMediaInfo (legacy : MediaStreamMetadata) (info : MediaInfo) :
    Except MediaError Unit :=
  match info.payload with
  | .image _ => .ok ()
  | .encoded encoded => do
      match encoded.trackId with
      | none => pure ()
      | some trackId =>
          if trackId ≠ legacy.trackId then
            throw (.media (s!"stream_metadata track_id {legacy.trackId} conflicts with " ++
              s!"media_info track_id {trackId}"))
      if streamCodecToMedia legacy.codec ≠ encoded.codec ∧ legacy.codec ≠ .unknown then
        throw (.media (s!"stream_metadata codec {legacy.codec.name} conflicts with " ++
          s!"media_info codec {mediaCodecName encoded.codec}"))
      if legacy.keyframe ≠ encoded.flags.key then
        throw (.media "stream_metadata keyframe conflicts with media_info flags.key")
      match info.timing.timeBase with
      | none => pure ()
      | some base =>
          if legacy.timebase.num ≠ base.num ∨ legacy.timebase.den ≠ base.den then
            throw (.media (s!"stream_metadata timebase {legacy.timebase.num}/" ++
              s!"{legacy.timebase.den} conflicts with media_info {base.num}/{base.den}"))

/-- The older metadata made from a description never contradicts it. -/
theorem legacyFromMediaInfo_agrees {info : MediaInfo} {legacy : MediaStreamMetadata}
    (made : legacyFromMediaInfo info = some legacy) :
    legacyConflictsWithMediaInfo legacy info = .ok () := by
  unfold legacyFromMediaInfo at made
  unfold legacyConflictsWithMediaInfo
  cases payload : info.payload with
  | image image => rfl
  | encoded encoded =>
      rw [payload] at made
      cases made
      have codec : ¬ (streamCodecToMedia (mediaCodecToStream encoded.codec) ≠ encoded.codec ∧
          mediaCodecToStream encoded.codec ≠ .unknown) := by
        cases encoded.codec with
        | _ => decide
      -- each check compares what is there with itself, or finds nothing
      rcases trackId : encoded.trackId with _ | name
      all_goals
        rcases base : info.timing.timeBase with _ | base
        all_goals
          simp [codec, trackId]
          rfl

structure MediaFrameMeta where
  pts : Option Int64
  dts : Option Int64
  streamId : Option String
  tags : List (String × String)
  mediaInfo : Option MediaInfo
  streamMetadata : Option MediaStreamMetadata
deriving DecidableEq, Repr

def MediaFrameMeta.empty : MediaFrameMeta := ⟨none, none, none, [], none, none⟩

/-- What is known of timestamps that came without a description. -/
def unknownEncoded : EncodedMediaInfo where
  streamIndex := 0
  trackId := none
  mediaKind := .unknown
  codec := .unknown
  bitstreamFormat := .unknown
  flags := .none
  codecConfigs := []

namespace MediaFrameMeta

def timingFromTop (metadata : MediaFrameMeta) : MediaTiming :=
  ⟨metadata.pts, metadata.dts, metadata.streamMetadata.map MediaStreamMetadata.base⟩

/-- The two descriptions, each made from the other where it is missing. -/
def reconcile (metadata : MediaFrameMeta) : Except MediaError MediaFrameMeta :=
  match metadata.mediaInfo, metadata.streamMetadata with
  | none, some legacy => do
      let info <- mediaInfoFromStreamMetadata legacy metadata.timingFromTop
      return { metadata with mediaInfo := some info }
  | some info, none => .ok { metadata with streamMetadata := legacyFromMediaInfo info }
  | some info, some legacy => do
      legacyConflictsWithMediaInfo legacy info
      return metadata
  | none, none =>
      if metadata.pts.isSome || metadata.dts.isSome then
        .ok { metadata with mediaInfo := some ⟨metadata.timingFromTop, .encoded unknownEncoded⟩ }
      else .ok metadata

/-- `normalize_media_frame_meta`: the timestamps follow the description. -/
def normalize (metadata : MediaFrameMeta) : Except MediaError MediaFrameMeta := do
  let metadata <- metadata.reconcile
  match metadata.mediaInfo with
  | some info => return { metadata with pts := info.timing.pts, dts := info.timing.dts }
  | none => return metadata

/-- `media_frame_timing`. -/
def timing (metadata : MediaFrameMeta) : MediaTiming :=
  match metadata.mediaInfo with
  | some info => info.timing
  | none => metadata.timingFromTop

/-- The metadata that a packet gives to a frame. -/
def described (streamId : Option String) (tags : List (String × String))
    (info : MediaInfo) : MediaFrameMeta :=
  ⟨info.timing.pts, info.timing.dts, streamId, tags, some info, legacyFromMediaInfo info⟩

/-- What was normalized is so already. -/
theorem normalize_described (streamId : Option String) (tags : List (String × String))
    (info : MediaInfo) :
    (described streamId tags info).normalize = .ok (described streamId tags info) := by
  unfold normalize reconcile described
  cases legacy : legacyFromMediaInfo info with
  | none =>
      dsimp only
      rw [legacy]
      rfl
  | some made =>
      dsimp only
      rw [legacyFromMediaInfo_agrees legacy]
      rfl

/-- Nothing is made from nothing. -/
theorem normalize_bare (streamId : Option String) (tags : List (String × String)) :
    normalize ⟨none, none, streamId, tags, none, none⟩ =
      .ok ⟨none, none, streamId, tags, none, none⟩ :=
  rfl

end MediaFrameMeta
end Media
end DyunGu
