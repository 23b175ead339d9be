import DyunGu.Stream.Relay

namespace DyunGu
namespace Stream

open Core Media
open DyunGu.Graph (Packet PacketMeta)

variable {Q R : Type}

/-!
# What a relay keeps of a frame

A relayed frame comes back with its track, its timestamps, its time base and its
payload.  Kind and codec are those of the announced track, and of the format
only what a bitstream format can say is left.
-/

/-- The announced tracks on both sides, and the limits on the way. -/
structure Route where
  tracks : Tracks
  cached : Tracks
  pullPolicy : ResourcePolicy
  nodePolicy : ResourcePolicy
  pushPolicy : ResourcePolicy
  room : Nat -> Bool

/-- Tags are in the order of their keys. -/
def insertTag (tags : List (String × String)) (key value : String) : List (String × String) :=
  let others := tags.filter fun entry => decide (entry.1 ≠ key)
  others.takeWhile (fun entry => decide (entry.1 < key)) ++
    (key, value) :: others.dropWhile fun entry => decide (entry.1 < key)

/-- The first frame after a reconnection is marked. -/
def markResumed (resumed : Bool) (packet : Packet (StoredTensor Q) R MediaInfo) :
    Packet (StoredTensor Q) R MediaInfo :=
  if resumed then
    { packet with metadata := { packet.metadata with
        tags := insertTag packet.metadata.tags "discontinuity" "true" } }
  else packet

/-- From the source of a stream to the sink of another. -/
def relay (Q R : Type) (route : Route) (sequence : Nat) (resumed : Bool) (frame : AvFrame) :
    Option AvFrame := do
  let pulled <- (cheetahAvframeToMediaFrame route.pullPolicy route.room frame).toOption
  if route.nodePolicy.maxFrameBytes < pulled.buffer.len then none
  else
    let packet : Packet (StoredTensor Q) R MediaInfo <-
      (mediaFrameToPacket route.tracks route.room sequence pulled).toOption
    let back <- (packetToMediaFrame (markResumed resumed packet)).toOption
    (pushFrame route.cached route.pushPolicy route.room back).toOption

/-! ## The conditions -/

/-- The frame can be described, and no limit on the way is smaller. -/
structure Relayable (route : Route) (frame : AvFrame) : Prop where
  base : frame.timebase.den ≠ 0
  known : frameBitstreamFormat frame.codec frame.format = .unknown -> frame.codec = .unknown
  room : route.room frame.payload.length = true
  bits : 8 * frame.payload.length <= usizeMax
  pulls : frame.payload.length <= route.pullPolicy.maxFrameBytes
  passes : frame.payload.length <= route.nodePolicy.maxFrameBytes
  pushes : frame.payload.length <= route.pushPolicy.maxFrameBytes

/-- Kind, codec and bitstream format that the announced tracks make of those of
a frame.  A track whose codec has no bitstream format describes no frame. -/
inductive Described (route : Route) (frame : AvFrame) :
    MediaStreamKind -> MediaStreamCodec -> BitstreamFormat -> Prop where
  | unannounced (nothing : route.tracks.isEmpty = true) :
      Described route frame frame.mediaKind frame.codec
        (frameBitstreamFormat frame.codec frame.format)
  | announced {track : TrackInfo} {configs : List MediaCodecConfig}
      (found : route.tracks[frame.trackId.toUInt64]? = some track)
      (clock : track.clockRate ≠ 0) (base : frame.timebase = ⟨1, track.clockRate⟩)
      (made : trackCodecConfigs route.room track = .ok configs)
      (codec : frame.codec = .unknown ∨ frame.codec = track.codec)
      (known : trackBitstreamFormat track.codec = .unknown -> track.codec = .unknown) :
      Described route frame track.mediaKind track.codec (trackBitstreamFormat track.codec)

/-! ## Enumerations -/

@[simp] theorem mediaCodecToStream_stream (codec : MediaStreamCodec) :
    mediaCodecToStream (streamCodecToMedia codec) = codec := by
  cases codec <;> rfl

@[simp] theorem mediaKindToStream_stream (kind : MediaStreamKind) :
    mediaKindToStream (streamKindToMedia kind) = kind := by
  cases kind <;> rfl

theorem streamCodecToMedia_inj {first second : MediaStreamCodec} :
    streamCodecToMedia first = streamCodecToMedia second <-> first = second := by
  constructor
  · intro same
    rw [← mediaCodecToStream_stream first, same, mediaCodecToStream_stream]
  · exact fun same => same ▸ rfl

theorem streamCodecToMedia_unknown {codec : MediaStreamCodec} :
    streamCodecToMedia codec = .unknown <-> codec = .unknown :=
  @streamCodecToMedia_inj codec .unknown

/-! ## From the SDK -/

def frameTiming (frame : AvFrame) : MediaTiming :=
  ⟨some frame.pts, some frame.dts, some ⟨frame.timebase.num, frame.timebase.den⟩⟩

/-- A description with few enough blobs is accepted if its format and its codec
go together. -/
theorem encoded_eq_ok {info : EncodedMediaInfo} {timing : MediaTiming} {made : MediaInfo}
    (base : MediaTimeBase) (isBase : timing.timeBase = some base)
    (bounded : Bounded 2 info.codecConfigs) :
    MediaInfo.encoded info timing = .ok made <->
      base.den ≠ 0 ∧ (info.bitstreamFormat = .unknown -> info.codec = .unknown) ∧
        made = ⟨timing, .encoded info⟩ := by
  rcases configBytes_of_bounded bounded with ⟨few, total, isTotal⟩
  unfold MediaInfo.encoded MediaTiming.validate MediaTimeBase.validate EncodedMediaInfo.validate
  rw [isBase, isTotal]
  dsimp only
  by_cases zero : base.den = 0
  · rw [if_pos zero]
    constructor
    · intro impossible
      cases impossible
    · rintro ⟨nonzero, _⟩
      exact absurd zero nonzero
  · rw [if_neg zero, if_neg (Nat.not_lt.mpr few)]
    by_cases clash : info.bitstreamFormat = .unknown ∧ info.codec ≠ .unknown
    · rw [if_pos clash]
      constructor
      · intro impossible
        cases impossible
      · rintro ⟨_, known, _⟩
        exact absurd (known clash.1) clash.2
    · rw [if_neg clash]
      constructor
      · intro same
        cases same
        refine ⟨zero, fun format => ?_, rfl⟩
        by_contra codec
        exact clash ⟨format, codec⟩
      · rintro ⟨_, _, rfl⟩
        rfl

/-- The two descriptions of a frame of the SDK agree with a description that
names its track, a codec that its own does not contradict, its keyframe flag and
its time base, and with no other. -/
theorem conflicts_eq_ok {frame : AvFrame} {encoded : EncodedMediaInfo} {timing : MediaTiming}
    (base : MediaTimeBase) (track : encoded.trackId = some frame.trackId.toUInt64)
    (key : encoded.flags.key = frame.keyframe) (isBase : timing.timeBase = some base) :
    legacyConflictsWithMediaInfo (cheetahFrameMetadata frame) ⟨timing, .encoded encoded⟩ =
        .ok () <->
      (streamCodecToMedia frame.codec = encoded.codec ∨ frame.codec = .unknown) ∧
        frame.timebase = ⟨base.num, base.den⟩ := by
  unfold legacyConflictsWithMediaInfo cheetahFrameMetadata
  dsimp only
  rw [track, key, isBase]
  dsimp only
  rw [if_neg (not_not.mpr rfl)]
  by_cases codec : streamCodecToMedia frame.codec ≠ encoded.codec ∧ frame.codec ≠ .unknown
  · rw [if_pos codec]
    constructor
    · intro impossible
      cases impossible
    · rintro ⟨same | unknown, _⟩
      · exact absurd same codec.1
      · exact absurd unknown codec.2
  · rw [if_neg codec, if_neg (not_not.mpr rfl)]
    have agrees : streamCodecToMedia frame.codec = encoded.codec ∨ frame.codec = .unknown := by
      by_contra neither
      rw [not_or] at neither
      exact codec neither
    by_cases differs : frame.timebase.num ≠ base.num ∨ frame.timebase.den ≠ base.den
    · rw [if_pos differs]
      constructor
      · intro impossible
        cases impossible
      · rintro ⟨_, same⟩
        rw [same] at differs
        rcases differs with num | den
        · exact absurd rfl num
        · exact absurd rfl den
    · rw [if_neg differs]
      rw [not_or, not_not, not_not] at differs
      refine ⟨fun _ => ⟨agrees, ?_⟩, fun _ => rfl⟩
      rw [← differs.1, ← differs.2]

def pulledInfo (frame : AvFrame) : MediaInfo :=
  ⟨frameTiming frame, .encoded (cheetahEncodedInfo frame)⟩

def pulledFrame (frame : AvFrame) (metadata : MediaFrameMeta) : Media.MediaFrame where
  kind := .tensor
  dtype := u8
  format := .auto
  shape := []
  device := .cpu
  domain := .host
  buffer := hostPayload frame.payload
  metadata := metadata

/-- A description that agrees with the older metadata is the one that stays. -/
theorem normalize_eq_ok {frame : AvFrame} {info : MediaInfo} {metadata : MediaFrameMeta}
    (pts : info.timing.pts = some frame.pts) (dts : info.timing.dts = some frame.dts) :
    (cheetahMeta frame info).normalize = .ok metadata <->
      legacyConflictsWithMediaInfo (cheetahFrameMetadata frame) info = .ok () ∧
        metadata = cheetahMeta frame info := by
  unfold MediaFrameMeta.normalize MediaFrameMeta.reconcile
  cases agrees : legacyConflictsWithMediaInfo (cheetahFrameMetadata frame) info with
  | error error =>
      have fails : (do
          legacyConflictsWithMediaInfo (cheetahFrameMetadata frame) info
          return cheetahMeta frame info) = (Except.error error : Except MediaError _) := by
        rw [agrees]
        rfl
      constructor
      · intro impossible
        rw [cheetahMeta] at impossible
        dsimp only at impossible
        rw [agrees] at impossible
        cases impossible
      · rintro ⟨impossible, _⟩
        cases impossible
  | ok done =>
      rw [cheetahMeta]
      dsimp only
      rw [agrees]
      change Except.ok ({ cheetahMeta frame info with
        pts := info.timing.pts, dts := info.timing.dts } : MediaFrameMeta) = _ <-> _
      rw [pts, dts]
      constructor
      · intro same
        cases same
        exact ⟨rfl, rfl⟩
      · rintro ⟨_, rfl⟩
        rfl

theorem pulled_iff {policy : ResourcePolicy} {room : Nat -> Bool} {frame : AvFrame}
    {pulled : Media.MediaFrame} :
    cheetahAvframeToMediaFrame policy room frame = .ok pulled <->
      frame.timebase.den ≠ 0 ∧ frame.payload.length <= policy.maxFrameBytes ∧
        room frame.payload.length = true ∧
        (frameBitstreamFormat frame.codec frame.format = .unknown -> frame.codec = .unknown) ∧
        pulled = pulledFrame frame (cheetahMeta frame (pulledInfo frame)) := by
  have made : forall info : MediaInfo,
      MediaInfo.encoded (cheetahEncodedInfo frame) (frameTiming frame) = .ok info <->
        frame.timebase.den ≠ 0 ∧
          (frameBitstreamFormat frame.codec frame.format = .unknown -> frame.codec = .unknown) ∧
          info = pulledInfo frame := by
    intro info
    have none_ : Bounded 2 (cheetahEncodedInfo frame).codecConfigs :=
      ⟨Nat.zero_le 2, fun _ impossible => by cases impossible⟩
    have rule : MediaInfo.encoded (cheetahEncodedInfo frame) (frameTiming frame) = .ok info <->
        frame.timebase.den ≠ 0 ∧
          (frameBitstreamFormat frame.codec frame.format = .unknown ->
            streamCodecToMedia frame.codec = .unknown) ∧ info = pulledInfo frame :=
      encoded_eq_ok ⟨frame.timebase.num, frame.timebase.den⟩ rfl none_
    rw [rule, streamCodecToMedia_unknown]
  have normal : (cheetahMeta frame (pulledInfo frame)).normalize =
      .ok (cheetahMeta frame (pulledInfo frame)) :=
    (normalize_eq_ok rfl rfl).mpr
      ⟨(conflicts_eq_ok ⟨frame.timebase.num, frame.timebase.den⟩ rfl rfl rfl).mpr
        ⟨Or.inl rfl, rfl⟩, rfl⟩
  unfold cheetahAvframeToMediaFrame checkFrameBytes
  by_cases zero : frame.timebase.den = 0
  · rw [if_pos zero]
    exact ⟨fun impossible => (by cases impossible), fun both => absurd zero both.1⟩
  rw [if_neg zero]
  by_cases large : policy.maxFrameBytes < frame.payload.length
  · rw [if_pos large]
    exact ⟨fun impossible => (by cases impossible),
      fun both => absurd large (Nat.not_lt.mpr both.2.1)⟩
  rw [if_neg large]
  dsimp only
  cases space : room frame.payload.length with
  | false =>
      exact ⟨fun impossible => (by cases impossible), fun both => (by cases both.2.2.1)⟩
  | true =>
      rw [if_pos rfl]
      have timing : (⟨some frame.pts, some frame.dts,
          some ⟨frame.timebase.num, frame.timebase.den⟩⟩ : MediaTiming) = frameTiming frame := rfl
      rw [timing]
      cases described : MediaInfo.encoded (cheetahEncodedInfo frame) (frameTiming frame) with
      | error error =>
          constructor
          · intro impossible
            cases impossible
          · rintro ⟨_, _, _, known, _⟩
            have impossible := (made (pulledInfo frame)).mpr ⟨zero, known, rfl⟩
            rw [described] at impossible
            cases impossible
      | ok info =>
          rcases (made info).mp described with ⟨_, known, rfl⟩
          dsimp only
          rw [normal]
          constructor
          · intro same
            cases same
            exact ⟨zero, Nat.le_of_not_lt large, rfl, known, rfl⟩
          · rintro ⟨_, _, _, _, rfl⟩
            rfl

/-! ## The track of a frame -/

def trackedInfo (frame : AvFrame) (track : TrackInfo) (configs : List MediaCodecConfig) :
    MediaInfo :=
  ⟨⟨some frame.pts, some frame.dts, some ⟨1, track.clockRate⟩⟩,
    .encoded (trackEncodedInfo track frame.trackId.toUInt64 frame.keyframe configs)⟩

/-- What the tracks make of the description of a frame before it is compared
with the older metadata. -/
inductive Enriched (tracks : Tracks) (room : Nat -> Bool) (frame : AvFrame) : MediaInfo -> Prop
  where
  | unannounced (nothing : tracks.isEmpty = true) : Enriched tracks room frame (pulledInfo frame)
  | announced {track : TrackInfo} {configs : List MediaCodecConfig}
      (found : tracks[frame.trackId.toUInt64]? = some track) (clock : track.clockRate ≠ 0)
      (made : trackCodecConfigs room track = .ok configs)
      (codec : frame.codec = .unknown ∨ frame.codec = track.codec)
      (known : trackBitstreamFormat track.codec = .unknown -> track.codec = .unknown) :
      Enriched tracks room frame (trackedInfo frame track configs)

theorem checkExisting_eq_ok {frame : AvFrame} {track : TrackInfo} {key : Bool}
    {configs : List MediaCodecConfig} :
    checkExisting (trackEncodedInfo track frame.trackId.toUInt64 key configs)
        frame.trackId.toUInt64 (some (pulledInfo frame)) = .ok () <->
      frame.codec = .unknown ∨ frame.codec = track.codec := by
  rw [← @streamCodecToMedia_unknown frame.codec, ← @streamCodecToMedia_inj _ track.codec]
  unfold checkExisting pulledInfo cheetahEncodedInfo trackEncodedInfo
  dsimp only
  rw [if_neg (not_not.mpr (rfl : frame.trackId.toUInt64 = frame.trackId.toUInt64))]
  by_cases clash : streamCodecToMedia frame.codec ≠ .unknown ∧
      streamCodecToMedia frame.codec ≠ streamCodecToMedia track.codec
  · rw [if_pos clash]
    constructor
    · intro impossible
      cases impossible
    · rintro (unknown | same)
      · exact absurd unknown clash.1
      · exact absurd same clash.2
  · rw [if_neg clash]
    refine ⟨fun _ => ?_, fun _ => rfl⟩
    by_contra neither
    rw [not_or] at neither
    exact clash neither

theorem trackId_fits (frame : AvFrame) : ¬ UInt32.size <= frame.trackId.toUInt64.toNat := by
  rw [UInt32.toNat_toUInt64]
  exact Nat.not_le.mpr frame.trackId.toNat_lt

/-- A track describes a frame if it has a clock and blobs, and its codec has a
bitstream format and is not another than that of the frame. -/
theorem describeByTrack_eq_ok {room : Nat -> Bool} {frame : AvFrame} {track : TrackInfo}
    {metadata : MediaFrameMeta} :
    describeByTrack room (cheetahMeta frame (pulledInfo frame)) frame.trackId.toUInt64 track =
        .ok metadata <->
      track.clockRate ≠ 0 ∧ Exists fun configs => trackCodecConfigs room track = .ok configs ∧
        (frame.codec = .unknown ∨ frame.codec = track.codec) ∧
        (trackBitstreamFormat track.codec = .unknown -> track.codec = .unknown) ∧
        metadata = cheetahMeta frame (trackedInfo frame track configs) := by
  unfold describeByTrack
  by_cases zero : track.clockRate = 0
  · rw [if_pos zero]
    exact ⟨fun impossible => (by cases impossible), fun both => absurd zero both.1⟩
  rw [if_neg zero]
  cases made : trackCodecConfigs room track with
  | error error =>
      constructor
      · intro impossible
        cases impossible
      · rintro ⟨_, _, impossible, _⟩
        cases impossible
  | ok configs =>
      have described : forall info : MediaInfo,
          MediaInfo.encoded
              (trackEncodedInfo track frame.trackId.toUInt64 frame.keyframe configs)
              ⟨some frame.pts, some frame.dts, some ⟨1, track.clockRate⟩⟩ = .ok info <->
            track.clockRate ≠ 0 ∧
              (trackBitstreamFormat track.codec = .unknown ->
                streamCodecToMedia track.codec = .unknown) ∧
              info = trackedInfo frame track configs :=
        fun info => encoded_eq_ok ⟨1, track.clockRate⟩ rfl (trackCodecConfigs_bounded made)
      have isInfo : (cheetahMeta frame (pulledInfo frame)).mediaInfo = some (pulledInfo frame) :=
        rfl
      have key : frameKey (cheetahMeta frame (pulledInfo frame)) = frame.keyframe := rfl
      have timing : trackTiming (cheetahMeta frame (pulledInfo frame)) track =
          ⟨some frame.pts, some frame.dts, some ⟨1, track.clockRate⟩⟩ := rfl
      dsimp only
      rw [if_neg (trackId_fits frame), isInfo, key, timing]
      have existing := @checkExisting_eq_ok frame track frame.keyframe configs
      cases agrees : checkExisting
          (trackEncodedInfo track frame.trackId.toUInt64 frame.keyframe configs)
          frame.trackId.toUInt64 (some (pulledInfo frame)) with
      | error error =>
          rw [agrees] at existing
          constructor
          · intro impossible
            cases impossible
          · rintro ⟨_, _, _, codec, _⟩
            cases existing.mpr codec
      | ok done =>
          have codec := existing.mp agrees
          dsimp only
          cases isInfo : MediaInfo.encoded
              (trackEncodedInfo track frame.trackId.toUInt64 frame.keyframe configs)
              ⟨some frame.pts, some frame.dts, some ⟨1, track.clockRate⟩⟩ with
          | error error =>
              constructor
              · intro impossible
                cases impossible
              · rintro ⟨_, _, _, _, known, _⟩
                have impossible := (described (trackedInfo frame track configs)).mpr
                  ⟨zero, fun format => streamCodecToMedia_unknown.mpr (known format), rfl⟩
                rw [isInfo] at impossible
                cases impossible
          | ok info =>
              rcases (described info).mp isInfo with ⟨_, known, rfl⟩
              constructor
              · intro same
                cases same
                exact ⟨zero, configs, rfl, codec,
                  fun format => streamCodecToMedia_unknown.mp (known format), rfl⟩
              · rintro ⟨_, _, isConfigs, _, _, rfl⟩
                cases isConfigs
                rfl

theorem enriched_iff {tracks : Tracks} {room : Nat -> Bool} {frame : AvFrame}
    {metadata : MediaFrameMeta} :
    enrichFrameMediaInfoFromTracks tracks room (cheetahMeta frame (pulledInfo frame)) =
        .ok metadata <->
      Exists fun info => Enriched tracks room frame info ∧ metadata = cheetahMeta frame info := by
  have isTrack : frameTrackId tracks (cheetahMeta frame (pulledInfo frame)) =
      .ok frame.trackId.toUInt64 := rfl
  unfold enrichFrameMediaInfoFromTracks
  rw [isTrack]
  dsimp only
  by_cases nothing : tracks.isEmpty = true
  · rw [if_pos nothing]
    constructor
    · intro same
      cases same
      exact ⟨_, .unannounced nothing, rfl⟩
    · rintro ⟨info, enriched, rfl⟩
      cases enriched with
      | unannounced => rfl
      | announced found =>
          have isMember : frame.trackId.toUInt64 ∈ tracks := by
            rw [Std.TreeMap.mem_iff_isSome_getElem?, found]
            rfl
          rw [Std.TreeMap.isEmpty_eq_false_iff_exists_mem.mpr ⟨_, isMember⟩] at nothing
          cases nothing
  rw [if_neg nothing]
  cases found : tracks[frame.trackId.toUInt64]? with
  | none =>
      constructor
      · intro impossible
        cases impossible
      · rintro ⟨info, enriched, _⟩
        cases enriched with
        | unannounced isEmpty => exact absurd isEmpty nothing
        | announced isFound =>
            rw [found] at isFound
            cases isFound
  | some track =>
      dsimp only
      rw [describeByTrack_eq_ok]
      constructor
      · rintro ⟨clock, configs, made, codec, known, rfl⟩
        exact ⟨_, .announced found clock made codec known, rfl⟩
      · rintro ⟨info, enriched, rfl⟩
        cases enriched with
        | unannounced isEmpty => exact absurd isEmpty nothing
        | announced isFound clock made codec known =>
            rw [found] at isFound
            cases isFound
            exact ⟨clock, _, made, codec, known, rfl⟩

/-! ## The packet -/

/-- A payload is described as bytes in a row. -/
def payloadDesc (Q : Type) (length : Nat) : FullDesc Q := .new ⟨[length]⟩ u8 .auto .cpu

/-- The size of the payload is computed in bits. -/
theorem storageBytes_payload (Q : Type) (length : Nat) :
    (payloadDesc Q length).storageBytes = .ok length <-> 8 * length <= usizeMax := by
  have largest : usizeMax = 2 ^ 64 - 1 := rfl
  have count : (payloadDesc Q length).storageBytes =
      (Shape.elementCount ⟨[length]⟩ >>= u8.storageBytesForElements) := rfl
  rw [count]
  unfold Shape.elementCount DataType.storageBytesForElements
  simp only [List.foldlM, bind, Except.bind, pure, Except.pure, checkedMul, Nat.one_mul]
  have bits : u8.sizeInBits = 8 := rfl
  rw [bits]
  by_cases small : length <= usizeMax
  · rw [if_pos small]
    simp only [orElseError]
    by_cases fits : 8 * length <= usizeMax
    · rw [if_pos fits]
      simp only
      constructor
      · exact fun _ => fits
      · intro _
        congr 1
        omega
    · rw [if_neg fits]
      exact ⟨fun impossible => (by cases impossible), fun holds => absurd holds fits⟩
  · rw [if_neg small]
    refine ⟨fun impossible => (by cases impossible), fun holds => ?_⟩
    omega

/-- What the packet of a frame says. -/
def packetOf (sequence : Nat) (frame : AvFrame) (tags : List (String × String))
    (info : MediaInfo) : PacketMeta MediaInfo :=
  ⟨sequence, some (toString frame.trackId), tags, some info⟩

theorem packet_iff {tracks : Tracks} {room : Nat -> Bool} {sequence : Nat} {frame : AvFrame}
    {packet : Packet (StoredTensor Q) R MediaInfo} :
    mediaFrameToPacket tracks room sequence
        (pulledFrame frame (cheetahMeta frame (pulledInfo frame))) = .ok packet <->
      Exists fun info => Exists fun tensor : StoredTensor Q =>
        Enriched tracks room frame info ∧
        legacyConflictsWithMediaInfo (cheetahFrameMetadata frame) info = .ok () ∧
        tensor.desc = payloadDesc Q frame.payload.length ∧ tensor.buffer = hostPayload frame.payload ∧
        packet = ⟨packetOf sequence frame [] info, .tensor tensor⟩ := by
  have timing : forall {info : MediaInfo}, Enriched tracks room frame info ->
      info.timing.pts = some frame.pts ∧ info.timing.dts = some frame.dts := by
    intro info enriched
    cases enriched with
    | unannounced => exact ⟨rfl, rfl⟩
    | announced => exact ⟨rfl, rfl⟩
  unfold mediaFrameToPacket
  constructor
  · intro result
    rcases Outcome.bind_ok result with ⟨enriched, isEnriched, rest⟩
    rcases Outcome.bind_ok rest with ⟨metadata, isMeta, rest⟩
    rcases Outcome.bind_ok rest with ⟨tensor, isTensor, same⟩
    rcases enriched_iff.mp isEnriched with ⟨info, describes, rfl⟩
    rcases timing describes with ⟨pts, dts⟩
    rcases (normalize_eq_ok pts dts).mp (Outcome.mapError_ok isMeta) with ⟨agrees, rfl⟩
    rcases StoredTensor.fromBuffer_eq_ok.mp (Outcome.mapError_ok isTensor) with ⟨desc, buffer⟩
    cases same
    exact ⟨info, tensor, describes, agrees, desc, buffer, rfl⟩
  · rintro ⟨info, tensor, describes, agrees, desc, buffer, rfl⟩
    rcases timing describes with ⟨pts, dts⟩
    refine Outcome.bind_eq_ok (enriched_iff.mpr ⟨info, describes, rfl⟩) ?_
    have isMeta := (normalize_eq_ok pts dts).mpr ⟨agrees, rfl⟩
    have isTensor := StoredTensor.fromBuffer_eq_ok.mpr ⟨desc, buffer⟩
    refine Outcome.bind_eq_ok (congrArg (Except.mapError normalizationError) isMeta) ?_
    exact Outcome.bind_eq_ok (congrArg (Except.mapError _) isTensor) rfl

/-- There is a tensor of the payload if its size in bits can be computed. -/
theorem exists_tensor_iff (Q : Type) (frame : AvFrame) :
    (Exists fun tensor : StoredTensor Q => tensor.desc = payloadDesc Q frame.payload.length ∧
      tensor.buffer = hostPayload frame.payload) <-> 8 * frame.payload.length <= usizeMax := by
  rw [← storageBytes_payload Q]
  constructor
  · rintro ⟨tensor, desc, buffer⟩
    have sized := tensor.sized
    rw [desc, buffer] at sized
    exact sized
  · intro sized
    exact ⟨⟨payloadDesc Q frame.payload.length, hostPayload frame.payload, sized, rfl⟩, rfl, rfl⟩

/-! ## Back to the SDK -/

/-- The frame that a packet with an encoded description becomes. -/
theorem packetToMediaFrame_encoded {metadata : PacketMeta MediaInfo} {tensor : StoredTensor Q}
    {timing : MediaTiming} {encoded : EncodedMediaInfo}
    (described : metadata.mediaInfo = some ⟨timing, .encoded encoded⟩) :
    packetToMediaFrame (⟨metadata, .tensor tensor⟩ : Packet (StoredTensor Q) R MediaInfo) =
      .ok { Media.MediaFrame.fromTensor tensor with
        metadata := .described metadata.streamId metadata.tags ⟨timing, .encoded encoded⟩ } := by
  rcases metadata with ⟨sequence, streamId, tags, mediaInfo⟩
  cases described
  have notImage : ¬ (lookup tags mediaTag = some "video" ∧
      isImage (some ⟨timing, .encoded encoded⟩) = true) := fun both => by cases both.2
  unfold packetToMediaFrame
  change (do
    let metadata <- Except.mapError normalizationError (MediaFrameMeta.normalize _)
    return { Media.MediaFrame.fromTensor tensor with
      kind := if lookup tags mediaTag = some "video" ∧
          isImage (some ⟨timing, .encoded encoded⟩) = true then
        MediaFrameKind.image else MediaFrameKind.tensor
      metadata := metadata }) = _
  rw [if_neg notImage]
  rfl

theorem readBytes_payload {room : Nat -> Bool} {frame : AvFrame} {media : Media.MediaFrame}
    (buffer : media.buffer = hostPayload frame.payload) :
    readBytes room media =
      if room frame.payload.length then .ok frame.payload
      else .error (.other "buffer error: failed to allocate buffer read copy") := by
  have read : media.buffer.buffer.readBytes (room media.buffer.len) =
      if room frame.payload.length then .ok frame.payload
      else .error (.buffer "failed to allocate buffer read copy") := by
    rw [buffer]
    rfl
  unfold readBytes
  rw [read]
  cases room frame.payload.length <;> rfl

/-- The frame of the SDK for a payload that came from one. -/
theorem cheetahAvframe_eq_ok {policy : ResourcePolicy} {room : Nat -> Bool}
    {frame out : AvFrame} {media : Media.MediaFrame} {metadata : MediaStreamMetadata}
    (buffer : media.buffer = hostPayload frame.payload)
    (track : metadata.trackId = frame.trackId.toUInt64) :
    mediaFrameToCheetahAvframe policy room media metadata = .ok out <->
      frame.payload.length <= policy.maxFrameBytes ∧ room frame.payload.length = true ∧
        out = ⟨frame.trackId, metadata.mediaKind, metadata.codec, metadata.format,
          media.metadata.pts.getD 0, media.metadata.dts.getD 0, metadata.timebase,
          frame.payload, metadata.keyframe, 0⟩ := by
  have narrow : frame.trackId.toUInt64.toUInt32 = frame.trackId :=
    UInt32.toUInt32_toUInt64 frame.trackId
  have length : media.buffer.len = frame.payload.length := by
    rw [buffer]
    rfl
  unfold mediaFrameToCheetahAvframe checkFrameBytes
  rw [readBytes_payload buffer, length, track]
  by_cases large : policy.maxFrameBytes < frame.payload.length
  · rw [if_pos large]
    exact ⟨fun impossible => (by cases impossible),
      fun both => absurd large (Nat.not_lt.mpr both.1)⟩
  rw [if_neg large]
  cases space : room frame.payload.length with
  | false => exact ⟨fun impossible => (by cases impossible), fun both => (by cases both.2.1)⟩
  | true =>
      rw [if_pos rfl]
      dsimp only
      rw [if_neg (trackId_fits frame), narrow]
      constructor
      · intro same
        cases same
        exact ⟨Nat.le_of_not_lt large, rfl, rfl⟩
      · rintro ⟨_, _, rfl⟩
        rfl

/-- What the publisher is given for a payload with an encoded description. -/
theorem pushFrame_eq_ok {cached : Tracks} {policy : ResourcePolicy} {room : Nat -> Bool}
    {frame out : AvFrame} {tensor : StoredTensor Q} {streamId : Option String}
    {tags : List (String × String)} {base : MediaTimeBase} {encoded : EncodedMediaInfo}
    (buffer : tensor.buffer = hostPayload frame.payload)
    (track : encoded.trackId = some frame.trackId.toUInt64)
    (key : encoded.flags.key = frame.keyframe) :
    pushFrame cached policy room { Media.MediaFrame.fromTensor tensor with
        metadata := .described streamId tags
          ⟨⟨some frame.pts, some frame.dts, some base⟩, .encoded encoded⟩ } = .ok out <->
      frame.payload.length <= policy.maxFrameBytes ∧ room frame.payload.length = true ∧
        out = { frame with
          mediaKind := mediaKindToStream encoded.mediaKind
          codec := mediaCodecToStream encoded.codec
          format := bitstreamToStreamFormat encoded.bitstreamFormat
          timebase := ⟨base.num, base.den⟩
          otherFlags := 0 } := by
  have isTrack : encoded.trackId.getD encoded.streamIndex.toUInt64 =
      frame.trackId.toUInt64 := by
    rw [track]
    rfl
  rw [← key]
  exact cheetahAvframe_eq_ok buffer isTrack

/-! ## The relay -/

/-- What the tracks make of a frame, as the description that goes into the
graph. -/
theorem described_iff {route : Route} {frame : AvFrame} {kind : MediaStreamKind}
    {codec : MediaStreamCodec} {bitstream : BitstreamFormat} :
    Described route frame kind codec bitstream <->
      Exists fun base => Exists fun encoded =>
        Enriched route.tracks route.room frame
          ⟨⟨some frame.pts, some frame.dts, some base⟩, .encoded encoded⟩ ∧
        frame.timebase = ⟨base.num, base.den⟩ ∧ kind = mediaKindToStream encoded.mediaKind ∧
        codec = mediaCodecToStream encoded.codec ∧ bitstream = encoded.bitstreamFormat := by
  constructor
  · intro described
    cases described with
    | unannounced nothing =>
        exact ⟨_, _, .unannounced nothing, rfl, (mediaKindToStream_stream _).symm,
          (mediaCodecToStream_stream _).symm, rfl⟩
    | announced found clock base made codec known =>
        exact ⟨_, _, .announced found clock made codec known, base,
          (mediaKindToStream_stream _).symm, (mediaCodecToStream_stream _).symm, rfl⟩
  · rintro ⟨base, encoded, enriched, isBase, rfl, rfl, rfl⟩
    cases enriched with
    | unannounced nothing =>
        rw [cheetahEncodedInfo]
        dsimp only
        rw [mediaKindToStream_stream, mediaCodecToStream_stream]
        exact .unannounced nothing
    | announced found clock made codec known =>
        rw [trackEncodedInfo]
        dsimp only
        rw [mediaKindToStream_stream, mediaCodecToStream_stream]
        exact .announced found clock isBase made codec known

/-- The description names the track of the frame, its timestamps and whether it
is a keyframe, and agrees with the older metadata if the clocks are the same. -/
theorem Enriched.agrees_iff {tracks : Tracks} {room : Nat -> Bool} {frame : AvFrame}
    {info : MediaInfo} (enriched : Enriched tracks room frame info) :
    Exists fun base => Exists fun encoded =>
      info = ⟨⟨some frame.pts, some frame.dts, some base⟩, .encoded encoded⟩ ∧
      encoded.trackId = some frame.trackId.toUInt64 ∧ encoded.flags.key = frame.keyframe ∧
      (legacyConflictsWithMediaInfo (cheetahFrameMetadata frame) info = .ok () <->
        frame.timebase = ⟨base.num, base.den⟩) := by
  cases enriched with
  | unannounced nothing =>
      have rule := @conflicts_eq_ok frame (cheetahEncodedInfo frame) (frameTiming frame)
        ⟨frame.timebase.num, frame.timebase.den⟩ rfl rfl rfl
      exact ⟨_, _, rfl, rfl, rfl, rule.trans ⟨fun both => both.2, fun base => ⟨Or.inl rfl, base⟩⟩⟩
  | @announced track configs found clock made codec known =>
      have rule := @conflicts_eq_ok frame
        (trackEncodedInfo track frame.trackId.toUInt64 frame.keyframe configs)
        ⟨some frame.pts, some frame.dts, some ⟨1, track.clockRate⟩⟩ ⟨1, track.clockRate⟩
        rfl rfl rfl
      refine ⟨_, _, rfl, rfl, rfl, rule.trans ⟨fun both => both.2, fun base => ⟨?_, base⟩⟩⟩
      rcases codec with unknown | same
      · exact Or.inr unknown
      · exact Or.inl (congrArg streamCodecToMedia same)

theorem markResumed_tensor {resumed : Bool} {sequence : Nat} {frame : AvFrame}
    {info : MediaInfo} {tensor : StoredTensor Q} :
    Exists fun tags =>
      markResumed resumed
          (⟨packetOf sequence frame [] info, .tensor tensor⟩ :
            Packet (StoredTensor Q) R MediaInfo) =
        ⟨packetOf sequence frame tags info, .tensor tensor⟩ := by
  cases resumed with
  | false => exact ⟨_, rfl⟩
  | true => exact ⟨_, rfl⟩

theorem toOption_eq_some {E A : Type} {outcome : Except E A} {value : A} :
    outcome.toOption = some value <-> outcome = .ok value := by
  cases outcome with
  | error error => exact ⟨fun impossible => (by cases impossible), fun impossible => by
      cases impossible⟩
  | ok found => exact ⟨fun same => (by cases same; rfl), fun same => by cases same; rfl⟩

/-- A relay is its four steps. -/
theorem relay_steps {route : Route} {sequence : Nat} {resumed : Bool} {frame out : AvFrame} :
    relay Q R route sequence resumed frame = some out <->
      Exists fun pulled => Exists fun packet : Packet (StoredTensor Q) R MediaInfo =>
        Exists fun back =>
        cheetahAvframeToMediaFrame route.pullPolicy route.room frame = .ok pulled ∧
        pulled.buffer.len <= route.nodePolicy.maxFrameBytes ∧
        mediaFrameToPacket route.tracks route.room sequence pulled = .ok packet ∧
        packetToMediaFrame (markResumed resumed packet) = .ok back ∧
        pushFrame route.cached route.pushPolicy route.room back = .ok out := by
  unfold relay
  simp only [Option.bind_eq_bind, Option.bind_eq_some_iff, toOption_eq_some]
  constructor
  · rintro ⟨pulled, isPulled, rest⟩
    by_cases large : route.nodePolicy.maxFrameBytes < pulled.buffer.len
    · rw [if_pos large] at rest
      cases rest
    · rw [if_neg large] at rest
      simp only [Option.bind_eq_some_iff, toOption_eq_some] at rest
      rcases rest with ⟨packet, isPacket, back, isBack, isOut⟩
      exact ⟨pulled, packet, back, isPulled, Nat.le_of_not_lt large, isPacket, isBack, isOut⟩
  · rintro ⟨pulled, packet, back, isPulled, fits, isPacket, isBack, isOut⟩
    refine ⟨pulled, isPulled, ?_⟩
    rw [if_neg (Nat.not_lt.mpr fits)]
    simp only [Option.bind_eq_some_iff, toOption_eq_some]
    exact ⟨packet, isPacket, back, isBack, isOut⟩

end Stream
end DyunGu
