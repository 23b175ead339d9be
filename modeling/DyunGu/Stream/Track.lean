import DyunGu.Media.FrameMeta

namespace DyunGu
namespace Stream

open Core Media

/-!
# Tracks and their codec configuration

A stream announces its tracks, each with the parameters of its codec.  They
become the configuration blobs that travel with every frame of the track.

The enumerations of the streaming SDK, of the tracks and of the older metadata
of frames have the same members, and the conversions between them keep the
member, so that one type stands for the three.
-/

/-- Of the parameters of MP3 and Opus nothing is used. -/
inductive CodecExtradata where
  | none
  | h264 (sps pps : List (List UInt8)) (avcc : Option (List UInt8))
  | h265 (vps sps pps : List (List UInt8)) (hvcc : Option (List UInt8))
  | h266 (vps sps pps : List (List UInt8))
  | aac (asc : List UInt8)
  | av1 (sequenceHeader codecConfig : Option (List UInt8))
  | vp8 (config : Option (List UInt8))
  | vp9 (config : Option (List UInt8))
  | mp3
  | opus
  | raw (bytes : List UInt8)
deriving DecidableEq, Repr

/-- What the conversion of frames reads of a track. -/
structure TrackInfo where
  trackId : UInt64
  mediaKind : MediaStreamKind
  codec : MediaStreamCodec
  clockRate : UInt32
  extradata : CodecExtradata
deriving DecidableEq, Repr

def trackBitstreamFormat : MediaStreamCodec -> BitstreamFormat
  | .h264 => .h264AnnexB
  | .h265 | .h266 => .h265AnnexB
  | .av1 => .av1Obu
  | .vp8 => .vp8Frame
  | .vp9 => .vp9Frame
  | .mjpeg => .jpegInterchange
  | .aac => .aacRaw
  | .adpcm | .opus | .g711a | .g711u | .mp2 | .mp3 | .unknown => .unknown

/-! ## Configuration blobs -/

def maxCodecConfigItemBytes : Nat := 2 ^ 20

/-- `MediaCodecConfig::new`. -/
def codecConfig (format : BitstreamFormat) (data : List UInt8) :
    Except MediaInfoError MediaCodecConfig :=
  if maxCodecConfigItemBytes < data.length then
    .error (.invalidArgument s!"codec config item exceeds {maxCodecConfigItemBytes} bytes")
  else .ok ⟨format, data⟩

/-- `room` says whether there is memory for so many bytes. -/
def cloneCodecConfig (room : Nat -> Bool) (bytes : List UInt8) :
    Except MediaInfoError (List UInt8) :=
  if maxCodecConfigItemBytes < bytes.length then
    .error (.invalidArgument s!"codec config item exceeds {maxCodecConfigItemBytes} bytes")
  else if room bytes.length then .ok bytes
  else .error (.invalidArgument "codec config item allocation failed")

def startCode : List UInt8 := [0, 0, 0, 1]

def annexbAppendNal (room : Nat -> Bool) (out nal : List UInt8) :
    Except MediaInfoError (List UInt8) :=
  match checkedAdd startCode.length nal.length with
  | none => .error (.invalidArgument "annex-b nal length overflow")
  | some added =>
      match checkedAdd out.length added with
      | none => .error (.invalidArgument "annex-b join length overflow")
      | some newLen =>
          if maxCodecConfigTotalBytes < newLen then
            .error (.invalidArgument "annex-b parameter sets exceed total codec config budget")
          else if room added then .ok (out ++ startCode ++ nal)
          else .error (.invalidArgument "annex-b config allocation failed")

/-- The parameter sets behind each other are one blob, if there are any. -/
def parameterSets (room : Nat -> Bool) (format : BitstreamFormat) (nals : List (List UInt8)) :
    Except MediaInfoError (List MediaCodecConfig) := do
  let annexb <- nals.foldlM (annexbAppendNal room) []
  if annexb.isEmpty then return []
  else
    let config <- codecConfig format annexb
    return [config]

def optionalConfig (room : Nat -> Bool) (format : BitstreamFormat) :
    Option (List UInt8) -> Except MediaInfoError (List MediaCodecConfig)
  | none => .ok []
  | some bytes => do
      let data <- cloneCodecConfig room bytes
      let config <- codecConfig format data
      return [config]

def joined (first second : Except MediaInfoError (List MediaCodecConfig)) :
    Except MediaInfoError (List MediaCodecConfig) := do
  let early <- first
  let late <- second
  return early ++ late

def trackCodecConfigs (room : Nat -> Bool) (track : TrackInfo) :
    Except MediaInfoError (List MediaCodecConfig) :=
  match track.extradata with
  | .none | .raw _ | .mp3 | .opus => .ok []
  | .h264 sps pps avcc =>
      joined (parameterSets room .h264AnnexB (sps ++ pps)) (optionalConfig room .h264Avcc avcc)
  | .h265 vps sps pps hvcc =>
      joined (parameterSets room .h265AnnexB (vps ++ sps ++ pps))
        (optionalConfig room .h265Hvcc hvcc)
  | .h266 vps sps pps => parameterSets room .h265AnnexB (vps ++ sps ++ pps)
  | .aac asc => optionalConfig room .aacRaw (if asc.isEmpty then none else some asc)
  | .av1 sequenceHeader codecConfig =>
      joined (optionalConfig room .av1Obu sequenceHeader)
        (optionalConfig room .av1Obu codecConfig)
  | .vp8 config => optionalConfig room .vp8Frame config
  | .vp9 config => optionalConfig room .vp9Frame config

/-! ## The blobs of a track fit a frame -/

/-- A number of blobs of which none is too large. -/
def Bounded (count : Nat) (configs : List MediaCodecConfig) : Prop :=
  configs.length <= count ∧
    forall config, config ∈ configs -> config.data.length <= maxCodecConfigItemBytes

private theorem codecConfig_bounded {format : BitstreamFormat} {data : List UInt8}
    {config : MediaCodecConfig} (made : codecConfig format data = .ok config) :
    Bounded 1 [config] := by
  unfold codecConfig at made
  split at made
  · cases made
  · rename_i fits
    cases made
    refine ⟨Nat.le_refl 1, fun config member => ?_⟩
    rw [List.mem_singleton.mp member]
    exact Nat.le_of_not_lt fits

private theorem bounded_nil (count : Nat) : Bounded count [] :=
  ⟨Nat.zero_le count, fun _ impossible => by cases impossible⟩

private theorem parameterSets_bounded {room : Nat -> Bool} {format : BitstreamFormat}
    {nals : List (List UInt8)} {configs : List MediaCodecConfig}
    (made : parameterSets room format nals = .ok configs) : Bounded 1 configs := by
  rcases Outcome.bind_ok made with ⟨annexb, _, rest⟩
  split at rest
  · cases rest
    exact bounded_nil 1
  · rcases Outcome.bind_ok rest with ⟨config, isConfig, same⟩
    cases same
    exact codecConfig_bounded isConfig

private theorem optionalConfig_bounded {room : Nat -> Bool} {format : BitstreamFormat}
    {bytes : Option (List UInt8)} {configs : List MediaCodecConfig}
    (made : optionalConfig room format bytes = .ok configs) : Bounded 1 configs := by
  cases bytes with
  | none =>
      cases made
      exact bounded_nil 1
  | some bytes =>
      rcases Outcome.bind_ok made with ⟨data, _, rest⟩
      rcases Outcome.bind_ok rest with ⟨config, isConfig, same⟩
      cases same
      exact codecConfig_bounded isConfig

private theorem Bounded.more {configs : List MediaCodecConfig} (bounded : Bounded 1 configs) :
    Bounded 2 configs := ⟨bounded.1.trans (Nat.le_succ 1), bounded.2⟩

private theorem joined_bounded {first second : Except MediaInfoError (List MediaCodecConfig)}
    {configs : List MediaCodecConfig} (made : joined first second = .ok configs)
    (early : forall configs, first = .ok configs -> Bounded 1 configs)
    (late : forall configs, second = .ok configs -> Bounded 1 configs) : Bounded 2 configs := by
  rcases Outcome.bind_ok made with ⟨before, isBefore, rest⟩
  rcases Outcome.bind_ok rest with ⟨after, isAfter, same⟩
  cases same
  rcases early before isBefore with ⟨fewBefore, smallBefore⟩
  rcases late after isAfter with ⟨fewAfter, smallAfter⟩
  refine ⟨by rw [List.length_append]; omega, fun config member => ?_⟩
  rcases List.mem_append.mp member with inBefore | inAfter
  · exact smallBefore config inBefore
  · exact smallAfter config inAfter

theorem trackCodecConfigs_bounded {room : Nat -> Bool} {track : TrackInfo}
    {configs : List MediaCodecConfig} (made : trackCodecConfigs room track = .ok configs) :
    Bounded 2 configs := by
  unfold trackCodecConfigs at made
  split at made
  · cases made
    exact bounded_nil 2
  · cases made
    exact bounded_nil 2
  · cases made
    exact bounded_nil 2
  · cases made
    exact bounded_nil 2
  · exact joined_bounded made (fun _ => parameterSets_bounded) fun _ => optionalConfig_bounded
  · exact joined_bounded made (fun _ => parameterSets_bounded) fun _ => optionalConfig_bounded
  · exact (parameterSets_bounded made).more
  · exact (optionalConfig_bounded made).more
  · exact joined_bounded made (fun _ => optionalConfig_bounded) fun _ => optionalConfig_bounded
  · exact (optionalConfig_bounded made).more
  · exact (optionalConfig_bounded made).more

/-- The limits of a frame on its blobs are never reached by those of a track. -/
theorem configBytes_of_bounded {configs : List MediaCodecConfig} (bounded : Bounded 2 configs) :
    configs.length <= maxCodecConfigCount ∧
      Exists fun total => EncodedMediaInfo.configBytes configs = .ok total := by
  rcases bounded with ⟨few, small⟩
  refine ⟨few.trans (by decide), ?_⟩
  have item : maxCodecConfigItemBytes = 2 ^ 20 := rfl
  have total : maxCodecConfigTotalBytes = 4 * 2 ^ 20 := rfl
  have largest : usizeMax = 2 ^ 64 - 1 := rfl
  match configs, few, small with
  | [], _, _ => exact ⟨0, rfl⟩
  | [one], _, small =>
      have first := small one List.mem_cons_self
      refine ⟨one.data.length, ?_⟩
      simp only [EncodedMediaInfo.configBytes, List.foldlM, checkedAdd, bind, Except.bind, pure,
        Except.pure]
      rw [Nat.zero_add, if_pos (by omega)]
      simp only
      rw [if_neg (by omega)]
  | [one, two], _, small =>
      have first := small one List.mem_cons_self
      have second := small two (List.mem_cons_of_mem _ List.mem_cons_self)
      refine ⟨one.data.length + two.data.length, ?_⟩
      simp only [EncodedMediaInfo.configBytes, List.foldlM, checkedAdd, bind, Except.bind, pure,
        Except.pure]
      rw [Nat.zero_add, if_pos (by omega)]
      simp only
      rw [if_neg (by omega)]
      simp only
      rw [if_pos (by omega)]
      simp only
      rw [if_neg (by omega)]
  | _ :: _ :: _ :: _, few, _ =>
      exfalso
      simp only [List.length_cons] at few
      omega

end Stream
end DyunGu
