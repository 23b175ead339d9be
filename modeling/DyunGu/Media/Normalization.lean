import DyunGu.Lib.Outcome
import DyunGu.Media.FrameMeta

namespace DyunGu
namespace Media
namespace MediaFrameMeta

open DyunGu.Core

/-!
# Normalization as a projection

Normalization works on the metadata in place and is applied to the same frame
several times.  What it leaves behind should need no further normalization.
-/

/-- The description is written before the timestamps, and nothing is written
before the last step that can fail. -/
def normalizeInPlace (metadata : MediaFrameMeta) : MediaFrameMeta × Except MediaError Unit :=
  match metadata.reconcile with
  | .error error => (metadata, .error error)
  | .ok described =>
      match described.mediaInfo with
      | none => (described, .ok ())
      | some info => ({ described with pts := info.timing.pts, dts := info.timing.dts }, .ok ())

theorem normalizeInPlace_of_ok {metadata after : MediaFrameMeta}
    (normalized : metadata.normalize = .ok after) : metadata.normalizeInPlace = (after, .ok ()) := by
  rcases Outcome.bind_ok normalized with ⟨described, reconciled, rest⟩
  rw [normalizeInPlace, reconciled]
  cases isInfo : described.mediaInfo with
  | none =>
      rw [isInfo] at rest
      cases rest
      simp only [isInfo]
  | some info =>
      rw [isInfo] at rest
      cases rest
      simp only [isInfo]

theorem normalizeInPlace_of_error {metadata : MediaFrameMeta} {error : MediaError}
    (failed : metadata.normalize = .error error) :
    metadata.normalizeInPlace = (metadata, .error error) := by
  rcases Outcome.bind_error failed with failed | ⟨described, _, rest⟩
  · rw [normalizeInPlace, failed]
  · cases isInfo : described.mediaInfo with
    | none =>
        rw [isInfo] at rest
        cases rest
    | some info =>
        rw [isInfo] at rest
        cases rest

/-- The timestamps are those of the description, the two descriptions do not
contradict each other, and normalization changes nothing. -/
structure Settled (metadata : MediaFrameMeta) : Prop where
  timed : forall info, metadata.mediaInfo = some info ->
    metadata.pts = info.timing.pts ∧ metadata.dts = info.timing.dts
  agrees : forall info legacy, metadata.mediaInfo = some info ->
    metadata.streamMetadata = some legacy -> legacyConflictsWithMediaInfo legacy info = .ok ()
  stable : metadata.normalizeInPlace = (metadata, .ok ())

/-- Normalization settles the metadata, or leaves it alone if it fails. -/
def Projects (metadata : MediaFrameMeta) : Prop :=
  match metadata.normalizeInPlace with
  | (after, .ok ()) => after.Settled
  | (after, .error _) => after = metadata

/-- There are timestamps and nothing else. -/
def OnlyTimed (metadata : MediaFrameMeta) : Prop :=
  metadata.mediaInfo = none ∧ metadata.streamMetadata = none ∧
    (metadata.pts.isSome || metadata.dts.isSome) = true

/-- Two descriptions that agree are settled if the timestamps are. -/
theorem settled_of_agrees {metadata : MediaFrameMeta} {info : MediaInfo}
    {legacy : MediaStreamMetadata} (isInfo : metadata.mediaInfo = some info)
    (isLegacy : metadata.streamMetadata = some legacy)
    (timed : metadata.pts = info.timing.pts ∧ metadata.dts = info.timing.dts)
    (agrees : legacyConflictsWithMediaInfo legacy info = .ok ()) : metadata.Settled where
  timed := by
    intro other isOther
    rw [isInfo] at isOther
    cases isOther
    exact timed
  agrees := by
    intro other stream isOther isStream
    rw [isInfo] at isOther
    rw [isLegacy] at isStream
    cases isOther
    cases isStream
    exact agrees
  stable := by
    apply normalizeInPlace_of_ok
    rcases metadata with ⟨pts, dts, streamId, tags, mediaInfo, streamMetadata⟩
    dsimp only at isInfo isLegacy timed
    rcases timed with ⟨rfl, rfl⟩
    subst isInfo isLegacy
    simp only [normalize, reconcile, agrees]
    rfl

theorem settled_described (streamId : Option String) (tags : List (String × String))
    (info : MediaInfo) : (described streamId tags info).Settled where
  timed := by
    rintro other ⟨⟩
    exact ⟨rfl, rfl⟩
  agrees := by
    rintro other legacy ⟨⟩ made
    exact legacyFromMediaInfo_agrees made
  stable := normalizeInPlace_of_ok (normalize_described streamId tags info)

/-- The description made from the older metadata does not contradict it. -/
theorem mediaInfoFromStreamMetadata_agrees {legacy : MediaStreamMetadata} {info : MediaInfo}
    {pts dts : Option Int64}
    (made : mediaInfoFromStreamMetadata legacy ⟨pts, dts, some legacy.base⟩ = .ok info) :
    info.timing = ⟨pts, dts, some legacy.base⟩ ∧
      legacyConflictsWithMediaInfo legacy info = .ok () := by
  rcases Outcome.bind_ok (Outcome.mapError_ok made) with ⟨_, _, rest⟩
  rcases Outcome.bind_ok rest with ⟨_, _, isInfo⟩
  cases isInfo
  refine ⟨rfl, ?_⟩
  simp [legacyConflictsWithMediaInfo, MediaStreamMetadata.base]
  rfl

theorem settled_empty (streamId : Option String) (tags : List (String × String)) :
    Settled ⟨none, none, streamId, tags, none, none⟩ where
  timed := by
    rintro info ⟨⟩
  agrees := by
    rintro info legacy ⟨⟩
  stable := normalizeInPlace_of_ok (normalize_bare streamId tags)

/-- The description made of the timestamps alone has no older metadata beside
it yet. -/
theorem not_settled_bare (timing : MediaTiming) (streamId : Option String)
    (tags : List (String × String)) :
    ¬ Settled ⟨timing.pts, timing.dts, streamId, tags,
      some ⟨timing, .encoded unknownEncoded⟩, none⟩ := by
  intro settled
  have written := congrArg (fun result => result.1.streamMetadata) settled.stable
  cases written

/-- Normalization is a projection except on frames that have timestamps and
nothing else.  There it makes a description, from which the next call makes the
older metadata. -/
theorem projects_iff (metadata : MediaFrameMeta) : metadata.Projects <-> ¬ metadata.OnlyTimed := by
  rcases metadata with ⟨pts, dts, streamId, tags, _ | info, _ | legacy⟩
  · by_cases timed : (pts.isSome || dts.isSome) = true
    · refine ⟨fun projects => ?_, fun bare => absurd ⟨rfl, rfl, timed⟩ bare⟩
      have normalized : normalize ⟨pts, dts, streamId, tags, none, none⟩ =
          .ok ⟨pts, dts, streamId, tags, some ⟨⟨pts, dts, none⟩, .encoded unknownEncoded⟩, none⟩ := by
        simp only [normalize, reconcile, if_pos timed]
        rfl
      rw [Projects, normalizeInPlace_of_ok normalized] at projects
      exact absurd projects (not_settled_bare ⟨pts, dts, none⟩ streamId tags)
    · refine ⟨fun _ bare => timed bare.2.2, fun _ => ?_⟩
      rcases pts with _ | pts
      · rcases dts with _ | dts
        · rw [Projects, normalizeInPlace_of_ok (normalize_bare streamId tags)]
          exact settled_empty streamId tags
        · exact absurd rfl timed
      · exact absurd rfl timed
  · refine ⟨fun _ bare => Option.some_ne_none _ bare.2.1, fun _ => ?_⟩
    cases made : mediaInfoFromStreamMetadata legacy ⟨pts, dts, some legacy.base⟩ with
    | error error =>
        have failed : normalize ⟨pts, dts, streamId, tags, none, some legacy⟩ = .error error := by
          simp only [normalize, reconcile, timingFromTop, Option.map_some, made]
          rfl
        rw [Projects, normalizeInPlace_of_error failed]
    | ok info =>
        rcases mediaInfoFromStreamMetadata_agrees made with ⟨timing, agrees⟩
        have normalized : normalize ⟨pts, dts, streamId, tags, none, some legacy⟩ =
            .ok ⟨info.timing.pts, info.timing.dts, streamId, tags, some info, some legacy⟩ := by
          simp only [normalize, reconcile, timingFromTop, Option.map_some, made]
          rfl
        rw [Projects, normalizeInPlace_of_ok normalized]
        exact settled_of_agrees rfl rfl ⟨rfl, rfl⟩ agrees
  · refine ⟨fun _ bare => Option.some_ne_none _ bare.1, fun _ => ?_⟩
    have normalized : normalize ⟨pts, dts, streamId, tags, some info, none⟩ =
        .ok (described streamId tags info) := rfl
    rw [Projects, normalizeInPlace_of_ok normalized]
    exact settled_described streamId tags info
  · refine ⟨fun _ bare => Option.some_ne_none _ bare.1, fun _ => ?_⟩
    cases agrees : legacyConflictsWithMediaInfo legacy info with
    | error error =>
        have failed : normalize ⟨pts, dts, streamId, tags, some info, some legacy⟩ =
            .error error := by
          simp only [normalize, reconcile, agrees]
          rfl
        rw [Projects, normalizeInPlace_of_error failed]
    | ok _ =>
        have normalized : normalize ⟨pts, dts, streamId, tags, some info, some legacy⟩ =
            .ok ⟨info.timing.pts, info.timing.dts, streamId, tags, some info, some legacy⟩ := by
          simp only [normalize, reconcile, agrees]
          rfl
        rw [Projects, normalizeInPlace_of_ok normalized]
        exact settled_of_agrees rfl rfl ⟨rfl, rfl⟩ agrees

/-- A frame with nothing but a timestamp. -/
def stampedOnce : MediaFrameMeta := { empty with pts := some 90000 }

/-- Its older metadata appears only at the second call. -/
theorem stampedOnce_moves : ¬ stampedOnce.Projects ∧
    (stampedOnce.normalizeInPlace.1.streamMetadata = none ∧
      stampedOnce.normalizeInPlace.1.normalizeInPlace.1.streamMetadata.isSome = true) := by
  refine ⟨not_settled_bare ⟨some 90000, none, none⟩ none [], rfl, rfl⟩

end MediaFrameMeta
end Media
end DyunGu
