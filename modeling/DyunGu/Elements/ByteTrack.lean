import DyunGu.Core.Resource
import DyunGu.Elements.Nms
import DyunGu.Lib.LastMax
import DyunGu.Lib.Machine
import DyunGu.Lib.OrderStatistic
import Mathlib.Data.Prod.Lex

namespace DyunGu
namespace Elements

open LastMax OrderStatistic
open Core (u32Max)

/-!
# Tracking detections over frames

Each detection of a frame goes to the track that it overlaps most, among those
of its class that no earlier detection of the frame has taken, or it begins a
track of its own.  A track that gets none for too many frames is dropped, and so
are the oldest ones when there are too many.

Ratios appear with the order of `total_cmp`; the arithmetic on boxes is a
parameter, and `room` says whether there is memory for so many items.
-/

/-- What tracking computes with boxes: the overlap of two of them, and whether a
ratio is `>=` another one. -/
structure Matching (Box Ratio : Type) where
  iou : Box -> Box -> Ratio
  reaches : Ratio -> Ratio -> Bool

def maxMaxLost : Nat := 10000

def maxTracks : Nat := 10000

def maxDetectionsPerFrame : Nat := 100000

def u64Max : Nat := UInt64.size - 1

/-- One more, as far as that is a number of the type. -/
def saturatingSucc (largest value : Nat) : Nat := min (value + 1) largest

inductive TrackState where
  | new
  | tracked
  | lost
deriving DecidableEq, Repr

structure Track (Box Score : Type) where
  trackId : Nat
  detection : Detection Box Score
  state : TrackState
deriving DecidableEq, Repr

structure TrackStateInner (Box Score : Type) where
  trackId : Nat
  detection : Detection Box Score
  lost : Nat
deriving DecidableEq, Repr

structure ByteTrack (Box Score Ratio : Type) where
  nextId : Nat
  maxLost : Nat
  matchThreshold : Ratio
  tracks : List (TrackStateInner Box Score)
deriving DecidableEq, Repr

/-- The detections of a frame and the memory at that time. -/
structure Frame (Box Score : Type) where
  detections : List (Detection Box Score)
  room : Nat -> Bool

/-- A track and whether a detection of the frame has taken it. -/
structure Entry (Box Score : Type) where
  track : TrackStateInner Box Score
  matched : Bool
deriving DecidableEq, Repr

def Entry.id {Box Score : Type} (entry : Entry Box Score) : Nat := entry.track.trackId

/-- The loop over the detections; `matched` is kept beside the tracks. -/
structure Scan (Box Score : Type) where
  entries : List (Entry Box Score)
  nextId : Nat
  output : List (Track Box Score)
deriving DecidableEq, Repr

variable {Box Score Ratio : Type} [LinearOrder Ratio]

namespace Scan

variable (matching : Matching Box Ratio) (threshold : Ratio)

/-- The track that overlaps the detection most, with its index. -/
def best (entries : List (Entry Box Score)) (detection : Detection Box Score) :
    Option (Entry Box Score × Nat) :=
  lastMax (fun candidate => matching.iou candidate.1.track.detection.bbox detection.bbox)
    (entries.zipIdx.filter fun candidate =>
      !candidate.1.matched && candidate.1.track.detection.classId == detection.classId &&
        matching.reaches (matching.iou candidate.1.track.detection.bbox detection.bbox) threshold)

/-- One detection. -/
def place (scan : Scan Box Score) (detection : Detection Box Score) : Scan Box Score :=
  match best matching threshold scan.entries detection with
  | some (entry, index) =>
      { scan with
        entries := scan.entries.set index
          ⟨{ entry.track with detection := detection, lost := 0 }, true⟩
        output := scan.output ++ [⟨entry.track.trackId, detection, .tracked⟩] }
  | none =>
      { entries := scan.entries ++ [⟨⟨scan.nextId, detection, 0⟩, true⟩]
        nextId := saturatingSucc u64Max scan.nextId
        output := scan.output ++ [⟨scan.nextId, detection, .new⟩] }

/-- The loop over the detections. -/
def placeAll (scan : Scan Box Score) (detections : List (Detection Box Score)) : Scan Box Score :=
  detections.foldl (Scan.place matching threshold) scan

end Scan

namespace ByteTrack

def new (maxLost : Nat) (matchThreshold : Ratio) : ByteTrack Box Score Ratio :=
  ⟨1, maxLost, matchThreshold, []⟩

def age (track : TrackStateInner Box Score) : TrackStateInner Box Score :=
  { track with lost := saturatingSucc u32Max track.lost }

/-- The order in which tracks are kept. -/
def keepKey (track : TrackStateInner Box Score) : Lex (Nat × Nat) :=
  toLex (track.lost, track.trackId)

/-- The tracks that are kept of those after the loop. -/
def prune (maxLost : Nat) (tracks : List (TrackStateInner Box Score)) :
    List (TrackStateInner Box Score) :=
  let retained := tracks.filter fun track => decide (track.lost <= maxLost)
  if retained.length > maxTracks then (sortByKey keepKey retained).take maxTracks
  else retained

/-- All detections of a frame, from tracks that have aged. -/
def scan (matching : Matching Box Ratio) (tracker : ByteTrack Box Score Ratio)
    (detections : List (Detection Box Score)) : Scan Box Score :=
  Scan.placeAll matching tracker.matchThreshold
    ⟨(tracker.tracks.map age).map fun track => ⟨track, false⟩, tracker.nextId, []⟩ detections

def update (matching : Matching Box Ratio) (tracker : ByteTrack Box Score Ratio)
    (frame : Frame Box Score) :
    Except Graph.Error (List (Track Box Score)) × ByteTrack Box Score Ratio :=
  if frame.detections.length > maxDetectionsPerFrame then
    (.error (.resourceLimit "bytetrack detections per frame" frame.detections.length
      maxDetectionsPerFrame), tracker)
  else
    let aged := { tracker with tracks := tracker.tracks.map age }
    if frame.room tracker.tracks.length = false then
      (.error (.runtime "bytetrack matched allocation failed"), aged)
    else if frame.room frame.detections.length = false then
      (.error (.runtime "bytetrack output allocation failed"), aged)
    else
      let scanned := scan matching tracker frame.detections
      (.ok scanned.output,
        { tracker with
          nextId := scanned.nextId
          tracks := prune tracker.maxLost (scanned.entries.map Entry.track) })

/-- The tracker over its frames. -/
def tracking (matching : Matching Box Ratio) :
    Machine (ByteTrack Box Score Ratio) (Frame Box Score) where
  step tracker frame := some (tracker.update matching frame).2

end ByteTrack

/-! ## One detection -/

namespace Scan

variable {matching : Matching Box Ratio} {threshold : Ratio}

/-- The best candidate is a track of the class that nothing has taken yet. -/
theorem best_eq_some {entries : List (Entry Box Score)} {detection : Detection Box Score}
    {entry : Entry Box Score} {index : Nat}
    (found : best matching threshold entries detection = some (entry, index)) :
    entries[index]? = some entry ∧ entry.matched = false ∧
      entry.track.detection.classId = detection.classId ∧
      matching.reaches (matching.iou entry.track.detection.bbox detection.bbox) threshold = true := by
  have member := (lastMax_eq_some found).mem
  rcases List.mem_filter.mp member with ⟨isEntry, isCandidate⟩
  rw [Bool.and_eq_true, Bool.and_eq_true, Bool.not_eq_true', beq_iff_eq] at isCandidate
  exact ⟨List.mk_mem_zipIdx_iff_getElem?.mp isEntry, isCandidate.1.1, isCandidate.1.2,
    isCandidate.2⟩

/-- A detection takes a free track, or it begins one. -/
theorem place_cases (matching : Matching Box Ratio) (threshold : Ratio) (scan : Scan Box Score)
    (detection : Detection Box Score) :
    (Exists fun before => Exists fun entry => Exists fun after =>
      scan.entries = before ++ entry :: after ∧ entry.matched = false ∧
      scan.place matching threshold detection =
        { scan with
          entries := before ++ ⟨{ entry.track with detection := detection, lost := 0 }, true⟩ :: after
          output := scan.output ++ [⟨entry.id, detection, .tracked⟩] }) ∨
    scan.place matching threshold detection =
      { entries := scan.entries ++ [⟨⟨scan.nextId, detection, 0⟩, true⟩]
        nextId := saturatingSucc u64Max scan.nextId
        output := scan.output ++ [⟨scan.nextId, detection, .new⟩] } := by
  rw [place]
  split
  · rename_i entry index found
    rcases best_eq_some found with ⟨isEntry, free, _⟩
    rcases List.getElem?_eq_some_iff.mp isEntry with ⟨inside, rfl⟩
    have split (replacement : Entry Box Score) : Exists fun before => Exists fun after =>
        scan.entries = before ++ scan.entries[index] :: after ∧ before.length = index ∧
          scan.entries.set index replacement = before ++ replacement :: after :=
      List.exists_of_set inside
    rcases split ⟨{ scan.entries[index].track with detection := detection, lost := 0 }, true⟩ with
      ⟨before, after, isEntries, _, isSet⟩
    refine Or.inl ⟨before, _, after, isEntries, free, ?_⟩
    rw [isSet]
    rfl
  · exact Or.inr rfl

/-- What the loop over the detections keeps, as long as there are fresh ids. -/
structure Sound (start : List (TrackStateInner Box Score)) (startId : Nat)
    (scan : Scan Box Score) : Prop where
  ids : (scan.entries.map Entry.id).Nodup
  below : forall entry, entry ∈ scan.entries -> entry.id < scan.nextId
  outputIds : (scan.output.map Track.trackId).Nodup
  found : forall track, track ∈ scan.output -> Exists fun entry =>
    entry ∈ scan.entries ∧ entry.matched = true ∧ entry.id = track.trackId
  fresh : forall entry, entry ∈ scan.entries -> entry.matched = true ->
    entry.track.lost = 0 ∧ entry.id ∈ scan.output.map Track.trackId
  untouched : forall entry, entry ∈ scan.entries -> entry.matched = false -> entry.track ∈ start
  kept : forall track, track ∈ start -> track.trackId ∉ scan.output.map Track.trackId ->
    ⟨track, false⟩ ∈ scan.entries
  origin : forall entry, entry ∈ scan.entries ->
    entry.id ∈ start.map TrackStateInner.trackId ∨ startId <= entry.id

variable {start : List (TrackStateInner Box Score)} {startId : Nat} {scan : Scan Box Score}

theorem place_nextId (matching : Matching Box Ratio) (threshold : Ratio) (scan : Scan Box Score)
    (detection : Detection Box Score) :
    min scan.nextId u64Max <= (scan.place matching threshold detection).nextId ∧
      (scan.place matching threshold detection).nextId <= scan.nextId + 1 := by
  rcases place_cases matching threshold scan detection with ⟨_, _, _, _, _, placed⟩ | placed
  · rw [placed]
    exact ⟨Nat.min_le_left _ _, Nat.le_succ _⟩
  · rw [placed]
    show min scan.nextId u64Max <= min (scan.nextId + 1) u64Max ∧ _
    exact ⟨by omega, Nat.min_le_left _ _⟩

/-- A detection that takes a free track keeps everything sound. -/
theorem Sound.take (sound : scan.Sound start startId) {before after : List (Entry Box Score)}
    {entry : Entry Box Score} (isEntries : scan.entries = before ++ entry :: after)
    (free : entry.matched = false) (detection : Detection Box Score) :
    Scan.Sound start startId
      { scan with
        entries := before ++ ⟨{ entry.track with detection := detection, lost := 0 }, true⟩ :: after
        output := scan.output ++ [⟨entry.id, detection, .tracked⟩] } := by
  have isMember : entry ∈ scan.entries := by
    rw [isEntries]
    exact List.mem_append_right before List.mem_cons_self
  have others : forall other, other ∈ before ++ after -> other ∈ scan.entries := by
    intro other member
    rw [isEntries]
    rcases List.mem_append.mp member with isBefore | isAfter
    · exact List.mem_append_left _ isBefore
    · exact List.mem_append_right _ (List.mem_cons_of_mem _ isAfter)
  have distinct := sound.ids
  rw [isEntries, List.map_append, List.map_cons] at distinct
  have unused : entry.id ∉ scan.output.map Track.trackId := by
    intro used
    rcases List.mem_map.mp used with ⟨track, isTrack, sameId⟩
    rcases sound.found track isTrack with ⟨holder, isHolder, matched, holderId⟩
    have isSame := List.inj_on_of_nodup_map sound.ids isHolder isMember (holderId.trans sameId)
    rw [isSame, free] at matched
    cases matched
  have apart : forall other, other ∈ before ++ after -> other.id ≠ entry.id := by
    intro other member same
    have nodup := (List.nodup_middle.mp distinct)
    rw [← List.map_append] at nodup
    exact (List.nodup_cons.mp nodup).1 (same ▸ List.mem_map_of_mem member)
  have either : forall other, other ∈ before ++
        (⟨{ entry.track with detection := detection, lost := 0 }, true⟩ : Entry Box Score) :: after ->
      other = ⟨{ entry.track with detection := detection, lost := 0 }, true⟩ ∨
        other ∈ before ++ after := by
    intro other member
    rcases List.mem_append.mp member with isBefore | member
    · exact Or.inr (List.mem_append_left _ isBefore)
    · rcases List.mem_cons.mp member with isNew | isAfter
      · exact Or.inl isNew
      · exact Or.inr (List.mem_append_right _ isAfter)
  constructor
  · rw [List.map_append, List.map_cons]
    exact distinct
  · intro other member
    rcases either other member with rfl | isOther
    · exact sound.below entry isMember
    · exact sound.below other (others other isOther)
  · rw [List.map_append, List.map_singleton]
    exact List.nodup_append_comm.mpr (List.nodup_cons.mpr ⟨unused, sound.outputIds⟩)
  · intro track member
    rcases List.mem_append.mp member with earlier | isLast
    · rcases sound.found track earlier with ⟨holder, isHolder, matched, holderId⟩
      refine ⟨holder, ?_, matched, holderId⟩
      rw [isEntries] at isHolder
      rcases List.mem_append.mp isHolder with isBefore | isHolder
      · exact List.mem_append_left _ isBefore
      · rcases List.mem_cons.mp isHolder with rfl | isAfter
        · rw [free] at matched
          cases matched
        · exact List.mem_append_right _ (List.mem_cons_of_mem _ isAfter)
    · rw [List.mem_singleton.mp isLast]
      exact ⟨_, List.mem_append_right _ List.mem_cons_self, rfl, rfl⟩
  · intro other member matched
    rw [List.map_append]
    rcases either other member with rfl | isOther
    · exact ⟨rfl, List.mem_append_right _ (List.mem_singleton_self _)⟩
    · rcases sound.fresh other (others other isOther) matched with ⟨isFresh, isOutput⟩
      exact ⟨isFresh, List.mem_append_left _ isOutput⟩
  · intro other member unmatched
    rcases either other member with rfl | isOther
    · cases unmatched
    · exact sound.untouched other (others other isOther) unmatched
  · intro track isTrack unseen
    rw [List.map_append, List.map_singleton] at unseen
    rcases not_or.mp (mt List.mem_append.mpr unseen) with ⟨notEarlier, notTaken⟩
    have isKept := sound.kept track isTrack notEarlier
    rw [isEntries] at isKept
    rcases List.mem_append.mp isKept with isBefore | isKept
    · exact List.mem_append_left _ isBefore
    · rcases List.mem_cons.mp isKept with isEntry | isAfter
      · exact absurd (List.mem_singleton.mpr (congrArg Entry.id isEntry)) notTaken
      · exact List.mem_append_right _ (List.mem_cons_of_mem _ isAfter)
  · intro other member
    rcases either other member with rfl | isOther
    · exact sound.origin entry isMember
    · exact sound.origin other (others other isOther)

/-- So does a detection that begins a track with a fresh id. -/
theorem Sound.begin (sound : scan.Sound start startId) (detection : Detection Box Score)
    (increases : startId <= scan.nextId) :
    Scan.Sound start startId
      { entries := scan.entries ++ [⟨⟨scan.nextId, detection, 0⟩, true⟩]
        nextId := scan.nextId + 1
        output := scan.output ++ [⟨scan.nextId, detection, .new⟩] } := by
  have unused : scan.nextId ∉ scan.output.map Track.trackId := by
    intro used
    rcases List.mem_map.mp used with ⟨track, isTrack, sameId⟩
    rcases sound.found track isTrack with ⟨holder, isHolder, _, holderId⟩
    have older := sound.below holder isHolder
    omega
  have isFree : scan.nextId ∉ scan.entries.map Entry.id := by
    intro used
    rcases List.mem_map.mp used with ⟨entry, isEntry, sameId⟩
    exact absurd sameId (Nat.ne_of_lt (sound.below entry isEntry))
  constructor
  · rw [List.map_append, List.map_singleton]
    exact List.nodup_append_comm.mpr (List.nodup_cons.mpr ⟨isFree, sound.ids⟩)
  · intro entry member
    rcases List.mem_append.mp member with earlier | isLast
    · exact Nat.lt_succ_of_lt (sound.below entry earlier)
    · rw [List.mem_singleton.mp isLast]
      exact Nat.lt_succ_self _
  · rw [List.map_append, List.map_singleton]
    exact List.nodup_append_comm.mpr (List.nodup_cons.mpr ⟨unused, sound.outputIds⟩)
  · intro track member
    rcases List.mem_append.mp member with earlier | isLast
    · rcases sound.found track earlier with ⟨holder, isHolder, matched, holderId⟩
      exact ⟨holder, List.mem_append_left _ isHolder, matched, holderId⟩
    · rw [List.mem_singleton.mp isLast]
      exact ⟨_, List.mem_append_right _ List.mem_cons_self, rfl, rfl⟩
  · intro entry member matched
    rw [List.map_append]
    rcases List.mem_append.mp member with earlier | isLast
    · rcases sound.fresh entry earlier matched with ⟨isFresh, isOutput⟩
      exact ⟨isFresh, List.mem_append_left _ isOutput⟩
    · rw [List.mem_singleton.mp isLast]
      exact ⟨rfl, List.mem_append_right _ (List.mem_singleton_self _)⟩
  · intro entry member unmatched
    rcases List.mem_append.mp member with earlier | isLast
    · exact sound.untouched entry earlier unmatched
    · rw [List.mem_singleton.mp isLast] at unmatched
      cases unmatched
  · intro track isTrack unseen
    rw [List.map_append] at unseen
    exact List.mem_append_left _
      (sound.kept track isTrack fun earlier => unseen (List.mem_append_left _ earlier))
  · intro entry member
    rcases List.mem_append.mp member with earlier | isLast
    · exact sound.origin entry earlier
    · rw [List.mem_singleton.mp isLast]
      exact Or.inr increases

theorem Sound.place (sound : scan.Sound start startId) {detection : Detection Box Score}
    (increases : startId <= scan.nextId)
    (left : (scan.place matching threshold detection).nextId < u64Max) :
    (scan.place matching threshold detection).Sound start startId := by
  rcases place_cases matching threshold scan detection with
    ⟨before, entry, after, isEntries, free, placed⟩ | placed
  · rw [placed]
    exact sound.take isEntries free detection
  · rw [placed] at left ⊢
    have left : saturatingSucc u64Max scan.nextId < u64Max := left
    have isNext : saturatingSucc u64Max scan.nextId = scan.nextId + 1 := by
      rw [saturatingSucc] at left ⊢
      omega
    rw [isNext]
    exact sound.begin detection increases

theorem sound_start {tracks : List (TrackStateInner Box Score)}
    (ids : (tracks.map TrackStateInner.trackId).Nodup)
    (below : forall track, track ∈ tracks -> track.trackId < startId) :
    Scan.Sound tracks startId ⟨tracks.map fun track => ⟨track, false⟩, startId, []⟩ := by
  have isEntry : forall entry : Entry Box Score,
      entry ∈ tracks.map (fun track => (⟨track, false⟩ : Entry Box Score)) ->
        entry.matched = false ∧ entry.track ∈ tracks := by
    intro entry member
    rcases List.mem_map.mp member with ⟨track, isTrack, rfl⟩
    exact ⟨rfl, isTrack⟩
  constructor
  · rw [List.map_map]
    exact ids
  · intro entry member
    exact below entry.track (isEntry entry member).2
  · exact List.nodup_nil
  · intro track member
    cases member
  · intro entry member matched
    rw [(isEntry entry member).1] at matched
    cases matched
  · intro entry member _
    exact (isEntry entry member).2
  · intro track isTrack _
    exact List.mem_map_of_mem isTrack
  · intro entry member
    exact Or.inl (List.mem_map_of_mem (isEntry entry member).2)

variable (matching : Matching Box Ratio) (threshold : Ratio)

theorem placeAll_nextId (scan : Scan Box Score) (detections : List (Detection Box Score)) :
    min scan.nextId u64Max <= (scan.placeAll matching threshold detections).nextId ∧
      (scan.placeAll matching threshold detections).nextId <= scan.nextId + detections.length := by
  induction detections generalizing scan with
  | nil => exact ⟨Nat.min_le_left _ _, Nat.le_refl _⟩
  | cons detection detections ih =>
      have first := place_nextId matching threshold scan detection
      have rest := ih (scan.place matching threshold detection)
      rw [List.length_cons]
      exact ⟨by
        refine Nat.le_trans ?_ rest.1
        omega, by
        refine Nat.le_trans rest.2 ?_
        omega⟩

/-- Every detection has one output, in their order. -/
theorem placeAll_outputs (scan : Scan Box Score) (detections : List (Detection Box Score)) :
    (scan.placeAll matching threshold detections).output.map Track.detection =
      scan.output.map Track.detection ++ detections := by
  induction detections generalizing scan with
  | nil => exact (List.append_nil _).symm
  | cons detection detections ih =>
      have first : (scan.place matching threshold detection).output.map Track.detection =
          scan.output.map Track.detection ++ [detection] := by
        rcases place_cases matching threshold scan detection with ⟨_, _, _, _, _, placed⟩ | placed
        · rw [placed, List.map_append]
          rfl
        · rw [placed, List.map_append]
          rfl
      refine (ih (scan.place matching threshold detection)).trans ?_
      rw [first, List.append_assoc]
      rfl

variable {matching threshold}

theorem Sound.placeAll (sound : scan.Sound start startId)
    {detections : List (Detection Box Score)} (increases : startId <= scan.nextId)
    (left : (scan.placeAll matching threshold detections).nextId < u64Max) :
    (scan.placeAll matching threshold detections).Sound start startId := by
  induction detections generalizing scan with
  | nil => exact sound
  | cons detection detections ih =>
      have first := place_nextId matching threshold scan detection
      have rest := placeAll_nextId matching threshold (scan.place matching threshold detection)
        detections
      have isLeft : min (scan.place matching threshold detection).nextId u64Max < u64Max :=
        Nat.lt_of_le_of_lt rest.1 left
      exact ih (sound.place increases (by omega)) (by omega) left

end Scan

/-! ## One frame -/

namespace ByteTrack

variable {matching : Matching Box Ratio} {tracker : ByteTrack Box Score Ratio}
  {frame : Frame Box Score}

/-- The tracks after the loop that are not lost for too long. -/
def retained (matching : Matching Box Ratio) (tracker : ByteTrack Box Score Ratio)
    (frame : Frame Box Score) : List (TrackStateInner Box Score) :=
  ((tracker.scan matching frame.detections).entries.map Entry.track).filter fun track =>
    decide (track.lost <= tracker.maxLost)

/-- A frame with too many detections changes nothing, without memory the tracks
only age, and otherwise the loop runs. -/
theorem update_cases (matching : Matching Box Ratio) (tracker : ByteTrack Box Score Ratio)
    (frame : Frame Box Score) :
    (maxDetectionsPerFrame < frame.detections.length ∧ Exists fun error =>
      tracker.update matching frame = (.error error, tracker)) ∨
    (frame.detections.length <= maxDetectionsPerFrame ∧ Exists fun error =>
      tracker.update matching frame = (.error error,
        { tracker with tracks := tracker.tracks.map age })) ∨
    (frame.detections.length <= maxDetectionsPerFrame ∧
      tracker.update matching frame = (.ok (tracker.scan matching frame.detections).output,
        { tracker with
          nextId := (tracker.scan matching frame.detections).nextId
          tracks := prune tracker.maxLost
            ((tracker.scan matching frame.detections).entries.map Entry.track) })) := by
  rw [update]
  by_cases many : frame.detections.length > maxDetectionsPerFrame
  · rw [if_pos many]
    exact Or.inl ⟨many, _, rfl⟩
  · rw [if_neg many]
    have few := Nat.le_of_not_lt many
    by_cases noRoom : frame.room tracker.tracks.length = false
    · rw [if_pos noRoom]
      exact Or.inr (Or.inl ⟨few, _, rfl⟩)
    · rw [if_neg noRoom]
      by_cases noOutput : frame.room frame.detections.length = false
      · rw [if_pos noOutput]
        exact Or.inr (Or.inl ⟨few, _, rfl⟩)
      · rw [if_neg noOutput]
        exact Or.inr (Or.inr ⟨few, rfl⟩)

/-- An update that succeeds has run the loop. -/
theorem update_ok {output : List (Track Box Score)}
    (isOutput : (tracker.update matching frame).1 = .ok output) :
    frame.detections.length <= maxDetectionsPerFrame ∧
      output = (tracker.scan matching frame.detections).output ∧
      (tracker.update matching frame).2 =
        { tracker with
          nextId := (tracker.scan matching frame.detections).nextId
          tracks := prune tracker.maxLost
            ((tracker.scan matching frame.detections).entries.map Entry.track) } := by
  rcases update_cases matching tracker frame with
    ⟨_, _, isUpdate⟩ | ⟨_, _, isUpdate⟩ | ⟨few, isUpdate⟩
  · rw [isUpdate] at isOutput
    cases isOutput
  · rw [isUpdate] at isOutput
    cases isOutput
  · rw [isUpdate] at isOutput ⊢
    cases isOutput
    exact ⟨few, rfl, rfl⟩

/-! ### What is kept after the loop -/

section Pruning

variable {maxLost : Nat} {tracks : List (TrackStateInner Box Score)}
  {track : TrackStateInner Box Score}

theorem prune_length_le (maxLost : Nat) (tracks : List (TrackStateInner Box Score)) :
    (prune maxLost tracks).length <= maxTracks := by
  rw [prune]
  split
  · rw [List.length_take]
    exact Nat.min_le_left _ _
  · rename_i few
    exact Nat.le_of_not_lt few

/-- The tracks that are kept are some of those that are not lost for too long. -/
theorem prune_subperm (maxLost : Nat) (tracks : List (TrackStateInner Box Score)) :
    (prune maxLost tracks).Subperm (tracks.filter fun track => decide (track.lost <= maxLost)) := by
  rw [prune]
  split
  · exact (List.take_sublist _ _).subperm.trans (sortByKey_perm _ _).subperm
  · exact List.Subperm.refl _

theorem mem_of_mem_prune (member : track ∈ prune maxLost tracks) :
    track ∈ tracks ∧ track.lost <= maxLost := by
  rcases List.mem_filter.mp ((prune_subperm maxLost tracks).subset member) with ⟨isTrack, small⟩
  exact ⟨isTrack, of_decide_eq_true small⟩

theorem prune_ids (ids : (tracks.map TrackStateInner.trackId).Nodup) :
    ((prune maxLost tracks).map TrackStateInner.trackId).Nodup := by
  have distinct : ((tracks.filter fun track => decide (track.lost <= maxLost)).map
      TrackStateInner.trackId).Nodup := ids.sublist (List.filter_sublist.map _)
  rcases prune_subperm maxLost tracks with ⟨same, isPerm, sublist⟩
  exact ((isPerm.map _).nodup_iff).mp (distinct.sublist (sublist.map _))

theorem keys_nodup (ids : (tracks.map TrackStateInner.trackId).Nodup) :
    (tracks.map keepKey).Nodup := by
  refine List.Nodup.of_map (fun key => (ofLex key).2) ?_
  rw [List.map_map]
  exact ids

/-- A track that is not lost for too long is kept if fewer than the limit are
before it. -/
theorem mem_prune (ids : (tracks.map TrackStateInner.trackId).Nodup) (member : track ∈ tracks)
    (small : track.lost <= maxLost)
    (early : rank keepKey (tracks.filter fun track => decide (track.lost <= maxLost)) track <
      maxTracks) : track ∈ prune maxLost tracks := by
  have isRetained : track ∈ tracks.filter fun track => decide (track.lost <= maxLost) :=
    List.mem_filter.mpr ⟨member, decide_eq_true small⟩
  rw [prune]
  split
  · have distinct := keys_nodup (ids.sublist ((List.filter_sublist
      (p := fun track : TrackStateInner Box Score => decide (track.lost <= maxLost))).map _))
    exact (mem_take_sortByKey distinct isRetained maxTracks).mpr early
  · exact isRetained

end Pruning

/-! ### What an update keeps -/

/-- What holds of every tracker. -/
structure Inv (tracker : ByteTrack Box Score Ratio) : Prop where
  few : tracker.tracks.length <= maxTracks
  patience : tracker.maxLost <= maxMaxLost
  ids : tracker.nextId < u64Max -> (tracker.tracks.map TrackStateInner.trackId).Nodup
  below : tracker.nextId < u64Max ->
    forall track, track ∈ tracker.tracks -> track.trackId < tracker.nextId

omit [LinearOrder Ratio] in
theorem inv_new {maxLost : Nat} (patience : maxLost <= maxMaxLost) (matchThreshold : Ratio) :
    Inv (new maxLost matchThreshold : ByteTrack Box Score Ratio) where
  few := Nat.zero_le _
  patience := patience
  ids := fun _ => List.nodup_nil
  below := fun _ _ member => nomatch member

theorem age_ids (tracks : List (TrackStateInner Box Score)) :
    (tracks.map age).map TrackStateInner.trackId = tracks.map TrackStateInner.trackId := by
  rw [List.map_map]
  rfl

theorem scan_nextId (matching : Matching Box Ratio) (tracker : ByteTrack Box Score Ratio)
    (detections : List (Detection Box Score)) :
    min tracker.nextId u64Max <= (tracker.scan matching detections).nextId ∧
      (tracker.scan matching detections).nextId <= tracker.nextId + detections.length :=
  Scan.placeAll_nextId matching tracker.matchThreshold
    ⟨(tracker.tracks.map age).map fun track => ⟨track, false⟩, tracker.nextId, []⟩ detections

/-- The loop is sound if ids are left after it. -/
theorem Inv.scan (inv : Inv tracker) {detections : List (Detection Box Score)}
    (left : (tracker.scan matching detections).nextId < u64Max) :
    (tracker.scan matching detections).Sound (tracker.tracks.map age) tracker.nextId := by
  have before := (scan_nextId matching tracker detections).1
  have isLeft : tracker.nextId < u64Max := by omega
  refine Scan.Sound.placeAll (Scan.sound_start ?_ ?_) (Nat.le_refl _) left
  · rw [age_ids]
    exact inv.ids isLeft
  · intro track member
    rcases List.mem_map.mp member with ⟨original, isOriginal, rfl⟩
    exact inv.below isLeft original isOriginal

theorem Inv.update (inv : Inv tracker) (frame : Frame Box Score) :
    Inv (tracker.update matching frame).2 := by
  rcases update_cases matching tracker frame with
    ⟨_, _, isUpdate⟩ | ⟨_, _, isUpdate⟩ | ⟨_, isUpdate⟩
  · rw [isUpdate]
    exact inv
  · rw [isUpdate]
    refine ⟨?_, inv.patience, ?_, ?_⟩
    · rw [List.length_map]
      exact inv.few
    · intro left
      rw [age_ids]
      exact inv.ids left
    · intro left track member
      rcases List.mem_map.mp member with ⟨original, isOriginal, rfl⟩
      exact inv.below left original isOriginal
  · rw [isUpdate]
    refine ⟨prune_length_le _ _, inv.patience, ?_, ?_⟩
    · intro left
      refine prune_ids ?_
      rw [List.map_map]
      exact (inv.scan left).ids
    · intro left track member
      rcases List.mem_map.mp (mem_of_mem_prune member).1 with ⟨entry, isEntry, rfl⟩
      exact (inv.scan left).below entry isEntry

/-- What is promised of an update. -/
structure Updated (frame : Frame Box Score)
    (result : Except Graph.Error (List (Track Box Score)) × ByteTrack Box Score Ratio) :
    Prop where
  few : result.2.tracks.length <= maxTracks
  ids : result.2.nextId < u64Max -> (result.2.tracks.map TrackStateInner.trackId).Nodup
  below : result.2.nextId < u64Max ->
    forall track, track ∈ result.2.tracks -> track.trackId < result.2.nextId
  outputs : forall output, result.1 = .ok output -> output.map Track.detection = frame.detections
  once : forall output, result.1 = .ok output -> result.2.nextId < u64Max ->
    (output.map Track.trackId).Nodup

theorem Inv.updated (inv : Inv tracker) (matching : Matching Box Ratio) (frame : Frame Box Score) :
    Updated frame (tracker.update matching frame) := by
  have next : Inv (tracker.update matching frame).2 := inv.update frame
  refine ⟨next.few, next.ids, next.below, ?_, ?_⟩
  · intro output isOutput
    rcases update_ok isOutput with ⟨_, rfl, _⟩
    exact Scan.placeAll_outputs matching tracker.matchThreshold _ frame.detections
  · intro output isOutput left
    rcases update_ok isOutput with ⟨_, rfl, isUpdate⟩
    rw [isUpdate] at left
    exact (inv.scan left).outputIds

/-! ## Tracks that are not matched -/

/-- No detection of the frame takes the track. -/
def Misses (matching : Matching Box Ratio) (id : Nat) (tracker : ByteTrack Box Score Ratio)
    (frame : Frame Box Score) : Prop :=
  forall output, (tracker.update matching frame).1 = .ok output -> id ∉ output.map Track.trackId

/-- So many tracks are kept before the track that there is no place for it. -/
def Evicts (matching : Matching Box Ratio) (id : Nat) (tracker : ByteTrack Box Score Ratio)
    (frame : Frame Box Score) : Prop :=
  Exists fun track => track ∈ tracker.retained matching frame ∧ track.trackId = id ∧
    maxTracks <= rank keepKey (tracker.retained matching frame) track

/-- The frame is not refused. -/
def accepted (frame : Frame Box Score) : Bool :=
  decide (frame.detections.length <= maxDetectionsPerFrame)

/-- The frames by which the tracks have aged. -/
def missed (frames : List (Frame Box Score)) : Nat := frames.countP accepted

theorem missed_of_many (many : maxDetectionsPerFrame < frame.detections.length) :
    missed [frame] = 0 := by
  simp [missed, accepted, many]

theorem missed_of_few (few : frame.detections.length <= maxDetectionsPerFrame) :
    missed [frame] = 1 := by
  simp [missed, accepted, few]

theorem age_lost {track : TrackStateInner Box Score} (small : track.lost < u32Max) :
    age track = { track with lost := track.lost + 1 } := by
  rw [age, saturatingSucc, Nat.min_eq_left small]

theorem update_nextId (matching : Matching Box Ratio) (tracker : ByteTrack Box Score Ratio)
    (frame : Frame Box Score) :
    min tracker.nextId u64Max <= (tracker.update matching frame).2.nextId := by
  rcases update_cases matching tracker frame with
    ⟨_, _, isUpdate⟩ | ⟨_, _, isUpdate⟩ | ⟨_, isUpdate⟩
  · rw [isUpdate]
    exact Nat.min_le_left _ _
  · rw [isUpdate]
    exact Nat.min_le_left _ _
  · rw [isUpdate]
    exact (scan_nextId matching tracker frame.detections).1

theorem update_maxLost (matching : Matching Box Ratio) (tracker : ByteTrack Box Score Ratio)
    (frame : Frame Box Score) : (tracker.update matching frame).2.maxLost = tracker.maxLost := by
  rcases update_cases matching tracker frame with
    ⟨_, _, isUpdate⟩ | ⟨_, _, isUpdate⟩ | ⟨_, isUpdate⟩ <;> rw [isUpdate]

theorem run_nextId {final : ByteTrack Box Score Ratio} {frames : List (Frame Box Score)}
    (reached : (tracking matching).run tracker frames = some final) :
    min tracker.nextId u64Max <= final.nextId := by
  induction frames generalizing tracker with
  | nil =>
      cases reached
      exact Nat.min_le_left _ _
  | cons frame frames ih =>
      rcases (tracking matching).run_cons_iff.mp reached with ⟨next, stepped, rest⟩
      cases stepped
      have first := update_nextId matching tracker frame
      have later := ih rest
      omega

/-- A track that is not taken ages and is kept, unless it is lost for too long
or evicted. -/
theorem Inv.kept (inv : Inv tracker) {track : TrackStateInner Box Score}
    (isTrack : track ∈ tracker.tracks)
    (left : (tracker.update matching frame).2.nextId < u64Max)
    (misses : Misses matching track.trackId tracker frame)
    (spared : ¬ Evicts matching track.trackId tracker frame)
    (small : track.lost + missed [frame] <= tracker.maxLost) :
    { track with lost := track.lost + missed [frame] } ∈
      (tracker.update matching frame).2.tracks := by
  have patience := inv.patience
  have limits : maxMaxLost < u32Max := by decide
  rcases update_cases matching tracker frame with
    ⟨many, _, isUpdate⟩ | ⟨few, _, isUpdate⟩ | ⟨few, isUpdate⟩
  · rw [isUpdate, missed_of_many many]
    exact isTrack
  · rw [missed_of_few few] at small ⊢
    rw [isUpdate, ← age_lost (by omega)]
    exact List.mem_map_of_mem isTrack
  · rw [missed_of_few few] at small ⊢
    have isAged := age_lost (show track.lost < u32Max by omega)
    rw [isUpdate] at left
    have sound := inv.scan left
    have unseen : track.trackId ∉
        (tracker.scan matching frame.detections).output.map Track.trackId :=
      misses _ (congrArg Prod.fst isUpdate)
    have isEntry := sound.kept (age track) (List.mem_map_of_mem isTrack) unseen
    have isScanned : age track ∈
        (tracker.scan matching frame.detections).entries.map Entry.track :=
      List.mem_map_of_mem (f := Entry.track) isEntry
    rw [isAged] at isScanned
    have isRetained : { track with lost := track.lost + 1 } ∈ tracker.retained matching frame :=
      List.mem_filter.mpr ⟨isScanned, decide_eq_true small⟩
    have ids : (((tracker.scan matching frame.detections).entries.map Entry.track).map
        TrackStateInner.trackId).Nodup := by
      rw [List.map_map]
      exact sound.ids
    rw [isUpdate]
    refine mem_prune ids isScanned small (Nat.lt_of_not_le fun outranked => ?_)
    exact spared ⟨_, isRetained, rfl, outranked⟩

/-- A track with this id has missed at least so many frames. -/
def Late (id count : Nat) (tracker : ByteTrack Box Score Ratio) : Prop :=
  forall track, track ∈ tracker.tracks -> track.trackId = id -> min count u32Max <= track.lost

omit [LinearOrder Ratio] in
theorem Late.age {id count : Nat} (late : Late id count tracker) :
    forall track, track ∈ tracker.tracks.map age -> track.trackId = id ->
      min (count + 1) u32Max <= track.lost := by
  intro track member isId
  rcases List.mem_map.mp member with ⟨original, isOriginal, rfl⟩
  have before := late original isOriginal isId
  show min (count + 1) u32Max <= min (original.lost + 1) u32Max
  omega

/-- Of what the loop leaves, a track that nothing has taken has aged. -/
theorem Inv.late_scan (inv : Inv tracker) {id count : Nat}
    {detections : List (Detection Box Score)}
    (left : (tracker.scan matching detections).nextId < u64Max)
    (unseen : id ∉ (tracker.scan matching detections).output.map Track.trackId)
    (late : Late id count tracker) :
    forall track, track ∈ (tracker.scan matching detections).entries.map Entry.track ->
      track.trackId = id -> min (count + 1) u32Max <= track.lost := by
  intro track member isId
  rcases List.mem_map.mp member with ⟨entry, isEntry, rfl⟩
  cases matched : entry.matched with
  | true =>
      have isOutput := ((inv.scan left).fresh entry isEntry matched).2
      rw [Entry.id, isId] at isOutput
      exact absurd isOutput unseen
  | false => exact late.age _ ((inv.scan left).untouched entry isEntry matched) isId

theorem Inv.late (inv : Inv tracker) {id count : Nat}
    (left : (tracker.update matching frame).2.nextId < u64Max)
    (misses : Misses matching id tracker frame) (late : Late id count tracker) :
    Late id (count + missed [frame]) (tracker.update matching frame).2 := by
  rcases update_cases matching tracker frame with
    ⟨many, _, isUpdate⟩ | ⟨few, _, isUpdate⟩ | ⟨few, isUpdate⟩
  · rw [isUpdate, missed_of_many many]
    exact late
  · rw [isUpdate, missed_of_few few]
    exact late.age
  · rw [isUpdate] at left
    have unseen := misses _ (congrArg Prod.fst isUpdate)
    rw [isUpdate, missed_of_few few]
    intro track member isId
    exact inv.late_scan left unseen late track (mem_of_mem_prune member).1 isId

/-- Saturation does not keep a count below what it has to exceed. -/
theorem exceeds {most largest count lost : Nat} (representable : most < largest)
    (long : most < count + 1) (late : min (count + 1) largest <= lost) : ¬ lost <= most := by
  omega

/-- An update with memory drops a track that is lost for too long. -/
theorem Inv.dropped (inv : Inv tracker) {id count : Nat} {output : List (Track Box Score)}
    (left : (tracker.update matching frame).2.nextId < u64Max)
    (isOutput : (tracker.update matching frame).1 = .ok output)
    (misses : Misses matching id tracker frame) (late : Late id count tracker)
    (long : tracker.maxLost < count + 1) :
    id ∉ (tracker.update matching frame).2.tracks.map TrackStateInner.trackId := by
  have patience := inv.patience
  have limits : maxMaxLost < u32Max := by decide
  have unseen := misses output isOutput
  rcases update_ok isOutput with ⟨_, rfl, isUpdate⟩
  rw [isUpdate] at left
  rw [isUpdate]
  intro member
  rcases List.mem_map.mp member with ⟨track, isTrack, isId⟩
  rcases mem_of_mem_prune isTrack with ⟨isScanned, small⟩
  exact absurd small
    (exceeds (patience.trans_lt limits) long (inv.late_scan left unseen late track isScanned isId))

/-! ## Runs -/

theorem missed_cons (frame : Frame Box Score) (frames : List (Frame Box Score)) :
    missed (frame :: frames) = missed [frame] + missed frames := by
  rw [missed, ← List.singleton_append, List.countP_append]
  rfl

theorem missed_append (first second : List (Frame Box Score)) :
    missed (first ++ second) = missed first + missed second := List.countP_append

theorem missed_of_ok {output : List (Track Box Score)}
    (isOutput : (tracker.update matching frame).1 = .ok output) : missed [frame] = 1 :=
  missed_of_few (update_ok isOutput).1

variable {final : ByteTrack Box Score Ratio} {frames : List (Frame Box Score)}

/-- The states of a run have ids left if its last one has. -/
theorem left_of_run (reached : (tracking matching).run tracker frames = some final)
    (left : final.nextId < u64Max) : tracker.nextId < u64Max := by
  have most := run_nextId reached
  omega

theorem Inv.run (inv : Inv tracker) (reached : (tracking matching).run tracker frames = some final) :
    Inv final := by
  refine (tracking matching).run_invariant Inv (fun state frame next inv stepped => ?_) inv
    ⟨frames, reached⟩
  cases stepped
  exact inv.update frame

theorem run_maxLost (reached : (tracking matching).run tracker frames = some final) :
    final.maxLost = tracker.maxLost := by
  refine (tracking matching).run_invariant (fun state => state.maxLost = tracker.maxLost)
    (fun state frame next same stepped => ?_) rfl ⟨frames, reached⟩
  cases stepped
  exact (update_maxLost matching state frame).trans same

/-- A track that is neither taken nor evicted is kept for `maxLost` frames. -/
theorem Inv.run_kept (inv : Inv tracker) {track : TrackStateInner Box Score}
    (isTrack : track ∈ tracker.tracks)
    (reached : (tracking matching).run tracker frames = some final) (left : final.nextId < u64Max)
    (misses : (tracking matching).Meets (Misses matching track.trackId) tracker frames)
    (spared : (tracking matching).Meets
      (fun state frame => ¬ Evicts matching track.trackId state frame) tracker frames)
    (small : track.lost + missed frames <= tracker.maxLost) :
    { track with lost := track.lost + missed frames } ∈ final.tracks := by
  induction frames generalizing tracker track with
  | nil =>
      cases reached
      exact isTrack
  | cons frame frames ih =>
      rcases (tracking matching).run_cons_iff.mp reached with ⟨next, stepped, rest⟩
      cases stepped
      rw [missed_cons, ← Nat.add_assoc] at small ⊢
      have first := inv.kept isTrack (left_of_run rest left) misses.1 spared.1
        (Nat.le_trans (Nat.le_add_right _ _) small)
      refine ih (inv.update frame) first rest (misses.2 _ rfl) (spared.2 _ rfl) ?_
      rw [update_maxLost]
      exact small

theorem Inv.run_late (inv : Inv tracker) {id count : Nat}
    (reached : (tracking matching).run tracker frames = some final) (left : final.nextId < u64Max)
    (misses : (tracking matching).Meets (Misses matching id) tracker frames)
    (late : Late id count tracker) : Late id (count + missed frames) final := by
  induction frames generalizing tracker count with
  | nil =>
      cases reached
      exact late
  | cons frame frames ih =>
      rcases (tracking matching).run_cons_iff.mp reached with ⟨next, stepped, rest⟩
      cases stepped
      rw [missed_cons, ← Nat.add_assoc]
      exact ih (inv.update frame) rest (misses.2 _ rfl)
        (inv.late (left_of_run rest left) misses.1 late)

/-- A track that is not taken is no longer there after more than `maxLost`
frames. -/
theorem Inv.run_dropped (inv : Inv tracker) {track : TrackStateInner Box Score}
    (isTrack : track ∈ tracker.tracks) {before : List (Frame Box Score)}
    {middle : ByteTrack Box Score Ratio} {output : List (Track Box Score)}
    (atMiddle : (tracking matching).run tracker before = some middle)
    (isOutput : (middle.update matching frame).1 = .ok output)
    (left : (middle.update matching frame).2.nextId < u64Max)
    (misses : (tracking matching).Meets (Misses matching track.trackId) tracker (before ++ [frame]))
    (long : tracker.maxLost < track.lost + missed (before ++ [frame])) :
    track.trackId ∉ (middle.update matching frame).2.tracks.map TrackStateInner.trackId := by
  have middleLeft : middle.nextId < u64Max := by
    have most := update_nextId matching middle frame
    omega
  have isLate : Late track.trackId track.lost tracker := by
    intro other isOther same
    have ids := inv.ids (left_of_run atMiddle middleLeft)
    rw [List.inj_on_of_nodup_map ids isOther isTrack same]
    exact Nat.min_le_left _ _
  have early : (tracking matching).Meets (Misses matching track.trackId) tracker before :=
    Machine.Meets.first _ misses
  have last : Misses matching track.trackId middle frame :=
    (Machine.Meets.rest _ misses atMiddle).1
  refine (inv.run atMiddle).dropped left isOutput last
    (inv.run_late atMiddle middleLeft early isLate) ?_
  rw [run_maxLost atMiddle]
  rw [missed_append, missed_of_ok isOutput] at long
  omega

/-- After every update ids are distinct and below the next one as long as there
are fresh ids, each detection has one output and each track at most one
detection, and there are no more tracks than the limit.  A track that is no
longer taken is kept for exactly `maxLost` frames unless it is evicted. -/
theorem tracker_invariant (matching : Matching Box Ratio) {maxLost : Nat}
    (patience : maxLost <= maxMaxLost) (matchThreshold : Ratio)
    {tracker : ByteTrack Box Score Ratio}
    (reachable : (tracking matching).Reachable (new maxLost matchThreshold) tracker) :
    (forall frame, Updated frame (tracker.update matching frame)) ∧
    forall track, track ∈ tracker.tracks -> forall frames final,
      (tracking matching).run tracker frames = some final -> final.nextId < u64Max ->
      (tracking matching).Meets (Misses matching track.trackId) tracker frames ->
        (track.lost + missed frames <= maxLost ->
          (tracking matching).Meets (fun state frame => ¬ Evicts matching track.trackId state frame)
            tracker frames ->
          { track with lost := track.lost + missed frames } ∈ final.tracks) ∧
        (maxLost < track.lost + missed frames ->
          (Exists fun before => Exists fun last => Exists fun middle => Exists fun output =>
            frames = before ++ [last] ∧ (tracking matching).run tracker before = some middle ∧
              (middle.update matching last).1 = .ok output) ->
          track.trackId ∉ final.tracks.map TrackStateInner.trackId) := by
  rcases reachable with ⟨earlier, atTracker⟩
  have inv := (inv_new patience matchThreshold).run atTracker
  have sameLimit : tracker.maxLost = maxLost := run_maxLost atTracker
  refine ⟨fun frame => inv.updated matching frame, ?_⟩
  intro track isTrack frames final reached left misses
  constructor
  · intro small spared
    rw [← sameLimit] at small
    exact inv.run_kept isTrack reached left misses spared small
  · rintro long ⟨before, last, middle, output, rfl, atMiddle, isOutput⟩
    have isFinal : (middle.update matching last).2 = final := by
      rw [(tracking matching).run_append atMiddle] at reached
      exact Option.some.inj reached
    subst isFinal
    rw [← sameLimit] at long
    exact inv.run_dropped isTrack atMiddle isOutput left misses long

/-! ## Too many tracks and too many ids -/

/-- Boxes without an area do not overlap. -/
def pointMatching : Matching Unit Nat where
  iou := fun _ _ => 0
  reaches := fun ratio threshold => decide (threshold <= ratio)

def point : Detection Unit Nat := ⟨(), 0, 0, none⟩

def pointFrame (count : Nat) : Frame Unit Nat := ⟨List.replicate count point, fun _ => true⟩

theorem update_of_room (matching : Matching Box Ratio) (tracker : ByteTrack Box Score Ratio)
    (few : frame.detections.length <= maxDetectionsPerFrame)
    (room : frame.room = fun _ => true) :
    tracker.update matching frame = (.ok (tracker.scan matching frame.detections).output,
      { tracker with
        nextId := (tracker.scan matching frame.detections).nextId
        tracks := prune tracker.maxLost
          ((tracker.scan matching frame.detections).entries.map Entry.track) }) := by
  rw [update, if_neg (Nat.not_lt.mpr few), room]
  rfl

/-- With more new tracks than the limit one is not kept. -/
theorem crowd_not_kept {count : Nat} (many : maxTracks < count)
    (few : count <= maxDetectionsPerFrame) : Exists fun output =>
      ((new 2 1 : ByteTrack Unit Nat Nat).update pointMatching (pointFrame count)).1 =
        .ok output ∧
      Exists fun track => track ∈ output ∧ track.trackId ∉
        ((new 2 1 : ByteTrack Unit Nat Nat).update pointMatching
          (pointFrame count)).2.tracks.map TrackStateInner.trackId := by
  have inv : Inv (new 2 1 : ByteTrack Unit Nat Nat) := inv_new (by decide) 1
  have isCount : (pointFrame count).detections.length = count := List.length_replicate
  have isUpdate := update_of_room pointMatching (new 2 1) (isCount.trans_le few) rfl
  have updated := inv.updated pointMatching (pointFrame count)
  have left : ((new 2 1 : ByteTrack Unit Nat Nat).update pointMatching
      (pointFrame count)).2.nextId < u64Max := by
    have most := (scan_nextId pointMatching (new 2 1) (pointFrame count).detections).2
    have isFirst : (new 2 1 : ByteTrack Unit Nat Nat).nextId = 1 := rfl
    have isLarge : maxDetectionsPerFrame + 1 < u64Max := by decide
    rw [isUpdate]
    show (scan pointMatching (new 2 1) (pointFrame count).detections).nextId < u64Max
    omega
  have isOutput := congrArg Prod.fst isUpdate
  have outputs := congrArg List.length (updated.outputs _ isOutput)
  rw [List.length_map, isCount] at outputs
  refine ⟨_, isOutput, ?_⟩
  by_contra none
  push Not at none
  have subset : (scan pointMatching (new 2 1) (pointFrame count).detections).output.map
      Track.trackId ⊆ ((new 2 1 : ByteTrack Unit Nat Nat).update pointMatching
        (pointFrame count)).2.tracks.map TrackStateInner.trackId := by
    intro id member
    rcases List.mem_map.mp member with ⟨track, isTrack, rfl⟩
    exact none track isTrack
  have kept := (updated.once _ isOutput left).length_le_of_subset subset
  rw [List.length_map, List.length_map, outputs] at kept
  have limit := updated.few
  omega

/-- A detection of a point begins a track. -/
theorem best_point (entries : List (Entry Unit Nat)) :
    Scan.best pointMatching 1 entries point = none := by
  have nothing : entries.zipIdx.filter (fun candidate =>
      !candidate.1.matched && candidate.1.track.detection.classId == point.classId &&
        pointMatching.reaches
          (pointMatching.iou candidate.1.track.detection.bbox point.bbox) 1) = [] := by
    refine List.filter_eq_nil_iff.mpr fun candidate _ isCandidate => ?_
    rw [Bool.and_eq_true] at isCandidate
    cases isCandidate.2
  rw [Scan.best, nothing]
  rfl

/-- If nothing may be lost then only the last point is kept. -/
theorem update_point (nextId : Nat) (tracks : List (TrackStateInner Unit Nat)) :
    ((⟨nextId, 0, 1, tracks⟩ : ByteTrack Unit Nat Nat).update pointMatching (pointFrame 1)).2 =
      ⟨saturatingSucc u64Max nextId, 0, 1, [⟨nextId, point, 0⟩]⟩ := by
  have isPlaced (entries : List (Entry Unit Nat)) :
      Scan.placeAll pointMatching 1 ⟨entries, nextId, []⟩ [point] =
        ⟨entries ++ [⟨⟨nextId, point, 0⟩, true⟩], saturatingSucc u64Max nextId,
          [⟨nextId, point, .new⟩]⟩ := by
    show Scan.place pointMatching 1 ⟨entries, nextId, []⟩ point = _
    rw [Scan.place, best_point]
    rfl
  have lost : (tracks.map age).filter (fun track => decide (track.lost <= 0)) = [] := by
    refine List.filter_eq_nil_iff.mpr fun track member small => ?_
    rcases List.mem_map.mp member with ⟨original, _, rfl⟩
    have isSmall : min (original.lost + 1) u32Max <= 0 := of_decide_eq_true small
    have isLarge : 0 < u32Max := by decide
    omega
  have isKept : prune 0 ((tracks.map age) ++ [⟨nextId, point, 0⟩]) = [⟨nextId, point, 0⟩] := by
    rw [prune, List.filter_append, lost]
    rfl
  have isAged : ((tracks.map age).map fun track => (⟨track, false⟩ : Entry Unit Nat)).map
      Entry.track = tracks.map age := by
    rw [List.map_map]
    exact List.map_id _
  rw [update_of_room pointMatching _ (by decide) rfl]
  show ByteTrack.mk (Scan.placeAll pointMatching 1 _ [point]).nextId 0 1
    (prune 0 ((Scan.placeAll pointMatching 1 _ [point]).entries.map Entry.track)) = _
  rw [isPlaced, List.map_append, isAged]
  exact congrArg (ByteTrack.mk (saturatingSucc u64Max nextId) 0 1) isKept

theorem run_points (count nextId : Nat) (tracks : List (TrackStateInner Unit Nat))
    (representable : nextId <= u64Max) :
    (tracking pointMatching).run (⟨nextId, 0, 1, tracks⟩ : ByteTrack Unit Nat Nat)
        (List.replicate (count + 1) (pointFrame 1)) =
      some ⟨min (nextId + count + 1) u64Max, 0, 1, [⟨min (nextId + count) u64Max, point, 0⟩]⟩ := by
  induction count generalizing nextId tracks with
  | zero =>
      have isLast : min (nextId + 0) u64Max = nextId := Nat.min_eq_left representable
      rw [isLast]
      exact congrArg some (update_point nextId tracks)
  | succ count ih =>
      have next : saturatingSucc u64Max nextId <= u64Max := Nat.min_le_right _ _
      rw [List.replicate_succ]
      refine ((tracking pointMatching).run_cons_iff).mpr
        ⟨_, congrArg some (update_point nextId tracks), ?_⟩
      rw [ih _ _ next, saturatingSucc]
      have isNext : min (min (nextId + 1) u64Max + count + 1) u64Max =
          min (nextId + (count + 1) + 1) u64Max := by omega
      have isLast : min (min (nextId + 1) u64Max + count) u64Max =
          min (nextId + (count + 1)) u64Max := by omega
      rw [isNext, isLast]

/-- The tracker after its first point. -/
def pointTracker : ByteTrack Unit Nat Nat := ⟨2, 0, 1, [⟨1, point, 0⟩]⟩

/-- The track of a point that may not be lost is dropped by an empty frame. -/
theorem point_dropped :
    Updated (pointFrame 0) (pointTracker.update pointMatching (pointFrame 0)) ∧
      1 ∉ (pointTracker.update pointMatching (pointFrame 0)).2.tracks.map
        TrackStateInner.trackId := by
  have reachable : (tracking pointMatching).Reachable (new 0 1) pointTracker :=
    ⟨[pointFrame 1], congrArg some (update_point 1 [])⟩
  have isOutput : (pointTracker.update pointMatching (pointFrame 0)).1 = .ok [] := rfl
  rcases tracker_invariant pointMatching (by decide) 1 reachable with ⟨updated, lost⟩
  refine ⟨updated (pointFrame 0), (lost ⟨1, point, 0⟩ List.mem_cons_self [pointFrame 0] _ rfl
    (by decide) ⟨?_, fun _ _ => trivial⟩).2 (by decide)
    ⟨[], pointFrame 0, pointTracker, [], rfl, rfl, isOutput⟩⟩
  intro output isOther
  cases isOutput.symm.trans isOther
  exact List.not_mem_nil

/-- Ten thousand and one points at once: one of them is not kept at all.  And
when the ids have run out, a track has the next id. -/
theorem points_lost :
    (Exists fun output =>
      ((new 2 1 : ByteTrack Unit Nat Nat).update pointMatching (pointFrame 10001)).1 =
        .ok output ∧
      Exists fun track => track ∈ output ∧ track.trackId ∉
        ((new 2 1 : ByteTrack Unit Nat Nat).update pointMatching
          (pointFrame 10001)).2.tracks.map TrackStateInner.trackId) ∧
    Exists fun final => Exists fun track =>
      (tracking pointMatching).run (new 0 1 : ByteTrack Unit Nat Nat)
        (List.replicate u64Max (pointFrame 1)) = some final ∧
      track ∈ final.tracks ∧ ¬ track.trackId < final.nextId := by
  refine ⟨crowd_not_kept (by decide) (by decide), _, _,
    run_points (u64Max - 1) 1 [] (by decide), List.mem_cons_self, ?_⟩
  exact Nat.not_lt.mpr (Nat.min_le_right _ _ |>.trans (by decide))

end ByteTrack

end Elements
end DyunGu
