import DyunGu.Lib.PriorityQueue
import DyunGu.Lib.Selection
import DyunGu.Graph.Error
import Mathlib.Order.OrderDual

namespace DyunGu
namespace Elements

open Selection

/-!
# Non-maximum suppression

The detections of a model are sorted by descending score, and one that overlaps
too much with a kept one of its class is dropped.  A second entry point first
reduces its input to the detections with the highest scores, which it collects
in a heap whose root is the lowest of them.

Boxes, scores and ratios are floating-point values in the source.  Scores
appear here with the order of `total_cmp`, which is linear, and the arithmetic
on boxes is a parameter.  The reservations that can fail for want of memory are
left out.
-/

structure Detection (Box Score : Type) where
  bbox : Box
  score : Score
  classId : UInt32
  label : Option String
deriving DecidableEq, Repr

/-- What suppression computes with boxes: the overlap `iou` of two of them,
whether a ratio is `>` another one, and whether it is in `0.0..=1.0`. -/
structure Overlap (Box Ratio : Type) where
  iou : Box -> Box -> Ratio
  exceeds : Ratio -> Ratio -> Bool
  inUnitRange : Ratio -> Bool

def maxNmsCandidates : Nat := 100000

def nmsThresholdError : Graph.Error := .config "nms iou threshold must be in [0.0, 1.0]"

variable {Box Ratio Score : Type}

def suppressed (overlap : Overlap Box Ratio) (threshold : Ratio)
    (existing candidate : Detection Box Score) : Bool :=
  existing.classId == candidate.classId &&
    overlap.exceeds (overlap.iou existing.bbox candidate.bbox) threshold

theorem suppressed_iff {overlap : Overlap Box Ratio} {threshold : Ratio}
    {existing candidate : Detection Box Score} :
    suppressed overlap threshold existing candidate = true <->
      existing.classId = candidate.classId ∧
        overlap.exceeds (overlap.iou existing.bbox candidate.bbox) threshold = true := by
  rw [suppressed, Bool.and_eq_true, beq_iff_eq]

variable [LinearOrder Score]

def sortByScore (detections : List (Detection Box Score)) : List (Detection Box Score) :=
  detections.mergeSort fun left right => decide (right.score <= left.score)

def nmsInner (overlap : Overlap Box Ratio) (detections : List (Detection Box Score))
    (threshold : Ratio) : List (Detection Box Score) :=
  greedy (suppressed overlap threshold) (sortByScore detections)

def nms (overlap : Overlap Box Ratio) (detections : List (Detection Box Score))
    (threshold : Ratio) : Except Graph.Error (List (Detection Box Score)) :=
  if !overlap.inUnitRange threshold then
    .error nmsThresholdError
  else if detections.length > maxNmsCandidates then
    .error (.resourceLimit "nms candidates" detections.length maxNmsCandidates)
  else
    .ok (nmsInner overlap detections threshold)

/-- The order of `Reverse(ByScore(detection))`. -/
def reverseByScore (detection : Detection Box Score) : OrderDual Score :=
  OrderDual.toDual detection.score

/-- The heap of candidates, with one of the lowest scores at its root. -/
abbrev CandidateHeap (Box Score : Type) [LinearOrder Score] :=
  PriorityQueue (reverseByScore : Detection Box Score -> OrderDual Score)

/-- One round of the loop that keeps the best candidates in the heap. -/
def offer (heap : CandidateHeap Box Score) (maxCandidates : Nat) (queue : heap.Queue)
    (detection : Detection Box Score) : Except Graph.Error heap.Queue :=
  if heap.len queue < maxCandidates then
    .ok (heap.push queue detection)
  else
    match heap.peek queue with
    | none => .error (.runtime "nms candidate heap unexpectedly empty")
    | some lowest =>
        if lowest.score < detection.score then
          .ok (heap.push (heap.pop queue).2 detection)
        else
          .ok queue

def nmsWithTopK (overlap : Overlap Box Ratio) (heap : CandidateHeap Box Score)
    (detections : List (Detection Box Score)) (threshold : Ratio) (maxCandidates : Nat) :
    Except Graph.Error (List (Detection Box Score)) :=
  if !overlap.inUnitRange threshold then
    .error nmsThresholdError
  else
    let maxCandidates := min maxCandidates maxNmsCandidates
    if maxCandidates = 0 ∨ detections = [] then
      .ok []
    else do
      let queue ← detections.foldlM (offer heap maxCandidates) heap.empty
      return nmsInner overlap (heap.intoSortedVec queue) threshold

/-! ## The plain algorithm -/

/-- What suppression promises about the detections it keeps. -/
structure Suppressed (overlap : Overlap Box Ratio) (threshold : Ratio)
    (detections kept : List (Detection Box Score)) : Prop where
  sorted : kept.Pairwise fun first second => second.score <= first.score
  apart : kept.Pairwise fun first second => first.classId = second.classId ->
    overlap.exceeds (overlap.iou first.bbox second.bbox) threshold = false
  covered : Exists fun dropped => (kept ++ dropped).Perm detections ∧
    forall candidate, candidate ∈ dropped -> Exists fun existing => existing ∈ kept ∧
      existing.classId = candidate.classId ∧ candidate.score <= existing.score ∧
      overlap.exceeds (overlap.iou existing.bbox candidate.bbox) threshold = true

variable {overlap : Overlap Box Ratio} {threshold : Ratio}
    {detections kept : List (Detection Box Score)}

theorem sortByScore_perm (detections : List (Detection Box Score)) :
    (sortByScore detections).Perm detections :=
  List.mergeSort_perm detections _

theorem sortByScore_sorted (detections : List (Detection Box Score)) :
    (sortByScore detections).Pairwise fun first second => second.score <= first.score := by
  refine (List.pairwise_mergeSort ?_ ?_ detections).imp of_decide_eq_true
  · intro first second third above below
    rw [decide_eq_true_eq] at above below ⊢
    exact below.trans above
  · intro first second
    rw [Bool.or_eq_true, decide_eq_true_eq, decide_eq_true_eq]
    exact le_total second.score first.score

theorem nmsInner_suppressed (overlap : Overlap Box Ratio)
    (detections : List (Detection Box Score)) (threshold : Ratio) :
    Suppressed overlap threshold detections (nmsInner overlap detections threshold) := by
  have ordered := sortByScore_sorted detections
  have chosen : Chosen (suppressed overlap threshold) _ (sortByScore detections)
      (nmsInner overlap detections threshold) := greedy_chosen ordered
  refine ⟨ordered.sublist chosen.sublist, chosen.apart.imp ?_, ?_⟩
  · intro first second free sameClass
    by_contra above
    have isSuppressed := suppressed_iff.mpr ⟨sameClass, Bool.eq_true_of_not_eq_false above⟩
    rw [free] at isSuppressed
    exact Bool.false_ne_true isSuppressed
  · rcases chosen.covered with ⟨dropped, split, covered⟩
    refine ⟨dropped, split.trans (sortByScore_perm detections), ?_⟩
    intro candidate isDropped
    rcases covered candidate isDropped with ⟨existing, isKept, suppresses, below⟩
    rcases suppressed_iff.mp suppresses with ⟨sameClass, above⟩
    exact ⟨existing, isKept, sameClass, below, above⟩

theorem nms_eq_ok : nms overlap detections threshold = .ok kept <->
    overlap.inUnitRange threshold = true ∧ detections.length <= maxNmsCandidates ∧
      kept = nmsInner overlap detections threshold := by
  rw [nms]
  cases overlap.inUnitRange threshold with
  | false => simp
  | true =>
      by_cases fits : detections.length <= maxNmsCandidates
      · simp [fits, Nat.not_lt.mpr fits, eq_comm]
      · simp [fits, Nat.lt_of_not_le fits]

/-! ## The best candidates -/

section TopK

variable (heap : CandidateHeap Box Score) {maxCandidates : Nat}

/-- A round of the loop keeps the best of the detections seen so far. -/
theorem offer_best {seen : Multiset (Detection Box Score)} {queue : heap.Queue}
    (positive : maxCandidates ≠ 0)
    (best : Best Detection.score maxCandidates seen (heap.items queue))
    (detection : Detection Box Score) : Exists fun later =>
      offer heap maxCandidates queue detection = .ok later ∧
        Best Detection.score maxCandidates (detection ::ₘ seen) (heap.items later) := by
  rw [offer, heap.len_eq]
  by_cases room : (heap.items queue).card < maxCandidates
  · refine ⟨_, if_pos room, ?_⟩
    rw [heap.items_push]
    exact best.add room
  · have full := Nat.le_of_not_lt room
    rw [if_neg room]
    cases shown : heap.peek queue with
    | none =>
        rw [heap.peek_none queue shown, Multiset.card_zero] at full
        exact absurd (Nat.le_zero.mp full) positive
    | some lowest =>
        have least := (heap.peek_some queue lowest shown).2
        by_cases above : lowest.score < detection.score
        · rcases heap.pop_greatest shown with ⟨removed, split, same⟩
          have sameScore : removed.score = lowest.score := OrderDual.toDual.injective same
          refine ⟨_, if_pos above, ?_⟩
          rw [heap.items_push]
          rw [← split] at best full least
          refine best.replace full ?_ ?_
          · intro high isHeld
            rw [sameScore]
            exact OrderDual.toDual_le_toDual.mp (least high isHeld)
          · rw [sameScore]
            exact above
        · refine ⟨_, if_neg above, best.skip full ?_ (le_of_not_gt above)⟩
          intro high isHeld
          exact OrderDual.toDual_le_toDual.mp (least high isHeld)

theorem offers_best (positive : maxCandidates ≠ 0) (detections : List (Detection Box Score))
    {seen : Multiset (Detection Box Score)} {queue : heap.Queue}
    (best : Best Detection.score maxCandidates seen (heap.items queue)) : Exists fun later =>
      detections.foldlM (offer heap maxCandidates) queue = .ok later ∧
        Best Detection.score maxCandidates (Multiset.ofList detections + seen) (heap.items later) := by
  induction detections generalizing seen queue with
  | nil => exact ⟨queue, rfl, by simpa using best⟩
  | cons detection detections ih =>
      rcases offer_best heap positive best detection with ⟨next, offered, nextBest⟩
      rcases ih nextBest with ⟨later, run, laterBest⟩
      refine ⟨later, ?_, ?_⟩
      · rw [List.foldlM_cons, offered]
        exact run
      · rw [Multiset.add_cons] at laterBest
        rw [← Multiset.cons_coe, Multiset.cons_add]
        exact laterBest

/-- The bounded path is the plain algorithm on the best of the detections. -/
theorem nmsWithTopK_top (overlap : Overlap Box Ratio) (detections : List (Detection Box Score))
    (threshold : Ratio) (maxCandidates : Nat) : Exists fun top => Exists fun rest =>
      (top ++ rest).Perm detections ∧
      top.length = min (min maxCandidates maxNmsCandidates) detections.length ∧
      (forall low, low ∈ rest -> forall high, high ∈ top -> low.score <= high.score) ∧
      nmsWithTopK overlap heap detections threshold maxCandidates =
        nms overlap top threshold := by
  by_cases nothing : min maxCandidates maxNmsCandidates = 0 ∨ detections = []
  · refine ⟨[], detections, List.Perm.refl detections, ?_, by simp, ?_⟩
    · rcases nothing with zero | empty
      · rw [zero, Nat.zero_min, List.length_nil]
      · rw [empty, List.length_nil, Nat.min_zero]
    · rw [nmsWithTopK, nms]
      simp only [if_pos nothing]
      simp [nmsInner, sortByScore, greedy]
  · rcases not_or.mp nothing with ⟨positive, _⟩
    have start : Best Detection.score (min maxCandidates maxNmsCandidates) 0
        (heap.items heap.empty) := by
      rw [heap.items_empty]
      exact Best.zero
    rcases offers_best heap positive detections start with ⟨queue, run, size, left, split, lower⟩
    rcases Quot.exists_rep left with ⟨rest, isRest⟩
    subst isRest
    rw [← heap.items_sorted queue] at size split lower
    rw [add_zero] at size split
    have bounded : (heap.intoSortedVec queue).length <= maxNmsCandidates := by
      rw [← Multiset.coe_card, size]
      exact (Nat.min_le_left _ _).trans (Nat.min_le_right _ _)
    refine ⟨heap.intoSortedVec queue, rest, (Multiset.coe_eq_coe.mp split).symm, size, lower, ?_⟩
    rw [nmsWithTopK, nms, if_neg (Nat.not_lt.mpr bounded)]
    simp only [if_neg nothing, run]
    rfl

end TopK

/-- Suppression keeps detections of descending score, no two of one class with
more overlap than the threshold, and what it drops overlaps more than that with
a kept detection of its class that scores as high.  Up to the ceiling every list
is handled, and the path with a bound on the candidates is the plain algorithm
on as many detections of the highest scores. -/
theorem nms_selects (overlap : Overlap Box Ratio) (heap : CandidateHeap Box Score)
    (detections : List (Detection Box Score)) (threshold : Ratio) (maxCandidates : Nat) :
    (forall kept, nms overlap detections threshold = .ok kept ->
      Suppressed overlap threshold detections kept ∧
      ((forall first second, overlap.exceeds (overlap.iou first second) threshold =
          overlap.exceeds (overlap.iou second first) threshold) ->
        kept.Pairwise fun first second => first.classId = second.classId ->
          overlap.exceeds (overlap.iou first.bbox second.bbox) threshold = false ∧
          overlap.exceeds (overlap.iou second.bbox first.bbox) threshold = false)) ∧
    (overlap.inUnitRange threshold = true -> detections.length <= maxNmsCandidates ->
      Exists fun kept => nms overlap detections threshold = .ok kept) ∧
    Exists fun top => Exists fun rest => (top ++ rest).Perm detections ∧
      top.length = min (min maxCandidates maxNmsCandidates) detections.length ∧
      (forall low, low ∈ rest -> forall high, high ∈ top -> low.score <= high.score) ∧
      nmsWithTopK overlap heap detections threshold maxCandidates =
        nms overlap top threshold := by
  refine ⟨?_, ?_, nmsWithTopK_top heap overlap detections threshold maxCandidates⟩
  · intro kept accepted
    have same := (nms_eq_ok.mp accepted).2.2
    subst same
    have result := nmsInner_suppressed overlap detections threshold
    refine ⟨result, ?_⟩
    intro symmetric
    refine result.apart.imp ?_
    intro first second apart sameClass
    exact ⟨apart sameClass, (symmetric _ _).trans (apart sameClass)⟩
  · intro valid fits
    exact ⟨_, nms_eq_ok.mpr ⟨valid, fits, rfl⟩⟩

/-- A box with whole coordinates. -/
structure PixelBox where
  x : Nat
  y : Nat
  w : Nat
  h : Nat
deriving DecidableEq, Repr

/-- The overlap of boxes with whole coordinates, as a numerator and a
denominator. -/
def pixelOverlap : Overlap PixelBox (Nat × Nat) where
  iou := fun left right =>
    let width := min (left.x + left.w) (right.x + right.w) - max left.x right.x
    let height := min (left.y + left.h) (right.y + right.h) - max left.y right.y
    let union := left.w * left.h + right.w * right.h - width * height
    if union = 0 then (0, 1) else (width * height, union)
  exceeds := fun ratio threshold => decide (threshold.1 * ratio.2 < ratio.1 * threshold.2)
  inUnitRange := fun ratio => decide (0 < ratio.2 ∧ ratio.1 <= ratio.2)

theorem pixelOverlap_comm (left right : PixelBox) :
    pixelOverlap.iou left right = pixelOverlap.iou right left := by
  simp only [pixelOverlap]
  rw [min_comm (left.x + left.w), min_comm (left.y + left.h), max_comm left.x, max_comm left.y,
    Nat.add_comm (left.w * left.h)]

/-- Two boxes that share most of their area and one of another class. -/
def threeBoxes : List (Detection PixelBox Nat) :=
  [⟨⟨0, 0, 10, 10⟩, 9, 1, none⟩, ⟨⟨1, 0, 10, 10⟩, 8, 1, none⟩, ⟨⟨0, 0, 10, 10⟩, 7, 2, none⟩]

def keptBoxes : List (Detection PixelBox Nat) :=
  [⟨⟨0, 0, 10, 10⟩, 9, 1, none⟩, ⟨⟨0, 0, 10, 10⟩, 7, 2, none⟩]

theorem threeBoxes_selected :
    nms pixelOverlap threeBoxes (1, 2) = .ok keptBoxes ∧
    Suppressed pixelOverlap (1, 2) threeBoxes keptBoxes ∧
    (keptBoxes.Pairwise fun first second => first.classId = second.classId ->
      pixelOverlap.exceeds (pixelOverlap.iou first.bbox second.bbox) (1, 2) = false ∧
      pixelOverlap.exceeds (pixelOverlap.iou second.bbox first.bbox) (1, 2) = false) ∧
    Exists fun top => Exists fun rest => (top ++ rest).Perm threeBoxes ∧ top.length = 2 ∧
      (forall low, low ∈ rest -> forall high, high ∈ top -> low.score <= high.score) ∧
      nmsWithTopK pixelOverlap (PriorityQueue.ofLists reverseByScore) threeBoxes (1, 2) 2 =
        nms pixelOverlap top (1, 2) := by
  have result : nms pixelOverlap threeBoxes (1, 2) = .ok keptBoxes := by
    have inOrder : sortByScore threeBoxes = threeBoxes := List.mergeSort_of_pairwise (by decide)
    rw [nms, nmsInner, inOrder]
    decide
  rcases nms_selects pixelOverlap (PriorityQueue.ofLists reverseByScore) threeBoxes (1, 2) 2
    with ⟨plain, _, bounded⟩
  rcases plain keptBoxes result with ⟨suppressed, bothWays⟩
  exact ⟨result, suppressed, bothWays fun _ _ => by rw [pixelOverlap_comm], bounded⟩

end Elements
end DyunGu
