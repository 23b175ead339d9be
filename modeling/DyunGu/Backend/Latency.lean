import DyunGu.Backend.Metrics
import DyunGu.Lib.OrderStatistic
import Mathlib.Algebra.Order.Floor.Div

namespace DyunGu
namespace Backend

open OrderStatistic

/-!
# Latency percentiles

Latencies are counted in buckets with fixed upper bounds, and a percentile is
read off the running sums of the counts.  A snapshot is taken when nothing is
being recorded.
-/

def bucketCount : Nat := 16

/-- The upper bounds of the buckets in nanoseconds. -/
def bucketBounds : List Nat :=
  [100000, 250000, 500000, 1000000, 2500000, 5000000, 10000000, 25000000, 50000000, 100000000,
    250000000, 500000000, 1000000000, 2500000000, 5000000000, u64Max]

def bucketIndex (ns : Nat) : Nat :=
  (bucketBounds.findIdx? fun bound => decide (ns <= bound)).getD (bucketCount - 1)

structure LatencyHistogram where
  buckets : List Nat
  sum : Nat
  max : Nat
  count : Nat
deriving DecidableEq, Repr

structure LatencyPercentiles where
  count : Nat
  sumNs : Nat
  maxNs : Nat
  p50Ns : Nat
  p95Ns : Nat
  p99Ns : Nat
  buckets : List Nat
  cumulative : List Nat
deriving DecidableEq, Repr

def LatencyPercentiles.default : LatencyPercentiles where
  count := 0
  sumNs := 0
  maxNs := 0
  p50Ns := 0
  p95Ns := 0
  p99Ns := 0
  buckets := List.replicate bucketCount 0
  cumulative := List.replicate bucketCount 0

def saturatingAdd (first second : Nat) : Nat := min (first + second) u64Max

def saturatingMul (first second : Nat) : Nat := min (first * second) u64Max

/-- The running sums of the counts. -/
def cumulate : Nat -> List Nat -> List Nat
  | _, [] => []
  | running, value :: values =>
      saturatingAdd running value :: cumulate (saturatingAdd running value) values

/-- The bound of the first bucket up to which there are enough latencies. -/
def percentileFromHistogram (cumulative : List Nat) (count percent : Nat) : Nat :=
  let percent := min percent 100
  let target := saturatingAdd (saturatingMul count percent) 99 / 100
  let target := min (max target 1) count
  match (cumulative.zip bucketBounds).find? fun bucket => decide (target <= bucket.1) with
  | some bucket => bucket.2
  | none => u64Max

namespace LatencyHistogram

def default : LatencyHistogram := ⟨List.replicate bucketCount 0, 0, 0, 0⟩

/-- One more latency, with the counter of overflows. -/
def record (histogram : LatencyHistogram) (ns overflow : Nat) : LatencyHistogram × Nat :=
  let (count, overflow) := saturatingFetchAdd histogram.count 1 overflow
  let (sum, overflow) := saturatingFetchAdd histogram.sum ns overflow
  let bucket := bucketIndex ns
  let (value, overflow) := saturatingFetchAdd (histogram.buckets.getD bucket 0) 1 overflow
  (⟨histogram.buckets.set bucket value, sum, Max.max histogram.max ns, count⟩, overflow)

def snapshot (histogram : LatencyHistogram) : LatencyPercentiles :=
  if histogram.count = 0 then .default
  else
    let cumulative := cumulate 0 histogram.buckets
    { count := histogram.count
      sumNs := histogram.sum
      maxNs := histogram.max
      p50Ns := percentileFromHistogram cumulative histogram.count 50
      p95Ns := percentileFromHistogram cumulative histogram.count 95
      p99Ns := percentileFromHistogram cumulative histogram.count 99
      buckets := histogram.buckets
      cumulative := cumulative }

/-- A histogram with the latencies recorded one after the other. -/
def recorded (samples : List Nat) : LatencyHistogram × Nat :=
  samples.foldl (fun state ns => state.1.record ns state.2) (default, 0)

/-! ## What is recorded -/

/-- The counts are those of the latencies so far. -/
def Counts (samples : List Nat) (histogram : LatencyHistogram) : Prop :=
  histogram.count = samples.length ∧ histogram.buckets = tally bucketIndex bucketCount samples

theorem saturatingFetchAdd_of_lt {current : Nat} (room : current < u64Max) (overflow : Nat) :
    saturatingFetchAdd current 1 overflow = (current + 1, overflow) := by
  rw [saturatingFetchAdd, if_pos (Nat.succ_le_of_lt room)]

theorem record_counts {samples : List Nat} {histogram : LatencyHistogram} (ns : Nat)
    (counts : Counts samples histogram) (room : samples.length < u64Max) (overflow : Nat) :
    Counts (samples ++ [ns]) (histogram.record ns overflow).1 := by
  rcases counts with ⟨count, buckets⟩
  have slotRoom : histogram.buckets.getD (bucketIndex ns) 0 < u64Max := by
    rw [buckets]
    exact (tally_le bucketIndex bucketCount samples _).trans_lt room
  simp only [record]
  rw [saturatingFetchAdd_of_lt slotRoom, count, saturatingFetchAdd_of_lt room]
  constructor
  · rw [List.length_append, List.length_singleton]
  · rw [tally_append, buckets]

theorem recorded_counts {samples : List Nat} (few : samples.length <= u64Max) :
    Counts samples (recorded samples).1 := by
  induction samples using List.reverseRecOn with
  | nil => exact ⟨rfl, (tally_nil bucketIndex bucketCount).symm⟩
  | append_singleton samples ns ih =>
      rw [List.length_append, List.length_singleton] at few
      rw [recorded, List.foldl_append]
      exact record_counts ns (ih (by omega)) few _

end LatencyHistogram

/-! ## Buckets and running sums -/

theorem bucketBounds_ascending : bucketBounds.Pairwise (· <= ·) := by decide

/-- Every latency that is a machine word has a bucket. -/
theorem bucketIndex_eq {ns : Nat} (isWord : ns <= u64Max) :
    bucketIndex ns = bucketBounds.findIdx (fun bound => decide (ns <= bound)) ∧
      bucketIndex ns < bucketCount := by
  have enough : Exists fun bound => bound ∈ bucketBounds ∧ decide (ns <= bound) = true :=
    ⟨u64Max, by simp [bucketBounds], decide_eq_true isWord⟩
  have isIndex : bucketIndex ns = bucketBounds.findIdx (fun bound => decide (ns <= bound)) := by
    rw [bucketIndex, List.findIdx?_eq_some_of_exists enough]
    rfl
  exact ⟨isIndex, isIndex ▸ List.findIdx_lt_length_of_exists enough⟩

/-- The buckets up to a bound have the latencies up to it. -/
theorem bucketIndex_lt_iff {ns index bound : Nat} (isWord : ns <= u64Max)
    (isAt : bucketBounds[index]? = some bound) : bucketIndex ns < index + 1 <-> ns <= bound := by
  rw [(bucketIndex_eq isWord).1, Nat.lt_succ_iff]
  exact findIdx_le_iff bucketBounds_ascending isAt ns

theorem cumulate_eq {values : List Nat} {running : Nat} (fits : running + values.sum <= u64Max) :
    cumulate running values =
      (List.range values.length).map fun index => running + (values.take (index + 1)).sum := by
  induction values generalizing running with
  | nil => rfl
  | cons value values ih =>
      rw [List.sum_cons, ← Nat.add_assoc] at fits
      have unsaturated : saturatingAdd running value = running + value :=
        Nat.min_eq_left ((Nat.le_add_right _ _).trans fits)
      rw [cumulate, unsaturated, ih fits, List.length_cons, List.range_succ_eq_map, List.map_cons,
        List.map_map]
      congr 1
      apply List.map_congr_left
      intro index _
      simp [Nat.add_assoc]

/-- The running sums of the buckets count the latencies up to their bounds. -/
theorem cumulate_tally {samples : List Nat} (words : forall ns, ns ∈ samples -> ns <= u64Max)
    (few : samples.length <= u64Max) :
    cumulate 0 (tally bucketIndex bucketCount samples) = bucketBounds.map (countLe samples) := by
  have fits : 0 + (tally bucketIndex bucketCount samples).sum <= u64Max := by
    rw [sum_tally, Nat.zero_add]
    exact List.countP_le_length.trans few
  rw [cumulate_eq fits, tally_length]
  apply List.ext_getElem?
  intro index
  by_cases within : index < bucketCount
  · have isAt : bucketBounds[index]? = some bucketBounds[index] := List.getElem?_eq_getElem within
    rw [List.getElem?_map, List.getElem?_map, isAt, List.getElem?_range within, Option.map_some,
      Option.map_some, Nat.zero_add, take_tally bucketIndex within, sum_tally, countLe]
    congr 1
    apply List.countP_congr
    intro ns member
    rw [decide_eq_true_eq, decide_eq_true_eq]
    exact bucketIndex_lt_iff (words ns member) isAt
  · have outside := Nat.le_of_not_lt within
    rw [List.getElem?_eq_none (by simpa using outside), List.getElem?_eq_none]
    rw [List.length_map]
    exact outside

/-! ## Percentiles -/

/-- The rank of a percentile, rounded up. -/
def rankOf (percent count : Nat) : Nat := CeilDiv.ceilDiv (percent * count) 100

theorem rankOf_bounds {percent count : Nat} (positive : 1 <= percent) (below : percent < 100)
    (nonempty : 1 <= count) : 1 <= rankOf percent count ∧ rankOf percent count <= count := by
  have least : 1 * 1 <= percent * count := Nat.mul_le_mul positive nonempty
  have most : percent * count <= 100 * count := Nat.mul_le_mul_right count below.le
  rw [rankOf, Nat.ceilDiv_eq_add_pred_div]
  omega

/-- Neither the product nor the sum saturates. -/
theorem target_eq {percent count : Nat} (below : percent < 100) (few : 100 * count <= u64Max) :
    saturatingAdd (saturatingMul count percent) 99 / 100 = rankOf percent count := by
  have most : count * percent <= count * 99 := Nat.mul_le_mul_left count (Nat.le_of_lt_succ below)
  have isMax : u64Max = 18446744073709551615 := rfl
  rw [rankOf, Nat.ceilDiv_eq_add_pred_div, saturatingMul, saturatingAdd,
    Nat.min_eq_left (show count * percent <= u64Max by omega),
    Nat.min_eq_left (show count * percent + 99 <= u64Max by omega), Nat.mul_comm]
  rfl

/-- A percentile is the first bound up to which there are as many latencies as
its rank. -/
theorem percentile_least {samples : List Nat} (words : forall ns, ns ∈ samples -> ns <= u64Max)
    (nonempty : samples ≠ []) (few : 100 * samples.length <= u64Max) {percent : Nat}
    (positive : 1 <= percent) (below : percent < 100) : Exists fun sample =>
      smallest samples (rankOf percent samples.length) = some sample ∧
        IsLeast {bound | bound ∈ bucketBounds ∧ sample <= bound}
          (percentileFromHistogram (bucketBounds.map (countLe samples)) samples.length percent) := by
  rcases rankOf_bounds positive below (List.length_pos_iff.mpr nonempty) with ⟨least, most⟩
  rcases smallest_of_rank least most with ⟨sample, isSample⟩
  have isWord : sample <= u64Max :=
    words sample ((ordered_perm samples).mem_iff.mp (List.mem_of_getElem? isSample))
  have enough : (bucketBounds.find? fun bound => decide (sample <= bound)).isSome = true :=
    List.find?_isSome.mpr ⟨u64Max, by simp [bucketBounds], decide_eq_true isWord⟩
  rcases Option.isSome_iff_exists.mp enough with ⟨bound, found⟩
  have zipped : (bucketBounds.map (countLe samples)).zip bucketBounds =
      bucketBounds.map fun bound => (countLe samples bound, bound) := by
    rw [List.zip_eq_zipWith, List.zipWith_map_left, List.zipWith_self]
  have walked : bucketBounds.find?
      ((fun bucket : Nat × Nat => decide (rankOf percent samples.length <= bucket.1)) ∘
        fun bound => (countLe samples bound, bound)) = some bound := by
    rw [← found]
    congr 1
    funext bound
    rw [Function.comp_apply, decide_eq_decide]
    exact (smallest_le_iff least isSample bound).symm
  refine ⟨sample, isSample, ?_⟩
  have reported : percentileFromHistogram (bucketBounds.map (countLe samples)) samples.length
      percent = bound := by
    simp only [percentileFromHistogram]
    rw [Nat.min_eq_left below.le, target_eq below few, Nat.max_eq_left least, Nat.min_eq_left most,
      zipped, List.find?_map, walked]
    rfl
  rw [reported]
  exact find_least bucketBounds_ascending found

/-- A larger share has a larger percentile. -/
theorem percentile_mono {samples : List Nat} (words : forall ns, ns ∈ samples -> ns <= u64Max)
    (nonempty : samples ≠ []) (few : 100 * samples.length <= u64Max) {lower upper : Nat}
    (positive : 1 <= lower) (inOrder : lower <= upper) (below : upper < 100) :
    percentileFromHistogram (bucketBounds.map (countLe samples)) samples.length lower <=
      percentileFromHistogram (bucketBounds.map (countLe samples)) samples.length upper := by
  rcases percentile_least words nonempty few positive (inOrder.trans_lt below)
    with ⟨low, isLow, leastLow⟩
  rcases percentile_least words nonempty few (positive.trans inOrder) below
    with ⟨high, isHigh, leastHigh⟩
  have rankOrder : rankOf lower samples.length <= rankOf upper samples.length := by
    rw [rankOf, rankOf, Nat.ceilDiv_eq_add_pred_div, Nat.ceilDiv_eq_add_pred_div]
    have smaller := Nat.mul_le_mul_right samples.length inOrder
    omega
  have count := List.length_pos_iff.mpr nonempty
  have enough := (smallest_le_iff (rankOf_bounds (positive.trans inOrder) below count).1
    isHigh _).mp leastHigh.1.2
  have covers := (smallest_le_iff (rankOf_bounds positive (inOrder.trans_lt below) count).1
    isLow _).mpr (rankOrder.trans enough)
  exact leastLow.2 ⟨leastHigh.1.1, covers⟩

/-- The percentiles that a snapshot reports. -/
def LatencyPercentiles.reported (percentiles : LatencyPercentiles) : List (Nat × Nat) :=
  [(50, percentiles.p50Ns), (95, percentiles.p95Ns), (99, percentiles.p99Ns)]

/-- What a snapshot says about the latencies: each is in a bucket, and a
percentile is the least bound of a bucket that is no smaller than the latency
of its rank. -/
structure LatencyPercentiles.Describes (percentiles : LatencyPercentiles) (latencies : List Nat) :
    Prop where
  counted : percentiles.buckets.sum = latencies.length
  least : latencies ≠ [] -> forall percent bound, (percent, bound) ∈ percentiles.reported ->
    Exists fun sample => smallest latencies (rankOf percent latencies.length) = some sample ∧
      IsLeast {bound | bound ∈ bucketBounds ∧ sample <= bound} bound
  inOrder : percentiles.p50Ns <= percentiles.p95Ns ∧ percentiles.p95Ns <= percentiles.p99Ns

/-- A snapshot is right about fewer latencies than a hundredth of the machine
words. -/
theorem snapshot_describes (samples : List UInt64) (few : 100 * samples.length < UInt64.size) :
    (LatencyHistogram.recorded (samples.map UInt64.toNat)).1.snapshot.Describes
      (samples.map UInt64.toNat) := by
  generalize isLatencies : samples.map UInt64.toNat = latencies
  by_cases nonempty : latencies = []
  · subst nonempty
    exact ⟨rfl, fun different => absurd rfl different, Nat.le_refl _, Nat.le_refl _⟩
  · have words : forall ns, ns ∈ latencies -> ns <= u64Max := by
      intro ns member
      rw [← isLatencies] at member
      rcases List.mem_map.mp member with ⟨sample, _, rfl⟩
      exact Nat.le_sub_one_of_lt sample.toNat_lt
    have few : 100 * latencies.length <= u64Max := by
      rw [← isLatencies, List.length_map]
      exact Nat.le_sub_one_of_lt few
    have short : latencies.length <= u64Max := by omega
    rcases LatencyHistogram.recorded_counts short with ⟨count, buckets⟩
    have taken : (LatencyHistogram.recorded latencies).1.snapshot = _ := if_neg (by
      rw [count]
      exact (List.length_pos_iff.mpr nonempty).ne')
    rw [taken, buckets, count, cumulate_tally words short]
    refine ⟨?_, ?_, ?_, ?_⟩
    · dsimp only
      rw [sum_tally]
      apply List.countP_eq_length.mpr
      intro ns member
      exact decide_eq_true (bucketIndex_eq (words ns member)).2
    · intro _ percent reported member
      rw [LatencyPercentiles.reported] at member
      have each {percent : Nat} (positive : 1 <= percent) (below : percent < 100) :=
        percentile_least words nonempty few positive below
      simp only [List.mem_cons, Prod.mk.injEq, List.not_mem_nil, or_false] at member
      rcases member with ⟨rfl, rfl⟩ | ⟨rfl, rfl⟩ | ⟨rfl, rfl⟩
      · exact each (by decide) (by decide)
      · exact each (by decide) (by decide)
      · exact each (by decide) (by decide)
    · exact percentile_mono words nonempty few (by decide) (by decide) (by decide)
    · exact percentile_mono words nonempty few (by decide) (by decide) (by decide)

/-- Three latencies, the last of which is beyond all bounds but the largest
word. -/
theorem threeLatencies_described :
    (LatencyHistogram.recorded [60000, 300000, 7000000000]).1.snapshot.Describes
      [60000, 300000, 7000000000] :=
  snapshot_describes [60000, 300000, 7000000000] (by decide)

end Backend
end DyunGu
