import IsaUser.Lib.Buckets
import Mathlib.Algebra.Order.Ring.Int
import Mathlib.Algebra.Order.Ring.Rat
import Mathlib.Data.Int.ConditionallyCompleteOrder
import Mathlib.Tactic.Ring

/-!
# The Aggregation of Points

The points of a range are put into buckets of an interval, and the numbers of a bucket are aggregated.
One way takes the bucket of each point, the other one goes through the buckets before the end of the
range. So a point at the end has a bucket the one way and none the other. What is not an average, an
extreme, a sum or a number is an average too, and points of all metrics share the buckets.
-/

open List

namespace IsaUser.Telemetry

/-! ### Points -/

/-- A row of `telemetry.telemetry_data`, with its value where that is a number. -/
structure DataRow where
  deviceId : PyStr
  metricName : PyStr
  time : ℤ
  value : Option ℚ
  deriving DecidableEq

inductive AggregationType where
  | avg
  | min
  | max
  | sum
  | count
  | median
  | p95
  | p99
  deriving DecidableEq, Repr

def inRange (rows : List DataRow) (deviceId : Option PyStr) (metricNames : List PyStr)
    (startTime endTime : ℤ) : List DataRow :=
  orderBy (fun r => OrderDual.toDual r.time) (rows.filter fun r =>
    (∀ d ∈ given deviceId, r.deviceId = d) ∧ (metricNames = [] ∨ r.metricName ∈ metricNames) ∧
      startTime ≤ r.time ∧ r.time ≤ endTime)

/-- `TelemetryRepository.query_telemetry_data`. -/
def queryRows (rows : List DataRow) (deviceId : Option PyStr) (metricNames : List PyStr)
    (startTime endTime : ℤ) (limit : ℕ) : List DataRow :=
  (inRange rows deviceId metricNames startTime endTime).take limit

/-- A request for one device and some metrics. The ends of its range are ends of buckets, and it has
fewer points than either limit. -/
structure Query (rows : List DataRow) where
  deviceId : PyStr
  metricNames : List PyStr
  aggregation : AggregationType
  interval : ℕ
  startTime : ℤ
  endTime : ℤ
  limit : ℕ
  interval_pos : 0 < interval
  start_aligned : seconds interval ∣ startTime
  end_aligned : seconds interval ∣ endTime
  few : (inRange rows deviceId metricNames startTime endTime).length < limit
  few' : (inRange rows deviceId metricNames startTime endTime).length < 10000

variable {rows : List DataRow} (q : Query rows)

def Query.points : List DataRow :=
  inRange rows q.deviceId q.metricNames q.startTime q.endTime

def Query.step : ℤ := seconds q.interval

/-! ### The two ways -/

def mean (values : List ℚ) : ℚ := values.sum / values.length

def aggregate : AggregationType → List ℚ → ℚ
  | .avg, values => mean values
  | .min, values => (values.min?).getD 0
  | .max, values => (values.max?).getD 0
  | .sum, values => values.sum
  | .count, values => values.length
  | _, values => mean values

def Query.bucketOf (t : ℤ) : ℤ := t / q.step * q.step

def numbers (points : List DataRow) : List ℚ := points.filterMap DataRow.value

/-- `grouped[aligned_time].append(point)`. -/
def Query.addPoint (grouped : Dict ℤ (List DataRow)) (p : DataRow) : Dict ℤ (List DataRow) :=
  grouped.set (q.bucketOf p.time) ((grouped.lookup (q.bucketOf p.time)).getD [] ++ [p])

def Query.grouped (points : List DataRow) : Dict ℤ (List DataRow) :=
  points.foldl q.addPoint .empty

/-- `_aggregate_data_points`: the times and values that are returned. -/
def Query.aggregateDataPoints (points : List DataRow) : List (ℤ × ℚ) :=
  ((q.grouped points).rows.filter fun group => numbers group.2 ≠ []).map fun group =>
    (group.1, aggregate q.aggregation (numbers group.2))

/-- The aggregated points of `query_telemetry_data`. -/
def Query.queryTelemetryData : List (ℤ × ℚ) :=
  q.aggregateDataPoints
    (queryRows rows q.deviceId q.metricNames q.startTime q.endTime q.limit)

def Query.timeBuckets : List ℤ :=
  (range ((q.endTime - q.startTime + q.step - 1) / q.step).toNat).map fun k : ℕ =>
    q.startTime + k * q.step

def Query.aggregateByInterval (points : List DataRow) : List (ℤ × ℚ) :=
  (q.timeBuckets.map fun b =>
    (b, points.filter fun p => b ≤ p.time ∧ p.time < b + q.step)).filterMap fun bucket =>
      if numbers bucket.2 = [] then none
      else some (bucket.1, aggregate q.aggregation (numbers bucket.2))

/-- The points of `get_aggregated_data`, which asks for a metric. -/
def Query.getAggregatedData (metricName : PyStr) : List (ℤ × ℚ) :=
  q.aggregateByInterval
    (queryRows rows q.deviceId [metricName] q.startTime q.endTime 10000)

/-! ### The law -/

def median (values : List ℚ) : ℚ :=
  let sorted := orderBy (fun v => v) values
  (sorted.getD ((sorted.length - 1) / 2) 0 + sorted.getD (sorted.length / 2) 0) / 2

def named (percentile : ℕ → List ℚ → ℚ) : AggregationType → List ℚ → ℚ
  | .median, values => median values
  | .p95, values => percentile 95 values
  | .p99, values => percentile 99 values
  | aggregation, values => aggregate aggregation values

def Query.bucketNumbers (b : ℤ) : List ℚ := numbers (q.points.filter fun p => q.bucketOf p.time = b)

def Query.Defines (percentile : ℕ → List ℚ → ℚ) (pair : ℤ × ℚ) : Prop :=
  q.bucketNumbers pair.1 ≠ [] ∧ pair.2 = named percentile q.aggregation (q.bucketNumbers pair.1)

/-- For one metric both ways return the buckets of the definition; and no value comes from numbers of
two metrics. -/
structure Agrees (percentile : ℕ → List ℚ → ℚ) : Prop where
  query : ∀ m, q.metricNames = [m] → ∀ pair,
    pair ∈ q.queryTelemetryData ↔ q.Defines percentile pair
  aggregated : ∀ m, q.metricNames = [m] → ∀ pair,
    pair ∈ q.getAggregatedData m ↔ q.Defines percentile pair
  unmixed : ∀ group ∈ (q.grouped q.points).rows, ∀ p ∈ group.2, ∀ p' ∈ group.2,
    p.value.isSome → p'.value.isSome → p.metricName = p'.metricName

/-! ### The condition -/

/-- No number is at the end of the range; every bucket's average is the value that is asked for, if
it is the average that is taken; and no bucket has numbers of two metrics. -/
structure Query.Clean (percentile : ℕ → List ℚ → ℚ) : Prop where
  inside : ∀ m, q.metricNames = [m] → ∀ p ∈ q.points, p.value.isSome → p.time ≠ q.endTime
  average : ∀ m, q.metricNames = [m] → q.aggregation ∈ [.median, .p95, .p99] → ∀ p ∈ q.points,
    p.value.isSome → mean (q.bucketNumbers (q.bucketOf p.time)) =
      named percentile q.aggregation (q.bucketNumbers (q.bucketOf p.time))
  apart : ∀ p ∈ q.points, ∀ p' ∈ q.points, p.value.isSome → p'.value.isSome →
    q.bucketOf p.time = q.bucketOf p'.time → p.metricName = p'.metricName

/-! ### Buckets -/

section Buckets

variable {q} {points : List DataRow} {b t : ℤ} {pair : ℤ × ℚ} {percentile : ℕ → List ℚ → ℚ}

theorem Query.step_pos (q : Query rows) : 0 < q.step := by
  have hpos := q.interval_pos
  rw [Query.step, seconds]
  omega

theorem lookup_grouped (points : List DataRow) (d : Dict ℤ (List DataRow)) :
    (points.foldl q.addPoint d).lookup b =
      if points.filter (fun p => q.bucketOf p.time = b) = [] then d.lookup b
      else some ((d.lookup b).getD [] ++ points.filter fun p => q.bucketOf p.time = b) := by
  induction points generalizing d with
  | nil => rfl
  | cons p points ih =>
    rw [foldl_cons, ih, Query.addPoint, Dict.lookup_set]
    by_cases hb : q.bucketOf p.time = b
    · subst hb
      by_cases hrest : points.filter (fun p' => q.bucketOf p'.time = q.bucketOf p.time) = [] <;>
        simp [hrest]
    · simp [hb, Ne.symm hb]

theorem mem_grouped_iff {group : ℤ × List DataRow} : group ∈ (q.grouped points).rows ↔
    group.2 ≠ [] ∧ group.2 = points.filter fun p => q.bucketOf p.time = group.1 := by
  obtain ⟨b, ps⟩ := group
  rw [← Dict.lookup_eq_some_iff, Query.grouped, lookup_grouped]
  split
  · next hnil => simp [hnil]
  · next hne =>
      simp only [Dict.lookup_empty, Option.getD_none, nil_append, Option.some.injEq]
      exact ⟨fun h => ⟨h ▸ hne, h.symm⟩, fun h => h.2.symm⟩

theorem mem_aggregateDataPoints_iff : pair ∈ q.aggregateDataPoints points ↔
    numbers (points.filter fun p => q.bucketOf p.time = pair.1) ≠ [] ∧
      pair.2 = aggregate q.aggregation
        (numbers (points.filter fun p => q.bucketOf p.time = pair.1)) := by
  obtain ⟨b, v⟩ := pair
  simp only [Query.aggregateDataPoints, mem_map, mem_filter, mem_grouped_iff, decide_eq_true_iff]
  constructor
  · rintro ⟨⟨b', ps⟩, ⟨⟨-, hps⟩, hnumbers⟩, h⟩
    obtain ⟨hb, hv⟩ := Prod.mk.inj h
    simp only at hps hnumbers hb hv ⊢
    rw [← hb, ← hv, ← hps]
    exact ⟨hnumbers, rfl⟩
  · intro ⟨hnumbers, hv⟩
    refine ⟨(b, _), ⟨⟨fun hnil => hnumbers ?_, rfl⟩, hnumbers⟩, by rw [← hv]⟩
    simp only at hnil
    rw [hnil]
    rfl

theorem bucketOf_eq_iff (hb : q.step ∣ b) : q.bucketOf t = b ↔ b ≤ t ∧ t < b + q.step := by
  obtain ⟨k, rfl⟩ := hb
  have hpos := q.step_pos
  rw [Query.bucketOf, mul_comm q.step k, mul_left_inj' hpos.ne', Int.ediv_eq_iff_of_pos hpos]

theorem mem_timeBuckets_iff :
    b ∈ q.timeBuckets ↔ q.step ∣ b ∧ q.startTime ≤ b ∧ b < q.endTime := by
  obtain ⟨k, hk⟩ : q.step ∣ q.startTime := q.start_aligned
  obtain ⟨l, hl⟩ : q.step ∣ q.endTime := q.end_aligned
  have hpos := q.step_pos
  have hcount : (q.endTime - q.startTime + q.step - 1) / q.step = l - k := by
    rw [show q.endTime - q.startTime + q.step - 1 = (q.step - 1) + q.step * (l - k) by
        rw [hk, hl]; ring,
      Int.add_mul_ediv_left _ _ hpos.ne', Int.ediv_eq_zero_of_lt (by omega) (by omega), zero_add]
  rw [Query.timeBuckets, hcount, hk, hl]
  simp only [mem_map, mem_range]
  constructor
  · rintro ⟨j, hj, rfl⟩
    have hjl : k + j < l := by omega
    rw [show q.step * k + j * q.step = q.step * (k + j) by ring]
    exact ⟨dvd_mul_right .., mul_le_mul_of_nonneg_left (by omega) hpos.le,
      mul_lt_mul_of_pos_left hjl hpos⟩
  · rintro ⟨⟨j, rfl⟩, hkj, hjl⟩
    have hkj' := le_of_mul_le_mul_left hkj hpos
    have hjl' := lt_of_mul_lt_mul_left hjl hpos.le
    refine ⟨(j - k).toNat, by omega, ?_⟩
    rw [Int.toNat_of_nonneg (by omega)]
    ring

theorem mem_aggregateByInterval_iff : pair ∈ q.aggregateByInterval points ↔
    pair.1 ∈ q.timeBuckets ∧ numbers (points.filter fun p => q.bucketOf p.time = pair.1) ≠ [] ∧
      pair.2 = aggregate q.aggregation
        (numbers (points.filter fun p => q.bucketOf p.time = pair.1)) := by
  obtain ⟨b, v⟩ := pair
  have hwindow (hb : b ∈ q.timeBuckets) : (points.filter fun p => b ≤ p.time ∧ p.time < b + q.step) =
      points.filter fun p => q.bucketOf p.time = b :=
    filter_congr fun p _ => by simp only [bucketOf_eq_iff (mem_timeBuckets_iff.mp hb).1]
  simp only [Query.aggregateByInterval, filterMap_map, mem_filterMap, Function.comp_apply]
  constructor
  · rintro ⟨b', hb', h⟩
    split at h
    · contradiction
    · next hnumbers =>
        obtain ⟨rfl, rfl⟩ := Prod.mk.inj (Option.some.inj h)
        rw [hwindow hb'] at hnumbers ⊢
        exact ⟨hb', hnumbers, rfl⟩
  · intro ⟨hb, hnumbers, hv⟩
    refine ⟨b, hb, ?_⟩
    rw [hwindow hb, if_neg hnumbers, ← hv]

/-! ### Agreement -/

theorem Query.time_mem {p : DataRow} (hp : p ∈ q.points) :
    q.startTime ≤ p.time ∧ p.time ≤ q.endTime := by
  simp only [Query.points, inRange, mem_orderBy, mem_filter, decide_eq_true_iff] at hp
  exact hp.2.2.2

theorem Query.bucketNumbers_ne_nil_iff :
    q.bucketNumbers b ≠ [] ↔ ∃ p ∈ q.points, p.value.isSome ∧ q.bucketOf p.time = b := by
  rw [Ne, Query.bucketNumbers, numbers, filterMap_eq_nil_iff]
  simp [Option.isSome_iff_ne_none, and_assoc, and_comm, and_left_comm]

theorem Query.bucketOf_mem_timeBuckets_iff {p : DataRow} (hp : p ∈ q.points) :
    q.bucketOf p.time ∈ q.timeBuckets ↔ p.time ≠ q.endTime := by
  obtain ⟨hstart, hend⟩ := q.time_mem hp
  have hdvd : q.step ∣ q.bucketOf p.time := dvd_mul_left ..
  obtain ⟨hle, hlt⟩ := (bucketOf_eq_iff hdvd).mp rfl
  have hpos := q.step_pos
  have hofStart : q.bucketOf q.startTime = q.startTime :=
    (bucketOf_eq_iff q.start_aligned).mpr (by omega)
  have hofEnd : q.bucketOf q.endTime = q.endTime :=
    (bucketOf_eq_iff q.end_aligned).mpr (by omega)
  have hmono {t t' : ℤ} (h : t ≤ t') : q.bucketOf t ≤ q.bucketOf t' :=
    Int.mul_le_mul_of_nonneg_right (Int.ediv_le_ediv hpos h) hpos.le
  rw [mem_timeBuckets_iff]
  refine ⟨fun h heq => ?_, fun hne => ⟨hdvd, hofStart ▸ hmono hstart, by omega⟩⟩
  rw [heq, hofEnd] at h
  exact lt_irrefl _ h.2.2

theorem mem_queryTelemetryData_iff : pair ∈ q.queryTelemetryData ↔
    q.bucketNumbers pair.1 ≠ [] ∧ pair.2 = aggregate q.aggregation (q.bucketNumbers pair.1) := by
  rw [Query.queryTelemetryData, queryRows, take_of_length_le q.few.le, mem_aggregateDataPoints_iff]
  rfl

theorem mem_getAggregatedData_iff {m : PyStr} (hm : q.metricNames = [m]) :
    pair ∈ q.getAggregatedData m ↔ pair.1 ∈ q.timeBuckets ∧ q.bucketNumbers pair.1 ≠ [] ∧
      pair.2 = aggregate q.aggregation (q.bucketNumbers pair.1) := by
  rw [Query.getAggregatedData, ← hm, queryRows, take_of_length_le q.few'.le,
    mem_aggregateByInterval_iff]
  rfl

theorem bucket_defined (hb : q.bucketNumbers b ≠ []) :
    q.Defines percentile (b, named percentile q.aggregation (q.bucketNumbers b)) :=
  ⟨hb, rfl⟩

theorem bucket_mem (hb : q.bucketNumbers b ≠ []) :
    (b, aggregate q.aggregation (q.bucketNumbers b)) ∈ q.queryTelemetryData :=
  mem_queryTelemetryData_iff.mpr ⟨hb, rfl⟩

theorem named_of_notMem (h : q.aggregation ∉ [.median, .p95, .p99]) (values : List ℚ) :
    named percentile q.aggregation values = aggregate q.aggregation values := by
  cases hagg : q.aggregation <;> simp_all [named]

theorem aggregate_of_mem (h : q.aggregation ∈ [.median, .p95, .p99]) (values : List ℚ) :
    aggregate q.aggregation values = mean values := by
  cases hagg : q.aggregation <;> simp_all [aggregate]

theorem unmixed_iff : (∀ group ∈ (q.grouped q.points).rows, ∀ p ∈ group.2, ∀ p' ∈ group.2,
      p.value.isSome → p'.value.isSome → p.metricName = p'.metricName) ↔
    ∀ p ∈ q.points, ∀ p' ∈ q.points, p.value.isSome → p'.value.isSome →
      q.bucketOf p.time = q.bucketOf p'.time → p.metricName = p'.metricName := by
  constructor
  · intro h p hp p' hp' hv hv' hbucket
    have hmem : p ∈ q.points.filter fun r => q.bucketOf r.time = q.bucketOf p.time := by
      simp [hp]
    refine h (q.bucketOf p.time, _) (mem_grouped_iff.mpr ⟨ne_nil_of_mem hmem, rfl⟩) p hmem p' ?_
      hv hv'
    simp [hp', hbucket]
  · intro h group hgroup p hp p' hp' hv hv'
    rw [(mem_grouped_iff.mp hgroup).2] at hp hp'
    simp only [mem_filter, decide_eq_true_iff] at hp hp'
    exact h p hp.1 p' hp'.1 hv hv' (hp.2.trans hp'.2.symm)

end Buckets

theorem agrees_iff (percentile : ℕ → List ℚ → ℚ) : Agrees q percentile ↔ q.Clean percentile := by
  constructor
  · intro h
    refine ⟨fun m hm p hp hv heq => ?_, fun m hm hagg p hp hv => ?_, unmixed_iff.mp h.unmixed⟩
    · have hne := Query.bucketNumbers_ne_nil_iff.mpr ⟨p, hp, hv, rfl⟩
      have hmem := (h.aggregated m hm _).mpr (bucket_defined hne)
      exact (Query.bucketOf_mem_timeBuckets_iff hp).mp
        ((mem_getAggregatedData_iff hm).mp hmem).1 heq
    · have hne := Query.bucketNumbers_ne_nil_iff.mpr ⟨p, hp, hv, rfl⟩
      have hmem := (h.query m hm _).mp (bucket_mem hne)
      rw [← aggregate_of_mem hagg]
      exact hmem.2
  · intro h
    have hvalue {m : PyStr} (hm : q.metricNames = [m]) {b : ℤ} (hb : q.bucketNumbers b ≠ []) :
        aggregate q.aggregation (q.bucketNumbers b) =
          named percentile q.aggregation (q.bucketNumbers b) := by
      by_cases hagg : q.aggregation ∈ [.median, .p95, .p99]
      · obtain ⟨p, hp, hv, rfl⟩ := Query.bucketNumbers_ne_nil_iff.mp hb
        rw [aggregate_of_mem hagg]
        exact h.average m hm hagg p hp hv
      · exact (named_of_notMem hagg _).symm
    refine ⟨fun m hm pair => ?_, fun m hm pair => ?_, unmixed_iff.mpr h.apart⟩
    · rw [mem_queryTelemetryData_iff, Query.Defines]
      exact and_congr_right fun hb => by rw [hvalue hm hb]
    · rw [mem_getAggregatedData_iff hm, Query.Defines]
      constructor
      · intro ⟨_, hb, hv⟩
        exact ⟨hb, hv.trans (hvalue hm hb)⟩
      · intro ⟨hb, hv⟩
        obtain ⟨p, hp, hsome, hpb⟩ := Query.bucketNumbers_ne_nil_iff.mp hb
        refine ⟨?_, hb, hv.trans (hvalue hm hb).symm⟩
        rw [← hpb, Query.bucketOf_mem_timeBuckets_iff hp]
        exact h.inside m hm p hp hsome

/-! ### Nothing is lost -/

theorem numbers_append (points points' : List DataRow) :
    numbers (points ++ points') = numbers points ++ numbers points' := filterMap_append

section Conservation

variable {q} {f : List DataRow → ℚ}

theorem mapValues_foldl_addPoint (hf : ∀ ps p, f (ps ++ [p]) = f ps + f [p]) (hnil : f [] = 0)
    (points : List DataRow) (d : Dict ℤ (List DataRow)) :
    (points.foldl q.addPoint d).mapValues f =
      (points.map fun p => (q.bucketOf p.time, f [p])).foldl (fun d e => d.addAt e.1 e.2)
        (d.mapValues f) := by
  induction points generalizing d with
  | nil => rfl
  | cons p points ih =>
    have hadd : (q.addPoint d p).mapValues f = (d.mapValues f).addAt (q.bucketOf p.time) (f [p]) := by
      rw [Query.addPoint, Dict.mapValues_set, hf, Dict.addAt, Dict.lookup_mapValues]
      cases d.lookup (q.bucketOf p.time) with
      | none => rw [Option.getD_none, Option.map_none, Option.getD_none, hnil]
      | some ps => rfl
    rw [foldl_cons, ih, hadd]
    rfl

theorem sum_grouped (hf : ∀ ps p, f (ps ++ [p]) = f ps + f [p]) (hnil : f [] = 0)
    (points : List DataRow) :
    ((q.grouped points).rows.map fun group => f group.2).sum = (points.map fun p => f [p]).sum := by
  have hsum := congrArg (fun d => (Dict.values d).sum)
    (mapValues_foldl_addPoint (q := q) hf hnil points .empty)
  have hempty : ((Dict.empty : Dict ℤ (List DataRow)).mapValues f).values.sum = 0 := rfl
  rw [Dict.sum_values_foldl_addAt, map_map, hempty, zero_add] at hsum
  refine Eq.trans ?_ hsum
  rw [Dict.values, Dict.mapValues, map_map]
  rfl

theorem sum_map_given {g : List ℚ → ℚ} (hnil : g [] = 0) (l : List (ℤ × List DataRow)) :
    ((l.filter fun group => numbers group.2 ≠ []).map fun group => g (numbers group.2)).sum =
      (l.map fun group => g (numbers group.2)).sum := by
  induction l with
  | nil => rfl
  | cons group l ih =>
    by_cases hnone : numbers group.2 = []
    · simpa [hnone, hnil] using ih
    · simpa [hnone] using ih

theorem sum_map_numbers {g : List ℚ → ℚ} (hg : ∀ l l', g (l ++ l') = g l + g l') (hnil : g [] = 0)
    (points : List DataRow) : (points.map fun p => g (numbers [p])).sum = g (numbers points) := by
  induction points with
  | nil => exact hnil.symm
  | cons p points ih => rw [map_cons, sum_cons, ih, ← hg, ← numbers_append]; rfl

theorem sum_buckets (q : Query rows) {g : List ℚ → ℚ} (hg : ∀ l l', g (l ++ l') = g l + g l')
    (hnil : g [] = 0) (points : List DataRow) :
    (((q.grouped points).rows.filter fun group => numbers group.2 ≠ []).map fun group =>
      g (numbers group.2)).sum = g (numbers points) := by
  rw [sum_map_given hnil, sum_grouped (f := fun ps => g (numbers ps))
    (fun ps p => by rw [numbers_append, hg]) hnil, sum_map_numbers hg hnil]

/-- **The buckets lose no number and count none twice**: a time has one bucket, the sums of all
buckets add up to the sum of all numbers, and their counts to how many there are. -/
theorem aggregateDataPoints_conserves (q : Query rows) (points : List DataRow) :
    ((q.aggregateDataPoints points).map Prod.fst).Nodup ∧
      (q.aggregation = .sum →
        ((q.aggregateDataPoints points).map Prod.snd).sum = (numbers points).sum) ∧
      (q.aggregation = .count →
        ((q.aggregateDataPoints points).map Prod.snd).sum = (numbers points).length) := by
  refine ⟨?_, fun h => ?_, fun h => ?_⟩
  · rw [Query.aggregateDataPoints, map_map]
    exact (q.grouped points).unique.sublist (filter_sublist.map _)
  · rw [Query.aggregateDataPoints, map_map, h]
    exact sum_buckets q (g := List.sum) (fun _ _ => sum_append) rfl points
  · rw [Query.aggregateDataPoints, map_map, h]
    exact sum_buckets q (g := fun l => l.length) (fun _ _ => by simp) rfl points

end Conservation

/-! ### A point at the end -/

def atEnd : List DataRow :=
  [{ deviceId := "d".toList, metricName := "m".toList, time := seconds 60, value := some 1 }]

def minuteOf : Query atEnd where
  deviceId := "d".toList
  metricNames := ["m".toList]
  aggregation := .avg
  interval := 60
  startTime := 0
  endTime := seconds 60
  limit := 1000
  interval_pos := by decide
  start_aligned := dvd_zero _
  end_aligned := dvd_rfl
  few := by decide
  few' := by decide

theorem not_agrees_atEnd : ¬ ∃ percentile, Agrees minuteOf percentile := by
  intro ⟨percentile, h⟩
  have hne : minuteOf.bucketNumbers (seconds 60) ≠ [] := by decide
  have hdefines := (h.query _ rfl _).mp (bucket_mem hne)
  have hmem := (h.aggregated _ rfl _).mpr hdefines
  exact lt_irrefl _ (mem_timeBuckets_iff.mp ((mem_getAggregatedData_iff rfl).mp hmem).1).2.2

end IsaUser.Telemetry
