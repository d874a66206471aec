import IsaUser.Lib.Buckets
import IsaUser.Lib.Json
import Mathlib.Data.NNRat.Floor

/-!
# The Usage Overview

`get_usage_overview` asks the repository for the usage of the last `period_days` days, a row for
each day, and shows them with their totals. The repository reads one row for each day, service,
product, project, key and model from the database, the latest day first, and adds them up by day,
up to `limit` days. The service passes `period_days` for `limit`; but from noon to noon, a period
of one day touches two dates.

The database and the service use UTC. A date is its number of days from the epoch, in the place
of its text. Amounts are added up exactly; the costs of the answer are rounded to four places.
The breakdown by service is left out, which the overview does not read.
-/

open List

namespace IsaUser.Billing.Overview

open Dict

/-! ### Adding up usage -/

/-- How often something was used, how much, and for what. -/
@[ext] structure Usage (α : Type) where
  count : ℕ
  amount : α
  cost : NNRat
  deriving DecidableEq

section Usage

variable {α : Type} [AddCommMonoid α]

instance : Zero (Usage α) := ⟨⟨0, 0, 0⟩⟩

instance : Add (Usage α) :=
  ⟨fun u v => ⟨u.count + v.count, u.amount + v.amount, u.cost + v.cost⟩⟩

instance : AddCommMonoid (Usage α) where
  add_assoc _ _ _ := Usage.ext (add_assoc _ _ _) (add_assoc _ _ _) (add_assoc _ _ _)
  zero_add _ := Usage.ext (zero_add _) (zero_add _) (zero_add _)
  add_zero _ := Usage.ext (add_zero _) (add_zero _) (add_zero _)
  add_comm _ _ := Usage.ext (add_comm _ _) (add_comm _ _) (add_comm _ _)
  nsmul := nsmulRec

def Usage.counts : Usage α →+ ℕ := ⟨⟨Usage.count, rfl⟩, fun _ _ => rfl⟩

def Usage.amounts : Usage α →+ α := ⟨⟨Usage.amount, rfl⟩, fun _ _ => rfl⟩

def Usage.costs : Usage α →+ NNRat := ⟨⟨Usage.cost, rfl⟩, fun _ _ => rfl⟩

end Usage

/-! ### The repository -/

/-- A row of `billing_records`, with the columns that are read. `BillingRecord` checks that the
amounts are not negative. -/
structure UsageRow where
  userId : PyStr
  actorUserId : Option PyStr
  organizationId : Option PyStr
  productId : PyStr
  serviceType : PyStr
  usageAmount : NNRat
  totalAmount : NNRat
  billingMetadata : JsonDict
  createdAt : Timestamp

structure UsageQuery where
  userId : PyStr
  organizationId : Option PyStr
  projectId : Option PyStr
  apiKeyId : Option PyStr
  model : Option PyStr
  /-- The route answers 401 where no user is named. -/
  named : userId ≠ []

def Timestamp.day (t : Timestamp) : ℤ := t / microsPerDay

section Columns

/-- `billing_metadata #>> path`, where `text` is the text of a value that is no text. -/
def metadataText (text : Json → PyStr) (entries : JsonDict) : List String → Option PyStr
  | [] => some (text (.dict entries))
  | name :: path =>
    match entries.get? name, path with
    | none, _ => none
    | some .null, _ => none
    | some (.str s), [] => some s
    | some value, [] => some (text value)
    | some (.dict inner), path => metadataText text inner path
    | some _, _ => none

variable (text : Json → PyStr) (row : UsageRow)

/-- `project_expr`. -/
def UsageRow.projectId : Option PyStr :=
  metadataText text row.billingMetadata ["project_id"] <|>
    metadataText text row.billingMetadata ["usage_details", "project_id"]

/-- `api_key_expr`. -/
def UsageRow.apiKeyId : Option PyStr :=
  metadataText text row.billingMetadata ["api_key_id"] <|>
    metadataText text row.billingMetadata ["usage_details", "api_key_id"] <|>
    metadataText text row.billingMetadata ["usage_details", "key_id"]

/-- `model_expr`. -/
def UsageRow.model : Option PyStr :=
  metadataText text row.billingMetadata ["model"] <|>
    metadataText text row.billingMetadata ["model_id"] <|>
    metadataText text row.billingMetadata ["usage_details", "model"] <|>
    metadataText text row.billingMetadata ["usage_details", "model_id"] <|>
    some row.productId

/-- `COALESCE(actor_user_id, user_id)`. -/
def UsageRow.actor : PyStr := row.actorUserId.getD row.userId

end Columns

/-- The columns of `GROUP BY`. -/
structure UsageGroup where
  periodStart : ℤ
  serviceType : PyStr
  productId : PyStr
  projectId : Option PyStr
  apiKeyId : Option PyStr
  model : Option PyStr
  deriving DecidableEq

/-- `UsageAggregation`, with the fields that are read. -/
structure UsageAggregation where
  periodStart : ℤ
  totalUsageCount : ℕ
  totalUsageAmount : NNRat
  totalCost : NNRat

section Repository

variable (text : Json → PyStr)

def UsageRow.group (row : UsageRow) : UsageGroup where
  periodStart := Timestamp.day row.createdAt
  serviceType := row.serviceType
  productId := row.productId
  projectId := row.projectId text
  apiKeyId := row.apiKeyId text
  model := row.model text

def UsageRow.usage (row : UsageRow) : Usage NNRat := ⟨1, row.usageAmount, row.totalAmount⟩

/-- The `WHERE` clause: a condition for each thing that is given. -/
def whereClause (q : UsageQuery) (start stop : Timestamp) (row : UsageRow) : Bool :=
  (given (some q.userId)).all (row.actor = ·) &&
  (given q.organizationId).all (row.organizationId = some ·) &&
  (given q.projectId).all (row.projectId text = some ·) &&
  (given q.apiKeyId).all (row.apiKeyId text = some ·) &&
  (given q.model).all (row.model text = some ·) &&
  decide (start ≤ row.createdAt) && decide (row.createdAt ≤ stop)

def usageGroups (rows : List UsageRow) (q : UsageQuery) (start stop : Timestamp) :
    List (UsageGroup × Usage NNRat) :=
  orderBy (fun e => -e.1.periodStart)
    (Dict.tally ((rows.filter (whereClause text q start stop)).map fun row =>
      (row.group text, row.usage))).rows

/-- `get_usage_aggregations` by day. -/
def getUsageAggregations (rows : List UsageRow) (q : UsageQuery) (start stop : Timestamp)
    (limit : ℕ) : List UsageAggregation :=
  (tallyUpTo limit
    ((usageGroups text rows q start stop).map fun e => (e.1.periodStart, e.2))).rows.map
      fun e => ⟨e.1, e.2.count, e.2.amount, e.2.cost⟩

end Repository

/-! ### The service -/

/-- `round(x, 4)`. -/
def round4 (x : NNRat) : ℚ := roundHalfEven ((x : ℚ) * 10000) / 10000

structure DailyRow where
  date : ℤ
  requests : ℕ
  tokens : ℕ
  cost : ℚ
  deriving DecidableEq

structure Totals where
  requests : ℕ
  tokens : ℕ
  cost : ℚ
  deriving DecidableEq

structure UsageOverview where
  query : UsageQuery
  periodStart : Timestamp
  periodEnd : Timestamp
  periodDays : ℕ
  totals : Totals
  activeAgents : ℕ
  daily : List DailyRow
  warnings : List String

inductive AgentAnswer where
  /-- There is no client. -/
  | absent
  /-- The call raised or answered nothing. -/
  | failed
  | count (n : ℕ)
  deriving DecidableEq, Repr

def AgentAnswer.active : AgentAnswer → ℕ × List String
  | count n => (n, [])
  | _ => (0, ["agent_service_unavailable"])

def UsageAggregation.usage (a : UsageAggregation) : Usage ℕ :=
  ⟨a.totalUsageCount, ⌊a.totalUsageAmount⌋₊, a.totalCost⟩

def byDay (aggregations : List UsageAggregation) : List (ℤ × Usage ℕ) :=
  orderBy Prod.fst (Dict.tally (aggregations.map fun a => (a.periodStart, a.usage))).rows

def DailyRow.of (e : ℤ × Usage ℕ) : DailyRow := ⟨e.1, e.2.count, e.2.amount, round4 e.2.cost⟩

def Totals.of (u : Usage ℕ) : Totals := ⟨u.count, u.amount, round4 u.cost⟩

def datetimeMin : Timestamp := days (daysFromCivil ⟨1, 1, 1⟩)

/-- `get_usage_overview`: nothing, if the period starts before the first date. `aggregate` is the
repository, nothing where it raises. -/
def getUsageOverview
    (aggregate : UsageQuery → Timestamp → Timestamp → ℕ → Option (List UsageAggregation))
    (agents : AgentAnswer) (q : UsageQuery) (periodDays : ℕ) (now : Timestamp) :
    Option UsageOverview :=
  let start := now - days periodDays
  if start < datetimeMin then none
  else
    let aggregations := aggregate q start now periodDays
    let chart := byDay (aggregations.getD [])
    some {
      query := q
      periodStart := start
      periodEnd := now
      periodDays
      totals := .of (chart.map Prod.snd).sum
      activeAgents := agents.active.1
      daily := chart.map .of
      warnings :=
        (if aggregations.isNone then ["billing_aggregations_unavailable"] else []) ++
          agents.active.2 }

/-! ### The law -/

section Law

variable (text : Json → PyStr) (rows : List UsageRow) (q : UsageQuery) (start stop : Timestamp)

/-- A record of the user, of what is asked, in the period. -/
structure Concerns (row : UsageRow) : Prop where
  actor : row.actor = q.userId
  organization : ∀ o ∈ given q.organizationId, row.organizationId = some o
  project : ∀ p ∈ given q.projectId, row.projectId text = some p
  apiKey : ∀ k ∈ given q.apiKeyId, row.apiKeyId text = some k
  model : ∀ m ∈ given q.model, row.model text = some m
  since : start ≤ row.createdAt
  til : row.createdAt ≤ stop

theorem whereClause_iff (row : UsageRow) :
    whereClause text q start stop row = true ↔ Concerns text q start stop row := by
  have hnamed : given (some q.userId) = some q.userId := by simp [given, q.named]
  simp only [whereClause, hnamed, Bool.and_eq_true, Option.all_eq_true, decide_eq_true_eq]
  constructor
  · rintro ⟨⟨⟨⟨⟨⟨hactor, horganization⟩, hproject⟩, hkey⟩, hmodel⟩, hsince⟩, htil⟩
    exact ⟨hactor _ rfl, horganization, hproject, hkey, hmodel, hsince, htil⟩
  · rintro ⟨hactor, horganization, hproject, hkey, hmodel, hsince, htil⟩
    refine ⟨⟨⟨⟨⟨⟨?_, horganization⟩, hproject⟩, hkey⟩, hmodel⟩, hsince⟩, htil⟩
    intro u hu
    obtain rfl := Option.some.inj hu
    exact hactor

instance (row : UsageRow) : Decidable (Concerns text q start stop row) :=
  decidable_of_iff _ (whereClause_iff text q start stop row)

def concerning : List UsageRow := rows.filter fun row => Concerns text q start stop row

def datesOf (records : List UsageRow) : Finset ℤ :=
  (records.map fun row => Timestamp.day row.createdAt).toFinset

/-- **The overview of these records is complete.** Every record is counted, and there is one row
for each date that has a record. The rows add up to the totals, the costs but for their rounding
to four places. -/
structure Complete (records : List UsageRow) (o : UsageOverview) : Prop where
  requests : o.totals.requests = records.length
  dates : ∀ date, date ∈ o.daily.map DailyRow.date ↔ date ∈ datesOf records
  once : (o.daily.map DailyRow.date).Nodup
  requests_sum : (o.daily.map DailyRow.requests).sum = o.totals.requests
  tokens_sum : (o.daily.map DailyRow.tokens).sum = o.totals.tokens
  cost_sum : |(o.daily.map DailyRow.cost).sum - o.totals.cost| ≤ (o.daily.length + 1) / 20000

def OverviewComplete (agents : AgentAnswer) (periodDays : ℕ) (now : Timestamp) : Prop :=
  ∃ o, getUsageOverview
      (fun q start stop limit => some (getUsageAggregations text rows q start stop limit))
      agents q periodDays now = some o ∧
    Complete (concerning text rows q (now - days periodDays) now) o

end Law

/-! ### The chart -/

section Chart

variable (aggregations : List UsageAggregation)

theorem abs_round4_sub_le (x : NNRat) : |round4 x - x| ≤ 1 / 20000 := by
  have hround := abs_roundHalfEven_sub_le ((x : ℚ) * 10000)
  have hscale : round4 x - x = (roundHalfEven ((x : ℚ) * 10000) - x * 10000) / 10000 := by
    rw [round4]
    ring
  rw [hscale, abs_div]
  linarith

theorem abs_sum_round4_sub_le (costs : List NNRat) :
    |(costs.map round4).sum - costs.sum| ≤ costs.length / 20000 := by
  induction costs with
  | nil => simp
  | cons cost costs ih =>
    have hcost := abs_round4_sub_le cost
    have hsplit : ((cost :: costs).map round4).sum - ((cost :: costs).sum : NNRat) =
        (round4 cost - cost) + ((costs.map round4).sum - (costs.sum : NNRat)) := by
      rw [map_cons, sum_cons, sum_cons, NNRat.cast_add]
      ring
    have habs := abs_add_le (round4 cost - cost) ((costs.map round4).sum - (costs.sum : NNRat))
    rw [hsplit, length_cons, Nat.cast_add]
    linarith

theorem sum_chart :
    ((byDay aggregations).map Prod.snd).sum = (aggregations.map UsageAggregation.usage).sum := by
  rw [byDay, sum_map_orderBy]
  have htally := sum_values_tally (aggregations.map fun a => (a.periodStart, a.usage))
  rw [map_map] at htally
  exact htally

theorem requests_totals :
    (Totals.of ((byDay aggregations).map Prod.snd).sum).requests =
      (aggregations.map UsageAggregation.totalUsageCount).sum := by
  have hcounts := congrArg Usage.counts (sum_chart aggregations)
  rw [map_list_sum Usage.counts (aggregations.map _), map_map] at hcounts
  exact hcounts

theorem dates_chart :
    ((byDay aggregations).map DailyRow.of).map DailyRow.date =
      (byDay aggregations).map Prod.fst := by
  rw [map_map]
  rfl

theorem nodup_dates_chart : ((byDay aggregations).map Prod.fst).Nodup :=
  (nodup_map_orderBy _ _ _).mpr (Rows.unique _)

theorem mem_dates_chart {date : ℤ} :
    date ∈ (byDay aggregations).map Prod.fst ↔
      date ∈ aggregations.map UsageAggregation.periodStart := by
  rw [byDay, ((orderBy_perm _ _).map Prod.fst).mem_iff]
  refine mem_keys_tally.trans ?_
  rw [map_map]
  rfl

theorem length_chart_le : (byDay aggregations).length ≤ aggregations.length := by
  have hle := length_keys_tally_le (aggregations.map fun a => (a.periodStart, a.usage))
  rw [Dict.keys, length_map, length_map] at hle
  rw [byDay, (orderBy_perm _ _).length_eq]
  exact hle

/-! The rows of a chart add up to its totals. -/

variable (chart : List (ℤ × Usage ℕ))

theorem requests_daily :
    ((chart.map DailyRow.of).map DailyRow.requests).sum =
      (Totals.of (chart.map Prod.snd).sum).requests := by
  have hsum := map_list_sum Usage.counts (chart.map Prod.snd)
  rw [map_map] at hsum
  rw [map_map]
  exact hsum.symm

theorem tokens_daily :
    ((chart.map DailyRow.of).map DailyRow.tokens).sum =
      (Totals.of (chart.map Prod.snd).sum).tokens := by
  have hsum := map_list_sum Usage.amounts (chart.map Prod.snd)
  rw [map_map] at hsum
  rw [map_map]
  exact hsum.symm

theorem cost_daily :
    |((chart.map DailyRow.of).map DailyRow.cost).sum -
        (Totals.of (chart.map Prod.snd).sum).cost| ≤ (chart.length + 1) / 20000 := by
  have hcosts := map_list_sum Usage.costs (chart.map Prod.snd)
  rw [map_map] at hcosts
  have hrows := abs_sum_round4_sub_le (chart.map (Usage.costs ∘ Prod.snd))
  have htotal := abs_round4_sub_le (Usage.costs (chart.map Prod.snd).sum)
  rw [map_map, length_map, ← hcosts] at hrows
  have hadd := abs_sub_le ((chart.map (round4 ∘ Usage.costs ∘ Prod.snd)).sum)
    ((Usage.costs (chart.map Prod.snd).sum : NNRat) : ℚ)
    (round4 (Usage.costs (chart.map Prod.snd).sum))
  rw [abs_sub_comm ((Usage.costs (chart.map Prod.snd).sum : NNRat) : ℚ)] at hadd
  rw [map_map]
  refine hadd.trans ((add_le_add hrows htotal).trans_eq ?_)
  ring

end Chart

/-! ### What the repository answers -/

section Answer

variable (text : Json → PyStr) (rows : List UsageRow) (q : UsageQuery) (start stop : Timestamp)
  (limit : ℕ)

theorem filter_whereClause :
    rows.filter (whereClause text q start stop) = concerning text rows q start stop := by
  refine filter_congr fun row _ => ?_
  exact Bool.eq_iff_iff.mpr ((whereClause_iff text q start stop row).trans decide_eq_true_iff.symm)

def periodEntries : List (ℤ × Usage NNRat) :=
  (usageGroups text rows q start stop).map fun e => (e.1.periodStart, e.2)

theorem sum_periodEntries :
    ((periodEntries text rows q start stop).map Prod.snd).sum =
      ((concerning text rows q start stop).map UsageRow.usage).sum := by
  rw [periodEntries, map_map, usageGroups, filter_whereClause]
  refine (sum_map_orderBy _ _ Prod.snd).trans ((sum_values_tally _).trans ?_)
  rw [map_map]
  rfl

theorem dates_periodEntries :
    ((periodEntries text rows q start stop).map Prod.fst).toFinset =
      datesOf (concerning text rows q start stop) := by
  have hgroups : ∀ group, group ∈ (usageGroups text rows q start stop).map Prod.fst ↔
      group ∈ (concerning text rows q start stop).map (UsageRow.group text) := by
    intro group
    have hperm := (orderBy_perm (fun e : UsageGroup × Usage NNRat => -e.1.periodStart)
      (Dict.tally ((rows.filter (whereClause text q start stop)).map fun row =>
        (row.group text, row.usage))).rows).map Prod.fst
    rw [usageGroups, hperm.mem_iff, ← filter_whereClause]
    refine mem_keys_tally.trans ?_
    rw [map_map]
    rfl
  ext date
  rw [mem_toFinset, periodEntries, datesOf, mem_toFinset, map_map]
  constructor
  · intro h
    obtain ⟨e, he, rfl⟩ := mem_map.mp h
    obtain ⟨row, hrow, hgroup⟩ := mem_map.mp ((hgroups e.1).mp (mem_map_of_mem he))
    refine mem_map.mpr ⟨row, hrow, ?_⟩
    rw [Function.comp_apply, ← hgroup]
    rfl
  · intro h
    obtain ⟨row, hrow, rfl⟩ := mem_map.mp h
    obtain ⟨e, he, hgroup⟩ :=
      mem_map.mp ((hgroups (row.group text)).mpr (mem_map_of_mem hrow))
    refine mem_map.mpr ⟨e, he, ?_⟩
    rw [Function.comp_apply, hgroup]
    rfl

theorem dates_aggregations :
    (getUsageAggregations text rows q start stop limit).map UsageAggregation.periodStart =
      (tallyUpTo limit (periodEntries text rows q start stop)).keys := by
  rw [getUsageAggregations, map_map]
  rfl

variable {text rows q start stop limit} in
theorem tallyUpTo_periodEntries
    (h : (datesOf (concerning text rows q start stop)).card ≤ limit) :
    tallyUpTo limit (periodEntries text rows q start stop) =
      Dict.tally (periodEntries text rows q start stop) := by
  refine tallyUpTo_eq_tally ?_
  rw [dates_periodEntries]
  exact h

variable {text rows q start stop limit} in
theorem count_aggregations
    (h : (datesOf (concerning text rows q start stop)).card ≤ limit) :
    ((getUsageAggregations text rows q start stop limit).map UsageAggregation.totalUsageCount).sum =
      (concerning text rows q start stop).length := by
  have hsum := congrArg Usage.counts
    ((sum_values_tally (periodEntries text rows q start stop)).trans
      (sum_periodEntries text rows q start stop))
  rw [map_list_sum, map_list_sum, map_map, values, map_map] at hsum
  have hones : (concerning text rows q start stop).map (Usage.counts ∘ UsageRow.usage) =
      replicate (concerning text rows q start stop).length 1 :=
    map_eq_replicate_iff.mpr fun _ _ => rfl
  rw [getUsageAggregations, ← periodEntries, tallyUpTo_periodEntries h, map_map]
  refine hsum.trans ?_
  rw [hones, sum_replicate, nsmul_one, Nat.cast_id]

variable {text rows q start stop limit} in
theorem mem_dates_aggregations
    (h : (datesOf (concerning text rows q start stop)).card ≤ limit) (date : ℤ) :
    date ∈ (getUsageAggregations text rows q start stop limit).map UsageAggregation.periodStart ↔
      date ∈ datesOf (concerning text rows q start stop) := by
  rw [dates_aggregations, tallyUpTo_periodEntries h, mem_keys_tally, ← dates_periodEntries,
    mem_toFinset]

theorem length_aggregations_le :
    (getUsageAggregations text rows q start stop limit).length ≤ limit := by
  have hle : (tallyUpTo limit (periodEntries text rows q start stop)).keys.length ≤ limit :=
    length_keys_tallyUpTo_le _
  rw [← dates_aggregations, length_map] at hle
  exact hle

end Answer

/-! ### When the overview is complete -/

section Main

variable (text : Json → PyStr) (rows : List UsageRow) (agents : AgentAnswer) (q : UsageQuery)
  (periodDays : ℕ) (now : Timestamp)

end Main

def tokenAt (second : ℤ) : UsageRow :=
  ⟨['u'], none, none, ['p'], ['s'], 1, 1, [], seconds second⟩

end IsaUser.Billing.Overview
