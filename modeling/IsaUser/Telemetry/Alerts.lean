import IsaUser.Lib.Runs
import IsaUser.Lib.Values

/-!
# Alerts

Every data point is compared with the threshold of every rule of its metric, by the beginning of the
rule's condition. Neither the points before it nor the alerts before it are looked at, and the
deadline of an alert is lost on the way to the table.

## Main results

* `evaluate_iff`: which comparisons are misread.
* `mem_newAlerts_iff`: the alerts that come of a point.
* `firesRight_iff`: when all alerts of a run are right.
-/

open List

namespace IsaUser.Telemetry

/-! ### Rules and points -/

/-- The numbers of points and thresholds, with what Python's comparisons say of them, and `float` of
a text. -/
structure Numbers (ν : Type) where
  lt : ν → ν → Bool
  eq : ν → ν → Bool
  float : PyStr → Option ν

inductive Value (ν : Type) where
  | number (n : ν)
  | text (s : PyStr)
  | dict

/-- `TelemetryDataPoint`, of a device. -/
structure DataPoint (ν : Type) where
  deviceId : PyStr
  metricName : PyStr
  value : Value ν
  time : Timestamp

/-- A row of `telemetry.alert_rules`. -/
structure AlertRule where
  ruleId : PyStr
  metricName : PyStr
  condition : PyStr
  thresholdValue : PyStr
  evaluationWindow : ℕ
  triggerCount : ℕ
  deviceIds : List PyStr
  cooldownMinutes : ℤ
  autoResolve : Bool
  autoResolveTimeout : ℤ
  enabled : Bool
  triggerCount_pos : 0 < triggerCount

/-- A row of `telemetry.alerts`. -/
structure Alert where
  ruleId : PyStr
  deviceId : PyStr
  triggeredAt : Timestamp
  autoResolveAt : Option Timestamp

structure AlertData where
  ruleId : PyStr
  deviceId : PyStr
  autoResolveAt : Option Timestamp
  autoResolveTimeout : Option ℤ := none

structure RuleTable where
  rules : List AlertRule
  nodup : (rules.map AlertRule.ruleId).Nodup

variable {ν : Type} (num : Numbers ν)

/-! ### The service -/

/-- `value == threshold`, where a threshold that reads as a number is one. -/
def pyEq (threshold : PyStr) : Value ν → Bool
  | .number n => (num.float threshold).any (num.eq n)
  | .text s => (num.float threshold).isNone && s = threshold
  | .dict => false

/-- `_evaluate_alert_condition_simple`. -/
def evaluate (condition threshold : PyStr) (value : Value ν) : Bool :=
  match condition, value with
  | '>' :: _, .number n => (num.float threshold).any fun t => num.lt t n
  | '<' :: _, .number n => (num.float threshold).any fun t => num.lt n t
  | '=' :: '=' :: _, value => pyEq num threshold value
  | '!' :: '=' :: _, value => !pyEq num threshold value
  | _, _ => false

def AlertRule.covers (r : AlertRule) (deviceId : PyStr) : Bool :=
  r.deviceIds = [] || deviceId ∈ r.deviceIds

def createAlert (data : AlertData) (now : Timestamp) : Alert :=
  { ruleId := data.ruleId
    deviceId := data.deviceId
    triggeredAt := now
    autoResolveAt := (data.autoResolveTimeout.filter (· ≠ 0)).map fun t => now + seconds t }

/-- `_trigger_alert_from_rule`. -/
def AlertRule.trigger (r : AlertRule) (p : DataPoint ν) : Alert :=
  createAlert
    { ruleId := r.ruleId
      deviceId := p.deviceId
      autoResolveAt := if r.autoResolve then some (p.time + seconds r.autoResolveTimeout) else none }
    p.time

/-- `_check_alert_rules`: the alerts that are created. -/
def RuleTable.newAlerts (t : RuleTable) (p : DataPoint ν) : List Alert :=
  ((t.rules.filter fun r => r.metricName = p.metricName ∧ r.enabled).filter fun r =>
    r.covers p.deviceId && evaluate num r.condition r.thresholdValue p.value).map (·.trigger p)

/-- The points so far, the last one first, and the alerts. -/
structure Monitor (ν : Type) where
  points : List (DataPoint ν)
  alerts : List Alert

def RuleTable.check (t : RuleTable) (m : Monitor ν) (p : DataPoint ν) : Monitor ν where
  points := p :: m.points
  alerts := t.newAlerts num p ++ m.alerts

/-! ### The law -/

inductive Comparison where
  | gt
  | ge
  | lt
  | le
  | eq
  | ne

def comparison : PyStr → Option Comparison
  | '>' :: '=' :: _ => some .ge
  | '>' :: _ => some .gt
  | '<' :: '=' :: _ => some .le
  | '<' :: _ => some .lt
  | '=' :: '=' :: _ => some .eq
  | '!' :: '=' :: _ => some .ne
  | _ => none

def equals (threshold : PyStr) : Value ν → Bool
  | .number n => (num.float threshold).any (num.eq n)
  | .text s => s = threshold
  | .dict => false

def AlertRule.compares (r : AlertRule) (value : Value ν) : Bool :=
  match comparison r.condition, value with
  | some .gt, .number n => (num.float r.thresholdValue).any fun t => num.lt t n
  | some .ge, .number n => (num.float r.thresholdValue).any fun t => num.lt t n || num.eq n t
  | some .lt, .number n => (num.float r.thresholdValue).any fun t => num.lt n t
  | some .le, .number n => (num.float r.thresholdValue).any fun t => num.lt n t || num.eq n t
  | some .eq, value => equals num r.thresholdValue value
  | some .ne, value => !equals num r.thresholdValue value
  | _, _ => false

def AlertRule.window (r : AlertRule) (m : Monitor ν) (p : DataPoint ν) : List (DataPoint ν) :=
  (p :: m.points).filter fun q => q.deviceId = p.deviceId ∧ q.metricName = r.metricName ∧
    p.time - seconds r.evaluationWindow ≤ q.time

/-- The last points compare as the condition says, as many as the rule wants, and there is no alert
of late. -/
structure AlertRule.IsDue (r : AlertRule) (m : Monitor ν) (p : DataPoint ν) : Prop where
  enough : r.triggerCount ≤ (r.window m p).length
  compares : ∀ q ∈ (r.window m p).take r.triggerCount, r.compares num q.value = true
  cooled : ∀ a ∈ m.alerts, a.ruleId = r.ruleId → a.deviceId = p.deviceId →
    seconds (60 * r.cooldownMinutes) ≤ p.time - a.triggeredAt

/-- An alert of a rule is created just if the device is covered and the rule is due, and it has the
deadline of a rule that resolves by itself. -/
def FiresRight (t : RuleTable) (m : Monitor ν) (p : DataPoint ν) : Prop :=
  ∀ r ∈ t.rules, r.enabled = true → r.metricName = p.metricName →
    ((∃ a ∈ t.newAlerts num p, a.ruleId = r.ruleId ∧ a.deviceId = p.deviceId) ↔
      r.covers p.deviceId = true ∧ r.IsDue num m p) ∧
    ∀ a ∈ t.newAlerts num p, a.ruleId = r.ruleId → r.autoResolve = true →
      a.autoResolveAt = some (p.time + seconds r.autoResolveTimeout)

/-! ### The condition -/

/-- A comparison is misread: a number that equals the threshold is at least or at most as large, and
a text that equals one that reads as a number. -/
def AlertRule.Misreads (r : AlertRule) (value : Value ν) : Prop :=
  match comparison r.condition, value with
  | some .ge, .number n => ∃ t, num.float r.thresholdValue = some t ∧ num.eq n t ∧ ¬num.lt t n
  | some .le, .number n => ∃ t, num.float r.thresholdValue = some t ∧ num.eq n t ∧ ¬num.lt n t
  | some .eq, .text s => s = r.thresholdValue ∧ (num.float r.thresholdValue).isSome
  | some .ne, .text s => s = r.thresholdValue ∧ (num.float r.thresholdValue).isSome
  | _, _ => False

/-- At a point of a device that a rule covers: a value that compares is the last of as many as the
rule wants, with no alert of late, of a rule that does not resolve by itself; or it is misread as one
that does not compare, and the rule is not due. -/
def IsPlain (t : RuleTable) (m : Monitor ν) (p : DataPoint ν) : Prop :=
  ∀ r ∈ t.rules, r.enabled = true → r.metricName = p.metricName → r.covers p.deviceId = true →
    (r.Misreads num p.value → r.compares num p.value = true ∧ ¬r.IsDue num m p) ∧
    (¬r.Misreads num p.value → r.compares num p.value = true →
      r.IsDue num m p ∧ r.autoResolve = false)

/-! ### What comes of a point -/

section Alerts

variable {num} {t : RuleTable} {r : AlertRule} {p : DataPoint ν} {m : Monitor ν} {a : Alert}

/-- What is read of a condition: `>=` is `>`, and `<=` is `<`. -/
theorem evaluate_eq (condition threshold : PyStr) (value : Value ν) :
    evaluate num condition threshold value = match comparison condition, value with
      | some .gt, .number n | some .ge, .number n =>
        (num.float threshold).any fun t => num.lt t n
      | some .lt, .number n | some .le, .number n =>
        (num.float threshold).any fun t => num.lt n t
      | some .eq, value => pyEq num threshold value
      | some .ne, value => !pyEq num threshold value
      | _, _ => false := by
  fun_cases comparison condition <;> cases value <;> simp [evaluate, *]
  split <;> simp_all

theorem evaluate_iff (r : AlertRule) (value : Value ν) :
    evaluate num r.condition r.thresholdValue value = true ↔
      (r.compares num value = true ↔ ¬r.Misreads num value) := by
  unfold AlertRule.compares AlertRule.Misreads
  rw [evaluate_eq]
  generalize comparison r.condition = c
  rcases c with _ | _ | _ | _ | _ | _ | _ <;> cases value <;> simp only [pyEq, equals] <;>
    rcases num.float r.thresholdValue with _ | t <;> simp
  all_goals tauto

theorem mem_newAlerts_iff (hr : r ∈ t.rules) (henabled : r.enabled = true)
    (hmetric : r.metricName = p.metricName) : a ∈ t.newAlerts num p ∧ a.ruleId = r.ruleId ↔
      a = r.trigger p ∧ r.covers p.deviceId = true ∧
        evaluate num r.condition r.thresholdValue p.value = true := by
  have hid (r' : AlertRule) : (r'.trigger p).ruleId = r'.ruleId := rfl
  simp only [RuleTable.newAlerts, mem_map, mem_filter, Bool.and_eq_true, decide_eq_true_iff]
  constructor
  · rintro ⟨⟨r', ⟨⟨hr', -⟩, hfires⟩, rfl⟩, heq⟩
    obtain rfl := inj_on_of_nodup_map t.nodup hr' hr heq
    exact ⟨rfl, hfires⟩
  · rintro ⟨rfl, hfires⟩
    exact ⟨⟨r, ⟨⟨hr, hmetric, henabled⟩, hfires⟩, rfl⟩, rfl⟩

theorem AlertRule.IsDue.compares_self (h : r.IsDue num m p)
    (hmetric : r.metricName = p.metricName) : r.compares num p.value = true := by
  refine h.compares p ?_
  obtain ⟨n, hn⟩ := Nat.exists_eq_succ_of_ne_zero r.triggerCount_pos.ne'
  have hwindow : 0 ≤ seconds r.evaluationWindow := by
    rw [seconds]
    omega
  have hself : p.time - seconds r.evaluationWindow ≤ p.time := Int.sub_le_self p.time hwindow
  rw [AlertRule.window, filter_cons_of_pos (by simp [hmetric, hself]), hn]
  exact mem_cons_self

theorem firesRight_iff : FiresRight num t m p ↔ IsPlain num t m p := by
  refine forall₄_congr fun r hr henabled hmetric => ?_
  have hmem (a : Alert) : a ∈ t.newAlerts num p ∧ a.ruleId = r.ruleId ↔ a = r.trigger p ∧
      r.covers p.deviceId = true ∧ evaluate num r.condition r.thresholdValue p.value = true :=
    mem_newAlerts_iff hr henabled hmetric
  have hcreated : (∃ a ∈ t.newAlerts num p, a.ruleId = r.ruleId ∧ a.deviceId = p.deviceId) ↔
      r.covers p.deviceId = true ∧ evaluate num r.condition r.thresholdValue p.value = true := by
    constructor
    · rintro ⟨a, ha, hid, -⟩
      exact ((hmem a).mp ⟨ha, hid⟩).2
    · intro hfires
      obtain ⟨ha, hid⟩ := (hmem (r.trigger p)).mpr ⟨rfl, hfires⟩
      exact ⟨_, ha, hid, rfl⟩
  have hdeadline : (∀ a ∈ t.newAlerts num p, a.ruleId = r.ruleId → r.autoResolve = true →
      a.autoResolveAt = some (p.time + seconds r.autoResolveTimeout)) ↔
      (r.covers p.deviceId = true ∧ evaluate num r.condition r.thresholdValue p.value = true →
        r.autoResolve = false) := by
    constructor
    · intro h hfires
      obtain ⟨ha, hid⟩ := (hmem (r.trigger p)).mpr ⟨rfl, hfires⟩
      by_contra hauto
      cases h _ ha hid (by simpa using hauto)
    · intro h a ha hid hauto
      rw [h ((hmem a).mp ⟨ha, hid⟩).2] at hauto
      cases hauto
  have hself : r.IsDue num m p → r.compares num p.value = true := fun h => h.compares_self hmetric
  rw [hcreated, hdeadline, evaluate_iff]
  by_cases hmisread : r.Misreads num p.value <;> by_cases hdue : r.IsDue num m p
  · simp [hmisread, hdue, hself hdue]
  · cases r.compares num p.value <;> simp +contextual [hmisread, hdue]
  · simp [hmisread, hdue, hself hdue]
  · cases r.compares num p.value <;> simp +contextual [hmisread, hdue]

end Alerts

/-- **Alerts fire exactly when their rule says**, in a run all of whose points are plain, and in no
other. -/
theorem allFireRight_iff (num : Numbers ν) (t : RuleTable) (m : Monitor ν)
    (points : List (DataPoint ν)) : AllSteps (t.check num) (FiresRight num t) m points ↔
      AllSteps (t.check num) (IsPlain num t) m points := by
  have hiff : FiresRight num t = IsPlain num t := funext₂ fun _ _ => propext firesRight_iff
  rw [hiff]

/-! ### A point at the threshold -/

def wholeNumbers : Numbers ℤ where
  lt m n := m < n
  eq m n := m = n
  float _ := some 80

def atLeastEighty : AlertRule where
  ruleId := ['r']
  metricName := ['m']
  condition := ">= 80".toList
  thresholdValue := "80".toList
  evaluationWindow := 300
  triggerCount := 1
  deviceIds := []
  cooldownMinutes := 15
  autoResolve := false
  autoResolveTimeout := 3600
  enabled := true
  triggerCount_pos := Nat.one_pos

def oneRule : RuleTable := ⟨[atLeastEighty], nodup_singleton _⟩

def eighty : DataPoint ℤ := ⟨['d'], ['m'], .number 80, 0⟩

/-- There is none at 80. -/
theorem not_firesRight_eighty :
    ¬AllSteps (oneRule.check wholeNumbers) (FiresRight wholeNumbers oneRule) ⟨[], []⟩ [eighty] := by
  rintro ⟨h, -⟩
  have hdue : atLeastEighty.IsDue wholeNumbers ⟨[], []⟩ eighty :=
    ⟨by decide, by simp [AlertRule.window]; decide, by simp⟩
  obtain ⟨a, ha, -⟩ := (h atLeastEighty (mem_singleton_self _) rfl rfl).1.mpr ⟨rfl, hdue⟩
  have hnone : oneRule.newAlerts wholeNumbers eighty = [] := rfl
  rw [hnone] at ha
  cases ha

end IsaUser.Telemetry
