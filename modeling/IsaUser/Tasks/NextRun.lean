import IsaUser.Lib.Calendar
import Mathlib.Order.Bounds.Basic

/-!
# The Next Run of a Task

A schedule names a time of the day, and a day of the week or of the month. The next run is computed
from the calendar; where that fails, it is five minutes later. A week is counted from 0 by the
calendar and from 1 by the schedule, so a weekly task runs a day late; and a monthly task skips the
rest of the month.
-/

namespace IsaUser.Tasks

open Calendar

/-! ### Instants -/

/-- A `datetime`: a day of the years 1 to 9999, and the microseconds since its midnight. -/
structure DateTime where
  year : ℤ
  month : ℤ
  day : ℤ
  timeOfDay : ℤ
  isYear : 1 ≤ year ∧ year ≤ 9999
  isMonth : 1 ≤ month ∧ month ≤ 12
  isDay : 1 ≤ day ∧ day ≤ daysInMonth year month
  isTime : 0 ≤ timeOfDay ∧ timeOfDay < microsPerDay

def onDay (n time : ℤ) : ℤ := days n + time

def DateTime.dayNumber (d : DateTime) : ℤ := daysFromCivil ⟨d.year, d.month, d.day⟩

def DateTime.instant (d : DateTime) : ℤ := onDay d.dayNumber d.timeOfDay

/-- `datetime.weekday` of a day: Monday is 0. -/
def weekday (n : ℤ) : ℤ := (n + 3) % 7

def lastDay : ℤ := daysFromCivil ⟨9999, 12, 31⟩

inductive ScheduleError where
  | valueError
  | overflowError
  deriving DecidableEq, Repr

/-- An instant after another one, if it is not too late for a `datetime`. -/
def later (t delta : ℤ) : Except ScheduleError ℤ :=
  if t + delta < days (lastDay + 1) then .ok (t + delta) else .error .overflowError

/-- `timedelta(minutes=n)`. -/
def minutes (n : ℤ) : ℤ := seconds (60 * n)

/-! ### Schedules -/

inductive Schedule where
  | once (runTime : Option (PyStr ⊕ Timestamp))
  | daily (runTime : Option PyStr)
  | weekly (weekday : Option ℤ) (runTime : Option PyStr)
  | monthly (day : Option ℤ) (runTime : Option PyStr)
  | cron
  | other

/-- `int`, of a text of digits. -/
def digits (s : PyStr) : Option ℤ :=
  if s ≠ [] ∧ ∀ c ∈ s, c.isDigit then
    some (s.foldl (fun n c => 10 * n + (c.toNat - '0'.toNat)) 0)
  else none

/-- `hour, minute = map(int, run_time.split(":"))`, as a time of the day for `replace`. -/
def clockTime (runTime : PyStr) : Except ScheduleError ℤ :=
  match digits (runTime.takeWhile (· ≠ ':')), digits ((runTime.dropWhile (· ≠ ':')).drop 1) with
  | some hour, some minute =>
    if hour < 24 ∧ minute < 60 then .ok (minutes (60 * hour + minute)) else .error .valueError
  | _, _ => .error .valueError

def nineAm : PyStr := "09:00".toList

/-- The body of `_calculate_next_run_time`. -/
def nextRunTime (fromIsoFormat : PyStr → Option Timestamp) (now : DateTime) :
    Schedule → Except ScheduleError ℤ
  | .once none => later now.instant (minutes 5)
  | .once (some (.inl text)) => (fromIsoFormat text).elim (.error .valueError) .ok
  | .once (some (.inr t)) => .ok t
  | .daily runTime => do
    let time ← clockTime (runTime.getD nineAm)
    let nextRun := onDay now.dayNumber time
    if nextRun ≤ now.instant then later nextRun (days 1) else return nextRun
  | .weekly day runTime => do
    let time ← clockTime (runTime.getD nineAm)
    let difference := day.getD 1 - weekday now.dayNumber
    let daysAhead := if difference ≤ 0 then difference + 7 else difference
    let nextRun ← later now.instant (days daysAhead)
    return onDay (nextRun / microsPerDay) time
  | .monthly day runTime => do
    let time ← clockTime (runTime.getD nineAm)
    let (year, month) := if now.month = 12 then (now.year + 1, 1) else (now.year, now.month + 1)
    if year ≤ 9999 ∧ 1 ≤ day.getD 1 ∧ day.getD 1 ≤ daysInMonth year month then
      return onDay (daysFromCivil ⟨year, month, day.getD 1⟩) time
    else .error .valueError
  | .cron => later now.instant (minutes 60)
  | .other => later now.instant (minutes 5)

/-- `_calculate_next_run_time`, where `now'` is the clock when the computation has failed. -/
def calculateNextRunTime (fromIsoFormat : PyStr → Option Timestamp) (s : Schedule) (now : DateTime)
    (now' : ℤ) : Except ScheduleError ℤ :=
  (nextRunTime fromIsoFormat now s).tryCatch fun _ => later now' (minutes 5)

/-! ### The law -/

inductive Frequency where
  | daily
  | weekly (weekday : ℤ)
  | monthly (day : ℤ)

def Frequency.IsValid : Frequency → Prop
  | daily => True
  | weekly weekday => 1 ≤ weekday ∧ weekday ≤ 7
  | monthly day => 1 ≤ day ∧ day ≤ 31

structure Recurrence where
  frequency : Frequency
  hour : Fin 24
  minute : Fin 60
  isValid : frequency.IsValid

def twoDigits (n : ℕ) : PyStr := [Char.ofNat (48 + n / 10), Char.ofNat (48 + n % 10)]

def Recurrence.schedule (r : Recurrence) : Schedule :=
  let runTime := twoDigits r.hour ++ ':' :: twoDigits r.minute
  match r.frequency with
  | .daily => .daily runTime
  | .weekly weekday => .weekly (some weekday) runTime
  | .monthly day => .monthly (some day) runTime

def Recurrence.time (r : Recurrence) : ℤ := minutes (60 * r.hour.val + r.minute.val)

def Frequency.On (n : ℤ) : Frequency → Prop
  | daily => True
  | weekly day => weekday n + 1 = day
  | monthly day => ∃ m, day ≤ length m ∧ n = firstDay m + day - 1

def Recurrence.IsNext (r : Recurrence) (now t : ℤ) : Prop :=
  IsLeast {t | now < t ∧ t % microsPerDay = r.time ∧ r.frequency.On (t / microsPerDay)} t

def ReturnsNext (fromIsoFormat : PyStr → Option Timestamp) (r : Recurrence) (now : DateTime)
    (now' : ℤ) : Prop :=
  ∃ t, calculateNextRunTime fromIsoFormat r.schedule now now' = .ok t ∧ r.IsNext now.instant t

/-! ### The condition -/

def DateTime.monthNumber (d : DateTime) : ℤ := 12 * d.year + d.month - 1

def lastMonth : ℤ := 12 * 9999 + 12 - 1

def Recurrence.InFiveMinutes (r : Recurrence) (now : DateTime) (now' : ℤ) : Prop :=
  now' + minutes 5 < days (lastDay + 1) ∧ r.IsNext now.instant (now' + minutes 5)

/-- A daily task has a day left; a weekly one is seven days before the end of the calendar at most,
and in five minutes; and a monthly one has no day left in this month and one in the next, or the next
month lacks the day and it is in five minutes. -/
def Recurrence.Right (r : Recurrence) (now : DateTime) (now' : ℤ) : Prop :=
  match r.frequency with
  | .daily => now.instant < onDay now.dayNumber r.time ∨ now.dayNumber < lastDay
  | .weekly day => lastDay < now.dayNumber + ((day - weekday now.dayNumber - 1) % 7 + 1) ∧
      r.InFiveMinutes now now'
  | .monthly day =>
    if now.monthNumber < lastMonth ∧ day ≤ length (now.monthNumber + 1) then
      length now.monthNumber < day ∨
        onDay (firstDay now.monthNumber + day - 1) r.time ≤ now.instant
    else r.InFiveMinutes now now'

/-! ### Days -/

section Days

variable {r : Recurrence} {now : DateTime} {n t time : ℤ}

theorem onDay_div (h : 0 ≤ time) (h' : time < microsPerDay) : onDay n time / microsPerDay = n := by
  simp only [onDay, days, microsPerDay] at *
  omega

theorem onDay_mod (h : 0 ≤ time) (h' : time < microsPerDay) :
    onDay n time % microsPerDay = time := by
  simp only [onDay, days, microsPerDay] at *
  omega

theorem Recurrence.isTime (r : Recurrence) : 0 ≤ r.time ∧ r.time < microsPerDay := by
  have hhour := r.hour.isLt
  have hminute := r.minute.isLt
  simp only [Recurrence.time, minutes, seconds, microsPerDay]
  omega

theorem instant_lt_iff : now.instant < onDay n r.time ↔
    now.dayNumber < n ∨ now.dayNumber = n ∧ now.timeOfDay < r.time := by
  obtain ⟨h, h'⟩ := r.isTime
  obtain ⟨hnow, hnow'⟩ := now.isTime
  simp only [DateTime.instant, onDay, days, microsPerDay] at *
  omega

theorem isNext_iff : r.IsNext now.instant (onDay n r.time) ↔ r.frequency.On n ∧
    now.instant < onDay n r.time ∧
    ∀ n', r.frequency.On n' → now.instant < onDay n' r.time → n ≤ n' := by
  obtain ⟨h, h'⟩ := r.isTime
  have hdays (n n') : onDay n r.time ≤ onDay n' r.time ↔ n ≤ n' := by
    simp only [onDay, days, microsPerDay]
    omega
  have hon (t : ℤ) (ht : t % microsPerDay = r.time) : onDay (t / microsPerDay) r.time = t := by
    rw [← ht, onDay, days, mul_comm, Int.mul_ediv_add_emod]
  constructor
  · rintro ⟨⟨hnow, -, hn⟩, hleast⟩
    rw [onDay_div h h'] at hn
    refine ⟨hn, hnow, fun n' hn' hnow' => (hdays n n').mp (hleast ⟨hnow', onDay_mod h h', ?_⟩)⟩
    rwa [onDay_div h h']
  · rintro ⟨hn, hnow, hleast⟩
    refine ⟨⟨hnow, onDay_mod h h', by rwa [onDay_div h h']⟩, ?_⟩
    rintro t ⟨hnow', ht, hon'⟩
    rw [← hon t ht] at hnow' ⊢
    exact (hdays n _).mpr (hleast _ hon' hnow')

end Days

/-! ### What is computed -/

section Computed

variable {fromIsoFormat : PyStr → Option Timestamp} {r : Recurrence} {now : DateTime}
  {now' : ℤ} {t time day : ℤ} {e : ScheduleError}

theorem returnsNext_of_ok (h : nextRunTime fromIsoFormat now r.schedule = .ok t) :
    ReturnsNext fromIsoFormat r now now' ↔ r.IsNext now.instant t := by
  rw [ReturnsNext, calculateNextRunTime, h]
  change (∃ t', Except.ok t = .ok t' ∧ _) ↔ _
  simp

theorem returnsNext_of_error (h : nextRunTime fromIsoFormat now r.schedule = .error e) :
    ReturnsNext fromIsoFormat r now now' ↔ r.InFiveMinutes now now' := by
  rw [ReturnsNext, calculateNextRunTime, h, Recurrence.InFiveMinutes]
  change (∃ t, later now' (minutes 5) = .ok t ∧ _) ↔ _
  rw [later]
  split
  · next h => simp [h]
  · next h => simp [h]

theorem digits_twoDigits : ∀ n : Fin 60, digits (twoDigits n) = some (n.val : ℤ) := by decide

theorem colon_notMem : ∀ n : Fin 60, ':' ∉ twoDigits n := by decide

theorem clockTime_text (hour : Fin 24) (minute : Fin 60) :
    clockTime (twoDigits hour ++ ':' :: twoDigits minute) =
      .ok (minutes (60 * hour.val + minute.val)) := by
  have hcolon : ∀ c ∈ twoDigits hour, decide (c ≠ ':') = true := fun c hc =>
    decide_eq_true fun h => colon_notMem (hour.castLE (by decide)) (h ▸ hc)
  have htake : (twoDigits hour ++ ':' :: twoDigits minute).takeWhile (· ≠ ':') = twoDigits hour := by
    rw [List.takeWhile_append_of_pos hcolon]
    simp
  have hdrop : ((twoDigits hour ++ ':' :: twoDigits minute).dropWhile (· ≠ ':')).drop 1 =
      twoDigits minute := by
    rw [List.dropWhile_append_of_pos hcolon]
    simp
  have hhour : digits (twoDigits hour) = some (hour.val : ℤ) :=
    digits_twoDigits (hour.castLE (by decide))
  have hvalid : (hour.val : ℤ) < 24 ∧ (minute.val : ℤ) < 60 := by omega
  simp only [clockTime, htake, hdrop, hhour, digits_twoDigits minute, if_pos hvalid]

theorem later_days (h : 0 ≤ time) (h' : time < microsPerDay) (n k : ℤ) :
    later (onDay n time) (days k) =
      if n + k ≤ lastDay then .ok (onDay (n + k) time) else .error .overflowError := by
  have hsum : onDay n time + days k = onDay (n + k) time := by
    simp only [onDay, days, microsPerDay]
    omega
  have hlast : onDay (n + k) time < days (lastDay + 1) ↔ n + k ≤ lastDay := by
    simp only [onDay, days, microsPerDay] at *
    omega
  simp only [later, hsum, hlast]

theorem daily_iff (hr : r.frequency = .daily) :
    ReturnsNext fromIsoFormat r now now' ↔ r.Right now now' := by
  obtain ⟨h, h'⟩ := r.isTime
  have hrun : nextRunTime fromIsoFormat now r.schedule =
      if onDay now.dayNumber r.time ≤ now.instant
      then later (onDay now.dayNumber r.time) (days 1) else .ok (onDay now.dayNumber r.time) := by
    simp only [Recurrence.schedule, hr, nextRunTime, Option.getD_some, clockTime_text]
    rfl
  simp only [Recurrence.Right, hr]
  rcases lt_or_ge now.instant (onDay now.dayNumber r.time) with hnow | hnow
  · rw [if_neg hnow.not_ge] at hrun
    rw [returnsNext_of_ok hrun, isNext_iff, hr]
    refine iff_of_true ⟨trivial, hnow, fun n' _ hn' => ?_⟩ (.inl hnow)
    rw [instant_lt_iff] at hn'
    omega
  · rw [if_pos hnow, later_days h h'] at hrun
    by_cases hlast : now.dayNumber + 1 ≤ lastDay
    · rw [if_pos hlast] at hrun
      rw [returnsNext_of_ok hrun, isNext_iff, hr]
      rw [← not_lt, instant_lt_iff] at hnow
      refine iff_of_true ⟨trivial, instant_lt_iff.mpr (by omega), fun n' _ hn' => ?_⟩
        (.inr (by omega))
      rw [instant_lt_iff] at hn'
      omega
    · rw [if_neg hlast] at hrun
      rw [returnsNext_of_error hrun]
      refine iff_of_false (fun hfive => ?_) (by omega)
      obtain ⟨hlt, ⟨hafter, htime, -⟩, -⟩ := hfive
      simp only [onDay, days, microsPerDay] at *
      omega

theorem weekly_iff (hr : r.frequency = .weekly day) :
    ReturnsNext fromIsoFormat r now now' ↔ r.Right now now' := by
  obtain ⟨hday, hday'⟩ : 1 ≤ day ∧ day ≤ 7 := by
    have hvalid := r.isValid
    rwa [hr] at hvalid
  obtain ⟨h, h'⟩ := r.isTime
  set k := (day - weekday now.dayNumber - 1) % 7 + 1 with hk
  have hahead : (if day - weekday now.dayNumber ≤ 0 then day - weekday now.dayNumber + 7
      else day - weekday now.dayNumber) = k := by
    rw [hk, weekday]
    omega
  have hrun : nextRunTime fromIsoFormat now r.schedule =
      if now.dayNumber + k ≤ lastDay then .ok (onDay (now.dayNumber + k) r.time)
      else .error .overflowError := by
    simp only [Recurrence.schedule, hr, nextRunTime, Option.getD_some, clockTime_text]
    change (later now.instant (days (if _ then _ else _))).bind _ = _
    rw [hahead, DateTime.instant, later_days now.isTime.1 now.isTime.2]
    split
    · change Except.ok (onDay (onDay _ _ / microsPerDay) _) = _
      rw [onDay_div now.isTime.1 now.isTime.2]
      rfl
    · rfl
  simp only [Recurrence.Right, hr, ← hk]
  by_cases hlast : now.dayNumber + k ≤ lastDay
  · rw [if_pos hlast] at hrun
    rw [returnsNext_of_ok hrun, isNext_iff, hr]
    refine iff_of_false (fun hnext => ?_) fun hright => absurd hright.1 hlast.not_gt
    have hon : weekday (now.dayNumber + k) + 1 = day := hnext.1
    simp only [weekday] at hon hk
    omega
  · rw [if_neg hlast] at hrun
    rw [returnsNext_of_error hrun]
    exact (and_iff_right (not_le.mp hlast)).symm

theorem dayNumber_eq (now : DateTime) : now.dayNumber = firstDay now.monthNumber + now.day - 1 ∧
    1 ≤ now.day ∧ now.day ≤ length now.monthNumber := by
  obtain ⟨hmonth, hmonth'⟩ := now.isMonth
  refine ⟨daysFromCivil_eq now.day hmonth hmonth', now.isDay.1, ?_⟩
  rw [DateTime.monthNumber, ← daysInMonth_eq hmonth hmonth']
  exact now.isDay.2

theorem nextRunTime_monthly (fromIsoFormat : PyStr → Option Timestamp) (now : DateTime)
    (hr : r.frequency = .monthly day) :
    nextRunTime fromIsoFormat now r.schedule =
      if now.monthNumber < lastMonth ∧ day ≤ length (now.monthNumber + 1) then
        .ok (onDay (firstDay (now.monthNumber + 1) + day - 1) r.time)
      else .error .valueError := by
  have hday : 1 ≤ day := by
    have hvalid := r.isValid
    rw [hr] at hvalid
    exact hvalid.1
  obtain ⟨hmonth, hmonth'⟩ := now.isMonth
  have hyear := now.isYear.2
  simp only [Recurrence.schedule, hr, nextRunTime, Option.getD_some, clockTime_text]
  -- the next month is one of this year, or the first one of the next
  obtain ⟨year, month, hnext, h, h', hnumber, hlast⟩ : ∃ year month : ℤ,
      (if now.month = 12 then (now.year + 1, (1 : ℤ)) else (now.year, now.month + 1)) =
        (year, month) ∧ 1 ≤ month ∧ month ≤ 12 ∧ 12 * year + month - 1 = now.monthNumber + 1 ∧
      (year ≤ 9999 ↔ now.monthNumber < lastMonth) := by
    simp only [DateTime.monthNumber, lastMonth]
    by_cases h12 : now.month = 12
    · exact ⟨_, _, if_pos h12, by omega, by omega, by omega, by omega⟩
    · exact ⟨_, _, if_neg h12, by omega, by omega, by omega, by omega⟩
  rw [hnext, ← hnumber, ← daysInMonth_eq h h', ← daysFromCivil_eq day h h']
  simp only [hlast, hday, true_and]
  rfl

theorem monthly_iff (hr : r.frequency = .monthly day) :
    ReturnsNext fromIsoFormat r now now' ↔ r.Right now now' := by
  have hday : 1 ≤ day := by
    have hvalid := r.isValid
    rw [hr] at hvalid
    exact hvalid.1
  have hrun := nextRunTime_monthly fromIsoFormat now hr
  obtain ⟨htoday, hfirst, hlength⟩ := dayNumber_eq now
  have hmonths := firstDay_add_length now.monthNumber
  simp only [Recurrence.Right, hr]
  split
  · next hnext =>
    rw [if_pos hnext] at hrun
    rw [returnsNext_of_ok hrun, isNext_iff, hr]
    constructor
    · rintro ⟨-, -, hleast⟩
      by_contra! hleft
      have := hleast _ ⟨_, hleft.1, rfl⟩ hleft.2
      omega
    · intro hleft
      refine ⟨⟨_, hnext.2, rfl⟩, instant_lt_iff.mpr (by omega), ?_⟩
      rintro n' ⟨m, hm, rfl⟩ hn'
      rcases lt_trichotomy m now.monthNumber with hlt | rfl | hgt
      · -- an earlier month ends before this day
        have hbefore := firstDay_mono hlt
        rw [instant_lt_iff] at hn'
        omega
      · rcases hleft with hlack | hpast
        · exact absurd hm hlack.not_ge
        · exact absurd hn' hpast.not_gt
      · rcases (Int.add_one_le_of_lt hgt).lt_or_eq with hlt | heq
        · have hafter := firstDay_mono hlt
          omega
        · rw [heq]
  · next hnone =>
    rw [if_neg hnone] at hrun
    exact returnsNext_of_error hrun

end Computed

/-- **Next run time**: the next run is the next instant at which the task recurs, just if it is
right. -/
theorem returnsNext_iff (fromIsoFormat : PyStr → Option Timestamp) (r : Recurrence) (now : DateTime)
    (now' : ℤ) : ReturnsNext fromIsoFormat r now now' ↔ r.Right now now' := by
  cases hr : r.frequency with
  | daily => exact daily_iff hr
  | weekly day => exact weekly_iff hr
  | monthly day => exact monthly_iff hr

/-! ### A weekly task on a Monday -/

def mondays : Recurrence where
  frequency := .weekly 1
  hour := 9
  minute := 0
  isValid := by simp [Frequency.IsValid]

def newYear : DateTime where
  year := 2024
  month := 1
  day := 1
  timeOfDay := seconds 28800
  isYear := by omega
  isMonth := by omega
  isDay := by decide
  isTime := by decide

/-- The task runs next on Tuesday. -/
theorem not_returnsNext_mondays : ¬ReturnsNext (fun _ => none) mondays newYear newYear.instant := by
  rintro ⟨t, ht, ⟨-, -, hon⟩, -⟩
  have hrun : calculateNextRunTime (fun _ => none) mondays.schedule newYear newYear.instant =
      .ok (onDay 19724 (seconds 32400)) := by rfl
  obtain rfl := Except.ok.inj (hrun.symm.trans ht)
  exact absurd (show weekday (onDay 19724 (seconds 32400) / microsPerDay) + 1 = 1 from hon)
    (by decide)

end IsaUser.Tasks
