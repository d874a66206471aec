import IsaUser.Lib.Values

/-!
# Months

A month is counted from the beginning of year 0, so that months follow each other like numbers, over
the ends of years. Every month ends where the next one begins.

## Main results

* `firstDay_add_length`: the length of a month.
* `firstDay_mono`: later months begin later.
-/

namespace IsaUser.Calendar

variable {m m' : ℤ}

def IsLeap (year : ℤ) : Prop := year % 4 = 0 ∧ (year % 100 ≠ 0 ∨ year % 400 = 0)

instance (year : ℤ) : Decidable (IsLeap year) := inferInstanceAs (Decidable (_ ∧ _))

def daysInMonth (year month : ℤ) : ℤ :=
  if month = 2 then if IsLeap year then 29 else 28
  else if month = 4 ∨ month = 6 ∨ month = 9 ∨ month = 11 then 30
  else 31

def firstDay (m : ℤ) : ℤ := daysFromCivil ⟨m / 12, m % 12 + 1, 1⟩

def length (m : ℤ) : ℤ := daysInMonth (m / 12) (m % 12 + 1)

theorem daysFromCivil_eq {year month : ℤ} (day : ℤ) (h : 1 ≤ month) (h' : month ≤ 12) :
    daysFromCivil ⟨year, month, day⟩ = firstDay (12 * year + month - 1) + day - 1 := by
  have hyear : (12 * year + month - 1) / 12 = year := by omega
  have hmonth : (12 * year + month - 1) % 12 + 1 = month := by omega
  rw [firstDay, hyear, hmonth]
  simp only [daysFromCivil]
  omega

theorem daysInMonth_eq {year month : ℤ} (h : 1 ≤ month) (h' : month ≤ 12) :
    daysInMonth year month = length (12 * year + month - 1) := by
  have hyear : (12 * year + month - 1) / 12 = year := by omega
  have hmonth : (12 * year + month - 1) % 12 + 1 = month := by omega
  rw [length, hyear, hmonth]

theorem firstDay_add_length (m : ℤ) : firstDay m + length m = firstDay (m + 1) := by
  obtain ⟨y, k, hk, hk', rfl⟩ : ∃ y k : ℤ, 1 ≤ k ∧ k ≤ 12 ∧ m = 12 * y + k - 1 :=
    ⟨m / 12, m % 12 + 1, by omega, by omega, by omega⟩
  rw [← daysInMonth_eq hk hk']
  have hfirst : daysFromCivil ⟨y, k, 1⟩ = firstDay (12 * y + k - 1) := by
    rw [daysFromCivil_eq 1 hk hk']
    omega
  -- the next month is in the same year, or the first one of the next
  have hnext : firstDay (12 * y + k - 1 + 1) =
      if k = 12 then daysFromCivil ⟨y + 1, 1, 1⟩ else daysFromCivil ⟨y, k + 1, 1⟩ := by
    split
    · next h =>
        subst h
        rw [daysFromCivil_eq 1 (by omega) (by omega), add_sub_cancel_right]
        congr 1
        omega
    · rw [daysFromCivil_eq 1 (by omega) (by omega), add_sub_cancel_right]
      congr 1
      omega
  rw [hnext, ← hfirst]
  simp only [daysFromCivil, daysInMonth, IsLeap]
  obtain rfl | rfl | rfl | rfl | rfl | rfl | rfl | rfl | rfl | rfl | rfl | rfl : k = 1 ∨ k = 2 ∨
    k = 3 ∨ k = 4 ∨ k = 5 ∨ k = 6 ∨ k = 7 ∨ k = 8 ∨ k = 9 ∨ k = 10 ∨ k = 11 ∨ k = 12 := by omega
  all_goals simp
  case inr.inl => split_ifs <;> omega
  all_goals omega

theorem length_pos (m : ℤ) : 28 ≤ length m := by
  rw [length, daysInMonth]
  split_ifs <;> decide

theorem firstDay_mono (h : m < m') : firstDay m + length m ≤ firstDay m' := by
  rw [firstDay_add_length]
  refine (strictMono_int_of_lt_succ fun m => ?_).monotone h
  have hlength := length_pos m
  rw [← firstDay_add_length]
  omega

end IsaUser.Calendar
