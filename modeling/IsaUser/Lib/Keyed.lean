import Mathlib.Algebra.BigOperators.Group.Finset.Basic
import Mathlib.Tactic.Abel

/-!
# Tables with Keys

A table of a relational store whose rows are found by a key. It carries the keys that it has, so
that a column can be added up: `Keyed.sumBy` with one rule for the insertion of a row and one for
its update.
-/

namespace IsaUser

open Finset

/-- A table whose rows are found by a key. -/
structure Keyed (κ ρ : Type*) where
  /-- The keys that are there. -/
  keys : Finset κ
  /-- The row of a key. -/
  get? : κ → Option ρ
  /-- The keys that are there are those that have a row. -/
  mem_keys : ∀ k, k ∈ keys ↔ (get? k).isSome = true

namespace Keyed

variable {κ ρ M : Type*}

def empty : Keyed κ ρ := ⟨∅, fun _ => none, by simp⟩

variable [DecidableEq κ] {t : Keyed κ ρ} {k k' : κ} {r : ρ}

def insert (t : Keyed κ ρ) (k : κ) (r : ρ) : Keyed κ ρ where
  keys := Insert.insert k t.keys
  get? := Function.update t.get? k (some r)
  mem_keys k' := by
    rcases eq_or_ne k' k with rfl | hne
    · simp
    · simp [hne, t.mem_keys k']

def modify (t : Keyed κ ρ) (k : κ) (f : ρ → ρ) : Keyed κ ρ where
  keys := t.keys
  get? := Function.update t.get? k ((t.get? k).map f)
  mem_keys k' := by
    rcases eq_or_ne k' k with rfl | hne
    · simp [t.mem_keys k']
    · simp [hne, t.mem_keys k']

@[simp] theorem get?_insert_self (t : Keyed κ ρ) (k : κ) (r : ρ) : (t.insert k r).get? k = some r :=
  Function.update_self ..

theorem get?_insert_of_ne (t : Keyed κ ρ) (h : k' ≠ k) (r : ρ) :
    (t.insert k r).get? k' = t.get? k' :=
  Function.update_of_ne h ..

@[simp] theorem get?_modify_self (t : Keyed κ ρ) (k : κ) (f : ρ → ρ) :
    (t.modify k f).get? k = (t.get? k).map f :=
  Function.update_self ..

theorem get?_modify_of_ne (t : Keyed κ ρ) (h : k' ≠ k) (f : ρ → ρ) :
    (t.modify k f).get? k' = t.get? k' :=
  Function.update_of_ne h ..

/-! ### Sums -/

section Sum

variable [AddCommGroup M]

def sumBy (t : Keyed κ ρ) (g : ρ → M) : M := ∑ k ∈ t.keys, ((t.get? k).map g).getD 0

theorem sumBy_insert (h : t.get? k = none) (r : ρ) (g : ρ → M) :
    (t.insert k r).sumBy g = t.sumBy g + g r := by
  have hk : k ∉ t.keys := by
    rw [t.mem_keys, h]
    exact Bool.false_ne_true
  have hrest : ∑ k' ∈ t.keys, (((t.insert k r).get? k').map g).getD 0 = t.sumBy g := by
    refine sum_congr rfl fun k' hk' => ?_
    rw [get?_insert_of_ne t (ne_of_mem_of_not_mem hk' hk)]
  rw [sumBy, insert, sum_insert hk]
  change (((t.insert k r).get? k).map g).getD 0 +
    ∑ k' ∈ t.keys, (((t.insert k r).get? k').map g).getD 0 = _
  rw [hrest, get?_insert_self, add_comm]
  rfl

theorem sumBy_modify (h : t.get? k = some r) (f : ρ → ρ) (g : ρ → M) :
    (t.modify k f).sumBy g = t.sumBy g - g r + g (f r) := by
  have hk : k ∈ t.keys := by
    rw [t.mem_keys, h]
    rfl
  have hrest : ∑ k' ∈ t.keys.erase k, (((t.modify k f).get? k').map g).getD 0 =
      ∑ k' ∈ t.keys.erase k, ((t.get? k').map g).getD 0 := by
    refine sum_congr rfl fun k' hk' => ?_
    rw [get?_modify_of_ne t (ne_of_mem_erase hk')]
  have hold : t.sumBy g = g r + ∑ k' ∈ t.keys.erase k, ((t.get? k').map g).getD 0 := by
    rw [sumBy, ← add_sum_erase _ _ hk, h]
    rfl
  have hnew : (t.modify k f).sumBy g =
      g (f r) + ∑ k' ∈ t.keys.erase k, (((t.modify k f).get? k').map g).getD 0 := by
    rw [sumBy, ← add_sum_erase _ _ (show k ∈ (t.modify k f).keys from hk),
      get?_modify_self, h]
    rfl
  rw [hnew, hrest, hold]
  abel

theorem sumBy_modify_of_none (h : t.get? k = none) (f : ρ → ρ) (g : ρ → M) :
    (t.modify k f).sumBy g = t.sumBy g := by
  refine sum_congr rfl fun k' _ => ?_
  rcases eq_or_ne k' k with rfl | hne
  · rw [get?_modify_self, h]
    rfl
  · rw [get?_modify_of_ne t hne]

end Sum

end Keyed

end IsaUser
