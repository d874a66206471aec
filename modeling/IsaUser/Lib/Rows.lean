import Mathlib.Data.List.Nodup

/-!
# Rows with a Unique Key

A table as the list of its rows, no two of which share a key. The rows keep the order in which they
were inserted, so that a query may list them, and the row of a key is found by a search.

## Main results

* `Rows.get?_eq_some_iff`: the row of a key is the one that has it.
* `Rows.get?_modify`, `Rows.get?_insert`: what is found after a write.
-/

open List

namespace IsaUser

structure Rows {κ ρ : Type*} (key : ρ → κ) where
  /-- The rows, in the order of their insertion. -/
  rows : List ρ
  /-- No two rows share a key. -/
  unique : (rows.map key).Nodup

namespace Rows

variable {κ ρ : Type*} {key : ρ → κ}

def empty : Rows key := ⟨[], List.nodup_nil⟩

variable [DecidableEq κ] {t : Rows key} {k k' : κ} {r : ρ}

def get? (t : Rows key) (k : κ) : Option ρ := t.rows.find? fun r => key r = k

theorem get?_eq_some_iff : t.get? k = some r ↔ r ∈ t.rows ∧ key r = k := by
  rw [get?]
  constructor
  · intro h
    exact ⟨mem_of_find?_eq_some h, by simpa using find?_some h⟩
  · rintro ⟨hr, rfl⟩
    obtain ⟨r', hr'⟩ : ∃ r', t.rows.find? (fun r' => key r' = key r) = some r' :=
      Option.isSome_iff_exists.mp (find?_isSome.mpr ⟨r, hr, decide_eq_true rfl⟩)
    have hkey : key r' = key r := by simpa using find?_some hr'
    rw [hr', inj_on_of_nodup_map t.unique (mem_of_find?_eq_some hr') hr hkey]

theorem get?_key (hr : r ∈ t.rows) : t.get? (key r) = some r := get?_eq_some_iff.mpr ⟨hr, rfl⟩

theorem get?_eq_none_iff : t.get? k = none ↔ ∀ r ∈ t.rows, key r ≠ k := by
  rw [get?]
  simp

/-! ### Writing -/

def insert (t : Rows key) (r : ρ) (h : t.get? (key r) = none) : Rows key where
  rows := t.rows ++ [r]
  unique := by
    rw [List.map_append, List.map_singleton, List.nodup_append]
    refine ⟨t.unique, List.nodup_singleton _, fun k hk k' hk' heq => ?_⟩
    obtain ⟨r', hr', rfl⟩ := List.mem_map.mp hk
    exact get?_eq_none_iff.mp h r' hr' (heq.trans (List.mem_singleton.mp hk'))

def modify (t : Rows key) (k : κ) (f : ρ → ρ) (hf : ∀ r, key (f r) = key r) : Rows key where
  rows := t.rows.map fun r => if key r = k then f r else r
  unique := by
    have hkeys : (key ∘ fun r => if key r = k then f r else r) = key := by
      funext r
      rw [Function.comp_apply]
      split
      · exact hf r
      · rfl
    rw [List.map_map, hkeys]
    exact t.unique

def map (t : Rows key) (f : ρ → ρ) (hf : ∀ r, key (f r) = key r) : Rows key where
  rows := t.rows.map f
  unique := by
    rw [List.map_map, show key ∘ f = key from funext hf]
    exact t.unique

theorem get?_insert (h : t.get? (key r) = none) :
    (t.insert r h).get? k = if key r = k then some r else t.get? k := by
  rw [get?, insert, find?_append, ← get?]
  by_cases hk : key r = k
  · subst hk
    rw [h, if_pos rfl, Option.none_or, find?_singleton, if_pos (decide_eq_true rfl)]
  · rw [if_neg hk, find?_singleton, if_neg (by simpa using hk), Option.or_none]

theorem get?_modify {f : ρ → ρ} (hf : ∀ r, key (f r) = key r) :
    (t.modify k f hf).get? k' = if k' = k then (t.get? k).map f else t.get? k' := by
  have hpred : ((fun r : ρ => decide (key r = k')) ∘ fun r => if key r = k then f r else r) =
      fun r => decide (key r = k') := by
    funext r
    rw [Function.comp_apply]
    split
    · rw [hf r]
    · rfl
  rw [get?, modify, find?_map, hpred, ← get?]
  split
  · next h =>
      subst h
      cases hr : t.get? k' with
      | none => rfl
      | some r => rw [Option.map_some, Option.map_some, if_pos (get?_eq_some_iff.mp hr).2]
  · next h =>
      cases hr : t.get? k' with
      | none => rfl
      | some r =>
        rw [Option.map_some, if_neg fun hk => h ((get?_eq_some_iff.mp hr).2.symm.trans hk)]

theorem get?_modify_self {f : ρ → ρ} (hf : ∀ r, key (f r) = key r) :
    (t.modify k f hf).get? k = (t.get? k).map f := by
  rw [get?_modify, if_pos rfl]

end Rows

end IsaUser
