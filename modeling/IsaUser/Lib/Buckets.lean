import IsaUser.Lib.Dict
import Mathlib.Data.Finset.Card

/-!
# Adding Up by Key

A loop that adds each entry to the bucket of its key, as `GROUP BY` and a dictionary with
`setdefault` do, and the loop that stops where the entries ask for one bucket too many.

## Main results

* `Dict.sum_values_tally`, `Dict.mem_keys_tally`: nothing is lost, and there is a bucket for each
  key.
* `Dict.tallyUpTo_eq_tally`, `Dict.length_keys_tallyUpTo_le`: a bound that the number of keys meets
  changes nothing, and there are never more buckets than the bound.
-/

open List

namespace IsaUser.Dict

variable {κ β : Type*} [DecidableEq κ] [AddCommMonoid β] {d : Dict κ β} {k : κ} {b : β}

def addAt (d : Dict κ β) (k : κ) (b : β) : Dict κ β := d.set k ((d.lookup k).getD 0 + b)

def tally (entries : List (κ × β)) : Dict κ β :=
  entries.foldl (fun d e => d.addAt e.1 e.2) empty

/-- The loop that ends where a new bucket is needed and the limit is reached. -/
def tallyFrom (limit : ℕ) (d : Dict κ β) : List (κ × β) → Dict κ β
  | [] => d
  | e :: entries =>
    if e.1 ∉ d.keys ∧ limit ≤ d.keys.length then d
    else tallyFrom limit (d.addAt e.1 e.2) entries

def tallyUpTo (limit : ℕ) (entries : List (κ × β)) : Dict κ β := tallyFrom limit empty entries

/-! ### One entry -/

theorem keys_addAt : (d.addAt k b).keys = addNew d.keys k := keys_set

theorem mem_keys_addAt {k' : κ} : k' ∈ (d.addAt k b).keys ↔ k' ∈ d.keys ∨ k' = k := by
  rw [keys_addAt, mem_addNew]

theorem length_addNew_le (ks : List κ) : (addNew ks k).length ≤ ks.length + 1 := by
  rw [addNew]
  split
  · exact Nat.le_succ _
  · rw [length_append, length_singleton]

theorem sum_map_replace {rows : List (κ × β)} {v : β} (hnodup : (rows.map Prod.fst).Nodup)
    (hmem : (k, v) ∈ rows) :
    ((rows.map fun e => if e.1 = k then (e.1, v + b) else e).map Prod.snd).sum =
      (rows.map Prod.snd).sum + b := by
  induction rows with
  | nil => exact nomatch hmem
  | cons e rows ih =>
    obtain ⟨hnew, hnodup⟩ := nodup_cons.mp hnodup
    rw [map_cons, map_cons, sum_cons, map_cons, sum_cons]
    rcases mem_cons.mp hmem with rfl | hmem
    · -- the first row has the key, and no other row does
      have hrest : (rows.map fun e : κ × β => if e.1 = k then (e.1, v + b) else e) = rows := by
        refine (map_congr_left fun e he => if_neg fun hk => ?_).trans (map_id _)
        exact hnew (mem_map.mpr ⟨e, he, hk⟩)
      rw [if_pos rfl, hrest]
      exact add_right_comm v b _
    · have hne : e.1 ≠ k := fun hk => hnew (hk ▸ mem_map_of_mem (f := Prod.fst) hmem)
      rw [if_neg hne, ih hnodup hmem, add_assoc]

/-- **What an entry adds to the sum of all buckets.** -/
theorem sum_values_addAt : (d.addAt k b).values.sum = d.values.sum + b := by
  rw [addAt, values, values]
  cases h : d.lookup k with
  | none =>
    rw [rows_set_of_none h, map_append, sum_append, map_singleton,
      sum_singleton, Option.getD_none, zero_add]
  | some v =>
    rw [rows_set_of_some h]
    exact sum_map_replace d.unique (lookup_eq_some_iff.mp h)

/-! ### All entries -/

theorem sum_values_foldl_addAt (entries : List (κ × β)) (d : Dict κ β) :
    (entries.foldl (fun d e => d.addAt e.1 e.2) d).values.sum =
      d.values.sum + (entries.map Prod.snd).sum := by
  induction entries generalizing d with
  | nil => rw [foldl_nil, map_nil, sum_nil, add_zero]
  | cons e entries ih =>
    rw [foldl_cons, ih, sum_values_addAt, map_cons, sum_cons, add_assoc]

/-- **Nothing is lost.** -/
theorem sum_values_tally (entries : List (κ × β)) :
    (tally entries).values.sum = (entries.map Prod.snd).sum := by
  rw [tally, sum_values_foldl_addAt]
  exact zero_add _

theorem keys_foldl_addAt (entries : List (κ × β)) (d : Dict κ β) :
    (entries.foldl (fun d e => d.addAt e.1 e.2) d).keys =
      (entries.map Prod.fst).foldl addNew d.keys := by
  induction entries generalizing d with
  | nil => rfl
  | cons e entries ih => rw [foldl_cons, ih, keys_addAt, map_cons, foldl_cons]

/-- **There is a bucket for each key.** -/
theorem mem_keys_tally {entries : List (κ × β)} :
    k ∈ (tally entries).keys ↔ k ∈ entries.map Prod.fst := by
  rw [tally, keys_foldl_addAt, mem_foldl_addNew]
  exact ⟨fun h => h.elim (fun h => nomatch h) id, .inr⟩

theorem length_foldl_addNew_le (l ks : List κ) :
    (l.foldl addNew ks).length ≤ ks.length + l.length := by
  induction l generalizing ks with
  | nil => exact le_rfl
  | cons k l ih =>
    have hone := length_addNew_le (k := k) ks
    have hrest := ih (addNew ks k)
    rw [foldl_cons, length_cons]
    omega

theorem length_keys_tally_le (entries : List (κ × β)) :
    (tally entries).keys.length ≤ entries.length := by
  rw [tally, keys_foldl_addAt]
  exact (length_foldl_addNew_le _ _).trans_eq (by rw [length_map]; exact Nat.zero_add _)

/-! ### The limit -/

variable {limit : ℕ}

theorem length_keys_tallyFrom_le (entries : List (κ × β)) (h : d.keys.length ≤ limit) :
    (tallyFrom limit d entries).keys.length ≤ limit := by
  induction entries generalizing d with
  | nil => exact h
  | cons e entries ih =>
    rw [tallyFrom]
    split
    · exact h
    · next hgo =>
        refine ih ?_
        rw [keys_addAt, addNew]
        split
        · exact h
        · next hnew =>
            have hroom : d.keys.length < limit := by
              by_contra hfull
              exact hgo ⟨hnew, not_lt.mp hfull⟩
            rw [length_append]
            exact hroom

/-- **There are never more buckets than the limit.** -/
theorem length_keys_tallyUpTo_le (entries : List (κ × β)) :
    (tallyUpTo limit entries).keys.length ≤ limit :=
  length_keys_tallyFrom_le entries (Nat.zero_le limit)

theorem tallyFrom_eq_foldl (entries : List (κ × β))
    (h : (d.keys ++ entries.map Prod.fst).toFinset.card ≤ limit) :
    tallyFrom limit d entries = entries.foldl (fun d e => d.addAt e.1 e.2) d := by
  induction entries generalizing d with
  | nil => rfl
  | cons e entries ih =>
    have hgo : ¬(e.1 ∉ d.keys ∧ limit ≤ d.keys.length) := by
      rintro ⟨hnew, hfull⟩
      have hsub : (e.1 :: d.keys).toFinset ⊆
          (d.keys ++ (e :: entries).map Prod.fst).toFinset := by
        intro k hk
        simp only [mem_toFinset, mem_cons, map_cons, mem_append] at hk ⊢
        exact hk.elim (fun hk => .inr (.inl hk)) .inl
      have hcard : (e.1 :: d.keys).toFinset.card = d.keys.length + 1 :=
        toFinset_card_of_nodup (nodup_cons.mpr ⟨hnew, d.unique⟩)
      have hle := Finset.card_le_card hsub
      omega
    have hkeys : ((d.addAt e.1 e.2).keys ++ entries.map Prod.fst).toFinset =
        (d.keys ++ (e :: entries).map Prod.fst).toFinset := by
      ext k
      simp only [mem_toFinset, mem_append, mem_keys_addAt, map_cons,
        mem_cons, or_assoc]
    rw [tallyFrom, if_neg hgo, foldl_cons, ih (hkeys ▸ h)]

/-- **A limit that the number of keys meets changes nothing.** -/
theorem tallyUpTo_eq_tally {entries : List (κ × β)}
    (h : (entries.map Prod.fst).toFinset.card ≤ limit) :
    tallyUpTo limit entries = tally entries :=
  tallyFrom_eq_foldl entries h

end IsaUser.Dict
