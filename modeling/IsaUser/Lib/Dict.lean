import IsaUser.Lib.Rows
import IsaUser.Lib.Values

/-!
# Dictionaries That Keep Their Order

A dictionary of the host language: entries with unique keys, in the order in which the keys were
first set. Setting a key that is there keeps its place. A dictionary that is written out and read
back has the same entries in an order of their keys, `Dict.orderBy`.

## Main results

* `Dict.lookup_set`, `Dict.keys_set`: what is found after a write, and in which order.
* `Dict.lookup_ofList`: the last value that is given for a key is the one found.
* `Dict.lookup_orderBy`, `Dict.orderBy_eq_self`: another order changes no lookup, and an order that
  the dictionary had already changes nothing.
-/

namespace IsaUser

/-- Entries with unique keys, in the order in which the keys were first set. -/
abbrev Dict (κ α : Type*) := Rows (Prod.fst : κ × α → κ)

namespace Dict

variable {κ α β : Type*}

def empty : Dict κ α := Rows.empty

def keys (d : Dict κ α) : List κ := d.rows.map Prod.fst

def values (d : Dict κ α) : List α := d.rows.map Prod.snd

def mapValues (d : Dict κ α) (f : α → β) : Dict κ β :=
  ⟨d.rows.map fun e => (e.1, f e.2), by
    rw [List.map_map]
    exact d.unique⟩

variable [DecidableEq κ] {d : Dict κ α} {k k' : κ} {v v' : α}

/-- `dict.get`. -/
def lookup (d : Dict κ α) (k : κ) : Option α := (d.get? k).map Prod.snd

/-- `d[k] = v`. -/
def set (d : Dict κ α) (k : κ) (v : α) : Dict κ α :=
  if h : d.get? k = none then d.insert (k, v) h else d.modify k (fun e => (e.1, v)) fun _ => rfl

/-- The dictionary of a list of entries, of which later ones replace earlier ones. -/
def ofList (entries : List (κ × α)) : Dict κ α :=
  entries.foldl (fun d e => d.set e.1 e.2) empty

/-! ### Lookups -/

@[simp] theorem lookup_empty (k : κ) : (empty : Dict κ α).lookup k = none := rfl

theorem lookup_eq_some_iff : d.lookup k = some v ↔ (k, v) ∈ d.rows := by
  rw [lookup, Option.map_eq_some_iff]
  constructor
  · rintro ⟨⟨k', v'⟩, he, rfl⟩
    obtain ⟨hmem, rfl⟩ := Rows.get?_eq_some_iff.mp he
    exact hmem
  · intro h
    exact ⟨(k, v), Rows.get?_eq_some_iff.mpr ⟨h, rfl⟩, rfl⟩

theorem lookup_eq_none_iff : d.lookup k = none ↔ k ∉ d.keys := by
  rw [lookup, Option.map_eq_none_iff, Rows.get?_eq_none_iff, keys, List.mem_map]
  exact ⟨fun h ⟨e, he, hk⟩ => h e he hk, fun h e he hk => h ⟨e, he, hk⟩⟩

theorem mem_values_iff : v ∈ d.values ↔ ∃ k, d.lookup k = some v := by
  rw [values, List.mem_map]
  constructor
  · rintro ⟨⟨k, v'⟩, he, rfl⟩
    exact ⟨k, lookup_eq_some_iff.mpr he⟩
  · rintro ⟨k, hk⟩
    exact ⟨(k, v), lookup_eq_some_iff.mp hk, rfl⟩

theorem mem_keys_iff : k ∈ d.keys ↔ ∃ v, d.lookup k = some v := by
  rw [← Option.ne_none_iff_exists', Ne, lookup_eq_none_iff, not_not]

/-- **Reading after writing.** -/
theorem lookup_set : (d.set k v).lookup k' = if k' = k then some v else d.lookup k' := by
  rw [set]
  split
  · next h =>
      rw [lookup, Rows.get?_insert h]
      by_cases hk : k' = k
      · rw [if_pos hk, if_pos hk.symm, Option.map_some]
      · rw [if_neg hk, if_neg (Ne.symm hk), lookup]
  · next h =>
      rw [lookup, Rows.get?_modify]
      by_cases hk : k' = k
      · obtain ⟨e, he⟩ := Option.ne_none_iff_exists'.mp h
        rw [if_pos hk, if_pos hk, he, Option.map_some, Option.map_some]
      · rw [if_neg hk, if_neg hk, lookup]

@[simp] theorem lookup_set_self : (d.set k v).lookup k = some v := by
  rw [lookup_set, if_pos rfl]

@[simp] theorem lookup_mapValues {f : α → β} : (d.mapValues f).lookup k = (d.lookup k).map f := by
  cases h : d.lookup k with
  | none =>
    rw [Option.map_none, lookup_eq_none_iff, keys, mapValues, List.map_map]
    exact lookup_eq_none_iff.mp h
  | some v =>
    rw [Option.map_some, lookup_eq_some_iff]
    exact List.mem_map_of_mem (f := fun e : κ × α => (e.1, f e.2)) (lookup_eq_some_iff.mp h)

theorem lookup_foldl_set (entries : List (κ × α)) (d : Dict κ α) :
    (entries.foldl (fun d e => d.set e.1 e.2) d).lookup k =
      (((entries.filter fun e => e.1 = k).getLast?).map Prod.snd).or (d.lookup k) := by
  induction entries generalizing d with
  | nil => rfl
  | cons e entries ih =>
    rw [List.foldl_cons, ih, lookup_set, List.filter_cons]
    by_cases hk : e.1 = k
    · rw [if_pos hk.symm, if_pos (decide_eq_true hk), List.getLast?_cons]
      cases (entries.filter fun e => e.1 = k).getLast? <;> rfl
    · rw [if_neg (Ne.symm hk), if_neg (by simpa using hk)]

/-- **The last value counts.** -/
theorem lookup_ofList (entries : List (κ × α)) :
    (ofList entries).lookup k = ((entries.filter fun e => e.1 = k).getLast?).map Prod.snd := by
  rw [ofList, lookup_foldl_set, lookup_empty, Option.or_none]

theorem mem_of_lookup_ofList {entries : List (κ × α)} (h : (ofList entries).lookup k = some v) :
    (k, v) ∈ entries := by
  rw [lookup_ofList, Option.map_eq_some_iff] at h
  obtain ⟨⟨k', v'⟩, hlast, rfl⟩ := h
  obtain ⟨hmem, hk⟩ := List.mem_filter.mp (List.mem_of_getLast? hlast)
  obtain rfl : k' = k := by simpa using hk
  exact hmem

theorem rows_set_of_none (h : d.lookup k = none) : (d.set k v).rows = d.rows ++ [(k, v)] := by
  rw [lookup, Option.map_eq_none_iff] at h
  rw [set, dif_pos h]
  rfl

theorem rows_set_of_some (h : d.lookup k = some v') :
    (d.set k v).rows = d.rows.map fun e => if e.1 = k then (e.1, v) else e := by
  have hget : d.get? k ≠ none := by
    intro hnone
    rw [lookup, hnone] at h
    exact nomatch h
  rw [set, dif_neg hget]
  rfl

theorem mapValues_set {f : α → β} : (d.set k v).mapValues f = (d.mapValues f).set k (f v) := by
  rw [Rows.mk.injEq]
  cases h : d.lookup k with
  | none =>
    have hmap : (d.mapValues f).lookup k = none := by rw [lookup_mapValues, h, Option.map_none]
    change (d.set k v).rows.map (fun e => (e.1, f e.2)) = _
    rw [rows_set_of_none hmap, rows_set_of_none h, List.map_append]
    rfl
  | some v' =>
    have hmap : (d.mapValues f).lookup k = some (f v') := by
      rw [lookup_mapValues, h, Option.map_some]
    change (d.set k v).rows.map (fun e => (e.1, f e.2)) = _
    rw [rows_set_of_some hmap, rows_set_of_some h, mapValues, List.map_map, List.map_map]
    refine List.map_congr_left fun e _ => ?_
    rw [Function.comp_apply, Function.comp_apply]
    split <;> rfl

def addNew (ks : List κ) (k : κ) : List κ := if k ∈ ks then ks else ks ++ [k]

/-- **The keys after a write.** -/
theorem keys_set : (d.set k v).keys = addNew d.keys k := by
  rw [addNew]
  cases h : d.lookup k with
  | none =>
    rw [if_neg (lookup_eq_none_iff.mp h), keys, rows_set_of_none h, List.map_append]
    rfl
  | some v' =>
    rw [if_pos (mem_keys_iff.mpr ⟨v', h⟩), keys, rows_set_of_some h, List.map_map]
    refine List.map_congr_left fun e _ => ?_
    rw [Function.comp_apply]
    split <;> rfl

theorem mem_addNew {ks : List κ} : k' ∈ addNew ks k ↔ k' ∈ ks ∨ k' = k := by
  rw [addNew]
  split
  · next h => exact ⟨.inl, fun hk => hk.elim id fun heq => heq ▸ h⟩
  · rw [List.mem_append, List.mem_singleton]

theorem mem_foldl_addNew {l ks : List κ} : k ∈ l.foldl addNew ks ↔ k ∈ ks ∨ k ∈ l := by
  induction l generalizing ks with
  | nil => simp
  | cons k' l ih => rw [List.foldl_cons, ih, mem_addNew, List.mem_cons, or_assoc]

theorem foldl_addNew_of_subset {l ks : List κ} (h : ∀ k ∈ l, k ∈ ks) : l.foldl addNew ks = ks := by
  induction l with
  | nil => rfl
  | cons k l ih =>
    rw [List.foldl_cons, addNew, if_pos (h k List.mem_cons_self)]
    exact ih fun k' hk' => h k' (List.mem_cons_of_mem _ hk')

theorem foldl_addNew_idem (l ks : List κ) :
    l.foldl addNew (l.foldl addNew ks) = l.foldl addNew ks :=
  foldl_addNew_of_subset fun _ hk => mem_foldl_addNew.mpr (.inr hk)

/-! ### Another order -/

section OrderBy

variable {R : Type*} [LinearOrder R] {rank : κ → R}

def orderBy (rank : κ → R) (d : Dict κ α) : Dict κ α :=
  ⟨IsaUser.orderBy (fun e => rank e.1) d.rows, (nodup_map_orderBy _ _ _).mpr d.unique⟩

/-- **Another order changes no lookup.** -/
@[simp] theorem lookup_orderBy : (d.orderBy rank).lookup k = d.lookup k := by
  refine Option.ext fun v => ?_
  rw [lookup_eq_some_iff, lookup_eq_some_iff]
  exact mem_orderBy _ _

omit [DecidableEq κ] in
theorem values_orderBy_perm : (d.orderBy rank).values.Perm d.values :=
  (orderBy_perm _ _).map _

omit [DecidableEq κ] in
theorem orderBy_eq_self (h : d.keys.Pairwise fun k k' => rank k ≤ rank k') :
    d.orderBy rank = d := by
  rw [keys, List.pairwise_map] at h
  have hrows : (d.orderBy rank).rows = d.rows := orderBy_eq_self_of_pairwise _ h
  generalize d.orderBy rank = d' at hrows
  obtain ⟨rows, unique⟩ := d
  obtain ⟨rows', unique'⟩ := d'
  obtain rfl : rows' = rows := hrows
  rfl

end OrderBy

end Dict

end IsaUser
