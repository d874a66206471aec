import Mathlib.Algebra.Order.BigOperators.Group.List
import Mathlib.Algebra.Order.Group.Int
import Mathlib.Tactic.Abel

/-!
# Serial Tables

A table of a relational store, seen as the list of its rows in insertion order. The
serial number of a row is its position, so a number is never used twice, a row keeps its
number for ever, and an insertion never collides: what a primary key promises holds by
construction.

`Table.sumBy` adds up a column. Its two update rules, `sumBy_insert` and `sumBy_modify`,
carry every accounting argument built on tables: an insertion adds the new row's value,
an update adds the new value and takes away the old one.

`Table.Extends` compares two moments of one table: rows stay, each related to what it
was. It is the shape of the interference other writers are allowed to cause.
-/

open List

namespace IsaUser

/-- A row together with its serial number. -/
structure Row (ρ : Type*) where
  /-- The serial number. -/
  id : ℕ
  /-- The columns. -/
  val : ρ
  deriving DecidableEq, Repr

/-- The rows of a table in insertion order. -/
structure Table (ρ : Type*) where
  /-- The rows; a row's serial number is its position. -/
  rows : List ρ
  deriving DecidableEq, Repr

namespace Table

variable {ρ : Type*} {M : Type*} {t : Table ρ} {p : ρ → Bool} {f : ρ → ρ} {i : ℕ} {e : Row ρ}
  {r : ρ}

def empty : Table ρ := ⟨[]⟩

/-- The number of rows, which is the next serial number. -/
def size (t : Table ρ) : ℕ := t.rows.length

def get? (t : Table ρ) (i : ℕ) : Option ρ := t.rows[i]?

/-- Insert a row; its serial number is `t.size`. -/
def insert (t : Table ρ) (r : ρ) : Table ρ := ⟨t.rows ++ [r]⟩

def insertAll (t : Table ρ) (rs : List ρ) : Table ρ := ⟨t.rows ++ rs⟩

def modify (t : Table ρ) (i : ℕ) (f : ρ → ρ) : Table ρ := ⟨t.rows.modify i f⟩

def map (t : Table ρ) (f : ρ → ρ) : Table ρ := ⟨t.rows.map f⟩

def entries (t : Table ρ) : List (Row ρ) := t.rows.zipIdx.map fun p => ⟨p.2, p.1⟩

/-- The rows satisfying a condition, in insertion order. -/
def select (t : Table ρ) (p : ρ → Bool) : List (Row ρ) := t.entries.filter fun e => p e.val

def find? (t : Table ρ) (p : ρ → Bool) : Option (Row ρ) := t.entries.find? fun e => p e.val

def sumBy [AddMonoid M] (t : Table ρ) (g : ρ → M) : M := (t.rows.map g).sum

/-! ### Reading after writing -/

@[simp] theorem size_empty : (empty : Table ρ).size = 0 := rfl

@[simp] theorem size_insert (t : Table ρ) (r : ρ) : (t.insert r).size = t.size + 1 := by
  simp [size, insert]

@[simp] theorem size_modify (t : Table ρ) (i : ℕ) (f : ρ → ρ) :
    (t.modify i f).size = t.size := by
  simp [size, modify]

@[simp] theorem get?_empty (i : ℕ) : (empty : Table ρ).get? i = none := by
  simp [get?, empty]

theorem get?_insert (t : Table ρ) (r : ρ) (i : ℕ) :
    (t.insert r).get? i = if i = t.size then some r else t.get? i := by
  rcases lt_trichotomy i t.size with h | h | h
  · rw [if_neg h.ne]
    exact getElem?_append_left h
  · rw [if_pos h, h]
    exact getElem?_concat_length
  · rw [if_neg h.ne']
    have hlen : (t.rows ++ [r]).length ≤ i := by
      rw [length_append]
      exact h
    exact (getElem?_eq_none hlen).trans (getElem?_eq_none h.le).symm

@[simp] theorem get?_insert_size (t : Table ρ) (r : ρ) :
    (t.insert r).get? t.size = some r := by
  simp [get?_insert]

theorem lt_size_of_get? (h : t.get? i = some r) :
    i < t.size :=
  (List.getElem?_eq_some_iff.mp h).1

@[simp] theorem get?_size (t : Table ρ) : t.get? t.size = none :=
  getElem?_eq_none le_rfl

theorem get?_insert_of_some (h : t.get? i = some r) (r' : ρ) :
    (t.insert r').get? i = some r := by
  rw [get?_insert, if_neg (lt_size_of_get? h).ne, h]

theorem get?_modify (t : Table ρ) (i : ℕ) (f : ρ → ρ) (j : ℕ) :
    (t.modify i f).get? j = if i = j then (t.get? j).map f else t.get? j := by
  rw [modify]
  rcases eq_or_ne i j with h | h
  · simp [h, get?]
  · simp [h, get?]

theorem get?_modify_self (h : t.get? i = some r) (f : ρ → ρ) :
    (t.modify i f).get? i = some (f r) := by
  rw [get?_modify, if_pos rfl, h, Option.map_some]

theorem get?_modify_ne {j : ℕ} (h : i ≠ j) (t : Table ρ) (f : ρ → ρ) :
    (t.modify i f).get? j = t.get? j := by
  rw [get?_modify, if_neg h]

@[simp] theorem size_map (t : Table ρ) (f : ρ → ρ) : (t.map f).size = t.size :=
  length_map f

@[simp] theorem get?_map (t : Table ρ) (f : ρ → ρ) (i : ℕ) :
    (t.map f).get? i = (t.get? i).map f :=
  getElem?_map

theorem map_map (t : Table ρ) (f g : ρ → ρ) : (t.map f).map g = t.map (g ∘ f) :=
  congrArg mk (List.map_map)

theorem map_eq_self (t : Table ρ) (hf : ∀ r, f r = r) : t.map f = t := by
  have hid : f = id := funext hf
  rw [hid]
  exact congrArg mk (map_id t.rows)

theorem get?_modify_insert (t : Table ρ) (r : ρ) (f : ρ → ρ) (i : ℕ) :
    ((t.insert r).modify t.size f).get? i = (t.insert (f r)).get? i := by
  rw [get?_modify, get?_insert, get?_insert]
  rcases eq_or_ne i t.size with h | h
  · simp [h]
  · simp [h, h.symm]

theorem insertAll_nil (t : Table ρ) : t.insertAll [] = t := congrArg mk (append_nil _)

theorem insertAll_cons (t : Table ρ) (r : ρ) (rs : List ρ) :
    t.insertAll (r :: rs) = (t.insert r).insertAll rs :=
  congrArg mk (append_cons _ _ _)

theorem modify_eq_self (h : ∀ r ∈ t.get? i, f r = r) :
    t.modify i f = t := by
  refine congrArg mk (ext_getElem? fun j => ?_)
  rw [getElem?_modify]
  cases hj : t.rows[j]? with
  | none => rfl
  | some r =>
    rw [Option.map_eq_map, Option.map_some]
    split
    · next hij =>
        subst hij
        rw [h r hj]
    · rfl

theorem modify_congr (h : t.get? i = some r) {g : ρ → ρ} (hfg : f r = g r) :
    t.modify i f = t.modify i g := by
  obtain ⟨rows⟩ := t
  simp only [get?, modify] at h ⊢
  induction rows generalizing i with
  | nil => simp at h
  | cons a rows ih =>
    cases i with
    | zero =>
      obtain rfl : a = r := by simpa using h
      simp [hfg]
    | succ i => simpa using ih (by simpa using h)

/-! ### Selection -/

theorem mem_entries : e ∈ t.entries ↔ t.get? e.id = some e.val := by
  obtain ⟨i, r⟩ := e
  simp [entries, get?, mem_zipIdx_iff_getElem?]

theorem mem_select :
    e ∈ t.select p ↔ t.get? e.id = some e.val ∧ p e.val := by
  simp [select, mem_entries]

theorem get?_of_find? (h : t.find? p = some e) :
    t.get? e.id = some e.val :=
  mem_entries.mp (mem_of_find?_eq_some h)

theorem find?_val (h : t.find? p = some e) :
    p e.val := by
  have := find?_some h
  exact this

theorem exists_find? (h : t.get? i = some r) (hp : p r) :
    ∃ e, t.find? p = some e := by
  rw [← Option.isSome_iff_exists, find?, find?_isSome]
  exact ⟨⟨i, r⟩, mem_entries.mpr h, hp⟩

theorem entries_map_id (t : Table ρ) : t.entries.map Row.id = List.range t.size := by
  simp [entries, size, Function.comp_def, range_eq_range']

theorem nodup_select_id (t : Table ρ) (p : ρ → Bool) : ((t.select p).map Row.id).Nodup := by
  have h : ((t.select p).map Row.id).Sublist (t.entries.map Row.id) :=
    Sublist.map _ filter_sublist
  rw [entries_map_id] at h
  exact h.nodup nodup_range

theorem select_insert (t : Table ρ) (r : ρ) (p : ρ → Bool) :
    (t.insert r).select p = t.select p ++ if p r then [⟨t.size, r⟩] else [] := by
  have hentries : (t.insert r).entries = t.entries ++ [⟨t.size, r⟩] := by
    simp [entries, insert, size, zipIdx_append]
  rw [select, hentries, select]
  by_cases h : p r = true
  · simp [h]
  · simp [h]

theorem select_map (t : Table ρ) (hp : ∀ r, p (f r) = p r) (hf : ∀ r, p r = true → f r = r) :
    (t.map f).select p = t.select p := by
  have hentries : (t.map f).entries = t.entries.map fun e => ⟨e.id, f e.val⟩ := by
    simp [entries, map, zipIdx_map]
  rw [select, hentries, filter_map]
  have hsame : (t.entries.filter fun e => p (f e.val)) = t.entries.filter fun e => p e.val := by
    simp only [hp]
  change ((t.entries.filter fun e => p (f e.val)).map fun e => Row.mk e.id (f e.val)) = _
  rw [hsame]
  refine (map_congr_left fun e he => ?_).trans (map_id _)
  rw [hf e.val (mem_filter.mp he).2]
  rfl

theorem select_modify (t : Table ρ) (i : ℕ) (hp : ∀ r, p (f r) = p r)
    (hf : ∀ r, p r = true → f r = r) :
    (t.modify i f).select p = t.select p := by
  have hentries : (t.modify i f).entries =
      t.entries.map fun e => if i = e.id then ⟨e.id, f e.val⟩ else e := by
    refine ext_getElem? fun k => ?_
    by_cases hk : i = k
    · cases h : t.rows[k]? <;> simp [entries, modify, hk, h]
    · cases h : t.rows[k]? <;> simp [entries, modify, hk, h]
  rw [select, hentries, filter_map]
  have hsame : (t.entries.filter ((fun e : Row ρ => p e.val) ∘
      fun e => if i = e.id then ⟨e.id, f e.val⟩ else e)) = t.entries.filter fun e => p e.val := by
    refine filter_congr fun e _ => ?_
    dsimp only [Function.comp]
    split
    · exact hp e.val
    · rfl
  rw [hsame]
  refine (map_congr_left fun e he => ?_).trans (map_id _)
  rw [hf e.val (mem_filter.mp he).2]
  exact ite_self _

theorem select_map_eq_nil (t : Table ρ) (hp : ∀ r, p (f r) = false) :
    (t.map f).select p = [] := by
  rw [eq_nil_iff_forall_not_mem]
  intro e he
  obtain ⟨hget, hsat⟩ := mem_select.mp he
  rw [get?_map] at hget
  obtain ⟨r, -, hr⟩ := Option.map_eq_some_iff.mp hget
  rw [← hr, hp] at hsat
  cases hsat

theorem length_select (t : Table ρ) (p : ρ → Bool) : (t.select p).length = t.rows.countP p := by
  rw [select, entries, filter_map, length_map, ← countP_eq_length_filter]
  change countP (p ∘ Prod.fst) _ = _
  rw [← countP_map, zipIdx_map_fst]

/-! ### Column sums -/

section Sum

variable [AddCommMonoid M]

@[simp] theorem sumBy_empty (g : ρ → M) : (empty : Table ρ).sumBy g = 0 := by
  simp [sumBy, empty]

@[simp] theorem sumBy_insert (t : Table ρ) (r : ρ) (g : ρ → M) :
    (t.insert r).sumBy g = t.sumBy g + g r := by
  simp [sumBy, insert]

theorem sumBy_insertAll (t : Table ρ) (rs : List ρ) (g : ρ → M) :
    (t.insertAll rs).sumBy g = t.sumBy g + (rs.map g).sum := by
  simp [sumBy, insertAll]

theorem sumBy_modify_add {t : Table ρ} {i : ℕ} {r : ρ} (h : t.get? i = some r) (f : ρ → ρ)
    (g : ρ → M) : (t.modify i f).sumBy g + g r = t.sumBy g + g (f r) := by
  obtain ⟨rows⟩ := t
  simp only [get?, modify, sumBy] at h ⊢
  induction rows generalizing i with
  | nil => simp at h
  | cons a rows ih =>
    cases i with
    | zero =>
      obtain rfl : a = r := by simpa using h
      simp only [modify_zero_cons, map_cons, sum_cons]
      exact add_right_comm _ _ _ |>.trans (by rw [add_comm (g (f a)), add_right_comm])
    | succ i =>
      simp only [modify_succ_cons, map_cons, sum_cons]
      rw [add_assoc, ih (by simpa using h), add_assoc]

theorem sumBy_modify_of_eq (t : Table ρ) (i : ℕ) {f : ρ → ρ} {g : ρ → M}
    (h : ∀ r, g (f r) = g r) : (t.modify i f).sumBy g = t.sumBy g := by
  obtain ⟨rows⟩ := t
  simp only [modify, sumBy]
  induction rows generalizing i with
  | nil => simp
  | cons a rows ih =>
    cases i with
    | zero => simp [h]
    | succ i => simp [ih]

theorem sumBy_select (t : Table ρ) (p : ρ → Bool) (g : ρ → M) :
    ((t.select p).map fun e => g e.val).sum = t.sumBy fun r => if p r then g r else 0 := by
  obtain ⟨rows⟩ := t
  simp only [select, entries, sumBy, filter_map]
  generalize 0 = k
  induction rows generalizing k with
  | nil => simp
  | cons a rows ih =>
    rw [map_cons, sum_cons, ← ih (k + 1)]
    by_cases hp : p a <;> simp [hp]

end Sum

variable {t : Table ρ}

theorem sumBy_modify [AddCommGroup M] {i : ℕ} {r : ρ} (h : t.get? i = some r) (f : ρ → ρ)
    (g : ρ → M) : (t.modify i f).sumBy g = t.sumBy g + (g (f r) - g r) := by
  rw [← add_sub_assoc]
  exact eq_sub_of_add_eq (sumBy_modify_add h f g)

theorem le_sumBy {i : ℕ} {r : ρ} {g : ρ → ℤ} (h : t.get? i = some r)
    (hg : ∀ j s, t.get? j = some s → 0 ≤ g s) : g r ≤ t.sumBy g := by
  have hmem : r ∈ t.rows := mem_of_getElem? h
  refine single_le_sum ?_ _ (mem_map_of_mem hmem)
  intro x hx
  obtain ⟨s, hs, rfl⟩ := mem_map.mp hx
  obtain ⟨j, hj⟩ := mem_iff_getElem?.mp hs
  exact hg j s hj

theorem sumBy_eq_zero [AddCommMonoid M] {g : ρ → M} (h : ∀ i r, t.get? i = some r → g r = 0) :
    t.sumBy g = 0 := by
  refine sum_eq_zero fun x hx => ?_
  obtain ⟨s, hs, rfl⟩ := mem_map.mp hx
  obtain ⟨j, hj⟩ := mem_iff_getElem?.mp hs
  exact h j s hj

/-! ### Two moments of one table -/

/-- Every row of `t` is still in `t'`, related by `R` to what it was. -/
def Extends (R : ρ → ρ → Prop) (t t' : Table ρ) : Prop :=
  ∀ i r, t.get? i = some r → ∃ r', t'.get? i = some r' ∧ R r r'

section Extends

variable {R : ρ → ρ → Prop}

theorem Extends.refl (hR : ∀ r, R r r) (t : Table ρ) : t.Extends R t :=
  fun _ r h => ⟨r, h, hR r⟩

theorem Extends.trans (hR : ∀ {a b c}, R a b → R b c → R a c) {t₁ t₂ t₃ : Table ρ}
    (h : t₁.Extends R t₂) (h' : t₂.Extends R t₃) : t₁.Extends R t₃ := by
  intro i r hr
  obtain ⟨r', hr', hrr'⟩ := h i r hr
  obtain ⟨r'', hr'', hr'r''⟩ := h' i r' hr'
  exact ⟨r'', hr'', hR hrr' hr'r''⟩

theorem extends_insert (hR : ∀ r, R r r) (t : Table ρ) (r : ρ) : t.Extends R (t.insert r) :=
  fun _ s h => ⟨s, get?_insert_of_some h r, hR s⟩

theorem extends_modify (hR : ∀ r, R r r) (t : Table ρ) (i : ℕ) {f : ρ → ρ}
    (hf : ∀ r, t.get? i = some r → R r (f r)) : t.Extends R (t.modify i f) := by
  intro j r hr
  rcases eq_or_ne i j with rfl | hij
  · exact ⟨f r, get?_modify_self hr f, hf r hr⟩
  · exact ⟨r, (get?_modify_ne hij t f).trans hr, hR r⟩

end Extends

end Table

end IsaUser
