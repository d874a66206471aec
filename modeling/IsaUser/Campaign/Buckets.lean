import IsaUser.Lib.Values
import Mathlib.Algebra.Order.BigOperators.Group.List
import Mathlib.Data.Char
import Mathlib.Order.Interval.Finset.Nat
import Mathlib.Tactic.Ring

/-!
# Buckets of an A/B Test

`assign_variant` and `is_in_holdout` of `campaign_service.py`. Both turn the user and the campaign
into the same bucket from 0 to 99, of which the variants take consecutive ranges in the order of
their ids, and the holdout takes the lowest.
-/

namespace IsaUser.Campaigns

open List

/-- What `assign_variant` reads of a variant. -/
structure Variant where
  variantId : PyStr
  allocationPercentage : ℚ
  deriving DecidableEq

/-- The loop of `assign_variant`. -/
def firstAbove (bucket : ℕ) (cumulative : ℚ) : List Variant → Option Variant
  | [] => none
  | variant :: variants =>
    if bucket < cumulative + variant.allocationPercentage then some variant
    else firstAbove bucket (cumulative + variant.allocationPercentage) variants

/-- `assign_variant`, of a bucket. Without variants it raises. -/
def assignVariant (variants : List Variant) (bucket : ℕ) : Option Variant :=
  let sorted := orderBy Variant.variantId variants
  firstAbove bucket 0 sorted <|> sorted.getLast?

/-- `is_in_holdout`, of a bucket. -/
def isInHoldout (bucket : ℕ) (holdoutPercentage : ℚ) : Bool :=
  if holdoutPercentage ≤ 0 then false else bucket < holdoutPercentage

/-- A test with whole percentages: variants with different ids, what they are allocated, which is
100 in all, and a holdout of 20 at most. -/
structure SplitTest where
  variants : List Variant
  distinct : (variants.map Variant.variantId).Nodup
  share : Variant → ℕ
  allocated : ∀ v ∈ variants, v.allocationPercentage = share v
  total : (variants.map share).sum = 100
  holdout : ℕ
  holdout_le : holdout ≤ 20

namespace SplitTest

variable (t : SplitTest)

def assigned (v : Variant) : Finset ℕ :=
  (Finset.range 100).filter fun bucket => assignVariant t.variants bucket = some v

def kept (v : Variant) : Finset ℕ :=
  (t.assigned v).filter fun bucket => isInHoldout bucket t.holdout = false

/-- **The holdout does not bias the split.** Every variant has as many buckets as its share, in
whichever order the variants are listed, and but for one keeps its share of what is not held
out. -/
def Unbiased : Prop :=
  (∀ v ∈ t.variants, (t.assigned v).card = t.share v ∧
    |((t.kept v).card : ℚ) - t.share v * (100 - t.holdout) / 100| ≤ 1) ∧
  ∀ variants, variants.Perm t.variants → ∀ bucket < 100,
    assignVariant variants bucket = assignVariant t.variants bucket

def first (v : Variant) : ℕ :=
  ((t.variants.filter fun u => u.variantId < v.variantId).map t.share).sum

/-- Of each range, the part below the holdout is but for one its share of the holdout. -/
def Spread : Prop :=
  ∀ v ∈ t.variants,
    |((min (t.share v) (t.holdout - t.first v) : ℕ) : ℚ) - t.share v * t.holdout / 100| ≤ 1

end SplitTest

/-! ### Ranges -/

section Ranges

variable {share : Variant → ℕ} {bucket c : ℕ} {v : Variant}

/-- **What the loop finds** in a sorted list: the variant whose range holds the bucket. -/
theorem firstAbove_eq_some_iff {l : List Variant}
    (hsorted : l.Pairwise fun u v => u.variantId < v.variantId)
    (hshare : ∀ v ∈ l, v.allocationPercentage = share v) (hc : c ≤ bucket) :
    firstAbove bucket c l = some v ↔ v ∈ l ∧
      c + ((l.filter fun u => u.variantId < v.variantId).map share).sum ≤ bucket ∧
      bucket < c + ((l.filter fun u => u.variantId < v.variantId).map share).sum + share v := by
  induction l generalizing c with
  | nil => simp [firstAbove]
  | cons w l ih =>
    obtain ⟨hw, hsorted⟩ := pairwise_cons.mp hsorted
    obtain ⟨hwshare, hshare⟩ := forall_mem_cons.mp hshare
    -- the first variant has none before it
    have hnone : (w :: l).filter (fun u => u.variantId < w.variantId) = [] := by
      refine filter_eq_nil_iff.mpr fun u hu hlt => ?_
      rcases mem_cons.mp hu with rfl | hu
      · exact lt_irrefl _ (of_decide_eq_true hlt)
      · exact lt_asymm (hw u hu) (of_decide_eq_true hlt)
    have hrest : ∀ u ∈ l, ((w :: l).filter fun x => x.variantId < u.variantId).map share =
        share w :: (l.filter fun x => x.variantId < u.variantId).map share := by
      intro u hu
      rw [filter_cons_of_pos (by simpa using hw u hu), map_cons]
    rw [firstAbove, hwshare]
    by_cases hlt : bucket < c + share w
    · rw [if_pos (by exact_mod_cast hlt), Option.some.injEq]
      constructor
      · rintro rfl
        rw [hnone]
        exact ⟨mem_cons_self, by simpa using hc, by simpa using hlt⟩
      · rintro ⟨hv, hle, -⟩
        refine (mem_cons.mp hv).elim Eq.symm fun hv => ?_
        rw [hrest v hv, sum_cons] at hle
        omega
    · rw [if_neg (by exact_mod_cast hlt), ← Nat.cast_add, ih hsorted hshare (not_lt.mp hlt)]
      constructor
      · rintro ⟨hv, hle, hbelow⟩
        rw [hrest v hv, sum_cons]
        exact ⟨mem_cons_of_mem _ hv, by omega, by omega⟩
      · rintro ⟨hv, hle, hbelow⟩
        rcases mem_cons.mp hv with rfl | hv
        · rw [hnone] at hbelow
          exact absurd (by simpa using hbelow) hlt
        · rw [hrest v hv, sum_cons] at hle hbelow
          exact ⟨hv, by omega, by omega⟩

theorem le_of_firstAbove_eq_none {l : List Variant}
    (hshare : ∀ v ∈ l, v.allocationPercentage = share v)
    (h : firstAbove bucket c l = none) : c ≤ bucket → c + (l.map share).sum ≤ bucket := by
  induction l generalizing c with
  | nil => exact id
  | cons w l ih =>
    obtain ⟨hwshare, hshare⟩ := forall_mem_cons.mp hshare
    rw [firstAbove, hwshare] at h
    split at h
    · cases h
    · next hge =>
        intro _
        rw [map_cons, sum_cons, ← add_assoc]
        refine ih hshare (by exact_mod_cast h) ?_
        exact not_lt.mp fun hlt => hge (by exact_mod_cast hlt)

end Ranges

namespace SplitTest

variable {t : SplitTest} {v : Variant} {bucket : ℕ}

/-- **Which buckets a variant has**, whatever the order of the list. -/
theorem assignVariant_eq_some_iff {variants : List Variant} (hperm : variants.Perm t.variants)
    (hbucket : bucket < 100) : assignVariant variants bucket = some v ↔
      v ∈ t.variants ∧ t.first v ≤ bucket ∧ bucket < t.first v + t.share v := by
  have hsame := (orderBy_perm Variant.variantId variants).trans hperm
  rw [assignVariant]
  generalize hl : orderBy Variant.variantId variants = l at hsame ⊢
  have hshare : ∀ v ∈ l, v.allocationPercentage = t.share v :=
    fun v hv => t.allocated v (hsame.mem_iff.mp hv)
  have hsorted : l.Pairwise fun u v => u.variantId < v.variantId := by
    have hne : l.Pairwise fun u v => u.variantId ≠ v.variantId :=
      pairwise_map.mp ((hsame.map _).nodup_iff.mpr t.distinct)
    have hle := pairwise_orderBy Variant.variantId variants
    rw [hl] at hle
    exact hle.imp₂ (fun _ _ => lt_of_le_of_ne) hne
  have hfirst : ((l.filter fun u => u.variantId < v.variantId).map t.share).sum = t.first v :=
    ((hsame.filter _).map _).sum_eq
  have hfound := firstAbove_eq_some_iff hsorted hshare (Nat.zero_le bucket) (v := v)
  rw [hfirst, hsame.mem_iff, zero_add] at hfound
  rw [← hfound]
  cases hscan : firstAbove bucket 0 l with
  | some u => rfl
  | none =>
    have hle := le_of_firstAbove_eq_none hshare (by rwa [Nat.cast_zero]) (Nat.zero_le bucket)
    rw [(hsame.map _).sum_eq, t.total] at hle
    exact absurd hbucket (not_lt.mpr hle)

theorem first_add_share_le (hv : v ∈ t.variants) : t.first v + t.share v ≤ 100 := by
  have hsplit := ((filter_append_perm (fun u => decide (u.variantId < v.variantId))
    t.variants).map t.share).sum_eq
  rw [map_append, sum_append, t.total] at hsplit
  rw [← hsplit]
  refine Nat.add_le_add_left (le_sum_of_mem (mem_map_of_mem (mem_filter.mpr ⟨hv, ?_⟩))) _
  simp

theorem assigned_eq (hv : v ∈ t.variants) :
    t.assigned v = Finset.Ico (t.first v) (t.first v + t.share v) := by
  ext bucket
  have hle := first_add_share_le hv
  rw [assigned, Finset.mem_filter, Finset.mem_range, Finset.mem_Ico]
  constructor
  · rintro ⟨hlt, h⟩
    exact ((assignVariant_eq_some_iff (Perm.refl _) hlt).mp h).2
  · intro h
    have hlt : bucket < 100 := by omega
    exact ⟨hlt, (assignVariant_eq_some_iff (Perm.refl _) hlt).mpr ⟨hv, h⟩⟩

theorem isInHoldout_eq_false_iff {h : ℕ} : isInHoldout bucket h = false ↔ h ≤ bucket := by
  rw [isInHoldout]
  split
  · next hle =>
      have hzero : h = 0 := Nat.le_zero.mp (by exact_mod_cast hle)
      simp [hzero]
  · simp

theorem kept_eq (hv : v ∈ t.variants) :
    t.kept v = Finset.Ico (max (t.first v) t.holdout) (t.first v + t.share v) := by
  ext bucket
  rw [kept, Finset.mem_filter, assigned_eq hv, isInHoldout_eq_false_iff, Finset.mem_Ico,
    Finset.mem_Ico, max_le_iff]
  tauto

theorem card_kept (hv : v ∈ t.variants) :
    (t.kept v).card + min (t.share v) (t.holdout - t.first v) = t.share v := by
  rw [kept_eq hv, Nat.card_Ico]
  omega

/-- **When the holdout does not bias the split.** -/
theorem unbiased_iff (t : SplitTest) : t.Unbiased ↔ t.Spread := by
  have horder : ∀ variants, variants.Perm t.variants → ∀ bucket < 100,
      assignVariant variants bucket = assignVariant t.variants bucket := by
    intro variants hperm bucket hbucket
    refine Option.ext fun v => ?_
    rw [assignVariant_eq_some_iff hperm hbucket, assignVariant_eq_some_iff (Perm.refl _) hbucket]
  rw [Unbiased, and_iff_left horder]
  refine forall₂_congr fun v hv => ?_
  rw [assigned_eq hv, Nat.card_Ico, Nat.add_sub_cancel_left, eq_self, true_and]
  have hcard : ((t.kept v).card : ℚ) =
      t.share v - (min (t.share v) (t.holdout - t.first v) : ℕ) := by
    rw [eq_sub_iff_add_eq]
    exact_mod_cast card_kept hv
  rw [hcard, ← abs_neg]
  refine iff_of_eq (congrArg (|·| ≤ 1) ?_)
  ring

end SplitTest

def starvedTest : SplitTest where
  variants := [⟨"a".toList, 10⟩, ⟨"b".toList, 90⟩]
  distinct := by decide
  share v := if v.variantId = "a".toList then 10 else 90
  allocated := by decide
  total := by decide
  holdout := 10
  holdout_le := by decide

/-- The holdout takes every bucket of the first variant. -/
theorem not_unbiased_starved : ¬ ∀ t : SplitTest, t.Unbiased := by
  intro h
  have hkept := ((h starvedTest).1 ⟨"a".toList, 10⟩ mem_cons_self).2
  have hnone : (starvedTest.kept ⟨"a".toList, 10⟩).card = 0 := by decide +kernel
  rw [hnone] at hkept
  revert hkept
  decide +kernel

end IsaUser.Campaigns
