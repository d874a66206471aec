import Mathlib.Algebra.Order.Group.Int
import Mathlib.Data.List.Basic

/-!
# The First of the Best

A search that scores every candidate of a list, skips those without a score, and keeps the
first one of the highest score. `firstBest_cases` says which candidate that is, and
`forall_firstBest_iff` when it is one of a given kind: every candidate of another kind is
outranked by one of that kind.
-/

open List Option

namespace IsaUser

variable {α κ : Type*} [LinearOrder κ]

def firstBestFrom (score : α → Option κ) (best : Option (α × κ)) : List α → Option (α × κ)
  | [] => best
  | a :: l =>
    match score a with
    | none => firstBestFrom score best l
    | some s =>
      match best with
      | none => firstBestFrom score (some (a, s)) l
      | some (b, t) =>
        if t < s then firstBestFrom score (some (a, s)) l
        else firstBestFrom score (some (b, t)) l

def firstBest (score : α → Option κ) (l : List α) : Option α :=
  (firstBestFrom score none l).map Prod.fst

variable {score : α → Option κ} {l : List α}

/-- The candidate at this place of the list is the first of the best. -/
structure Wins (score : α → Option κ) (before : List α) (a : α) (after : List α) (s : κ) :
    Prop where
  scored : score a = some s
  before : ∀ b ∈ before, ∀ t ∈ score b, t < s
  after : ∀ b ∈ after, ∀ t ∈ score b, t ≤ s

variable (score) in
theorem firstBestFrom_some (b : α) (t : κ) (l : List α) :
    (firstBestFrom score (some (b, t)) l = some (b, t) ∧ ∀ a ∈ l, ∀ s ∈ score a, s ≤ t) ∨
    ∃ before a after s, l = before ++ a :: after ∧ Wins score before a after s ∧ t < s ∧
      firstBestFrom score (some (b, t)) l = some (a, s) := by
  induction l generalizing b t with
  | nil => exact .inl ⟨rfl, nofun⟩
  | cons c l ih =>
    rw [firstBestFrom]
    cases hc : score c with
    | none =>
      dsimp only
      rcases ih b t with ⟨hsame, hle⟩ | ⟨before, a, after, s, rfl, hwins, hts, heq⟩
      · refine .inl ⟨hsame, forall_mem_cons.mpr ⟨?_, hle⟩⟩
        simp [hc]
      · refine .inr ⟨c :: before, a, after, s, rfl, ⟨hwins.scored, ?_, hwins.after⟩, hts, heq⟩
        refine forall_mem_cons.mpr ⟨?_, hwins.before⟩
        simp [hc]
    | some r =>
      dsimp only
      by_cases htr : t < r
      · rw [if_pos htr]
        rcases ih c r with ⟨hsame, hle⟩ | ⟨before, a, after, s, rfl, hwins, hrs, heq⟩
        · exact .inr ⟨[], c, l, r, rfl, ⟨hc, nofun, hle⟩, htr, hsame⟩
        · refine .inr ⟨c :: before, a, after, s, rfl, ⟨hwins.scored, ?_, hwins.after⟩,
            htr.trans hrs, heq⟩
          refine forall_mem_cons.mpr ⟨fun u hu => ?_, hwins.before⟩
          obtain rfl : r = u := some.inj (hc.symm.trans hu)
          exact hrs
      · rw [if_neg htr]
        rcases ih b t with ⟨hsame, hle⟩ | ⟨before, a, after, s, rfl, hwins, hts, heq⟩
        · refine .inl ⟨hsame, forall_mem_cons.mpr ⟨fun u hu => ?_, hle⟩⟩
          obtain rfl : r = u := some.inj (hc.symm.trans hu)
          exact not_lt.mp htr
        · refine .inr ⟨c :: before, a, after, s, rfl, ⟨hwins.scored, ?_, hwins.after⟩, hts, heq⟩
          refine forall_mem_cons.mpr ⟨fun u hu => ?_, hwins.before⟩
          obtain rfl : r = u := some.inj (hc.symm.trans hu)
          exact (not_lt.mp htr).trans_lt hts

/-- **What is found**: nothing where nothing has a score, and else the winner. -/
theorem firstBest_cases (score : α → Option κ) (l : List α) :
    (firstBest score l = none ∧ ∀ a ∈ l, score a = none) ∨
    ∃ before a after s, l = before ++ a :: after ∧ Wins score before a after s ∧
      firstBest score l = some a := by
  induction l with
  | nil => exact .inl ⟨rfl, nofun⟩
  | cons c l ih =>
    rw [firstBest, firstBestFrom]
    cases hc : score c with
    | none =>
      rcases ih with ⟨hnone, hall⟩ | ⟨before, a, after, s, rfl, hwins, heq⟩
      · exact .inl ⟨hnone, forall_mem_cons.mpr ⟨hc, hall⟩⟩
      · refine .inr ⟨c :: before, a, after, s, rfl, ⟨hwins.scored, ?_, hwins.after⟩, heq⟩
        refine forall_mem_cons.mpr ⟨?_, hwins.before⟩
        simp [hc]
    | some r =>
      dsimp only
      rcases firstBestFrom_some score c r l with
        ⟨hsame, hle⟩ | ⟨before, a, after, s, rfl, hwins, hrs, heq⟩
      · exact .inr ⟨[], c, l, r, rfl, ⟨hc, nofun, hle⟩, by rw [hsame]; rfl⟩
      · refine .inr ⟨c :: before, a, after, s, rfl, ⟨hwins.scored, ?_, hwins.after⟩,
          by rw [heq]; rfl⟩
        refine forall_mem_cons.mpr ⟨fun u hu => ?_, hwins.before⟩
        obtain rfl : r = u := some.inj (hc.symm.trans hu)
        exact hrs

theorem mem_of_firstBest {a : α} (h : firstBest score l = some a) : a ∈ l := by
  rcases firstBest_cases score l with ⟨hnone, -⟩ | ⟨before, b, after, s, rfl, -, heq⟩
  · cases hnone.symm.trans h
  · obtain rfl : b = a := some.inj (heq.symm.trans h)
    exact mem_append_right _ mem_cons_self

/-- Each candidate for which `p` fails is outranked by one for which it holds: by an earlier
one that scores as much, or by a later one that scores more. -/
def Outranked (score : α → Option κ) (p : α → Prop) (l : List α) : Prop :=
  ∀ before b after, l = before ++ b :: after → ¬p b → ∀ t ∈ score b,
    (∃ a ∈ before, p a ∧ ∃ s ∈ score a, t ≤ s) ∨ ∃ a ∈ after, p a ∧ ∃ s ∈ score a, t < s

/-- **Which kind is found.** -/
theorem forall_firstBest_iff {p : α → Prop} :
    (∀ a ∈ firstBest score l, p a) ↔ Outranked score p l := by
  constructor
  · intro hp before b after hl hb t ht
    rcases firstBest_cases score l with ⟨-, hnone⟩ | ⟨before', a, after', s, hl', hwins, heq⟩
    · have hmem : b ∈ l := hl ▸ mem_append_right _ mem_cons_self
      cases (hnone b hmem).symm.trans ht
    · have ha : p a := hp a heq
      rcases append_eq_append_iff.mp (hl.symm.trans hl') with
        ⟨mid, hbefore, hafter⟩ | ⟨mid, hbefore, hafter⟩
      · cases mid with
        | nil =>
          obtain ⟨rfl, -⟩ := cons.inj hafter
          exact absurd ha hb
        | cons c mid =>
          obtain ⟨rfl, rfl⟩ := cons.inj hafter
          refine .inr ⟨a, mem_append_right _ mem_cons_self, ha, s, hwins.scored, ?_⟩
          exact hwins.before b (hbefore ▸ mem_append_right _ mem_cons_self) t ht
      · cases mid with
        | nil =>
          obtain ⟨rfl, -⟩ := cons.inj hafter
          exact absurd ha hb
        | cons c mid =>
          obtain ⟨rfl, rfl⟩ := cons.inj hafter
          refine .inl ⟨a, hbefore ▸ mem_append_right _ mem_cons_self, ha, s,
            hwins.scored, ?_⟩
          exact hwins.after b (mem_append_right _ mem_cons_self) t ht
  · intro hrank a ha
    rcases firstBest_cases score l with ⟨hnone, -⟩ | ⟨before, b, after, s, rfl, hwins, heq⟩
    · cases hnone.symm.trans ha
    · obtain rfl : b = a := some.inj (heq.symm.trans ha)
      by_contra hb
      rcases hrank before b after rfl hb s hwins.scored with
        ⟨a, hmem, -, r, hr, hle⟩ | ⟨a, hmem, -, r, hr, hlt⟩
      · exact absurd (hwins.before a hmem r hr) (not_lt.mpr hle)
      · exact absurd (hwins.after a hmem r hr) (not_le.mpr hlt)

theorem firstBest_eq_none_iff : firstBest score l = none ↔ ∀ a ∈ l, score a = none := by
  rcases firstBest_cases score l with ⟨hnone, hall⟩ | ⟨before, a, after, s, rfl, hwins, heq⟩
  · exact ⟨fun _ => hall, fun _ => hnone⟩
  · constructor
    · intro h
      cases heq.symm.trans h
    · intro h
      cases (h a (mem_append_right _ mem_cons_self)).symm.trans hwins.scored

theorem exists_firstBest_iff {p : α → Prop} :
    (∃ a ∈ firstBest score l, p a) ↔ (∃ a ∈ l, score a ≠ none) ∧ Outranked score p l := by
  rw [← forall_firstBest_iff]
  cases h : firstBest score l with
  | none =>
    have hnone := firstBest_eq_none_iff.mp h
    constructor
    · rintro ⟨a, ha, -⟩
      cases ha
    · rintro ⟨⟨a, ha, hscore⟩, -⟩
      exact absurd (hnone a ha) hscore
  | some b =>
    have hcandidate : ∃ a ∈ l, score a ≠ none := by
      by_contra hnone
      push Not at hnone
      cases h.symm.trans (firstBest_eq_none_iff.mpr hnone)
    simp [hcandidate]

/-- The score of a search for the first candidate that is preferred, or else, if any will do,
for the first. -/
def preferScore (candidate preferred : α → Bool) (any : Bool) (a : α) : Option ℤ :=
  if candidate a then if preferred a then some 1 else if any then some 0 else none else none

/-- **A preferred candidate, or else the first.** -/
theorem firstBest_preferScore (candidate preferred : α → Bool) (any : Bool) (l : List α) :
    firstBest (preferScore candidate preferred any) l =
      match (l.filter candidate).find? preferred with
      | some a => some a
      | none => if any then (l.filter candidate).head? else none := by
  rcases firstBest_cases (preferScore candidate preferred any) l with
    ⟨hnone, hall⟩ | ⟨before, a, after, s, rfl, hwins, heq⟩
  · have hplain : ∀ b ∈ l.filter candidate, preferred b = false ∧ any = false := by
      intro b hb
      obtain ⟨hmem, hcandidate⟩ := mem_filter.mp hb
      have := hall b hmem
      rw [preferScore] at this
      cases hp : preferred b <;> cases any <;> simp_all
    have hfind : (l.filter candidate).find? preferred = none :=
      find?_eq_none.mpr fun b hb => by simp [(hplain b hb).1]
    rw [hnone, hfind]
    cases hl : l.filter candidate with
    | nil => simp
    | cons b rest => simp [(hplain b (hl ▸ mem_cons_self)).2]
  · obtain ⟨hscored, hbefore, hafter⟩ := hwins
    rw [preferScore] at hscored
    have hcandidate : candidate a = true := by
      by_contra h
      rw [if_neg h] at hscored
      cases hscored
    rw [if_pos hcandidate] at hscored
    have hpreferred : ∀ b, candidate b = true → preferred b = true →
        preferScore candidate preferred any b = some 1 := by
      intro b hb hp
      rw [preferScore, if_pos hb, if_pos hp]
    rw [heq, filter_append, find?_append, filter_cons_of_pos hcandidate]
    cases hp : preferred a with
    | true =>
      rw [if_pos hp] at hscored
      obtain rfl : 1 = s := some.inj hscored
      have hnone : (before.filter candidate).find? preferred = none := by
        refine find?_eq_none.mpr fun b hb hpb => ?_
        obtain ⟨hmem, hcb⟩ := mem_filter.mp hb
        exact absurd (hbefore b hmem 1 (hpreferred b hcb hpb)) (lt_irrefl 1)
      rw [hnone, find?_cons_of_pos hp]
      rfl
    | false =>
      rw [if_neg (by simp [hp])] at hscored
      cases any with
      | false => cases hscored
      | true =>
        obtain rfl : 0 = s := some.inj hscored
        have hempty : before.filter candidate = [] := by
          refine filter_eq_nil_iff.mpr fun b hb hcb => ?_
          have hscore : ∃ t ≥ 0, preferScore candidate preferred true b = some t := by
            rw [preferScore, if_pos hcb]
            cases preferred b
            · exact ⟨0, le_rfl, rfl⟩
            · exact ⟨1, Int.one_nonneg, rfl⟩
          obtain ⟨t, hnonneg, ht⟩ := hscore
          exact absurd (hbefore b hb t ht) (not_lt.mpr hnonneg)
        have hnone : (after.filter candidate).find? preferred = none := by
          refine find?_eq_none.mpr fun b hb hpb => ?_
          obtain ⟨hmem, hcb⟩ := mem_filter.mp hb
          have hle := hafter b hmem 1 (hpreferred b hcb hpb)
          omega
        rw [hempty, find?_cons_of_neg (by simp [hp]), hnone]
        rfl

end IsaUser
