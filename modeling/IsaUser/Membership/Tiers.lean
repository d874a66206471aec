import IsaUser.Membership.Constraints
import Mathlib.Data.Int.ConditionallyCompleteOrder

/-!
# The Tier Follows the Tier Points

`earn_points` reads a tier, adds points, and writes the tier of the points it has reached, in
three statements. Any number of calls do so at the same time, and a tier that was reached early
may be written late.
-/

open IsaUser.Prog Option

namespace IsaUser.Memberships

open World

/-! ### The law -/

theorem MembershipTier.threshold_injective : Function.Injective MembershipTier.threshold := by
  intro tier tier' h
  cases tier <;> cases tier' <;> first | rfl | exact absurd h (by decide)

instance : PartialOrder MembershipTier where
  le tier tier' := tier.threshold ≤ tier'.threshold
  le_refl _ := le_rfl
  le_trans _ _ _ h h' := h.trans h'
  le_antisymm _ _ h h' := MembershipTier.threshold_injective (h.antisymm h')

instance : DecidableLE MembershipTier := fun tier tier' =>
  inferInstanceAs (Decidable (tier.threshold ≤ tier'.threshold))

theorem calculateTier_eq (n : ℤ) : calculateTier n =
    if 100000 ≤ n then .diamond else if 50000 ≤ n then .platinum else
      if 20000 ≤ n then .gold else if 5000 ≤ n then .silver else .bronze := by
  simp only [calculateTier, tierOrder, List.reverse_cons, List.reverse_nil, List.nil_append,
    List.cons_append, MembershipTier.threshold]
  split_ifs <;> simp [*]
  by_cases hzero : 0 ≤ n <;> simp [hzero]

theorem calculateTier_mono : Monotone calculateTier := by
  intro n n' h
  rw [calculateTier_eq, calculateTier_eq]
  split_ifs <;> first | decide | omega

def World.TierFollows (w : World) : Prop :=
  ∀ id, ∀ row ∈ w.memberships id, row.tierCode = calculateTier row.tierPoints

def World.Risen (w w' : World) : Prop :=
  ∀ id, ∀ row ∈ w.memberships id, ∃ row' ∈ w'.memberships id, row.tierCode ≤ row'.tierCode

/-! ### The condition -/

def Call.reached : World × Call → Option (ℕ × MembershipTier)
  | (w, .addPoints id points tierPoints) =>
    (w.memberships id).bind fun row =>
      let tier := calculateTier (row.tierPoints + tierPoints)
      if Wrote (w.addPoints id points tierPoints) ∧ calculateTier row.tierPoints ≠ tier then
        some (id, tier)
      else none
  | _ => none

/-- No tier is written over a higher one; and where points reach another tier, the history takes
the entry of them. -/
def Upward (request : Request) (w : World) : Call → Prop
  | .addPoints id points tierPoints =>
    (Call.reached (w, .addPoints id points tierPoints)).isSome → request.Fits
  | .updateTier id newTier => ∀ row ∈ w.memberships id, row.tierCode ≤ newTier
  | _ => True

instance (request : Request) (w : World) : DecidablePred (Upward request w)
  | .addPoints _ _ _ => inferInstanceAs (Decidable (_ → _))
  | .updateTier id newTier =>
    inferInstanceAs (Decidable (∀ row ∈ w.memberships id, row.tierCode ≤ newTier))
  | .clock | .insertMembership _ _ | .selectMembership _ | .selectByUser _ _ _
  | .deductPoints _ _ | .updateStatus _ _ | .insertHistory _ => .isTrue trivial

abbrev TierRun {ι : Type*} [DecidableEq ι] (requests : ι → Request) :
    PointsPool ι → PointsPool ι → Prop :=
  Pool.Reach handle Ticks fun i _ w c => Upward (requests i) w c

/-! ### Tiers that are owed -/

def owed : PointsPast → Option (ℕ × MembershipTier)
  | [] => none
  | (_, .updateTier _ _) :: _ => none
  | e :: past => Call.reached e <|> owed past

def Owing {ι : Type*} (w : World) (past : ι → PointsPast) : Prop :=
  ∀ id, ∀ row ∈ w.memberships id, row.tierCode = calculateTier row.tierPoints ∨
    ∃ i, owed (past i) = some (id, calculateTier row.tierPoints)

structure World.Capped (w : World) : Prop extends w.Valid, w.Admitted where
  capped : ∀ id, ∀ row ∈ w.memberships id, row.tierCode ≤ calculateTier row.tierPoints

/-- The memberships are there at a later moment, with as many tier points and as high a tier. -/
def World.Ascends (w w' : World) : Prop :=
  ∀ id, ∀ row ∈ w.memberships id, ∃ row' ∈ w'.memberships id,
    row.tierPoints ≤ row'.tierPoints ∧ row.tierCode ≤ row'.tierCode

def tierTerms : Terms World where
  inv := Capped
  rel := Ascends
  rel_refl _ _ row hrow := ⟨row, hrow, le_rfl, le_rfl⟩
  rel_trans h h' id row hrow := by
    obtain ⟨row', hrow', hpoints, htier⟩ := h id row hrow
    obtain ⟨row'', hrow'', hpoints', htier'⟩ := h' id row' hrow'
    exact ⟨row'', hrow'', hpoints.trans hpoints', htier.trans htier'⟩

def TierPromised (past : PointsPast) (w : World) : Call → Prop
  | .insertMembership row metadata => Promised (.insertMembership row metadata) ∧
      row.tierCode = calculateTier row.tierPoints
  | .addPoints id points tierPoints => Promised (.addPoints id points tierPoints) ∧
      owed past = none
  | .updateTier id newTier => (∀ row ∈ w.memberships id, newTier ≤ calculateTier row.tierPoints) ∧
      ∀ debt ∈ owed past, debt = (id, newTier)
  | _ => True

/-! ### What a statement keeps -/

section Keeps

variable {past : PointsPast} {w : World} {request : Request} {c : Call} {row' : MembershipRow}
  {row : MembershipRow}

theorem promised_of_tierPromised (hc : TierPromised past w c) : Promised c := by
  cases c with
  | insertMembership row metadata => exact hc.1
  | addPoints id points tierPoints => exact hc.1
  | _ => trivial

theorem ascends_put {id : ℕ} (hrow : row ∈ w.memberships id)
    (hpoints : row.tierPoints ≤ row'.tierPoints) (htier : row.tierCode ≤ row'.tierCode) :
    w.Ascends (w.put id row') := by
  intro j old hold
  by_cases hj : j = id
  · subst hj
    obtain rfl := mem_unique hrow hold
    exact ⟨row', by simp [put], hpoints, htier⟩
  · exact ⟨old, by simpa [put, hj] using hold, le_rfl, le_rfl⟩

theorem ascends_update {id : ℕ} {change : MembershipRow → Option MembershipRow}
    (hchange : ∀ row ∈ w.memberships id, ∀ row' ∈ change row,
      row.tierPoints ≤ row'.tierPoints ∧ row.tierCode ≤ row'.tierCode) :
    w.Ascends (w.update id change).2 := by
  rcases update_cases w id change with h | ⟨row, hrow, row', hnew, -, h⟩
  · rw [h.snd]
    exact tierTerms.rel_refl w
  · obtain ⟨hpoints, htier⟩ := hchange row hrow row' hnew
    rw [h]
    exact ascends_put hrow hpoints htier

theorem ascends_handle (hw : w.Capped) (hc : TierPromised past w c) (hup : Upward request w c) :
    w.Ascends (handle c w).2 := by
  cases c with
  | clock => exact tierTerms.rel_refl w
  | selectMembership id => exact tierTerms.rel_refl w
  | selectByUser userId organizationId activeOnly => exact tierTerms.rel_refl w
  | insertHistory row =>
    rw [handle]
    split <;> exact tierTerms.rel_refl w
  | updateStatus id status =>
    refine ascends_update fun row hrow row' hrow' => ?_
    obtain rfl := some.inj hrow'
    exact ⟨le_rfl, le_rfl⟩
  | updateTier id newTier =>
    refine ascends_update fun row hrow row' hrow' => ?_
    obtain rfl := some.inj hrow'
    exact ⟨le_rfl, hup row hrow⟩
  | addPoints id points tierPoints =>
    obtain ⟨⟨-, htier⟩, -⟩ := hc
    rcases addPoints_cases w id points tierPoints with h | ⟨-, row, hrow, -, h⟩
    · rw [handle, h.snd]
      exact tierTerms.rel_refl w
    · rw [handle, h]
      exact ascends_put hrow (le_add_of_nonneg_right htier) le_rfl
  | deductPoints id points =>
    rcases deductPoints_cases w id points with h | ⟨-, row, hrow, -, -, h⟩
    · rw [handle, h.snd]
      exact tierTerms.rel_refl w
    · rw [handle, h]
      exact ascends_put hrow le_rfl le_rfl
  | insertMembership row metadata =>
    rcases insertMembership_cases w row metadata with h | ⟨-, -, h⟩
    · rw [handle, h.snd]
      exact tierTerms.rel_refl w
    · rw [handle, h]
      intro j old hold
      have hj : j ≠ w.issued := (hw.lt_issued hold).ne
      exact ⟨old, by simpa [put, hj] using hold, le_rfl, le_rfl⟩

theorem capped_put {id : ℕ}
    (hw : ∀ j, ∀ row ∈ w.memberships j, row.tierCode ≤ calculateTier row.tierPoints)
    (hrow' : row'.tierCode ≤ calculateTier row'.tierPoints) :
    ∀ j, ∀ row ∈ (w.put id row').memberships j, row.tierCode ≤ calculateTier row.tierPoints := by
  intro j row hrow
  by_cases hj : j = id
  · subst hj
    obtain rfl : row' = row := by simpa [put] using hrow
    exact hrow'
  · exact hw j row (by simpa [put, hj] using hrow)

theorem capped_update {id : ℕ} {change : MembershipRow → Option MembershipRow}
    (hw : ∀ j, ∀ row ∈ w.memberships j, row.tierCode ≤ calculateTier row.tierPoints)
    (hchange : ∀ row ∈ w.memberships id, ∀ row' ∈ change row,
      row'.tierCode ≤ calculateTier row'.tierPoints) :
    ∀ j, ∀ row ∈ (w.update id change).2.memberships j,
      row.tierCode ≤ calculateTier row.tierPoints := by
  rcases update_cases w id change with h | ⟨row, hrow, row', hnew, -, h⟩
  · rwa [h.snd]
  · rw [h]
    exact capped_put hw (hchange row hrow row' hnew)

theorem capped_handle (hw : w.Capped) (hc : TierPromised past w c) :
    (handle c w).2.Capped := by
  refine ⟨valid_handle hw.toValid (promised_of_tierPromised hc),
    admitted_handle hw.toAdmitted hw.toValid c, ?_⟩
  cases c with
  | clock => exact hw.capped
  | selectMembership id => exact hw.capped
  | selectByUser userId organizationId activeOnly => exact hw.capped
  | insertHistory row =>
    rw [handle]
    split <;> exact hw.capped
  | updateStatus id status =>
    refine capped_update hw.capped fun row hrow row' hrow' => ?_
    obtain rfl := some.inj hrow'
    exact hw.capped id row hrow
  | updateTier id newTier =>
    refine capped_update hw.capped fun row hrow row' hrow' => ?_
    obtain rfl := some.inj hrow'
    exact hc.1 row hrow
  | addPoints id points tierPoints =>
    obtain ⟨⟨-, htier⟩, -⟩ := hc
    rcases addPoints_cases w id points tierPoints with h | ⟨-, row, hrow, -, h⟩
    · rw [handle, h.snd]
      exact hw.capped
    · rw [handle, h]
      refine capped_put hw.capped ((hw.capped id row hrow).trans ?_)
      exact calculateTier_mono (le_add_of_nonneg_right htier)
  | deductPoints id points =>
    rcases deductPoints_cases w id points with h | ⟨-, row, hrow, -, -, h⟩
    · rw [handle, h.snd]
      exact hw.capped
    · rw [handle, h]
      exact capped_put hw.capped (hw.capped id row hrow)
  | insertMembership row metadata =>
    rcases insertMembership_cases w row metadata with h | ⟨-, -, h⟩
    · rw [handle, h.snd]
      exact hw.capped
    · rw [handle, h]
      exact capped_put (w := { w with issued := w.issued + 1 }) hw.capped hc.2.le

/-! ### What is owed -/

variable {ι : Type*} [DecidableEq ι] {pasts : ι → PointsPast} {i : ι} {tierPoints : ℤ}
  {new : PointsPast} {points : ℤ}

theorem owed_update (hnew : owed new = owed (pasts i)) {debt : ℕ × MembershipTier}
    (h : ∃ j, owed (pasts j) = some debt) :
    ∃ j, owed (Function.update pasts i new j) = some debt := by
  obtain ⟨j, hj⟩ := h
  refine ⟨j, ?_⟩
  by_cases hji : j = i
  · subst hji
    rw [Function.update_self, hnew, hj]
  · rw [Function.update_of_ne hji, hj]

theorem owed_update_of_ne {debt : ℕ × MembershipTier} (hi : owed (pasts i) ≠ some debt)
    (h : ∃ j, owed (pasts j) = some debt) :
    ∃ j, owed (Function.update pasts i new j) = some debt := by
  obtain ⟨j, hj⟩ := h
  have hji : j ≠ i := by
    rintro rfl
    exact hi hj
  exact ⟨j, by rw [Function.update_of_ne hji, hj]⟩

theorem owing_put {id : ℕ} (hnew : owed new = owed (pasts i)) (hrow : row ∈ w.memberships id)
    (htier : row'.tierCode = row.tierCode)
    (hpoints : calculateTier row'.tierPoints = calculateTier row.tierPoints) (h : Owing w pasts) :
    Owing (w.put id row') (Function.update pasts i new) := by
  intro j other hother
  by_cases hj : j = id
  · subst hj
    obtain rfl : row' = other := by simpa [put] using hother
    rw [htier, hpoints]
    exact (h j row hrow).imp_right (owed_update hnew)
  · exact (h j other (by simpa [put, hj] using hother)).imp_right (owed_update hnew)

theorem owing_same {w' : World} (hnew : owed new = owed (pasts i))
    (hsame : w'.memberships = w.memberships) (h : Owing w pasts) :
    Owing w' (Function.update pasts i new) := fun id row hrow =>
  (h id row (hsame ▸ hrow)).imp_right (owed_update hnew)

theorem reached_of_refused {id : ℕ} (h : Refused (w.addPoints id points tierPoints) w) :
    Call.reached (w, .addPoints id points tierPoints) = none := by
  have hnot : ¬Wrote (w.addPoints id points tierPoints) := by
    rcases h with ⟨e, h⟩ | h <;> rw [h] <;> exact nofun
  rw [Call.reached]
  cases w.memberships id with
  | none => rfl
  | some row => exact if_neg fun hwrote => hnot hwrote.1

theorem reached_of_written {id : ℕ} {w' : World} (hrow : row ∈ w.memberships id)
    (h : w.addPoints id points tierPoints = (.ok (some (id, row')), w')) :
    Call.reached (w, .addPoints id points tierPoints) =
      if calculateTier row.tierPoints ≠ calculateTier (row.tierPoints + tierPoints) then
        some (id, calculateTier (row.tierPoints + tierPoints)) else none := by
  have hwrote : Wrote (w.addPoints id points tierPoints) := by rw [h]; rfl
  rw [Call.reached, mem_def.mp hrow, bind_some]
  simp only [hwrote, true_and]

theorem owed_addPoints {id : ℕ} (hnone : owed past = none) :
    owed ((w, .addPoints id points tierPoints) :: past) =
      Call.reached (w, .addPoints id points tierPoints) := by
  have hcons : owed ((w, .addPoints id points tierPoints) :: past) =
      (Call.reached (w, .addPoints id points tierPoints)).orElse fun _ => owed past := rfl
  rw [hcons, hnone]
  cases Call.reached (w, .addPoints id points tierPoints) <;> rfl

theorem owing_addPoints {id : ℕ} (hnone : owed (pasts i) = none) (h : Owing w pasts) :
    Owing (w.addPoints id points tierPoints).2
      (Function.update pasts i ((w, .addPoints id points tierPoints) :: pasts i)) := by
  have howed : owed ((w, .addPoints id points tierPoints) :: pasts i) =
      Call.reached (w, .addPoints id points tierPoints) := owed_addPoints hnone
  rcases addPoints_cases w id points tierPoints with href | ⟨-, row, hrow, -, hwritten⟩
  · refine owing_same ?_ (congrArg memberships href.snd) h
    rw [howed, reached_of_refused href, hnone]
  · rw [reached_of_written hrow hwritten] at howed
    rw [hwritten]
    by_cases htier : calculateTier row.tierPoints = calculateTier (row.tierPoints + tierPoints)
    · rw [if_neg (not_not.mpr htier)] at howed
      exact owing_put (howed.trans hnone.symm) hrow rfl htier.symm h
    · rw [if_pos htier] at howed
      intro j other hother
      by_cases hj : j = id
      · subst hj
        obtain rfl : row.add points tierPoints = other := by simpa [put] using hother
        exact .inr ⟨i, by rw [Function.update_self, howed]; rfl⟩
      · refine (h j other (by simpa [put, hj] using hother)).imp_right (owed_update_of_ne ?_)
        rw [hnone]
        exact fun h => by cases h

theorem updateTier_eq (hw : w.Admitted) {id : ℕ} (hrow : row ∈ w.memberships id)
    (newTier : MembershipTier) :
    handle (.updateTier id newTier) w =
      (.ok (some (id, { row with tierCode := newTier })),
        w.put id { row with tierCode := newTier }) :=
  update_admitted hw hrow rfl (hw.inRange id row hrow) (fun h => h) rfl rfl

theorem owing_updateTier {id : ℕ} {newTier : MembershipTier} (hw : w.Capped)
    (hc : TierPromised (pasts i) w (.updateTier id newTier))
    (hup : ∀ row ∈ w.memberships id, row.tierCode ≤ newTier) (h : Owing w pasts) :
    Owing (handle (.updateTier id newTier) w).2
      (Function.update pasts i ((w, .updateTier id newTier) :: pasts i)) := by
  obtain ⟨hreached, hdebt⟩ := hc
  have hother : ∀ j, j ≠ id → ∀ row ∈ w.memberships j,
      row.tierCode = calculateTier row.tierPoints ∨
        ∃ k, owed (Function.update pasts i ((w, .updateTier id newTier) :: pasts i) k) =
          some (j, calculateTier row.tierPoints) := fun j hj row hrow => by
    refine (h j row hrow).imp_right (owed_update_of_ne fun howed => hj ?_)
    exact congrArg Prod.fst (hdebt _ howed)
  cases hrow : w.memberships id with
  | none =>
    have hsame : (handle (.updateTier id newTier) w).2 = w := by
      rw [handle, update, hrow]
      rfl
    rw [hsame]
    intro j row hj
    refine hother j ?_ row hj
    rintro rfl
    rw [hrow] at hj
    exact absurd hj (not_mem_none _)
  | some row =>
    rw [updateTier_eq hw.toAdmitted hrow]
    intro j other hj
    by_cases hji : j = id
    · subst hji
      obtain rfl : { row with tierCode := newTier } = other := by simpa [put] using hj
      rcases h j row hrow with heq | howed
      · exact .inl (le_antisymm (hreached row hrow) (heq ▸ hup row hrow))
      · by_cases hi : owed (pasts i) = some (j, calculateTier row.tierPoints)
        · exact .inl (congrArg Prod.snd (hdebt _ hi)).symm
        · exact .inr (owed_update_of_ne hi howed)
    · exact hother j hji other (by simpa [put, hji] using hj)

/-- **What is owed is written or still owed** after any statement. -/
theorem owing_handle {request : Request} {c : Call} (hw : w.Capped)
    (hc : TierPromised (pasts i) w c) (hup : Upward request w c) (h : Owing w pasts) :
    Owing (handle c w).2 (Function.update pasts i ((w, c) :: pasts i)) := by
  cases c with
  | clock => exact owing_same rfl rfl h
  | selectMembership id => exact owing_same rfl rfl h
  | selectByUser userId organizationId activeOnly => exact owing_same rfl rfl h
  | updateTier id newTier => exact owing_updateTier hw hc hup h
  | addPoints id points tierPoints => exact owing_addPoints hc.2 h
  | insertHistory row =>
    rw [handle]
    split <;> exact owing_same rfl rfl h
  | updateStatus id status =>
    rcases update_cases w id fun row => some { row with status } with
      href | ⟨row, hrow, row', hnew, -, hwritten⟩
    · exact owing_same rfl (congrArg memberships href.snd) h
    · obtain rfl := some.inj hnew
      rw [handle, hwritten]
      exact owing_put rfl hrow rfl rfl h
  | deductPoints id points =>
    rcases deductPoints_cases w id points with href | ⟨-, row, hrow, -, -, hwritten⟩
    · exact owing_same rfl (congrArg memberships href.snd) h
    · rw [handle, hwritten]
      exact owing_put rfl hrow rfl rfl h
  | insertMembership row metadata =>
    rcases insertMembership_cases w row metadata with href | ⟨-, -, hwritten⟩
    · exact owing_same rfl (congrArg memberships href.snd) h
    · rw [handle, hwritten]
      intro j other hother
      by_cases hj : j = w.issued
      · subst hj
        obtain rfl : row = other := by simpa [put] using hother
        exact .inl hc.2
      · refine (h j other (by simpa [put, hj] using hother)).imp_right fun hdebt => ?_
        refine owed_update ?_ hdebt
        rfl

end Keeps

/-! ### What the programs keep -/

section Programs

variable {request : Request} {past : PointsPast} {w : World} {α : Type} {tier : MembershipTier}
  {id : ℕ}

/-- A program keeps its promises, and ends as `Q` says. -/
abbrev TierSound (request : Request) (Q : Except MembershipError α → PointsPast → World → Prop)
    (p : MembershipM α) : PointsPast → World → Prop :=
  p.Sound tierTerms handle (fun _ => Upward request) TierPromised Q

def Call.Level : Call → Prop
  | insertMembership _ _ => False
  | addPoints _ _ _ => False
  | updateTier _ _ => False
  | _ => True

theorem Call.Level.promised {c : Call} (hc : c.Level) : TierPromised past w c := by
  cases c with
  | insertMembership row metadata => exact hc.elim
  | addPoints id points tierPoints => exact hc.elim
  | updateTier id newTier => exact hc.elim
  | _ => trivial

theorem Call.Level.owed {c : Call} (hc : c.Level) : owed ((w, c) :: past) = owed past := by
  cases c with
  | insertMembership row metadata => exact hc.elim
  | addPoints id points tierPoints => exact hc.elim
  | updateTier id newTier => exact hc.elim
  | _ => rfl

theorem level_sound {p : MembershipM α} (hp : p.Only Call.Level) (hpast : owed past = none) :
    TierSound request (fun _ past _ => owed past = none) p past w := by
  refine hp.sound (K := fun past => owed past = none) hpast fun c hc past w h => ?_
  exact ⟨hc.promised, hc.owed.trans h⟩

def Reaches (tier : MembershipTier) (id : ℕ) (w : World) : Prop :=
  ∃ row ∈ w.memberships id, tier ≤ calculateTier row.tierPoints

theorem Reaches.later {w' : World} (h : Reaches tier id w) (hw : w.Ascends w') :
    Reaches tier id w' := by
  obtain ⟨row, hrow, htier⟩ := h
  obtain ⟨row', hrow', hpoints, -⟩ := hw id row hrow
  exact ⟨row', hrow', htier.trans (calculateTier_mono hpoints)⟩

theorem getMembershipByUser_sound {userId : PyStr} {organizationId : Option PyStr}
    {activeOnly : Bool} (hpast : owed past = none) :
    TierSound request (fun r past w => owed past = none ∧
        ∀ membership, r = .ok (some membership) →
          Reaches membership.tierCode membership.membershipId w)
      (getMembershipByUser userId organizationId activeOnly) past w := by
  refine Sound.bind (Q := fun r past w => owed past = none ∧
    ∀ e, r = .ok (some e) → Reaches e.2.tierCode e.1 w) ?_ (fun row past w h => ?_)
    fun _ _ _ h => ⟨h.1, fun _ h => by cases h⟩
  · refine sound_query (I := MembershipApi)
      (c := Call.selectByUser userId organizationId activeOnly)
      fun w' _ hw' => ⟨trivial, fun _ w'' hlater _ => ⟨hpast, fun e he => ?_⟩⟩
    have hlatest : w'.latest userId organizationId activeOnly = some e := Except.ok.inj he
    obtain ⟨hrow, -⟩ := mem_of_latest hlatest
    exact Reaches.later ⟨e.2, hrow, hw'.capped e.1 e.2 hrow⟩ hlater
  · rcases found_cases row with hraise | ⟨found, hret, hstored⟩
    · rw [hraise]
      exact fun _ _ _ => ⟨h.1, fun _ h => by cases h⟩
    · rw [hret]
      refine fun w' hw' _ => ⟨h.1, fun membership hfound => ?_⟩
      refine (h.2 membership.stored ?_).later hw'
      rw [← hstored, Except.ok.inj hfound]
      rfl

structure Posted (request : Request) (id : ℕ) (tier : MembershipTier) (points : ℤ)
    (past : PointsPast) (w : World) (e : ℕ × MembershipRow) : Prop where
  same : e.1 = id
  valid : e.2.Valid
  balance : Bigint e.2.pointsBalance
  reaches : Reaches (calculateTier e.2.tierPoints) id w
  owes : owed past = none ∨ owed past = some (id, calculateTier e.2.tierPoints) ∧
    tier ≠ calculateTier e.2.tierPoints ∧ request.Fits ∧ Bigint points

def Posts (request : Request) (id : ℕ) (tier : MembershipTier) (points : ℤ) {ε : Type} :
    Except ε (Option (ℕ × MembershipRow)) → PointsPast → World → Prop
  | .ok (some e), past, w => Posted request id tier points past w e
  | _, past, _ => owed past = none

theorem addPoints_posted {points tierPoints : ℤ} (hpoints : 0 ≤ points)
    (htierPoints : 0 ≤ tierPoints) (hpast : owed past = none) (htier : Reaches tier id w)
    {w' w'' : World} (hw : w.Ascends w') (hw' : w'.Capped)
    (hup : Upward request w' (.addPoints id points tierPoints))
    (hlater : (w'.addPoints id points tierPoints).2.Ascends w'') :
    Posts request id tier points (w'.addPoints id points tierPoints).1
      ((w', .addPoints id points tierPoints) :: past) w'' := by
  have howed : owed ((w', .addPoints id points tierPoints) :: past) =
      Call.reached (w', .addPoints id points tierPoints) := owed_addPoints hpast
  rcases addPoints_cases w' id points tierPoints with href | ⟨hbig, row, hrow, hrange, hwritten⟩
  · rw [reached_of_refused href] at howed
    rcases href with ⟨e, h⟩ | h <;> rw [h] <;> exact howed
  · have hreached := reached_of_written hrow hwritten
    obtain ⟨hbalance, htierPoints', hlifetime⟩ := hw'.rows id row hrow
    rw [hwritten] at hlater ⊢
    refine ⟨rfl, ?_, hrange.1, ?_, ?_⟩
    · exact ⟨add_nonneg hbalance hpoints, add_nonneg htierPoints' htierPoints,
        add_nonneg hlifetime hpoints⟩
    · refine Reaches.later ⟨row.add points tierPoints, ?_, le_rfl⟩ hlater
      simp [put]
    · by_cases hsame : calculateTier row.tierPoints = calculateTier (row.tierPoints + tierPoints)
      · rw [if_neg (not_not.mpr hsame)] at hreached
        exact .inl (howed.trans hreached)
      · rw [if_pos hsame] at hreached
        have hfits : request.Fits := hup (by rw [hreached]; rfl)
        refine .inr ⟨howed.trans hreached, ?_, hfits, hbig⟩
        -- The tier that was read has been reached by fewer points.
        rintro rfl
        obtain ⟨row', hrow', hle⟩ := htier.later hw
        obtain rfl := mem_unique hrow hrow'
        refine hsame (le_antisymm (calculateTier_mono ?_) hle)
        exact le_add_of_nonneg_right htierPoints

theorem addPoints_owes {points tierPoints : ℤ} (hpoints : 0 ≤ points) (htierPoints : 0 ≤ tierPoints)
    (hpast : owed past = none) (htier : Reaches tier id w) :
    TierSound request (fun r past w => match r with
        | .ok updated => Posted request id tier points past w
            (updated.membershipId, updated.toMembershipRow)
        | .error _ => owed past = none) (addPoints id points tierPoints) past w := by
  refine Sound.bind (Q := Posts request id tier points) ?_ (fun row past w h => ?_) fun _ _ _ h => h
  · refine sound_query (I := MembershipApi) (c := Call.addPoints id points tierPoints)
      fun w' hw hw' => ⟨⟨⟨hpoints, htierPoints⟩, hpast⟩, fun hup w'' hlater _ => ?_⟩
    have hposted := addPoints_posted hpoints htierPoints hpast htier hw hw' hup hlater
    rw [handle]
    revert hposted
    rcases (w'.addPoints id points tierPoints).1 with e | _ | e <;> exact fun h => h
  · cases row with
    | none => exact fun _ _ _ => h
    | some e =>
      rw [returned, show converted e = _ from converted_eq h.valid]
      exact fun w' hw' _ => ⟨h.same, h.valid, h.balance, h.reaches.later hw', h.owes⟩

theorem addHistory_owes {row : HistoryRow} (hrow : owed past = none ∨ row.Fits)
    (htier : Reaches tier id w) :
    TierSound request (fun r past' w' => match r with
      | .ok _ => owed past' = owed past ∧ Reaches tier id w'
      | .error _ => owed past' = none) (addHistory row) past w := by
  refine sound_query (I := MembershipApi) (c := Call.insertHistory row)
    fun w' hw hw' => ⟨trivial, fun _ w'' hlater _ => ?_⟩
  have howed : owed ((w', .insertHistory row) :: past) = owed past := rfl
  have hreaches := htier.later hw
  by_cases hfits : row.Fits
  · simp only [handle, if_pos hfits] at hlater ⊢
    exact ⟨howed, hreaches.later hlater⟩
  · simp only [handle, if_neg hfits]
    exact howed.trans (hrow.resolve_right hfits)

theorem upgradeTier_owes {membership : Membership} {oldTier newTier : MembershipTier}
    (hreaches : Reaches newTier membership.membershipId w)
    (hdebt : ∀ debt ∈ owed past, debt = (membership.membershipId, newTier)) :
    TierSound request (fun _ past _ => owed past = none)
      (upgradeTier membership oldTier newTier) past w := by
  refine Sound.bind (Q := fun _ past _ => owed past = none) ?_ (fun _ past w hpast => ?_)
    fun _ _ _ h => h
  · refine Sound.bind (Q := fun _ past _ => owed past = none) ?_
      (fun row past w hpast => level_sound (returned_only _ row) hpast) fun _ _ _ h => h
    refine sound_query (I := MembershipApi)
      (c := Call.updateTier membership.membershipId newTier) fun w' hw hw' =>
        ⟨⟨fun row hrow => ?_, hdebt⟩, fun _ _ _ _ => rfl⟩
    obtain ⟨row', hrow', hle⟩ := hreaches.later hw
    obtain rfl := mem_unique hrow hrow'
    exact hle
  · exact level_sound ((addHistory_only (P := Call.Level) trivial).bind fun _ => trivial) hpast

theorem responding_owes {p : MembershipM (Except Refusal α)}
    (hp : TierSound request (fun _ past _ => owed past = none) p past w) :
    TierSound request (fun _ past _ => owed past = none) (responding p) past w :=
  hp.tryCatch (fun _ _ _ h => h) fun _ _ _ h => sound_ret fun _ _ _ => h

theorem earnPoints_owes {request : EarnPointsRequest} (hpast : owed past = none) :
    TierSound (.earn request) (fun _ past _ => owed past = none) (earnPoints request) past w := by
  have hamount : 0 ≤ request.pointsAmount.1 := request.pointsAmount.2.le
  refine responding_owes ((getMembershipByUser_sound hpast).bind (fun found past w hfound => ?_)
    fun _ _ _ h => h.1)
  obtain ⟨hpast, hreaches⟩ := hfound
  cases found with
  | none => exact fun _ _ _ => hpast
  | some membership =>
    dsimp only
    cases membership.status.refusal with
    | some refusal => exact fun _ _ _ => hpast
    | none =>
      refine (addPoints_owes (finalPoints_nonneg membership.tierCode hamount) hamount hpast
        (hreaches membership rfl)).bind (fun updated past w hposted => ?_) fun _ _ _ h => h
      refine (addHistory_owes (hposted.owes.imp_right fun h => ⟨h.2.2.1, h.2.2.2, ?_⟩)
        hposted.reaches).bind (fun _ past' w' h => ?_) fun _ _ _ h => h
      · rintro _ ⟨⟩
        exact hposted.balance
      · obtain ⟨howed, hreaches⟩ := h
        have hid : updated.membershipId = membership.membershipId := hposted.same
        split
        · refine (upgradeTier_owes (hid ▸ hreaches) fun debt hdebt => ?_).bind
            (fun _ _ _ h _ _ _ => h) fun _ _ _ h => h
          rw [howed] at hdebt
          rcases hposted.owes with hnone | ⟨hsome, -⟩
          · rw [hnone] at hdebt
            exact absurd hdebt (not_mem_none _)
          · rw [hsome] at hdebt
            rw [hid]
            exact (some.inj hdebt).symm
        · next hsame =>
            refine fun _ _ _ => howed.trans ?_
            rcases hposted.owes with hnone | ⟨-, hne, -⟩
            · exact hnone
            · exact (hne (not_ne_iff.mp hsame).symm).elim

theorem enrollMembership_owes {request : EnrollMembershipRequest} (hpast : owed past = none) :
    TierSound (.enroll request) (fun _ past _ => owed past = none)
      (enrollMembership request) past w := by
  refine responding_owes ((level_sound (getMembershipByUser_only trivial) hpast).bind
    (fun existing past w hpast => ?_) fun _ _ _ h => h)
  cases existing with
  | some membership => exact fun _ _ _ => hpast
  | none =>
    have hbonus := calculateEnrollmentBonus_nonneg request.promoCode
    refine Sound.bind (Q := fun _ past _ => owed past = none) ?_
      (fun membership past w hpast => ?_) fun _ _ _ h => h
    · refine (level_sound (ask_only (c := .clock) trivial) hpast).bind
        (fun now past w hpast => ?_) fun _ _ _ h => h
      refine Sound.bind (Q := fun _ past _ => owed past = none) ?_
        (fun row past w hpast => level_sound (returned_only _ row) hpast) fun _ _ _ h => h
      exact sound_query (I := MembershipApi) (c := Call.insertMembership _ _)
        fun _ _ _ => ⟨⟨⟨hbonus, le_rfl, hbonus⟩, rfl⟩, fun _ _ _ _ => hpast⟩
    · exact level_sound ((addHistory_only (P := Call.Level) trivial).bind fun _ => trivial) hpast

theorem redeemPoints_level (request : RedeemPointsRequest) :
    (redeemPoints request).Only Call.Level := by
  refine responding_only ((getMembershipByUser_only trivial).bind fun found => ?_)
  cases found with
  | none => trivial
  | some membership =>
    dsimp only
    cases membership.status.refusal with
    | some refusal => trivial
    | none =>
      dsimp only
      split
      · trivial
      · refine Only.bind ?_ fun _ =>
          (addHistory_only (P := Call.Level) trivial).bind fun _ => trivial
        refine (getMembership_only trivial).bind fun found => ?_
        cases found with
        | none => trivial
        | some membership =>
          refine Only.bind only_require fun _ => ?_
          exact (ask_only (c := .deductPoints _ _) trivial).bind fun row => returned_only _ row

theorem cancelMembership_level (id : ℕ) (reason : Option PyStr) (forfeitPoints : Bool)
    (feedback : Option PyStr) :
    (cancelMembership id reason forfeitPoints feedback).Only Call.Level := by
  refine responding_only ((getMembership_only trivial).bind fun found => ?_)
  cases found with
  | none => trivial
  | some membership =>
    dsimp only
    split
    · trivial
    · exact (updateStatus_only trivial).bind fun _ =>
        (addHistory_only (P := Call.Level) trivial).bind fun _ => trivial

theorem serve_owes (request : Request) :
    TierSound request (fun _ past _ => owed past = none) request.serve [] w := by
  cases request with
  | earn request => exact sound_void (earnPoints_owes rfl)
  | enroll request => exact sound_void (enrollMembership_owes rfl)
  | redeem request => exact sound_void (level_sound (redeemPoints_level request) rfl)
  | cancel id reason forfeitPoints feedback =>
    exact sound_void (level_sound
      (cancelMembership_level id reason forfeitPoints feedback) rfl)
  | suspend id reason =>
    exact sound_void (level_sound
      (suspendMembership_only trivial (fun _ => trivial) (fun _ _ => trivial) reason) rfl)
  | reactivate id =>
    exact sound_void (level_sound
      (reactivateMembership_only trivial (fun _ => trivial) fun _ _ => trivial) rfl)

end Programs

/-! ### Runs -/

section Runs

variable {ι : Type*} [DecidableEq ι] {w : World} {requests : ι → Request}
  {pool pool' : PointsPool ι}

/-- **Tiers only rise, and follow the tier points**, as long as every tier is written upward and
the entries of the points that reach one are taken. Any number of calls run at the same time, in
any order of their statements, on tables where every tier is that of its points. -/
theorem tierFollows_of_upward (hvalid : w.Valid) (hadmitted : w.Admitted) (hw : w.TierFollows)
    (hpool : TierRun requests (PointsPool.resume w requests) pool)
    (hpool' : TierRun requests pool pool') :
    pool.state.Risen pool'.state ∧ (pool'.Idle → pool'.state.TierFollows) := by
  have hall : Pool.AllSound tierTerms handle (fun i _ => Upward (requests i))
      (fun _ => TierPromised) (fun _ _ past _ => owed past = none)
      (PointsPool.resume w requests) :=
    ⟨⟨hvalid, hadmitted, fun id row hrow => (hw id row hrow).le⟩,
      fun i => serve_owes (requests i)⟩
  have hlocal : ∀ (i : ι) (past : ι → PointsPast) (w : World) (c : Call),
      Upward (requests i) w c → Upward (requests i) w c := fun _ _ _ _ h => h
  have hkeeps : ∀ (i : ι) (past : PointsPast) (w : World) (c : Call), w.Capped →
      Upward (requests i) w c → TierPromised past w c →
        (handle c w).2.Capped ∧ w.Ascends (handle c w).2 :=
    fun _ _ _ _ hw hup hc => ⟨capped_handle hw hc, ascends_handle hw hc hup⟩
  have henv : ∀ w w' : World, w.Capped → Ticks w w' → w'.Capped ∧ w.Ascends w' := by
    rintro w _ hw ⟨clock, rfl⟩
    exact ⟨⟨⟨hw.rows, hw.issued⟩, ⟨hw.inRange, hw.indexed⟩, hw.capped⟩, tierTerms.rel_refl w⟩
  have hsound := hpool.sound hall hlocal hkeeps henv
  refine ⟨fun id row hrow => ?_, fun hidle => ?_⟩
  · obtain ⟨row', hrow', -, htier⟩ := hpool'.later hsound hlocal hkeeps henv id row hrow
    exact ⟨row', hrow', htier⟩
  · have hend := hpool'.sound hsound hlocal hkeeps henv
    have howing : Owing pool'.state pool'.past := by
      refine (hpool.trans hpool').invariant hall hlocal hkeeps henv Owing
        (fun id row hrow => .inl (hw id row hrow)) ?_ ?_
      · rintro w _ past ⟨clock, rfl⟩ h
        exact h
      · exact fun i past w c hi hup hc h => owing_handle hi hc hup h
    have hnone : ∀ i, owed (pool'.past i) = none := fun i => by
      rcases hidle i with hpast | hended
      · rw [hpast]
        rfl
      · cases hprog : pool'.progs i with
        | ret u => exact hend.of_ret hprog
        | raise e => exact hend.of_raise hprog
        | call c k =>
          rw [hprog] at hended
          exact hended.elim
    intro id row hrow
    rcases howing id row hrow with h | ⟨i, hi⟩
    · exact h
    · rw [hnone i] at hi
      cases hi

end Runs

/-! ### Two thresholds -/

def nearSilverRow : MembershipRow :=
  { userId := ['u'], organizationId := none, tierCode := .bronze, pointsBalance := 0
    tierPoints := 4990, lifetimePoints := 0, enrollmentSource := none, promoCode := none
    createdAt := 0 }

theorem tierFollows_nearSilver : (single nearSilverRow).TierFollows := by
  intro id row hrow
  rw [(mem_single hrow).2]
  decide

def twoEarnings : Fin 2 → Request
  | 0 => .earn { userId := ['u'], pointsAmount := ⟨10, tenPoints_pos⟩, source := ['s'] }
  | 1 => .earn { userId := ['u'], pointsAmount := ⟨20000, by decide⟩, source := ['s'] }

def goldWritten : PointsPool (Fin 2) :=
  (PointsPool.resume (.single nearSilverRow) twoEarnings).schedule handle [0, 1, 0, 0, 1, 1, 1, 1]

def silverWritten : PointsPool (Fin 2) := goldWritten.schedule handle [0, 0]

/-- Silver is written after gold, and stays. -/
theorem not_tierFollows_late :
    Pool.Reach handle Ticks Pool.anyCall (PointsPool.resume (.single nearSilverRow) twoEarnings)
        goldWritten ∧
      Pool.Reach handle Ticks Pool.anyCall goldWritten silverWritten ∧
      silverWritten.Idle ∧
      ¬silverWritten.state.TierFollows ∧
      ¬goldWritten.state.Risen silverWritten.state := by
  have hgold : ∃ row ∈ goldWritten.state.memberships 0, row.tierCode = .gold := by
    decide +kernel
  have hsilver : ∃ row ∈ silverWritten.state.memberships 0,
      row.tierCode = .silver ∧ calculateTier row.tierPoints = .gold := by decide +kernel
  obtain ⟨row, hrow, hbefore⟩ := hgold
  obtain ⟨row', hrow', hafter, hpoints⟩ := hsilver
  refine ⟨Pool.Reach.start.schedule (Pool.permitted_anyCall _ _ _),
    Pool.Reach.start.schedule (Pool.permitted_anyCall _ _ _), by decide +kernel,
    fun h => ?_, fun h => ?_⟩
  · have hfollows := h 0 row' hrow'
    rw [hafter, hpoints] at hfollows
    cases hfollows
  · obtain ⟨row'', hrow'', hle⟩ := h 0 row hrow
    obtain rfl := mem_unique hrow' hrow''
    rw [hbefore, hafter] at hle
    exact absurd hle (by decide)

/-- Silver is written before gold. -/
theorem tierFollows_inOrder :
    ((PointsPool.resume (.single nearSilverRow) twoEarnings).schedule handle
      [0, 1, 0, 0, 1, 1, 0, 0, 1, 1]).state.TierFollows :=
  (tierFollows_of_upward (valid_single ⟨le_rfl, by decide, le_rfl⟩)
    (admitted_single (by decide)) tierFollows_nearSilver .start
    (Pool.Reach.start.schedule (by decide +kernel))).2 (by decide +kernel)

end IsaUser.Memberships
