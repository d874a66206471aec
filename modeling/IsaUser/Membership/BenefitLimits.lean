import IsaUser.Membership.Benefits

/-!
# Benefits Are Used Within Their Limits

Counting the uses of a benefit and recording another one are two calls, and what fails counts as
no uses. The limit of zero is no limit, and `get_benefits` and `use_benefit` take a missing limit
differently.
-/

open IsaUser.Prog List Option

namespace IsaUser.Memberships.Benefits

/-! ### The laws -/

abbrev BenefitPast := Past (BenefitApi.fallible StorageError) Moment

abbrev BenefitPool (ι : Type*) := Pool (BenefitApi.fallible StorageError) BenefitError Unit ι Moment

def BenefitPool.start {ι : Type*} (s : Moment) (uses : ι → ℕ × PyStr) : BenefitPool ι :=
  Pool.start s fun i => (useBenefit (uses i).1 (uses i).2).void

def foundBenefit (benefitCode : PyStr) : BenefitPast → Option TierBenefit
  | [] => none
  | ((s, _), .selectTierBenefits tier) :: _ =>
    (s.benefitsOf tier).find? (·.benefitCode = benefitCode)
  | _ :: past => foundBenefit benefitCode past

/-- Whenever a call has recorded the use of a limited benefit, no more uses were recorded than the
limit that it has found. -/
def WithinLimits : BenefitPast → Prop
  | [] => True
  | ((s, link), .insertUsage id code) :: past =>
    (link ≠ .down → ∀ benefit ∈ foundBenefit code past, benefit.isUnlimited = false →
      ∀ limit ∈ benefit.usageLimit, (s.used id code : ℤ) + 1 ≤ limit) ∧ WithinLimits past
  | _ :: past => WithinLimits past

/-- `get_benefits` reports the benefit as available. -/
def Reported (s : BenefitStore) (membershipId : ℕ) (benefitCode : PyStr) : Prop :=
  match ((getBenefits membershipId).run handle (s, .up)).1 with
  | .ok (.ok (_, usages)) => ∃ usage ∈ usages, usage.benefitCode = benefitCode ∧ usage.isAvailable
  | _ => False

/-- `use_benefit` uses it. -/
def Accepted (s : BenefitStore) (membershipId : ℕ) (benefitCode : PyStr) : Prop :=
  match ((useBenefit membershipId benefitCode).run handle (s, .up)).1 with
  | .ok (.ok _) => True
  | _ => False

instance WithinLimits.decidable : (past : BenefitPast) → Decidable (WithinLimits past)
  | [] => .isTrue trivial
  | (_, .insertUsage _ code) :: past =>
    have := WithinLimits.decidable past
    inferInstanceAs (Decidable ((_ → ∀ benefit ∈ foundBenefit code past, _ →
      ∀ limit ∈ benefit.usageLimit, _) ∧ _))
  | (_, .selectMembership _) :: past | (_, .selectTierBenefits _) :: past
  | (_, .countUsage _ _) :: past => WithinLimits.decidable past

/-! ### The conditions -/

def CountedAs (membershipId : ℕ) (benefitCode : PyStr) (n : ℕ) : Moment × Call → Prop
  | ((s, .up), .countUsage id code) =>
    id = membershipId ∧ code = benefitCode ∧ s.used membershipId benefitCode = n
  | _ => False

def Spared (past : BenefitPast) (s : Moment) : Call → Prop
  | .insertUsage id code => s.2 ≠ .down → ∀ benefit ∈ foundBenefit code past,
      benefit.isUnlimited = false → ∀ limit ∈ benefit.usageLimit,
        (∃ e ∈ past, CountedAs id code (s.1.used id code) e) ∨ (s.1.used id code : ℤ) < limit
  | _ => True

instance (membershipId : ℕ) (benefitCode : PyStr) (n : ℕ) :
    DecidablePred (CountedAs membershipId benefitCode n)
  | ((_, .up), .countUsage _ _) => inferInstanceAs (Decidable (_ ∧ _ ∧ _))
  | ((_, .up), .selectMembership _) | ((_, .up), .selectTierBenefits _)
  | ((_, .up), .insertUsage _ _) | ((_, .down), _) | ((_, .lost), _) => .isFalse id

instance (past : BenefitPast) (s : Moment) : DecidablePred (Spared past s)
  | .insertUsage _ code =>
    inferInstanceAs (Decidable (_ → ∀ benefit ∈ foundBenefit code past, _ →
      ∀ limit ∈ benefit.usageLimit, (∃ e ∈ past, _) ∨ _))
  | .selectMembership _ | .selectTierBenefits _ | .countUsage _ _ => .isTrue trivial

def Shifts (s s' : Moment) : Prop := s'.1.benefits = s.1.benefits ∧ s'.1.uses = s.1.uses

abbrev BenefitRun {ι : Type*} [DecidableEq ι] : BenefitPool ι → BenefitPool ι → Prop :=
  Pool.Reach handle Shifts fun i past => Spared (past i)

def BenefitStore.member (s : BenefitStore) (membershipId : ℕ) : Option Membership :=
  (s.memberships membershipId).bind (MembershipRow.toMembership membershipId)

def BenefitStore.benefitOf (s : BenefitStore) (membership : Membership) (benefitCode : PyStr) :
    Option TierBenefit :=
  (s.benefitsOf membership.tierCode).find? (·.benefitCode = benefitCode)

def TierBenefit.Left (benefit : TierBenefit) (usageCount : ℕ) : Prop :=
  benefit.isUnlimited = true ∨ ∃ limit ∈ benefit.limit, (usageCount : ℤ) < limit

def Alike (s : BenefitStore) (membershipId : ℕ) (benefitCode : PyStr) : Prop :=
  ∀ membership ∈ s.member membershipId, ∀ benefit ∈ s.benefitOf membership benefitCode,
    (membership.status = .active → benefit.isUnlimited = true ∨ benefit.limit.isSome) ∧
      (membership.status ≠ .active → ¬benefit.Left (s.used membershipId benefitCode))

/-! ### The two methods without failures -/

section Views

variable {s : BenefitStore} {id : ℕ} {code : PyStr} {α β : Type} {membership : Membership}

theorem run_ask (c : Call) : (ask c).run handle (s, .up) =
    (.ok (execute c s).1, ((execute c s).2, .up)) := rfl

theorem run_getTierBenefits (tier : MembershipTier) :
    (getTierBenefits tier).run handle (s, .up) = (.ok (s.benefitsOf tier), (s, .up)) :=
  run_tryCatch_of_ok (run_ask (.selectTierBenefits tier))

theorem run_getBenefitUsage :
    (getBenefitUsage id code).run handle (s, .up) = (.ok (s.used id code), (s, .up)) :=
  run_tryCatch_of_ok (run_ask (.countUsage id code))

theorem run_getUsages (benefits : List TierBenefit) :
    (getUsages id benefits).run handle (s, .up) =
      (.ok (benefits.map fun benefit => benefit.usage (s.used id benefit.benefitCode)),
        (s, .up)) := by
  induction benefits with
  | nil => rfl
  | cons benefit benefits ih =>
    rw [getUsages, run_bind_of_ok run_getBenefitUsage, run_bind_of_ok ih]
    rfl

theorem run_exceeded (benefit : TierBenefit) :
    (exceeded id benefit).run handle (s, .up) =
      (.ok (decide (∃ limit ∈ benefit.limit, limit ≤ (s.used id benefit.benefitCode : ℤ))),
        (s, .up)) := by
  rw [exceeded]
  cases hlimit : benefit.limit with
  | none => simp
  | some limit =>
    rw [run_bind_of_ok run_getBenefitUsage]
    simp

theorem run_remainingUses (benefit : TierBenefit) :
    ∃ remaining, (remainingUses id benefit).run handle (s, .up) = (.ok remaining, (s, .up)) := by
  rw [remainingUses]
  cases benefit.limit with
  | none => exact ⟨none, rfl⟩
  | some limit =>
    exact ⟨_, rfl⟩

theorem run_getMembership (id : ℕ) :
    (getMembership id).run handle (s, .up) = (.ok (s.member id), (s, .up)) ∨
      s.member id = none ∧
        (getMembership id).run handle (s, .up) = (.error .validationError, (s, .up)) := by
  rw [getMembership, run_bind_of_ok (run_ask (.selectMembership id))]
  simp only [execute, BenefitStore.member]
  cases s.memberships id with
  | none => exact .inl rfl
  | some row =>
    simp only [map_some, bind_some]
    cases row.toMembership id with
    | none => exact .inr ⟨rfl, rfl⟩
    | some membership => exact .inl rfl

theorem member_id (h : membership ∈ s.member id) : membership.membershipId = id := by
  obtain ⟨row, -, hread⟩ := bind_eq_some_iff.mp h
  rw [MembershipRow.toMembership, ite_none_right_eq_some] at hread
  rw [← some.inj hread.2]

theorem benefitOf_eq_some {benefit : TierBenefit} :
    s.benefitOf membership code = some benefit ↔
      benefit ∈ s.benefitsOf membership.tierCode ∧ benefit.benefitCode = code := by
  constructor
  · intro h
    exact ⟨mem_of_find?_eq_some h, by simpa using find?_some h⟩
  · rintro ⟨hmem, rfl⟩
    rw [BenefitStore.benefitOf]
    cases hfind : (s.benefitsOf membership.tierCode).find?
        (·.benefitCode = benefit.benefitCode) with
    | none =>
      rw [find?_eq_none] at hfind
      exact absurd (decide_eq_true rfl) (hfind benefit hmem)
    | some other =>
      obtain ⟨hrow, htier⟩ := mem_filter.mp hmem
      obtain ⟨hrow', htier'⟩ := mem_filter.mp (mem_of_find?_eq_some hfind)
      have hcode : other.benefitCode = benefit.benefitCode := by
        simpa using find?_some hfind
      have hsame : other.tierCode = benefit.tierCode := by
        rw [(of_decide_eq_true htier').1, (of_decide_eq_true htier).1]
      exact congrArg some (inj_on_of_nodup_map s.benefits.unique hrow' hrow
        (Prod.ext hsame hcode))

theorem isAvailable_iff (benefit : TierBenefit) (n : ℕ) :
    (benefit.usage n).isAvailable = true ↔ benefit.Left n := by
  rw [TierBenefit.usage, TierBenefit.Left]
  cases benefit.limit with
  | none => simp
  | some limit => simp

theorem run_getMembership_of_some (h : s.member id = some membership) :
    (getMembership id).run handle (s, .up) = (.ok (some membership), (s, .up)) := by
  rcases run_getMembership (s := s) id with hread | ⟨hnone, -⟩
  · rwa [h] at hread
  · rw [h] at hnone
    cases hnone

theorem fst_responding {p : BenefitM (Except BenefitRefusal α)} {r : Except BenefitRefusal α}
    {m t : Moment} (h : p.run handle m = (.ok r, t)) : ((responding p).run handle m).1 = .ok r :=
  congrArg Prod.fst (run_tryCatch_of_ok h)

theorem getBenefits_of_none (h : s.member id = none) :
    ∃ refusal, ((getBenefits id).run handle (s, .up)).1 = .ok (.error refusal) := by
  rcases run_getMembership (s := s) id with hread | ⟨-, hread⟩
  · rw [h] at hread
    exact ⟨.membershipNotFound, congrArg Prod.fst
      (run_tryCatch_of_ok (run_bind_of_ok hread))⟩
  · exact ⟨.error .validationError, congrArg Prod.fst
      (run_tryCatch_of_error (run_bind_of_error hread))⟩

theorem getBenefits_of_some (h : s.member id = some membership) :
    ((getBenefits id).run handle (s, .up)).1 = .ok (.ok (membership.tierCode,
      (s.benefitsOf membership.tierCode).map fun benefit =>
        benefit.usage (s.used id benefit.benefitCode))) := by
  refine fst_responding (t := (s, .up)) ?_
  rw [run_bind_of_ok (run_getMembership_of_some h)]
  rw [run_bind_of_ok (run_getTierBenefits membership.tierCode), member_id h,
    run_bind_of_ok (run_getUsages _)]
  rfl

theorem reported_iff : Reported s id code ↔ ∃ membership ∈ s.member id,
    ∃ benefit ∈ s.benefitOf membership code, benefit.Left (s.used id code) := by
  rw [Reported]
  cases h : s.member id with
  | none =>
    obtain ⟨refusal, hrun⟩ := getBenefits_of_none h
    rw [hrun]
    simp
  | some membership =>
    rw [getBenefits_of_some h]
    simp only [mem_def, some.injEq, exists_eq_left']
    constructor
    · rintro ⟨usage, husage, hcode, havailable⟩
      obtain ⟨benefit, hbenefit, rfl⟩ := mem_map.mp husage
      refine ⟨benefit, benefitOf_eq_some.mpr ⟨hbenefit, hcode⟩, ?_⟩
      rw [← hcode]
      exact (isAvailable_iff benefit _).mp havailable
    · rintro ⟨benefit, hbenefit, hleft⟩
      obtain ⟨hmem, rfl⟩ := benefitOf_eq_some.mp hbenefit
      exact ⟨_, mem_map.mpr ⟨benefit, hmem, rfl⟩, rfl, (isAvailable_iff benefit _).mpr hleft⟩

theorem useBenefit_of_refused (h : ∀ membership ∈ s.member id, membership.status = .active →
      ∀ benefit ∈ s.benefitOf membership code,
        ∃ limit ∈ benefit.limit, limit ≤ (s.used id code : ℤ)) :
    ∃ refusal, ((useBenefit id code).run handle (s, .up)).1 = .ok (.error refusal) := by
  cases hmember : s.member id with
  | none =>
    rcases run_getMembership (s := s) id with hread | ⟨-, hread⟩
    · rw [hmember] at hread
      exact ⟨.membershipNotFound, congrArg Prod.fst
        (run_tryCatch_of_ok (run_bind_of_ok hread))⟩
    · exact ⟨.error .validationError, congrArg Prod.fst
        (run_tryCatch_of_error (run_bind_of_error hread))⟩
  | some membership =>
    have hread := run_getMembership_of_some hmember
    by_cases hactive : membership.status = .active
    · cases hfind : s.benefitOf membership code with
      | none =>
        refine ⟨.notAtTier, fst_responding (t := (s, .up)) ?_⟩
        rw [run_bind_of_ok hread]
        dsimp only
        rw [if_neg (not_not.mpr hactive), run_bind_of_ok (run_getTierBenefits _),
          show find? _ _ = none from hfind]
        rfl
      | some benefit =>
        have hcode := (benefitOf_eq_some.mp hfind).2
        refine ⟨.limitExceeded, fst_responding (t := (s, .up)) ?_⟩
        rw [run_bind_of_ok hread]
        dsimp only
        rw [if_neg (not_not.mpr hactive), run_bind_of_ok (run_getTierBenefits _),
          show find? _ _ = some benefit from hfind]
        rw [run_bind_of_ok (run_exceeded benefit), hcode,
          decide_eq_true (h membership hmember hactive benefit hfind)]
        rfl
    · refine ⟨.notActive membership.status, fst_responding (t := (s, .up)) ?_⟩
      rw [run_bind_of_ok hread]
      dsimp only
      rw [if_pos hactive]
      rfl

theorem useBenefit_of_accepted {benefit : TierBenefit} (h : s.member id = some membership)
    (hactive : membership.status = .active) (hbenefit : s.benefitOf membership code = some benefit)
    (hleft : ∀ limit ∈ benefit.limit, (s.used id code : ℤ) < limit) :
    ∃ remaining, ((useBenefit id code).run handle (s, .up)).1 = .ok (.ok remaining) := by
  have hcode := (benefitOf_eq_some.mp hbenefit).2
  have hnot : ¬∃ limit ∈ benefit.limit, limit ≤ (s.used id code : ℤ) := by
    rintro ⟨limit, hlimit, hle⟩
    have := hleft limit hlimit
    omega
  let recorded : BenefitStore := { s with uses := s.uses ++ [(id, code)] }
  obtain ⟨remaining, hremaining⟩ :=
    run_remainingUses (s := recorded) benefit
  have hrecord : (recordBenefitUsage id code).run handle (s, .up) = (.ok (), (recorded, .up)) := rfl
  refine ⟨remaining, fst_responding (t := (recorded, .up)) ?_⟩
  rw [run_bind_of_ok (run_getMembership_of_some h)]
  dsimp only
  rw [if_neg (not_not.mpr hactive), run_bind_of_ok (run_getTierBenefits _),
    show find? _ _ = some benefit from hbenefit]
  rw [run_bind_of_ok (run_exceeded benefit), hcode, decide_eq_false hnot]
  rw [if_neg Bool.false_ne_true, run_bind_of_ok hrecord, run_bind_of_ok hremaining]
  rfl

theorem accepted_iff : Accepted s id code ↔ ∃ membership ∈ s.member id,
    membership.status = .active ∧ ∃ benefit ∈ s.benefitOf membership code,
      ∀ limit ∈ benefit.limit, (s.used id code : ℤ) < limit := by
  rw [Accepted]
  by_cases hleft : ∃ membership ∈ s.member id,
    membership.status = .active ∧ ∃ benefit ∈ s.benefitOf membership code,
      ∀ limit ∈ benefit.limit, (s.used id code : ℤ) < limit
  · obtain ⟨membership, h, hactive, benefit, hbenefit, hlimit⟩ := hleft
    obtain ⟨remaining, hrun⟩ := useBenefit_of_accepted h hactive hbenefit hlimit
    rw [hrun]
    exact iff_of_true trivial ⟨membership, h, hactive, benefit, hbenefit, hlimit⟩
  · have hrefused := useBenefit_of_refused (s := s)
      fun membership h hactive benefit hbenefit => by
        by_contra hno
        refine hleft ⟨membership, h, hactive, benefit, hbenefit, fun limit hlimit => ?_⟩
        exact not_le.mp fun hle => hno ⟨limit, hlimit, hle⟩
    obtain ⟨refusal, hrun⟩ := hrefused
    rw [hrun]
    exact iff_of_false (fun h => h) hleft

/-- **The two methods agree** exactly where they take the benefit alike. -/
theorem agree_iff (s : BenefitStore) (id : ℕ) (code : PyStr) :
    (Accepted s id code ↔ Reported s id code) ↔ Alike s id code := by
  rw [accepted_iff, reported_iff, Alike]
  cases hmember : s.member id with
  | none => simp
  | some membership =>
    cases hbenefit : s.benefitOf membership code with
    | none => simp [hbenefit]
    | some benefit =>
      simp only [mem_def, some.injEq, exists_eq_left', forall_eq', hbenefit]
      by_cases hactive : membership.status = .active
      · simp only [hactive, TierBenefit.Left]
        by_cases hunlimited : benefit.isUnlimited = true
        · simp [hunlimited, TierBenefit.limit]
        · cases hlimit : benefit.limit <;> simp [hunlimited]
      · simp [hactive]

end Views

/-! ### The calls -/

section Calls

variable {past : BenefitPast} {s : Moment} {α : Type}

def UsePromised (past : BenefitPast) : Call → Prop
  | .insertUsage id code => ∀ benefit ∈ foundBenefit code past, benefit.isUnlimited = false →
      ∀ limit ∈ benefit.usageLimit, ∀ n, ∀ e ∈ past, CountedAs id code n e → (n : ℤ) < limit
  | _ => True

/-- A program keeps its promises, and ends as `Q` says. -/
abbrev UseSound (Q : Except BenefitError α → BenefitPast → Prop) (p : BenefitM α) :
    BenefitPast → Moment → Prop :=
  p.Sound (.ofInv fun _ => True) handle Spared (fun past _ c => UsePromised past c)
    fun r past _ => Q r past

def Uncounted (past : BenefitPast) : Prop := ∀ id code n, ∀ e ∈ past, ¬CountedAs id code n e

theorem Uncounted.cons (h : Uncounted past) {c : Call} (hc : ∀ id code, c ≠ .countUsage id code) :
    Uncounted ((s, c) :: past) := by
  intro id code n e he hcounted
  rcases mem_cons.mp he with rfl | he
  · cases c with
    | countUsage id' code' => exact hc id' code' rfl
    | _ =>
      obtain ⟨store, link⟩ := s
      cases link <;> exact hcounted
  · exact h id code n e he hcounted

theorem reads_sound {p : BenefitM α}
    (hp : p.Only fun c : Call => ∀ id code, c ≠ .insertUsage id code) :
    UseSound (fun _ _ => True) p past s := by
  refine hp.sound (K := fun _ => True) trivial fun c hc past s _ => ⟨?_, trivial⟩
  cases c with
  | insertUsage id code => exact (hc id code rfl).elim
  | _ => trivial

theorem getMembership_sound {id : ℕ} (hpast : Uncounted past) :
    UseSound (fun _ past => Uncounted past) (getMembership id) past s := by
  refine Sound.bind (Q := fun _ past _ => Uncounted past) ?_ (fun row past s hpast => ?_)
    fun _ _ _ h => h
  · exact sound_query (I := BenefitApi) (c := Call.selectMembership id)
      fun _ _ _ => ⟨trivial, fun _ _ _ _ => hpast.cons fun _ _ => nofun⟩
  · cases row with
    | none => exact fun _ _ _ => hpast
    | some e =>
      obtain ⟨id, row⟩ := e
      dsimp only
      cases row.toMembership id <;> exact fun _ _ _ => hpast

theorem getTierBenefits_sound {tier : MembershipTier} (code : PyStr) (hpast : Uncounted past) :
    UseSound (fun r past => Uncounted past ∧ ∀ benefits, r = .ok benefits →
        ∀ benefit ∈ benefits.find? (·.benefitCode = code), foundBenefit code past = some benefit)
      (getTierBenefits tier) past s := by
  refine Sound.tryCatch (Q := fun r past _ => Uncounted past ∧ ∀ benefits, r = .ok benefits →
    ∀ benefit ∈ benefits.find? (·.benefitCode = code), foundBenefit code past = some benefit)
    (sound_query (I := BenefitApi) (c := Call.selectTierBenefits tier) fun s' _ _ =>
      ⟨trivial, fun _ _ _ _ =>
        ⟨hpast.cons fun _ _ => nofun, fun benefits h benefit hbenefit => ?_⟩⟩)
    (fun _ _ _ h => h) fun _ _ _ h _ _ _ => ⟨h.1, ?_⟩
  · obtain ⟨store, link⟩ := s'
    cases link with
    | up =>
      obtain rfl : store.benefitsOf tier = benefits := Except.ok.inj h
      exact hbenefit
    | down => cases h
    | lost => cases h
  · rintro _ ⟨⟩ benefit hbenefit
    exact absurd hbenefit (not_mem_none _)

theorem limit_eq_some {benefit : TierBenefit} (hlimited : benefit.isUnlimited = false) {limit : ℤ}
    (hlimit : limit ∈ benefit.usageLimit) :
    benefit.limit = if limit = 0 then none else some limit := by
  rw [TierBenefit.limit, if_neg (by simp [hlimited]), mem_def.mp hlimit]
  by_cases hzero : limit = 0 <;> simp [hzero]

def Below (benefit : TierBenefit) (id : ℕ) (past : BenefitPast) : Prop :=
  benefit.isUnlimited = false → ∀ limit ∈ benefit.usageLimit, ∀ n, ∀ e ∈ past,
    CountedAs id benefit.benefitCode n e → (n : ℤ) < limit

theorem exceeded_sound {id : ℕ} {benefit : TierBenefit} {code : PyStr} (hpast : Uncounted past)
    (hfound : foundBenefit code past = some benefit) :
    UseSound (fun r past => foundBenefit code past = some benefit ∧
      (r = .ok false → Below benefit id past)) (exceeded id benefit) past s := by
  rw [exceeded]
  cases hlimit : benefit.limit with
  | none => exact fun _ _ _ => ⟨hfound, fun _ _ _ _ n e he h => (hpast _ _ n e he h).elim⟩
  | some bound =>
    have hbound : ∀ limit ∈ benefit.usageLimit, benefit.isUnlimited = false → limit = bound := by
      intro limit hmem hlimited
      have heq := limit_eq_some hlimited hmem
      rw [hlimit] at heq
      split at heq
      · cases heq
      · exact (some.inj heq).symm
    refine Sound.bind (Q := fun r past _ => foundBenefit code past = some benefit ∧
      ∀ m, r = .ok m → ∀ n, ∀ e ∈ past, CountedAs id benefit.benefitCode n e → n = m) ?_
      (fun m past s h _ _ _ => ⟨h.1, fun hfalse hlimited limit hmem n e he hcounted => ?_⟩)
      fun _ _ _ h => ⟨h.1, fun h => by cases h⟩
    · refine Sound.tryCatch (Q := fun r past _ => foundBenefit code past = some benefit ∧
        match r with
        | .ok m => ∀ n, ∀ e ∈ past, CountedAs id benefit.benefitCode n e → n = m
        | .error _ => Uncounted past)
        (sound_query (I := BenefitApi) (c := Call.countUsage id benefit.benefitCode)
          fun s' _ _ => ⟨trivial, fun _ _ _ _ => ⟨hfound, ?_⟩⟩)
        (fun _ _ _ h => ⟨h.1, fun m hm => by cases hm; exact h.2⟩)
        fun _ _ _ h _ _ _ => ⟨h.1, fun _ _ n e he hcounted => (h.2 _ _ n e he hcounted).elim⟩
      -- A count that is not answered counts as none, and as no uses.
      have hunanswered : ∀ store link, link ≠ .up →
          Uncounted (((store, link), .countUsage id benefit.benefitCode) :: past) :=
        fun store link hlink id' code' n e he hcounted => by
          rcases mem_cons.mp he with rfl | he
          · cases link with
            | up => exact hlink rfl
            | down => exact hcounted
            | lost => exact hcounted
          · exact hpast id' code' n e he hcounted
      obtain ⟨store, link⟩ := s'
      cases link with
      | up =>
        intro n e he hcounted
        rcases mem_cons.mp he with rfl | he
        · exact hcounted.2.2.symm
        · exact (hpast _ _ n e he hcounted).elim
      | down => exact hunanswered store .down nofun
      | lost => exact hunanswered store .lost nofun
    · have hm := h.2 m rfl n e he hcounted
      have hlt : ¬bound ≤ (m : ℤ) := of_decide_eq_false (Except.ok.inj hfalse)
      rw [hbound limit hmem hlimited]
      omega

theorem useBenefit_sound (id : ℕ) (code : PyStr) :
    UseSound (fun _ _ => True) (useBenefit id code) [] s := by
  refine Sound.tryCatch (Q := fun _ _ _ => True) ?_ (fun _ _ _ _ => trivial)
    fun _ _ _ _ _ _ _ => trivial
  refine (getMembership_sound fun _ _ _ _ he => absurd he not_mem_nil).bind
    (fun found past s hpast => ?_) fun _ _ _ _ => trivial
  cases found with
  | none => exact fun _ _ _ => trivial
  | some membership =>
    dsimp only
    split
    · exact fun _ _ _ => trivial
    · refine (getTierBenefits_sound code hpast).bind (fun tierBenefits past s h => ?_)
        fun _ _ _ _ => trivial
      obtain ⟨hpast, hfound⟩ := h
      cases hbenefit : tierBenefits.find? (·.benefitCode = code) with
      | none => exact fun _ _ _ => trivial
      | some benefit =>
        have hcode : benefit.benefitCode = code := by simpa using find?_some hbenefit
        refine (exceeded_sound hpast (hfound _ rfl benefit hbenefit)).bind
          (fun exceeded past s h => ?_) fun _ _ _ _ => trivial
        cases exceeded with
        | true => exact fun _ _ _ => trivial
        | false =>
          obtain ⟨hfound, hbelow⟩ := h
          refine Sound.bind (Q := fun _ _ _ => True)
            (sound_query (I := BenefitApi) (c := Call.insertUsage id code)
              fun _ _ _ => ⟨?_, fun _ _ _ _ => trivial⟩) (fun _ past s _ => ?_)
            fun _ _ _ _ => trivial
          · intro benefit' hbenefit'
            obtain rfl := mem_unique hfound hbenefit'
            rw [← hcode]
            exact hbelow rfl
          · refine reads_sound (Only.bind ?_ fun _ => trivial)
            rw [remainingUses]
            cases benefit.limit with
            | none => trivial
            | some limit =>
              refine Only.bind (Only.tryCatch ?_ fun _ => trivial)
                fun _ => trivial
              exact only_query (I := BenefitApi) fun _ _ => nofun

theorem withinLimits_cons {c : Call} (hc : UsePromised past c) (hspared : Spared past s c)
    (hpast : WithinLimits past) : WithinLimits ((s, c) :: past) := by
  cases c with
  | insertUsage id code =>
    refine ⟨fun hlink benefit hbenefit hlimited limit hlimit => ?_, hpast⟩
    have hlt : (s.1.used id code : ℤ) < limit := by
      rcases hspared hlink benefit hbenefit hlimited limit hlimit with ⟨e, he, hcounted⟩ | hleft
      · exact hc benefit hbenefit hlimited limit hlimit _ e he hcounted
      · exact hleft
    omega
  | _ => exact hpast

end Calls

/-! ### Runs -/

/-- **Benefits are used within their limits** as long as every use is spared, whatever calls fail
and however memberships change; and a benefit is used exactly where it is reported as available,
if and only if both methods take it alike. -/
theorem benefits_of_spared {ι : Type*} [DecidableEq ι] {s : Moment} {uses : ι → ℕ × PyStr}
    {pool : BenefitPool ι} (hpool : BenefitRun (BenefitPool.start s uses) pool) :
    (∀ i, WithinLimits (pool.past i)) ∧
      ∀ store id code, (Accepted store id code ↔ Reported store id code) ↔ Alike store id code := by
  refine ⟨?_, agree_iff⟩
  have hall : Pool.AllSound (.ofInv fun _ => True) handle (fun _ => Spared)
      (fun _ past _ => UsePromised past) (fun _ _ _ _ => True) (BenefitPool.start s uses) :=
    ⟨trivial, fun i => sound_void (useBenefit_sound (uses i).1 (uses i).2)⟩
  refine hpool.invariant hall (fun _ _ _ _ h => h) (fun _ _ _ _ _ _ _ => ⟨trivial, trivial⟩)
    (fun _ _ _ _ => ⟨trivial, trivial⟩) (fun _ past => ∀ i, WithinLimits (past i))
    (fun _ => trivial) (fun _ _ _ _ h => h) fun i past s c _ hspared hc h j => ?_
  by_cases hji : j = i
  · subst hji
    rw [Function.update_self]
    exact withinLimits_cons hc hspared (h j)
  · rw [Function.update_of_ne hji]
    exact h j

/-! ### A use too many -/

def shipping : TierBenefit :=
  { tierCode := .silver, benefitCode := ['s'], benefitName := [], benefitType := []
    usageLimit := some 1 }

def silverStore (benefit : TierBenefit) : BenefitStore :=
  { memberships := fun _ => some { userId := ['u'], organizationId := none, tierCode := .silver
                                   pointsBalance := 0, lifetimePoints := 0, enrollmentSource := none
                                   promoCode := none, createdAt := 0 }
    benefits := ⟨[benefit], List.nodup_singleton _⟩
    uses := [] }

def twoUses (_ : Fin 2) : ℕ × PyStr := (0, ['s'])

def counted : BenefitPool (Fin 2) :=
  (BenefitPool.start (silverStore shipping, .up) twoUses).schedule handle
    [0, 1, 0, 1, 0, 1, 0, 1, 0, 1]

/-- The benefit is used twice; and one without a limit is used, though it is reported as not
available. -/
theorem not_benefits_counted :
    (Pool.Reach handle Shifts Pool.anyCall
        (BenefitPool.start (silverStore shipping, .up) twoUses) counted ∧
      ¬WithinLimits (counted.past 1)) ∧
    ¬(Accepted (silverStore { shipping with usageLimit := none }) 0 ['s'] ↔
      Reported (silverStore { shipping with usageLimit := none }) 0 ['s']) := by
  refine ⟨⟨Pool.Reach.start.schedule (Pool.permitted_anyCall _ _ _), by decide +kernel⟩,
    fun h => ?_⟩
  have hwithout : ∃ membership ∈ (silverStore { shipping with usageLimit := none }).member 0,
      ∃ benefit ∈ (silverStore { shipping with usageLimit := none }).benefitOf membership ['s'],
        membership.status = .active ∧ ¬(benefit.isUnlimited = true ∨ benefit.limit.isSome) := by
    decide +kernel
  obtain ⟨membership, hmembership, benefit, hbenefit, hactive, hlimit⟩ := hwithout
  exact hlimit (((agree_iff _ _ _).mp h membership hmembership benefit hbenefit).1 hactive)

def countedInTurn : BenefitPool (Fin 2) :=
  (BenefitPool.start (silverStore shipping, .up) twoUses).schedule handle
    [0, 1, 0, 1, 0, 0, 1, 0, 1]

theorem benefits_inTurn :
    WithinLimits (countedInTurn.past 0) ∧ WithinLimits (countedInTurn.past 1) := by
  have hlimits := (benefits_of_spared (Pool.Reach.start.schedule (by decide +kernel)) :
    (∀ i, WithinLimits (countedInTurn.past i)) ∧ _).1
  exact ⟨hlimits 0, hlimits 1⟩

end IsaUser.Memberships.Benefits
