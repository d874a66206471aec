import IsaUser.Membership.Model

/-!
# The Benefits of a Membership

A tier has benefits, some of them with a limit of uses. `use_benefit` counts the uses of a benefit
before it records another one, and a count that fails is no uses. `get_benefits` reports what is
available. This module has both with the calls they make to the repository; each call may fail.

A use is an entry of the history with the action `benefit_used`, of which this module keeps the
membership and the code.
-/

namespace IsaUser.Memberships.Benefits

/-! ### Data -/

/-- A row of `membership.tier_benefits`. -/
structure TierBenefit where
  tierCode : MembershipTier
  benefitCode : PyStr
  benefitName : PyStr
  benefitType : PyStr
  usageLimit : Option ℤ := none
  isUnlimited : Bool := false
  isActive : Bool := true
  deriving DecidableEq

/-- `membership.tier_benefits`, where a tier has a code once. -/
structure BenefitTable where
  rows : List TierBenefit
  unique : (rows.map fun row => (row.tierCode, row.benefitCode)).Nodup

structure BenefitUsage where
  benefitCode : PyStr
  benefitName : PyStr
  benefitType : PyStr
  usageLimit : Option ℤ
  usedCount : ℕ
  remaining : Option ℤ
  isUnlimited : Bool
  isAvailable : Bool
  deriving DecidableEq

/-! ### The store -/

/-- The tables: memberships, benefits, and the uses of benefits by membership and code. -/
structure BenefitStore where
  memberships : ℕ → Option MembershipRow
  benefits : BenefitTable
  uses : List (ℕ × PyStr)

def BenefitStore.used (s : BenefitStore) (membershipId : ℕ) (benefitCode : PyStr) : ℕ :=
  s.uses.count (membershipId, benefitCode)

def BenefitStore.benefitsOf (s : BenefitStore) (tier : MembershipTier) : List TierBenefit :=
  s.benefits.rows.filter fun row => row.tierCode = tier ∧ row.isActive

inductive Call where
  | selectMembership (membershipId : ℕ)
  | selectTierBenefits (tierCode : MembershipTier)
  | countUsage (membershipId : ℕ) (benefitCode : PyStr)
  | insertUsage (membershipId : ℕ) (benefitCode : PyStr)

def Call.Reply : Call → Type
  | selectMembership _ => Option (ℕ × MembershipRow)
  | selectTierBenefits _ => List TierBenefit
  | countUsage _ _ => ℕ
  | insertUsage _ _ => Unit

@[reducible] def BenefitApi : Interface := ⟨Call, Call.Reply⟩

inductive StorageError where
  | unavailable
  deriving DecidableEq, Repr

def execute : Handler BenefitApi BenefitStore
  | .selectMembership id, s => ((s.memberships id).map (id, ·), s)
  | .selectTierBenefits tier, s => (s.benefitsOf tier, s)
  | .countUsage id code, s => (s.used id code, s)
  | .insertUsage id code, s => ((), { s with uses := s.uses ++ [(id, code)] })

abbrev Moment := BenefitStore × Link

def handle : Handler (BenefitApi.fallible StorageError) Moment := overLink .unavailable execute

/-! ### The repository -/

inductive BenefitError where
  | validationError
  | storage (e : StorageError)
  deriving DecidableEq, Repr

abbrev BenefitM := Prog (BenefitApi.fallible StorageError) BenefitError

def ask (c : Call) : BenefitM c.Reply := Prog.query (I := BenefitApi) .storage c

def getMembership (membershipId : ℕ) : BenefitM (Option Membership) := do
  match ← ask (.selectMembership membershipId) with
  | none => return none
  | some (id, row) =>
    match row.toMembership id with
    | none => .raise .validationError
    | some membership => return some membership

/-- `get_tier_benefits`. What fails is no benefits. -/
def getTierBenefits (tierCode : MembershipTier) : BenefitM (List TierBenefit) :=
  (ask (.selectTierBenefits tierCode) : BenefitM (List TierBenefit)).tryCatch fun _ => return []

/-- `get_benefit_usage`. What fails is no uses. -/
def getBenefitUsage (membershipId : ℕ) (benefitCode : PyStr) : BenefitM ℕ :=
  (ask (.countUsage membershipId benefitCode) : BenefitM ℕ).tryCatch fun _ => return (0 : ℕ)

def recordBenefitUsage (membershipId : ℕ) (benefitCode : PyStr) : BenefitM Unit :=
  ask (.insertUsage membershipId benefitCode)

/-! ### The methods -/

def TierBenefit.limit (benefit : TierBenefit) : Option ℤ :=
  if benefit.isUnlimited then none else benefit.usageLimit.filter (· ≠ 0)

def TierBenefit.usage (benefit : TierBenefit) (usageCount : ℕ) : BenefitUsage :=
  let remaining := benefit.limit.map fun limit : ℤ => max 0 (limit - (usageCount : ℤ))
  { benefitCode := benefit.benefitCode
    benefitName := benefit.benefitName
    benefitType := benefit.benefitType
    usageLimit := benefit.usageLimit
    usedCount := usageCount
    remaining
    isUnlimited := benefit.isUnlimited
    isAvailable := benefit.isUnlimited ∨ ∃ n ∈ remaining, 0 < n }

/-- The message of a response without success. -/
inductive BenefitRefusal where
  /-- "Membership not found". -/
  | membershipNotFound
  /-- "Cannot use benefit with membership status: ...". -/
  | notActive (status : MembershipStatus)
  /-- "Benefit not available at your tier". -/
  | notAtTier
  /-- "Benefit usage limit exceeded". -/
  | limitExceeded
  /-- "Error ...". -/
  | error (e : BenefitError)
  deriving DecidableEq, Repr

def responding {α : Type} (p : BenefitM (Except BenefitRefusal α)) :
    BenefitM (Except BenefitRefusal α) :=
  p.tryCatch fun e => return .error (.error e)

/-- `_get_membership_benefits`, the benefits one after the other. -/
def getUsages (membershipId : ℕ) : List TierBenefit → BenefitM (List BenefitUsage)
  | [] => return []
  | benefit :: benefits => do
    let usageCount ← getBenefitUsage membershipId benefit.benefitCode
    let usages ← getUsages membershipId benefits
    return benefit.usage usageCount :: usages

/-- `get_benefits`: the tier, and the benefits. -/
def getBenefits (membershipId : ℕ) :
    BenefitM (Except BenefitRefusal (MembershipTier × List BenefitUsage)) :=
  responding do
    match ← getMembership membershipId with
    | none => return .error .membershipNotFound
    | some membership => do
      let tierBenefits ← getTierBenefits membership.tierCode
      let benefits ← getUsages membership.membershipId tierBenefits
      return .ok (membership.tierCode, benefits)

def remainingUses (membershipId : ℕ) (benefit : TierBenefit) : BenefitM (Option ℤ) :=
  match benefit.limit with
  | none => return none
  | some limit => do
    let usageCount ← getBenefitUsage membershipId benefit.benefitCode
    return some (max 0 (limit - usageCount))

def exceeded (membershipId : ℕ) (benefit : TierBenefit) : BenefitM Bool :=
  match benefit.limit with
  | none => return false
  | some limit => do
    let usageCount ← getBenefitUsage membershipId benefit.benefitCode
    return limit ≤ usageCount

/-- `use_benefit`: the remaining uses. -/
def useBenefit (membershipId : ℕ) (benefitCode : PyStr) :
    BenefitM (Except BenefitRefusal (Option ℤ)) :=
  responding do
    match ← getMembership membershipId with
    | none => return .error .membershipNotFound
    | some membership =>
      if membership.status ≠ .active then return .error (.notActive membership.status)
      else do
        let tierBenefits ← getTierBenefits membership.tierCode
        match tierBenefits.find? (·.benefitCode = benefitCode) with
        | none => return .error .notAtTier
        | some benefit => do
          if ← exceeded membershipId benefit then return .error .limitExceeded
          else do
            recordBenefitUsage membershipId benefitCode
            let remaining ← remainingUses membershipId benefit
            return .ok remaining

end IsaUser.Memberships.Benefits
