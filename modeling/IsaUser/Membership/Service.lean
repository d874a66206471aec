import IsaUser.Membership.Model
import Mathlib.Data.Rat.Floor

/-!
# The Membership Service

The methods of `membership_service.py` that write: enrollment, points, and the status of a
membership. Each writes to the memberships first and to the history after that, in a statement of
its own. What is raised is caught, and the response says so.

A cancellation with forfeited points records the loss of the balance; the balance stays.
-/

namespace IsaUser.Memberships

/-! ### Tiers and bonuses -/

/-- `TIER_CONFIG[tier]["threshold"]`. -/
def MembershipTier.threshold : MembershipTier → ℤ
  | bronze => 0
  | silver => 5000
  | gold => 20000
  | platinum => 50000
  | diamond => 100000

/-- `TIER_CONFIG[tier]["multiplier"]`. -/
def MembershipTier.multiplier : MembershipTier → ℚ
  | bronze => 1
  | silver => 5 / 4
  | gold => 3 / 2
  | platinum => 2
  | diamond => 3

def tierOrder : List MembershipTier := [.bronze, .silver, .gold, .platinum, .diamond]

def calculateTier (tierPoints : ℤ) : MembershipTier :=
  (tierOrder.reverse.find? fun tier => tier.threshold ≤ tierPoints).getD .bronze

/-- `str.upper`, of one character. Beside the small letters there are two characters that have a
capital among the ASCII letters; where others go does not matter to `promoBonuses`. -/
def upperChar (c : Char) : Char :=
  if c = 'ı' then 'I' else if c = 'ſ' then 'S' else c.toUpper

def promoBonuses : List (PyStr × ℤ) :=
  [("WELCOME100".toList, 100), ("WELCOME500".toList, 500), ("VIP1000".toList, 1000)]

def calculateEnrollmentBonus (promoCode : Option PyStr) : ℤ :=
  ((given promoCode).bind fun code => promoBonuses.lookup (code.map upperChar)).getD 0

/-! ### Requests and responses -/

abbrev Points := {n : ℤ // 0 < n}

/-- The arguments of `enroll_membership`. -/
structure EnrollMembershipRequest where
  userId : PyStr
  organizationId : Option PyStr := none
  enrollmentSource : Option PyStr := none
  promoCode : Option PyStr := none
  /-- Whether `json.dumps` and the column take the metadata. -/
  metadata : Bool := true
  deriving DecidableEq

/-- The arguments of `earn_points`. -/
structure EarnPointsRequest where
  userId : PyStr
  pointsAmount : Points
  source : PyStr
  organizationId : Option PyStr := none
  referenceId : Option PyStr := none
  description : Option PyStr := none
  metadata : Bool := true
  deriving DecidableEq

/-- The arguments of `redeem_points`. -/
structure RedeemPointsRequest where
  userId : PyStr
  pointsAmount : Points
  rewardCode : PyStr
  organizationId : Option PyStr := none
  description : Option PyStr := none
  metadata : Bool := true
  deriving DecidableEq

/-- The message of a response without success. -/
inductive Refusal where
  /-- "User already has active membership". -/
  | alreadyActive
  /-- "No membership found". -/
  | noMembership
  /-- "Membership is suspended". -/
  | suspended
  /-- "Membership is expired". -/
  | expired
  /-- "Insufficient points. Available: ..., Requested: ...". -/
  | insufficientPoints (available requested : ℤ)
  /-- "Membership not found". -/
  | membershipNotFound
  /-- "Membership already canceled". -/
  | alreadyCanceled
  /-- "Cannot suspend membership with status: ...". -/
  | cannotSuspend (status : MembershipStatus)
  /-- "Cannot reactivate membership with status: ...". -/
  | cannotReactivate (status : MembershipStatus)
  /-- "Error ...". -/
  | error (e : MembershipError)
  deriving DecidableEq, Repr

structure EnrollMembershipResponse where
  membership : Membership
  enrollmentBonus : ℤ
  deriving DecidableEq

structure EarnPointsResponse where
  pointsEarned : ℤ
  multiplier : ℚ
  pointsBalance : ℤ
  tierPoints : ℤ
  /-- The new tier, if there is one. -/
  newTier : Option MembershipTier
  deriving DecidableEq

structure RedeemPointsResponse where
  pointsRedeemed : ℤ
  pointsBalance : ℤ
  rewardCode : PyStr
  deriving DecidableEq

/-! ### The methods -/

def responding {α : Type} (p : MembershipM (Except Refusal α)) : MembershipM (Except Refusal α) :=
  p.tryCatch fun e => return .error (.error e)

def EnrollMembershipRequest.details (request : EnrollMembershipRequest) : HistoryDetails :=
  { source := some ((given request.enrollmentSource).getD "api".toList)
    metadata := ∀ code ∈ given request.promoCode, Text code }

def enrollMembership (request : EnrollMembershipRequest) :
    MembershipM (Except Refusal EnrollMembershipResponse) :=
  responding do
    match ← getMembershipByUser request.userId request.organizationId true with
    | some _ => return .error .alreadyActive
    | none => do
      let enrollmentBonus := calculateEnrollmentBonus request.promoCode
      let membership ← createMembership request.userId .bronze enrollmentBonus
        request.organizationId request.details.source request.promoCode request.metadata
      let _ ← addHistory
        { membershipId := membership.membershipId, action := .enrolled
          pointsChange := enrollmentBonus, balanceAfter := some enrollmentBonus
          details := request.details, initiatedBy := .user }
      return .ok { membership, enrollmentBonus }

def MembershipStatus.refusal : MembershipStatus → Option Refusal
  | suspended => some .suspended
  | expired => some .expired
  | _ => none

def upgradeTier (membership : Membership) (oldTier newTier : MembershipTier) : MembershipM Unit := do
  let _ ← updateTier membership.membershipId newTier
  let _ ← addHistory
    { membershipId := membership.membershipId, action := .tierUpgraded
      previousTier := some oldTier, newTier := some newTier }
  return ()

theorem tenPoints_pos : (0 : ℤ) < 10 := by decide

/-- The points with the multiplier of a tier. What a `Decimal` would round does not fit into the
column. -/
def finalPoints (tier : MembershipTier) (pointsAmount : ℤ) : ℤ :=
  ⌊(pointsAmount : ℚ) * tier.multiplier⌋

def EarnPointsRequest.details (request : EarnPointsRequest) : HistoryDetails :=
  { source := some request.source, referenceId := request.referenceId
    description := request.description, metadata := request.metadata }

def earnPoints (request : EarnPointsRequest) : MembershipM (Except Refusal EarnPointsResponse) :=
  responding do
    match ← getMembershipByUser request.userId request.organizationId false with
    | none => return .error .noMembership
    | some membership =>
      match membership.status.refusal with
      | some refusal => return .error refusal
      | none => do
        let points := finalPoints membership.tierCode request.pointsAmount
        let updated ← addPoints membership.membershipId points request.pointsAmount
        let _ ← addHistory
          { membershipId := membership.membershipId, action := .pointsEarned
            pointsChange := points, balanceAfter := some updated.pointsBalance
            details := request.details }
        let newTier := calculateTier updated.tierPoints
        if newTier ≠ membership.tierCode then upgradeTier updated membership.tierCode newTier
        return .ok
          { pointsEarned := points, multiplier := membership.tierCode.multiplier
            pointsBalance := updated.pointsBalance, tierPoints := updated.tierPoints
            newTier := if newTier ≠ membership.tierCode then some newTier else none }

def RedeemPointsRequest.details (request : RedeemPointsRequest) : HistoryDetails :=
  { rewardCode := some request.rewardCode, description := request.description
    metadata := request.metadata }

def redeemPoints (request : RedeemPointsRequest) :
    MembershipM (Except Refusal RedeemPointsResponse) :=
  responding do
    match ← getMembershipByUser request.userId request.organizationId false with
    | none => return .error .noMembership
    | some membership =>
      match membership.status.refusal with
      | some refusal => return .error refusal
      | none =>
        if membership.pointsBalance < request.pointsAmount then
          return .error (.insufficientPoints membership.pointsBalance request.pointsAmount)
        else do
          let updated ← deductPoints membership.membershipId request.pointsAmount
          let _ ← addHistory
            { membershipId := membership.membershipId, action := .pointsRedeemed
              pointsChange := -request.pointsAmount
              balanceAfter := some updated.pointsBalance, details := request.details
              initiatedBy := .user }
          return .ok
            { pointsRedeemed := request.pointsAmount, pointsBalance := updated.pointsBalance
              rewardCode := request.rewardCode }

def cancelDetails (reason feedback : Option PyStr) : HistoryDetails :=
  { description := reason, metadata := ∀ text ∈ given feedback, Text text }

/-- `cancel_membership`. The balance is read, and not written. -/
def cancelMembership (membershipId : ℕ) (reason : Option PyStr) (forfeitPoints : Bool)
    (feedback : Option PyStr) : MembershipM (Except Refusal Membership) :=
  responding do
    match ← getMembership membershipId with
    | none => return .error .membershipNotFound
    | some membership =>
      if membership.status = .canceled then return .error .alreadyCanceled
      else do
        let updated ← updateStatus membershipId .canceled
        let _ ← addHistory
          { membershipId, action := .canceled
            pointsChange := if forfeitPoints then -membership.pointsBalance else 0
            balanceAfter := some (if forfeitPoints then 0 else membership.pointsBalance)
            details := cancelDetails reason feedback, initiatedBy := .user }
        return .ok updated

/-- `suspend_membership`. The duration is part of the metadata. -/
def suspendMembership (membershipId : ℕ) (reason : PyStr) :
    MembershipM (Except Refusal Membership) :=
  responding do
    match ← getMembership membershipId with
    | none => return .error .membershipNotFound
    | some membership =>
      if membership.status ≠ .active then return .error (.cannotSuspend membership.status)
      else do
        let updated ← updateStatus membershipId .suspended
        let _ ← addHistory
          { membershipId, action := .suspended, details := { description := some reason }
            initiatedBy := .admin }
        return .ok updated

def reactivateMembership (membershipId : ℕ) : MembershipM (Except Refusal Membership) :=
  responding do
    match ← getMembership membershipId with
    | none => return .error .membershipNotFound
    | some membership =>
      if membership.status ≠ .suspended then
        return .error (.cannotReactivate membership.status)
      else do
        let updated ← updateStatus membershipId .active
        let _ ← addHistory { membershipId, action := .reactivated, initiatedBy := .admin }
        return .ok updated

/-! ### Requests -/

inductive Request where
  | enroll (request : EnrollMembershipRequest)
  | earn (request : EarnPointsRequest)
  | redeem (request : RedeemPointsRequest)
  | suspend (membershipId : ℕ) (reason : PyStr)
  | reactivate (membershipId : ℕ)
  | cancel (membershipId : ℕ) (reason : Option PyStr) (forfeitPoints : Bool)
      (feedback : Option PyStr)
  deriving DecidableEq

def Request.serve : Request → MembershipM Unit
  | enroll request => (enrollMembership request).void
  | earn request => (earnPoints request).void
  | redeem request => (redeemPoints request).void
  | suspend membershipId reason => (suspendMembership membershipId reason).void
  | reactivate membershipId => (reactivateMembership membershipId).void
  | cancel membershipId reason forfeitPoints feedback =>
    (cancelMembership membershipId reason forfeitPoints feedback).void

end IsaUser.Memberships
