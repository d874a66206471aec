import IsaUser.Subscription.Repository

/-!
# The Subscription Service

The methods of `SubscriptionService` (`subscription_service.py`) that open, close and draw
on subscriptions, one request after another: each is a function from the store to its
response and the next store. The history entries and the events that they also write are
left out; neither can fail a request.
-/

namespace IsaUser.Subscriptions

/-! ### Tiers -/

inductive BillingCycle where
  | monthly
  | yearly
  | quarterly
  deriving DecidableEq, Repr

/-- An entry of `_tier_cache`. -/
structure Tier where
  tierCode : PyStr
  monthlyCredits : ℤ
  trialDays : ℤ
  /-- A tier grants no negative credits. -/
  monthly_nonneg : 0 ≤ monthlyCredits := by decide
  deriving Repr

theorem freeCredits_nonneg : (0 : ℤ) ≤ 1000000 := by decide

/-- `_load_tier_cache`. -/
def tierCache : List Tier :=
  [{ tierCode := ['f', 'r', 'e', 'e'], monthlyCredits := 1000000, trialDays := 0,
      monthly_nonneg := freeCredits_nonneg },
    { tierCode := ['p', 'r', 'o'], monthlyCredits := 30000000, trialDays := 14 },
    { tierCode := ['m', 'a', 'x'], monthlyCredits := 100000000, trialDays := 14 },
    { tierCode := ['t', 'e', 'a', 'm'], monthlyCredits := 50000000, trialDays := 14 },
    { tierCode := ['e', 'n', 't', 'e', 'r', 'p', 'r', 'i', 's', 'e'], monthlyCredits := 0
      trialDays := 30 }]

/-- `_get_tier_info`. Lower-casing matters in the ASCII range only: no other letter becomes
one of those in a tier code. -/
def getTierInfo (tierCode : PyStr) : Option Tier :=
  tierCache.find? (·.tierCode = tierCode.map Char.toLower)

/-! ### Requests -/

structure CreateSubscriptionRequest where
  userId : PyStr
  organizationId : Option PyStr := none
  tierCode : PyStr
  billingCycle : BillingCycle := .monthly
  seats : ℤ := 1
  useTrial : Bool := false
  /-- `ge=1`. -/
  seats_pos : 1 ≤ seats := by decide
  deriving DecidableEq

theorem oneSeat_pos : (1 : ℤ) ≤ 1 := le_rfl

def CreateSubscriptionRequest.payer (request : CreateSubscriptionRequest) : Payer :=
  { userId := request.userId, organizationId := request.organizationId }

structure ConsumeCreditsRequest where
  payer : Payer
  creditsToConsume : ℤ
  /-- `gt=0`. -/
  credits_pos : 0 < creditsToConsume

structure ReserveCreditsRequest where
  payer : Payer
  estimatedCredits : ℤ
  requestId : Option PyStr
  /-- `gt=0`. -/
  estimated_pos : 0 < estimatedCredits

structure ReconcileReservationRequest where
  reservationId : ℕ
  actualCredits : ℤ
  /-- `ge=0`. -/
  actual_nonneg : 0 ≤ actualCredits

/-! ### Responses -/

structure CreateSubscriptionResponse where
  success : Bool
  message : String
  subscription : Option (Row UserSubscription) := none
  creditsAllocated : Option ℤ := none
  deriving DecidableEq

structure CancelSubscriptionResponse where
  success : Bool
  message : String
  creditsRemaining : Option ℤ := none
  deriving DecidableEq

structure AnsweredPayer where
  billingAccountType : Option BillingAccountType := none
  billingAccountId : Option PyStr := none
  actorUserId : Option PyStr := none
  deriving DecidableEq

structure ConsumeCreditsResponse where
  success : Bool
  message : String
  creditsConsumed : ℤ
  creditsRemaining : ℤ
  subscriptionId : Option ℕ := none
  payer : AnsweredPayer
  deriving DecidableEq

structure ReserveCreditsResponse where
  success : Bool
  message : String
  reservationId : Option ℕ := none
  creditsReserved : ℤ
  creditsRemaining : ℤ
  subscriptionId : Option ℕ := none
  payer : AnsweredPayer
  deriving DecidableEq

structure ReconcileReservationResponse where
  success : Bool
  message : String
  reservationId : ℕ
  creditsConsumed : ℤ := 0
  creditsRefunded : ℤ := 0
  creditsRemaining : ℤ := 0
  subscriptionId : Option ℕ := none
  payer : AnsweredPayer := {}
  deriving DecidableEq

structure ReleaseReservationResponse where
  success : Bool
  message : String
  reservationId : ℕ
  creditsReleased : ℤ := 0
  creditsRemaining : ℤ := 0
  subscriptionId : Option ℕ := none
  payer : AnsweredPayer := {}
  deriving DecidableEq

structure CreditBalanceResponse where
  message : String
  subscriptionCreditsRemaining : ℤ
  subscriptionCreditsTotal : ℤ
  totalCreditsAvailable : ℤ
  subscriptionId : Option ℕ := none
  tierCode : Option PyStr := none
  deriving DecidableEq

def BillingScope.answered (scope : BillingScope) : AnsweredPayer :=
  ⟨some scope.billingAccountType, scope.billingAccountId, some scope.actorUserId⟩

def CreditReservation.answered (r : CreditReservation) : AnsweredPayer :=
  ⟨some r.billingAccountType, r.billingAccountId, some r.actorUserId⟩

/-! ### New subscriptions -/

def cycleCredits (tier : Tier) : BillingCycle → ℤ
  | .yearly => tier.monthlyCredits * 12
  | .quarterly => tier.monthlyCredits * 3
  | .monthly => tier.monthlyCredits

theorem cycleCredits_nonneg (tier : Tier) (cycle : BillingCycle) : 0 ≤ cycleCredits tier cycle := by
  have hmonthly := tier.monthly_nonneg
  cases cycle <;> simp only [cycleCredits] <;> omega

def allocatedCredits (tier : Tier) (request : CreateSubscriptionRequest) : ℤ :=
  let credits := cycleCredits tier request.billingCycle
  if tier.tierCode = ['t', 'e', 'a', 'm'] then credits * request.seats else credits

theorem allocatedCredits_nonneg (tier : Tier) (request : CreateSubscriptionRequest) :
    0 ≤ allocatedCredits tier request := by
  have hcredits := cycleCredits_nonneg tier request.billingCycle
  have hseats : 0 ≤ request.seats := by
    have := request.seats_pos
    omega
  unfold allocatedCredits
  split
  · exact Int.mul_nonneg hcredits hseats
  · exact hcredits

def isTrial (tier : Tier) (request : CreateSubscriptionRequest) : Bool :=
  request.useTrial && decide (0 < tier.trialDays)

/-- The subscription that `create_subscription` inserts. -/
def newSubscription (tier : Tier) (request : CreateSubscriptionRequest)
    (now : Timestamp) : UserSubscription where
  userId := request.userId
  organizationId := request.organizationId
  tierCode := tier.tierCode
  status := if isTrial tier request then .trialing else .active
  credits := ⟨allocatedCredits tier request, 0, allocatedCredits tier request, 0,
    allocatedCredits_nonneg tier request⟩
  createdAt := now

/-! ### Methods -/

namespace Service

/-- `create_subscription`, at the instant `now`. -/
def createSubscription (request : CreateSubscriptionRequest) (now : Timestamp) (s : Store) :
    CreateSubscriptionResponse × Store :=
  match getTierInfo request.tierCode with
  | none =>
    let tierCode := request.tierCode.text
    ({ success := false, message := s!"Tier '{tierCode}' not found" }, s)
  | some tier =>
    match getUserSubscription request.payer s with
    | some existing =>
      let id := existing.id
      ({ success := false
         message := s!"User already has an active subscription: {id}" }, s)
    | none =>
      let allocated := allocatedCredits tier request
      match Subscriptions.createSubscription (newSubscription tier request now) now s with
      | (none, s) => ({ success := false, message := "Failed to create subscription" }, s)
      | (some created, s) =>
        ({ success := true
           message := "Subscription created successfully"
           subscription := some created
           creditsAllocated := some allocated }, s)

def cancelSubscription (id : ℕ) (immediate : Bool) (userId : PyStr) (s : Store) :
    CancelSubscriptionResponse × Store :=
  match s.subscriptions.get? id with
  | none => ({ success := false, message := s!"Subscription {id} not found" }, s)
  | some subscription =>
    if subscription.userId ≠ userId then
      ({ success := false, message := "Not authorized to cancel this subscription" }, s)
    else if immediate then
      let (updated, s) := updateStatus id .canceled s
      ({ success := true
         message := "Subscription canceled"
         creditsRemaining :=
           some ((updated.map (·.val.credits.remaining)).getD
             subscription.credits.remaining) }, s)
    else
      ({ success := true
         message := "Subscription will cancel at period end"
         creditsRemaining := some subscription.credits.remaining }, s)

def consumeCredits (request : ConsumeCreditsRequest) (s : Store) :
    ConsumeCreditsResponse × Store :=
  let scope := resolveBillingScope request.payer
  let failed (message : String) (remaining : ℤ) (id : Option ℕ) : ConsumeCreditsResponse :=
    ⟨false, message, 0, remaining, id, scope.answered⟩
  match getUserSubscription scope.payer s with
  | none => (failed "No active subscription found" 0 none, s)
  | some subscription =>
    let available := subscription.val.credits.remaining
    let requested := request.creditsToConsume
    if available < requested then
      (failed s!"Insufficient credits. Available: {available}, Requested: {requested}"
        available (some subscription.id), s)
    else
      match Subscriptions.consumeCredits subscription.id requested s with
      | (none, s) => (failed "Failed to consume credits" available (some subscription.id), s)
      | (some updated, s) =>
        (⟨true, "Credits consumed successfully", requested, updated.val.credits.remaining,
          some subscription.id, scope.answered⟩, s)

def reserveCredits (request : ReserveCreditsRequest) (s : Store) :
    ReserveCreditsResponse × Store :=
  let scope := resolveBillingScope request.payer
  match getUserSubscription scope.payer s with
  | none =>
    (⟨false, "No active subscription found", none, 0, 0, none, scope.answered⟩, s)
  | some subscription =>
    match Subscriptions.reserveCredits scope.payer request.estimatedCredits request.requestId s
      with
    | (.error e, s) =>
      let error := e.text
      (⟨false, s!"Reservation failed: {error}", none, 0, 0, none,
        ⟨request.payer.billingAccountType, request.payer.billingAccountId,
          some (orStr request.payer.actorUserId request.payer.userId)⟩⟩, s)
    | (.ok none, s) =>
      (⟨false, "Insufficient credits", none, 0, subscription.val.credits.remaining,
        some subscription.id, scope.answered⟩, s)
    | (.ok (some reservation), s) =>
      (⟨true, "Credits reserved successfully", some reservation.id,
        reservation.val.estimatedCredits, reservation.val.creditsRemainingAfterReserve,
        some reservation.val.subscriptionId, reservation.val.answered⟩, s)

def reconcileReservation (request : ReconcileReservationRequest) (s : Store) :
    ReconcileReservationResponse × Store :=
  match reconcileCreditReservation request.reservationId request.actualCredits s with
  | (none, s) =>
    ({ success := false, message := "Reservation not found"
       reservationId := request.reservationId }, s)
  | (some result, s) =>
    let reservation := result.reservation
    ({ success := reservation.val.status = .reconciled
       message := result.message
       reservationId := reservation.id
       -- `actual_credits or estimated_credits`
       creditsConsumed :=
         if reservation.val.actualCredits.getD 0 = 0 then reservation.val.estimatedCredits
         else reservation.val.actualCredits.getD 0
       creditsRefunded := reservation.val.creditsRefunded
       creditsRemaining := result.creditsRemaining
       subscriptionId := some reservation.val.subscriptionId
       payer := reservation.val.answered }, s)

def releaseReservation (reservationId : ℕ) (s : Store) : ReleaseReservationResponse × Store :=
  match releaseCreditReservation reservationId s with
  | (none, s) =>
    ({ success := false, message := "Reservation not found"
       reservationId := reservationId }, s)
  | (some result, s) =>
    let reservation := result.reservation
    ({ success := reservation.val.status = .released
       message := result.message
       reservationId := reservation.id
       creditsReleased := reservation.val.creditsRefunded
       creditsRemaining := result.creditsRemaining
       subscriptionId := some reservation.val.subscriptionId
       payer := reservation.val.answered }, s)

def getCreditBalance (payer : Payer) (s : Store) : CreditBalanceResponse :=
  let scope := resolveBillingScope payer
  match getUserSubscription scope.payer s with
  | none => ⟨"No active subscription", 0, 0, 0, none, none⟩
  | some subscription =>
    ⟨"Credit balance retrieved", subscription.val.credits.remaining,
      subscription.val.credits.allocated, subscription.val.credits.remaining,
      some subscription.id, some subscription.val.tierCode⟩

end Service

/-! ### Calls -/

inductive ServiceCall where
  | createSubscription (request : CreateSubscriptionRequest) (now : Timestamp)
  | cancelSubscription (id : ℕ) (immediate : Bool) (userId : PyStr)
  | consumeCredits (request : ConsumeCreditsRequest)
  | reserveCredits (request : ReserveCreditsRequest)
  | reconcileReservation (request : ReconcileReservationRequest)
  | releaseReservation (reservationId : ℕ)

def ServiceCall.run (s : Store) : ServiceCall → Store
  | createSubscription request now => (Service.createSubscription request now s).2
  | cancelSubscription id immediate userId =>
    (Service.cancelSubscription id immediate userId s).2
  | consumeCredits request => (Service.consumeCredits request s).2
  | reserveCredits request => (Service.reserveCredits request s).2
  | reconcileReservation request => (Service.reconcileReservation request s).2
  | releaseReservation id => (Service.releaseReservation id s).2

end IsaUser.Subscriptions
