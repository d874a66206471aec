import IsaUser.Billing.Charges
import IsaUser.Lib.Binary64

/-!
# Usage

`calculate_billing_cost`, `check_quota`, `record_usage_and_bill` and
`record_usage_with_external_billing` (`billing_service.py`), and the handler of usage events
(`events/handlers.py`). The pricing, the subscription and the balances are read by methods that
log what is raised, so a calculation fails only where it computes. How the answer of the product
service is read is in `IsaUser.Billing.Payload`.

In a message, a rational number has the text that Lean gives it, in the place of a decimal.
-/

namespace IsaUser.Billing

open Subscriptions (Payer orElse resolveBillingScope truthy)

/-! ### Requests -/

structure RecordUsageRequest where
  payer : Payer
  subscriptionId : Option PyStr
  productId : PyStr
  usageAmount : ℚ
  deriving DecidableEq

structure BillingCalculationRequest where
  userId : PyStr
  subscriptionId : Option PyStr
  productId : PyStr
  usageAmount : ℚ
  deriving DecidableEq

def RecordUsageRequest.calculationRequest (request : RecordUsageRequest) :
    BillingCalculationRequest where
  userId := (resolveBillingScope request.payer).userId
  subscriptionId := request.subscriptionId
  productId := request.productId
  usageAmount := request.usageAmount

/-! ### The cost -/

/-- `Currency(text)`. -/
def Currency.ofText (text : PyStr) : Option Currency :=
  if text = "USD".toList then some .usd
  else if text = "CNY".toList then some .cny
  else if text = "CREDIT".toList then some .credit
  else none

def Decimal.isPositive : Decimal → Bool
  | finite q => decide (0 < q)
  | infinite positive => positive
  | _ => false

/-- The usage is within the free tier. The limit is a double, and is compared by its text. -/
def Pricing.isFreeTier (pricing : Pricing) (usageAmount : ℚ) : Bool :=
  match pricing.freeTierLimit with
  | .finite limit => decide (0 < limit ∧ usageAmount ≤ shortest limit)
  | limit => limit.isPositive

def Pricing.due (pricing : Pricing) (usageAmount : ℚ) (isIncludedInSubscription : Bool) :
    Decimal :=
  if pricing.isFreeTier usageAmount || isIncludedInSubscription then .finite 0 else pricing.total

def isUsageIncludedInSubscription (productId : PyStr) (usageAmount : ℚ)
    (included : List (PyStr × ℚ)) : Bool :=
  included.any fun p => decide (p.1 = productId ∧ usageAmount ≤ p.2)

/-- `Decimal(str(credits * 0.00001))`, unless the credits are too many for a double. -/
def creditsPrice (credits : ℤ) : Option ℚ := do
  let x ← float credits
  let unit ← float (1 / 100000)
  throughDouble (x * unit)

def Balances.walletCovers (balances : Balances) (credits : ℤ) : Bool :=
  balances.walletBalance.any fun b =>
    (creditsPrice credits).any fun price => decide (b ≠ 0 ∧ price ≤ b)

def determineBillingMethod (totalCostCredits : ℤ) (balances : Balances)
    (isFreeTier isIncludedInSubscription : Bool) : BillingMethod :=
  if isFreeTier || isIncludedInSubscription then .subscriptionIncluded
  else if totalCostCredits ≤ balances.subscriptionCredits then .subscriptionCredit
  else if totalCostCredits ≤ balances.purchasedCredits then .creditConsumption
  else if balances.walletCovers totalCostCredits then .walletDeduction
  else .paymentCharge

variable (service : BillingService)

def failedCalculation (request : BillingCalculationRequest) (message : String) :
    BillingCalculation :=
  { success := false, message, userId := request.userId
    subscriptionId := request.subscriptionId, productId := request.productId
    usageAmount := request.usageAmount, unitPrice := 0, totalCost := 0, currency := .credit
    suggestedBillingMethod := .walletDeduction }

def includedProducts (subscriptionId : Option PyStr) : BillingM (List (PyStr × ℚ)) :=
  match subscriptionId with
  | some (c :: id) => do
    let info ← ask (.getSubscriptionInfo (c :: id))
    return info.getD []
  | _ => return []

/-- What the response of a calculation cannot hold: a number that is not finite. -/
def Pricing.invalid (pricing : Pricing) : Bool :=
  match pricing.unitPrice, pricing.freeTierLimit with
  | .finite _, .infinite positive => positive
  | .finite _, _ => false
  | _, _ => true

/-- The price of the credits is asked for, and raises as they are too many for a double. -/
def Balances.overflows (balances : Balances) (credits : ℤ) : Bool :=
  balances.walletBalance.any (· ≠ 0) && (creditsPrice credits).isNone

/-- What `int(total_cost)` raises. -/
def Decimal.intError : Decimal → String
  | infinite _ => "cannot convert Infinity to integer"
  | _ => "cannot convert NaN to integer"

def failedLate (request : BillingCalculationRequest) (balances : Balances) (error : String) :
    BillingCalculation :=
  { failedCalculation request s!"Error calculating cost: {error}" with
    subscriptionId := orElse request.subscriptionId balances.subscriptionId }

def quote (request : BillingCalculationRequest) (pricing : Pricing) (balances : Balances)
    (totalCost : ℚ) (isFreeTier isIncludedInSubscription : Bool) : BillingCalculation :=
  match pricing.unitPrice, pricing.invalid with
  | .finite unitPrice, false =>
    { success := true, message := "Billing cost calculated successfully"
      userId := request.userId
      subscriptionId := orElse request.subscriptionId balances.subscriptionId
      productId := request.productId, usageAmount := request.usageAmount, unitPrice, totalCost
      currency := pricing.currency, isFreeTier, isIncludedInSubscription
      suggestedBillingMethod := determineBillingMethod (inCredits totalCost pricing.currency)
        balances isFreeTier isIncludedInSubscription }
  | _, _ => failedLate request balances "validation error for BillingCalculationResponse"

/-- `calculate_billing_cost`, of a product whose price can be read. -/
def calculatePriced (request : BillingCalculationRequest) (pricing : Pricing) :
    BillingM BillingCalculation := do
  let isFreeTier := pricing.isFreeTier request.usageAmount
  let included ← includedProducts request.subscriptionId
  let isIncludedInSubscription :=
    isUsageIncludedInSubscription request.productId request.usageAmount included
  let balances ← ask (.getUserBalances request.userId)
  match pricing.due request.usageAmount isIncludedInSubscription with
  | .finite totalCost =>
    let credits := inCredits totalCost pricing.currency
    if balances.overflows credits then
      return failedLate request balances "int too large to convert to float"
    else do
      announce service (.costCalculated request.userId request.productId request.usageAmount
        totalCost isFreeTier isIncludedInSubscription
        (determineBillingMethod credits balances isFreeTier isIncludedInSubscription))
      return quote request pricing balances totalCost isFreeTier isIncludedInSubscription
  | totalCost => return failedLate request balances totalCost.intError

/-- `calculate_billing_cost`. A price that cannot be read raises before the balances are read;
the `except` clause reads a variable that is not set then, unless the request names a
subscription. -/
def calculateBillingCost (request : BillingCalculationRequest) : BillingM BillingCalculation := do
  match ← ask (.getProductPricing request.productId request.usageAmount) with
  | none => return failedCalculation request "Product pricing not found"
  | some (.priced pricing) => calculatePriced service request pricing
  | some (.unreadable error) =>
    if truthy request.subscriptionId then
      return failedCalculation request s!"Error calculating cost: {error}"
    else
      .raise ("cannot access local variable 'active_subscription_id' where it is not " ++
        "associated with a value")

def BillingQuota.check (quota : BillingQuota) (requestedAmount : ℚ) : Bool × String :=
  let remaining := quota.quotaLimit - quota.quotaUsed
  if requestedAmount ≤ remaining then (true, "Within quota limits")
  else (false, s!"Quota exceeded. Requested: {requestedAmount}, Remaining: {remaining}")

def checkQuota (userId productId : PyStr) (requestedAmount : ℚ) : BillingM (Bool × String) :=
  (do
    let quota ← ask (.getBillingQuota userId productId)
    return quota.elim ((true, "No quota restrictions") : Bool × String)
      (·.check requestedAmount)).tryCatch
        fun e => return (false, s!"Error checking quota: {e}")

/-! ### Usage that is billed -/

def usageRecordIdOr (origin : String) (userId : PyStr) (recorded : Option PyStr) :
    BillingM PyStr :=
  match recorded with
  | some (c :: id) => return c :: id
  | _ => do
    let now ← ask .utcTimestamp
    return origin.toList ++ userId ++ '_' :: (toString now).toList

def completeIncluded (request : RecordUsageRequest) (usageRecordId : PyStr)
    (calculation : BillingCalculation) : BillingM ProcessBillingResponse := do
  let id ← createBillingRecord service
    (newRecord usageRecordId calculation .subscriptionIncluded .completed request.subscriptionId
      false)
  ask (.createBillingEvent
    { eventType := .billingProcessed, userId := (resolveBillingScope request.payer).userId
      billingRecordId := some id, amount := some calculation.totalCost })
  return billed "Usage billed successfully (included in subscription)" id calculation.totalCost
    .subscriptionIncluded none

def refuseQuota (request : RecordUsageRequest) (message : String) :
    BillingM ProcessBillingResponse := do
  let userId := (resolveBillingScope request.payer).userId
  ask (.createBillingEvent { eventType := .quotaExceeded, userId })
  announce service (.quotaExceeded userId request.productId request.usageAmount)
  return failed s!"Quota exceeded: {message}" none

def BillingCalculation.isFree (calculation : BillingCalculation) : Bool :=
  calculation.isFreeTier || calculation.isIncludedInSubscription ||
    decide (calculation.totalCost = 0)

/-- The body of `record_usage_and_bill`. -/
def billUsage (request : RecordUsageRequest) : BillingM ProcessBillingResponse := do
  let recorded ← ask
    (.recordUsage request.payer.userId request.productId request.usageAmount)
  let usageRecordId ← usageRecordIdOr "local_" request.payer.userId recorded
  let calculation ← calculateBillingCost service request.calculationRequest
  if calculation.success = false then
    return failed s!"Failed to calculate billing cost: {calculation.message}" none
  else do
    let quota ← checkQuota request.payer.userId request.productId request.usageAmount
    if quota.1 = false then refuseQuota service request quota.2
    else if calculation.isFree then completeIncluded service request usageRecordId calculation
    else
      processBilling service
        { usageRecordId, billingMethod := calculation.suggestedBillingMethod
          subscriptionId := request.subscriptionId }
        (some calculation)

def recordUsageAndBill (request : RecordUsageRequest) : BillingM ProcessBillingResponse :=
  (billUsage service request).tryCatch fun e => return failed s!"Internal error: {e}" none

/-! ### Usage that was billed upstream -/

structure UpstreamCharge where
  creditsUsed : Option ℕ
  costUsd : Option ℚ
  /-- `ge=0`. -/
  costUsd_nonneg : ∀ q ∈ costUsd, 0 ≤ q

def pricePerUnit (totalCost usageAmount : ℚ) : ℚ :=
  if 0 < usageAmount then totalCost / usageAmount else 0

/-- `_build_external_billing_fallback_calculation`. -/
def externalBillingFallback (request : RecordUsageRequest) (upstream : UpstreamCharge) :
    Option BillingCalculation :=
  let calculation (totalCost : ℚ) (currency : Currency) : BillingCalculation :=
    { success := true, message := "Using upstream external billing amount"
      userId := (resolveBillingScope request.payer).userId
      subscriptionId := request.subscriptionId, productId := request.productId
      usageAmount := request.usageAmount
      unitPrice := pricePerUnit totalCost request.usageAmount, totalCost, currency
      suggestedBillingMethod := .creditConsumption }
  match upstream.costUsd, upstream.creditsUsed with
  | some cost, _ => some (calculation cost .usd)
  | none, some credits => some (calculation credits .credit)
  | none, none => none

/-- `_override_with_upstream_external_cost`. -/
def overrideWithUpstreamCost (calculation : BillingCalculation) (upstream : UpstreamCharge) :
    BillingCalculation :=
  match upstream.costUsd with
  | none => calculation
  | some cost =>
    { calculation with
      unitPrice := pricePerUnit cost calculation.usageAmount
      totalCost := cost
      currency := .usd }

def completeExternal (request : RecordUsageRequest) (usageRecordId : PyStr)
    (calculation : BillingCalculation) : BillingM ProcessBillingResponse := do
  let method : BillingMethod :=
    if calculation.isFree then .subscriptionIncluded else .creditConsumption
  let id ← createBillingRecord service
    (newRecord usageRecordId calculation method .completed request.subscriptionId true)
  ask (.createBillingEvent
    { eventType := .billingProcessed, userId := (resolveBillingScope request.payer).userId
      billingRecordId := some id, amount := some calculation.totalCost })
  return billed "Usage recorded successfully (already billed upstream)" id calculation.totalCost
    method none

/-- The body of `record_usage_with_external_billing`. -/
def recordExternal (request : RecordUsageRequest) (upstream : UpstreamCharge) :
    BillingM ProcessBillingResponse := do
  let recorded ← ask
    (.recordUsage request.payer.userId request.productId request.usageAmount)
  let usageRecordId ← usageRecordIdOr "external_" request.payer.userId recorded
  let calculation ← calculateBillingCost service request.calculationRequest
  let calculated :=
    if calculation.success then some calculation else externalBillingFallback request upstream
  match calculated with
  | none =>
    let product := request.productId.text
    return failed ("Failed to calculate billing cost for externally billed usage: " ++
      s!"{product} ({product}) -> {calculation.message}") none
  | some calculation =>
    completeExternal service request usageRecordId
      (overrideWithUpstreamCost calculation upstream)

def recordUsageWithExternalBilling (request : RecordUsageRequest) (upstream : UpstreamCharge) :
    BillingM ProcessBillingResponse :=
  (recordExternal service request upstream).tryCatch fun e =>
    return failed s!"Error recording externally billed usage: {e}" none

/-! ### The handler of usage events -/

structure UsageEventData where
  payer : Payer
  subscriptionId : Option PyStr
  productId : PyStr
  usageAmount : ℚ
  creditConsumptionHandled : Bool
  upstream : UpstreamCharge
  idempotencyKey : Option PyStr

/-- An event `billing.usage.recorded.*`: its data, unless they do not parse, and the user and
the product that its raw data name. -/
structure UsageEvent where
  id : PyStr
  rawUserId : PyStr
  rawProductId : PyStr
  data : Option UsageEventData

def UsageEventData.claimKey (data : UsageEventData) (eventId : PyStr) : PyStr :=
  Subscriptions.orStr data.idempotencyKey eventId

def UsageEventData.request (data : UsageEventData) : RecordUsageRequest :=
  ⟨data.payer, data.subscriptionId, data.productId, data.usageAmount⟩

def markProcessed (eventId claimKey : PyStr) : BillingM Unit := do
  ask (.markEventProcessed eventId)
  if claimKey ≠ eventId then ask (.markEventProcessed claimKey) else return ()

def billingCalculated (eventId : PyStr) (data : UsageEventData)
    (response : ProcessBillingResponse) : BillingCalculatedEventData where
  userId := data.payer.userId
  billingRecordId := response.billingRecordId.elim (.inl eventId) .inr
  productId := data.productId
  actualUsage := data.usageAmount
  tokenEquivalent := data.usageAmount
  costUsd := response.amountCharged.getD 0
  unitPrice := 0
  tokenConversionRate := 1
  isFreeTier := false
  isIncludedInSubscription := false
  usageEventId := eventId

/-- Bill the usage, unless it was billed upstream. The amount must not be negative. -/
def billEvent (data : UsageEventData) : BillingM ProcessBillingResponse := do
  Prog.require (0 ≤ data.usageAmount) "validation error for RecordUsageRequest"
  if data.creditConsumptionHandled then
    recordUsageWithExternalBilling service data.request data.upstream
  else recordUsageAndBill service data.request

def handleClaimed (eventId claimKey : PyStr) (data : UsageEventData) : BillingM Unit := do
  let response ← billEvent service data
  if response.success then do
    ask (.markEventProcessingCompleted claimKey)
    markProcessed eventId claimKey
    announce service (.billingCalculated (billingCalculated eventId data response))
  else do
    ask (.markEventProcessingFailed claimKey response.message)
    announce service (.billingError data.payer.userId data.productId "BILLING_PROCESSING_FAILED"
      response.message)

def keyProcessed (eventId claimKey : PyStr) : BillingM Bool :=
  if claimKey = eventId then return false else ask (.isEventProcessed claimKey)

def handleData (eventId : PyStr) (data : UsageEventData) : BillingM Unit := do
  let claimKey := data.claimKey eventId
  let processed ← keyProcessed eventId claimKey
  if processed then ask (.markEventProcessed eventId)
  else do
    let claimed ← ask (.claimEventProcessing claimKey)
    if claimed then handleClaimed service eventId claimKey data
    else markProcessed eventId claimKey

/-- The `except` clause of the handler; what is raised, is raised before the event is
completed. -/
def recover (event : UsageEvent) (claimKey : PyStr) (e : String) : BillingM Unit := do
  quietly (ask (.markEventProcessingFailed claimKey e))
  announce service (.billingError event.rawUserId event.rawProductId "HANDLER_ERROR" e)

def processUsageRecorded (event : UsageEvent) : BillingM Unit := do
  let processed ← ask (.isEventProcessed event.id)
  if processed then return ()
  else
    match event.data with
    | none => recover service event event.id "validation error for UsageEventData"
    | some data =>
      (handleData service event.id data).tryCatch
        (recover service event (data.claimKey event.id))

def handleUsageRecorded (event : UsageEvent) : BillingM Unit := do
  let processed ← ask (.isEventProcessed event.id)
  if processed then return ()
  else
    quietly do
      match ← ask (.enterEventLock event.id) with
      | .cached => ask (.markEventProcessed event.id)
      | .contended => return ()
      | .acquired => processUsageRecorded service event

end IsaUser.Billing
