import IsaUser.Billing.Model

/-!
# Charges

`process_billing` and the three ways it has to charge (`billing_service.py`): the wallet,
purchased credits and subscription credits. A wallet is charged through the client, and,
when the client is missing or raises, over HTTP.
-/

namespace IsaUser.Billing

open Subscriptions (orElse)

/-! ### Requests and responses -/

/-- `BillingCalculationResponse`; the methods that it lists and the balances that it repeats
are read by nobody. -/
structure BillingCalculation where
  success : Bool
  message : String
  userId : PyStr
  subscriptionId : Option PyStr
  productId : PyStr
  usageAmount : ℚ
  unitPrice : ℚ
  totalCost : ℚ
  currency : Currency
  isFreeTier : Bool := false
  isIncludedInSubscription : Bool := false
  suggestedBillingMethod : BillingMethod
  deriving DecidableEq

structure ProcessBillingRequest where
  usageRecordId : PyStr
  billingMethod : BillingMethod
  subscriptionId : Option PyStr
  chargedUpstream : Bool := false
  deriving DecidableEq

structure ProcessBillingResponse where
  success : Bool
  message : String
  billingRecordId : Option ℕ := none
  amountCharged : Option ℚ := none
  billingMethodUsed : Option BillingMethod := none
  walletTransactionId : Option PyStr := none
  deriving DecidableEq

structure BillingService where
  walletClient : Bool
  subscriptionClient : Bool
  eventBus : Bool
  deriving DecidableEq, Repr

/-! ### Conversions -/

/-- `int(q)`: towards zero. -/
def truncate (q : ℚ) : ℤ := if 0 ≤ q then ⌊q⌋ else ⌈q⌉

def inCredits (amount : ℚ) : Currency → ℤ
  | .credit => truncate amount
  | _ => truncate (amount * 100000)

/-- `_convert_to_credits`: at least one credit is charged. -/
def convertToCredits (amount : ℚ) (currency : Currency) : ℤ :=
  max 1 (inCredits amount currency)

/-! ### Records and messages -/

variable (service : BillingService)

def announce (message : Message) : BillingM Unit :=
  if service.eventBus then quietly (ask (.publishEvent message)) else return ()

theorem announce_obeys {P : BillingApi.Call → Prop} {message : Message}
    (h : P (Call.publishEvent message)) :
    (announce service message).Obeys P fun r => r = .ok () := by
  rw [announce]
  split
  · exact quietly_obeys (Prog.only_query h)
  · rfl

theorem obeys_announce {α : Type} {P : BillingApi.Call → Prop} {Q : Except String α → Prop}
    {message : Message} {f : Unit → BillingM α} (h : P (Call.publishEvent message))
    (hf : (f ()).Obeys P Q) : (announce service message >>= f).Obeys P Q :=
  (announce_obeys service h).bind (fun _ _ => hf) fun _ hraise => by cases hraise

/-- The record that `_create_billing_record` inserts. -/
def newRecord (usageRecordId : PyStr) (calculation : BillingCalculation)
    (method : BillingMethod) (status : BillingStatus) (subscriptionId : Option PyStr)
    (chargedUpstream : Bool) : BillingRecord where
  userId := calculation.userId
  subscriptionId := orElse calculation.subscriptionId subscriptionId
  usageRecordId := usageRecordId
  productId := calculation.productId
  usageAmount := calculation.usageAmount
  unitPrice := calculation.unitPrice
  totalAmount := calculation.totalCost
  currency := calculation.currency
  billingMethod := method
  billingStatus := status
  isFreeTier := calculation.isFreeTier
  isIncludedInSubscription := calculation.isIncludedInSubscription
  chargedUpstream := chargedUpstream

/-- The amounts that `BillingRecord` admits. -/
def BillingRecord.Valid (row : BillingRecord) : Prop :=
  0 ≤ row.usageAmount ∧ 0 ≤ row.unitPrice ∧ 0 ≤ row.totalAmount
  deriving Decidable

def validationError : String := "validation error for BillingRecord"

/-- `_create_billing_record`, of a record that was put together. -/
def createBillingRecord (row : BillingRecord) : BillingM ℕ := do
  Prog.require row.Valid validationError
  let id ← ask (.createBillingRecord row)
  announce service (.recordCreated id row.billingStatus)
  return id

/-! ### Deductions -/

/-- What a deduction returns: success, the transaction, the error, the subscription. -/
structure DeductionResult where
  success : Bool
  transactionId : Option PyStr := none
  error : Option String := none
  subscriptionId : Option PyStr := none
  deriving DecidableEq

def DeductionResult.of (default : String) (result : ConsumeResult) : DeductionResult :=
  if result.success then { success := true, transactionId := result.transactionId }
  else { success := false, error := some (result.message.getD default) }

def DeductionResult.ofHttp (default : String) : HttpResponse → DeductionResult
  | .ok result => .of default result
  | .status code => { success := false, error := some s!"Wallet service returned {code}" }

def DeductionResult.raised (e : String) : DeductionResult := { success := false, error := some e }

/-- The HTTP path of `_process_wallet_deduction`. -/
def walletDeductionHttp (charge : Charge) : BillingM DeductionResult :=
  (do
    let response ← ask (.walletHttpConsume charge)
    return DeductionResult.ofHttp "Wallet deduction failed" response).tryCatch
      fun e => return .raised e

/-- The client's path of `_process_wallet_deduction`, if there is a client and it answers. -/
def walletDeductionClient (charge : Charge) : BillingM (Option DeductionResult) :=
  if service.walletClient then
    (do
      let result ← ask (.walletClientConsume charge)
      return some (DeductionResult.of "Wallet deduction failed" result)).tryCatch
        fun _ => return none
  else return none

/-- `_process_wallet_deduction`: an exception of the client leads to the HTTP path. -/
def processWalletDeduction (charge : Charge) : BillingM DeductionResult := do
  match ← walletDeductionClient service charge with
  | some result => return result
  | none => walletDeductionHttp charge

def processPurchasedCreditConsumption (charge : Charge) : BillingM DeductionResult :=
  (do
    let response ← ask (.creditsHttpConsume charge)
    return DeductionResult.ofHttp "Credit consumption failed" response).tryCatch
      fun e => return .raised e

def DeductionResult.ofSubscription : Option ConsumeResult → DeductionResult
  | some result =>
    { DeductionResult.of "Subscription credit consumption failed" result with
      subscriptionId := result.subscriptionId }
  | none => .raised "No response"

def processSubscriptionCreditConsumption (charge : Charge) : BillingM DeductionResult :=
  if service.subscriptionClient then
    (do
      let result ← ask (.subscriptionClientConsume charge)
      return DeductionResult.ofSubscription result).tryCatch fun e => return .raised e
  else return .raised "Subscription client not available"

/-! ### Processing -/

def failed (message : String) (id : Option ℕ) : ProcessBillingResponse :=
  { success := false, message, billingRecordId := id }

def billed (message : String) (id : ℕ) (amount : ℚ) (method : BillingMethod)
    (walletTransactionId : Option PyStr) : ProcessBillingResponse :=
  { success := true, message, billingRecordId := some id, amountCharged := some amount
    billingMethodUsed := some method, walletTransactionId }

/-- The branch of `process_billing` for the wallet. -/
def billWallet (calculation : BillingCalculation) (id : ℕ) : BillingM ProcessBillingResponse := do
  let result ← processWalletDeduction service ⟨calculation.userId, calculation.totalCost, id⟩
  if result.success then do
    ask (.updateBillingRecordStatus id
      { status := .completed, walletTransactionId := result.transactionId })
    ask (.createBillingEvent
      { eventType := .billingProcessed, userId := calculation.userId
        billingRecordId := some id, amount := some calculation.totalCost })
    announce service (.billingProcessed id calculation.totalCost)
    return billed "Billing processed successfully via wallet" id calculation.totalCost
      .walletDeduction result.transactionId
  else do
    ask (.updateBillingRecordStatus id { status := .failed, failureReason := result.error })
    ask (.createBillingEvent
      { eventType := .billingFailed, userId := calculation.userId, billingRecordId := some id })
    let error := result.error.getD "None"
    return failed s!"Wallet deduction failed: {error}" (some id)

def billSubscription (calculation : BillingCalculation) (id : ℕ)
    (subscriptionId : Option PyStr) : BillingM ProcessBillingResponse := do
  let credits := convertToCredits calculation.totalCost calculation.currency
  let result ← processSubscriptionCreditConsumption service ⟨calculation.userId, credits, id⟩
  if result.success then do
    ask (.updateBillingRecordStatus id
      { status := .completed, paymentTransactionId := result.transactionId
        subscriptionId := orElse result.subscriptionId subscriptionId
        billingMethod := some .subscriptionCredit })
    return billed "Billing processed successfully via subscription credits" id
      calculation.totalCost .subscriptionCredit none
  else do
    ask (.updateBillingRecordStatus id
      { status := .failed
        failureReason := some (result.error.getD "Subscription credit consumption failed") })
    let error := result.error.getD "None"
    return failed s!"Subscription credit consumption failed: {error}" (some id)

def billCredits (calculation : BillingCalculation) (id : ℕ) :
    BillingM ProcessBillingResponse := do
  let credits := convertToCredits calculation.totalCost calculation.currency
  let result ← processPurchasedCreditConsumption ⟨calculation.userId, credits, id⟩
  if result.success then do
    ask (.updateBillingRecordStatus id
      { status := .completed, paymentTransactionId := result.transactionId })
    return billed "Billing processed successfully via purchased credits" id
      calculation.totalCost .creditConsumption none
  else do
    ask (.updateBillingRecordStatus id
      { status := .failed
        failureReason := some (result.error.getD "Purchased credit consumption failed") })
    let error := result.error.getD "None"
    return failed s!"Purchased credit consumption failed: {error}" (some id)

def billPayment (id : ℕ) : BillingM ProcessBillingResponse := do
  ask (.updateBillingRecordStatus id
    { status := .pending, failureReason := some "Payment processing not implemented" })
  return failed "Payment charge processing not implemented" (some id)

/-- The body of `process_billing`. -/
def bill (request : ProcessBillingRequest) (calculation : BillingCalculation) :
    BillingM ProcessBillingResponse := do
  let row := newRecord request.usageRecordId calculation request.billingMethod .processing
    request.subscriptionId request.chargedUpstream
  let id ← createBillingRecord service row
  match request.billingMethod with
  | .walletDeduction => billWallet service calculation id
  | .subscriptionIncluded => billSubscription service calculation id row.subscriptionId
  | .subscriptionCredit => billSubscription service calculation id row.subscriptionId
  | .creditConsumption => billCredits calculation id
  | .paymentCharge => billPayment id

/-- `process_billing`: what is raised is a failure. -/
def processBilling (request : ProcessBillingRequest) (calculation : Option BillingCalculation) :
    BillingM ProcessBillingResponse :=
  match calculation with
  | none => return failed "Calculation required for billing processing" none
  | some calculation =>
    (bill service request calculation).tryCatch fun e =>
      return failed s!"Error processing billing: {e}" none

end IsaUser.Billing
