import IsaUser.Lib.Faults
import IsaUser.Subscription.Model
import Mathlib.Data.Rat.Floor

/-!
# The Billing Service and its Collaborators

The records of the billing service (`models.py`, `billing_repository.py`), the calls that its
methods make, and what they do to the world: rows are written, messages are published, and
credits or money are deducted by other services.

The other services are not part of the model. `Collaborators` says how each of them behaves
in one piece of processing: what it answers, whether the connection fails before or after a
call has taken effect, and whether a deduction is made. What is answered to a deduction and
whether it is made are independent of each other: nothing is assumed of the other services.

Decimals are rational numbers. Fields that are only passed along (agents, organizations,
account types, units, metadata other than what is recorded here) are left out.
-/

namespace IsaUser.Billing

/-! ### Rows -/

inductive BillingStatus where
  | pending
  | processing
  | completed
  | failed
  | refunded
  deriving DecidableEq, Repr

inductive BillingMethod where
  | walletDeduction
  | paymentCharge
  | creditConsumption
  | subscriptionCredit
  | subscriptionIncluded
  deriving DecidableEq, Repr

inductive Currency where
  | usd
  | cny
  | credit
  deriving DecidableEq, Repr

/-- `EventType`, of the events that are modelled. -/
inductive EventType where
  | billingProcessed
  | billingFailed
  | quotaExceeded
  deriving DecidableEq, Repr

/-- A row of `billing_records`; the last three fields are entries of `billing_metadata`. -/
structure BillingRecord where
  userId : PyStr
  subscriptionId : Option PyStr
  usageRecordId : PyStr
  productId : PyStr
  usageAmount : ℚ
  unitPrice : ℚ
  totalAmount : ℚ
  currency : Currency
  billingMethod : BillingMethod
  billingStatus : BillingStatus
  failureReason : Option String := none
  walletTransactionId : Option PyStr := none
  paymentTransactionId : Option PyStr := none
  isFreeTier : Bool
  isIncludedInSubscription : Bool
  chargedUpstream : Bool
  deriving DecidableEq

/-- What `update_billing_record_status` sets. -/
structure StatusUpdate where
  status : BillingStatus
  failureReason : Option String := none
  walletTransactionId : Option PyStr := none
  paymentTransactionId : Option PyStr := none
  subscriptionId : Option PyStr := none
  billingMethod : Option BillingMethod := none
  deriving DecidableEq

/-- `UPDATE billing_records`: what is not given keeps its value, except the reason. -/
def StatusUpdate.apply (u : StatusUpdate) (row : BillingRecord) : BillingRecord :=
  { row with
    billingStatus := u.status
    failureReason := u.failureReason
    walletTransactionId := u.walletTransactionId <|> row.walletTransactionId
    paymentTransactionId := u.paymentTransactionId <|> row.paymentTransactionId
    subscriptionId := u.subscriptionId <|> row.subscriptionId
    billingMethod := u.billingMethod.getD row.billingMethod }

/-- A row of `billing_events`. -/
structure BillingEvent where
  eventType : EventType
  userId : PyStr
  billingRecordId : Option ℕ := none
  amount : Option ℚ := none
  deriving DecidableEq

/-- `BillingCalculatedEventData`, the data of the event that the handler of usage events
publishes. -/
structure BillingCalculatedEventData where
  userId : PyStr
  billingRecordId : PyStr ⊕ ℕ
  productId : PyStr
  actualUsage : ℚ
  tokenEquivalent : ℚ
  costUsd : ℚ
  unitPrice : ℚ
  tokenConversionRate : ℚ
  isFreeTier : Bool
  isIncludedInSubscription : Bool
  usageEventId : PyStr
  deriving DecidableEq

/-- A message on the event bus. Two of them have the subject `billing.calculated`: the one
that a calculation publishes, and the one of the handler of usage events. -/
inductive Message where
  | recordCreated (billingRecordId : ℕ) (status : BillingStatus)
  | billingProcessed (billingRecordId : ℕ) (amount : ℚ)
  | quotaExceeded (userId productId : PyStr) (requested : ℚ)
  | costCalculated (userId productId : PyStr) (usageAmount totalCost : ℚ)
      (isFreeTier isIncludedInSubscription : Bool) (method : BillingMethod)
  | billingCalculated (data : BillingCalculatedEventData)
  | billingError (userId productId : PyStr) (errorCode errorMessage : String)
  deriving DecidableEq

/-! ### Calls -/

/-- What a consumption is asked for: a user, an amount, and the billing record. -/
structure Charge where
  userId : PyStr
  amount : ℚ
  reference : ℕ
  deriving DecidableEq

inductive Account where
  | wallet
  | purchasedCredits
  | subscriptionCredits
  deriving DecidableEq, Repr

structure ConsumeResult where
  success : Bool
  transactionId : Option PyStr := none
  message : Option String := none
  subscriptionId : Option PyStr := none
  deriving DecidableEq

inductive HttpResponse where
  | ok (result : ConsumeResult)
  | status (code : ℕ)
  deriving DecidableEq

def HttpResponse.success : HttpResponse → Bool
  | ok result => result.success
  | status _ => false

/-- A `Decimal` or a `float`: a rational number, or one of those that are not. -/
inductive Decimal where
  | finite (q : ℚ)
  | infinite (positive : Bool)
  | nan
  | signaling
  deriving DecidableEq, Repr

/-- What `calculate_billing_cost` reads in the answer of the product service to a price
calculation: the price of a unit, the total, the currency, and the limit of the free tier. -/
structure Pricing where
  unitPrice : Decimal
  total : Decimal
  currency : Currency
  freeTierLimit : Decimal
  deriving DecidableEq

/-- An answer to a price calculation: it cannot be read, and reading it raises this, or it can. -/
inductive PriceAnswer where
  | unreadable (error : String)
  | priced (pricing : Pricing)
  deriving DecidableEq

/-- `_get_user_balances`. -/
structure Balances where
  subscriptionCredits : ℤ
  purchasedCredits : ℤ
  walletBalance : Option ℚ
  subscriptionId : Option PyStr
  deriving DecidableEq

/-- `BillingQuota`, as far as the check reads it. -/
structure BillingQuota where
  quotaLimit : ℚ
  quotaUsed : ℚ
  deriving DecidableEq

/-- How a handler enters the lock of its event: with the lock, with the cached result of an
earlier handling, or without either, as another replica is at it. -/
inductive LockEntry where
  | acquired
  | cached
  | contended
  deriving DecidableEq, Repr

inductive Call where
  /-- `INSERT INTO billing_records`. -/
  | createBillingRecord (row : BillingRecord)
  /-- `UPDATE billing_records`. -/
  | updateBillingRecordStatus (id : ℕ) (update : StatusUpdate)
  /-- `INSERT INTO billing_events`. -/
  | createBillingEvent (event : BillingEvent)
  /-- `get_billing_quota`. -/
  | getBillingQuota (userId productId : PyStr)
  /-- `wallet_client.consume`. -/
  | walletClientConsume (charge : Charge)
  /-- `POST /api/v1/wallets/consume`. -/
  | walletHttpConsume (charge : Charge)
  /-- `subscription_client.consume_credits`. -/
  | subscriptionClientConsume (charge : Charge)
  /-- `POST /api/v1/credits/consume`. -/
  | creditsHttpConsume (charge : Charge)
  /-- `_record_usage_to_product_service`. -/
  | recordUsage (userId productId : PyStr) (usageAmount : ℚ)
  /-- `_get_product_pricing`, as far as it is read. -/
  | getProductPricing (productId : PyStr) (usageAmount : ℚ)
  /-- `_get_subscription_info`: the included products with their amounts. -/
  | getSubscriptionInfo (subscriptionId : PyStr)
  /-- `_get_user_balances`. -/
  | getUserBalances (userId : PyStr)
  /-- `event_bus.publish_event`. -/
  | publishEvent (message : Message)
  /-- `int(datetime.utcnow().timestamp())`. -/
  | utcTimestamp
  /-- `is_event_processed`, in the memory of the replica. -/
  | isEventProcessed (eventId : PyStr)
  /-- `mark_event_processed`. -/
  | markEventProcessed (eventId : PyStr)
  /-- The entry of `_event_lock_guard`. -/
  | enterEventLock (eventId : PyStr)
  /-- `claim_event_processing`. -/
  | claimEventProcessing (claimKey : PyStr)
  /-- `mark_event_processing_completed`. -/
  | markEventProcessingCompleted (claimKey : PyStr)
  /-- `mark_event_processing_failed`. -/
  | markEventProcessingFailed (claimKey : PyStr) (errorMessage : String)

@[reducible] def Call.Reply : Call → Type
  | createBillingRecord _ => ℕ
  | updateBillingRecordStatus _ _ => Unit
  | createBillingEvent _ => Unit
  | getBillingQuota _ _ => Option BillingQuota
  | walletClientConsume _ => ConsumeResult
  | walletHttpConsume _ => HttpResponse
  | subscriptionClientConsume _ => Option ConsumeResult
  | creditsHttpConsume _ => HttpResponse
  | recordUsage _ _ _ => Option PyStr
  | getProductPricing _ _ => Option PriceAnswer
  | getSubscriptionInfo _ => Option (List (PyStr × ℚ))
  | getUserBalances _ => Balances
  | publishEvent _ => Unit
  | utcTimestamp => ℤ
  | isEventProcessed _ => Bool
  | markEventProcessed _ => Unit
  | enterEventLock _ => LockEntry
  | claimEventProcessing _ => Bool
  | markEventProcessingCompleted _ => Unit
  | markEventProcessingFailed _ _ => Unit

abbrev BillingApi : Interface := Interface.fallible ⟨Call, Call.Reply⟩ String

abbrev BillingM := Prog BillingApi String

def ask (c : Call) : BillingM c.Reply :=
  @Prog.query ⟨Call, Call.Reply⟩ String String id c

def quietly (p : BillingM Unit) : BillingM Unit := p.tryCatch fun _ => return ()

/-! ### The world -/

structure Deduction where
  account : Account
  charge : Charge
  deriving DecidableEq

structure World where
  records : Table BillingRecord
  events : Table BillingEvent
  deductions : List Deduction
  published : List Message

def World.empty : World := ⟨.empty, .empty, [], []⟩

/-- How a deduction fares: what is answered, and whether it is made. -/
structure Fate (ρ : Type) where
  answer : Except String ρ
  took : Bool
  deriving DecidableEq

structure Collaborators where
  createRecord : Link
  updateStatus : Link
  createEvent : Link
  publish : Message → Link
  quota : Except String (Option BillingQuota)
  walletClient : Fate ConsumeResult
  walletHttp : Fate HttpResponse
  subscriptionClient : Fate (Option ConsumeResult)
  creditsHttp : Fate HttpResponse
  usageRecordId : Option PyStr
  pricing : Option PriceAnswer
  subscriptionInfo : Option (List (PyStr × ℚ))
  balances : Balances
  timestamp : ℤ
  eventProcessed : PyStr → Bool
  eventLock : Except String LockEntry
  claim : Except String Bool
  markCompleted : Except String Unit
  markFailed : Except String Unit

def connectionError : String := "connection error"

def Fate.deduct {ρ : Type} (fate : Fate ρ) (deduction : Deduction) (w : World) :
    Except String ρ × World :=
  (fate.answer,
    if fate.took then { w with deductions := w.deductions ++ [deduction] } else w)

def collaborate (c : Collaborators) : Handler BillingApi World
  | .createBillingRecord row, w =>
    c.createRecord.send connectionError
      (w.records.size, { w with records := w.records.insert row }) w
  | .updateBillingRecordStatus id update, w =>
    c.updateStatus.send connectionError
      ((), { w with records := w.records.modify id update.apply }) w
  | .createBillingEvent event, w =>
    c.createEvent.send connectionError ((), { w with events := w.events.insert event }) w
  | .getBillingQuota _ _, w => (c.quota, w)
  | .walletClientConsume charge, w => c.walletClient.deduct ⟨.wallet, charge⟩ w
  | .walletHttpConsume charge, w => c.walletHttp.deduct ⟨.wallet, charge⟩ w
  | .subscriptionClientConsume charge, w =>
    c.subscriptionClient.deduct ⟨.subscriptionCredits, charge⟩ w
  | .creditsHttpConsume charge, w => c.creditsHttp.deduct ⟨.purchasedCredits, charge⟩ w
  | .recordUsage _ _ _, w => (.ok c.usageRecordId, w)
  | .getProductPricing _ _, w => (.ok c.pricing, w)
  | .getSubscriptionInfo _, w => (.ok c.subscriptionInfo, w)
  | .getUserBalances _, w => (.ok c.balances, w)
  | .publishEvent message, w =>
    (c.publish message).send connectionError
      ((), { w with published := w.published ++ [message] }) w
  | .utcTimestamp, w => (.ok c.timestamp, w)
  | .isEventProcessed eventId, w => (.ok (c.eventProcessed eventId), w)
  | .markEventProcessed _, w => (.ok (), w)
  | .enterEventLock _, w => (c.eventLock, w)
  | .claimEventProcessing _, w => (c.claim, w)
  | .markEventProcessingCompleted _, w => (c.markCompleted, w)
  | .markEventProcessingFailed _ _, w => (c.markFailed, w)

def Call.execute (w : World) : Call → World
  | createBillingRecord row => { w with records := w.records.insert row }
  | updateBillingRecordStatus id update =>
    { w with records := w.records.modify id update.apply }
  | createBillingEvent event => { w with events := w.events.insert event }
  | walletClientConsume charge => { w with deductions := w.deductions ++ [⟨.wallet, charge⟩] }
  | walletHttpConsume charge => { w with deductions := w.deductions ++ [⟨.wallet, charge⟩] }
  | subscriptionClientConsume charge =>
    { w with deductions := w.deductions ++ [⟨.subscriptionCredits, charge⟩] }
  | creditsHttpConsume charge =>
    { w with deductions := w.deductions ++ [⟨.purchasedCredits, charge⟩] }
  | publishEvent message => { w with published := w.published ++ [message] }
  | _ => w

theorem collaborate_cases (c : Collaborators) (call : Call) (w : World) :
    (collaborate c call w).2 = w ∨ (collaborate c call w).2 = call.execute w := by
  have hsend : ∀ {ρ : Type} (link : Link) (executed : ρ × World),
      (link.send connectionError executed w).2 = w ∨
        (link.send connectionError executed w).2 = executed.2 := by
    intro ρ link executed
    cases link with
    | up => exact .inr rfl
    | down => exact .inl rfl
    | lost => exact .inr rfl
  have hdeduct : ∀ {ρ : Type} (fate : Fate ρ) (deduction : Deduction),
      (fate.deduct deduction w).2 = w ∨ (fate.deduct deduction w).2 =
        { w with deductions := w.deductions ++ [deduction] } := by
    intro ρ fate deduction
    rw [Fate.deduct]
    split
    · exact .inr rfl
    · exact .inl rfl
  cases call with
  | createBillingRecord row => exact hsend _ _
  | updateBillingRecordStatus id update => exact hsend _ _
  | createBillingEvent event => exact hsend _ _
  | publishEvent message => exact hsend _ _
  | walletClientConsume charge => exact hdeduct _ _
  | walletHttpConsume charge => exact hdeduct _ _
  | subscriptionClientConsume charge => exact hdeduct _ _
  | creditsHttpConsume charge => exact hdeduct _ _
  | _ => exact .inl rfl

/-! ### Programs that call -/

variable {α : Type} {call : Call}

theorem wp_ask {c : Collaborators} {Q : Except String call.Reply → World → Prop} {w : World} :
    (ask call).wp (collaborate c) Q w ↔ Q (collaborate c call w).1 (collaborate c call w).2 := by
  refine Prog.wp_query.trans ?_
  cases (collaborate c call w).1 <;> rfl

variable {P : BillingApi.Call → Prop} {Q : Except String α → Prop}

theorem obeys_ask {f : call.Reply → BillingM α} (hcall : P call) (hraise : ∀ e, Q (.error e))
    (hf : ∀ r, (f r).Obeys P Q) : (ask call >>= f).Obeys P Q := by
  refine Prog.Obeys.bind (Q := fun _ => True) (Prog.obeys_query hcall fun _ => trivial)
    (fun r _ => hf r) fun e _ => hraise e

theorem caught_only (hcall : P call) (result : call.Reply → α) (recovered : String → α) :
    ((ask call >>= fun r => return result r : BillingM α).tryCatch fun e =>
      (return recovered e : BillingM α)).Only P := by
  refine Prog.Only.tryCatch (Prog.Only.bind (Prog.only_query hcall) fun r => ?_) fun e => ?_
  · trivial
  · trivial

theorem quietly_obeys {p : BillingM Unit} (hp : p.Only P) :
    (quietly p).Obeys P fun r => r = .ok () :=
  hp.obeys.tryCatch (fun _ _ => rfl) fun _ _ => rfl

end IsaUser.Billing
