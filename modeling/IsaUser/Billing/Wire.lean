import IsaUser.Billing.Downstream
import IsaUser.Lib.Json

/-!
# The Event on the Wire

Two places of the billing service publish events of the type `billing.calculated`:
`calculate_billing_cost` builds the data by hand, and `publish_billing_calculated` dumps a data
class of its own (`events/models.py`). The wallet service reads every event of the type by a
data class that it has written independently, and builds a `ConsumeRequest` from what it reads.

The data travel as JSON, so a decimal number is sent as a double and read back from the
shortest text of it.
-/

namespace IsaUser.Billing

/-! ### The publishers -/

def Currency.text : Currency → PyStr
  | usd => "USD".toList
  | cny => "CNY".toList
  | credit => "CREDIT".toList

def BillingMethod.text : BillingMethod → PyStr
  | walletDeduction => "wallet_deduction".toList
  | paymentCharge => "payment_charge".toList
  | creditConsumption => "credit_consumption".toList
  | subscriptionCredit => "subscription_credit".toList
  | subscriptionIncluded => "subscription_included".toList

/-- What `calculate_billing_cost` puts into its event. -/
structure CostCalculated where
  userId : PyStr
  actorUserId : Option PyStr
  billingAccountType : Option PyStr
  billingAccountId : Option PyStr
  organizationId : Option PyStr
  agentId : Option PyStr
  productId : PyStr
  usageAmount : ℚ
  unitPrice : ℚ
  totalCost : ℚ
  currency : Currency
  isFreeTier : Bool
  isIncludedInSubscription : Bool
  suggestedBillingMethod : BillingMethod
  timestamp : PyStr

/-- The arguments of `publish_billing_calculated`, and the time it reads. -/
structure PublishBillingCalculated where
  userId : PyStr
  billingRecordId : PyStr
  productId : PyStr
  actualUsage : ℚ
  unitType : PyStr
  tokenEquivalent : ℚ
  costUsd : ℚ
  unitPrice : ℚ
  tokenConversionRate : ℚ
  isFreeTier : Bool
  isIncludedInSubscription : Bool
  usageEventId : Option PyStr
  timestamp : PyStr

/-- An event of the type `billing.calculated`, by the place that publishes it. -/
inductive CalculatedEvent where
  | cost (data : CostCalculated)
  | billing (data : PublishBillingCalculated)

/-- A text or `None`. -/
def Json.ofText : Option PyStr → Json
  | none => .null
  | some s => .str s

/-- `event.data`, of either place. -/
def CalculatedEvent.payload : CalculatedEvent → JsonDict
  | cost data =>
    [("user_id", .str data.userId),
      ("actor_user_id", Json.ofText data.actorUserId),
      ("billing_account_type", Json.ofText data.billingAccountType),
      ("billing_account_id", Json.ofText data.billingAccountId),
      ("organization_id", Json.ofText data.organizationId),
      ("agent_id", Json.ofText data.agentId),
      ("product_id", .str data.productId),
      ("usage_amount", .float (float data.usageAmount)),
      ("unit_price", .float (float data.unitPrice)),
      ("total_cost", .float (float data.totalCost)),
      ("currency", .str data.currency.text),
      ("is_free_tier", .bool data.isFreeTier),
      ("is_included_in_subscription", .bool data.isIncludedInSubscription),
      ("suggested_billing_method", .str data.suggestedBillingMethod.text),
      ("timestamp", .str data.timestamp)]
  | billing data =>
    [("user_id", .str data.userId),
      ("billing_record_id", .str data.billingRecordId),
      ("usage_event_id", Json.ofText data.usageEventId),
      ("product_id", .str data.productId),
      ("actual_usage", .float (float data.actualUsage)),
      ("unit_type", .str data.unitType),
      ("token_equivalent", .float (float data.tokenEquivalent)),
      ("cost_usd", .float (float data.costUsd)),
      ("unit_price", .float (float data.unitPrice)),
      ("token_conversion_rate", .float (float data.tokenConversionRate)),
      ("is_free_tier", .bool data.isFreeTier),
      ("is_included_in_subscription", .bool data.isIncludedInSubscription),
      ("timestamp", .str data.timestamp)]

/-! ### The consumer -/

/-- `parse_billing_calculated_event`, of the data on the wire. -/
def readBillingCalculated (c : Coercions) (data : JsonDict) : Option WalletBillingData := do
  let userId ← requiredField data "user_id" Coercions.string
  let billingRecordId ← requiredField data "billing_record_id" Coercions.string
  let tokenEquivalent ← requiredField data "token_equivalent" c.asDecimal
  let costUsd ← requiredField data "cost_usd" c.asDecimal
  let isFreeTier ← defaultField data "is_free_tier" c.asBoolean false
  let isIncludedInSubscription ←
    defaultField data "is_included_in_subscription" c.asBoolean false
  let productId ← optionalField data "product_id" Coercions.string
  let usageEventId ← optionalField data "usage_event_id" Coercions.string
  return { userId, billingRecordId := .inl billingRecordId, tokenEquivalent, costUsd, isFreeTier
           isIncludedInSubscription, productId, usageEventId }

/-- The number has at most `n` decimal places. -/
def HasPlaces (n : ℕ) (q : ℚ) : Prop := (q * 10 ^ n).den = 1
  deriving Decidable

/-- `ConsumeRequest` of the wallet service. -/
structure ConsumeRequest where
  amount : ℚ
  description : Option PyStr
  usageRecordId : Option ℤ
  /-- `gt=0`. -/
  amount_pos : 0 < amount
  /-- `decimal_places=8`. -/
  amount_places : HasPlaces 8 amount

/-- `ConsumeRequest(...)`, where the usage record is named by a text. -/
def ConsumeRequest.make (c : Coercions) (amount : ℚ) (description usageRecordId : PyStr) :
    Option ConsumeRequest :=
  if h : 0 < amount ∧ HasPlaces 8 amount then
    (c.integer usageRecordId).map fun id => ⟨amount, some description, some id, h.1, h.2⟩
  else none

def recordText (recordName : ℕ → PyStr) : PyStr ⊕ ℕ → PyStr
  | .inl text => text
  | .inr id => recordName id

/-- The request that `_process_billing_calculated` builds to deduct what the data say. -/
def WalletBillingData.consumeRequest (c : Coercions) (recordName : ℕ → PyStr)
    (data : WalletBillingData) : Option ConsumeRequest :=
  ConsumeRequest.make c data.tokenEquivalent
    ("Usage charge for ".toList ++ data.productId.getD "None".toList)
    (recordText recordName data.billingRecordId)

/-! ### The law -/

def CalculatedEvent.Recovered (data : WalletBillingData) : CalculatedEvent → Prop
  | cost _ => False
  | billing sent =>
    data.userId = sent.userId ∧ data.billingRecordId = .inl sent.billingRecordId ∧
      data.tokenEquivalent = sent.tokenEquivalent ∧ data.isFreeTier = sent.isFreeTier ∧
      data.isIncludedInSubscription = sent.isIncludedInSubscription

def WalletBillingData.Chargeable (data : WalletBillingData) : Prop :=
  processBillingCalculated data = .deduct data.tokenEquivalent ∧ 0 < data.tokenEquivalent

/-- **The publisher and the consumer agree**: the event is read as it was sent, and if it is
chargeable, the request to deduct it can be built. -/
def CalculatedEvent.Agrees (c : Coercions) (recordName : ℕ → PyStr) (event : CalculatedEvent) :
    Prop :=
  ∃ data, readBillingCalculated c event.payload = some data ∧ event.Recovered data ∧
    (data.Chargeable → (data.consumeRequest c recordName).isSome)

/-- An event of `publish_billing_calculated` whose tokens survive and whose cost is finite as a
double, and which, if it is to be charged, names its record by an integer and its tokens with
no more than eight decimal places. -/
def CalculatedEvent.Readable (c : Coercions) : CalculatedEvent → Prop
  | cost _ => False
  | billing data =>
    Survives data.tokenEquivalent ∧ (float data.costUsd).isSome ∧
      (data.isFreeTier = false → data.isIncludedInSubscription = false →
        0 < data.tokenEquivalent →
          (c.integer data.billingRecordId).isSome ∧ HasPlaces 8 data.tokenEquivalent)

section Wire

variable (c : Coercions)

/-- What the wallet service reads of an event of `publish_billing_calculated`. -/
theorem read_billing (data : PublishBillingCalculated) :
    readBillingCalculated c (CalculatedEvent.billing data).payload =
      (throughDouble data.tokenEquivalent).bind fun tokenEquivalent =>
        (throughDouble data.costUsd).map fun costUsd =>
          { userId := data.userId, billingRecordId := .inl data.billingRecordId, tokenEquivalent
            costUsd, isFreeTier := data.isFreeTier
            isIncludedInSubscription := data.isIncludedInSubscription
            productId := some data.productId, usageEventId := data.usageEventId } := by
  set sent := (CalculatedEvent.billing data).payload
  have huser : sent.get? "user_id" = some (.str data.userId) := rfl
  have hrecord : sent.get? "billing_record_id" = some (.str data.billingRecordId) := rfl
  have htokens : sent.get? "token_equivalent" = some (.float (float data.tokenEquivalent)) := rfl
  have hcost : sent.get? "cost_usd" = some (.float (float data.costUsd)) := rfl
  have hfree : sent.get? "is_free_tier" = some (.bool data.isFreeTier) := rfl
  have hincluded : sent.get? "is_included_in_subscription"
      = some (.bool data.isIncludedInSubscription) := rfl
  have hproduct : sent.get? "product_id" = some (.str data.productId) := rfl
  have husage : optionalField sent "usage_event_id" Coercions.string
      = some data.usageEventId := by
    have hget : sent.get? "usage_event_id" = some (Json.ofText data.usageEventId) := rfl
    rw [optionalField, hget]
    cases data.usageEventId <;> rfl
  rw [readBillingCalculated,
    requiredField_of_get? htokens, requiredField_of_get? hcost, defaultField_of_get? hfree,
    defaultField_of_get? hincluded, husage]
  rw [Coercions.asDecimal_float, Coercions.asDecimal_float]
  cases throughDouble data.tokenEquivalent with
  | none => rfl
  | some tokens =>
    cases throughDouble data.costUsd with
    | none => rfl
    | some cost => rfl

theorem read_cost (data : CostCalculated) :
    readBillingCalculated c (CalculatedEvent.cost data).payload = none := by
  rfl

theorem make_isSome {amount : ℚ} {description usageRecordId : PyStr} :
    (ConsumeRequest.make c amount description usageRecordId).isSome ↔
      0 < amount ∧ HasPlaces 8 amount ∧ (c.integer usageRecordId).isSome := by
  rw [ConsumeRequest.make]
  split
  case isTrue h => simp [h]
  case isFalse h =>
    refine iff_of_false nofun fun ⟨hpos, hplaces, _⟩ => h ⟨hpos, hplaces⟩

theorem chargeable_iff {data : WalletBillingData} :
    data.Chargeable ↔
      data.isFreeTier = false ∧ data.isIncludedInSubscription = false ∧
        0 < data.tokenEquivalent := by
  rw [WalletBillingData.Chargeable, processBillingCalculated]
  cases data.isFreeTier <;> cases data.isIncludedInSubscription <;> simp

/-- The events of `publish_billing_calculated`. -/
theorem agrees_billing_iff (recordName : ℕ → PyStr) (sent : PublishBillingCalculated) :
    (CalculatedEvent.billing sent).Agrees c recordName ↔
      (CalculatedEvent.billing sent).Readable c := by
  rw [CalculatedEvent.Agrees, read_billing]
  constructor
  · rintro ⟨data, hread, ⟨-, -, htokens, -⟩, hbuild⟩
    obtain ⟨tokens, hsurvives, hread⟩ := Option.bind_eq_some_iff.mp hread
    obtain ⟨cost, hcost, rfl⟩ := Option.map_eq_some_iff.mp hread
    obtain rfl : tokens = sent.tokenEquivalent := htokens
    have hfinite : (float sent.costUsd).isSome := by
      obtain ⟨x, hx, -⟩ := Option.map_eq_some_iff.mp hcost
      rw [hx, Option.isSome_some]
    refine ⟨hsurvives, hfinite, fun hfree hincluded hpos => ?_⟩
    have hsome := hbuild (chargeable_iff.mpr ⟨hfree, hincluded, hpos⟩)
    obtain ⟨-, hplaces, hinteger⟩ := (make_isSome c).mp hsome
    exact ⟨hinteger, hplaces⟩
  · rintro ⟨hsurvives, hfinite, hbuild⟩
    obtain ⟨x, hx⟩ := Option.isSome_iff_exists.mp hfinite
    have hcost : throughDouble sent.costUsd = some (shortest x) := by
      rw [throughDouble, hx, Option.map_some]
    rw [hsurvives, hcost]
    refine ⟨_, rfl, ⟨rfl, rfl, rfl, rfl, rfl⟩, fun hcharge => ?_⟩
    obtain ⟨hfree, hincluded, hpos⟩ := chargeable_iff.mp hcharge
    obtain ⟨hinteger, hplaces⟩ := hbuild hfree hincluded hpos
    exact (make_isSome c).mpr ⟨hpos, hplaces, hinteger⟩

/-- **When the publisher and the consumer agree.** -/
theorem agrees_iff_readable (recordName : ℕ → PyStr) (event : CalculatedEvent) :
    event.Agrees c recordName ↔ event.Readable c := by
  cases event with
  | cost sent =>
    refine iff_of_false ?_ nofun
    rintro ⟨data, hread, -⟩
    rw [read_cost] at hread
    cases hread
  | billing sent => exact agrees_billing_iff c recordName sent

def number (s : PyStr) : Option ℤ :=
  if s ≠ [] ∧ s.all Char.isDigit then
    some (s.foldl (fun n digit => 10 * n + (digit.toNat - '0'.toNat : ℕ)) 0)
  else none

def digitsOnly : Coercions where
  decimal s := (number s).map fun n => (n : ℚ)
  integer := number
  boolean s := if s = "true".toList then some true
    else if s = "false".toList then some false else none

/-- A billing record has a name of its own, which is no integer: its charge cannot be
requested. -/
theorem named_record_disagrees :
    ¬ ∀ event : CalculatedEvent, event.Agrees digitsOnly fun n => (toString n).toList := by
  intro h
  have hreadable := (agrees_billing_iff digitsOnly _ _).mp <| h <| .billing
    { userId := "user_1".toList, billingRecordId := "bill_0123456789ab".toList
      productId := "gpt-4".toList, actualUsage := 5, unitType := "token".toList
      tokenEquivalent := 5, costUsd := 1 / 100, unitPrice := 1 / 500, tokenConversionRate := 1
      isFreeTier := false, isIncludedInSubscription := false, usageEventId := none
      timestamp := "2025-01-01T00:00:00".toList }
  have hinteger := (hreadable.2.2 rfl rfl (by decide +kernel)).1
  exact absurd hinteger (by decide +kernel)

end Wire

end IsaUser.Billing
