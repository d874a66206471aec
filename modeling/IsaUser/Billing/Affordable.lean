import IsaUser.Billing.Downstream
import IsaUser.Billing.Payload

/-!
# Suggestions that Can Be Paid

`calculate_billing_cost` suggests the first account that covers the price: subscription credits,
purchased credits, the wallet. The price in credits is cut off, and for the wallet it is turned
into money again. `process_billing` charges at least one credit, and the wallet the total as it
is, in whatever currency.
-/

open IsaUser.Prog

namespace IsaUser.Billing

open Subscriptions (truthy)

/-! ### What is charged -/

/-- The amount that `process_billing` charges for a method. -/
def amountCharged (calculation : BillingCalculation) : BillingMethod → ℚ
  | .walletDeduction => calculation.totalCost
  | _ => convertToCredits calculation.totalCost calculation.currency

def Balances.of (balances : Balances) : BillingMethod → Option ℚ
  | .subscriptionCredit => some balances.subscriptionCredits
  | .creditConsumption => some balances.purchasedCredits
  | .walletDeduction => balances.walletBalance
  | _ => none

def Call.charge? : Call → Option Charge
  | walletClientConsume charge => some charge
  | walletHttpConsume charge => some charge
  | subscriptionClientConsume charge => some charge
  | creditsHttpConsume charge => some charge
  | _ => none

section Charges

variable {service : BillingService} {amount : ℚ}

def Charges (amount : ℚ) (call : BillingApi.Call) : Prop :=
  ∀ charge ∈ Call.charge? call, charge.amount = amount

theorem charges_ask {call : Call} (h : call.charge? = none) : (ask call).Only (Charges amount) :=
  only_query fun charge hcharge => by
    rw [h] at hcharge
    cases hcharge

theorem charges_announce (message : Message) :
    (announce service message).Only (Charges amount) :=
  (announce_obeys (P := Charges amount) service fun _ h => by cases h).only

theorem charges_of_eq {call : BillingApi.Call} {charge : Charge}
    (h : Call.charge? call = some charge) (hamount : charge.amount = amount) :
    Charges amount call := by
  intro charge' h'
  rw [h] at h'
  obtain rfl := Option.some.inj h'
  exact hamount

theorem charges_credits {charge : Charge} (h : charge.amount = amount) :
    (processPurchasedCreditConsumption charge).Only (Charges amount) :=
  caught_only (charges_of_eq rfl h) _ _

end Charges

def Collaborators.answering (c : Collaborators) (conv : Conversions) (usageAmount : ℚ)
    (payload : Json) : Collaborators :=
  { c with pricing := readPricing conv usageAmount payload }

def Collaborators.included (c : Collaborators) (request : BillingCalculationRequest) : Bool :=
  isUsageIncludedInSubscription request.productId request.usageAmount
    (if truthy request.subscriptionId then c.subscriptionInfo.getD [] else [])

section Law

variable (service : BillingService) (c : Collaborators) (request : BillingCalculationRequest)

/-- **What is suggested can be paid.** A calculation that suggests an account for usage that is
not free, of a positive total, is charged no more than the account has. -/
def SuggestsAffordable (w : World) : Prop :=
  ∀ calculation w', (calculateBillingCost service request).run (collaborate c) w =
      (.ok calculation, w') →
    calculation.success = true → calculation.isFreeTier = false →
    calculation.isIncludedInSubscription = false → 0 < calculation.totalCost →
    ∀ balance ∈ c.balances.of calculation.suggestedBillingMethod,
      amountCharged calculation calculation.suggestedBillingMethod ≤ balance

/-- The usage has this price: the answer can be read, the usage is not free, and nothing in the
calculation fails. -/
structure Priced (totalCost : ℚ) (pricing : Pricing) : Prop where
  answer : c.pricing = some (.priced pricing)
  notFree : pricing.isFreeTier request.usageAmount = false
  notIncluded : c.included request = false
  total : pricing.total = .finite totalCost
  positive : 0 < totalCost
  valid : pricing.invalid = false
  fits : c.balances.overflows (inCredits totalCost pricing.currency) = false

end Law

/-- A price of less than a credit is covered by a credit where credits are suggested for it, and
a wallet that covers as many whole credits covers the total itself. -/
structure CoversRest (balances : Balances) (totalCost : ℚ) (currency : Currency) : Prop where
  credit : inCredits totalCost currency = 0 →
    if 0 ≤ balances.subscriptionCredits then 1 ≤ balances.subscriptionCredits
    else 0 ≤ balances.purchasedCredits → 1 ≤ balances.purchasedCredits
  wallet : balances.subscriptionCredits < inCredits totalCost currency →
    balances.purchasedCredits < inCredits totalCost currency →
      balances.walletCovers (inCredits totalCost currency) = true →
        ∀ balance ∈ balances.walletBalance, totalCost ≤ balance

/-! ### What a calculation returns -/

def Collaborators.calculated (c : Collaborators) (request : BillingCalculationRequest)
    (pricing : Pricing) : BillingCalculation :=
  match pricing.due request.usageAmount (c.included request) with
  | .finite totalCost =>
    if c.balances.overflows (inCredits totalCost pricing.currency) then
      failedLate request c.balances "int too large to convert to float"
    else
      quote request pricing c.balances totalCost (pricing.isFreeTier request.usageAmount)
        (c.included request)
  | totalCost => failedLate request c.balances totalCost.intError

section Runs

variable {service : BillingService} {c : Collaborators} {request : BillingCalculationRequest}
  {pricing : Pricing} {w : World}

variable (service c w) in
theorem announce_run (message : Message) : ∃ w',
    (announce service message).run (collaborate c) w = (.ok (), w') ∧ w'.records = w.records := by
  rw [announce]
  split
  · cases hlink : c.publish message with
    | up | lost | down =>
      refine ⟨_, by simp [quietly, ask, query, collaborate, hlink, Link.send]; rfl, ?_⟩
      rfl
  · exact ⟨w, rfl, rfl⟩

variable (c w) in
theorem includedProducts_run (subscriptionId : Option PyStr) :
    (includedProducts subscriptionId).run (collaborate c) w =
      (.ok (if truthy subscriptionId then c.subscriptionInfo.getD [] else []), w) := by
  match subscriptionId with
  | none => rfl
  | some [] => rfl
  | some (_ :: _) => rfl

theorem calculatePriced_run : ∃ w',
    (calculatePriced service request pricing).run (collaborate c) w =
      (.ok (c.calculated request pricing), w') ∧ w'.records = w.records := by
  have hincluded := includedProducts_run c w request.subscriptionId
  rw [calculatePriced, run_bind_of_ok hincluded]
  have hbalances : (ask (.getUserBalances request.userId)).run (collaborate c) w =
      (.ok c.balances, w) := rfl
  rw [Collaborators.calculated]
  change ∃ w', (match pricing.due request.usageAmount (c.included request) with
    | .finite totalCost => _
    | totalCost => _ : BillingM BillingCalculation).run (collaborate c) w = _ ∧ _
  cases pricing.due request.usageAmount (c.included request) with
  | finite totalCost =>
    dsimp only
    split
    · exact ⟨w, rfl, rfl⟩
    · obtain ⟨w', hannounce, hrecords⟩ := announce_run service c w
        (.costCalculated request.userId request.productId request.usageAmount totalCost
          (pricing.isFreeTier request.usageAmount) (c.included request)
          (determineBillingMethod (inCredits totalCost pricing.currency) c.balances
            (pricing.isFreeTier request.usageAmount) (c.included request)))
      exact ⟨w', run_bind_of_ok hannounce, hrecords⟩
  | infinite _ | nan | signaling => exact ⟨w, rfl, rfl⟩

variable (service c request w) in
theorem calculateBillingCost_run : ∃ w',
    (calculateBillingCost service request).run (collaborate c) w =
      (match c.pricing with
        | none => .ok (failedCalculation request "Product pricing not found")
        | some (.priced pricing) => .ok (c.calculated request pricing)
        | some (.unreadable error) =>
          if truthy request.subscriptionId then
            .ok (failedCalculation request s!"Error calculating cost: {error}")
          else
            .error ("cannot access local variable 'active_subscription_id' where it is not " ++
              "associated with a value"), w') ∧ w'.records = w.records := by
  have hask : (ask (.getProductPricing request.productId request.usageAmount)).run
      (collaborate c) w = (.ok c.pricing, w) := rfl
  rw [calculateBillingCost, run_bind_of_ok hask]
  match c.pricing with
  | none => exact ⟨w, rfl, rfl⟩
  | some (.priced pricing) => exact calculatePriced_run
  | some (.unreadable error) =>
    dsimp only
    split
    · exact ⟨w, rfl, rfl⟩
    · exact ⟨w, rfl, rfl⟩

end Runs

/-! ### The law -/

section Law

variable {service : BillingService} {c : Collaborators} {request : BillingCalculationRequest}
  {pricing : Pricing} {w : World} {calculation : BillingCalculation} {totalCost : ℚ}

theorem exists_unitPrice (h : pricing.invalid = false) :
    ∃ unitPrice, pricing.unitPrice = .finite unitPrice := by
  rw [Pricing.invalid] at h
  cases hunit : pricing.unitPrice with
  | finite unitPrice => exact ⟨unitPrice, rfl⟩
  | infinite _ | nan | signaling => simp [hunit] at h

variable (request totalCost) in
theorem quote_eq {unitPrice : ℚ} (hunit : pricing.unitPrice = .finite unitPrice)
    (h : pricing.invalid = false) (balances : Balances) (isFree isIncluded : Bool) :
    quote request pricing balances totalCost isFree isIncluded =
      { success := true, message := "Billing cost calculated successfully"
        userId := request.userId
        subscriptionId := Subscriptions.orElse request.subscriptionId balances.subscriptionId
        productId := request.productId, usageAmount := request.usageAmount, unitPrice, totalCost
        currency := pricing.currency, isFreeTier := isFree, isIncludedInSubscription := isIncluded
        suggestedBillingMethod := determineBillingMethod (inCredits totalCost pricing.currency)
          balances isFree isIncluded } := by
  rw [quote, hunit, h]

theorem quote_of_invalid (h : pricing.invalid = true) (balances : Balances)
    (isFree isIncluded : Bool) :
    (quote request pricing balances totalCost isFree isIncluded).success = false := by
  rw [quote, h]
  cases pricing.unitPrice <;> rfl

theorem calculated_eq_quote (hdue : pricing.due request.usageAmount (c.included request) =
      .finite totalCost)
    (hfits : c.balances.overflows (inCredits totalCost pricing.currency) = false) :
    c.calculated request pricing = quote request pricing c.balances totalCost
      (pricing.isFreeTier request.usageAmount) (c.included request) := by
  rw [Collaborators.calculated, hdue]
  simp only [hfits, Bool.false_eq_true, ↓reduceIte]

theorem due_of_success (h : (c.calculated request pricing).success = true) :
    ∃ totalCost, pricing.due request.usageAmount (c.included request) = .finite totalCost ∧
      c.balances.overflows (inCredits totalCost pricing.currency) = false ∧
      pricing.invalid = false := by
  cases hdue : pricing.due request.usageAmount (c.included request) with
  | infinite _ | nan | signaling =>
    simp [Collaborators.calculated, hdue, failedLate, failedCalculation] at h
  | finite totalCost =>
    cases hfits : c.balances.overflows (inCredits totalCost pricing.currency) with
    | true => simp [Collaborators.calculated, hdue, hfits, failedLate, failedCalculation] at h
    | false =>
      refine ⟨totalCost, rfl, hfits, ?_⟩
      by_contra hcon
      rw [calculated_eq_quote hdue hfits, quote_of_invalid (by simpa using hcon)] at h
      cases h

theorem Priced.calculated (h : Priced c request totalCost pricing) :
    c.calculated request pricing =
      quote request pricing c.balances totalCost false false := by
  have hdue : pricing.due request.usageAmount (c.included request) = .finite totalCost := by
    rw [Pricing.due, h.notFree, h.notIncluded, Bool.or_self, if_neg Bool.false_ne_true, h.total]
  rw [calculated_eq_quote hdue h.fits, h.notFree, h.notIncluded]

theorem priced_of_calculated (hanswer : c.pricing = some (.priced pricing))
    (hsuccess : (c.calculated request pricing).success = true)
    (hfree : (c.calculated request pricing).isFreeTier = false)
    (hincluded : (c.calculated request pricing).isIncludedInSubscription = false)
    (hpos : 0 < (c.calculated request pricing).totalCost) :
    ∃ totalCost, Priced c request totalCost pricing := by
  obtain ⟨totalCost, hdue, hfits, hvalid⟩ := due_of_success hsuccess
  obtain ⟨unitPrice, hunit⟩ := exists_unitPrice hvalid
  rw [calculated_eq_quote hdue hfits, quote_eq _ _ hunit hvalid] at hfree hincluded hpos
  have hfree : pricing.isFreeTier request.usageAmount = false := hfree
  have hincluded : c.included request = false := hincluded
  rw [Pricing.due, hfree, hincluded] at hdue
  exact ⟨totalCost, hanswer, hfree, hincluded, hdue, hpos, hvalid, hfits⟩

theorem inCredits_nonneg (h : 0 < totalCost) (currency : Currency) :
    0 ≤ inCredits totalCost currency := by
  have htruncate : ∀ q : ℚ, 0 ≤ q → 0 ≤ truncate q := fun q hq => by
    rw [truncate, if_pos hq]
    exact Int.floor_nonneg.mpr hq
  cases currency with
  | credit => exact htruncate _ h.le
  | usd | cny => exact htruncate _ (by positivity)

variable (request) in
/-- **The suggested account covers the charge, exactly if it covers the rest.** -/
theorem charge_le_iff (hpos : 0 < totalCost) {unitPrice : ℚ}
    (hunit : pricing.unitPrice = .finite unitPrice) (hvalid : pricing.invalid = false)
    (balances : Balances) :
    (∀ balance ∈ balances.of
        (quote request pricing balances totalCost false false).suggestedBillingMethod,
      amountCharged (quote request pricing balances totalCost false false)
        (quote request pricing balances totalCost false false).suggestedBillingMethod ≤ balance) ↔
      CoversRest balances totalCost pricing.currency := by
  have hn := inCredits_nonneg hpos pricing.currency
  have hcredits : ∀ balance : ℤ, inCredits totalCost pricing.currency ≤ balance →
      (((convertToCredits totalCost pricing.currency : ℤ) : ℚ) ≤ (balance : ℚ) ↔
        (inCredits totalCost pricing.currency = 0 → 1 ≤ balance)) := by
    intro balance hle
    rw [convertToCredits, Int.cast_le, max_le_iff]
    omega
  rw [quote_eq _ _ hunit hvalid]
  simp only [determineBillingMethod, Bool.or_self, Bool.false_eq_true, ↓reduceIte]
  by_cases hsubscription : inCredits totalCost pricing.currency ≤ balances.subscriptionCredits
  · simp only [if_pos hsubscription, Balances.of, amountCharged, Option.mem_some_iff, forall_eq']
    rw [hcredits _ hsubscription]
    refine ⟨fun h => ⟨fun hzero => ?_, fun hlt => absurd hlt (not_lt.mpr hsubscription)⟩,
      fun h hzero => ?_⟩
    · rw [if_pos (hn.trans hsubscription)]
      exact h hzero
    · have hcredit := h.credit hzero
      rwa [if_pos (hn.trans hsubscription)] at hcredit
  · rw [if_neg hsubscription]
    by_cases hpurchased : inCredits totalCost pricing.currency ≤ balances.purchasedCredits
    · simp only [if_pos hpurchased, Balances.of, amountCharged, Option.mem_some_iff, forall_eq']
      rw [hcredits _ hpurchased]
      refine ⟨fun h => ⟨fun hzero => ?_, fun _ hlt => absurd hlt (not_lt.mpr hpurchased)⟩,
        fun h hzero => ?_⟩
      · rw [if_neg (by omega)]
        exact fun _ => h hzero
      · have hcredit := h.credit hzero
        rw [if_neg (by omega)] at hcredit
        exact hcredit (hn.trans hpurchased)
    · rw [if_neg hpurchased]
      have hrest : CoversRest balances totalCost pricing.currency ↔
          (balances.walletCovers (inCredits totalCost pricing.currency) = true →
            ∀ balance ∈ balances.walletBalance, totalCost ≤ balance) := by
        refine ⟨fun h => h.wallet (not_le.mp hsubscription) (not_le.mp hpurchased),
          fun h => ⟨fun hzero => ?_, fun _ _ => h⟩⟩
        rw [hzero] at hsubscription hpurchased
        rw [if_neg hsubscription]
        exact fun h => absurd h hpurchased
      rw [hrest]
      by_cases hwallet : balances.walletCovers (inCredits totalCost pricing.currency) = true
      · simp only [Balances.of, amountCharged, hwallet, ↓reduceIte, forall_const]
      · simp [Balances.of, hwallet]

end Law

def noTexts : Conversions := ⟨fun _ => none, fun _ => none, fun _ => ""⟩

end IsaUser.Billing
