import IsaUser.Billing.Affordable

/-!
# Usage that Was Billed Upstream

`record_usage_with_external_billing` records what an upstream service has already charged, and
falls back on the upstream amount where the price cannot be calculated. The fallback rests on
`calculate_billing_cost` to answer that it failed; where the answer of the product service cannot
be read, it raises instead.

The columns of amounts are doubles, and are read back by their texts.
-/

open IsaUser.Prog

namespace IsaUser.Billing

open Subscriptions (truthy resolveBillingScope)

/-! ### The law and the condition -/

/-- **Recorded once.** The response reports success, and the store has one record more, which is
completed and reads back the cost that was given. -/
def RecordedOnce (upstream : UpstreamCharge) (w : World)
    (outcome : Except String ProcessBillingResponse × World) : Prop :=
  succeeded outcome.1 = true ∧ ∃ row, outcome.2.records = w.records.insert row ∧
    row.billingStatus = .completed ∧
    ∀ cost ∈ upstream.costUsd, throughDouble row.totalAmount = some cost

structure RepositoryWorks (c : Collaborators) : Prop where
  createRecord : c.createRecord = .up
  createEvent : c.createEvent = .up

def UpstreamCharge.Given (upstream : UpstreamCharge) : Prop :=
  upstream.costUsd.isSome ∨ upstream.creditsUsed.isSome

section Condition

variable (c : Collaborators) (request : BillingCalculationRequest)

structure Quotes (unitPrice totalCost : ℚ) (pricing : Pricing) : Prop where
  answer : c.pricing = some (.priced pricing)
  unitPrice : pricing.unitPrice = .finite unitPrice
  due : pricing.due request.usageAmount (c.included request) = .finite totalCost
  valid : pricing.invalid = false
  fits : c.balances.overflows (inCredits totalCost pricing.currency) = false

/-- The answer of the product service can be read, or a subscription is named; a cost that is
given survives a double; and without one, a calculation that succeeds has no negative price. -/
structure Recordable (upstream : UpstreamCharge) : Prop where
  readable : truthy request.subscriptionId = true ∨ ∀ error, c.pricing ≠ some (.unreadable error)
  survives : ∀ cost ∈ upstream.costUsd, Survives cost
  nonneg : upstream.costUsd = none → ∀ unitPrice totalCost pricing,
    Quotes c request unitPrice totalCost pricing → 0 ≤ unitPrice ∧ 0 ≤ totalCost

end Condition

section Runs

variable {service : BillingService} {c : Collaborators} {w : World} {upstream : UpstreamCharge}
  {request : RecordUsageRequest} {calculation : BillingCalculation}

/-! ### Runs -/

variable (c w) in
theorem usageRecordIdOr_run (origin : String) (userId : PyStr) (recorded : Option PyStr) :
    ∃ id, (usageRecordIdOr origin userId recorded).run (collaborate c) w = (.ok id, w) := by
  match recorded with
  | none => exact ⟨_, rfl⟩
  | some [] => exact ⟨_, rfl⟩
  | some (_ :: _) => exact ⟨_, rfl⟩

variable (service w) in
theorem createBillingRecord_run (hc : RepositoryWorks c) {row : BillingRecord} (h : row.Valid) :
    ∃ w', (createBillingRecord service row).run (collaborate c) w =
      (.ok w.records.size, w') ∧ w'.records = w.records.insert row := by
  have hcreate : (ask (.createBillingRecord row)).run (collaborate c) w =
      (.ok w.records.size, { w with records := w.records.insert row }) := by
    simp [ask, query, collaborate, hc.createRecord, Link.send]
  obtain ⟨w', hannounce, hrecords⟩ := announce_run service c
    { w with records := w.records.insert row } (.recordCreated w.records.size row.billingStatus)
  refine ⟨w', ?_, hrecords⟩
  have hrequire : (require row.Valid validationError : BillingM Unit) = .ret () := if_pos h
  rw [createBillingRecord, hrequire, ret_bind, run_bind_of_ok hcreate]
  exact run_bind_of_ok hannounce

theorem createBillingRecord_run_of_not {row : BillingRecord} (h : ¬row.Valid) :
    (createBillingRecord service row).run (collaborate c) w = (.error validationError, w) := by
  have hrequire : (require row.Valid validationError : BillingM Unit) =
      .raise validationError := if_neg h
  rw [createBillingRecord, hrequire]
  rfl

def externalMethod (calculation : BillingCalculation) : BillingMethod :=
  if calculation.isFree then .subscriptionIncluded else .creditConsumption

variable (service request w) in
theorem completeExternal_run (hc : RepositoryWorks c) {id : PyStr}
    (h : (newRecord id calculation (externalMethod calculation) .completed request.subscriptionId
      true).Valid) : ∃ response w',
    (completeExternal service request id calculation).run (collaborate c) w = (.ok response, w') ∧
      response.success = true ∧
      w'.records = w.records.insert (newRecord id calculation (externalMethod calculation)
        .completed request.subscriptionId true) := by
  obtain ⟨w', hcreate, hrecords⟩ := createBillingRecord_run service w hc h
  have hevent : ∀ event : BillingEvent, (ask (.createBillingEvent event)).run (collaborate c) w' =
      (.ok (), { w' with events := w'.events.insert event }) := fun event => by
    simp [ask, query, collaborate, hc.createEvent, Link.send]
  refine ⟨_, _, (run_bind_of_ok hcreate).trans (run_bind_of_ok (hevent _)), rfl, ?_⟩
  exact hrecords

theorem completeExternal_run_of_not {id : PyStr}
    (h : ¬(newRecord id calculation (externalMethod calculation) .completed request.subscriptionId
      true).Valid) :
    (completeExternal service request id calculation).run (collaborate c) w =
      (.error validationError, w) :=
  run_bind_of_error (createBillingRecord_run_of_not h)

/-! ### What is recorded -/

def externalCalculation (request : RecordUsageRequest) (upstream : UpstreamCharge)
    (calculation : BillingCalculation) : Option BillingCalculation :=
  (if calculation.success then some calculation else externalBillingFallback request upstream).map
    (overrideWithUpstreamCost · upstream)

theorem externalCalculation_of_cost {cost : ℚ} (hcost : upstream.costUsd = some cost)
    (husage : calculation.usageAmount = request.usageAmount) :
    ∃ recorded, externalCalculation request upstream calculation = some recorded ∧
      recorded.usageAmount = request.usageAmount ∧ recorded.totalCost = cost ∧
      recorded.unitPrice = pricePerUnit cost request.usageAmount := by
  rw [externalCalculation]
  by_cases hsuccess : calculation.success = true
  · rw [if_pos hsuccess]
    refine ⟨_, rfl, ?_⟩
    simp [overrideWithUpstreamCost, hcost, husage]
  · rw [if_neg hsuccess]
    refine ⟨_, by simp only [externalBillingFallback, hcost]; rfl, ?_⟩
    simp [overrideWithUpstreamCost, hcost]

theorem externalCalculation_of_success (hcost : upstream.costUsd = none)
    (hsuccess : calculation.success = true) :
    externalCalculation request upstream calculation = some calculation := by
  rw [externalCalculation, if_pos hsuccess, Option.map_some, overrideWithUpstreamCost, hcost]

variable (request) in
theorem externalCalculation_of_failure {credits : ℕ} (hcost : upstream.costUsd = none)
    (hcredits : upstream.creditsUsed = some credits) (hfailed : calculation.success ≠ true) :
    ∃ recorded, externalCalculation request upstream calculation = some recorded ∧
      recorded.usageAmount = request.usageAmount ∧ recorded.totalCost = credits ∧
      recorded.unitPrice = pricePerUnit credits request.usageAmount := by
  rw [externalCalculation, if_neg hfailed]
  refine ⟨_, by simp only [externalBillingFallback, hcost, hcredits]; rfl, ?_⟩
  simp [overrideWithUpstreamCost, hcost]

theorem pricePerUnit_nonneg {totalCost usageAmount : ℚ} (h : 0 ≤ totalCost) :
    0 ≤ pricePerUnit totalCost usageAmount := by
  rw [pricePerUnit]
  split
  · next hpos => exact div_nonneg h hpos.le
  · exact le_rfl

theorem recordExternal_run {w₁ : World} {recorded : BillingCalculation}
    (hcalculated : (calculateBillingCost service request.calculationRequest).run (collaborate c) w =
      (.ok calculation, w₁))
    (hrecorded : externalCalculation request upstream calculation = some recorded) :
    ∃ id, (recordExternal service request upstream).run (collaborate c) w =
      (completeExternal service request id recorded).run (collaborate c) w₁ := by
  have hask : (ask (.recordUsage request.payer.userId request.productId request.usageAmount)).run
      (collaborate c) w = (.ok c.usageRecordId, w) := rfl
  obtain ⟨id, hid⟩ := usageRecordIdOr_run c w "external_" request.payer.userId
    c.usageRecordId
  refine ⟨id, ?_⟩
  rw [recordExternal, run_bind_of_ok hask, run_bind_of_ok hid,
    run_bind_of_ok hcalculated]
  obtain ⟨base, hbase, rfl⟩ := Option.map_eq_some_iff.mp hrecorded
  rw [hbase]

theorem recordExternal_run_of_raised {w₁ : World} {e : String}
    (hraised : (calculateBillingCost service request.calculationRequest).run (collaborate c) w =
      (.error e, w₁)) :
    (recordExternal service request upstream).run (collaborate c) w = (.error e, w₁) := by
  have hask : (ask (.recordUsage request.payer.userId request.productId request.usageAmount)).run
      (collaborate c) w = (.ok c.usageRecordId, w) := rfl
  obtain ⟨id, hid⟩ := usageRecordIdOr_run c w "external_" request.payer.userId
    c.usageRecordId
  rw [recordExternal, run_bind_of_ok hask, run_bind_of_ok hid,
    run_bind_of_error hraised]

theorem not_recordedOnce_of_raised {w₁ : World} {e : String}
    (hraised : (recordExternal service request upstream).run (collaborate c) w = (.error e, w₁)) :
    ¬RecordedOnce upstream w
      ((recordUsageWithExternalBilling service request upstream).run (collaborate c) w) := by
  rw [recordUsageWithExternalBilling, run_tryCatch_of_error hraised]
  rintro ⟨hsuccess, -⟩
  cases hsuccess

theorem recordedOnce_of_valid (hc : RepositoryWorks c) {w₁ : World}
    {recorded : BillingCalculation} {id : PyStr} (hrecords : w₁.records = w.records)
    (hrun : (recordExternal service request upstream).run (collaborate c) w =
      (completeExternal service request id recorded).run (collaborate c) w₁)
    (hvalid : 0 ≤ recorded.usageAmount ∧ 0 ≤ recorded.unitPrice ∧ 0 ≤ recorded.totalCost) :
    RecordedOnce upstream w
        ((recordUsageWithExternalBilling service request upstream).run (collaborate c) w) ↔
      ∀ cost ∈ upstream.costUsd, throughDouble recorded.totalCost = some cost := by
  obtain ⟨response, w₂, hcomplete, hsuccess, hinserted⟩ :=
    completeExternal_run service w₁ request hc hvalid
  rw [recordUsageWithExternalBilling, run_tryCatch_of_ok (hrun.trans hcomplete)]
  rw [hrecords] at hinserted
  constructor
  · rintro ⟨-, row, hrow, -, hcost⟩
    have hsame := hinserted.symm.trans hrow
    obtain rfl : _ = row := by simpa [Table.insert] using hsame
    exact hcost
  · exact fun hcost => ⟨hsuccess, _, hinserted, rfl, hcost⟩

/-- **The law, for a calculation that raises nothing.** -/
theorem recordedOnce_of_calculated (hc : RepositoryWorks c) (husage : 0 ≤ request.usageAmount)
    (hgiven : upstream.Given) {w₁ : World} (hrecords : w₁.records = w.records)
    (hcalculated : (calculateBillingCost service request.calculationRequest).run (collaborate c) w =
      (.ok calculation, w₁))
    (hamount : calculation.usageAmount = request.usageAmount) :
    RecordedOnce upstream w
        ((recordUsageWithExternalBilling service request upstream).run (collaborate c) w) ↔
      (∀ cost ∈ upstream.costUsd, Survives cost) ∧
        (upstream.costUsd = none → calculation.success = true →
          0 ≤ calculation.unitPrice ∧ 0 ≤ calculation.totalCost) := by
  cases hcost : upstream.costUsd with
  | some cost =>
    obtain ⟨recorded, hrecorded, hsame, htotal, hunit⟩ :=
      externalCalculation_of_cost hcost hamount
    obtain ⟨id, hrun⟩ := recordExternal_run hcalculated hrecorded
    have hpos : 0 ≤ cost := upstream.costUsd_nonneg cost hcost
    rw [recordedOnce_of_valid hc hrecords hrun
      ⟨hsame ▸ husage, hunit ▸ pricePerUnit_nonneg hpos, htotal ▸ hpos⟩, hcost, htotal]
    simp [Survives]
  | none =>
    by_cases hsuccess : calculation.success = true
    · obtain ⟨id, hrun⟩ := recordExternal_run hcalculated
        (externalCalculation_of_success hcost hsuccess)
      by_cases hvalid : 0 ≤ calculation.unitPrice ∧ 0 ≤ calculation.totalCost
      · rw [recordedOnce_of_valid hc hrecords hrun ⟨hamount ▸ husage, hvalid⟩, hcost]
        simp [hvalid]
      · refine iff_of_false ?_ fun h => hvalid (h.2 rfl hsuccess)
        exact not_recordedOnce_of_raised
          (hrun.trans (completeExternal_run_of_not fun h => hvalid h.2))
    · obtain ⟨credits, hcredits⟩ : ∃ credits, upstream.creditsUsed = some credits := by
        rcases hgiven with h | h
        · rw [hcost] at h
          cases h
        · exact Option.isSome_iff_exists.mp h
      obtain ⟨recorded, hrecorded, hsame, htotal, hunit⟩ :=
        externalCalculation_of_failure request hcost hcredits hsuccess
      obtain ⟨id, hrun⟩ := recordExternal_run hcalculated hrecorded
      have hpos : (0 : ℚ) ≤ credits := Nat.cast_nonneg credits
      rw [recordedOnce_of_valid hc hrecords hrun
        ⟨hsame ▸ husage, hunit ▸ pricePerUnit_nonneg hpos, htotal ▸ hpos⟩, hcost]
      simp [hsuccess]

end Runs

/-! ### The law -/

section Law

variable {c : Collaborators} {request : BillingCalculationRequest} {pricing : Pricing}

theorem quotes_iff (hanswer : c.pricing = some (.priced pricing)) :
    ((c.calculated request pricing).success = true →
        0 ≤ (c.calculated request pricing).unitPrice ∧
          0 ≤ (c.calculated request pricing).totalCost) ↔
      ∀ unitPrice totalCost pricing, Quotes c request unitPrice totalCost pricing →
        0 ≤ unitPrice ∧ 0 ≤ totalCost := by
  constructor
  · rintro h unitPrice totalCost pricing' hquotes
    obtain rfl : pricing = pricing' := by
      have hsame := hanswer.symm.trans hquotes.answer
      simpa using hsame
    rw [calculated_eq_quote hquotes.due hquotes.fits,
      quote_eq _ _ hquotes.unitPrice hquotes.valid] at h
    exact h rfl
  · intro h hsuccess
    obtain ⟨totalCost, hdue, hfits, hvalid⟩ := due_of_success hsuccess
    obtain ⟨unitPrice, hunit⟩ := exists_unitPrice hvalid
    rw [calculated_eq_quote hdue hfits, quote_eq _ _ hunit hvalid]
    exact h unitPrice totalCost pricing ⟨hanswer, hunit, hdue, hvalid, hfits⟩

theorem calculated_usageAmount (c : Collaborators) (request : BillingCalculationRequest)
    (pricing : Pricing) : (c.calculated request pricing).usageAmount = request.usageAmount := by
  rw [Collaborators.calculated]
  split
  · split
    · rfl
    · rw [quote]
      split <;> rfl
  · rfl

end Law

/-- **Usage billed upstream is recorded once, exactly under the condition.** With a repository that
works, a request with a cost or with credits is answered by success and stored as exactly one
completed record, of the cost where it is given, if and only if the answer of the product service
can be read or a subscription is named, the cost survives a double, and no price is negative where
there is no cost. -/
theorem recordedOnce_iff (service : BillingService) (conv : Conversions) {c : Collaborators}
    (hc : RepositoryWorks c) {request : RecordUsageRequest} (husage : 0 ≤ request.usageAmount)
    {upstream : UpstreamCharge} (hgiven : upstream.Given) (payload : Json) (w : World) :
    RecordedOnce upstream w ((recordUsageWithExternalBilling service request upstream).run
        (collaborate (c.answering conv request.usageAmount payload)) w) ↔
      Recordable (c.answering conv request.usageAmount payload) request.calculationRequest
        upstream := by
  have hc' : RepositoryWorks (c.answering conv request.usageAmount payload) :=
    ⟨hc.createRecord, hc.createEvent⟩
  generalize c.answering conv request.usageAmount payload = c at hc'
  obtain ⟨w₁, hrun, hrecords⟩ := calculateBillingCost_run service c request.calculationRequest w
  cases hanswer : c.pricing with
  | none =>
    simp only [hanswer] at hrun
    rw [recordedOnce_of_calculated hc' husage hgiven hrecords hrun rfl]
    refine ⟨fun h => ⟨.inr fun _ => by simp [hanswer], h.1, fun _ _ _ _ hquotes => ?_⟩,
      fun h => ⟨h.survives, fun _ hsuccess => by cases hsuccess⟩⟩
    cases hanswer.symm.trans hquotes.answer
  | some answer =>
    cases answer with
    | priced pricing =>
      simp only [hanswer] at hrun
      rw [recordedOnce_of_calculated hc' husage hgiven hrecords hrun
        (calculated_usageAmount _ _ _), quotes_iff hanswer]
      exact ⟨fun h => ⟨.inr fun _ => by simp [hanswer], h.1, h.2⟩,
        fun h => ⟨h.survives, h.nonneg⟩⟩
    | unreadable error =>
      by_cases hnamed : truthy request.calculationRequest.subscriptionId = true
      · simp only [hanswer, if_pos hnamed] at hrun
        rw [recordedOnce_of_calculated hc' husage hgiven hrecords hrun rfl]
        refine ⟨fun h => ⟨.inl hnamed, h.1, fun _ _ _ _ hquotes => ?_⟩,
          fun h => ⟨h.survives, fun _ hsuccess => by cases hsuccess⟩⟩
        cases hanswer.symm.trans hquotes.answer
      · simp only [hanswer, if_neg hnamed] at hrun
        refine iff_of_false (not_recordedOnce_of_raised (recordExternal_run_of_raised hrun))
          fun h => ?_
        exact h.readable.elim hnamed fun hreadable => hreadable error hanswer

def oneUnit : RecordUsageRequest := ⟨{ userId := ['u'] }, none, ['p'], 1⟩

def oneDollar : UpstreamCharge := ⟨none, some 1, by simp⟩

/-- Without a price, the dollar is recorded. -/
theorem recordedOnce_oneDollar :
    RecordedOnce oneDollar .empty
      ((recordUsageWithExternalBilling ⟨false, false, false⟩ oneUnit oneDollar).run
        (collaborate (Collaborators.steady.answering noTexts oneUnit.usageAmount (.dict [])))
        .empty) :=
  (recordedOnce_iff _ noTexts ⟨rfl, rfl⟩ (by decide) (.inl rfl) (.dict []) .empty).mpr
    { readable := .inr nofun
      survives := fun cost h => by
        cases h
        decide +kernel
      nonneg := nofun }

/-- With a price that is no number, it is not: the calculation raises, and nothing is stored. -/
theorem not_recordedOnce_oneDollar :
    ¬RecordedOnce oneDollar .empty
      ((recordUsageWithExternalBilling ⟨false, false, false⟩ oneUnit oneDollar).run
        (collaborate (Collaborators.steady.answering noTexts oneUnit.usageAmount
          (.dict [("unit_price", .str ['x'])]))) .empty) := by
  intro h
  have hfailed : succeeded
      ((recordUsageWithExternalBilling ⟨false, false, false⟩ oneUnit oneDollar).run
        (collaborate (Collaborators.steady.answering noTexts oneUnit.usageAmount
          (.dict [("unit_price", .str ['x'])]))) .empty).1 = false := by decide +kernel
  cases hfailed.symm.trans h.1

end IsaUser.Billing
