import IsaUser.Billing.ChargedOnce
import IsaUser.Billing.Usage

/-!
# What the Wallet Service is Told

The handler of usage events publishes a message `billing.calculated` about every usage event
that it has billed, and the wallet service deducts what the message says, unless its flags say
that the usage is free or included (`_process_billing_calculated` of its `events/handlers.py`).
By then the usage is paid for: its billing record is completed, by one of four paths. The
message never says so, as the handler sets both flags to false.
-/

open IsaUser.Prog

namespace IsaUser.Billing

/-! ### The consumer -/

/-- `BillingCalculatedEventData`, as the wallet service reads it. -/
structure WalletBillingData where
  userId : PyStr
  billingRecordId : PyStr ⊕ ℕ
  tokenEquivalent : ℚ
  costUsd : ℚ
  isFreeTier : Bool
  isIncludedInSubscription : Bool
  productId : Option PyStr
  usageEventId : Option PyStr
  deriving DecidableEq

/-- `parse_billing_calculated_event`. The message of a calculation has the same subject, but
names no record, no tokens and no cost. -/
def parseBillingCalculatedEvent : Message → Option WalletBillingData
  | .billingCalculated data => some
      { userId := data.userId
        billingRecordId := data.billingRecordId
        tokenEquivalent := data.tokenEquivalent
        costUsd := data.costUsd
        isFreeTier := data.isFreeTier
        isIncludedInSubscription := data.isIncludedInSubscription
        productId := some data.productId
        usageEventId := some data.usageEventId }
  | _ => none

inductive WalletDecision where
  | skip (reason : String)
  | deduct (tokens : ℚ)
  deriving DecidableEq

/-- The decision of `_process_billing_calculated`. -/
def processBillingCalculated (data : WalletBillingData) : WalletDecision :=
  if data.isFreeTier then .skip "free_tier"
  else if data.isIncludedInSubscription then .skip "subscription_included"
  else .deduct data.tokenEquivalent

/-! ### The law -/

def World.Completed (w : World) : PyStr ⊕ ℕ → Prop
  | .inl _ => False
  | .inr id => ∃ row, w.records.get? id = some row ∧ row.billingStatus = .completed

/-- The messages of `w'` beyond those of `w`. -/
def World.newMessages (w w' : World) : List Message := w'.published.drop w.published.length

/-- **No second charge.** The wallet service skips every new message about a completed
record. -/
def NoSecondCharge (w w' : World) : Prop :=
  ∀ message ∈ w.newMessages w', ∀ data, parseBillingCalculatedEvent message = some data →
    w'.Completed data.billingRecordId → ∃ reason, processBillingCalculated data = .skip reason

def handled (service : BillingService) (c : Collaborators) (event : UsageEvent) (w : World) :
    World :=
  ((handleUsageRecorded service event).run (collaborate c) w).2

section Runs

variable {service : BillingService} {c : Collaborators} {w : World}

/-! ### Records that are completed -/

def Call.WritesRecords : Call → Bool
  | createBillingRecord _ => true
  | updateBillingRecordStatus _ _ => true
  | _ => false

abbrev KeepsRecords (call : BillingApi.Call) : Prop := Call.WritesRecords call = false

theorem records_collaborate {call : Call} (h : call.WritesRecords = false) :
    (collaborate c call w).2.records = w.records := by
  rcases collaborate_cases c call w with heq | heq
  · rw [heq]
  · rw [heq]
    cases call <;> first | rfl | cases h

def Completes (r : Except String ProcessBillingResponse) (w : World) : Prop :=
  ∀ response, r = .ok response → response.success = true →
    ∃ id, response.billingRecordId = some id ∧ w.Completed (.inr id)

theorem completes_of_failed {r : Except String ProcessBillingResponse}
    (h : succeeded r = false) : Completes r w := by
  rintro response rfl hsuccess
  cases h.symm.trans hsuccess

def Names (id : ℕ) (r : Except String ProcessBillingResponse) : Prop :=
  ∀ response, r = .ok response → response.billingRecordId = some id

theorem records_run {α : Type} {p : BillingM α} (hp : p.Only KeepsRecords) :
    (p.run (collaborate c) w).2.records = w.records :=
  hp.run_keeps (J := fun w' : World => w'.records = w.records) rfl
    fun _ _ hcall hw' => (records_collaborate hcall).trans hw'

theorem completes_of_completed {p : BillingM ProcessBillingResponse} {id : ℕ}
    (hp : p.Obeys KeepsRecords (Names id)) (hw : w.Completed (.inr id)) :
    p.wp (collaborate c) Completes w := by
  have hkept : (p.run (collaborate c) w).2.records = w.records := records_run hp.only
  intro response hresponse _
  refine ⟨id, hp.run _ _ response hresponse, ?_⟩
  obtain ⟨row, hrow, hstatus⟩ := hw
  exact ⟨row, by rwa [hkept], hstatus⟩

theorem completes_update {id : ℕ} {row : BillingRecord} {update : StatusUpdate}
    {f : Unit → BillingM ProcessBillingResponse} (hrow : w.records.get? id = some row)
    (hstatus : update.status = .completed) (hf : (f ()).Obeys KeepsRecords (Names id)) :
    (ask (.updateBillingRecordStatus id update) >>= f).wp (collaborate c) Completes w := by
  rw [wp_bind, wp_ask]
  cases h : (collaborate c (.updateBillingRecordStatus id update) w).1 with
  | error e => exact completes_of_failed rfl
  | ok r =>
    obtain ⟨-, hexecuted⟩ := Link.send_ok h
    refine completes_of_completed hf ⟨update.apply row, ?_, hstatus⟩
    change (collaborate c (.updateBillingRecordStatus id update) w).2 = _ at hexecuted
    rw [hexecuted]
    exact Table.get?_modify_self hrow _

theorem completes_bind {α : Type} {p : BillingM α} {f : α → BillingM ProcessBillingResponse}
    (hf : ∀ a w, (f a).wp (collaborate c) Completes w) :
    (p >>= f).wp (collaborate c) Completes w := by
  rw [wp_bind, wp]
  cases (p.run (collaborate c) w).1 with
  | error e => exact completes_of_failed rfl
  | ok a => exact hf a _

theorem completes_tryCatch {p : BillingM ProcessBillingResponse}
    (hp : p.wp (collaborate c) Completes w) (message : String → String) :
    (p.tryCatch fun e => return failed (message e) none).wp (collaborate c) Completes w := by
  rw [wp_tryCatch]
  refine wp_mono hp ?_
  rintro (e | response) w' h
  · exact completes_of_failed rfl
  · exact h

/-! ### The four paths -/

theorem createBillingRecord_creates (row : BillingRecord) :
    (createBillingRecord service row).wp (collaborate c)
      (fun r w' => ∀ id, r = .ok id → w'.records.get? id = some row) w := by
  refine wp_require_bind (fun _ => ?_) fun _ => nofun
  rw [wp_bind, wp_ask]
  cases h : (collaborate c (.createBillingRecord row) w).1 with
  | error e => exact nofun
  | ok id =>
    obtain ⟨hid, hexecuted⟩ := Link.send_ok h
    change (collaborate c (.createBillingRecord row) w).2 = _ at hexecuted
    have hreturns : (announce service (.recordCreated id row.billingStatus) >>=
        fun _ => return id : BillingM ℕ).Obeys KeepsRecords
          fun r => ∀ id', r = .ok id' → id' = id :=
      obeys_announce service rfl fun id' h' => (Except.ok.inj h').symm
    intro id' hid'
    obtain rfl := hreturns.run _ _ id' hid'
    rw [records_run hreturns.only, hexecuted, ← hid]
    exact Table.get?_insert_size _ _

theorem completes_insert {row : BillingRecord} (hrow : row.billingStatus = .completed)
    (event : ℕ → BillingEvent) {response : ℕ → ProcessBillingResponse}
    (hresponse : ∀ id, (response id).billingRecordId = some id) :
    (createBillingRecord service row >>= fun id => ask (.createBillingEvent (event id)) >>=
      fun _ => return response id).wp (collaborate c) Completes w := by
  rw [wp_bind]
  refine wp_mono (createBillingRecord_creates row) ?_
  rintro (e | id) w' h
  · exact completes_of_failed rfl
  · have hnames : (ask (.createBillingEvent (event id)) >>= fun _ =>
        return response id : BillingM ProcessBillingResponse).Obeys KeepsRecords (Names id) := by
      refine obeys_ask rfl (fun _ => nofun) fun _ => ?_
      rintro _ ⟨⟩
      exact hresponse id
    exact completes_of_completed hnames ⟨row, h id rfl, hrow⟩

theorem completeIncluded_completes (request : RecordUsageRequest) (usageRecordId : PyStr)
    (calculation : BillingCalculation) :
    (completeIncluded service request usageRecordId calculation).wp (collaborate c) Completes w :=
  completes_insert rfl _ fun _ => rfl

theorem completeExternal_completes (request : RecordUsageRequest) (usageRecordId : PyStr)
    (calculation : BillingCalculation) :
    (completeExternal service request usageRecordId calculation).wp (collaborate c) Completes w :=
  completes_insert rfl _ fun _ => rfl

theorem completes_deduction {p : BillingM DeductionResult} (hp : p.Only KeepsRecords)
    {f : DeductionResult → BillingM ProcessBillingResponse} {id : ℕ} {row : BillingRecord}
    (hrow : w.records.get? id = some row)
    (hdone : ∀ result w', result.success = true → w'.records.get? id = some row →
      (f result).wp (collaborate c) Completes w')
    (hfailed : ∀ result, result.success = false →
      (f result).Obeys Harmless fun r => succeeded r = false) :
    (p >>= f).wp (collaborate c) Completes w := by
  have hkept : (p.run (collaborate c) w).2.records = w.records := records_run hp
  rw [wp_bind, wp]
  cases (p.run (collaborate c) w).1 with
  | error e => exact completes_of_failed rfl
  | ok result =>
    cases hsuccess : result.success with
    | true => exact hdone result _ hsuccess (by rwa [hkept])
    | false => exact completes_of_failed ((hfailed result hsuccess).run _ _)

section Deductions

variable {P : BillingApi.Call → Prop} {charge : Charge}

theorem processWalletDeduction_only (hclient : P (Call.walletClientConsume charge))
    (hhttp : P (Call.walletHttpConsume charge)) :
    (processWalletDeduction service charge).Only P := by
  have hfirst : (walletDeductionClient service charge).Only P := by
    rw [walletDeductionClient]
    split
    · exact caught_only hclient _ _
    · trivial
  refine hfirst.bind fun first => ?_
  cases first with
  | none => exact caught_only hhttp _ _
  | some result => trivial

theorem processSubscriptionCredits_only (hclient : P (Call.subscriptionClientConsume charge)) :
    (processSubscriptionCreditConsumption service charge).Only P := by
  rw [processSubscriptionCreditConsumption]
  split
  · exact caught_only hclient _ _
  · trivial

end Deductions

variable {row : BillingRecord} {id : ℕ} (hrow : w.records.get? id = some row)

include hrow in
theorem billWallet_completes (calculation : BillingCalculation) :
    (billWallet service calculation id).wp (collaborate c) Completes w := by
  refine completes_deduction (processWalletDeduction_only rfl rfl) hrow
    (fun result w' h hrow' => ?_) fun result h => ?_
  · rw [if_pos h]
    refine completes_update hrow' rfl (obeys_ask rfl (fun _ => nofun) fun _ => ?_)
    refine obeys_announce service rfl ?_
    rintro _ ⟨⟩
    rfl
  · rw [if_neg (by simp [h])]
    exact obeys_ask rfl (fun _ => rfl) fun _ => obeys_ask rfl (fun _ => rfl) fun _ => rfl

include hrow in
theorem billSubscription_completes (calculation : BillingCalculation)
    (subscriptionId : Option PyStr) :
    (billSubscription service calculation id subscriptionId).wp (collaborate c) Completes w := by
  refine completes_deduction (processSubscriptionCredits_only rfl) hrow
    (fun result w' h hrow' => ?_) fun result h => ?_
  · rw [if_pos h]
    refine completes_update hrow' rfl ?_
    rintro _ ⟨⟩
    rfl
  · rw [if_neg (by simp [h])]
    exact obeys_update _ _ _ rfl

include hrow in
theorem billCredits_completes (calculation : BillingCalculation) :
    (billCredits calculation id).wp (collaborate c) Completes w := by
  refine completes_deduction (caught_only (P := KeepsRecords) rfl _ _) hrow
    (fun result w' h hrow' => ?_) fun result h => ?_
  · rw [if_pos h]
    refine completes_update hrow' rfl ?_
    rintro _ ⟨⟩
    rfl
  · rw [if_neg (by simp [h])]
    exact obeys_update _ _ _ rfl

theorem processBilling_completes (request : ProcessBillingRequest)
    (calculation : Option BillingCalculation) :
    (processBilling service request calculation).wp (collaborate c) Completes w := by
  cases calculation with
  | none => exact completes_of_failed rfl
  | some calculation =>
    refine completes_tryCatch ?_ fun e => s!"Error processing billing: {e}"
    rw [bill, wp_bind]
    refine wp_mono (createBillingRecord_creates _) ?_
    rintro (e | id) w' h
    · exact completes_of_failed rfl
    · have hrow := h id rfl
      cases request.billingMethod with
      | walletDeduction => exact billWallet_completes hrow calculation
      | subscriptionIncluded => exact billSubscription_completes hrow calculation _
      | subscriptionCredit => exact billSubscription_completes hrow calculation _
      | creditConsumption => exact billCredits_completes hrow calculation
      | paymentCharge =>
        exact completes_of_failed ((obeys_update _ _ _ rfl : Obeys Harmless
          (fun r => succeeded r = false) (billPayment id)).run _ _)

theorem refuseQuota_completes (request : RecordUsageRequest) (message : String) :
    (refuseQuota service request message).wp (collaborate c) Completes w := by
  have hfails : (refuseQuota service request message).Obeys KeepsRecords
      fun r => succeeded r = false :=
    obeys_ask rfl (fun _ => rfl) fun _ => obeys_announce service rfl rfl
  exact completes_of_failed (hfails.run _ _)

theorem recordUsageAndBill_completes (request : RecordUsageRequest) :
    (recordUsageAndBill service request).wp (collaborate c) Completes w := by
  refine completes_tryCatch ?_ fun e => s!"Internal error: {e}"
  refine completes_bind fun recorded w₁ => completes_bind fun usageRecordId w₂ =>
    completes_bind fun calculation w₃ => ?_
  split
  · exact completes_of_failed rfl
  · refine completes_bind fun quota w₄ => ?_
    split
    · exact refuseQuota_completes request _
    · split
      · exact completeIncluded_completes request _ _
      · exact processBilling_completes _ _

theorem recordUsageWithExternalBilling_completes (request : RecordUsageRequest)
    (upstream : UpstreamCharge) :
    (recordUsageWithExternalBilling service request upstream).wp (collaborate c) Completes w := by
  refine completes_tryCatch ?_ fun e => s!"Error recording externally billed usage: {e}"
  refine completes_bind fun recorded w₁ => completes_bind fun usageRecordId w₂ =>
    completes_bind fun calculation w₃ => ?_
  dsimp only
  split
  · exact completes_of_failed rfl
  · exact completeExternal_completes request _ _

/-- **Billed usage is paid for.** On every path, the response of success names a completed
record. -/
theorem recordUsage_completes (data : UsageEventData) :
    (billEvent service data).wp (collaborate c) Completes w := by
  refine wp_require_bind (fun _ => ?_) fun _ => completes_of_failed rfl
  split
  · exact recordUsageWithExternalBilling_completes _ _
  · exact recordUsageAndBill_completes _

/-! ### Messages -/

def Call.Quiet : Call → Bool
  | publishEvent message => (parseBillingCalculatedEvent message).isNone
  | _ => true

abbrev Quiet (call : BillingApi.Call) : Prop := Call.Quiet call = true

theorem quiet_ask {call : Call} (h : call.Quiet = true) : (ask call).Only Quiet :=
  only_query h

theorem quiet_announce {message : Message} (h : (Call.publishEvent message).Quiet = true) :
    (announce service message).Only Quiet :=
  (announce_obeys (P := Quiet) service h).only

theorem createBillingRecord_quiet (row : BillingRecord) :
    (createBillingRecord service row).Only Quiet := by
  refine only_require.bind fun _ => (quiet_ask rfl).bind fun id => ?_
  exact (quiet_announce rfl).bind fun _ => trivial

theorem calculateBillingCost_quiet (request : BillingCalculationRequest) :
    (calculateBillingCost service request).Only Quiet := by
  refine (quiet_ask rfl).bind fun answer => ?_
  match answer with
  | none => trivial
  | some (.priced pricing) =>
    have hincluded : (includedProducts request.subscriptionId).Only Quiet := by
      rw [includedProducts.eq_def]
      split
      · exact (quiet_ask rfl).bind fun _ => trivial
      · trivial
    refine hincluded.bind fun included => (quiet_ask rfl).bind fun balances => ?_
    split
    · dsimp only
      split
      · trivial
      · exact (quiet_announce rfl).bind fun _ => trivial
    · trivial
  | some (.unreadable error) =>
    dsimp only
    split <;> trivial

theorem checkQuota_quiet (userId productId : PyStr) (requestedAmount : ℚ) :
    (checkQuota userId productId requestedAmount).Only Quiet :=
  caught_only (P := Quiet) rfl _ _

theorem usageRecordIdOr_quiet (origin : String) (userId : PyStr) (recorded : Option PyStr) :
    (usageRecordIdOr origin userId recorded).Only Quiet := by
  rw [usageRecordIdOr.eq_def]
  split
  · trivial
  · exact (quiet_ask rfl).bind fun _ => trivial

theorem billWallet_quiet (calculation : BillingCalculation) (id : ℕ) :
    (billWallet service calculation id).Only Quiet := by
  refine (processWalletDeduction_only (P := Quiet) rfl rfl).bind fun result => ?_
  split
  · refine (quiet_ask rfl).bind fun _ => (quiet_ask rfl).bind fun _ => ?_
    exact (quiet_announce rfl).bind fun _ => trivial
  · exact (quiet_ask rfl).bind fun _ => (quiet_ask rfl).bind fun _ => trivial

theorem quiet_deduction {p : BillingM DeductionResult} (hp : p.Only Quiet) (id : ℕ)
    (done failed : DeductionResult → StatusUpdate)
    (success failure : DeductionResult → ProcessBillingResponse) :
    (p >>= fun result =>
      if result.success then
        ask (.updateBillingRecordStatus id (done result)) >>= fun _ => return success result
      else
        ask (.updateBillingRecordStatus id (failed result)) >>= fun _ =>
          return failure result : BillingM ProcessBillingResponse).Only Quiet := by
  refine hp.bind fun result => ?_
  split
  · exact (quiet_ask rfl).bind fun _ => trivial
  · exact (quiet_ask rfl).bind fun _ => trivial

theorem processBilling_quiet (request : ProcessBillingRequest)
    (calculation : Option BillingCalculation) :
    (processBilling service request calculation).Only Quiet := by
  cases calculation with
  | none => trivial
  | some calculation =>
    refine Only.tryCatch ?_ fun _ => trivial
    refine (createBillingRecord_quiet _).bind fun id => ?_
    cases request.billingMethod with
    | walletDeduction => exact billWallet_quiet calculation id
    | subscriptionIncluded =>
      exact quiet_deduction (processSubscriptionCredits_only (P := Quiet) rfl) id _ _ _ _
    | subscriptionCredit =>
      exact quiet_deduction (processSubscriptionCredits_only (P := Quiet) rfl) id _ _ _ _
    | creditConsumption =>
      exact quiet_deduction (caught_only (P := Quiet) rfl _ _) id _ _ _ _
    | paymentCharge => exact (quiet_ask rfl).bind fun _ => trivial

theorem completeIncluded_quiet (request : RecordUsageRequest) (usageRecordId : PyStr)
    (calculation : BillingCalculation) :
    (completeIncluded service request usageRecordId calculation).Only Quiet :=
  (createBillingRecord_quiet _).bind fun _ => (quiet_ask rfl).bind fun _ => trivial

theorem completeExternal_quiet (request : RecordUsageRequest) (usageRecordId : PyStr)
    (calculation : BillingCalculation) :
    (completeExternal service request usageRecordId calculation).Only Quiet :=
  (createBillingRecord_quiet _).bind fun _ => (quiet_ask rfl).bind fun _ => trivial

theorem recordUsageAndBill_quiet (request : RecordUsageRequest) :
    (recordUsageAndBill service request).Only Quiet := by
  refine Only.tryCatch ?_ fun _ => trivial
  refine (quiet_ask rfl).bind fun recorded => (usageRecordIdOr_quiet _ _ _).bind
    fun usageRecordId => (calculateBillingCost_quiet _).bind fun calculation => ?_
  split
  · trivial
  · refine (checkQuota_quiet _ _ _).bind fun quota => ?_
    split
    · refine (quiet_ask rfl).bind fun _ => (quiet_announce rfl).bind fun _ => trivial
    · split
      · exact completeIncluded_quiet _ _ _
      · exact processBilling_quiet _ _

theorem recordUsageWithExternalBilling_quiet (request : RecordUsageRequest)
    (upstream : UpstreamCharge) :
    (recordUsageWithExternalBilling service request upstream).Only Quiet := by
  refine Only.tryCatch ?_ fun _ => trivial
  refine (quiet_ask rfl).bind fun recorded => (usageRecordIdOr_quiet _ _ _).bind
    fun usageRecordId => (calculateBillingCost_quiet _).bind fun calculation => ?_
  dsimp only
  split
  · trivial
  · exact completeExternal_quiet _ _ _

theorem billEvent_quiet (data : UsageEventData) : (billEvent service data).Only Quiet := by
  refine only_require.bind fun _ => ?_
  split
  · exact recordUsageWithExternalBilling_quiet _ _
  · exact recordUsageAndBill_quiet _

/-! ### The handler -/

def Silent (w w' : World) : Prop :=
  ∃ new, w'.published = w.published ++ new ∧
    ∀ message ∈ new, parseBillingCalculatedEvent message = none

theorem Silent.refl (w : World) : Silent w w :=
  ⟨[], (List.append_nil _).symm, fun _ h => by cases h⟩

theorem silent_collaborate {w₀ : World} {call : Call} (hcall : call.Quiet = true)
    (h : Silent w₀ w) : Silent w₀ (collaborate c call w).2 := by
  rcases collaborate_cases c call w with heq | heq
  · rwa [heq]
  · rw [heq]
    cases call with
    | publishEvent message =>
      obtain ⟨new, hnew, hsilent⟩ := h
      refine ⟨new ++ [message], by simp [Call.execute, hnew], fun m hm => ?_⟩
      rcases List.mem_append.mp hm with hm | hm
      · exact hsilent m hm
      · rw [List.mem_singleton.mp hm]
        exact Option.isNone_iff_eq_none.mp hcall
    | _ => exact h

theorem silent_run {α : Type} {w₀ : World} {p : BillingM α} (hp : p.Only Quiet)
    (h : Silent w₀ w) : Silent w₀ (p.run (collaborate c) w).2 :=
  hp.run_keeps h fun _ _ hcall hw => silent_collaborate hcall hw

/-- After silent messages, there is one about a completed record: that of the usage event. -/
def Announced (event : UsageEvent) (w w' : World) : Prop :=
  ∃ new data response id, event.data = some data ∧
    w'.published = w.published ++ (new ++
      [.billingCalculated (billingCalculated event.id data response)]) ∧
    (∀ message ∈ new, parseBillingCalculatedEvent message = none) ∧
    response.billingRecordId = some id ∧ w'.Completed (.inr id)

def Handles (event : UsageEvent) (w : World) (r : Except String Unit) (w' : World) : Prop :=
  Silent w w' ∨ r = .ok () ∧ Announced event w w'

variable {event : UsageEvent} {w₀ : World} {data : UsageEventData}

theorem handles_bind {α : Type} {p : BillingM α} {f : α → BillingM Unit} (hp : p.Only Quiet)
    (h : Silent w₀ w)
    (hf : ∀ a w', Silent w₀ w' → (f a).wp (collaborate c) (Handles event w₀) w') :
    (p >>= f).wp (collaborate c) (Handles event w₀) w := by
  have hsilent := silent_run (c := c) hp h
  rw [wp_bind, wp]
  cases (p.run (collaborate c) w).1 with
  | error e => exact .inl hsilent
  | ok a => exact hf a _ hsilent

theorem handles_of_quiet {p : BillingM Unit} (hp : p.Only Quiet) (h : Silent w₀ w) :
    p.wp (collaborate c) (Handles event w₀) w :=
  .inl (silent_run hp h)

theorem handles_tryCatch {p : BillingM Unit} {f : String → BillingM Unit}
    (hp : p.wp (collaborate c) (Handles event w₀) w) (hf : ∀ e, (f e).Only Quiet) :
    (p.tryCatch f).wp (collaborate c) (Handles event w₀) w := by
  rw [wp_tryCatch]
  refine wp_mono hp ?_
  rintro (e | ⟨⟩) w' h
  · rcases h with h | ⟨h, -⟩
    · exact handles_of_quiet (hf e) h
    · cases h
  · exact h

theorem markProcessed_run (eventId claimKey : PyStr) (w : World) :
    (markProcessed eventId claimKey).run (collaborate c) w = (.ok (), w) := by
  by_cases h : claimKey = eventId
  · simp only [markProcessed, h, ne_eq]
    rfl
  · simp only [markProcessed, h, ne_eq]
    rfl

theorem announce_handles {response : ProcessBillingResponse} {id : ℕ}
    (hdata : event.data = some data) (hid : response.billingRecordId = some id)
    (hcompleted : w.Completed (.inr id)) (h : Silent w₀ w) :
    (announce service (.billingCalculated (billingCalculated event.id data response))).wp
      (collaborate c) (Handles event w₀) w := by
  set message := Message.billingCalculated (billingCalculated event.id data response)
  have hannounced : Announced event w₀ { w with published := w.published ++ [message] } := by
    obtain ⟨new, hnew, hsilent⟩ := h
    exact ⟨new, data, response, id, hdata, by simp [hnew, message], hsilent, hid, hcompleted⟩
  have hsent : Silent w₀ (collaborate c (.publishEvent message) w).2 ∨
      Announced event w₀ (collaborate c (.publishEvent message) w).2 :=
    Link.send_snd (P := fun w' => Silent w₀ w' ∨ Announced event w₀ w') (.inl h) (.inr hannounced)
  rw [announce]
  split
  · rw [quietly, wp_tryCatch, wp_ask]
    split
    · exact hsent.imp_right fun h => ⟨rfl, h⟩
    · exact hsent.imp_right fun h => ⟨rfl, h⟩
  · exact .inl h

/-- **A claimed event** is billed, and announced only if that was a success. -/
theorem handleClaimed_handles (hdata : event.data = some data) (claimKey : PyStr)
    (h : Silent w₀ w) :
    (handleClaimed service event.id claimKey data).wp (collaborate c) (Handles event w₀) w := by
  have hsilent : (billEvent service data).wp (collaborate c) (fun _ w' => Silent w₀ w') w :=
    silent_run (billEvent_quiet data) h
  rw [handleClaimed, wp_bind]
  refine wp_mono (wp_and (recordUsage_completes data) hsilent) ?_
  rintro (e | response) w₁ ⟨hcompletes, hsilent₁⟩
  · exact .inl hsilent₁
  · dsimp only
    split
    · next hsuccess =>
        rw [wp_bind, wp_ask]
        cases (collaborate c (.markEventProcessingCompleted claimKey) w₁).1 with
        | error e => exact .inl hsilent₁
        | ok r =>
          obtain ⟨id, hid, hcompleted⟩ := hcompletes response rfl hsuccess
          rw [wp, run_bind_of_ok (markProcessed_run _ _ _)]
          exact announce_handles hdata hid hcompleted hsilent₁
    · exact handles_bind (quiet_ask rfl) hsilent₁ fun _ _ hsilent₂ =>
        handles_of_quiet (quiet_announce rfl) hsilent₂

theorem handleData_handles (hdata : event.data = some data) (h : Silent w₀ w) :
    (handleData service event.id data).wp (collaborate c) (Handles event w₀) w := by
  have hprocessed : (keyProcessed event.id (data.claimKey event.id)).Only Quiet := by
    rw [keyProcessed]
    split
    · trivial
    · exact quiet_ask rfl
  have hmark : (markProcessed event.id (data.claimKey event.id)).Only Quiet := by
    refine (quiet_ask rfl).bind fun _ => ?_
    split
    · exact quiet_ask rfl
    · trivial
  refine handles_bind hprocessed h fun processed w₁ h₁ => ?_
  split
  · exact handles_of_quiet (quiet_ask rfl) h₁
  · refine handles_bind (quiet_ask rfl) h₁ fun claimed w₂ h₂ => ?_
    split
    · exact handleClaimed_handles hdata _ h₂
    · exact handles_of_quiet hmark h₂

theorem recover_quiet (claimKey : PyStr) (e : String) :
    (recover service event claimKey e).Only Quiet :=
  (quietly_obeys (quiet_ask rfl)).only.bind fun _ => quiet_announce rfl

theorem processUsageRecorded_handles (h : Silent w₀ w) :
    (processUsageRecorded service event).wp (collaborate c) (Handles event w₀) w := by
  refine handles_bind (quiet_ask rfl) h fun processed w₁ h₁ => ?_
  split
  · exact .inl h₁
  · cases hdata : event.data with
    | none => exact handles_of_quiet (recover_quiet _ _) h₁
    | some data =>
      exact handles_tryCatch (handleData_handles hdata h₁) fun e => recover_quiet _ e

/-- **What the handler of usage events publishes**: nothing that the wallet service acts on, or
one message, about the completed record of its event. -/
theorem handleUsageRecorded_handles (service : BillingService) (c : Collaborators)
    (event : UsageEvent) (w : World) :
    Silent w (handled service c event w) ∨ Announced event w (handled service c event w) := by
  have hhandles : (handleUsageRecorded service event).wp (collaborate c) (Handles event w) w := by
    refine handles_bind (quiet_ask rfl) (.refl w) fun processed w₁ h₁ => ?_
    split
    · exact .inl h₁
    · refine handles_tryCatch ?_ fun _ => trivial
      refine handles_bind (quiet_ask rfl) h₁ fun entry w₂ h₂ => ?_
      cases entry with
      | cached => exact handles_of_quiet (quiet_ask rfl) h₂
      | contended => exact .inl h₂
      | acquired => exact processUsageRecorded_handles h₂
  exact hhandles.imp_right And.right

theorem newMessages_of_append {w' : World} {new : List Message}
    (h : w'.published = w.published ++ new) : w.newMessages w' = new := by
  rw [World.newMessages, h, List.drop_left]

end Runs

/-- **Every announcement asks for a second payment.** Of all that the handling of a usage event
publishes, whatever the collaborators do, each message that the wallet service acts on is about
a completed record, and the wallet service decides to deduct the whole usage. So the law holds
only where no such message is published. -/
theorem noSecondCharge_iff_unpublished (service : BillingService) (c : Collaborators)
    (event : UsageEvent) (w : World) :
    (∀ message ∈ w.newMessages (handled service c event w), ∀ data,
      parseBillingCalculatedEvent message = some data →
        (handled service c event w).Completed data.billingRecordId ∧
          ∃ usage ∈ event.data, processBillingCalculated data = .deduct usage.usageAmount) ∧
      (NoSecondCharge w (handled service c event w) ↔
        ∀ message ∈ w.newMessages (handled service c event w),
          parseBillingCalculatedEvent message = none) := by
  have hasks : ∀ message ∈ w.newMessages (handled service c event w), ∀ data,
      parseBillingCalculatedEvent message = some data →
        (handled service c event w).Completed data.billingRecordId ∧
          ∃ usage ∈ event.data, processBillingCalculated data = .deduct usage.usageAmount := by
    intro message hmessage data hdata
    rcases handleUsageRecorded_handles service c event w with
      ⟨new, hnew, hsilent⟩ | ⟨new, usage, response, id, husage, hnew, hsilent, hid, hcompleted⟩
    · rw [newMessages_of_append hnew] at hmessage
      cases (hsilent message hmessage).symm.trans hdata
    · rw [newMessages_of_append hnew] at hmessage
      rcases List.mem_append.mp hmessage with h | h
      · cases (hsilent message h).symm.trans hdata
      · obtain rfl := List.mem_singleton.mp h
        obtain rfl := Option.some.inj hdata
        refine ⟨?_, usage, husage, rfl⟩
        simpa [billingCalculated, hid] using hcompleted
  refine ⟨hasks, fun hlaw message hmessage => ?_, fun hnone message hmessage data hdata => ?_⟩
  · by_contra hsome
    obtain ⟨data, hdata⟩ := Option.ne_none_iff_exists'.mp hsome
    obtain ⟨hcompleted, usage, -, hdeduct⟩ := hasks message hmessage data hdata
    obtain ⟨reason, hskip⟩ := hlaw message hmessage data hdata hcompleted
    cases hdeduct.symm.trans hskip
  · cases (hnone message hmessage).symm.trans hdata

def freeTierHandled : World :=
  handled ⟨false, false, true⟩
    { Collaborators.steady with
      pricing := some (.priced ⟨.finite 1, .finite 5, .credit, .finite 10⟩) }
    { id := ['e'], rawUserId := ['u'], rawProductId := ['p']
      data := some
        { payer := { userId := ['u'] }, subscriptionId := none, productId := ['p']
          usageAmount := 5, creditConsumptionHandled := false
          upstream := ⟨none, none, nofun⟩, idempotencyKey := none } }
    .empty

/-- Usage within the free tier: its record is completed, of an amount of zero, and the wallet
service is told to deduct it. -/
theorem not_noSecondCharge_freeTier : ¬NoSecondCharge .empty freeTierHandled := by
  intro hlaw
  have hstatus : (freeTierHandled.records.get? 0).map (·.billingStatus) = some .completed := by
    decide +kernel
  obtain ⟨row, hrow, hcompleted⟩ := Option.map_eq_some_iff.mp hstatus
  have hmessage := hlaw (.billingCalculated
    { userId := ['u'], billingRecordId := .inr 0, productId := ['p'], actualUsage := 5
      tokenEquivalent := 5, costUsd := 0, unitPrice := 0, tokenConversionRate := 1
      isFreeTier := false, isIncludedInSubscription := false, usageEventId := ['e'] })
    (by decide +kernel) _ rfl ⟨row, hrow, hcompleted⟩
  obtain ⟨reason, hskip⟩ := hmessage
  cases hskip

end IsaUser.Billing
