import IsaUser.Billing.Charges

/-!
# A Usage Charge is Taken at most Once

Every call of `process_billing` may be answered, may fail, or may take effect and fail. This
module follows its runs through all of them. A wallet that was charged by a client that then
raises is charged again over HTTP, and a deduction that cannot be recorded is reported as a
failure; `Settled` is the condition that neither happens.
-/

open IsaUser.Prog List

namespace IsaUser.Billing

variable (service : BillingService)

/-! ### Charges that are made -/

/-- A charge that is made: whether it takes effect, and whether it is reported. -/
structure Attempt where
  took : Bool
  reported : Bool
  deriving DecidableEq, Repr

def Fate.attempt {ρ : Type} (success : ρ → Bool) (fate : Fate ρ) : Attempt :=
  ⟨fate.took, match fate.answer with
    | .ok r => success r
    | .error _ => false⟩

/-- The charges that a method makes. A wallet is charged a second time, over HTTP, when the
client raises. -/
def attempts (c : Collaborators) : BillingMethod → List Attempt
  | .walletDeduction =>
    let http := c.walletHttp.attempt (·.success)
    if service.walletClient then
      match c.walletClient.answer with
      | .ok result => [⟨c.walletClient.took, result.success⟩]
      | .error _ => [⟨c.walletClient.took, false⟩, http]
    else [http]
  | .subscriptionIncluded | .subscriptionCredit =>
    if service.subscriptionClient then [c.subscriptionClient.attempt (·.any (·.success))]
    else []
  | .creditConsumption => [c.creditsHttp.attempt (·.success)]
  | .paymentCharge => []

def Recorded (c : Collaborators) (method : BillingMethod) : Prop :=
  c.updateStatus = .up ∧ (method = .walletDeduction → c.createEvent = .up)
  deriving Decidable

/-- The charges of a method are settled: at most one takes effect, and if one does, one is
reported and the repository answers. -/
def Settled (c : Collaborators) (method : BillingMethod) : Prop :=
  (attempts service c method).countP (·.took) ≤ 1 ∧
    ((attempts service c method).any (·.took) →
      (attempts service c method).any (·.reported) ∧ Recorded c method)

def Begins (c : Collaborators) (request : ProcessBillingRequest)
    (calculation : Option BillingCalculation) : Prop :=
  c.createRecord = .up ∧ ∃ calculated ∈ calculation,
    (newRecord request.usageRecordId calculated request.billingMethod .processing
      request.subscriptionId request.chargedUpstream).Valid

def succeeded : Except String ProcessBillingResponse → Bool
  | .ok response => response.success
  | .error _ => false

/-- **Charged once.** At most one deduction is made, and none if the outcome is not a
success. -/
def ChargedOnce (w : World) (outcome : Except String ProcessBillingResponse × World) : Prop :=
  outcome.2.deductions.length ≤ w.deductions.length + 1 ∧
    (succeeded outcome.1 = false → outcome.2.deductions = w.deductions)

def Collaborators.steady : Collaborators where
  createRecord := .up
  updateStatus := .up
  createEvent := .up
  publish _ := .up
  quota := .ok none
  walletClient := ⟨.ok { success := false }, false⟩
  walletHttp := ⟨.ok (.ok { success := false }), false⟩
  subscriptionClient := ⟨.ok none, false⟩
  creditsHttp := ⟨.ok (.ok { success := false }), false⟩
  usageRecordId := none
  pricing := some (.priced ⟨.finite 0, .finite 0, .credit, .finite 0⟩)
  subscriptionInfo := none
  balances := ⟨0, 0, none, none⟩
  timestamp := 0
  eventProcessed _ := false
  eventLock := .ok .acquired
  claim := .ok true
  markCompleted := .ok ()
  markFailed := .ok ()

/-- The run of `process_billing`. -/
def processed (c : Collaborators) (request : ProcessBillingRequest)
    (calculation : Option BillingCalculation) (w : World) :
    Except String ProcessBillingResponse × World :=
  (processBilling service request calculation).run (collaborate c) w

/-- A delivery of a usage event, as far as `process_billing` gets to see it. -/
structure Delivery where
  request : ProcessBillingRequest
  calculation : Option BillingCalculation
  collaborators : Collaborators

/-- A usage event is delivered again as long as its billing fails. -/
def retried : List Delivery → World → World
  | [], w => w
  | d :: deliveries, w =>
    let outcome := processed service d.collaborators d.request d.calculation w
    if succeeded outcome.1 then outcome.2 else retried deliveries outcome.2

/-! ### Calls and runs -/

section Runs

variable {service} {c : Collaborators} {w : World}

def Call.Deducts : Call → Bool
  | walletClientConsume _ => true
  | walletHttpConsume _ => true
  | subscriptionClientConsume _ => true
  | creditsHttpConsume _ => true
  | _ => false

variable (c w) in
theorem deductions_collaborate (call : Call) (h : call.Deducts = false) :
    (collaborate c call w).2.deductions = w.deductions := by
  rcases collaborate_cases c call w with heq | heq
  · rw [heq]
  · rw [heq]
    cases call <;> first | rfl | cases h

abbrev Harmless (call : BillingApi.Call) : Prop := Call.Deducts call = false

theorem wp_of_harmless {p : BillingM ProcessBillingResponse}
    (hp : p.Obeys Harmless fun r => succeeded r = false) :
    p.wp (collaborate c) (fun r w' => w'.deductions = w.deductions ∧ succeeded r = false) w :=
  ⟨hp.only.run_keeps (J := fun w' : World => w'.deductions = w.deductions) rfl
    fun _ _ hcall hw => (deductions_collaborate _ _ _ hcall).trans hw, hp.run _ _⟩

theorem announce_spec (message : Message) :
    (announce service message).wp (collaborate c)
      (fun r w' => r = .ok () ∧ w'.deductions = w.deductions) w := by
  rw [announce]
  split
  · have hkept := deductions_collaborate c w (.publishEvent message) rfl
    rw [quietly, wp_tryCatch, wp_ask]
    split
    · exact ⟨rfl, hkept⟩
    · exact ⟨rfl, hkept⟩
  · exact ⟨rfl, rfl⟩

/-! ### Deductions -/

/-- The deductions of `w'` beyond those of `w` are the charges that took effect. -/
def Took (made : List Attempt) (w w' : World) : Prop :=
  ∃ taken, w'.deductions = w.deductions ++ taken ∧ taken.length = made.countP (·.took)

theorem took_deduct {ρ : Type} (fate : Fate ρ) (success : ρ → Bool) (deduction : Deduction) :
    Took [fate.attempt success] w (fate.deduct deduction w).2 := by
  rw [Fate.deduct]
  cases htook : fate.took with
  | true => exact ⟨[deduction], rfl, by simp [Fate.attempt, htook]⟩
  | false => exact ⟨[], (append_nil _).symm, by simp [Fate.attempt, htook]⟩

theorem Took.append {made made' : List Attempt} {w' w'' : World} (h : Took made w w')
    (h' : Took made' w' w'') : Took (made ++ made') w w'' := by
  obtain ⟨taken, hw', hlength⟩ := h
  obtain ⟨taken', hw'', hlength'⟩ := h'
  refine ⟨taken ++ taken', by rw [hw'', hw', append_assoc], ?_⟩
  rw [length_append, countP_append, hlength, hlength']

@[simp] theorem DeductionResult.success_of (message : String) (result : ConsumeResult) :
    (DeductionResult.of message result).success = result.success := by
  rw [DeductionResult.of]
  split
  · next h => exact h.symm
  · next h => exact (Bool.eq_false_iff.mpr h).symm

@[simp] theorem DeductionResult.success_ofHttp (message : String) (response : HttpResponse) :
    (DeductionResult.ofHttp message response).success = response.success := by
  cases response with
  | ok result => exact DeductionResult.success_of message result
  | status code => rfl

@[simp] theorem DeductionResult.success_ofSubscription (result : Option ConsumeResult) :
    (DeductionResult.ofSubscription result).success = result.any (·.success) := by
  cases result with
  | none => rfl
  | some result => exact DeductionResult.success_of _ result

/-- A program makes these charges and returns whether one was reported. -/
def Deducts (c : Collaborators) (p : BillingM DeductionResult) (made : List Attempt) : Prop :=
  ∀ w, p.wp (collaborate c)
    (fun r w' => ∃ result, r = .ok result ∧ result.success = made.any (·.reported) ∧
      Took made w w') w

theorem deducts_once {call : Call} {fate : Fate call.Reply} {success : call.Reply → Bool}
    {result : call.Reply → DeductionResult} {deduction : Deduction}
    (hcall : ∀ w, collaborate c call w = fate.deduct deduction w)
    (hresult : ∀ r, (result r).success = success r) :
    Deducts c ((ask call >>= fun r => return result r).tryCatch fun e => return .raised e)
      [fate.attempt success] := by
  intro w
  have htook : Took [fate.attempt success] w (collaborate c call w).2 := by
    rw [hcall]
    exact took_deduct fate success _
  have hanswer : (collaborate c call w).1 = fate.answer := by
    rw [hcall]
    rfl
  rw [wp_tryCatch, wp_bind, wp_ask, hanswer]
  cases h : fate.answer with
  | ok r => exact ⟨_, rfl, by simp [Fate.attempt, h, hresult], htook⟩
  | error e => exact ⟨_, rfl, by simp [Fate.attempt, h, DeductionResult.raised], htook⟩

theorem walletDeductionHttp_deducts (charge : Charge) :
    Deducts c (walletDeductionHttp charge) [c.walletHttp.attempt (·.success)] :=
  deducts_once (fun _ => rfl) (DeductionResult.success_ofHttp _)

theorem purchasedCredits_deducts (charge : Charge) :
    Deducts c (processPurchasedCreditConsumption charge) (attempts service c .creditConsumption) :=
  deducts_once (fun _ => rfl) (DeductionResult.success_ofHttp _)

theorem subscriptionCredits_deducts (charge : Charge) :
    Deducts c (processSubscriptionCreditConsumption service charge)
      (attempts service c .subscriptionCredit) := by
  rw [processSubscriptionCreditConsumption, attempts]
  split
  · exact deducts_once (fun _ => rfl) DeductionResult.success_ofSubscription
  · exact fun w => ⟨_, rfl, rfl, [], (append_nil _).symm, rfl⟩

theorem wallet_deducts (charge : Charge) :
    Deducts c (processWalletDeduction service charge) (attempts service c .walletDeduction) := by
  have hhttp : Deducts c (walletDeductionHttp charge) [c.walletHttp.attempt (·.success)] :=
    walletDeductionHttp_deducts charge
  intro w
  rw [processWalletDeduction, walletDeductionClient, attempts, wp_bind]
  split
  · have hanswer : (collaborate c (.walletClientConsume charge) w).1 = c.walletClient.answer := rfl
    have htook : Took [c.walletClient.attempt (·.success)] w
        (collaborate c (.walletClientConsume charge) w).2 := took_deduct _ _ _
    rw [wp_tryCatch, wp_bind, wp_ask, hanswer]
    cases h : c.walletClient.answer with
    | ok result =>
      refine ⟨_, rfl, by simp, ?_⟩
      simpa [Fate.attempt, h] using htook
    | error e =>
      simp only [pure_eq, wp_ret]
      refine wp_mono (hhttp _) ?_
      rintro r w' ⟨result, rfl, hsuccess, htook'⟩
      exact ⟨result, rfl, by simpa using hsuccess, htook.append htook'⟩
  · exact hhttp w

/-! ### Billing -/

/-- Which charges a program makes, and when it succeeds: one of them is reported, and what
comes after it is recorded. -/
def Bills (c : Collaborators) (p : BillingM ProcessBillingResponse) (made : List Attempt)
    (recorded : Prop) : Prop :=
  ∀ w, p.wp (collaborate c)
    (fun r w' => Took made w w' ∧ (succeeded r = true ↔ made.any (·.reported) ∧ recorded)) w

theorem Deducts.bills {p : BillingM DeductionResult} {made : List Attempt} {recorded : Prop}
    (hp : Deducts c p made) {f : DeductionResult → BillingM ProcessBillingResponse}
    (hdone : ∀ result w, result.success = true → (f result).wp (collaborate c)
      (fun r w' => w'.deductions = w.deductions ∧ (succeeded r = true ↔ recorded)) w)
    (hfailed : ∀ result, result.success = false →
      (f result).Obeys Harmless fun r => succeeded r = false) :
    Bills c (p >>= f) made recorded := by
  intro w
  rw [wp_bind]
  refine wp_mono (hp w) ?_
  rintro _ w' ⟨result, rfl, hreported, taken, htaken, hlength⟩
  cases hsuccess : result.success with
  | true =>
    refine wp_mono (hdone result w' hsuccess) ?_
    rintro r w'' ⟨hkept, hiff⟩
    refine ⟨⟨taken, hkept.trans htaken, hlength⟩, ?_⟩
    rw [← hreported, hsuccess, hiff]
    exact (and_iff_right rfl).symm
  | false =>
    refine wp_mono (wp_of_harmless (hfailed result hsuccess)) ?_
    rintro r w'' ⟨hkept, hnot⟩
    refine ⟨⟨taken, hkept.trans htaken, hlength⟩, ?_⟩
    rw [← hreported, hsuccess, hnot]
    simp

theorem wp_recorded {call : Call} {link : Link} {recorded : Prop} (hcall : Harmless call)
    (hlink : (∃ r, (collaborate c call w).1 = .ok r) ↔ link = .up)
    {f : call.Reply → BillingM ProcessBillingResponse}
    (hf : ∀ r w', (f r).wp (collaborate c)
      (fun r w'' => w''.deductions = w'.deductions ∧ (succeeded r = true ↔ recorded)) w') :
    (ask call >>= f).wp (collaborate c)
      (fun r w' => w'.deductions = w.deductions ∧
        (succeeded r = true ↔ link = .up ∧ recorded)) w := by
  have hkept := deductions_collaborate c w call hcall
  rw [wp_bind, wp_ask]
  cases h : (collaborate c call w).1 with
  | ok r =>
    have hup : link = .up := hlink.mp ⟨r, h⟩
    refine wp_mono (hf r _) ?_
    rintro r' w' ⟨hsame, hiff⟩
    exact ⟨hsame.trans hkept, by rw [hiff, and_iff_right hup]⟩
  | error e =>
    have hdown : link ≠ .up := fun hup => by
      obtain ⟨r, hr⟩ := hlink.mpr hup
      cases h.symm.trans hr
    exact ⟨hkept, by simp [succeeded, hdown]⟩

theorem wp_update (id : ℕ) (update : StatusUpdate) (response : ProcessBillingResponse)
    (hresponse : response.success = true) :
    (ask (.updateBillingRecordStatus id update) >>= fun _ => return response).wp (collaborate c)
      (fun r w' => w'.deductions = w.deductions ∧
        (succeeded r = true ↔ c.updateStatus = .up ∧ True)) w :=
  wp_recorded rfl Link.exists_send_ok fun _ _ => ⟨rfl, by simp [succeeded, hresponse]⟩

theorem obeys_update (id : ℕ) (update : StatusUpdate) (response : ProcessBillingResponse)
    (hresponse : response.success = false) :
    (ask (.updateBillingRecordStatus id update) >>= fun _ => return response).Obeys Harmless
      fun r => succeeded r = false :=
  obeys_ask rfl (fun _ => rfl) fun _ => hresponse

theorem billCredits_bills (calculation : BillingCalculation) (id : ℕ) :
    Bills c (billCredits calculation id) (attempts service c .creditConsumption)
      (Recorded c .creditConsumption) := by
  refine (purchasedCredits_deducts _).bills (fun result w h => ?_) fun result h => ?_
  · rw [if_pos h]
    simpa [Recorded] using wp_update _ _ _ rfl
  · rw [if_neg (by simp [h])]
    exact obeys_update _ _ _ rfl

theorem billSubscription_bills (calculation : BillingCalculation) (id : ℕ)
    (subscriptionId : Option PyStr) :
    Bills c (billSubscription service calculation id subscriptionId)
      (attempts service c .subscriptionCredit) (Recorded c .subscriptionCredit) := by
  refine (subscriptionCredits_deducts _).bills (fun result w h => ?_) fun result h => ?_
  · rw [if_pos h]
    simpa [Recorded] using wp_update _ _ _ rfl
  · rw [if_neg (by simp [h])]
    exact obeys_update _ _ _ rfl

theorem billWallet_bills (calculation : BillingCalculation) (id : ℕ) :
    Bills c (billWallet service calculation id) (attempts service c .walletDeduction)
      (Recorded c .walletDeduction) := by
  refine (wallet_deducts _).bills (fun result w h => ?_) fun result h => ?_
  · rw [if_pos h]
    have hrecorded : Recorded c .walletDeduction ↔
        c.updateStatus = .up ∧ c.createEvent = .up ∧ True := by simp [Recorded]
    simp only [hrecorded]
    refine wp_recorded rfl Link.exists_send_ok fun _ w₁ => ?_
    refine wp_recorded rfl Link.exists_send_ok fun _ w₂ => ?_
    rw [wp_bind]
    refine wp_mono (announce_spec _) ?_
    rintro _ w₃ ⟨rfl, hkept⟩
    exact ⟨hkept, by simp [succeeded, billed]⟩
  · rw [if_neg (by simp [h])]
    exact obeys_ask rfl (fun _ => rfl) fun _ => obeys_ask rfl (fun _ => rfl) fun _ => rfl

theorem billPayment_bills (id : ℕ) :
    Bills c (billPayment id) (attempts service c .paymentCharge) (Recorded c .paymentCharge) := by
  intro w
  refine wp_mono (wp_of_harmless (obeys_update _ _ _ rfl)) ?_
  rintro r w' ⟨hkept, hnot⟩
  exact ⟨⟨[], by simpa using hkept, rfl⟩, by simp [hnot, attempts]⟩

theorem createBillingRecord_spec (row : BillingRecord) :
    (createBillingRecord service row).wp (collaborate c)
      (fun r w' => w'.deductions = w.deductions ∧
        ((∃ id, r = .ok id) ↔ c.createRecord = .up ∧ row.Valid)) w := by
  refine wp_require_bind (fun hvalid => ?_) fun hinvalid => ?_
  · have hkept := deductions_collaborate c w (.createBillingRecord row) rfl
    have hlink : (∃ id, (collaborate c (.createBillingRecord row) w).1 = .ok id) ↔
        c.createRecord = .up := Link.exists_send_ok
    rw [wp_bind, wp_ask]
    cases h : (collaborate c (.createBillingRecord row) w).1 with
    | ok id =>
      have hup := hlink.mp ⟨id, h⟩
      dsimp only
      rw [wp_bind]
      refine wp_mono (announce_spec _) ?_
      rintro _ w' ⟨rfl, hsame⟩
      exact ⟨hsame.trans hkept, fun _ => ⟨hup, hvalid⟩, fun _ => ⟨id, rfl⟩⟩
    | error e =>
      refine ⟨hkept, by simp, fun ⟨hup, _⟩ => ?_⟩
      obtain ⟨id, hid⟩ := hlink.mpr hup
      cases h.symm.trans hid
  · exact ⟨rfl, by simp, fun ⟨_, hvalid⟩ => absurd hvalid hinvalid⟩

theorem method_bills (calculation : BillingCalculation) (id : ℕ) (subscriptionId : Option PyStr)
    (method : BillingMethod) :
    Bills c
      (match method with
        | .walletDeduction => billWallet service calculation id
        | .subscriptionIncluded => billSubscription service calculation id subscriptionId
        | .subscriptionCredit => billSubscription service calculation id subscriptionId
        | .creditConsumption => billCredits calculation id
        | .paymentCharge => billPayment id)
      (attempts service c method) (Recorded c method) := by
  cases method with
  | walletDeduction => exact billWallet_bills calculation id
  | paymentCharge => exact billPayment_bills id
  | creditConsumption => exact billCredits_bills calculation id
  | subscriptionCredit => exact billSubscription_bills calculation id subscriptionId
  | subscriptionIncluded =>
    have hcredit : Bills c (billSubscription service calculation id subscriptionId)
        (attempts service c .subscriptionCredit) (Recorded c .subscriptionCredit) :=
      billSubscription_bills calculation id subscriptionId
    simpa [attempts, Recorded] using hcredit

inductive Goes (service : BillingService) (c : Collaborators) (request : ProcessBillingRequest)
    (calculation : Option BillingCalculation) (w : World) (success : Bool) (w' : World) : Prop where
  /-- The charges of the method are made; success is that one is reported and recorded. -/
  | charged (begins : Begins c request calculation)
      (took : Took (attempts service c request.billingMethod) w w')
      (succeeds : success = true ↔ (attempts service c request.billingMethod).any (·.reported) ∧
        Recorded c request.billingMethod)
  /-- No record is created, and nothing is deducted. -/
  | refused (begins : ¬Begins c request calculation) (kept : w'.deductions = w.deductions)
      (fails : success = false)

theorem bill_goes (request : ProcessBillingRequest) (calculation : BillingCalculation) :
    (bill service request calculation).wp (collaborate c)
      (fun r w' => Goes service c request (some calculation) w (succeeded r) w') w := by
  set row := newRecord request.usageRecordId calculation request.billingMethod .processing
    request.subscriptionId request.chargedUpstream
  have hbegins : Begins c request (some calculation) ↔ c.createRecord = .up ∧ row.Valid := by
    simp [Begins, row]
  rw [bill, wp_bind]
  refine wp_mono (createBillingRecord_spec row) ?_
  rintro (e | id) w₁ ⟨hkept, hcreated⟩
  · refine .refused (fun h => ?_) hkept rfl
    obtain ⟨id, hid⟩ := hcreated.mpr (hbegins.mp h)
    cases hid
  · refine wp_mono (method_bills calculation id row.subscriptionId _ w₁) ?_
    rintro r w₂ ⟨⟨taken, htaken, hlength⟩, hsucceeds⟩
    exact .charged (hbegins.mpr (hcreated.mp ⟨id, rfl⟩)) ⟨taken, by rw [htaken, hkept], hlength⟩
      hsucceeds

/-- **What `process_billing` does.** It returns a response; the charges of its method are made
if a record is created, and nothing is deducted otherwise. -/
theorem processBilling_run (service : BillingService) (c : Collaborators)
    (request : ProcessBillingRequest) (calculation : Option BillingCalculation) (w : World) :
    (processBilling service request calculation).wp (collaborate c)
      (fun r w' => (∃ response, r = .ok response) ∧
        Goes service c request calculation w (succeeded r) w') w := by
  cases calculation with
  | none =>
    have hnot : ¬Begins c request none := by simp [Begins]
    exact ⟨⟨_, rfl⟩, .refused hnot rfl rfl⟩
  | some calculation =>
    rw [processBilling, wp_tryCatch]
    refine wp_mono (bill_goes request calculation) ?_
    rintro (e | response) w' hgoes
    · exact ⟨⟨_, rfl⟩, hgoes⟩
    · exact ⟨⟨_, rfl⟩, hgoes⟩

/-- **Charged once, and settled.** -/
theorem Goes.iff_settled {request : ProcessBillingRequest}
    {calculation : Option BillingCalculation} {r : Except String ProcessBillingResponse}
    {w' : World} (h : Goes service c request calculation w (succeeded r) w') :
    ChargedOnce w (r, w') ↔
      (Begins c request calculation → Settled service c request.billingMethod) := by
  cases h with
  | refused begins kept fails =>
    refine ⟨fun _ h => absurd h begins, fun _ => ⟨?_, fun _ => kept⟩⟩
    rw [kept]
    omega
  | charged begins took succeeds =>
    obtain ⟨taken, htaken, hlength⟩ := took
    set made := attempts service c request.billingMethod
    have hnone : w'.deductions = w.deductions ↔ made.any (·.took) = false := by
      rw [htaken, append_right_eq_self, ← length_eq_zero_iff, hlength]
      simp
    have hlength : w'.deductions.length = w.deductions.length + made.countP (·.took) := by
      rw [htaken, length_append, hlength]
    have hcount : w'.deductions.length ≤ w.deductions.length + 1 ↔
        made.countP (·.took) ≤ 1 := by omega
    have hsettled : (succeeded r = false → made.any (·.took) = false) ↔
        (made.any (·.took) = true →
          made.any (·.reported) = true ∧ Recorded c request.billingMethod) := by
      rw [← succeeds]
      cases succeeded r <;> cases made.any (·.took) <;> simp
    rw [ChargedOnce, hcount, hnone, hsettled]
    exact ⟨fun h _ => h, fun h => h begins⟩

end Runs

/-- **Charged once, exactly when settled.** Whatever the collaborators do, `process_billing`
returns a response; it charges at most once, and nothing when it fails, exactly if the charges
of its method are settled whenever its record is created. A usage event that is delivered again
until its billing succeeds is charged at most once if this is so in every delivery. -/
theorem chargedOnce_iff_settled (service : BillingService) :
    (∀ c request calculation w,
      (∃ response, (processed service c request calculation w).1 = .ok response) ∧
        (ChargedOnce w (processed service c request calculation w) ↔
          (Begins c request calculation → Settled service c request.billingMethod))) ∧
      ∀ (deliveries : List Delivery) (w : World),
        (∀ d ∈ deliveries, Begins d.collaborators d.request d.calculation →
          Settled service d.collaborators d.request.billingMethod) →
        (retried service deliveries w).deductions.length ≤ w.deductions.length + 1 := by
  have hcall : ∀ c request calculation w,
      (∃ response, (processed service c request calculation w).1 = .ok response) ∧
        (ChargedOnce w (processed service c request calculation w) ↔
          (Begins c request calculation → Settled service c request.billingMethod)) := by
    intro c request calculation w
    obtain ⟨hresponse, hgoes⟩ := processBilling_run service c request calculation w
    exact ⟨hresponse, hgoes.iff_settled⟩
  refine ⟨hcall, fun deliveries => ?_⟩
  induction deliveries with
  | nil => exact fun w _ => Nat.le_succ _
  | cons d deliveries ih =>
    intro w hsettled
    obtain ⟨hd, hdeliveries⟩ := forall_mem_cons.mp hsettled
    obtain ⟨hatMost, hnone⟩ :=
      (hcall d.collaborators d.request d.calculation w).2.mpr hd
    rw [retried]
    split
    · exact hatMost
    · next hfailed =>
        have hsame := hnone (Bool.eq_false_iff.mpr hfailed)
        have hrest := ih (processed service d.collaborators d.request d.calculation w).2
          hdeliveries
        rwa [hsame] at hrest

/-- A client that times out after the wallet was charged, and the HTTP path, which charges it
again. -/
theorem not_chargedOnce_timeout :
    ¬ChargedOnce .empty (processed ⟨true, false, false⟩
      { Collaborators.steady with
        walletClient := ⟨.error "timeout", true⟩
        walletHttp := ⟨.ok (.ok { success := true }), true⟩ }
      { usageRecordId := [], billingMethod := .walletDeduction, subscriptionId := none }
      (some
        { success := true, message := "", userId := ['u'], subscriptionId := none
          productId := ['p'], usageAmount := 1, unitPrice := 1, totalCost := 1, currency := .usd
          suggestedBillingMethod := .walletDeduction })
      .empty) := by
  rintro ⟨htwice, -⟩
  revert htwice
  decide

end IsaUser.Billing
