import IsaUser.Payment.Effects

/-!
# Refunds Are Bounded and Final

Whether a payment may be refunded is decided from its status, and a confirmation sets the status
to `SUCCEEDED` whatever it was. A webhook that is delivered late makes a refunded payment
refundable again.
-/

open Option

namespace IsaUser.Payments

open World PaymentService

/-! ### The law -/

def PaymentStatus.Final : PaymentStatus → Prop
  | refunded => True
  | partialRefund => True
  | failed => True
  | _ => False

instance : DecidablePred PaymentStatus.Final
  | .refunded => .isTrue trivial
  | .partialRefund => .isTrue trivial
  | .failed => .isTrue trivial
  | .pending => .isFalse id
  | .processing => .isFalse id
  | .succeeded => .isFalse id
  | .canceled => .isFalse id

namespace World

variable (w : World)

def refundsOf (paymentId : PyStr) : List RefundRow :=
  w.refunds.filter fun row => row.paymentId = paymentId

def refundedAmount (paymentId : PyStr) : WithTop ℚ :=
  ((w.refundsOf paymentId).map fun row => column row.amount).sum

def RefundsBounded : Prop :=
  ∀ paymentId, ∀ row ∈ w.payments paymentId, w.refundedAmount paymentId ≤ column row.amount

/-- Refunds are bounded at the later moment, and what was final at the earlier one has not
succeeded. -/
def RefundsHold (w' : World) : Prop :=
  w'.RefundsBounded ∧
    ∀ paymentId, w.HasStatus paymentId PaymentStatus.Final →
      ¬w'.HasStatus paymentId (· = .succeeded)

end World

/-! ### The condition -/

def Deed.KeepsFinal (w : World) : Deed → Prop
  | update paymentId change _ =>
    change.status = .succeeded → ¬w.HasStatus paymentId PaymentStatus.Final
  | _ => True

def Deed.Fits (w : World) : Deed → Prop
  | refund row _ =>
    w.refundsOf row.paymentId ≠ [] →
      ∀ payment ∈ w.payments row.paymentId,
        w.refundedAmount row.paymentId + column row.amount ≤ column payment.amount
  | _ => True

def KeepsFinal (service : PaymentService) (w : World) (attempt : Attempt) : Prop :=
  (service.deed w attempt).KeepsFinal w

/-- No confirmation of a final payment goes through, and a refund beside another one leaves
room for it. -/
def KeepsRefunds (service : PaymentService) (w : World) (attempt : Attempt) : Prop :=
  (service.deed w attempt).KeepsFinal w ∧ (service.deed w attempt).Fits w

/-! ### What a deed is -/

def Deed.Valid (w : World) : Deed → Prop
  | insert paymentId row => w.payments paymentId = none ∧ 0 ≤ column row.amount
  | update paymentId change _ =>
    (w.payments paymentId).isSome ∧ (change.status = .succeeded ∨ change.status = .failed)
  | refund row status =>
    (∃ payment ∈ w.payments row.paymentId,
      payment.status = .succeeded ∧ column row.amount ≤ column payment.amount) ∧
    ∀ new ∈ status, PaymentStatus.Final new
  | _ => True

section Valid

variable {w : World} {fortunes : ℕ → Fortune} {paymentId : PyStr}

theorem column_nonneg {amount : Amount} : 0 ≤ column (toDouble amount) := by
  cases h : toDouble amount with
  | none => exact le_top
  | some d => exact WithTop.coe_le_coe.mpr (float_nonneg amount.2 (toDouble_eq_some.mp h))

theorem column_le_of_le {q : ℚ} {d : Double} (hq : 0 ≤ q) (h : q ≤ shortest d.1) :
    column (toDouble q) ≤ column (some d) := by
  obtain ⟨x, hx⟩ := exists_toDouble_of_le hq h (toDouble_shortest d)
  rw [hx]
  exact WithTop.coe_le_coe.mpr (toDouble_mono hq h hx (toDouble_shortest d))

theorem confirmDeed_valid (service : PaymentService)
    (completions : Payment → List PaymentCompletedEvent) :
    (service.confirmDeed fortunes w paymentId completions).Valid w := by
  rw [confirmDeed]
  split
  · trivial
  · next payment hfound =>
      obtain ⟨row, hrow, -⟩ := found_row hfound
      split
      · trivial
      · exact ⟨by simp [hrow], .inl rfl⟩

theorem failDeed_valid (failureReason : PyStr) (failureCode : Option PyStr) :
    (failDeed fortunes w paymentId failureReason failureCode).Valid w := by
  rw [failDeed]
  split
  · trivial
  · next payment hfound =>
      obtain ⟨row, hrow, -⟩ := found_row hfound
      split
      · trivial
      · exact ⟨by simp [hrow], .inr rfl⟩

theorem createDeed_valid (service : PaymentService) (request : CreatePaymentIntentRequest) :
    (service.createDeed fortunes w request).Valid w := by
  rw [createDeed]
  generalize fortunes (if service.stripe then 3 else 2) = fortune
  split
  · split
    · trivial
    · split
      · next h => exact ⟨h.2, column_nonneg⟩
      · trivial
  · trivial

theorem refundDeed_valid (service : PaymentService) (request : CreateRefundRequest) :
    (service.refundDeed fortunes w request).Valid w := by
  rw [refundDeed]
  split
  · trivial
  · next payment hfound =>
      obtain ⟨row, hrow, hread⟩ := found_row hfound
      obtain ⟨d, hd, hamount, hstatus⟩ := toPayment_amount hread
      split
      · next hchecks =>
          obtain ⟨hsucceeded, hle, hnonneg⟩ := hchecks
          split
          · trivial
          · next refundId _ =>
              dsimp only
              split
              · refine ⟨⟨row, hrow, hstatus.symm.trans hsucceeded, ?_⟩, ?_⟩
                · rw [hd]
                  exact column_le_of_le hnonneg (hle.trans_eq hamount)
                · intro new hnew
                  split at hnew
                  · obtain rfl := some.inj hnew
                    rw [refundStatus]
                    split <;> trivial
                  · cases hnew
              · trivial
      · trivial

/-- **What a request may do.** -/
theorem deed_valid (service : PaymentService) (w : World) (attempt : Attempt) :
    (service.deed w attempt).Valid w := by
  rw [deed]
  split
  · exact createDeed_valid service _
  · exact confirmDeed_valid service _
  · exact failDeed_valid _ _
  · exact refundDeed_valid service _
  · rw [approveDeed]
    split <;> trivial
  · exact confirmDeed_valid service _
  · exact failDeed_valid _ _
  · trivial

end Valid

/-! ### What a deed keeps -/

section Keeps

variable {w w' : World} {paymentId : PyStr} {P : PaymentStatus → Prop} {id : PyStr} {deed : Deed}

theorem World.Same.refundsOf (h : w.Same w') (paymentId : PyStr) :
    w'.refundsOf paymentId = w.refundsOf paymentId := by
  rw [World.refundsOf, World.refundsOf, h.refunds]

theorem World.Same.refundedAmount (h : w.Same w') (paymentId : PyStr) :
    w'.refundedAmount paymentId = w.refundedAmount paymentId := by
  rw [World.refundedAmount, World.refundedAmount, h.refundsOf]

theorem World.Same.hasStatus (h : w.Same w') :
    w'.HasStatus paymentId P ↔ w.HasStatus paymentId P := by
  rw [HasStatus, HasStatus, h.payments]

theorem World.Same.refundsBounded (h : w.Same w') : w'.RefundsBounded ↔ w.RefundsBounded := by
  simp only [RefundsBounded, h.payments, h.refundedAmount]

theorem refundsOf_addRefund (row : RefundRow) :
    (w.addRefund row).refundsOf paymentId =
      w.refundsOf paymentId ++ if row.paymentId = paymentId then [row] else [] := by
  simp only [World.refundsOf, addRefund]
  by_cases h : row.paymentId = paymentId <;> simp [h]

theorem refundedAmount_addRefund (row : RefundRow) :
    (w.addRefund row).refundedAmount row.paymentId =
      w.refundedAmount row.paymentId + column row.amount := by
  simp [World.refundedAmount, refundsOf_addRefund]

theorem refundedAmount_addRefund_of_ne {row : RefundRow} (h : row.paymentId ≠ paymentId) :
    (w.addRefund row).refundedAmount paymentId = w.refundedAmount paymentId := by
  simp [World.refundedAmount, refundsOf_addRefund, h]

theorem approve_paymentId (refundId : PyStr) (approvedBy : Option PyStr) (row : RefundRow) :
    (row.approve refundId approvedBy).paymentId = row.paymentId := by
  rw [RefundRow.approve]
  split <;> rfl

theorem approve_amount (refundId : PyStr) (approvedBy : Option PyStr) (row : RefundRow) :
    (row.approve refundId approvedBy).amount = row.amount := by
  rw [RefundRow.approve]
  split <;> rfl

theorem refundsOf_approveRefund (refundId : PyStr) (approvedBy : Option PyStr) :
    (w.approveRefund refundId approvedBy).refundsOf paymentId =
      (w.refundsOf paymentId).map (RefundRow.approve refundId approvedBy) := by
  simp only [World.refundsOf, World.approveRefund, List.filter_map]
  congr 2
  funext row
  simp [approve_paymentId]

theorem refundedAmount_approveRefund (refundId : PyStr) (approvedBy : Option PyStr) :
    (w.approveRefund refundId approvedBy).refundedAmount paymentId =
      w.refundedAmount paymentId := by
  rw [World.refundedAmount, refundsOf_approveRefund, List.map_map]
  congr 2
  funext row
  exact congrArg column (approve_amount refundId approvedBy row)

theorem refundsBounded_setStatus {change : StatusUpdate} (h : w.RefundsBounded) :
    (w.setStatus id change).RefundsBounded := by
  intro paymentId row hrow
  rw [mem_setStatus] at hrow
  split at hrow
  · next heq =>
      obtain ⟨old, hold, rfl⟩ := hrow
      rw [apply_amount, heq]
      exact h id old hold
  · exact h paymentId row hrow

theorem hasStatus_putPayment (row : PaymentRow) (hfree : w.payments id = none)
    (h : w.HasStatus paymentId P) : (w.putPayment id row).HasStatus paymentId P := by
  obtain ⟨old, hold, hP⟩ := h
  have hne : paymentId ≠ id := by
    rintro rfl
    rw [hfree] at hold
    cases hold
  exact ⟨old, by simpa [putPayment, hne] using hold, hP⟩

theorem final_on (hvalid : deed.Valid w) (hkeeps : deed.KeepsFinal w)
    (h : w.HasStatus paymentId PaymentStatus.Final) :
    (deed.on w).HasStatus paymentId PaymentStatus.Final := by
  cases deed with
  | nothing => exact h
  | insert id row => exact hasStatus_putPayment row hvalid.1 h
  | update id change completions =>
    change (w.setStatus id change).HasStatus paymentId PaymentStatus.Final
    rw [hasStatus_setStatus]
    split
    · next heq =>
        refine ⟨hvalid.1, ?_⟩
        rcases hvalid.2 with hsucceeded | hfailed
        · exact absurd (heq ▸ h) (hkeeps hsucceeded)
        · rw [hfailed]
          trivial
    · exact h
  | refund row status =>
    cases status with
    | none => exact h
    | some status =>
      change ((w.addRefund row).setStatus row.paymentId (.set status)).HasStatus paymentId _
      rw [hasStatus_setStatus]
      split
      · obtain ⟨payment, hpayment, -⟩ := hvalid.1
        exact ⟨isSome_of_mem hpayment, hvalid.2 status rfl⟩
      · exact h
  | approve refundId approvedBy => exact h

/-- Refunds are bounded, and there are none without a payment. -/
structure World.Settled (w : World) : Prop where
  bounded : w.RefundsBounded
  payments : ∀ paymentId, w.refundsOf paymentId ≠ [] → (w.payments paymentId).isSome

theorem World.Same.settled (h : w.Same w') (hw : w.Settled) : w'.Settled :=
  ⟨h.refundsBounded.mpr hw.bounded, by simpa only [h.refundsOf, h.payments] using hw.payments⟩

theorem settled_setStatus {change : StatusUpdate} (h : w.Settled) :
    (w.setStatus id change).Settled := by
  refine ⟨refundsBounded_setStatus h.bounded, fun paymentId hrefunds => ?_⟩
  obtain ⟨old, hold⟩ := isSome_iff_exists.mp (h.payments paymentId hrefunds)
  by_cases heq : paymentId = id
  · exact isSome_of_mem (mem_setStatus.mpr (by rw [if_pos heq]; exact ⟨old, heq ▸ hold, rfl⟩))
  · exact isSome_of_mem (mem_setStatus.mpr (by rw [if_neg heq]; exact hold))

theorem settled_addRefund {row : RefundRow} (h : w.Settled)
    (hpayment : ∃ payment ∈ w.payments row.paymentId, column row.amount ≤ column payment.amount)
    (hfits : w.refundsOf row.paymentId ≠ [] → ∀ payment ∈ w.payments row.paymentId,
      w.refundedAmount row.paymentId + column row.amount ≤ column payment.amount) :
    (w.addRefund row).Settled := by
  obtain ⟨payment, hmem, hle⟩ := hpayment
  refine ⟨fun paymentId payment' hmem' => ?_, fun paymentId hrefunds => ?_⟩
  · by_cases heq : row.paymentId = paymentId
    · subst heq
      obtain rfl : payment = payment' := some.inj (hmem.symm.trans hmem')
      rw [refundedAmount_addRefund]
      by_cases hfirst : w.refundsOf row.paymentId = []
      · rw [World.refundedAmount, hfirst, List.map_nil, List.sum_nil, zero_add]
        exact hle
      · exact hfits hfirst payment hmem
    · rw [refundedAmount_addRefund_of_ne heq]
      exact h.bounded paymentId payment' hmem'
  · by_cases heq : row.paymentId = paymentId
    · exact heq ▸ isSome_of_mem hmem
    · refine h.payments paymentId fun hnil => hrefunds ?_
      rw [refundsOf_addRefund, hnil, if_neg heq, List.append_nil]

theorem settled_putPayment {row : PaymentRow} (h : w.Settled) (hfree : w.payments id = none)
    (hnonneg : 0 ≤ column row.amount) : (w.putPayment id row).Settled := by
  refine ⟨fun paymentId payment hmem => ?_, fun paymentId hrefunds => ?_⟩
  · by_cases heq : paymentId = id
    · subst heq
      obtain rfl : row = payment := by simpa [putPayment] using hmem
      have hnil : w.refundsOf paymentId = [] := by
        by_contra hrefunds
        have hsome := h.payments paymentId hrefunds
        rw [hfree] at hsome
        cases hsome
      change w.refundedAmount paymentId ≤ _
      rw [World.refundedAmount, hnil]
      exact hnonneg
    · exact h.bounded paymentId payment (by simpa [putPayment, heq] using hmem)
  · obtain ⟨old, hold⟩ := isSome_iff_exists.mp (h.payments paymentId hrefunds)
    obtain ⟨new, hnew, -⟩ :=
      hasStatus_putPayment row hfree (P := fun _ => True) ⟨old, hold, trivial⟩
    exact isSome_of_mem hnew

theorem settled_approveRefund (refundId : PyStr) (approvedBy : Option PyStr) (h : w.Settled) :
    (w.approveRefund refundId approvedBy).Settled := by
  refine ⟨fun paymentId payment hmem => ?_, fun paymentId hrefunds => ?_⟩
  · rw [refundedAmount_approveRefund]
    exact h.bounded paymentId payment hmem
  · refine h.payments paymentId fun hnil => hrefunds ?_
    rw [refundsOf_approveRefund, hnil, List.map_nil]

theorem settled_on (hvalid : deed.Valid w) (hfits : deed.Fits w) (h : w.Settled) :
    (deed.on w).Settled := by
  cases deed with
  | nothing => exact h
  | insert id row => exact settled_putPayment h hvalid.1 hvalid.2
  | update id change completions =>
    have hset : (w.setStatus id change).Settled := settled_setStatus h
    exact ⟨hset.bounded, hset.payments⟩
  | refund row status =>
    obtain ⟨⟨payment, hmem, -, hle⟩, -⟩ := hvalid
    have hadded := settled_addRefund h ⟨payment, hmem, hle⟩ hfits
    cases status with
    | none => exact hadded
    | some status => exact settled_setStatus hadded
  | approve refundId approvedBy => exact settled_approveRefund refundId approvedBy h

theorem not_refundsHold_on (hvalid : deed.Valid w) (hnot : ¬(deed.KeepsFinal w ∧ deed.Fits w)) :
    ¬w.RefundsHold (deed.on w) := by
  rintro ⟨hbounded, hfinal⟩
  refine hnot ⟨?_, ?_⟩
  · cases deed with
    | update id change completions =>
      intro hsucceeded hstatus
      refine hfinal id hstatus ?_
      change (w.setStatus id change).HasStatus id (· = .succeeded)
      rw [hasStatus_setStatus, if_pos rfl]
      exact ⟨hvalid.1, hsucceeded⟩
    | _ => trivial
  · cases deed with
    | refund row status =>
      intro _ payment hmem
      rw [← refundedAmount_addRefund]
      cases status with
      | none => exact hbounded row.paymentId payment hmem
      | some status =>
        refine (hbounded row.paymentId ((StatusUpdate.set status).apply payment) ?_).trans_eq
          (congrArg column (apply_amount _ _))
        refine mem_setStatus.mpr ?_
        rw [if_pos rfl]
        exact ⟨payment, hmem, rfl⟩
    | _ => trivial

end Keeps

/-! ### Two moments -/

def World.FinalStays (w w' : World) : Prop :=
  ∀ paymentId, w.HasStatus paymentId PaymentStatus.Final →
    w'.HasStatus paymentId PaymentStatus.Final

theorem refundsHold_of_finalStays {w w' : World} (h : w.FinalStays w') (hw : w'.Settled) :
    w.RefundsHold w' := by
  refine ⟨hw.bounded, fun paymentId hfinal => ?_⟩
  obtain ⟨row, hrow, hstatus⟩ := h paymentId hfinal
  rintro ⟨row', hrow', hsucceeded⟩
  obtain rfl : row = row' := some.inj (hrow.symm.trans hrow')
  rw [hsucceeded] at hstatus
  exact hstatus

theorem empty_settled : empty.Settled :=
  ⟨fun _ _ => nofun, fun _ h => absurd rfl h⟩

/-! ### Runs without failures -/

def Attempt.Calm (attempt : Attempt) : Prop := ∀ n, (attempt.fortunes n).link = .up

def World.Spent (w : World) : Prop :=
  ∀ paymentId, w.refundsOf paymentId ≠ [] → w.HasStatus paymentId PaymentStatus.Final

def Deed.Complete : Deed → Prop
  | refund _ status => status.isSome
  | _ => True

theorem toRefund_isSome {row : RefundRow} {q : ℚ} {d : Double} (hrow : row.amount = toDouble q)
    (hq : 0 ≤ q) (h : q ≤ shortest d.1) : row.toRefund.isSome := by
  obtain ⟨x, hx⟩ := exists_toDouble_of_le hq h (toDouble_shortest d)
  have hnonneg := float_nonneg hq (toDouble_eq_some.mp hx)
  simp [RefundRow.toRefund, readAmount, hrow, hx, shortest_nonneg hnonneg x.2]

theorem refundDeed_complete (service : PaymentService) {w : World} {fortunes : ℕ → Fortune}
    (hup : ∀ n, (fortunes n).link = .up) (request : CreateRefundRequest) :
    (service.refundDeed fortunes w request).Complete := by
  rw [refundDeed]
  split
  · trivial
  · next payment hfound =>
      obtain ⟨row, hrow, hread⟩ := found_row hfound
      obtain ⟨d, hd, hamount, -⟩ := toPayment_amount hread
      split
      · next hchecks =>
          obtain ⟨-, hle, hnonneg⟩ := hchecks
          split
          · trivial
          · next refundId _ =>
              have hread : (request.row payment refundId).toRefund.isSome :=
                toRefund_isSome rfl hnonneg (hle.trans_eq hamount)
              dsimp only
              split
              · rw [if_pos ⟨⟨hup _, hup _⟩, hread, by simp [hup]⟩]
                rfl
              · trivial
      · trivial

theorem deed_complete (service : PaymentService) (w : World) {attempt : Attempt}
    (hcalm : attempt.Calm) : (service.deed w attempt).Complete := by
  have hconfirm (paymentId : PyStr) (completions : Payment → List PaymentCompletedEvent) :
      (service.confirmDeed attempt.fortunes w paymentId completions).Complete := by
    rw [confirmDeed]
    split
    · trivial
    · split <;> trivial
  have hfail (paymentId failureReason : PyStr) (failureCode : Option PyStr) :
      (failDeed attempt.fortunes w paymentId failureReason failureCode).Complete := by
    rw [failDeed]
    split
    · trivial
    · split <;> trivial
  rw [deed]
  split
  · rw [createDeed]
    generalize attempt.fortunes (if service.stripe then 3 else 2) = fortune
    split
    · split
      · trivial
      · split <;> trivial
    · trivial
  · exact hconfirm _ _
  · exact hfail _ _ _
  · exact refundDeed_complete service hcalm _
  · rw [approveDeed]
    split <;> trivial
  · exact hconfirm _ _
  · exact hfail _ _ _
  · trivial

section Spent

variable {w w' : World}

theorem World.Same.spent (h : w.Same w') (hw : w.Spent) : w'.Spent := by
  intro paymentId hrefunds
  rw [h.refundsOf] at hrefunds
  exact h.hasStatus.mpr (hw paymentId hrefunds)

theorem spent_on {deed : Deed} (hvalid : deed.Valid w) (hkeeps : deed.KeepsFinal w)
    (hcomplete : deed.Complete) (h : w.Spent) : (deed.on w).Spent := by
  intro paymentId hrefunds
  by_cases hbefore : w.refundsOf paymentId = []
  · -- the refund is the first one of its payment
    cases deed with
    | refund row status =>
      obtain ⟨status, rfl⟩ := isSome_iff_exists.mp hcomplete
      obtain ⟨⟨payment, hpayment, -⟩, hfinal⟩ := hvalid
      have heq : row.paymentId = paymentId := by
        by_contra hne
        refine hrefunds ?_
        change (w.addRefund row).refundsOf paymentId = []
        rw [refundsOf_addRefund, hbefore, if_neg hne, List.append_nil]
      subst heq
      change ((w.addRefund row).setStatus row.paymentId (.set status)).HasStatus row.paymentId
        PaymentStatus.Final
      rw [hasStatus_setStatus, if_pos rfl]
      exact ⟨isSome_of_mem hpayment, hfinal status rfl⟩
    | approve refundId approvedBy =>
      refine absurd ?_ hrefunds
      rw [Deed.on, refundsOf_approveRefund, hbefore, List.map_nil]
    | _ => exact absurd hbefore hrefunds
  · exact final_on hvalid hkeeps (h paymentId hbefore)

theorem fits_of_spent {deed : Deed} (hvalid : deed.Valid w) (h : w.Spent) : deed.Fits w := by
  cases deed with
  | refund row status =>
    intro hrefunds
    obtain ⟨⟨payment, hpayment, hsucceeded, -⟩, -⟩ := hvalid
    obtain ⟨payment', hpayment', hfinal⟩ := h row.paymentId hrefunds
    obtain rfl : payment = payment' := some.inj (hpayment.symm.trans hpayment')
    rw [hsucceeded] at hfinal
    exact hfinal.elim
  | _ => trivial

end Spent

/-! ### Runs -/

theorem settled_step (service : PaymentService) {w : World} {attempt : Attempt} (hw : w.Settled)
    (hkeeps : KeepsRefunds service w attempt) :
    (service.step w attempt).Settled ∧ w.FinalStays (service.step w attempt) := by
  have hsame := step_same service w attempt
  have hvalid := deed_valid service w attempt
  refine ⟨hsame.settled (settled_on hvalid hkeeps.2 hw), fun paymentId hfinal => ?_⟩
  exact hsame.hasStatus.mpr (final_on hvalid hkeeps.1 hfinal)

theorem not_refundsHold_step (service : PaymentService) {w : World} {attempt : Attempt}
    (hnot : ¬KeepsRefunds service w attempt) : ¬w.RefundsHold (service.step w attempt) := by
  intro hholds
  have hsame := step_same service w attempt
  refine not_refundsHold_on (deed_valid service w attempt) hnot ⟨?_, fun paymentId hfinal => ?_⟩
  · exact hsame.refundsBounded.mp hholds.1
  · exact fun hstatus => hholds.2 paymentId hfinal (hsame.hasStatus.mpr hstatus)

theorem keepsRefunds_of_calm (service : PaymentService) {attempts : List Attempt}
    (hcalm : ∀ attempt ∈ attempts, attempt.Calm)
    (hkeeps : AllSteps service.step (KeepsFinal service) empty attempts) :
    AllSteps service.step (KeepsRefunds service) empty attempts := by
  refine (hkeeps.and_forall hcalm).imp (J := Spent) (fun _ h => absurd rfl h) ?_ ?_
  · intro w attempt hw h
    have hsame := step_same service w attempt
    exact hsame.spent
      (spent_on (deed_valid service w attempt) h.1 (deed_complete service w h.2) hw)
  · intro w attempt hw h
    exact ⟨h.1, fits_of_spent (deed_valid service w attempt) hw⟩

/-- **Refunds are bounded and final** in a run of requests, with any failures and any answers
of the processor, if and only if no confirmation of a final payment goes through and a refund
beside another one leaves room for it. Where no call fails, the first is enough. -/
theorem refundsBoundedAndFinal_iff (service : PaymentService) (attempts : List Attempt) :
    (Hereafter service.step World.RefundsHold World.empty attempts ↔
      AllSteps service.step (KeepsRefunds service) World.empty attempts) ∧
    ((∀ attempt ∈ attempts, attempt.Calm) →
      (Hereafter service.step World.RefundsHold World.empty attempts ↔
        AllSteps service.step (KeepsFinal service) World.empty attempts)) := by
  have hiff : Hereafter service.step RefundsHold empty attempts ↔
      AllSteps service.step (KeepsRefunds service) empty attempts :=
    hereafter_iff_allSteps empty_settled (T := FinalStays) (fun _ _ h => h)
      (fun h h' paymentId hfinal => h' paymentId (h paymentId hfinal)) refundsHold_of_finalStays
      (fun w attempt hw hkeeps => settled_step service hw hkeeps)
      fun w attempt _ hnot => not_refundsHold_step service hnot
  refine ⟨hiff, fun hcalm => hiff.trans ⟨fun h => ?_, keepsRefunds_of_calm service hcalm⟩⟩
  exact h.mono fun w attempt hkeeps => hkeeps.1

/-! ### A late webhook -/

def calmly (id : String) (request : Request) : Attempt :=
  ⟨request, fun _ => { processorId := id.toList }⟩

def refunded : List Attempt :=
  [calmly "pi" (.createPaymentIntent { amount := ⟨100, by norm_num⟩, userId := "u".toList }),
    calmly "" (.confirmPayment "pi".toList),
    calmly "r1" (.createRefund
      { paymentId := "pi".toList, reason := "r".toList, requestedBy := "u".toList })]

def refundedAgain : List Attempt :=
  [calmly "" (.stripeWebhook true (.paymentIntentSucceeded
      { id := "pi".toList, amount := 10000, currency := "usd".toList })),
    calmly "r2" (.createRefund
      { paymentId := "pi".toList, reason := "r".toList, requestedBy := "u".toList })]

/-- The refunded payment has succeeded again, and then twice its amount is refunded. -/
theorem not_refundsBoundedAndFinal_late :
    ¬Hereafter (PaymentService.step ⟨true, true⟩) World.RefundsHold World.empty
        (refunded ++ refundedAgain.take 1) ∧
      ¬Hereafter (PaymentService.step ⟨true, true⟩) World.RefundsHold World.empty
        (refunded ++ refundedAgain) := by
  constructor
  · intro h
    have hfinal : (exec (step ⟨true, true⟩) empty refunded).HasStatus
        "pi".toList PaymentStatus.Final := by
      decide +kernel
    refine (Hereafter.exec refunded _ h).2 _ hfinal ?_
    decide +kernel
  · intro h
    have hbounded := (Hereafter.exec refunded _ h).1 "pi".toList
    have hamount : ((exec (step ⟨true, true⟩) empty
        (refunded ++ refundedAgain)).payments "pi".toList).map (fun row => column row.amount) =
          some 100 := by
      decide +kernel
    have htwice : (exec (step ⟨true, true⟩) empty
        (refunded ++ refundedAgain)).refundedAmount "pi".toList = 200 := by
      decide +kernel
    obtain ⟨row, hrow, hcolumn⟩ := map_eq_some_iff.mp hamount
    have hle := hbounded row hrow
    rw [htwice, hcolumn] at hle
    exact absurd hle (by decide)

end IsaUser.Payments
