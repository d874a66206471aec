import IsaUser.Payment.Effects

/-!
# Completed Means Captured

Any number of `confirm_payment` and `pay_invoice` calls work on the store at the same time, with
a processor that may answer anything. A confirmation stores `SUCCEEDED` whatever the processor
has said, and an invoice is marked as paid as soon as a payment for it has been created.
-/

open IsaUser.Prog List Option

namespace IsaUser.Payments

open World Pool PaymentService

/-! ### The law -/

namespace World

variable (w : World)

def Reported (row : PaymentRow) : Prop := ∃ id ∈ given row.processorPaymentId, id ∈ w.reported
  deriving Decidable

def Covers (paymentId : PyStr) (row : InvoiceRow) : Prop :=
  ∃ payment ∈ w.payments paymentId,
    payment.status = .succeeded ∧ column row.amountDue ≤ column payment.amount

structure Captured : Prop where
  stored : ∀ paymentId, ∀ row ∈ w.payments paymentId, row.status = .succeeded → w.Reported row
  published : ∀ data ∈ w.completions, ∃ row ∈ w.payments data.paymentIntentId, w.Reported row
  invoices : ∀ invoiceId, ∀ row ∈ w.invoices invoiceId, row.status = .paid →
    ∃ paymentId ∈ row.paymentIntentId, w.Covers paymentId row

end World

/-! ### Concurrent calls -/

inductive CaptureRequest where
  | confirmPayment (paymentId : PyStr)
  | payInvoice (invoiceId : PyStr)
  deriving DecidableEq, Repr

def PaymentService.capture (service : PaymentService) : CaptureRequest → PaymentM Unit
  | .confirmPayment paymentId => (service.confirmPayment paymentId).void
  | .payInvoice invoiceId => (service.payInvoice invoiceId).void

abbrev Moment := World × Fortune

abbrev CapturePast := Past (PaymentApi.fallible CallError) Moment

abbrev CapturePool (ι : Type*) := Pool (PaymentApi.fallible CallError) PaymentError Unit ι Moment

def handleNext : Handler (PaymentApi.fallible CallError) Moment := fun c s =>
  let answer := handle s.2 c s.1
  (answer.1, answer.2, s.2)

def PaymentService.captures {ι : Type*} (service : PaymentService) (s : Moment)
    (requests : ι → CaptureRequest) : CapturePool ι :=
  start s fun i => service.capture (requests i)

def FortuneTurns (s s' : Moment) : Prop := s'.1 = s.1

def Call.marked : Moment × Call → Option (PyStr × PyStr)
  | (s, .updateInvoice invoiceId paymentIntentId) =>
    if s.2.link ≠ .down ∧ (s.1.invoices invoiceId).isSome then
      some (invoiceId, paymentIntentId)
    else none
  | _ => none

def OnePayer {ι : Type*} (past : ι → CapturePast) : Prop :=
  ∀ i, ∀ e ∈ past i, ∀ i', ∀ e' ∈ past i', ∀ invoiceId paymentIntentId paymentIntentId',
    Call.marked e = some (invoiceId, paymentIntentId) →
      Call.marked e' = some (invoiceId, paymentIntentId') → paymentIntentId = paymentIntentId'

/-! ### The condition -/

def Call.stored : Moment × Call → Option PyStr
  | (s, .insertPayment paymentId _) =>
    if s.2.link ≠ .down ∧ s.1.payments paymentId = none then some paymentId else none
  | _ => none

/-- A status is set to `SUCCEEDED` after the processor has reported the intent; and an invoice is
marked by a call that has stored the payment for it, after the payment has succeeded and while
the invoice has not been paid. -/
def InOrder (past : CapturePast) (s : Moment) : Call → Prop
  | .updatePayment paymentId _ =>
    s.2.link ≠ .down → ∀ row ∈ s.1.payments paymentId, s.1.Reported row
  | .updateInvoice invoiceId paymentIntentId =>
    s.2.link ≠ .down → ∀ row ∈ s.1.invoices invoiceId, row.status ≠ .paid ∧
      (∃ e ∈ past, Call.stored e = some paymentIntentId) ∧
      s.1.HasStatus paymentIntentId (· = .succeeded)
  | _ => True

instance (past : CapturePast) (s : Moment) : DecidablePred (InOrder past s)
  | .updatePayment paymentId _ =>
    inferInstanceAs (Decidable (_ → ∀ row ∈ s.1.payments paymentId, _))
  | .updateInvoice invoiceId _ =>
    inferInstanceAs (Decidable (_ → ∀ row ∈ s.1.invoices invoiceId, _ ∧ (∃ e ∈ past, _) ∧ _))
  | .getAccountProfile _ | .timestamp | .stripeCreate _ _ | .stripeConfirm _
  | .stripeRefund _ _ | .insertPayment _ _ | .selectPayment _ | .selectInvoice _
  | .insertRefund _ | .selectRefund _ | .updateRefund _ _ | .publish _ => .isTrue trivial

abbrev CaptureRun {ι : Type*} [DecidableEq ι] : CapturePool ι → CapturePool ι → Prop :=
  Reach handleNext FortuneTurns fun i past => InOrder (past i)

/-! ### Terms -/

/-- The payments of `w` are there at a later moment, with the same amounts and intents, and what
has succeeded still has. -/
structure World.Later (w w' : World) : Prop where
  payments : ∀ paymentId, ∀ row ∈ w.payments paymentId, ∃ row' ∈ w'.payments paymentId,
    row'.amount = row.amount ∧ row'.processorPaymentId = row.processorPaymentId ∧
      (row.status = .succeeded → row'.status = .succeeded)
  invoices : ∀ invoiceId, ∀ row ∈ w.invoices invoiceId, ∃ row' ∈ w'.invoices invoiceId,
    row'.amountDue = row.amountDue
  reported : w.reported ⊆ w'.reported

theorem World.Later.refl (w : World) : w.Later w :=
  ⟨fun _ row hrow => ⟨row, hrow, rfl, rfl, id⟩, fun _ row hrow => ⟨row, hrow, rfl⟩,
    Subset.refl _⟩

theorem World.Later.trans {w w' w'' : World} (h : w.Later w') (h' : w'.Later w'') :
    w.Later w'' := by
  refine ⟨fun paymentId row hrow => ?_, fun invoiceId row hrow => ?_,
    Subset.trans h.reported h'.reported⟩
  · obtain ⟨row', hrow', hamount, hintent, hstatus⟩ := h.payments paymentId row hrow
    obtain ⟨row'', hrow'', hamount', hintent', hstatus'⟩ := h'.payments paymentId row' hrow'
    exact ⟨row'', hrow'', hamount'.trans hamount, hintent'.trans hintent, hstatus' ∘ hstatus⟩
  · obtain ⟨row', hrow', hdue⟩ := h.invoices invoiceId row hrow
    obtain ⟨row'', hrow'', hdue'⟩ := h'.invoices invoiceId row' hrow'
    exact ⟨row'', hrow'', hdue'.trans hdue⟩

def captureTerms : Terms Moment where
  inv s := s.1.Captured
  rel s s' := s.1.Later s'.1
  rel_refl s := .refl s.1
  rel_trans h h' := h.trans h'

def Promises (past : CapturePast) (s : Moment) : Call → Prop
  | .insertPayment _ row => row.status = .pending
  | .updatePayment _ change => change = .set .succeeded
  | .updateInvoice invoiceId paymentIntentId =>
    (∃ e ∈ past, Call.stored e = some paymentIntentId) →
      ∀ payment ∈ s.1.payments paymentIntentId, ∀ row ∈ s.1.invoices invoiceId,
        column row.amountDue ≤ column payment.amount
  | .publish (.paymentCompleted data) => s.1.HasStatus data.paymentIntentId (· = .succeeded)
  | .insertRefund _ => False
  | .updateRefund _ _ => False
  | _ => True

/-! ### What a call keeps -/

section Keeps

variable {w : World}

theorem World.Later.reported_row {w' : World} (h : w.Later w') {row row' : PaymentRow}
    (hintent : row'.processorPaymentId = row.processorPaymentId) (hrow : w.Reported row) :
    w'.Reported row' := by
  obtain ⟨id, hid, hreported⟩ := hrow
  exact ⟨id, by rwa [hintent], h.reported hreported⟩

theorem World.Later.covers {w' : World} (h : w.Later w') {paymentId : PyStr}
    {row row' : InvoiceRow} (hdue : row'.amountDue = row.amountDue) (hrow : w.Covers paymentId row) :
    w'.Covers paymentId row' := by
  obtain ⟨payment, hpayment, hstatus, hle⟩ := hrow
  obtain ⟨payment', hpayment', hamount, -, hstatus'⟩ := h.payments paymentId payment hpayment
  exact ⟨payment', hpayment', hstatus' hstatus, by rwa [hdue, hamount]⟩

theorem World.Captured.later {w' : World} (hw : w.Captured) (h : w.Later w')
    (hstored : ∀ paymentId, ∀ row' ∈ w'.payments paymentId, row'.status = .succeeded →
      (∃ row ∈ w.payments paymentId, row.status = .succeeded ∧
        row'.processorPaymentId = row.processorPaymentId) ∨ w'.Reported row')
    (hpublished : ∀ data ∈ w'.completions, data ∈ w.completions ∨
      ∃ row ∈ w'.payments data.paymentIntentId, w'.Reported row)
    (hinvoices : ∀ invoiceId, ∀ row' ∈ w'.invoices invoiceId, row'.status = .paid →
      (∃ row ∈ w.invoices invoiceId, row.status = .paid ∧ row'.amountDue = row.amountDue ∧
        row'.paymentIntentId = row.paymentIntentId) ∨
      ∃ paymentId ∈ row'.paymentIntentId, w'.Covers paymentId row') : w'.Captured := by
  refine ⟨fun paymentId row' hrow' hstatus => ?_, fun data hdata => ?_,
    fun invoiceId row' hrow' hpaid => ?_⟩
  · rcases hstored paymentId row' hrow' hstatus with ⟨row, hrow, hsucceeded, hintent⟩ | hnew
    · exact h.reported_row hintent (hw.stored paymentId row hrow hsucceeded)
    · exact hnew
  · rcases hpublished data hdata with hold | hnew
    · obtain ⟨row, hrow, hreported⟩ := hw.published data hold
      obtain ⟨row', hrow', -, hintent, -⟩ := h.payments _ row hrow
      exact ⟨row', hrow', h.reported_row hintent hreported⟩
    · exact hnew
  · rcases hinvoices invoiceId row' hrow' hpaid with ⟨row, hrow, hpaid, hdue, hintent⟩ | hnew
    · obtain ⟨paymentId, hid, hcovers⟩ := hw.invoices invoiceId row hrow hpaid
      exact ⟨paymentId, by rwa [hintent], h.covers hdue hcovers⟩
    · exact hnew

theorem kept_putPayment {paymentId : PyStr} {row : PaymentRow} (hw : w.Captured)
    (hfree : w.payments paymentId = none) (hpending : row.status = .pending) :
    (w.putPayment paymentId row).Captured ∧ w.Later (w.putPayment paymentId row) := by
  have hlater : w.Later (w.putPayment paymentId row) := by
    refine ⟨fun id old hold => ⟨old, ?_, rfl, rfl, fun h => h⟩, fun _ row hrow => ⟨row, hrow, rfl⟩,
      Subset.refl _⟩
    have hne : id ≠ paymentId := by
      rintro rfl
      rw [hfree] at hold
      cases hold
    simpa [putPayment, hne] using hold
  refine ⟨hw.later hlater (fun id new hnew hstatus => ?_) (fun data hdata => .inl hdata)
    fun invoiceId row' hrow' hpaid => .inl ⟨row', hrow', hpaid, rfl, rfl⟩, hlater⟩
  by_cases heq : id = paymentId
  · subst heq
    obtain rfl : row = new := by simpa [putPayment] using hnew
    rw [hpending] at hstatus
    cases hstatus
  · exact .inl ⟨new, by simpa [putPayment, heq] using hnew, hstatus, rfl⟩

theorem kept_setStatus {paymentId : PyStr} (hw : w.Captured)
    (hreported : ∀ row ∈ w.payments paymentId, w.Reported row) :
    (w.setStatus paymentId (.set .succeeded)).Captured ∧
      w.Later (w.setStatus paymentId (.set .succeeded)) := by
  have hlater : w.Later (w.setStatus paymentId (.set .succeeded)) := by
    refine ⟨fun id row hrow => ?_, fun _ row hrow => ⟨row, hrow, rfl⟩, Subset.refl _⟩
    simp only [mem_setStatus]
    by_cases heq : id = paymentId
    · refine ⟨(StatusUpdate.set .succeeded).apply row, ?_, rfl, rfl, fun _ => rfl⟩
      rw [if_pos heq]
      exact ⟨row, heq ▸ hrow, rfl⟩
    · exact ⟨row, by rwa [if_neg heq], rfl, rfl, fun h => h⟩
  refine ⟨hw.later hlater (fun id new hnew hstatus => ?_) (fun data hdata => .inl hdata)
    fun invoiceId row' hrow' hpaid => .inl ⟨row', hrow', hpaid, rfl, rfl⟩, hlater⟩
  rw [mem_setStatus] at hnew
  split at hnew
  · obtain ⟨old, hold, rfl⟩ := hnew
    exact .inr (hlater.reported_row rfl (hreported old hold))
  · exact .inl ⟨new, hnew, hstatus, rfl⟩

theorem kept_markInvoice {invoiceId paymentIntentId : PyStr} (hw : w.Captured)
    (hcovers : ∀ row ∈ w.invoices invoiceId, w.Covers paymentIntentId row) :
    (w.markInvoice invoiceId paymentIntentId).Captured ∧
      w.Later (w.markInvoice invoiceId paymentIntentId) := by
  have hlater : w.Later (w.markInvoice invoiceId paymentIntentId) := by
    refine ⟨fun _ row hrow => ⟨row, hrow, rfl, rfl, fun h => h⟩, fun id row hrow => ?_,
      Subset.refl _⟩
    by_cases heq : id = invoiceId
    · subst heq
      refine ⟨{ row with status := .paid, paymentIntentId := some paymentIntentId }, ?_, rfl⟩
      rw [mem_def] at hrow ⊢
      simp only [markInvoice, Function.update_self, hrow, map_some]
    · exact ⟨row, by simpa [markInvoice, heq] using hrow, rfl⟩
  refine ⟨hw.later hlater (fun id row hrow hstatus => .inl ⟨row, hrow, hstatus, rfl⟩)
    (fun data hdata => .inl hdata) fun id row' hrow' hpaid => ?_, hlater⟩
  by_cases heq : id = invoiceId
  · subst heq
    simp only [markInvoice, Function.update_self, mem_def,
      map_eq_some_iff] at hrow'
    obtain ⟨row, hrow, rfl⟩ := hrow'
    exact .inr ⟨paymentIntentId, rfl, hlater.covers rfl (hcovers row hrow)⟩
  · exact .inl ⟨row', by simpa [markInvoice, heq] using hrow', hpaid, rfl, rfl⟩

theorem kept_publish {event : Event} (hw : w.Captured)
    (hevent : ∀ data, event = .paymentCompleted data →
      ∃ row ∈ w.payments data.paymentIntentId, w.Reported row) :
    (w.publish event).Captured ∧ w.Later (w.publish event) := by
  have hlater : w.Later (w.publish event) :=
    ⟨fun _ row hrow => ⟨row, hrow, rfl, rfl, fun h => h⟩, fun _ row hrow => ⟨row, hrow, rfl⟩,
      Subset.refl _⟩
  refine ⟨hw.later hlater (fun id row hrow hstatus => .inl ⟨row, hrow, hstatus, rfl⟩)
    (fun data hdata => ?_) fun id row hrow hpaid => .inl ⟨row, hrow, hpaid, rfl, rfl⟩, hlater⟩
  cases event with
  | paymentCompleted new =>
    rw [completions_publish, mem_append, mem_singleton] at hdata
    rcases hdata with hold | rfl
    · exact .inl hold
    · exact .inr (hevent data rfl)
  | _ => exact .inl (by simpa [World.completions, World.publish] using hdata)

theorem kept_confirmed (fortune : Fortune) (processorPaymentId : PyStr) (hw : w.Captured) :
    (w.confirmed fortune processorPaymentId).Captured ∧
      w.Later (w.confirmed fortune processorPaymentId) := by
  rw [confirmed]
  split
  · have hlater : w.Later { w with reported := w.reported ++ [processorPaymentId] } :=
      ⟨fun _ row hrow => ⟨row, hrow, rfl, rfl, fun h => h⟩, fun _ row hrow => ⟨row, hrow, rfl⟩,
        subset_append_left _ _⟩
    exact ⟨hw.later hlater (fun id row hrow hstatus => .inl ⟨row, hrow, hstatus, rfl⟩)
      (fun data hdata => .inl hdata)
      fun id row hrow hpaid => .inl ⟨row, hrow, hpaid, rfl, rfl⟩, hlater⟩
  · exact ⟨hw, .refl w⟩

theorem send_cases (fortune : Fortune) (c : Call) (w : World) :
    fortune.link = .down ∧ (w.send fortune c).2 = w ∨
      fortune.link ≠ .down ∧ (w.send fortune c).2 = (execute fortune c w).2 := by
  rw [send]
  cases fortune.link with
  | down => exact .inl ⟨rfl, rfl⟩
  | _ => exact .inr ⟨by simp, rfl⟩

theorem kept_handle {past : CapturePast} {s : Moment} {c : Call} (hs : captureTerms.inv s)
    (horder : InOrder past s c) (hpromise : Promises past s c) :
    captureTerms.inv (handleNext c s).2 ∧ captureTerms.rel s (handleNext c s).2 := by
  obtain ⟨w, fortune⟩ := s
  change (handle fortune c w).2.Captured ∧ w.Later (handle fortune c w).2
  have hsame : w.Captured ∧ w.Later w := ⟨hs, .refl w⟩
  cases c with
  | timestamp => exact hsame
  | stripeConfirm processorPaymentId => exact kept_confirmed fortune processorPaymentId hs
  | insertPayment paymentId row =>
    simp only [handle]
    rcases send_cases fortune (.insertPayment paymentId row) w with ⟨-, h⟩ | ⟨-, h⟩
    · rw [h]
      exact hsame
    · rw [h, execute]
      split
      · next hfree => exact kept_putPayment hs hfree hpromise
      · exact hsame
  | updatePayment paymentId change =>
    simp only [handle]
    rcases send_cases fortune (.updatePayment paymentId change) w with ⟨-, h⟩ | ⟨hlink, h⟩
    · rw [h]
      exact hsame
    · rw [h]
      obtain rfl : change = .set .succeeded := hpromise
      exact kept_setStatus hs (horder hlink)
  | updateInvoice invoiceId paymentIntentId =>
    simp only [handle]
    rcases send_cases fortune (.updateInvoice invoiceId paymentIntentId) w with ⟨-, h⟩ | ⟨hlink, h⟩
    · rw [h]
      exact hsame
    · rw [h]
      refine kept_markInvoice hs fun row hrow => ?_
      obtain ⟨-, hstored, payment, hpayment, hsucceeded⟩ := horder hlink row hrow
      exact ⟨payment, hpayment, hsucceeded, hpromise hstored payment hpayment row hrow⟩
  | publish event =>
    simp only [handle]
    rcases send_cases fortune (.publish event) w with ⟨-, h⟩ | ⟨-, h⟩
    · rw [h]
      exact hsame
    · rw [h]
      refine kept_publish hs fun data hdata => ?_
      subst hdata
      obtain ⟨row, hrow, hsucceeded⟩ := hpromise
      exact ⟨row, hrow, hs.stored _ row hrow hsucceeded⟩
  | insertRefund row => exact hpromise.elim
  | updateRefund refundId approvedBy => exact hpromise.elim
  | getAccountProfile _ | stripeCreate _ _ | stripeRefund _ _ | selectPayment _
  | selectInvoice _ | selectRefund _ =>
    simp only [handle]
    rcases send_cases fortune _ w with ⟨-, h⟩ | ⟨-, h⟩ <;> rw [h] <;> exact hsame

end Keeps

/-! ### Programs -/

def Call.Quiet : Call → Prop
  | insertPayment _ _ => False
  | updatePayment _ _ => False
  | updateInvoice _ _ => False
  | insertRefund _ => False
  | updateRefund _ _ => False
  | publish (.paymentCompleted _) => False
  | _ => True

theorem World.HasStatus.later {w w' : World} {paymentId : PyStr} (h : w.Later w')
    (hw : w.HasStatus paymentId (· = .succeeded)) : w'.HasStatus paymentId (· = .succeeded) := by
  obtain ⟨row, hrow, hsucceeded⟩ := hw
  obtain ⟨row', hrow', -, -, hstatus⟩ := h.payments paymentId row hrow
  exact ⟨row', hrow', hstatus hsucceeded⟩

section Programs

variable {α β : Type} {past : CapturePast} {s : Moment} {Q : Except PaymentError α → Prop}
  {invoiceId : PyStr} {paymentId : PyStr} {amount : ℚ}

/-- A program keeps its promises, and ends as `R` says. -/
abbrev CaptureSound (R : Except PaymentError α → CapturePast → Moment → Prop) (p : PaymentM α) :
    CapturePast → Moment → Prop :=
  p.Sound captureTerms handleNext InOrder Promises R

theorem quiet_promises {c : Call} (hc : c.Quiet) (past : CapturePast) (s : Moment) :
    Promises past s c ∧ InOrder past s c ∧ Call.stored (s, c) = none := by
  cases c with
  | publish event => cases event <;> first | exact hc.elim | exact ⟨trivial, trivial, rfl⟩
  | _ => first | exact hc.elim | exact ⟨trivial, trivial, rfl⟩

theorem quiet_sound {p : PaymentM α} {K : CapturePast → Moment → Prop} (hp : p.Obeys Call.Quiet Q)
    (hK : K past s) (hrel : ∀ {past s s'}, K past s → s.1.Later s'.1 → K past s')
    (hcall : ∀ {past s c}, K past s → Call.stored (s, c) = none → K ((s, c) :: past) s) :
    CaptureSound (fun r past s => Q r ∧ K past s) p past s := by
  induction p generalizing past s with
  | ret a => exact fun s' hs _ => ⟨hp, hrel hK hs⟩
  | raise e => exact fun s' hs _ => ⟨hp, hrel hK hs⟩
  | call c k ih =>
    intro s' hs hi
    obtain ⟨hpromise, horder, hstored⟩ := quiet_promises hp.1 past s'
    refine ⟨hpromise, fun _ => ih _ (hp.2 _) ?_⟩
    exact hrel (hcall (hrel hK hs) hstored) (kept_handle hi horder hpromise).2

theorem ask_sound {c : Call} {R : Except PaymentError c.Reply → CapturePast → Moment → Prop}
    (h : ∀ s', s.1.Later s'.1 → captureTerms.inv s' → Promises past s' c ∧
      (InOrder past s' c → ∀ s'', (handleNext c s').2.1.Later s''.1 →
        R ((handleNext c s').1.mapError .call) ((s', c) :: past) s'')) :
    CaptureSound R (ask c) past s := by
  refine sound_query fun s' hs hi => ?_
  obtain ⟨hpromise, hR⟩ := h s' hs hi
  exact ⟨hpromise, fun horder s'' hs' _ => hR horder s'' hs'⟩

/-- What is caught reads as `None`. -/
theorem orNone_sound {p : PaymentM (Option α)}
    {R : Except PaymentError (Option α) → CapturePast → Moment → Prop}
    (h : CaptureSound (fun r past s => R (.ok (r.toOption.bind id)) past s) p past s) :
    CaptureSound R (orNone p) past s := by
  induction p generalizing past s with
  | ret a => exact h
  | raise e => exact h
  | call c k ih =>
    intro s' hs hi
    obtain ⟨hpromise, hk⟩ := h s' hs hi
    exact ⟨hpromise, fun horder => ih _ (hk horder)⟩

theorem ask_obeys {c : Call} (hc : c.Quiet) : (ask c).Obeys Call.Quiet fun _ => True :=
  obeys_query (I := PaymentApi) hc fun _ => trivial

/-- `get_payment` finds the payment that it looks for. -/
theorem getPayment_obeys (paymentId : PyStr) :
    (getPayment paymentId).Obeys Call.Quiet fun r =>
      ∀ payment, r = .ok (some payment) → payment.paymentId = paymentId := by
  let read : PaymentM (Option Payment) := do
    let row ← ask (.selectPayment paymentId)
    converted (row.map (PaymentRow.toPayment paymentId))
  have hread : read.Obeys Call.Quiet fun r =>
      ∀ payment, r = .ok (some payment) → payment.paymentId = paymentId := by
    refine (ask_obeys (c := .selectPayment paymentId) trivial).bind (fun row _ => ?_)
      fun _ _ payment h => by cases h
    cases row with
    | none => exact fun payment h => by cases h
    | some row =>
      rw [map_some]
      cases hread : row.toPayment paymentId with
      | none => exact fun payment h => by cases h
      | some payment =>
        intro payment' heq
        obtain rfl := some.inj (Except.ok.inj heq)
        rw [PaymentRow.toPayment, map_eq_some_iff] at hread
        obtain ⟨amount, -, rfl⟩ := hread
        rfl
  exact hread.tryCatch (fun _ h => h) fun _ _ payment h => by cases h

theorem quietly_obeys {c : Call} (hc : c.Quiet) :
    (quietly (ask c)).Obeys Call.Quiet fun _ => True :=
  ((ask_obeys hc).bind (fun _ _ => trivial) fun _ _ => trivial : (ask c).void.Obeys Call.Quiet
    fun _ => True).tryCatch (fun _ _ => trivial) fun _ _ => trivial

theorem confirmIntent_obeys (service : PaymentService) (payment : Payment) :
    (service.confirmIntent payment).Obeys Call.Quiet fun _ => True := by
  rw [confirmIntent]
  cases service.withProcessor payment with
  | none => trivial
  | some processorPaymentId => exact quietly_obeys trivial

/-- The promises of `update_payment_status`, and what its answer says. -/
theorem updatePaymentStatus_sound (paymentId : PyStr) :
    CaptureSound (fun r _ s => ∀ payment, r = .ok (some payment) →
        payment.paymentId = paymentId ∧ s.1.HasStatus paymentId (· = .succeeded))
      (updatePaymentStatus paymentId (.set .succeeded)) past s := by
  refine orNone_sound (Sound.bind (Q := fun r _ s => r = .ok true →
    s.1.HasStatus paymentId (· = .succeeded)) (ask_sound fun s' _ _ => ⟨rfl, fun _ s'' hs'' => ?_⟩)
    (fun updated past s hupdated => ?_) fun _ _ _ _ payment h => by cases h)
  · intro hok
    refine HasStatus.later hs'' ?_
    obtain ⟨w, fortune⟩ := s'
    simp only [handleNext, handle, send] at hok ⊢
    cases hlink : fortune.link with
    | up =>
      rw [hlink] at hok
      have hsome : (w.payments paymentId).isSome = true := Except.ok.inj hok
      exact hasStatus_setStatus.mpr (by rw [if_pos rfl]; exact ⟨hsome, rfl⟩)
    | down => rw [hlink] at hok; cases hok
    | lost => rw [hlink] at hok; cases hok
  · cases updated with
    | false => exact fun _ _ _ payment h => by cases h
    | true =>
      refine (quiet_sound (getPayment_obeys paymentId) (hupdated rfl)
        (fun hs h => HasStatus.later h hs) fun hs _ => hs).mono ?_
      rintro r past s ⟨hid, hstatus⟩ payment h
      cases r with
      | error e => cases h
      | ok found =>
        obtain rfl : found = some payment := Except.ok.inj h
        exact ⟨hid payment rfl, hstatus⟩

theorem publish_obeys (service : PaymentService) {event : Event}
    (hevent : (Call.publish event).Quiet) :
    (service.publish event).Obeys Call.Quiet fun _ => True := by
  rw [PaymentService.publish]
  split
  · exact quietly_obeys hevent
  · trivial

/-- `confirm_payment` publishes what it has stored. -/
theorem confirmPayment_sound (service : PaymentService) (paymentId : PyStr) :
    CaptureSound (fun _ _ _ => True) (service.confirmPayment paymentId) past s := by
  have htrue {α : Type} {p : PaymentM α} {Q} {past s} (hp : p.Obeys Call.Quiet Q) :
      CaptureSound (fun r _ _ => Q r) p past s :=
    (quiet_sound (K := fun _ _ => True) hp trivial (fun _ _ => trivial)
      fun _ _ => trivial).mono fun _ _ _ h => h.1
  refine (htrue (getPayment_obeys paymentId)).bind (fun found past s _ => ?_)
    fun _ _ _ _ => trivial
  cases found with
  | none => exact fun _ _ _ => trivial
  | some payment =>
    refine (htrue (confirmIntent_obeys service payment)).bind (fun _ past s _ => ?_)
      fun _ _ _ _ => trivial
    refine (updatePaymentStatus_sound paymentId).bind (fun updated past s hupdated => ?_)
      fun _ _ _ _ => trivial
    cases updated with
    | none => exact fun _ _ _ => trivial
    | some payment =>
      obtain ⟨hid, hsucceeded⟩ := hupdated payment rfl
      refine Sound.bind (Q := fun _ _ _ => True) ?_ (fun _ _ _ _ _ _ _ => trivial)
        fun _ _ _ _ => trivial
      simp only [PaymentService.publish]
      split
      · refine Sound.tryCatch (Q := fun _ _ _ => True) (sound_void ?_)
          (fun _ _ _ _ => trivial) fun _ _ _ _ _ _ _ => trivial
        refine ask_sound fun s' hs' _ => ⟨?_, fun _ _ _ => trivial⟩
        change s'.1.HasStatus payment.paymentId (· = .succeeded)
        rw [hid]
        exact HasStatus.later hs' hsucceeded
      · exact fun _ _ _ => trivial

/-! ### Invoices -/

def Due (invoiceId : PyStr) (amount : ℚ) (w : World) : Prop :=
  ∃ row ∈ w.invoices invoiceId, ∃ d : Double, row.amountDue = some d ∧ amount = shortest d.1

theorem Due.later {w w' : World} (hw : Due invoiceId amount w) (h : w.Later w') :
    Due invoiceId amount w' := by
  obtain ⟨row, hrow, d, hd, hamount⟩ := hw
  obtain ⟨row', hrow', hdue⟩ := h.invoices invoiceId row hrow
  exact ⟨row', hrow', d, hdue.trans hd, hamount⟩

def Unstored (past : CapturePast) : Prop := ∀ e ∈ past, Call.stored e = none

theorem Unstored.cons {e : Moment × Call} (hpast : Unstored past) (he : Call.stored e = none) :
    Unstored (e :: past) :=
  forall_mem_cons.mpr ⟨he, hpast⟩

def Bought (paymentId : PyStr) (amount : Option Double) (past : CapturePast) (w : World) : Prop :=
  (∃ e ∈ past, Call.stored e = some paymentId) →
    ∃ payment ∈ w.payments paymentId, payment.amount = amount

theorem Bought.later {amount : Option Double} {w w' : World} (hw : Bought paymentId amount past w)
    (h : w.Later w') : Bought paymentId amount past w' := by
  intro hstored
  obtain ⟨payment, hpayment, hamount⟩ := hw hstored
  obtain ⟨payment', hpayment', heq, -, -⟩ := h.payments paymentId payment hpayment
  exact ⟨payment', hpayment', heq.trans hamount⟩

theorem Bought.cons {amount : Option Double} {w : World} {e : Moment × Call}
    (hw : Bought paymentId amount past w) (he : Call.stored e = none) :
    Bought paymentId amount (e :: past) w := by
  rintro ⟨e', he', hstored⟩
  rcases mem_cons.mp he' with rfl | he'
  · rw [he] at hstored
    cases hstored
  · exact hw ⟨e', he', hstored⟩

theorem toInvoice_amountDue {row : InvoiceRow} {invoice : Invoice}
    (h : row.toInvoice invoiceId = some invoice) :
    ∃ d : Double, row.amountDue = some d ∧ (invoice.amountDue : ℚ) = shortest d.1 := by
  simp only [InvoiceRow.toInvoice, bind_eq_bind, bind_eq_some_iff] at h
  obtain ⟨total, -, paid, -, due, hdue, heq⟩ := h
  obtain rfl := some.inj heq
  rw [readAmount, bind_eq_some_iff] at hdue
  obtain ⟨d, hd, hdue⟩ := hdue
  split at hdue
  · obtain rfl := some.inj hdue
    exact ⟨d, hd, rfl⟩
  · cases hdue

theorem getInvoice_sound (invoiceId : PyStr) (hpast : Unstored past) :
    CaptureSound (fun r past s => ∀ invoice, r = .ok (some invoice) →
      Unstored past ∧ Due invoiceId invoice.amountDue s.1) (getInvoice invoiceId) past s := by
  refine orNone_sound (Sound.bind (Q := fun r past s => Unstored past ∧
    ∀ row, r = .ok (some row) → ∃ row' ∈ s.1.invoices invoiceId, row'.amountDue = row.amountDue)
    (ask_sound fun s' _ _ => ⟨trivial, fun _ s'' hs'' => ⟨hpast.cons rfl, fun row hrow => ?_⟩⟩)
    (fun found past s hfound => ?_) fun _ _ _ _ _ h => by cases h)
  · obtain ⟨w, fortune⟩ := s'
    refine hs''.invoices invoiceId row ?_
    simp only [handleNext, handle, send] at hrow ⊢
    cases hlink : fortune.link with
    | up => rw [hlink] at hrow; exact Except.ok.inj hrow
    | down => rw [hlink] at hrow; cases hrow
    | lost => rw [hlink] at hrow; cases hrow
  · obtain ⟨hpast, hrow⟩ := hfound
    cases found with
    | none => exact fun _ _ _ _ h => by cases h
    | some row =>
      obtain ⟨row', hrow', hdue⟩ := hrow row rfl
      rw [map_some]
      cases hread : row.toInvoice invoiceId with
      | none => exact fun _ _ _ _ h => by cases h
      | some invoice =>
        intro s' hs' _ invoice' heq
        obtain rfl : invoice = invoice' := some.inj (Except.ok.inj heq)
        obtain ⟨d, hd, hamount⟩ := toInvoice_amountDue hread
        exact ⟨hpast, Due.later ⟨row', hrow', d, hdue.trans hd, hamount⟩ hs'⟩

theorem getInvoice_obeys (invoiceId : PyStr) :
    (getInvoice invoiceId).Obeys Call.Quiet fun _ => True := by
  refine Obeys.tryCatch (Q := fun _ => True)
    ((ask_obeys (c := .selectInvoice invoiceId) trivial).bind (fun row _ => ?_) fun _ _ => trivial)
    (fun _ _ => trivial) fun _ _ => trivial
  rcases Option.map (InvoiceRow.toInvoice invoiceId) row with _ | _ | invoice <;> trivial

theorem createPayment_sound (row : PaymentRow) (hpending : row.status = .pending)
    (hpast : Unstored past) (hdue : Due invoiceId amount s.1) :
    CaptureSound (fun _ past s => Due invoiceId amount s.1 ∧ Bought paymentId row.amount past s.1)
      (createPayment paymentId row) past s := by
  refine orNone_sound (Sound.bind (Q := fun _ past s => Due invoiceId amount s.1 ∧
    Bought paymentId row.amount past s.1)
    (ask_sound fun s' hs' hinv => ⟨hpending, fun horder s'' hs'' => ?_⟩)
    (fun _ past s hbought => ?_) fun _ _ _ h => h)
  · have hlater := (kept_handle hinv horder hpending).2.trans hs''
    refine ⟨(hdue.later hs').later hlater, fun hstored => ?_⟩
    obtain ⟨w, fortune⟩ := s'
    obtain ⟨e, he, hstored⟩ := hstored
    rcases mem_cons.mp he with rfl | he
    · simp only [Call.stored] at hstored
      split at hstored
      · next hput =>
          obtain ⟨new, hnew, hamount, -, -⟩ := hs''.payments paymentId row (by
            obtain ⟨hlink, hfree⟩ := hput
            simp only [handleNext, handle]
            rcases send_cases fortune (.insertPayment paymentId row) w with ⟨hdown, -⟩ | ⟨-, h⟩
            · exact absurd hdown hlink
            · rw [h, execute, if_pos hfree]
              simp [putPayment])
          exact ⟨new, hnew, hamount⟩
      · cases hstored
    · rw [hpast e he] at hstored
      cases hstored
  · exact (quiet_sound (K := fun past s => Due invoiceId amount s.1 ∧
      Bought paymentId row.amount past s.1) (getPayment_obeys paymentId) hbought
      (fun h hs => ⟨h.1.later hs, h.2.later hs⟩) fun h he => ⟨h.1, h.2.cons he⟩).mono
      fun _ _ _ h => h.2

theorem validateUser_obeys (userId : PyStr) :
    (validateUser userId).Obeys Call.Quiet fun _ => True := by
  refine Obeys.bind (Q := fun _ => True)
    ((ask_obeys (c := .getAccountProfile userId) trivial).tryCatch (fun _ _ => trivial)
      fun _ _ => trivial) (fun profile _ => ?_) fun _ _ => trivial
  cases profile <;> trivial

theorem newIntentId_obeys (service : PaymentService) (request : CreatePaymentIntentRequest) :
    (service.newIntentId request).Obeys Call.Quiet fun _ => True := by
  refine (ask_obeys (c := .timestamp) trivial).bind (fun timestamp _ => ?_) fun _ _ => trivial
  cases service.stripe with
  | true =>
    exact (ask_obeys (c := .stripeCreate _ _) trivial).tryCatch (fun _ _ => trivial)
      fun _ _ => trivial
  | false => trivial

theorem createPaymentIntent_sound (service : PaymentService) (request : CreatePaymentIntentRequest)
    (hpast : Unstored past) (hdue : Due invoiceId amount s.1) :
    CaptureSound (fun r past s => ∀ intent, r = .ok intent → Due invoiceId amount s.1 ∧
        Bought intent.paymentIntentId (toDouble request.amount) past s.1)
      (service.createPaymentIntent request) past s := by
  have hquiet {α : Type} {p : PaymentM α} {Q} {past s} (hp : p.Obeys Call.Quiet Q)
      (hpast : Unstored past) (hdue : Due invoiceId amount s.1) :
      CaptureSound (fun _ past s => Unstored past ∧ Due invoiceId amount s.1) p past s :=
    (quiet_sound (K := fun past s => Unstored past ∧ Due invoiceId amount s.1) hp ⟨hpast, hdue⟩
      (fun h hs => ⟨h.1, h.2.later hs⟩) fun h he => ⟨h.1.cons he, h.2⟩).mono fun _ _ _ h => h.2
  refine (hquiet (validateUser_obeys request.userId) hpast hdue).bind
    (fun _ past s ⟨hpast, hdue⟩ => ?_) fun _ _ _ _ _ h => by cases h
  refine (hquiet (newIntentId_obeys service request) hpast hdue).bind
    (fun paymentIntentId past s ⟨hpast, hdue⟩ => ?_) fun _ _ _ _ _ h => by cases h
  refine (createPayment_sound (request.row paymentIntentId) rfl hpast hdue).bind
    (fun _ past s hbought => ?_) fun _ _ _ _ _ h => by cases h
  refine (quiet_sound (K := fun past s => Due invoiceId amount s.1 ∧
    Bought paymentIntentId (toDouble request.amount) past s.1)
      (publish_obeys service (by exact trivial))
    hbought (fun h hs => ⟨h.1.later hs, h.2.later hs⟩) fun h he => ⟨h.1, h.2.cons he⟩).bind
    (fun _ past s hbought s' hs' _ intent heq => ?_) fun _ _ _ _ _ h => by cases h
  obtain rfl := Except.ok.inj heq
  exact ⟨hbought.2.1.later hs', hbought.2.2.later hs'⟩

/-- `pay_invoice` marks an invoice with a payment over what is due. -/
theorem payInvoice_sound (service : PaymentService) (invoiceId : PyStr) (hpast : Unstored past) :
    CaptureSound (fun _ _ _ => True) (service.payInvoice invoiceId) past s := by
  refine (getInvoice_sound invoiceId hpast).bind (fun found past s hfound => ?_)
    fun _ _ _ _ => trivial
  cases found with
  | none => exact fun _ _ _ => trivial
  | some invoice =>
    obtain ⟨hpast, hdue⟩ := hfound invoice rfl
    refine sound_require_bind (fun _ => ?_) fun _ _ _ _ => trivial
    refine (createPaymentIntent_sound service _ hpast hdue).bind (fun intent past s hintent => ?_)
      fun _ _ _ _ => trivial
    obtain ⟨hdue, hbought⟩ := hintent intent rfl
    refine orNone_sound (Sound.bind (Q := fun _ _ _ => True)
      (ask_sound fun s' hs' _ => ⟨fun hstored payment hpayment row hrow => ?_,
        fun _ _ _ => trivial⟩) (fun updated past s _ => ?_) fun _ _ _ _ => trivial)
    · obtain ⟨row', hrow', d, hd, hamount⟩ := hdue.later hs'
      obtain ⟨payment', hpayment', hbuys⟩ := hbought.later hs' hstored
      obtain rfl : row' = row := some.inj (hrow'.symm.trans hrow)
      obtain rfl : payment' = payment := some.inj (hpayment'.symm.trans hpayment)
      rw [hd, hbuys, hamount, toDouble_shortest]
    · cases updated with
      | false => exact fun _ _ _ => trivial
      | true =>
        exact (quiet_sound (K := fun _ _ => True) (getInvoice_obeys invoiceId) trivial
          (fun _ _ => trivial) fun _ _ => trivial).mono fun _ _ _ _ => trivial

end Programs

/-! ### Payers -/

def World.PaidBy (w : World) (invoiceId paymentIntentId : PyStr) : Prop :=
  ∃ row ∈ w.invoices invoiceId,
    row.status = .paid ∧ row.paymentIntentId = some paymentIntentId

theorem invoices_cases (fortune : Fortune) (c : Call) (w : World) (invoiceId : PyStr) :
    (handle fortune c w).2.invoices invoiceId = w.invoices invoiceId ∨
      ∃ paymentIntentId, c = .updateInvoice invoiceId paymentIntentId ∧ fortune.link ≠ .down ∧
        (handle fortune c w).2 = w.markInvoice invoiceId paymentIntentId := by
  cases c with
  | updateInvoice id paymentIntentId =>
    simp only [handle]
    rcases send_cases fortune (.updateInvoice id paymentIntentId) w with ⟨-, h⟩ | ⟨hlink, h⟩
    · exact .inl (by rw [h])
    · by_cases heq : invoiceId = id
      · subst heq
        exact .inr ⟨paymentIntentId, rfl, hlink, h⟩
      · rw [h, execute]
        simp [markInvoice, heq]
  | timestamp => exact .inl rfl
  | stripeConfirm id =>
    left
    change (w.confirmed fortune id).invoices invoiceId = _
    rw [confirmed]
    split <;> rfl
  | insertPayment id row =>
    left
    simp only [handle]
    rcases send_cases fortune (.insertPayment id row) w with ⟨-, h⟩ | ⟨-, h⟩
    · rw [h]
    · rw [h, execute]
      split <;> rfl
  | insertRefund row =>
    left
    simp only [handle]
    rcases send_cases fortune (.insertRefund row) w with ⟨-, h⟩ | ⟨-, h⟩
    · rw [h]
    · rw [h, execute]
      split <;> rfl
  | _ =>
    left
    simp only [handle]
    rcases send_cases fortune _ w with ⟨-, h⟩ | ⟨-, h⟩
    · rw [h]
    · rw [h]
      rfl

theorem World.PaidBy.stays {past : CapturePast} {s : Moment} {c : Call}
    {invoiceId paymentIntentId : PyStr} (horder : InOrder past s c)
    (hpaid : s.1.PaidBy invoiceId paymentIntentId) :
    (handleNext c s).2.1.PaidBy invoiceId paymentIntentId := by
  obtain ⟨w, fortune⟩ := s
  obtain ⟨row, hrow, hstatus, hpayer⟩ := hpaid
  rcases invoices_cases fortune c w invoiceId with h | ⟨other, rfl, hlink, -⟩
  · exact ⟨row, h.symm ▸ hrow, hstatus, hpayer⟩
  · exact absurd hstatus (horder hlink row hrow).1

theorem paidBy_of_marked {s : Moment} {c : Call} {invoiceId paymentIntentId : PyStr}
    (h : Call.marked (s, c) = some (invoiceId, paymentIntentId)) :
    (handleNext c s).2.1.PaidBy invoiceId paymentIntentId := by
  obtain ⟨w, fortune⟩ := s
  cases c with
  | updateInvoice id intent =>
    simp only [Call.marked, ite_none_right_eq_some, some.injEq,
      Prod.mk.injEq] at h
    obtain ⟨⟨hlink, hsome⟩, rfl, rfl⟩ := h
    obtain ⟨row, hrow⟩ := isSome_iff_exists.mp hsome
    rcases send_cases fortune (.updateInvoice id intent) w with ⟨hdown, -⟩ | ⟨-, heffect⟩
    · exact absurd hdown hlink
    · change (w.send fortune (.updateInvoice id intent)).2.PaidBy id intent
      rw [heffect, execute]
      exact ⟨_, by simp [markInvoice, hrow]; rfl, rfl, rfl⟩
  | _ => cases h

/-! ### The result -/

section Run

variable {ι : Type*}

theorem captures_sound (service : PaymentService) {s : Moment} (hs : s.1.Captured)
    (requests : ι → CaptureRequest) :
    AllSound captureTerms handleNext (fun _ => InOrder) (fun _ => Promises)
      (fun _ _ _ _ => True) (service.captures s requests) := by
  refine ⟨hs, fun i => ?_⟩
  change (service.capture (requests i)).Sound _ _ _ _ _ [] s
  cases requests i with
  | confirmPayment paymentId => exact sound_void (confirmPayment_sound service paymentId)
  | payInvoice invoiceId =>
    exact sound_void (payInvoice_sound service invoiceId (forall_mem_nil _))

variable [DecidableEq ι]

/-- **What is completed has been captured** in every run whose calls are made in order, and no
invoice has two payers. -/
theorem captured_of_reported (eventBus : Bool) {s : Moment} (hs : s.1.Captured)
    (requests : ι → CaptureRequest) {pool : CapturePool ι}
    (hpool : CaptureRun (PaymentService.captures ⟨true, eventBus⟩ s requests) pool) :
    pool.state.1.Captured ∧ OnePayer pool.past := by
  have hsound := captures_sound ⟨true, eventBus⟩ hs requests
  have hlocal (i : ι) (past : ι → CapturePast) (s : Moment) (c : Call)
      (h : InOrder (past i) s c) : InOrder (past i) s c := h
  have hkeeps (_ : ι) (past : CapturePast) (s : Moment) (c : Call) (hi : captureTerms.inv s)
      (horder : InOrder past s c) (hpromise : Promises past s c) := kept_handle hi horder hpromise
  have henv (s s' : Moment) (hi : captureTerms.inv s) (h : FortuneTurns s s') :
      captureTerms.inv s' ∧ captureTerms.rel s s' := by
    change s'.1.Captured ∧ s.1.Later s'.1
    rw [show s'.1 = s.1 from h]
    exact ⟨hi, .refl _⟩
  have hpayers := hpool.invariant hsound hlocal hkeeps henv
    (fun s past => ∀ i, ∀ e ∈ past i, ∀ invoiceId paymentIntentId,
      Call.marked e = some (invoiceId, paymentIntentId) → s.1.PaidBy invoiceId paymentIntentId)
    (fun i => forall_mem_nil _)
    (fun s s' past h hJ => by rwa [show s'.1 = s.1 from h])
    fun i past s c _ horder _ hJ j e he invoiceId paymentIntentId hmarked => ?_
  · refine ⟨(hpool.sound hsound hlocal hkeeps henv).1, ?_⟩
    intro i e he j e' he' invoiceId paymentIntentId paymentIntentId' hmarked hmarked'
    obtain ⟨row, hrow, -, hpayer⟩ := hpayers i e he _ _ hmarked
    obtain ⟨row', hrow', -, hpayer'⟩ := hpayers j e' he' _ _ hmarked'
    obtain rfl := some.inj (hrow.symm.trans hrow')
    exact some.inj (hpayer.symm.trans hpayer')
  · rcases eq_or_ne j i with rfl | hne
    · rw [Function.update_self] at he
      rcases mem_cons.mp he with rfl | he
      · exact paidBy_of_marked hmarked
      · exact PaidBy.stays horder (hJ j e he _ _ hmarked)
    · rw [Function.update_of_ne hne] at he
      exact PaidBy.stays horder (hJ j e he _ _ hmarked)

end Run

/-! ### Some runs -/

def invoiced : World :=
  { empty with invoices := Function.update empty.invoices "in".toList (some
      { invoiceNumber := "INV".toList, userId := "u".toList, amountTotal := toDouble 1
        amountPaid := toDouble 0, amountDue := toDouble 1 }) }

theorem invoiced_captured : invoiced.Captured := by
  refine ⟨fun _ _ hrow => absurd hrow (not_mem_none _), forall_mem_nil _,
    fun invoiceId row hrow hpaid => ?_⟩
  by_cases heq : invoiceId = "in".toList
  · subst heq
    have hstatus : (invoiced.invoices "in".toList).map InvoiceRow.status = some .open := rfl
    rw [hrow, map_some, hpaid] at hstatus
    cases hstatus
  · have hnone : invoiced.invoices invoiceId = none := Function.update_of_ne heq _ _
    exact absurd (hnone.symm.trans hrow) (some_ne_none row).symm

def payAndConfirm : Fin 2 → CaptureRequest
  | 0 => .payInvoice "in".toList
  | 1 => .confirmPayment "pi".toList

def payAndConfirmFrom (intentStatus : String) : CapturePool (Fin 2) :=
  captures ⟨true, true⟩
    (invoiced, { processorId := "pi".toList, intentStatus := intentStatus.toList }) payAndConfirm

def confirmedFirst : List (Fin 2) := List.replicate 7 0 ++ List.replicate 5 1 ++ List.replicate 2 0

theorem captured_confirmedFirst :
    ((payAndConfirmFrom "succeeded").schedule handleNext confirmedFirst).state.1.Captured ∧
      OnePayer ((payAndConfirmFrom "succeeded").schedule handleNext confirmedFirst).past :=
  captured_of_reported true invoiced_captured payAndConfirm
    (Reach.schedule .start (by decide +kernel))

def payTwice : Fin 2 → CaptureRequest := fun _ => .payInvoice "in".toList

def bothBought : CapturePool (Fin 2) :=
  let first := (captures ⟨true, true⟩
    (invoiced, { processorId := "pi1".toList }) payTwice).schedule handleNext
      (List.replicate 7 0 ++ List.replicate 3 1)
  { first with state := (first.state.1, { processorId := "pi2".toList }) }

def bothMarked : CapturePool (Fin 2) :=
  bothBought.schedule handleNext (List.replicate 5 1 ++ List.replicate 1 0)

/-- The processor asks for a further action, and the payment is stored as succeeded; and an invoice
that is found open by two calls has two payers. -/
theorem not_captured_requiresAction :
    (¬∀ (s : Moment) (requests : Fin 2 → CaptureRequest) (pool : CapturePool (Fin 2)),
      s.1.Captured → Pool.Reach handleNext FortuneTurns Pool.anyCall
        (PaymentService.captures ⟨true, true⟩ s requests) pool → pool.state.1.Captured) ∧
    ¬∀ (s : Moment) (requests : Fin 2 → CaptureRequest) (pool : CapturePool (Fin 2)),
      s.1.Captured → Pool.Reach handleNext FortuneTurns Pool.anyCall
        (PaymentService.captures ⟨true, true⟩ s requests) pool → OnePayer pool.past := by
  constructor
  · intro h
    have hcaptured := h _ _ _ invoiced_captured
      (Reach.schedule .start (permitted_anyCall handleNext confirmedFirst
        (payAndConfirmFrom "requires_action")))
    have hsucceeded : (((payAndConfirmFrom "requires_action").schedule handleNext
        confirmedFirst).state.1.payments "pi".toList).map PaymentRow.status = some .succeeded := by
      decide +kernel
    have hreported : ((payAndConfirmFrom "requires_action").schedule handleNext
        confirmedFirst).state.1.reported = [] := by
      decide +kernel
    obtain ⟨row, hrow, hstatus⟩ := map_eq_some_iff.mp hsucceeded
    obtain ⟨id, -, hid⟩ := hcaptured.stored _ row hrow hstatus
    have hid : id ∈ ([] : List PyStr) := hreported ▸ hid
    cases hid
  · intro h
    have hbought : Reach handleNext FortuneTurns anyCall (captures
        ⟨true, true⟩ (invoiced, { processorId := "pi1".toList }) payTwice) bothBought :=
      .env (.schedule .start (permitted_anyCall _ _ _)) (by exact rfl)
    have hone := h _ _ bothMarked invoiced_captured
      (hbought.schedule (permitted_anyCall _ _ _))
    have hfirst : ∃ e ∈ bothMarked.past 0,
        Call.marked e = some ("in".toList, "pi1".toList) := by
      decide +kernel
    have hsecond : ∃ e ∈ bothMarked.past 1,
        Call.marked e = some ("in".toList, "pi2".toList) := by
      decide +kernel
    obtain ⟨e, he, hmarked⟩ := hfirst
    obtain ⟨e', he', hmarked'⟩ := hsecond
    exact absurd (hone 0 e he 1 e' he' _ _ _ hmarked hmarked') (by decide)

end IsaUser.Payments
