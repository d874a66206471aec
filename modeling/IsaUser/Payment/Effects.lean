import IsaUser.Payment.Service

/-!
# What Requests Do to Payments

Every request has at most one effect on the tables: a `Deed`, which the world before it and its
surroundings decide. `PaymentService.deed` says which, method by method, and `step_same` that the
world after the request is the one after its deed, up to what the processor has reported and to
the events that are not about a completed payment.
-/

open IsaUser.Prog List Option

namespace IsaUser.Payments

open World PaymentService

/-! ### Deeds -/

def World.completions (w : World) : List PaymentCompletedEvent :=
  w.published.filterMap fun
    | .paymentCompleted data => some data
    | _ => none

inductive Deed where
  | nothing
  | insert (paymentId : PyStr) (row : PaymentRow)
  /-- An update of a status, and the completions that are published after it. -/
  | update (paymentId : PyStr) (change : StatusUpdate) (completions : List PaymentCompletedEvent)
  /-- A refund, and the status of its payment if it is written. -/
  | refund (row : RefundRow) (status : Option PaymentStatus)
  | approve (refundId : PyStr) (approvedBy : Option PyStr)
  deriving DecidableEq

def Deed.on (w : World) : Deed → World
  | nothing => w
  | insert paymentId row => w.putPayment paymentId row
  | update paymentId change completions =>
    { w.setStatus paymentId change with
      published := w.published ++ completions.map .paymentCompleted }
  | refund row none => w.addRefund row
  | refund row (some status) => (w.addRefund row).setStatus row.paymentId (.set status)
  | approve refundId approvedBy => w.approveRefund refundId approvedBy

@[simp] theorem Deed.nothing_on (w : World) : nothing.on w = w := rfl

@[simp] theorem Deed.update_nil_on (w : World) (paymentId : PyStr) (change : StatusUpdate) :
    (update paymentId change []).on w = w.setStatus paymentId change := by
  rw [on, map_nil, append_nil]
  rfl

/-- The worlds agree on payments, refunds and the completed payments that were published. -/
structure World.Same (w w' : World) : Prop where
  payments : w'.payments = w.payments
  refunds : w'.refunds = w.refunds
  completions : w'.completions = w.completions

theorem World.Same.refl (w : World) : w.Same w := ⟨rfl, rfl, rfl⟩

theorem World.same_reported (w : World) (reported : List PyStr) : w.Same { w with reported } :=
  ⟨rfl, rfl, rfl⟩

theorem World.same_publish {w : World} {event : Event}
    (h : ∀ data, event ≠ .paymentCompleted data) : w.Same (w.publish event) := by
  refine ⟨rfl, rfl, ?_⟩
  cases event with
  | paymentCompleted data => exact absurd rfl (h data)
  | _ => simp [World.completions, publish]

@[simp] theorem World.completions_publish (w : World) (data : PaymentCompletedEvent) :
    (w.publish (.paymentCompleted data)).completions = w.completions ++ [data] := by
  simp [World.completions, publish]

def Deed.completions : Deed → List PaymentCompletedEvent
  | update _ _ completions => completions
  | _ => []

theorem Deed.completions_on (w : World) (deed : Deed) :
    (deed.on w).completions = w.completions ++ deed.completions := by
  have hmap (data : List PaymentCompletedEvent) :
      (data.map Event.paymentCompleted).filterMap (fun
        | .paymentCompleted data => some data
        | _ => none) = data := by
    rw [filterMap_map]
    exact filterMap_some
  cases deed with
  | update paymentId change completions =>
    rw [on, World.completions, filterMap_append, hmap]
    rfl
  | refund row status => cases status <;> exact (append_nil _).symm
  | _ => exact (append_nil _).symm

/-! ### Rows -/

def column (amount : Option Double) : WithTop ℚ := amount.elim ⊤ fun x => (x.1 : ℚ)

def World.HasStatus (w : World) (paymentId : PyStr) (P : PaymentStatus → Prop) : Prop :=
  ∃ row ∈ w.payments paymentId, P row.status

instance (w : World) (paymentId : PyStr) (P : PaymentStatus → Prop) [DecidablePred P] :
    Decidable (w.HasStatus paymentId P) :=
  inferInstanceAs (Decidable (∃ row ∈ w.payments paymentId, _))

section Rows

variable {w : World} {paymentId : PyStr} {P : PaymentStatus → Prop}

theorem toPayment_amount {row : PaymentRow} {payment : Payment}
    (h : row.toPayment paymentId = some payment) :
    ∃ d : Double, row.amount = some d ∧ (payment.amount : ℚ) = shortest d.1 ∧
      payment.status = row.status := by
  rw [PaymentRow.toPayment, map_eq_some_iff] at h
  obtain ⟨amount, hamount, rfl⟩ := h
  rw [readAmount, bind_eq_some_iff] at hamount
  obtain ⟨d, hd, hamount⟩ := hamount
  split at hamount
  · obtain rfl := some.inj hamount
    exact ⟨d, hd, rfl, rfl⟩
  · cases hamount

theorem apply_amount (change : StatusUpdate) (row : PaymentRow) :
    (change.apply row).amount = row.amount := by
  cases change <;> rfl

theorem apply_status (change : StatusUpdate) (row : PaymentRow) :
    (change.apply row).status = change.status := by
  cases change <;> rfl

theorem mem_setStatus {id : PyStr} {change : StatusUpdate} {row : PaymentRow} :
    row ∈ (w.setStatus id change).payments paymentId ↔
      if paymentId = id then ∃ old ∈ w.payments id, change.apply old = row
      else row ∈ w.payments paymentId := by
  rw [setStatus]
  by_cases h : paymentId = id
  · subst h
    simp
  · simp [h]

theorem hasStatus_setStatus {id : PyStr} {change : StatusUpdate} :
    (w.setStatus id change).HasStatus paymentId P ↔
      if paymentId = id then (w.payments id).isSome ∧ P change.status
      else w.HasStatus paymentId P := by
  simp only [HasStatus, mem_setStatus]
  split
  · constructor
    · rintro ⟨row, ⟨old, hold, rfl⟩, hP⟩
      rw [apply_status] at hP
      exact ⟨isSome_of_mem hold, hP⟩
    · rintro ⟨hsome, hP⟩
      obtain ⟨old, hold⟩ := isSome_iff_exists.mp hsome
      exact ⟨_, ⟨old, hold, rfl⟩, by rwa [apply_status]⟩
  · rfl

end Rows

/-! ### The deed of a request -/

def World.found (fortune : Fortune) (paymentId : PyStr) (w : World) : Option Payment :=
  if fortune.link = .up then (w.payments paymentId).bind (PaymentRow.toPayment paymentId) else none

namespace PaymentService

variable (service : PaymentService) (fortunes : ℕ → Fortune) (w : World)

def confirmedAt (payment : Payment) : ℕ := if (service.withProcessor payment).isSome then 2 else 1

/-- The update of number `n` is answered with the payment. -/
def Answered (n : ℕ) : Prop := (fortunes n).link = .up ∧ (fortunes (n + 1)).link = .up
  deriving Decidable

def Publishes (fortune : Fortune) : Prop := service.eventBus = true ∧ fortune.link ≠ .down
  deriving Decidable

/-- The completions that `confirm_payment` publishes. -/
def confirmCompletions (payment : Payment) : List PaymentCompletedEvent :=
  let n := service.confirmedAt payment
  if Answered fortunes n ∧ service.Publishes (fortunes (n + 2)) then [payment.completedEvent] else []

def webhookCompletions (payment : Payment) (data : IntentData) : List PaymentCompletedEvent :=
  let n := service.confirmedAt payment
  if Answered fortunes n ∧ service.Publishes (fortunes (n + 3)) then
    (toDouble (data.amount / 100)).toList.map data.completedEvent
  else []

def confirmDeed (paymentId : PyStr) (completions : Payment → List PaymentCompletedEvent) : Deed :=
  match w.found (fortunes 0) paymentId with
  | none => .nothing
  | some payment =>
    if (fortunes (service.confirmedAt payment)).link = .down then .nothing
    else .update paymentId (.set .succeeded) (completions payment)

def failDeed (paymentId failureReason : PyStr) (failureCode : Option PyStr) : Deed :=
  match w.found (fortunes 0) paymentId with
  | none => .nothing
  | some _ =>
    if (fortunes 1).link = .down then .nothing
    else .update paymentId (.failed failureReason failureCode) []

def intentId? (request : CreatePaymentIntentRequest) : Option PyStr :=
  if service.stripe then
    if (fortunes 2).link = .up then some (fortunes 2).processorId else none
  else some ("pi_".toList ++ request.userId ++ "_".toList ++ (fortunes 1).timestamp)

def createDeed (request : CreatePaymentIntentRequest) : Deed :=
  if (fortunes 0).link = .up ∧ (fortunes 0).profile = true then
    match service.intentId? fortunes request with
    | none => .nothing
    | some paymentIntentId =>
      if (fortunes (if service.stripe then 3 else 2)).link ≠ .down ∧
          w.payments paymentIntentId = none then
        .insert paymentIntentId (request.row paymentIntentId)
      else .nothing
  else .nothing

def refundId? (payment : Payment) : Option PyStr :=
  if (service.withProcessor payment).isSome then
    if (fortunes 2).link = .up then some (fortunes 2).processorId else none
  else some ("re_".toList ++ payment.paymentId ++ "_".toList ++ (fortunes 1).timestamp)

def refundedAt (payment : Payment) : ℕ := if (service.withProcessor payment).isSome then 3 else 2

def refundDeed (request : CreateRefundRequest) : Deed :=
  match w.found (fortunes 0) request.paymentId with
  | none => .nothing
  | some payment =>
    if payment.status = .succeeded ∧ request.refundAmount payment ≤ payment.amount ∧
        0 ≤ request.refundAmount payment then
      match service.refundId? fortunes payment with
      | none => .nothing
      | some refundId =>
        let row := request.row payment refundId
        let n := service.refundedAt payment
        if (fortunes n).link ≠ .down ∧ w.refund? refundId = none then
          .refund row
            (if Answered fortunes n ∧ row.toRefund.isSome ∧ (fortunes (n + 2)).link ≠ .down then
              some (refundStatus request payment)
            else none)
        else .nothing
    else .nothing

def approveDeed (refundId : PyStr) (approvedBy : Option PyStr) : Deed :=
  if (fortunes 0).link = .up ∧ ((w.refund? refundId).bind RefundRow.toRefund).isSome ∧
      (fortunes 1).link ≠ .down then
    .approve refundId approvedBy
  else .nothing

def deed (attempt : Attempt) : Deed :=
  match attempt.request with
  | .createPaymentIntent request => service.createDeed attempt.fortunes w request
  | .confirmPayment paymentId =>
    service.confirmDeed attempt.fortunes w paymentId (service.confirmCompletions attempt.fortunes)
  | .failPayment paymentId failureReason failureCode =>
    failDeed attempt.fortunes w paymentId failureReason failureCode
  | .createRefund request => service.refundDeed attempt.fortunes w request
  | .processRefund refundId approvedBy => approveDeed attempt.fortunes w refundId approvedBy
  | .stripeWebhook true (.paymentIntentSucceeded data) =>
    service.confirmDeed attempt.fortunes w data.id fun payment =>
      service.confirmCompletions attempt.fortunes payment ++
        service.webhookCompletions attempt.fortunes payment data
  | .stripeWebhook true (.paymentIntentFailed data) =>
    failDeed attempt.fortunes w data.id (data.errorMessage.getD "Payment failed".toList)
      data.errorCode
  | .stripeWebhook false _ => .nothing

end PaymentService

/-! ### Calls -/

section Calls

variable {service : PaymentService} {fortunes : ℕ → Fortune} {w : World} {n : ℕ}

theorem ask_wp {c : Call} {Q : Except PaymentError c.Reply → World × ℕ → Prop} :
    (ask c).wp (served fortunes) Q (w, n) ↔
      Q ((handle (fortunes n) c w).1.mapError .call) ((handle (fortunes n) c w).2, n + 1) :=
  wp_query

/-- What is caught reads as `None`. -/
theorem orNone_wp {α : Type} {p : PaymentM (Option α)}
    {Q : Except PaymentError (Option α) → World × ℕ → Prop} {s : World × ℕ} :
    (orNone p).wp (served fortunes) Q s ↔
      p.wp (served fortunes) (fun r s => Q (.ok (r.toOption.bind id)) s) s := by
  rw [orNone, wp_tryCatch]
  refine iff_of_eq (congrArg (fun Q => wp _ p Q s) ?_)
  funext r s
  cases r <;> rfl

theorem converted_wp {α : Type} {row : Option (Option α)}
    {Q : Except PaymentError (Option α) → World × ℕ → Prop} {s : World × ℕ}
    (h : ∀ r, r.toOption.bind id = row.bind id → Q r s) :
    (converted row).wp (served fortunes) Q s := by
  rcases row with _ | _ | a
  · exact h _ rfl
  · exact h _ rfl
  · exact h _ rfl

theorem getPayment_wp {paymentId : PyStr}
    {Q : Except PaymentError (Option Payment) → World × ℕ → Prop}
    (h : Q (.ok (w.found (fortunes n) paymentId)) (w, n + 1)) :
    (getPayment paymentId).wp (served fortunes) Q (w, n) := by
  refine orNone_wp.mpr (wp_bind.mpr (ask_wp.mpr ?_))
  rw [found] at h
  simp only [handle, send]
  cases hlink : (fortunes n).link with
  | up =>
    rw [if_pos hlink] at h
    refine converted_wp fun r hr => ?_
    rw [hr]
    simpa [execute, bind_map] using h
  | down =>
    rw [if_neg (by simp [hlink])] at h
    exact h
  | lost =>
    rw [if_neg (by simp [hlink])] at h
    exact h

theorem toPayment_apply {paymentId : PyStr} {row : PaymentRow} {payment : Payment}
    (h : row.toPayment paymentId = some payment) (change : StatusUpdate) :
    ∃ payment', (change.apply row).toPayment paymentId = some payment' ∧
      payment'.completedEvent = payment.completedEvent := by
  rw [PaymentRow.toPayment, map_eq_some_iff] at h
  obtain ⟨amount, hamount, rfl⟩ := h
  cases change with
  | set status => exact ⟨_, map_eq_some_iff.mpr ⟨amount, hamount, rfl⟩, rfl⟩
  | failed reason code => exact ⟨_, map_eq_some_iff.mpr ⟨amount, hamount, rfl⟩, rfl⟩

theorem found_setStatus {fortune : Fortune} {paymentId : PyStr} {change : StatusUpdate}
    {row : PaymentRow} {payment : Payment} (hrow : w.payments paymentId = some row)
    (hread : (change.apply row).toPayment paymentId = some payment) :
    (w.setStatus paymentId change).found fortune paymentId =
      if fortune.link = .up then some payment else none := by
  simp [found, setStatus, hrow, hread]

def World.updated (fortune : Fortune) (paymentId : PyStr) (change : StatusUpdate) (w : World) :
    World :=
  if fortune.link = .down then w else w.setStatus paymentId change

theorem updatePaymentStatus_wp {paymentId : PyStr} {change : StatusUpdate} {row : PaymentRow}
    {payment : Payment} {Q : Except PaymentError (Option Payment) → World × ℕ → Prop}
    (hrow : w.payments paymentId = some row)
    (hread : (change.apply row).toPayment paymentId = some payment)
    (hanswered : Answered fortunes n →
      Q (.ok (some payment)) (w.setStatus paymentId change, n + 2))
    (hnone : ∀ m, ¬Answered fortunes n →
      Q (.ok none) (w.updated (fortunes n) paymentId change, m)) :
    (updatePaymentStatus paymentId change).wp (served fortunes) Q (w, n) := by
  refine orNone_wp.mpr (wp_bind.mpr (ask_wp.mpr ?_))
  rw [Answered] at hanswered hnone
  rw [updated] at hnone
  simp only [handle, send]
  cases hlink : (fortunes n).link with
  | up =>
    simp only [execute, hrow]
    refine getPayment_wp ?_
    rw [found_setStatus hrow hread]
    by_cases hnext : (fortunes (n + 1)).link = .up
    · rw [if_pos hnext]
      exact hanswered ⟨hlink, hnext⟩
    · rw [if_neg hnext]
      have h := hnone (n + 2) fun h => hnext h.2
      rwa [if_neg (by simp [hlink])] at h
  | down =>
    have h := hnone (n + 1) fun h => by simp [hlink] at h
    rw [if_pos hlink] at h
    exact h
  | lost =>
    have h := hnone (n + 1) fun h => by simp [hlink] at h
    rw [if_neg (by simp [hlink])] at h
    exact h

theorem publish_wp {event : Event} {Q : Except PaymentError Unit → World × ℕ → Prop}
    (h : Q (.ok ()) (if service.Publishes (fortunes n) then w.publish event else w,
      if service.eventBus then n + 1 else n)) :
    (service.publish event).wp (served fortunes) Q (w, n) := by
  rw [PaymentService.publish]
  simp only [PaymentService.Publishes] at h
  cases hbus : service.eventBus with
  | false => simpa [hbus] using h
  | true =>
    simp only [hbus] at h
    refine wp_tryCatch.mpr (wp_void.mpr (ask_wp.mpr ?_))
    simp only [handle, send]
    cases hlink : (fortunes n).link with
    | down =>
      rw [if_neg (by simp [hlink])] at h
      exact h
    | _ =>
      rw [if_pos (by simp [hlink])] at h
      exact h

theorem confirmIntent_wp {payment : Payment} {Q : Except PaymentError Unit → World × ℕ → Prop}
    (h : ∀ reported, Q (.ok ()) ({ w with reported }, n + service.confirmedAt payment - 1)) :
    (service.confirmIntent payment).wp (served fortunes) Q (w, n) := by
  rw [confirmIntent]
  rw [confirmedAt] at h
  cases hprocessor : service.withProcessor payment with
  | none => simpa [hprocessor] using h w.reported
  | some processorPaymentId =>
    refine wp_tryCatch.mpr (wp_void.mpr (ask_wp.mpr ?_))
    simp only [handle, confirmed]
    rw [hprocessor] at h
    by_cases hreported : (fortunes n).link = .up ∧ (fortunes n).intentStatus = "succeeded".toList
    · rw [if_pos hreported]
      cases hanswer : (w.send (fortunes n) (.stripeConfirm processorPaymentId)).1 <;> exact h _
    · rw [if_neg hreported]
      cases hanswer : (w.send (fortunes n) (.stripeConfirm processorPaymentId)).1 <;>
        exact h w.reported

end Calls

/-! ### Methods -/

section Methods

variable {service : PaymentService} {fortunes : ℕ → Fortune} {w : World}

theorem found_row {fortune : Fortune} {paymentId : PyStr} {payment : Payment}
    (h : w.found fortune paymentId = some payment) :
    ∃ row, w.payments paymentId = some row ∧ row.toPayment paymentId = some payment := by
  rw [found] at h
  split at h
  · exact bind_eq_some_iff.mp h
  · cases h

/-- `confirm_payment`: its deed, and when it returns. -/
theorem confirmPayment_wp {paymentId : PyStr}
    {Q : Except PaymentError Payment → World × ℕ → Prop}
    (hok : ∀ payment updated w', w.found (fortunes 0) paymentId = some payment →
      Answered fortunes (service.confirmedAt payment) →
      ((service.confirmDeed fortunes w paymentId (service.confirmCompletions fortunes)).on
        w).Same w' →
      Q (.ok updated) (w', service.confirmedAt payment + if service.eventBus then 3 else 2))
    (herror : ∀ e w' m, (∀ payment, w.found (fortunes 0) paymentId = some payment →
        ¬Answered fortunes (service.confirmedAt payment)) →
      ((service.confirmDeed fortunes w paymentId (service.confirmCompletions fortunes)).on
        w).Same w' →
      Q (.error e) (w', m)) :
    (service.confirmPayment paymentId).wp (served fortunes) Q (w, 0) := by
  refine wp_bind.mpr (getPayment_wp ?_)
  rw [confirmDeed] at hok herror
  cases hfound : w.found (fortunes 0) paymentId with
  | none =>
    simp only [hfound] at herror
    exact herror _ _ _ (fun _ h => absurd h (some_ne_none _).symm) (.refl w)
  | some payment =>
    simp only [hfound] at hok herror
    obtain ⟨row, hrow, hread⟩ := found_row hfound
    obtain ⟨payment', hread', hevent⟩ := toPayment_apply hread (.set .succeeded)
    refine wp_bind.mpr (confirmIntent_wp fun reported => wp_bind.mpr ?_)
    rw [Nat.add_sub_cancel_left]
    refine updatePaymentStatus_wp (w := { w with reported }) hrow hread' (fun hanswered => ?_)
      fun m hanswered => ?_
    · refine wp_bind.mpr (publish_wp ?_)
      have hnumber : (if service.eventBus then service.confirmedAt payment + 2 + 1
          else service.confirmedAt payment + 2) =
          service.confirmedAt payment + if service.eventBus then 3 else 2 := by
        cases service.eventBus <;> rfl
      rw [hnumber, hevent]
      refine hok payment payment' _ rfl hanswered ?_
      rw [if_neg (by simp [hanswered.1])]
      refine ⟨?_, ?_, ?_⟩
      · split <;> rfl
      · split <;> rfl
      · rw [Deed.completions_on, Deed.completions, confirmCompletions]
        by_cases hpublishes : service.Publishes (fortunes (service.confirmedAt payment + 2))
        · rw [if_pos hpublishes, if_pos ⟨hanswered, hpublishes⟩, completions_publish]
          rfl
        · rw [if_neg hpublishes, if_neg fun h => hpublishes h.2, append_nil]
          rfl
    · refine herror _ _ _ (fun p hp => by cases hp; exact hanswered) ?_
      rw [updated]
      by_cases hdown : (fortunes (service.confirmedAt payment)).link = .down
      · rw [if_pos hdown, if_pos hdown]
        exact w.same_reported reported
      · rw [if_neg hdown, if_neg hdown]
        refine ⟨rfl, rfl, ?_⟩
        rw [Deed.completions_on, Deed.completions, confirmCompletions,
          if_neg (fun h => hanswered h.1), append_nil]
        rfl

/-- `fail_payment`. -/
theorem failPayment_wp {paymentId failureReason : PyStr} {failureCode : Option PyStr}
    {Q : Except PaymentError (Option Payment) → World × ℕ → Prop}
    (h : ∀ r m, Q r (
      (failDeed fortunes w paymentId failureReason failureCode).on w, m)) :
    (failPayment paymentId failureReason failureCode).wp (served fortunes) Q
      (w, 0) := by
  refine wp_bind.mpr (getPayment_wp ?_)
  rw [failDeed] at h
  cases hfound : w.found (fortunes 0) paymentId with
  | none =>
    simp only [hfound] at h
    exact h _ _
  | some payment =>
    simp only [hfound] at h
    obtain ⟨row, hrow, hread⟩ := found_row hfound
    obtain ⟨payment', hread', -⟩ := toPayment_apply hread (.failed failureReason failureCode)
    refine updatePaymentStatus_wp hrow hread' (fun hanswered => ?_) fun m _ => ?_
    · have hup : (fortunes 1).link ≠ .down := by simp [hanswered.1]
      simpa [hup] using h (.ok (some payment')) 3
    · rw [updated]
      by_cases hdown : (fortunes 1).link = .down
      · simpa [hdown] using h (.ok none) m
      · simpa [hdown] using h (.ok none) m

theorem createPayment_wp {paymentId : PyStr} {row : PaymentRow} {n : ℕ}
    {Q : Except PaymentError (Option Payment) → World × ℕ → Prop}
    (h : ∀ r m, Q (.ok r) (if (fortunes n).link ≠ .down ∧ w.payments paymentId = none then
      w.putPayment paymentId row else w, m)) :
    (createPayment paymentId row).wp (served fortunes) Q (w, n) := by
  refine orNone_wp.mpr (wp_bind.mpr (ask_wp.mpr ?_))
  simp only [handle, send, execute]
  by_cases hfree : w.payments paymentId = none
  · rw [if_pos hfree]
    cases hlink : (fortunes n).link with
    | up =>
      rw [if_pos ⟨by simp [hlink], hfree⟩] at h
      exact getPayment_wp (h _ _)
    | down =>
      rw [if_neg (by simp [hlink])] at h
      exact h _ _
    | lost =>
      rw [if_pos ⟨by simp [hlink], hfree⟩] at h
      exact h _ _
  · rw [if_neg hfree]
    rw [if_neg fun h => hfree h.2] at h
    cases (fortunes n).link <;> exact h _ _

theorem validateUser_wp {userId : PyStr} {n : ℕ}
    {Q : Except PaymentError Unit → World × ℕ → Prop}
    (hok : (fortunes n).link = .up ∧ (fortunes n).profile = true → Q (.ok ()) (w, n + 1))
    (herror : ∀ e, ¬((fortunes n).link = .up ∧ (fortunes n).profile = true) →
      Q (.error e) (w, n + 1)) :
    (validateUser userId).wp (served fortunes) Q (w, n) := by
  refine wp_bind.mpr (wp_tryCatch.mpr (ask_wp.mpr ?_))
  simp only [handle, send, execute]
  cases hlink : (fortunes n).link with
  | up =>
    cases hprofile : (fortunes n).profile with
    | true => exact hok ⟨hlink, hprofile⟩
    | false => exact herror _ (by simp [hprofile])
  | _ => exact herror _ (by simp [hlink])

theorem newIntentId_wp {request : CreatePaymentIntentRequest}
    {Q : Except PaymentError PyStr → World × ℕ → Prop}
    (h : ∀ r m, r.toOption = service.intentId? fortunes request →
      (r.toOption.isSome → m = if service.stripe then 3 else 2) → Q r (w, m)) :
    (service.newIntentId request).wp (served fortunes) Q (w, 1) := by
  refine wp_bind.mpr (ask_wp.mpr ?_)
  rw [intentId?] at h
  cases hstripe : service.stripe with
  | false =>
    simp only [hstripe] at h
    exact h (.ok _) 2 rfl fun _ => rfl
  | true =>
    simp only [hstripe, if_true] at h ⊢
    refine wp_tryCatch.mpr (ask_wp.mpr ?_)
    simp only [handle, send]
    cases hlink : (fortunes (1 + 1)).link with
    | up => exact h (.ok _) 3 (by rw [if_pos hlink]; rfl) fun _ => rfl
    | _ => exact h (.error _) 3 (by rw [if_neg (by simp [hlink])]; rfl) nofun

/-- `create_payment_intent`. -/
theorem createPaymentIntent_wp {request : CreatePaymentIntentRequest}
    {Q : Except PaymentError PaymentIntentResponse → World × ℕ → Prop}
    (h : ∀ r w' m, ((service.createDeed fortunes w request).on w).Same w' → Q r (w', m)) :
    (service.createPaymentIntent request).wp (served fortunes) Q (w, 0) := by
  rw [createDeed] at h
  refine wp_bind.mpr (validateUser_wp (fun hknown => ?_) fun e hunknown => ?_)
  · rw [if_pos hknown] at h
    refine wp_bind.mpr (newIntentId_wp fun r m hid hm => ?_)
    rw [← hid] at h
    cases r with
    | error e => exact h _ _ _ (.refl w)
    | ok paymentIntentId =>
      obtain rfl := hm rfl
      refine wp_bind.mpr (createPayment_wp fun _ m => wp_bind.mpr (publish_wp ?_))
      refine h _ _ _ ?_
      simp only [Except.toOption]
      have hsame (w' : World) : w'.Same (if service.Publishes (fortunes m) then w'.publish
          (.paymentIntentCreated paymentIntentId request.userId request.amount
            request.currency.value request.orderId) else w') := by
        split
        · exact same_publish nofun
        · exact .refl w'
      by_cases hstored : (fortunes (if service.stripe then 3 else 2)).link ≠ .down ∧
          w.payments paymentIntentId = none
      · rw [if_pos hstored, if_pos hstored]
        exact hsame _
      · rw [if_neg hstored, if_neg hstored]
        exact hsame _
  · rw [if_neg hunknown] at h
    exact h _ _ _ (.refl w)

theorem newRefundId_wp {request : CreateRefundRequest} {payment : Payment}
    {Q : Except PaymentError PyStr → World × ℕ → Prop}
    (h : ∀ r m, r.toOption = service.refundId? fortunes payment →
      (r.toOption.isSome → m = service.refundedAt payment) → Q r (w, m)) :
    (service.newRefundId request payment).wp (served fortunes) Q (w, 1) := by
  refine wp_bind.mpr (ask_wp.mpr ?_)
  rw [refundId?, refundedAt] at h
  cases hprocessor : service.withProcessor payment with
  | none =>
    simp only [hprocessor] at h
    exact h (.ok _) 2 rfl fun _ => rfl
  | some processorPaymentId =>
    simp only [hprocessor] at h
    refine wp_tryCatch.mpr (ask_wp.mpr ?_)
    simp only [handle, send]
    cases hlink : (fortunes (1 + 1)).link with
    | up => exact h (.ok _) 3 (by simp [hlink, Except.toOption]) fun _ => rfl
    | _ => exact h (.error _) 3 (by simp [hlink, Except.toOption]) nofun

theorem refund?_addRefund {row : RefundRow} (h : w.refund? row.refundId = none) :
    (w.addRefund row).refund? row.refundId = some row := by
  rw [refund?] at h
  simp [refund?, addRefund, h]

theorem insertRefund_wp {row : RefundRow} {n : ℕ}
    {Q : Except PaymentError (Option Refund) → World × ℕ → Prop}
    (hok : ∀ refund, Answered fortunes n → w.refund? row.refundId = none →
      row.toRefund = some refund → Q (.ok (some refund)) (w.addRefund row, n + 2))
    (hunanswered : ∀ m, (fortunes n).link ≠ .down → w.refund? row.refundId = none →
      ¬(Answered fortunes n ∧ row.toRefund.isSome) →
      Q (.ok none) (w.addRefund row, m))
    (hkept : ∀ m, ¬((fortunes n).link ≠ .down ∧ w.refund? row.refundId = none) →
      Q (.ok none) (w, m)) :
    (insertRefund row).wp (served fortunes) Q (w, n) := by
  refine orNone_wp.mpr (wp_bind.mpr (ask_wp.mpr ?_))
  rw [Answered] at hok hunanswered
  simp only [handle, send, execute]
  by_cases hfree : w.refund? row.refundId = none
  · rw [if_pos hfree]
    cases hlink : (fortunes n).link with
    | up =>
      have hunanswered (m : ℕ) := hunanswered m (by simp [hlink]) hfree
      refine wp_bind.mpr (ask_wp.mpr ?_)
      simp only [handle, send, execute, refund?_addRefund hfree]
      cases hnext : (fortunes (n + 1)).link with
      | up =>
        refine converted_wp fun r hr => ?_
        rw [hr, map_some]
        cases hread : row.toRefund with
        | none => exact hunanswered _ fun h => by simp [hread] at h
        | some refund => exact hok refund ⟨hlink, hnext⟩ hfree hread
      | _ => exact hunanswered _ fun h => by simp [hnext] at h
    | down => exact hkept _ fun h => h.1 hlink
    | lost => exact hunanswered _ (by simp [hlink]) hfree fun h => by simp [hlink] at h
  · rw [if_neg hfree]
    cases (fortunes n).link <;> exact hkept _ fun h => hfree h.2

/-- `create_refund`. -/
theorem createRefund_wp {request : CreateRefundRequest}
    {Q : Except PaymentError Refund → World × ℕ → Prop}
    (h : ∀ r m, Q r ((service.refundDeed fortunes w request).on w, m)) :
    (service.createRefund request).wp (served fortunes) Q (w, 0) := by
  refine wp_bind.mpr (getPayment_wp ?_)
  rw [refundDeed] at h
  cases hfound : w.found (fortunes 0) request.paymentId with
  | none =>
    simp only [hfound] at h
    exact h _ _
  | some payment =>
    simp only [hfound] at h
    obtain ⟨row, hrow, hread⟩ := found_row hfound
    refine wp_require_bind (fun hsucceeded => ?_) fun hnot => ?_
    swap
    · rw [if_neg fun h => hnot h.1] at h
      exact h _ _
    refine wp_require_bind (fun hle => ?_) fun hnot => ?_
    swap
    · rw [if_neg fun h => hnot h.2.1] at h
      exact h _ _
    refine wp_bind.mpr (newRefundId_wp fun r m hid hm => ?_)
    rw [← hid] at h
    cases r with
    | error e =>
      by_cases hnonneg : 0 ≤ request.refundAmount payment
      · rw [if_pos ⟨hsucceeded, hle, hnonneg⟩] at h
        exact h _ _
      · rw [if_neg fun h => hnonneg h.2.2] at h
        exact h _ _
    | ok refundId =>
      obtain rfl := hm rfl
      refine wp_require_bind (fun hnonneg => ?_) fun hnot => ?_
      swap
      · rw [if_neg fun h => hnot h.2.2] at h
        exact h _ _
      rw [if_pos ⟨hsucceeded, hle, hnonneg⟩] at h
      simp only [Except.toOption] at h
      refine wp_bind.mpr (insertRefund_wp (fun refund hanswered hfree hrefund => ?_)
        (fun m hlink hfree hnot => ?_) fun m hnot => ?_)
      · have hid : payment.paymentId = request.paymentId := by
          rw [PaymentRow.toPayment, map_eq_some_iff] at hread
          obtain ⟨amount, -, rfl⟩ := hread
          rfl
        obtain ⟨payment', hread', -⟩ :=
          toPayment_apply hread (.set (refundStatus request payment))
        rw [if_pos ⟨by simp [hanswered.1], hfree⟩] at h
        rw [hid]
        refine wp_bind.mpr (updatePaymentStatus_wp hrow hread' (fun hupdated => ?_)
          fun m _ => ?_)
        · rw [if_pos ⟨hanswered, by simp [hrefund], by simp [hupdated.1]⟩] at h
          exact h _ _
        · rw [updated]
          by_cases hdown : (fortunes (service.refundedAt payment + 2)).link = .down
          · rw [if_pos hdown]
            rw [if_neg fun h => h.2.2 hdown] at h
            exact h _ _
          · rw [if_neg hdown]
            rw [if_pos ⟨hanswered, by simp [hrefund], hdown⟩] at h
            exact h _ _
      · rw [if_pos ⟨hlink, hfree⟩, if_neg fun h => hnot ⟨h.1, h.2.1⟩] at h
        exact h _ _
      · change ¬((fortunes (service.refundedAt payment)).link ≠ .down ∧
          w.refund? refundId = none) at hnot
        rw [if_neg hnot] at h
        exact h _ _

theorem approveRefund_wp {refundId : PyStr} {approvedBy : Option PyStr} {n : ℕ}
    {Q : Except PaymentError (Option Refund) → World × ℕ → Prop}
    (h : ∀ r m, Q r (if (fortunes n).link = .down then w else w.approveRefund refundId approvedBy,
      m)) :
    (approveRefund refundId approvedBy).wp (served fortunes) Q (w, n) := by
  refine orNone_wp.mpr (wp_bind.mpr (ask_wp.mpr ?_))
  simp only [handle, send, execute]
  cases hlink : (fortunes n).link with
  | up =>
    rw [if_neg (by simp [hlink])] at h
    cases hrefund : (w.refund? refundId).isSome with
    | false => exact h _ _
    | true =>
      refine wp_bind.mpr (ask_wp.mpr ?_)
      simp only [handle, send]
      cases (fortunes (n + 1)).link with
      | up => exact converted_wp fun _ _ => h _ _
      | _ => exact h _ _
  | down =>
    rw [if_pos hlink] at h
    exact h _ _
  | lost =>
    rw [if_neg (by simp [hlink])] at h
    exact h _ _

/-- `process_refund`. -/
theorem processRefund_wp {refundId : PyStr} {approvedBy : Option PyStr}
    {Q : Except PaymentError (Option Refund) → World × ℕ → Prop}
    (h : ∀ r m, Q r ((approveDeed fortunes w refundId approvedBy).on w, m)) :
    (processRefund refundId approvedBy).wp (served fortunes) Q (w, 0) := by
  rw [approveDeed] at h
  refine wp_bind.mpr (orNone_wp.mpr (wp_bind.mpr (ask_wp.mpr ?_)))
  simp only [handle, send]
  cases hlink : (fortunes 0).link with
  | up =>
    refine converted_wp fun r hr => ?_
    rw [hr, bind_map, Function.id_comp]
    cases hrefund : (w.refund? refundId).bind RefundRow.toRefund with
    | none =>
      rw [if_neg fun h => by simp [hrefund] at h] at h
      exact h _ _
    | some refund =>
      refine approveRefund_wp fun r m => ?_
      by_cases hdown : (fortunes 1).link = .down
      · rw [if_pos hdown]
        rw [if_neg fun h => h.2.2 hdown] at h
        exact h _ _
      · rw [if_neg hdown]
        rw [if_pos ⟨hlink, by simp [hrefund], hdown⟩] at h
        exact h _ _
  | _ =>
    rw [if_neg (by simp [hlink])] at h
    exact h _ _

end Methods

/-! ### The webhook -/

section Webhook

variable {service : PaymentService} {fortunes : ℕ → Fortune} {w : World}

theorem World.Same.publish {w' : World} {paymentId : PyStr} {change : StatusUpdate}
    {completions : List PaymentCompletedEvent}
    (h : ((Deed.update paymentId change completions).on w).Same w') (data : PaymentCompletedEvent) :
    ((Deed.update paymentId change (completions ++ [data])).on w).Same
      (w'.publish (.paymentCompleted data)) := by
  refine ⟨h.payments, h.refunds, ?_⟩
  rw [completions_publish, h.completions, Deed.completions_on, Deed.completions_on,
    Deed.completions, Deed.completions, append_assoc]

/-- `payment_intent.succeeded`. -/
theorem intentSucceeded_wp {data : IntentData}
    {Q : Except PaymentError Unit → World × ℕ → Prop}
    (h : ∀ r w' m, ((service.confirmDeed fortunes w data.id fun payment =>
        service.confirmCompletions fortunes payment ++
          service.webhookCompletions fortunes payment data).on w).Same w' → Q r (w', m)) :
    (service.intentSucceeded data).wp (served fortunes) Q (w, 0) := by
  refine wp_bind.mpr (confirmPayment_wp (fun payment updated w' hfound hanswered hsame => ?_)
    fun e w' m hanswered hsame => ?_)
  · -- the confirmation has gone through, and the webhook publishes once more
    have hup : (fortunes (service.confirmedAt payment)).link ≠ .down := by simp [hanswered.1]
    simp only [confirmDeed, hfound, if_neg hup] at h hsame
    rw [webhookCompletions] at h
    cases hamount : toDouble (data.amount / 100) with
    | none =>
      rw [hamount, toList_none, map_nil, ite_self, append_nil] at h
      exact h _ _ _ hsame
    | some amount =>
      rw [hamount] at h
      refine publish_wp (h _ _ _ ?_)
      cases hbus : service.eventBus with
      | false =>
        have hsilent (fortune : Fortune) : ¬service.Publishes fortune := fun h => by
          simp [PaymentService.Publishes, hbus] at h
        rw [if_neg fun h => hsilent _ h.2, if_neg (hsilent _), append_nil]
        exact hsame
      | true =>
        by_cases hpublishes : service.Publishes (fortunes (service.confirmedAt payment + 3))
        · rw [if_pos ⟨hanswered, hpublishes⟩]
          exact (if_pos (α := World) hpublishes).symm ▸ hsame.publish _
        · rw [if_neg fun h => hpublishes h.2, append_nil]
          exact (if_neg (α := World) hpublishes).symm ▸ hsame
  · have hdeed : (service.confirmDeed fortunes w data.id fun payment =>
        service.confirmCompletions fortunes payment ++
          service.webhookCompletions fortunes payment data) =
        service.confirmDeed fortunes w data.id (service.confirmCompletions fortunes) := by
      simp only [confirmDeed]
      cases hfound : w.found (fortunes 0) data.id with
      | none => rfl
      | some payment =>
        have hwebhook : service.webhookCompletions fortunes payment data = [] := by
          exact if_neg fun h => hanswered payment hfound h.1
        simp only [hwebhook, append_nil]
    rw [hdeed] at h
    exact h _ _ _ hsame

/-- `payment_intent.payment_failed`. -/
theorem intentFailed_wp {data : IntentData} {Q : Except PaymentError Unit → World × ℕ → Prop}
    (h : ∀ r w' m, ((failDeed fortunes w data.id
      (data.errorMessage.getD "Payment failed".toList) data.errorCode).on w).Same w' →
        Q r (w', m)) :
    (service.intentFailed data).wp (served fortunes) Q (w, 0) := by
  refine wp_bind.mpr (failPayment_wp fun r m => ?_)
  cases r with
  | error e => exact h _ _ _ (.refl _)
  | ok payment =>
    cases toDouble (data.amount / 100) with
    | none => exact h _ _ _ (.refl _)
    | some amount =>
      refine publish_wp (h _ _ _ ?_)
      split
      · exact same_publish nofun
      · exact .refl _

end Webhook

/-! ### Requests -/

section Requests

variable {service : PaymentService} {w : World}

/-- **The world after a request** is the one after its deed. -/
theorem step_same (service : PaymentService) (w : World) (attempt : Attempt) :
    ((service.deed w attempt).on w).Same (service.step w attempt) := by
  obtain ⟨request, fortunes⟩ := attempt
  have hwp : (service.serve request).wp (served fortunes)
      (fun _ s => ((service.deed w ⟨request, fortunes⟩).on w).Same s.1) (w, 0) := by
    cases request with
    | createPaymentIntent request =>
      exact wp_void.mpr (createPaymentIntent_wp fun _ _ _ hsame => hsame)
    | confirmPayment paymentId =>
      exact wp_void.mpr (confirmPayment_wp (fun _ _ _ _ _ hsame => hsame)
        fun _ _ _ _ hsame => hsame)
    | failPayment paymentId failureReason failureCode =>
      exact wp_void.mpr (failPayment_wp fun _ _ => .refl _)
    | createRefund request => exact wp_void.mpr (createRefund_wp fun _ _ => .refl _)
    | processRefund refundId approvedBy =>
      exact wp_void.mpr (processRefund_wp fun _ _ => .refl _)
    | stripeWebhook signed event =>
      cases signed with
      | false => exact .refl w
      | true =>
        refine wp_tryCatch.mpr ?_
        cases event with
        | paymentIntentSucceeded data =>
          exact intentSucceeded_wp fun r _ _ hsame => by cases r <;> exact hsame
        | paymentIntentFailed data =>
          exact intentFailed_wp fun r _ _ hsame => by cases r <;> exact hsame
  exact hwp

end Requests

end IsaUser.Payments
