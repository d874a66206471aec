import IsaUser.Payment.Effects
import IsaUser.Wallet.Redelivery

/-!
# One Payment, One Credit

`confirm_payment` publishes `payment.completed` whenever it goes through, and the webhook for
`payment_intent.succeeded`, which confirms the payment, publishes another one. Every event has
an id of its own, and the wallet service tells events apart by their ids.
-/

open List

namespace IsaUser.Payments

open IsaUser.Wallets (EventWorld EventPool EventRun Delivery SafeTakeover deposits)

/-! ### The law -/

def World.completionsOf (w : World) (paymentId : PyStr) : List PaymentCompletedEvent :=
  w.completions.filter fun data => data.paymentIntentId = paymentId

/-- However the events are read and delivered to the wallet service, each any number of times:
if claims are taken over safely, there is at most one deposit. -/
def DepositedOnce (events : List PaymentCompletedEvent) : Prop :=
  ∀ (read : PaymentCompletedEvent → Wallets.PaymentEvent) (ι : Type) [DecidableEq ι]
    (worlds : Fin events.length → EventWorld) (deliveries : Fin events.length → ι → Delivery)
    (pools : Fin events.length → EventPool ι),
    (∀ k, EventRun SafeTakeover
      (EventPool.start (worlds k) (.paymentCompleted (read (events.get k))) (deliveries k))
      (pools k)) →
    (∀ k i, deposits ((pools k).past i) ≤ 1) ∧
      ∀ k i k' i', 0 < deposits ((pools k).past i) → 0 < deposits ((pools k').past i') →
        k = k' ∧ i = i'

def World.CreditedOnce (w : World) : Prop :=
  ∀ paymentId, (w.completionsOf paymentId).length ≤ 1 ∧ DepositedOnce (w.completionsOf paymentId)

/-! ### The condition -/

def PublishesOnce (service : PaymentService) (w : World) (attempt : Attempt) : Prop :=
  let events := (service.deed w attempt).completions
  events.length ≤ 1 ∧ ∀ data ∈ events, w.completionsOf data.paymentIntentId = []

/-! ### Deposits -/

theorem deposits_of_run {ι : Type} [DecidableEq ι] {w : EventWorld} {e : Wallets.MoneyEvent}
    {deliveries : ι → Delivery} {pool : EventPool ι}
    (hpool : EventRun SafeTakeover (EventPool.start w e deliveries) pool) :
    (∀ i, deposits (pool.past i) ≤ 1) ∧
      ∀ i i', 0 < deposits (pool.past i) → 0 < deposits (pool.past i') → i = i' := by
  refine ⟨Wallets.deposits_le hpool fun i => e.handler_once, fun i i' hi hi' => ?_⟩
  by_cases h : e.Paying
  · exact (Wallets.exclusive_of_run h hpool).once i i' hi hi'
  · have hidle := Wallets.deposits_le hpool (fun i => Wallets.handler_idle _ h) i
    omega

theorem depositedOnce_of_length {events : List PaymentCompletedEvent} (h : events.length ≤ 1) :
    DepositedOnce events := by
  intro read ι _ worlds deliveries pools hruns
  refine ⟨fun k => (deposits_of_run (hruns k)).1, fun k i k' i' hi hi' => ?_⟩
  obtain rfl : k = k' := Fin.ext (by omega)
  exact ⟨rfl, (deposits_of_run (hruns k)).2 i i' hi hi'⟩

theorem creditedOnce_of_length {w : World}
    (h : ∀ paymentId, (w.completionsOf paymentId).length ≤ 1) : w.CreditedOnce :=
  fun paymentId => ⟨h paymentId, depositedOnce_of_length (h paymentId)⟩

/-! ### Steps -/

section Steps

variable {service : PaymentService} {w : World} {attempt : Attempt} {payment : Payment}

theorem completionsOf_step (paymentId : PyStr) :
    (service.step w attempt).completionsOf paymentId = w.completionsOf paymentId ++
      (service.deed w attempt).completions.filter fun data => data.paymentIntentId = paymentId := by
  rw [World.completionsOf, (step_same service w attempt).completions, Deed.completions_on,
    filter_append]
  rfl

theorem found_paymentId {fortune : Fortune} {paymentId : PyStr}
    (h : w.found fortune paymentId = some payment) : payment.paymentId = paymentId := by
  obtain ⟨row, -, hread⟩ := found_row h
  rw [PaymentRow.toPayment, Option.map_eq_some_iff] at hread
  obtain ⟨amount, -, rfl⟩ := hread
  rfl

theorem confirmCompletions_about {fortunes : ℕ → Fortune} {data : PaymentCompletedEvent}
    (h : data ∈ service.confirmCompletions fortunes payment) :
    data.paymentIntentId = payment.paymentId := by
  rw [PaymentService.confirmCompletions] at h
  split at h
  · obtain rfl := mem_singleton.mp h
    rfl
  · cases h

theorem webhookCompletions_about {fortunes : ℕ → Fortune} {intent : IntentData}
    {data : PaymentCompletedEvent} (h : data ∈ service.webhookCompletions fortunes payment intent) :
    data.paymentIntentId = intent.id := by
  rw [PaymentService.webhookCompletions] at h
  split at h
  · obtain ⟨amount, -, rfl⟩ := mem_map.mp h
    rfl
  · cases h

theorem confirmDeed_about {fortunes : ℕ → Fortune} {paymentId : PyStr}
    {completions : Payment → List PaymentCompletedEvent}
    (h : ∀ payment, payment.paymentId = paymentId → ∀ data ∈ completions payment,
      data.paymentIntentId = paymentId) :
    ∀ data ∈ (service.confirmDeed fortunes w paymentId completions).completions,
      data.paymentIntentId = paymentId := by
  rw [PaymentService.confirmDeed]
  split
  · exact forall_mem_nil _
  · next payment hfound =>
      split
      · exact forall_mem_nil _
      · exact h payment (found_paymentId hfound)

theorem completions_about (service : PaymentService) (w : World) (attempt : Attempt) :
    ∃ paymentId, ∀ data ∈ (service.deed w attempt).completions,
      data.paymentIntentId = paymentId := by
  have hnone (deed : Deed) (h : deed.completions = []) :
      ∃ paymentId : PyStr, ∀ data ∈ deed.completions, data.paymentIntentId = paymentId :=
    ⟨[], h ▸ forall_mem_nil _⟩
  have hfail (paymentId failureReason : PyStr) (failureCode : Option PyStr) :
      (PaymentService.failDeed attempt.fortunes w paymentId failureReason failureCode).completions =
        [] := by
    rw [PaymentService.failDeed]
    split
    · rfl
    · split <;> rfl
  rw [PaymentService.deed]
  split
  · refine hnone _ ?_
    rw [PaymentService.createDeed]
    generalize attempt.fortunes (if service.stripe then 3 else 2) = fortune
    split
    · split
      · rfl
      · split <;> rfl
    · rfl
  · refine ⟨_, confirmDeed_about fun payment heq data hdata => ?_⟩
    exact (confirmCompletions_about hdata).trans heq
  · exact hnone _ (hfail _ _ _)
  · refine hnone _ ?_
    rw [PaymentService.refundDeed]
    split
    · rfl
    · split
      · split
        · rfl
        · dsimp only
          split <;> rfl
      · rfl
  · refine hnone _ ?_
    rw [PaymentService.approveDeed]
    split <;> rfl
  · refine ⟨_, confirmDeed_about fun payment heq data hdata => ?_⟩
    rcases mem_append.mp hdata with hdata | hdata
    · exact (confirmCompletions_about hdata).trans heq
    · exact webhookCompletions_about hdata
  · exact hnone _ (hfail _ _ _)
  · exact hnone _ rfl

theorem creditedOnce_step (hw : w.CreditedOnce) (h : PublishesOnce service w attempt) :
    (service.step w attempt).CreditedOnce := by
  refine creditedOnce_of_length fun paymentId => ?_
  obtain ⟨hone, hfirst⟩ := h
  rw [completionsOf_step, length_append]
  have hbefore := (hw paymentId).1
  cases hnew : (service.deed w attempt).completions.filter
      fun data => data.paymentIntentId = paymentId with
  | nil => exact hbefore
  | cons data rest =>
    have hmem : data ∈ (service.deed w attempt).completions.filter
        fun data => data.paymentIntentId = paymentId := by
      rw [hnew]
      exact mem_cons_self
    obtain ⟨hdata, habout⟩ := mem_filter.mp hmem
    have hnone := hfirst data hdata
    rw [of_decide_eq_true habout] at hnone
    have hle := length_filter_le (fun data => decide (data.paymentIntentId = paymentId))
      (service.deed w attempt).completions
    rw [hnew] at hle
    rw [hnone, length_nil]
    omega

theorem not_creditedOnce_step (h : ¬PublishesOnce service w attempt) :
    ¬(service.step w attempt).CreditedOnce := by
  intro hcredited
  obtain ⟨paymentId, habout⟩ := completions_about service w attempt
  have hfilter : ((service.deed w attempt).completions.filter
      fun data => data.paymentIntentId = paymentId) = (service.deed w attempt).completions :=
    filter_eq_self.mpr fun data hdata => decide_eq_true (habout data hdata)
  have hlength := (hcredited paymentId).1
  rw [completionsOf_step, length_append, hfilter] at hlength
  refine h ⟨by omega, fun data hdata => ?_⟩
  have hpos := length_pos_of_mem hdata
  rw [habout data hdata]
  exact eq_nil_of_length_eq_zero (by omega)

end Steps

/-! ### Runs -/

/-- **One payment, one credit.** In every state of a run each payment has been said to be
completed at most once, so that it is deposited at most once, if and only if this is so at the
start and every request gets at most one event out, and that for a payment none has been
published for. -/
theorem creditedOnce_iff (service : PaymentService) (w : World) (attempts : List Attempt) :
    Always service.step World.CreditedOnce w attempts ↔
      w.CreditedOnce ∧ AllSteps service.step (PublishesOnce service) w attempts := by
  have hiff (hw : w.CreditedOnce) : Always service.step World.CreditedOnce w attempts ↔
      AllSteps service.step (PublishesOnce service) w attempts :=
    always_iff_allSteps hw (fun _ h => h) (fun _ _ hw h => creditedOnce_step hw h)
      fun _ _ _ h => not_creditedOnce_step h
  exact ⟨fun h => ⟨h.head, (hiff h.head).mp h⟩, fun h => (hiff h.1).mpr h.2⟩

def webhookOnce : List Attempt :=
  [⟨.createPaymentIntent { amount := ⟨5, by norm_num⟩, userId := "u".toList },
      fun _ => { processorId := "pi".toList }⟩,
    ⟨.stripeWebhook true (.paymentIntentSucceeded
      { id := "pi".toList, userId := "u".toList, amount := 500, currency := "usd".toList }),
      fun _ => {}⟩]

/-- The webhook, delivered once, publishes two events. -/
theorem not_creditedOnce_webhook :
    ¬Always (PaymentService.step ⟨true, true⟩) World.CreditedOnce World.empty webhookOnce := by
  intro h
  have htwo : ((exec (PaymentService.step ⟨true, true⟩) World.empty webhookOnce).completionsOf
      "pi".toList).length = 2 := by
    decide +kernel
  have hone := (Always.exec h "pi".toList).1
  omega

end IsaUser.Payments
