import IsaUser.Lib.Runs
import IsaUser.Order.Deliveries

/-!
# The Status of an Order

Five writers set the status of an order, and only `cancel_order` looks at the one that it has.
`complete_order` completes an order of any status, so a late `payment.completed` completes an
order that has been cancelled or refunded; and a late `payment.failed` marks an order as failed
that has been completed.
-/

open Option

namespace IsaUser.Orders

/-! ### The law -/

def OrderStatus.Ended (status : OrderStatus) : Prop :=
  status = .cancelled ∨ status = .refunded ∨ status = .failed
  deriving Decidable

def World.status (w : World) (orderId : ℕ) : Option OrderStatus :=
  (w.orders.get? orderId).map OrderRow.status

variable (service : OrderService)

def KeepsCompleted (w : World) (attempt : Attempt) : Prop :=
  ∀ i, w.status i = some .completed →
    (service.step w attempt).status i = some .completed ∨
      (service.step w attempt).status i = some .refunded

/-- **The law** for a run of requests. -/
structure TerminalStatus (w : World) (attempts : List Attempt) : Prop where
  /-- An order that has been cancelled, refunded or failed is never completed afterwards. -/
  ended : ∀ before during after, attempts = before ++ during ++ after → ∀ i status,
    (exec service.step w before).status i = some status → status.Ended →
      (exec service.step w (before ++ during)).status i ≠ some .completed
  /-- A completed order becomes nothing but refunded. -/
  completed : AllSteps service.step (KeepsCompleted service) w attempts

/-- A completion that is written finds an order that has not ended, and the failure of a payment
one that is not completed. -/
def InTime (w : World) (attempt : Attempt) : Prop :=
  match service.deed w attempt with
  | .complete orderId _ _ => ∀ status, w.status orderId = some status → ¬status.Ended
  | .failPayment orderId => w.status orderId ≠ some .completed
  | _ => True

section Proofs

variable {service} {w w' : World} {attempt : Attempt} {i orderId : ℕ} {status : OrderStatus}
  {attempts : List Attempt}

/-! ### One step -/

theorem World.Same.status_eq (h : w.Same w') (i : ℕ) : w'.status i = w.status i := by
  have hstatus : OrderRow.status = OrderRow.status ∘ OrderRow.core := rfl
  rw [World.status, World.status, hstatus, ← map_map, ← map_map, h.orders]

@[simp] theorem sending_status (request : Option SentRequest) :
    (World.sending request w).status i = w.status i := by
  cases request <;> rfl

theorem update_status (orderId : ℕ) (patch : OrderPatch) :
    (w.update orderId patch).status i =
      if orderId = i then (w.status i).map fun status => patch.status.getD status
      else w.status i := by
  rw [World.status, World.update, Table.get?_modify]
  split
  · rw [World.status, map_map, map_map]
    rfl
  · rfl

theorem update_status_self {patch : OrderPatch} {status' : OrderStatus}
    (hpatch : patch.status = some status') (h : w.status orderId = some status) :
    (w.update orderId patch).status orderId = some status' := by
  rw [update_status, if_pos rfl, h, map_some, hpatch, getD_some]

theorem update_status_ne {patch : OrderPatch} (h : orderId ≠ i) :
    (w.update orderId patch).status i = w.status i := by
  rw [update_status, if_neg h]

theorem insert_status {row : OrderRow} (h : w.status i = some status) :
    (w.insert row).status i = some status := by
  obtain ⟨row', hrow, hstatus⟩ := map_eq_some_iff.mp h
  rw [World.status, World.insert, Table.get?_insert_of_some hrow, map_some, hstatus]

inductive Moves (i : ℕ) (status : OrderStatus) : Deed → OrderStatus → Prop where
  | spared {deed} (h : deed.subject ≠ some i) : Moves i status deed status
  | cancelled {refund} (h : ¬status.final) : Moves i status (.cancel i refund) .cancelled
  | completed {transactionId deposit} :
      Moves i status (.complete i transactionId deposit) .completed
  | failed : Moves i status (.failPayment i) .failed
  | refunded : Moves i status (.refundPayment i) .refunded

theorem Deed.Sound.moves {deed : Deed} (hsound : deed.Sound w) (h : w.status i = some status) :
    ∃ status', (deed.on w).status i = some status' ∧ Moves i status deed status' := by
  cases deed with
  | keep => exact ⟨status, h, .spared nofun⟩
  | insert row => exact ⟨status, insert_status h, .spared nofun⟩
  | cancel orderId refund =>
    rcases eq_or_ne orderId i with rfl | hne
    · obtain ⟨row, hrow, hfinal, -⟩ := hsound
      have hstatus : row.status = status := by
        rw [World.status, hrow] at h
        exact some.inj h
      rw [hstatus] at hfinal
      refine ⟨.cancelled, ?_, .cancelled hfinal⟩
      rw [Deed.on, sending_status, update_status_self rfl h]
    · refine ⟨status, ?_, .spared fun heq => hne (some.inj heq)⟩
      rw [Deed.on, sending_status, update_status_ne hne, h]
  | complete orderId transactionId deposit =>
    rcases eq_or_ne orderId i with rfl | hne
    · refine ⟨.completed, ?_, .completed⟩
      rw [Deed.on, sending_status, update_status_self rfl h]
    · refine ⟨status, ?_, .spared fun heq => hne (some.inj heq)⟩
      rw [Deed.on, sending_status, update_status_ne hne, h]
  | failPayment orderId =>
    rcases eq_or_ne orderId i with rfl | hne
    · exact ⟨.failed, update_status_self rfl h, .failed⟩
    · refine ⟨status, ?_, .spared fun heq => hne (some.inj heq)⟩
      rw [Deed.on, update_status_ne hne, h]
  | refundPayment orderId =>
    rcases eq_or_ne orderId i with rfl | hne
    · exact ⟨.refunded, update_status_self rfl h, .refunded⟩
    · refine ⟨status, ?_, .spared fun heq => hne (some.inj heq)⟩
      rw [Deed.on, update_status_ne hne, h]

/-- **What a request does to the status of an order.** -/
theorem step_moves (service : OrderService) (attempt : Attempt) (h : w.status i = some status) :
    ∃ status', (service.step w attempt).status i = some status' ∧
      Moves i status (service.deed w attempt) status' := by
  obtain ⟨status', hstatus', hmoves⟩ := (deed_sound service w attempt).moves h
  refine ⟨status', ?_, hmoves⟩
  rw [(step_same service w attempt).status_eq, hstatus']

/-! ### Runs -/

theorem keepsCompleted_of_inTime (h : InTime service w attempt) :
    KeepsCompleted service w attempt := by
  intro i hi
  obtain ⟨status', hstatus', hmoves⟩ := step_moves service attempt hi
  rw [hstatus']
  rw [InTime] at h
  generalize service.deed w attempt = deed at hmoves h
  cases hmoves with
  | spared => exact .inl rfl
  | cancelled hfinal => exact absurd (.inl rfl) hfinal
  | completed => exact .inl rfl
  | failed => exact absurd hi h
  | refunded => exact .inr rfl

theorem ended_of_inTime (h : InTime service w attempt)
    (hended : ∃ status, w.status i = some status ∧ status.Ended) :
    ∃ status, (service.step w attempt).status i = some status ∧ status.Ended := by
  obtain ⟨status, hi, hended⟩ := hended
  obtain ⟨status', hstatus', hmoves⟩ := step_moves service attempt hi
  refine ⟨status', hstatus', ?_⟩
  rw [InTime] at h
  generalize service.deed w attempt = deed at hmoves h
  cases hmoves with
  | spared => exact hended
  | cancelled => exact .inl rfl
  | completed => exact absurd hended (h status hi)
  | failed => exact .inr (.inr rfl)
  | refunded => exact .inr (.inl rfl)

theorem inTime_of_outcome
    (hended : ∀ i status, w.status i = some status → status.Ended →
      (service.step w attempt).status i ≠ some .completed)
    (hcompleted : KeepsCompleted service w attempt) : InTime service w attempt := by
  have hstep : ∀ i status, w.status i = some status → ∃ status',
      (service.step w attempt).status i = some status' ∧
        Moves i status (service.deed w attempt) status' :=
    fun i status => step_moves service attempt
  rw [InTime]
  generalize service.deed w attempt = deed at hstep
  cases deed with
  | complete orderId transactionId deposit =>
    intro status hi hended'
    obtain ⟨status', hstatus', hmoves⟩ := hstep orderId status hi
    cases hmoves with
    | spared h => exact h rfl
    | completed => exact hended orderId status hi hended' hstatus'
  | failPayment orderId =>
    intro hi
    obtain ⟨status', hstatus', hmoves⟩ := hstep orderId .completed hi
    cases hmoves with
    | spared h => exact h rfl
    | failed =>
      rcases hcompleted orderId hi with h | h
      · exact absurd (hstatus'.symm.trans h) nofun
      · exact absurd (hstatus'.symm.trans h) nofun
  | _ => trivial

/-- **The exact condition.** -/
theorem terminalStatus_iff (service : OrderService) (w : World) (attempts : List Attempt) :
    TerminalStatus service w attempts ↔ AllSteps service.step (InTime service) w attempts := by
  constructor
  · intro h
    refine allSteps_of_forall fun before attempt after heq => inTime_of_outcome ?_ ?_
    · intro i status hi hended
      have hnever := h.ended before [attempt] after (by simp [heq]) i status hi hended
      rwa [exec_append] at hnever
    · have hsteps := h.completed
      rw [heq] at hsteps
      exact (allSteps_append.mp hsteps).2.1
  · intro h
    refine ⟨?_, h.mono fun w attempt => keepsCompleted_of_inTime⟩
    intro before during after heq i status hi hended
    rw [heq] at h
    have hduring := (allSteps_append.mp (allSteps_append.mp h).1).2
    have hstays := exec_invariant (J := fun w => ∃ status, w.status i = some status ∧ status.Ended)
      ⟨status, hi, hended⟩ hduring fun w attempt hw hin => ended_of_inTime hin hw
    obtain ⟨status', hstatus', hended'⟩ := hstays
    rw [exec_append, hstatus']
    intro hcompleted
    obtain rfl := some.inj hcompleted
    rcases hended' with h | h | h <;> cases h

def purchase : OrderCreateRequest :=
  { userId := "u".toList, orderType := .purchase, totalAmount := 10
    paymentIntentId := some "pi".toList, total_pos := tenDollars_pos }

def alone : OrderService :=
  { coercions := ⟨fun _ => none, fun _ => none, fun _ => none⟩, inventoryClient := false
    taxClient := false, paymentClient := false, fulfillmentClient := false }

def paidLate : List Attempt :=
  [⟨.create purchase, { links := fun _ => .up }⟩,
    ⟨.cancel 0 {}, { links := fun _ => .up }⟩,
    ⟨.paymentCompleted { eventId := some "e".toList, paymentIntentId := some "pi".toList },
      { links := fun _ => .up }⟩]

/-- The law fails on its own: the cancelled order is completed. -/
theorem not_terminalStatus_paidLate : ¬TerminalStatus alone emptyWorld paidLate := by
  intro h
  have hcancelled : (exec alone.step emptyWorld (paidLate.take 2)).status 0 = some .cancelled := by
    decide +kernel
  have hcompleted : (exec alone.step emptyWorld paidLate).status 0 = some .completed := by
    decide +kernel
  exact h.ended (paidLate.take 2) (paidLate.drop 2) [] rfl 0 .cancelled hcancelled (.inl rfl)
    hcompleted

end Proofs

end IsaUser.Orders
