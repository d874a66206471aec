import IsaUser.Order.Handlers

/-!
# What Requests Do to Orders

Every request changes at most one order, in a way that its surroundings and the world before it
decide. This module says so, method by method: `World.completing`, `World.cancelling` and the
others are the worlds after a request as functions of the world before it. What the fulfillment
columns hold, what is reserved and which events are remembered is left open (`World.Same`).
-/

open IsaUser.Prog Option

namespace IsaUser.Orders

open World

/-! ### Worlds that agree -/

def OrderRow.core (row : OrderRow) : OrderRow :=
  { row with fulfillmentStatus := .pending, trackingNumber := none }

/-- The worlds agree on the orders, up to their fulfillment columns, and on the requests that
have been sent. -/
structure World.Same (w w' : World) : Prop where
  sent : w'.sent = w.sent
  orders : ∀ i, (w'.orders.get? i).map OrderRow.core = (w.orders.get? i).map OrderRow.core

theorem World.Same.refl (w : World) : w.Same w := ⟨rfl, fun _ => rfl⟩

theorem World.Same.trans {w w' w'' : World} (h : w.Same w') (h' : w'.Same w'') : w.Same w'' :=
  ⟨h'.sent.trans h.sent, fun i => (h'.orders i).trans (h.orders i)⟩

theorem World.Same.row {w w' : World} (h : w.Same w') {i : ℕ} {row' : OrderRow}
    (hrow : w'.orders.get? i = some row') :
    ∃ row, w.orders.get? i = some row ∧ row.core = row'.core := by
  have heq := h.orders i
  rw [hrow] at heq
  exact map_eq_some_iff.mp heq.symm

theorem columns_of_core {row row' : OrderRow} (h : row.core = row'.core) :
    row.orderType = row'.orderType ∧ row.status = row'.status ∧
      row.paymentStatus = row'.paymentStatus ∧ row.finalAmount = row'.finalAmount := by
  simp only [OrderRow.core, OrderRow.mk.injEq] at h
  obtain ⟨-, htype, hstatus, -, -, -, -, hfinal, hpayment, -⟩ := h
  exact ⟨htype, hstatus, hpayment, hfinal⟩

theorem World.Same.symm {w w' : World} (h : w.Same w') : w'.Same w :=
  ⟨h.sent.symm, fun i => (h.orders i).symm⟩

/-! ### Calls -/

def Call.Plain : Call → Bool
  | postToWallet _ => false
  | isEventProcessed _ => false
  | markEventProcessed _ => false
  | _ => true

section Calls

variable {env : Environment} {call : Call} {w : World} {n : ℕ} {α : Type}
  {f : OrderApi.Reply call → OrderM α}

theorem served_plain (hplain : call.Plain = true) (s : World × ℕ) :
    served env call s = overLinks env.links .connectionError (serve env) call s := by
  cases call <;> first | rfl | cases hplain

theorem ask_wp {Q : Except OrderError (OrderApi.Reply call) → World × ℕ → Prop}
    (hplain : call.Plain = true)
    (hup : env.links n = .up →
      Q (.ok (serve env call w).1) ((serve env call w).2, n + 1))
    (hdown : env.links n = .down → Q (.error .connectionError) (w, n + 1))
    (hlost : env.links n = .lost → Q (.error .connectionError)
      ((serve env call w).2, n + 1)) : (ask call).wp (served env) Q (w, n) := by
  refine wp_query.mpr ?_
  rw [served_plain hplain]
  exact wp_query.mp (wp_query_overLinks hup hdown hlost)

theorem ask_read_wp {Q : Except OrderError (OrderApi.Reply call) → World × ℕ → Prop}
    (hplain : call.Plain = true) (hread : (serve env call w).2 = w)
    (hup : env.links n = .up → Q (.ok (serve env call w).1) (w, n + 1))
    (herror : env.links n ≠ .up → Q (.error .connectionError) (w, n + 1)) :
    (ask call).wp (served env) Q (w, n) := by
  refine ask_wp hplain (fun h => ?_) (fun h => herror (by simp [h])) fun h => ?_
  · rw [hread]
    exact hup h
  · rw [hread]
    exact herror (by simp [h])

theorem client_wp {Q : Except OrderError (Option (OrderApi.Reply call)) → World × ℕ → Prop}
    (hplain : call.Plain = true)
    (hup : env.links n = .up → Q (.ok (some (serve env call w).1))
      ((serve env call w).2, n + 1))
    (hdown : env.links n = .down → Q (.ok none) (w, n + 1))
    (hlost : env.links n = .lost → Q (.ok none) ((serve env call w).2, n + 1)) :
    (client call).wp (served env) Q (w, n) :=
  wp_tryCatch.mpr (wp_bind.mpr (ask_wp hplain hup hdown hlost))

theorem readReply_wp {β : Type} {reply : Option (Except OrderError (Option β))}
    {Q : Except OrderError (Option β) → World × ℕ → Prop} {s : World × ℕ}
    (h : Q (reply.getD (.ok none)) s) : (readReply reply).wp (served env) Q s := by
  rcases reply with _ | _ | _ <;> exact h

theorem post_wp {request : WalletRequest}
    {Q : Except OrderError (Option Unit) → World × ℕ → Prop}
    (h : ∀ reply, Q (.ok reply) (w.send ⟨request, env.links n ≠ .down⟩, n + 1)) :
    (client (.postToWallet request)).wp (served env) Q (w, n) := by
  refine wp_tryCatch.mpr (wp_bind.mpr (wp_query.mpr ?_))
  simp only [served]
  cases hlink : env.links n with
  | up =>
    rw [hlink] at h
    exact h (some ())
  | down =>
    rw [hlink] at h
    exact h none
  | lost =>
    rw [hlink] at h
    exact h none

theorem addCreditsToWallet_wp {userId walletId : PyStr} {amount : ℚ} {orderId : ℕ}
    {Q : Except OrderError Unit → World × ℕ → Prop}
    (h : Q (.ok ()) (w.send
      ⟨{ userId, walletId, amount, orderId, transactionType := .deposit }, env.links n ≠ .down⟩,
      n + 1)) : (addCreditsToWallet userId walletId amount orderId).wp (served env) Q (w, n) :=
  wp_bind.mpr (post_wp fun _ => h)

end Calls

/-! ### The repository -/

theorem toOrder_apply (patch : OrderPatch) (row : OrderRow) :
    (patch.apply row).toOrder.isSome = row.toOrder.isSome := by
  simp only [OrderRow.toOrder, OrderPatch.apply]
  cases row.totalAmount.map shortest <;> cases readAmount row.taxAmount <;>
    cases readAmount row.discountAmount <;> cases readAmount row.finalAmount <;> rfl

/-- What `get_order` finds, by the call of number `n`. -/
def World.found (env : Environment) (n : ℕ) (orderId : ℕ) (w : World) : Option Order :=
  if env.links n = .up then (w.orders.get? orderId).bind OrderRow.toOrder else none

section Repository

variable {env : Environment} {w : World} {n orderId : ℕ}

theorem getOrder_wp {Q : Except OrderError (Option Order) → World × ℕ → Prop}
    (hsome : ∀ order, w.found env n orderId = some order → Q (.ok (some order)) (w, n + 1))
    (hnone : w.found env n orderId = none → w.orders.get? orderId = none →
      Q (.ok none) (w, n + 1))
    (herror : ∀ e, w.found env n orderId = none → Q (.error e) (w, n + 1)) :
    (getOrder orderId).wp (served env) Q (w, n) := by
  refine wp_bind.mpr (ask_read_wp rfl rfl (fun hup => ?_) fun hlink => ?_)
  · rw [found, if_pos hup] at hsome herror
    cases hrow : w.orders.get? orderId with
    | none =>
      simp only [serve, hrow]
      refine hnone ?_ hrow
      rw [found, if_pos hup, hrow, bind_none]
    | some row =>
      rw [hrow] at hsome herror
      simp only [serve, hrow]
      rw [dictToOrder]
      cases horder : row.toOrder with
      | none => exact herror _ horder
      | some order => exact hsome order horder
  · refine herror _ ?_
    rw [found, if_neg hlink]

theorem updateOrder_wp {Q : Except OrderError (Option Order) → World × ℕ → Prop}
    {patch : OrderPatch} {row : OrderRow} (hrow : w.orders.get? orderId = some row)
    (horder : row.toOrder.isSome)
    (hok : env.links n = .up → env.links (n + 1) = .up → ∀ order,
      Q (.ok (some order)) (w.update orderId patch, n + 2))
    (hdown : env.links n = .down → Q (.error .connectionError) (w, n + 1))
    (hfail : env.links n ≠ .down → ¬(env.links n = .up ∧ env.links (n + 1) = .up) →
      ∀ e m, Q (.error e) (w.update orderId patch, m)) :
    (updateOrder orderId patch).wp (served env) Q (w, n) := by
  have hstored : (w.update orderId patch).orders.get? orderId = some (patch.apply row) :=
    Table.get?_modify_self hrow _
  have hserve : serve env (.updateOrder orderId patch) w
      = (true, w.update orderId patch) := by
    rw [serve, hrow]
    rfl
  refine wp_bind.mpr (ask_wp rfl (fun hup => ?_) hdown fun hlost => ?_)
  · rw [hserve]
    have hexecuted : env.links n ≠ .down := by simp [hup]
    rw [← toOrder_apply patch] at horder
    obtain ⟨order, horder⟩ := isSome_iff_exists.mp horder
    refine getOrder_wp (fun order' h => ?_) (fun _ h => ?_) fun e h => ?_
    · rw [found] at h
      split at h
      · next hlink => exact hok hup hlink order'
      · cases h
    · rw [hstored] at h
      cases h
    · refine hfail hexecuted (fun hlinks => ?_) e _
      rw [found, if_pos hlinks.2, hstored, bind_some, horder] at h
      cases h
  · exact hfail (by simp [hlost]) (by simp [hlost]) _ _

end Repository

/-! ### Completion -/

def World.sending (request : Option SentRequest) (w : World) : World :=
  match request with
  | none => w
  | some request => w.send request

/-- `complete_order`, whose first call has the number `n`, writes that the order is completed. -/
def World.Completes (env : Environment) (n orderId : ℕ) (request : OrderCompleteRequest)
    (w : World) : Prop :=
  (w.found env n orderId).isSome ∧ request.paymentConfirmed ∧ env.links (n + 1) ≠ .down

instance {env : Environment} {n orderId : ℕ} {request : OrderCompleteRequest} {w : World} :
    Decidable (w.Completes env n orderId request) := inferInstanceAs (Decidable (_ ∧ _))

/-- The deposit that `complete_order` requests. -/
def World.deposit (env : Environment) (n orderId : ℕ) (request : OrderCompleteRequest)
    (w : World) : Option SentRequest :=
  if request.paymentConfirmed ∧ env.links (n + 1) = .up ∧ env.links (n + 2) = .up then
    (w.found env n orderId).bind fun order => (order.credits request).map fun credits =>
      { request :=
          { userId := order.userId, walletId := credits.1, amount := credits.2, orderId
            transactionType := .deposit }
        received := env.links (n + 3) ≠ .down }
  else none

/-- The world after `complete_order`. -/
def World.completing (env : Environment) (n orderId : ℕ) (request : OrderCompleteRequest)
    (w : World) : World :=
  sending (w.deposit env n orderId request)
    (if w.Completes env n orderId request then w.update orderId (completion request.transactionId)
      else w)

section Completion

variable {env : Environment} {w : World} {n orderId : ℕ}

theorem found_stored {order : Order} (h : w.found env n orderId = some order) :
    ∃ row, w.orders.get? orderId = some row ∧ row.toOrder = some order := by
  rw [found] at h
  split at h
  · exact bind_eq_some_iff.mp h
  · cases h

theorem completing_of_not {request : OrderCompleteRequest}
    (h : ¬w.Completes env n orderId request) : w.completing env n orderId request = w := by
  have hdeposit : w.deposit env n orderId request = none := by
    rw [deposit]
    split
    · next hlinks =>
        cases hfound : w.found env n orderId with
        | none => rfl
        | some order =>
          exact absurd ⟨by rw [hfound, isSome_some], hlinks.1, by simp [hlinks.2.1]⟩ h
    · rfl
  rw [completing, hdeposit, if_neg h, sending]

/-- **What `complete_order` does.** -/
theorem complete_wp {request : OrderCompleteRequest} :
    (complete orderId request).wp (served env)
      (fun r s => (∃ response, r = .ok response) ∧ s.1 = w.completing env n orderId request)
      (w, n) := by
  have hkept : ∀ response, ¬w.Completes env n orderId request →
      (∃ response', (Except.ok response : Except OrderError OrderResponse) = .ok response') ∧
        w = w.completing env n orderId request := fun response h =>
    ⟨⟨_, rfl⟩, (completing_of_not h).symm⟩
  have hmissing : w.found env n orderId = none → ¬w.Completes env n orderId request := by
    intro h hcompletes
    rw [Completes, h] at hcompletes
    cases hcompletes.1
  refine wp_tryCatch.mpr (wp_bind.mpr (getOrder_wp (fun order hfound => ?_)
    (fun h _ => hkept _ (hmissing h)) fun e h => hkept _ (hmissing h)))
  by_cases hconfirmed : request.paymentConfirmed
  · simp only [hconfirmed]
    obtain ⟨row, hrow, horder⟩ := found_stored hfound
    have hcompletes : env.links (n + 1) ≠ .down → w.Completes env n orderId request :=
      fun h => ⟨by rw [hfound, isSome_some], hconfirmed, h⟩
    refine wp_bind.mpr (wp_bind.mpr (updateOrder_wp hrow (by simp [horder])
      (fun hup hup' order' => ?_) (fun hdown => ?_) fun hlink hfail e m => ?_))
    · rw [completing, if_pos (hcompletes (by simp [hup])), deposit,
        if_pos ⟨hconfirmed, hup, hup'⟩, hfound, bind_some]
      cases hcredits : order.credits request with
      | none =>
        exact ⟨⟨_, rfl⟩, rfl⟩
      | some credits =>
        simp only [pure_eq, wp_ret]
        exact wp_bind.mpr (addCreditsToWallet_wp ⟨⟨_, rfl⟩, rfl⟩)
    · exact hkept _ fun h => h.2.2 hdown
    · rw [completing, if_pos (hcompletes hlink), deposit,
        if_neg fun h => hfail h.2]
      exact ⟨⟨_, rfl⟩, rfl⟩
  · simp only [hconfirmed]
    exact hkept _ fun h => hconfirmed h.2.1

end Completion

/-! ### Cancellation -/

/-- `cancel_order`, whose first call has the number `n`, writes that the order is cancelled. -/
def World.Cancels (env : Environment) (n orderId : ℕ) (w : World) : Prop :=
  (∃ order ∈ w.found env n orderId, ¬order.status.final) ∧ env.links (n + 1) ≠ .down
  deriving Decidable

def Order.refund (orderId : ℕ) (request : OrderCancelRequest) (order : Order) :
    Option WalletRequest := do
  let amount ← request.refundAmount.filter fun amount => 0 < amount
  let walletId ← given order.walletId
  return { userId := order.userId, walletId, amount, orderId, transactionType := .refund }

/-- The refund that `cancel_order` requests. -/
def World.refund (env : Environment) (n orderId : ℕ) (request : OrderCancelRequest) (w : World) :
    Option SentRequest :=
  if env.links (n + 1) = .up ∧ env.links (n + 2) = .up then
    ((w.found env n orderId).filter fun order => ¬order.status.final).bind fun order =>
      (order.refund orderId request).map fun refund => ⟨refund, env.links (n + 3) ≠ .down⟩
  else none

/-- The patch of `cancel_order`. -/
def cancellation : OrderPatch := { status := some .cancelled }

/-- The world after `cancel_order`. -/
def World.cancelling (env : Environment) (n orderId : ℕ) (request : OrderCancelRequest)
    (w : World) : World :=
  sending (w.refund env n orderId request)
    (if w.Cancels env n orderId then w.update orderId cancellation else w)

section Cancellation

variable {env : Environment} {w : World} {n orderId : ℕ} {request : OrderCancelRequest}

theorem cancelling_of_not (h : ¬w.Cancels env n orderId) :
    w.cancelling env n orderId request = w := by
  have hrefund : w.refund env n orderId request = none := by
    rw [refund]
    split
    · next hlinks =>
        cases hfound : (w.found env n orderId).filter fun order => ¬order.status.final with
        | none => rfl
        | some order =>
          obtain ⟨hfound, hfinal⟩ := filter_eq_some_iff.mp hfound
          exact absurd ⟨⟨order, hfound, by simpa using hfinal⟩, by simp [hlinks.1]⟩ h
    · rfl
  rw [cancelling, hrefund, if_neg h, sending]

theorem refundCancelled_wp {order : Order} {Q : Except OrderError Unit → World × ℕ → Prop}
    (h : ∀ m, Q (.ok ()) (w.sending ((order.refund orderId request).map fun refund =>
      ⟨refund, env.links n ≠ .down⟩), m)) :
    (refundCancelled orderId order request).wp (served env) Q (w, n) := by
  rw [Order.refund] at h
  rw [refundCancelled]
  cases hamount : request.refundAmount with
  | none =>
    rw [hamount] at h
    exact h n
  | some amount =>
    rw [hamount] at h
    simp only [filter_some, decide_eq_true_eq, bind_eq_bind] at h ⊢
    split
    · next hpos =>
        rw [if_pos hpos] at h
        rw [processRefund]
        cases hwallet : given order.walletId with
        | none =>
          rw [hwallet] at h
          exact h n
        | some walletId =>
          rw [hwallet] at h
          exact wp_bind.mpr (post_wp fun _ => h (n + 1))
    · next hpos =>
        rw [if_neg hpos] at h
        exact h n

/-- **What `cancel_order` does.** -/
theorem cancel_wp :
    (cancel orderId request).wp (served env)
      (fun r s => (∃ response, r = .ok response) ∧ s.1 = w.cancelling env n orderId request)
      (w, n) := by
  have hkept : ∀ response, ¬w.Cancels env n orderId →
      (∃ response', (Except.ok response : Except OrderError OrderResponse) = .ok response') ∧
        w = w.cancelling env n orderId request := fun response h =>
    ⟨⟨_, rfl⟩, (cancelling_of_not h).symm⟩
  have hmissing : w.found env n orderId = none → ¬w.Cancels env n orderId := by
    rintro h ⟨⟨order, horder, -⟩, -⟩
    rw [h] at horder
    cases horder
  refine wp_tryCatch.mpr (wp_bind.mpr (getOrder_wp (fun order hfound => ?_)
    (fun h _ => hkept _ (hmissing h)) fun e h => hkept _ (hmissing h)))
  by_cases hfinal : order.status.final
  · simp only [hfinal]
    refine hkept _ ?_
    rintro ⟨⟨order', horder', hfinal'⟩, -⟩
    obtain rfl : order = order' := some.inj (hfound.symm.trans horder')
    exact hfinal' hfinal
  · simp only [hfinal]
    obtain ⟨row, hrow, horder⟩ := found_stored hfound
    have hcancels : env.links (n + 1) ≠ .down → w.Cancels env n orderId :=
      fun h => ⟨⟨order, hfound, hfinal⟩, h⟩
    refine wp_bind.mpr (wp_bind.mpr (updateOrder_wp hrow (by simp [horder])
      (fun hup hup' order' => ?_) (fun hdown => ?_) fun hlink hfail e m => ?_))
    · have hfilter : (w.found env n orderId).filter (fun order => ¬order.status.final)
          = some order := by
        rw [hfound, filter_some, if_pos (by simpa using hfinal)]
      rw [cancelling, if_pos (hcancels (by simp [hup])), refund, if_pos ⟨hup, hup'⟩,
        hfilter]
      simp only [pure_eq, wp_ret]
      exact wp_bind.mpr (refundCancelled_wp fun m => ⟨⟨_, rfl⟩, rfl⟩)
    · exact hkept _ fun h => h.2 hdown
    · rw [cancelling, if_pos (hcancels hlink), refund, if_neg hfail]
      exact ⟨⟨_, rfl⟩, rfl⟩

end Cancellation

end IsaUser.Orders
