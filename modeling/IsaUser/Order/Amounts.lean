import IsaUser.Order.Creation

/-!
# The Amount of an Order

The amount of an order is put together by `create_order`: a total, which is given or added up from
the items, the tax, which is given or asked for, the shipping, and the discount. The same amount is
stored with the order and requested from the payment service, beside a subtotal, which is given or
added up, and the other parts. A total that is given is taken for one without tax, shipping and
discount.
-/

open IsaUser.Prog

namespace IsaUser.Orders

open Table

/-! ### The law -/

section Law

structure PaymentIntentRequest.Consistent (payment : PaymentIntentRequest) : Prop where
  adds : payment.amount =
    payment.subtotalAmount + payment.taxAmount + payment.shippingAmount - payment.discountAmount
  nonneg : 0 ≤ payment.amount

/-- What a call requests from the payment service, if it does, satisfies `P`. -/
def Requests (P : PaymentIntentRequest → Prop) (call : Call) : Prop :=
  ∀ orderId payment, call = .createPaymentIntent orderId payment → P payment

variable (service : OrderService) (request : OrderCreateRequest) (env : Environment)

/-- **The law.** An order that is stored has the amount of its payment request, and every payment
request that is sent is that one; and its amount is the sum of its parts. -/
def ChargesConsistently (w : World) : Prop :=
  ∀ tax, ((taxAmount service request).run (served env) (w, 0)).1 = .ok tax →
    (∀ i row, w.orders.size ≤ i → (created service request env w).2.orders.get? i = some row →
      row.finalAmount = float (request.paymentRequest tax).amount ∧
        (request.paymentRequest tax).Consistent) ∧
    (createOrder service request).Makes (served env)
      (Requests fun payment => payment = request.paymentRequest tax ∧ payment.Consistent) (w, 0)

/-- The total and the subtotal are the same, be they given or added up from the items, and the
discount is no more than the other parts. -/
def OrderCreateRequest.Agrees (tax : Option ℚ) : Prop :=
  (request.finalAmount.map Subtype.val).getD (calculateTotals request.items) =
      (request.subtotalAmount.map Subtype.val).getD (calculateTotals request.items) ∧
    (request.discountAmount.map Subtype.val).getD 0 ≤
      (request.subtotalAmount.map Subtype.val).getD (calculateTotals request.items) +
        tax.getD 0 + (request.shippingAmount.map Subtype.val).getD 0
  deriving Decidable

def StoresAgreed : Prop :=
  ∀ tax k, taxed service request env = (.ok tax, k) → env.links k ≠ .down → request.Agrees tax

end Law

theorem OrderCreateRequest.consistent_paymentRequest (request : OrderCreateRequest)
    (tax : Option ℚ) : (request.paymentRequest tax).Consistent ↔ request.Agrees tax := by
  have hadds : (request.paymentRequest tax).amount =
        (request.paymentRequest tax).subtotalAmount + (request.paymentRequest tax).taxAmount +
          (request.paymentRequest tax).shippingAmount -
            (request.paymentRequest tax).discountAmount ↔
      (request.finalAmount.map Subtype.val).getD (calculateTotals request.items) =
        request.subtotal := by
    simp only [paymentRequest, final]
    constructor
    · intro h
      linarith
    · intro h
      rw [h]
  constructor
  · intro h
    have hsame := hadds.mp h.adds
    have hnonneg : 0 ≤ request.final tax := h.nonneg
    rw [final, hsame, subtotal] at hnonneg
    exact ⟨hsame, by linarith⟩
  · intro h
    refine ⟨hadds.mpr h.1, ?_⟩
    have hle := h.2
    change 0 ≤ request.final tax
    rw [final, h.1]
    linarith

section Specs

variable {service : OrderService} {request : OrderCreateRequest} {env : Environment}
  {w w' : World} {size n k orderId : ℕ} {amount : Option ℚ} {tax : Option ℚ}

/-! ### What is stored -/

structure Last (size : ℕ) (amount : Option ℚ) (w : World) : Prop where
  size_eq : w.orders.size = size + 1
  row : ∃ row, w.orders.get? size = some row ∧ row.finalAmount = amount

theorem last_insert (row : OrderRow) : Last w.orders.size row.finalAmount (w.insert row) :=
  ⟨size_insert _ _, row, get?_insert_size _ _, rfl⟩

theorem Last.update (h : Last size amount w) (orderId : ℕ) (patch : OrderPatch) :
    Last size amount (w.update orderId patch) := by
  obtain ⟨row, hrow, hamount⟩ := h.row
  refine ⟨(size_modify _ _ _).trans h.size_eq, ?_⟩
  rcases eq_or_ne orderId size with rfl | hne
  · exact ⟨patch.apply row, get?_modify_self hrow _, hamount⟩
  · exact ⟨row, (get?_modify_ne hne _ _).trans hrow, hamount⟩

theorem Last.reserving (h : Last size amount w) : Last size amount (w.reserving env n orderId) := by
  obtain ⟨row, hrow, hamount⟩ := h.row
  exact ⟨by rw [reserving_orders, h.size_eq], row, by rw [reserving_orders, hrow], hamount⟩

theorem Last.charging (h : Last size amount w) :
    Last size amount (w.charging service env n orderId).2 := by
  rw [World.charging]
  split
  · exact h
  · split
    · exact h
    · split
      · exact h
      · split
        · exact h
        · exact h.update _ _

theorem Last.supplying (h : Last size amount w) :
    Last size amount (w.supplying service request env n orderId).2 := by
  rw [World.supplying]
  split
  · split
    · exact h.reserving.charging
    · split
      · exact h.reserving
      · exact h.reserving.update _ _
  · exact h.charging

theorem last_creating (hvalid : validateOrderCreateRequest request = .ok ())
    (htaxed : taxed service request env = (.ok tax, k)) (hlink : env.links k ≠ .down) :
    Last w.orders.size (float (request.paymentRequest tax).amount)
      (w.creating service request env).2 := by
  have hinserted : Last w.orders.size (float (request.paymentRequest tax).amount)
      (w.insert (request.row tax)) := last_insert (request.row tax)
  rw [World.creating, hvalid, htaxed]
  simp only []
  rw [if_neg hlink]
  split
  · exact hinserted.supplying
  · exact hinserted

/-! ### What is requested -/

section Requested

variable {P : Call → Prop} {call : Call} {R : PaymentIntentRequest → Prop}

theorem only_ask (h : P call) : (ask call).Only P := only_query (I := OrderApi) h

theorem only_client (h : P call) : (client call).Only P :=
  Only.tryCatch (Only.bind (only_ask h) fun _ => trivial) fun _ => trivial

theorem only_readReply {α : Type} (reply : Option (Except OrderError (Option α))) :
    (readReply reply).Only P := by
  rcases reply with _ | _ | _ <;> trivial

theorem only_getOrder (h : P (.selectOrder orderId)) : (getOrder orderId).Only P := by
  refine (only_ask h).bind fun row => ?_
  cases row with
  | none => trivial
  | some row =>
    refine Only.bind ?_ fun _ => trivial
    rw [dictToOrder]
    split <;> trivial

theorem only_insertOrder (row : OrderRow) : (insertOrder row).Only (Requests R) :=
  (only_ask nofun).bind fun _ => (only_getOrder nofun).bind fun _ => trivial

theorem only_updateOrder (patch : OrderPatch) : (updateOrder orderId patch).Only (Requests R) := by
  refine (only_ask nofun).bind fun updated => ?_
  cases updated with
  | true => exact only_getOrder nofun
  | false => trivial

theorem only_taxAmount : (taxAmount service request).Only (Requests R) := by
  rw [taxAmount]
  split
  · exact (only_client fun _ _ h => by cases h).bind only_readReply
  · trivial

theorem only_reserveInventory {items : List OrderLineItem} :
    (reserveInventory orderId items).Only (Requests R) :=
  Only.bind (only_client nofun) fun _ => trivial

theorem only_attachPaymentIntent {payment : PaymentIntentRequest} (h : R payment) :
    (attachPaymentIntent service orderId payment).Only (Requests R) := by
  rw [attachPaymentIntent]
  split
  · refine Only.bind ((only_client ?_).bind only_readReply) fun intent => ?_
    · rintro orderId' payment' ⟨⟩
      exact h
    · split
      · trivial
      · exact (only_updateOrder _).bind fun _ => trivial
  · trivial

theorem makes_createValidated (htaxed : taxed service request env = (.ok tax, k)) :
    (createValidated service request).Makes (served env)
      (Requests fun payment => payment = request.paymentRequest tax ∧ env.links k ≠ .down)
      (w, 0) := by
  refine makes_bind.mpr ⟨only_taxAmount.makes, wp_mono taxAmount_wp ?_⟩
  rintro r s ⟨rfl, rfl⟩ tax' htax
  rw [htaxed] at htax
  obtain rfl : tax = tax' := Except.ok.inj htax
  rw [htaxed]
  refine makes_bind.mpr ⟨(only_insertOrder _).makes, ?_⟩
  refine insertOrder_wp (fun hup _ order _ created hcreated => ?_) (fun _ created h => ?_)
    fun _ _ e _ created h => ?_
  · have hlink : env.links k ≠ .down := by
      rw [hup]
      nofun
    have hpaid : ∀ response : OrderResponse,
        (attachPaymentIntent service w.orders.size (request.paymentRequest tax) >>= fun _ =>
          (ret response : OrderM _)).Only
        (Requests fun payment => payment = request.paymentRequest tax ∧ env.links k ≠ .down) :=
      fun _ => (only_attachPaymentIntent ⟨rfl, hlink⟩).bind fun _ => trivial
    cases hcreated
    simp only []
    refine Only.makes ?_
    split
    · refine only_reserveInventory.bind fun reserved => ?_
      split
      · exact (only_updateOrder _).bind fun _ => trivial
      · exact hpaid _
    · exact hpaid _
  · cases h
  · cases h

/-- **What a creation requests** is the payment of the order that it has stored. -/
theorem makes_createOrder (htaxed : taxed service request env = (.ok tax, k)) :
    (createOrder service request).Makes (served env)
      (Requests fun payment => payment = request.paymentRequest tax ∧ env.links k ≠ .down)
      (w, 0) := by
  refine makes_tryCatch.mpr ⟨?_, fun e _ => ?_⟩
  · cases validateOrderCreateRequest request with
    | error e => trivial
    | ok _ => exact makes_createValidated htaxed
  · cases e <;> trivial

end Requested

/-! ### The exact condition -/

theorem created_world : (created service request env w).2 = (w.creating service request env).2 := by
  have hwp : (createOrder service request).wp (served env) _ (w, 0) := createOrder_wp
  obtain ⟨response, -, -, hworld⟩ := hwp
  exact hworld

theorem fst_run_taxAmount :
    ((taxAmount service request).run (served env) (w, 0)).1 = (taxed service request env).1 := by
  have hwp : (taxAmount service request).wp (served env) _ (w, 0) := taxAmount_wp
  exact hwp.1

theorem ChargesConsistently.agrees (h : ChargesConsistently service request env w)
    (hvalid : validateOrderCreateRequest request = .ok ())
    (htaxed : taxed service request env = (.ok tax, k)) (hlink : env.links k ≠ .down) :
    request.Agrees tax := by
  obtain ⟨hstored, -⟩ := h tax (by rw [fst_run_taxAmount, htaxed])
  obtain ⟨row, hrow, -⟩ := (last_creating (w := w) hvalid htaxed hlink).row
  have hconsistent := (hstored _ row le_rfl (by rw [created_world, hrow])).2
  exact (request.consistent_paymentRequest tax).mp hconsistent

/-- **The exact condition.** -/
theorem chargesConsistently_iff (service : OrderService) (request : OrderCreateRequest)
    (env : Environment) (w : World) (hvalid : validateOrderCreateRequest request = .ok ()) :
    ChargesConsistently service request env w ↔ StoresAgreed service request env := by
  constructor
  · exact fun h tax k htaxed hlink => h.agrees hvalid htaxed hlink
  · intro hagreed tax htax
    obtain ⟨k, htaxed⟩ : ∃ k, taxed service request env = (.ok tax, k) :=
      ⟨_, Prod.ext (fst_run_taxAmount.symm.trans htax) rfl⟩
    have hconsistent : env.links k ≠ .down → (request.paymentRequest tax).Consistent :=
      fun hlink => (request.consistent_paymentRequest tax).mpr (hagreed tax k htaxed hlink)
    constructor
    · intro i row hi hrow
      rw [created_world] at hrow
      by_cases hlink : env.links k = .down
      · have hkept : (w.creating service request env).2 = w := by
          rw [World.creating, hvalid, htaxed]
          simp only []
          rw [if_pos hlink]
        rw [hkept] at hrow
        have hlt := lt_size_of_get? hrow
        omega
      · have hlast := last_creating (w := w) hvalid htaxed hlink
        obtain ⟨row', hrow', hamount⟩ := hlast.row
        have hlt := lt_size_of_get? hrow
        rw [hlast.size_eq] at hlt
        obtain rfl : i = w.orders.size := by omega
        obtain rfl : row = row' := Option.some.inj (hrow.symm.trans hrow')
        exact ⟨hamount, hconsistent hlink⟩
    · refine (makes_createOrder htaxed).mono fun call h orderId payment hcall => ?_
      obtain ⟨rfl, hlink⟩ := h orderId payment hcall
      exact ⟨rfl, hconsistent hlink⟩

def quoted : OrderCreateRequest :=
  { userId := "u".toList, orderType := .purchase, totalAmount := 10
    subtotalAmount := some ⟨9, by norm_num⟩, shippingAmount := some ⟨1, by norm_num⟩
    finalAmount := some ⟨10, tenDollars_nonneg⟩, total_pos := tenDollars_pos }

def plain : OrderCreateRequest :=
  { userId := "u".toList, orderType := .purchase, totalAmount := 10
    subtotalAmount := some ⟨10, tenDollars_nonneg⟩, finalAmount := some ⟨10, tenDollars_nonneg⟩
    total_pos := tenDollars_pos }

theorem chargesConsistently_plain : ChargesConsistently supplied plain detached emptyWorld := by
  refine (chargesConsistently_iff supplied plain detached emptyWorld rfl).mpr ?_
  rintro tax k ⟨⟩ -
  decide +kernel

/-- The shipping is charged twice. -/
theorem not_chargesConsistently_quoted :
    ¬∀ (service : OrderService) (request : OrderCreateRequest) (env : Environment) (w : World),
      validateOrderCreateRequest request = .ok () →
        ChargesConsistently service request env w := by
  intro h
  have hagrees := (h supplied quoted detached emptyWorld rfl).agrees rfl rfl (by decide)
  have hsame : (10 : ℚ) = 9 := hagrees.1
  norm_num at hsame

end Specs

end IsaUser.Orders
