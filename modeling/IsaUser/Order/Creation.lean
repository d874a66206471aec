import IsaUser.Order.Effects

/-!
# Failed Creations

A creation inserts the order before it has asked for everything else. What it does when a later
step fails depends on the step: only a reservation that the inventory service refuses marks the
order as failed, and nothing ever releases a reservation.
-/

open IsaUser.Prog

namespace IsaUser.Orders

open Table World

/-! ### What a creation does -/

section Creating

variable (service : OrderService) (request : OrderCreateRequest) (env : Environment)

def taxed : Except OrderError (Option ℚ) × ℕ :=
  match request.taxAmount, service.taxClient, request.shippingAddress with
  | none, true, some _ => (if env.links 0 = .up then env.totalTax else .ok none, 1)
  | given, _, _ => (.ok (given.map Subtype.val), 0)

def Reserves : Prop :=
  service.inventoryClient ∧ request.items.filter OrderLineItem.shippable ≠ []
  deriving Decidable

def attachment (paymentIntentId : PyStr) : OrderPatch :=
  { paymentIntentId := some paymentIntentId }

/-- What the payment service answers to the call of number `k`. -/
def paymentReply (k : ℕ) : Except OrderError (Option PyStr) :=
  if env.links k = .up then env.paymentIntent else .ok none

/-- The payment intent, whose first call has the number `k`: the creation succeeds or not, and
the world after it. -/
def World.charging (k orderId : ℕ) (w : World) : Bool × World :=
  if ¬service.paymentClient then (true, w)
  else
    match paymentReply env k with
    | .error _ => (false, w)
    | .ok intent =>
      match given intent with
      | none => (true, w)
      | some paymentIntentId =>
        if env.links (k + 1) = .down then (false, w)
        else (env.links (k + 1) = .up ∧ env.links (k + 2) = .up,
          w.update orderId (attachment paymentIntentId))

/-- The reservation of the call of number `k`. -/
def World.reserving (k orderId : ℕ) (w : World) : World :=
  if env.links k ≠ .down ∧ env.reservation then { w with reserved := w.reserved ++ [orderId] }
  else w

def rejection : OrderPatch := { status := some .failed }

def World.supplying (k orderId : ℕ) (w : World) : Bool × World :=
  if Reserves service request then
    if env.links k = .up ∧ env.reservation then
      (w.reserving env k orderId).charging service env (k + 1) orderId
    else (false, if env.links (k + 1) = .down then w.reserving env k orderId
      else (w.reserving env k orderId).update orderId rejection)
  else w.charging service env k orderId

/-- **A creation**: it succeeds or not, and the world after it. -/
def World.creating (w : World) : Bool × World :=
  match validateOrderCreateRequest request, taxed service request env with
  | .ok _, (.ok tax, k) =>
    if env.links k = .down then (false, w)
    else if env.links k = .up ∧ env.links (k + 1) = .up ∧ (request.row tax).toOrder.isSome then
      (w.insert (request.row tax)).supplying service request env (k + 2) w.orders.size
    else (false, w.insert (request.row tax))
  | _, _ => (false, w)

end Creating

section Specs

variable {service : OrderService} {request : OrderCreateRequest} {env : Environment} {w : World}
  {n orderId : ℕ} {payment : PaymentIntentRequest}

theorem taxAmount_wp :
    (taxAmount service request).wp (served env)
      (fun r s => r = (taxed service request env).1 ∧ s = (w, (taxed service request env).2))
      (w, 0) := by
  rw [taxAmount, taxed]
  cases request.taxAmount with
  | some given => exact ⟨rfl, rfl⟩
  | none =>
    cases service.taxClient with
    | false => exact ⟨rfl, rfl⟩
    | true =>
      cases request.shippingAddress with
      | none => exact ⟨rfl, rfl⟩
      | some address =>
        refine wp_bind.mpr (client_wp rfl (fun hup => ?_) (fun hdown => ?_)
          fun hlost => ?_)
        · rw [if_pos hup]
          exact readReply_wp ⟨rfl, rfl⟩
        · rw [if_neg (by simp [hdown])]
          exact readReply_wp ⟨rfl, rfl⟩
        · rw [if_neg (by simp [hlost])]
          exact readReply_wp ⟨rfl, rfl⟩

theorem createPaymentIntent_wp {Q : Except OrderError (Option PyStr) → World × ℕ → Prop}
    (h : Q (paymentReply env n) (w, n + 1)) :
    (createPaymentIntent orderId payment).wp (served env) Q (w, n) := by
  rw [paymentReply] at h
  refine wp_bind.mpr (client_wp rfl (fun hup => ?_) (fun hdown => ?_) fun hlost => ?_)
  · rw [if_pos hup] at h
    exact readReply_wp h
  · rw [if_neg (by simp [hdown])] at h
    exact readReply_wp h
  · rw [if_neg (by simp [hlost])] at h
    exact readReply_wp h

theorem reserveInventory_wp {items : List OrderLineItem}
    {Q : Except OrderError Bool → World × ℕ → Prop}
    (h : Q (.ok (env.links n = .up ∧ env.reservation)) (w.reserving env n orderId, n + 1)) :
    (reserveInventory orderId items).wp (served env) Q (w, n) := by
  rw [reserving] at h
  refine wp_bind.mpr (client_wp rfl (fun hup => ?_) (fun hdown => ?_) fun hlost => ?_)
  · simp [hup] at h
    exact h
  · simp [hdown] at h
    exact h
  · simp [hlost] at h
    exact h

theorem insertOrder_wp {row : OrderRow} {Q : Except OrderError (ℕ × Option Order) → World × ℕ → Prop}
    (hok : env.links n = .up → env.links (n + 1) = .up → ∀ order, row.toOrder = some order →
      Q (.ok (w.orders.size, some order)) (w.insert row, n + 2))
    (hdown : env.links n = .down → Q (.error .connectionError) (w, n + 1))
    (hfail : env.links n ≠ .down →
      ¬(env.links n = .up ∧ env.links (n + 1) = .up ∧ row.toOrder.isSome) →
      ∀ e m, Q (.error e) (w.insert row, m)) :
    (insertOrder row).wp (served env) Q (w, n) := by
  have hstored : (w.insert row).orders.get? w.orders.size = some row :=
    get?_insert_size _ _
  refine wp_bind.mpr (ask_wp rfl (fun hup => ?_) hdown fun hlost => ?_)
  · refine wp_bind.mpr (getOrder_wp (fun order h => ?_) (fun _ h => ?_) fun e h => ?_)
    · change (w.insert row).found env (n + 1) w.orders.size = some order at h
      rw [found] at h
      split at h
      · next hlink =>
          obtain ⟨row', hrow', horder⟩ := Option.bind_eq_some_iff.mp h
          obtain rfl : row = row' := Option.some.inj (hstored.symm.trans hrow')
          exact hok hup hlink order horder
      · cases h
    · cases hstored.symm.trans h
    · refine hfail (by simp [hup]) (fun hlinks => ?_) e _
      obtain ⟨order, horder⟩ := Option.isSome_iff_exists.mp hlinks.2.2
      have hfound : (w.insert row).found env (n + 1) w.orders.size = some order := by
        rw [found, if_pos hlinks.2.1, hstored, Option.bind_some, horder]
      cases hfound.symm.trans h
  · exact hfail (by simp [hlost]) (by simp [hlost]) _ _

@[simp] theorem reserving_orders : (w.reserving env n orderId).orders = w.orders := by
  unfold reserving
  split <;> rfl

def Ends {α : Type} (succeeds : α → Bool) (result : Bool × World) (r : Except OrderError α)
    (s : World × ℕ) : Prop :=
  s.1 = result.2 ∧ match r with
    | .ok a => succeeds a = result.1
    | .error _ => result.1 = false

/-- **The payment intent.** -/
theorem attachPaymentIntent_wp {row : OrderRow} (hrow : w.orders.get? orderId = some row)
    (horder : row.toOrder.isSome) :
    (attachPaymentIntent service orderId payment).wp (served env)
      (Ends (fun _ => true) (w.charging service env n orderId)) (w, n) := by
  rw [attachPaymentIntent, charging]
  by_cases hclient : service.paymentClient
  · rw [if_pos hclient, if_neg (not_not.mpr hclient)]
    refine wp_bind.mpr (createPaymentIntent_wp ?_)
    cases paymentReply env n with
    | error e => exact ⟨rfl, rfl⟩
    | ok intent =>
      simp only []
      cases given intent with
      | none => exact ⟨rfl, rfl⟩
      | some paymentIntentId =>
        refine wp_bind.mpr (updateOrder_wp hrow horder (fun hup hup' order => ?_)
          (fun hdown => ?_) fun hlink hfail e m => ?_)
        · simp only [hup, hup']
          exact ⟨rfl, rfl⟩
        · simp only [hdown]
          exact ⟨rfl, rfl⟩
        · simp only [hlink, hfail]
          exact ⟨rfl, rfl⟩
  · rw [if_neg hclient, if_pos hclient]
    exact ⟨rfl, rfl⟩

theorem attached_wp {row : OrderRow} {response : OrderResponse} (hsuccess : response.success = true)
    (hrow : w.orders.get? orderId = some row) (horder : row.toOrder.isSome) :
    (attachPaymentIntent service orderId payment >>= fun _ => (ret response : OrderM _)).wp
      (served env) (Ends OrderResponse.success (w.charging service env n orderId)) (w, n) := by
  refine wp_bind.mpr (wp_mono (attachPaymentIntent_wp hrow horder) ?_)
  rintro r s ⟨hs, hr⟩
  cases r with
  | ok a => exact ⟨hs, hsuccess.trans hr⟩
  | error e => exact ⟨hs, hr⟩

/-- **The rejection** of an order whose items are not reserved. -/
theorem rejected_wp {row : OrderRow} {response : OrderResponse}
    (hfailure : response.success = false) (hrow : w.orders.get? orderId = some row)
    (horder : row.toOrder.isSome) :
    (updateOrderStatus orderId .failed >>= fun _ => (ret response : OrderM _)).wp
      (served env)
      (Ends OrderResponse.success
        (false, if env.links n = .down then w else w.update orderId rejection)) (w, n) := by
  refine wp_bind.mpr (updateOrder_wp hrow horder (fun hup hup' order => ?_)
    (fun hdown => ?_) fun hlink hfail e m => ?_)
  · rw [if_neg (by simp [hup])]
    exact ⟨rfl, hfailure⟩
  · rw [if_pos hdown]
    exact ⟨rfl, rfl⟩
  · rw [if_neg hlink]
    exact ⟨rfl, rfl⟩

/-- **What a creation does.** -/
theorem createValidated_wp (hvalid : validateOrderCreateRequest request = .ok ()) :
    (createValidated service request).wp (served env)
      (Ends OrderResponse.success (w.creating service request env)) (w, 0) := by
  rw [creating, hvalid]
  refine wp_bind.mpr (wp_mono taxAmount_wp ?_)
  rintro r s ⟨rfl, rfl⟩
  cases htaxed : taxed service request env with
  | mk tax k =>
    cases tax with
    | error e => exact ⟨rfl, rfl⟩
    | ok tax =>
      simp only []
      refine wp_bind.mpr (insertOrder_wp (fun hup hup' order horder => ?_)
        (fun hdown => ?_) fun hlink hfail e m => ?_)
      · have hreadable : (request.row tax).toOrder.isSome := by rw [horder, Option.isSome_some]
        rw [if_neg (by simp [hup]), if_pos ⟨hup, hup', hreadable⟩, supplying]
        simp only []
        have hrow : (w.insert (request.row tax)).orders.get? w.orders.size
            = some (request.row tax) := get?_insert_size _ _
        have hrow' : ∀ m, ((w.insert (request.row tax)).reserving env m
            w.orders.size).orders.get? w.orders.size = some (request.row tax) :=
          fun m => by rw [reserving_orders, hrow]
        by_cases hreserves : Reserves service request
        · rw [if_pos hreserves]
          simp only [Reserves] at hreserves
          rw [if_pos hreserves]
          refine wp_bind.mpr (reserveInventory_wp ?_)
          by_cases hreserved : env.links (k + 2) = .up ∧ env.reservation
          · rw [decide_eq_true hreserved, if_pos hreserved]
            exact attached_wp rfl (hrow' _) hreadable
          · rw [decide_eq_false hreserved, if_neg hreserved]
            exact rejected_wp rfl (hrow' _) hreadable
        · rw [if_neg hreserves]
          simp only [Reserves] at hreserves
          rw [if_neg hreserves]
          exact attached_wp rfl hrow hreadable
      · rw [if_pos hdown]
        exact ⟨rfl, rfl⟩
      · rw [if_neg hlink, if_neg hfail]
        exact ⟨rfl, rfl⟩

theorem createOrder_wp :
    (createOrder service request).wp (served env)
      (fun r s => ∃ response, r = .ok response ∧
        response.success = (w.creating service request env).1 ∧
        s.1 = (w.creating service request env).2) (w, 0) := by
  refine wp_tryCatch.mpr (wp_lift_bind (fun _ hvalid => ?_) fun e hinvalid => ?_)
  · refine wp_mono (createValidated_wp hvalid) ?_
    rintro r s ⟨hs, hr⟩
    cases r with
    | ok response => exact ⟨response, rfl, hr, hs⟩
    | error e => cases e <;> exact ⟨_, rfl, hr.symm, hs⟩
  · have hcreating : w.creating service request env = (false, w) := by
      rw [creating, hinvalid]
    rw [hcreating]
    cases e <;> exact ⟨_, rfl, rfl, rfl⟩

end Specs

/-! ### The law -/

section Law

variable (service : OrderService) (request : OrderCreateRequest) (env : Environment)

/-- The response of `create_order`, and the world after it. -/
def created (w : World) : Except OrderError OrderResponse × World :=
  let ended := (createOrder service request).run (served env) (w, 0)
  (ended.1, ended.2.1)

/-- **The law.** If the creation reports failure, no order of it is pending, and what is
reserved is what was reserved before. -/
def LeavesNothing (w : World) : Prop :=
  ∀ response, (created service request env w).1 = .ok response → response.success = false →
    (∀ i row, w.orders.size ≤ i → (created service request env w).2.orders.get? i = some row →
      row.status ≠ .pending) ∧
    (created service request env w).2.reserved = w.reserved

/-- The payment service is not asked, or its answer can be read, and an intent that it names is
attached to the order and the order read back. -/
def Charged (k : ℕ) : Prop :=
  service.paymentClient → ∃ intent, paymentReply env k = .ok intent ∧
    (given intent ≠ none → env.links (k + 1) = .up ∧ env.links (k + 2) = .up)

/-- The items are reserved, if any are to be, and the order is charged; or none is reserved, and
the order is marked as failed. -/
def Supplied (k : ℕ) : Prop :=
  if Reserves service request then
    if env.links k = .up ∧ env.reservation then Charged service env (k + 1)
    else (env.links k = .down ∨ env.reservation = false) ∧ env.links (k + 1) ≠ .down
  else Charged service env k

/-- If an order is inserted, it is read back, supplied and charged, or marked as failed with
nothing reserved. -/
def FailsCleanly : Prop :=
  ∀ tax k, validateOrderCreateRequest request = .ok () →
    taxed service request env = (.ok tax, k) → env.links k ≠ .down →
      (env.links k = .up ∧ env.links (k + 1) = .up ∧ (request.row tax).toOrder.isSome) ∧
        Supplied service request env (k + 2)

end Law

section Proofs

variable {service : OrderService} {request : OrderCreateRequest} {env : Environment} {w : World}
  {k size : ℕ} {row : OrderRow} {reserved : List ℕ}

def Clean (size : ℕ) (reserved : List ℕ) (result : Bool × World) : Prop :=
  result.1 = false →
    (∀ i row, size ≤ i → result.2.orders.get? i = some row → row.status ≠ .pending) ∧
      result.2.reserved = reserved

theorem leavesNothing_iff_clean :
    LeavesNothing service request env w ↔
      Clean w.orders.size w.reserved (w.creating service request env) := by
  have hwp : (createOrder service request).wp (served env) _ (w, 0) := createOrder_wp
  obtain ⟨response, hr, hsuccess, hs⟩ := hwp
  rw [Clean, ← hsuccess, ← hs]
  constructor
  · exact fun h hfailure => h response hr hfailure
  · intro h response' hr' hfailure
    obtain rfl : response = response' := Except.ok.inj (hr.symm.trans hr')
    exact h hfailure

theorem clean_of_success {result : Bool × World} (h : result.1 = true) :
    Clean size reserved result := fun hfailure => absurd (h.symm.trans hfailure) nofun

theorem not_clean_of_pending {w' : World} (hrow : w'.orders.get? size = some row)
    (hpending : row.status = .pending) : ¬Clean size reserved (false, w') :=
  fun h => (h rfl).1 size row le_rfl hrow hpending

theorem charging_clean (hrow : w.orders.get? size = some row) (hpending : row.status = .pending) :
    Clean size reserved (w.charging service env k size) ↔ Charged service env k := by
  rw [charging, Charged]
  by_cases hclient : service.paymentClient
  · simp only [hclient]
    cases paymentReply env k with
    | error e => exact iff_of_false (not_clean_of_pending hrow hpending) (by simp)
    | ok intent =>
      simp only [Except.ok.injEq, exists_eq_left']
      cases given intent with
      | none => exact iff_of_true (clean_of_success rfl) (by simp)
      | some paymentIntentId =>
        simp only [ne_eq, reduceCtorEq, not_false_eq_true, true_imp_iff]
        by_cases hdown : env.links (k + 1) = .down
        · rw [if_pos hdown]
          exact iff_of_false (not_clean_of_pending hrow hpending) (by simp [hdown])
        · rw [if_neg hdown]
          by_cases hlinks : env.links (k + 1) = .up ∧ env.links (k + 2) = .up
          · exact iff_of_true (clean_of_success (by simp [hlinks])) hlinks
          · rw [decide_eq_false hlinks]
            have hrow' : (w.update size (attachment paymentIntentId)).orders.get? size
                = some ((attachment paymentIntentId).apply row) := get?_modify_self hrow _
            exact iff_of_false (not_clean_of_pending hrow' hpending) hlinks
  · rw [if_pos hclient]
    exact iff_of_true (clean_of_success rfl) fun h => absurd h hclient

/-- What is reserved by the call of number `k`. -/
theorem reserving_reserved :
    (w.reserving env k size).reserved = w.reserved ↔
      env.links k = .down ∨ env.reservation = false := by
  rw [reserving]
  split
  · next h => simp [h]
  · next h =>
      refine iff_of_true rfl ?_
      by_cases hdown : env.links k = .down
      · exact .inl hdown
      · exact .inr (by simpa [hdown] using h)

theorem supplying_clean (hrow : w.orders.get? size = some row) (hpending : row.status = .pending)
    (hlast : w.orders.size = size + 1) :
    Clean size w.reserved (w.supplying service request env k size) ↔
      Supplied service request env k := by
  rw [supplying, Supplied]
  by_cases hreserves : Reserves service request
  · rw [if_pos hreserves, if_pos hreserves]
    have hrow' : (w.reserving env k size).orders.get? size = some row := by
      rw [reserving_orders, hrow]
    by_cases hreserved : env.links k = .up ∧ env.reservation
    · rw [if_pos hreserved, if_pos hreserved]
      exact charging_clean hrow' hpending
    · rw [if_neg hreserved, if_neg hreserved]
      by_cases hdown : env.links (k + 1) = .down
      · rw [if_pos hdown]
        exact iff_of_false (not_clean_of_pending hrow' hpending) fun h => h.2 hdown
      · rw [if_neg hdown]
        have hfailed : ∀ i row', size ≤ i →
            ((w.reserving env k size).update size rejection).orders.get? i = some row' →
              row'.status ≠ .pending := by
          intro i row' hi hget
          have hlt := lt_size_of_get? hget
          rw [update, size_modify, reserving_orders] at hlt
          obtain rfl : i = size := by omega
          rw [update, get?_modify_self hrow'] at hget
          obtain rfl := Option.some.inj hget
          nofun
        constructor
        · exact fun h => ⟨reserving_reserved.mp (h rfl).2, hdown⟩
        · exact fun h _ => ⟨hfailed, reserving_reserved.mpr h.1⟩
  · rw [if_neg hreserves, if_neg hreserves]
    exact charging_clean hrow hpending

theorem failsCleanly_iff {tax : Option ℚ} (hvalid : validateOrderCreateRequest request = .ok ())
    (htaxed : taxed service request env = (.ok tax, k)) :
    FailsCleanly service request env ↔
      (env.links k ≠ .down →
        (env.links k = .up ∧ env.links (k + 1) = .up ∧ (request.row tax).toOrder.isSome) ∧
          Supplied service request env (k + 2)) := by
  rw [FailsCleanly, htaxed]
  constructor
  · exact fun h => h tax k hvalid rfl
  · rintro h tax' k' _ ⟨⟩
    exact h

theorem failsCleanly_of_error {e : OrderError} (h : validateOrderCreateRequest request = .error e ∨
    (taxed service request env).1 = .error e) : FailsCleanly service request env := by
  intro tax k hvalid htaxed
  rw [hvalid, htaxed] at h
  rcases h with h | h <;> cases h

theorem kept_clean : Clean w.orders.size w.reserved (false, w) := by
  refine fun _ => ⟨fun i row hi hget => ?_, rfl⟩
  have hlt : i < w.orders.size := lt_size_of_get? hget
  omega

/-- **The exact condition.** -/
theorem leavesNothing_iff (service : OrderService) (request : OrderCreateRequest)
    (env : Environment) (w : World) :
    LeavesNothing service request env w ↔ FailsCleanly service request env := by
  rw [leavesNothing_iff_clean, creating]
  cases hvalid : validateOrderCreateRequest request with
  | error e => exact iff_of_true kept_clean (failsCleanly_of_error (.inl hvalid))
  | ok _ =>
    cases htaxed : taxed service request env with
    | mk tax k =>
      cases tax with
      | error e =>
        exact iff_of_true kept_clean (failsCleanly_of_error (.inr (by rw [htaxed])))
      | ok tax =>
        have hrow : (w.insert (request.row tax)).orders.get? w.orders.size
            = some (request.row tax) := get?_insert_size _ _
        have hlast : (w.insert (request.row tax)).orders.size = w.orders.size + 1 :=
          size_insert _ _
        rw [failsCleanly_iff hvalid htaxed]
        simp only []
        by_cases hdown : env.links k = .down
        · rw [if_pos hdown]
          exact iff_of_true kept_clean fun h => absurd hdown h
        · rw [if_neg hdown]
          by_cases hread : env.links k = .up ∧ env.links (k + 1) = .up ∧
              (request.row tax).toOrder.isSome
          · rw [if_pos hread]
            exact (supplying_clean hrow rfl hlast).trans
              ⟨fun h _ => ⟨hread, h⟩, fun h => (h hdown).2⟩
          · rw [if_neg hread]
            exact iff_of_false (not_clean_of_pending hrow rfl) fun h => hread (h hdown).1

theorem tenDollars_pos : (0 : ℚ) < 10 := by norm_num

theorem tenDollars_nonneg : (0 : ℚ) ≤ 10 := tenDollars_pos.le

def shipped : OrderCreateRequest :=
  { userId := "u".toList, orderType := .purchase, totalAmount := 10
    items := [{ productId := "p".toList, quantity := 1, unitPrice := ⟨10, tenDollars_nonneg⟩
                fulfillmentType := .ship, quantity_pos := by norm_num }]
    shippingAddress := some ⟨"l".toList, "c".toList, "z".toList, "x".toList⟩
    total_pos := tenDollars_pos }

def emptyWorld : World := { orders := .empty, sent := [], reserved := [], processed := fun _ => [] }

def supplied : OrderService :=
  { coercions := ⟨fun _ => none, fun _ => none, fun _ => none⟩, inventoryClient := true
    taxClient := false, paymentClient := true, fulfillmentClient := false }

def detached : Environment :=
  { links := fun n => if n = 4 then .down else .up, paymentIntent := .ok (some "pi".toList) }

/-- The law fails on its own: the intent cannot be attached, the order stays pending and its
item stays reserved. -/
theorem not_leavesNothing_detached :
    ¬∀ (service : OrderService) (request : OrderCreateRequest) (env : Environment) (w : World),
      LeavesNothing service request env w := by
  intro h
  have hclean := leavesNothing_iff_clean.mp (h supplied shipped detached emptyWorld)
  have hreserved : (emptyWorld.creating supplied shipped detached).2.reserved = [0] := by
    decide +kernel
  have hfailure : (emptyWorld.creating supplied shipped detached).1 = false := by
    decide +kernel
  exact absurd (hreserved.symm.trans (hclean hfailure).2) nofun

end Proofs

end IsaUser.Orders
