import IsaUser.Order.Creation

/-!
# What Any Request Does to Orders

An event of the payment service is handled in the name of the order that has its payment
intent, if the replica does not remember the event. So every request and every event does one
of few things to the orders, which its surroundings and the world before it decide: its `Deed`.

## Main results

* `step_same`: the world after a request is the one after its deed.
* `deed_sound`: what a deed is done to, and what it sends.
-/

open IsaUser.Prog Option

namespace IsaUser.Orders

open World

/-! ### Deeds -/

/-- The patch of `handle_payment_failed`. -/
def failure : OrderPatch := { status := some .failed, paymentStatus := some .failed }

/-- The patch of `handle_payment_refunded`. -/
def refunding : OrderPatch := { status := some .refunded, paymentStatus := some .refunded }

/-- What a request does to the orders, and the request to the wallet service that it sends. -/
inductive Deed where
  | keep
  | insert (row : OrderRow)
  | cancel (orderId : ℕ) (refund : Option SentRequest)
  | complete (orderId : ℕ) (transactionId : Option PyStr) (deposit : Option SentRequest)
  | failPayment (orderId : ℕ)
  | refundPayment (orderId : ℕ)
  deriving DecidableEq

def Deed.on (w : World) : Deed → World
  | keep => w
  | insert row => w.insert row
  | cancel orderId refund => sending refund (w.update orderId cancellation)
  | complete orderId transactionId deposit =>
    sending deposit (w.update orderId (completion transactionId))
  | failPayment orderId => w.update orderId failure
  | refundPayment orderId => w.update orderId refunding

def Deed.subject : Deed → Option ℕ
  | keep => none
  | insert _ => none
  | cancel orderId _ => some orderId
  | complete orderId _ _ => some orderId
  | failPayment orderId => some orderId
  | refundPayment orderId => some orderId

def Deed.patch : Deed → OrderPatch
  | keep => {}
  | insert _ => {}
  | cancel _ _ => cancellation
  | complete _ transactionId _ => completion transactionId
  | failPayment _ => failure
  | refundPayment _ => refunding

def World.remembers (env : Environment) (eventId : Option PyStr) (w : World) : Bool :=
  (given eventId).any fun eventId => eventId ∈ w.processed env.replica

def World.intended (env : Environment) (n : ℕ) (paymentIntentId : PyStr) (w : World) :
    Option (Row Order) :=
  if env.links n = .up then do
    let rows := (w.orders.select fun row => row.paymentIntentId = some paymentIntentId).rotate
      env.first
    let orders ← rows.mapM fun row => row.val.toOrder.map (Row.mk row.id)
    orders.head?
  else none

def World.target (env : Environment) (event : PaymentEvent) (w : World) : Option (Row Order) :=
  if w.remembers env event.eventId then none
  else (given event.paymentIntentId).bind fun paymentIntentId => w.intended env 0 paymentIntentId

def PaymentEvent.completion (event : PaymentEvent) (creditsAdded : Option ℚ) :
    OrderCompleteRequest :=
  { paymentConfirmed := true, creditsAdded
    transactionId := given event.paymentId <|> event.transactionId }

/-- What `complete_order` does. -/
def World.completionDeed (env : Environment) (n orderId : ℕ) (request : OrderCompleteRequest)
    (w : World) : Deed :=
  if w.Completes env n orderId request then
    .complete orderId request.transactionId (w.deposit env n orderId request)
  else .keep

/-- What `cancel_order` does. -/
def World.cancellationDeed (env : Environment) (n orderId : ℕ) (request : OrderCancelRequest)
    (w : World) : Deed :=
  if w.Cancels env n orderId then .cancel orderId (w.refund env n orderId request) else .keep

/-- **The deed of a request.** -/
def OrderService.deed (service : OrderService) (w : World) (attempt : Attempt) : Deed :=
  match attempt.request with
  | .create request =>
    match (w.creating service request attempt.env).2.orders.get? w.orders.size with
    | none => .keep
    | some row => .insert row
  | .cancel orderId request => w.cancellationDeed attempt.env 0 orderId request
  | .complete orderId request => w.completionDeed attempt.env 0 orderId request
  | .paymentCompleted event =>
    match w.target attempt.env event, event.credits service with
    | some order, .ok credits => w.completionDeed attempt.env 1 order.id (event.completion credits)
    | _, _ => .keep
  | .paymentFailed event =>
    match w.target attempt.env event with
    | some order => if attempt.env.links 1 = .down then .keep else .failPayment order.id
    | none => .keep
  | .paymentRefunded event =>
    match w.target attempt.env event with
    | some order => if attempt.env.links 1 = .down then .keep else .refundPayment order.id
    | none => .keep
  | .creditsAdded _ => .keep

theorem on_unless {p : Prop} [Decidable p] (w : World) (deed : Deed) :
    Deed.on w (if p then .keep else deed) = if p then w else deed.on w := by
  split <;> rfl

theorem completing_eq (env : Environment) (n orderId : ℕ) (request : OrderCompleteRequest)
    (w : World) :
    w.completing env n orderId request = Deed.on w (w.completionDeed env n orderId request) := by
  rw [completionDeed]
  split
  · next h => rw [completing, if_pos h, Deed.on]
  · next h => rw [completing_of_not h, Deed.on]

theorem cancelling_eq (env : Environment) (n orderId : ℕ) (request : OrderCancelRequest)
    (w : World) :
    w.cancelling env n orderId request = Deed.on w (w.cancellationDeed env n orderId request) := by
  rw [cancellationDeed]
  split
  · next h => rw [cancelling, if_pos h, Deed.on]
  · next h => rw [cancelling_of_not h, Deed.on]

/-! ### Handlers -/

section Handlers

variable {env : Environment} {w w' : World} {n : ℕ} {service : OrderService}
  {event : PaymentEvent} {eventId : Option PyStr} {orderId : ℕ}

theorem same_mark (eventId : PyStr) : w.Same (w.mark env eventId) := ⟨rfl, fun _ => rfl⟩

theorem same_reserved (reserved : List ℕ) : w.Same { w with reserved } := ⟨rfl, fun _ => rfl⟩

theorem isEventProcessed_wp {Q : Except OrderError Bool → World × ℕ → Prop}
    (h : Q (.ok (w.remembers env eventId)) (w, n)) :
    (isEventProcessed eventId).wp (served env) Q (w, n) := by
  rw [remembers] at h
  rw [isEventProcessed]
  cases hid : given eventId with
  | none =>
    rw [hid] at h
    exact h
  | some id =>
    rw [hid] at h
    exact wp_query.mpr h

theorem markEventProcessed_wp {Q : Except OrderError Unit → World × ℕ → Prop}
    (h : ∀ w', w.Same w' → Q (.ok ()) (w', n)) :
    (markEventProcessed eventId).wp (served env) Q (w, n) := by
  rw [markEventProcessed]
  cases given eventId with
  | none => exact h w (.refl w)
  | some id => exact h _ (same_mark id)

theorem marked_wp (h : w.Same w') :
    (markEventProcessed eventId).wp (served env) (fun _ s => w.Same s.1) (w', n) :=
  markEventProcessed_wp fun _ h' => h.trans h'

theorem readOrders_wp {rows : List (Row OrderRow)} {s : World × ℕ}
    {Q : Except OrderError (List (Row Order)) → World × ℕ → Prop}
    (hsome : ∀ orders, rows.mapM (fun row => row.val.toOrder.map (Row.mk row.id)) = some orders →
      Q (.ok orders) s)
    (hnone : rows.mapM (fun row => row.val.toOrder.map (Row.mk row.id)) = none →
      ∀ e, Q (.error e) s) :
    (readOrders rows).wp (served env) Q s := by
  induction rows generalizing Q with
  | nil => exact hsome [] rfl
  | cons row rows ih =>
    simp only [List.mapM_cons] at hsome hnone
    rw [readOrders, dictToOrder]
    cases horder : row.val.toOrder with
    | none =>
      rw [horder] at hnone
      exact hnone rfl _
    | some order =>
      rw [horder] at hsome hnone
      refine wp_bind.mpr ?_
      refine wp_bind.mpr (ih (fun orders horders => ?_) fun hfail e => ?_)
      · exact hsome _ (by simp [horders])
      · exact hnone (by simp [hfail]) e

theorem getOrderByPaymentIntent_wp {paymentIntentId : PyStr}
    {Q : Except OrderError (Option (Row Order)) → World × ℕ → Prop}
    (hsome : ∀ order, w.intended env n paymentIntentId = some order →
      Q (.ok (some order)) (w, n + 1))
    (hnone : w.intended env n paymentIntentId = none → Q (.ok none) (w, n + 1))
    (herror : w.intended env n paymentIntentId = none → ∀ e, Q (.error e) (w, n + 1)) :
    (getOrderByPaymentIntent paymentIntentId).wp (served env) Q (w, n) := by
  rw [intended] at hsome hnone herror
  refine wp_bind.mpr (ask_read_wp rfl rfl (fun hup => ?_) fun hlink => ?_)
  · rw [if_pos hup] at hsome hnone herror
    refine wp_bind.mpr (readOrders_wp (fun orders horders => ?_) fun hfail e => ?_)
    · simp only [serve] at horders
      simp only [horders] at hsome hnone
      cases hhead : orders.head? with
      | none =>
        simp only [hhead]
        exact hnone hhead
      | some order =>
        simp only [hhead]
        exact hsome order hhead
    · simp only [serve] at hfail
      exact herror (by simp [hfail]) e
  · rw [if_neg hlink] at herror
    exact herror rfl _

theorem updateOrder_effect_wp {patch : OrderPatch}
    {Q : Except OrderError (Option Order) → World × ℕ → Prop}
    (h : ∀ r m, Q r (if env.links n = .down then w else w.update orderId patch, m)) :
    (updateOrder orderId patch).wp (served env) Q (w, n) := by
  obtain ⟨updated, hserve⟩ : ∃ updated : Bool,
      serve env (.updateOrder orderId patch) w = (updated, w.update orderId patch) :=
    ⟨_, rfl⟩
  refine wp_bind.mpr (ask_wp rfl (fun hup => ?_) (fun hdown => ?_) fun hlost => ?_)
  · rw [if_neg (by simp [hup])] at h
    rw [hserve]
    cases updated with
    | false => exact h _ _
    | true => exact getOrder_wp (fun _ _ => h _ _) (fun _ _ => h _ _) fun _ _ => h _ _
  · rw [if_pos hdown] at h
    exact h _ _
  · rw [if_neg (by simp [hlost])] at h
    exact h _ _

theorem updateOrder_same_wp {patch : OrderPatch}
    {Q : Except OrderError (Option Order) → World × ℕ → Prop}
    (hpatch : ∀ row, (patch.apply row).core = row.core) (h : ∀ r w' m, w.Same w' → Q r (w', m)) :
    (updateOrder orderId patch).wp (served env) Q (w, n) := by
  refine updateOrder_effect_wp fun r m => h r _ m ?_
  split
  · exact .refl w
  · refine ⟨rfl, fun i => ?_⟩
    simp only [World.update, Table.get?_modify]
    split
    · cases w.orders.get? i with
      | none => rfl
      | some row => simp [hpatch]
    · rfl

theorem client_same_wp {call : Call} (hplain : call.Plain = true)
    (hsame : ∀ w : World, w.Same (serve env call w).2)
    {Q : Except OrderError (Option (OrderApi.Reply call)) → World × ℕ → Prop}
    (h : ∀ reply w', w.Same w' → Q (.ok reply) (w', n + 1)) :
    (client call).wp (served env) Q (w, n) :=
  client_wp hplain (fun _ => h _ _ (hsame w)) (fun _ => h _ _ (.refl w)) fun _ => h _ _ (hsame w)

theorem createShipment_wp {items : List OrderLineItem} {address : Address}
    {Q : Except OrderError (Option PyStr) → World × ℕ → Prop} (h : ∀ r, Q r (w, n + 1)) :
    (createShipment orderId items address).wp (served env) Q (w, n) :=
  wp_bind.mpr (client_wp rfl (fun _ => readReply_wp (h _)) (fun _ => readReply_wp (h _))
    fun _ => readReply_wp (h _))

theorem fulfill_wp {order : Row Order} {Q : Except OrderError Unit → World × ℕ → Prop}
    (h : ∀ r w' m, w.Same w' → Q r (w', m)) :
    (fulfill service order).wp (served env) Q (w, n) := by
  rw [fulfill]
  split
  · split
    · refine wp_bind.mpr (client_same_wp rfl (fun w => same_reserved _) fun _ w' hw' => ?_)
      refine wp_bind.mpr (createShipment_wp fun reply => ?_)
      cases reply with
      | error e => exact h _ _ _ hw'
      | ok number =>
        simp only []
        cases given number with
        | none => exact h _ _ _ hw'
        | some trackingNumber =>
          refine wp_bind.mpr (updateOrder_same_wp (fun _ => rfl) fun r w'' m hw'' => ?_)
          cases r <;> exact h _ _ _ (hw'.trans hw'')
    · exact h _ _ _ (.refl w)
  · exact h _ _ _ (.refl w)

/-! ### The handlers of payment events -/

theorem caught_wp {p : OrderM Unit} {Q : World × ℕ → Prop} {s : World × ℕ}
    (h : p.wp (served env) (fun _ s => Q s) s) :
    (p.tryCatch fun _ => (return () : OrderM Unit)).wp (served env) (fun _ s => Q s) s := by
  refine wp_tryCatch.mpr (wp_mono h ?_)
  intro r s hs
  cases r <;> exact hs

/-- **The search for the order of an event**, in a handler that goes on with it. -/
theorem target_wp {f : Option (Row Order) → OrderM Unit} {Q : World × ℕ → Prop}
    (hsome : ∀ order, w.target env event = some order →
      (f (some order)).wp (served env) (fun _ s => Q s) (w, 1))
    (hnone : w.target env event = none → ∀ w' m, w.Same w' → Q (w', m))
    (hmarked : w.target env event = none → (f none).wp (served env) (fun _ s => Q s) (w, 1)) :
    (isEventProcessed event.eventId >>= fun processed =>
      if processed then return ()
      else match given event.paymentIntentId with
        | none => return ()
        | some paymentIntentId => getOrderByPaymentIntent paymentIntentId >>= f : OrderM Unit).wp
      (served env) (fun _ s => Q s) (w, 0) := by
  rw [target] at hsome hnone hmarked
  refine wp_bind.mpr (isEventProcessed_wp ?_)
  cases hremembers : w.remembers env event.eventId with
  | true =>
    rw [hremembers] at hnone
    exact hnone rfl w 0 (.refl w)
  | false =>
    rw [hremembers] at hsome hnone hmarked
    cases hintent : given event.paymentIntentId with
    | none =>
      rw [hintent] at hnone
      exact hnone rfl w 0 (.refl w)
    | some paymentIntentId =>
      rw [hintent] at hsome hnone hmarked
      exact wp_bind.mpr (getOrderByPaymentIntent_wp hsome hmarked
        fun h _ => hnone h w 1 (.refl w))

theorem handlePaymentFailed_wp :
    (handlePaymentFailed service event).wp (served env)
      (fun _ s => (Deed.on w (match w.target env event with
        | some order => if env.links 1 = .down then .keep else .failPayment order.id
        | none => .keep)).Same s.1) (w, 0) := by
  refine caught_wp (target_wp (fun order htarget => ?_) (fun htarget w' m hsame => ?_)
    fun htarget => ?_)
  · rw [htarget]
    refine wp_bind.mpr (updateOrder_effect_wp fun r m => ?_)
    simp only [on_unless]
    cases r with
    | error e => exact .refl _
    | ok updated =>
      simp only []
      split
      · exact wp_bind.mpr (client_same_wp rfl (fun w => same_reserved _)
          fun _ w' hw' => marked_wp hw')
      · exact marked_wp (.refl _)
  · rw [htarget]
    exact hsame
  · rw [htarget]
    exact marked_wp (.refl w)

theorem handlePaymentCompleted_wp :
    (handlePaymentCompleted service event).wp (served env)
      (fun _ s => (Deed.on w (match w.target env event, event.credits service with
        | some order, .ok credits => w.completionDeed env 1 order.id (event.completion credits)
        | _, _ => .keep)).Same s.1) (w, 0) := by
  refine caught_wp (target_wp (fun order htarget => ?_) (fun htarget w' m hsame => ?_)
    fun htarget => ?_)
  · rw [htarget]
    refine wp_lift_bind (fun credits hcredits => ?_) fun e hcredits => ?_
    · rw [hcredits]
      refine wp_bind.mpr (wp_mono complete_wp ?_)
      rintro r s ⟨⟨response, rfl⟩, hs⟩
      rw [completing_eq] at hs
      obtain ⟨w', m⟩ := s
      subst hs
      refine wp_bind.mpr (fulfill_wp fun r w' m hw' => ?_)
      cases r with
      | error e => exact hw'
      | ok _ => exact marked_wp hw'
    · rw [hcredits]
      exact .refl w
  · rw [htarget]
    exact hsame
  · rw [htarget]
    exact marked_wp (.refl w)

theorem handlePaymentRefunded_wp :
    (handlePaymentRefunded event).wp (served env)
      (fun _ s => (Deed.on w (match w.target env event with
        | some order => if env.links 1 = .down then .keep else .refundPayment order.id
        | none => .keep)).Same s.1) (w, 0) := by
  refine caught_wp (wp_bind.mpr (isEventProcessed_wp ?_))
  cases hremembers : w.remembers env event.eventId with
  | true =>
    have htarget : w.target env event = none := by rw [target, if_pos hremembers]
    rw [htarget]
    exact .refl w
  | false =>
    have hsought : w.target env event =
        (given event.paymentIntentId).bind fun id => w.intended env 0 id := by
      rw [target, hremembers, if_neg Bool.false_ne_true]
    -- without an order, the handler marks the event or raises
    have hnone : ∀ m,
        (if given event.paymentId ≠ none then raise .attributeError
          else markEventProcessed event.eventId : OrderM Unit).wp (served env)
          (fun _ s => w.Same s.1) (w, m) := by
      intro m
      split
      · exact .refl w
      · exact marked_wp (.refl w)
    simp only [Bool.false_eq_true, if_false]
    cases hintent : given event.paymentIntentId with
    | none =>
      rw [hintent] at hsought
      rw [hsought]
      split
      · exact .refl w
      · exact hnone 0
    | some paymentIntentId =>
      rw [hintent, bind_some] at hsought
      rw [if_neg (by simp)]
      refine wp_bind.mpr (getOrderByPaymentIntent_wp (fun order h => ?_) (fun h => ?_)
        fun h e => ?_)
      · rw [hsought, h]
        refine wp_bind.mpr (updateOrder_effect_wp fun r m => ?_)
        simp only [on_unless]
        cases r with
        | error e => exact .refl _
        | ok updated =>
          refine wp_bind.mpr (updateOrder_same_wp (fun _ => rfl) fun r w' m hw' => ?_)
          cases r with
          | error e => exact hw'
          | ok updated => exact marked_wp hw'
      · rw [hsought, h]
        exact hnone _
      · rw [hsought, h]
        exact .refl w

theorem handleWalletCreditsAdded_wp {event : CreditsAddedEvent} :
    (handleWalletCreditsAdded event).wp (served env) (fun _ s => w.Same s.1) (w, 0) := by
  refine caught_wp (wp_bind.mpr (isEventProcessed_wp ?_))
  cases w.remembers env event.eventId with
  | true => exact .refl w
  | false => cases given event.userId <;> exact .refl w

end Handlers

/-! ### Creations -/

def OrderRow.Fresh (row : OrderRow) : Prop :=
  (row.status = .pending ∨ row.status = .failed) ∧ row.paymentStatus = .pending

structure World.Inserts (w : World) (row : OrderRow) (w' : World) : Prop where
  fresh : row.Fresh
  sent : w'.sent = w.sent
  orders : ∀ i, w'.orders.get? i = (w.insert row).orders.get? i

section Creations

variable {service : OrderService} {request : OrderCreateRequest} {env : Environment}
  {w w' : World} {row : OrderRow} {k : ℕ}

theorem World.Inserts.update (h : w.Inserts row w') (patch : OrderPatch)
    (hfresh : (patch.apply row).Fresh) :
    w.Inserts (patch.apply row) (w'.update w.orders.size patch) := by
  refine ⟨hfresh, h.sent, fun i => ?_⟩
  have hsize := Table.get?_modify_insert w.orders row patch.apply i
  rw [World.insert, ← hsize, World.update, Table.get?_modify, Table.get?_modify, h.orders,
    World.insert]

theorem World.Inserts.reserving (h : w.Inserts row w') :
    w.Inserts row (w'.reserving env k w.orders.size) := by
  rw [World.reserving]
  split
  · exact ⟨h.fresh, h.sent, h.orders⟩
  · exact h

theorem charging_inserts (h : w.Inserts row w') :
    ∃ row', w.Inserts row' (w'.charging service env k w.orders.size).2 := by
  rw [charging]
  split
  · exact ⟨row, h⟩
  · split
    · exact ⟨row, h⟩
    · split
      · exact ⟨row, h⟩
      · split
        · exact ⟨row, h⟩
        · exact ⟨_, h.update (attachment _) h.fresh⟩

theorem supplying_inserts (h : w.Inserts row w') :
    ∃ row', w.Inserts row' (w'.supplying service request env k w.orders.size).2 := by
  rw [supplying]
  split
  · split
    · exact charging_inserts h.reserving
    · split
      · exact ⟨row, h.reserving⟩
      · exact ⟨_, h.reserving.update rejection ⟨.inr rfl, h.fresh.2⟩⟩
  · exact charging_inserts h

theorem creating_inserts (service : OrderService) (request : OrderCreateRequest)
    (env : Environment) (w : World) :
    (w.creating service request env).2 = w ∨
      ∃ row, w.Inserts row (w.creating service request env).2 := by
  have hinsert : ∀ tax, w.Inserts (request.row tax) (w.insert (request.row tax)) :=
    fun tax => ⟨⟨.inl rfl, rfl⟩, rfl, fun _ => rfl⟩
  rw [creating]
  split
  · split
    · exact .inl rfl
    · split
      · exact .inr (supplying_inserts (hinsert _))
      · exact .inr ⟨_, hinsert _⟩
  · exact .inl rfl

end Creations

/-! ### The rows after a deed -/

@[simp] theorem sending_orders (request : Option SentRequest) (w : World) :
    (sending request w).orders = w.orders := by
  cases request <;> rfl

theorem update_row (orderId : ℕ) (patch : OrderPatch) (w : World) (i : ℕ) :
    (w.update orderId patch).orders.get? i =
      if orderId = i then (w.orders.get? i).map patch.apply else w.orders.get? i :=
  Table.get?_modify _ _ _ _

theorem Deed.row_on (deed : Deed) (w : World) (i : ℕ) :
    (∃ row, deed = .insert row ∧ i = w.orders.size ∧ (deed.on w).orders.get? i = some row) ∨
      (deed.on w).orders.get? i =
        if deed.subject = some i then (w.orders.get? i).map deed.patch.apply
        else w.orders.get? i := by
  cases deed with
  | keep => exact .inr rfl
  | insert row =>
    rcases eq_or_ne i w.orders.size with rfl | hne
    · exact .inl ⟨row, rfl, rfl, Table.get?_insert_size _ _⟩
    · right
      rw [Deed.on, World.insert, Table.get?_insert, if_neg hne]
      rfl
  | cancel orderId refund =>
    right
    simp only [Deed.on, sending_orders, update_row, Deed.subject, some.injEq]
    rfl
  | complete orderId transactionId deposit =>
    right
    simp only [Deed.on, sending_orders, update_row, Deed.subject, some.injEq]
    rfl
  | failPayment orderId =>
    right
    simp only [Deed.on, update_row, Deed.subject, some.injEq]
    rfl
  | refundPayment orderId =>
    right
    simp only [Deed.on, update_row, Deed.subject, some.injEq]
    rfl

/-! ### The deed of a request -/

section Deeds

variable {service : OrderService} {w : World} {attempt : Attempt} {order : Order}

theorem create_same (request : OrderCreateRequest) (env : Environment) :
    ((service.deed w ⟨.create request, env⟩).on w).Same
      (w.creating service request env).2 := by
  simp only [OrderService.deed]
  rcases creating_inserts service request env w with h | ⟨row, h⟩
  · rw [h, Table.get?_size]
    exact .refl w
  · have hsome : (w.creating service request env).2.orders.get? w.orders.size = some row := by
      rw [h.orders, World.insert, Table.get?_insert_size]
    rw [hsome]
    exact ⟨h.sent, fun i => by rw [h.orders, Deed.on]⟩

/-- **The world after a request** is the one after its deed. -/
theorem step_same (service : OrderService) (w : World) (attempt : Attempt) :
    ((service.deed w attempt).on w).Same (service.step w attempt) := by
  obtain ⟨request, env⟩ := attempt
  cases request with
  | create request =>
    have hwp : (service.handle (.create request)).wp (served env)
        (fun _ s => s.1 = (w.creating service request env).2) (w, 0) := by
      refine wp_void.mpr (wp_mono createOrder_wp ?_)
      rintro r s ⟨response, rfl, -, hs⟩
      exact hs
    rw [OrderService.step, hwp]
    exact create_same request env
  | cancel orderId request =>
    have hwp : (service.handle (.cancel orderId request)).wp (served env)
        (fun _ s => s.1 = w.cancelling env 0 orderId request) (w, 0) := by
      refine wp_void.mpr (wp_mono cancel_wp ?_)
      rintro r s ⟨-, hs⟩
      exact hs
    rw [OrderService.step, hwp, cancelling_eq]
    exact .refl _
  | complete orderId request =>
    have hwp : (service.handle (.complete orderId request)).wp (served env)
        (fun _ s => s.1 = w.completing env 0 orderId request) (w, 0) := by
      refine wp_void.mpr (wp_mono complete_wp ?_)
      rintro r s ⟨-, hs⟩
      exact hs
    rw [OrderService.step, hwp, completing_eq]
    exact .refl _
  | paymentCompleted event => exact handlePaymentCompleted_wp
  | paymentFailed event => exact handlePaymentFailed_wp
  | paymentRefunded event => exact handlePaymentRefunded_wp
  | creditsAdded event => exact handleWalletCreditsAdded_wp

def SentRequest.Concerns (sent : SentRequest) (orderId : ℕ) (type : WalletTransactionType) :
    Prop :=
  sent.request.orderId = orderId ∧ sent.request.transactionType = type

instance (sent : SentRequest) (orderId : ℕ) (type : WalletTransactionType) :
    Decidable (sent.Concerns orderId type) := inferInstanceAs (Decidable (_ ∧ _))

def Deed.Sound (w : World) : Deed → Prop
  | keep => True
  | insert row => row.Fresh
  | cancel orderId refund =>
    ∃ row, w.orders.get? orderId = some row ∧ ¬row.status.final ∧
      ∀ sent ∈ refund, sent.Concerns orderId .refund ∧ 0 < sent.request.amount
  | complete orderId _ deposit =>
    ∃ row, w.orders.get? orderId = some row ∧
      ∀ sent ∈ deposit, sent.Concerns orderId .deposit ∧ row.orderType = .creditPurchase
  | failPayment orderId => ∃ row, w.orders.get? orderId = some row
  | refundPayment orderId => ∃ row, w.orders.get? orderId = some row

theorem toOrder_status {row : OrderRow} (h : row.toOrder = some order) :
    order.status = row.status ∧ order.orderType = row.orderType := by
  simp only [OrderRow.toOrder, bind_eq_bind, bind_eq_some_iff] at h
  obtain ⟨_, -, _, -, _, -, _, -, h⟩ := h
  obtain rfl := some.inj h
  exact ⟨rfl, rfl⟩

theorem credits_type {request : OrderCompleteRequest} {credits : PyStr × ℚ}
    (h : order.credits request = some credits) : order.orderType = .creditPurchase := by
  rw [Order.credits] at h
  split at h
  · next htype _ _ => exact htype
  · cases h

theorem refund_concerns {orderId : ℕ} {request : OrderCancelRequest} {refund : WalletRequest}
    {received : Bool} (h : order.refund orderId request = some refund) :
    (SentRequest.mk refund received).Concerns orderId .refund ∧ 0 < refund.amount := by
  obtain ⟨amount, hamount, h⟩ := bind_eq_some_iff.mp h
  obtain ⟨walletId, -, h⟩ := bind_eq_some_iff.mp h
  obtain rfl := some.inj h
  obtain ⟨-, hpos⟩ := filter_eq_some_iff.mp hamount
  exact ⟨⟨rfl, rfl⟩, of_decide_eq_true hpos⟩

theorem mem_of_mapM {α β : Type} {f : α → Option β} {as : List α} {bs : List β}
    (h : as.mapM f = some bs) {b : β} (hb : b ∈ bs) : ∃ a ∈ as, f a = some b := by
  induction as generalizing bs with
  | nil =>
    obtain rfl := some.inj h
    cases hb
  | cons a as ih =>
    rw [List.mapM_cons] at h
    obtain ⟨b', hb', h⟩ := bind_eq_some_iff.mp h
    obtain ⟨bs', hbs', h⟩ := bind_eq_some_iff.mp h
    obtain rfl := some.inj h
    rcases List.mem_cons.mp hb with rfl | hb
    · exact ⟨a, List.mem_cons_self, hb'⟩
    · obtain ⟨a', ha', hfa'⟩ := ih hbs' hb
      exact ⟨a', List.mem_cons_of_mem _ ha', hfa'⟩

theorem target_stored {env : Environment} {event : PaymentEvent} {order : Row Order}
    (h : w.target env event = some order) : ∃ row, w.orders.get? order.id = some row := by
  rw [target] at h
  split at h
  · cases h
  · obtain ⟨paymentIntentId, -, h⟩ := bind_eq_some_iff.mp h
    rw [intended] at h
    split at h
    · obtain ⟨orders, horders, hhead⟩ := bind_eq_some_iff.mp h
      obtain ⟨row, hrow, horder⟩ := mem_of_mapM horders (List.mem_of_head? hhead)
      obtain ⟨order', -, rfl⟩ := map_eq_some_iff.mp horder
      exact ⟨row.val, (Table.mem_select.mp (List.mem_rotate.mp hrow)).1⟩
    · cases h

theorem completionDeed_sound (env : Environment) (n orderId : ℕ) (request : OrderCompleteRequest) :
    (w.completionDeed env n orderId request).Sound w := by
  rw [completionDeed]
  split
  · next hcompletes =>
      obtain ⟨order, hfound⟩ := isSome_iff_exists.mp hcompletes.1
      obtain ⟨row, hrow, horder⟩ := found_stored hfound
      refine ⟨row, hrow, fun sent hsent => ?_⟩
      rw [deposit, hfound] at hsent
      split at hsent
      · obtain ⟨credits, hcredits, rfl⟩ := map_eq_some_iff.mp hsent
        rw [← (toOrder_status horder).2]
        exact ⟨⟨rfl, rfl⟩, credits_type hcredits⟩
      · cases hsent
  · trivial

theorem cancellationDeed_sound (env : Environment) (n orderId : ℕ) (request : OrderCancelRequest) :
    (w.cancellationDeed env n orderId request).Sound w := by
  rw [cancellationDeed]
  split
  · next hcancels =>
      obtain ⟨order, hfound, hfinal⟩ := hcancels.1
      obtain ⟨row, hrow, horder⟩ := found_stored hfound
      rw [(toOrder_status horder).1] at hfinal
      refine ⟨row, hrow, hfinal, fun sent hsent => ?_⟩
      rw [refund] at hsent
      split at hsent
      · obtain ⟨order, -, hsent⟩ := bind_eq_some_iff.mp hsent
        obtain ⟨refund, hrefund, rfl⟩ := map_eq_some_iff.mp hsent
        exact refund_concerns hrefund
      · cases hsent
  · trivial

/-- **Every deed is sound.** -/
theorem deed_sound (service : OrderService) (w : World) (attempt : Attempt) :
    (service.deed w attempt).Sound w := by
  obtain ⟨request, env⟩ := attempt
  cases request with
  | create request =>
    simp only [OrderService.deed]
    rcases creating_inserts service request env w with h | ⟨row, h⟩
    · rw [h, Table.get?_size]
      trivial
    · rw [h.orders, World.insert, Table.get?_insert_size]
      exact h.fresh
  | cancel orderId request => exact cancellationDeed_sound env 0 orderId request
  | complete orderId request => exact completionDeed_sound env 0 orderId request
  | paymentCompleted event =>
    simp only [OrderService.deed]
    split
    · exact completionDeed_sound _ _ _ _
    · trivial
  | paymentFailed event =>
    simp only [OrderService.deed]
    split
    · next htarget =>
        split
        · trivial
        · exact target_stored htarget
    · trivial
  | paymentRefunded event =>
    simp only [OrderService.deed]
    split
    · next htarget =>
        split
        · trivial
        · exact target_stored htarget
    · trivial
  | creditsAdded event => trivial

end Deeds

end IsaUser.Orders
