import IsaUser.Order.Service

/-!
# The Event Handlers of the Order Service

`events/handlers.py`: the events of the payment service complete, fail or refund the order of
the payment intent that they name. A handler catches everything, and remembers the event, in
the memory of its replica, when it has got through. `handle_wallet_credits_added`, and the
refund of a payment that names no intent, call methods that the repository does not have.
-/

namespace IsaUser.Orders

structure PaymentEvent where
  eventId : Option PyStr := none
  paymentIntentId : Option PyStr := none
  paymentId : Option PyStr := none
  transactionId : Option PyStr := none
  amount : Json := .null

/-- An event `wallet.credits_added`. -/
structure CreditsAddedEvent where
  eventId : Option PyStr := none
  userId : Option PyStr := none

/-- `event_id and is_event_processed(event_id)`. -/
def isEventProcessed (eventId : Option PyStr) : OrderM Bool :=
  match given eventId with
  | none => return false
  | some eventId => ask (.isEventProcessed eventId)

/-- `if event_id: mark_event_processed(event_id)`. -/
def markEventProcessed (eventId : Option PyStr) : OrderM Unit :=
  match given eventId with
  | none => return ()
  | some eventId => ask (.markEventProcessed eventId)

section Handlers

variable (service : OrderService)

/-- `Decimal(str(amount)) if amount else None`. -/
def PaymentEvent.credits (event : PaymentEvent) : Except OrderError (Option ℚ) :=
  if event.amount.truthy then
    match service.coercions.asDecimal event.amount with
    | some amount => .ok (some amount)
    | none => .error .validationError
  else .ok none

def fulfill (order : Row Order) : OrderM Unit := do
  if service.inventoryClient ∧ service.fulfillmentClient then
    match order.val.items.filter OrderLineItem.shippable, order.val.shippingAddress with
    | item :: items, some address =>
      let _ ← client (.commit order.id)
      match given (← createShipment order.id (item :: items) address) with
      | none => pure ()
      | some trackingNumber =>
        let _ ← updateOrder order.id
          { fulfillmentStatus := some .shipped, trackingNumber := some trackingNumber }
    | _, _ => pure ()

def handlePaymentCompleted (event : PaymentEvent) : OrderM Unit :=
  Prog.tryCatch (do
    if ← isEventProcessed event.eventId then return ()
    match given event.paymentIntentId with
    | none => return ()
    | some paymentIntentId =>
      match ← getOrderByPaymentIntent paymentIntentId with
      | none => markEventProcessed event.eventId
      | some order =>
        let creditsAdded ← Prog.lift (event.credits service)
        let _ ← complete order.id
          { paymentConfirmed := true, creditsAdded
            transactionId := given event.paymentId <|> event.transactionId }
        fulfill service order
        markEventProcessed event.eventId)
    fun _ => return ()

def handlePaymentFailed (event : PaymentEvent) : OrderM Unit :=
  Prog.tryCatch (do
    if ← isEventProcessed event.eventId then return ()
    match given event.paymentIntentId with
    | none => return ()
    | some paymentIntentId =>
      match ← getOrderByPaymentIntent paymentIntentId with
      | none => markEventProcessed event.eventId
      | some order =>
        let _ ← updateOrderStatus order.id .failed (some .failed)
        if service.inventoryClient then
          let _ ← client (.release order.id)
        markEventProcessed event.eventId)
    fun _ => return ()

/-- `handle_payment_refunded`. The repository has no `get_order_by_transaction_id`. -/
def handlePaymentRefunded (event : PaymentEvent) : OrderM Unit :=
  Prog.tryCatch (do
    if ← isEventProcessed event.eventId then return ()
    if given event.paymentId = none ∧ given event.paymentIntentId = none then return ()
    let order ← match given event.paymentIntentId with
      | some paymentIntentId => getOrderByPaymentIntent paymentIntentId
      | none => pure none
    match order with
    | some order =>
      let _ ← updateOrderStatus order.id .refunded (some .refunded)
      -- the refund goes into the metadata, which nothing reads
      let _ ← updateOrder order.id {}
      markEventProcessed event.eventId
    | none =>
      if given event.paymentId ≠ none then .raise .attributeError
      else markEventProcessed event.eventId)
    fun _ => return ()

/-- `handle_wallet_credits_added`. The repository has no `get_pending_orders_by_user`. -/
def handleWalletCreditsAdded (event : CreditsAddedEvent) : OrderM Unit :=
  Prog.tryCatch (do
    if ← isEventProcessed event.eventId then return ()
    match given event.userId with
    | none => return ()
    | some _ => .raise .attributeError)
    fun _ => return ()

end Handlers

/-! ### Requests -/

inductive Request where
  | create (request : OrderCreateRequest)
  | cancel (orderId : ℕ) (request : OrderCancelRequest)
  | complete (orderId : ℕ) (request : OrderCompleteRequest)
  | paymentCompleted (event : PaymentEvent)
  | paymentFailed (event : PaymentEvent)
  | paymentRefunded (event : PaymentEvent)
  | creditsAdded (event : CreditsAddedEvent)

def OrderService.handle (service : OrderService) : Request → OrderM Unit
  | .create request => (createOrder service request).void
  | .cancel orderId request => (Orders.cancel orderId request).void
  | .complete orderId request => (Orders.complete orderId request).void
  | .paymentCompleted event => handlePaymentCompleted service event
  | .paymentFailed event => handlePaymentFailed service event
  | .paymentRefunded event => handlePaymentRefunded event
  | .creditsAdded event => handleWalletCreditsAdded event

structure Attempt where
  request : Request
  env : Environment

def OrderService.step (service : OrderService) (w : World) (attempt : Attempt) : World :=
  ((service.handle attempt.request).run (served attempt.env) (w, 0)).2.1

end IsaUser.Orders
