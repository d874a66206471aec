import IsaUser.Order.Model

/-!
# The Order Service

`OrderService` (`order_service.py`): orders are created, cancelled and completed. The methods
never raise; what they catch is part of the response. The account of the user is looked up by
`create_order` without consequence, and events are published at the end of each method without
consequence; both are left out.
-/

namespace IsaUser.Orders

/-! ### Requests and responses -/

structure OrderService where
  coercions : Coercions
  inventoryClient : Bool
  taxClient : Bool
  paymentClient : Bool
  fulfillmentClient : Bool

structure OrderCreateRequest where
  userId : PyStr
  orderType : OrderType
  totalAmount : ℚ
  currency : PyStr := "USD".toList
  paymentIntentId : Option PyStr := none
  subscriptionId : Option PyStr := none
  walletId : Option PyStr := none
  items : List OrderLineItem := []
  subtotalAmount : Option Amount := none
  taxAmount : Option Amount := none
  shippingAmount : Option Amount := none
  discountAmount : Option Amount := none
  finalAmount : Option Amount := none
  shippingAddress : Option Address := none
  /-- `gt=0`. -/
  total_pos : 0 < totalAmount

structure OrderCancelRequest where
  reason : Option PyStr := none
  refundAmount : Option ℚ := none

structure OrderCompleteRequest where
  paymentConfirmed : Bool
  transactionId : Option PyStr := none
  creditsAdded : Option ℚ := none

inductive Detail where
  | orderId (id : ℕ)
  | status (status : OrderStatus)
  | exception (e : OrderError)
  deriving DecidableEq

structure OrderResponse where
  success : Bool
  order : Option (ℕ × Order) := none
  message : String
  detail : Option Detail := none
  errorCode : Option String := none
  deriving DecidableEq

/-! ### Clients -/

/-- A client: what its call raises is logged, and it returns `None`. -/
def client (call : Call) : OrderM (Option (OrderApi.Reply call)) :=
  (do let reply ← ask call; return some reply : OrderM _).tryCatch fun _ => return none

/-- What is read of an answer: nothing, if the client returns `None`. -/
def readReply {α : Type} : Option (Except OrderError (Option α)) → OrderM (Option α)
  | none => return none
  | some reply => Prog.lift reply

/-- `TaxClient.calculate`, and the total tax of its answer. -/
def calculateTax (items : List OrderLineItem) (address : Address) : OrderM (Option ℚ) := do
  let reply ← client (.calculateTax items address)
  readReply reply

/-- `InventoryClient.reserve`. -/
def reserveInventory (orderId : ℕ) (items : List OrderLineItem) : OrderM Bool := do
  let reply : Option Bool ← client (.reserve orderId items)
  return reply.getD false

/-- `PaymentClient.create_payment_intent_v2`, and the id of the intent in its answer. -/
def createPaymentIntent (orderId : ℕ) (request : PaymentIntentRequest) :
    OrderM (Option PyStr) := do
  let reply ← client (.createPaymentIntent orderId request)
  readReply reply

/-- `FulfillmentClient.create_shipment`, and the tracking number in its answer. -/
def createShipment (orderId : ℕ) (items : List OrderLineItem) (address : Address) :
    OrderM (Option PyStr) := do
  let reply ← client (.createShipment orderId items address)
  readReply reply

/-- `_add_credits_to_wallet`. What it returns is not looked at. -/
def addCreditsToWallet (userId walletId : PyStr) (amount : ℚ) (orderId : ℕ) : OrderM Unit := do
  let _ ← client (.postToWallet
    { userId, walletId, amount, orderId, transactionType := .deposit })

/-- `_process_refund`. What it returns is not looked at. -/
def processRefund (orderId : ℕ) (order : Order) (refundAmount : ℚ) : OrderM Unit :=
  match given order.walletId with
  | none => return ()
  | some walletId => do
    let _ ← client (.postToWallet
      { userId := order.userId, walletId, amount := refundAmount, orderId
        transactionType := .refund })

/-! ### Creation -/

def validateOrderCreateRequest (request : OrderCreateRequest) : Except OrderError Unit :=
  if request.userId.strip = [] then .error (.orderValidationError "user_id is required")
  else if request.totalAmount ≤ 0 then
    .error (.orderValidationError "total_amount must be positive")
  else if request.orderType = .creditPurchase ∧ given request.walletId = none then
    .error (.orderValidationError "wallet_id is required for credit purchases")
  else if request.orderType = .subscription ∧ given request.subscriptionId = none then
    .error (.orderValidationError "subscription_id is required for subscription orders")
  else if request.items.any OrderLineItem.shippable ∧ request.shippingAddress = none then
    .error (.orderValidationError "shipping_address is required for shippable items")
  else .ok ()

def calculateTotals (items : List OrderLineItem) : ℚ :=
  (items.map fun item => (item.quantity : ℚ) * item.unitPrice.val).sum

/-- `final_amount` of the order, with the tax that it is given. -/
def OrderCreateRequest.final (request : OrderCreateRequest) (taxAmount : Option ℚ) : ℚ :=
  (request.finalAmount.map Subtype.val).getD (calculateTotals request.items)
    + taxAmount.getD 0 + (request.shippingAmount.map Subtype.val).getD 0
    - (request.discountAmount.map Subtype.val).getD 0

/-- `subtotal_amount` of the order. -/
def OrderCreateRequest.subtotal (request : OrderCreateRequest) : ℚ :=
  (request.subtotalAmount.map Subtype.val).getD (calculateTotals request.items)

/-- The payment that `create_order` requests, with the tax that it is given. -/
def OrderCreateRequest.paymentRequest (request : OrderCreateRequest) (taxAmount : Option ℚ) :
    PaymentIntentRequest :=
  { userId := request.userId, amount := request.final taxAmount, currency := request.currency
    subtotalAmount := request.subtotal, taxAmount := taxAmount.getD 0
    shippingAmount := (request.shippingAmount.map Subtype.val).getD 0
    discountAmount := (request.discountAmount.map Subtype.val).getD 0 }

/-- The row that `create_order` of the repository inserts. -/
def OrderCreateRequest.row (request : OrderCreateRequest) (taxAmount : Option ℚ) : OrderRow :=
  { userId := request.userId, orderType := request.orderType
    totalAmount := float request.totalAmount, currency := request.currency
    discountAmount := float ((request.discountAmount.map Subtype.val).getD 0)
    taxAmount := float (taxAmount.getD 0), finalAmount := float (request.final taxAmount)
    paymentIntentId := request.paymentIntentId, subscriptionId := request.subscriptionId
    walletId := request.walletId, items := request.items
    shippingAddress := request.shippingAddress }

section Methods

variable (service : OrderService)

def taxAmount (request : OrderCreateRequest) : OrderM (Option ℚ) :=
  match request.taxAmount, service.taxClient, request.shippingAddress with
  | none, true, some address => calculateTax request.items address
  | given, _, _ => return given.map Subtype.val

def attachPaymentIntent (orderId : ℕ) (request : PaymentIntentRequest) : OrderM Unit := do
  if service.paymentClient then
    match given (← createPaymentIntent orderId request) with
    | none => pure ()
    | some paymentIntentId =>
      let _ ← updateOrder orderId { paymentIntentId := some paymentIntentId }

/-- The part of `create_order` that may raise. -/
def createValidated (request : OrderCreateRequest) : OrderM OrderResponse := do
  let tax ← taxAmount service request
  let (orderId, created) ← insertOrder (request.row tax)
  match created with
  | none => .raise .attributeError
  | some order =>
    let shippable := request.items.filter OrderLineItem.shippable
    let reserved ←
      if service.inventoryClient ∧ shippable ≠ [] then reserveInventory orderId shippable
      else pure true
    if ¬reserved then
      let _ ← updateOrderStatus orderId .failed
      return { success := false, message := "Inventory reservation failed"
               errorCode := "INVENTORY_RESERVATION_FAILED" }
    else
      attachPaymentIntent service orderId (request.paymentRequest tax)
      return { success := true, order := some (orderId, order)
               message := "Order created successfully" }

def createOrder (request : OrderCreateRequest) : OrderM OrderResponse :=
  Prog.tryCatch (Prog.lift (validateOrderCreateRequest request) >>= fun _ =>
      createValidated service request) fun
    | .orderValidationError message =>
      return { success := false, message, errorCode := "VALIDATION_ERROR" }
    | e =>
      return { success := false, message := "Failed to create order: "
               detail := some (.exception e), errorCode := "CREATE_ERROR" }

end Methods

/-! ### Cancellation and completion -/

def orderNotFound (orderId : ℕ) : OrderResponse :=
  { success := false, message := "Order not found: ", detail := some (.orderId orderId)
    errorCode := "ORDER_NOT_FOUND" }

def OrderStatus.final (status : OrderStatus) : Prop :=
  status = .completed ∨ status = .cancelled ∨ status = .refunded
  deriving Decidable

def refundCancelled (orderId : ℕ) (order : Order) (request : OrderCancelRequest) : OrderM Unit :=
  match request.refundAmount with
  | none => return ()
  | some refundAmount =>
    if 0 < refundAmount then processRefund orderId order refundAmount else return ()

/-- `cancel_order`. -/
def cancel (orderId : ℕ) (request : OrderCancelRequest) : OrderM OrderResponse :=
  Prog.tryCatch (do
    match ← getOrder orderId with
    | none => return orderNotFound orderId
    | some existing =>
      if existing.status.final then
        return { success := false, message := "Cannot cancel order with status: "
                 detail := some (.status existing.status), errorCode := "INVALID_STATUS" }
      else
        let success ← cancelOrder orderId
        if success then
          refundCancelled orderId existing request
          return { success := true, message := "Order cancelled successfully" }
        else
          return { success := false, message := "Failed to cancel order"
                   errorCode := "CANCEL_ERROR" })
    fun e => return { success := false, message := "Failed to cancel order: "
                      detail := some (.exception e), errorCode := "CANCEL_ERROR" }

def Order.credits (order : Order) (request : OrderCompleteRequest) : Option (PyStr × ℚ) :=
  match order.orderType, given order.walletId, request.creditsAdded with
  | .creditPurchase, some walletId, some creditsAdded =>
    if creditsAdded = 0 then none else some (walletId, creditsAdded)
  | _, _, _ => none

/-- `complete_order`. -/
def complete (orderId : ℕ) (request : OrderCompleteRequest) : OrderM OrderResponse :=
  Prog.tryCatch (do
    match ← getOrder orderId with
    | none => return orderNotFound orderId
    | some existing =>
      if ¬request.paymentConfirmed then
        return { success := false, message := "Payment not confirmed"
                 errorCode := "PAYMENT_NOT_CONFIRMED" }
      else
        let success ← completeOrder orderId request.transactionId
        if success then
          match existing.credits request with
          | none => pure ()
          | some (walletId, amount) => addCreditsToWallet existing.userId walletId amount orderId
          return { success := true, message := "Order completed successfully" }
        else
          return { success := false, message := "Failed to complete order"
                   errorCode := "COMPLETE_ERROR" })
    fun e => return { success := false, message := "Failed to complete order: "
                      detail := some (.exception e), errorCode := "COMPLETE_ERROR" }

end IsaUser.Orders
