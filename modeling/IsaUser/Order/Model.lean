import IsaUser.Lib.Faults
import IsaUser.Lib.Json
import IsaUser.Lib.Table

/-!
# Orders and Their Store

The order service keeps one table of orders. Its amounts are columns of doubles, which
`order_repository.py` reads back into an `Order` that is validated, so a row can be written that
cannot be read. The statements, and the requests to the other services, are the calls of
`OrderApi`; how each of them fares, and what the other services answer, is the `Environment` of
a request.
-/

namespace IsaUser.Orders

/-! ### Data -/

inductive OrderStatus where
  | pending
  | processing
  | completed
  | failed
  | cancelled
  | refunded
  deriving DecidableEq, Repr

inductive OrderType where
  | purchase
  | subscription
  | creditPurchase
  | premiumUpgrade
  deriving DecidableEq, Repr

inductive PaymentStatus where
  | pending
  | processing
  | completed
  | failed
  | refunded
  deriving DecidableEq, Repr

inductive FulfillmentStatus where
  | pending
  | allocated
  | shipped
  | delivered
  | failed
  deriving DecidableEq, Repr

inductive FulfillmentType where
  | digital
  | ship
  deriving DecidableEq, Repr

structure Address where
  line1 : PyStr
  city : PyStr
  postalCode : PyStr
  country : PyStr
  deriving DecidableEq

/-- `Decimal`, with `ge=0`. -/
abbrev Amount := {q : ℚ // 0 ≤ q}

structure OrderLineItem where
  productId : PyStr
  quantity : ℤ
  unitPrice : Amount
  fulfillmentType : FulfillmentType := .digital
  /-- `gt=0`. -/
  quantity_pos : 0 < quantity
  deriving DecidableEq

def OrderLineItem.shippable (item : OrderLineItem) : Bool := item.fulfillmentType = .ship

/-- A row of `orders.orders`. An amount is a double, or none if it is infinite. -/
structure OrderRow where
  userId : PyStr
  orderType : OrderType
  status : OrderStatus := .pending
  totalAmount : Option ℚ
  currency : PyStr
  discountAmount : Option ℚ
  taxAmount : Option ℚ
  finalAmount : Option ℚ
  paymentStatus : PaymentStatus := .pending
  paymentIntentId : Option PyStr
  subscriptionId : Option PyStr
  walletId : Option PyStr
  items : List OrderLineItem
  fulfillmentStatus : FulfillmentStatus := .pending
  trackingNumber : Option PyStr := none
  shippingAddress : Option Address
  deriving DecidableEq

/-- `Order`. The columns of the subtotal and of the shipping are never written, so these
amounts are always read as zero. -/
structure Order where
  userId : PyStr
  orderType : OrderType
  status : OrderStatus
  totalAmount : ℚ
  currency : PyStr
  paymentStatus : PaymentStatus
  paymentIntentId : Option PyStr
  subscriptionId : Option PyStr
  walletId : Option PyStr
  items : List OrderLineItem
  taxAmount : Amount
  discountAmount : Amount
  finalAmount : Amount
  fulfillmentStatus : FulfillmentStatus
  trackingNumber : Option PyStr
  shippingAddress : Option Address
  deriving DecidableEq

inductive OrderError where
  | orderValidationError (message : String)
  | validationError
  | attributeError
  | connectionError
  deriving DecidableEq, Repr

/-- `Decimal(str(...))` of a column, and the validation of what it gives. -/
def readAmount (column : Option ℚ) : Option Amount :=
  column.bind fun x => if h : 0 ≤ shortest x then some ⟨shortest x, h⟩ else none

/-- `_dict_to_order`. -/
def OrderRow.toOrder (row : OrderRow) : Option Order := do
  let totalAmount ← row.totalAmount.map shortest
  let taxAmount ← readAmount row.taxAmount
  let discountAmount ← readAmount row.discountAmount
  let finalAmount ← readAmount row.finalAmount
  return { userId := row.userId, orderType := row.orderType, status := row.status, totalAmount
           currency := row.currency, paymentStatus := row.paymentStatus
           paymentIntentId := row.paymentIntentId, subscriptionId := row.subscriptionId
           walletId := row.walletId, items := row.items, taxAmount, discountAmount, finalAmount
           fulfillmentStatus := row.fulfillmentStatus, trackingNumber := row.trackingNumber
           shippingAddress := row.shippingAddress }

/-- `update_data` of `update_order`: what is not given keeps its value. -/
structure OrderPatch where
  status : Option OrderStatus := none
  paymentStatus : Option PaymentStatus := none
  paymentIntentId : Option PyStr := none
  fulfillmentStatus : Option FulfillmentStatus := none
  trackingNumber : Option PyStr := none
  deriving DecidableEq

/-- The `SET` clause of `update_order`: a text that is empty is not given. -/
def OrderPatch.apply (patch : OrderPatch) (row : OrderRow) : OrderRow :=
  { row with
    status := patch.status.getD row.status
    paymentStatus := patch.paymentStatus.getD row.paymentStatus
    paymentIntentId := given patch.paymentIntentId <|> row.paymentIntentId
    fulfillmentStatus := patch.fulfillmentStatus.getD row.fulfillmentStatus
    trackingNumber := given patch.trackingNumber <|> row.trackingNumber }

/-! ### The world -/

/-- The transaction types of `WalletServiceRequest`. -/
inductive WalletTransactionType where
  | deposit
  | refund
  deriving DecidableEq, Repr

/-- `WalletServiceRequest`, posted to the deposits of a wallet. -/
structure WalletRequest where
  userId : PyStr
  walletId : PyStr
  amount : ℚ
  orderId : ℕ
  transactionType : WalletTransactionType
  deriving DecidableEq

/-- The arguments of `create_payment_intent_v2`, but for the order. -/
structure PaymentIntentRequest where
  userId : PyStr
  amount : ℚ
  currency : PyStr
  subtotalAmount : ℚ
  taxAmount : ℚ
  shippingAmount : ℚ
  discountAmount : ℚ
  deriving DecidableEq

/-- A request that has been sent, and whether the wallet service received it. -/
structure SentRequest where
  request : WalletRequest
  received : Bool
  deriving DecidableEq

/-- The orders, the requests to the wallet service, the orders of the active inventory
reservations, and the events that each replica remembers. -/
structure World where
  orders : Table OrderRow
  sent : List SentRequest
  reserved : List ℕ
  processed : ℕ → List PyStr

structure Environment where
  /-- How the call of each number fares. -/
  links : ℕ → Link
  /-- The replica that serves the request. -/
  replica : ℕ := 0
  /-- Where the rows begin that a query without an order returns. -/
  first : ℕ := 0
  /-- The order in which a set is listed. -/
  arrange : List PyStr → List PyStr := id
  /-- `total_tax` of the tax service, if its answer can be read. -/
  totalTax : Except OrderError (Option ℚ) := .ok none
  /-- The inventory service makes a reservation, and answers with it. -/
  reservation : Bool := true
  /-- `payment_intent_id` of the payment service, if its answer can be read. -/
  paymentIntent : Except OrderError (Option PyStr) := .ok none
  /-- `tracking_number` of the fulfillment service, if its answer can be read. -/
  shipment : Except OrderError (Option PyStr) := .ok none

/-! ### Calls -/

/-- The statements of the repository, the requests to other services, and the memory of the
replica. -/
inductive Call where
  | insertOrder (row : OrderRow)
  | selectOrder (orderId : ℕ)
  | selectByPaymentIntent (paymentIntentId : PyStr)
  | updateOrder (orderId : ℕ) (patch : OrderPatch)
  | calculateTax (items : List OrderLineItem) (address : Address)
  | reserve (orderId : ℕ) (items : List OrderLineItem)
  | commit (orderId : ℕ)
  | release (orderId : ℕ)
  | createPaymentIntent (orderId : ℕ) (request : PaymentIntentRequest)
  | createShipment (orderId : ℕ) (items : List OrderLineItem) (address : Address)
  | postToWallet (request : WalletRequest)
  | isEventProcessed (eventId : PyStr)
  | markEventProcessed (eventId : PyStr)

def Call.Reply : Call → Type
  | insertOrder _ => ℕ
  | selectOrder _ => Option OrderRow
  | selectByPaymentIntent _ => List (Row OrderRow)
  | updateOrder _ _ => Bool
  | calculateTax _ _ => Except OrderError (Option ℚ)
  | reserve _ _ => Bool
  | commit _ => Unit
  | release _ => Unit
  | createPaymentIntent _ _ => Except OrderError (Option PyStr)
  | createShipment _ _ _ => Except OrderError (Option PyStr)
  | postToWallet _ => Unit
  | isEventProcessed _ => Bool
  | markEventProcessed _ => Unit

@[reducible] def OrderApi : Interface := ⟨Call, Call.Reply⟩

/-- `INSERT INTO orders.orders`. -/
def World.insert (row : OrderRow) (w : World) : World :=
  { w with orders := w.orders.insert row }

/-- `UPDATE orders.orders`. -/
def World.update (orderId : ℕ) (patch : OrderPatch) (w : World) : World :=
  { w with orders := w.orders.modify orderId patch.apply }

def World.send (request : SentRequest) (w : World) : World :=
  { w with sent := w.sent ++ [request] }

/-- `mark_event_processed`: of more than 10000 events, 5000 are forgotten. -/
def remember (arrange : List PyStr → List PyStr) (eventId : PyStr) (ids : List PyStr) :
    List PyStr :=
  let ids := if eventId ∈ ids then ids else ids ++ [eventId]
  if 10000 < ids.length then (arrange ids).drop 5000 else ids

def World.mark (env : Environment) (eventId : PyStr) (w : World) : World :=
  let ids := remember env.arrange eventId (w.processed env.replica)
  { w with processed := Function.update w.processed env.replica ids }

def World.serve (env : Environment) : Handler OrderApi World
  | .insertOrder row, w => (w.orders.size, w.insert row)
  | .selectOrder orderId, w => (w.orders.get? orderId, w)
  | .selectByPaymentIntent paymentIntentId, w =>
    ((w.orders.select fun row => row.paymentIntentId = some paymentIntentId).rotate env.first, w)
  | .updateOrder orderId patch, w => ((w.orders.get? orderId).isSome, w.update orderId patch)
  | .calculateTax _ _, w => (env.totalTax, w)
  | .reserve orderId _, w =>
    (env.reservation,
      if env.reservation then { w with reserved := w.reserved ++ [orderId] } else w)
  | .commit orderId, w => ((), { w with reserved := w.reserved.erase orderId })
  | .release orderId, w => ((), { w with reserved := w.reserved.erase orderId })
  | .createPaymentIntent _ _, w => (env.paymentIntent, w)
  | .createShipment _ _ _, w => (env.shipment, w)
  | .postToWallet request, w => ((), w.send ⟨request, true⟩)
  | .isEventProcessed eventId, w => (decide (eventId ∈ w.processed env.replica), w)
  | .markEventProcessed eventId, w => ((), w.mark env eventId)

/-- The handler of a request. The memory of the replica always answers, and a request to the
wallet service that is not received has been sent all the same. -/
def served (env : Environment) : Handler (OrderApi.fallible OrderError) (World × ℕ)
  | .isEventProcessed eventId, s => (.ok (decide (eventId ∈ s.1.processed env.replica)), s)
  | .markEventProcessed eventId, s => (.ok (), s.1.mark env eventId, s.2)
  | .postToWallet request, s =>
    (((env.links s.2).send .connectionError ((), s.1) s.1).1,
      s.1.send ⟨request, env.links s.2 ≠ .down⟩, s.2 + 1)
  | c, s => overLinks env.links .connectionError (World.serve env) c s

/-! ### The repository -/

abbrev OrderM := Prog (OrderApi.fallible OrderError) OrderError

def ask (call : Call) : OrderM (OrderApi.Reply call) := Prog.query (I := OrderApi) id call

/-- `_dict_to_order`, which raises if the row is invalid. -/
def dictToOrder (row : OrderRow) : OrderM Order :=
  match row.toOrder with
  | some order => return order
  | none => .raise .validationError

def getOrder (orderId : ℕ) : OrderM (Option Order) := do
  match ← ask (.selectOrder orderId) with
  | none => return none
  | some row =>
    let order ← dictToOrder row
    return some order

/-- `create_order` of the repository. -/
def insertOrder (row : OrderRow) : OrderM (ℕ × Option Order) := do
  let orderId ← ask (.insertOrder row)
  let order ← getOrder orderId
  return (orderId, order)

def updateOrder (orderId : ℕ) (patch : OrderPatch) : OrderM (Option Order) := do
  let updated : Bool ← ask (.updateOrder orderId patch)
  if updated then getOrder orderId else return none

def updateOrderStatus (orderId : ℕ) (status : OrderStatus)
    (paymentStatus : Option PaymentStatus := none) : OrderM (Option Order) :=
  updateOrder orderId { status, paymentStatus }

def cancelOrder (orderId : ℕ) : OrderM Bool := do
  let order ← updateOrder orderId { status := some .cancelled }
  return order.isSome

/-- The patch of `complete_order`. -/
def completion (paymentIntentId : Option PyStr) : OrderPatch :=
  { status := some .completed, paymentStatus := some .completed, paymentIntentId }

def completeOrder (orderId : ℕ) (paymentIntentId : Option PyStr) : OrderM Bool := do
  let order ← updateOrder orderId (completion paymentIntentId)
  return order.isSome

def readOrders : List (Row OrderRow) → OrderM (List (Row Order))
  | [] => return []
  | row :: rows => do
    let order ← dictToOrder row.val
    let orders ← readOrders rows
    return ⟨row.id, order⟩ :: orders

def getOrderByPaymentIntent (paymentIntentId : PyStr) : OrderM (Option (Row Order)) := do
  let rows ← ask (.selectByPaymentIntent paymentIntentId)
  let orders ← readOrders rows
  return orders.head?

end IsaUser.Orders
