import IsaUser.Lib.Binary64
import IsaUser.Lib.Faults
import IsaUser.Lib.Values

/-!
# Payments and Their Store

The payment service keeps payments, refunds and invoices, talks to the payment processor and
publishes events. Its amounts are columns of doubles. The statements of
`payment_repository.py`, the requests to the processor and to the account service, and the
publications are the calls of `PaymentApi`; what the surroundings make of one call is its
`Fortune`.

The repository logs what it catches and answers `None`, so that a statement that fails reads
like a row that is missing.
-/

namespace IsaUser.Payments

/-! ### Data -/

inductive PaymentStatus where
  | pending
  | processing
  | succeeded
  | failed
  | canceled
  | refunded
  | partialRefund
  deriving DecidableEq, Repr

inductive PaymentMethod where
  | creditCard
  | debitCard
  | alipay
  | wechatPay
  | bankTransfer
  | stripe
  | paypal
  deriving DecidableEq, Repr

/-- The value of a `PaymentMethod`. -/
def PaymentMethod.value : PaymentMethod → PyStr
  | creditCard => "credit_card".toList
  | debitCard => "debit_card".toList
  | alipay => "alipay".toList
  | wechatPay => "wechat_pay".toList
  | bankTransfer => "bank_transfer".toList
  | stripe => "stripe".toList
  | paypal => "paypal".toList

inductive Currency where
  | usd
  | eur
  | gbp
  | cny
  | jpy
  deriving DecidableEq, Repr

/-- The value of a `Currency`. -/
def Currency.value : Currency → PyStr
  | usd => "USD".toList
  | eur => "EUR".toList
  | gbp => "GBP".toList
  | cny => "CNY".toList
  | jpy => "JPY".toList

inductive InvoiceStatus where
  | draft
  | open
  | paid
  | void
  | uncollectible
  deriving DecidableEq, Repr

inductive RefundStatus where
  | pending
  | processing
  | succeeded
  | failed
  | canceled
  deriving DecidableEq, Repr

/-- `Decimal`, with `ge=0`. -/
abbrev Amount := {q : ℚ // 0 ≤ q}

/-- A row of `payment.transactions`. An amount is a double, or none if it is infinite. -/
structure PaymentRow where
  userId : PyStr
  orderId : Option PyStr := none
  amount : Option Double
  currency : Currency := .usd
  status : PaymentStatus := .pending
  paymentMethod : PaymentMethod := .stripe
  processorPaymentId : Option PyStr
  failureReason : Option PyStr := none
  failureCode : Option PyStr := none
  deriving DecidableEq

structure Payment where
  paymentId : PyStr
  userId : PyStr
  orderId : Option PyStr
  amount : Amount
  currency : Currency
  status : PaymentStatus
  paymentMethod : PaymentMethod
  processorPaymentId : Option PyStr
  failureReason : Option PyStr
  failureCode : Option PyStr
  deriving DecidableEq

/-- A row of `payment.refunds`. -/
structure RefundRow where
  refundId : PyStr
  paymentId : PyStr
  userId : PyStr
  amount : Option Double
  currency : Currency
  reason : PyStr
  status : RefundStatus := .processing
  requestedBy : PyStr
  approvedBy : Option PyStr := none
  deriving DecidableEq

structure Refund where
  refundId : PyStr
  paymentId : PyStr
  userId : PyStr
  amount : Amount
  currency : Currency
  reason : PyStr
  status : RefundStatus
  requestedBy : PyStr
  approvedBy : Option PyStr
  deriving DecidableEq

/-- A row of `payment.invoices`. -/
structure InvoiceRow where
  invoiceNumber : PyStr
  userId : PyStr
  status : InvoiceStatus := .open
  amountTotal : Option Double
  amountPaid : Option Double
  amountDue : Option Double
  paymentIntentId : Option PyStr := none
  deriving DecidableEq

structure Invoice where
  invoiceId : PyStr
  invoiceNumber : PyStr
  userId : PyStr
  status : InvoiceStatus
  amountTotal : Amount
  amountPaid : Amount
  amountDue : Amount
  paymentIntentId : Option PyStr
  deriving DecidableEq

/-- `Decimal(str(...))` of a column, and the validation of what it gives. -/
def readAmount (column : Option Double) : Option Amount :=
  column.bind fun x => if h : 0 ≤ shortest x.1 then some ⟨shortest x.1, h⟩ else none

/-- `_convert_to_payment`. -/
def PaymentRow.toPayment (paymentId : PyStr) (row : PaymentRow) : Option Payment :=
  (readAmount row.amount).map fun amount =>
    { paymentId, userId := row.userId, orderId := row.orderId, amount, currency := row.currency
      status := row.status, paymentMethod := row.paymentMethod
      processorPaymentId := row.processorPaymentId, failureReason := row.failureReason
      failureCode := row.failureCode }

/-- `_convert_to_refund`. -/
def RefundRow.toRefund (row : RefundRow) : Option Refund :=
  (readAmount row.amount).map fun amount =>
    { refundId := row.refundId, paymentId := row.paymentId, userId := row.userId, amount
      currency := row.currency, reason := row.reason, status := row.status
      requestedBy := row.requestedBy, approvedBy := row.approvedBy }

/-- `_convert_to_invoice`. -/
def InvoiceRow.toInvoice (invoiceId : PyStr) (row : InvoiceRow) : Option Invoice := do
  let amountTotal ← readAmount row.amountTotal
  let amountPaid ← readAmount row.amountPaid
  let amountDue ← readAmount row.amountDue
  return { invoiceId, invoiceNumber := row.invoiceNumber, userId := row.userId
           status := row.status, amountTotal, amountPaid, amountDue
           paymentIntentId := row.paymentIntentId }

/-- The `SET` clause of `update_payment_status`. -/
inductive StatusUpdate where
  /-- To another status than `FAILED`: the columns of a failure stay. -/
  | set (status : PaymentStatus)
  /-- To `FAILED`. -/
  | failed (failureReason : PyStr) (failureCode : Option PyStr)
  deriving DecidableEq

def StatusUpdate.status : StatusUpdate → PaymentStatus
  | set status => status
  | failed _ _ => .failed

/-- The row after `update_payment_status`. -/
def StatusUpdate.apply : StatusUpdate → PaymentRow → PaymentRow
  | set status, row => { row with status }
  | failed failureReason failureCode, row =>
    { row with status := .failed, failureReason, failureCode }

/-! ### Events -/

structure PaymentCompletedEvent where
  paymentIntentId : PyStr
  paymentId : Option PyStr := none
  userId : PyStr
  /-- None is infinite. -/
  amount : Option Double
  currency : PyStr
  paymentMethod : Option PyStr
  deriving DecidableEq

/-- An event of the payment service. Its id is drawn when it is published. -/
inductive Event where
  | paymentIntentCreated (paymentIntentId userId : PyStr) (amount : Amount) (currency : PyStr)
      (orderId : Option PyStr)
  | paymentCompleted (data : PaymentCompletedEvent)
  | paymentFailed (paymentIntentId userId : PyStr) (amount : Double) (currency : PyStr)
      (errorMessage errorCode : Option PyStr)
  deriving DecidableEq

/-! ### The world -/

/-- The tables, by their unique keys; what has been published, an event at a position for each
id that was drawn; and the intents that the processor has reported as succeeded. -/
structure World where
  payments : PyStr → Option PaymentRow
  refunds : List RefundRow
  invoices : PyStr → Option InvoiceRow
  published : List Event
  reported : List PyStr

def World.empty : World := ⟨fun _ => none, [], fun _ => none, [], []⟩

/-- What the surroundings make of a call: how it fares, and what others answer to it. -/
structure Fortune where
  link : Link := .up
  /-- The text of `datetime.utcnow().timestamp()`. -/
  timestamp : PyStr := []
  /-- The account service has a profile. -/
  profile : Bool := true
  /-- The id that the processor gives to a new intent or a new refund. -/
  processorId : PyStr := []
  /-- The status of an intent after a confirmation. -/
  intentStatus : PyStr := "succeeded".toList

inductive CallError where
  | connectionError
  | uniqueViolation
  deriving DecidableEq, Repr

/-! ### Calls -/

/-- The statements of the repository, the requests to others, and the publications. -/
inductive Call where
  | getAccountProfile (userId : PyStr)
  | timestamp
  | stripeCreate (amount : ℤ) (currency : Currency)
  | stripeConfirm (processorPaymentId : PyStr)
  | stripeRefund (processorPaymentId : PyStr) (amount : Option ℤ)
  | insertPayment (paymentId : PyStr) (row : PaymentRow)
  | selectPayment (paymentId : PyStr)
  | updatePayment (paymentId : PyStr) (update : StatusUpdate)
  | selectInvoice (invoiceId : PyStr)
  | updateInvoice (invoiceId paymentIntentId : PyStr)
  | insertRefund (row : RefundRow)
  | selectRefund (refundId : PyStr)
  | updateRefund (refundId : PyStr) (approvedBy : Option PyStr)
  | publish (event : Event)

def Call.Reply : Call → Type
  | getAccountProfile _ => Bool
  | timestamp => PyStr
  | stripeCreate _ _ => PyStr
  | stripeConfirm _ => PyStr
  | stripeRefund _ _ => PyStr
  | insertPayment _ _ => Unit
  | selectPayment _ => Option PaymentRow
  | updatePayment _ _ => Bool
  | selectInvoice _ => Option InvoiceRow
  | updateInvoice _ _ => Bool
  | insertRefund _ => Unit
  | selectRefund _ => Option RefundRow
  | updateRefund _ _ => Bool
  | publish _ => Unit

@[reducible] def PaymentApi : Interface := ⟨Call, Call.Reply⟩

/-- `INSERT INTO payment.transactions`, of an id that is free. -/
def World.putPayment (paymentId : PyStr) (row : PaymentRow) (w : World) : World :=
  { w with payments := Function.update w.payments paymentId (some row) }

/-- `UPDATE payment.transactions`. -/
def World.setStatus (paymentId : PyStr) (update : StatusUpdate) (w : World) : World :=
  { w with payments :=
      Function.update w.payments paymentId ((w.payments paymentId).map update.apply) }

/-- `UPDATE payment.invoices SET status = 'paid'`. -/
def World.markInvoice (invoiceId paymentIntentId : PyStr) (w : World) : World :=
  let paid := (w.invoices invoiceId).map fun row =>
    { row with status := .paid, paymentIntentId := some paymentIntentId }
  { w with invoices := Function.update w.invoices invoiceId paid }

/-- `INSERT INTO payment.refunds`, of an id that is free. -/
def World.addRefund (row : RefundRow) (w : World) : World :=
  { w with refunds := w.refunds ++ [row] }

def RefundRow.approve (refundId : PyStr) (approvedBy : Option PyStr) (row : RefundRow) : RefundRow :=
  if row.refundId = refundId then { row with status := .succeeded, approvedBy } else row

/-- `UPDATE payment.refunds SET status = 'succeeded'`. -/
def World.approveRefund (refundId : PyStr) (approvedBy : Option PyStr) (w : World) : World :=
  { w with refunds := w.refunds.map (RefundRow.approve refundId approvedBy) }

def World.refund? (w : World) (refundId : PyStr) : Option RefundRow :=
  w.refunds.find? fun row => row.refundId = refundId

/-- `publish_event`. -/
def World.publish (event : Event) (w : World) : World :=
  { w with published := w.published ++ [event] }

def World.execute (fortune : Fortune) : (c : Call) → World → Except CallError c.Reply × World
  | .getAccountProfile _, w => (.ok fortune.profile, w)
  | .timestamp, w => (.ok fortune.timestamp, w)
  | .stripeCreate _ _, w => (.ok fortune.processorId, w)
  | .stripeConfirm _, w => (.ok fortune.intentStatus, w)
  | .stripeRefund _ _, w => (.ok fortune.processorId, w)
  | .insertPayment paymentId row, w =>
    if w.payments paymentId = none then (.ok (), w.putPayment paymentId row)
    else (.error .uniqueViolation, w)
  | .selectPayment paymentId, w => (.ok (w.payments paymentId), w)
  | .updatePayment paymentId update, w =>
    (.ok (w.payments paymentId).isSome, w.setStatus paymentId update)
  | .selectInvoice invoiceId, w => (.ok (w.invoices invoiceId), w)
  | .updateInvoice invoiceId paymentIntentId, w =>
    (.ok (w.invoices invoiceId).isSome, w.markInvoice invoiceId paymentIntentId)
  | .insertRefund row, w =>
    if w.refund? row.refundId = none then (.ok (), w.addRefund row)
    else (.error .uniqueViolation, w)
  | .selectRefund refundId, w => (.ok (w.refund? refundId), w)
  | .updateRefund refundId approvedBy, w =>
    (.ok (w.refund? refundId).isSome, w.approveRefund refundId approvedBy)
  | .publish event, w => (.ok (), w.publish event)

def World.send (fortune : Fortune) (c : Call) (w : World) : Except CallError c.Reply × World :=
  match fortune.link with
  | .up => World.execute fortune c w
  | .down => (.error .connectionError, w)
  | .lost => (.error .connectionError, (World.execute fortune c w).2)

def World.confirmed (fortune : Fortune) (processorPaymentId : PyStr) (w : World) : World :=
  if fortune.link = .up ∧ fortune.intentStatus = "succeeded".toList then
    { w with reported := w.reported ++ [processorPaymentId] }
  else w

def handle (fortune : Fortune) : Handler (PaymentApi.fallible CallError) World
  | .timestamp, w => (.ok fortune.timestamp, w)
  | .stripeConfirm processorPaymentId, w =>
    ((w.send fortune (.stripeConfirm processorPaymentId)).1,
     w.confirmed fortune processorPaymentId)
  | c, w => w.send fortune c

/-! ### The repository -/

inductive PaymentError where
  /-- "Payment not found: ...". -/
  | paymentNotFound (paymentId : PyStr)
  /-- "Failed to update payment status for ...". -/
  | statusNotUpdated (paymentId : PyStr)
  /-- "User ... does not exist". -/
  | userDoesNotExist (userId : PyStr)
  /-- "User validation failed: ...". -/
  | userValidationFailed
  /-- "Failed to create payment intent: ...". -/
  | intentNotCreated
  /-- "Invoice not found: ...". -/
  | invoiceNotFound (invoiceId : PyStr)
  /-- "Invoice is not open for payment: ...". -/
  | invoiceNotOpen (status : InvoiceStatus)
  /-- "Payment is not eligible for refund: ...". -/
  | notEligible (status : PaymentStatus)
  /-- "Refund amount exceeds payment amount". -/
  | exceedsPayment
  /-- "Failed to create refund: ...". -/
  | refundNotCreated
  /-- "Failed to create refund in database". -/
  | refundNotStored
  /-- "Refund not found: ...". -/
  | refundNotFound (refundId : PyStr)
  /-- "Invalid signature: ...". -/
  | invalidSignature
  /-- "Invalid payload: ...". -/
  | invalidPayload
  | validationError
  | overflowError
  | call (e : CallError)
  deriving DecidableEq, Repr

abbrev PaymentM := Prog (PaymentApi.fallible CallError) PaymentError

def ask (c : Call) : PaymentM c.Reply := Prog.query (I := PaymentApi) .call c

/-- What is caught is logged, and the answer is `None`. -/
def orNone {α : Type} (p : PaymentM (Option α)) : PaymentM (Option α) :=
  p.tryCatch fun _ => return none

def converted {α : Type} : Option (Option α) → PaymentM (Option α)
  | none => return none
  | some none => .raise .validationError
  | some (some a) => return some a

def getPayment (paymentId : PyStr) : PaymentM (Option Payment) :=
  orNone do
    let row ← ask (.selectPayment paymentId)
    converted (row.map (PaymentRow.toPayment paymentId))

/-- `create_payment` of the repository. -/
def createPayment (paymentId : PyStr) (row : PaymentRow) : PaymentM (Option Payment) :=
  orNone do
    ask (.insertPayment paymentId row)
    getPayment paymentId

def updatePaymentStatus (paymentId : PyStr) (update : StatusUpdate) : PaymentM (Option Payment) :=
  orNone do
    let updated : Bool ← ask (.updatePayment paymentId update)
    if updated then getPayment paymentId else return none

def getInvoice (invoiceId : PyStr) : PaymentM (Option Invoice) :=
  orNone do
    let row ← ask (.selectInvoice invoiceId)
    converted (row.map (InvoiceRow.toInvoice invoiceId))

def markInvoicePaid (invoiceId paymentIntentId : PyStr) : PaymentM (Option Invoice) :=
  orNone do
    let updated : Bool ← ask (.updateInvoice invoiceId paymentIntentId)
    if updated then getInvoice invoiceId else return none

def getRefund (refundId : PyStr) : PaymentM (Option Refund) :=
  orNone do
    let row ← ask (.selectRefund refundId)
    converted (row.map RefundRow.toRefund)

/-- `create_refund` of the repository. -/
def insertRefund (row : RefundRow) : PaymentM (Option Refund) :=
  orNone do
    ask (.insertRefund row)
    let stored ← ask (.selectRefund row.refundId)
    converted (stored.map RefundRow.toRefund)

/-- `process_refund` of the repository. -/
def approveRefund (refundId : PyStr) (approvedBy : Option PyStr) : PaymentM (Option Refund) :=
  orNone do
    let updated : Bool ← ask (.updateRefund refundId approvedBy)
    if updated then
      let stored ← ask (.selectRefund refundId)
      converted (stored.map RefundRow.toRefund)
    else return none

end IsaUser.Payments
