import IsaUser.Lib.Runs
import IsaUser.Payment.Model

/-!
# The Payment Service

The methods of `payment_service.py`: payment intents and their confirmation, refunds, invoices,
and the webhook of the processor. A failure to publish is logged and does no harm; a failure to
confirm with the processor is logged as well, and the payment is stored as succeeded.

`PaymentService.step` serves one request after the other, each under surroundings of its own.
-/

namespace IsaUser.Payments

/-! ### Requests -/

structure CreatePaymentIntentRequest where
  amount : Amount
  currency : Currency := .usd
  userId : PyStr
  orderId : Option PyStr := none
  deriving DecidableEq

def CreatePaymentIntentRequest.row (request : CreatePaymentIntentRequest)
    (paymentIntentId : PyStr) : PaymentRow :=
  { userId := request.userId, orderId := request.orderId, amount := toDouble request.amount
    currency := request.currency, processorPaymentId := some paymentIntentId }

structure PaymentIntentResponse where
  paymentIntentId : PyStr
  amount : Amount
  currency : Currency
  status : PaymentStatus := .pending
  deriving DecidableEq

structure CreateRefundRequest where
  paymentId : PyStr
  amount : Option ℚ := none
  reason : PyStr
  requestedBy : PyStr
  deriving DecidableEq

/-- `request.amount or payment.amount`: an amount of zero asks for all of it. -/
def CreateRefundRequest.refundAmount (request : CreateRefundRequest) (payment : Payment) : ℚ :=
  (request.amount.filter (· ≠ 0)).getD payment.amount

def CreateRefundRequest.row (request : CreateRefundRequest) (payment : Payment)
    (refundId : PyStr) : RefundRow :=
  { refundId, paymentId := request.paymentId, userId := payment.userId
    amount := toDouble (request.refundAmount payment), currency := payment.currency
    reason := request.reason, requestedBy := request.requestedBy }

/-- What the processor says of an intent, with the user of its metadata. -/
structure IntentData where
  id : PyStr
  userId : PyStr := []
  /-- In cents. -/
  amount : ℤ
  currency : PyStr
  paymentMethod : Option PyStr := none
  /-- The message and the code of `last_payment_error`. -/
  errorMessage : Option PyStr := none
  errorCode : Option PyStr := none
  deriving DecidableEq

inductive StripeEvent where
  | paymentIntentSucceeded (data : IntentData)
  | paymentIntentFailed (data : IntentData)
  deriving DecidableEq

def Payment.completedEvent (payment : Payment) : PaymentCompletedEvent :=
  { paymentIntentId := payment.paymentId, paymentId := some payment.paymentId
    userId := payment.userId, amount := toDouble payment.amount
    currency := payment.currency.value, paymentMethod := some payment.paymentMethod.value }

def IntentData.completedEvent (data : IntentData) (amount : Double) : PaymentCompletedEvent :=
  { paymentIntentId := data.id, userId := data.userId, amount := some amount
    currency := data.currency, paymentMethod := data.paymentMethod }

/-- `int(amount * 100)`. -/
def cents (amount : ℚ) : ℤ := if 0 ≤ amount then ⌊amount * 100⌋ else ⌈amount * 100⌉

def quietly {α : Type} (p : PaymentM α) : PaymentM Unit :=
  p.void.tryCatch fun _ => return ()

/-- A `PaymentService`: whether `stripe.api_key` is set, and whether there is an event bus. -/
structure PaymentService where
  stripe : Bool
  eventBus : Bool

namespace PaymentService

variable (service : PaymentService)

/-- The functions of `publishers.py`. -/
def publish (event : Event) : PaymentM Unit :=
  if service.eventBus then quietly (ask (.publish event)) else return ()

def withProcessor (payment : Payment) : Option PyStr :=
  if service.stripe then given payment.processorPaymentId else none

/-! ### Payment intents -/

def validateUser (userId : PyStr) : PaymentM Unit := do
  let profile : Bool ← (ask (.getAccountProfile userId)).tryCatch fun _ =>
    .raise .userValidationFailed
  if profile then return () else .raise (.userDoesNotExist userId)

def newIntentId (request : CreatePaymentIntentRequest) : PaymentM PyStr := do
  let timestamp : PyStr ← ask .timestamp
  if service.stripe then
    (ask (.stripeCreate (cents request.amount) request.currency)).tryCatch fun _ =>
      .raise .intentNotCreated
  else return "pi_".toList ++ request.userId ++ "_".toList ++ timestamp

/-- `create_payment_intent`. What becomes of the row is not looked at. -/
def createPaymentIntent (request : CreatePaymentIntentRequest) :
    PaymentM PaymentIntentResponse := do
  validateUser request.userId
  let paymentIntentId ← service.newIntentId request
  let _ ← createPayment paymentIntentId (request.row paymentIntentId)
  service.publish (.paymentIntentCreated paymentIntentId request.userId request.amount
    request.currency.value request.orderId)
  return { paymentIntentId, amount := request.amount, currency := request.currency }

def confirmIntent (payment : Payment) : PaymentM Unit :=
  match service.withProcessor payment with
  | some processorPaymentId => quietly (ask (.stripeConfirm processorPaymentId))
  | none => return ()

def confirmPayment (paymentId : PyStr) : PaymentM Payment := do
  match ← getPayment paymentId with
  | none => .raise (.paymentNotFound paymentId)
  | some payment => do
    service.confirmIntent payment
    match ← updatePaymentStatus paymentId (.set .succeeded) with
    | none => .raise (.statusNotUpdated paymentId)
    | some payment => do
      service.publish (.paymentCompleted payment.completedEvent)
      return payment

def failPayment (paymentId failureReason : PyStr) (failureCode : Option PyStr) :
    PaymentM (Option Payment) := do
  match ← getPayment paymentId with
  | none => .raise (.paymentNotFound paymentId)
  | some _ => updatePaymentStatus paymentId (.failed failureReason failureCode)

/-! ### Refunds -/

def newRefundId (request : CreateRefundRequest) (payment : Payment) : PaymentM PyStr := do
  let timestamp : PyStr ← ask .timestamp
  match service.withProcessor payment with
  | some processorPaymentId =>
    (ask (.stripeRefund processorPaymentId
      ((request.amount.filter (· ≠ 0)).map cents))).tryCatch fun _ => .raise .refundNotCreated
  | none => return "re_".toList ++ payment.paymentId ++ "_".toList ++ timestamp

def refundStatus (request : CreateRefundRequest) (payment : Payment) : PaymentStatus :=
  if request.refundAmount payment = payment.amount then .refunded else .partialRefund

/-- `create_refund`. What becomes of the status is not looked at. -/
def createRefund (request : CreateRefundRequest) : PaymentM Refund := do
  match ← getPayment request.paymentId with
  | none => .raise (.paymentNotFound request.paymentId)
  | some payment => do
    Prog.require (payment.status = .succeeded) (.notEligible payment.status)
    Prog.require (request.refundAmount payment ≤ payment.amount) .exceedsPayment
    let refundId ← service.newRefundId request payment
    -- the validation of a `Refund`
    Prog.require (0 ≤ request.refundAmount payment) .validationError
    match ← insertRefund (request.row payment refundId) with
    | none => .raise .refundNotStored
    | some refund => do
      let _ ← updatePaymentStatus payment.paymentId (.set (refundStatus request payment))
      return refund

def processRefund (refundId : PyStr) (approvedBy : Option PyStr) : PaymentM (Option Refund) := do
  match ← getRefund refundId with
  | none => .raise (.refundNotFound refundId)
  | some _ => approveRefund refundId approvedBy

/-! ### Invoices -/

def payInvoice (invoiceId : PyStr) : PaymentM (Option Invoice) := do
  match ← getInvoice invoiceId with
  | none => .raise (.invoiceNotFound invoiceId)
  | some invoice => do
    Prog.require (invoice.status = .open) (.invoiceNotOpen invoice.status)
    let intent ← service.createPaymentIntent
      { amount := invoice.amountDue, userId := invoice.userId }
    -- the payment is not waited for
    markInvoicePaid invoiceId intent.paymentIntentId

/-! ### The webhook -/

/-- What the webhook makes of an exception: a `ValueError` is raised as one. -/
def invalid : PaymentError → PaymentError
  | .overflowError => .overflowError
  | _ => .invalidPayload

/-- `payment_intent.succeeded`. -/
def intentSucceeded (data : IntentData) : PaymentM Unit := do
  let _ ← service.confirmPayment data.id
  match toDouble (data.amount / 100) with
  | none => .raise .overflowError
  | some amount => service.publish (.paymentCompleted (data.completedEvent amount))

/-- `payment_intent.payment_failed`. -/
def intentFailed (data : IntentData) : PaymentM Unit := do
  let _ ← failPayment data.id (data.errorMessage.getD "Payment failed".toList) data.errorCode
  match toDouble (data.amount / 100) with
  | none => .raise .overflowError
  | some amount =>
    service.publish (.paymentFailed data.id data.userId amount data.currency data.errorMessage
      data.errorCode)

/-- `handle_stripe_webhook`, of a payload that is signed or not. -/
def handleStripeWebhook (signed : Bool) (event : StripeEvent) : PaymentM Unit :=
  if signed then
    (match event with
      | .paymentIntentSucceeded data => service.intentSucceeded data
      | .paymentIntentFailed data => service.intentFailed data).tryCatch fun e => .raise (invalid e)
  else .raise .invalidSignature

end PaymentService

/-! ### Runs -/

inductive Request where
  | createPaymentIntent (request : CreatePaymentIntentRequest)
  | confirmPayment (paymentId : PyStr)
  | failPayment (paymentId failureReason : PyStr) (failureCode : Option PyStr)
  | createRefund (request : CreateRefundRequest)
  | processRefund (refundId : PyStr) (approvedBy : Option PyStr)
  | stripeWebhook (signed : Bool) (event : StripeEvent)
  deriving DecidableEq

def PaymentService.serve (service : PaymentService) : Request → PaymentM Unit
  | .createPaymentIntent request => (service.createPaymentIntent request).void
  | .confirmPayment paymentId => (service.confirmPayment paymentId).void
  | .failPayment paymentId failureReason failureCode =>
    (PaymentService.failPayment paymentId failureReason failureCode).void
  | .createRefund request => (service.createRefund request).void
  | .processRefund refundId approvedBy => (PaymentService.processRefund refundId approvedBy).void
  | .stripeWebhook signed event => service.handleStripeWebhook signed event

/-- The handler of a request: its call of number `n` has the fortune `fortunes n`. -/
def served (fortunes : ℕ → Fortune) : Handler (PaymentApi.fallible CallError) (World × ℕ) :=
  fun c s =>
    let answer := handle (fortunes s.2) c s.1
    (answer.1, answer.2, s.2 + 1)

structure Attempt where
  request : Request
  fortunes : ℕ → Fortune

def PaymentService.step (service : PaymentService) (w : World) (attempt : Attempt) : World :=
  ((service.serve attempt.request).run (served attempt.fortunes) (w, 0)).2.1

end IsaUser.Payments
