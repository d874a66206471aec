import IsaUser.Core.Guard
import IsaUser.Wallet.EventStore

/-!
# The Event Handlers

The handlers of `events/handlers.py` that put money into a wallet: `payment.completed`,
`payment.refunded` and `subscription.created`. They differ in the fields they check and in
the deposit they make; around it each does the same (`handleOnce`): it looks into the set of
processed events, guards itself with the distributed lock and the result cache, claims the
event in the database, works, and marks the event as done in three places.

The result that a handler publishes is reduced to its status: the fields of the event that
it repeats are never read back.
-/

namespace IsaUser.Wallets

open IsaUser.Core

/-! ### Events -/

/-- A number in the data of an event: it is absent or falsy, `Decimal` or the declaration of
`DepositRequest.amount` rejects it whatever its sign, or it counts units. -/
inductive EventAmount where
  | missing
  | malformed
  | number (x : ℤ)
  deriving DecidableEq, Repr

def given (text : Option PyStr) : Option PyStr := text.filter (· ≠ [])

/-- The data of a `payment.completed` event, and of a `payment.refunded` event. -/
structure PaymentEvent where
  userId : Option PyStr
  amount : EventAmount
  paymentId : Option PyStr
  refundId : Option PyStr
  deriving DecidableEq, Repr

/-- The data of a `subscription.created` event. -/
structure SubscriptionEvent where
  userId : Option PyStr
  subscriptionId : Option PyStr
  monthlyCredits : EventAmount
  deriving DecidableEq, Repr

/-- A delivery of the event: to which replica, under which processor id, and how often it
finds the lock contended before its deadline. -/
structure Delivery where
  replica : ℕ
  processorId : ℕ
  polls : ℕ
  deriving DecidableEq, Repr

inductive EventResult where
  | alreadyClaimed
  | noWallet
  | deposited
  | refunded
  | allocated
  | noCredits
  deriving DecidableEq, Repr

/-! ### Claims -/

def quietly (p : EventM Unit) : EventM Unit := p.tryCatch fun _ => return ()

/-- `_claim_wallet_event`: no claim is won while the claims cannot be reached. -/
def claimWalletEvent (processorId : ℕ) : EventM Bool :=
  (claimEventProcessing processorId 300).tryCatch fun _ => return false

def markWalletEventCompleted : EventM Unit := quietly markEventProcessingCompleted

def markWalletEventFailed : EventM Unit := quietly markEventProcessingFailed

/-! ### The work of a handler -/

def walletCall {α : Type} (p : RepoM α) : EventM α := p.embed walletCalls .repository

/-- Required fields are missing: the claim has failed, and nothing is published. -/
def missingFields : EventM (Option EventResult) := do
  markWalletEventFailed
  return none

def finish (d : Delivery) (result : EventResult) : EventM (Option EventResult) := do
  perform (.markEventProcessed d.replica)
  markWalletEventCompleted
  return some result

/-- `DepositRequest(amount=Decimal(str(amount)), …)`. -/
def depositRequest : EventAmount → EventM ℤ
  | .number x => if 0 < x then return x else .raise .amount
  | _ => .raise .amount

def depositInto (wallet : WalletBalance) (amount : EventAmount) (referenceId : Option PyStr) :
    EventM Unit := do
  let x ← depositRequest amount
  let _ ← walletCall (WalletService.deposit wallet.walletId x referenceId)
  return ()

def withPrimaryWallet (d : Delivery) (userId : PyStr) (work : WalletBalance → EventM EventResult) :
    EventM (Option EventResult) := do
  match ← walletCall (getPrimaryWallet userId) with
  | none => finish d .noWallet
  | some wallet => do
    let result ← work wallet
    finish d result

def depositPayment (d : Delivery) (e : PaymentEvent) (referenceId : Option PyStr)
    (result : EventResult) : EventM (Option EventResult) :=
  match given e.userId with
  | none => missingFields
  | some userId =>
    if e.amount = .missing then missingFields
    else
      withPrimaryWallet d userId fun wallet => do
        depositInto wallet e.amount referenceId
        return result

def allocateCredits (d : Delivery) (e : SubscriptionEvent) : EventM (Option EventResult) :=
  match given e.userId, given e.subscriptionId with
  | some userId, some subscriptionId =>
    withPrimaryWallet d userId fun wallet =>
      match e.monthlyCredits with
      | .missing => return .noCredits
      | .malformed => .raise .amount
      | .number x =>
        if 0 < x then do
          depositInto wallet (.number x) subscriptionId
          return .allocated
        else return .noCredits
  | _, _ => missingFields

/-! ### Around the work -/

abbrev HandlerM := GuardM EventApi EventResult EventError

def unguarded {α : Type} (p : EventM α) : HandlerM α := p.embed (bodyCalls _ _) .body

/-- The arguments of `guard` in every handler. -/
def eventGuard (d : Delivery) : GuardSettings := ⟨120, 900, d.polls, .returns⟩

def onceClaimed (d : Delivery) (work : EventM (Option EventResult))
    (outcome : LockOutcome EventResult) : EventM (Option EventResult) :=
  if outcome.isCached then do
    perform (.markEventProcessed d.replica)
    return none
  else
    match outcome.token with
    | none => return none
    | some _ => do
      let claimed ← claimWalletEvent d.processorId
      if claimed then work
      else return some .alreadyClaimed

/-- The `except` clauses. What the body raises, it raises between its claim and its
completion. -/
def recover : GuardError EventError → HandlerM Unit
  | .body _ => unguarded markWalletEventFailed
  | _ => return ()

def handleOnce (d : Delivery) (work : EventM (Option EventResult)) : HandlerM Unit := do
  let processed ← unguarded (perform (.isEventProcessed d.replica))
  if processed then return ()
  else (guard (eventGuard d) (onceClaimed d work)).tryCatch recover

def handlePaymentCompleted (d : Delivery) (e : PaymentEvent) : HandlerM Unit :=
  handleOnce d (depositPayment d e e.paymentId .deposited)

def handlePaymentRefunded (d : Delivery) (e : PaymentEvent) : HandlerM Unit :=
  handleOnce d (depositPayment d e ((given e.refundId).or e.paymentId) .refunded)

def handleSubscriptionCreated (d : Delivery) (e : SubscriptionEvent) : HandlerM Unit :=
  handleOnce d (allocateCredits d e)

inductive MoneyEvent where
  | paymentCompleted (e : PaymentEvent)
  | paymentRefunded (e : PaymentEvent)
  | subscriptionCreated (e : SubscriptionEvent)
  deriving DecidableEq, Repr

def MoneyEvent.work (d : Delivery) : MoneyEvent → EventM (Option EventResult)
  | paymentCompleted e => depositPayment d e e.paymentId .deposited
  | paymentRefunded e => depositPayment d e ((given e.refundId).or e.paymentId) .refunded
  | subscriptionCreated e => allocateCredits d e

def MoneyEvent.handler (d : Delivery) : MoneyEvent → HandlerM Unit
  | paymentCompleted e => handlePaymentCompleted d e
  | paymentRefunded e => handlePaymentRefunded d e
  | subscriptionCreated e => handleSubscriptionCreated d e

theorem MoneyEvent.handler_eq (d : Delivery) (e : MoneyEvent) :
    e.handler d = handleOnce d (e.work d) := by
  cases e <;> rfl

end IsaUser.Wallets
