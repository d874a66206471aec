import IsaUser.Core.Guard
import IsaUser.Payment.Service
import IsaUser.Wallet.EventStore

/-!
# Account Deletion

When a user is deleted, the payment service is to cancel the subscriptions of the user. The
handler guards itself with the distributed lock, claims the event, cleans up and completes the
claim. For the cleaning it calls methods that neither the service nor its repository has:
`PaymentService.methods` says which there are.
-/

open IsaUser.Prog Option

namespace IsaUser.Payments

open IsaUser.Core
open IsaUser.Wallets (Claim ProcessingStatus)

/-! ### Data -/

inductive SubscriptionStatus where
  | active
  | pastDue
  | canceled
  | incomplete
  | incompleteExpired
  | trialing
  | unpaid
  | paused
  deriving DecidableEq, Repr

/-- A subscription that is live: one that `get_user_subscription` finds. -/
def SubscriptionStatus.Live : SubscriptionStatus → Prop
  | active | trialing | pastDue => True
  | _ => False

instance : DecidablePred SubscriptionStatus.Live := fun status => by
  cases status <;> unfold SubscriptionStatus.Live <;> infer_instance

/-- A row of `payment.subscriptions`. -/
structure SubscriptionRow where
  userId : PyStr
  status : SubscriptionStatus
  cancelAtPeriodEnd : Bool := false
  canceledAt : Option Timestamp := none
  cancellationReason : Option PyStr := none
  deriving DecidableEq

/-- The `SET` clause of `cancel_subscription`. -/
def SubscriptionRow.cancel (now : Timestamp) (immediate : Bool) (reason : Option PyStr)
    (row : SubscriptionRow) : SubscriptionRow :=
  let canceled := { row with canceledAt := some now, cancellationReason := reason }
  if immediate then { canceled with status := .canceled }
  else { canceled with cancelAtPeriodEnd := true }

/-- The data of a `user.deleted` event, as far as the handler looks into it. -/
structure UserDeletedData where
  eventId : Option PyStr := none
  orderId : Option PyStr := none
  paymentId : Option PyStr := none
  subscriptionId : Option PyStr := none
  userId : Option PyStr
  deriving DecidableEq

/-- `_resolve_event_id`, of the data of an event. -/
def resolveEventId (data : UserDeletedData) : PyStr :=
  let ids := given data.eventId <|> given data.orderId <|> given data.paymentId <|>
    given data.subscriptionId <|> given data.userId
  ids.getD "anonymous".toList

structure SubscriptionDict where
  subscriptionId : Option PyStr
  status : Option PyStr
  deriving DecidableEq

inductive DeletionResult where
  | alreadyClaimed
  | cleanedUp (userId : PyStr) (cancelledSubscriptions cancelledIntents : ℕ) (refundTotal : ℚ)
  deriving DecidableEq

inductive DeletionError where
  /-- There is no such method. -/
  | attributeError
  | call (e : CallError)
  deriving DecidableEq, Repr

/-! ### The store -/

structure DeletionStore where
  subscriptions : PyStr → Option SubscriptionRow
  /-- The row with the claim key of the event. -/
  claim : Option Claim
  /-- What the clock reads next. -/
  clock : Timestamp
  /-- How the next statement fares. -/
  database : Link

inductive DeletionCall where
  /-- `datetime.now(timezone.utc)`. -/
  | clock
  | insertClaim (processorId : ℕ) (now : Timestamp)
  | reclaim (processorId : ℕ) (now staleCutoff : Timestamp)
  | setCompleted (completedAt : Timestamp)
  | setFailed (failedAt : Timestamp)
  | updateSubscription (subscriptionId : Option PyStr) (now : Timestamp) (immediate : Bool)
      (reason : Option PyStr)
  | selectSubscription (subscriptionId : Option PyStr)

/-- What a statement answers; those that write say whether a row was written. -/
def DeletionCall.Reply : DeletionCall → Type
  | clock => Timestamp
  | insertClaim _ _ => Bool
  | reclaim _ _ _ => Bool
  | setCompleted _ => Unit
  | setFailed _ => Unit
  | updateSubscription _ _ _ _ => Bool
  | selectSubscription _ => Option SubscriptionRow

@[reducible] def DeletionApi : Interface := ⟨DeletionCall, DeletionCall.Reply⟩

namespace DeletionStore

def claimedBy (w : DeletionStore) (processorId : ℕ) (now : Timestamp) : DeletionStore :=
  { w with claim := some ⟨processorId, .processing, now⟩ }

def Reclaimable (staleCutoff : Timestamp) (row : Claim) : Prop :=
  row.status ≠ .completed ∧ (row.status = .failed ∨ row.updatedAt < staleCutoff)
  deriving Decidable

def execute : (c : DeletionCall) → DeletionStore → c.Reply × DeletionStore
  | .clock, w => (w.clock, w)
  | .insertClaim processorId now, w =>
    if w.claim = none then (true, w.claimedBy processorId now) else (false, w)
  | .reclaim processorId now staleCutoff, w =>
    if ∃ row ∈ w.claim, Reclaimable staleCutoff row then (true, w.claimedBy processorId now)
    else (false, w)
  | .setCompleted completedAt, w =>
    ((), { w with claim := w.claim.map fun row =>
      { row with status := .completed, updatedAt := completedAt } })
  | .setFailed failedAt, w =>
    ((), { w with claim := w.claim.map fun row =>
      if row.status ≠ .completed then { row with status := .failed, updatedAt := failedAt }
      else row })
  | .updateSubscription subscriptionId now immediate reason, w =>
    match subscriptionId with
    | none => (false, w)
    | some id =>
      let row := (w.subscriptions id).map (SubscriptionRow.cancel now immediate reason)
      (row.isSome, { w with subscriptions := Function.update w.subscriptions id row })
  | .selectSubscription subscriptionId, w => (subscriptionId.bind w.subscriptions, w)

end DeletionStore

def deletionHandle : Handler (DeletionApi.fallible CallError) DeletionStore
  | .clock, w => (.ok w.clock, w)
  | c, w => w.database.send .connectionError (w.execute c) w

/-! ### The repository -/

abbrev DeletionM := Prog (DeletionApi.fallible CallError) DeletionError

def query (c : DeletionCall) : DeletionM c.Reply := Prog.query (I := DeletionApi) .call c

def logged (p : DeletionM Unit) : DeletionM Unit := p.tryCatch fun _ => return ()

def claimEventProcessing (processorId : ℕ) (staleAfterSeconds : ℤ) : DeletionM Bool := do
  let now : Timestamp ← query .clock
  let staleCutoff := now - seconds (max staleAfterSeconds 1)
  let inserted : Bool ← query (.insertClaim processorId now)
  if inserted then return true else query (.reclaim processorId now staleCutoff)

/-- `_claim_payment_event`: no claim is won while the claims cannot be reached. -/
def claimPaymentEvent (processorId : ℕ) : DeletionM Bool :=
  (claimEventProcessing processorId 300).tryCatch fun _ => return false

def markPaymentEventCompleted : DeletionM Unit :=
  logged do
    let completedAt : Timestamp ← query .clock
    query (.setCompleted completedAt)

def markPaymentEventFailed : DeletionM Unit :=
  logged do
    let failedAt : Timestamp ← query .clock
    query (.setFailed failedAt)

/-- `cancel_subscription`. What is raised is logged, and the answer is `None`. -/
def cancelSubscription (subscriptionId : Option PyStr) (immediate : Bool) (reason : Option PyStr) :
    DeletionM (Option SubscriptionRow) :=
  (do
    let now : Timestamp ← query .clock
    let updated : Bool ← query (.updateSubscription subscriptionId now immediate reason)
    if updated then query (.selectSubscription subscriptionId) else return none).tryCatch
      fun _ => return none

/-! ### The cleaning -/

/-- The methods that the cleaning calls, of the service and of its repository, as far as they
are there. -/
structure Methods where
  getUserSubscriptions : Option (PyStr → DeletionM (List SubscriptionDict))
  cancelSubscription :
    Option (Option PyStr → Bool → Option PyStr → DeletionM (Option SubscriptionRow))
  calculateProratedRefund : Option (Option PyStr → DeletionM (Option ℚ))
  cancelUserPaymentIntents : Option (PyStr → DeletionM ℕ)
  anonymizeUserPaymentHistory : Option (PyStr → DeletionM Unit)

/-- The methods that `PaymentService` and `PaymentRepository` have. -/
def PaymentService.methods : Methods :=
  ⟨none, some Payments.cancelSubscription, none, none, none⟩

def getattr {α : Type} : Option α → DeletionM α
  | some method => return method
  | none => .raise .attributeError

namespace Methods

variable (m : Methods)

def proratedRefund (subscription : SubscriptionDict) : DeletionM ℚ :=
  if subscription.status = some "active".toList then do
    let calculateProratedRefund ← getattr m.calculateProratedRefund
    let amount ← calculateProratedRefund subscription.subscriptionId
    return max (amount.getD 0) 0
  else return 0

/-- One turn of the loop: what is raised is logged. The subscription counts as cancelled before
its refund is looked at. -/
def cancelOne (totals : ℕ × ℚ) (subscription : SubscriptionDict) : DeletionM (ℕ × ℚ) :=
  (do
    let cancelSubscription ← getattr m.cancelSubscription
    let _ ← cancelSubscription subscription.subscriptionId true (some "user_deleted".toList)
    let refund ← (m.proratedRefund subscription).tryCatch fun _ => (return 0 : DeletionM ℚ)
    return (totals.1 + 1, totals.2 + refund)).tryCatch fun _ => return totals

def cancelAll : ℕ × ℚ → List SubscriptionDict → DeletionM (ℕ × ℚ)
  | totals, [] => return totals
  | totals, subscription :: rest => do
    let totals ← m.cancelOne totals subscription
    cancelAll totals rest

def processUserDeletedPayment (data : UserDeletedData) : DeletionM (Option DeletionResult) :=
  match given data.userId with
  | none => return none
  | some userId => do
    let getUserSubscriptions ← getattr m.getUserSubscriptions
    let subscriptions ← getUserSubscriptions userId
    let (cancelledCount, refundTotal) ← m.cancelAll (0, 0) subscriptions
    let cancelUserPaymentIntents ← getattr m.cancelUserPaymentIntents
    let cancelledIntents ← cancelUserPaymentIntents userId
    let anonymizeUserPaymentHistory ← getattr m.anonymizeUserPaymentHistory
    anonymizeUserPaymentHistory userId
    return some (.cleanedUp userId cancelledCount cancelledIntents refundTotal)

end Methods

/-! ### The handler -/

/-- A delivery of an event with this id: its data, the processor, and how often it finds the lock
contended before its deadline. -/
structure UserDeletedDelivery (eventId : PyStr) where
  data : UserDeletedData
  resolves : resolveEventId data = eventId
  processorId : ℕ
  polls : ℕ

abbrev DeletionHandlerM := GuardM (DeletionApi.fallible CallError) DeletionResult DeletionError

def underLock (processorId : ℕ) (data : UserDeletedData) (outcome : LockOutcome DeletionResult) :
    DeletionM (Option DeletionResult) :=
  if outcome.isCached then return none
  else
    match outcome.token with
    | none => return none
    | some _ => do
      let claimed ← claimPaymentEvent processorId
      if claimed then do
        let result ← PaymentService.methods.processUserDeletedPayment data
        markPaymentEventCompleted
        return result
      else return some .alreadyClaimed

/-- The `except` clauses. What the body raises, it raises between its claim and its
completion. -/
def onRaised : GuardError DeletionError → DeletionHandlerM Unit
  | .body _ => markPaymentEventFailed.embed (bodyCalls _ _) .body
  | _ => return ()

def handleUserDeleted {eventId : PyStr} (d : UserDeletedDelivery eventId) : DeletionHandlerM Unit :=
  (guard ⟨120, 900, d.polls, .returns⟩ (underLock d.processorId d.data)).tryCatch onRaised

/-! ### States of the store -/

namespace DeletionStore

def Completed (w : DeletionStore) : Prop := ∃ row ∈ w.claim, row.status = .completed
  deriving Decidable

def NoLive (w : DeletionStore) (userId : PyStr) : Prop :=
  ∀ id, ∀ row ∈ w.subscriptions id, row.userId = userId → ¬row.status.Live

end DeletionStore

/-! ### What the handler keeps -/

theorem query_wp {w w' : DeletionStore} (hdatabase : w.database = .up) {c : DeletionCall}
    {r : c.Reply} (hexecute : w.execute c = (r, w'))
    {Q : Except DeletionError c.Reply → DeletionStore → Prop} (h : Q (.ok r) w') :
    (query c).wp deletionHandle Q w := by
  have hhandle : deletionHandle c w = (.ok r, w') := by
    cases c with
    | clock =>
      obtain ⟨rfl, rfl⟩ := Prod.mk.inj hexecute
      rfl
    | _ => simp only [deletionHandle, hdatabase, Link.send, hexecute]
  refine wp_query.mpr ?_
  rw [hhandle]
  exact h

/-- A call that cancels nothing, and completes no claim of an event that names its user. -/
def DeletionCall.Harmless (named : Prop) : DeletionCall → Prop
  | updateSubscription _ _ _ _ => False
  | setCompleted _ => ¬named
  | _ => True

theorem harmless_mono {named named' : Prop} {c : DeletionCall} (h : named' → named)
    (hc : c.Harmless named) : c.Harmless named' := by
  cases c with
  | setCompleted completedAt => exact fun hn => hc (h hn)
  | _ => exact hc

def DeletionStore.Kept (named : Prop) (w w' : DeletionStore) : Prop :=
  w'.subscriptions = w.subscriptions ∧ (named → (w'.Completed ↔ w.Completed))

section Keeps

variable {named : Prop} {w w' : DeletionStore}

theorem DeletionStore.Kept.refl (named : Prop) (w : DeletionStore) : Kept named w w :=
  ⟨rfl, fun _ => Iff.rfl⟩

theorem DeletionStore.Kept.trans {w'' : DeletionStore} (h : Kept named w w')
    (h' : Kept named w' w'') : Kept named w w'' :=
  ⟨h'.1.trans h.1, fun hn => (h'.2 hn).trans (h.2 hn)⟩

theorem DeletionStore.Kept.noLive {userId : PyStr} (h : Kept named w w') :
    w'.NoLive userId ↔ w.NoLive userId := by
  rw [NoLive, NoLive, h.1]

theorem kept_claimedBy (hw : ¬w.Completed) (processorId : ℕ) (now : Timestamp) :
    DeletionStore.Kept named w (w.claimedBy processorId now) := by
  refine ⟨rfl, fun _ => iff_of_false ?_ hw⟩
  rintro ⟨row, hrow, hcompleted⟩
  obtain rfl := some.inj hrow
  cases hcompleted

theorem kept_execute {c : DeletionCall} (hc : c.Harmless named) :
    DeletionStore.Kept named w (w.execute c).2 := by
  cases c with
  | clock => exact .refl named w
  | selectSubscription id => exact .refl named w
  | updateSubscription id now immediate reason => exact hc.elim
  | setCompleted completedAt => exact ⟨rfl, fun hn => absurd hn hc⟩
  | insertClaim processorId now =>
    rw [DeletionStore.execute]
    split
    · next hnone =>
        refine kept_claimedBy ?_ processorId now
        rintro ⟨row, hrow, -⟩
        exact absurd (hnone.symm.trans hrow) (some_ne_none row).symm
    · exact .refl named w
  | reclaim processorId now staleCutoff =>
    rw [DeletionStore.execute]
    split
    · next hfree =>
        obtain ⟨row, hrow, hnot, -⟩ := hfree
        refine kept_claimedBy ?_ processorId now
        rintro ⟨row', hrow', hcompleted⟩
        obtain rfl := some.inj (hrow.symm.trans hrow')
        exact hnot hcompleted
    · exact .refl named w
  | setFailed failedAt =>
    refine ⟨rfl, fun _ => ?_⟩
    simp only [DeletionStore.execute, DeletionStore.Completed]
    cases w.claim with
    | none => rfl
    | some row =>
      by_cases hcompleted : row.status = .completed
      · simp [hcompleted]
      · simp [hcompleted]

theorem kept_deletionHandle {c : DeletionCall} (hc : c.Harmless named) :
    DeletionStore.Kept named w (deletionHandle c w).2 := by
  cases c with
  | clock => exact .refl named w
  | _ => exact Link.send_snd (.refl named w) (kept_execute hc)

end Keeps

/-! ### What the handler calls -/

section Calls

variable {named : Prop} {α β : Type}

theorem query_only {c : DeletionCall} (hc : c.Harmless named) :
    (query c).Only (DeletionCall.Harmless named) :=
  only_query (I := DeletionApi) hc

theorem claimPaymentEvent_only (processorId : ℕ) :
    (claimPaymentEvent processorId).Only (DeletionCall.Harmless named) := by
  refine Only.tryCatch ((query_only (c := .clock) trivial).bind fun now => ?_) fun _ => trivial
  refine (query_only (c := .insertClaim processorId now) trivial).bind fun inserted => ?_
  cases inserted with
  | true => trivial
  | false => exact query_only (c := .reclaim processorId now _) trivial

theorem markPaymentEventCompleted_only (hnamed : ¬named) :
    markPaymentEventCompleted.Only (DeletionCall.Harmless named) :=
  .tryCatch ((query_only (c := .clock) trivial).bind fun t =>
    query_only (c := .setCompleted t) hnamed)
    fun _ => trivial

theorem markPaymentEventFailed_only :
    markPaymentEventFailed.Only (DeletionCall.Harmless named) :=
  .tryCatch ((query_only (c := .clock) trivial).bind fun t => query_only (c := .setFailed t) trivial)
    fun _ => trivial

theorem processUserDeletedPayment_eq (data : UserDeletedData) :
    PaymentService.methods.processUserDeletedPayment data =
      if (given data.userId).isSome then .raise .attributeError else .ret none := by
  rw [Methods.processUserDeletedPayment]
  cases given data.userId <;> rfl

theorem underLock_only (processorId : ℕ) (data : UserDeletedData)
    (outcome : LockOutcome DeletionResult) :
    (underLock processorId data outcome).Only
      (DeletionCall.Harmless (given data.userId).isSome) := by
  rw [underLock]
  split
  · trivial
  · split
    · trivial
    · refine (claimPaymentEvent_only processorId).bind fun claimed => ?_
      split
      · rw [processUserDeletedPayment_eq]
        split
        · trivial
        · next hnone => exact (markPaymentEventCompleted_only hnone).bind fun _ => trivial
      · trivial

def HarmlessUnder (named : Prop) :
    GuardCall (DeletionApi.fallible CallError) DeletionResult → Prop
  | .body c => DeletionCall.Harmless named c
  | _ => True

theorem handleUserDeleted_only {eventId : PyStr} (d : UserDeletedDelivery eventId) :
    (handleUserDeleted d).Only (HarmlessUnder (given d.data.userId).isSome) := by
  refine Only.tryCatch (Obeys.only (guard_obeys (Q := fun _ => True) (fun c hc => ?_)
    (fun outcome => ((underLock_only _ _ outcome).obeys).mono fun _ _ _ _ => trivial)
    (fun _ => trivial) trivial)) fun e => ?_
  · cases c with
    | body c => exact absurd trivial hc
    | _ => trivial
  · cases e with
    | body e => exact Only.embed markPaymentEventFailed_only
    | _ => trivial

end Calls

/-! ### The law -/

abbrev DeletionWorld := Guarded DeletionResult DeletionStore

abbrev DeletionPool (ι : Type*) :=
  Pool (GuardApi (DeletionApi.fallible CallError) DeletionResult) (GuardError DeletionError) Unit ι
    DeletionWorld

def DeletionPool.start {ι : Type*} {eventId : PyStr} (w : DeletionWorld)
    (deliveries : ι → UserDeletedDelivery eventId) : DeletionPool ι :=
  Pool.start w fun i => handleUserDeleted (deliveries i)

def DeletionStore.Rests (w w' : DeletionStore) : Prop :=
  w'.subscriptions = w.subscriptions ∧ w'.claim = w.claim

abbrev DeletionRun {ι : Type*} [DecidableEq ι] : DeletionPool ι → DeletionPool ι → Prop :=
  Pool.Reach (guardHandle deletionHandle) (Elapses DeletionStore.Rests) Pool.anyCall

def delivered {eventId : PyStr} (w : DeletionWorld) (d : UserDeletedDelivery eventId) :
    DeletionWorld :=
  ((handleUserDeleted d).run (guardHandle deletionHandle) w).2

/-- Nothing stands in the way of a delivery: the connections are up, nobody has the lock, no
result is cached, and nobody else is at work under the claim. -/
structure Undisturbed (w : DeletionWorld) : Prop extends w.Free where
  database : w.inner.database = .up
  claim : ∀ row ∈ w.inner.claim, row.status = .processing →
    row.updatedAt < w.inner.clock - seconds 300

/-- Account deletion ends payments: in every run, the completed claim of the event says that the
user has no live subscription, and the delivery gets there. -/
structure EndsPayments {eventId : PyStr} (w : DeletionWorld) (d : UserDeletedDelivery eventId)
    (userId : PyStr) : Prop where
  claimed : ∀ {ι : Type} [DecidableEq ι] (deliveries : ι → UserDeletedDelivery eventId)
    (pool : DeletionPool ι), DeletionRun (.start w deliveries) pool →
      pool.state.inner.Completed → pool.state.inner.NoLive userId
  reached : (delivered w d).inner.Completed ∧ (delivered w d).inner.NoLive userId

/-! ### What deliveries keep -/

section Deliveries

variable {eventId userId : PyStr} {w : DeletionWorld} {named : Prop}

theorem kept_guardHandle {c : GuardCall (DeletionApi.fallible CallError) DeletionResult}
    (hc : HarmlessUnder named c) (w : DeletionWorld) :
    DeletionStore.Kept named w.inner (guardHandle deletionHandle c w).2.inner := by
  cases c with
  | body c => exact kept_deletionHandle hc
  | _ =>
    rw [inner_of_not_isBody id]
    exact .refl named w.inner

theorem kept_delivered (d : UserDeletedDelivery eventId) (w : DeletionWorld) :
    DeletionStore.Kept (given d.data.userId).isSome w.inner (delivered w d).inner :=
  (handleUserDeleted_only d).run_keeps
    (J := fun w' : DeletionWorld => DeletionStore.Kept _ w.inner w'.inner) (.refl _ _)
      fun _ _ hc hw' => hw'.trans (kept_guardHandle hc _)

/-- **No run of deliveries cancels a subscription**, nor does one complete a claim, if its events
name their users. -/
theorem DeletionRun.kept {ι : Type*} [DecidableEq ι] {deliveries : ι → UserDeletedDelivery eventId}
    {pool : DeletionPool ι} (hpool : DeletionRun (.start w deliveries) pool) :
    DeletionStore.Kept (∀ i, (given (deliveries i).data.userId).isSome)
      w.inner pool.state.inner := by
  refine hpool.keeps (P := fun _ => HarmlessUnder (∀ i, (given (deliveries i).data.userId).isSome))
    (J := fun w' => DeletionStore.Kept _ w.inner w'.inner) (fun i => ?_) (.refl _ _)
    (fun _ _ h hw' => hw'.trans ⟨h.inner.1, fun _ => ?_⟩)
    fun _ _ _ hc hw' => hw'.trans (kept_guardHandle hc _)
  · refine (handleUserDeleted_only (deliveries i)).mono fun call hc => ?_
    cases call with
    | body _ => exact harmless_mono (fun h => h i) hc
    | _ => exact hc
  · rw [DeletionStore.Completed, DeletionStore.Completed, h.inner.2]

end Deliveries

/-! ### A delivery that nothing comes between -/

section Undisturbed

variable {eventId : PyStr} {w : DeletionWorld}

theorem claimPaymentEvent_wp {w : DeletionStore} (hdatabase : w.database = .up)
    (hclaim : ∀ row ∈ w.claim, row.status = .processing → row.updatedAt < w.clock - seconds 300)
    (processorId : ℕ) :
    (claimPaymentEvent processorId).wp deletionHandle (fun r w' =>
      r = .ok false ∧ w'.Completed ∨ r = .ok true ∧ w'.database = .up ∧ w'.claim.isSome) w := by
  have hclock : w.execute .clock = (w.clock, w) := rfl
  refine wp_tryCatch.mpr (wp_bind.mpr (query_wp hdatabase hclock (wp_bind.mpr ?_)))
  by_cases hnone : w.claim = none
  · have hinsert : w.execute (.insertClaim processorId w.clock) =
        (true, w.claimedBy processorId w.clock) := if_pos hnone
    exact query_wp hdatabase hinsert (Or.inr ⟨rfl, hdatabase, rfl⟩)
  · have hinsert : w.execute (.insertClaim processorId w.clock) = (false, w) := if_neg hnone
    refine query_wp hdatabase hinsert ?_
    by_cases hfree : ∃ row ∈ w.claim, DeletionStore.Reclaimable (w.clock - seconds 300) row
    · have hreclaim : w.execute (.reclaim processorId w.clock (w.clock - seconds 300)) =
          (true, w.claimedBy processorId w.clock) := if_pos hfree
      exact query_wp hdatabase hreclaim (Or.inr ⟨rfl, hdatabase, rfl⟩)
    · have hreclaim : w.execute (.reclaim processorId w.clock (w.clock - seconds 300)) =
          (false, w) := if_neg hfree
      obtain ⟨row, hrow⟩ := ne_none_iff_exists'.mp hnone
      refine query_wp hdatabase hreclaim (Or.inl ⟨rfl, row, hrow, ?_⟩)
      cases hstatus : row.status with
      | completed => rfl
      | failed => exact absurd ⟨row, hrow, by simp [DeletionStore.Reclaimable, hstatus]⟩ hfree
      | processing =>
        have hstale := hclaim row hrow hstatus
        exact absurd ⟨row, hrow, by simp [DeletionStore.Reclaimable, hstatus, hstale]⟩ hfree

theorem markPaymentEventCompleted_wp {w : DeletionStore} (hdatabase : w.database = .up)
    (hclaim : w.claim.isSome) :
    markPaymentEventCompleted.wp deletionHandle (fun r w' => r = .ok () ∧ w'.Completed) w := by
  obtain ⟨row, hrow⟩ := isSome_iff_exists.mp hclaim
  exact wp_tryCatch.mpr (wp_bind.mpr (query_wp hdatabase rfl (query_wp hdatabase rfl
    ⟨rfl, _, mem_map_of_mem _ hrow, rfl⟩)))

theorem completed_delivered {w : DeletionWorld} (hw : Undisturbed w)
    {d : UserDeletedDelivery eventId} (hnobody : given d.data.userId = none) :
    (delivered w d).inner.Completed := by
  have hguard : (Core.guard ⟨120, 900, d.polls, .returns⟩ (underLock d.processorId d.data)).wp
      (guardHandle deletionHandle) (fun r w' => r = .ok () ∧ w'.inner.Completed) w := by
    refine wp_guard_of_free hw.toFree (by norm_num) ?_
    refine wp_bind.mpr (wp_mono (claimPaymentEvent_wp hw.database hw.claim _) ?_)
    rintro _ w' (⟨rfl, hcompleted⟩ | ⟨rfl, hup, hsome⟩)
    · exact ⟨⟨_, rfl⟩, hcompleted⟩
    · refine wp_bind.mpr ?_
      rw [processUserDeletedPayment_eq, hnobody]
      refine wp_ret.mpr (wp_bind.mpr ?_)
      refine wp_mono (markPaymentEventCompleted_wp hup hsome) ?_
      rintro _ w'' ⟨rfl, hcompleted⟩
      exact ⟨⟨_, rfl⟩, hcompleted⟩
  refine (wp_tryCatch (Q := fun _ w' => w'.inner.Completed)).mpr (wp_mono hguard ?_)
  rintro _ w' ⟨rfl, hcompleted⟩
  exact hcompleted

/-! ### The result -/

end Undisturbed

def subscribed : DeletionWorld :=
  { lock := none, result := none, now := 0, issued := 0, lockLink := .up, cacheLink := .up
    inner :=
      { subscriptions := Function.update (fun _ => none) "sub".toList
          (some { userId := "u".toList, status := .active })
        claim := none, clock := 0, database := .up } }

def deletionOf (userId : PyStr) : UserDeletedDelivery (resolveEventId { userId := some userId }) :=
  ⟨{ userId := some userId }, rfl, 0, 10⟩

end IsaUser.Payments
