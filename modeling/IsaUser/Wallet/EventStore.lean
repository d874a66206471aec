import IsaUser.Wallet.Service

/-!
# What the Event Handlers Work On

The wallet store again, with what the handlers of `events/handlers.py` keep beside it for
one event: the row of its claim in `event_processing_claims` (`003` of the wallet
migrations), and the set of processed events of each replica. The statements on the claim
are those of `WalletRepository`.

The clock may read anything at any time, and a statement may fail before or after it has
been executed.
-/

namespace IsaUser.Wallets

/-! ### The claim -/

inductive ProcessingStatus where
  | processing
  | completed
  | failed
  deriving DecidableEq, Repr

/-- A row of `event_processing_claims`. -/
structure Claim where
  processorId : ℕ
  status : ProcessingStatus
  updatedAt : Timestamp
  deriving DecidableEq, Repr

structure EventStore where
  store : Store
  /-- The row with the claim key of the event. -/
  claim : Option Claim
  /-- The replicas whose `_processed_event_ids` has the event. -/
  processed : ℕ → Bool
  /-- What the clock reads next. -/
  clock : Timestamp
  /-- How the next statement fares. -/
  database : Link

/-! ### Calls -/

inductive EventCall where
  /-- `_is_event_processed`. -/
  | isEventProcessed (replica : ℕ)
  /-- `_mark_event_processed`. -/
  | markEventProcessed (replica : ℕ)
  /-- `datetime.now(timezone.utc)`. -/
  | clock
  /-- `INSERT INTO event_processing_claims … ON CONFLICT (claim_key) DO NOTHING`. -/
  | insertClaim (processorId : ℕ) (now : Timestamp)
  /-- `UPDATE event_processing_claims SET processing_status = 'processing' …`, of a claim
  that has failed or is stale. -/
  | reclaim (processorId : ℕ) (now staleCutoff : Timestamp)
  /-- `UPDATE event_processing_claims SET processing_status = 'completed' …`. -/
  | setCompleted (completedAt : Timestamp)
  /-- `UPDATE event_processing_claims SET processing_status = 'failed' …`, unless it is
  completed. -/
  | setFailed (failedAt : Timestamp)
  /-- A statement of the other methods of the repository. -/
  | wallet (c : Statement)

@[reducible] def EventCall.Reply : EventCall → Type
  | isEventProcessed _ => Bool
  | markEventProcessed _ => Unit
  | clock => Timestamp
  | insertClaim _ _ => Except DbError Bool
  | reclaim _ _ _ => Except DbError Bool
  | setCompleted _ => Except DbError Unit
  | setFailed _ => Except DbError Unit
  | wallet c => Except DbError c.Reply

abbrev EventApi : Interface := ⟨EventCall, EventCall.Reply⟩

def walletCalls : WalletApi.Embedding EventApi := ⟨.wallet, fun _ r => r⟩

namespace EventStore

/-- `INSERT … ON CONFLICT DO NOTHING RETURNING`. -/
def insertClaim (w : EventStore) (processorId : ℕ) (now : Timestamp) : Bool × EventStore :=
  match w.claim with
  | some _ => (false, w)
  | none => (true, { w with claim := some ⟨processorId, .processing, now⟩ })

/-- The reclaiming `UPDATE … RETURNING`. -/
def reclaim (w : EventStore) (processorId : ℕ) (now staleCutoff : Timestamp) :
    Bool × EventStore :=
  match w.claim with
  | some row =>
    if row.status ≠ .completed ∧ (row.status = .failed ∨ row.updatedAt < staleCutoff) then
      (true, { w with claim := some ⟨processorId, .processing, now⟩ })
    else (false, w)
  | none => (false, w)

/-- The completing `UPDATE`. -/
def setCompleted (w : EventStore) (completedAt : Timestamp) : EventStore :=
  { w with claim := w.claim.map fun row =>
      { row with status := .completed, updatedAt := completedAt } }

/-- The failing `UPDATE`. -/
def setFailed (w : EventStore) (failedAt : Timestamp) : EventStore :=
  { w with claim := w.claim.map fun row =>
      if row.status ≠ .completed then { row with status := .failed, updatedAt := failedAt }
      else row }

def send {ρ : Type} (w : EventStore) (executed : ρ × EventStore) : Except DbError ρ × EventStore :=
  w.database.send .storageFailure executed w

def sendWallet (w : EventStore) (c : Statement) : Except DbError c.Reply × EventStore :=
  match w.database with
  | .up => ((handle c w.store).1, { w with store := (handle c w.store).2 })
  | .down => (.error .storageFailure, w)
  | .lost => (.error .storageFailure, { w with store := (handle c w.store).2 })

end EventStore

def eventHandle : Handler EventApi EventStore
  | .isEventProcessed replica, w => (w.processed replica, w)
  | .markEventProcessed replica, w =>
    ((), { w with processed := Function.update w.processed replica true })
  | .clock, w => (w.clock, w)
  | .insertClaim processorId now, w => w.send (w.insertClaim processorId now)
  | .reclaim processorId now staleCutoff, w => w.send (w.reclaim processorId now staleCutoff)
  | .setCompleted completedAt, w => w.send ((), w.setCompleted completedAt)
  | .setFailed failedAt, w => w.send ((), w.setFailed failedAt)
  | .wallet c, w => w.sendWallet c

/-! ### The methods of the repository -/

inductive EventError where
  | repository (e : RepositoryError)
  /-- The amount is not a number, or `DepositRequest` rejects it. -/
  | amount
  deriving DecidableEq, Repr

abbrev EventM := Prog EventApi EventError

def perform (c : EventCall) : EventM c.Reply := .call c .ret

def claimSql {α : Type} (c : EventCall) (answer : c.Reply → Except DbError α) : EventM α :=
  .call c fun r =>
    match answer r with
    | .ok a => .ret a
    | .error e => .raise (.repository (.database e))

def claimEventProcessing (processorId : ℕ) (staleAfterSeconds : ℤ) : EventM Bool := do
  let now ← perform .clock
  let staleCutoff := now - seconds (max staleAfterSeconds 1)
  let inserted ← claimSql (.insertClaim processorId now) id
  if inserted then return true
  else claimSql (.reclaim processorId now staleCutoff) id

def markEventProcessingCompleted : EventM Unit := do
  let completedAt ← perform .clock
  claimSql (.setCompleted completedAt) id

def markEventProcessingFailed : EventM Unit := do
  let failedAt ← perform .clock
  claimSql (.setFailed failedAt) id

/-! ### What the claim statements do -/

section Statements

variable (w : EventStore) (processorId : ℕ) (now staleCutoff : Timestamp)

theorem insertClaim_cases :
    w.claim = none ∧ w.insertClaim processorId now =
        (true, { w with claim := some ⟨processorId, .processing, now⟩ }) ∨
      w.insertClaim processorId now = (false, w) := by
  rw [EventStore.insertClaim]
  cases hclaim : w.claim with
  | none => exact .inl ⟨rfl, rfl⟩
  | some row => exact .inr rfl

theorem reclaim_cases :
    (∃ row, w.claim = some row ∧ row.status ≠ .completed ∧
        (row.status = .failed ∨ row.updatedAt < staleCutoff) ∧
        w.reclaim processorId now staleCutoff =
          (true, { w with claim := some ⟨processorId, .processing, now⟩ })) ∨
      w.reclaim processorId now staleCutoff = (false, w) := by
  rw [EventStore.reclaim]
  cases hclaim : w.claim with
  | none => exact .inr rfl
  | some row =>
    dsimp only
    split
    · next hfree => exact .inl ⟨row, rfl, hfree.1, hfree.2, rfl⟩
    · exact .inr rfl

theorem setCompleted_claim (completedAt : Timestamp) :
    (w.setCompleted completedAt).claim = w.claim.map fun row =>
      { row with status := .completed, updatedAt := completedAt } := rfl

variable {w} {executed : ρ × EventStore} {ρ : Type}

theorem send_of_executed (h : w.database ≠ .down) : (w.send executed).2 = executed.2 := by
  rw [EventStore.send]
  cases hlink : w.database with
  | down => exact absurd hlink h
  | _ => rfl

theorem send_of_up (h : w.database = .up) : w.send executed = (.ok executed.1, executed.2) := by
  rw [EventStore.send, h]
  rfl

theorem send_of_down (h : w.database = .down) : (w.send executed).2 = w := by
  rw [EventStore.send, h]
  rfl

theorem sendWallet_of_up (h : w.database = .up) (c : Statement) :
    w.sendWallet c = ((handle c w.store).1, { w with store := (handle c w.store).2 }) := by
  rw [EventStore.sendWallet, h]

theorem sendWallet_claim (c : Statement) : (w.sendWallet c).2.claim = w.claim := by
  rw [EventStore.sendWallet]
  split <;> rfl

end Statements

/-! ### What the methods call -/

section Calls

variable {P : EventCall → Prop}

theorem claimSql_only {α : Type} {c : EventCall} {answer : c.Reply → Except DbError α}
    (hc : P c) : (claimSql c answer).Only P := by
  refine ⟨hc, fun r => ?_⟩
  beta_reduce
  cases answer r <;> trivial

theorem perform_only {c : EventCall} (hc : P c) : (perform c).Only P := ⟨hc, fun _ => trivial⟩

theorem claimEventProcessing_only {processorId : ℕ} {staleAfterSeconds : ℤ} (hclock : P .clock)
    (hinsert : ∀ now, P (.insertClaim processorId now))
    (hreclaim : ∀ now, P (.reclaim processorId now (now - seconds (max staleAfterSeconds 1)))) :
    (claimEventProcessing processorId staleAfterSeconds).Only P := by
  refine (perform_only hclock).bind fun now => ?_
  refine Prog.Only.bind (claimSql_only (hinsert now)) fun inserted => ?_
  cases inserted with
  | true => trivial
  | false => exact claimSql_only (hreclaim now)

theorem markEventProcessingCompleted_only (hclock : P .clock) (hset : ∀ t, P (.setCompleted t)) :
    markEventProcessingCompleted.Only P :=
  (perform_only hclock).bind fun t => claimSql_only (hset t)

theorem markEventProcessingFailed_only (hclock : P .clock) (hset : ∀ t, P (.setFailed t)) :
    markEventProcessingFailed.Only P :=
  (perform_only hclock).bind fun t => claimSql_only (hset t)

end Calls

end IsaUser.Wallets
