import IsaUser.Lib.Prog
import IsaUser.Lib.Table
import IsaUser.Lib.Values

/-!
# The Credit Store

The four tables of the `credit` schema (`001_create_credit_tables.sql`) and the
repository operations on them (`credit_repository.py`). An account, a transaction, an
allocation and a campaign are rows of serial tables; the generated identifiers
`cred_acc_…`, `cred_txn_…`, `cred_alloc_…`, `camp_…` are the serial numbers, drawn when the
row is inserted.

Columns that no modelled operation reads (descriptions, metadata, organizations,
currencies, update times) are left out. Amounts are integers, as in the schema.

`World` adds what lies outside the store: the clock, the users known to the account
service, and the supply of transfer identifiers. `CreditApi` lists the calls a service
method can make and `handle` says what each of them does to the world.
-/

namespace IsaUser.Credit

/-! ### Rows -/

/-- The credit types; any other text is `other`. -/
inductive CreditType where
  | promotional
  | bonus
  | referral
  | subscription
  | compensation
  | other (name : PyStr)
  deriving DecidableEq, Repr

/-- The expiration policies; any other text is `other`. -/
inductive ExpirationPolicy where
  | fixedDays
  | endOfMonth
  | endOfYear
  | subscriptionPeriod
  | never
  | other (name : PyStr)
  deriving DecidableEq, Repr

inductive TransactionType where
  | allocate
  | consume
  | expire
  | transferIn
  | transferOut
  deriving DecidableEq, Repr

inductive AllocationStatus where
  | pending
  | completed
  | failed
  | revoked
  | expired
  deriving DecidableEq, Repr

/-- What a ledger row refers to: `reference_type` with `reference_id`. -/
inductive Reference where
  | manual
  | campaign (id : ℕ)
  | billing (id : PyStr)
  | allocation (id : ℕ)
  | transfer (id : ℕ)
  deriving DecidableEq, Repr

/-- A row of `credit_accounts`. -/
structure Account where
  userId : PyStr
  creditType : CreditType
  balance : ℤ
  totalAllocated : ℤ
  totalConsumed : ℤ
  totalExpired : ℤ
  expirationPolicy : ExpirationPolicy
  expirationDays : ℤ
  isActive : Bool
  createdAt : Timestamp
  deriving DecidableEq, Repr

/-- A row of `credit_transactions`. -/
structure Transaction where
  accountId : ℕ
  userId : PyStr
  transactionType : TransactionType
  amount : ℤ
  balanceBefore : ℤ
  balanceAfter : ℤ
  reference : Reference
  expiresAt : Option Timestamp
  createdAt : Timestamp
  deriving DecidableEq, Repr

/-- A row of `credit_allocations`. -/
structure Allocation where
  campaignId : Option ℕ
  userId : PyStr
  accountId : ℕ
  transactionId : ℕ
  amount : ℤ
  status : AllocationStatus
  expiresAt : Option Timestamp
  expiredAmount : ℤ
  consumedAmount : ℤ
  createdAt : Timestamp
  deriving DecidableEq, Repr

/-- `amount - consumed_amount - expired_amount`. -/
def Allocation.available (a : Allocation) : ℤ :=
  a.amount - a.consumedAmount - a.expiredAmount

/-- A row of `credit_campaigns`; of the eligibility rules only `user_tiers` is read. -/
structure Campaign where
  creditType : CreditType
  creditAmount : ℤ
  totalBudget : ℤ
  allocatedAmount : ℤ
  userTiers : List PyStr
  startDate : Timestamp
  endDate : Timestamp
  expirationDays : ℤ
  maxAllocationsPerUser : ℤ
  isActive : Bool
  deriving DecidableEq, Repr

/-- The `credit` schema. -/
structure Store where
  accounts : Table Account
  transactions : Table Transaction
  campaigns : Table Campaign
  allocations : Table Allocation
  deriving DecidableEq, Repr

/-! ### Repository operations -/

namespace Store

def empty : Store := ⟨.empty, .empty, .empty, .empty⟩

def getAccountById (s : Store) (accountId : ℕ) : Option (Row Account) :=
  (s.accounts.get? accountId).map (⟨accountId, ·⟩)

def getAccountByUserType (s : Store) (userId : PyStr) (creditType : CreditType) :
    Option (Row Account) :=
  s.accounts.find? fun a => a.userId = userId ∧ a.creditType = creditType

/-- `get_user_accounts` with `is_active = TRUE`, newest first. -/
def getActiveAccounts (s : Store) (userId : PyStr) : List (Row Account) :=
  orderBy (fun a => -a.val.createdAt)
    (s.accounts.select fun a => a.userId = userId ∧ a.isActive)

/-- `create_account`, which `UNIQUE(user_id, credit_type)` can refuse. -/
def createAccount (s : Store) (now : Timestamp) (data : Account) :
    Except String (Row Account) × Store :=
  match s.getAccountByUserType data.userId data.creditType with
  | some _ => (.error "duplicate key value violates unique constraint", s)
  | none =>
    let account := { data with createdAt := now }
    (.ok ⟨s.accounts.size, account⟩, { s with accounts := s.accounts.insert account })

/-- The columns `update_account_balance` sets. -/
def addToBalance (delta : ℤ) (a : Account) : Account :=
  { a with
    balance := a.balance + delta
    totalAllocated := if 0 < delta then a.totalAllocated + delta else a.totalAllocated
    totalConsumed := if delta < 0 then a.totalConsumed + |delta| else a.totalConsumed }

/-- `update_account_balance`: one guarded `UPDATE`. -/
def updateAccountBalance (s : Store) (accountId : ℕ) (delta : ℤ) : Bool × Store :=
  match s.accounts.get? accountId with
  | some a =>
    if 0 ≤ a.balance + delta then
      (true, { s with accounts := s.accounts.modify accountId (addToBalance delta) })
    else (false, s)
  | none => (false, s)

def createTransaction (s : Store) (now : Timestamp) (data : Transaction) :
    Row Transaction × Store :=
  let txn := { data with createdAt := now }
  (⟨s.transactions.size, txn⟩, { s with transactions := s.transactions.insert txn })

def createAllocation (s : Store) (now : Timestamp) (data : Allocation) :
    Row Allocation × Store :=
  let alloc := { data with createdAt := now }
  (⟨s.allocations.size, alloc⟩, { s with allocations := s.allocations.insert alloc })

/-- `get_expiring_allocations`, earliest expiry first. -/
def getExpiringAllocations (s : Store) (before : Timestamp) : List (Row Allocation) :=
  orderBy (fun a => nullsLast a.val.expiresAt)
    (s.allocations.select fun a =>
      a.expiresAt.any (· ≤ before) ∧ a.status = .completed ∧ 0 < a.available)

def updateAllocationConsumed (s : Store) (allocationId : ℕ) (consumedAmount : ℤ) :
    Bool × Store :=
  match s.allocations.get? allocationId with
  | some _ =>
    (true, { s with
      allocations := s.allocations.modify allocationId fun a =>
        { a with consumedAmount := a.consumedAmount + consumedAmount } })
  | none => (false, s)

def updateAllocationExpired (s : Store) (allocationId : ℕ) (expiredAmount : ℤ) :
    Bool × Store :=
  match s.allocations.get? allocationId with
  | some _ =>
    (true, { s with
      allocations := s.allocations.modify allocationId fun a =>
        { a with expiredAmount := a.expiredAmount + expiredAmount } })
  | none => (false, s)

def getAvailableCreditsFifo (s : Store) (accountId : ℕ) (now : Timestamp) :
    List (Row Allocation) :=
  orderBy (fun a => toLex (nullsLast a.val.expiresAt, a.val.createdAt))
    (s.allocations.select fun a =>
      a.accountId = accountId ∧ a.status = .completed ∧ 0 < a.available ∧
        a.expiresAt.all (now < ·))

def createCampaign (s : Store) (data : Campaign) : Row Campaign × Store :=
  (⟨s.campaigns.size, data⟩, { s with campaigns := s.campaigns.insert data })

def getCampaignById (s : Store) (campaignId : ℕ) : Option (Row Campaign) :=
  (s.campaigns.get? campaignId).map (⟨campaignId, ·⟩)

/-- `update_campaign_budget`: one guarded `UPDATE`. -/
def updateCampaignBudget (s : Store) (campaignId : ℕ) (amount : ℤ) : Bool × Store :=
  match s.campaigns.get? campaignId with
  | some c =>
    if c.allocatedAmount + amount ≤ c.totalBudget then
      (true, { s with
        campaigns := s.campaigns.modify campaignId fun c =>
          { c with allocatedAmount := c.allocatedAmount + amount } })
    else (false, s)
  | none => (false, s)

def getUserCampaignAllocationsCount (s : Store) (userId : PyStr) (campaignId : ℕ) : ℤ :=
  (s.allocations.select fun a => a.userId = userId ∧ a.campaignId = some campaignId).length

end Store

/-! ### The calls of a service method -/

structure User where
  isActive : Bool
  /-- `user.get("tier", "basic")`. -/
  tier : PyStr
  deriving DecidableEq, Repr

structure World where
  store : Store
  /-- `datetime.now(timezone.utc)`. -/
  clock : Timestamp
  /-- What `account_client.get_user` answers. -/
  users : PyStr → Option User
  /-- The supply of `uuid4` transfer identifiers. -/
  nextTransferId : ℕ

/-- The calls a method of `CreditService` makes. -/
inductive Call where
  | now
  | newTransferId
  | getUser (userId : PyStr)
  | getAccountById (accountId : ℕ)
  | getAccountByUserType (userId : PyStr) (creditType : CreditType)
  | getActiveAccounts (userId : PyStr)
  | createAccount (data : Account)
  | updateAccountBalance (accountId : ℕ) (delta : ℤ)
  | createTransaction (data : Transaction)
  | createAllocation (data : Allocation)
  | getExpiringAllocations (before : Timestamp)
  | updateAllocationConsumed (allocationId : ℕ) (consumedAmount : ℤ)
  | updateAllocationExpired (allocationId : ℕ) (expiredAmount : ℤ)
  | getAvailableCreditsFifo (accountId : ℕ)
  | createCampaign (data : Campaign)
  | getCampaignById (campaignId : ℕ)
  | updateCampaignBudget (campaignId : ℕ) (amount : ℤ)
  | getUserCampaignAllocationsCount (userId : PyStr) (campaignId : ℕ)

@[reducible] def Call.Reply : Call → Type
  | now => Timestamp
  | newTransferId => ℕ
  | getUser _ => Option User
  | getAccountById _ => Option (Row Account)
  | getAccountByUserType _ _ => Option (Row Account)
  | getActiveAccounts _ => List (Row Account)
  | createAccount _ => Except String (Row Account)
  | updateAccountBalance _ _ => Bool
  | createTransaction _ => Row Transaction
  | createAllocation _ => Row Allocation
  | getExpiringAllocations _ => List (Row Allocation)
  | updateAllocationConsumed _ _ => Bool
  | updateAllocationExpired _ _ => Bool
  | getAvailableCreditsFifo _ => List (Row Allocation)
  | createCampaign _ => Row Campaign
  | getCampaignById _ => Option (Row Campaign)
  | updateCampaignBudget _ _ => Bool
  | getUserCampaignAllocationsCount _ _ => ℤ

abbrev CreditApi : Interface := ⟨Call, Call.Reply⟩

def World.withStore (w : World) (s : Store) : World := { w with store := s }

def handle : Handler CreditApi World
  | .now, w => (w.clock, w)
  | .newTransferId, w => (w.nextTransferId, { w with nextTransferId := w.nextTransferId + 1 })
  | .getUser u, w => (w.users u, w)
  | .getAccountById a, w => (w.store.getAccountById a, w)
  | .getAccountByUserType u t, w => (w.store.getAccountByUserType u t, w)
  | .getActiveAccounts u, w => (w.store.getActiveAccounts u, w)
  | .createAccount data, w => (w.store.createAccount w.clock data).map id w.withStore
  | .updateAccountBalance a δ, w => (w.store.updateAccountBalance a δ).map id w.withStore
  | .createTransaction data, w => (w.store.createTransaction w.clock data).map id w.withStore
  | .createAllocation data, w => (w.store.createAllocation w.clock data).map id w.withStore
  | .getExpiringAllocations b, w => (w.store.getExpiringAllocations b, w)
  | .updateAllocationConsumed a x, w =>
    (w.store.updateAllocationConsumed a x).map id w.withStore
  | .updateAllocationExpired a x, w =>
    (w.store.updateAllocationExpired a x).map id w.withStore
  | .getAvailableCreditsFifo a, w => (w.store.getAvailableCreditsFifo a w.clock, w)
  | .createCampaign data, w => (w.store.createCampaign data).map id w.withStore
  | .getCampaignById c, w => (w.store.getCampaignById c, w)
  | .updateCampaignBudget c x, w => (w.store.updateCampaignBudget c x).map id w.withStore
  | .getUserCampaignAllocationsCount u c, w =>
    (w.store.getUserCampaignAllocationsCount u c, w)

end IsaUser.Credit
