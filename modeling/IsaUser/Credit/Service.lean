import IsaUser.Credit.Model

/-!
# The Credit Service

The methods of `CreditService` (`credit_service.py`) that move credits, line by line, as
programs over the calls of `CreditApi`: accounts, allocation, campaigns, consumption,
availability, expiration and transfer.

Publishing an event never raises and touches no table, so it is left out, as are the
arguments that are only stored (descriptions, metadata, organizations). A repository call
that hits no storage error raises only when `UNIQUE(user_id, credit_type)` refuses a new
account.
-/

namespace IsaUser.Credit

/-- The exceptions of `protocols.py`, and Python's own that the methods can raise. -/
inductive CreditError where
  | valueError (message : String)
  | typeError
  | invalidCreditType (message : String)
  | insufficientCredits (message : String) (available required : ℤ)
  | campaignNotFound (message : String)
  | campaignInactive (message : String)
  | campaignBudgetExhausted (message : String) (campaignId : ℕ)
      (totalBudget allocatedAmount : ℤ)
  | creditAllocationFailed (message reason : String)
  | creditConsumptionFailed (message reason : String)
  | creditTransferFailed (message reason : String)
  | userValidationFailed (message : String)
  | repository (message : String)
  deriving DecidableEq, Repr

/-- `str(e)`. -/
def CreditError.text : CreditError → String
  | valueError m => m
  | typeError => "unsupported operand type(s)"
  | invalidCreditType m => m
  | insufficientCredits m _ _ => m
  | campaignNotFound m => m
  | campaignInactive m => m
  | campaignBudgetExhausted m _ _ _ => m
  | creditAllocationFailed m _ => m
  | creditConsumptionFailed m _ => m
  | creditTransferFailed m _ => m
  | userValidationFailed m => m
  | repository m => m

abbrev CreditM := Prog CreditApi CreditError

def ask (c : Call) : CreditM c.Reply := @Prog.perform CreditApi CreditError c

def fail {α : Type} (e : CreditError) : CreditM α := .raise e

/-- The service, configured with or without a client of the account service. -/
structure CreditService where
  accountClient : Bool
  deriving DecidableEq, Repr

/-- `CREDIT_TYPE_PRIORITY.get(credit_type, 99)`. -/
def CreditType.priority : CreditType → ℤ
  | compensation => 1
  | promotional => 2
  | bonus => 3
  | referral => 4
  | subscription => 5
  | other _ => 99

def nonTransferableTypes : List CreditType := [.compensation]

def validCreditTypes : List CreditType :=
  [.promotional, .bonus, .referral, .subscription, .compensation]

def validExpirationPolicies : List ExpirationPolicy :=
  [.fixedDays, .endOfMonth, .endOfYear, .subscriptionPeriod, .never]

def creditTypeMessage : String :=
  "credit_type must be one of: ['promotional', 'bonus', 'referral', 'subscription', " ++
    "'compensation']"

def expirationPolicyMessage : String :=
  "expiration_policy must be one of: ['fixed_days', 'end_of_month', 'end_of_year', " ++
    "'subscription_period', 'never']"

/-- `_calculate_expiration_date` at the clock reading `now`. -/
def calculateExpirationDate (now : Timestamp) (policy : ExpirationPolicy)
    (expirationDays : ℤ) (campaign : Option Campaign) : Option Timestamp :=
  let expirationDays := (campaign.map (·.expirationDays)).getD expirationDays
  match policy with
  | .never => none
  | .fixedDays => some (now + days expirationDays)
  | .endOfMonth =>
    let nextMonth := daysFromCivil { now.date with day := 28 } + 4
    some (endOfDay (nextMonth - (civilFromDays nextMonth).day))
  | .endOfYear => some (endOfDay (daysFromCivil ⟨now.date.year, 12, 31⟩))
  | .subscriptionPeriod => some (now + days 30)
  | .other _ => some (now + days expirationDays)

namespace CreditService

/-! ### Accounts -/

def createAccount (userId : PyStr) (creditType : CreditType)
    (expirationPolicy : ExpirationPolicy := .fixedDays) (expirationDays : ℤ := 90) :
    CreditM (Row Account) := do
  Prog.require (userId.strip ≠ []) (.valueError "user_id is required")
  let userId := userId.strip
  Prog.require (userId.length ≤ 50) (.valueError "user_id must be 1-50 characters")
  Prog.require (creditType ∈ validCreditTypes) (.invalidCreditType creditTypeMessage)
  Prog.require (expirationPolicy ∈ validExpirationPolicies)
    (.valueError expirationPolicyMessage)
  match ← ask (.getAccountByUserType userId creditType) with
  | some existing => return existing
  | none =>
    let created ← ask (.createAccount
      { userId, creditType, balance := 0, totalAllocated := 0, totalConsumed := 0,
        totalExpired := 0, expirationPolicy, expirationDays, isActive := true,
        createdAt := 0 })
    match created with
    | .ok account => return account
    | .error e =>
      fail (.creditAllocationFailed ("Failed to create credit account: " ++ e) e)

def getOrCreateAccount (userId : PyStr) (creditType : CreditType) :
    CreditM (Row Account) := do
  match ← ask (.getAccountByUserType userId creditType) with
  | some account => return account
  | none => createAccount userId creditType

/-! ### Campaigns and allocation -/

/-- The arguments of `create_campaign`. -/
structure CampaignRequest where
  name : PyStr
  creditType : CreditType
  creditAmount : ℤ
  totalBudget : ℤ
  startDate : Timestamp
  endDate : Timestamp
  userTiers : List PyStr
  expirationDays : ℤ := 90
  maxAllocationsPerUser : ℤ := 1
  deriving DecidableEq, Repr

def createCampaign (request : CampaignRequest) : CreditM (Row Campaign) := do
  Prog.require (request.name.strip ≠ []) (.valueError "name is required")
  Prog.require (request.startDate < request.endDate)
    (.valueError "start_date must be before end_date")
  Prog.require (0 < request.creditAmount) (.valueError "credit_amount must be positive")
  Prog.require (0 < request.totalBudget) (.valueError "total_budget must be positive")
  Prog.require (request.creditType ∈ validCreditTypes) (.invalidCreditType creditTypeMessage)
  Prog.require (1 ≤ request.expirationDays ∧ request.expirationDays ≤ 365)
    (.valueError "expiration_days must be between 1 and 365")
  ask (.createCampaign
    { creditType := request.creditType, creditAmount := request.creditAmount,
      totalBudget := request.totalBudget, allocatedAmount := 0,
      userTiers := request.userTiers, startDate := request.startDate,
      endDate := request.endDate, expirationDays := request.expirationDays,
      maxAllocationsPerUser := request.maxAllocationsPerUser, isActive := true })

def validateUser (userId : PyStr) : CreditM Bool := do
  match ← ask (.getUser userId) with
  | some user => return user.isActive
  | none => return false

/-- `validate_user` where a client is configured, else no check. -/
def validateUserIfClient (self : CreditService) (userId : PyStr) (e : CreditError) :
    CreditM Unit :=
  if self.accountClient then do
    let isValid ← validateUser userId
    Prog.require (isValid = true) e
  else
    return ()

def validateCampaignForAllocation (self : CreditService) (campaignId : ℕ) (userId : PyStr)
    (amount : ℤ) : CreditM Campaign := do
  match ← ask (.getCampaignById campaignId) with
  | none => fail (.campaignNotFound s!"Campaign not found: {campaignId}")
  | some ⟨_, campaign⟩ =>
    let now ← ask .now
    Prog.require (campaign.isActive = true) (.campaignInactive "Campaign is not active")
    Prog.require (campaign.startDate ≤ now)
      (.campaignInactive "Campaign has not started yet")
    Prog.require (now ≤ campaign.endDate) (.campaignInactive "Campaign has expired")
    Prog.require (amount ≤ campaign.totalBudget - campaign.allocatedAmount)
      (.campaignBudgetExhausted "Campaign budget exhausted" campaignId
        campaign.totalBudget campaign.allocatedAmount)
    let count ← ask (.getUserCampaignAllocationsCount userId campaignId)
    Prog.require (count < campaign.maxAllocationsPerUser)
      (.valueError "Maximum allocations reached for this campaign")
    self.validateUserIfClient userId
      (.valueError "User does not meet eligibility requirements")
    return campaign

/-- The arguments of `allocate_credits`. -/
structure AllocateRequest where
  userId : PyStr
  amount : ℤ
  creditType : CreditType
  campaignId : Option ℕ := none
  expiresAt : Option Timestamp := none
  deriving DecidableEq, Repr

/-- The answer of `allocate_credits`. -/
structure AllocateResponse where
  allocationId : ℕ
  accountId : ℕ
  amount : ℤ
  balanceAfter : ℤ
  expiresAt : Option Timestamp
  deriving DecidableEq, Repr

/-- The `try` block of `allocate_credits`: ledger row, balance, allocation, budget. -/
def writeAllocation (request : AllocateRequest) (account : Row Account)
    (expiresAt : Option Timestamp) : CreditM AllocateResponse := do
  let balanceBefore := account.val.balance
  let balanceAfter := balanceBefore + request.amount
  let transaction ← ask (.createTransaction
    { accountId := account.id, userId := request.userId, transactionType := .allocate,
      amount := request.amount, balanceBefore, balanceAfter,
      reference := (request.campaignId.map .campaign).getD .manual,
      expiresAt, createdAt := 0 })
  let success ← ask (.updateAccountBalance account.id request.amount)
  Prog.require (success = true)
    (.creditAllocationFailed "Failed to update account balance" "balance_update_failed")
  let allocation ← ask (.createAllocation
    { campaignId := request.campaignId, userId := request.userId, accountId := account.id,
      transactionId := transaction.id, amount := request.amount, status := .completed,
      expiresAt, expiredAmount := 0, consumedAmount := 0, createdAt := 0 })
  match request.campaignId with
  | some campaignId =>
    -- the answer of the guarded update is not looked at
    let _ ← ask (.updateCampaignBudget campaignId request.amount)
    return ⟨allocation.id, account.id, request.amount, balanceAfter, expiresAt⟩
  | none => return ⟨allocation.id, account.id, request.amount, balanceAfter, expiresAt⟩

def campaignOf (self : CreditService) (request : AllocateRequest) :
    CreditM (Option Campaign) :=
  match request.campaignId with
  | some campaignId => do
    let campaign ←
      self.validateCampaignForAllocation campaignId request.userId request.amount
    return some campaign
  | none => return none

def expiryOf (request : AllocateRequest) (account : Account) (campaign : Option Campaign) :
    CreditM (Option Timestamp) :=
  match request.expiresAt with
  | some t => return some t
  | none => do
    let now ← ask .now
    return calculateExpirationDate now account.expirationPolicy account.expirationDays
      campaign

def allocateCredits (self : CreditService) (request : AllocateRequest) :
    CreditM AllocateResponse := do
  Prog.require (0 < request.amount) (.valueError "Allocation amount must be positive")
  Prog.require (request.creditType ∈ validCreditTypes) (.invalidCreditType creditTypeMessage)
  let account ← getOrCreateAccount request.userId request.creditType
  Prog.require (account.val.isActive = true)
    (.creditAllocationFailed "Credit account is inactive" "account_inactive")
  let campaign ← self.campaignOf request
  let expiresAt ← expiryOf request account.val campaign
  (writeAllocation request account expiresAt).tryCatch fun e =>
    .raise (.creditAllocationFailed ("Failed to allocate credits: " ++ e.text) e.text)

/-- The tier check of `allocate_from_campaign`. -/
def checkEligibility (self : CreditService) (userId : PyStr) (userTiers : List PyStr) :
    CreditM Unit :=
  if userTiers ≠ [] ∧ self.accountClient then do
    let user ← ask (.getUser userId)
    Prog.require (user.all (·.tier ∈ userTiers))
      (.creditAllocationFailed "User does not meet eligibility requirements"
        "eligibility_failed")
  else
    return ()

def allocateFromCampaign (self : CreditService) (userId : PyStr) (campaignId : ℕ) :
    CreditM AllocateResponse := do
  let campaign ← self.validateCampaignForAllocation campaignId userId 0
  Prog.require (campaign.creditAmount ≤ campaign.totalBudget - campaign.allocatedAmount)
    (.campaignBudgetExhausted "Campaign budget exhausted" campaignId
      campaign.totalBudget campaign.allocatedAmount)
  self.checkEligibility userId campaign.userTiers
  let now ← ask .now
  self.allocateCredits
    { userId, amount := campaign.creditAmount, creditType := campaign.creditType,
      campaignId := some campaignId, expiresAt := some (now + days campaign.expirationDays) }

/-! ### Consumption -/

/-- An element of `all_credits`. -/
structure CreditLot where
  accountId : ℕ
  creditType : CreditType
  allocationId : ℕ
  available : ℤ
  expiresAt : Option Timestamp
  createdAt : Timestamp
  priority : ℤ
  deriving DecidableEq, Repr

structure PlanItem where
  accountId : ℕ
  allocationId : ℕ
  amount : ℤ
  creditType : CreditType
  expiresAt : Option Timestamp
  deriving DecidableEq, Repr

def toCreditLot (account : Row Account) (alloc : Row Allocation) : CreditLot where
  accountId := account.id
  creditType := account.val.creditType
  allocationId := alloc.id
  available := alloc.val.available
  expiresAt := alloc.val.expiresAt
  createdAt := alloc.val.createdAt
  priority := account.val.creditType.priority

/-- The first loop of `_build_consumption_plan`: the credits of all accounts. -/
def collectCredits : List (Row Account) → CreditM (List CreditLot)
  | [] => return []
  | account :: accounts => do
    let allocations ← ask (.getAvailableCreditsFifo account.id)
    let credits := (allocations.filter (0 < ·.val.available)).map (toCreditLot account)
    let rest ← collectCredits accounts
    return credits ++ rest

/-- Some expiry dates are texts and some are the `datetime.max` put for a missing one. -/
def mixedExpiry (credits : List CreditLot) : Prop :=
  (∃ c ∈ credits, c.expiresAt = none) ∧ ∃ c ∈ credits, c.expiresAt ≠ none
  deriving Decidable

/-- The sort key `(expires_at or datetime.max, priority, created_at)`. -/
def CreditLot.key (c : CreditLot) : WithTop Timestamp ×ₗ ℤ ×ₗ Timestamp :=
  toLex (nullsLast c.expiresAt, toLex (c.priority, c.createdAt))

/-- The second loop of `_build_consumption_plan`: take from the credits in order until
nothing remains to be taken. -/
def takeCredits : ℤ → List CreditLot → List PlanItem
  | _, [] => []
  | remaining, c :: credits =>
    if remaining ≤ 0 then []
    else
      let amount := min remaining c.available
      ⟨c.accountId, c.allocationId, amount, c.creditType, c.expiresAt⟩ ::
        takeCredits (remaining - amount) credits

/-- `_build_consumption_plan`. Sorting compares two keys of different kinds whenever both
kinds occur, and `<` between a text and a `datetime` raises. -/
def buildConsumptionPlan (accounts : List (Row Account)) (amount : ℤ) :
    CreditM (List PlanItem) := do
  let credits ← collectCredits accounts
  Prog.require (¬mixedExpiry credits) .typeError
  return takeCredits amount (orderBy CreditLot.key credits)

def totalBalance (accounts : List (Row Account)) : ℤ :=
  (accounts.map (·.val.balance)).sum

/-- An entry of the `transactions` of a consumption response. -/
structure ConsumeTransaction where
  transactionId : ℕ
  accountId : ℕ
  amount : ℤ
  creditType : CreditType
  deriving DecidableEq, Repr

/-- The answer of `consume_credits`. -/
structure ConsumeResponse where
  amountConsumed : ℤ
  balanceBefore : ℤ
  balanceAfter : ℤ
  transactions : List ConsumeTransaction
  deriving DecidableEq, Repr

/-- One round of the execution loop of `consume_credits`. -/
def consumeItem (userId : PyStr) (billingRecordId : Option PyStr) (item : PlanItem) :
    CreditM ConsumeTransaction := do
  match ← ask (.getAccountById item.accountId) with
  | none => fail .typeError
  | some account =>
    let balanceBefore := account.val.balance
    let transaction ← ask (.createTransaction
      { accountId := item.accountId, userId, transactionType := .consume,
        amount := -item.amount, balanceBefore,
        balanceAfter := balanceBefore - item.amount,
        reference := (billingRecordId.map .billing).getD .manual,
        expiresAt := none, createdAt := 0 })
    let success ← ask (.updateAccountBalance item.accountId (-item.amount))
    Prog.require (success = true)
      (.creditConsumptionFailed "Failed to update account balance"
        "balance_update_failed")
    let _ ← ask (.updateAllocationConsumed item.allocationId item.amount)
    return ⟨transaction.id, item.accountId, item.amount, account.val.creditType⟩

/-- The execution loop of `consume_credits`. -/
def consumeItems (userId : PyStr) (billingRecordId : Option PyStr) :
    List PlanItem → CreditM (List ConsumeTransaction)
  | [] => return []
  | item :: plan => do
    let transaction ← consumeItem userId billingRecordId item
    let rest ← consumeItems userId billingRecordId plan
    return transaction :: rest

def consumeCredits (userId : PyStr) (amount : ℤ) (billingRecordId : Option PyStr := none) :
    CreditM ConsumeResponse := do
  Prog.require (0 < amount) (.valueError "Consumption amount must be positive")
  let accounts ← ask (.getActiveAccounts userId)
  Prog.require (accounts ≠ [])
    (.insufficientCredits "No credit accounts available" 0 amount)
  Prog.require (amount ≤ totalBalance accounts)
    (.insufficientCredits "Insufficient credits" (totalBalance accounts) amount)
  let plan ← buildConsumptionPlan accounts amount
  Prog.require (plan ≠ [])
    (.creditConsumptionFailed "Failed to build consumption plan" "no_plan")
  let transactions ← (consumeItems userId billingRecordId plan).tryCatch fun e =>
    .raise (.creditConsumptionFailed ("Failed to consume credits: " ++ e.text) e.text)
  let totalConsumed := (transactions.map (·.amount)).sum
  return ⟨totalConsumed, totalBalance accounts, totalBalance accounts - totalConsumed,
    transactions⟩

/-- An item of the plan `check_availability` shows. -/
structure ShownItem where
  accountId : ℕ
  creditType : CreditType
  amount : ℤ
  expiresAt : Option Timestamp
  deriving DecidableEq, Repr

/-- What `check_availability` shows of a plan item. -/
def PlanItem.shown (item : PlanItem) : ShownItem :=
  ⟨item.accountId, item.creditType, item.amount, item.expiresAt⟩

/-- The answer of `check_availability`. -/
structure Availability where
  available : Bool
  totalBalance : ℤ
  requestedAmount : ℤ
  deficit : ℤ
  consumptionPlan : List ShownItem
  deriving DecidableEq, Repr

/-- The plan `check_availability` shows, for as much as there is. -/
def planIfAny (accounts : List (Row Account)) (amount : ℤ) : CreditM (List PlanItem) :=
  if accounts ≠ [] then buildConsumptionPlan accounts amount else return []

def checkAvailability (userId : PyStr) (amount : ℤ) : CreditM Availability := do
  Prog.require (0 < amount) (.valueError "Amount must be positive")
  let accounts ← ask (.getActiveAccounts userId)
  let total := totalBalance accounts
  let plan ← planIfAny accounts (min amount total)
  return ⟨total ≥ amount, total, amount, max 0 (amount - total), plan.map (·.shown)⟩

/-! ### Expiration -/

/-- One round of `process_expirations`: the amount expired, or `none` where the round is
skipped. The answer of the guarded balance update is not looked at. -/
def expireAllocation (alloc : Row Allocation) : CreditM (Option ℤ) := do
  let remaining := alloc.val.available
  if remaining ≤ 0 then return none
  else
    match ← ask (.getAccountById alloc.val.accountId) with
    | none => return none
    | some account =>
      let balanceBefore := account.val.balance
      let _ ← ask (.createTransaction
        { accountId := alloc.val.accountId, userId := alloc.val.userId,
          transactionType := .expire, amount := -remaining, balanceBefore,
          balanceAfter := balanceBefore - remaining, reference := .allocation alloc.id,
          expiresAt := none, createdAt := 0 })
      let _ ← ask (.updateAccountBalance alloc.val.accountId (-remaining))
      let _ ← ask (.updateAllocationExpired alloc.id remaining)
      return some remaining

/-- The loop of `process_expirations`. -/
def expireAllocations : List (Row Allocation) → CreditM (List ℤ)
  | [] => return []
  | alloc :: allocations => do
    let expired ← expireAllocation alloc
    let rest ← expireAllocations allocations
    return expired.toList ++ rest

/-- The answer of `process_expirations`. -/
structure ExpirationResponse where
  expiredCount : ℕ
  totalExpiredAmount : ℤ
  processedAt : Timestamp
  deriving DecidableEq, Repr

def processExpirations : CreditM ExpirationResponse := do
  let now ← ask .now
  let expiring ← ask (.getExpiringAllocations now)
  let expired ← expireAllocations expiring
  return ⟨expired.length, expired.sum, now⟩

/-! ### Transfer -/

/-- The arguments of `transfer_credits`. -/
structure TransferRequest where
  fromUserId : PyStr
  toUserId : PyStr
  amount : ℤ
  creditType : CreditType
  deriving DecidableEq, Repr

/-- The answer of `transfer_credits`. -/
structure TransferResponse where
  transferId : ℕ
  fromTransactionId : ℕ
  toTransactionId : ℕ
  amount : ℤ
  fromBalanceAfter : ℤ
  toBalanceAfter : ℤ
  deriving DecidableEq, Repr

/-- The `try` block of `transfer_credits`: two ledger rows, two balances. -/
def writeTransfer (request : TransferRequest) (fromAccount toAccount : Row Account)
    (transferId : ℕ) : CreditM TransferResponse := do
  let amount := request.amount
  let fromBalance := fromAccount.val.balance
  let toBalance := toAccount.val.balance
  let fromTransaction ← ask (.createTransaction
    { accountId := fromAccount.id, userId := request.fromUserId,
      transactionType := .transferOut, amount := -amount, balanceBefore := fromBalance,
      balanceAfter := fromBalance - amount, reference := .transfer transferId,
      expiresAt := none, createdAt := 0 })
  let toTransaction ← ask (.createTransaction
    { accountId := toAccount.id, userId := request.toUserId,
      transactionType := .transferIn, amount, balanceBefore := toBalance,
      balanceAfter := toBalance + amount, reference := .transfer transferId,
      expiresAt := none, createdAt := 0 })
  let fromSuccess ← ask (.updateAccountBalance fromAccount.id (-amount))
  let toSuccess ← ask (.updateAccountBalance toAccount.id amount)
  Prog.require (fromSuccess = true ∧ toSuccess = true)
    (.creditTransferFailed "Failed to update balances" "balance_update_failed")
  return ⟨transferId, fromTransaction.id, toTransaction.id, amount, fromBalance - amount,
    toBalance + amount⟩

def transferCredits (self : CreditService) (request : TransferRequest) :
    CreditM TransferResponse := do
  Prog.require (request.fromUserId ≠ request.toUserId)
    (.valueError "Cannot transfer to self")
  Prog.require (0 < request.amount) (.valueError "Transfer amount must be positive")
  Prog.require (request.creditType ∉ nonTransferableTypes)
    (.creditTransferFailed "Credit type not transferable"
      "compensation credits cannot be transferred")
  self.validateUserIfClient request.toUserId
    (.userValidationFailed ("Recipient user not found: " ++ request.toUserId.text))
  match ← ask (.getAccountByUserType request.fromUserId request.creditType) with
  | none =>
    fail (.insufficientCredits "Sender has no account for this credit type" 0
      request.amount)
  | some fromAccount =>
    Prog.require (request.amount ≤ fromAccount.val.balance)
      (.insufficientCredits "Insufficient credits for transfer" fromAccount.val.balance
        request.amount)
    let toAccount ← getOrCreateAccount request.toUserId request.creditType
    let transferId ← ask .newTransferId
    (writeTransfer request fromAccount toAccount transferId).tryCatch fun e =>
      .raise (.creditTransferFailed ("Failed to transfer credits: " ++ e.text) e.text)

/-! ### Requests -/

inductive Request where
  | createAccount (userId : PyStr) (creditType : CreditType)
      (expirationPolicy : ExpirationPolicy) (expirationDays : ℤ)
  | createCampaign (request : CampaignRequest)
  | allocateCredits (request : AllocateRequest)
  | allocateFromCampaign (userId : PyStr) (campaignId : ℕ)
  | consumeCredits (userId : PyStr) (amount : ℤ) (billingRecordId : Option PyStr)
  | transferCredits (request : TransferRequest)
  | processExpirations
  deriving DecidableEq, Repr

def Request.prog (self : CreditService) : Request → CreditM Unit
  | createAccount u t p d => (CreditService.createAccount u t p d).void
  | createCampaign request => (CreditService.createCampaign request).void
  | allocateCredits request => (self.allocateCredits request).void
  | allocateFromCampaign u c => (self.allocateFromCampaign u c).void
  | consumeCredits u amount ref => (CreditService.consumeCredits u amount ref).void
  | transferCredits request => (self.transferCredits request).void
  | processExpirations => CreditService.processExpirations.void

end CreditService

end IsaUser.Credit
