import IsaUser.Wallet.Model

/-!
# The Wallet Repository

The methods of `WalletRepository` (`wallet_repository.py`) that create wallets and move
money, as programs over the statements of `WalletApi`. Every method catches what it raises
and answers `None` instead.

`deposit`, `withdraw`, `consume` and the second half of `refund` are the same steps on one
wallet (`moveOwn`): read the wallet, change the balance, write a transaction.
`update_balance` is itself a read and a write of the absolute new balance.
-/

namespace IsaUser.Wallets

/-- What a method of the repository can raise before it catches it: the error of a
statement, or a value that a model of `models.py` rejects. -/
inductive RepositoryError where
  | database (e : DbError)
  | validation
  deriving DecidableEq, Repr

abbrev RepoM := Prog WalletApi RepositoryError

def sql (c : Statement) : RepoM c.Reply :=
  @Prog.query ⟨Statement, Statement.Reply⟩ DbError RepositoryError .database c

/-- `WalletBalance`: the wallet as the service sees it, never with a negative available
balance. -/
structure WalletBalance where
  walletId : ℕ
  userId : PyStr
  walletType : WalletType
  balance : ℤ
  lockedBalance : ℤ
  /-- `available_balance` is declared `ge=0`. -/
  available_nonneg : lockedBalance ≤ balance
  deriving DecidableEq

def WalletBalance.availableBalance (w : WalletBalance) : ℤ := w.balance - w.lockedBalance

/-- `_dict_to_wallet_balance`. -/
def toWalletBalance (row : Row Wallet) : RepoM WalletBalance :=
  if h : row.val.lockedBalance ≤ row.val.balance then
    return ⟨row.id, row.val.userId, row.val.walletType, row.val.balance,
      row.val.lockedBalance, h⟩
  else .raise .validation

def getWallet (walletId : ℕ) : RepoM (Option WalletBalance) :=
  Prog.tryCatch (do
    match ← sql (.selectWallet walletId) with
    | some row => do
      let wallet ← toWalletBalance row
      return some wallet
    | none => return none)
  fun _ => return none

def toWalletBalances : List (Row Wallet) → RepoM (List WalletBalance)
  | [] => return []
  | row :: rows => do
    let wallet ← toWalletBalance row
    let wallets ← toWalletBalances rows
    return wallet :: wallets

/-- `get_user_wallets` with a wallet type. -/
def getUserWallets (userId : PyStr) (walletType : WalletType) : RepoM (List WalletBalance) :=
  Prog.tryCatch (do
    let rows ← sql (.selectWallets userId walletType)
    toWalletBalances rows)
  fun _ => return []

def getPrimaryWallet (userId : PyStr) : RepoM (Option WalletBalance) := do
  let wallets ← getUserWallets userId .fiat
  return wallets.head?

/-- The `operation` of `update_balance`. -/
inductive BalanceOperation where
  | add
  | subtract
  deriving DecidableEq, Repr

/-- The new balance, `none` where there is too little to subtract from. -/
def BalanceOperation.newBalance : BalanceOperation → ℤ → ℤ → Option ℤ
  | add, balance, amount => some (balance + amount)
  | subtract, balance, amount => if balance < amount then none else some (balance - amount)

def updateBalance (walletId : ℕ) (amount : ℤ) (operation : BalanceOperation) :
    RepoM (Option ℤ) :=
  Prog.tryCatch (do
    match ← getWallet walletId with
    | none => return none
    | some wallet =>
      match operation.newBalance wallet.balance amount with
      | none => return none
      | some newBalance => do
        let count ← sql (.updateBalance walletId newBalance)
        return if 0 < count then some newBalance else none)
  fun _ => return none

/-- `TransactionCreate`: a transaction to be written, of a positive amount. -/
structure TransactionCreate where
  walletId : ℕ
  userId : PyStr
  transactionType : TransactionType
  amount : ℤ
  referenceId : Option Reference
  toWalletId : Option ℕ
  /-- `amount` is declared `gt=0`. -/
  amount_pos : 0 < amount

/-- `TransactionCreate(…)`, which rejects an amount that is not positive. -/
def transactionCreate (walletId : ℕ) (userId : PyStr) (transactionType : TransactionType)
    (amount : ℤ) (referenceId : Option Reference := none) (toWalletId : Option ℕ := none) :
    RepoM TransactionCreate :=
  if h : 0 < amount then
    return ⟨walletId, userId, transactionType, amount, referenceId, toWalletId, h⟩
  else .raise .validation

/-- The row that `_create_transaction` inserts. -/
def TransactionCreate.row (data : TransactionCreate) (balanceBefore balanceAfter : ℤ) :
    Transaction where
  walletId := data.walletId
  userId := data.userId
  transactionType := data.transactionType
  amount := data.amount
  balanceBefore := balanceBefore
  balanceAfter := balanceAfter
  referenceId := data.referenceId
  toWalletId := data.toWalletId

def createTransaction (data : TransactionCreate) (balanceBefore balanceAfter : ℤ) :
    RepoM (Option (Row Transaction)) :=
  Prog.tryCatch (do
    let transactionId ← sql (.insertTransaction (data.row balanceBefore balanceAfter))
    sql (.selectTransaction transactionId))
  fun _ => return none

/-- The steps on one wallet that `deposit`, `withdraw`, `consume` and `refund` share. What is
taken must be available; what is added need not. -/
def moveOwn (operation : BalanceOperation) (transactionType : TransactionType)
    (walletId : ℕ) (amount : ℤ) (referenceId : Option Reference) :
    RepoM (Option (Row Transaction)) := do
  match ← getWallet walletId with
  | none => return none
  | some wallet =>
    if operation = .subtract ∧ wallet.availableBalance < amount then return none
    else
      match ← updateBalance walletId amount operation with
      | none => return none
      | some newBalance => do
        let data ← transactionCreate walletId wallet.userId transactionType amount
          referenceId
        createTransaction data wallet.balance newBalance

def deposit (walletId : ℕ) (amount : ℤ) (referenceId : Option PyStr) :
    RepoM (Option (Row Transaction)) :=
  (moveOwn .add .deposit walletId amount (referenceId.map .external)).tryCatch
    fun _ => return none

def withdraw (walletId : ℕ) (amount : ℤ) : RepoM (Option (Row Transaction)) :=
  (moveOwn .subtract .withdraw walletId amount none).tryCatch fun _ => return none

def consume (walletId : ℕ) (amount : ℤ) : RepoM (Option (Row Transaction)) :=
  (moveOwn .subtract .consume walletId amount none).tryCatch fun _ => return none

/-- `amount or original["amount"]`: no amount, or an amount of zero, is the whole. -/
def refundAmount (amount : Option ℤ) (original : Transaction) : ℤ :=
  match amount with
  | some x => if x = 0 then original.amount else x
  | none => original.amount

def refund (originalTransactionId : ℕ) (amount : Option ℤ) :
    RepoM (Option (Row Transaction)) :=
  Prog.tryCatch (do
    match ← sql (.selectTransaction originalTransactionId) with
    | none => return none
    | some original =>
      let refundAmount := refundAmount amount original.val
      if original.val.amount < refundAmount then return none
      else
        moveOwn .add .refund original.val.walletId refundAmount
          (some (.transaction originalTransactionId)))
  fun _ => return none

def writeTransfer (fromWallet toWallet : WalletBalance) (amount fromNewBalance
    toNewBalance : ℤ) : RepoM (Option (Row Transaction × Row Transaction)) := do
  let fromData ← transactionCreate fromWallet.walletId fromWallet.userId .transfer amount none
    (some toWallet.walletId)
  let fromTransaction ← createTransaction fromData fromWallet.balance fromNewBalance
  let toData ← transactionCreate toWallet.walletId toWallet.userId .transfer amount
  let toTransaction ← createTransaction toData toWallet.balance toNewBalance
  match fromTransaction, toTransaction with
  | some f, some t => return some (f, t)
  | _, _ => return none

def transfer (fromWalletId toWalletId : ℕ) (amount : ℤ) :
    RepoM (Option (Row Transaction × Row Transaction)) :=
  Prog.tryCatch (do
    let fromWallet ← getWallet fromWalletId
    let toWallet ← getWallet toWalletId
    match fromWallet, toWallet with
    | some fromWallet, some toWallet =>
      if fromWallet.balance < amount then return none
      else
        match ← updateBalance fromWalletId amount .subtract with
        | none => return none
        | some fromNewBalance =>
          match ← updateBalance toWalletId amount .add with
          | none => do
            -- the rollback, whose answer is not looked at
            let _ ← updateBalance fromWalletId amount .add
            return none
          | some toNewBalance =>
            writeTransfer fromWallet toWallet amount fromNewBalance toNewBalance
    | _, _ => return none)
  fun _ => return none

structure WalletCreate where
  userId : PyStr
  walletType : WalletType
  initialBalance : ℤ
  /-- `initial_balance` is declared `ge=0`. -/
  initialBalance_nonneg : 0 ≤ initialBalance

/-- The row that `create_wallet` inserts at the time `now`. -/
def WalletCreate.row (data : WalletCreate) (now : Timestamp) : Wallet where
  userId := data.userId
  walletType := data.walletType
  balance := data.initialBalance
  lockedBalance := 0
  createdAt := now
  balance_nonneg := data.initialBalance_nonneg
  locked_nonneg := le_rfl

def fundWallet (data : WalletCreate) (walletId : ℕ) : RepoM Unit :=
  if 0 < data.initialBalance then do
    let created ← transactionCreate walletId data.userId .deposit data.initialBalance
    let _ ← createTransaction created 0 data.initialBalance
    return ()
  else return ()

/-- `create_wallet` at the time `now`. -/
def createWallet (data : WalletCreate) (now : Timestamp) : RepoM (Option WalletBalance) :=
  Prog.tryCatch (do
    let walletId ← sql (.insertWallet (data.row now))
    fundWallet data walletId
    getWallet walletId)
  fun _ => return none

/-! ### Calls -/

inductive MoneyCall where
  | deposit (walletId : ℕ) (amount : ℤ) (referenceId : Option PyStr)
  | withdraw (walletId : ℕ) (amount : ℤ)
  | consume (walletId : ℕ) (amount : ℤ)
  | refund (originalTransactionId : ℕ) (amount : Option ℤ)
  | transfer (fromWalletId toWalletId : ℕ) (amount : ℤ)
  deriving DecidableEq, Repr

/-- The method that serves a call: `none` for `None`, else the transactions it returned. -/
def MoneyCall.prog : MoneyCall → RepoM (Option (List (Row Transaction)))
  | deposit w x ref => do
    let txn ← Wallets.deposit w x ref
    return txn.map ([·])
  | withdraw w x => do
    let txn ← Wallets.withdraw w x
    return txn.map ([·])
  | consume w x => do
    let txn ← Wallets.consume w x
    return txn.map ([·])
  | refund t x => do
    let txn ← Wallets.refund t x
    return txn.map ([·])
  | transfer a b x => do
    let txns ← Wallets.transfer a b x
    return txns.map fun p => [p.1, p.2]

/-! ### Statements and reads -/

section Only

variable {P : Statement → Prop}

theorem sql_only {c : Statement} (hc : P c) : (sql c).Only P :=
  Prog.only_query (I := ⟨Statement, Statement.Reply⟩) hc

theorem toWalletBalance_only (row : Row Wallet) : (toWalletBalance row).Only P := by
  rw [toWalletBalance]
  split <;> trivial

theorem toWalletBalances_only (rows : List (Row Wallet)) : (toWalletBalances rows).Only P := by
  induction rows with
  | nil => trivial
  | cons row rows ih =>
    exact Prog.Only.bind (toWalletBalance_only row) fun _ => Prog.Only.bind ih fun _ => trivial

end Only

end IsaUser.Wallets
