import IsaUser.Lib.Faults
import IsaUser.Lib.Table
import IsaUser.Lib.Values

/-!
# The Wallet Store

The tables `wallets` and `transactions` of the `wallet` schema
(`001_create_wallet_schema.sql`) and the statements that `WalletRepository`
(`wallet_repository.py`) sends to them. The generated texts `wallet_id` and
`transaction_id` are the serial numbers of the rows.

Money is an exact decimal with at most eight places, as the models of `models.py` require,
and is counted in units of the eighth place. The `CHECK` constraints on the two balances
are fields of a wallet, so a wallet that violates them cannot be built and a statement
that would build one fails.

Columns that no modelled operation reads (organizations, currencies, descriptions,
metadata, blockchain data, update times) are left out.
-/

namespace IsaUser.Wallets

/-! ### Rows -/

inductive TransactionType where
  | deposit
  | withdraw
  | consume
  | refund
  | transfer
  | reward
  | fee
  | blockchainIn
  | blockchainOut
  deriving DecidableEq, Repr

inductive WalletType where
  | fiat
  | crypto
  | hybrid
  deriving DecidableEq, Repr

/-- What `reference_id` holds: an identifier of another service, or the refunded
transaction. -/
inductive Reference where
  | external (id : PyStr)
  | transaction (id : ℕ)
  deriving DecidableEq, Repr

/-- A row of `wallets`. -/
structure Wallet where
  userId : PyStr
  walletType : WalletType
  balance : ℤ
  lockedBalance : ℤ
  createdAt : Timestamp
  /-- `balance_non_negative`. -/
  balance_nonneg : 0 ≤ balance
  /-- `locked_balance_non_negative`. -/
  locked_nonneg : 0 ≤ lockedBalance

theorem noUnits_nonneg : (0 : ℤ) ≤ 0 := le_rfl

theorem oneUnit_nonneg : (0 : ℤ) ≤ 100000000 := by decide

/-- `SET balance = …`, of a balance that the constraint admits. -/
def Wallet.withBalance (w : Wallet) (balance : ℤ) (h : 0 ≤ balance) : Wallet :=
  { w with balance, balance_nonneg := h }

/-- A row of `transactions`. -/
structure Transaction where
  walletId : ℕ
  userId : PyStr
  transactionType : TransactionType
  amount : ℤ
  balanceBefore : ℤ
  balanceAfter : ℤ
  referenceId : Option Reference
  toWalletId : Option ℕ
  deriving DecidableEq, Repr

/-- The `wallet` schema. -/
structure Store where
  wallets : Table Wallet
  transactions : Table Transaction

def Store.empty : Store := ⟨.empty, .empty⟩

/-! ### Statements -/

inductive DbError where
  | checkViolation
  | storageFailure
  deriving DecidableEq, Repr

inductive Statement where
  /-- `SELECT * FROM wallets WHERE wallet_id = $1`. -/
  | selectWallet (walletId : ℕ)
  /-- `SELECT * FROM wallets WHERE user_id = $1 AND wallet_type = $2 ORDER BY created_at
  DESC`. -/
  | selectWallets (userId : PyStr) (walletType : WalletType)
  /-- `UPDATE wallets SET balance = $1, updated_at = $2 WHERE wallet_id = $3`. -/
  | updateBalance (walletId : ℕ) (balance : ℤ)
  /-- `INSERT INTO wallets`. -/
  | insertWallet (wallet : Wallet)
  /-- `INSERT INTO transactions`. -/
  | insertTransaction (transaction : Transaction)
  /-- `SELECT * FROM transactions WHERE transaction_id = $1`. -/
  | selectTransaction (transactionId : ℕ)

@[reducible] def Statement.Reply : Statement → Type
  | selectWallet _ => Option (Row Wallet)
  | selectWallets _ _ => List (Row Wallet)
  | updateBalance _ _ => ℕ
  | insertWallet _ => ℕ
  | insertTransaction _ => ℕ
  | selectTransaction _ => Option (Row Transaction)

abbrev WalletApi : Interface := Interface.fallible ⟨Statement, Statement.Reply⟩ DbError

def handle : Handler WalletApi Store
  | .selectWallet id, s => (.ok ((s.wallets.get? id).map (⟨id, ·⟩)), s)
  | .selectWallets u t, s =>
    (.ok (orderBy (fun w => -w.val.createdAt)
      (s.wallets.select fun w => w.userId = u ∧ w.walletType = t)), s)
  | .updateBalance id balance, s =>
    match s.wallets.get? id with
    | none => (.ok 0, s)
    | some _ =>
      if h : 0 ≤ balance then
        (.ok 1, { s with wallets := s.wallets.modify id (·.withBalance balance h) })
      else (.error .checkViolation, s)
  | .insertWallet wallet, s => (.ok s.wallets.size, { s with wallets := s.wallets.insert wallet })
  | .insertTransaction txn, s =>
    (.ok s.transactions.size, { s with transactions := s.transactions.insert txn })
  | .selectTransaction id, s => (.ok ((s.transactions.get? id).map (⟨id, ·⟩)), s)

end IsaUser.Wallets
