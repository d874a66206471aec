import IsaUser.Wallet.Repository

/-!
# The Wallet Service

The methods of `WalletService` (`wallet_service.py`) that move money. Each asks the
repository once and turns its answer into a `WalletResponse`; `withdraw` looks the wallet
up first.

Publishing an event never raises and changes no table, so it is left out, and since the
repository never raises either, so is the `except` clause around each method. Amounts are
positive where a request model was built, which nothing here depends on.
-/

namespace IsaUser.Wallets

/-- `WalletResponse`: `success` or not. The message of a success repeats the amount and is
left out. -/
inductive WalletResponse where
  | success (walletId : ℕ) (balance : ℤ) (transactionId : ℕ)
  | failure (message : String)
  deriving DecidableEq, Repr

def WalletResponse.of (message : String) : Option (Row Transaction) → WalletResponse
  | some txn => success txn.val.walletId txn.val.balanceAfter txn.id
  | none => failure message

namespace WalletService

def deposit (walletId : ℕ) (amount : ℤ) (referenceId : Option PyStr) : RepoM WalletResponse := do
  let transaction ← Wallets.deposit walletId amount referenceId
  return .of "Failed to deposit funds" transaction

def withdraw (walletId : ℕ) (amount : ℤ) : RepoM WalletResponse := do
  match ← getWallet walletId with
  | none => return .failure "Wallet not found"
  | some _ => do
    let transaction ← Wallets.withdraw walletId amount
    return .of "Insufficient balance or withdrawal failed" transaction

/-- `consume`; an empty wallet identifier is unknown like any other that no row has. -/
def consume (walletId : ℕ) (amount : ℤ) : RepoM WalletResponse := do
  let transaction ← Wallets.consume walletId amount
  return .of "Insufficient balance" transaction

def refund (originalTransactionId : ℕ) (amount : Option ℤ) : RepoM WalletResponse := do
  let transaction ← Wallets.refund originalTransactionId amount
  return .of "Failed to process refund" transaction

def transfer (fromWalletId toWalletId : ℕ) (amount : ℤ) : RepoM WalletResponse := do
  let result ← Wallets.transfer fromWalletId toWalletId amount
  return .of "Transfer failed - check balance and wallet IDs" (result.map (·.1))

end WalletService

def MoneyCall.serve : MoneyCall → RepoM WalletResponse
  | deposit w x ref => WalletService.deposit w x ref
  | withdraw w x => WalletService.withdraw w x
  | consume w x => WalletService.consume w x
  | refund t x => WalletService.refund t x
  | transfer a b x => WalletService.transfer a b x

end IsaUser.Wallets
