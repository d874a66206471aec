import IsaUser.Wallet.Repository

/-!
# What a Money Call Does

The outcome of each method of the repository that moves money, run by itself while any of
its statements may fail. The state of a run is the store with the number of the next
statement, and `faults` says which statements fail.

A method on one wallet reads it twice and writes its balance, in three statements, and then
writes and reads back its transaction, in two. `Store.Admits` is what the store must be
like for the first part to go through.
-/

open IsaUser.Prog

namespace IsaUser.Wallets

open Store

variable {α : Type} {s : Store} {faults : ℕ → Bool} {n : ℕ} {w : WalletBalance} {c : Statement}

/-! ### The store -/

def Store.balanceOf (s : Store) (id : ℕ) : ℤ := ((s.wallets.get? id).map (·.balance)).getD 0

/-- What `get_wallet` finds. -/
def Store.walletBalance? (s : Store) (id : ℕ) : Option WalletBalance :=
  match s.wallets.get? id with
  | none => none
  | some w =>
    if h : w.lockedBalance ≤ w.balance then
      some ⟨id, w.userId, w.walletType, w.balance, w.lockedBalance, h⟩
    else none

def Wallet.add (δ : ℤ) (w : Wallet) : Wallet :=
  if h : 0 ≤ w.balance + δ then w.withBalance (w.balance + δ) h else w

def Store.addTo (s : Store) (id : ℕ) (δ : ℤ) : Store :=
  { s with wallets := s.wallets.modify id (Wallet.add δ) }

def Store.log (s : Store) (txn : Transaction) : Store :=
  { s with transactions := s.transactions.insert txn }

def BalanceOperation.signed : BalanceOperation → ℤ → ℤ
  | add, amount => amount
  | subtract, amount => -amount

def Store.Admits (s : Store) (operation : BalanceOperation) (id : ℕ) (amount : ℤ) : Prop :=
  ∃ w ∈ s.walletBalance? id, (operation = .subtract → amount ≤ w.availableBalance) ∧
    0 ≤ w.balance + operation.signed amount

instance (s : Store) (operation : BalanceOperation) (id : ℕ) (amount : ℤ) :
    Decidable (s.Admits operation id amount) :=
  inferInstanceAs (Decidable (∃ w ∈ s.walletBalance? id, _))

@[simp] theorem addTo_transactions (s : Store) (id : ℕ) (δ : ℤ) :
    (s.addTo id δ).transactions = s.transactions := rfl

@[simp] theorem log_transactions (s : Store) (txn : Transaction) :
    (s.log txn).transactions = s.transactions.insert txn := rfl

@[simp] theorem log_balanceOf (s : Store) (txn : Transaction) (id : ℕ) :
    (s.log txn).balanceOf id = s.balanceOf id := rfl

@[simp] theorem log_walletBalance? (s : Store) (txn : Transaction) (id : ℕ) :
    (s.log txn).walletBalance? id = s.walletBalance? id := rfl

/-- The row behind what `get_wallet` finds. -/
theorem exists_of_walletBalance? {id : ℕ} (h : s.walletBalance? id = some w) :
    ∃ row, s.wallets.get? id = some row ∧ w.walletId = id ∧ w.userId = row.userId ∧
      w.balance = row.balance ∧ w.lockedBalance = row.lockedBalance := by
  rw [walletBalance?] at h
  split at h
  · cases h
  · next row hrow =>
      split at h
      · cases h
        exact ⟨row, hrow, rfl, rfl, rfl, rfl⟩
      · cases h

theorem balance_nonneg_of_walletBalance? {id : ℕ} (h : s.walletBalance? id = some w) :
    0 ≤ w.balance := by
  obtain ⟨row, -, -, -, hbalance, -⟩ := exists_of_walletBalance? h
  rw [hbalance]
  exact row.balance_nonneg

theorem addTo_balanceOf {id : ℕ} (h : s.walletBalance? id = some w) {δ : ℤ} (hδ : 0 ≤ w.balance + δ)
    (j : ℕ) : (s.addTo id δ).balanceOf j = s.balanceOf j + if j = id then δ else 0 := by
  obtain ⟨row, hrow, -, -, hbalance, -⟩ := exists_of_walletBalance? h
  rw [hbalance] at hδ
  simp only [balanceOf, addTo, Table.get?_modify]
  by_cases hj : id = j
  · subst hj
    simp [hrow, Wallet.add, hδ, Wallet.withBalance]
  · simp [hj, Ne.symm hj]

/-- What `get_wallet` finds after an addition to a wallet. -/
theorem addTo_walletBalance? {id : ℕ} (h : s.walletBalance? id = some w) {δ : ℤ}
    (hδ : 0 ≤ w.balance + δ) (hlocked : w.lockedBalance ≤ w.balance + δ) :
    (s.addTo id δ).walletBalance? id =
      some { w with balance := w.balance + δ, available_nonneg := hlocked } := by
  obtain ⟨row, hrow, -, -, -, -⟩ := exists_of_walletBalance? h
  simp only [walletBalance?, hrow] at h
  split at h
  · cases h
    simp [walletBalance?, addTo, Table.get?_modify, hrow, Wallet.add, hδ,
      Wallet.withBalance, hlocked]
  · cases h

theorem addTo_walletBalance?_eq_none {id : ℕ} (h : s.walletBalance? id = some w) {δ : ℤ}
    (hδ : 0 ≤ w.balance + δ) (hlocked : ¬w.lockedBalance ≤ w.balance + δ) :
    (s.addTo id δ).walletBalance? id = none := by
  obtain ⟨row, hrow, -, -, hbalance, hl⟩ := exists_of_walletBalance? h
  rw [hbalance] at hδ hlocked
  rw [hl] at hlocked
  simp [walletBalance?, addTo, Table.get?_modify, hrow, Wallet.add, hδ,
    Wallet.withBalance, hlocked]

/-! ### Statements that may fail -/

/-- The database, when the statements whose numbers are in `faults` fail. -/
abbrev faulty (faults : ℕ → Bool) : Handler WalletApi (Store × ℕ) :=
  withFaults faults DbError.storageFailure handle

theorem run_sql_of_fault (hn : faults n = true) :
    (sql c).run (faulty faults) (s, n) =
      (.error (.database .storageFailure), (s, n + 1)) := by
  simp [sql, query, withFaults, hn]

theorem run_sql_of_ok (hn : faults n = false) {r : c.Reply} {s' : Store}
    (hc : handle c s = (.ok r, s')) :
    (sql c).run (faulty faults) (s, n) = (.ok r, (s', n + 1)) := by
  simp [sql, query, withFaults, hn, hc]

theorem run_sql_of_error (hn : faults n = false) {e : DbError} {s' : Store}
    (hc : handle c s = (.error e, s')) :
    (sql c).run (faulty faults) (s, n) = (.error (.database e), (s', n + 1)) := by
  simp [sql, query, withFaults, hn, hc]

/-! ### Reading and writing one wallet -/

variable (faults) in
theorem run_toWalletBalance {id : ℕ} {row : Wallet} (hrow : s.wallets.get? id = some row)
    (m : ℕ) : (toWalletBalance ⟨id, row⟩).run (faulty faults) (s, m) =
      match s.walletBalance? id with
      | some w => (.ok w, (s, m))
      | none => (.error .validation, (s, m)) := by
  by_cases hlocked : row.lockedBalance ≤ row.balance <;>
    simp [toWalletBalance, walletBalance?, hrow, hlocked]

variable (faults s n) in
theorem run_getWallet (id : ℕ) : (getWallet id).run (faulty faults) (s, n) =
    (.ok (if faults n then none else s.walletBalance? id), (s, n + 1)) := by
  cases hn : faults n with
  | true => exact run_tryCatch_of_error (run_bind_of_error (run_sql_of_fault hn))
  | false =>
    cases hrow : s.wallets.get? id with
    | none =>
      have hsql : handle (.selectWallet id) s = (.ok none, s) := by simp [handle, hrow]
      refine run_tryCatch_of_ok ((run_bind_of_ok (run_sql_of_ok hn hsql)).trans ?_)
      simp [walletBalance?, hrow]
    | some row =>
      have hsql : handle (.selectWallet id) s = (.ok (some ⟨id, row⟩), s) := by
        simp [handle, hrow]
      have hread := run_toWalletBalance faults hrow (n + 1)
      cases hw : s.walletBalance? id with
      | none =>
        rw [hw] at hread
        exact run_tryCatch_of_error ((run_bind_of_ok (run_sql_of_ok hn hsql)).trans
          (run_bind_of_error hread))
      | some w =>
        rw [hw] at hread
        exact run_tryCatch_of_ok ((run_bind_of_ok (run_sql_of_ok hn hsql)).trans
          (run_bind_of_ok hread))

section UpdateBalance

variable {id : ℕ} {amount b : ℤ} {operation : BalanceOperation} {w : WalletBalance}

theorem newBalance_eq (h : operation.newBalance w.balance amount = some b) :
    b = w.balance + operation.signed amount := by
  cases operation with
  | add => exact (Option.some.inj h).symm
  | subtract =>
    simp only [BalanceOperation.newBalance] at h
    split at h
    · cases h
    · exact (Option.some.inj h).symm

theorem run_updateBalance_of_unread (h : faults n = true ∨ s.walletBalance? id = none) :
    (updateBalance id amount operation).run (faulty faults) (s, n) =
      (.ok none, (s, n + 1)) := by
  have hread := run_getWallet s faults n id
  rw [show (if faults n then none else s.walletBalance? id) = none by
    rcases h with h | h <;> simp [h]] at hread
  exact run_tryCatch_of_ok (run_bind_of_ok hread)

theorem run_getWallet_of_some (hn : faults n = false) (hw : s.walletBalance? id = some w) :
    (getWallet id).run (faulty faults) (s, n) = (.ok (some w), (s, n + 1)) := by
  rw [run_getWallet, hn, hw]
  rfl

theorem run_updateBalance_of_short (hn : faults n = false) (hw : s.walletBalance? id = some w)
    (hb : operation.newBalance w.balance amount = none) :
    (updateBalance id amount operation).run (faulty faults) (s, n) =
      (.ok none, (s, n + 1)) := by
  refine run_tryCatch_of_ok ((run_bind_of_ok (run_getWallet_of_some hn hw)).trans ?_)
  simp [hb]

theorem run_updateBalance_of_refused (hn : faults n = false)
    (hw : s.walletBalance? id = some w) (hb : operation.newBalance w.balance amount = some b)
    (h : faults (n + 1) = true ∨ b < 0) :
    (updateBalance id amount operation).run (faulty faults) (s, n) =
      (.ok none, (s, n + 2)) := by
  obtain ⟨row, hrow, -⟩ := exists_of_walletBalance? hw
  have hread := run_getWallet_of_some hn hw
  cases hn' : faults (n + 1) with
  | true =>
    refine run_tryCatch_of_error (e := .database .storageFailure)
      ((run_bind_of_ok hread).trans ?_)
    simp only [hb]
    exact run_bind_of_error (run_sql_of_fault hn')
  | false =>
    have hneg : ¬0 ≤ b := by simpa [hn'] using h
    have hsql : handle (.updateBalance id b) s = (.error .checkViolation, s) := by
      simp [handle, hrow, hneg]
    refine run_tryCatch_of_error (e := .database .checkViolation)
      ((run_bind_of_ok hread).trans ?_)
    simp only [hb]
    exact run_bind_of_error (run_sql_of_error hn' hsql)

theorem run_updateBalance (hn : faults n = false) (hw : s.walletBalance? id = some w)
    (hb : operation.newBalance w.balance amount = some b) (hn' : faults (n + 1) = false)
    (hpos : 0 ≤ b) :
    (updateBalance id amount operation).run (faulty faults) (s, n) =
      (.ok (some b), (s.addTo id (operation.signed amount), n + 2)) := by
  obtain ⟨row, hrow, -, -, hbalance, -⟩ := exists_of_walletBalance? hw
  have hnew := newBalance_eq hb
  have hsql : handle (.updateBalance id b) s =
      (.ok 1, s.addTo id (operation.signed amount)) := by
    simp only [handle, hrow, hpos, ↓reduceDIte, addTo]
    rw [hbalance] at hnew
    subst hnew
    rw [Table.modify_congr hrow (g := Wallet.add (operation.signed amount))]
    simp [Wallet.add, hpos]
  refine run_tryCatch_of_ok ((run_bind_of_ok (run_getWallet_of_some hn hw)).trans ?_)
  simp only [hb]
  exact (run_bind_of_ok (run_sql_of_ok hn' hsql)).trans rfl

theorem newBalance_of_nonneg (h : 0 ≤ w.balance + operation.signed amount) :
    operation.newBalance w.balance amount = some (w.balance + operation.signed amount) := by
  cases operation with
  | add => rfl
  | subtract =>
    simp only [BalanceOperation.signed] at h
    simp only [BalanceOperation.newBalance]
    rw [if_neg (by omega)]
    rfl

theorem run_updateBalance_of_not (hw : s.walletBalance? id = some w)
    (h : ¬(0 ≤ w.balance + operation.signed amount ∧ Spared faults n 2)) :
    ∃ m, (updateBalance id amount operation).run (faulty faults) (s, n) =
      (.ok none, (s, m)) := by
  cases hn : faults n with
  | true => exact ⟨_, run_updateBalance_of_unread (.inl hn)⟩
  | false =>
    cases hb : operation.newBalance w.balance amount with
    | none => exact ⟨_, run_updateBalance_of_short hn hw hb⟩
    | some b =>
      refine ⟨_, run_updateBalance_of_refused hn hw hb ?_⟩
      by_contra hcon
      obtain ⟨hn', hpos⟩ := not_or.mp hcon
      rw [newBalance_eq hb] at hpos
      refine h ⟨not_lt.mp hpos, fun m hm => ?_⟩
      obtain rfl | rfl : m = 0 ∨ m = 1 := by omega
      · exact hn
      · simpa using hn'

theorem run_updateBalance_of_spared (hw : s.walletBalance? id = some w)
    (h : 0 ≤ w.balance + operation.signed amount) (hn : Spared faults n 2) :
    (updateBalance id amount operation).run (faulty faults) (s, n) =
      (.ok (some (w.balance + operation.signed amount)),
        (s.addTo id (operation.signed amount), n + 2)) :=
  run_updateBalance (hn 0 (by omega)) hw (newBalance_of_nonneg h) (hn 1 (by omega)) h

end UpdateBalance

theorem run_createTransaction (data : TransactionCreate) (b b' : ℤ) :
    (createTransaction data b b').run (faulty faults) (s, n) =
      if faults n then (.ok none, (s, n + 1))
      else if faults (n + 1) then (.ok none, (s.log (data.row b b'), n + 2))
      else (.ok (some ⟨s.transactions.size, data.row b b'⟩), (s.log (data.row b b'), n + 2)) := by
  have hinsert : handle (.insertTransaction (data.row b b')) s =
      (.ok s.transactions.size, s.log (data.row b b')) := rfl
  have hselect : handle (.selectTransaction s.transactions.size) (s.log (data.row b b')) =
      (.ok (some ⟨s.transactions.size, data.row b b'⟩), s.log (data.row b b')) := by
    simp [handle]
  cases hn : faults n with
  | true => exact run_tryCatch_of_error (run_bind_of_error (run_sql_of_fault hn))
  | false =>
    have hinserted := run_sql_of_ok hn hinsert
    cases hn' : faults (n + 1) with
    | true => exact run_tryCatch_of_error ((run_bind_of_ok hinserted).trans
        (run_sql_of_fault hn'))
    | false => exact run_tryCatch_of_ok ((run_bind_of_ok hinserted).trans
        (run_sql_of_ok hn' hselect))

theorem run_createTransaction_of_spared (data : TransactionCreate) (b b' : ℤ)
    (hn : Spared faults n 2) : (createTransaction data b b').run (faulty faults) (s, n) =
      (.ok (some ⟨s.transactions.size, data.row b b'⟩), (s.log (data.row b b'), n + 2)) := by
  have h₀ : faults n = false := hn 0 (by omega)
  have h₁ : faults (n + 1) = false := hn 1 (by omega)
  simp [run_createTransaction, h₀, h₁]

theorem run_createTransaction_of_not (data : TransactionCreate) (b b' : ℤ)
    (hn : ¬Spared faults n 2) : ∃ m, (createTransaction data b b').run (faulty faults) (s, n) =
      (.ok none, (if faults n then s else s.log (data.row b b'), m)) := by
  rw [run_createTransaction]
  cases h₀ : faults n with
  | true => exact ⟨n + 1, rfl⟩
  | false =>
    have h₁ : faults (n + 1) = true := by
      by_contra h₁
      refine hn fun m hm => ?_
      obtain rfl | rfl : m = 0 ∨ m = 1 := by omega
      · exact h₀
      · simpa using h₁
    exact ⟨n + 2, by simp [h₁]⟩

theorem transactionCreate_of_pos {id : ℕ} {u : PyStr} {type : TransactionType} {amount : ℤ}
    {reference : Option Reference} {toId : Option ℕ} (h : 0 < amount) :
    transactionCreate id u type amount reference toId =
      .ret ⟨id, u, type, amount, reference, toId, h⟩ :=
  dif_pos h

theorem transactionCreate_of_not {id : ℕ} {u : PyStr} {type : TransactionType} {amount : ℤ}
    {reference : Option Reference} {toId : Option ℕ} (h : ¬0 < amount) :
    transactionCreate id u type amount reference toId = .raise .validation :=
  dif_neg h

/-! ### Moving money on one wallet -/

section MoveOwn

variable {operation : BalanceOperation} {id : ℕ} {amount : ℤ}

theorem run_moveOwn_of_not (type : TransactionType) (reference : Option Reference)
    (h : ¬(s.Admits operation id amount ∧ Spared faults n 3)) :
    ∃ m, (moveOwn operation type id amount reference).run (faulty faults) (s, n) =
      (.ok none, (s, m)) := by
  by_cases hread : faults n = true ∨ s.walletBalance? id = none
  · refine ⟨n + 1, (run_bind_of_ok (run_getWallet s faults n id)).trans ?_⟩
    rw [show (if faults n then none else s.walletBalance? id) = none by
      rcases hread with h | h <;> simp [h]]
    rfl
  · obtain ⟨hn, hw⟩ := not_or.mp hread
    obtain ⟨w, hw⟩ := Option.ne_none_iff_exists'.mp hw
    have hn : faults n = false := by simpa using hn
    by_cases havailable : operation = .subtract ∧ w.availableBalance < amount
    · refine ⟨n + 1, (run_bind_of_ok (run_getWallet_of_some hn hw)).trans ?_⟩
      simp [havailable]
    · have hupdate : ∃ m, (updateBalance id amount operation).run (faulty faults) (s, n + 1) =
          (.ok none, (s, m)) := by
        refine run_updateBalance_of_not hw fun hcon => h ⟨⟨w, hw, fun hop => ?_, hcon.1⟩, ?_⟩
        · exact not_lt.mp fun hlt => havailable ⟨hop, hlt⟩
        · exact (spared_split (k := 1) (l := 2)).mpr ⟨fun m hm => by
            obtain rfl : m = 0 := by omega
            exact hn, hcon.2⟩
      obtain ⟨m, hupdate⟩ := hupdate
      refine ⟨m, (run_bind_of_ok (run_getWallet_of_some hn hw)).trans ?_⟩
      simp only [havailable]
      exact run_bind_of_ok hupdate

theorem run_moveOwn (type : TransactionType) (reference : Option Reference)
    (h : s.Admits operation id amount) (hn : Spared faults n 3) :
    ∃ w, s.walletBalance? id = some w ∧ 0 ≤ w.balance + operation.signed amount ∧
      (moveOwn operation type id amount reference).run (faulty faults) (s, n) =
        (do
          let data ← transactionCreate id w.userId type amount reference
          createTransaction data w.balance (w.balance + operation.signed amount)).run
            (faulty faults) (s.addTo id (operation.signed amount), n + 3) := by
  obtain ⟨w, hw, havailable, hpos⟩ := h
  refine ⟨w, hw, hpos, ?_⟩
  have hupdate := run_updateBalance_of_spared hw hpos
    ((spared_split (k := 1) (l := 2)).mp hn).2
  refine (run_bind_of_ok (run_getWallet_of_some (hn 0 (by omega)) hw)).trans ?_
  have hnot : ¬(operation = .subtract ∧ w.availableBalance < amount) :=
    fun hcon => absurd (havailable hcon.1) (not_le.mpr hcon.2)
  simp only [hnot]
  exact run_bind_of_ok hupdate

theorem run_refund {t : ℕ} {x : Option ℤ} {original : Transaction} (h₀ : faults n = false)
    (ht : s.transactions.get? t = some original)
    (hle : refundAmount x original ≤ original.amount)
    {r : Except RepositoryError (Option (Row Transaction))} {next : Store × ℕ}
    (hmove : (moveOwn .add .refund original.walletId (refundAmount x original)
      (some (.transaction t))).run (faulty faults) (s, n + 1) = (r, next)) :
    (refund t x).run (faulty faults) (s, n) = (.ok r.toOption.join, next) := by
  have hsql : handle (.selectTransaction t) s = (.ok (some ⟨t, original⟩), s) := by
    simp [handle, ht]
  have hselect := run_sql_of_ok h₀ hsql
  cases r with
  | ok o =>
    have hjoin : (Except.ok o : Except RepositoryError _).toOption.join = o := rfl
    rw [hjoin]
    refine run_tryCatch_of_ok ((run_bind_of_ok hselect).trans ?_)
    simpa only [not_lt.mpr hle, ↓reduceIte] using hmove
  | error e =>
    refine run_tryCatch_of_error (e := e) ((run_bind_of_ok hselect).trans ?_)
    simpa only [not_lt.mpr hle, ↓reduceIte] using hmove

end MoveOwn

/-! ### Writing the transactions of a transfer -/

section WriteTransfer

variable {fromWallet toWallet : WalletBalance} {amount b b' : ℤ}

theorem run_writeTransfer_of_not_pos (h : ¬0 < amount) :
    (writeTransfer fromWallet toWallet amount b b').run (faulty faults) (s, n) =
      (.error .validation, (s, n)) := by
  rw [writeTransfer, transactionCreate_of_not h]
  rfl

def transferOut (fromWallet toWallet : WalletBalance) (amount : ℤ) (h : 0 < amount) :
    TransactionCreate :=
  ⟨fromWallet.walletId, fromWallet.userId, .transfer, amount, none, some toWallet.walletId, h⟩

def transferIn (toWallet : WalletBalance) (amount : ℤ) (h : 0 < amount) : TransactionCreate :=
  ⟨toWallet.walletId, toWallet.userId, .transfer, amount, none, none, h⟩

theorem writeTransfer_of_pos (h : 0 < amount) :
    writeTransfer fromWallet toWallet amount b b' = do
      let f ← createTransaction (transferOut fromWallet toWallet amount h) fromWallet.balance b
      let t ← createTransaction (transferIn toWallet amount h) toWallet.balance b'
      match f, t with
      | some f, some t => return some (f, t)
      | _, _ => return none := by
  rw [writeTransfer, transactionCreate_of_pos h, ret_bind]
  congr 1
  funext f
  rw [transactionCreate_of_pos h]
  rfl

theorem run_writeTransfer_of_spared (h : 0 < amount) (hn : Spared faults n 4) :
    ∃ txns s', (writeTransfer fromWallet toWallet amount b b').run (faulty faults) (s, n) =
      (.ok (some txns), (s', n + 4)) := by
  obtain ⟨hfrom, hto⟩ := (spared_split (k := 2) (l := 2)).mp hn
  rw [writeTransfer_of_pos h]
  exact ⟨_, _, (run_bind_of_ok (run_createTransaction_of_spared _ _ _ hfrom)).trans
    (run_bind_of_ok (run_createTransaction_of_spared _ _ _ hto))⟩

/-- What `_create_transaction` leaves behind, in any case. -/
theorem run_createTransaction_log (data : TransactionCreate) (c c' : ℤ) :
    ∃ o s' m, (createTransaction data c c').run (faulty faults) (s, n) = (.ok o, (s', m)) ∧
      (∀ id, s'.balanceOf id = s.balanceOf id) ∧ (faults n = true → m = n + 1 ∧ s' = s) ∧
      (faults n = false → s'.transactions.size = s.transactions.size + 1) ∧
      (o ≠ none → Spared faults n 2 ∧ m = n + 2) := by
  rw [run_createTransaction]
  cases h₀ : faults n with
  | true => exact ⟨_, _, _, rfl, fun _ => rfl, by simp⟩
  | false =>
    cases h₁ : faults (n + 1) with
    | true => exact ⟨_, _, _, rfl, fun _ => rfl, by simp⟩
    | false =>
      refine ⟨_, _, _, rfl, fun _ => rfl, by simp, by simp, fun _ => ⟨fun m hm => ?_, rfl⟩⟩
      obtain rfl | rfl : m = 0 ∨ m = 1 := by omega
      · exact h₀
      · exact h₁

theorem run_writeTransfer_of_not (h : 0 < amount) (hn : ¬Spared faults n 4) :
    ∃ s' m, (writeTransfer fromWallet toWallet amount b b').run (faulty faults) (s, n) =
        (.ok none, (s', m)) ∧ (∀ id, s'.balanceOf id = s.balanceOf id) ∧
      (s'.transactions = s.transactions ↔ faults n = true ∧ faults (n + 1) = true) := by
  rw [writeTransfer_of_pos h]
  obtain ⟨f, s₁, m₁, hfrom, hbal₁, hfail₁, hwrite₁, hread₁⟩ := run_createTransaction_log
    (s := s) (n := n) (transferOut fromWallet toWallet amount h)
    fromWallet.balance b
  obtain ⟨t, s₂, m₂, hto, hbal₂, hfail₂, hwrite₂, hread₂⟩ := run_createTransaction_log
    (s := s₁) (n := m₁) (transferIn toWallet amount h) toWallet.balance b'
  refine ⟨s₂, m₂, ?_, fun id => (hbal₂ id).trans (hbal₁ id), ?_⟩
  · refine (run_bind_of_ok hfrom).trans ((run_bind_of_ok hto).trans ?_)
    cases f with
    | none => rfl
    | some f =>
      cases t with
      | none => rfl
      | some t =>
        obtain ⟨hspared, rfl⟩ := hread₁ (by simp)
        exact absurd ((spared_split (k := 2) (l := 2)).mpr
          ⟨hspared, (hread₂ (by simp)).1⟩) hn
  · cases h₀ : faults n with
    | true =>
      obtain ⟨rfl, rfl⟩ := hfail₁ h₀
      cases h₁ : faults (n + 1) with
      | true =>
        obtain ⟨-, rfl⟩ := hfail₂ h₁
        simp
      | false =>
        have hsize := hwrite₂ h₁
        exact ⟨fun hcon => by rw [hcon] at hsize; omega, by simp⟩
    | false =>
      have hsize := hwrite₁ h₀
      have hle : s₁.transactions.size ≤ s₂.transactions.size := by
        cases h₁ : faults m₁ with
        | true => rw [(hfail₂ h₁).2]
        | false => rw [hwrite₂ h₁]; omega
      exact ⟨fun hcon => by rw [hcon] at hle; omega, by simp⟩

end WriteTransfer

end IsaUser.Wallets
