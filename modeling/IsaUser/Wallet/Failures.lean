import IsaUser.Wallet.Outcomes
import IsaUser.Wallet.Service

/-!
# Money Calls that Fail

A call that reports a failure should have changed nothing. Each method is a chain of
separately committed statements: the balance is written before the transaction, so a
failure of the insertion, or of the read that follows it, is reported while the balance
stays changed. Only `transfer` undoes a balance, and only when the second one was not
written.
-/

namespace IsaUser.Wallets

variable {α β : Type} {faults : ℕ → Bool} {s s' : Store} {n m : ℕ}

/-! ### The law -/

structure Unchanged (s s' : Store) : Prop where
  balances : ∀ id, s'.balanceOf id = s.balanceOf id
  log : s'.transactions = s.transactions

/-- From `s` and statement `n` on, a method whose answer `reports` a failure has changed
nothing. -/
def CleanFrom (reports : Except RepositoryError α → Prop) (faults : ℕ → Bool) (s : Store)
    (n : ℕ) (p : RepoM α) : Prop :=
  reports (p.run (faulty faults) (s, n)).1 → Unchanged s (p.run (faulty faults) (s, n)).2.1

def ReturnedNone (r : Except RepositoryError (Option α)) : Prop := ∀ a, r ≠ .ok (some a)

/-- The service answered with `success = False`. -/
def NotSuccessful (r : Except RepositoryError WalletResponse) : Prop :=
  ∀ w b t, r ≠ .ok (.success w b t)

/-- Where the statements in `faults` fail: if the repository returns nothing, nothing has
changed. -/
def MoneyCall.FailsClean (faults : ℕ → Bool) (s : Store) (call : MoneyCall) : Prop :=
  CleanFrom ReturnedNone faults s 0 call.prog

/-- Where the statements in `faults` fail: if the service answers that it failed, nothing
has changed. -/
def MoneyCall.ServiceFailsClean (faults : ℕ → Bool) (s : Store) (call : MoneyCall) : Prop :=
  CleanFrom NotSuccessful faults s 0 call.serve

/-! ### The condition -/

/-- Statement `n` is the first of a move on one wallet. If its balance is written, its
transaction is of a positive amount, and is written and read back; or the amount is
zero. -/
def MoveSheltered (faults : ℕ → Bool) (s : Store) (operation : BalanceOperation) (id : ℕ)
    (amount : ℤ) (n : ℕ) : Prop :=
  s.Admits operation id amount → Spared faults n 3 →
    amount = 0 ∨ 0 < amount ∧ Spared faults (n + 3) 2

/-- The second balance of a transfer, whose first one is written, is written too. -/
def CreditGoes (faults : ℕ → Bool) (s : Store) (toId : ℕ) (amount : ℤ) : Prop :=
  (∃ w ∈ s.walletBalance? toId, 0 ≤ w.balance + amount) ∧ Spared faults 4 2

instance (faults : ℕ → Bool) (s : Store) (toId : ℕ) (amount : ℤ) :
    Decidable (CreditGoes faults s toId amount) :=
  inferInstanceAs (Decidable ((∃ w ∈ s.walletBalance? toId, _) ∧ _))

/-- The number of the statement after those of a second balance that was not written. -/
def rollbackFrom (faults : ℕ → Bool) (s : Store) (toId : ℕ) : ℕ :=
  if faults 4 ∨ s.walletBalance? toId = none then 5 else 6

/-- If the first balance of a transfer is written, then either the second is not, and the
rollback is, to a wallet that can be read; or the second is, the amount is positive, and
both transactions are written and read back. A transfer of nothing is harmless, and one
of a wallet to itself as long as no transaction is written. -/
def TransferSheltered (faults : ℕ → Bool) (s : Store) (fromId toId : ℕ) (amount : ℤ) : Prop :=
  ∀ w ∈ s.walletBalance? fromId, s.walletBalance? toId ≠ none → amount ≤ w.balance →
    Spared faults 0 4 → amount = 0 ∨
      if CreditGoes faults (s.addTo fromId (-amount)) toId amount then
        0 < amount ∧ Spared faults 6 4 ∨
          fromId = toId ∧ (amount < 0 ∨ faults 6 = true ∧ faults 7 = true)
      else
        w.lockedBalance ≤ w.balance - amount ∧
          Spared faults (rollbackFrom faults (s.addTo fromId (-amount)) toId) 2

def MoneyCall.Sheltered (faults : ℕ → Bool) (s : Store) : MoneyCall → Prop
  | deposit w x _ => MoveSheltered faults s .add w x 0
  | withdraw w x => MoveSheltered faults s .subtract w x 0
  | consume w x => MoveSheltered faults s .subtract w x 0
  | refund t x => ∀ original ∈ s.transactions.get? t,
      refundAmount x original ≤ original.amount → faults 0 = false →
        MoveSheltered faults s .add original.walletId (refundAmount x original) 1
  | transfer a b x => TransferSheltered faults s a b x

/-- The condition for a call of the service, whose `withdraw` has one statement more. -/
def MoneyCall.ServiceSheltered (faults : ℕ → Bool) (s : Store) : MoneyCall → Prop
  | withdraw w x => faults 0 = false → MoveSheltered faults s .subtract w x 1
  | call => call.Sheltered faults s

/-! ### Rules -/

section Rules

variable {reports : Except RepositoryError α → Prop}

theorem cleanFrom_iff {p : RepoM α} {r : Except RepositoryError α}
    (hp : p.run (faulty faults) (s, n) = (r, (s', m))) :
    CleanFrom reports faults s n p ↔ (reports r → Unchanged s s') := by
  rw [CleanFrom, hp]

theorem unchanged_refl (s : Store) : Unchanged s s := ⟨fun _ => rfl, rfl⟩

theorem cleanFrom_bind_of_ok {p : RepoM β} {f : β → RepoM α} {b : β}
    (hp : p.run (faulty faults) (s, n) = (.ok b, (s, m))) :
    CleanFrom reports faults s n (p >>= f) ↔ CleanFrom reports faults s m (f b) := by
  rw [CleanFrom, CleanFrom, Prog.run_bind_of_ok hp]

/-- `try … except Exception: return None`. -/
theorem cleanFrom_tryCatch {p : RepoM (Option α)} :
    CleanFrom ReturnedNone faults s n (p.tryCatch fun _ => return none) ↔
      CleanFrom ReturnedNone faults s n p := by
  cases hp : p.run (faulty faults) (s, n) with
  | mk r next =>
    cases r with
    | ok a =>
      rw [CleanFrom, CleanFrom, hp, Prog.run_tryCatch_of_ok hp]
    | error e =>
      rw [CleanFrom, CleanFrom, hp, Prog.run_tryCatch_of_error hp]
      simp [ReturnedNone]

theorem cleanFrom_map {p : RepoM (Option β)} {f : Option β → α}
    (hf : ∀ o, reports (.ok (f o)) ↔ o = none) (herror : ∀ e, reports (.error e)) :
    CleanFrom reports faults s n (p >>= fun o => return f o) ↔
      CleanFrom ReturnedNone faults s n p := by
  cases hp : p.run (faulty faults) (s, n) with
  | mk r next =>
    cases r with
    | ok o =>
      rw [CleanFrom, CleanFrom, hp, Prog.run_bind_of_ok hp]
      cases o <;> simp [hf, ReturnedNone]
    | error e =>
      rw [CleanFrom, CleanFrom, hp, Prog.run_bind_of_error hp]
      simp [herror, ReturnedNone]

end Rules

/-! ### Moves on one wallet -/

section Move

variable {operation : BalanceOperation} {type : TransactionType} {id : ℕ} {amount : ℤ}
  {reference : Option Reference}

theorem unchanged_addTo_zero {w : WalletBalance} (hw : s.walletBalance? id = some w) :
    Unchanged s (s.addTo id 0) := by
  have hw0 : 0 ≤ w.balance + 0 := by
    simpa using balance_nonneg_of_walletBalance? hw
  exact ⟨fun j => by simp [addTo_balanceOf hw hw0], rfl⟩

theorem not_unchanged_addTo {w : WalletBalance} (hw : s.walletBalance? id = some w) {δ : ℤ}
    (hδ : 0 ≤ w.balance + δ) (hne : δ ≠ 0) (hs' : s'.balanceOf id = (s.addTo id δ).balanceOf id) :
    ¬Unchanged s s' := by
  intro h
  have hid := h.balances id
  rw [hs', addTo_balanceOf hw hδ] at hid
  omega

theorem signed_eq_zero : operation.signed amount = 0 ↔ amount = 0 := by
  cases operation <;> simp [BalanceOperation.signed]

/-- **A move on one wallet** fails clean exactly under its condition. -/
theorem cleanFrom_moveOwn : CleanFrom ReturnedNone faults s n
    (moveOwn operation type id amount reference) ↔
      MoveSheltered faults s operation id amount n := by
  by_cases hmove : s.Admits operation id amount ∧ Spared faults n 3
  · obtain ⟨w, hw, hpos, hrun⟩ := run_moveOwn type reference hmove.1 hmove.2
    have hne : amount ≠ 0 → operation.signed amount ≠ 0 := mt signed_eq_zero.mp
    simp only [MoveSheltered, hmove, forall_const]
    by_cases hamount : 0 < amount
    · rw [transactionCreate_of_pos hamount] at hrun
      by_cases hlog : Spared faults (n + 3) 2
      · rw [cleanFrom_iff (hrun.trans (run_createTransaction_of_spared _ _ _ hlog))]
        exact ⟨fun _ => .inr ⟨hamount, hlog⟩, fun _ h => absurd rfl (h _)⟩
      · obtain ⟨m, hcreate⟩ := run_createTransaction_of_not _ _ _ hlog
        rw [cleanFrom_iff (hrun.trans hcreate)]
        constructor
        · intro h
          refine absurd (h (by simp [ReturnedNone])) (not_unchanged_addTo hw hpos
            (hne hamount.ne') ?_)
          split <;> rfl
        · rintro (h | h)
          · omega
          · exact absurd h.2 hlog
    · rw [transactionCreate_of_not hamount] at hrun
      rw [cleanFrom_iff hrun]
      constructor
      · intro h
        by_contra hcon
        obtain ⟨hzero, -⟩ := not_or.mp hcon
        exact not_unchanged_addTo hw hpos (hne hzero) rfl (h (by simp [ReturnedNone]))
      · rintro (rfl | h) _
        · rw [signed_eq_zero.mpr rfl]
          exact unchanged_addTo_zero hw
        · exact absurd h.1 hamount
  · obtain ⟨m, hrun⟩ := run_moveOwn_of_not type reference hmove
    rw [cleanFrom_iff hrun]
    exact ⟨fun _ ha hn => absurd ⟨ha, hn⟩ hmove, fun _ _ => unchanged_refl s⟩

theorem cleanFrom_none : CleanFrom (ReturnedNone (α := α)) faults s n (return none) :=
  fun _ => unchanged_refl s

/-- **A refund** fails clean exactly under its condition. -/
theorem cleanFrom_refund {t : ℕ} {x : Option ℤ} :
    CleanFrom ReturnedNone faults s 0 (refund t x) ↔
      (MoneyCall.refund t x).Sheltered faults s := by
  rw [refund, cleanFrom_tryCatch]
  cases h₀ : faults 0 with
  | true =>
    rw [cleanFrom_iff (Prog.run_bind_of_error (run_sql_of_fault h₀))]
    exact ⟨fun _ _ _ _ h => absurd h (by simp [h₀]), fun _ _ => unchanged_refl s⟩
  | false =>
    cases ht : s.transactions.get? t with
    | none =>
      have hsql : handle (.selectTransaction t) s = (.ok none, s) := by simp [handle, ht]
      rw [cleanFrom_bind_of_ok (run_sql_of_ok h₀ hsql)]
      exact ⟨fun _ _ h => by simp [ht] at h, fun _ => cleanFrom_none⟩
    | some original =>
      have hsql : handle (.selectTransaction t) s = (.ok (some ⟨t, original⟩), s) := by
        simp [handle, ht]
      rw [cleanFrom_bind_of_ok (run_sql_of_ok h₀ hsql)]
      simp only [MoneyCall.Sheltered, ht, Option.mem_some_iff, forall_eq', h₀, forall_const]
      split
      · next hlt => exact ⟨fun _ h => absurd hlt (not_lt.mpr h), fun _ => cleanFrom_none⟩
      · next hlt =>
          rw [cleanFrom_moveOwn]
          exact ⟨fun h _ => h, fun h => h (not_lt.mp hlt)⟩

end Move

/-! ### Transfers -/

section Transfer

variable {a b : ℕ} {x : ℤ}

/-- The second half of a transfer, once the first balance is written. -/
def afterDebit (fromWallet toWallet : WalletBalance) (fromId toId : ℕ)
    (amount fromNewBalance : ℤ) : RepoM (Option (Row Transaction × Row Transaction)) := do
  match ← updateBalance toId amount .add with
  | none => do
    let _ ← updateBalance fromId amount .add
    return none
  | some toNewBalance => writeTransfer fromWallet toWallet amount fromNewBalance toNewBalance

theorem cleanFrom_transfer_of_not
    (h : ¬∃ v w, s.walletBalance? a = some v ∧ s.walletBalance? b = some w ∧ x ≤ v.balance ∧
      Spared faults 0 4) : CleanFrom ReturnedNone faults s 0 (transfer a b x) := by
  rw [transfer, cleanFrom_tryCatch, cleanFrom_bind_of_ok (run_getWallet s faults 0 a),
    cleanFrom_bind_of_ok (run_getWallet s faults 1 b)]
  split
  · next v w hv hw =>
      split
      · exact cleanFrom_none
      · next hle =>
          cases h₀ : faults 0 with
          | true => simp [h₀] at hv
          | false =>
            cases h₁ : faults 1 with
            | true => simp [h₁] at hw
            | false =>
              rw [h₀] at hv
              rw [h₁] at hw
              have hdebit : ∃ m, (updateBalance a x .subtract).run (faulty faults) (s, 2) =
                  (.ok none, (s, m)) := by
                refine run_updateBalance_of_not hv fun hcon =>
                  h ⟨v, w, hv, hw, not_lt.mp hle, ?_⟩
                refine (spared_split (k := 2) (l := 2)).mpr ⟨fun m hm => ?_, hcon.2⟩
                obtain rfl | rfl : m = 0 ∨ m = 1 := by omega
                · exact h₀
                · exact h₁
              obtain ⟨m, hdebit⟩ := hdebit
              rw [cleanFrom_bind_of_ok hdebit]
              exact cleanFrom_none
  · exact cleanFrom_none

theorem run_transfer {v w : WalletBalance} (hv : s.walletBalance? a = some v)
    (hw : s.walletBalance? b = some w) (hx : x ≤ v.balance) (hn : Spared faults 0 4) :
    CleanFrom ReturnedNone faults s 0 (transfer a b x) ↔
      (ReturnedNone ((afterDebit v w a b x (v.balance - x)).run (faulty faults)
          (s.addTo a (-x), 4)).1 →
        Unchanged s ((afterDebit v w a b x (v.balance - x)).run (faulty faults)
          (s.addTo a (-x), 4)).2.1) := by
  have h₀ : faults 0 = false := hn 0 (by omega)
  have h₁ : faults 1 = false := hn 1 (by omega)
  have hdebit : (updateBalance a x .subtract).run (faulty faults) (s, 2) =
      (.ok (some (v.balance - x)), (s.addTo a (-x), 4)) :=
    run_updateBalance_of_spared hv (show 0 ≤ v.balance + -x by omega)
      ((spared_split (k := 2) (l := 2)).mp hn).2
  rw [transfer, cleanFrom_tryCatch, cleanFrom_bind_of_ok (run_getWallet_of_some h₀ hv),
    cleanFrom_bind_of_ok (run_getWallet_of_some h₁ hw)]
  simp only [not_lt.mpr hx, ↓reduceIte]
  rw [CleanFrom, Prog.run_bind_of_ok hdebit]
  rfl

theorem run_credit_of_not (hcredit : ¬CreditGoes faults s b x) :
    (updateBalance b x .add).run (faulty faults) (s, 4) =
      (.ok none, (s, rollbackFrom faults s b)) := by
  by_cases hread : faults 4 = true ∨ s.walletBalance? b = none
  · rw [run_updateBalance_of_unread hread, rollbackFrom, if_pos hread]
  · rw [rollbackFrom, if_neg hread]
    obtain ⟨h₄, hw⟩ := not_or.mp hread
    obtain ⟨w, hw⟩ := Option.ne_none_iff_exists'.mp hw
    have h₄ : faults 4 = false := by simpa using h₄
    refine run_updateBalance_of_refused h₄ hw rfl ?_
    by_contra hcon
    obtain ⟨h₅, hneg⟩ := not_or.mp hcon
    refine hcredit ⟨⟨w, hw, not_lt.mp hneg⟩, fun m hm => ?_⟩
    obtain rfl | rfl : m = 0 ∨ m = 1 := by omega
    · exact h₄
    · simpa using h₅

variable (faults) in
/-- The rollback goes through exactly if the wallet can still be read and its statements are
answered. Then the store has its balances back, and else it keeps the debit. -/
theorem run_rollback {v : WalletBalance} (hv : s.walletBalance? a = some v)
    (hx : x ≤ v.balance) (m : ℕ) :
    ∃ o s' k, (updateBalance a x .add).run (faulty faults) (s.addTo a (-x), m) =
        (.ok o, (s', k)) ∧ s'.transactions = s.transactions ∧
      ((∀ id, s'.balanceOf id = s.balanceOf id) ↔
        x = 0 ∨ v.lockedBalance ≤ v.balance - x ∧ Spared faults m 2) := by
  have hpos : 0 ≤ v.balance + -x := by omega
  have hkept : (∀ id, (s.addTo a (-x)).balanceOf id = s.balanceOf id) ↔ x = 0 := by
    constructor
    · intro h
      have ha := h a
      rw [addTo_balanceOf hv hpos, if_pos rfl] at ha
      omega
    · rintro rfl id
      rw [addTo_balanceOf hv hpos]
      simp
  by_cases hlocked : v.lockedBalance ≤ v.balance + -x
  · have hv' := addTo_walletBalance? hv hpos hlocked
    have hnonneg := balance_nonneg_of_walletBalance? hv
    by_cases hn : Spared faults m 2
    · refine ⟨_, _, _, run_updateBalance_of_spared hv' ?_ hn, rfl, ?_⟩
      · simpa [BalanceOperation.signed] using hnonneg
      · refine ⟨fun _ => .inr ⟨by omega, hn⟩, fun _ id => ?_⟩
        rw [addTo_balanceOf hv' (by simpa [BalanceOperation.signed] using hnonneg),
          addTo_balanceOf hv hpos]
        simp only [BalanceOperation.signed]
        split <;> omega
    · have hrun : ∃ k, (updateBalance a x .add).run (faulty faults) (s.addTo a (-x), m) =
          (.ok none, (s.addTo a (-x), k)) := run_updateBalance_of_not hv' fun h => hn h.2
      obtain ⟨k, hrun⟩ := hrun
      refine ⟨_, _, _, hrun, rfl, hkept.trans ⟨.inl, ?_⟩⟩
      rintro (h | h)
      · exact h
      · exact absurd h.2 hn
  · have hv' := addTo_walletBalance?_eq_none hv hpos hlocked
    refine ⟨_, _, _, run_updateBalance_of_unread (.inr hv'), rfl, hkept.trans ⟨.inl, ?_⟩⟩
    rintro (h | h)
    · exact h
    · exact absurd h.1 (by omega)

theorem writeTransfer_clean {v w : WalletBalance} {c c' : ℤ} {s₂ : Store}
    (hlog : s₂.transactions = s.transactions)
    (hbal : (∀ id, s₂.balanceOf id = s.balanceOf id) ↔ x = 0 ∨ a = b) :
    (ReturnedNone ((writeTransfer v w x c c').run (faulty faults) (s₂, n)).1 →
        Unchanged s ((writeTransfer v w x c c').run (faulty faults) (s₂, n)).2.1) ↔
      x = 0 ∨ 0 < x ∧ Spared faults n 4 ∨
        a = b ∧ (x < 0 ∨ faults n = true ∧ faults (n + 1) = true) := by
  by_cases hx : 0 < x
  · by_cases hn : Spared faults n 4
    · have hwrite : ∃ txns s', (writeTransfer v w x c c').run (faulty faults) (s₂, n) =
          (.ok (some txns), (s', n + 4)) := run_writeTransfer_of_spared hx hn
      obtain ⟨txns, s', hwrite⟩ := hwrite
      rw [hwrite]
      exact ⟨fun _ => .inr (.inl ⟨hx, hn⟩), fun _ h => absurd rfl (h txns)⟩
    · have hwrite : ∃ s' m, (writeTransfer v w x c c').run (faulty faults) (s₂, n) =
            (.ok none, (s', m)) ∧ (∀ id, s'.balanceOf id = s₂.balanceOf id) ∧
          (s'.transactions = s₂.transactions ↔ faults n = true ∧ faults (n + 1) = true) :=
        run_writeTransfer_of_not hx hn
      obtain ⟨s', m, hwrite, hbal', hlog'⟩ := hwrite
      rw [hlog] at hlog'
      rw [hwrite]
      constructor
      · intro h
        have hsame := h (by simp [ReturnedNone])
        have hmoved := hbal.mp fun id => (hbal' id).symm.trans (hsame.balances id)
        rcases hmoved with h | h
        · exact .inl h
        · exact .inr (.inr ⟨h, .inr (hlog'.mp hsame.log)⟩)
      · rintro h -
        rcases h with h | h | h
        · omega
        · exact absurd h.2 hn
        · refine ⟨fun id => (hbal' id).trans (hbal.mpr (.inr h.1) id), hlog'.mpr ?_⟩
          exact h.2.resolve_left (by omega)
  · rw [run_writeTransfer_of_not_pos hx]
    constructor
    · intro h
      rcases hbal.mp (h (by simp [ReturnedNone])).balances with h | h
      · exact .inl h
      · rcases Int.lt_trichotomy x 0 with hlt | heq | hgt
        · exact .inr (.inr ⟨h, .inl hlt⟩)
        · exact .inl heq
        · exact absurd hgt hx
    · rintro h -
      refine ⟨hbal.mpr ?_, hlog⟩
      rcases h with h | h | h
      · exact .inl h
      · exact absurd h.1 hx
      · exact .inr h.1

/-- **A transfer** fails clean exactly under its condition. -/
theorem cleanFrom_transfer :
    CleanFrom ReturnedNone faults s 0 (transfer a b x) ↔ TransferSheltered faults s a b x := by
  by_cases hstart : ∃ v w, s.walletBalance? a = some v ∧ s.walletBalance? b = some w ∧
      x ≤ v.balance ∧ Spared faults 0 4
  · obtain ⟨v, w, hv, hw, hx, hn⟩ := hstart
    have hpos : 0 ≤ v.balance + -x := by omega
    rw [run_transfer hv hw hx hn]
    simp only [TransferSheltered, hv, hw, hx, hn, Option.mem_some_iff, forall_eq', ne_eq,
      reduceCtorEq, not_false_eq_true, forall_const]
    by_cases hcredit : CreditGoes faults (s.addTo a (-x)) b x
    · rw [if_pos hcredit]
      obtain ⟨⟨u, hu, hu0⟩, h₄⟩ := hcredit
      have hrun : (updateBalance b x .add).run (faulty faults) (s.addTo a (-x), 4) =
          (.ok (some (u.balance + x)), ((s.addTo a (-x)).addTo b x, 6)) :=
        run_updateBalance_of_spared hu hu0 h₄
      rw [afterDebit, Prog.run_bind_of_ok hrun]
      refine writeTransfer_clean rfl ⟨fun h => ?_, fun h id => ?_⟩
      · by_contra hcon
        obtain ⟨hx0, hab⟩ := not_or.mp hcon
        have ha := h a
        rw [addTo_balanceOf hu hu0, addTo_balanceOf hv hpos] at ha
        omega
      · rw [addTo_balanceOf hu hu0, addTo_balanceOf hv hpos]
        rcases h with rfl | rfl
        · simp
        · split <;> omega
    · rw [if_neg hcredit]
      obtain ⟨o, s', k, hback, hlog, hbal⟩ := run_rollback faults hv hx
        (rollbackFrom faults (s.addTo a (-x)) b)
      rw [afterDebit, Prog.run_bind_of_ok (run_credit_of_not hcredit)]
      have hrun : (do
          let _ ← updateBalance a x .add
          return none : RepoM (Option (Row Transaction × Row Transaction))).run (faulty faults)
            (s.addTo a (-x), rollbackFrom faults (s.addTo a (-x)) b) = (.ok none, (s', k)) :=
        Prog.run_bind_of_ok hback
      rw [hrun, ← hbal]
      exact ⟨fun h => (h (by simp [ReturnedNone])).balances, fun h _ => ⟨h, hlog⟩⟩
  · refine ⟨fun _ v hv hw hx hn => absurd ?_ hstart, fun _ => cleanFrom_transfer_of_not hstart⟩
    obtain ⟨w, hw⟩ := Option.ne_none_iff_exists'.mp hw
    exact ⟨v, w, hv, hw, hx, hn⟩

end Transfer

/-! ### All calls -/

section Calls

variable {id : ℕ} {x : ℤ}

theorem cleanFrom_deposit {ref : Option PyStr} :
    CleanFrom ReturnedNone faults s n (deposit id x ref) ↔
      MoveSheltered faults s .add id x n := by
  rw [deposit, cleanFrom_tryCatch, cleanFrom_moveOwn]

theorem cleanFrom_withdraw : CleanFrom ReturnedNone faults s n (withdraw id x) ↔
    MoveSheltered faults s .subtract id x n := by
  rw [withdraw, cleanFrom_tryCatch, cleanFrom_moveOwn]

theorem cleanFrom_consume : CleanFrom ReturnedNone faults s n (consume id x) ↔
    MoveSheltered faults s .subtract id x n := by
  rw [consume, cleanFrom_tryCatch, cleanFrom_moveOwn]

theorem returnedNone_map {f : α → β} (o : Option α) :
    ReturnedNone (.ok (o.map f)) ↔ o = none := by
  cases o <;> simp [ReturnedNone]

theorem returnedNone_error (e : RepositoryError) :
    ReturnedNone (α := α) (.error e) := by
  simp [ReturnedNone]

theorem notSuccessful_of (message : String) (o : Option (Row Transaction)) :
    NotSuccessful (.ok (.of message o)) ↔ o = none := by
  cases o <;> simp [NotSuccessful, WalletResponse.of]

theorem notSuccessful_error (e : RepositoryError) : NotSuccessful (.error e) := by
  simp [NotSuccessful]

/-- The service's `withdraw` looks the wallet up first. -/
theorem cleanFrom_serve_withdraw :
    CleanFrom NotSuccessful faults s 0 (WalletService.withdraw id x) ↔
      (MoneyCall.withdraw id x).ServiceSheltered faults s := by
  rw [WalletService.withdraw, cleanFrom_bind_of_ok (run_getWallet s faults 0 id)]
  cases h₀ : faults 0 with
  | true =>
    refine ⟨fun _ h => absurd h (by simp [h₀]), fun _ _ => unchanged_refl s⟩
  | false =>
    cases hw : s.walletBalance? id with
    | none =>
      refine ⟨fun _ _ h => ?_, fun _ _ => unchanged_refl s⟩
      obtain ⟨w, hw', -⟩ := h
      simp [hw] at hw'
    | some w =>
      have hcall : CleanFrom NotSuccessful faults s 1 (do
          let transaction ← withdraw id x
          return .of "Insufficient balance or withdrawal failed" transaction) ↔ _ :=
        cleanFrom_map (notSuccessful_of _) notSuccessful_error
      rw [cleanFrom_withdraw] at hcall
      exact hcall.trans ⟨fun h _ => h, fun h => h h₀⟩

end Calls

/-! ### A deposit whose insertion fails -/

def aliceStore : Store :=
  ((createWallet ⟨['a'], .fiat, 100000000, oneUnit_nonneg⟩ 0).run handle .empty).2

end IsaUser.Wallets
