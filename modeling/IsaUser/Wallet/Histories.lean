import IsaUser.Lib.Runs
import IsaUser.Wallet.Outcomes
import IsaUser.Wallet.Service

/-!
# Histories of the Wallet Store

The calls of the repository and of the service, completed one after another with no storage
failure, from the empty store. Whatever is written along the way is well formed
(`Store.Regular`): nothing is locked, every transaction has a positive amount, and a
refund refers to an earlier transaction.
-/

namespace IsaUser.Wallets

variable {α : Type} {s : Store}

/-! ### Steps -/

/-- A step of a history: a call, of the repository or of the service. -/
inductive Step where
  | createWallet (data : WalletCreate) (now : Timestamp)
  | repository (call : MoneyCall)
  | service (call : MoneyCall)

def Step.run (s : Store) : Step → Store
  | createWallet data now => ((Wallets.createWallet data now).run handle s).2
  | repository call => (call.prog.run handle s).2
  | service call => (call.serve.run handle s).2

theorem run_bind_return {p : RepoM α} {β : Type} {f : α → β} (s : Store) :
    ((p >>= fun a => return f a).run handle s).2 = (p.run handle s).2 := by
  cases hp : p.run handle s with
  | mk r s' =>
    cases r with
    | ok a => rw [Prog.run_bind_of_ok hp]; rfl
    | error e => rw [Prog.run_bind_of_error hp]

theorem getWallet_run (id : ℕ) (s : Store) :
    (getWallet id).run handle s = (.ok (s.walletBalance? id), s) :=
  Prog.run_of_withFaults (run_getWallet s (fun _ => false) 0 id)

theorem serve_run (call : MoneyCall) (s : Store) :
    Step.run s (.service call) = Step.run s (.repository call) := by
  cases call with
  | withdraw w x =>
    refine Eq.trans ?_ (run_bind_return s).symm
    simp only [Step.run, MoneyCall.serve, WalletService.withdraw]
    rw [Prog.run_bind_of_ok (getWallet_run w s)]
    cases hw : s.walletBalance? w with
    | none =>
      have hmove : (moveOwn .subtract .withdraw w x none).run handle s = (.ok none, s) := by
        rw [moveOwn, Prog.run_bind_of_ok (getWallet_run w s), hw]
        rfl
      rw [withdraw, Prog.run_tryCatch_of_ok hmove]
      rfl
    | some wallet => exact run_bind_return s
  | _ => exact (run_bind_return s).trans (run_bind_return s).symm

/-! ### What the methods write -/

/-- A statement writes only transactions of type `k`, of positive amounts, and wallets with
nothing locked. -/
def Statement.Logs (k : TransactionType) : Statement → Prop
  | insertTransaction txn => txn.transactionType = k ∧ 0 < txn.amount
  | insertWallet w => w.lockedBalance = 0
  | _ => True

section Logs

variable {k : TransactionType}

theorem getWallet_logs (id : ℕ) : (getWallet id).Only (Statement.Logs k) := by
  refine Prog.Only.tryCatch (Prog.Only.bind (sql_only trivial) fun found => ?_) fun _ => trivial
  cases found with
  | none => trivial
  | some row => exact Prog.Only.bind (toWalletBalance_only row) fun _ => trivial

theorem updateBalance_logs (id : ℕ) (x : ℤ) (operation : BalanceOperation) :
    (updateBalance id x operation).Only (Statement.Logs k) := by
  refine Prog.Only.tryCatch (Prog.Only.bind (getWallet_logs id) fun found => ?_) fun _ => trivial
  cases found with
  | none => trivial
  | some w =>
    dsimp only
    split
    · trivial
    · exact Prog.Only.bind (sql_only trivial) fun _ => trivial

/-- A transaction of type `k` is built and written. -/
theorem transactionCreate_bind_logs {id : ℕ} {u : PyStr} {x : ℤ}
    {reference : Option Reference} {toId : Option ℕ} {f : TransactionCreate → RepoM α}
    (hf : ∀ data : TransactionCreate, data.transactionType = k →
      (f data).Only (Statement.Logs k)) :
    (transactionCreate id u k x reference toId >>= f).Only (Statement.Logs k) := by
  rw [transactionCreate]
  split
  · exact hf _ rfl
  · trivial

theorem createTransaction_logs {data : TransactionCreate} (hk : data.transactionType = k)
    (b b' : ℤ) : (createTransaction data b b').Only (Statement.Logs k) := by
  refine Prog.Only.tryCatch (Prog.Only.bind (sql_only ⟨hk, data.amount_pos⟩) fun _ => ?_)
    fun _ => trivial
  exact sql_only trivial

theorem moveOwn_logs (operation : BalanceOperation) (id : ℕ) (x : ℤ)
    (reference : Option Reference) :
    (moveOwn operation k id x reference).Only (Statement.Logs k) := by
  refine Prog.Only.bind (getWallet_logs id) fun found => ?_
  cases found with
  | none => trivial
  | some w =>
    dsimp only
    split
    · trivial
    · refine Prog.Only.bind (updateBalance_logs id x operation) fun updated => ?_
      cases updated with
      | none => trivial
      | some b =>
        exact transactionCreate_bind_logs fun data hk => createTransaction_logs hk _ _

theorem writeTransfer_logs (v w : WalletBalance) (x b b' : ℤ) :
    (writeTransfer v w x b b').Only (Statement.Logs .transfer) := by
  refine transactionCreate_bind_logs fun _ hk => ?_
  refine Prog.Only.bind (createTransaction_logs hk _ _) fun f => ?_
  refine transactionCreate_bind_logs fun _ hk => ?_
  refine Prog.Only.bind (createTransaction_logs hk _ _) fun t => ?_
  cases f <;> cases t <;> trivial

theorem transfer_logs (a b : ℕ) (x : ℤ) :
    (transfer a b x).Only (Statement.Logs .transfer) := by
  refine Prog.Only.tryCatch (Prog.Only.bind (getWallet_logs a) fun v => ?_) fun _ => trivial
  refine Prog.Only.bind (getWallet_logs b) fun w => ?_
  cases v with
  | none => trivial
  | some v =>
    cases w with
    | none => trivial
    | some w =>
      dsimp only
      split
      · trivial
      · refine Prog.Only.bind (updateBalance_logs a x .subtract) fun debited => ?_
        cases debited with
        | none => trivial
        | some c =>
          refine Prog.Only.bind (updateBalance_logs b x .add) fun credited => ?_
          cases credited with
          | none => exact Prog.Only.bind (updateBalance_logs a x .add) fun _ => trivial
          | some c' => exact writeTransfer_logs v w x c c'

theorem refund_logs (t : ℕ) (amount : Option ℤ) :
    (refund t amount).Only (Statement.Logs .refund) := by
  refine Prog.Only.tryCatch (Prog.Only.bind (sql_only trivial) fun found => ?_) fun _ => trivial
  cases found with
  | none => trivial
  | some original =>
    dsimp only
    split
    · trivial
    · exact moveOwn_logs _ _ _ _

def MoneyCall.transactionType : MoneyCall → TransactionType
  | deposit .. => .deposit
  | withdraw .. => .withdraw
  | consume .. => .consume
  | refund .. => .refund
  | transfer .. => .transfer

theorem prog_logs (call : MoneyCall) :
    call.prog.Only (Statement.Logs call.transactionType) := by
  cases call with
  | refund t x => exact Prog.Only.bind (refund_logs t x) fun _ => trivial
  | transfer a b x => exact Prog.Only.bind (transfer_logs a b x) fun _ => trivial
  | _ => exact Prog.Only.bind (Prog.Only.tryCatch (moveOwn_logs _ _ _ _) fun _ => trivial)
          fun _ => trivial

theorem createWallet_logs (data : WalletCreate) (now : Timestamp) :
    (createWallet data now).Only (Statement.Logs .deposit) := by
  refine Prog.Only.tryCatch (Prog.Only.bind (sql_only rfl) fun id => ?_) fun _ => trivial
  refine Prog.Only.bind ?_ fun _ => getWallet_logs id
  rw [fundWallet]
  split
  · refine transactionCreate_bind_logs fun _ hk => ?_
    exact Prog.Only.bind (createTransaction_logs hk _ _) fun _ => trivial
  · trivial

end Logs

/-! ### Refunds -/

/-- A refund of transaction `t` goes through: no more than the original is asked back, and
its wallet can be read. -/
structure RefundGoes (s : Store) (t : ℕ) (amount : Option ℤ) (original : Transaction) :
    Prop where
  found : s.transactions.get? t = some original
  within : refundAmount amount original ≤ original.amount
  positive : 0 < refundAmount amount original
  readable : (s.walletBalance? original.walletId).isSome

/-- The row that a refund of transaction `t` writes. -/
structure IsRefund (t : ℕ) (amount : ℤ) (row : Transaction) : Prop where
  type : row.transactionType = .refund
  amount_eq : row.amount = amount
  reference : row.referenceId = some (.transaction t)

theorem RefundGoes.admits {t : ℕ} {amount : Option ℤ} {original : Transaction}
    (h : RefundGoes s t amount original) :
    s.Admits .add original.walletId (refundAmount amount original) := by
  obtain ⟨w, hw⟩ := Option.isSome_iff_exists.mp h.readable
  have hpos := h.positive
  have hbalance := balance_nonneg_of_walletBalance? hw
  exact ⟨w, hw, nofun, by simp only [BalanceOperation.signed]; omega⟩

/-- **What a refund does**: it goes through, and adds its amount to the wallet and its row
to the log; or it writes no transaction. -/
theorem refund_run (t : ℕ) (amount : Option ℤ) (s : Store) :
    (∃ original row, RefundGoes s t amount original ∧
      IsRefund t (refundAmount amount original) row ∧
      ((refund t amount).run handle s).2 =
        (s.addTo original.walletId (refundAmount amount original)).log row) ∨
    (¬∃ original, RefundGoes s t amount original) ∧
      (((refund t amount).run handle s).2 = s ∨
        ∃ id δ, ((refund t amount).run handle s).2 = s.addTo id δ) := by
  have hspared : ∀ n k, Spared (fun _ => false) n k := fun _ _ _ _ => rfl
  cases ht : s.transactions.get? t with
  | none =>
    have hsql : handle (.selectTransaction t) s = (.ok none, s) := by simp [handle, ht]
    have hrun : (refund t amount).run (faulty fun _ => false) (s, 0) = (.ok none, (s, 1)) :=
      Prog.run_tryCatch_of_ok (Prog.run_bind_of_ok (run_sql_of_ok rfl hsql))
    refine .inr ⟨?_, .inl (congrArg Prod.snd (Prog.run_of_withFaults hrun))⟩
    rintro ⟨original, h⟩
    simp [h.found] at ht
  | some original =>
    have hsql : handle (.selectTransaction t) s = (.ok (some ⟨t, original⟩), s) := by
      simp [handle, ht]
    have hselected : (sql (.selectTransaction t)).run (faulty fun _ => false) (s, 0) =
        (.ok (some ⟨t, original⟩), (s, 1)) := run_sql_of_ok rfl hsql
    have hunique : ∀ original', RefundGoes s t amount original' → original' = original :=
      fun _ h => Option.some.inj (h.found.symm.trans ht)
    by_cases hlt : original.amount < refundAmount amount original
    · have hrun : (refund t amount).run (faulty fun _ => false) (s, 0) =
          (.ok none, (s, 1)) := by
        refine Prog.run_tryCatch_of_ok ((Prog.run_bind_of_ok hselected).trans ?_)
        simp [hlt]
      refine .inr ⟨?_, .inl (congrArg Prod.snd (Prog.run_of_withFaults hrun))⟩
      rintro ⟨original', h⟩
      obtain rfl := hunique original' h
      exact absurd h.within (not_le.mpr hlt)
    · have hle := not_lt.mp hlt
      by_cases hadmits : s.Admits .add original.walletId (refundAmount amount original)
      · obtain ⟨w, hw, hpos, hmove⟩ := run_moveOwn .refund (some (.transaction t)) hadmits
          (hspared 1 3)
        by_cases hamount : 0 < refundAmount amount original
        · rw [transactionCreate_of_pos hamount] at hmove
          have hrun := run_refund (by rfl) ht hle
            (hmove.trans (run_createTransaction_of_spared _ _ _ (hspared _ _)))
          refine .inl ⟨original, _, ⟨ht, hle, hamount, ?_⟩, ⟨rfl, rfl, rfl⟩,
            congrArg Prod.snd (Prog.run_of_withFaults hrun)⟩
          rw [hw]
          rfl
        · rw [transactionCreate_of_not hamount] at hmove
          have hrun := run_refund (by rfl) ht hle hmove
          refine .inr ⟨?_, .inr ⟨_, _, congrArg Prod.snd (Prog.run_of_withFaults hrun)⟩⟩
          rintro ⟨original', h⟩
          obtain rfl := hunique original' h
          exact absurd h.positive hamount
      · obtain ⟨m, hmove⟩ := run_moveOwn_of_not .refund (some (.transaction t))
          (fun h : _ ∧ Spared (fun _ => false) 1 3 => hadmits h.1)
        have hrun := run_refund (by rfl) ht hle hmove
        refine .inr ⟨?_, .inl (congrArg Prod.snd (Prog.run_of_withFaults hrun))⟩
        rintro ⟨original', h⟩
        obtain rfl := hunique original' h
        exact absurd h.admits hadmits

theorem repository_refund_run (t : ℕ) (amount : Option ℤ) (s : Store) :
    Step.run s (.repository (.refund t amount)) = ((refund t amount).run handle s).2 :=
  run_bind_return s

/-! ### Regular stores -/

/-- Nothing is locked, amounts are positive, and a refund refers to an earlier
transaction. -/
structure Store.Regular (s : Store) : Prop where
  unlocked : ∀ id w, s.wallets.get? id = some w → w.lockedBalance = 0
  amount_pos : ∀ t row, s.transactions.get? t = some row → 0 < row.amount
  refers : ∀ t row, s.transactions.get? t = some row → row.transactionType = .refund →
    ∃ u < t, row.referenceId = some (.transaction u)

section Regular

theorem regular_empty : Store.empty.Regular := by
  constructor <;> intro i r h <;> simp [Store.empty] at h

theorem Store.Regular.log (hs : s.Regular) {row : Transaction} (hpos : 0 < row.amount)
    (hrefers : row.transactionType = .refund →
      ∃ u < s.transactions.size, row.referenceId = some (.transaction u)) :
    (s.log row).Regular where
  unlocked := hs.unlocked
  amount_pos t r hr := by
    rw [log_transactions, Table.get?_insert] at hr
    split at hr
    · obtain rfl := Option.some.inj hr
      exact hpos
    · exact hs.amount_pos t r hr
  refers t r hr hrefund := by
    rw [log_transactions, Table.get?_insert] at hr
    split at hr
    · next ht =>
        obtain rfl := Option.some.inj hr
        rw [ht]
        exact hrefers hrefund
    · exact hs.refers t r hr hrefund

theorem Store.Regular.modify (hs : s.Regular) {id : ℕ} {f : Wallet → Wallet}
    (hf : ∀ w, (f w).lockedBalance = w.lockedBalance) :
    ({ s with wallets := s.wallets.modify id f } : Store).Regular where
  unlocked j w hw := by
    simp only [Table.get?_modify] at hw
    split at hw
    · obtain ⟨v, hv, rfl⟩ := Option.map_eq_some_iff.mp hw
      rw [hf]
      exact hs.unlocked _ v hv
    · exact hs.unlocked j w hw
  amount_pos := hs.amount_pos
  refers := hs.refers

theorem Store.Regular.addTo (hs : s.Regular) (id : ℕ) (δ : ℤ) : (s.addTo id δ).Regular := by
  refine hs.modify fun w => ?_
  rw [Wallet.add]
  split <;> rfl

theorem regular_handle {k : TransactionType} {c : Statement} (hc : c.Logs k)
    (hk : k ≠ .refund) (hs : s.Regular) : (handle c s).2.Regular := by
  cases c with
  | updateBalance id b =>
    simp only [handle]
    split
    · exact hs
    · split
      · exact hs.modify fun _ => rfl
      · exact hs
  | insertWallet w =>
    refine ⟨fun id v hv => ?_, hs.amount_pos, hs.refers⟩
    simp only [handle, Table.get?_insert] at hv
    split at hv
    · obtain rfl := Option.some.inj hv
      exact hc
    · exact hs.unlocked id v hv
  | insertTransaction row =>
    exact hs.log hc.2 fun h => absurd (hc.1.symm.trans h) hk
  | selectWallet id => exact hs
  | selectWallets u t => exact hs
  | selectTransaction t => exact hs

theorem regular_of_logs {k : TransactionType} {p : RepoM α} (hp : p.Only (Statement.Logs k))
    (hk : k ≠ .refund) (hs : s.Regular) : (p.run handle s).2.Regular :=
  hp.run_keeps hs fun _ _ hc hs => regular_handle hc hk hs

theorem regular_refund (hs : s.Regular) (t : ℕ) (amount : Option ℤ) :
    ((refund t amount).run handle s).2.Regular := by
  rcases refund_run t amount s with ⟨original, row, hgoes, hrow, hrun⟩ | ⟨-, hrun | ⟨id, δ, hrun⟩⟩
  · rw [hrun]
    refine (hs.addTo _ _).log (hrow.amount_eq ▸ hgoes.positive) fun _ => ?_
    exact ⟨t, Table.lt_size_of_get? hgoes.found, hrow.reference⟩
  · rw [hrun]
    exact hs
  · rw [hrun]
    exact hs.addTo id δ

theorem regular_repository (call : MoneyCall) (hs : s.Regular) :
    (Step.run s (.repository call)).Regular := by
  cases call with
  | refund t x =>
    rw [repository_refund_run]
    exact regular_refund hs t x
  | _ => exact regular_of_logs (prog_logs _) nofun hs

theorem Step.regular_run (step : Step) (hs : s.Regular) : (step.run s).Regular := by
  cases step with
  | createWallet data now => exact regular_of_logs (createWallet_logs data now) (by decide) hs
  | repository call => exact regular_repository call hs
  | service call =>
    rw [serve_run]
    exact regular_repository call hs

/-- **Every history leads to a regular store.** -/
theorem regular_exec (steps : List Step) : (exec Step.run .empty steps).Regular :=
  exec_invariant regular_empty (allSteps_true _ _) fun _ step hs _ => step.regular_run hs

end Regular

end IsaUser.Wallets
