import IsaUser.Wallet.Histories

/-!
# What a Call Posts

A call of a positive amount that goes through changes balances, and posts a transaction for
every change: one for a call on one wallet, two for a transfer. A call that does not go through
leaves the store as it was.
-/

namespace IsaUser.Wallets

open Table Store

variable {s s' : Store}

/-! ### Which wallets a call posts to -/

def Store.CanTransfer (s : Store) (fromWalletId toWalletId : ℕ) (amount : ℤ) : Prop :=
  (∃ w ∈ s.walletBalance? fromWalletId, amount ≤ w.balance) ∧
    (s.walletBalance? toWalletId).isSome
  deriving Decidable

def Store.refunds? (s : Store) (t : ℕ) (amount : Option ℤ) : Option ℕ :=
  match s.transactions.get? t with
  | none => none
  | some original =>
    if refundAmount amount original ≤ original.amount ∧
      s.Admits .add original.walletId (refundAmount amount original) then
      some original.walletId
    else none

def MoneyCall.touches (s : Store) : MoneyCall → List ℕ
  | deposit w x _ => if s.Admits .add w x then [w] else []
  | withdraw w x => if s.Admits .subtract w x then [w] else []
  | consume w x => if s.Admits .subtract w x then [w] else []
  | refund t x => (s.refunds? t x).toList
  | transfer a b x => if s.CanTransfer a b x then [a, b] else []

def Step.touches (s : Store) : Step → List ℕ
  | createWallet data _ => if 0 < data.initialBalance then [s.wallets.size] else []
  | repository call => call.touches s
  | service call => call.touches s

def MoneyCall.Positive : MoneyCall → Prop
  | deposit _ x _ => 0 < x
  | withdraw _ x => 0 < x
  | consume _ x => 0 < x
  | refund _ x => ∀ y ∈ x, 0 < y
  | transfer _ _ x => 0 < x

def Step.Positive : Step → Prop
  | createWallet .. => True
  | repository call => call.Positive
  | service call => call.Positive

def Step.IsTransfer : Step → Prop
  | repository (.transfer ..) => True
  | service (.transfer ..) => True
  | _ => False

instance (step : Step) : Decidable step.IsTransfer := by
  unfold Step.IsTransfer
  split <;> infer_instance

/-! ### What is posted -/

/-- What a transaction adds to the balance of its wallet, for a transfer that comes in or goes
out. -/
def Transaction.signed (row : Transaction) (incoming : Bool) : ℤ :=
  match row.transactionType with
  | .deposit | .refund => row.amount
  | .withdraw | .consume => -row.amount
  | .transfer => if incoming then row.amount else -row.amount
  | _ => 0

/-- What a transaction has added to the balance of its wallet: only the transfer that goes out
has a recipient. -/
def Transaction.moved (row : Transaction) : ℤ := row.signed row.toWalletId.isNone

def Transaction.IsOwn (row : Transaction) : Prop :=
  row.transactionType ∈ [.deposit, .withdraw, .consume, .refund]
  deriving Decidable

structure Posts (s s' : Store) (rows : List Transaction) : Prop where
  log : s'.transactions = s.transactions.insertAll rows
  balances : ∀ id, s'.balanceOf id =
    s.balanceOf id + (rows.map fun row => if row.walletId = id then row.moved else 0).sum
  wallets : ∀ id, (s.wallets.get? id).isSome → (s'.wallets.get? id).isSome
  owned : ∀ row ∈ rows, (s'.wallets.get? row.walletId).isSome
  positive : ∀ row ∈ rows, 0 < row.amount

structure SentAndReceived (sent received : Transaction) : Prop where
  sentType : sent.transactionType = .transfer
  receivedType : received.transactionType = .transfer
  recipient : sent.toWalletId.isSome
  noRecipient : received.toWalletId = none
  amount_eq : sent.amount = received.amount

structure StepPosts (s : Store) (step : Step) (rows : List Transaction) : Prop where
  posts : Posts s (step.run s) rows
  touches : rows.map (·.walletId) = step.touches s
  own : ¬step.IsTransfer → ∀ row ∈ rows, row.IsOwn
  pair : step.IsTransfer → rows = [] ∨
    ∃ sent received, rows = [sent, received] ∧ SentAndReceived sent received

theorem posts_nil (s : Store) : Posts s s [] where
  log := (insertAll_nil _).symm
  balances := by simp
  wallets _ h := h
  owned := by simp
  positive := by simp

theorem addTo_isSome (s : Store) (id : ℕ) (δ : ℤ) (j : ℕ) :
    ((s.addTo id δ).wallets.get? j).isSome = (s.wallets.get? j).isSome := by
  rw [addTo, get?_modify]
  split
  · exact Option.isSome_map
  · rfl

theorem isSome_of_walletBalance? {id : ℕ} {w : WalletBalance}
    (h : s.walletBalance? id = some w) : (s.wallets.get? id).isSome := by
  obtain ⟨row, hrow, -⟩ := exists_of_walletBalance? h
  rw [hrow]
  rfl

theorem posts_addTo_log {id : ℕ} {w : WalletBalance} (hw : s.walletBalance? id = some w) {δ : ℤ}
    (hδ : 0 ≤ w.balance + δ) {row : Transaction} (hid : row.walletId = id) (hmoved : row.moved = δ)
    (hpos : 0 < row.amount) : Posts s ((s.addTo id δ).log row) [row] where
  log := by rw [insertAll_cons, insertAll_nil, log_transactions, addTo_transactions]
  balances j := by
    rw [log_balanceOf, addTo_balanceOf hw hδ, List.map_singleton, List.sum_singleton, hid, hmoved]
    simp only [eq_comm]
  wallets j hj := by rwa [log, addTo_isSome]
  owned r hr := by
    rw [List.mem_singleton.mp hr, hid, log, addTo_isSome]
    exact isSome_of_walletBalance? hw
  positive r hr := by rwa [List.mem_singleton.mp hr]

theorem Posts.trans {s'' : Store} {rows rows' : List Transaction} (h : Posts s s' rows)
    (h' : Posts s' s'' rows') : Posts s s'' (rows ++ rows') where
  log := by
    rw [h'.log, h.log]
    exact congrArg Table.mk (List.append_assoc _ _ _)
  balances id := by rw [h'.balances, h.balances, List.map_append, List.sum_append, add_assoc]
  wallets id hid := h'.wallets id (h.wallets id hid)
  owned row hrow := by
    rcases List.mem_append.mp hrow with hrow | hrow
    · exact h'.wallets _ (h.owned row hrow)
    · exact h'.owned row hrow
  positive row hrow := by
    rcases List.mem_append.mp hrow with hrow | hrow
    · exact h.positive row hrow
    · exact h'.positive row hrow

/-! ### Calls on one wallet -/

section MoveOwn

variable {operation : BalanceOperation} {k : TransactionType} {id : ℕ} {x : ℤ}

theorem spared_none (n m : ℕ) : Spared (fun _ => false) n m := fun _ _ => rfl

structure IsMove (k : TransactionType) (id : ℕ) (x : ℤ) (row : Transaction) : Prop where
  type : row.transactionType = k
  wallet : row.walletId = id
  amount_eq : row.amount = x

theorem moveOwn_run (operation : BalanceOperation) (k : TransactionType) (id : ℕ) {x : ℤ}
    (reference : Option Reference) (hx : 0 < x) (s : Store) (n : ℕ) :
    ∃ r s' m, (moveOwn operation k id x reference).run (faulty fun _ => false) (s, n) =
        (r, (s', m)) ∧
      if s.Admits operation id x then
        ∃ row, IsMove k id x row ∧ s' = (s.addTo id (operation.signed x)).log row
      else s' = s := by
  by_cases hadmits : s.Admits operation id x
  · obtain ⟨w, hw, hpos, hrun⟩ := run_moveOwn k reference hadmits (spared_none n 3)
    rw [transactionCreate_of_pos hx] at hrun
    refine ⟨_, _, _, hrun.trans (run_createTransaction_of_spared _ _ _ (spared_none _ _)), ?_⟩
    rw [if_pos hadmits]
    exact ⟨_, ⟨rfl, rfl, rfl⟩, rfl⟩
  · obtain ⟨m, hrun⟩ := run_moveOwn_of_not (n := n) k reference
      (fun h : _ ∧ Spared (fun _ => false) n 3 => hadmits h.1)
    exact ⟨_, _, _, hrun, by rw [if_neg hadmits]⟩

theorem IsMove.posts {row : Transaction} (h : IsMove k id x row) (hx : 0 < x)
    (hadmits : s.Admits operation id x)
    (hsigned : ∀ row : Transaction, row.transactionType = k →
      row.moved = operation.signed row.amount) :
    Posts s ((s.addTo id (operation.signed x)).log row) [row] := by
  obtain ⟨w, hw, -, hpos⟩ := hadmits
  refine posts_addTo_log hw hpos h.wallet ?_ (h.amount_eq ▸ hx)
  rw [hsigned row h.type, h.amount_eq]

theorem run_tryCatch_none {α : Type} {p : RepoM (Option α)} {r : Except RepositoryError (Option α)}
    {m : ℕ} (h : p.run (faulty fun _ => false) (s, 0) = (r, (s', m))) :
    ((p.tryCatch fun _ => return none : RepoM (Option α)).run handle s).2 = s' := by
  cases r with
  | ok o => exact congrArg Prod.snd (Prog.run_of_withFaults (Prog.run_tryCatch_of_ok h))
  | error e => exact congrArg Prod.snd (Prog.run_of_withFaults (Prog.run_tryCatch_of_error h))

theorem stepPosts_of_move {step : Step} (hx : 0 < x)
    (hmove : if s.Admits operation id x then
        ∃ row, IsMove k id x row ∧ step.run s = (s.addTo id (operation.signed x)).log row
      else step.run s = s)
    (htouches : step.touches s = if s.Admits operation id x then [id] else [])
    (hstep : ¬step.IsTransfer) (hk : k ∈ [.deposit, .withdraw, .consume, .refund])
    (hsigned : ∀ row : Transaction, row.transactionType = k →
      row.moved = operation.signed row.amount) : ∃ rows, StepPosts s step rows := by
  by_cases hadmits : s.Admits operation id x
  · rw [if_pos hadmits] at hmove htouches
    obtain ⟨row, hrow, hrun⟩ := hmove
    refine ⟨[row], ?_, ?_, fun _ r hr => ?_, fun h => absurd h hstep⟩
    · rw [hrun]
      exact hrow.posts hx hadmits hsigned
    · rw [htouches, List.map_singleton, hrow.wallet]
    · rw [List.mem_singleton.mp hr, Transaction.IsOwn, hrow.type]
      exact hk
  · rw [if_neg hadmits] at hmove htouches
    refine ⟨[], ?_, ?_, by simp, fun h => absurd h hstep⟩
    · rw [hmove]
      exact posts_nil s
    · rw [htouches, List.map_nil]

theorem moved_of_deposit {row : Transaction} (h : row.transactionType = .deposit) :
    row.moved = row.amount := by
  simp [Transaction.moved, Transaction.signed, h]

theorem moved_of_refund {row : Transaction} (h : row.transactionType = .refund) :
    row.moved = row.amount := by
  simp [Transaction.moved, Transaction.signed, h]

theorem moved_of_withdraw {row : Transaction} (h : row.transactionType = .withdraw) :
    row.moved = -row.amount := by
  simp [Transaction.moved, Transaction.signed, h]

theorem moved_of_consume {row : Transaction} (h : row.transactionType = .consume) :
    row.moved = -row.amount := by
  simp [Transaction.moved, Transaction.signed, h]

theorem deposit_posts (hx : 0 < x) (ref : Option PyStr) :
    ∃ rows, StepPosts s (.repository (.deposit id x ref)) rows := by
  obtain ⟨r, s', m, hrun, hmove⟩ := moveOwn_run .add .deposit id (ref.map .external) hx s 0
  have hstep : Step.run s (.repository (.deposit id x ref)) = s' :=
    (run_bind_return s).trans (run_tryCatch_none hrun)
  exact stepPosts_of_move hx (hstep ▸ hmove) rfl (fun h => h) (by decide) fun _ => moved_of_deposit

theorem withdraw_posts (hx : 0 < x) : ∃ rows, StepPosts s (.repository (.withdraw id x)) rows := by
  obtain ⟨r, s', m, hrun, hmove⟩ := moveOwn_run .subtract .withdraw id none hx s 0
  have hstep : Step.run s (.repository (.withdraw id x)) = s' :=
    (run_bind_return s).trans (run_tryCatch_none hrun)
  exact stepPosts_of_move hx (hstep ▸ hmove) rfl (fun h => h) (by decide) fun _ => moved_of_withdraw

theorem consume_posts (hx : 0 < x) : ∃ rows, StepPosts s (.repository (.consume id x)) rows := by
  obtain ⟨r, s', m, hrun, hmove⟩ := moveOwn_run .subtract .consume id none hx s 0
  have hstep : Step.run s (.repository (.consume id x)) = s' :=
    (run_bind_return s).trans (run_tryCatch_none hrun)
  exact stepPosts_of_move hx (hstep ▸ hmove) rfl (fun h => h) (by decide) fun _ => moved_of_consume

theorem stepPosts_nil {step : Step} (hrun : step.run s = s) (htouches : step.touches s = []) :
    ∃ rows, StepPosts s step rows := by
  refine ⟨[], ?_, htouches.symm, by simp, fun _ => .inl rfl⟩
  rw [hrun]
  exact posts_nil s

theorem refundAmount_pos {original : Transaction} (horiginal : 0 < original.amount)
    {amount : Option ℤ} (hpos : ∀ y ∈ amount, 0 < y) : 0 < refundAmount amount original := by
  cases amount with
  | none => exact horiginal
  | some y =>
    have hy := hpos y rfl
    rw [refundAmount, if_neg hy.ne']
    exact hy

theorem refund_posts (hs : s.Regular) {t : ℕ} {amount : Option ℤ} (hpos : ∀ y ∈ amount, 0 < y) :
    ∃ rows, StepPosts s (.repository (.refund t amount)) rows := by
  cases ht : s.transactions.get? t with
  | none =>
    have htouches : Step.touches s (.repository (.refund t amount)) = [] := by
      simp [Step.touches, MoneyCall.touches, refunds?, ht]
    refine stepPosts_nil ?_ htouches
    have hsql : handle (.selectTransaction t) s = (.ok none, s) := by simp [handle, ht]
    have hrun : (refund t amount).run (faulty fun _ => false) (s, 0) = (.ok none, (s, 1)) :=
      Prog.run_tryCatch_of_ok (Prog.run_bind_of_ok (run_sql_of_ok rfl hsql))
    rw [repository_refund_run]
    exact congrArg Prod.snd (Prog.run_of_withFaults hrun)
  | some original =>
    have hx := refundAmount_pos (hs.amount_pos t original ht) hpos
    by_cases hle : refundAmount amount original ≤ original.amount
    · obtain ⟨r, s', m, hrun, hmove⟩ := moveOwn_run .add .refund original.walletId
        (some (.transaction t)) hx s 1
      have hstep : Step.run s (.repository (.refund t amount)) = s' := by
        rw [repository_refund_run]
        exact congrArg Prod.snd (Prog.run_of_withFaults (run_refund rfl ht hle hrun))
      refine stepPosts_of_move hx (hstep ▸ hmove) ?_ (fun h => h) (by decide)
        fun _ => moved_of_refund
      simp only [Step.touches, MoneyCall.touches, refunds?, ht, hle, true_and]
      split <;> rfl
    · have htouches : Step.touches s (.repository (.refund t amount)) = [] := by
        simp [Step.touches, MoneyCall.touches, refunds?, ht, hle]
      refine stepPosts_nil ?_ htouches
      have hsql : handle (.selectTransaction t) s = (.ok (some ⟨t, original⟩), s) := by
        simp [handle, ht]
      have hrun : (refund t amount).run (faulty fun _ => false) (s, 0) =
          (.ok none, (s, 1)) := by
        refine Prog.run_tryCatch_of_ok ((Prog.run_bind_of_ok (run_sql_of_ok rfl hsql)).trans ?_)
        simp [not_le.mp hle]
      rw [repository_refund_run]
      exact congrArg Prod.snd (Prog.run_of_withFaults hrun)

end MoveOwn

/-! ### Transfers -/

section Transfer

variable {a b : ℕ} {x : ℤ}

theorem transfer_run_of_not (h : ¬s.CanTransfer a b x) :
    ((transfer a b x).run handle s).2 = s := by
  have hrun : (transfer a b x).run (faulty fun _ => false) (s, 0) = (.ok none, (s, 2)) := by
    refine Prog.run_tryCatch_of_ok ((Prog.run_bind_of_ok (run_getWallet s _ 0 a)).trans
      ((Prog.run_bind_of_ok (run_getWallet s _ 1 b)).trans ?_))
    split
    · next v w hv hw =>
        have hw : s.walletBalance? b = some w := hw
        have hlt : v.balance < x :=
          not_le.mp fun hle => h ⟨⟨v, hv, hle⟩, by rw [hw]; rfl⟩
        rw [if_pos hlt]
        rfl
    · rfl
  exact congrArg Prod.snd (Prog.run_of_withFaults hrun)

theorem Store.Regular.readable (hs : s.Regular) {id : ℕ} (h : (s.wallets.get? id).isSome) :
    ∃ w, s.walletBalance? id = some w := by
  obtain ⟨row, hrow⟩ := Option.isSome_iff_exists.mp h
  have hle : row.lockedBalance ≤ row.balance := by
    rw [hs.unlocked id row hrow]
    exact row.balance_nonneg
  exact ⟨_, by simp only [walletBalance?, hrow, hle]; rfl⟩

theorem transfer_run (hs : s.Regular) (hx : 0 < x) {v w : WalletBalance}
    (hv : s.walletBalance? a = some v) (hw : s.walletBalance? b = some w) (hle : x ≤ v.balance) :
    ∃ u sent received, (s.addTo a (-x)).walletBalance? b = some u ∧ 0 ≤ u.balance + x ∧
      SentAndReceived sent received ∧ IsMove .transfer a x sent ∧ IsMove .transfer b x received ∧
      ((transfer a b x).run handle s).2 =
        (((s.addTo a (-x)).addTo b x).log sent).log received := by
  have hdebit : 0 ≤ v.balance + BalanceOperation.subtract.signed x := by
    rw [BalanceOperation.signed]
    omega
  have hfound : ((s.addTo a (-x)).wallets.get? b).isSome := by
    rw [addTo_isSome]
    exact isSome_of_walletBalance? hw
  obtain ⟨u, hu⟩ := (hs.addTo a (-x)).readable hfound
  have hcredit : 0 ≤ u.balance + BalanceOperation.add.signed x := by
    have hnonneg := balance_nonneg_of_walletBalance? hu
    rw [BalanceOperation.signed]
    omega
  obtain ⟨_, -, hva, -⟩ := exists_of_walletBalance? hv
  obtain ⟨_, -, hwb, -⟩ := exists_of_walletBalance? hw
  refine ⟨u, (transferOut v w x hx).row v.balance (v.balance + -x),
    (transferIn w x hx).row w.balance (u.balance + x), hu, hcredit, ⟨rfl, rfl, rfl, rfl, rfl⟩,
    ⟨rfl, hva, rfl⟩, ⟨rfl, hwb, rfl⟩, ?_⟩
  have hwrite : ∃ r m, (writeTransfer v w x (v.balance + -x) (u.balance + x)).run
      (faulty fun _ => false) ((s.addTo a (-x)).addTo b x, 6) = (.ok r,
        ((((s.addTo a (-x)).addTo b x).log ((transferOut v w x hx).row v.balance
          (v.balance + -x))).log ((transferIn w x hx).row w.balance (u.balance + x)), m)) := by
    rw [writeTransfer_of_pos hx]
    exact ⟨_, _, (Prog.run_bind_of_ok (run_createTransaction_of_spared _ _ _
      (spared_none _ _))).trans (Prog.run_bind_of_ok (run_createTransaction_of_spared _ _ _
        (spared_none _ _)))⟩
  obtain ⟨r, m, hwrite⟩ := hwrite
  have hrun : (transfer a b x).run (faulty fun _ => false) (s, 0) = (.ok r,
      ((((s.addTo a (-x)).addTo b x).log ((transferOut v w x hx).row v.balance
        (v.balance + -x))).log ((transferIn w x hx).row w.balance (u.balance + x)), m)) := by
    refine Prog.run_tryCatch_of_ok ((Prog.run_bind_of_ok (run_getWallet_of_some rfl hv)).trans
      ((Prog.run_bind_of_ok (run_getWallet_of_some rfl hw)).trans ?_))
    simp only [not_lt.mpr hle]
    refine (Prog.run_bind_of_ok (run_updateBalance_of_spared hv hdebit (spared_none _ 2))).trans
      ((Prog.run_bind_of_ok (run_updateBalance_of_spared hu hcredit (spared_none _ 2))).trans ?_)
    exact hwrite
  exact congrArg Prod.snd (Prog.run_of_withFaults hrun)

theorem moved_of_sent {sent received : Transaction} (h : SentAndReceived sent received) :
    sent.moved = -sent.amount := by
  have hnone : sent.toWalletId.isNone = false := by
    rw [← Option.not_isSome, h.recipient]
    rfl
  simp [Transaction.moved, Transaction.signed, h.sentType, hnone]

theorem moved_of_received {sent received : Transaction} (h : SentAndReceived sent received) :
    received.moved = received.amount := by
  simp [Transaction.moved, Transaction.signed, h.receivedType, h.noRecipient]

theorem transfer_posts (hs : s.Regular) (hx : 0 < x) :
    ∃ rows, StepPosts s (.repository (.transfer a b x)) rows := by
  have hrun : Step.run s (.repository (.transfer a b x)) = ((transfer a b x).run handle s).2 :=
    run_bind_return s
  by_cases hcan : s.CanTransfer a b x
  · have htouches : Step.touches s (.repository (.transfer a b x)) = [a, b] := if_pos hcan
    obtain ⟨⟨v, hv, hle⟩, hreadable⟩ := hcan
    obtain ⟨w, hw⟩ := Option.isSome_iff_exists.mp hreadable
    obtain ⟨u, sent, received, hu, hpos, hpair, hsent, hreceived, htransfer⟩ :=
      transfer_run hs hx hv hw hle
    refine ⟨[sent, received], ?_, ?_, fun h => absurd trivial h,
      fun _ => .inr ⟨sent, received, rfl, hpair⟩⟩
    · have hdebit : Posts s ((s.addTo a (-x)).log sent) [sent] := by
        refine posts_addTo_log hv (by omega) hsent.wallet ?_ (hsent.amount_eq ▸ hx)
        rw [moved_of_sent hpair, hsent.amount_eq]
      have hcredit : Posts ((s.addTo a (-x)).log sent)
          ((((s.addTo a (-x)).log sent).addTo b x).log received) [received] := by
        refine posts_addTo_log (s := (s.addTo a (-x)).log sent)
          hu hpos hreceived.wallet ?_ (hreceived.amount_eq ▸ hx)
        rw [moved_of_received hpair, hreceived.amount_eq]
      rw [hrun, htransfer]
      exact hdebit.trans hcredit
    · rw [htouches]
      simp [hsent.wallet, hreceived.wallet]
  · refine stepPosts_nil ?_ (if_neg hcan)
    rw [hrun, transfer_run_of_not hcan]

end Transfer

/-! ### New wallets -/

def Store.withWallet (s : Store) (wallet : Wallet) : Store :=
  { s with wallets := s.wallets.insert wallet }

theorem withWallet_isSome (s : Store) (wallet : Wallet) (id : ℕ)
    (h : (s.wallets.get? id).isSome) : ((s.withWallet wallet).wallets.get? id).isSome := by
  obtain ⟨w, hw⟩ := Option.isSome_iff_exists.mp h
  rw [withWallet, get?_insert_of_some hw]
  rfl

theorem withWallet_balanceOf (s : Store) (wallet : Wallet) (id : ℕ) :
    (s.withWallet wallet).balanceOf id =
      s.balanceOf id + if s.wallets.size = id then wallet.balance else 0 := by
  rw [balanceOf, withWallet, get?_insert]
  by_cases hid : id = s.wallets.size
  · subst hid
    simp [balanceOf]
  · simp [balanceOf, hid, Ne.symm hid]

theorem posts_withWallet_log {wallet : Wallet} {row : Transaction} {x : ℤ}
    (hrow : IsMove .deposit s.wallets.size x row) (hx : 0 < x) (hbalance : wallet.balance = x) :
    Posts s ((s.withWallet wallet).log row) [row] where
  log := by rw [insertAll_cons, insertAll_nil]; rfl
  balances id := by
    rw [log_balanceOf, withWallet_balanceOf, hbalance, List.map_singleton, List.sum_singleton,
      hrow.wallet, moved_of_deposit hrow.type, hrow.amount_eq]
  wallets := withWallet_isSome s wallet
  owned r hr := by
    rw [List.mem_singleton.mp hr, hrow.wallet]
    simp [log, withWallet]
  positive r hr := by rwa [List.mem_singleton.mp hr, hrow.amount_eq]

/-! ### Steps -/

theorem createWallet_posts (data : WalletCreate) (now : Timestamp) :
    ∃ rows, StepPosts s (.createWallet data now) rows := by
  have hinsert : (sql (.insertWallet (data.row now))).run (faulty fun _ => false) (s, 0) =
      (.ok s.wallets.size, (s.withWallet (data.row now), 1)) := run_sql_of_ok rfl rfl
  by_cases hpos : 0 < data.initialBalance
  · obtain ⟨row, hrow, hfund⟩ : ∃ row, IsMove .deposit s.wallets.size data.initialBalance row ∧
        (fundWallet data s.wallets.size).run (faulty fun _ => false)
            (s.withWallet (data.row now), 1) =
          (.ok (), ((s.withWallet (data.row now)).log row, 3)) := by
      rw [fundWallet, if_pos hpos, transactionCreate_of_pos hpos]
      exact ⟨_, ⟨rfl, rfl, rfl⟩,
        Prog.run_bind_of_ok (run_createTransaction_of_spared _ _ _ (spared_none _ _))⟩
    have hrun : Step.run s (.createWallet data now) = (s.withWallet (data.row now)).log row :=
      congrArg Prod.snd (Prog.run_of_withFaults (Prog.run_tryCatch_of_ok
        ((Prog.run_bind_of_ok hinsert).trans ((Prog.run_bind_of_ok hfund).trans
          (run_getWallet _ _ 3 _)))))
    refine ⟨[row], ?_, ?_, fun _ r hr => ?_, fun h => absurd h (fun h => h)⟩
    · rw [hrun]
      exact posts_withWallet_log hrow hpos rfl
    · rw [List.map_singleton, hrow.wallet]
      exact (if_pos hpos).symm
    · rw [List.mem_singleton.mp hr, Transaction.IsOwn, hrow.type]
      decide
  · have hfund : (fundWallet data s.wallets.size).run (faulty fun _ => false)
        (s.withWallet (data.row now), 1) = (.ok (), (s.withWallet (data.row now), 1)) := by
      rw [fundWallet, if_neg hpos]
      rfl
    have hrun : Step.run s (.createWallet data now) = s.withWallet (data.row now) :=
      congrArg Prod.snd (Prog.run_of_withFaults (Prog.run_tryCatch_of_ok
        ((Prog.run_bind_of_ok hinsert).trans ((Prog.run_bind_of_ok hfund).trans
          (run_getWallet _ _ 1 _)))))
    refine ⟨[], ?_, (if_neg hpos).symm, by simp, fun _ => .inl rfl⟩
    rw [hrun]
    refine ⟨(insertAll_nil _).symm, fun id => ?_, withWallet_isSome s _, by simp, by simp⟩
    have hzero : data.initialBalance = 0 := le_antisymm (not_lt.mp hpos) data.initialBalance_nonneg
    rw [withWallet_balanceOf, show (data.row now).balance = 0 from hzero]
    simp

/-- **What a step of a positive amount does**: the balances after it are those before it, and
what its transactions move. -/
theorem Step.posts (hs : s.Regular) {step : Step} (hpos : step.Positive) :
    ∃ rows, StepPosts s step rows := by
  have hrepository : ∀ call : MoneyCall, call.Positive →
      ∃ rows, StepPosts s (.repository call) rows := by
    intro call hpos
    cases call with
    | deposit w x ref => exact deposit_posts hpos ref
    | withdraw w x => exact withdraw_posts hpos
    | consume w x => exact consume_posts hpos
    | refund t x => exact refund_posts hs hpos
    | transfer a b x => exact transfer_posts hs hpos
  cases step with
  | createWallet data now => exact createWallet_posts data now
  | repository call => exact hrepository call hpos
  | service call =>
    obtain ⟨rows, h⟩ := hrepository call hpos
    refine ⟨rows, ?_, h.touches, ?_, ?_⟩
    · rw [serve_run]
      exact h.posts
    · exact fun hnot => h.own fun hr => hnot (by cases call <;> exact hr)
    · exact fun htransfer => h.pair (by cases call <;> exact htransfer)

end IsaUser.Wallets
