import IsaUser.Credit.Sweep

/-!
# Lifetime Counters

An account counts what it was ever given, what was taken, and what expired. One update serves all
operations and tells them apart by the sign of the amount, so that what expires is counted as
consumed.
-/

open IsaUser.Prog List Option

namespace IsaUser.Credit

open CreditService Store

/-! ### The law -/

/-- The transactions of an account of some types, their amounts without signs added up. -/
def Store.ledgerSum (s : Store) (i : ℕ) (types : List TransactionType) : ℤ :=
  (((s.ledger i).filter fun t => t.transactionType ∈ types).map fun t => |t.amount|).sum

def creditTypes : List TransactionType := [.allocate, .transferIn]

def debitTypes : List TransactionType := [.consume, .transferOut]

/-- The counters of an account are the sums of its transactions, and make up its balance. -/
structure Store.Counts (s : Store) (i : ℕ) (a : Account) : Prop where
  allocated : a.totalAllocated = s.ledgerSum i creditTypes
  consumed : a.totalConsumed = s.ledgerSum i debitTypes
  expired : a.totalExpired = s.ledgerSum i [.expire]
  balance : a.balance = a.totalAllocated - a.totalConsumed - a.totalExpired

def Store.Counted (s : Store) : Prop := ∀ i a, s.accounts.get? i = some a → s.Counts i a

def Step.Completes (self : CreditService) (w : World) : Step → Prop
  | .request r => ((r.prog self).run handle w).1 = .ok ()
  | _ => True

def Step.ExpiresNothing (w : World) : Step → Prop
  | .request .processExpirations => w.store.getExpiringAllocations w.clock = []
  | _ => True

/-! ### The ledger -/

section Ledger

variable {s : Store} {i : ℕ} {a : Account} {t : Transaction} {x : ℤ}

theorem ledgerSum_post (types : List TransactionType) :
    (s.post t).ledgerSum i types = s.ledgerSum i types +
      if t.accountId = i ∧ t.transactionType ∈ types then |t.amount| else 0 := by
  rw [ledgerSum, ledger_post]
  by_cases hi : t.accountId = i
  · by_cases ht : t.transactionType ∈ types
    · simp [hi, ht, ledgerSum]
    · simp [hi, ht, ledgerSum]
  · simp [hi, ledgerSum]

theorem Store.Counted.openAccount (h : s.Counted) (hvalid : s.Valid) {now : Timestamp} {u : PyStr}
    {c : CreditType} {p : ExpirationPolicy} {d : ℤ} :
    (s.openAccount (freshAccount now u c p d)).Counted := by
  intro i a ha
  rw [accounts_openAccount, Table.get?_insert] at ha
  split at ha
  · next hi =>
      obtain rfl := some_inj.mp ha
      have hnone : s.ledger i = [] := by
        refine filter_eq_nil_iff.mpr fun t ht htid => ?_
        obtain ⟨k, hk⟩ := getElem?_of_mem ht
        have := hvalid.row_account k t hk
        simp only [decide_eq_true_eq] at htid
        omega
      have hzero : ∀ types, (s.openAccount (freshAccount now u c p d)).ledgerSum i types = 0 := by
        intro types
        rw [ledgerSum, ledger_openAccount, hnone]
        rfl
      exact ⟨(hzero _).symm, (hzero _).symm, (hzero _).symm, rfl⟩
  · obtain ⟨hallocated, hconsumed, hexpired, hbalance⟩ := h i a ha
    exact ⟨hallocated, hconsumed, hexpired, hbalance⟩

theorem of_mem_creditTypes {c : TransactionType} :
    c ∈ creditTypes → c ∉ debitTypes ∧ c ∉ [TransactionType.expire] := by
  cases c <;> decide

theorem of_mem_debitTypes {c : TransactionType} :
    c ∈ debitTypes → c ∉ creditTypes ∧ c ∉ [TransactionType.expire] := by
  cases c <;> decide

theorem Store.Counts.record (h : s.Counts i a) (hi : t.accountId = i) (hx : t.amount = x)
    (htype : 0 < x ∧ t.transactionType ∈ creditTypes ∨ x < 0 ∧ t.transactionType ∈ debitTypes) :
    ((s.post t).add i x).Counts i (addToBalance x a) := by
  obtain ⟨hallocated, hconsumed, hexpired, hbalance⟩ := h
  have hsum : ∀ types, ((s.post t).add i x).ledgerSum i types = s.ledgerSum i types +
      if t.transactionType ∈ types then |x| else 0 := by
    intro types
    rw [← hx]
    refine (ledgerSum_post types).trans ?_
    simp only [hi, true_and]
  rcases htype with ⟨hpos, hcredit⟩ | ⟨hneg, hdebit⟩
  · obtain ⟨hdebit, hexpire⟩ := of_mem_creditTypes hcredit
    refine ⟨?_, ?_, ?_, ?_⟩
    · rw [hsum, if_pos hcredit, abs_of_pos hpos, ← hallocated, addToBalance, if_pos hpos]
    · rw [hsum, if_neg hdebit, add_zero, ← hconsumed, addToBalance, if_neg hpos.not_gt]
    · rw [hsum, if_neg hexpire, add_zero, ← hexpired, addToBalance]
    · simp only [addToBalance]
      omega
  · obtain ⟨hcredit, hexpire⟩ := of_mem_debitTypes hdebit
    refine ⟨?_, ?_, ?_, ?_⟩
    · rw [hsum, if_neg hcredit, add_zero, ← hallocated, addToBalance, if_neg hneg.not_gt]
    · rw [hsum, if_pos hdebit, ← hconsumed, addToBalance, if_pos hneg]
    · rw [hsum, if_neg hexpire, add_zero, ← hexpired, addToBalance]
    · simp only [addToBalance, if_pos hneg, abs_of_neg hneg]
      omega

/-- **A regular entry**: a row on the ledger, with the change of balance that it announces. -/
theorem Store.Counted.record (h : s.Counted) (ha : s.accounts.get? i = some a)
    (hi : t.accountId = i) (hx : t.amount = x)
    (htype : 0 < x ∧ t.transactionType ∈ creditTypes ∨ x < 0 ∧ t.transactionType ∈ debitTypes) :
    ((s.post t).add i x).Counted := by
  intro k b hk
  rw [accounts_add, accounts_post, Table.get?_modify] at hk
  split at hk
  · next hik =>
      subst hik
      rw [ha, map_some, some_inj] at hk
      exact hk ▸ (h i a ha).record hi hx htype
  · next hik =>
      obtain ⟨hallocated, hconsumed, hexpired, hbalance⟩ := h k b hk
      have hsame : ∀ types, ((s.post t).add i x).ledgerSum k types = s.ledgerSum k types := by
        intro types
        refine (ledgerSum_post types).trans ?_
        rw [if_neg fun hc => hik (hi.symm.trans hc.1), add_zero]
      exact ⟨hallocated.trans (hsame _).symm, hconsumed.trans (hsame _).symm,
        hexpired.trans (hsame _).symm, hbalance⟩

theorem Store.Counted.of_eq {s' : Store} (h : s.Counted) (haccounts : s'.accounts = s.accounts)
    (htransactions : s'.transactions = s.transactions) : s'.Counted := by
  intro i a ha
  obtain ⟨hallocated, hconsumed, hexpired, hbalance⟩ := h i a (haccounts ▸ ha)
  have hsame : ∀ types, s'.ledgerSum i types = s.ledgerSum i types := by
    intro types
    rw [ledgerSum, ledgerSum, ledger, ledger, htransactions]
  exact ⟨hallocated.trans (hsame _).symm, hconsumed.trans (hsame _).symm,
    hexpired.trans (hsame _).symm, hbalance⟩

theorem Store.Counted.updateAllocationConsumed (h : s.Counted) (j : ℕ) (x : ℤ) :
    (s.updateAllocationConsumed j x).2.Counted := by
  rw [Store.updateAllocationConsumed]
  split
  · exact h.of_eq rfl rfl
  · exact h

end Ledger

/-! ### Operations that succeed -/

section Operations

variable {w : World} {α : Type} {s : Store}

def Tallies (p : CreditM α) (w : World) : Prop :=
  p.wp handle (fun r w' => (∃ a, r = .ok a) → w'.store.Counted) w

theorem tallies_of_error {e : CreditError} :
    (∃ a : α, (.error e : Except CreditError α) = .ok a) → s.Counted := by
  rintro ⟨a, h⟩
  cases h

theorem wp_updateAccountBalance {Q : Except CreditError α → World → Prop} {i : ℕ} {x : ℤ}
    {f : Bool → CreditM α}
    (hpaid : ∀ a, w.store.accounts.get? i = some a →
      (f true).wp handle Q (w.withStore (w.store.add i x)))
    (hrefused : (f false).wp handle Q w) :
    (ask (.updateAccountBalance i x) >>= f).wp handle Q w := by
  cases ha : w.store.accounts.get? i with
  | none =>
    have hcall : handle (.updateAccountBalance i x) w = (false, w) := by
      simp only [handle, updateAccountBalance, ha]
      rfl
    exact wp_ask_of_eq hcall hrefused
  | some a =>
    by_cases hx : 0 ≤ a.balance + x
    · exact wp_updateAccountBalance_of_le ha hx (hpaid a ha)
    · exact wp_updateAccountBalance_of_lt ha (not_le.mp hx) hrefused

theorem Store.Counted.findOrOpen (h : s.Counted) (hvalid : s.Valid) (now : Timestamp) (u : PyStr)
    (t : CreditType) (p : ExpirationPolicy) (d : ℤ) : (s.findOrOpen now u t p d).2.Counted := by
  rw [Store.findOrOpen]
  split
  · exact h
  · exact h.openAccount hvalid

theorem Store.Counted.resolveAccount {s' : Store} (h : s.Counted) (hvalid : s.Valid)
    {now : Timestamp} {u : PyStr} {t : CreditType} {row : Row Account}
    (hres : s.resolveAccount now u t = some (row, s')) : s'.Counted := by
  rw [Store.resolveAccount] at hres
  split at hres
  · obtain ⟨-, rfl⟩ := Prod.mk.inj (some_inj.mp hres)
    exact h
  · split at hres
    · have hopened := h.findOrOpen hvalid now u.strip t .fixedDays 90
      rw [some_inj.mp hres] at hopened
      exact hopened
    · cases hres

theorem createAccount_tallies (h : w.store.Counted) (hvalid : w.store.Valid) (u : PyStr)
    (t : CreditType) (p : ExpirationPolicy) (d : ℤ) : Tallies (createAccount u t p d) w :=
  wp_createAccount (fun _ _ => h.findOrOpen hvalid w.clock u.strip t p d)
    fun _ _ => tallies_of_error

theorem createCampaign_tallies (h : w.store.Counted) (request : CampaignRequest) :
    Tallies (createCampaign request) w := by
  refine wp_require_bind (fun _ => ?_) fun _ => tallies_of_error
  refine wp_require_bind (fun _ => ?_) fun _ => tallies_of_error
  refine wp_require_bind (fun _ => ?_) fun _ => tallies_of_error
  refine wp_require_bind (fun _ => ?_) fun _ => tallies_of_error
  refine wp_require_bind (fun _ => ?_) fun _ => tallies_of_error
  refine wp_require_bind (fun _ => ?_) fun _ => tallies_of_error
  exact fun _ => h.of_eq rfl rfl

theorem writeAllocation_tallies (h : w.store.Counted) {request : AllocateRequest}
    {account : Row Account} {e : Option Timestamp} (hx : 0 < request.amount) :
    Tallies (writeAllocation request account e) w := by
  refine wp_createTransaction fun t ht => ?_
  refine wp_updateAccountBalance (fun a ha => ?_) ?_
  · have hrecorded : ((w.store.post t).add account.id request.amount).Counted := by
      subst ht
      exact h.record ha rfl rfl (.inl ⟨hx, mem_cons_self⟩)
    refine wp_createAllocation fun l _ => ?_
    cases request.campaignId with
    | none => exact fun _ => hrecorded.of_eq rfl rfl
    | some c => exact wp_updateCampaignBudget fun r t _ => hrecorded.of_eq rfl rfl
  · exact wp_require_bind (fun hn => absurd hn Bool.false_ne_true) fun _ => tallies_of_error

theorem allocateCredits_tallies (self : CreditService) (h : w.store.Counted)
    (hvalid : w.store.Valid) (request : AllocateRequest) :
    Tallies (self.allocateCredits request) w := by
  refine wp_require_bind (fun hx => ?_) fun _ => tallies_of_error
  refine wp_require_bind (fun _ => ?_) fun _ => tallies_of_error
  refine wp_bind.mpr (wp_getOrCreateAccount (fun row s' hres => ?_)
    fun _ _ => tallies_of_error)
  have hopened : s'.Counted := h.resolveAccount hvalid hres
  refine wp_require_bind (fun _ => ?_) fun _ => tallies_of_error
  refine wp_bind_of_isRead (campaignOf_isRead _ _) (fun campaign => ?_) fun _ => tallies_of_error
  refine wp_bind_of_isRead (expiryOf_isRead _ _ _) (fun expiresAt => ?_) fun _ => tallies_of_error
  refine wp_tryCatch.mpr (wp_mono (writeAllocation_tallies hopened hx) fun r w' hr => ?_)
  cases r with
  | ok response => exact fun _ => hr ⟨response, rfl⟩
  | error e => exact tallies_of_error

theorem allocateFromCampaign_tallies (self : CreditService) (h : w.store.Counted)
    (hvalid : w.store.Valid) (u : PyStr) (c : ℕ) : Tallies (self.allocateFromCampaign u c) w := by
  refine wp_bind_of_isRead (validateCampaignForAllocation_isRead _ _ _ _) (fun campaign => ?_)
    fun _ => tallies_of_error
  refine wp_require_bind (fun _ => ?_) fun _ => tallies_of_error
  refine wp_bind_of_isRead (checkEligibility_isRead _ _ _) (fun _ => ?_) fun _ => tallies_of_error
  exact wp_ask (allocateCredits_tallies self h hvalid _)

theorem consumeItems_tallies {u : PyStr} {ref : Option PyStr} {plan : List PlanItem}
    (h : w.store.Counted) (hpos : ∀ item ∈ plan, 0 < item.amount) :
    Tallies (consumeItems u ref plan) w := by
  induction plan generalizing w with
  | nil => exact fun _ => h
  | cons item plan ih =>
    have hx := hpos item mem_cons_self
    have hrest : ∀ s : Store, s.Counted → ∀ t, (consumeItems u ref plan >>= fun rest =>
        (pure (t :: rest) : CreditM _)).wp handle
          (fun r w' => (∃ ts, r = .ok ts) → w'.store.Counted) (w.withStore s) := by
      intro s hs t
      refine wp_bind.mpr (wp_mono
        (ih hs fun other hother => hpos other (mem_cons_of_mem _ hother)) fun r w' hr => ?_)
      cases r with
      | ok ts => exact fun _ => hr ⟨ts, rfl⟩
      | error e => exact tallies_of_error
    refine wp_bind.mpr (wp_ask ?_)
    simp only [handle, getAccountById]
    cases ha : w.store.accounts.get? item.accountId with
    | none => exact tallies_of_error
    | some a =>
      refine wp_createTransaction fun t ht => wp_updateAccountBalance (fun b hb => ?_) ?_
      · have hrecorded : ((w.store.post t).add item.accountId (-item.amount)).Counted := by
          subst ht
          exact h.record ha rfl rfl (.inr ⟨by omega, mem_cons_self⟩)
        exact hrest _ (hrecorded.updateAllocationConsumed _ _) _
      · exact wp_require_bind (fun hn => absurd hn Bool.false_ne_true)
          fun _ => tallies_of_error

theorem consumeCredits_tallies (h : w.store.Counted) (u : PyStr) (amount : ℤ)
    (ref : Option PyStr) : Tallies (consumeCredits u amount ref) w := by
  refine wp_require_bind (fun _ => wp_ask ?_) fun _ => tallies_of_error
  refine wp_require_bind (fun _ => ?_) fun _ => tallies_of_error
  refine wp_require_bind (fun _ => ?_) fun _ => tallies_of_error
  refine wp_bind.mpr (wp_buildConsumptionPlan (fun _ => ?_) fun _ _ => tallies_of_error)
  refine wp_require_bind (fun _ => ?_) fun _ => tallies_of_error
  refine wp_bind.mpr (wp_tryCatch.mpr
    (wp_mono (consumeItems_tallies h fun item hitem => ?_) fun r w' hr => ?_))
  · obtain ⟨_, _, _, _, hpos, _⟩ := exists_of_mem_consumptionPlan hitem
    exact hpos
  · cases r with
    | ok ts => exact fun _ => hr ⟨ts, rfl⟩
    | error e => exact tallies_of_error

theorem writeTransfer_tallies (h : w.store.Counted) {request : TransferRequest}
    {fromAccount toAccount : Row Account} {n : ℕ} (hx : 0 < request.amount) :
    Tallies (writeTransfer request fromAccount toAccount n) w := by
  refine wp_createTransaction fun t ht => wp_createTransaction fun u hu => ?_
  refine wp_updateAccountBalance (fun a ha => ?_) ?_
  · have hout : ((w.store.post t).add fromAccount.id (-request.amount)).Counted := by
      subst ht
      exact h.record ha rfl rfl (.inr ⟨by omega, by simp [debitTypes]⟩)
    refine wp_updateAccountBalance (fun b hb => ?_) ?_
    · have hin : ((((w.store.post t).add fromAccount.id (-request.amount)).post u).add
          toAccount.id request.amount).Counted := by
        subst hu
        exact hout.record hb rfl rfl (.inl ⟨hx, by simp [creditTypes]⟩)
      exact wp_require_bind (fun _ _ => hin) fun _ => tallies_of_error
    · exact wp_require_bind (fun hn => absurd hn.2 Bool.false_ne_true)
        fun _ => tallies_of_error
  · refine wp_ask ?_
    exact wp_require_bind (fun hn => absurd hn.1 Bool.false_ne_true) fun _ => tallies_of_error

theorem transferCredits_tallies (self : CreditService) (h : w.store.Counted)
    (hvalid : w.store.Valid) (request : TransferRequest) :
    Tallies (self.transferCredits request) w := by
  refine wp_require_bind (fun _ => ?_) fun _ => tallies_of_error
  refine wp_require_bind (fun hx => ?_) fun _ => tallies_of_error
  refine wp_require_bind (fun _ => ?_) fun _ => tallies_of_error
  refine wp_bind.mpr (wp_validateUserIfClient (fun _ => ?_) fun _ => tallies_of_error)
  refine wp_ask ?_
  cases hfrom : w.store.getAccountByUserType request.fromUserId request.creditType with
  | none =>
    simp only [handle, hfrom]
    exact tallies_of_error
  | some fromAccount =>
    simp only [handle, hfrom]
    refine wp_require_bind (fun _ => ?_) fun _ => tallies_of_error
    refine wp_bind.mpr (wp_getOrCreateAccount (fun toAccount s' hres => ?_)
      fun _ _ => tallies_of_error)
    refine wp_ask (wp_tryCatch.mpr (wp_mono
      (writeTransfer_tallies (h.resolveAccount hvalid hres) hx) fun r w' hr => ?_))
    cases r with
    | ok response => exact fun _ => hr ⟨response, rfl⟩
    | error e => exact tallies_of_error

end Operations

/-! ### Expirations -/

section Expirations

variable {w : World} {α : Type} {i : ℕ}

def Store.Uncounted (s : Store) (i : ℕ) : Prop :=
  ∃ a, s.accounts.get? i = some a ∧ a.totalExpired < s.ledgerSum i [.expire]

theorem Store.Uncounted.not_counted (h : w.store.Uncounted i) : ¬w.store.Counted := by
  obtain ⟨a, ha, hlt⟩ := h
  intro hcounted
  exact hlt.ne (hcounted i a ha).expired

theorem Store.Uncounted.post {s : Store} (h : s.Uncounted i) (t : Transaction) :
    (s.post t).Uncounted i := by
  obtain ⟨a, ha, hlt⟩ := h
  refine ⟨a, ha, hlt.trans_le ?_⟩
  rw [ledgerSum_post]
  split
  · exact le_add_of_nonneg_right (abs_nonneg _)
  · rw [add_zero]

theorem Store.Uncounted.of_accounts {s s' : Store} (h : s.Uncounted i)
    (htransactions : s'.transactions = s.transactions)
    (haccounts : ∀ a, s.accounts.get? i = some a →
      ∃ a', s'.accounts.get? i = some a' ∧ a'.totalExpired = a.totalExpired) : s'.Uncounted i := by
  obtain ⟨a, ha, hlt⟩ := h
  obtain ⟨a', ha', heq⟩ := haccounts a ha
  refine ⟨a', ha', ?_⟩
  rw [ledgerSum, ledger, htransactions, heq]
  exact hlt

theorem Store.Uncounted.handle (h : w.store.Uncounted i) (c : Call) :
    (handle c w).2.store.Uncounted i := by
  have hsame : ∀ a, w.store.accounts.get? i = some a →
      ∃ a', w.store.accounts.get? i = some a' ∧ a'.totalExpired = a.totalExpired :=
    fun a ha => ⟨a, ha, rfl⟩
  cases c with
  | createTransaction data => exact h.post _
  | createAccount data =>
    change (w.store.createAccount w.clock data).2.Uncounted i
    rw [createAccount]
    split
    · exact h
    · exact h.of_accounts rfl fun a ha => ⟨a, Table.get?_insert_of_some ha _, rfl⟩
  | updateAccountBalance j x =>
    change (w.store.updateAccountBalance j x).2.Uncounted i
    rw [updateAccountBalance]
    split
    · split
      · refine h.of_accounts rfl fun a ha => ?_
        simp only [Table.get?_modify]
        split
        · exact ⟨addToBalance x a, by rw [ha, map_some], rfl⟩
        · exact ⟨a, ha, rfl⟩
      · exact h
    · exact h
  | updateAllocationConsumed j x =>
    change (w.store.updateAllocationConsumed j x).2.Uncounted i
    rw [Store.updateAllocationConsumed]
    split <;> exact h.of_accounts rfl hsame
  | updateAllocationExpired j x =>
    change (w.store.updateAllocationExpired j x).2.Uncounted i
    rw [updateAllocationExpired]
    split <;> exact h.of_accounts rfl hsame
  | updateCampaignBudget c x =>
    obtain ⟨t, ht⟩ := w.store.updateCampaignBudget_eq c x
    change (w.store.updateCampaignBudget c x).2.Uncounted i
    rw [ht]
    exact h.of_accounts rfl hsame
  | _ => exact h

theorem Store.Uncounted.wp (h : w.store.Uncounted i) (p : CreditM α) :
    p.wp IsaUser.Credit.handle (fun _ w' => w'.store.Uncounted i) w :=
  (only_of_forall (P := fun _ => True) p fun _ => trivial).run_keeps
    (J := fun w : World => w.store.Uncounted i) h fun c _ _ hw => hw.handle c

theorem expireAllocation_uncounted {row : Row Allocation} {a : Account} (h : w.store.Counted)
    (ha : w.store.accounts.get? row.val.accountId = some a) (hpos : 0 < row.val.available)
    (f : Option ℤ → CreditM α) :
    (expireAllocation row >>= f).wp handle
      (fun _ w' => w'.store.Uncounted row.val.accountId) w := by
  simp only [expireAllocation, if_neg (not_le.mpr hpos)]
  refine wp_ask ?_
  simp only [handle, getAccountById, ha]
  refine wp_createTransaction fun t ht => ?_
  have hposted : (w.store.post t).Uncounted row.val.accountId := by
    subst ht
    refine ⟨a, ha, ?_⟩
    rw [ledgerSum_post, (h _ a ha).expired, if_pos ⟨rfl, mem_singleton.mpr rfl⟩]
    exact lt_add_of_pos_right _ (abs_pos.mpr (neg_ne_zero.mpr hpos.ne'))
  exact Uncounted.wp (w := w.withStore (w.store.post t)) hposted _

theorem processExpirations_not_counted (h : w.store.Counted) (hvalid : w.store.Valid)
    (hdue : w.store.getExpiringAllocations w.clock ≠ []) :
    processExpirations.wp handle (fun _ w' => ¬w'.store.Counted) w := by
  obtain ⟨row, rows, hrows⟩ := exists_cons_of_ne_nil hdue
  obtain ⟨hl, -, -, hpos⟩ := mem_getExpiringAllocations.mp (hrows ▸ mem_cons_self)
  obtain ⟨a, ha⟩ : ∃ a, w.store.accounts.get? row.val.accountId = some a :=
    ⟨_, getElem?_eq_getElem (hvalid.lot_account _ _ hl)⟩
  refine wp_ask (wp_ask ?_)
  simp only [handle, hrows]
  refine wp_bind.mpr (wp_mono
    (expireAllocation_uncounted h ha hpos _) fun r w' hw => ?_)
  cases r with
  | ok expired => exact hw.not_counted
  | error e => exact hw.not_counted

end Expirations

/-! ### Runs -/

section Runs

variable {w : World} {step : Step}

theorem Step.run_counted {self : CreditService} (hw : w.store.Valid ∧ w.store.Counted)
    (hcompletes : step.Completes self w) (hnothing : step.ExpiresNothing w) :
    (step.run self w).store.Counted := by
  obtain ⟨hvalid, h⟩ := hw
  have hrun : ∀ {α : Type} {p : CreditM α}, Tallies p w → (p.void.run handle w).1 = .ok () →
      (p.void.run handle w).2.store.Counted := by
    intro α p hp hok
    have hvoid : Tallies p.void w := by
      refine wp_void.mpr (wp_mono hp fun r w' hr => ?_)
      cases r with
      | ok a => exact fun _ => hr ⟨a, rfl⟩
      | error e => exact tallies_of_error
    exact hvoid ⟨(), hok⟩
  cases step with
  | clock now => exact h
  | users known => exact h
  | request r =>
    cases r with
    | createAccount u t p d => exact hrun (createAccount_tallies h hvalid u t p d) hcompletes
    | createCampaign request => exact hrun (createCampaign_tallies h request) hcompletes
    | allocateCredits request =>
      exact hrun (allocateCredits_tallies self h hvalid request) hcompletes
    | allocateFromCampaign u c =>
      exact hrun (allocateFromCampaign_tallies self h hvalid u c) hcompletes
    | consumeCredits u x ref => exact hrun (consumeCredits_tallies h u x ref) hcompletes
    | transferCredits request =>
      exact hrun (transferCredits_tallies self h hvalid request) hcompletes
    | processExpirations =>
      refine hrun (p := processExpirations) ?_ hcompletes
      rw [Tallies, wp, run_processExpirations_of_nil hnothing]
      exact fun _ => h

theorem Step.run_not_counted {self : CreditService} (hw : w.store.Valid ∧ w.store.Counted)
    (hdue : ¬step.ExpiresNothing w) : ¬(step.run self w).store.Counted := by
  cases step with
  | clock now => exact absurd trivial hdue
  | users known => exact absurd trivial hdue
  | request r =>
    cases r with
    | processExpirations =>
      have hrun : (Request.processExpirations.prog self).wp handle
          (fun _ w' => ¬w'.store.Counted) w :=
        wp_void.mpr (processExpirations_not_counted hw.2 hw.1 hdue)
      exact hrun
    | _ => exact absurd trivial hdue

/-- **Lifetime counters.** In a run of operations that succeed, the counters of all accounts are the
sums of their transactions in every state, just if no expiration run finds anything to expire. -/
theorem counted_iff (self : CreditService) (now : Timestamp) (users : PyStr → Option User)
    (steps : List Step)
    (hcompletes : AllSteps (Step.run self) (Step.Completes self) (World.start now users) steps) :
    Always (Step.run self) (fun w => w.store.Counted) (World.start now users) steps ↔
      AllSteps (Step.run self) (fun w step => step.ExpiresNothing w) (World.start now users)
        steps := by
  have hempty : empty.Counted := fun i a ha => nomatch (Table.get?_empty i).symm.trans ha
  exact hcompletes.always_iff (J := fun w : World => w.store.Valid ∧ w.store.Counted)
    ⟨valid_empty, hempty⟩ (fun _ hw => hw.2)
    (fun _ step hw hcompletes hnothing =>
      ⟨step.run_valid self hw.1, Step.run_counted hw hcompletes hnothing⟩)
    fun _ _ hw _ hdue => Step.run_not_counted hw hdue

def aliceExpires : List Step :=
  [.request (.allocateCredits
      { userId := ['a'], amount := 100, creditType := .bonus, expiresAt := some 10 }),
    .clock 10, .request .processExpirations]

/-- Her credits have expired, and count as consumed. -/
theorem not_counted_aliceExpires :
    AllSteps (Step.run ⟨false⟩) (Step.Completes ⟨false⟩) (World.start 0 fun _ => none)
        aliceExpires ∧
      ¬Always (Step.run ⟨false⟩) (fun w => w.store.Counted) (World.start 0 fun _ => none)
        aliceExpires := by
  refine ⟨⟨rfl, trivial, rfl, trivial⟩, fun h => ?_⟩
  have hexpired := (h.exec 0 _ rfl).expired
  exact absurd hexpired (by decide)

/-- As long as nothing has expired, the counters are right. -/
theorem counted_aliceAllocates :
    Always (Step.run ⟨false⟩) (fun w => w.store.Counted) (World.start 0 fun _ => none)
        (aliceExpires.take 2) ↔
      AllSteps (Step.run ⟨false⟩) (fun w step => step.ExpiresNothing w)
        (World.start 0 fun _ => none) (aliceExpires.take 2) :=
  counted_iff ⟨false⟩ 0 (fun _ => none) (aliceExpires.take 2) ⟨rfl, trivial, trivial⟩

end Runs

end IsaUser.Credit
