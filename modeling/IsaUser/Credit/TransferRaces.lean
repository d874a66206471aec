import IsaUser.Credit.Concurrent

/-!
# Transfers and Consumptions at the Same Time

A transfer reads the sender's balance, writes two ledger rows, debits the sender and
credits the recipient, in five separate steps. The debit is guarded: another request may
have drained the account since the balance was read, and then it is refused. The credit
runs all the same, and only afterwards does the transfer look at the two answers and fail.
-/

open IsaUser.Prog

namespace IsaUser.Credit

open CreditService

/-! ### What the calls of a request did to the balances -/

def World.totalBalance (w : World) : ℤ := w.store.accounts.sumBy (·.balance)

/-- What a call added to the balance of an account: the delta of a balance update that the
guard let through. -/
def appliedTo (account : ℕ) (e : World × Call) : ℤ :=
  match e.2 with
  | .updateAccountBalance i δ =>
    if i = account ∧ (e.1.store.updateAccountBalance i δ).1 = true then δ else 0
  | _ => 0

def applied (e : World × Call) : ℤ :=
  match e.2 with
  | .updateAccountBalance i δ => if (e.1.store.updateAccountBalance i δ).1 = true then δ else 0
  | _ => 0

def CreditService.Request.isTransfer : Request → Bool
  | transferCredits _ => true
  | _ => false

def CreditService.Request.isConsumption : Request → Bool
  | consumeCredits _ _ _ => true
  | _ => false

/-! ### The law -/

section Law

variable {ι : Type} [Fintype ι] (w : World) (requests : ι → Request) (pool : CreditPool ι)

/-- What a run of transfers and consumptions that started in the world `w` has to do. -/
structure Conserves : Prop where
  /-- When no transfer is under way, the balances have fallen by exactly what the
  consumptions took. -/
  total : (∀ i, (requests i).isTransfer → pool.past i = [] ∨ (pool.progs i).Ended) →
    pool.state.totalBalance = w.totalBalance +
      ∑ i, if (requests i).isConsumption then tally applied (pool.past i) else 0
  /-- A transfer that failed has changed no balance. -/
  failed : ∀ i m r, (requests i).isTransfer →
    pool.progs i = .raise (.creditTransferFailed m r) →
      ∀ account, tally (appliedTo account) (pool.past i) = 0

/-- No debit of a transfer finds a balance below its amount. -/
def TransfersPaid (requests : ι → Request) (i : ι) (w : World) (c : Call) : Prop :=
  (requests i).isTransfer → ∀ u ∈ c.balanceUpdate?, u.2 < 0 →
    ∀ a ∈ w.store.accounts.get? u.1, 0 ≤ a.balance + u.2

instance (requests : ι → Request) (i : ι) (w : World) (c : Call) :
    Decidable (TransfersPaid requests i w c) :=
  inferInstanceAs (Decidable ((requests i).isTransfer → ∀ u ∈ c.balanceUpdate?, _))

end Law

/-! ### Calls that change no balance -/

def Call.Idle : Call → Prop
  | updateAccountBalance _ _ => False
  | createAccount data => data.balance = 0
  | _ => True

theorem Call.idle_of_isRead {c : Call} (hc : c.IsRead) : c.Idle := by
  cases c <;> trivial

theorem Call.opensEmpty_of_idle {c : Call} (hc : c.Idle) : c.OpensEmpty := by
  cases c with
  | createAccount data => exact hc
  | _ => trivial

theorem totalBalance_handle {c : Call} {w : World} (hc : c.OpensEmpty) :
    (handle c w).2.totalBalance = w.totalBalance + applied (w, c) := by
  cases c with
  | createAccount data =>
    have hzero : data.balance = 0 := hc
    simp only [handle, Store.createAccount, applied, World.totalBalance]
    split <;> simp [hzero]
  | updateAccountBalance i δ =>
    simp only [handle, Store.updateAccountBalance, applied, World.totalBalance]
    split
    · next a ha =>
        split
        · simp [Table.sumBy_modify ha, Store.addToBalance]
        · simp
    · simp
  | updateAllocationConsumed j x =>
    simp only [handle, Store.updateAllocationConsumed, applied, World.totalBalance]
    split <;> simp
  | updateAllocationExpired j x =>
    simp only [handle, Store.updateAllocationExpired, applied, World.totalBalance]
    split <;> simp
  | updateCampaignBudget k x =>
    simp only [handle, Store.updateCampaignBudget, applied, World.totalBalance]
    split
    · split <;> simp
    · simp
  | _ => exact (add_zero _).symm

def Quiet (past : Past CreditApi World) : Prop := ∀ e ∈ past, e.2.Idle

section Quiet

variable {past past' : Past CreditApi World} {w : World} {c : Call}

theorem quiet_nil : Quiet [] := by simp [Quiet]

theorem Quiet.cons (h : Quiet past) (hc : c.Idle) : Quiet ((w, c) :: past) := by
  intro e he
  rcases List.mem_cons.mp he with rfl | he
  · exact hc
  · exact h e he

theorem applied_of_idle (hc : c.Idle) : applied (w, c) = 0 := by
  cases c with
  | updateAccountBalance => exact absurd hc id
  | _ => rfl

theorem appliedTo_of_idle (hc : c.Idle) (account : ℕ) : appliedTo account (w, c) = 0 := by
  cases c with
  | updateAccountBalance => exact absurd hc id
  | _ => rfl

@[simp] theorem applied_createTransaction (data : Transaction) :
    applied (w, .createTransaction data) = 0 := rfl

theorem Quiet.applied (h : Quiet past) : tally applied past = 0 :=
  tally_eq_zero fun e he => applied_of_idle (h e he)

theorem Quiet.appliedTo (h : Quiet past) (account : ℕ) :
    tally (appliedTo account) past = 0 :=
  tally_eq_zero fun e he => appliedTo_of_idle (h e he) account

end Quiet

/-! ### A transfer that is paid -/

section Transfer

variable {A : Past CreditApi World → World → Call → Prop} {past : Past CreditApi World}
  {w : World}

/-- How a transfer ends: having changed no balance, or having added nothing in all. -/
def TransferEnds {α : Type} (r : Except CreditError α) (past : Past CreditApi World) : Prop :=
  match r with
  | .ok _ => tally applied past = 0
  | .error _ => Quiet past

/-- The promise of a request: it opens accounts without a balance. -/
abbrev promise (_ : Past CreditApi World) (_ : World) (c : Call) : Prop := c.OpensEmpty

theorem validateUserIfClient_idle (self : CreditService) (u : PyStr) (e : CreditError) :
    (self.validateUserIfClient u e).Only Call.Idle :=
  (validateUserIfClient_isRead self u e).mono fun _ => Call.idle_of_isRead

theorem lt_size_of_createAccount {data : Account} {row : Row Account}
    (h : (handle (.createAccount data) w).1 = .ok row) :
    row.id < (handle (.createAccount data) w).2.store.accounts.size := by
  simp only [handle, Store.createAccount] at h ⊢
  split at h
  · cases h
  · next hnone =>
      cases h
      simp

theorem lt_size_of_getAccountByUserType {s : Store} {u : PyStr} {t : CreditType}
    {row : Row Account} (h : s.getAccountByUserType u t = some row) :
    row.id < s.accounts.size :=
  Table.lt_size_of_get? (Store.get?_of_getAccountByUserType h)

theorem createAccount_sound (u : PyStr) (t : CreditType) (p : ExpirationPolicy) (d : ℤ)
    (hpast : Quiet past) :
    (createAccount u t p d).Sound creditTerms handle A promise
      (fun r past w => Quiet past ∧ ∀ row, r = .ok row → row.id < w.store.accounts.size)
      past w := by
  have hfail : ∀ {past : Past CreditApi World} (e : CreditError) (w' : World), Quiet past →
      Quiet past ∧ ∀ row : Row Account, Except.error e = Except.ok row →
        row.id < w'.store.accounts.size :=
    fun e w' h => ⟨h, fun row hrow => by cases hrow⟩
  refine sound_require_bind (fun _ => ?_) fun _ w' _ _ => hfail _ w' hpast
  refine sound_require_bind (fun _ => ?_) fun _ w' _ _ => hfail _ w' hpast
  refine sound_require_bind (fun _ => ?_) fun _ w' _ _ => hfail _ w' hpast
  refine sound_require_bind (fun _ => ?_) fun _ w' _ _ => hfail _ w' hpast
  refine sound_ask fun w₁ _ _ => ⟨trivial, fun _ => ?_⟩
  have hpast₁ : Quiet ((w₁, .getAccountByUserType u.strip t) :: past) := hpast.cons trivial
  simp only [handle]
  cases hfind : w₁.store.getAccountByUserType u.strip t with
  | some row =>
    refine sound_ret fun w' hrel _ => ⟨hpast₁, ?_⟩
    rintro _ ⟨⟩
    exact (lt_size_of_getAccountByUserType hfind).trans_le hrel
  | none =>
    refine sound_ask fun w₂ _ _ => ⟨rfl, fun _ => ?_⟩
    have hpast₂ : Quiet ((w₂, .createAccount (Store.freshAccount 0 u.strip t p d)) ::
        (w₁, .getAccountByUserType u.strip t) :: past) := hpast₁.cons rfl
    split
    · next row hcreated =>
        refine sound_ret fun w' hrel _ => ⟨hpast₂, ?_⟩
        rintro _ ⟨⟩
        exact (lt_size_of_createAccount hcreated).trans_le hrel
    · exact sound_raise fun w' _ _ => hfail _ w' hpast₂

theorem getOrCreateAccount_sound (u : PyStr) (t : CreditType) (hpast : Quiet past) :
    (getOrCreateAccount u t).Sound creditTerms handle A promise
      (fun r past w => Quiet past ∧ ∀ row, r = .ok row → row.id < w.store.accounts.size)
      past w := by
  refine sound_ask fun w₁ _ _ => ⟨trivial, fun _ => ?_⟩
  have hpast₁ : Quiet ((w₁, .getAccountByUserType u t) :: past) := hpast.cons trivial
  simp only [handle]
  cases hfind : w₁.store.getAccountByUserType u t with
  | some row =>
    refine sound_ret fun w' hrel _ => ⟨hpast₁, ?_⟩
    rintro _ ⟨⟩
    exact (lt_size_of_getAccountByUserType hfind).trans_le hrel
  | none => exact createAccount_sound _ _ _ _ hpast₁

theorem handle_update_of_le {i : ℕ} {δ : ℤ} {a : Account}
    (ha : w.store.accounts.get? i = some a) (hx : 0 ≤ a.balance + δ) :
    (handle (.updateAccountBalance i δ) w).1 = true ∧
      applied (w, .updateAccountBalance i δ) = δ := by
  have h := Store.updateAccountBalance_of_le ha hx
  simp [handle, applied, h]

theorem exists_get?_of_lt {s : Store} {i : ℕ} (h : i < s.accounts.size) :
    ∃ a, s.accounts.get? i = some a :=
  ⟨_, List.getElem?_eq_getElem h⟩

theorem writeTransfer_sound {request : TransferRequest} {fromAccount toAccount : Row Account}
    {n : ℕ} (hx : 0 < request.amount) (hpast : Quiet past)
    (hfrom : fromAccount.id < w.store.accounts.size)
    (hto : toAccount.id < w.store.accounts.size)
    (hpaid : ∀ past w, A past w (.updateAccountBalance fromAccount.id (-request.amount)) →
      ∀ a ∈ w.store.accounts.get? fromAccount.id, 0 ≤ a.balance + -request.amount) :
    (writeTransfer request fromAccount toAccount n).Sound creditTerms handle A promise
      (fun r past _ => TransferEnds r past) past w := by
  refine sound_ask fun w₁ h₁ _ => ⟨trivial, fun _ => ?_⟩
  refine sound_ask fun w₂ h₂ _ => ⟨trivial, fun _ => ?_⟩
  refine sound_ask fun w₃ h₃ hi₃ => ⟨trivial, fun hA => ?_⟩
  have hsize : w.store.accounts.size ≤ w₃.store.accounts.size :=
    le_trans h₁ (le_trans h₂ h₃)
  obtain ⟨a, ha⟩ := exists_get?_of_lt (hfrom.trans_le hsize)
  obtain ⟨hdebit, hdebited⟩ := handle_update_of_le ha (hpaid _ _ hA a ha)
  refine sound_ask fun w₄ h₄ hi₄ => ⟨trivial, fun _ => ?_⟩
  have hkept := (handle_keeps (c := .updateAccountBalance fromAccount.id (-request.amount)) hi₃
    trivial).2
  obtain ⟨b, hb⟩ := exists_get?_of_lt (hto.trans_le (hsize.trans (le_trans hkept h₄)))
  have hnonneg := hi₄ _ b hb
  obtain ⟨hcredit, hcredited⟩ := handle_update_of_le hb
    (show 0 ≤ b.balance + request.amount by omega)
  refine sound_require_bind (fun _ => sound_ret fun w' _ _ => ?_)
    fun hn => absurd ⟨hdebit, hcredit⟩ hn
  rw [TransferEnds, tally_cons, tally_cons, tally_cons, tally_cons,
    hpast.applied, applied_createTransaction, applied_createTransaction]
  omega

theorem transferCredits_sound (self : CreditService) (request : TransferRequest) (w : World)
    (hpaid : ∀ past w account δ, A past w (.updateAccountBalance account δ) → δ < 0 →
      ∀ a ∈ w.store.accounts.get? account, 0 ≤ a.balance + δ) :
    (self.transferCredits request).Sound creditTerms handle A promise
      (fun r past _ => TransferEnds r past) [] w := by
  refine sound_require_bind (fun _ => ?_) fun _ _ _ _ => quiet_nil
  refine sound_require_bind (fun hx => ?_) fun _ _ _ _ => quiet_nil
  refine sound_require_bind (fun _ => ?_) fun _ _ _ _ => quiet_nil
  refine (validateUserIfClient_idle _ _ _).sound_bind quiet_nil
    (fun c hc _ _ hpast => ⟨Call.opensEmpty_of_idle hc, hpast.cons hc⟩)
    (fun _ past w hpast => ?_) fun _ past w hpast => hpast
  refine sound_ask fun w₁ _ _ => ⟨trivial, fun _ => ?_⟩
  have hpast₁ : Quiet ((w₁, .getAccountByUserType request.fromUserId request.creditType) ::
      past) := hpast.cons trivial
  simp only [handle]
  cases hfind : w₁.store.getAccountByUserType request.fromUserId request.creditType with
  | none => exact sound_raise fun _ _ _ => hpast₁
  | some fromAccount =>
    refine sound_require_bind (fun _ => ?_) fun _ _ _ _ => hpast₁
    have hfrom := lt_size_of_getAccountByUserType hfind
    have hfound := (getOrCreateAccount_sound (A := A) (w := w₁) request.toUserId
      request.creditType hpast₁).frame (P := fun w => fromAccount.id < w.store.accounts.size)
        hfrom (fun hrel hlt => lt_of_lt_of_le hlt hrel)
        fun _ _ _ hi hG => (handle_keeps hi hG).2
    refine hfound.bind ?_ ?_
    · rintro toAccount past w ⟨⟨hpast, hto⟩, hfrom⟩
      refine sound_ask fun w₂ h₂ _ => ⟨trivial, fun _ => ?_⟩
      have hwrites := writeTransfer_sound (A := A) (w := w₂) (n := w₂.nextTransferId) hx
        (hpast.cons (w := w₂) (c := .newTransferId) trivial) (hfrom.trans_le h₂)
        ((hto _ rfl).trans_le h₂) fun past w hA => hpaid past w _ _ hA (by omega)
      exact hwrites.tryCatch (fun _ _ _ h => h) fun e past w h =>
        sound_raise fun _ _ _ => h
    · rintro e past w ⟨⟨hpast, -⟩, -⟩
      exact hpast

end Transfer

/-! ### Runs -/

section Runs

variable {ι : Type} {self : CreditService} {requests : ι → Request}

def EndsWell (r : Request) (result : Except CreditError Unit) (past : Past CreditApi World)
    (_ : World) : Prop :=
  r.isTransfer → TransferEnds result past

theorem prog_sound (hrequests : ∀ i, (requests i).isTransfer ∨ (requests i).isConsumption)
    (w : World) (i : ι) :
    ((requests i).prog self).Sound creditTerms handle (fun _ => TransfersPaid requests i) promise
      (EndsWell (requests i)) [] w := by
  cases hr : requests i with
  | transferCredits transfer =>
    refine sound_void (Sound.mono (transferCredits_sound self transfer w ?_) ?_)
    · intro past w account δ hA
      exact hA (by rw [hr]; rfl) (account, δ) rfl
    · rintro (e | response) past w h _
      · exact h
      · exact h
  | consumeCredits u x ref =>
    refine sound_void (Sound.mono (Sound.mono_promise
      (consumeCredits_sound u x ref) fun _ _ _ h => Call.opensEmpty_of_debits h) ?_)
    intro _ _ _ _ h
    cases h
  | _ =>
    have h := hrequests i
    simp [hr, Request.isTransfer, Request.isConsumption] at h

/-- **Conservation under concurrency.** Any number of transfers and consumptions run at
the same time, from a world without negative balances, in any order of their calls and
with time passing in between. If no debit of a transfer finds a balance below its amount,
then the balances fall by exactly what the consumptions took, whenever no transfer is
under way, and a transfer that fails has changed no balance. -/
theorem conserves_of_paid [Fintype ι] [DecidableEq ι] {w : World} (hw : w.Solvent)
    (hrequests : ∀ i, (requests i).isTransfer ∨ (requests i).isConsumption)
    {pool : CreditPool ι}
    (hpool : Pool.Reach handle Surroundings (fun i _ => TransfersPaid requests i)
      (CreditPool.start self w requests) pool) : Conserves w requests pool := by
  have hall : Pool.AllSound creditTerms handle (fun i _ => TransfersPaid requests i)
      (fun _ => promise)
      (fun i => EndsWell (requests i)) (CreditPool.start self w requests) :=
    ⟨hw, prog_sound hrequests w⟩
  have hkeeps : ∀ (i : ι) (past : Past CreditApi World) (w : World) (c : Call), w.Solvent →
      TransfersPaid requests i w c → promise past w c →
      (handle c w).2.Solvent ∧ creditTerms.rel w (handle c w).2 :=
    fun _ _ _ _ hw _ hG => handle_keeps hw hG
  have henv : ∀ w w' : World, w.Solvent → Surroundings w w' →
      w'.Solvent ∧ creditTerms.rel w w' := fun _ _ hw h => surroundings_keep hw h
  have hend := hpool.sound hall (fun _ _ _ _ h => h) hkeeps henv
  have htotal := hpool.measure_eq hall (fun _ _ _ _ h => h) hkeeps henv World.totalBalance applied
    (fun s s' h => by rw [World.totalBalance, show s'.store = s.store from h]; rfl)
    fun _ _ _ _ _ _ hG => totalBalance_handle hG
  constructor
  · intro hidle
    rw [htotal]
    congr 1
    refine Finset.sum_congr rfl fun i _ => ?_
    rcases hrequests i with htransfer | hconsumption
    · have hnot : (requests i).isConsumption = false := by
        cases hr : requests i <;> simp_all [Request.isTransfer, Request.isConsumption]
      rw [if_neg (by simp [hnot])]
      rcases hidle i htransfer with hnil | hended
      · rw [hnil, tally_nil]
      · cases hprog : pool.progs i with
        | ret a => exact hend.of_ret hprog htransfer
        | raise e => exact Quiet.applied (hend.of_raise hprog htransfer)
        | call c k =>
          rw [hprog] at hended
          exact absurd hended id
    · rw [if_pos hconsumption]
  · intro i m r htransfer hraise account
    exact Quiet.appliedTo (hend.of_raise hraise htransfer) account

end Runs

/-! ### A race -/

def aliceWorld : World :=
  exec (Step.run ⟨false⟩) (World.start 0 fun _ => none)
    [.request (.allocateCredits { userId := ['a'], amount := 100, creditType := .bonus })]

def drainRequests : Fin 2 → Request
  | 0 => .transferCredits
      { fromUserId := ['a'], toUserId := ['b'], amount := 100, creditType := .bonus }
  | 1 => .consumeCredits ['a'] 100 none

def drainedPool : CreditPool (Fin 2) :=
  (CreditPool.start ⟨false⟩ aliceWorld drainRequests).schedule handle
    [0, 0, 0, 0, 0, 0, 0, 1, 1, 1, 1, 1, 1, 0, 0]

/-- The transfer fails, but Bob keeps the 100 credits that Alice has consumed. -/
theorem not_conserves_drained :
    Pool.Reach handle Surroundings Pool.anyCall
        (CreditPool.start ⟨false⟩ aliceWorld drainRequests) drainedPool ∧
      ¬Conserves aliceWorld drainRequests drainedPool := by
  refine ⟨Pool.Reach.start.schedule (Pool.permitted_anyCall _ _ _), fun h => ?_⟩
  exact absurd (h.total (by decide)) (by decide)

def shareRequests : Fin 2 → Request
  | 0 => .transferCredits
      { fromUserId := ['a'], toUserId := ['b'], amount := 60, creditType := .bonus }
  | 1 => .consumeCredits ['a'] 40 none

/-- In the same order of calls there is enough for both. -/
theorem conserves_shared :
    Conserves aliceWorld shareRequests
      ((CreditPool.start ⟨false⟩ aliceWorld shareRequests).schedule handle
        [0, 0, 0, 0, 0, 0, 0, 1, 1, 1, 1, 1, 1, 0, 0]) :=
  conserves_of_paid (solvent_exec _ _ _ _) (by decide) (Pool.Reach.start.schedule (by decide))

end IsaUser.Credit
