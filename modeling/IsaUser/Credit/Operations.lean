import IsaUser.Credit.Plan
import IsaUser.Lib.Runs

/-!
# What the Credit Service Does to the Books

Run with nobody else acting on the store, every method of the credit service makes some
moves on the books. For each method there is a theorem naming the kinds of moves it can
make, `createAccount_makes` to `transferCredits_makes`, and above it the rule of each of
its parts, which says exactly what a run of that part answers and leaves behind.

The two methods that debit accounts according to a plan, consumption and expiration, make
only regular moves when the balances cover the plan; `planDebits` and `expirationDebits`
are the plans as debits.

`Step` lists the requests, `Step.run` their effect, and `exec (Step.run self)` the state
after any number of them, with the clock and the users changing in between.
-/

open IsaUser.Prog List

namespace IsaUser.Credit

open CreditService Table Store

/-! ### Calls -/

@[simp] theorem withStore_store (w : World) (s : Store) : (w.withStore s).store = s := rfl

@[simp] theorem withStore_clock (w : World) (s : Store) : (w.withStore s).clock = w.clock := rfl

@[simp] theorem withStore_users (w : World) (s : Store) : (w.withStore s).users = w.users := rfl

@[simp] theorem withStore_withStore (w : World) (s s' : Store) :
    (w.withStore s).withStore s' = w.withStore s' := rfl

@[simp] theorem withStore_self (w : World) : w.withStore w.store = w := rfl

def Call.IsRead : Call → Prop
  | now | getUser _ | getAccountById _ | getAccountByUserType _ _ | getActiveAccounts _
  | getExpiringAllocations _ | getAvailableCreditsFifo _ | getCampaignById _
  | getUserCampaignAllocationsCount _ _ => True
  | _ => False

theorem handle_of_isRead {c : Call} (hc : c.IsRead) (w : World) : (handle c w).2 = w := by
  cases c <;> first | rfl | exact absurd hc id

theorem wp_of_isRead {α : Type} {p : CreditM α} {Q : Except CreditError α → World → Prop}
    {w : World} (hp : p.Only Call.IsRead) (hQ : ∀ r, Q r w) : p.wp handle Q w := by
  have hw : (p.run handle w).2 = w :=
    run_snd_of_only (hp.mono fun c hc => handle_of_isRead hc) w
  rw [wp, hw]
  exact hQ _

theorem wp_bind_of_isRead {α β : Type} {p : CreditM α} {f : α → CreditM β}
    {Q : Except CreditError β → World → Prop} {w : World} (hp : p.Only Call.IsRead)
    (hok : ∀ a, (f a).wp handle Q w) (herror : ∀ e, Q (.error e) w) :
    (p >>= f).wp handle Q w := by
  refine wp_bind.mpr (wp_of_isRead hp fun r => ?_)
  cases r with
  | ok a => exact hok a
  | error e => exact herror e

section Rules

variable {α : Type} {Q : Except CreditError α → World → Prop} {w : World} {s : Store}
  {i j : ℕ} {a : Account} {x : ℤ} {f : Bool → CreditM α} {l : Allocation}

theorem only_ask_bind {P : Call → Prop} {c : Call} {f : c.Reply → CreditM α} (hc : P c)
    (hf : ∀ r, (f r).Only P) : (ask c >>= f).Only P := ⟨hc, hf⟩

theorem wp_ask {c : Call} {f : c.Reply → CreditM α}
    (hf : (f (handle c w).1).wp handle Q (handle c w).2) :
    (ask c >>= f).wp handle Q w := hf

theorem wp_ask_of_eq {c : Call} {f : c.Reply → CreditM α} {r : c.Reply} {w' : World}
    (hc : handle c w = (r, w')) (hf : (f r).wp handle Q w') :
    (ask c >>= f).wp handle Q w := by
  refine wp_ask ?_
  rw [hc]
  exact hf

theorem wp_createTransaction {data : Transaction} {f : Row Transaction → CreditM α}
    (hf : ∀ t : Transaction, t = { data with createdAt := w.clock } →
      (f ⟨w.store.transactions.size, t⟩).wp handle Q (w.withStore (w.store.post t))) :
    (ask (.createTransaction data) >>= f).wp handle Q w := hf _ rfl

theorem wp_createAllocation {data : Allocation} {f : Row Allocation → CreditM α}
    (hf : ∀ l : Allocation, l = { data with createdAt := w.clock } →
      (f ⟨w.store.allocations.size, l⟩).wp handle Q (w.withStore (w.store.grant l))) :
    (ask (.createAllocation data) >>= f).wp handle Q w := hf _ rfl

theorem Store.updateAccountBalance_of_le (ha : s.accounts.get? i = some a)
    (hx : 0 ≤ a.balance + x) : s.updateAccountBalance i x = (true, s.add i x) := by
  simp only [updateAccountBalance, ha, if_pos hx]
  rfl

theorem Store.updateAccountBalance_of_lt (ha : s.accounts.get? i = some a)
    (hx : a.balance + x < 0) : s.updateAccountBalance i x = (false, s) := by
  simp only [updateAccountBalance, ha, if_neg (not_le.mpr hx)]

theorem Store.updateAllocationConsumed_of_some (hl : s.allocations.get? j = some l) (x : ℤ) :
    s.updateAllocationConsumed j x = (true, s.consumeLot j x) := by
  rw [updateAllocationConsumed, hl]
  rfl

theorem Store.updateAllocationExpired_of_some (hl : s.allocations.get? j = some l) (x : ℤ) :
    s.updateAllocationExpired j x = (true, s.expireLot j x) := by
  rw [updateAllocationExpired, hl]
  rfl

theorem Store.updateCampaignBudget_eq (s : Store) (c : ℕ) (x : ℤ) :
    ∃ t, (s.updateCampaignBudget c x).2 = s.withCampaigns t := by
  rw [updateCampaignBudget]
  split
  · split
    · exact ⟨_, rfl⟩
    · exact ⟨s.campaigns, rfl⟩
  · exact ⟨s.campaigns, rfl⟩

theorem wp_updateAccountBalance_of_le (ha : w.store.accounts.get? i = some a)
    (hx : 0 ≤ a.balance + x) (hf : (f true).wp handle Q (w.withStore (w.store.add i x))) :
    (ask (.updateAccountBalance i x) >>= f).wp handle Q w :=
  wp_ask_of_eq (congrArg (Prod.map id w.withStore) (updateAccountBalance_of_le ha hx)) hf

theorem wp_updateAccountBalance_of_lt (ha : w.store.accounts.get? i = some a)
    (hx : a.balance + x < 0) (hf : (f false).wp handle Q w) :
    (ask (.updateAccountBalance i x) >>= f).wp handle Q w :=
  wp_ask_of_eq (congrArg (Prod.map id w.withStore) (updateAccountBalance_of_lt ha hx)) hf

theorem wp_updateAllocationConsumed (hl : w.store.allocations.get? j = some l)
    (hf : (f true).wp handle Q (w.withStore (w.store.consumeLot j x))) :
    (ask (.updateAllocationConsumed j x) >>= f).wp handle Q w :=
  wp_ask_of_eq (congrArg (Prod.map id w.withStore)
    (updateAllocationConsumed_of_some hl x)) hf

theorem wp_updateAllocationExpired (hl : w.store.allocations.get? j = some l)
    (hf : (f true).wp handle Q (w.withStore (w.store.expireLot j x))) :
    (ask (.updateAllocationExpired j x) >>= f).wp handle Q w :=
  wp_ask_of_eq (congrArg (Prod.map id w.withStore)
    (updateAllocationExpired_of_some hl x)) hf

theorem wp_updateCampaignBudget {c : ℕ}
    (hf : ∀ r t, (f r).wp handle Q (w.withStore (w.store.withCampaigns t))) :
    (ask (.updateCampaignBudget c x) >>= f).wp handle Q w := by
  obtain ⟨t, ht⟩ := w.store.updateCampaignBudget_eq c x
  have hcall : handle (.updateCampaignBudget c x) w =
      ((w.store.updateCampaignBudget c x).1, w.withStore (w.store.withCampaigns t)) := by
    rw [← ht]
    rfl
  exact wp_ask_of_eq hcall (hf _ t)

end Rules

/-! ### Reading methods -/

theorem validateUser_isRead (u : PyStr) : (validateUser u).Only Call.IsRead := by
  refine only_ask_bind trivial fun r => ?_
  cases r <;> trivial

theorem validateUserIfClient_isRead (self : CreditService) (u : PyStr) (e : CreditError) :
    (self.validateUserIfClient u e).Only Call.IsRead := by
  rw [validateUserIfClient]
  split
  · exact Only.bind (validateUser_isRead u) fun _ => only_require
  · trivial

theorem validateCampaignForAllocation_isRead (self : CreditService) (c : ℕ) (u : PyStr)
    (x : ℤ) : (self.validateCampaignForAllocation c u x).Only Call.IsRead := by
  refine only_ask_bind trivial fun r => ?_
  cases r with
  | none => trivial
  | some row =>
    refine only_ask_bind trivial fun now => ?_
    refine Only.bind only_require fun _ => ?_
    refine Only.bind only_require fun _ => ?_
    refine Only.bind only_require fun _ => ?_
    refine Only.bind only_require fun _ => ?_
    refine only_ask_bind trivial fun count => ?_
    refine Only.bind only_require fun _ => ?_
    exact Only.bind (validateUserIfClient_isRead _ _ _) fun _ => trivial

theorem checkEligibility_isRead (self : CreditService) (u : PyStr) (tiers : List PyStr) :
    (self.checkEligibility u tiers).Only Call.IsRead := by
  rw [checkEligibility]
  split
  · exact only_ask_bind trivial fun _ => only_require
  · trivial

theorem campaignOf_isRead (self : CreditService) (request : AllocateRequest) :
    (self.campaignOf request).Only Call.IsRead := by
  rw [campaignOf]
  split
  · exact Only.bind (validateCampaignForAllocation_isRead _ _ _ _) fun _ => trivial
  · trivial

theorem expiryOf_isRead (request : AllocateRequest) (a : Account) (c : Option Campaign) :
    (expiryOf request a c).Only Call.IsRead := by
  rw [expiryOf]
  split
  · trivial
  · exact only_ask_bind trivial fun _ => trivial

/-! ### Accounts -/

namespace Store

/-- The account `create_account` inserts. -/
def freshAccount (now : Timestamp) (u : PyStr) (t : CreditType) (p : ExpirationPolicy)
    (d : ℤ) : Account :=
  { userId := u, creditType := t, balance := 0, totalAllocated := 0, totalConsumed := 0,
    totalExpired := 0, expirationPolicy := p, expirationDays := d, isActive := true,
    createdAt := now }

def findOrOpen (s : Store) (now : Timestamp) (u : PyStr) (t : CreditType)
    (p : ExpirationPolicy) (d : ℤ) : Row Account × Store :=
  match s.getAccountByUserType u t with
  | some account => (account, s)
  | none =>
    let a := freshAccount now u t p d
    (⟨s.accounts.size, a⟩, s.openAccount a)

/-- The checks of `create_account`. -/
def Acceptable (u : PyStr) (t : CreditType) (p : ExpirationPolicy) : Prop :=
  u.strip ≠ [] ∧ u.strip.length ≤ 50 ∧ t ∈ validCreditTypes ∧ p ∈ validExpirationPolicies
  deriving Decidable

/-- The account `_get_or_create_account` answers, and the store that has it. -/
def resolveAccount (s : Store) (now : Timestamp) (u : PyStr) (t : CreditType) :
    Option (Row Account × Store) :=
  match s.getAccountByUserType u t with
  | some account => some (account, s)
  | none =>
    if Acceptable u t .fixedDays then some (s.findOrOpen now u.strip t .fixedDays 90)
    else none

variable {t : CreditType} {u : PyStr}

theorem get?_of_getAccountByUserType {s : Store} {row : Row Account}
    (h : s.getAccountByUserType u t = some row) : s.accounts.get? row.id = some row.val :=
  get?_of_find? h

theorem createAccount_of_none {s : Store} (h : s.getAccountByUserType u t = none) (now : Timestamp)
    (p : ExpirationPolicy) (d : ℤ) :
    s.createAccount now (freshAccount 0 u t p d) =
      (.ok ⟨s.accounts.size, freshAccount now u t p d⟩,
        s.openAccount (freshAccount now u t p d)) := by
  have h' : s.getAccountByUserType (freshAccount 0 u t p d).userId
      (freshAccount 0 u t p d).creditType = none := h
  rw [createAccount, h']
  rfl

theorem findOrOpen_spec (s : Store) (now : Timestamp) (u : PyStr) (t : CreditType)
    (p : ExpirationPolicy) (d : ℤ) :
    (s.findOrOpen now u t p d).2.accounts.get? (s.findOrOpen now u t p d).1.id =
        some (s.findOrOpen now u t p d).1.val ∧
      Moves (· = .opened) s (s.findOrOpen now u t p d).2 := by
  rw [findOrOpen]
  split
  · next row h => exact ⟨get?_of_getAccountByUserType h, Moves.refl⟩
  · exact ⟨get?_insert_size _ _, Moves.of_move rfl (.opened rfl)⟩

theorem resolveAccount_spec {s s' : Store} {now : Timestamp} {row : Row Account}
    (h : s.resolveAccount now u t = some (row, s')) :
    s'.accounts.get? row.id = some row.val ∧ Moves (· = .opened) s s' := by
  rw [resolveAccount] at h
  split at h
  · next row' hrow =>
      obtain ⟨rfl, rfl⟩ := Prod.mk.inj (Option.some_inj.mp h)
      exact ⟨get?_of_getAccountByUserType hrow, Moves.refl⟩
  · split at h
    · have hspec := findOrOpen_spec s now u.strip t .fixedDays 90
      rw [Option.some_inj.mp h] at hspec
      exact hspec
    · cases h

end Store

section Accounts

variable {Q : Except CreditError (Row Account) → World → Prop} {w : World} {u : PyStr}
  {t : CreditType} {p : ExpirationPolicy} {d : ℤ}

/-- `create_account` fails its checks, or finds or opens the account. -/
theorem wp_createAccount (hok : Acceptable u t p →
      Q (.ok (w.store.findOrOpen w.clock u.strip t p d).1)
        (w.withStore (w.store.findOrOpen w.clock u.strip t p d).2))
    (herror : ¬Acceptable u t p → ∀ e, Q (.error e) w) :
    (createAccount u t p d).wp handle Q w := by
  refine wp_require_bind (fun h₁ => ?_) fun hn => herror (fun h => hn h.1) _
  refine wp_require_bind (fun h₂ => ?_) fun hn => herror (fun h => hn h.2.1) _
  refine wp_require_bind (fun h₃ => ?_) fun hn => herror (fun h => hn h.2.2.1) _
  refine wp_require_bind (fun h₄ => ?_) fun hn => herror (fun h => hn h.2.2.2) _
  have hQ := hok ⟨h₁, h₂, h₃, h₄⟩
  rw [findOrOpen] at hQ
  cases hfind : w.store.getAccountByUserType u.strip t with
  | some row =>
    rw [hfind] at hQ
    exact wp_ask_of_eq (congrArg (·, w) hfind) hQ
  | none =>
    rw [hfind] at hQ
    refine wp_ask_of_eq (congrArg (·, w) hfind) (wp_ask_of_eq
      (congrArg (Prod.map id w.withStore) (createAccount_of_none hfind w.clock p d)) hQ)

/-- `_get_or_create_account` answers as `resolveAccount` says. -/
theorem wp_getOrCreateAccount
    (hok : ∀ row s', w.store.resolveAccount w.clock u t = some (row, s') →
      Q (.ok row) (w.withStore s'))
    (herror : w.store.resolveAccount w.clock u t = none → ∀ e, Q (.error e) w) :
    (getOrCreateAccount u t).wp handle Q w := by
  cases hfind : w.store.getAccountByUserType u t with
  | some row =>
    refine wp_ask_of_eq (congrArg (·, w) hfind) (hok row w.store ?_)
    rw [resolveAccount, hfind]
  | none =>
    refine wp_ask_of_eq (congrArg (·, w) hfind) ?_
    refine wp_createAccount (fun hacc => hok _ _ ?_) fun hacc => herror ?_
    · simp only [resolveAccount, hfind, if_pos hacc]
    · simp only [resolveAccount, hfind, if_neg hacc]

end Accounts

/-! ### Allocation -/

/-- Run from the world `w`, the program makes moves of the kinds `K`. -/
def Makes {α : Type} (K : MoveKind → Prop) (p : CreditM α) (w : World) : Prop :=
  p.wp handle (fun _ w' => Moves K w.store w'.store) w

def IsAllocation (k : MoveKind) : Prop := k = .opened ∨ k = .granted ∨ k = .campaign

theorem createAccount_makes (u : PyStr) (t : CreditType) (p : ExpirationPolicy) (d : ℤ)
    (w : World) : Makes (· = .opened) (createAccount u t p d) w :=
  wp_createAccount (fun _ => (w.store.findOrOpen_spec w.clock u.strip t p d).2)
    fun _ _ => Moves.refl

theorem createCampaign_makes (request : CampaignRequest) (w : World) :
    Makes (· = .campaign) (createCampaign request) w := by
  refine wp_require_bind (fun _ => ?_) fun _ => Moves.refl
  refine wp_require_bind (fun _ => ?_) fun _ => Moves.refl
  refine wp_require_bind (fun _ => ?_) fun _ => Moves.refl
  refine wp_require_bind (fun _ => ?_) fun _ => Moves.refl
  refine wp_require_bind (fun _ => ?_) fun _ => Moves.refl
  refine wp_require_bind (fun _ => ?_) fun _ => Moves.refl
  exact Moves.of_move rfl (Move.campaign (c := w.store.campaigns.insert _))

theorem writeAllocation_makes {request : AllocateRequest} {account : Row Account}
    {e : Option Timestamp} {w : World} (hv : w.store.Valid) (hx : 0 < request.amount)
    (ha : w.store.accounts.get? account.id = some account.val) :
    Makes IsAllocation (writeAllocation request account e) w := by
  have hnonneg := hv.balance_nonneg _ _ ha
  refine wp_createTransaction fun t ht => ?_
  refine wp_updateAccountBalance_of_le (a := account.val) ha (by omega) ?_
  refine wp_createAllocation fun l hl => ?_
  have hgranted : Moves IsAllocation w.store
      (((w.store.post t).add account.id request.amount).grant l) :=
    Moves.of_move (.inr (.inl rfl))
      (.granted ha hx (ht ▸ ⟨rfl, rfl, rfl, rfl⟩) (hl ▸ ⟨rfl, rfl, rfl, rfl, rfl⟩))
  cases request.campaignId with
  | none => exact hgranted
  | some c =>
    refine wp_updateCampaignBudget fun r t => ?_
    exact hgranted.trans (Moves.of_move (.inr (.inr rfl)) .campaign)

/-- `allocate_credits` opens an account, grants an allocation and records it with its
campaign, as far as it comes. -/
theorem allocateCredits_makes (self : CreditService) (request : AllocateRequest) (w : World)
    (hv : w.store.Valid) : Makes IsAllocation (self.allocateCredits request) w := by
  refine wp_require_bind (fun hx => ?_) fun _ => Moves.refl
  refine wp_require_bind (fun _ => ?_) fun _ => Moves.refl
  refine wp_bind.mpr (wp_getOrCreateAccount (fun row s' hres => ?_) fun _ _ => Moves.refl)
  obtain ⟨ha, hopened⟩ := resolveAccount_spec hres
  have hfound : Moves IsAllocation w.store s' := hopened.mono fun _ hk => .inl hk
  refine wp_require_bind (fun _ => ?_) fun _ => hfound
  refine wp_bind_of_isRead (campaignOf_isRead _ _) (fun campaign => ?_) fun _ => hfound
  refine wp_bind_of_isRead (expiryOf_isRead _ _ _) (fun expiresAt => ?_) fun _ => hfound
  refine wp_tryCatch.mpr (wp_mono
    (writeAllocation_makes (hopened.valid hv) hx ha) fun r w' hmoves => ?_)
  cases r with
  | ok response => exact hfound.trans hmoves
  | error e => exact hfound.trans hmoves

/-- `allocate_from_campaign` is an allocation. -/
theorem allocateFromCampaign_makes (self : CreditService) (u : PyStr) (c : ℕ) (w : World)
    (hv : w.store.Valid) : Makes IsAllocation (self.allocateFromCampaign u c) w := by
  refine wp_bind_of_isRead (validateCampaignForAllocation_isRead _ _ _ _) (fun campaign => ?_)
    fun _ => Moves.refl
  refine wp_require_bind (fun _ => ?_) fun _ => Moves.refl
  refine wp_bind_of_isRead (checkEligibility_isRead _ _ _) (fun _ => ?_) fun _ => Moves.refl
  exact wp_ask (allocateCredits_makes self _ w hv)

/-! ### Consumption -/

section Consumption

variable {w : World} {u : PyStr} {ref : Option PyStr}

theorem wp_consumeItem {item : PlanItem} {a : Account} {l : Allocation}
    {Q : Except CreditError ConsumeTransaction → World → Prop}
    (ha : w.store.accounts.get? item.accountId = some a)
    (hl : w.store.allocations.get? item.allocationId = some l)
    (hpaid : item.amount ≤ a.balance →
      ∀ t n, Posts t item.accountId a.balance (-item.amount) →
        Q (.ok ⟨n, item.accountId, item.amount, a.creditType⟩)
          (w.withStore (((w.store.post t).add item.accountId (-item.amount)).consumeLot
            item.allocationId item.amount)))
    (hrefused : a.balance < item.amount →
      ∀ t e, Posts t item.accountId a.balance (-item.amount) →
        Q (.error e) (w.withStore (w.store.post t))) :
    (consumeItem u ref item).wp handle Q w := by
  refine wp_ask ?_
  simp only [handle, getAccountById, ha]
  refine wp_createTransaction fun t ht => ?_
  have hposts : Posts t item.accountId a.balance (-item.amount) := ht ▸ ⟨rfl, rfl, rfl, rfl⟩
  by_cases hx : item.amount ≤ a.balance
  · refine wp_updateAccountBalance_of_le (a := a) ha (by omega) ?_
    exact wp_updateAllocationConsumed hl (hpaid hx t _ hposts)
  · refine wp_updateAccountBalance_of_lt (a := a) ha (by omega) ?_
    exact hrefused (by omega) t _ hposts

def CreditService.PlanItem.line (item : PlanItem) : ℕ × CreditType × ℤ :=
  (item.accountId, item.creditType, item.amount)

def CreditService.ConsumeTransaction.line (t : ConsumeTransaction) : ℕ × CreditType × ℤ :=
  (t.accountId, t.creditType, t.amount)

def debitAccounts (accounts : Table Account) (plan : List PlanItem) : Table Account :=
  plan.foldl (fun t item => t.modify item.accountId (addToBalance (-item.amount)))
    accounts

/-- How carrying out a plan ends: with all its items spent if the balances cover it, and
else with an item announced on the ledger that was not paid. -/
def Carries (plan : List PlanItem) (w : World)
    (r : Except CreditError (List ConsumeTransaction)) (w' : World) : Prop :=
  match r with
  | .ok ts =>
    Covered w.store.balanceOf (planDebits plan) ∧
      ts.map (·.line) = plan.map (·.line) ∧
      w'.store.accounts = debitAccounts w.store.accounts plan ∧
      Moves (· = .spent) w.store w'.store
  | .error _ =>
    ¬Covered w.store.balanceOf (planDebits plan) ∧
      ∃ s, Moves (· = .spent) w.store s ∧ Move .announced s w'.store

/-- **The execution loop of `consume_credits`**, by induction on the plan: it carries the
plan out. -/
theorem consumeItems_carries {plan : List PlanItem} (h : w.store.AllReady plan) :
    (consumeItems u ref plan).wp handle (Carries plan w) w := by
  induction plan generalizing w with
  | nil => exact ⟨covered_nil, rfl, rfl, Moves.refl⟩
  | cons item plan ih =>
    obtain ⟨⟨a, ha, htype⟩, l, hl, ho⟩ := h.ready item mem_cons_self
    have hpos : ∀ d ∈ planDebits plan, 0 ≤ d.2 := by
      intro d hd
      obtain ⟨other, hother, rfl⟩ := mem_map.mp hd
      exact (h.ready other (mem_cons_of_mem _ hother)).pos.le
    have hcovered : Covered w.store.balanceOf (planDebits (item :: plan)) ↔
        item.amount ≤ a.balance ∧ Covered (fun k => w.store.balanceOf k -
          if item.accountId = k then item.amount else 0) (planDebits plan) := by
      rw [← balanceOf_of_get? ha]
      exact covered_cons hpos
    refine wp_bind.mpr (wp_consumeItem ha hl (fun hx t n ht => ?_)
      fun hx t e ht => ?_)
    · have hspent : Moves (· = .spent) w.store _ :=
        Moves.of_move rfl (.spent ha hl ho hx ht)
      have hbalance : ∀ k, (((w.store.post t).add item.accountId (-item.amount)).consumeLot
          item.allocationId item.amount).balanceOf k = w.store.balanceOf k -
            if item.accountId = k then item.amount else 0 :=
        balanceOf_paid ha t item.amount
      refine wp_bind.mpr (wp_mono (ih (h.tail t)) fun r w' hr => ?_)
      cases r with
      | ok ts =>
        obtain ⟨hcov, hlines, haccounts, hmoves⟩ := hr
        rw [withStore_store, funext hbalance] at hcov
        refine ⟨hcovered.mpr ⟨hx, hcov⟩, ?_, haccounts, hspent.trans hmoves⟩
        rw [map_cons, map_cons, hlines, ConsumeTransaction.line, PlanItem.line,
          htype]
      | error e =>
        obtain ⟨hcov, s, hmoves, hlast⟩ := hr
        rw [withStore_store, funext hbalance] at hcov
        exact ⟨fun hc => hcov (hcovered.mp hc).2, s, hspent.trans hmoves, hlast⟩
    · refine ⟨fun hc => ?_, w.store, Moves.refl, .announced ha ho.pos ht⟩
      have := (hcovered.mp hc).1
      omega

theorem wp_collectCredits {accounts : List (Row Account)}
    {Q : Except CreditError (List CreditLot) → World → Prop}
    (hQ : Q (.ok (w.store.creditLots w.clock accounts)) w) :
    (collectCredits accounts).wp handle Q w := by
  induction accounts generalizing Q with
  | nil => exact hQ
  | cons account accounts ih => exact wp_ask (wp_bind.mpr (ih hQ))

theorem wp_buildConsumptionPlan {accounts : List (Row Account)} {amount : ℤ}
    {Q : Except CreditError (List PlanItem) → World → Prop}
    (hok : ¬mixedExpiry (w.store.creditLots w.clock accounts) →
      Q (.ok (w.store.consumptionPlan w.clock accounts amount)) w)
    (herror : mixedExpiry (w.store.creditLots w.clock accounts) → ∀ e, Q (.error e) w) :
    (buildConsumptionPlan accounts amount).wp handle Q w := by
  refine wp_bind.mpr (wp_collectCredits ?_)
  exact wp_require_bind hok fun hn => herror (not_not.mp hn) _

/-- The plan `consume_credits` cuts for a user. -/
def World.consumptionPlan (w : World) (u : PyStr) (amount : ℤ) : List PlanItem :=
  w.store.consumptionPlan w.clock (w.store.getActiveAccounts u) amount

/-- Live credits of the user with and without an expiry date, which no plan can sort. -/
def World.MixedExpiry (w : World) (u : PyStr) : Prop :=
  mixedExpiry (w.store.creditLots w.clock (w.store.getActiveAccounts u))
  deriving Decidable

/-- The checks of `consume_credits`. -/
def World.AcceptsConsumption (w : World) (u : PyStr) (amount : ℤ) : Prop :=
  0 < amount ∧ w.store.getActiveAccounts u ≠ [] ∧
    amount ≤ totalBalance (w.store.getActiveAccounts u) ∧ ¬w.MixedExpiry u ∧
      w.consumptionPlan u amount ≠ []

/-- The response of `consume_credits` to the transactions it made. -/
def consumeResponse (total : ℤ) (ts : List ConsumeTransaction) : ConsumeResponse :=
  ⟨(ts.map (·.amount)).sum, total, total - (ts.map (·.amount)).sum, ts⟩

/-- `consume_credits` fails its checks or carries its plan out. -/
theorem wp_consumeCredits {amount : ℤ} {Q : Except CreditError ConsumeResponse → World → Prop}
    (hrefused : ¬w.AcceptsConsumption u amount → ∀ e, Q (.error e) w)
    (hok : w.AcceptsConsumption u amount → ∀ ts w',
      Carries (w.consumptionPlan u amount) w (.ok ts) w' →
        Q (.ok (consumeResponse (totalBalance (w.store.getActiveAccounts u)) ts)) w')
    (herror : w.AcceptsConsumption u amount → ∀ e e' w',
      Carries (w.consumptionPlan u amount) w (.error e) w' → Q (.error e') w') :
    (consumeCredits u amount ref).wp handle Q w := by
  refine wp_require_bind (fun h₁ => wp_ask ?_) fun hn => hrefused (fun h => hn h.1) _
  refine wp_require_bind (fun h₂ => ?_) fun hn => hrefused (fun h => hn h.2.1) _
  refine wp_require_bind (fun h₃ => ?_) fun hn => hrefused (fun h => hn h.2.2.1) _
  refine wp_bind.mpr (wp_buildConsumptionPlan (fun h₄ => ?_)
    fun hm e => hrefused (fun h => h.2.2.2.1 hm) e)
  refine wp_require_bind (fun h₅ => ?_) fun hn => hrefused (fun h => hn h.2.2.2.2) _
  have hacc : w.AcceptsConsumption u amount := ⟨h₁, h₂, h₃, h₄, h₅⟩
  have hready : w.store.AllReady (w.consumptionPlan u amount) :=
    allReady_consumptionPlan (w.store.lists_getActiveAccounts u)
  refine wp_bind.mpr (wp_tryCatch.mpr
    (wp_mono (consumeItems_carries hready) fun r w' hr => ?_))
  cases r with
  | ok ts => exact hok hacc ts w' hr
  | error e => exact herror hacc e _ w' hr

/-- The balances pay for what `consume_credits` would take. -/
def World.PaysConsumption (w : World) (u : PyStr) (amount : ℤ) : Prop :=
  w.AcceptsConsumption u amount →
    Covered w.store.balanceOf (planDebits (w.consumptionPlan u amount))

/-- `consume_credits` spends, and may announce a last debit without making it. -/
theorem consumeCredits_makes (u : PyStr) (amount : ℤ) (ref : Option PyStr) (w : World) :
    Makes (fun k => k = .spent ∨ k = .announced) (consumeCredits u amount ref) w := by
  refine wp_consumeCredits (fun _ _ => Moves.refl) (fun _ ts w' h => ?_) fun _ e e' w' h => ?_
  · exact h.2.2.2.mono fun _ => .inl
  · obtain ⟨-, s, hmoves, hlast⟩ := h
    exact (hmoves.mono fun _ => .inl).trans (Moves.of_move (.inr rfl) hlast)

/-- When the balances pay for the plan, `consume_credits` only spends. -/
theorem consumeCredits_makes_spent {amount : ℤ} (h : w.PaysConsumption u amount) :
    Makes (· = .spent) (consumeCredits u amount ref) w := by
  refine wp_consumeCredits (fun _ _ => Moves.refl) (fun _ ts w' h => h.2.2.2)
    fun hacc e e' w' hr => ?_
  exact absurd (h hacc) hr.1

end Consumption

/-! ### Expiration -/

section Expiration

variable {w : World}

def expirationDebits (rows : List (Row Allocation)) : List (ℕ × ℤ) :=
  rows.map fun row => (row.val.accountId, row.val.available)

/-- The rows are completed allocations as they are in the store, of accounts that exist,
with something left, and none is listed twice. -/
structure Store.Expirable (s : Store) (rows : List (Row Allocation)) : Prop where
  row : ∀ row ∈ rows, s.allocations.get? row.id = some row.val ∧ row.val.status = .completed ∧
    0 < row.val.available ∧ row.val.accountId < s.accounts.size
  nodup : (rows.map (·.id)).Nodup

theorem Store.expirable_getExpiringAllocations {s : Store} (hv : s.Valid) (now : Timestamp) :
    s.Expirable (s.getExpiringAllocations now) where
  row row h := by
    rw [getExpiringAllocations, mem_orderBy, mem_select] at h
    obtain ⟨hget, hcond⟩ := h
    obtain ⟨-, hstatus, hpos⟩ := of_decide_eq_true hcond
    exact ⟨hget, hstatus, hpos, hv.lot_account _ _ hget⟩
  nodup := by
    rw [getExpiringAllocations, nodup_map_orderBy]
    exact nodup_select_id _ _

theorem Store.Expirable.tail {s : Store} {row : Row Allocation}
    {rows : List (Row Allocation)} (h : s.Expirable (row :: rows)) (s' : Store)
    (hlots : s'.allocations = s.allocations) (hsize : s'.accounts.size = s.accounts.size)
    (x : ℤ) : (s'.expireLot row.id x).Expirable rows := by
  have hnodup := nodup_cons.mp h.nodup
  refine ⟨fun other hother => ?_, hnodup.2⟩
  obtain ⟨hget, hstatus, hpos, hlt⟩ := h.row other (mem_cons_of_mem _ hother)
  have hne : row.id ≠ other.id := by
    intro heq
    exact hnodup.1 (mem_map.mpr ⟨other, hother, heq.symm⟩)
  refine ⟨?_, hstatus, hpos, ?_⟩
  · rw [← hget, ← hlots]
    exact get?_modify_ne hne _ _
  · rw [accounts_expireLot, hsize]
    exact hlt

theorem wp_expireAllocation {row : Row Allocation} {a : Account}
    {Q : Except CreditError (Option ℤ) → World → Prop}
    (ha : w.store.accounts.get? row.val.accountId = some a)
    (hl : w.store.allocations.get? row.id = some row.val) (hpos : 0 < row.val.available)
    (hpaid : row.val.available ≤ a.balance →
      ∀ t, Posts t row.val.accountId a.balance (-row.val.available) →
        Q (.ok (some row.val.available))
          (w.withStore (((w.store.post t).add row.val.accountId (-row.val.available)).expireLot
            row.id row.val.available)))
    (hunpaid : a.balance < row.val.available →
      ∀ t, Posts t row.val.accountId a.balance (-row.val.available) →
        Q (.ok (some row.val.available))
          (w.withStore ((w.store.post t).expireLot row.id row.val.available))) :
    (expireAllocation row).wp handle Q w := by
  simp only [expireAllocation, if_neg (not_le.mpr hpos)]
  refine wp_ask ?_
  simp only [handle, getAccountById, ha]
  refine wp_createTransaction fun t ht => ?_
  have hposts : Posts t row.val.accountId a.balance (-row.val.available) :=
    ht ▸ ⟨rfl, rfl, rfl, rfl⟩
  by_cases hx : row.val.available ≤ a.balance
  · refine wp_updateAccountBalance_of_le (a := a) ha (by omega) ?_
    exact wp_updateAllocationExpired hl (hpaid hx t hposts)
  · refine wp_updateAccountBalance_of_lt (a := a) ha (by omega) ?_
    exact wp_updateAllocationExpired hl (hunpaid (by omega) t hposts)

def IsExpiration (k : MoveKind) : Prop := k = .expired ∨ k = .expiredUnpaid

/-- How an expiration of some rows ends: with all of them expired and paid for if the
balances cover them, and else with one that was expired and not paid for. -/
def Expires (rows : List (Row Allocation)) (w w' : World) : Prop :=
  (Covered w.store.balanceOf (expirationDebits rows) ∧
      Moves (· = .expired) w.store w'.store) ∨
    (¬Covered w.store.balanceOf (expirationDebits rows) ∧
      ∃ s s', Moves (· = .expired) w.store s ∧ Move .expiredUnpaid s s' ∧
        Moves IsExpiration s' w'.store)

theorem Expires.moves {rows : List (Row Allocation)} {w' : World} (h : Expires rows w w') :
    Moves IsExpiration w.store w'.store := by
  rcases h with ⟨-, h⟩ | ⟨-, s, s', h, hmove, h'⟩
  · exact h.mono fun _ => .inl
  · exact ((h.mono fun _ => .inl).trans (Moves.of_move (.inr rfl) hmove)).trans h'

theorem Expires.of_paid {row : Row Allocation} {rows : List (Row Allocation)} {s : Store}
    {w' : World} (hmove : Move .expired w.store s)
    (hcov : Covered w.store.balanceOf (expirationDebits (row :: rows)) ↔
      Covered s.balanceOf (expirationDebits rows))
    (h : Expires rows (w.withStore s) w') : Expires (row :: rows) w w' := by
  have hfirst : Moves (· = .expired) w.store s := Moves.of_move rfl hmove
  rcases h with ⟨hrest, hmoves⟩ | ⟨hrest, s₁, s₂, hmoves, hunpaid, hlast⟩
  · exact .inl ⟨hcov.mpr hrest, hfirst.trans hmoves⟩
  · exact .inr ⟨fun hc => hrest (hcov.mp hc), s₁, s₂, hfirst.trans hmoves, hunpaid, hlast⟩

theorem Expires.of_unpaid {row : Row Allocation} {rows : List (Row Allocation)} {s : Store}
    {w' : World} (hmove : Move .expiredUnpaid w.store s)
    (hcov : ¬Covered w.store.balanceOf (expirationDebits (row :: rows)))
    (h : Expires rows (w.withStore s) w') : Expires (row :: rows) w w' :=
  .inr ⟨hcov, w.store, s, Moves.refl, hmove, h.moves⟩

theorem covered_expirationDebits_cons {row : Row Allocation} {rows : List (Row Allocation)}
    (hrows : w.store.Expirable (row :: rows))
    (ha : w.store.accounts.get? row.val.accountId = some a) :
    Covered w.store.balanceOf (expirationDebits (row :: rows)) ↔
      row.val.available ≤ a.balance ∧ Covered (fun k => w.store.balanceOf k -
        if row.val.accountId = k then row.val.available else 0) (expirationDebits rows) := by
  have hdebits : ∀ d ∈ expirationDebits rows, 0 ≤ d.2 := by
    intro d hd
    obtain ⟨other, hother, rfl⟩ := mem_map.mp hd
    exact (hrows.row other (mem_cons_of_mem _ hother)).2.2.1.le
  rw [← balanceOf_of_get? ha]
  exact covered_cons hdebits

/-- **The loop of `process_expirations`**, by induction on the rows. -/
theorem expireAllocations_expires {rows : List (Row Allocation)}
    (hrows : w.store.Expirable rows) :
    (expireAllocations rows).wp handle (fun _ w' => Expires rows w w') w := by
  induction rows generalizing w with
  | nil => exact .inl ⟨covered_nil, Moves.refl⟩
  | cons row rows ih =>
    obtain ⟨hl, hstatus, hpos, hlt⟩ := hrows.row row mem_cons_self
    obtain ⟨a, ha⟩ : ∃ a, w.store.accounts.get? row.val.accountId = some a :=
      ⟨_, getElem?_eq_getElem hlt⟩
    have ho : Offers row.val row.val.accountId row.val.available :=
      ⟨rfl, hstatus, hpos, le_rfl⟩
    have hcovered := covered_expirationDebits_cons hrows ha
    refine wp_bind.mpr (wp_expireAllocation ha hl hpos (fun hx t ht => ?_)
      fun hx t ht => ?_)
    · have hpaid : ∀ k, (((w.store.post t).add row.val.accountId
          (-row.val.available)).expireLot row.id row.val.available).balanceOf k =
            w.store.balanceOf k - if row.val.accountId = k then row.val.available else 0 :=
        balanceOf_paid ha t row.val.available
      have hcov : Covered w.store.balanceOf (expirationDebits (row :: rows)) ↔
          Covered (((w.store.post t).add row.val.accountId
            (-row.val.available)).expireLot row.id row.val.available).balanceOf
              (expirationDebits rows) := by
        rw [hcovered, funext hpaid]
        exact and_iff_right hx
      refine wp_bind.mpr (wp_mono (ih (hrows.tail ((w.store.post t).add _ _) rfl
        (size_modify _ _ _) _)) fun r w' h => ?_)
      have hall := Expires.of_paid (.expired ha hl ho hx ht) hcov h
      cases r with
      | ok expired => exact hall
      | error e => exact hall
    · have hcov : ¬Covered w.store.balanceOf (expirationDebits (row :: rows)) := by
        intro h
        have := (hcovered.mp h).1
        omega
      refine wp_bind.mpr (wp_mono (ih (hrows.tail (w.store.post t) rfl rfl _))
        fun r w' h => ?_)
      have hall := Expires.of_unpaid (.expiredUnpaid ha hl ho hx ht) hcov h
      cases r with
      | ok expired => exact hall
      | error e => exact hall

/-- The balances pay for what `process_expirations` would expire. -/
def World.PaysExpirations (w : World) : Prop :=
  Covered w.store.balanceOf (expirationDebits (w.store.getExpiringAllocations w.clock))

/-- `process_expirations` expires what is due. -/
theorem processExpirations_expires (hv : w.store.Valid) :
    processExpirations.wp handle
      (fun _ w' => Expires (w.store.getExpiringAllocations w.clock) w w') w := by
  refine wp_ask (wp_ask (wp_bind.mpr (wp_mono (expireAllocations_expires
    (expirable_getExpiringAllocations hv w.clock)) fun r w' h => ?_)))
  cases r with
  | ok expired => exact h
  | error e => exact h

end Expiration

/-! ### Transfer -/

section Transfer

variable {w : World} {self : CreditService} {request : TransferRequest}

theorem wp_validateUserIfClient {u : PyStr} {e : CreditError}
    {Q : Except CreditError Unit → World → Prop}
    (hok : (self.accountClient → (w.users u).any (·.isActive)) → Q (.ok ()) w)
    (herror : ¬(self.accountClient → (w.users u).any (·.isActive)) → Q (.error e) w) :
    (self.validateUserIfClient u e).wp handle Q w := by
  rw [validateUserIfClient]
  split
  · next hclient =>
      have hanswer : (validateUser u).wp handle
          (fun r w' => r = .ok ((w.users u).any (·.isActive)) ∧ w' = w) w := by
        refine wp_ask ?_
        simp only [handle]
        cases w.users u with
        | none => exact ⟨rfl, rfl⟩
        | some user => exact ⟨rfl, rfl⟩
      refine wp_bind.mpr (wp_mono hanswer ?_)
      rintro _ _ ⟨rfl, rfl⟩
      refine wp_require.mpr ⟨fun h => hok fun _ => h, fun hn => herror fun h => hn (h hclient)⟩
  · next hclient => exact hok fun h => absurd h hclient

/-- The checks of `transfer_credits` that come before it looks at accounts. -/
def World.PermitsTransfer (w : World) (self : CreditService) (request : TransferRequest) :
    Prop :=
  request.fromUserId ≠ request.toUserId ∧ 0 < request.amount ∧
    request.creditType ∉ nonTransferableTypes ∧
      (self.accountClient → (w.users request.toUserId).any (·.isActive))

instance (w : World) (self : CreditService) (request : TransferRequest) :
    Decidable (w.PermitsTransfer self request) :=
  inferInstanceAs (Decidable (_ ∧ _))

/-- The accounts that `transfer_credits` debits and credits, if it gets that far. -/
def World.transferParties (w : World) (self : CreditService) (request : TransferRequest) :
    Option (ℕ × ℕ) :=
  if w.PermitsTransfer self request then
    match w.store.getAccountByUserType request.fromUserId request.creditType with
    | none => none
    | some fromAccount =>
      if request.amount ≤ fromAccount.val.balance then
        (w.store.resolveAccount w.clock request.toUserId request.creditType).map
          fun p => (fromAccount.id, p.1.id)
      else none
  else none

theorem wp_writeTransfer {fromAccount toAccount : Row Account} {n : ℕ}
    (hv : w.store.Valid) (hfrom : w.store.accounts.get? fromAccount.id = some fromAccount.val)
    (hto : w.store.accounts.get? toAccount.id = some toAccount.val)
    (hx : 0 < request.amount) (hle : request.amount ≤ fromAccount.val.balance) :
    (writeTransfer request fromAccount toAccount n).wp handle (fun r w' =>
      (∃ response, r = .ok response) ∧
        Move (if fromAccount.id = toAccount.id then .selfTransferred else .transferred)
          w.store w'.store) w := by
  have hnonneg := hv.balance_nonneg _ _ hto
  refine wp_createTransaction fun t ht => wp_createTransaction fun u hu => ?_
  have hposts : Posts t fromAccount.id fromAccount.val.balance (-request.amount) :=
    ht ▸ ⟨rfl, rfl, rfl, rfl⟩
  have hposts' : Posts u toAccount.id toAccount.val.balance request.amount :=
    hu ▸ ⟨rfl, rfl, rfl, rfl⟩
  refine wp_updateAccountBalance_of_le (a := fromAccount.val) hfrom (by omega) ?_
  by_cases hself : fromAccount.id = toAccount.id
  · have hsame : toAccount.val = fromAccount.val := by
      rw [hself, hto] at hfrom
      exact Option.some_inj.mp hfrom
    have hnext : (((w.store.post t).post u).add fromAccount.id (-request.amount)).accounts.get?
        toAccount.id = some (addToBalance (-request.amount) fromAccount.val) := by
      rw [← hself]
      exact get?_modify_self hfrom _
    refine wp_updateAccountBalance_of_le hnext ?_ ?_
    · simp only [addToBalance]
      omega
    · refine wp_require_bind (fun _ => ⟨⟨_, rfl⟩, ?_⟩) fun hn => absurd ⟨rfl, rfl⟩ hn
      rw [if_pos hself]
      rw [hsame, ← hself] at hposts'
      rw [← hself]
      exact .selfTransferred hfrom hx hle hposts hposts'
  · have hnext : (((w.store.post t).post u).add fromAccount.id (-request.amount)).accounts.get?
        toAccount.id = some toAccount.val := (get?_modify_ne hself _ _).trans hto
    refine wp_updateAccountBalance_of_le hnext (by omega) ?_
    refine wp_require_bind (fun _ => ⟨⟨_, rfl⟩, ?_⟩) fun hn => absurd ⟨rfl, rfl⟩ hn
    rw [if_neg hself]
    exact .transferred hfrom hto hself hx hle hposts hposts'

/-- `transfer_credits` fails its checks and changes nothing, or opens the account of the
recipient where there is none and transfers the credits. -/
theorem wp_transferCredits {Q : Except CreditError TransferResponse → World → Prop}
    (hv : w.store.Valid)
    (hrefused : w.transferParties self request = none → ∀ e, Q (.error e) w)
    (hok : ∀ i j response s w', w.transferParties self request = some (i, j) →
      Moves (· = .opened) w.store s →
      Move (if i = j then .selfTransferred else .transferred) s w'.store →
      Q (.ok response) w') :
    (self.transferCredits request).wp handle Q w := by
  have hdenied (hn : ¬w.PermitsTransfer self request) (e : CreditError) : Q (.error e) w :=
    hrefused (if_neg hn) e
  refine wp_require_bind (fun h₁ => ?_) fun hn => hdenied (fun h => hn h.1) _
  refine wp_require_bind (fun h₂ => ?_) fun hn => hdenied (fun h => hn h.2.1) _
  refine wp_require_bind (fun h₃ => ?_) fun hn => hdenied (fun h => hn h.2.2.1) _
  refine wp_bind.mpr (wp_validateUserIfClient (fun h₄ => ?_)
    fun hn => hdenied (fun h => hn h.2.2.2) _)
  rw [World.transferParties, if_pos ⟨h₁, h₂, h₃, h₄⟩] at hrefused hok
  cases hfrom : w.store.getAccountByUserType request.fromUserId request.creditType with
  | none =>
    rw [hfrom] at hrefused
    exact wp_ask_of_eq (congrArg (·, w) hfrom) (hrefused rfl _)
  | some fromAccount =>
    rw [hfrom] at hrefused hok
    refine wp_ask_of_eq (congrArg (·, w) hfrom) ?_
    refine wp_require_bind (fun hle => ?_) fun hn => hrefused (if_neg hn) _
    simp only [if_pos hle] at hrefused hok
    refine wp_bind.mpr (wp_getOrCreateAccount (fun toAccount s' hres => ?_)
      fun hnone e => hrefused (by rw [hnone]; rfl) e)
    rw [hres] at hok
    obtain ⟨hto, hopened⟩ := resolveAccount_spec hres
    have hfrom' : s'.accounts.get? fromAccount.id = some fromAccount.val :=
      hopened.get?_of_opened (get?_of_getAccountByUserType hfrom)
    refine wp_ask (wp_tryCatch.mpr (wp_mono (wp_writeTransfer (hopened.valid hv)
      hfrom' hto h₂ hle) ?_))
    rintro _ w' ⟨⟨response, rfl⟩, hmove⟩
    exact hok _ _ response s' w' rfl hopened hmove

/-- `transfer_credits` opens at most an account, and transfers. -/
theorem transferCredits_makes {K : MoveKind → Prop} (hv : w.store.Valid) (hopen : K .opened)
    (htransfer : ∀ i j, w.transferParties self request = some (i, j) →
      K (if i = j then .selfTransferred else .transferred)) :
    Makes K (self.transferCredits request) w := by
  refine wp_transferCredits hv (fun _ _ => Moves.refl) fun i j response s w' h hopened hmove => ?_
  exact (hopened.mono fun k hk => hk ▸ hopen).trans (Moves.of_move (htransfer i j h) hmove)

end Transfer

/-! ### Histories -/

/-- What can happen next: a request to the service, or a change of its surroundings. -/
inductive Step where
  | request (r : Request)
  /-- Time passes. -/
  | clock (now : Timestamp)
  /-- The account service knows other users. -/
  | users (known : PyStr → Option User)

def Step.run (self : CreditService) (w : World) : Step → World
  | .request r => ((r.prog self).run handle w).2
  | .clock now => { w with clock := now }
  | .users known => { w with users := known }

def World.start (now : Timestamp) (users : PyStr → Option User) : World :=
  { store := .empty, clock := now, users, nextTransferId := 0 }

def CreditService.Request.Kinds (self : CreditService) (w : World) :
    Request → MoveKind → Prop
  | createAccount _ _ _ _, k => k = .opened
  | createCampaign _, k => k = .campaign
  | allocateCredits _, k => IsAllocation k
  | allocateFromCampaign _ _, k => IsAllocation k
  | consumeCredits u x _, k => k = .spent ∨ k = .announced ∧ ¬w.PaysConsumption u x
  | transferCredits request, k => k = .opened ∨ ∃ i j,
      w.transferParties self request = some (i, j) ∧
        k = if i = j then .selfTransferred else .transferred
  | processExpirations, k => k = .expired ∨ k = .expiredUnpaid ∧ ¬w.PaysExpirations

variable {w : World}

/-- **The service keeps the books**: whatever is asked of it in a valid world, it makes
moves of the kinds that the request allows. -/
theorem prog_makes (self : CreditService) (hv : w.store.Valid) (r : Request) :
    Makes (r.Kinds self w) (r.prog self) w := by
  cases r with
  | createAccount u t p d => exact wp_void.mpr (createAccount_makes u t p d w)
  | createCampaign request => exact wp_void.mpr (createCampaign_makes request w)
  | allocateCredits request =>
    exact wp_void.mpr (allocateCredits_makes self request w hv)
  | allocateFromCampaign u c =>
    exact wp_void.mpr (allocateFromCampaign_makes self u c w hv)
  | consumeCredits u x ref =>
    refine wp_void.mpr ?_
    by_cases hpays : w.PaysConsumption u x
    · exact wp_mono (consumeCredits_makes_spent hpays) fun _ _ h =>
        h.mono fun k hk => .inl hk
    · exact wp_mono (consumeCredits_makes u x ref w) fun _ _ h =>
        h.mono fun k hk => hk.imp id fun hk => ⟨hk, hpays⟩
  | transferCredits request =>
    exact wp_void.mpr
      (transferCredits_makes hv (.inl rfl) fun i j h => .inr ⟨i, j, h, rfl⟩)
  | processExpirations =>
    refine wp_void.mpr (wp_mono (processExpirations_expires hv) fun _ _ h => ?_)
    by_cases hpays : w.PaysExpirations
    · rcases h with ⟨-, hmoves⟩ | ⟨hcov, -⟩
      · exact hmoves.mono fun k hk => .inl hk
      · exact absurd hpays hcov
    · exact h.moves.mono fun k hk => hk.imp id fun hk => ⟨hk, hpays⟩

theorem Step.run_keeps {P : Store → Prop} (self : CreditService) (hv : w.store.Valid)
    (hP : P w.store) (step : Step)
    (hmoves : ∀ r s, step = .request r → Moves (r.Kinds self w) w.store s → P s) :
    P (step.run self w).store := by
  cases step with
  | request r => exact hmoves r _ rfl (prog_makes self hv r)
  | clock now => exact hP
  | users known => exact hP

theorem Step.run_valid (self : CreditService) (hv : w.store.Valid) (step : Step) :
    (step.run self w).store.Valid :=
  step.run_keeps self hv hv fun _ _ _ h => h.valid hv

theorem valid_exec (self : CreditService) (now : Timestamp) (users : PyStr → Option User)
    (steps : List Step) :
    (exec (Step.run self) (World.start now users) steps).store.Valid :=
  exec_invariant (J := fun w : World => w.store.Valid) valid_empty (allSteps_true _ steps)
    fun _ step hv _ => step.run_valid self hv

end IsaUser.Credit
