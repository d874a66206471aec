import IsaUser.Credit.Model
import IsaUser.Lib.Ledger

/-!
# The Books of the Credit Store

What the credit service is for, apart from how it does it: every credit of an account
comes from an allocation, and every change of a balance is on the ledger. The store keeps
the same quantity three times, as a balance, as what remains of the allocations, and as a
chain of ledger rows, and `Balanced` and `Chained` say that the copies agree.

A `Move` is one accounting fact, with all the tables it touches: an account is opened, an
allocation is granted, spent or expired, credits are transferred. The moves include the
irregular ones a service method can make: a ledger row without the change of balance it
announces, an expiry whose debit the balance refused, and a transfer of an account to
itself. `Move.balanced` and `Move.chained` say which moves keep the copies in agreement.
-/

open Option

namespace IsaUser.Credit

open Table Store

namespace Store

/-! ### What the store says about an account -/

def balanceOf (s : Store) (accountId : ℕ) : ℤ :=
  ((s.accounts.get? accountId).map (·.balance)).getD 0

/-- `available_remaining` of `v_account_reconciliation`: what remains of the completed
allocations of an account. -/
def availableRemaining (s : Store) (accountId : ℕ) : ℤ :=
  s.allocations.sumBy fun l =>
    if l.accountId = accountId ∧ l.status = .completed then l.available else 0

/-- `drift` of `v_account_reconciliation`. -/
def drift (s : Store) (account : Row Account) : ℤ :=
  account.val.balance - s.availableRemaining account.id

def ledger (s : Store) (accountId : ℕ) : List Transaction :=
  s.transactions.rows.filter (·.accountId = accountId)

/-! ### Single updates -/

def openAccount (s : Store) (a : Account) : Store := { s with accounts := s.accounts.insert a }

def post (s : Store) (t : Transaction) : Store :=
  { s with transactions := s.transactions.insert t }

def add (s : Store) (accountId : ℕ) (delta : ℤ) : Store :=
  { s with accounts := s.accounts.modify accountId (addToBalance delta) }

def grant (s : Store) (l : Allocation) : Store :=
  { s with allocations := s.allocations.insert l }

def consumeLot (s : Store) (allocationId : ℕ) (x : ℤ) : Store :=
  { s with
    allocations := s.allocations.modify allocationId fun a =>
      { a with consumedAmount := a.consumedAmount + x } }

def expireLot (s : Store) (allocationId : ℕ) (x : ℤ) : Store :=
  { s with
    allocations := s.allocations.modify allocationId fun a =>
      { a with expiredAmount := a.expiredAmount + x } }

def withCampaigns (s : Store) (t : Table Campaign) : Store := { s with campaigns := t }

section Updates

variable (s : Store) (a : Account) (t : Transaction) (l : Allocation) (c : Table Campaign)
  (i j : ℕ) (x : ℤ) {l : Allocation}

@[simp] theorem accounts_openAccount : (s.openAccount a).accounts = s.accounts.insert a := rfl
@[simp] theorem accounts_post : (s.post t).accounts = s.accounts := rfl
@[simp] theorem accounts_add :
    (s.add i x).accounts = s.accounts.modify i (addToBalance x) := rfl
@[simp] theorem accounts_grant : (s.grant l).accounts = s.accounts := rfl
@[simp] theorem accounts_consumeLot : (s.consumeLot j x).accounts = s.accounts := rfl
@[simp] theorem accounts_expireLot : (s.expireLot j x).accounts = s.accounts := rfl
@[simp] theorem accounts_withCampaigns : (s.withCampaigns c).accounts = s.accounts := rfl

@[simp] theorem allocations_openAccount : (s.openAccount a).allocations = s.allocations := rfl
@[simp] theorem allocations_post : (s.post t).allocations = s.allocations := rfl
@[simp] theorem allocations_add : (s.add i x).allocations = s.allocations := rfl
@[simp] theorem allocations_withCampaigns :
    (s.withCampaigns c).allocations = s.allocations := rfl

theorem balanceOf_of_get? {s : Store} {i : ℕ} {a : Account} (h : s.accounts.get? i = some a) :
    s.balanceOf i = a.balance := by
  simp [balanceOf, h]

theorem balanceOf_openAccount (ha : a.balance = 0) :
    (s.openAccount a).balanceOf i = s.balanceOf i := by
  rcases eq_or_ne i s.accounts.size with rfl | hi
  · have hnone : s.accounts.get? s.accounts.size = none := by
      simp [get?, size]
    simp [balanceOf, ha]
  · simp [balanceOf, Table.get?_insert, hi]

theorem balanceOf_add {s : Store} {i : ℕ} {a : Account} (h : s.accounts.get? i = some a)
    (x : ℤ) (k : ℕ) : (s.add i x).balanceOf k = s.balanceOf k + if i = k then x else 0 := by
  rcases eq_or_ne i k with rfl | hk
  · simp [balanceOf, get?_modify, h, addToBalance]
  · simp [balanceOf, get?_modify, hk]

theorem balanceOf_paid {s : Store} {i : ℕ} {a : Account} (h : s.accounts.get? i = some a)
    (t : Transaction) (x : ℤ) (k : ℕ) :
    ((s.post t).add i (-x)).balanceOf k = s.balanceOf k - if i = k then x else 0 := by
  have hadd : ((s.post t).add i (-x)).balanceOf k = s.balanceOf k + if i = k then -x else 0 :=
    balanceOf_add (s := s.post t) h (-x) k
  split <;> omega

@[simp] theorem balanceOf_post : (s.post t).balanceOf i = s.balanceOf i := rfl
@[simp] theorem balanceOf_grant : (s.grant l).balanceOf i = s.balanceOf i := rfl
@[simp] theorem balanceOf_consumeLot : (s.consumeLot j x).balanceOf i = s.balanceOf i := rfl
@[simp] theorem balanceOf_expireLot : (s.expireLot j x).balanceOf i = s.balanceOf i := rfl
@[simp] theorem balanceOf_withCampaigns : (s.withCampaigns c).balanceOf i = s.balanceOf i :=
  rfl

@[simp] theorem availableRemaining_openAccount :
    (s.openAccount a).availableRemaining i = s.availableRemaining i := rfl
@[simp] theorem availableRemaining_post :
    (s.post t).availableRemaining i = s.availableRemaining i := rfl
@[simp] theorem availableRemaining_add :
    (s.add j x).availableRemaining i = s.availableRemaining i := rfl
@[simp] theorem availableRemaining_withCampaigns :
    (s.withCampaigns c).availableRemaining i = s.availableRemaining i := rfl

theorem availableRemaining_grant (hl : l.status = .completed) :
    (s.grant l).availableRemaining i =
      s.availableRemaining i + if l.accountId = i then l.available else 0 := by
  simp [availableRemaining, grant, hl]

theorem availableRemaining_consumeLot {s : Store} {j : ℕ} (h : s.allocations.get? j = some l)
    (hl : l.status = .completed) (x : ℤ) (i : ℕ) :
    (s.consumeLot j x).availableRemaining i =
      s.availableRemaining i - if l.accountId = i then x else 0 := by
  simp only [availableRemaining, consumeLot, sumBy_modify h, hl, and_true,
    Allocation.available]
  split <;> omega

theorem availableRemaining_expireLot {s : Store} {j : ℕ} (h : s.allocations.get? j = some l)
    (hl : l.status = .completed) (x : ℤ) (i : ℕ) :
    (s.expireLot j x).availableRemaining i =
      s.availableRemaining i - if l.accountId = i then x else 0 := by
  simp only [availableRemaining, expireLot, sumBy_modify h, hl, and_true,
    Allocation.available]
  split <;> omega

@[simp] theorem ledger_openAccount : (s.openAccount a).ledger i = s.ledger i := rfl
@[simp] theorem ledger_add : (s.add j x).ledger i = s.ledger i := rfl
@[simp] theorem ledger_grant : (s.grant l).ledger i = s.ledger i := rfl
@[simp] theorem ledger_consumeLot : (s.consumeLot j x).ledger i = s.ledger i := rfl
@[simp] theorem ledger_expireLot : (s.expireLot j x).ledger i = s.ledger i := rfl
@[simp] theorem ledger_withCampaigns : (s.withCampaigns c).ledger i = s.ledger i := rfl

theorem ledger_post :
    (s.post t).ledger i = if t.accountId = i then s.ledger i ++ [t] else s.ledger i := by
  by_cases h : t.accountId = i <;> simp [ledger, post, Table.insert, h]

end Updates

/-! ### Agreement -/

/-- What holds of the store whatever the methods did: no balance is negative, no
allocation gave more than it had, and rows refer to accounts that exist. -/
structure Valid (s : Store) : Prop where
  balance_nonneg : ∀ i a, s.accounts.get? i = some a → 0 ≤ a.balance
  lot_account : ∀ j l, s.allocations.get? j = some l → l.accountId < s.accounts.size
  lot_bounds : ∀ j l, s.allocations.get? j = some l →
    0 ≤ l.consumedAmount ∧ 0 ≤ l.expiredAmount ∧ l.consumedAmount + l.expiredAmount ≤ l.amount
  row_account : ∀ k t, s.transactions.get? k = some t → t.accountId < s.accounts.size

def Balanced (s : Store) : Prop :=
  ∀ i, s.balanceOf i = s.availableRemaining i

/-- The rows of a ledger are a chain that ends at `b`. -/
abbrev ChainedTo (rows : List Transaction) (b : ℤ) : Prop :=
  Ledger.Chained Transaction.balanceBefore Transaction.amount Transaction.balanceAfter rows b

def Chained (s : Store) : Prop := ∀ i, ChainedTo (s.ledger i) (s.balanceOf i)

theorem valid_empty : Valid empty := by
  constructor <;> simp [empty]

theorem balanced_empty : Balanced empty := by
  intro i
  simp [balanceOf, availableRemaining, empty]

theorem chained_empty : Chained empty := by
  intro i
  exact Ledger.chained_nil

theorem Balanced.drift_eq_zero {s : Store} (h : s.Balanced) {i : ℕ} {a : Account}
    (ha : s.accounts.get? i = some a) : s.drift ⟨i, a⟩ = 0 := by
  simp [drift, ← h i, balanceOf_of_get? ha]

theorem Balanced.available_le {s : Store} (h : s.Balanced) (hv : s.Valid) {j : ℕ}
    {l : Allocation} (hl : s.allocations.get? j = some l) (hc : l.status = .completed) :
    l.available ≤ s.balanceOf l.accountId := by
  rw [h l.accountId]
  have hle := le_sumBy hl (g := fun l' =>
    if l'.accountId = l.accountId ∧ l'.status = .completed then l'.available else 0) ?_
  · simpa [hc, availableRemaining] using hle
  · intro k l' hl'
    have hb := hv.lot_bounds k l' hl'
    simp only [Allocation.available]
    split <;> omega

/-! ### Validity of single updates -/

section Valid

variable {s : Store} {a : Account} {t : Transaction} {l : Allocation} {i j : ℕ} {x : ℤ}

theorem Valid.openAccount (h : s.Valid) (ha : 0 ≤ a.balance) : (s.openAccount a).Valid where
  balance_nonneg := by
    intro k b hk
    rw [accounts_openAccount, Table.get?_insert] at hk
    split at hk
    · obtain rfl := some_inj.mp hk
      exact ha
    · exact h.balance_nonneg k b hk
  lot_account k l hk := by
    have := h.lot_account k l hk
    simp only [accounts_openAccount, size_insert]
    omega
  lot_bounds := h.lot_bounds
  row_account k t hk := by
    have := h.row_account k t hk
    simp only [accounts_openAccount, size_insert]
    omega

theorem Valid.post (h : s.Valid) (ht : t.accountId < s.accounts.size) : (s.post t).Valid where
  balance_nonneg := h.balance_nonneg
  lot_account := h.lot_account
  lot_bounds := h.lot_bounds
  row_account k u hk := by
    rw [Store.post, Table.get?_insert] at hk
    split at hk
    · obtain rfl := some_inj.mp hk
      exact ht
    · exact h.row_account k u hk

theorem Valid.add (h : s.Valid) (ha : s.accounts.get? i = some a) (hx : 0 ≤ a.balance + x) :
    (s.add i x).Valid where
  balance_nonneg k b hk := by
    rw [accounts_add, get?_modify] at hk
    split at hk
    · next hik =>
        subst hik
        rw [ha, map_some, some_inj] at hk
        subst hk
        exact hx
    · exact h.balance_nonneg k b hk
  lot_account k l hk := by simpa using h.lot_account k l hk
  lot_bounds := h.lot_bounds
  row_account k t hk := by simpa using h.row_account k t hk

theorem Valid.grant (h : s.Valid) (hl : l.accountId < s.accounts.size)
    (hb : 0 ≤ l.consumedAmount ∧ 0 ≤ l.expiredAmount ∧
      l.consumedAmount + l.expiredAmount ≤ l.amount) : (s.grant l).Valid where
  balance_nonneg := h.balance_nonneg
  lot_account k m hk := by
    rw [Store.grant, Table.get?_insert] at hk
    split at hk
    · obtain rfl := some_inj.mp hk
      exact hl
    · exact h.lot_account k m hk
  lot_bounds k m hk := by
    rw [Store.grant, Table.get?_insert] at hk
    split at hk
    · obtain rfl := some_inj.mp hk
      exact hb
    · exact h.lot_bounds k m hk
  row_account := h.row_account

theorem Valid.modifyLot (h : s.Valid) (f : Allocation → Allocation)
    (hf : ∀ m, (f m).accountId = m.accountId) (hl : s.allocations.get? j = some l)
    (hb : 0 ≤ (f l).consumedAmount ∧ 0 ≤ (f l).expiredAmount ∧
      (f l).consumedAmount + (f l).expiredAmount ≤ (f l).amount) :
    Valid { s with allocations := s.allocations.modify j f } where
  balance_nonneg := h.balance_nonneg
  lot_account k m hk := by
    simp only [get?_modify] at hk
    split at hk
    · obtain ⟨m', hm', rfl⟩ := map_eq_some_iff.mp hk
      rw [hf]
      exact h.lot_account k m' hm'
    · exact h.lot_account k m hk
  lot_bounds k m hk := by
    simp only [get?_modify] at hk
    split at hk
    · next hjk =>
        subst hjk
        rw [hl, map_some, some_inj] at hk
        subst hk
        exact hb
    · exact h.lot_bounds k m hk
  row_account := h.row_account

theorem Valid.consumeLot (h : s.Valid) (hl : s.allocations.get? j = some l) (hx : 0 ≤ x)
    (hxl : x ≤ l.available) : (s.consumeLot j x).Valid := by
  have hb := h.lot_bounds j l hl
  refine h.modifyLot _ (fun _ => rfl) hl ?_
  simp only [Allocation.available] at hxl ⊢
  omega

theorem Valid.expireLot (h : s.Valid) (hl : s.allocations.get? j = some l) (hx : 0 ≤ x)
    (hxl : x ≤ l.available) : (s.expireLot j x).Valid := by
  have hb := h.lot_bounds j l hl
  refine h.modifyLot _ (fun _ => rfl) hl ?_
  simp only [Allocation.available] at hxl ⊢
  omega

end Valid

end Store

/-! ### Moves -/

/-- The row `t` puts the amount `x` of account `i` on the ledger, on top of `before`. -/
structure Posts (t : Transaction) (i : ℕ) (before x : ℤ) : Prop where
  account : t.accountId = i
  amount : t.amount = x
  start : t.balanceBefore = before
  stop : t.balanceAfter = before + x

inductive MoveKind where
  | opened
  | campaign
  | granted
  | spent
  | expired
  | transferred
  /-- A ledger row whose change of balance was refused. -/
  | announced
  /-- An expiry whose debit was refused. -/
  | expiredUnpaid
  /-- A transfer of an account to itself. -/
  | selfTransferred
  deriving DecidableEq, Repr

/-- A new allocation of `x` credits for account `i`. -/
structure IsGrant (l : Allocation) (i : ℕ) (x : ℤ) : Prop where
  account : l.accountId = i
  amount : l.amount = x
  consumed : l.consumedAmount = 0
  expired : l.expiredAmount = 0
  status : l.status = .completed

/-- The completed allocation `l` of account `i` has at least `x > 0` left. -/
structure Offers (l : Allocation) (i : ℕ) (x : ℤ) : Prop where
  account : l.accountId = i
  status : l.status = .completed
  pos : 0 < x
  le : x ≤ l.available

open Store in
inductive Move : MoveKind → Store → Store → Prop where
  | opened {s : Store} {a : Account} : a.balance = 0 → Move .opened s (s.openAccount a)
  | campaign {s : Store} {c : Table Campaign} : Move .campaign s (s.withCampaigns c)
  | granted {s : Store} {i : ℕ} {a : Account} {x : ℤ} {t : Transaction} {l : Allocation} :
      s.accounts.get? i = some a → 0 < x → Posts t i a.balance x → IsGrant l i x →
      Move .granted s (((s.post t).add i x).grant l)
  | spent {s : Store} {i j : ℕ} {a : Account} {x : ℤ} {t : Transaction} {l : Allocation} :
      s.accounts.get? i = some a → s.allocations.get? j = some l → Offers l i x →
      x ≤ a.balance → Posts t i a.balance (-x) →
      Move .spent s (((s.post t).add i (-x)).consumeLot j x)
  | expired {s : Store} {i j : ℕ} {a : Account} {x : ℤ} {t : Transaction} {l : Allocation} :
      s.accounts.get? i = some a → s.allocations.get? j = some l → Offers l i x →
      x ≤ a.balance → Posts t i a.balance (-x) →
      Move .expired s (((s.post t).add i (-x)).expireLot j x)
  | transferred {s : Store} {i j : ℕ} {a b : Account} {x : ℤ} {t u : Transaction} :
      s.accounts.get? i = some a → s.accounts.get? j = some b → i ≠ j → 0 < x →
      x ≤ a.balance → Posts t i a.balance (-x) → Posts u j b.balance x →
      Move .transferred s ((((s.post t).post u).add i (-x)).add j x)
  | announced {s : Store} {i : ℕ} {a : Account} {x : ℤ} {t : Transaction} :
      s.accounts.get? i = some a → 0 < x → Posts t i a.balance (-x) →
      Move .announced s (s.post t)
  | expiredUnpaid {s : Store} {i j : ℕ} {a : Account} {x : ℤ} {t : Transaction}
      {l : Allocation} :
      s.accounts.get? i = some a → s.allocations.get? j = some l → Offers l i x →
      a.balance < x → Posts t i a.balance (-x) →
      Move .expiredUnpaid s ((s.post t).expireLot j x)
  | selfTransferred {s : Store} {i : ℕ} {a : Account} {x : ℤ} {t u : Transaction} :
      s.accounts.get? i = some a → 0 < x → x ≤ a.balance → Posts t i a.balance (-x) →
      Posts u i a.balance x →
      Move .selfTransferred s ((((s.post t).post u).add i (-x)).add i x)

namespace Move

variable {k : MoveKind} {s s' : Store} {t : Transaction} {a : Account} {x : ℤ} {i : ℕ} {s : Store}

theorem valid (h : Move k s s') (hs : s.Valid) : s'.Valid := by
  cases h with
  | opened ha => exact hs.openAccount ha.ge
  | campaign => exact ⟨hs.balance_nonneg, hs.lot_account, hs.lot_bounds, hs.row_account⟩
  | granted ha hx ht hl =>
    have hi := lt_size_of_get? ha
    have hnonneg := hs.balance_nonneg _ _ ha
    refine ((hs.post (ht.account ▸ hi)).add ha (by omega)).grant ?_ ?_
    · simpa [hl.account] using hi
    · simp only [hl.consumed, hl.expired, hl.amount]
      omega
  | spent ha hl ho hx ht =>
    have hi := lt_size_of_get? ha
    exact ((hs.post (ht.account ▸ hi)).add ha (by omega)).consumeLot hl ho.pos.le ho.le
  | expired ha hl ho hx ht =>
    have hi := lt_size_of_get? ha
    exact ((hs.post (ht.account ▸ hi)).add ha (by omega)).expireLot hl ho.pos.le ho.le
  | @transferred _ i j a b x t u ha hb hij hx hxa ht hu =>
    have hi := lt_size_of_get? ha
    have hj := lt_size_of_get? hb
    have hnonneg := hs.balance_nonneg _ _ hb
    have hb' : (((s.post t).post u).add i (-x)).accounts.get? j = some b := by
      simpa [get?_modify, hij] using hb
    exact (((hs.post (ht.account ▸ hi)).post (hu.account ▸ hj)).add ha (by omega)).add hb'
      (by omega)
  | announced ha hx ht => exact hs.post (ht.account ▸ lt_size_of_get? ha)
  | expiredUnpaid ha hl ho hx ht =>
    exact (hs.post (ht.account ▸ lt_size_of_get? ha)).expireLot hl ho.pos.le ho.le
  | @selfTransferred _ i a x t u ha hx hxa ht hu =>
    have hi := lt_size_of_get? ha
    have ha' : (((s.post t).post u).add i (-x)).accounts.get? i =
        some (addToBalance (-x) a) := by
      simp [get?_modify, ha]
    refine (((hs.post (ht.account ▸ hi)).post (hu.account ▸ hi)).add ha (by omega)).add
      ha' ?_
    simp only [addToBalance]
    omega

theorem balanced (h : Move k s s') (hk : k ≠ .transferred) (hs : s.Valid)
    (hbal : s.Balanced) : s'.Balanced := by
  intro n
  have hn := hbal n
  cases h with
  | opened ha => simpa [balanceOf_openAccount _ _ _ ha] using hn
  | campaign => simpa using hn
  | @granted _ i a x t l ha hx ht hl =>
    have hbalance : (((s.post t).add i x).grant l).balanceOf n =
        s.balanceOf n + if i = n then x else 0 := balanceOf_add ha x n
    rw [hbalance, availableRemaining_grant _ _ hl.status]
    simp [hn, Allocation.available, hl.account, hl.amount, hl.consumed, hl.expired]
  | @spent _ i j a x t l ha hl ho hx ht =>
    have hbalance : (((s.post t).add i (-x)).consumeLot j x).balanceOf n =
        s.balanceOf n + if i = n then -x else 0 := balanceOf_add ha (-x) n
    have hl' : ((s.post t).add i (-x)).allocations.get? j = some l := hl
    rw [hbalance, availableRemaining_consumeLot hl' ho.status, ho.account]
    simp only [availableRemaining_add, availableRemaining_post]
    split <;> omega
  | @expired _ i j a x t l ha hl ho hx ht =>
    have hbalance : (((s.post t).add i (-x)).expireLot j x).balanceOf n =
        s.balanceOf n + if i = n then -x else 0 := balanceOf_add ha (-x) n
    have hl' : ((s.post t).add i (-x)).allocations.get? j = some l := hl
    rw [hbalance, availableRemaining_expireLot hl' ho.status, ho.account]
    simp only [availableRemaining_add, availableRemaining_post]
    split <;> omega
  | transferred => exact absurd rfl hk
  | announced => simpa using hn
  | @expiredUnpaid _ i j a x t l ha hl ho hx ht =>
    have hle := hbal.available_le hs hl ho.status
    rw [ho.account, balanceOf_of_get? ha] at hle
    have := ho.le
    omega
  | @selfTransferred _ i a x t u ha hx hxa ht hu =>
    have ha' : (((s.post t).post u).add i (-x)).accounts.get? i =
        some (addToBalance (-x) a) := by
      simp [get?_modify, ha]
    have hbalance : ((((s.post t).post u).add i (-x)).add i x).balanceOf n =
        s.balanceOf n := by
      have hposted : ((s.post t).post u).accounts.get? i = some a := ha
      rw [balanceOf_add ha', balanceOf_add hposted]
      simp only [balanceOf_post]
      split <;> omega
    rw [hbalance, hn]
    simp

theorem drift_of_transferred (h : Move .transferred s s') (hbal : s.Balanced) :
    ∃ i a, s'.accounts.get? i = some a ∧ s'.drift ⟨i, a⟩ ≠ 0 := by
  cases h with
  | @transferred _ i j a b x t u ha hb hij hx hxa ht hu =>
    refine ⟨i, addToBalance (-x) a, ?_, ?_⟩
    · simp [get?_modify, ha, hij.symm]
    · have hi := hbal i
      rw [balanceOf_of_get? ha] at hi
      simp only [drift, addToBalance, availableRemaining_add,
        availableRemaining_post]
      omega

def Regular (k : MoveKind) : Prop :=
  k ≠ .announced ∧ k ≠ .expiredUnpaid ∧ k ≠ .selfTransferred

/-- A row for account `i` together with its change of balance keeps the ledgers. -/
theorem chained_post_add (hs : s.Chained) (ha : s.accounts.get? i = some a)
    (ht : Posts t i a.balance x) : ((s.post t).add i x).Chained := by
  intro n
  have hbalance : ((s.post t).add i x).balanceOf n =
      s.balanceOf n + if i = n then x else 0 := balanceOf_add ha x n
  rw [hbalance, ledger_add, ledger_post, ht.account]
  rcases eq_or_ne i n with rfl | hn
  · have hlast := (hs i).snoc (r := t) (by rw [ht.start, balanceOf_of_get? ha])
      (by rw [ht.stop, ht.start, ht.amount])
    simpa [ht.amount] using hlast
  · simpa [hn] using hs n

theorem chained (h : Move k s s') (hk : Regular k) (hs : s.Chained) : s'.Chained := by
  cases h with
  | opened ha =>
    intro n
    rw [balanceOf_openAccount _ _ _ ha]
    exact hs n
  | campaign => exact hs
  | granted ha hx ht hl => exact chained_post_add hs ha ht
  | spent ha hl ho hx ht => exact chained_post_add hs ha ht
  | expired ha hl ho hx ht => exact chained_post_add hs ha ht
  | @transferred _ i j a b x t u ha hb hij hx hxa ht hu =>
    have hb' : ((s.post t).add i (-x)).accounts.get? j = some b := by
      simpa [get?_modify, hij] using hb
    exact chained_post_add (chained_post_add hs ha ht) hb' hu
  | announced => exact absurd rfl hk.1
  | expiredUnpaid => exact absurd rfl hk.2.1
  | selfTransferred => exact absurd rfl hk.2.2

theorem chainedTo_of_post {n : ℕ} {c b : ℤ} (ht : Posts t i c x)
    (h : ChainedTo ((s.post t).ledger n) b) :
    if i = n then ChainedTo (s.ledger n) c ∧ c + x = b
    else ChainedTo (s.ledger n) b := by
  rw [ledger_post, ht.account] at h
  split
  · next hn =>
      rw [if_pos hn] at h
      have hinit := h.init
      have hbalance := h.balance_eq
      rw [ht.start] at hinit
      rw [ht.start, ht.amount] at hbalance
      exact ⟨hinit, hbalance⟩
  · next hn =>
      rw [if_neg hn] at h
      exact h

theorem chainedTo_of_post_add {n : ℕ} (ha : s.accounts.get? i = some a) (ht : Posts t i a.balance x)
    (h : ChainedTo ((s.post t).ledger n) (((s.post t).add i x).balanceOf n)) :
    ChainedTo (s.ledger n) (s.balanceOf n) := by
  have hbefore := chainedTo_of_post ht h
  have hbalance : ((s.post t).add i x).balanceOf n = s.balanceOf n + if i = n then x else 0 :=
    balanceOf_add ha x n
  split at hbefore
  · next hn =>
      subst hn
      rw [balanceOf_of_get? ha]
      exact hbefore.1
  · next hn =>
      rw [hbalance, if_neg hn, add_zero] at hbefore
      exact hbefore

theorem not_chainedTo_of_announced (ha : s.accounts.get? i = some a) (hx : 0 < x)
    (ht : Posts t i a.balance (-x)) : ¬ChainedTo ((s.post t).ledger i) (s.balanceOf i) := by
  intro h
  have hbefore := chainedTo_of_post ht h
  rw [if_pos rfl, balanceOf_of_get? ha] at hbefore
  omega

theorem not_chainedTo_of_selfTransferred {u : Transaction} {b : ℤ} (hx : 0 < x)
    (ht : Posts t i a.balance (-x)) (hu : Posts u i a.balance x) :
    ¬ChainedTo (((s.post t).post u).ledger i) b := by
  intro h
  have hlast := chainedTo_of_post hu h
  rw [if_pos rfl] at hlast
  have hfirst := chainedTo_of_post ht hlast.1
  rw [if_pos rfl] at hfirst
  omega

/-- **Irregular moves break a ledger.** -/
theorem not_chained_of_not_regular (h : Move k s s') (hk : ¬Regular k) : ¬s'.Chained := by
  intro hs
  cases h with
  | announced ha hx ht => exact not_chainedTo_of_announced ha hx ht (hs _)
  | expiredUnpaid ha hl ho hx ht => exact not_chainedTo_of_announced ha ho.pos ht (hs _)
  | selfTransferred ha hx hxa ht hu => exact not_chainedTo_of_selfTransferred hx ht hu (hs _)
  | _ => exact hk (by simp [Regular])

/-- **A broken ledger stays broken**: no move leads from it to chained ledgers. -/
theorem chained_of_chained (h : Move k s s') (hs : s'.Chained) : s.Chained := by
  intro n
  have hn := hs n
  cases h with
  | opened ha =>
    rw [balanceOf_openAccount _ _ _ ha] at hn
    exact hn
  | campaign => exact hn
  | granted ha hx ht hl => exact chainedTo_of_post_add ha ht hn
  | spent ha hl ho hx ht => exact chainedTo_of_post_add ha ht hn
  | expired ha hl ho hx ht => exact chainedTo_of_post_add ha ht hn
  | @transferred _ i j a b x t u ha hb hij hx hxa ht hu =>
    have hb' : ((s.post t).add i (-x)).accounts.get? j = some b :=
      (get?_modify_ne hij _ _).trans hb
    exact chainedTo_of_post_add ha ht (chainedTo_of_post_add hb' hu hn)
  | announced ha hx ht => exact absurd (hs _) (not_chainedTo_of_announced ha hx ht)
  | expiredUnpaid ha hl ho hx ht => exact absurd (hs _) (not_chainedTo_of_announced ha ho.pos ht)
  | selfTransferred ha hx hxa ht hu =>
    exact absurd (hs _) (not_chainedTo_of_selfTransferred hx ht hu)

end Move

/-- Some moves, each of a kind in `K`. -/
def Moves (K : MoveKind → Prop) : Store → Store → Prop :=
  Relation.ReflTransGen fun s s' => ∃ k, K k ∧ Move k s s'

namespace Moves

variable {K K' : MoveKind → Prop} {k : MoveKind} {s s' s'' : Store}

theorem refl : Moves K s s := Relation.ReflTransGen.refl

theorem of_move (hk : K k) (h : Move k s s') : Moves K s s' :=
  Relation.ReflTransGen.single ⟨k, hk, h⟩

theorem trans (h : Moves K s s') (h' : Moves K s' s'') : Moves K s s'' :=
  Relation.ReflTransGen.trans h h'

theorem mono (h : Moves K s s') (hK : ∀ k, K k → K' k) : Moves K' s s' :=
  Relation.ReflTransGen.mono (fun _ _ ⟨k, hk, hm⟩ => ⟨k, hK k hk, hm⟩) _ _ h

/-- What every move of the kinds `K` keeps, some moves keep. -/
theorem keeps {P : Store → Prop} (h : Moves K s s')
    (hP : ∀ k s s', K k → Move k s s' → P s → P s') (hs : P s) : P s' := by
  induction h with
  | refl => exact hs
  | tail _ hstep ih =>
    obtain ⟨k, hk, hm⟩ := hstep
    exact hP k _ _ hk hm ih

theorem valid (h : Moves K s s') (hs : s.Valid) : s'.Valid :=
  h.keeps (fun _ _ _ _ hm => hm.valid) hs

theorem balanced (h : Moves K s s') (hK : ¬K .transferred) (hs : s.Valid ∧ s.Balanced) :
    s'.Valid ∧ s'.Balanced := by
  refine h.keeps (P := fun s => s.Valid ∧ s.Balanced) (fun k s s' hk hm hs => ?_) hs
  refine ⟨hm.valid hs.1, hm.balanced ?_ hs.1 hs.2⟩
  rintro rfl
  exact hK hk

theorem chained (h : Moves K s s') (hK : ∀ k, K k → Move.Regular k) (hs : s.Chained) :
    s'.Chained :=
  h.keeps (fun k _ _ hk hm hs => hm.chained (hK k hk) hs) hs

theorem chained_of_chained (h : Moves K s s') (hs : s'.Chained) : s.Chained := by
  induction h with
  | refl => exact hs
  | tail _ hstep ih =>
    obtain ⟨k, -, hm⟩ := hstep
    exact ih (hm.chained_of_chained hs)

theorem get?_of_opened (h : Moves (· = .opened) s s') {i : ℕ} {a : Account}
    (ha : s.accounts.get? i = some a) : s'.accounts.get? i = some a := by
  refine h.keeps (P := fun s => s.accounts.get? i = some a) (fun k s s' hk hm ha => ?_) ha
  subst hk
  cases hm with
  | opened => exact get?_insert_of_some ha _

end Moves

end IsaUser.Credit
