import IsaUser.Credit.Books
import IsaUser.Credit.Service
import IsaUser.Lib.Debits

/-!
# Consumption Plans

Which credits a consumption takes, as a function of the store: `Store.creditLots` are the
live allocations of some accounts, `Store.consumptionPlan` cuts an amount from them in
order of expiry, priority and age, and `planDebits` is the plan as debits of accounts.

A plan can be carried out on the allocations: `allReady_consumptionPlan` says that its items
name different allocations, each of which offers what the item takes. It cuts the whole
amount exactly when there is enough: `sum_consumptionPlan`. Whether the balances can pay
for it is another matter, for which nothing is promised here.
-/

open List

namespace IsaUser.Credit

open CreditService

/-! ### Taking from credits in order -/

section TakeCredits

variable {n : ℤ} {credits : List CreditLot}

theorem exists_of_mem_takeCredits (hpos : ∀ c ∈ credits, 0 < c.available) {item : PlanItem}
    (hitem : item ∈ takeCredits n credits) :
    ∃ c ∈ credits, item.accountId = c.accountId ∧ item.allocationId = c.allocationId ∧
      item.creditType = c.creditType ∧ 0 < item.amount ∧ item.amount ≤ c.available := by
  induction credits generalizing n with
  | nil => cases hitem
  | cons c credits ih =>
    have hc := hpos c mem_cons_self
    rw [takeCredits] at hitem
    split at hitem
    · cases hitem
    · rcases mem_cons.mp hitem with rfl | hitem
      · exact ⟨c, mem_cons_self, rfl, rfl, rfl, by simp only; omega, by simp only; omega⟩
      · obtain ⟨c', hc', h⟩ :=
          ih (fun c hc => hpos c (mem_cons_of_mem _ hc)) hitem
        exact ⟨c', mem_cons_of_mem _ hc', h⟩

theorem takeCredits_sublist (n : ℤ) (credits : List CreditLot) :
    ((takeCredits n credits).map (·.allocationId)).Sublist (credits.map (·.allocationId)) := by
  induction credits generalizing n with
  | nil => exact Sublist.refl _
  | cons c credits ih =>
    rw [takeCredits]
    split
    · exact nil_sublist _
    · exact (ih _).cons_cons _

theorem sum_takeCredits (hn : 0 ≤ n) (hpos : ∀ c ∈ credits, 0 < c.available) :
    ((takeCredits n credits).map (·.amount)).sum = min n (credits.map (·.available)).sum := by
  induction credits generalizing n with
  | nil => simp [takeCredits, hn]
  | cons c credits ih =>
    have hc := hpos c mem_cons_self
    have hpos' : ∀ c ∈ credits, 0 < c.available :=
      fun c hc => hpos c (mem_cons_of_mem _ hc)
    have hrest : 0 ≤ (credits.map (·.available)).sum := by
      refine sum_nonneg fun x hx => ?_
      obtain ⟨c, hc, rfl⟩ := mem_map.mp hx
      exact (hpos' c hc).le
    rw [takeCredits, map_cons, sum_cons]
    split
    · simp only [map_nil, sum_nil]
      omega
    · rw [map_cons, sum_cons, ih (by omega) hpos']
      simp only
      omega

end TakeCredits

/-! ### The credits of some accounts -/

namespace Store

variable {s : Store} {now : Timestamp} {accounts : List (Row Account)} {c : CreditLot}

def lotsOf (s : Store) (now : Timestamp) (account : Row Account) : List CreditLot :=
  ((s.getAvailableCreditsFifo account.id now).filter (0 < ·.val.available)).map
    (toCreditLot account)

/-- What the first loop of `_build_consumption_plan` collects. -/
def creditLots (s : Store) (now : Timestamp) (accounts : List (Row Account)) :
    List CreditLot :=
  accounts.flatMap (s.lotsOf now)

/-- The plan `_build_consumption_plan` answers. -/
def consumptionPlan (s : Store) (now : Timestamp) (accounts : List (Row Account))
    (amount : ℤ) : List PlanItem :=
  takeCredits amount (orderBy CreditLot.key (s.creditLots now accounts))

/-- The credit `c` is a live allocation of the account. -/
structure IsLotOf (s : Store) (c : CreditLot) (account : Row Account) : Prop where
  account_id : c.accountId = account.id
  credit_type : c.creditType = account.val.creditType
  offers : ∃ l, s.allocations.get? c.allocationId = some l ∧ Offers l account.id c.available

theorem isLotOf_of_mem_lotsOf {account : Row Account} (hc : c ∈ s.lotsOf now account) :
    s.IsLotOf c account := by
  obtain ⟨row, hrow, rfl⟩ := mem_map.mp hc
  obtain ⟨hrow, hpos⟩ := mem_filter.mp hrow
  rw [getAvailableCreditsFifo, mem_orderBy, Table.mem_select] at hrow
  obtain ⟨hget, hcond⟩ := hrow
  obtain ⟨hid, hstatus, -, -⟩ := of_decide_eq_true hcond
  exact ⟨rfl, rfl, row.val, hget, hid, hstatus, of_decide_eq_true hpos, le_rfl⟩

theorem exists_of_mem_creditLots (hc : c ∈ s.creditLots now accounts) :
    ∃ account ∈ accounts, s.IsLotOf c account := by
  obtain ⟨account, haccount, hc⟩ := mem_flatMap.mp hc
  exact ⟨account, haccount, isLotOf_of_mem_lotsOf hc⟩

theorem pos_of_mem_creditLots (hc : c ∈ s.creditLots now accounts) : 0 < c.available := by
  obtain ⟨account, -, -, -, l, -, ho⟩ := exists_of_mem_creditLots hc
  exact ho.pos

theorem nodup_lotsOf (s : Store) (now : Timestamp) (account : Row Account) :
    ((s.lotsOf now account).map (·.allocationId)).Nodup := by
  have hids : (((s.getAvailableCreditsFifo account.id now).filter
      (0 < ·.val.available)).map Row.id).Nodup := by
    refine (filter_sublist.map Row.id).nodup ?_
    rw [getAvailableCreditsFifo, nodup_map_orderBy]
    exact Table.nodup_select_id _ _
  rw [lotsOf, map_map]
  exact hids

theorem nodup_creditLots (h : (accounts.map (·.id)).Nodup) :
    ((s.creditLots now accounts).map (·.allocationId)).Nodup := by
  rw [creditLots, map_flatMap, nodup_flatMap]
  refine ⟨fun account _ => nodup_lotsOf s now account, (pairwise_map.mp h).imp ?_⟩
  intro a b hab j hja hjb
  obtain ⟨c, hc, rfl⟩ := mem_map.mp hja
  obtain ⟨c', hc', hcc'⟩ := mem_map.mp hjb
  obtain ⟨-, -, l, hl, ho⟩ := isLotOf_of_mem_lotsOf hc
  obtain ⟨-, -, l', hl', ho'⟩ := isLotOf_of_mem_lotsOf hc'
  rw [hcc', hl] at hl'
  obtain rfl := Option.some_inj.mp hl'
  exact hab (ho.account.symm.trans ho'.account)

/-! ### Plans that can be carried out -/

/-- The account of the item exists, and an allocation offers what the item takes. -/
structure Ready (s : Store) (item : PlanItem) : Prop where
  account : ∃ a, s.accounts.get? item.accountId = some a ∧ a.creditType = item.creditType
  offers : ∃ l, s.allocations.get? item.allocationId = some l ∧
    Offers l item.accountId item.amount

structure AllReady (s : Store) (plan : List PlanItem) : Prop where
  ready : ∀ item ∈ plan, s.Ready item
  nodup : (plan.map (·.allocationId)).Nodup

theorem Ready.pos {item : PlanItem} (h : s.Ready item) : 0 < item.amount := by
  obtain ⟨l, -, ho⟩ := h.offers
  exact ho.pos

theorem AllReady.tail {item : PlanItem} {plan : List PlanItem} (h : s.AllReady (item :: plan))
    (t : Transaction) :
    (((s.post t).add item.accountId (-item.amount)).consumeLot item.allocationId
      item.amount).AllReady plan := by
  have hnodup := nodup_cons.mp h.nodup
  refine ⟨fun other hother => ?_, hnodup.2⟩
  obtain ⟨⟨a, ha, htype⟩, l, hl, ho⟩ := h.ready other (mem_cons_of_mem _ hother)
  have hne : item.allocationId ≠ other.allocationId := by
    intro heq
    exact hnodup.1 (mem_map.mpr ⟨other, hother, heq.symm⟩)
  refine ⟨?_, l, (Table.get?_modify_ne hne _ _).trans hl, ho⟩
  simp only [accounts_consumeLot, accounts_add, accounts_post, Table.get?_modify]
  split
  · exact ⟨addToBalance (-item.amount) a, by rw [ha, Option.map_some], htype⟩
  · exact ⟨a, ha, htype⟩

structure Lists (s : Store) (accounts : List (Row Account)) : Prop where
  get? : ∀ account ∈ accounts, s.accounts.get? account.id = some account.val
  nodup : (accounts.map (·.id)).Nodup

theorem lists_getActiveAccounts (s : Store) (u : PyStr) : s.Lists (s.getActiveAccounts u) where
  get? account h := by
    rw [getActiveAccounts, mem_orderBy] at h
    exact (Table.mem_select.mp h).1
  nodup := by
    rw [getActiveAccounts, nodup_map_orderBy]
    exact Table.nodup_select_id _ _

section Plan

variable {amount : ℤ}

theorem exists_of_mem_consumptionPlan {item : PlanItem}
    (hitem : item ∈ s.consumptionPlan now accounts amount) :
    ∃ account ∈ accounts, item.accountId = account.id ∧
      item.creditType = account.val.creditType ∧ 0 < item.amount ∧
      ∃ l, s.allocations.get? item.allocationId = some l ∧
        Offers l item.accountId item.amount := by
  have hpos : ∀ c ∈ orderBy CreditLot.key (s.creditLots now accounts), 0 < c.available :=
    fun c hc => pos_of_mem_creditLots ((mem_orderBy _ _).mp hc)
  obtain ⟨c, hc, hid, halloc, htype, hx, hle⟩ := exists_of_mem_takeCredits hpos hitem
  obtain ⟨account, haccount, hcid, hctype, l, hl, ho⟩ :=
    exists_of_mem_creditLots ((mem_orderBy _ _).mp hc)
  refine ⟨account, haccount, hid.trans hcid, htype.trans hctype, hx, l, halloc ▸ hl, ?_⟩
  exact ⟨ho.account.trans (hid.trans hcid).symm, ho.status, hx, hle.trans ho.le⟩

/-- **A plan can be carried out** on the allocations. -/
theorem allReady_consumptionPlan (h : s.Lists accounts) :
    s.AllReady (s.consumptionPlan now accounts amount) where
  ready item hitem := by
    obtain ⟨account, haccount, hid, htype, -, hoffers⟩ := exists_of_mem_consumptionPlan hitem
    exact ⟨⟨account.val, hid ▸ h.get? account haccount, htype.symm⟩, hoffers⟩
  nodup := by
    refine (takeCredits_sublist _ _).nodup ?_
    rw [nodup_map_orderBy]
    exact nodup_creditLots h.nodup

/-- **A plan takes the whole amount**, or all the credits there are. -/
theorem sum_consumptionPlan (ha : 0 ≤ amount) :
    ((s.consumptionPlan now accounts amount).map (·.amount)).sum =
      min amount ((s.creditLots now accounts).map (·.available)).sum := by
  have hpos : ∀ c ∈ orderBy CreditLot.key (s.creditLots now accounts), 0 < c.available :=
    fun c hc => pos_of_mem_creditLots ((mem_orderBy _ _).mp hc)
  rw [consumptionPlan, sum_takeCredits ha hpos, sum_map_orderBy]

end Plan

end Store

def planDebits (plan : List PlanItem) : List (ℕ × ℤ) :=
  plan.map fun item => (item.accountId, item.amount)

end IsaUser.Credit
