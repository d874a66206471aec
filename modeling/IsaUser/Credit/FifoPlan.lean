import IsaUser.Credit.Operations

/-!
# Plans in Order of Expiry

`_build_consumption_plan` takes an amount from the available allocations of some accounts: those
that expire first come first, then the types of the credits count, then their age. An allocation is
touched only after all that come before it are taken in full.

An allocation that never expires gets a `datetime` to be sorted by, while the repository gives dates
as texts. Texts of dates in one zone are in the order of the dates, but a text and a `datetime`
cannot be compared.
-/

open List

namespace IsaUser.Credit

open CreditService

/-! ### The law -/

/-- The credit `c` has to be taken before `d`: it expires earlier, where what never expires comes
last; or at the same time, and its type comes first; or it is of that type and older. -/
def CreditService.CreditLot.Before (c d : CreditLot) : Prop :=
  nullsLast c.expiresAt < nullsLast d.expiresAt ∨
    nullsLast c.expiresAt = nullsLast d.expiresAt ∧
      (c.priority < d.priority ∨ c.priority = d.priority ∧ c.createdAt < d.createdAt)

structure IsFifoPlan (credits : List CreditLot) (amount : ℤ) (plan : List PlanItem) : Prop where
  /-- The items name different allocations. -/
  distinct : (plan.map (·.allocationId)).Nodup
  /-- An item takes something, and no more than there is. -/
  bounded : ∀ item ∈ plan, ∃ c ∈ credits, item.accountId = c.accountId ∧
    item.allocationId = c.allocationId ∧ 0 < item.amount ∧ item.amount ≤ c.available
  /-- The plan takes the amount, or all there is. -/
  total : (plan.map (·.amount)).sum = min amount (credits.map (·.available)).sum
  /-- What comes before an allocation that is touched is taken in full. -/
  greedy : ∀ c ∈ credits, (∃ item ∈ plan, item.allocationId = c.allocationId) →
    ∀ d ∈ credits, d.Before c →
      ∃ item ∈ plan, item.allocationId = d.allocationId ∧ item.amount = d.available

def MixesExpiries (s : Store) (now : Timestamp) (accounts : List (Row Account)) : Prop :=
  (∃ account ∈ accounts, ∃ row ∈ s.getAvailableCreditsFifo account.id now,
    row.val.expiresAt = none) ∧
  ∃ account ∈ accounts, ∃ row ∈ s.getAvailableCreditsFifo account.id now,
    row.val.expiresAt ≠ none

instance (s : Store) (now : Timestamp) (accounts : List (Row Account)) :
    Decidable (MixesExpiries s now accounts) :=
  inferInstanceAs (Decidable (_ ∧ _))

/-! ### The order -/

theorem CreditService.CreditLot.before_iff {c d : CreditLot} : c.Before d ↔ c.key < d.key := by
  simp [CreditLot.Before, CreditLot.key, Prod.Lex.toLex_lt_toLex]

/-! ### Taking in order -/

section TakeCredits

variable {n : ℤ} {credits : List CreditLot} {c d : CreditLot}

theorem takeCredits_of_nonpos (h : n ≤ 0) (credits : List CreditLot) :
    takeCredits n credits = [] := by
  cases credits with
  | nil => rfl
  | cons c credits => rw [takeCredits, if_pos h]

/-- **All that comes before is taken in full**, by induction on the credits. -/
theorem full_of_mem_takeCredits (hdistinct : (credits.map (·.allocationId)).Nodup)
    (hsub : [d, c].Sublist credits)
    (hc : ∃ item ∈ takeCredits n credits, item.allocationId = c.allocationId) :
    ∃ item ∈ takeCredits n credits, item.allocationId = d.allocationId ∧
      item.amount = d.available := by
  induction credits generalizing n with
  | nil => cases hsub
  | cons first credits ih =>
    obtain ⟨hfirst, hdistinct⟩ := nodup_cons.mp hdistinct
    have hmem : c ∈ credits := by
      cases hsub with
      | cons _ h => exact h.subset (mem_cons_of_mem _ mem_cons_self)
      | cons_cons _ h => exact singleton_sublist.mp h
    obtain ⟨item, hitem, hid⟩ := hc
    rw [takeCredits] at hitem ⊢
    split at hitem
    · cases hitem
    · next hn =>
        rw [if_neg hn]
        rcases mem_cons.mp hitem with rfl | hitem
        · exact absurd (mem_map.mpr ⟨c, hmem, hid.symm⟩) hfirst
        · cases hsub with
          | cons _ h =>
            obtain ⟨item', hitem', hfull⟩ := ih hdistinct h ⟨item, hitem, hid⟩
            exact ⟨item', mem_cons_of_mem _ hitem', hfull⟩
          | cons_cons _ _ =>
            refine ⟨_, mem_cons_self, rfl, ?_⟩
            -- something is left to be taken after the first credit
            have hleft : ¬n - min n d.available ≤ 0 := by
              intro hle
              rw [takeCredits_of_nonpos hle] at hitem
              cases hitem
            dsimp only
            omega

end TakeCredits

/-! ### Plans -/

section Plans

variable {w : World} {accounts : List (Row Account)} {amount : ℤ}

theorem isFifoPlan_consumptionPlan (haccounts : (accounts.map (·.id)).Nodup)
    (hamount : 0 ≤ amount) :
    IsFifoPlan (w.store.creditLots w.clock accounts) amount
      (w.store.consumptionPlan w.clock accounts amount) where
  distinct := by
    refine (takeCredits_sublist _ _).nodup ?_
    rw [nodup_map_orderBy]
    exact Store.nodup_creditLots haccounts
  bounded item hitem := by
    have hpos : ∀ c ∈ orderBy CreditLot.key (w.store.creditLots w.clock accounts),
        0 < c.available := fun c hc => Store.pos_of_mem_creditLots ((mem_orderBy _ _).mp hc)
    obtain ⟨c, hc, haccount, hid, -, hbounds⟩ := exists_of_mem_takeCredits hpos hitem
    exact ⟨c, (mem_orderBy _ _).mp hc, haccount, hid, hbounds⟩
  total := Store.sum_consumptionPlan hamount
  greedy c hc htouched d hd hbefore := by
    refine full_of_mem_takeCredits ?_
      (pair_sublist_orderBy _ hd hc (CreditLot.before_iff.mp hbefore)) htouched
    rw [nodup_map_orderBy]
    exact Store.nodup_creditLots haccounts

theorem exists_mem_creditLots_iff {p : Option Timestamp → Prop} :
    (∃ c ∈ w.store.creditLots w.clock accounts, p c.expiresAt) ↔
      ∃ account ∈ accounts, ∃ row ∈ w.store.getAvailableCreditsFifo account.id w.clock,
        p row.val.expiresAt := by
  constructor
  · rintro ⟨c, hc, hp⟩
    obtain ⟨account, haccount, hc⟩ := mem_flatMap.mp hc
    obtain ⟨row, hrow, rfl⟩ := mem_map.mp hc
    exact ⟨account, haccount, row, (mem_filter.mp hrow).1, hp⟩
  · rintro ⟨account, haccount, row, hrow, hp⟩
    refine ⟨toCreditLot account row, mem_flatMap.mpr ⟨account, haccount,
      mem_map.mpr ⟨row, mem_filter.mpr ⟨hrow, ?_⟩, rfl⟩⟩, hp⟩
    rw [Store.getAvailableCreditsFifo, mem_orderBy, Table.mem_select] at hrow
    exact decide_eq_true (of_decide_eq_true hrow.2).2.2.1

theorem mixedExpiry_creditLots_iff :
    mixedExpiry (w.store.creditLots w.clock accounts) ↔
      MixesExpiries w.store w.clock accounts :=
  and_congr (exists_mem_creditLots_iff (p := (· = none)))
    (exists_mem_creditLots_iff (p := (· ≠ none)))

/-- **Plans in order of expiry.** A plan is made, and is the one meant, just if the available
allocations do not mix those that expire with those that never do. -/
theorem fifoPlan_iff (w : World) (accounts : List (Row Account)) (amount : ℤ)
    (haccounts : (accounts.map (·.id)).Nodup) (hamount : 0 < amount) :
    (∃ plan, (buildConsumptionPlan accounts amount).run handle w = (.ok plan, w) ∧
        IsFifoPlan (w.store.creditLots w.clock accounts) amount plan) ↔
      ¬MixesExpiries w.store w.clock accounts := by
  have hrun : (buildConsumptionPlan accounts amount).wp handle (fun r w' =>
      (∃ plan, (r, w') = (.ok plan, w) ∧
        IsFifoPlan (w.store.creditLots w.clock accounts) amount plan) ↔
      ¬MixesExpiries w.store w.clock accounts) w := by
    refine wp_buildConsumptionPlan (fun hmixed => ?_) fun hmixed e => ?_
    · rw [mixedExpiry_creditLots_iff] at hmixed
      exact ⟨fun _ => hmixed, fun _ => ⟨_, rfl, isFifoPlan_consumptionPlan haccounts hamount.le⟩⟩
    · rw [mixedExpiry_creditLots_iff] at hmixed
      constructor
      · rintro ⟨plan, heq, -⟩
        cases heq
      · exact fun hnot => absurd hmixed hnot
  exact hrun

/-- Alice has 60 credits until the instant 10, and if `never`, 40 of an account whose credits never
expire, else 40 for longer. -/
def mixedWorld (never : Bool) : World :=
  exec (Step.run ⟨false⟩) (World.start 0 fun _ => none)
    [.request (.createAccount ['a'] .bonus (if never then .never else .fixedDays) 90),
      .request (.allocateCredits { userId := ['a'], amount := 40, creditType := .bonus }),
      .request (.allocateCredits
        { userId := ['a'], amount := 60, creditType := .bonus, expiresAt := some 10 })]

/-- Where all credits expire, 70 are taken from both allocations. -/
theorem fifoPlan_mixedWorld :
    ∃ plan, (buildConsumptionPlan ((mixedWorld false).store.getActiveAccounts ['a']) 70).run handle
        (mixedWorld false) = (.ok plan, mixedWorld false) ∧
      IsFifoPlan ((mixedWorld false).store.creditLots (mixedWorld false).clock
        ((mixedWorld false).store.getActiveAccounts ['a'])) 70 plan :=
  (fifoPlan_iff (mixedWorld false) ((mixedWorld false).store.getActiveAccounts ['a']) 70
    (by decide) (by decide)).mpr (by decide)

/-- Where some never do, no plan is made. -/
theorem not_fifoPlan_mixedWorld :
    ¬∃ plan, (buildConsumptionPlan ((mixedWorld true).store.getActiveAccounts ['a']) 70).run handle
        (mixedWorld true) = (.ok plan, mixedWorld true) ∧
      IsFifoPlan ((mixedWorld true).store.creditLots (mixedWorld true).clock
        ((mixedWorld true).store.getActiveAccounts ['a'])) 70 plan := by
  rintro ⟨plan, hrun, -⟩
  have herror : ((buildConsumptionPlan ((mixedWorld true).store.getActiveAccounts ['a']) 70).run
      handle (mixedWorld true)).1 = .error .typeError := by decide
  rw [hrun] at herror
  cases herror

end Plans

end IsaUser.Credit
