import IsaUser.Credit.Operations

/-!
# Exact Consumption

`consume_credits` decides whether a user can pay from the balances of the accounts, and
takes the credits from the allocations that have not expired. `check_availability` makes
the same decision and shows the same plan. A consumption is exact when it takes the amount
asked for, no less, and an answer of `check_availability` is kept when the consumption it
announces succeeds.
-/

open List

namespace IsaUser.Credit

open CreditService

/-! ### The law -/

def World.activeBalance (w : World) (u : PyStr) : ℤ :=
  totalBalance (w.store.getActiveAccounts u)

/-- What a consumption that succeeds has taken is the amount asked for: in the answer, in
its transactions, and from the balances. -/
def World.ConsumesExactly (w : World) (u : PyStr) (amount : ℤ) (ref : Option PyStr) : Prop :=
  ∀ response w', (consumeCredits u amount ref).run handle w = (.ok response, w') →
    response.amountConsumed = amount ∧
      (response.transactions.map (·.amount)).sum = amount ∧
        w'.activeBalance u = w.activeBalance u - amount

/-- What an item shown by `check_availability` says of a transaction. -/
def CreditService.ShownItem.line (item : ShownItem) : ℕ × CreditType × ℤ :=
  (item.accountId, item.creditType, item.amount)

/-- A consumption that `check_availability` announces succeeds, with the plan shown. -/
def World.KeepsAvailability (w : World) (u : PyStr) (amount : ℤ) (ref : Option PyStr) :
    Prop :=
  ∀ answer w', (checkAvailability u amount).run handle w = (.ok answer, w') →
    answer.available = true →
      ∃ response w'', (consumeCredits u amount ref).run handle w' = (.ok response, w'') ∧
        response.transactions.map (·.line) = answer.consumptionPlan.map (·.line)

def World.liveCredit (w : World) (u : PyStr) : ℤ :=
  ((w.store.creditLots w.clock (w.store.getActiveAccounts u)).map (·.available)).sum

/-! ### Balances after a plan -/

def activeShare (u : PyStr) (a : Account) : ℤ :=
  if a.userId = u ∧ a.isActive then a.balance else 0

theorem activeBalance_eq (w : World) (u : PyStr) :
    w.activeBalance u = w.store.accounts.sumBy (activeShare u) := by
  rw [World.activeBalance, totalBalance, Store.getActiveAccounts, sum_map_orderBy,
    Table.sumBy_select]
  simp only [decide_eq_true_eq]
  rfl

theorem sumBy_debitAccounts {u : PyStr} {plan : List PlanItem} {accounts : Table Account}
    (h : ∀ item ∈ plan, ∃ a, accounts.get? item.accountId = some a ∧ a.userId = u ∧
      a.isActive = true) :
    (debitAccounts accounts plan).sumBy (activeShare u) =
      accounts.sumBy (activeShare u) - (plan.map (·.amount)).sum := by
  induction plan generalizing accounts with
  | nil => simp [debitAccounts]
  | cons item plan ih =>
    obtain ⟨a, ha, hu, hactive⟩ := h item mem_cons_self
    have hrest : ∀ other ∈ plan, ∃ b,
        (accounts.modify item.accountId (Store.addToBalance (-item.amount))).get?
          other.accountId = some b ∧ b.userId = u ∧ b.isActive = true := by
      intro other hother
      obtain ⟨b, hb, hub⟩ := h other (mem_cons_of_mem _ hother)
      rw [Table.get?_modify]
      split
      · exact ⟨_, congrArg (Option.map _) hb, hub⟩
      · exact ⟨b, hb, hub⟩
    have hfirst : (accounts.modify item.accountId
        (Store.addToBalance (-item.amount))).sumBy (activeShare u) =
          accounts.sumBy (activeShare u) - item.amount := by
      rw [Table.sumBy_modify ha]
      simp only [activeShare, Store.addToBalance, hu, hactive, and_self, if_true]
      omega
    rw [debitAccounts, foldl_cons]
    rw [← debitAccounts, ih hrest, map_cons, sum_cons]
    omega

theorem active_of_mem_consumptionPlan {w : World} {u : PyStr} {amount : ℤ} {item : PlanItem}
    (hitem : item ∈ w.consumptionPlan u amount) :
    ∃ a, w.store.accounts.get? item.accountId = some a ∧ a.userId = u ∧ a.isActive = true := by
  obtain ⟨account, haccount, hid, -⟩ := Store.exists_of_mem_consumptionPlan hitem
  rw [Store.getActiveAccounts, mem_orderBy, Table.mem_select] at haccount
  obtain ⟨hget, hcond⟩ := haccount
  exact ⟨account.val, hid ▸ hget, of_decide_eq_true hcond⟩

/-! ### Runs of the two methods -/

section Runs

variable {w w' : World} {u : PyStr} {amount : ℤ} {ref : Option PyStr}

theorem carries_of_run_eq_ok {response : ConsumeResponse}
    (h : (consumeCredits u amount ref).run handle w = (.ok response, w')) :
    w.AcceptsConsumption u amount ∧ ∃ ts,
      response = consumeResponse (w.activeBalance u) ts ∧
        Carries (w.consumptionPlan u amount) w (.ok ts) w' := by
  have hspec : (consumeCredits u amount ref).wp handle (fun r w' => ∀ response, r = .ok response →
      w.AcceptsConsumption u amount ∧ ∃ ts,
        response = consumeResponse (w.activeBalance u) ts ∧
          Carries (w.consumptionPlan u amount) w (.ok ts) w') w := by
    refine wp_consumeCredits (fun _ e response h => by cases h) (fun hacc ts w' hts => ?_)
      fun _ e e' w' _ response h => by cases h
    rintro _ ⟨⟩
    exact ⟨hacc, ts, rfl, hts⟩
  rw [Prog.wp, h] at hspec
  exact hspec response rfl

theorem exists_run_eq_ok (hacc : w.AcceptsConsumption u amount)
    (hcov : Covered w.store.balanceOf (planDebits (w.consumptionPlan u amount))) :
    ∃ response w', (consumeCredits u amount ref).run handle w = (.ok response, w') := by
  have hspec : (consumeCredits u amount ref).wp handle (fun r _ => ∃ response, r = .ok response)
      w := by
    refine wp_consumeCredits (fun hn => absurd hacc hn) (fun _ ts _ _ => ⟨_, rfl⟩)
      fun _ e e' w' hr => absurd hcov hr.1
  obtain ⟨response, hr⟩ := hspec
  exact ⟨response, _, Prod.ext hr rfl⟩

/-- `check_availability` compares the amount with the balances, and shows the plan for as
much as there is. -/
theorem wp_checkAvailability {Q : Except CreditError Availability → World → Prop}
    (hamount : 0 < amount)
    (hok : (w.store.getActiveAccounts u = [] ∨ ¬w.MixedExpiry u) →
      Q (.ok ⟨w.activeBalance u ≥ amount, w.activeBalance u, amount,
        max 0 (amount - w.activeBalance u),
        (w.consumptionPlan u (min amount (w.activeBalance u))).map (·.shown)⟩) w)
    (herror : w.MixedExpiry u → ∀ e, Q (.error e) w) :
    (checkAvailability u amount).wp handle Q w := by
  refine Prog.wp_require_bind (fun _ => wp_ask ?_) fun hn => absurd hamount hn
  refine Prog.wp_bind.mpr ?_
  rw [planIfAny]
  split
  · exact wp_buildConsumptionPlan (fun h => hok (.inr h)) herror
  · next hnil =>
      have hempty : w.store.getActiveAccounts u = [] := not_not.mp hnil
      have hplan : w.consumptionPlan u (min amount (w.activeBalance u)) = [] := by
        rw [World.consumptionPlan, hempty]
        rfl
      have hQ := hok (.inl hempty)
      rw [hplan] at hQ
      exact hQ

end Runs

/-! ### The exact condition -/

section Exact

variable {w w' : World} {u : PyStr} {amount : ℤ}

theorem sum_amount_eq_of_line {ts : List ConsumeTransaction} {plan : List PlanItem}
    (h : ts.map (·.line) = plan.map (·.line)) :
    (ts.map (·.amount)).sum = (plan.map (·.amount)).sum := by
  have hamounts := congrArg (map fun line => line.2.2) h
  simp only [map_map, Function.comp_def, ConsumeTransaction.line, PlanItem.line] at hamounts
  rw [hamounts]

theorem sum_consumptionPlan (hamount : 0 < amount) :
    ((w.consumptionPlan u amount).map (·.amount)).sum = min amount (w.liveCredit u) :=
  Store.sum_consumptionPlan hamount.le

theorem activeBalance_of_carries {ts : List ConsumeTransaction}
    (h : Carries (w.consumptionPlan u amount) w (.ok ts) w') :
    w'.activeBalance u =
      w.activeBalance u - ((w.consumptionPlan u amount).map (·.amount)).sum := by
  obtain ⟨-, -, haccounts, -⟩ := h
  rw [activeBalance_eq, haccounts, activeBalance_eq]
  exact sumBy_debitAccounts fun item hitem => active_of_mem_consumptionPlan hitem

/-- Enough live credit makes the checks of `consume_credits` pass. -/
theorem acceptsConsumption_of_le (hamount : 0 < amount) (hbalance : amount ≤ w.activeBalance u)
    (hmixed : ¬w.MixedExpiry u) (hlive : amount ≤ w.liveCredit u) :
    w.AcceptsConsumption u amount := by
  refine ⟨hamount, fun hnil => ?_, hbalance, hmixed, fun hnil => ?_⟩
  · rw [World.activeBalance, hnil] at hbalance
    simp only [totalBalance, map_nil, sum_nil] at hbalance
    omega
  · have hsum := sum_consumptionPlan (w := w) (u := u) hamount
    rw [hnil] at hsum
    simp only [map_nil, sum_nil] at hsum
    omega

/-- **Exact consumption.** In every world, a consumption takes exactly the amount asked
for and keeps what `check_availability` announced, if and only if the balances are short
of the amount, or the expiry dates cannot be sorted, or the live allocations have the
amount and every account has a balance for its share of the plan. -/
theorem exact_consumption_iff (w : World) (u : PyStr) (amount : ℤ) (ref : Option PyStr)
    (hamount : 0 < amount) :
    (w.ConsumesExactly u amount ref ∧ w.KeepsAvailability u amount ref) ↔
      w.activeBalance u < amount ∨ w.MixedExpiry u ∨
        (amount ≤ w.liveCredit u ∧
          Covered w.store.balanceOf (planDebits (w.consumptionPlan u amount))) := by
  constructor
  · rintro ⟨hexact, hkeeps⟩
    by_contra hnot
    simp only [not_or, not_lt] at hnot
    obtain ⟨hbalance, hmixed, hshort⟩ := hnot
    -- the availability check says yes, so the consumption has to succeed
    have hcheck : (checkAvailability u amount).wp handle (fun r w' =>
        (∃ answer, r = .ok answer ∧ answer.available = true) ∧ w' = w) w :=
      wp_checkAvailability hamount (fun _ => ⟨⟨_, rfl, decide_eq_true hbalance⟩, rfl⟩)
        fun h => absurd h hmixed
    obtain ⟨⟨answer, hanswer, havailable⟩, hw'⟩ := hcheck
    obtain ⟨response, w'', hrun, -⟩ := hkeeps answer w (Prod.ext hanswer hw') havailable
    obtain ⟨-, ts, rfl, hcarries⟩ := carries_of_run_eq_ok hrun
    refine hshort ⟨?_, hcarries.1⟩
    have hsum : (ts.map (·.amount)).sum = amount := (hexact _ _ hrun).2.1
    rw [sum_amount_eq_of_line hcarries.2.1, sum_consumptionPlan hamount] at hsum
    omega
  · intro hcond
    have henough : amount ≤ w.activeBalance u → ¬w.MixedExpiry u →
        amount ≤ w.liveCredit u ∧
          Covered w.store.balanceOf (planDebits (w.consumptionPlan u amount)) := by
      intro hbalance hmixed
      rcases hcond with hlt | hm | h
      · omega
      · exact absurd hm hmixed
      · exact h
    constructor
    · intro response w' hrun
      obtain ⟨hacc, ts, rfl, hcarries⟩ := carries_of_run_eq_ok hrun
      obtain ⟨hlive, -⟩ := henough hacc.2.2.1 hacc.2.2.2.1
      have hsum := sum_amount_eq_of_line hcarries.2.1
      have hbalance := activeBalance_of_carries hcarries
      rw [sum_consumptionPlan hamount, min_eq_left hlive] at hsum hbalance
      exact ⟨hsum, hsum, hbalance⟩
    · intro answer w' hrun havailable
      have hcheck : (checkAvailability u amount).wp handle (fun r w' =>
          ∀ answer, r = .ok answer → answer.available = true →
            (amount ≤ w.activeBalance u ∧ ¬w.MixedExpiry u) ∧ w' = w ∧
              answer.consumptionPlan = (w.consumptionPlan u amount).map (·.shown)) w := by
        refine wp_checkAvailability hamount (fun h => ?_) fun _ e answer h => by cases h
        rintro _ ⟨⟩ hyes
        have hbalance : amount ≤ w.activeBalance u := of_decide_eq_true hyes
        refine ⟨⟨hbalance, h.resolve_left fun hnil => ?_⟩, rfl, ?_⟩
        · rw [World.activeBalance, hnil] at hbalance
          simp only [totalBalance, map_nil, sum_nil] at hbalance
          omega
        · rw [min_eq_left hbalance]
      rw [Prog.wp, hrun] at hcheck
      obtain ⟨⟨hbalance, hmixed⟩, rfl, hshown⟩ := hcheck answer rfl havailable
      obtain ⟨hlive, hcov⟩ := henough hbalance hmixed
      obtain ⟨response, w'', hok⟩ :=
        exists_run_eq_ok (acceptsConsumption_of_le hamount hbalance hmixed hlive) hcov
      obtain ⟨-, ts, rfl, hcarries⟩ := carries_of_run_eq_ok hok
      refine ⟨_, w'', hok, ?_⟩
      rw [hshown, map_map]
      exact hcarries.2.1

def expiredUnprocessed : List Step :=
  [.request (.allocateCredits
      { userId := ['a'], amount := 60, creditType := .bonus, expiresAt := some 10 }),
    .request (.allocateCredits { userId := ['a'], amount := 40, creditType := .bonus }),
    .clock 20]

/-- The world `expiredUnprocessed` leads to. -/
def expiredUnprocessedWorld : World :=
  exec (Step.run ⟨false⟩) (World.start 0 fun _ => none) expiredUnprocessed

/-- There, a consumption of 100 succeeds and takes 40. -/
theorem not_exact_expiredUnprocessed :
    ¬(expiredUnprocessedWorld.ConsumesExactly ['a'] 100 none ∧
      expiredUnprocessedWorld.KeepsAvailability ['a'] 100 none) := by
  rintro ⟨hexact, -⟩
  have hrun : ((consumeCredits ['a'] 100 none).run handle expiredUnprocessedWorld).1 =
      .ok ⟨40, 100, 60, [⟨2, 0, 40, .bonus⟩]⟩ := by decide
  exact absurd (hexact _ _ (Prod.ext hrun rfl)).1 (by decide)

theorem exact_expiredUnprocessed :
    expiredUnprocessedWorld.ConsumesExactly ['a'] 40 none ∧
      expiredUnprocessedWorld.KeepsAvailability ['a'] 40 none :=
  (exact_consumption_iff expiredUnprocessedWorld ['a'] 40 none (by decide)).mpr
    (.inr (.inr (by decide)))

end Exact

end IsaUser.Credit
