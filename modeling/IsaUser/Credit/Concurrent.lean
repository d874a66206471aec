import IsaUser.Credit.Operations
import IsaUser.Lib.Pool

/-!
# Credit Requests Served at the Same Time

The service takes requests concurrently: between two calls that one method makes to the
repository, any other method may make its own. Each call is one SQL statement and is
atomic; nothing holds over two of them. `CreditPool` is a store with any number of
requests at work on it.

What a request may rely on is little: no balance is negative, because the only update of a
balance is guarded, and an account that was there stays there.
-/

open IsaUser.Prog

namespace IsaUser.Credit

open CreditService

variable {α β : Type} {A G : Past CreditApi World → World → Call → Prop}
  {past : Past CreditApi World} {w w' : World}

abbrev CreditPool (ι : Type) := Pool CreditApi CreditError Unit ι World

def CreditPool.start {ι : Type} (self : CreditService) (w : World) (requests : ι → Request) :
    CreditPool ι :=
  Pool.start w fun i => (requests i).prog self

/-- Time passes and users change; the store is left to the requests. -/
def Surroundings (w w' : World) : Prop := w'.store = w.store

/-! ### What a request may rely on -/

def World.Solvent (w : World) : Prop :=
  ∀ i a, w.store.accounts.get? i = some a → 0 ≤ a.balance

theorem solvent_exec (self : CreditService) (now : Timestamp) (users : PyStr → Option User)
    (steps : List Step) : (exec (Step.run self) (World.start now users) steps).Solvent :=
  (valid_exec self now users steps).balance_nonneg

def creditTerms : Terms World where
  inv := World.Solvent
  rel w w' := w.store.accounts.size ≤ w'.store.accounts.size
  rel_refl _ := le_rfl
  rel_trans := le_trans

def Call.OpensEmpty : Call → Prop
  | createAccount data => data.balance = 0
  | _ => True

def Call.balanceUpdate? : Call → Option (ℕ × ℤ)
  | updateAccountBalance account δ => some (account, δ)
  | _ => none

theorem accounts_handle (c : Call) (w : World) :
    (handle c w).2.store.accounts = w.store.accounts ∨
      (∃ data, c = .createAccount data ∧ (handle c w).2.store.accounts =
        w.store.accounts.insert { data with createdAt := w.clock }) ∨
      ∃ i δ a, c = .updateAccountBalance i δ ∧ w.store.accounts.get? i = some a ∧
        0 ≤ a.balance + δ ∧
        (handle c w).2.store.accounts =
          w.store.accounts.modify i (Store.addToBalance δ) := by
  cases c with
  | createAccount data =>
    simp only [handle, Store.createAccount]
    split
    · exact .inl rfl
    · exact .inr (.inl ⟨data, rfl, rfl⟩)
  | updateAccountBalance i δ =>
    simp only [handle, Store.updateAccountBalance]
    split
    · next a ha =>
        split
        · next hx => exact .inr (.inr ⟨i, δ, a, rfl, ha, hx, rfl⟩)
        · exact .inl rfl
    · exact .inl rfl
  | updateAllocationConsumed j x =>
    simp only [handle, Store.updateAllocationConsumed]
    split <;> exact .inl rfl
  | updateAllocationExpired j x =>
    simp only [handle, Store.updateAllocationExpired]
    split <;> exact .inl rfl
  | updateCampaignBudget c x =>
    simp only [handle, Store.updateCampaignBudget]
    split
    · split <;> exact .inl rfl
    · exact .inl rfl
  | _ => exact .inl rfl

theorem handle_keeps {c : Call} (hw : w.Solvent) (hc : c.OpensEmpty) :
    (handle c w).2.Solvent ∧ creditTerms.rel w (handle c w).2 := by
  rcases accounts_handle c w with h | ⟨data, rfl, h⟩ | ⟨i, δ, a, rfl, ha, hx, h⟩
  · simp only [World.Solvent, creditTerms, h]
    exact ⟨hw, le_rfl⟩
  · simp only [World.Solvent, creditTerms, h, Table.size_insert]
    refine ⟨fun k b hb => ?_, by omega⟩
    rw [Table.get?_insert] at hb
    split at hb
    · obtain rfl := Option.some_inj.mp hb
      exact hc.ge
    · exact hw k b hb
  · simp only [World.Solvent, creditTerms, h, Table.size_modify]
    refine ⟨fun k b hb => ?_, le_rfl⟩
    rw [Table.get?_modify] at hb
    split at hb
    · next hk =>
        subst hk
        rw [ha, Option.map_some, Option.some_inj] at hb
        subst hb
        exact hx
    · exact hw k b hb

theorem surroundings_keep (hw : w.Solvent) (h : Surroundings w w') :
    w'.Solvent ∧ creditTerms.rel w w' := by
  simp only [World.Solvent, creditTerms, show w'.store = w.store from h]
  exact ⟨hw, le_rfl⟩

/-! ### Rules -/

variable {Q : Except CreditError β → Past CreditApi World → World → Prop} {T : Terms World}

theorem sound_ask {c : Call} {f : c.Reply → CreditM β}
    (h : ∀ w', T.rel w w' → T.inv w' → G past w' c ∧ (A past w' c →
      (f (handle c w').1).Sound T handle A G Q ((w', c) :: past) (handle c w').2)) :
    (ask c >>= f).Sound T handle A G Q past w := h

/-! ### Requests that only debit -/

def Call.Debits : Call → Prop
  | createTransaction _ => True
  | updateAccountBalance _ δ => δ < 0
  | updateAllocationConsumed _ x => 0 < x
  | updateAllocationExpired _ x => 0 < x
  | c => c.IsRead

theorem Call.opensEmpty_of_debits {c : Call} (hc : c.Debits) : c.OpensEmpty := by
  cases c with
  | createAccount => exact absurd hc id
  | _ => trivial

section Debits

abbrev debiting (_ : Past CreditApi World) (_ : World) (c : Call) : Prop := c.Debits

theorem collectCredits_sound (accounts : List (Row Account)) :
    (collectCredits accounts).Sound T handle A debiting
      (fun r _ _ => ∀ credits, r = .ok credits → ∀ c ∈ credits, 0 < c.available) past w := by
  induction accounts generalizing past w with
  | nil =>
    refine sound_ret fun _ _ _ => ?_
    rintro _ ⟨⟩ c hc
    cases hc
  | cons account accounts ih =>
    refine sound_ask fun w₁ _ _ => ⟨trivial, fun _ => ?_⟩
    refine ih.bind (fun rest _ _ hrest => sound_ret fun _ _ _ => ?_)
      fun _ _ _ _ credits h => by cases h
    rintro _ ⟨⟩ c hc
    rcases List.mem_append.mp hc with hc | hc
    · obtain ⟨row, hrow, rfl⟩ := List.mem_map.mp hc
      exact of_decide_eq_true (List.mem_filter.mp hrow).2
    · exact hrest rest rfl c hc

theorem buildConsumptionPlan_sound (accounts : List (Row Account)) (amount : ℤ) :
    (buildConsumptionPlan accounts amount).Sound T handle A debiting
      (fun r _ _ => ∀ plan, r = .ok plan → ∀ item ∈ plan, 0 < item.amount) past w := by
  refine (collectCredits_sound accounts).bind (fun credits _ _ hcredits => ?_)
    fun _ _ _ _ plan h => by cases h
  refine sound_require_bind (fun _ => sound_ret fun _ _ _ => ?_)
    fun _ _ _ _ plan h => by cases h
  rintro _ ⟨⟩ item hitem
  have hpos : ∀ c ∈ orderBy CreditLot.key credits, 0 < c.available :=
    fun c hc => hcredits credits rfl c ((mem_orderBy _ _).mp hc)
  obtain ⟨c, -, -, -, -, h, -⟩ := exists_of_mem_takeCredits hpos hitem
  exact h

theorem consumeItem_sound {u : PyStr} {ref : Option PyStr} {item : PlanItem}
    (hitem : 0 < item.amount) :
    (consumeItem u ref item).Sound T handle A debiting (fun _ _ _ => True) past w := by
  refine sound_ask fun w₁ _ _ => ⟨trivial, fun _ => ?_⟩
  split
  · exact sound_raise fun _ _ _ => trivial
  · refine sound_ask fun w₂ _ _ => ⟨trivial, fun _ => ?_⟩
    refine sound_ask fun w₃ _ _ => ⟨neg_neg_of_pos hitem, fun _ => ?_⟩
    refine sound_require_bind (fun _ => ?_) fun _ _ _ _ => trivial
    exact sound_ask fun w₄ _ _ => ⟨hitem, fun _ => sound_ret fun _ _ _ => trivial⟩

theorem consumeItems_sound {u : PyStr} {ref : Option PyStr} {plan : List PlanItem}
    (hplan : ∀ item ∈ plan, 0 < item.amount) :
    (consumeItems u ref plan).Sound T handle A debiting (fun _ _ _ => True) past w := by
  induction plan generalizing past w with
  | nil => exact sound_ret fun _ _ _ => trivial
  | cons item plan ih =>
    refine (consumeItem_sound (hplan item List.mem_cons_self)).bind (fun _ _ _ _ => ?_)
      fun _ _ _ _ => trivial
    refine (ih fun other h => hplan other (List.mem_cons_of_mem _ h)).bind
      (fun _ _ _ _ => sound_ret fun _ _ _ => trivial) fun _ _ _ _ => trivial

/-- **Consumption only debits**, whatever others do in between. -/
theorem consumeCredits_sound (u : PyStr) (amount : ℤ) (ref : Option PyStr) :
    (consumeCredits u amount ref).Sound T handle A debiting (fun _ _ _ => True) past w := by
  refine sound_require_bind (fun _ => ?_) fun _ _ _ _ => trivial
  refine sound_ask fun w₁ _ _ => ⟨trivial, fun _ => ?_⟩
  refine sound_require_bind (fun _ => ?_) fun _ _ _ _ => trivial
  refine sound_require_bind (fun _ => ?_) fun _ _ _ _ => trivial
  refine (buildConsumptionPlan_sound _ _).bind (fun plan _ _ hplan => ?_) fun _ _ _ _ => trivial
  refine sound_require_bind (fun _ => ?_) fun _ _ _ _ => trivial
  refine Sound.bind (Q := fun _ _ _ => True) ?_ (fun _ _ _ _ => ?_) fun _ _ _ _ => trivial
  · exact (consumeItems_sound (hplan plan rfl)).tryCatch (fun _ _ _ _ => trivial)
      fun _ _ _ _ => sound_raise fun _ _ _ => trivial
  · exact sound_ret fun _ _ _ => trivial

theorem expireAllocation_sound (row : Row Allocation) :
    (expireAllocation row).Sound T handle A debiting (fun _ _ _ => True) past w := by
  rw [expireAllocation]
  split
  · exact sound_ret fun _ _ _ => trivial
  · next hpos =>
      have hpos : 0 < row.val.available := not_le.mp hpos
      refine sound_ask fun w₁ _ _ => ⟨trivial, fun _ => ?_⟩
      split
      · exact sound_ret fun _ _ _ => trivial
      · refine sound_ask fun w₂ _ _ => ⟨trivial, fun _ => ?_⟩
        refine sound_ask fun w₃ _ _ => ⟨neg_neg_of_pos hpos, fun _ => ?_⟩
        exact sound_ask fun w₄ _ _ => ⟨hpos, fun _ => sound_ret fun _ _ _ => trivial⟩

theorem expireAllocations_sound (rows : List (Row Allocation)) :
    (expireAllocations rows).Sound T handle A debiting (fun _ _ _ => True) past w := by
  induction rows generalizing past w with
  | nil => exact sound_ret fun _ _ _ => trivial
  | cons row rows ih =>
    refine (expireAllocation_sound row).bind (fun _ _ _ _ => ?_) fun _ _ _ _ => trivial
    exact ih.bind (fun _ _ _ _ => sound_ret fun _ _ _ => trivial) fun _ _ _ _ => trivial

/-- **Expiration only debits**, whatever others do in between. -/
theorem processExpirations_sound :
    processExpirations.Sound T handle A debiting (fun _ _ _ => True) past w := by
  refine sound_ask fun w₁ _ _ => ⟨trivial, fun _ => ?_⟩
  refine sound_ask fun w₂ _ _ => ⟨trivial, fun _ => ?_⟩
  exact (expireAllocations_sound _).bind (fun _ _ _ _ => sound_ret fun _ _ _ => trivial)
    fun _ _ _ _ => trivial

end Debits

/-! ### What no request rewrites -/

/-- The account `a` later on: its balance has moved with its totals, and is not overdrawn. -/
structure Account.Follows (a a' : Account) : Prop where
  owner : a'.userId = a.userId ∧ a'.creditType = a.creditType
  moved : a'.balance - a.balance =
    a'.totalAllocated - a.totalAllocated - (a'.totalConsumed - a.totalConsumed)
  covered : 0 ≤ a.balance → 0 ≤ a'.balance

/-- The campaign `c` later on: only what it has given out has changed, within its budget. -/
def Campaign.Follows (c c' : Campaign) : Prop :=
  c' = { c with allocatedAmount := c'.allocatedAmount } ∧
    (c.allocatedAmount ≤ c.totalBudget → c'.allocatedAmount ≤ c'.totalBudget)

def Allocation.Follows (l l' : Allocation) : Prop :=
  l' = { l with expiredAmount := l'.expiredAmount, consumedAmount := l'.consumedAmount }

structure Store.Audited (s s' : Store) : Prop where
  accounts : s.accounts.Extends Account.Follows s'.accounts
  transactions : s.transactions.Extends Eq s'.transactions
  campaigns : s.campaigns.Extends Campaign.Follows s'.campaigns
  allocations : s.allocations.Extends Allocation.Follows s'.allocations

theorem Account.Follows.refl (a : Account) : a.Follows a := ⟨⟨rfl, rfl⟩, by omega, id⟩

theorem Account.Follows.trans {a b c : Account} (h : a.Follows b) (h' : b.Follows c) :
    a.Follows c := by
  obtain ⟨howner, hmoved, hcovered⟩ := h
  obtain ⟨howner', hmoved', hcovered'⟩ := h'
  exact ⟨⟨howner'.1.trans howner.1, howner'.2.trans howner.2⟩, by omega, hcovered' ∘ hcovered⟩

theorem Campaign.Follows.refl (c : Campaign) : c.Follows c := ⟨rfl, id⟩

theorem Allocation.Follows.refl (l : Allocation) : l.Follows l := rfl

theorem Store.Audited.refl (s : Store) : s.Audited s where
  accounts := .refl Account.Follows.refl _
  transactions := .refl (fun _ => rfl) _
  campaigns := .refl Campaign.Follows.refl _
  allocations := .refl Allocation.Follows.refl _

theorem Store.Audited.trans {s₁ s₂ s₃ : Store} (h : s₁.Audited s₂) (h' : s₂.Audited s₃) :
    s₁.Audited s₃ where
  accounts := h.accounts.trans (fun f g => f.trans g) h'.accounts
  transactions := h.transactions.trans (fun e e' => e.trans e') h'.transactions
  campaigns := h.campaigns.trans (fun e e' => ⟨by rw [e'.1, e.1], e'.2 ∘ e.2⟩) h'.campaigns
  allocations := h.allocations.trans (fun e e' => by rw [Allocation.Follows, e', e]) h'.allocations

theorem audited_handle (c : Call) (w : World) : w.store.Audited (handle c w).2.store := by
  have hrefl := Store.Audited.refl w.store
  cases c with
  | createAccount data =>
    simp only [handle, Store.createAccount]
    split
    · exact hrefl
    · exact { hrefl with accounts := Table.extends_insert Account.Follows.refl _ _ }
  | updateAccountBalance i δ =>
    simp only [handle, Store.updateAccountBalance]
    split
    · next a ha =>
        split
        · next hx =>
            refine { hrefl with accounts := Table.extends_modify Account.Follows.refl _ _ ?_ }
            intro b hb
            obtain rfl := Option.some_inj.mp (ha.symm.trans hb)
            refine ⟨⟨rfl, rfl⟩, ?_, fun _ => hx⟩
            simp only [Store.addToBalance]
            rcases abs_cases δ with hδ | hδ <;> split_ifs <;> omega
        · exact hrefl
    · exact hrefl
  | createTransaction data =>
    exact { hrefl with transactions := Table.extends_insert (fun _ => rfl) _ _ }
  | createAllocation data =>
    exact { hrefl with allocations := Table.extends_insert Allocation.Follows.refl _ _ }
  | createCampaign data =>
    exact { hrefl with campaigns := Table.extends_insert Campaign.Follows.refl _ _ }
  | updateAllocationConsumed j x =>
    simp only [handle, Store.updateAllocationConsumed]
    split
    · exact { hrefl with allocations :=
        Table.extends_modify Allocation.Follows.refl _ _ fun _ _ => rfl }
    · exact hrefl
  | updateAllocationExpired j x =>
    simp only [handle, Store.updateAllocationExpired]
    split
    · exact { hrefl with allocations :=
        Table.extends_modify Allocation.Follows.refl _ _ fun _ _ => rfl }
    · exact hrefl
  | updateCampaignBudget k x =>
    simp only [handle, Store.updateCampaignBudget]
    split
    · next campaign hk =>
        split
        · next hx =>
            refine { hrefl with campaigns := Table.extends_modify Campaign.Follows.refl _ _ ?_ }
            intro b hb
            obtain rfl := Option.some_inj.mp (hk.symm.trans hb)
            exact ⟨rfl, fun _ => hx⟩
        · exact hrefl
    · exact hrefl
  | _ => exact hrefl

end IsaUser.Credit
