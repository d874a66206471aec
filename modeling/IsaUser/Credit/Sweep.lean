import IsaUser.Credit.Operations

/-!
# The Expiration Sweep

`process_expirations` goes through the allocations that have expired: each round writes a ledger
row, takes the remainder from the balance and from the allocation, and counts it as expired. The
answer to the second of these is not looked at, though the balance may be too small.
-/

namespace IsaUser.Credit

open CreditService Table Store Prog

/-! ### The law -/

def World.allBalances (w : World) : ℤ := w.store.accounts.sumBy (·.balance)

/-- What a sweep is meant to do: it reports what the balances lose and leaves nothing that has
expired, so that a second one reports nothing and changes nothing. -/
structure World.Sweeps (w : World) (answer : ExpirationResponse) (w' : World) : Prop where
  total : answer.totalExpiredAmount = w.allBalances - w'.allBalances
  nothing_left : ∀ j l, w'.store.allocations.get? j = some l →
    (∃ a, w'.store.accounts.get? l.accountId = some a) → ∀ t ∈ l.expiresAt, t ≤ w.clock →
      l.available ≤ 0
  again : ∃ answer', processExpirations.run handle w' = (.ok answer', w') ∧
    answer'.totalExpiredAmount = 0

/-! ### The loop -/

def Allocation.expireAll (l : Allocation) : Allocation :=
  { l with expiredAmount := l.expiredAmount + l.available }

theorem Allocation.available_expireAll (l : Allocation) : l.expireAll.available = 0 := by
  simp only [expireAll, available]
  omega

/-- How a sweep of some rows ends: all of them are reported and expired, and the balances lose as
much, just if they cover it, and else less. -/
structure Swept (rows : List (Row Allocation)) (w : World) (amounts : List ℤ) (w' : World) :
    Prop where
  reported : amounts = rows.map (·.val.available)
  clock : w'.clock = w.clock
  lots : ∀ j, w'.store.allocations.get? j =
    (w.store.allocations.get? j).map fun l => if j ∈ rows.map Row.id then l.expireAll else l
  paid : w.allBalances - w'.allBalances ≤ amounts.sum
  covered : amounts.sum = w.allBalances - w'.allBalances ↔
    Covered w.store.balanceOf (expirationDebits rows)

section Loop

variable {w w' : World} {rows : List (Row Allocation)} {row : Row Allocation} {amounts : List ℤ}

theorem get?_expireLot {s : Store} {l : Allocation} {i : ℕ}
    (hl : s.allocations.get? i = some l) (j : ℕ) :
    (s.expireLot i l.available).allocations.get? j =
      (s.allocations.get? j).map fun l => if j = i then l.expireAll else l := by
  rw [expireLot, get?_modify]
  by_cases hij : i = j
  · subst hij
    rw [hl]
    simp [Allocation.expireAll]
  · rw [if_neg hij]
    simp [Ne.symm hij]

theorem map_expireAll {j : ℕ} {o : Option Allocation} (hnot : row.id ∉ rows.map Row.id) :
    ((o.map fun l => if j = row.id then l.expireAll else l).map fun l =>
        if j ∈ rows.map Row.id then l.expireAll else l) =
      o.map fun l => if j ∈ (row :: rows).map Row.id then l.expireAll else l := by
  rw [Option.map_map]
  congr 1
  funext l
  by_cases hj : j = row.id
  · subst hj
    simp [hnot]
  · simp [hj]

theorem Swept.cons {s : Store} {paid : ℤ} (hnot : row.id ∉ rows.map Row.id)
    (hlots : ∀ j, s.allocations.get? j =
      (w.store.allocations.get? j).map fun l => if j = row.id then l.expireAll else l)
    (hpaid : s.accounts.sumBy (·.balance) = w.allBalances - paid) (hle : paid ≤ row.val.available)
    (hcovered : Covered w.store.balanceOf (expirationDebits (row :: rows)) ↔
      paid = row.val.available ∧ Covered s.balanceOf (expirationDebits rows))
    (h : Swept rows (w.withStore s) amounts w') :
    Swept (row :: rows) w (row.val.available :: amounts) w' := by
  have hall : (w.withStore s).allBalances = w.allBalances - paid := hpaid
  have hrest := h.paid
  have hrest' := h.covered
  rw [withStore_store] at hrest'
  refine ⟨by rw [List.map_cons, h.reported], h.clock, fun j => ?_, ?_, ?_⟩
  · rw [h.lots j, withStore_store, hlots j, map_expireAll hnot]
  · rw [List.sum_cons]
    omega
  · rw [List.sum_cons, hcovered, ← hrest']
    omega

/-- **The loop of `process_expirations`**, by induction on the rows. -/
theorem expireAllocations_swept (hrows : w.store.Expirable rows) :
    (expireAllocations rows).wp handle
      (fun r w' => ∃ amounts, r = .ok amounts ∧ Swept rows w amounts w') w := by
  induction rows generalizing w with
  | nil =>
    refine ⟨[], rfl, rfl, rfl, fun j => ?_, ?_, ?_⟩
    · simp [expireAllocations]
    · simp [expireAllocations]
    · exact ⟨fun _ => covered_nil, fun _ => by simp [expireAllocations]⟩
  | cons row rows ih =>
    obtain ⟨hl, hstatus, hpos, hlt⟩ := hrows.row row List.mem_cons_self
    have hnot := (List.nodup_cons.mp hrows.nodup).1
    obtain ⟨a, ha⟩ : ∃ a, w.store.accounts.get? row.val.accountId = some a :=
      ⟨_, List.getElem?_eq_getElem hlt⟩
    have hcovered := covered_expirationDebits_cons hrows ha
    refine wp_bind.mpr (wp_expireAllocation ha hl hpos (fun hx t ht => ?_)
      fun hx t ht => ?_)
    · set s := ((w.store.post t).add row.val.accountId (-row.val.available)).expireLot row.id
        row.val.available
      have hbalance : ∀ k, s.balanceOf k =
          w.store.balanceOf k - if row.val.accountId = k then row.val.available else 0 :=
        balanceOf_paid ha t row.val.available
      have hpaid : s.accounts.sumBy (·.balance) = w.allBalances - row.val.available := by
        change (w.store.accounts.modify _ _).sumBy _ = _
        rw [sumBy_modify ha, World.allBalances]
        simp only [addToBalance]
        omega
      have hlots : ∀ j, s.allocations.get? j = (w.store.allocations.get? j).map fun l =>
          if j = row.id then l.expireAll else l := get?_expireLot hl
      refine wp_bind.mpr (wp_mono (ih (hrows.tail ((w.store.post t).add _ _) rfl
        (size_modify _ _ _) _)) ?_)
      rintro _ w' ⟨amounts, rfl, h⟩
      refine ⟨_, rfl, h.cons hnot hlots hpaid le_rfl ?_⟩
      rw [hcovered, funext hbalance]
      exact and_congr_left fun _ => ⟨fun _ => rfl, fun _ => hx⟩
    · set s := (w.store.post t).expireLot row.id row.val.available
      have hpaid : s.accounts.sumBy (·.balance) = w.allBalances - 0 := (sub_zero _).symm
      have hlots : ∀ j, s.allocations.get? j = (w.store.allocations.get? j).map fun l =>
          if j = row.id then l.expireAll else l := get?_expireLot hl
      refine wp_bind.mpr (wp_mono (ih (hrows.tail (w.store.post t) rfl rfl _)) ?_)
      rintro _ w' ⟨amounts, rfl, h⟩
      refine ⟨_, rfl, h.cons hnot hlots hpaid hpos.le ?_⟩
      rw [hcovered]
      constructor
      · omega
      · omega

end Loop

/-! ### What is there to sweep -/

section Sweep

variable {s : Store} {w w' : World}

def Store.AllCompleted (s : Store) : Prop :=
  ∀ j l, s.allocations.get? j = some l → l.status = .completed

theorem Store.AllCompleted.modify (h : s.AllCompleted) {i : ℕ} {f : Allocation → Allocation}
    (hf : ∀ l, (f l).status = l.status) :
    AllCompleted { s with allocations := s.allocations.modify i f } := by
  intro j l hl
  simp only [get?_modify] at hl
  split at hl
  · obtain ⟨l', hl', rfl⟩ := Option.map_eq_some_iff.mp hl
    exact (hf l').trans (h j l' hl')
  · exact h j l hl

theorem Move.allCompleted {k : MoveKind} {s' : Store} (h : Move k s s') (hs : s.AllCompleted) :
    s'.AllCompleted := by
  cases h with
  | opened | campaign | transferred | announced | selfTransferred => exact hs
  | granted ha hx ht hl =>
    intro j l hj
    rw [grant, get?_insert] at hj
    split at hj
    · obtain rfl := Option.some_inj.mp hj
      exact hl.status
    · exact hs j l hj
  | spent | expired | expiredUnpaid => exact hs.modify fun _ => rfl

theorem allCompleted_exec (self : CreditService) (now : Timestamp) (users : PyStr → Option User)
    (steps : List Step) :
    (exec (Step.run self) (World.start now users) steps).store.AllCompleted := by
  have hempty : empty.AllCompleted := by
    intro j l hl
    exact nomatch (get?_empty j).symm.trans hl
  refine (exec_invariant (J := fun w : World => w.store.Valid ∧ w.store.AllCompleted)
    ⟨valid_empty, hempty⟩ (allSteps_true _ steps) fun w step hw _ => ?_).2
  refine ⟨step.run_valid self hw.1, step.run_keeps self hw.1 hw.2 fun r s _ hmoves => ?_⟩
  exact hmoves.keeps (fun _ _ _ _ hmove => hmove.allCompleted) hw.2

theorem mem_getExpiringAllocations {row : Row Allocation} {before : Timestamp} :
    row ∈ s.getExpiringAllocations before ↔ s.allocations.get? row.id = some row.val ∧
      (∃ t ∈ row.val.expiresAt, t ≤ before) ∧ row.val.status = .completed ∧
        0 < row.val.available := by
  rw [getExpiringAllocations, mem_orderBy, mem_select, decide_eq_true_eq,
    Option.any_eq_true]
  simp

theorem Swept.available_le {amounts : List ℤ} (hcompleted : w.store.AllCompleted)
    (h : Swept (w.store.getExpiringAllocations w.clock) w amounts w') {j : ℕ} {l : Allocation}
    (hl : w'.store.allocations.get? j = some l) {t : Timestamp} (ht : t ∈ l.expiresAt)
    (hexpired : t ≤ w.clock) : l.available ≤ 0 := by
  rw [h.lots j, Option.map_eq_some_iff] at hl
  obtain ⟨l', hl', rfl⟩ := hl
  split at ht
  · rename_i hmem
    rw [if_pos hmem, Allocation.available_expireAll]
  · next hmem =>
      rw [if_neg hmem]
      by_contra hpos
      exact hmem (List.mem_map.mpr ⟨⟨j, l'⟩, mem_getExpiringAllocations.mpr
        ⟨hl', ⟨t, ht, hexpired⟩, hcompleted j l' hl', not_le.mp hpos⟩, rfl⟩)

theorem run_processExpirations_of_nil (h : w.store.getExpiringAllocations w.clock = []) :
    processExpirations.run handle w = (.ok ⟨0, 0, w.clock⟩, w) := by
  have hrun : processExpirations.wp handle (fun r w' => (r, w') = (.ok ⟨0, 0, w.clock⟩, w)) w := by
    refine wp_ask (wp_ask ?_)
    simp only [handle, h]
    rfl
  exact hrun

theorem processExpirations_swept (hvalid : w.store.Valid) :
    processExpirations.wp handle (fun r w' => ∃ answer, r = .ok answer ∧ ∃ amounts,
      answer.totalExpiredAmount = amounts.sum ∧
        Swept (w.store.getExpiringAllocations w.clock) w amounts w') w := by
  refine wp_ask (wp_ask (wp_bind.mpr (wp_mono (expireAllocations_swept
    (expirable_getExpiringAllocations hvalid w.clock)) ?_)))
  rintro _ w' ⟨amounts, rfl, h⟩
  exact ⟨_, rfl, amounts, rfl, h⟩

def CreditService.reached (self : CreditService) (now : Timestamp) (users : PyStr → Option User)
    (steps : List Step) : World :=
  exec (Step.run self) (World.start now users) steps

/-- **The expiration sweep.** In every state that requests can lead to, a sweep does what it is
meant to do just if every balance covers what expires of its account. -/
theorem sweeps_iff (self : CreditService) (now : Timestamp) (users : PyStr → Option User)
    (steps : List Step) :
    (∃ answer w', processExpirations.run handle (self.reached now users steps) = (.ok answer, w') ∧
        (self.reached now users steps).Sweeps answer w') ↔
      (self.reached now users steps).PaysExpirations := by
  have hvalid : (self.reached now users steps).store.Valid := valid_exec self now users steps
  have hcompleted : (self.reached now users steps).store.AllCompleted :=
    allCompleted_exec self now users steps
  generalize self.reached now users steps = w at *
  have hspec : processExpirations.wp handle (fun r w' =>
      (∃ answer w'', (r, w') = (.ok answer, w'') ∧ w.Sweeps answer w'') ↔ w.PaysExpirations) w := by
    refine wp_mono (processExpirations_swept hvalid) ?_
    rintro _ w' ⟨answer, rfl, amounts, hanswer, h⟩
    rw [World.PaysExpirations, ← h.covered, ← hanswer]
    constructor
    · rintro ⟨_, _, heq, hsweeps⟩
      cases heq
      exact hsweeps.total
    · intro htotal
      refine ⟨answer, w', rfl, htotal,
        fun j l hl _ t ht hexpired => h.available_le hcompleted hl ht hexpired, ?_⟩
      have hnil : w'.store.getExpiringAllocations w'.clock = [] := by
        refine List.eq_nil_iff_forall_not_mem.mpr fun row hrow => ?_
        obtain ⟨hl, ⟨t, ht, hexpired⟩, -, hpos⟩ := mem_getExpiringAllocations.mp hrow
        exact not_le.mpr hpos (h.available_le hcompleted hl ht (h.clock ▸ hexpired))
      exact ⟨_, run_processExpirations_of_nil hnil, rfl⟩
  exact hspec

def spentElsewhere : World :=
  reached ⟨false⟩ 0 (fun _ => none)
    [.request (.allocateCredits
        { userId := ['a'], amount := 100, creditType := .bonus, expiresAt := some 10 }),
      .request (.transferCredits
        { fromUserId := ['a'], toUserId := ['b'], amount := 60, creditType := .bonus }),
      .clock 10]

/-- The sweep reports 100, and the balances lose nothing. -/
theorem not_sweeps_spentElsewhere :
    ¬∃ answer w', processExpirations.run handle spentElsewhere = (.ok answer, w') ∧
      spentElsewhere.Sweeps answer w' := by
  rintro ⟨answer, w', hrun, hsweeps⟩
  have hanswer : (processExpirations.run handle spentElsewhere).1 = .ok ⟨1, 100, 10⟩ := by decide
  have hall : (processExpirations.run handle spentElsewhere).2.allBalances = 100 := by decide
  rw [hrun] at hanswer hall
  cases hanswer
  have htotal := hsweeps.total
  rw [hall] at htotal
  exact absurd htotal (by decide)

end Sweep

end IsaUser.Credit
