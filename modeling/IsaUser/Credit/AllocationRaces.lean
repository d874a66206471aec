import IsaUser.Credit.Concurrent

/-!
# Consumptions and Expirations at the Same Time

A plan is cut from a snapshot of the allocations and carried out call by call. The update
of a balance is guarded, the updates of `consumed_amount` and `expired_amount` are not:
they add to whatever the column holds by then. Two plans over one snapshot may take the
same credits twice, as long as the account can pay for both.
-/

namespace IsaUser.Credit

open CreditService

def Allocation.InBounds (l : Allocation) : Prop :=
  0 ≤ l.consumedAmount ∧ 0 ≤ l.expiredAmount ∧ l.consumedAmount + l.expiredAmount ≤ l.amount
  deriving Decidable

def World.Bounded (w : World) : Prop :=
  ∀ row ∈ w.store.allocations.entries, row.val.InBounds
  deriving Decidable

def CreditService.Request.isDebit : Request → Bool
  | consumeCredits _ _ _ => true
  | processExpirations => true
  | _ => false

def Call.taken? : Call → Option (ℕ × ℤ)
  | updateAllocationConsumed j x => some (j, x)
  | updateAllocationExpired j x => some (j, x)
  | _ => none

/-- An update of an allocation finds at least as much left as it takes. -/
def LotCovers (w : World) (c : Call) : Prop :=
  ∀ t ∈ c.taken?, ∀ l ∈ w.store.allocations.get? t.1, t.2 ≤ l.available
  deriving Decidable

/-! ### One call -/

variable {w : World}

theorem bounded_iff : w.Bounded ↔ ∀ j l, w.store.allocations.get? j = some l → l.InBounds :=
  ⟨fun h j l hl => h ⟨j, l⟩ (Table.mem_entries.mpr hl),
    fun h row hrow => h row.id row.val (Table.mem_entries.mp hrow)⟩

theorem bounded_modify (hw : w.Bounded) {j : ℕ} {f : Allocation → Allocation}
    (hf : ∀ l, w.store.allocations.get? j = some l → l.InBounds → (f l).InBounds) :
    (w.withStore { w.store with allocations := w.store.allocations.modify j f }).Bounded := by
  rw [bounded_iff] at hw ⊢
  intro k l hl
  simp only [withStore_store, Table.get?_modify] at hl
  split at hl
  · next hjk =>
      subst hjk
      obtain ⟨m, hm, rfl⟩ := Option.map_eq_some_iff.mp hl
      exact hf m hm (hw j m hm)
  · exact hw k l hl

theorem bounded_handle {c : Call} (hw : w.Bounded) (hc : c.Debits) (hcover : LotCovers w c) :
    (handle c w).2.Bounded := by
  cases c with
  | updateAllocationConsumed j x =>
    have hx : 0 < x := hc
    simp only [handle, Store.updateAllocationConsumed]
    split
    · refine bounded_modify hw fun l hl hb => ?_
      have hle := hcover (j, x) rfl l hl
      simp only [Allocation.InBounds, Allocation.available] at hb hle ⊢
      omega
    · exact hw
  | updateAllocationExpired j x =>
    have hx : 0 < x := hc
    simp only [handle, Store.updateAllocationExpired]
    split
    · refine bounded_modify hw fun l hl hb => ?_
      have hle := hcover (j, x) rfl l hl
      simp only [Allocation.InBounds, Allocation.available] at hb hle ⊢
      omega
    · exact hw
  | updateAccountBalance i δ =>
    simp only [handle, Store.updateAccountBalance]
    split
    · split
      · exact hw
      · exact hw
    · exact hw
  | createTransaction data => exact hw
  | createAccount => exact absurd hc id
  | createAllocation => exact absurd hc id
  | createCampaign => exact absurd hc id
  | updateCampaignBudget => exact absurd hc id
  | newTransferId => exact absurd hc id
  | _ => exact hw

/-! ### Runs -/

section Runs

variable {ι : Type} {self : CreditService} {requests : ι → Request}

theorem debit_sound {A : Past CreditApi World → World → Call → Prop} {T : Terms World}
    {r : Request} (hr : r.isDebit) (w : World) :
    (r.prog self).Sound T handle A debiting (fun _ _ _ => True) [] w := by
  cases r with
  | consumeCredits u x ref => exact Prog.sound_void (consumeCredits_sound u x ref)
  | processExpirations => exact Prog.sound_void processExpirations_sound
  | _ => cases hr

/-- **Allocation bounds under concurrency.** Any number of consumptions, of any users, and
expirations run at the same time, in any order of their calls and with time passing in
between. If every update of an allocation finds at least as much left as it takes, the
allocations are within their bounds in every state. -/
theorem bounded_of_covered [DecidableEq ι] {w : World} (hw : w.Bounded)
    (hrequests : ∀ i, (requests i).isDebit) {pool : CreditPool ι}
    (hpool : Pool.Reach handle Surroundings (fun _ _ w c => LotCovers w c)
      (CreditPool.start self w requests) pool) : pool.state.Bounded := by
  have hall : Pool.AllSound (Terms.ofInv World.Bounded) handle
      (fun _ _ w c => LotCovers w c) (fun _ => debiting) (fun _ _ _ _ => True)
      (CreditPool.start self w requests) := ⟨hw, fun i => debit_sound (hrequests i) w⟩
  refine (hpool.sound hall (fun _ _ _ _ h => h)
    (fun _ _ _ _ hw hA hG => ⟨bounded_handle hw hG hA, trivial⟩)
    fun w w' hw h => ⟨?_, trivial⟩).1
  have hstore : w'.store = w.store := h
  intro row hrow
  rw [hstore] at hrow
  exact hw row hrow

end Runs

/-! ### A race -/

def twoLotsWorld : World :=
  exec (Step.run ⟨false⟩) (World.start 0 fun _ => none)
    [.request (.allocateCredits { userId := ['a'], amount := 10, creditType := .bonus }),
      .request (.allocateCredits { userId := ['a'], amount := 10, creditType := .bonus })]

def tenEach (_ : Fin 2) : Request := .consumeCredits ['a'] 10 none

def takenTwicePool : CreditPool (Fin 2) :=
  (CreditPool.start ⟨false⟩ twoLotsWorld tenEach).schedule handle
    [0, 0, 1, 1, 0, 0, 0, 0, 1, 1, 1, 1]

/-- Both take the first allocation, which then has given 20 of 10. -/
theorem not_bounded_takenTwice :
    Pool.Reach handle Surroundings Pool.anyCall
        (CreditPool.start ⟨false⟩ twoLotsWorld tenEach) takenTwicePool ∧
      ¬takenTwicePool.state.Bounded :=
  ⟨Pool.Reach.start.schedule (Pool.permitted_anyCall _ _ _), by decide⟩

/-- When the second cuts its plan after the first was carried out, each takes its own. -/
theorem bounded_inTurn :
    ((CreditPool.start ⟨false⟩ twoLotsWorld tenEach).schedule handle
      [0, 0, 1, 0, 0, 0, 0, 1, 1, 1, 1, 1]).state.Bounded :=
  bounded_of_covered (by decide) (by decide) (Pool.Reach.start.schedule (by decide))

end IsaUser.Credit
