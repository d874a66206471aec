import IsaUser.Credit.Operations

/-!
# Credit Reconciliation

`credit.v_account_reconciliation` compares, row by row, the stored balance of an account
with what remains of its allocations, and calls any difference a bug. Allocation,
consumption and expiration move both copies together. A transfer moves only the balances:
`transfer_credits` writes no allocation, so the sender keeps allocations without a balance
and the recipient gets a balance without allocations.
-/

namespace IsaUser.Credit

open CreditService

/-- `v_account_reconciliation` reports drift 0 for every row. -/
def World.Reconciled (w : World) : Prop :=
  ∀ row ∈ w.store.accounts.entries, w.store.drift row = 0
  deriving Decidable

def Step.KeepsCredits (self : CreditService) (w : World) : Step → Prop
  | .request (.transferCredits transfer) =>
    ∀ i j, w.transferParties self transfer = some (i, j) → i = j
  | _ => True

variable {w : World}

theorem reconciled_of_balanced (h : w.store.Balanced) : w.Reconciled :=
  fun _ hrow => h.drift_eq_zero (Table.mem_entries.mp hrow)

variable {self : CreditService}

theorem Step.not_transferred {r : Request} (h : (Step.request r).KeepsCredits self w) :
    ¬r.Kinds self w .transferred := by
  cases r with
  | createAccount => simp [Request.Kinds]
  | createCampaign => simp [Request.Kinds]
  | allocateCredits => simp [Request.Kinds, IsAllocation]
  | allocateFromCampaign => simp [Request.Kinds, IsAllocation]
  | consumeCredits => simp [Request.Kinds]
  | processExpirations => simp [Request.Kinds]
  | transferCredits transfer =>
    rintro (h' | ⟨i, j, hparties, hk⟩)
    · cases h'
    · rw [if_pos (h i j hparties)] at hk
      cases hk

theorem Step.run_balanced {step : Step} (hw : w.store.Valid ∧ w.store.Balanced)
    (h : step.KeepsCredits self w) :
    (step.run self w).store.Valid ∧ (step.run self w).store.Balanced := by
  refine step.run_keeps (P := fun s => s.Valid ∧ s.Balanced) self hw.1 hw ?_
  rintro r s rfl hmoves
  exact hmoves.balanced (Step.not_transferred h) hw

theorem not_reconciled_of_transfer {request : TransferRequest}
    (hw : w.store.Valid ∧ w.store.Balanced) {i j : ℕ}
    (hparties : w.transferParties self request = some (i, j)) (hij : i ≠ j) :
    (self.transferCredits request).wp handle (fun _ w' => ¬w'.Reconciled) w := by
  refine wp_transferCredits hw.1 (fun hnone => ?_) fun i' j' _ s w' hp hopened hmove => ?_
  · rw [hparties] at hnone
    cases hnone
  · rw [hparties] at hp
    obtain ⟨rfl, rfl⟩ := Prod.mk.inj (Option.some_inj.mp hp)
    rw [if_neg hij] at hmove
    have hs := hopened.balanced (by simp) hw
    obtain ⟨k, a, ha, hdrift⟩ := hmove.drift_of_transferred hs.2
    exact fun hrec => hdrift (hrec ⟨k, a⟩ (Table.mem_entries.mpr ha))

theorem Step.run_not_reconciled {step : Step} (hw : w.store.Valid ∧ w.store.Balanced)
    (h : ¬step.KeepsCredits self w) : ¬(step.run self w).Reconciled := by
  cases step with
  | clock => exact absurd trivial h
  | users => exact absurd trivial h
  | request r =>
    cases r with
    | transferCredits transfer =>
      obtain ⟨i, hi⟩ := not_forall.mp h
      obtain ⟨j, hj⟩ := not_forall.mp hi
      obtain ⟨hparties, hij⟩ := Classical.not_imp.mp hj
      have hrun : ((Request.transferCredits transfer).prog self).wp handle
          (fun _ w' => ¬w'.Reconciled) w :=
        Prog.wp_void.mpr (not_reconciled_of_transfer hw hparties hij)
      exact hrun
    | _ => exact absurd trivial h

/-- **Reconciliation.** Starting from an empty store, the view reports no drift in any
state of a history if and only if no transfer goes through between two accounts. -/
theorem always_reconciled_iff (self : CreditService) (now : Timestamp)
    (users : PyStr → Option User) (steps : List Step) :
    Always (Step.run self) World.Reconciled (World.start now users) steps ↔
      AllSteps (Step.run self) (Step.KeepsCredits self) (World.start now users) steps :=
  always_iff_allSteps (J := fun w : World => w.store.Valid ∧ w.store.Balanced)
    ⟨Store.valid_empty, Store.balanced_empty⟩ (fun _ hw => reconciled_of_balanced hw.2)
    (fun _ _ hw h => Step.run_balanced hw h) fun _ _ hw h => Step.run_not_reconciled hw h

def aliceToBob : List Step :=
  [.request (.allocateCredits { userId := ['a'], amount := 100, creditType := .bonus }),
    .request (.transferCredits
      { fromUserId := ['a'], toUserId := ['b'], amount := 60, creditType := .bonus })]

/-- After it, Alice's balance is 40 and 100 remain of her allocation. -/
theorem not_reconciled_aliceToBob :
    ¬(exec (Step.run ⟨false⟩) (World.start 0 fun _ => none) aliceToBob).Reconciled := by
  decide

end IsaUser.Credit
