import IsaUser.Credit.Operations

/-!
# The Credit Ledger as a Chain

Every change of a balance is announced by a row of `credit_transactions` with the balance
before it and after it, and the rows of an account are meant to form a chain from 0 to its
balance. The service writes the row first and updates the balance afterwards, under a
guard that can refuse. A consumption then stops and a row stays behind; an expiration does
not even look at the answer. A transfer whose two parties are one account writes two rows
that do not follow each other.
-/

namespace IsaUser.Credit

open CreditService

/-- The transactions of every account, in creation order, are a chain from 0 to its
stored balance. -/
def World.LedgersChain (w : World) : Prop :=
  ∀ row ∈ w.store.accounts.entries,
    Store.ChainedTo (w.store.ledger row.id) row.val.balance
  deriving Decidable

/-- The balances pay for all that the step debits, and it is not a transfer that goes
through from an account to itself. -/
def Step.KeepsLedgers (self : CreditService) (w : World) : Step → Prop
  | .request (.consumeCredits u x _) => w.PaysConsumption u x
  | .request .processExpirations => w.PaysExpirations
  | .request (.transferCredits transfer) =>
    ∀ i j, w.transferParties self transfer = some (i, j) → i ≠ j
  | _ => True

theorem ledgersChain_iff_chained {w : World} (hv : w.store.Valid) :
    w.LedgersChain ↔ w.store.Chained := by
  constructor
  · intro h i
    cases ha : w.store.accounts.get? i with
    | some a =>
      rw [Store.balanceOf_of_get? ha]
      exact h ⟨i, a⟩ (Table.mem_entries.mpr ha)
    | none =>
      have hnil : w.store.ledger i = [] := by
        refine List.filter_eq_nil_iff.mpr fun t ht hi => ?_
        obtain ⟨k, hk⟩ := List.mem_iff_getElem?.mp ht
        have hlt := hv.row_account k t hk
        rw [of_decide_eq_true hi] at hlt
        exact absurd hlt (not_lt.mpr (List.getElem?_eq_none_iff.mp ha))
      have hzero : w.store.balanceOf i = 0 := by simp [Store.balanceOf, ha]
      rw [hnil, hzero]
      exact Ledger.chained_nil
  · intro h row hrow
    rw [← Store.balanceOf_of_get? (Table.mem_entries.mp hrow)]
    exact h row.id

theorem Step.regular {self : CreditService} {w : World} {r : Request}
    (h : (Step.request r).KeepsLedgers self w) {k : MoveKind} (hk : r.Kinds self w k) :
    Move.Regular k := by
  cases r with
  | createAccount =>
    subst hk
    simp [Move.Regular]
  | createCampaign =>
    subst hk
    simp [Move.Regular]
  | allocateCredits =>
    obtain rfl | rfl | rfl := hk <;> simp [Move.Regular]
  | allocateFromCampaign =>
    obtain rfl | rfl | rfl := hk <;> simp [Move.Regular]
  | consumeCredits =>
    rcases hk with rfl | ⟨-, hn⟩
    · simp [Move.Regular]
    · exact absurd h hn
  | processExpirations =>
    rcases hk with rfl | ⟨-, hn⟩
    · simp [Move.Regular]
    · exact absurd h hn
  | transferCredits =>
    rcases hk with rfl | ⟨i, j, hparties, rfl⟩
    · simp [Move.Regular]
    · rw [if_neg (h i j hparties)]
      simp [Move.Regular]

/-! ### Steps that break a ledger -/

section Broken

variable {w : World}

theorem consumeCredits_breaks {u : PyStr} {amount : ℤ} {ref : Option PyStr}
    (h : ¬w.PaysConsumption u amount) :
    (consumeCredits u amount ref).wp handle (fun _ w' => ¬w'.store.Chained) w := by
  obtain ⟨hacc, hcov⟩ := Classical.not_imp.mp h
  refine wp_consumeCredits (fun hn => absurd hacc hn) (fun _ ts w' hr => absurd hr.1 hcov)
    fun _ e e' w' hr => ?_
  obtain ⟨-, s, -, hlast⟩ := hr
  exact hlast.not_chained_of_not_regular (by simp [Move.Regular])

theorem processExpirations_breaks (hv : w.store.Valid) (h : ¬w.PaysExpirations) :
    processExpirations.wp handle (fun _ w' => ¬w'.store.Chained) w := by
  refine Prog.wp_mono (processExpirations_expires hv) fun _ w' hr => ?_
  rcases hr with ⟨hcov, -⟩ | ⟨-, s, s', -, hmove, hlast⟩
  · exact absurd hcov h
  · exact fun hs => hmove.not_chained_of_not_regular (by simp [Move.Regular])
      (hlast.chained_of_chained hs)

theorem transferCredits_breaks {self : CreditService} {request : TransferRequest}
    (hv : w.store.Valid) {i : ℕ} (h : w.transferParties self request = some (i, i)) :
    (self.transferCredits request).wp handle (fun _ w' => ¬w'.store.Chained) w := by
  refine wp_transferCredits hv (fun hnone => ?_) fun i' j' _ s w' hparties _ hmove => ?_
  · rw [h] at hnone
    cases hnone
  · rw [h] at hparties
    obtain ⟨rfl, rfl⟩ := Prod.mk.inj (Option.some_inj.mp hparties)
    exact hmove.not_chained_of_not_regular (by simp [Move.Regular])

end Broken

variable {self : CreditService} {w : World}

theorem Step.run_chained {step : Step} (hv : w.store.Valid) (hs : w.store.Chained)
    (h : step.KeepsLedgers self w) : (step.run self w).store.Chained := by
  refine step.run_keeps self hv hs ?_
  rintro r s rfl hmoves
  exact hmoves.chained (fun _ => Step.regular h) hs

theorem prog_breaks {r : Request} (hv : w.store.Valid) (h : ¬(Step.request r).KeepsLedgers self w) :
    (r.prog self).wp handle (fun _ w' => ¬w'.store.Chained) w := by
  cases r with
  | consumeCredits u x ref => exact Prog.wp_void.mpr (consumeCredits_breaks h)
  | processExpirations => exact Prog.wp_void.mpr (processExpirations_breaks hv h)
  | transferCredits transfer =>
    obtain ⟨i, hi⟩ := not_forall.mp h
    obtain ⟨j, hj⟩ := not_forall.mp hi
    obtain ⟨hparties, hij⟩ := Classical.not_imp.mp hj
    obtain rfl := not_not.mp hij
    exact Prog.wp_void.mpr (transferCredits_breaks hv hparties)
  | _ => exact absurd trivial h

theorem Step.keepsLedgers_of_chained {step : Step} (hv : w.store.Valid)
    (h : (step.run self w).store.Chained) : w.store.Chained ∧ step.KeepsLedgers self w := by
  cases step with
  | clock => exact ⟨h, trivial⟩
  | users => exact ⟨h, trivial⟩
  | request r =>
    refine ⟨(prog_makes self hv r).chained_of_chained h, not_not.mp fun hn => ?_⟩
    exact prog_breaks hv hn h

/-- **The ledger chain.** Starting from an empty store, at the end of a history all
ledgers are chains from 0 to the stored balance, if and only if the balances paid for
every consumption and every expiration, and no transfer that went through had one account
on both sides. -/
theorem ledgersChain_iff (self : CreditService) (now : Timestamp)
    (users : PyStr → Option User) (steps : List Step) :
    (exec (Step.run self) (World.start now users) steps).LedgersChain ↔
      AllSteps (Step.run self) (Step.KeepsLedgers self) (World.start now users) steps := by
  rw [ledgersChain_iff_chained (valid_exec self now users steps)]
  exact exec_iff_allSteps (V := fun w : World => w.store.Valid)
    (P := fun w : World => w.store.Chained) Store.valid_empty Store.chained_empty
    (fun w step hv => step.run_valid self hv) (fun w step hv hs h => step.run_chained hv hs h)
    fun w step hv h => step.keepsLedgers_of_chained hv h

def expiredAfterTransfer : List Step :=
  [.request (.allocateCredits
      { userId := ['a'], amount := 100, creditType := .bonus, expiresAt := some 10 }),
    .request (.transferCredits
      { fromUserId := ['a'], toUserId := ['b'], amount := 100, creditType := .bonus }),
    .clock 20,
    .request .processExpirations]

/-- After it, Alice's last row leaves a balance of -100, and her balance is 0. -/
theorem not_ledgersChain_expiredAfterTransfer :
    ¬(exec (Step.run ⟨false⟩) (World.start 0 fun _ => none)
      expiredAfterTransfer).LedgersChain := by
  decide

end IsaUser.Credit
