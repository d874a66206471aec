import IsaUser.Subscription.Accounting

/-!
# Renewals under Reservations

A new period resets the used credits of a subscription, also while reservations of the old
period are pending. When such a reservation is settled, what it held is put back all the
same, and the clamp at zero hides that it was never used in the new period.
-/

open Option

namespace IsaUser.Subscriptions

/-! ### Transactions with renewals -/

/-- A transaction of the repository, renewals included. -/
inductive PeriodStep where
  | transaction (step : Step)
  | allocateCredits (subscriptionId : ℕ) (creditsToAllocate rolloverCredits : ℤ)

def PeriodStep.run (s : Store) : PeriodStep → Store
  | transaction step => step.run s
  | allocateCredits id n rollover => (Subscriptions.allocateCredits id n rollover s).2

def PeriodStep.settlement? : PeriodStep → Option (ℕ × ℤ)
  | transaction step => step.settlement?
  | allocateCredits _ _ _ => none

def PeriodStep.Unclipped (s : Store) (step : PeriodStep) : Prop :=
  ∀ p ∈ step.settlement?, s.Unclipped p.1 p.2

/-! ### The law -/

def Store.Balanced (s : Store) : Prop :=
  ∀ i sub, s.subscriptions.get? i = some sub → sub.credits.Balanced

def Store.total (s : Store) (i : ℕ) : Option ℤ :=
  (s.subscriptions.get? i).map fun sub => sub.credits.used + sub.credits.remaining

/-- If the transaction is a settlement, it neither creates nor destroys credits. -/
def PeriodStep.Conserves (s : Store) (step : PeriodStep) : Prop :=
  step.settlement?.isSome → ∀ i, (step.run s).total i = s.total i

theorem balanced_empty : Store.empty.Balanced := by
  intro i sub h
  simp [Store.empty] at h

section Steps

variable {s s' : Store} {i id : ℕ} {charge : ℤ} {sub : UserSubscription} {credits : Credits}

theorem Store.Balanced.setCredits (hs : s.Balanced) (h : credits.Balanced) :
    (s.setCredits i credits).Balanced := by
  intro j sub' hsub'
  rw [get?_setCredits] at hsub'
  split at hsub'
  · obtain ⟨sub, -, rfl⟩ := map_eq_some_iff.mp hsub'
    exact h
  · exact hs j sub' hsub'

theorem Store.Balanced.addSubscription (hs : s.Balanced) (h : sub.credits.Balanced) :
    (s.addSubscription sub).Balanced := by
  intro j sub' hsub'
  rw [addSubscription_subscriptions, Table.get?_insert] at hsub'
  split at hsub'
  · obtain rfl := some.inj hsub'
    exact h
  · exact hs j sub' hsub'

theorem Settlement.balanced (h : Settlement s id charge s') (hs : s.Balanced)
    (hunclipped : s.Unclipped id charge) : s'.Balanced := by
  obtain ⟨hfound, hpending, hsub, hsettles, -, -, -, -⟩ := h
  have hle := hunclipped _ _ hfound hpending hsub
  exact hs.setCredits ((hsettles.balanced_iff (hs _ _ hsub)).mpr hle)

theorem Credits.Settles.granted {before after : Credits} {estimated : ℤ}
    (h : before.Settles after estimated charge) :
    after.allocated + after.rolledOver = before.allocated + before.rolledOver := by
  rcases h with h | ⟨-, h⟩
  · obtain ⟨-, hallocated, -, -, hrolled⟩ := Credits.putBack_eq_some.mp h
    rw [hallocated, hrolled]
  · obtain ⟨-, hallocated, -, -, hrolled⟩ := Credits.take_eq_some.mp h
    rw [hallocated, hrolled]

theorem Settlement.total (h : Settlement s id charge s') (hs : s.Balanced) (hs' : s'.Balanced)
    (i : ℕ) : s'.total i = s.total i := by
  obtain ⟨-, -, hsub, hsettles, -, -, -, -⟩ := h
  rename_i reservation row sub credits
  rw [Store.total, Store.total, setReservation_subscriptions, get?_setCredits]
  split
  · next hi =>
      subst hi
      have hadds := (hs _ sub hsub).adds
      have hadds' := (hs' reservation.subscriptionId { sub with credits } (by
        rw [setReservation_subscriptions, get?_setCredits, if_pos rfl, hsub,
          map_some])).adds
      have hgranted := hsettles.granted
      simp only [hsub, map_some, some.injEq]
      dsimp only at hadds'
      omega
  · rfl

theorem PeriodStep.balanced_run (step : PeriodStep) (hs : s.Balanced)
    (hunclipped : step.Unclipped s) : (step.run s).Balanced := by
  cases step with
  | allocateCredits id n rollover =>
    rcases allocateCredits_cases s id n rollover with hrun | ⟨credits, hrenew, hrun⟩
    · rwa [PeriodStep.run, hrun]
    · rw [PeriodStep.run, hrun]
      exact hs.setCredits (Credits.balanced_renew hrenew)
  | transaction step =>
    have heffect := step.effect s
    rw [PeriodStep.run]
    generalize step.run s = s' at heffect
    cases heffect with
    | unchanged nothing => exact hs
    | created tier request now =>
      have hnew : (newSubscription tier request now).credits.Balanced :=
        ⟨le_rfl, by simp [newSubscription]⟩
      exact hs.addSubscription hnew
    | consumed found takes all =>
      exact hs.setCredits ((hs _ _ found).take (Int.natCast_nonneg _) takes)
    | reserved payer requestId found takes =>
      exact hs.setCredits ((hs _ _ found).take (Int.natCast_nonneg _) takes)
    | settled asks settlement =>
      exact settlement.balanced hs (hunclipped _ (mem_def.mpr asks))

theorem PeriodStep.not_balanced_run {step : PeriodStep} (hs : s.Balanced)
    (hclipped : ¬step.Unclipped s) : ¬(step.run s).Balanced := by
  intro hafter
  refine hclipped fun ⟨id, charge⟩ hsettlement => ?_
  cases step with
  | allocateCredits id n rollover => cases hsettlement
  | transaction step =>
    intro reservation sub hfound hpending hsub
    rcases (Step.settlement_cases (s := s) hsettlement).2 with hsettled | ⟨-, hnothing⟩
    · generalize hrun : step.run s = s' at hsettled
      obtain ⟨hfound', -, hsub', hsettles, -, -, -, -⟩ := hsettled
      rename_i reservation' row sub' credits
      obtain rfl := some.inj (hfound.symm.trans hfound')
      obtain rfl := some.inj (hsub.symm.trans hsub')
      refine (hsettles.balanced_iff (hs _ _ hsub)).mp ?_
      refine hafter reservation.subscriptionId { sub with credits } ?_
      rw [PeriodStep.run, hrun, setReservation_subscriptions, get?_setCredits, if_pos rfl, hsub,
        map_some]
    · have hlt := hnothing reservation sub hfound hpending hsub
      have hused := (hs _ sub hsub).used_nonneg
      omega

theorem PeriodStep.conserves (step : PeriodStep) (hs : s.Balanced)
    (hunclipped : step.Unclipped s) : step.Conserves s := by
  intro hsome i
  have hafter := step.balanced_run hs hunclipped
  cases step with
  | allocateCredits id n rollover => cases hsome
  | transaction step =>
    obtain ⟨p, hp⟩ := isSome_iff_exists.mp hsome
    rw [PeriodStep.run] at hafter ⊢
    rcases (Step.settlement_cases (s := s) hp).2 with hsettled | ⟨hrun, -⟩
    · exact hsettled.total hs hafter i
    · rw [hrun]

end Steps

/-- **Credits survive renewals, exactly if no settlement is clipped.** With renewals at any
point, the credits of every subscription are balanced in every state and no settlement
creates or destroys any, if and only if no settlement puts back more than the subscription
has used in its current period. -/
theorem balanced_iff_unclipped (steps : List PeriodStep) :
    (Always PeriodStep.run Store.Balanced .empty steps ∧
        AllSteps PeriodStep.run PeriodStep.Conserves .empty steps) ↔
      AllSteps PeriodStep.run PeriodStep.Unclipped .empty steps := by
  have halways : Always PeriodStep.run Store.Balanced .empty steps ↔
      AllSteps PeriodStep.run PeriodStep.Unclipped .empty steps :=
    always_iff_allSteps balanced_empty (fun _ h => h) (fun _ step h => step.balanced_run h)
      fun _ _ => PeriodStep.not_balanced_run
  constructor
  · exact fun h => halways.mp h.1
  · intro h
    exact ⟨halways.mpr h, h.imp balanced_empty (fun _ step hs => step.balanced_run hs)
      fun _ step hs => step.conserves hs⟩

def renewedUnderReservation : List PeriodStep :=
  [.transaction (.createSubscription
      { tierCode := ['f', 'r', 'e', 'e'], monthlyCredits := 1000000, trialDays := 0,
        monthly_nonneg := freeCredits_nonneg }
      { userId := ['a'], tierCode := ['f', 'r', 'e', 'e'], seats_pos := oneSeat_pos } 0),
    .transaction (.reserveCredits { userId := ['a'] } 30 none),
    .allocateCredits 0 1000000 0,
    .transaction (.releaseCreditReservation 0)]

/-- The 30 credits are in the new period too: 1000030 are left of 1000000. -/
theorem not_balanced_renewed :
    ¬(Always PeriodStep.run Store.Balanced .empty renewedUnderReservation ∧
      AllSteps PeriodStep.run PeriodStep.Conserves .empty renewedUnderReservation) := by
  rintro ⟨⟨-, -, -, -, hlast⟩, -⟩
  have hadds := (hlast 0 _ (by rfl)).adds
  exact absurd hadds (by decide)

end IsaUser.Subscriptions
