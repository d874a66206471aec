import IsaUser.Lib.Runs
import IsaUser.Subscription.Service

/-!
# The Accounts of a Subscription

The transactions of the repository, in any order and by any number of clients: what a
subscription has used is what consumption took and what its reservations hold or have
charged.
-/

open Option

namespace IsaUser.Subscriptions

open Table

/-! ### Transactions -/

/-- A transaction of the repository; the amounts are not negative. -/
inductive Step where
  | createSubscription (tier : Tier) (request : CreateSubscriptionRequest) (now : Timestamp)
  | consumeCredits (subscriptionId creditsToConsume : ℕ)
  | reserveCredits (payer : Payer) (estimatedCredits : ℕ) (requestId : Option PyStr)
  | reconcileCreditReservation (reservationId actualCredits : ℕ)
  | releaseCreditReservation (reservationId : ℕ)

def Step.run (s : Store) : Step → Store
  | createSubscription tier request now =>
    (Subscriptions.createSubscription (newSubscription tier request now) now s).2
  | consumeCredits id n => (Subscriptions.consumeCredits id n s).2
  | reserveCredits payer n requestId => (Subscriptions.reserveCredits payer n requestId s).2
  | reconcileCreditReservation id n => (Subscriptions.reconcileCreditReservation id n s).2
  | releaseCreditReservation id => (Subscriptions.releaseCreditReservation id s).2

/-- The credits that a transaction takes from subscription `i` as consumption. -/
def Step.taken (s : Store) (i : ℕ) : Step → ℤ
  | consumeCredits id n =>
    if id = i ∧ (Subscriptions.consumeCredits id n s).1.isSome then n else 0
  | _ => 0

/-- The credits that consumption takes from subscription `i` in a run. -/
def consumed : Store → List Step → ℕ → ℤ
  | _, [], _ => 0
  | s, step :: steps, i => step.taken s i + consumed (step.run s) steps i

def Step.settlement? : Step → Option (ℕ × ℤ)
  | reconcileCreditReservation id n => some (id, n)
  | releaseCreditReservation id => some (id, 0)
  | _ => none

/-- The transaction settles reservation `r`: it asks for its settlement, and it changes the
store. -/
def Step.settles (s : Store) (r : ℕ) (step : Step) : Bool :=
  step.settlement?.any (·.1 = r) && decide (step.run s ≠ s)

/-- How often reservation `r` is settled in a run. -/
def settlements : Store → List Step → ℕ → ℕ
  | _, [], _ => 0
  | s, step :: steps, r => (step.settles s r).toNat + settlements (step.run s) steps r

/-- No more is put back to a subscription than it has used: the settlement of a pending
reservation at a charge is not clipped. -/
def Store.Unclipped (s : Store) (id : ℕ) (charge : ℤ) : Prop :=
  ∀ reservation sub, s.reservations.get? id = some reservation →
    reservation.status = .pending →
      s.subscriptions.get? reservation.subscriptionId = some sub →
        reservation.estimatedCredits - charge ≤ sub.credits.used

def Step.Unclipped (s : Store) (step : Step) : Prop :=
  ∀ p ∈ step.settlement?, s.Unclipped p.1 p.2

/-! ### The books -/

/-- What the reservations of subscription `i` hold or have charged. -/
def Store.held (s : Store) (i : ℕ) : ℤ :=
  s.reservations.sumBy fun r => if r.subscriptionId = i then r.charge else 0

def Store.Accounts (s : Store) (account : ℕ → ℤ) : Prop :=
  ∀ i sub, s.subscriptions.get? i = some sub →
    sub.credits.Balanced ∧ sub.credits.used = account i

/-- **The books.** A subscription has used what consumption took and its reservations
account for. -/
structure Books (s : Store) (taken : ℕ → ℤ) : Prop where
  /-- The counters are accounted for. -/
  accounts : s.Accounts fun i => taken i + s.held i
  /-- Consumption gives nothing back. -/
  taken_nonneg : ∀ i, 0 ≤ taken i
  /-- Nothing is taken from a subscription that is not there yet. -/
  taken_size : ∀ i, s.subscriptions.size ≤ i → taken i = 0
  /-- No reservation accounts for less than nothing. -/
  charge_nonneg : ∀ r row, s.reservations.get? r = some row → 0 ≤ row.charge
  /-- A reservation is one of a subscription. -/
  subscribed : ∀ r row, s.reservations.get? r = some row →
    row.subscriptionId < s.subscriptions.size

theorem books_empty : Books .empty fun _ => 0 := by
  constructor <;> intro i <;> simp [Store.empty]

section Held

variable {s : Store} {row new : CreditReservation} {r : ℕ}

@[simp] theorem held_setCredits (i : ℕ) (credits : Credits) (j : ℕ) :
    (s.setCredits i credits).held j = s.held j := rfl

@[simp] theorem held_addSubscription (sub : UserSubscription) (j : ℕ) :
    (s.addSubscription sub).held j = s.held j := rfl

theorem held_addReservation (row : CreditReservation) (j : ℕ) :
    (s.addReservation row).held j =
      s.held j + if row.subscriptionId = j then row.charge else 0 :=
  sumBy_insert _ _ _

theorem held_setReservation (h : s.reservations.get? r = some row)
    (hsame : new.subscriptionId = row.subscriptionId) (j : ℕ) :
    (s.setReservation r new).held j =
      s.held j + if row.subscriptionId = j then new.charge - row.charge else 0 := by
  rw [Store.held, Store.setReservation, sumBy_modify h]
  simp only [hsame]
  split <;> simp [Store.held]

end Held

section Writes

variable {s : Store} {account taken : ℕ → ℤ} {i : ℕ} {sub : UserSubscription}
  {credits : Credits}

@[simp] theorem size_setCredits : (s.setCredits i credits).subscriptions.size =
    s.subscriptions.size :=
  size_modify _ _ _

theorem Store.Accounts.setCredits (h : s.Accounts account)
    (hsub : s.subscriptions.get? i = some sub) {δ : ℤ} (hbalanced : credits.Balanced)
    (hused : credits.used = sub.credits.used + δ) :
    (s.setCredits i credits).Accounts fun j => account j + if i = j then δ else 0 := by
  intro j sub' hsub'
  rw [get?_setCredits] at hsub'
  split at hsub'
  · next hij =>
      subst hij
      obtain rfl : { sub with credits } = sub' := by simpa [hsub] using hsub'
      have haccount := (h i sub hsub).2
      simpa [haccount] using And.intro hbalanced hused
  · next hij => simpa [hij] using h j sub' hsub'

theorem Store.Accounts.congr {account' : ℕ → ℤ} (h : s.Accounts account)
    (hsame : ∀ i, account i = account' i) : s.Accounts account' := by
  obtain rfl : account = account' := funext hsame
  exact h

theorem Books.held_size (hb : Books s taken) : s.held s.subscriptions.size = 0 := by
  refine sumBy_eq_zero fun r row hrow => if_neg fun h => ?_
  have := hb.subscribed r row hrow
  omega

theorem Books.addSubscription (hb : Books s taken) (hused : sub.credits.used = 0)
    (hbalanced : sub.credits.Balanced) : Books (s.addSubscription sub) taken where
  accounts := by
    intro j sub' hsub'
    rw [addSubscription_subscriptions, get?_insert] at hsub'
    split at hsub'
    · next hj =>
        obtain rfl := some.inj hsub'
        have htaken := hb.taken_size _ le_rfl
        simpa [hj, hb.held_size, htaken] using And.intro hbalanced hused
    · exact hb.accounts j sub' hsub'
  taken_nonneg := hb.taken_nonneg
  taken_size j hj := by
    rw [addSubscription_subscriptions, size_insert] at hj
    exact hb.taken_size j (by omega)
  charge_nonneg := hb.charge_nonneg
  subscribed r row hrow := by
    have := hb.subscribed r row hrow
    rw [addSubscription_subscriptions, size_insert]
    omega

theorem Books.consume (hb : Books s taken) (hsub : s.subscriptions.get? i = some sub) {n : ℤ}
    (hn : 0 ≤ n) (htake : sub.credits.take n = some credits) :
    Books (s.setCredits i credits) fun j => taken j + if i = j then n else 0 where
  accounts := by
    have hbalanced := (hb.accounts i sub hsub).1.take hn htake
    have hused := (Credits.take_eq_some.mp htake).2.2.1
    refine (hb.accounts.setCredits hsub hbalanced hused).congr fun j => ?_
    exact add_right_comm _ _ _
  taken_nonneg j := by
    have := hb.taken_nonneg j
    split <;> omega
  taken_size j hj := by
    rw [size_setCredits] at hj
    have hlt := lt_size_of_get? hsub
    rw [hb.taken_size j hj, if_neg (by omega), add_zero]
  charge_nonneg := hb.charge_nonneg
  subscribed r row hrow := by
    rw [size_setCredits]
    exact hb.subscribed r row hrow

theorem Books.reserve (hb : Books s taken) (hsub : s.subscriptions.get? i = some sub) {n : ℤ}
    (hn : 0 ≤ n) (htake : sub.credits.take n = some credits) (row : CreditReservation)
    (hcharge : row.charge = n) (hrow : row.subscriptionId = i) :
    Books ((s.setCredits i credits).addReservation row) taken where
  accounts := by
    have hbalanced := (hb.accounts i sub hsub).1.take hn htake
    have hused := (Credits.take_eq_some.mp htake).2.2.1
    have haccounts := hb.accounts.setCredits hsub hbalanced hused
    refine Store.Accounts.congr (s := (s.setCredits i credits).addReservation row) haccounts
      fun j => ?_
    rw [held_addReservation, hrow, hcharge]
    exact add_assoc _ _ _
  taken_nonneg := hb.taken_nonneg
  taken_size j hj := hb.taken_size j (by simpa using hj)
  charge_nonneg r row' hrow' := by
    rw [addReservation_reservations, get?_insert] at hrow'
    split at hrow'
    · obtain rfl := some.inj hrow'
      omega
    · exact hb.charge_nonneg r row' hrow'
  subscribed r row' hrow' := by
    rw [addReservation_subscriptions, size_setCredits]
    rw [addReservation_reservations, get?_insert] at hrow'
    split at hrow'
    · obtain rfl := some.inj hrow'
      rw [hrow]
      exact lt_size_of_get? hsub
    · exact hb.subscribed r row' hrow'

end Writes

/-! ### Settlements -/

section Settlements

variable {s s' : Store} {taken : ℕ → ℤ} {id : ℕ} {charge : ℤ}

theorem Credits.Settles.used {before after : Credits} {estimated : ℤ}
    (h : before.Settles after estimated charge) (hle : estimated - charge ≤ before.used) :
    after.used = before.used + (charge - estimated) := by
  rcases h with h | ⟨-, h⟩
  · obtain ⟨-, -, hused, -⟩ := Credits.putBack_eq_some.mp h
    omega
  · obtain ⟨-, -, hused, -⟩ := Credits.take_eq_some.mp h
    exact hused

/-- **Settlements and the clamp.** A settlement keeps the credits balanced exactly if it is
not clipped. -/
theorem Credits.Settles.balanced_iff {before after : Credits} {estimated : ℤ}
    (h : before.Settles after estimated charge) (hb : before.Balanced) :
    after.Balanced ↔ estimated - charge ≤ before.used := by
  rcases h with h | ⟨hle, h⟩
  · exact hb.putBack_iff h
  · have hused := hb.used_nonneg
    exact ⟨fun _ => by omega, fun _ => hb.take (by omega) h⟩

theorem charge_of_pending {row : CreditReservation} (h : row.status = .pending) :
    row.charge = row.estimatedCredits := by
  simp [CreditReservation.charge, h]

theorem Books.settle (hb : Books s taken) (hcharge : 0 ≤ charge)
    (hs : Settlement s id charge s') (hunclipped : s.Unclipped id charge) : Books s' taken := by
  obtain ⟨hfound, hpending, hsub, hsettles, -, hrow, hsame, -⟩ := hs
  rename_i reservation row sub credits
  have hle := hunclipped _ _ hfound hpending hsub
  constructor
  · have hbalanced := (hsettles.balanced_iff (hb.accounts _ _ hsub).1).mpr hle
    have haccounts := hb.accounts.setCredits hsub hbalanced (hsettles.used hle)
    refine Store.Accounts.congr
      (s := (s.setCredits reservation.subscriptionId credits).setReservation id row) haccounts
      fun j => ?_
    have hheld := held_setReservation (s := s.setCredits reservation.subscriptionId credits)
      hfound hsame j
    rw [hrow, charge_of_pending hpending] at hheld
    rw [hheld]
    exact add_assoc _ _ _
  · exact hb.taken_nonneg
  · exact fun j hj => hb.taken_size j (by simpa using hj)
  · intro r row' hrow'
    rw [get?_setReservation] at hrow'
    split at hrow'
    · next hr =>
        subst hr
        obtain rfl : row = row' := by simpa [hfound] using hrow'
        omega
    · exact hb.charge_nonneg r row' hrow'
  · intro r row' hrow'
    rw [setReservation_subscriptions, size_setCredits]
    rw [get?_setReservation] at hrow'
    split at hrow'
    · next hr =>
        subst hr
        obtain rfl : row = row' := by simpa [hfound] using hrow'
        rw [hsame]
        exact lt_size_of_get? hsub
    · exact hb.subscribed r row' hrow'

theorem Books.unclipped (hb : Books s taken) (hcharge : 0 ≤ charge) : s.Unclipped id charge := by
  intro reservation sub hfound hpending hsub
  have hused := (hb.accounts _ sub hsub).2
  have htaken := hb.taken_nonneg reservation.subscriptionId
  have hheld : (if reservation.subscriptionId = reservation.subscriptionId then
      reservation.charge else 0) ≤ s.held reservation.subscriptionId := by
    refine le_sumBy (g := fun r : CreditReservation =>
      if r.subscriptionId = reservation.subscriptionId then r.charge else 0) hfound ?_
    intro j row hrow
    have := hb.charge_nonneg j row hrow
    split <;> omega
  rw [charge_of_pending hpending] at hheld
  dsimp only at hused
  omega

end Settlements

/-! ### Steps and runs -/

section Runs

variable {s : Store} {taken : ℕ → ℤ} {step : Step}

theorem Step.settlement_cases {id : ℕ} {charge : ℤ} (h : step.settlement? = some (id, charge)) :
    0 ≤ charge ∧ (Settlement s id charge (step.run s) ∨
      step.run s = s ∧ s.NothingToPutBack id charge) := by
  cases step with
  | reconcileCreditReservation id' n =>
    obtain ⟨rfl, rfl⟩ := Prod.mk.inj (some.inj h)
    exact ⟨Int.natCast_nonneg n, reconcile_cases s id' n⟩
  | releaseCreditReservation id' =>
    obtain ⟨rfl, rfl⟩ := Prod.mk.inj (some.inj h)
    exact ⟨le_rfl, release_cases s id'⟩
  | _ => cases h

theorem Books.unclipped_step (hb : Books s taken) (step : Step) : step.Unclipped s := by
  rintro ⟨id, charge⟩ h
  exact hb.unclipped (Step.settlement_cases (s := s) h).1

inductive Effect (s : Store) : Step → Store → Prop where
  | unchanged {step : Step} (nothing : ∀ i, step.taken s i = 0) : Effect s step s
  | created (tier : Tier) (request : CreateSubscriptionRequest) (now : Timestamp) :
      Effect s (.createSubscription tier request now)
        (s.addSubscription (newSubscription tier request now))
  | consumed {id n : ℕ} {sub : UserSubscription} {credits : Credits}
      (found : s.subscriptions.get? id = some sub) (takes : sub.credits.take n = some credits)
      (all : ∀ i, Step.taken s i (.consumeCredits id n) = if id = i then n else 0) :
      Effect s (.consumeCredits id n) (s.setCredits id credits)
  | reserved {n : ℕ} {sub : Row UserSubscription} {credits : Credits} (payer : Payer)
      (requestId : Option PyStr) (found : s.subscriptions.get? sub.id = some sub.val)
      (takes : sub.val.credits.take n = some credits) :
      Effect s (.reserveCredits payer n requestId)
        ((s.setCredits sub.id credits).addReservation
          (newReservation (resolveBillingScope payer) sub.id credits n requestId))
  | settled {step : Step} {s' : Store} {id : ℕ} {charge : ℤ}
      (asks : step.settlement? = some (id, charge)) (settlement : Settlement s id charge s') :
      Effect s step s'

theorem Step.effect (s : Store) (step : Step) : Effect s step (step.run s) := by
  have hsettles : ∀ id charge, step.settlement? = some (id, charge) →
      (∀ i, step.taken s i = 0) → Effect s step (step.run s) := by
    intro id charge h hnothing
    rcases (Step.settlement_cases (s := s) h).2 with hsettled | ⟨hrun, -⟩
    · exact .settled h hsettled
    · rw [hrun]
      exact .unchanged hnothing
  cases step with
  | createSubscription tier request now => exact .created tier request now
  | consumeCredits id n =>
    rw [Step.run]
    rcases consumeCredits_cases s id n with hrun | ⟨sub, credits, hsub, htake, hrun⟩
    · rw [hrun]
      exact .unchanged fun i => by simp [Step.taken, hrun]
    · rw [hrun]
      exact .consumed hsub htake fun i => by simp [Step.taken, hrun]
  | reserveCredits payer n requestId =>
    rw [Step.run]
    rcases reserveCredits_cases s payer n requestId with
      ⟨existing, -, hrun⟩ | ⟨-, hrun | hrun⟩ | ⟨sub, credits, -, -, hsub, htake, hrun⟩
    · rw [hrun]
      exact .unchanged fun _ => rfl
    · rw [hrun]
      exact .unchanged fun _ => rfl
    · rw [hrun]
      exact .unchanged fun _ => rfl
    · rw [hrun]
      exact .reserved payer requestId (of_activeSubscription hsub).1 htake
  | reconcileCreditReservation id n => exact hsettles id n rfl fun _ => rfl
  | releaseCreditReservation id => exact hsettles id 0 rfl fun _ => rfl

theorem Step.taken_of_settlement {p : ℕ × ℤ} (h : step.settlement? = some p) (i : ℕ) :
    step.taken s i = 0 := by
  cases step with
  | consumeCredits id n => cases h
  | _ => rfl

/-- **Every transaction keeps the books.** -/
theorem books_run (hb : Books s taken) (step : Step) :
    Books (step.run s) fun i => taken i + step.taken s i := by
  have heffect := step.effect s
  generalize step.run s = s' at heffect
  cases heffect with
  | unchanged nothing => simpa [nothing] using hb
  | created tier request now =>
    have hnew : (newSubscription tier request now).credits.Balanced :=
      ⟨le_rfl, by simp [newSubscription]⟩
    simpa [Step.taken] using hb.addSubscription rfl hnew
  | consumed found takes all =>
    simpa [all] using hb.consume found (Int.natCast_nonneg _) takes
  | @reserved n sub credits payer requestId found takes =>
    have hreserved := hb.reserve found (Int.natCast_nonneg n) takes
      (newReservation (resolveBillingScope payer) sub.id credits n requestId) rfl rfl
    simpa [Step.taken] using hreserved
  | settled asks settlement =>
    have hcharge := (Step.settlement_cases (s := s) asks).1
    have hsettled := hb.settle hcharge settlement (hb.unclipped hcharge)
    simpa [Step.taken_of_settlement asks] using hsettled

theorem becomes_run (s : Store) (step : Step) :
    s.reservations.Extends CreditReservation.Becomes (step.run s).reservations := by
  have hrefl : s.reservations.Extends CreditReservation.Becomes s.reservations :=
    Extends.refl CreditReservation.Becomes.refl _
  have heffect := step.effect s
  generalize step.run s = s' at heffect
  cases heffect with
  | unchanged nothing => exact hrefl
  | created tier request now => exact hrefl
  | consumed found takes all => exact hrefl
  | reserved payer requestId found takes =>
    exact extends_insert CreditReservation.Becomes.refl _ _
  | settled asks settlement => exact settlement.becomes

theorem books_exec (hb : Books s taken) (steps : List Step) :
    Books (exec Step.run s steps) fun i => taken i + consumed s steps i := by
  induction steps generalizing s taken with
  | nil => simpa [consumed] using hb
  | cons step steps ih =>
    have hnext := ih (books_run hb step)
    simpa [consumed, add_assoc] using hnext

theorem unclipped_exec (hb : Books s taken) (steps : List Step) :
    AllSteps Step.run Step.Unclipped s steps := by
  induction steps generalizing s taken with
  | nil => trivial
  | cons step steps ih => exact ⟨hb.unclipped_step step, ih (books_run hb step)⟩

/-! ### Settled once -/

/-- Reservation `r` is there and settled. -/
def Store.SettledAt (s : Store) (r : ℕ) : Prop :=
  ∃ row, s.reservations.get? r = some row ∧ row.status ≠ .pending

variable {r id : ℕ} {charge : ℤ} {s' : Store}

theorem Settlement.settledAt (h : Settlement s id charge s') :
    ¬s.SettledAt id ∧ s'.SettledAt id := by
  obtain ⟨hfound, hpending, -, -, hsettled, -⟩ := h
  constructor
  · rintro ⟨row, hrow, hnot⟩
    obtain rfl := some.inj (hfound.symm.trans hrow)
    exact hnot hpending
  · refine ⟨_, ?_, hsettled⟩
    rw [get?_setReservation, if_pos rfl, setCredits_reservations, hfound, map_some]

theorem settledAt_run (hr : s.SettledAt r) (step : Step) : (step.run s).SettledAt r := by
  obtain ⟨row, hrow, hnot⟩ := hr
  obtain ⟨new, hnew, -, hsame⟩ := becomes_run s step r row hrow
  obtain rfl := hsame hnot
  exact ⟨new, hnew, hnot⟩

theorem Step.settledAt (h : step.settles s r) : ¬s.SettledAt r ∧ (step.run s).SettledAt r := by
  rw [Step.settles, Bool.and_eq_true, any_eq_true, decide_eq_true_eq] at h
  obtain ⟨⟨⟨id, charge⟩, hstep, hid⟩, hrun⟩ := h
  obtain rfl : id = r := by simpa using hid
  rcases (Step.settlement_cases (s := s) hstep).2 with hsettled | ⟨hsame, -⟩
  · exact hsettled.settledAt
  · exact absurd hsame hrun

theorem settlements_eq_zero (hr : s.SettledAt r) (steps : List Step) :
    settlements s steps r = 0 := by
  induction steps generalizing s with
  | nil => rfl
  | cons step steps ih =>
    have hnot : step.settles s r = false := by
      by_contra h
      exact (Step.settledAt (Bool.eq_true_of_not_eq_false h)).1 hr
    rw [settlements, hnot, ih (settledAt_run hr step)]
    rfl

theorem settlements_le_one (s : Store) (steps : List Step) (r : ℕ) :
    settlements s steps r ≤ 1 := by
  induction steps generalizing s with
  | nil => exact Nat.zero_le 1
  | cons step steps ih =>
    by_cases hstep : step.settles s r
    · rw [settlements, hstep, settlements_eq_zero (Step.settledAt hstep).2]
      rfl
    · rw [settlements, Bool.eq_false_of_not_eq_true hstep]
      have := ih (step.run s)
      simpa using this

end Runs

/-- **Every credit is accounted for.** In every state that transactions of any number of
clients can reach, in any order: no subscription has less than nothing left, what it has
used and what is left are what was allocated and rolled over, and it has used what
consumption took and its reservations account for. No settlement on the way was clipped,
and no reservation was settled more than once. -/
theorem credits_accounted (steps : List Step) :
    (∀ i sub, (exec Step.run .empty steps).subscriptions.get? i = some sub →
      0 ≤ sub.credits.remaining ∧
        sub.credits.used + sub.credits.remaining =
          sub.credits.allocated + sub.credits.rolledOver ∧
        sub.credits.used =
          consumed .empty steps i + (exec Step.run .empty steps).held i) ∧
      AllSteps Step.run Step.Unclipped .empty steps ∧
        ∀ r, settlements .empty steps r ≤ 1 := by
  have hbooks : Books (exec Step.run .empty steps) (consumed .empty steps) := by
    simpa using books_exec books_empty steps
  refine ⟨fun i sub hsub => ?_, unclipped_exec books_empty steps,
    settlements_le_one .empty steps⟩
  obtain ⟨hbalanced, hused⟩ := hbooks.accounts i sub hsub
  exact ⟨sub.credits.remaining_nonneg, hbalanced.adds, hused⟩

/-! ### Requests to the service -/

def Step.creation? : Step → Option CreateSubscriptionRequest
  | createSubscription _ request _ => some request
  | _ => none

def ServiceCall.creation? : ServiceCall → Option CreateSubscriptionRequest
  | createSubscription request _ => some request
  | _ => none

theorem ServiceCall.run_cases (s : Store) (call : ServiceCall) :
    call.run s = s ∨
      (∃ step : Step, step.creation? = call.creation? ∧ call.run s = step.run s) ∨
        ∃ id, call.run s = (updateStatus id .canceled s).2 := by
  cases call with
  | createSubscription request now =>
    rw [run, Service.createSubscription]
    cases getTierInfo request.tierCode with
    | none => exact .inl rfl
    | some tier =>
      cases getUserSubscription request.payer s with
      | some existing => exact .inl rfl
      | none => exact .inr (.inl ⟨.createSubscription tier request now, rfl, rfl⟩)
  | cancelSubscription id immediate userId =>
    rw [run, Service.cancelSubscription]
    split
    · exact .inl rfl
    · split
      · exact .inl rfl
      · split
        · exact .inr (.inr ⟨id, rfl⟩)
        · exact .inl rfl
  | consumeCredits request =>
    have hcast : ((request.creditsToConsume.toNat : ℕ) : ℤ) = request.creditsToConsume :=
      Int.toNat_of_nonneg request.credits_pos.le
    rw [run, Service.consumeCredits]
    dsimp only
    split
    · exact .inl rfl
    · next sub hsub =>
        split
        · exact .inl rfl
        · refine .inr (.inl ⟨.consumeCredits sub.id request.creditsToConsume.toNat, rfl, ?_⟩)
          rw [Step.run]
          split <;> simp [*]
  | reserveCredits request =>
    have hcast : ((request.estimatedCredits.toNat : ℕ) : ℤ) = request.estimatedCredits :=
      Int.toNat_of_nonneg request.estimated_pos.le
    rw [run, Service.reserveCredits]
    split
    · exact .inl rfl
    · refine .inr (.inl ⟨.reserveCredits (resolveBillingScope request.payer).payer
        request.estimatedCredits.toNat request.requestId, rfl, ?_⟩)
      rw [Step.run]
      split <;> simp [*]
  | reconcileReservation request =>
    have hcast : ((request.actualCredits.toNat : ℕ) : ℤ) = request.actualCredits :=
      Int.toNat_of_nonneg request.actual_nonneg
    rw [run, Service.reconcileReservation]
    refine .inr (.inl ⟨.reconcileCreditReservation request.reservationId
      request.actualCredits.toNat, rfl, ?_⟩)
    rw [Step.run]
    split <;> simp [*]
  | releaseReservation id =>
    rw [run, Service.releaseReservation]
    refine .inr (.inl ⟨.releaseCreditReservation id, rfl, ?_⟩)
    rw [Step.run]
    split <;> simp [*]

end IsaUser.Subscriptions
