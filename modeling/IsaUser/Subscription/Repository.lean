import IsaUser.Subscription.Model

/-!
# Repository Operations on Subscriptions

`SubscriptionRepository` (`subscription_repository.py`): each operation is one transaction,
a function from the store to its answer and the next store. A statement that violates a
constraint raises; the transaction is then rolled back, and all operations but
`reserve_credits` answer `None`.
-/

namespace IsaUser.Subscriptions

/-! ### Writes -/

def Store.setCredits (s : Store) (id : ℕ) (credits : Credits) : Store :=
  { s with subscriptions := s.subscriptions.modify id ({ · with credits }) }

def Store.setReservation (s : Store) (id : ℕ) (row : CreditReservation) : Store :=
  { s with reservations := s.reservations.modify id fun _ => row }

/-- `INSERT INTO user_subscriptions`. -/
def Store.addSubscription (s : Store) (row : UserSubscription) : Store :=
  { s with subscriptions := s.subscriptions.insert row }

/-- `INSERT INTO credit_reservations`. -/
def Store.addReservation (s : Store) (row : CreditReservation) : Store :=
  { s with reservations := s.reservations.insert row }

section Writes

variable (s : Store) (i : ℕ) (credits : Credits) (row : CreditReservation)
  (sub : UserSubscription)

@[simp] theorem setCredits_reservations :
    (s.setCredits i credits).reservations = s.reservations := rfl

@[simp] theorem setReservation_subscriptions :
    (s.setReservation i row).subscriptions = s.subscriptions := rfl

@[simp] theorem addSubscription_reservations :
    (s.addSubscription sub).reservations = s.reservations := rfl

@[simp] theorem addSubscription_subscriptions :
    (s.addSubscription sub).subscriptions = s.subscriptions.insert sub := rfl

@[simp] theorem addReservation_subscriptions :
    (s.addReservation row).subscriptions = s.subscriptions := rfl

@[simp] theorem addReservation_reservations :
    (s.addReservation row).reservations = s.reservations.insert row := rfl

theorem get?_setCredits (j : ℕ) : (s.setCredits i credits).subscriptions.get? j =
    if i = j then (s.subscriptions.get? j).map ({ · with credits }) else
      s.subscriptions.get? j :=
  Table.get?_modify _ _ _ _

theorem get?_setReservation (j : ℕ) : (s.setReservation i row).reservations.get? j =
    if i = j then (s.reservations.get? j).map fun _ => row else s.reservations.get? j :=
  Table.get?_modify _ _ _ _

end Writes

/-! ### Operations -/

inductive DbError where
  | uniqueViolation
  deriving DecidableEq, Repr

def DbError.text : DbError → String
  | uniqueViolation =>
    "duplicate key value violates unique constraint \"credit_reservations_request_id_key\""

def createSubscription (subscription : UserSubscription) (now : Timestamp) (s : Store) :
    Option (Row UserSubscription) × Store :=
  let row := { subscription with createdAt := now }
  (some ⟨s.subscriptions.size, row⟩, s.addSubscription row)

/-- `get_user_subscription`, with `active_only`. -/
def getUserSubscription (payer : Payer) (s : Store) : Option (Row UserSubscription) :=
  s.activeSubscription (resolveBillingScope payer)

/-- `update_subscription`, of the status. -/
def updateStatus (id : ℕ) (status : SubscriptionStatus) (s : Store) :
    Option (Row UserSubscription) × Store :=
  match s.subscriptions.get? id with
  | none => (none, s)
  | some sub =>
    (some ⟨id, { sub with status }⟩,
      { s with subscriptions := s.subscriptions.modify id ({ · with status }) })

@[simp] theorem updateStatus_reservations (id : ℕ) (status : SubscriptionStatus) (s : Store) :
    (updateStatus id status s).2.reservations = s.reservations := by
  unfold updateStatus
  split <;> rfl

def consumeCredits (id : ℕ) (creditsToConsume : ℤ) (s : Store) :
    Option (Row UserSubscription) × Store :=
  match s.subscriptions.get? id with
  | none => (none, s)
  | some sub =>
    match sub.credits.take creditsToConsume with
    | none => (none, s)
    | some credits => (some ⟨id, { sub with credits }⟩, s.setCredits id credits)

def allocateCredits (id : ℕ) (creditsToAllocate rolloverCredits : ℤ) (s : Store) :
    Option (Row UserSubscription) × Store :=
  match s.subscriptions.get? id with
  | none => (none, s)
  | some sub =>
    match Credits.renew creditsToAllocate rolloverCredits with
    | none => (none, s)
    | some credits => (some ⟨id, { sub with credits }⟩, s.setCredits id credits)

/-- The reservation stored under a request id, which is looked up `if request_id`. -/
def Store.reservationOf (s : Store) (requestId : Option PyStr) :
    Option (Row CreditReservation) :=
  if truthy requestId then s.reservations.find? (·.requestId = requestId) else none

/-- The reservation that `reserve_credits` inserts. -/
def newReservation (scope : BillingScope) (subscriptionId : ℕ) (credits : Credits)
    (estimatedCredits : ℤ) (requestId : Option PyStr) : CreditReservation where
  requestId := requestId
  subscriptionId := subscriptionId
  userId := scope.userId
  actorUserId := scope.actorUserId
  billingAccountType := scope.billingAccountType
  billingAccountId := scope.billingAccountId
  organizationId := scope.organizationId
  estimatedCredits := estimatedCredits
  actualCredits := none
  creditsRefunded := 0
  extraCreditsConsumed := 0
  creditsRemainingAfterReserve := credits.remaining
  creditsRemainingAfterFinalize := none
  status := .pending

/-- Another reservation has the request id, which the `UNIQUE` constraint forbids. -/
def Store.taken (s : Store) (requestId : Option PyStr) : Bool :=
  requestId.isSome && (s.reservations.find? (·.requestId = requestId)).isSome

def reserveCredits (payer : Payer) (estimatedCredits : ℤ) (requestId : Option PyStr)
    (s : Store) : Except DbError (Option (Row CreditReservation)) × Store :=
  let scope := resolveBillingScope payer
  match s.reservationOf requestId with
  | some existing => (.ok (some existing), s)
  | none =>
    match s.activeSubscription scope with
    | none => (.ok none, s)
    | some subscription =>
      match subscription.val.credits.take estimatedCredits with
      | none => (.ok none, s)
      | some credits =>
        if s.taken requestId then (.error .uniqueViolation, s)
        else
          let row := newReservation scope subscription.id credits estimatedCredits requestId
          (.ok (some ⟨s.reservations.size, row⟩),
            (s.setCredits subscription.id credits).addReservation row)

/-- What `reconcile_credit_reservation` and `release_credit_reservation` return. -/
structure Finalization where
  reservation : Row CreditReservation
  creditsRemaining : ℤ
  message : String
  deriving DecidableEq

def reconcileCreditReservation (id : ℕ) (actualCredits : ℤ) (s : Store) :
    Option Finalization × Store :=
  match s.reservations.get? id with
  | none => (none, s)
  | some reservation =>
    match s.subscriptions.get? reservation.subscriptionId with
    | none => (none, s)
    | some subscription =>
      let unchanged (message : String) : Option Finalization × Store :=
        (some ⟨⟨id, reservation⟩, subscription.credits.remaining, message⟩, s)
      let creditsRefunded := max (reservation.estimatedCredits - actualCredits) 0
      let extraCredits := max (actualCredits - reservation.estimatedCredits) 0
      let finalize (credits : Credits) : Option Finalization × Store :=
        let row := { reservation with
          status := .reconciled
          actualCredits := some actualCredits
          creditsRefunded := creditsRefunded
          extraCreditsConsumed := extraCredits
          creditsRemainingAfterFinalize := some credits.remaining }
        (some ⟨⟨id, row⟩, credits.remaining, "Reservation reconciled successfully"⟩,
          (s.setCredits reservation.subscriptionId credits).setReservation id row)
      if reservation.status ≠ .pending then
        let status := reservation.status.value
        unchanged s!"Reservation already {status}"
      else if 0 < creditsRefunded then
        match subscription.credits.putBack creditsRefunded with
        | none => (none, s)
        | some credits => finalize credits
      else if 0 < extraCredits then
        match subscription.credits.take extraCredits with
        | none => unchanged "Insufficient credits to reconcile reservation overage"
        | some credits => finalize credits
      else finalize subscription.credits

def releaseCreditReservation (id : ℕ) (s : Store) : Option Finalization × Store :=
  match s.reservations.get? id with
  | none => (none, s)
  | some reservation =>
    match s.subscriptions.get? reservation.subscriptionId with
    | none => (none, s)
    | some subscription =>
      let unchanged (message : String) : Option Finalization × Store :=
        (some ⟨⟨id, reservation⟩, subscription.credits.remaining, message⟩, s)
      match reservation.status with
      | .released => unchanged "Reservation already released"
      | .reconciled => unchanged "Reservation already reconciled"
      | .pending =>
        match subscription.credits.putBack reservation.estimatedCredits with
        | none => (none, s)
        | some credits =>
          let row := { reservation with
            status := .released
            creditsRefunded := reservation.estimatedCredits
            creditsRemainingAfterFinalize := some credits.remaining }
          (some ⟨⟨id, row⟩, credits.remaining, "Reservation released successfully"⟩,
            (s.setCredits reservation.subscriptionId credits).setReservation id row)

/-! ### What the operations do -/

def CreditReservation.charge (r : CreditReservation) : ℤ :=
  match r.status with
  | .pending => r.estimatedCredits
  | .reconciled => r.actualCredits.getD 0
  | .released => 0

/-- To settle a hold of `estimated` credits at a charge puts the difference back, or takes
it. -/
def Credits.Settles (before after : Credits) (estimated charge : ℤ) : Prop :=
  before.putBack (estimated - charge) = some after ∨
    (estimated ≤ charge ∧ before.take (charge - estimated) = some after)

/-- **A settlement.** A pending reservation is settled at a charge, and the difference to
what it held is put back or taken. -/
inductive Settlement (s : Store) (id : ℕ) (charge : ℤ) : Store → Prop where
  | intro {reservation row : CreditReservation} {sub : UserSubscription} {credits : Credits}
      (found : s.reservations.get? id = some reservation)
      (pending : reservation.status = .pending)
      (subscribed : s.subscriptions.get? reservation.subscriptionId = some sub)
      (settles : sub.credits.Settles credits reservation.estimatedCredits charge)
      (settled : row.status ≠ .pending)
      (charges : row.charge = charge)
      (same : row.subscriptionId = reservation.subscriptionId)
      (sameRequest : row.requestId = reservation.requestId) :
      Settlement s id charge
        ((s.setCredits reservation.subscriptionId credits).setReservation id row)

/-- What becomes of a reservation: it keeps its request id, and once it is settled it stays
as it is. -/
def CreditReservation.Becomes (old new : CreditReservation) : Prop :=
  new.requestId = old.requestId ∧ (old.status ≠ .pending → new = old)

theorem CreditReservation.Becomes.refl (r : CreditReservation) : r.Becomes r :=
  ⟨rfl, fun _ => rfl⟩

theorem Settlement.becomes {s s' : Store} {id : ℕ} {charge : ℤ}
    (h : Settlement s id charge s') :
    s.reservations.Extends CreditReservation.Becomes s'.reservations := by
  obtain ⟨hfound, hpending, -, -, -, -, -, hsame⟩ := h
  refine Table.extends_modify CreditReservation.Becomes.refl _ _ fun r hr => ?_
  obtain rfl := Option.some.inj (hfound.symm.trans hr)
  exact ⟨hsame, fun hnot => absurd hpending hnot⟩

def Store.NothingToPutBack (s : Store) (id : ℕ) (charge : ℤ) : Prop :=
  ∀ reservation sub, s.reservations.get? id = some reservation →
    reservation.status = .pending →
      s.subscriptions.get? reservation.subscriptionId = some sub →
        reservation.estimatedCredits < charge

variable (s : Store)

theorem consumeCredits_cases (id : ℕ) (n : ℤ) :
    consumeCredits id n s = (none, s) ∨
      ∃ sub credits, s.subscriptions.get? id = some sub ∧ sub.credits.take n = some credits ∧
        consumeCredits id n s = (some ⟨id, { sub with credits }⟩, s.setCredits id credits) := by
  unfold consumeCredits
  split
  · exact .inl rfl
  · next sub hsub =>
      split
      · exact .inl rfl
      · next credits hcredits => exact .inr ⟨sub, credits, hsub, hcredits, rfl⟩

theorem allocateCredits_cases (id : ℕ) (n rollover : ℤ) :
    (allocateCredits id n rollover s).2 = s ∨
      ∃ credits, Credits.renew n rollover = some credits ∧
        (allocateCredits id n rollover s).2 = s.setCredits id credits := by
  unfold allocateCredits
  split
  · exact .inl rfl
  · split
    · exact .inl rfl
    · next credits hcredits => exact .inr ⟨credits, hcredits, rfl⟩

theorem reserveCredits_cases (payer : Payer) (estimated : ℤ) (requestId : Option PyStr) :
    (∃ existing, s.reservationOf requestId = some existing ∧
        reserveCredits payer estimated requestId s = (.ok (some existing), s)) ∨
      (s.reservationOf requestId = none ∧
        (reserveCredits payer estimated requestId s = (.ok none, s) ∨
          reserveCredits payer estimated requestId s = (.error .uniqueViolation, s))) ∨
      ∃ sub credits, s.reservationOf requestId = none ∧ s.taken requestId = false ∧
        s.activeSubscription (resolveBillingScope payer) = some sub ∧
        sub.val.credits.take estimated = some credits ∧
        reserveCredits payer estimated requestId s =
          (.ok (some ⟨s.reservations.size,
              newReservation (resolveBillingScope payer) sub.id credits estimated requestId⟩),
            (s.setCredits sub.id credits).addReservation
              (newReservation (resolveBillingScope payer) sub.id credits estimated
                requestId)) := by
  unfold reserveCredits
  dsimp only
  split
  · next existing hexisting => exact .inl ⟨existing, hexisting, rfl⟩
  · next hnone =>
      split
      · exact .inr (.inl ⟨hnone, .inl rfl⟩)
      · next sub hsub =>
          split
          · exact .inr (.inl ⟨hnone, .inl rfl⟩)
          · next credits hcredits =>
              split
              · exact .inr (.inl ⟨hnone, .inr rfl⟩)
              · next hfree =>
                  exact .inr (.inr ⟨sub, credits, hnone, by simpa using hfree, hsub, hcredits,
                    rfl⟩)

theorem reconcile_cases (id : ℕ) (actual : ℤ) :
    Settlement s id actual (reconcileCreditReservation id actual s).2 ∨
      (reconcileCreditReservation id actual s).2 = s ∧ s.NothingToPutBack id actual := by
  unfold reconcileCreditReservation
  dsimp only
  split
  · next hnone => exact .inr ⟨rfl, fun _ _ h => by simp [hnone] at h⟩
  · next reservation hfound =>
      split
      · next hnone =>
          refine .inr ⟨rfl, fun r sub h _ hsub => ?_⟩
          obtain rfl := Option.some.inj (hfound.symm.trans h)
          simp [hnone] at hsub
      · next sub hsub =>
          split
          · next hsettled =>
              refine .inr ⟨rfl, fun r _ h hpending _ => ?_⟩
              obtain rfl := Option.some.inj (hfound.symm.trans h)
              exact absurd hpending hsettled
          · next hpending =>
              have hpending := not_not.mp hpending
              split
              · next hrefund =>
                  obtain ⟨credits, hcredits⟩ := sub.credits.putBack_isSome hrefund.le
                  rw [hcredits]
                  refine .inl (.intro hfound hpending hsub (.inl ?_) ?_ rfl rfl rfl)
                  · rwa [max_eq_left (by omega)] at hcredits
                  · simp
              · next hrefund =>
                  split
                  · next hextra =>
                      split
                      · refine .inr ⟨rfl, fun r _ h _ _ => ?_⟩
                        obtain rfl := Option.some.inj (hfound.symm.trans h)
                        omega
                      · next credits hcredits =>
                          refine .inl (.intro hfound hpending hsub (.inr ?_) ?_ rfl rfl rfl)
                          · rw [max_eq_left (by omega)] at hcredits
                            exact ⟨by omega, hcredits⟩
                          · simp
                  · next hextra =>
                      have heq : actual - reservation.estimatedCredits = 0 := by omega
                      refine .inl (.intro hfound hpending hsub (.inr ?_) ?_ rfl rfl rfl)
                      · rw [heq]
                        exact ⟨by omega, Credits.take_zero _⟩
                      · simp

theorem release_cases (id : ℕ) :
    Settlement s id 0 (releaseCreditReservation id s).2 ∨
      (releaseCreditReservation id s).2 = s ∧ s.NothingToPutBack id 0 := by
  unfold releaseCreditReservation
  split
  · next hnone => exact .inr ⟨rfl, fun _ _ h => by simp [hnone] at h⟩
  · next reservation hfound =>
      have hsettled : reservation.status ≠ .pending → s.NothingToPutBack id 0 := by
        intro hsettled r _ h hpending
        obtain rfl := Option.some.inj (hfound.symm.trans h)
        exact absurd hpending hsettled
      split
      · next hnone =>
          refine .inr ⟨rfl, fun r sub h _ hsub => ?_⟩
          obtain rfl := Option.some.inj (hfound.symm.trans h)
          simp [hnone] at hsub
      · next sub hsub =>
          split
          · next hstatus => exact .inr ⟨rfl, hsettled (by simp [hstatus])⟩
          · next hstatus => exact .inr ⟨rfl, hsettled (by simp [hstatus])⟩
          · next hpending =>
              split
              · next hcredits =>
                  refine .inr ⟨rfl, fun r _ h _ _ => ?_⟩
                  obtain rfl := Option.some.inj (hfound.symm.trans h)
                  by_contra hle
                  obtain ⟨credits, hsome⟩ := sub.credits.putBack_isSome (not_lt.mp hle)
                  simp [hsome] at hcredits
              · next credits hcredits =>
                  refine .inl (.intro hfound hpending hsub (.inl ?_) ?_ rfl rfl rfl)
                  · rwa [sub_zero]
                  · simp

end IsaUser.Subscriptions
