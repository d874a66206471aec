import IsaUser.Subscription.Accounting

/-!
# Reservations under a Request Id

`reserve_credits` looks a reservation up by the request id alone, before it resolves the
payer, and returns what it finds: whoever made that reservation, of whatever amount, and
whatever has become of it.
-/

namespace IsaUser.Subscriptions

/-! ### The law and its condition -/

structure CreditReservation.HeldFor (row : CreditReservation)
    (account : BillingAccountType × Option PyStr) (amount : ℤ) : Prop where
  /-- It has not been settled. -/
  pending : row.status = .pending
  /-- It belongs to the account. -/
  account_eq : (row.billingAccountType, row.billingAccountId) = account
  /-- It holds the amount. -/
  amount_eq : row.estimatedCredits = amount

def ReserveCreditsRequest.account (request : ReserveCreditsRequest) :
    BillingAccountType × Option PyStr :=
  (resolveBillingScope request.payer).account

def Held (s : Store) (request : ReserveCreditsRequest) : Prop :=
  (Service.reserveCredits request s).1.success →
    ∃ id row, (Service.reserveCredits request s).1.reservationId = some id ∧
      (Service.reserveCredits request s).2.reservations.get? id = some row ∧
        row.HeldFor request.account request.estimatedCredits

/-- After a successful answer, and whatever was served since, the request id deducts
nothing more. -/
def DeductsOnce (s : Store) (request : ReserveCreditsRequest) : Prop :=
  (Service.reserveCredits request s).1.success → request.requestId.isSome →
    ∀ (later : List ServiceCall) (again : ReserveCreditsRequest),
      again.requestId = request.requestId →
        (Service.reserveCredits again
            (exec ServiceCall.run (Service.reserveCredits request s).2 later)).2 =
          exec ServiceCall.run (Service.reserveCredits request s).2 later

def ServiceCall.Honoured (s : Store) : ServiceCall → Prop
  | reserveCredits request => Held s request ∧ DeductsOnce s request
  | _ => True

def ServiceCall.Fresh (s : Store) : ServiceCall → Prop
  | reserveCredits request =>
    (s.activeSubscription (resolveBillingScope request.payer)).isSome →
      ∀ existing ∈ s.reservationOf request.requestId,
        existing.val.HeldFor request.account request.estimatedCredits
  | _ => True

/-! ### The ways a request can go -/

section Cases

variable {s : Store} {requestId : Option PyStr}

theorem of_reservationOf {existing : Row CreditReservation}
    (h : s.reservationOf requestId = some existing) :
    s.reservations.get? existing.id = some existing.val ∧
      existing.val.requestId = requestId := by
  rw [Store.reservationOf] at h
  split at h
  · exact ⟨Table.get?_of_find? h, by simpa using Table.find?_val h⟩
  · cases h

/-- **The ways a request can go.** It fails without effect, it is answered by the
reservation stored under its request id, or it makes a reservation. -/
theorem service_reserve_cases (request : ReserveCreditsRequest) (s : Store) :
    ((Service.reserveCredits request s).1.success = false ∧
        (Service.reserveCredits request s).2 = s ∧
          (s.activeSubscription (resolveBillingScope request.payer) = none ∨
            s.reservationOf request.requestId = none)) ∨
      (∃ existing, s.reservationOf request.requestId = some existing ∧
        (s.activeSubscription (resolveBillingScope request.payer)).isSome ∧
          (Service.reserveCredits request s).1.success = true ∧
            (Service.reserveCredits request s).1.reservationId = some existing.id ∧
              (Service.reserveCredits request s).2 = s) ∨
      ∃ (sub : Row UserSubscription) (credits : Credits) (row : CreditReservation),
        s.reservationOf request.requestId = none ∧
          (Service.reserveCredits request s).1.reservationId = some s.reservations.size ∧
            row.HeldFor request.account request.estimatedCredits ∧
              row.requestId = request.requestId ∧
                (Service.reserveCredits request s).2 =
                  (s.setCredits sub.id credits).addReservation row := by
  have hscope := account_resolve_payer request.payer
  have hactive := activeSubscription_congr (s := s) hscope
  unfold Service.reserveCredits
  dsimp only [getUserSubscription]
  rw [hactive]
  split
  · next hnone => exact .inl ⟨rfl, rfl, .inl hnone⟩
  · next hsome =>
    rcases reserveCredits_cases s (resolveBillingScope request.payer).payer
        request.estimatedCredits request.requestId with
      ⟨existing, hexisting, hrun⟩ | ⟨hnone, hrun | hrun⟩ |
        ⟨sub, credits, hnone, -, -, -, hrun⟩
    · rw [hrun]
      exact .inr (.inl ⟨existing, hexisting, by rw [hsome]; rfl, rfl, rfl, rfl⟩)
    · rw [hrun]
      exact .inl ⟨rfl, rfl, .inr hnone⟩
    · rw [hrun]
      exact .inl ⟨rfl, rfl, .inr hnone⟩
    · rw [hrun]
      exact .inr (.inr ⟨sub, credits, _, hnone, rfl, ⟨rfl, hscope, rfl⟩, rfl, rfl⟩)

theorem reserve_known {r : ℕ} {row : CreditReservation} (h : s.reservations.get? r = some row)
    (hid : row.requestId.isSome) (request : ReserveCreditsRequest)
    (hrequest : request.requestId = row.requestId) :
    (Service.reserveCredits request s).2 = s := by
  have hfound : ∃ e, s.reservations.find? (·.requestId = request.requestId) = some e :=
    Table.exists_find? h (by simp [hrequest])
  unfold Service.reserveCredits
  dsimp only
  split
  · rfl
  · rcases reserveCredits_cases s (resolveBillingScope request.payer).payer
        request.estimatedCredits request.requestId with
      ⟨existing, hexisting, hrun⟩ | ⟨hnone, hrun | hrun⟩ |
        ⟨sub, credits, -, hfree, -, -, -⟩
    · rw [hrun]
    · rw [hrun]
    · rw [hrun]
    · obtain ⟨e, he⟩ := hfound
      have htaken : s.taken request.requestId = true := by
        rw [Store.taken, he, hrequest, hid]
        rfl
      simp [htaken] at hfree

end Cases

/-! ### What stays -/

section Kept

variable {s s' : Store} {r : ℕ} {requestId : Option PyStr}

/-- Reservation `r` is stored under a request id. -/
def Store.StoredAt (s : Store) (r : ℕ) (requestId : Option PyStr) : Prop :=
  ∃ row, s.reservations.get? r = some row ∧ row.requestId = requestId

theorem storedAt_run (call : ServiceCall) (hr : s.StoredAt r requestId) :
    (call.run s).StoredAt r requestId := by
  rcases ServiceCall.run_cases s call with hrun | ⟨step, -, hrun⟩ | ⟨id, hrun⟩
  · rwa [hrun]
  · obtain ⟨row, hrow, hid⟩ := hr
    obtain ⟨new, hnew, hsame, -⟩ := becomes_run s step r row hrow
    rw [hrun]
    exact ⟨new, hnew, hsame.trans hid⟩
  · rw [hrun, Store.StoredAt, updateStatus_reservations]
    exact hr

theorem storedAt_exec (hr : s.StoredAt r requestId) (calls : List ServiceCall) :
    (exec ServiceCall.run s calls).StoredAt r requestId :=
  exec_invariant (J := fun s : Store => s.StoredAt r requestId) hr (allSteps_true s calls)
    fun _ call h _ => storedAt_run call h

end Kept

/-! ### The answer to a request -/

section Answers

variable {s : Store} {request : ReserveCreditsRequest}

theorem storedAt_of_success (h : (Service.reserveCredits request s).1.success) :
    ∃ r, (Service.reserveCredits request s).2.StoredAt r request.requestId := by
  rcases service_reserve_cases request s with ⟨hfail, -⟩ | ⟨existing, hexisting, -, -, -, hrun⟩ |
    ⟨sub, credits, row, -, -, -, hid, hrun⟩
  · simp [hfail] at h
  · obtain ⟨hget, hid⟩ := of_reservationOf hexisting
    rw [hrun]
    exact ⟨existing.id, existing.val, hget, hid⟩
  · rw [hrun]
    exact ⟨s.reservations.size, row, Table.get?_insert_size _ _, hid⟩

/-- **Reserved once.** A request id that has reserved credits reserves no more. -/
theorem reserve_again (s : Store) (request : ReserveCreditsRequest) : DeductsOnce s request := by
  intro hsuccess hid later again hagain
  obtain ⟨r, hstored⟩ := storedAt_of_success hsuccess
  obtain ⟨row, hrow, hrequest⟩ := storedAt_exec hstored later
  exact reserve_known hrow (by rwa [hrequest]) again (hagain.trans hrequest.symm)

theorem held_iff_fresh (s : Store) (request : ReserveCreditsRequest) :
    Held s request ↔ (ServiceCall.reserveCredits request).Fresh s := by
  constructor
  · intro hheld hactive existing hexisting
    rcases service_reserve_cases request s with ⟨-, -, hnone | hnone⟩ |
      ⟨existing', hexisting', -, hsuccess, hanswer, hrun⟩ | ⟨-, -, -, hnone, -⟩
    · simp [hnone] at hactive
    · rw [hnone] at hexisting
      cases hexisting
    · obtain rfl := Option.some.inj (hexisting'.symm.trans hexisting)
      obtain ⟨id, row, hid, hrow, hfor⟩ := hheld hsuccess
      obtain rfl := Option.some.inj (hanswer.symm.trans hid)
      rw [hrun, (of_reservationOf hexisting').1] at hrow
      obtain rfl := Option.some.inj hrow
      exact hfor
    · rw [hnone] at hexisting
      cases hexisting
  · intro hfresh hsuccess
    rcases service_reserve_cases request s with ⟨hfail, -⟩ |
      ⟨existing, hexisting, hactive, -, hanswer, hrun⟩ |
      ⟨sub, credits, row, -, hanswer, hfor, -, hrun⟩
    · simp [hfail] at hsuccess
    · refine ⟨existing.id, existing.val, hanswer, ?_, hfresh hactive existing hexisting⟩
      rw [hrun]
      exact (of_reservationOf hexisting).1
    · refine ⟨_, row, hanswer, ?_, hfor⟩
      rw [hrun]
      exact Table.get?_insert_size _ _

end Answers

/-- **Reservations are held, exactly if request ids are fresh.** In a run of requests by any
users, every reservation that is reported is pending, belongs to the account of its request
and holds what was asked for, and no request id deducts twice, if and only if no request
finds under its id a reservation that is settled, of another account or of another amount. -/
theorem honoured_iff_fresh (s : Store) (calls : List ServiceCall) :
    AllSteps ServiceCall.run ServiceCall.Honoured s calls ↔
      AllSteps ServiceCall.run ServiceCall.Fresh s calls := by
  have hiff : ∀ s call, ServiceCall.Honoured s call ↔ ServiceCall.Fresh s call := by
    intro s call
    cases call with
    | reserveCredits request =>
      exact (and_iff_left (reserve_again s request)).trans (held_iff_fresh s request)
    | _ => exact Iff.rfl
  constructor
  · exact fun h => h.imp (J := fun _ => True) trivial (fun _ _ _ _ => trivial)
      fun s call _ => (hiff s call).mp
  · exact fun h => h.imp (J := fun _ => True) trivial (fun _ _ _ _ => trivial)
      fun s call _ => (hiff s call).mpr

def reservedAfterRelease : List ServiceCall :=
  [.createSubscription
      { userId := ['a'], tierCode := ['f', 'r', 'e', 'e'], seats_pos := oneSeat_pos } 0,
    .reserveCredits ⟨{ userId := ['a'] }, 30, some ['r'], by decide⟩,
    .releaseReservation 0,
    .reserveCredits ⟨{ userId := ['a'] }, 30, some ['r'], by decide⟩]

/-- She is told that 30 credits are reserved, and none are. -/
theorem not_honoured_released :
    ¬AllSteps ServiceCall.run ServiceCall.Honoured .empty reservedAfterRelease := by
  rintro ⟨-, -, -, ⟨hheld, -⟩, -⟩
  obtain ⟨id, row, hid, hrow, hpending, -, -⟩ := hheld (by decide)
  obtain rfl : 0 = id := by simpa using (Option.some.inj hid : _)
  have hreleased : row.status = .released := by
    obtain rfl := Option.some.inj hrow
    rfl
  simp [hpending] at hreleased

end IsaUser.Subscriptions
