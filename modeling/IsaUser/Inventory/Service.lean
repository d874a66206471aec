import IsaUser.Inventory.Model

/-!
# The Inventory Service

`InventoryService` (`inventory_service.py`): reservations are made, committed and released on
request. A reservation to settle is looked up by its id, and only if that finds nothing by the
order. How the calls of a request fare is part of the request, as it arrives (`Attempt`).

## Main results

* `settleFound_wp`: all that a request to settle can do and answer.
* `settleFound_answers`: a request that names a reservation is answered, if its calls are.
-/

open IsaUser.Prog

namespace IsaUser.Inventory

structure InventoryService where
  coercions : Coercions
  /-- There is an event bus. -/
  eventBus : Bool

structure Answer where
  status : ReservationStatus
  orderId : Option PyStr := none
  reservationId : Option ℕ := none
  expiresAt : Option Timestamp := none
  message : Option String := none
  deriving DecidableEq

section Methods

variable (service : InventoryService)

def reserveInventory (orderId : PyStr) (items : List Json) (userId : Option PyStr)
    (now : Timestamp) : InventoryM Answer := do
  require (orderId ≠ [] ∧ items ≠ []) (.valueError "order_id and items are required")
  match ← createReservation orderId userId items now with
  | none => .raise .typeError
  | some reservation =>
    let built ← lift (buildReservedItems service.coercions items)
    if built ≠ [] then
      publishStockReserved service.eventBus orderId reservation.id userId (built.map (·.1))
        reservation.val.expiresAt
    return { status := .active, reservationId := reservation.id
             expiresAt := reservation.val.expiresAt }

def findReservation (orderId : PyStr) (reservationId : Option ℕ) :
    InventoryM (Option (Row Reservation)) := do
  let named ← match reservationId with
    | some id => getReservation id
    | none => pure none
  match named with
  | some reservation => return some reservation
  | none => getActiveReservationForOrder orderId

def settleFound (orderId : PyStr) (reservationId : Option ℕ)
    (update : ℕ → InventoryM (Option (Row Reservation)))
    (publish : Row Reservation → List ReservedItem → InventoryM Unit)
    (status : ReservationStatus) (missing : Except InventoryError Answer) :
    InventoryM Answer := do
  require (orderId ≠ []) (.valueError "order_id is required")
  match ← findReservation orderId reservationId with
  | none => lift missing
  | some reservation =>
    let _ ← update reservation.id
    let items ← lift (storedItems service.coercions reservation.val.items)
    publish reservation items
    return { status, orderId, reservationId := reservation.id }

def InventoryService.commitReservation (orderId : PyStr) (reservationId : Option ℕ) :
    InventoryM Answer :=
  settleFound service orderId reservationId Inventory.commitReservation
    (fun reservation items =>
      publishStockCommitted service.eventBus orderId reservation.id reservation.val.userId items)
    .committed (.error (.lookupError "No active reservation found"))

def InventoryService.releaseReservation (orderId : PyStr) (reservationId : Option ℕ)
    (reason : PyStr) : InventoryM Answer :=
  settleFound service orderId reservationId Inventory.releaseReservation
    (fun reservation items =>
      publishStockReleased service.eventBus orderId reservation.id reservation.val.userId items
        reason)
    .released
    (.ok { status := .released, orderId, message := "No active reservation found" })

end Methods

/-! ### Requests -/

inductive Request where
  | reserve (orderId : PyStr) (items : List Json) (userId : Option PyStr) (now : Timestamp)
  | commit (orderId : PyStr) (reservationId : Option ℕ)
  | release (orderId : PyStr) (reservationId : Option ℕ) (reason : PyStr)

def InventoryService.handle (service : InventoryService) : Request → InventoryM Answer
  | .reserve orderId items userId now => reserveInventory service orderId items userId now
  | .commit orderId reservationId => service.commitReservation orderId reservationId
  | .release orderId reservationId reason =>
    service.releaseReservation orderId reservationId reason

structure Attempt where
  request : Request
  links : ℕ → Link

def InventoryService.outcome (service : InventoryService) (w : World) (attempt : Attempt) :
    Except InventoryError Answer × World :=
  let ended := (service.handle attempt.request).run (served attempt.links) (w, 0)
  (ended.1, ended.2.1)

/-! ### Specifications -/

/-- What `_find_reservation` finds. -/
def World.findReservation (orderId : PyStr) (reservationId : Option ℕ) (w : World) :
    Option (Row Reservation) :=
  match reservationId.bind fun id => (w.reservations.get? id).map (Row.mk id) with
  | some reservation => some reservation
  | none => w.selectByOrder orderId (some .active)

/-- What a request to settle may do to the world, where `found` is the reservation that it
looks up: nothing, and answer no reservation; write the status and fail; or write it, and
answer, when the calls before are answered and the stored items are valid. -/
inductive Settled (service : InventoryService) (links : ℕ → Link) (orderId : PyStr)
    (status : ReservationStatus) (found : Option (Row Reservation)) (w : World) :
    Except InventoryError Answer → World → Prop
  | untouched (r : Except InventoryError Answer)
      (hr : ∀ answer, r = .ok answer →
        answer.reservationId = none ∧ answer.status ≠ .committed) :
      Settled service links orderId status found w r w
  | failed (e : InventoryError) (row : Row Reservation) (hfound : found = some row) :
      Settled service links orderId status found w (.error e) (w.settle status row.id)
  | answered (row : Row Reservation) (hfound : found = some row) (horder : orderId ≠ [])
      (hlinks : ∀ k < 3, links k = .up)
      (hitems : ∃ items, storedItems service.coercions row.val.items = .ok items)
      (events : List StockEvent)
      (hevents : ∀ e ∈ events, e.settles = some (status, row.id)) (w' : World)
      (hw' : (w.settle status row.id).Publishes events w') :
      Settled service links orderId status found w
        (.ok { status, orderId, reservationId := row.id }) w'

section Specs

variable {service : InventoryService} {links : ℕ → Link} {w : World} {n : ℕ} {orderId : PyStr}
  {reservationId : Option ℕ}

theorem findReservation_wp {Q : Except InventoryError (Option (Row Reservation)) → World × ℕ → Prop}
    (hok : ∀ m, 1 ≤ m → (∀ k < m, links k = .up) →
      Q (.ok (w.findReservation orderId reservationId)) (w, m))
    (herror : ∀ e m, Q (.error e) (w, m)) :
    (findReservation orderId reservationId).wp (served links) Q (w, 0) := by
  have hby : ∀ m, (∀ k < m, links k = .up) → w.findReservation orderId reservationId =
      w.selectByOrder orderId (some .active) →
      (getActiveReservationForOrder orderId).wp (served links) Q (w, m) := by
    intro m hm h
    refine wp_query_read rfl (fun hup => ?_) (herror _ _)
    have hok' := hok (m + 1) (by omega) fun k hk => by
      obtain hk | rfl : k < m ∨ k = m := by omega
      · exact hm k hk
      · exact hup
    rw [h] at hok'
    exact hok'
  cases reservationId with
  | none => exact hby 0 nofun rfl
  | some id =>
    refine wp_query_bind_read rfl (fun hup => ?_) (herror _ _)
    have hone : ∀ k < 1, links k = .up := fun k hk => by
      obtain rfl : k = 0 := by omega
      exact hup
    cases hget : w.reservations.get? id with
    | none =>
      have hfound : w.findReservation orderId (some id)
          = w.selectByOrder orderId (some .active) := by
        simp [World.findReservation, hget]
      simpa [World.serve, hget] using hby 1 hone hfound
    | some row =>
      have hfound : w.findReservation orderId (some id) = some ⟨id, row⟩ := by
        simp [World.findReservation, hget]
      have hok' := hok 1 le_rfl hone
      rw [hfound] at hok'
      simpa [World.serve, hget] using hok'

/-- **All that a request to settle does.** -/
theorem settleFound_wp {update : ℕ → InventoryM (Option (Row Reservation))}
    {publish : Row Reservation → List ReservedItem → InventoryM Unit}
    {status : ReservationStatus} {missing : Except InventoryError Answer}
    (hupdate : update = Inventory.settleReservation status)
    (hpublish : ∀ row items w n, (publish row items).wp (served links) (fun r s => r = .ok () ∧
      ∃ events, (∀ e ∈ events, e.settles = some (status, row.id)) ∧ w.Publishes events s.1)
      (w, n))
    (hmissing : ∀ answer, missing = .ok answer →
      answer.reservationId = none ∧ answer.status ≠ .committed) :
    (settleFound service orderId reservationId update publish status missing).wp (served links)
      (fun r s => Settled service links orderId status
        (w.findReservation orderId reservationId) w r s.1)
      (w, 0) := by
  have hfail : ∀ e, Settled service links orderId status (w.findReservation orderId reservationId) w
      (.error e) w := fun e => .untouched _ nofun
  refine wp_require_bind (fun horder => ?_) fun _ => hfail _
  refine wp_bind.mpr (findReservation_wp (fun m hm hlinks => ?_) fun e m => hfail e)
  cases hfound : w.findReservation orderId reservationId with
  | none =>
    cases missing with
    | ok answer => exact .untouched _ fun _ h => hmissing _ h
    | error e => exact .untouched _ nofun
  | some row =>
    have hwritten : ∀ e, Settled service links orderId status (some row) w (.error e)
        (w.settle status row.id) := fun e => .failed e row rfl
    subst hupdate
    refine wp_bind.mpr (wp_query_bind_overLinks (fun hup => ?_) (fun _ => ?_)
      fun _ => hwritten _)
    · refine wp_query_read rfl (fun hup' => ?_) (hwritten _)
      refine wp_lift_bind (fun items hitems => ?_) fun e _ => hwritten e
      refine wp_bind.mpr (wp_mono (hpublish row items _ _) ?_)
      rintro r s ⟨rfl, events, hevents, hs⟩
      have hthree : ∀ k < 3, links k = .up := by
        intro k hk
        obtain hk | rfl | rfl : k < m ∨ k = m ∨ k = m + 1 := by omega
        · exact hlinks k hk
        · exact hup
        · exact hup'
      exact .answered row rfl horder hthree ⟨items, hitems⟩ events hevents _ hs
    · exact .untouched _ nofun

theorem settleFound_answers {update : ℕ → InventoryM (Option (Row Reservation))}
    {publish : Row Reservation → List ReservedItem → InventoryM Unit}
    {status : ReservationStatus} {missing : Except InventoryError Answer}
    (hupdate : update = Inventory.settleReservation status)
    (hpublish : ∀ row items w n, (publish row items).wp (served links) (fun r _ => r = .ok ())
      (w, n))
    {id : ℕ} {row : Reservation} {items : List ReservedItem} (horder : orderId ≠ [])
    (hget : w.reservations.get? id = some row)
    (hitems : storedItems service.coercions row.items = .ok items)
    (hlinks : ∀ k < 3, links k = .up) :
    (settleFound service orderId (some id) update publish status missing).wp (served links)
      (fun r _ => r = .ok { status, orderId, reservationId := id }) (w, 0) := by
  have hfind : (findReservation orderId (some id)).wp (served links)
      (fun r s => r = .ok (some ⟨id, row⟩) ∧ s = (w, 1)) (w, 0) := by
    refine (wp_query_bind_up (hlinks 0 (by omega))).mpr ?_
    simp [World.serve, hget]
  subst hupdate
  refine wp_require_bind (fun _ => wp_bind.mpr ?_) (absurd horder)
  refine wp_mono hfind ?_
  rintro r s ⟨rfl, rfl⟩
  refine wp_bind.mpr ((wp_query_bind_up (hlinks 1 (by omega))).mpr ?_)
  refine (wp_query_up (hlinks 2 (by omega))).mpr ?_
  refine wp_lift_bind (fun items' _ => ?_) fun e he => ?_
  · refine wp_bind.mpr (wp_mono (hpublish ⟨id, row⟩ items' _ _) ?_)
    rintro r s rfl
    rfl
  · rw [hitems] at he
    cases he

/-! ### The methods -/

/-- What a request to reserve may do: nothing, or insert an active row; no message that goes
out says that anything is settled. -/
inductive Reserved (w : World) : Except InventoryError Answer → World → Prop
  | failed (e : InventoryError) : Reserved w (.error e) w
  | inserted (r : Except InventoryError Answer) (row : Reservation) (events : List StockEvent)
      (w' : World) (hr : ∀ answer, r = .ok answer → answer.status = .active)
      (hrow : row.status = .active) (hevents : ∀ e ∈ events, e.settles = none)
      (hw' : (w.insert row).Publishes events w') : Reserved w r w'

theorem reserveInventory_wp {items : List Json} {userId : Option PyStr} {now : Timestamp} :
    (reserveInventory service orderId items userId now).wp (served links)
      (fun r s => Reserved w r s.1) (w, 0) := by
  have hfail : ∀ e, Reserved w (.error e) w := fun e => .failed e
  set row := newReservation orderId userId items now with hrow
  have hmade : ∀ e, Reserved w (.error e) (w.insert row) := fun e =>
    .inserted _ row [] _ nofun rfl nofun (World.publishes_nil _)
  refine wp_require_bind (fun _ => wp_bind.mpr ?_) fun _ => hfail _
  refine createReservation_wp (fun _ m => ?_) (fun _ _ => hfail _) fun _ _ => hmade _
  refine wp_lift_bind (fun built _ => ?_) fun e _ => hmade e
  split
  · have hnone : ∀ e, (userId.map fun userId => StockEvent.reserved orderId w.reservations.size
        userId (built.map (·.1)) row.expiresAt) = some e → e.settles = none := by
      intro e he
      obtain ⟨_, -, rfl⟩ := Option.map_eq_some_iff.mp he
      rfl
    refine wp_bind.mpr (wp_mono (publishStock_settles hnone) ?_)
    · rintro r s ⟨rfl, events, hevents, hs⟩
      exact .inserted _ row events _ (fun _ h => by cases h; rfl) rfl hevents hs
  · exact .inserted _ row [] _ (fun _ h => by cases h; rfl) rfl nofun (World.publishes_nil _)

end Specs

end IsaUser.Inventory
