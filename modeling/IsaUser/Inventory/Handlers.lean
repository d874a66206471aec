import IsaUser.Inventory.Model

/-!
# The Event Handlers of the Inventory Service

`handle_order_created`, `handle_payment_completed` and `handle_order_canceled`
(`events/handlers.py`). A handler never raises: it logs what went wrong, and the event counts
as delivered. The model has it return what it logs, `Handled`.

## Main results

* `handling_inserts`: an order gets a reservation whether it has one or not.
* `handling_settles`: a payment or a cancellation settles the newest active reservation of its
  order.
-/

open IsaUser.Prog

namespace IsaUser.Inventory

/-! ### Events -/

/-- The data of `order.created`. A user that is missing is not one that is null. -/
structure OrderCreated where
  orderId : Option PyStr
  userId : Option (Option PyStr)
  items : List Json

/-- The entry `metadata` of `payment.completed`, and the order in it. -/
inductive PaymentMetadata where
  | missing
  | null
  | entries (orderId : Option PyStr)

/-- The data of `payment.completed`. -/
structure PaymentCompleted where
  orderId : Option PyStr
  metadata : PaymentMetadata
  userId : Option PyStr

/-- The data of `order.canceled`. -/
structure OrderCanceled where
  orderId : Option PyStr
  userId : Option PyStr
  cancellationReason : Option PyStr

inductive Handled where
  | missingFields
  | noValidItems
  | nothingActive
  | done (reservationId : ℕ)
  | failed (e : InventoryError)
  deriving DecidableEq

/-! ### Handlers -/

def PaymentCompleted.order (data : PaymentCompleted) : Except InventoryError (Option PyStr) :=
  match given data.orderId, data.metadata with
  | some orderId, _ => .ok (some orderId)
  | none, .missing => .ok none
  | none, .null => .error .attributeError
  | none, .entries orderId => .ok (given orderId)

section Handlers

variable (c : Coercions) (eventBus : Bool)

def handleOrderCreated (data : OrderCreated) (now : Timestamp) : InventoryM Handled :=
  match given data.orderId, data.items with
  | some orderId, _ :: _ =>
    let handled : InventoryM Handled := do
      let built ← lift (buildReservedItems c data.items)
      if built = [] then
        publishStockFailed eventBus orderId data.userId.join data.items
          (.text "No valid items to reserve") "NO_VALID_ITEMS"
        return .noValidItems
      else
        match ← createReservation orderId data.userId.join (built.map (·.2)) now with
        | none => .raise .typeError
        | some reservation =>
          publishStockReserved eventBus orderId reservation.id data.userId.join
            (built.map (·.1)) reservation.val.expiresAt
          return .done reservation.id
    handled.tryCatch fun e => do
      publishStockFailed eventBus orderId (data.userId.getD (some "unknown".toList)) data.items
        (.exception e) "RESERVATION_ERROR"
      return .failed e
  | _, _ => return .missingFields

/-- What the handlers of payments and cancellations have in common: the newest active
reservation of the order takes a status. -/
def settleActive (orderId : PyStr) (update : ℕ → InventoryM (Option (Row Reservation)))
    (publish : Row Reservation → List ReservedItem → InventoryM Unit) : InventoryM Handled := do
  match ← getActiveReservationForOrder orderId with
  | none => return .nothingActive
  | some reservation =>
    let _ ← update reservation.id
    let items ← lift (storedItems c reservation.val.items)
    publish reservation items
    return .done reservation.id

def handlePaymentCompleted (data : PaymentCompleted) : InventoryM Handled :=
  match data.order with
  | .error e => return .failed e
  | .ok none => return .missingFields
  | .ok (some orderId) =>
    (settleActive c orderId commitReservation fun reservation items =>
      publishStockCommitted eventBus orderId reservation.id
        (given data.userId <|> reservation.val.userId) items).tryCatch
      fun e => return .failed e

def handleOrderCanceled (data : OrderCanceled) : InventoryM Handled :=
  match given data.orderId with
  | none => return .missingFields
  | some orderId =>
    (settleActive c orderId releaseReservation fun reservation items =>
      publishStockReleased eventBus orderId reservation.id
        (given data.userId <|> reservation.val.userId) items
        ((given data.cancellationReason).getD "order_canceled".toList)).tryCatch
      fun e => return .failed e

end Handlers

/-! ### Deliveries -/

inductive OrderEvent where
  | created (data : OrderCreated) (now : Timestamp)
  | paymentCompleted (data : PaymentCompleted)
  | canceled (data : OrderCanceled)

/-- An event, and how the calls of its handling fare. -/
structure Delivery where
  event : OrderEvent
  links : ℕ → Link

def handleEvent (c : Coercions) (eventBus : Bool) : OrderEvent → InventoryM Handled
  | .created data now => handleOrderCreated c eventBus data now
  | .paymentCompleted data => handlePaymentCompleted c eventBus data
  | .canceled data => handleOrderCanceled c eventBus data

def handling (c : Coercions) (eventBus : Bool) (w : World) (delivery : Delivery) :
    Except InventoryError Handled × World :=
  let ended := (handleEvent c eventBus delivery.event).run (served delivery.links) (w, 0)
  (ended.1, ended.2.1)

/-! ### Specifications -/

def OrderCreated.reservation (c : Coercions) (data : OrderCreated) (now : Timestamp) :
    Option Reservation :=
  match given data.orderId, buildReservedItems c data.items with
  | some orderId, .ok (item :: built) =>
    some (newReservation orderId data.userId.join ((item :: built).map (·.2)) now)
  | _, _ => none

def Delivery.insertion (c : Coercions) (delivery : Delivery) : Option Reservation :=
  match delivery.event with
  | .created data now => if delivery.links 0 = .down then none else data.reservation c now
  | _ => none

def OrderEvent.settles : OrderEvent → Option (ReservationStatus × PyStr)
  | created _ _ => none
  | paymentCompleted data =>
    match data.order with
    | .ok (some orderId) => some (.committed, orderId)
    | _ => none
  | canceled data => (given data.orderId).map fun orderId => (.released, orderId)

/-- What the handler of a payment or a cancellation does to the world: it settles the newest
active reservation of the order, finds none, or fails before or after it has settled it. -/
inductive SettledActive (orderId : PyStr) (status : ReservationStatus) (w : World) :
    Except InventoryError Handled → World → Prop
  | nothing (hnone : w.selectByOrder orderId (some .active) = none) :
      SettledActive orderId status w (.ok .nothingActive) w
  | done (row : Row Reservation) (hrow : w.selectByOrder orderId (some .active) = some row)
      (w' : World) (hw' : w'.reservations = (w.settle status row.id).reservations) :
      SettledActive orderId status w (.ok (.done row.id)) w'
  | untouched (e : InventoryError) : SettledActive orderId status w (.ok (.failed e)) w
  | written (e : InventoryError) (row : Row Reservation)
      (hrow : w.selectByOrder orderId (some .active) = some row) :
      SettledActive orderId status w (.ok (.failed e)) (w.settle status row.id)

def World.inserting (w : World) : Option Reservation → Table Reservation
  | none => w.reservations
  | some row => w.reservations.insert row

section Specs

variable {c : Coercions} {eventBus : Bool} {links : ℕ → Link} {w : World} {n : ℕ}

theorem publishing_wp {event : Option StockEvent} {handled : Handled}
    {Q : Except InventoryError Handled → World × ℕ → Prop}
    (h : ∀ s : World × ℕ, s.1.reservations = w.reservations → Q (.ok handled) s) :
    (publishStock eventBus event >>= fun _ => (ret handled : InventoryM Handled)).wp
      (served links) Q (w, n) := by
  refine wp_bind.mpr (wp_mono publishStock_wp ?_)
  rintro r s ⟨rfl, events, -, hs⟩
  exact h s (by rw [hs])

/-- **What an order gets.** Its reservation is inserted if the insertion is executed at all,
whatever else fails, and whatever reservations there are. -/
theorem orderCreated_wp (data : OrderCreated) (now : Timestamp) :
    (handleOrderCreated c eventBus data now).wp (served links)
      (fun _ s => s.1.reservations = w.inserting
        (if links 0 = .down then none else data.reservation c now)) (w, 0) := by
  have hkept : w.reservations = w.inserting (if links 0 = .down then none else none) := by
    rw [ite_self, World.inserting]
  rw [handleOrderCreated, OrderCreated.reservation]
  split
  · next orderId item items horder hitems =>
      rw [horder]
      refine wp_tryCatch.mpr (wp_lift_bind (fun built hbuilt => ?_) fun e he => ?_)
      · rw [hbuilt]
        cases built with
        | nil => exact publishing_wp fun s hs => hs.trans hkept
        | cons built rest =>
          refine wp_bind.mpr (createReservation_wp (fun hlink m => ?_) (fun hlink m => ?_)
            fun hlink m => ?_)
          · rw [if_neg hlink]
            exact publishing_wp fun s hs => hs
          · rw [if_pos hlink]
            exact publishing_wp fun s hs => hs
          · rw [if_neg hlink]
            exact publishing_wp fun s hs => hs
      · rw [he]
        exact publishing_wp fun s hs => hs.trans hkept
  · next hnothing =>
      have hnone : data.reservation c now = none := by
        rw [OrderCreated.reservation]
        split
        · next orderId item built horder hbuilt =>
            cases hitems : data.items with
            | nil =>
              rw [hitems] at hbuilt
              cases hbuilt
            | cons item items => exact absurd hitems (hnothing orderId item items horder)
        · rfl
      rw [OrderCreated.reservation] at hnone
      rw [hnone]
      exact hkept

/-- **What a payment or a cancellation does.** -/
theorem settleActive_wp {orderId : PyStr} {status : ReservationStatus}
    {update : ℕ → InventoryM (Option (Row Reservation))}
    {event : Row Reservation → List ReservedItem → Option StockEvent}
    (hupdate : update = settleReservation status) :
    ((settleActive c orderId update fun row items =>
      publishStock eventBus (event row items)).tryCatch
      fun e => (ret (.failed e) : InventoryM Handled)).wp (served links)
      (fun r s => SettledActive orderId status w r s.1) (w, n) := by
  subst hupdate
  refine wp_tryCatch.mpr (wp_query_bind_read rfl (fun _ => ?_) (.untouched _))
  cases hrow : w.selectByOrder orderId (some .active) with
  | none =>
    simp only [World.serve, hrow]
    exact .nothing hrow
  | some row =>
    simp only [World.serve, hrow]
    have hwritten : ∀ e, SettledActive orderId status w (.ok (.failed e))
        (w.settle status row.id) := fun e => .written e row hrow
    refine wp_bind.mpr (wp_query_bind_overLinks (fun _ => ?_) (fun _ => ?_)
      fun _ => hwritten _)
    · refine wp_query_read rfl (fun _ => ?_) (hwritten _)
      refine wp_lift_bind (fun items _ => ?_) fun e _ => hwritten e
      exact publishing_wp fun s hs => .done row hrow _ hs
    · exact .untouched _

theorem handling_settles {delivery : Delivery} {status : ReservationStatus} {orderId : PyStr}
    (h : delivery.event.settles = some (status, orderId)) :
    SettledActive orderId status w (handling c eventBus w delivery).1
      (handling c eventBus w delivery).2 := by
  rw [handling]
  cases hevent : delivery.event with
  | created data now =>
    rw [hevent] at h
    cases h
  | paymentCompleted data =>
    rw [hevent, OrderEvent.settles] at h
    rw [handleEvent, handlePaymentCompleted]
    split at h
    · next horder =>
        cases h
        rw [horder]
        exact settleActive_wp rfl
    · cases h
  | canceled data =>
    rw [hevent] at h
    obtain ⟨_, horder, h⟩ := Option.map_eq_some_iff.mp h
    cases h
    rw [handleEvent, handleOrderCanceled, horder]
    exact settleActive_wp rfl

theorem handling_inserts {delivery : Delivery} (h : delivery.event.settles = none) :
    (handling c eventBus w delivery).2.reservations = w.inserting (delivery.insertion c) := by
  rw [handling, Delivery.insertion]
  cases hevent : delivery.event with
  | created data now => exact orderCreated_wp data now
  | paymentCompleted data =>
    rw [hevent, OrderEvent.settles] at h
    rw [handleEvent, handlePaymentCompleted]
    cases horder : data.order with
    | error e => rfl
    | ok order =>
      cases order with
      | none => rfl
      | some orderId =>
        rw [horder] at h
        cases h
  | canceled data =>
    rw [hevent] at h
    have horder := Option.map_eq_none_iff.mp h
    rw [handleEvent, handleOrderCanceled, horder]
    rfl

end Specs

end IsaUser.Inventory
