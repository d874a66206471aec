import IsaUser.Inventory.Handlers
import IsaUser.Lib.Runs

/-!
# Inventory Follows the Order's Fate

The event bus delivers at least once, so an order can be announced again. Its reservation is
then made again, as the handler never looks for one, and a payment or a cancellation settles
only one of the two.
-/

namespace IsaUser.Inventory

/-! ### The law -/

def World.HasActive (w : World) (orderId : PyStr) : Prop :=
  ∃ id row, w.reservations.get? id = some row ∧ row.orderId = orderId ∧ row.status = .active

def World.Single (w : World) : Prop :=
  ∀ i j row row', w.reservations.get? i = some row → w.reservations.get? j = some row' →
    row.status = .active → row'.status = .active → row.orderId = row'.orderId → i = j

section Law

variable (c : Coercions) (eventBus : Bool)

def deliver (w : World) (delivery : Delivery) : World := (handling c eventBus w delivery).2

/-- If the delivery is a payment or a cancellation and its handler does not fail, no reservation
of its order is active afterwards. -/
def SettlesOrder (w : World) (delivery : Delivery) : Prop :=
  ∀ status orderId, delivery.event.settles = some (status, orderId) →
    (∀ e, (handling c eventBus w delivery).1 ≠ .ok (.failed e)) →
      ¬(deliver c eventBus w delivery).HasActive orderId

/-- **The law**, for a run of deliveries. -/
structure FollowsFate (w : World) (deliveries : List Delivery) : Prop where
  single : Always (deliver c eventBus) World.Single w deliveries
  settled : AllSteps (deliver c eventBus) (SettlesOrder c eventBus) w deliveries

/-- A reservation that the delivery inserts is for an order without an active one. -/
def Delivery.Fresh (w : World) (delivery : Delivery) : Prop :=
  ∀ row, delivery.insertion c = some row → ¬w.HasActive row.orderId

end Law

section Runs

variable {c : Coercions} {eventBus : Bool} {w w' : World} {delivery : Delivery}
  {orderId : PyStr} {status : ReservationStatus} {row : Reservation}

/-! ### One delivery -/

/-- Active rows of `w'` are active rows of `w`. -/
theorem single_of_active (hw : w.Single)
    (h : ∀ i row, w'.reservations.get? i = some row → row.status = .active →
      w.reservations.get? i = some row) : w'.Single :=
  fun i j row row' hi hj hactive hactive' =>
    hw i j row row' (h i row hi hactive) (h j row' hj hactive') hactive hactive'

/-- What is active after a row has left `active`. -/
theorem active_of_settle (hstatus : status ≠ .active) {id i : ℕ} {row' : Reservation}
    (h : (w.settle status id).reservations.get? i = some row') (hactive : row'.status = .active) :
    i ≠ id ∧ w.reservations.get? i = some row' := by
  rw [get?_settle] at h
  split at h
  · obtain ⟨row, hrow, rfl⟩ := Option.map_eq_some_iff.mp h
    by_cases hrowactive : row.status = .active
    · rw [settle_of_active hrowactive] at hactive
      exact absurd hactive hstatus
    · rw [settle_of_settled hrowactive] at hactive
      exact absurd hactive hrowactive
  · next hne => exact ⟨Ne.symm hne, h⟩

theorem settles_ne_active {event : OrderEvent} (h : event.settles = some (status, orderId)) :
    status ≠ .active := by
  cases event with
  | created => cases h
  | paymentCompleted data =>
    rw [OrderEvent.settles] at h
    split at h
    · cases h
      decide
    · cases h
  | canceled data =>
    obtain ⟨_, -, h⟩ := Option.map_eq_some_iff.mp h
    cases h
    decide

theorem SettledActive.active {r : Except InventoryError Handled}
    (h : SettledActive orderId status w r w') (hstatus : status ≠ .active) {i : ℕ}
    {row' : Reservation} (hget : w'.reservations.get? i = some row')
    (hactive : row'.status = .active) : w.reservations.get? i = some row' := by
  cases h with
  | nothing => exact hget
  | done row _ _ hw' =>
    rw [hw'] at hget
    exact (active_of_settle hstatus hget hactive).2
  | untouched => exact hget
  | written e row => exact (active_of_settle hstatus hget hactive).2

theorem SettledActive.settles {r : Except InventoryError Handled}
    (h : SettledActive orderId status w r w') (hstatus : status ≠ .active) (hw : w.Single)
    (hr : ∀ e, r ≠ .ok (.failed e)) : ¬w'.HasActive orderId := by
  rintro ⟨i, row', hget, hof, hactive⟩
  cases h with
  | nothing hnone =>
    exact not_matches_of_selectByOrder hnone hget ⟨hof, fun _ h => by cases h; exact hactive⟩
  | done row hrow _ hw' =>
    rw [hw'] at hget
    obtain ⟨hne, hget⟩ := active_of_settle hstatus hget hactive
    obtain ⟨hstored, hrowof, hrowactive⟩ := selectByOrder_eq_some hrow
    refine hne (hw i row.id row' row.val hget hstored hactive (hrowactive _ rfl) ?_)
    rw [hof, hrowof]
  | untouched e => exact hr e rfl
  | written e => exact hr e rfl

theorem single_insert (hw : w.Single) (hfresh : ¬w.HasActive row.orderId)
    (hrow : w'.reservations = w.reservations.insert row) : w'.Single := by
  have hold : ∀ {i r}, w'.reservations.get? i = some r →
      i = w.reservations.size ∧ r = row ∨ w.reservations.get? i = some r := by
    intro i r h
    rw [hrow, Table.get?_insert] at h
    split at h
    · next hi => exact .inl ⟨hi, (Option.some.inj h).symm⟩
    · exact .inr h
  intro i j r r' hi hj hactive hactive' horder
  obtain ⟨rfl, rfl⟩ | hi := hold hi
  · obtain ⟨rfl, -⟩ | hj := hold hj
    · rfl
    · exact absurd ⟨j, r', hj, horder.symm, hactive'⟩ hfresh
  · obtain ⟨rfl, rfl⟩ | hj := hold hj
    · exact absurd ⟨i, r, hi, horder, hactive⟩ hfresh
    · exact hw i j r r' hi hj hactive hactive' horder

theorem not_single_insert (hactive : row.status = .active) (hw : w.HasActive row.orderId)
    (hrow : w'.reservations = w.reservations.insert row) : ¬w'.Single := by
  obtain ⟨i, r, hi, hof, hstatus⟩ := hw
  intro hsingle
  have hi' : w'.reservations.get? i = some r := by
    rw [hrow]
    exact Table.get?_insert_of_some hi row
  have hnew : w'.reservations.get? w.reservations.size = some row := by
    rw [hrow, Table.get?_insert_size]
  have hlt := Table.lt_size_of_get? hi
  have heq := hsingle i _ r row hi' hnew hstatus hactive hof
  omega

theorem insertion_active (h : delivery.insertion c = some row) : row.status = .active := by
  rw [Delivery.insertion] at h
  split at h
  · split at h
    · cases h
    · rw [OrderCreated.reservation] at h
      split at h
      · cases h
        rfl
      · cases h
  · cases h

theorem settles_of_insertion (h : delivery.insertion c = some row) :
    delivery.event.settles = none := by
  rw [Delivery.insertion] at h
  split at h
  · next hevent =>
      rw [hevent]
      rfl
  · cases h

theorem single_deliver (hw : w.Single) (hfresh : delivery.Fresh c w) :
    (deliver c eventBus w delivery).Single := by
  cases hsettles : delivery.event.settles with
  | some settles =>
    have h : SettledActive settles.2 settles.1 w _ (deliver c eventBus w delivery) :=
      handling_settles hsettles
    exact single_of_active hw fun i row => h.active (settles_ne_active hsettles)
  | none =>
    have h : (deliver c eventBus w delivery).reservations = _ := handling_inserts hsettles
    cases hrow : delivery.insertion c with
    | none =>
      rw [hrow] at h
      exact single_of_active hw fun i row hget _ => by rwa [h] at hget
    | some row =>
      rw [hrow] at h
      exact single_insert hw (hfresh row hrow) h

theorem not_single_deliver (hfresh : ¬delivery.Fresh c w) :
    ¬(deliver c eventBus w delivery).Single := by
  rw [Delivery.Fresh] at hfresh
  push Not at hfresh
  obtain ⟨row, hrow, hactive⟩ := hfresh
  have h : (deliver c eventBus w delivery).reservations = _ :=
    handling_inserts (settles_of_insertion hrow)
  rw [hrow] at h
  exact not_single_insert (insertion_active hrow) hactive h

theorem settlesOrder_of_single (hw : w.Single) : SettlesOrder c eventBus w delivery :=
  fun _ _ hsettles hr =>
    (handling_settles hsettles).settles (settles_ne_active hsettles) hw hr

/-- The order of two deliveries of one event has two active reservations. -/
theorem not_followsFate_redelivered :
    ¬∀ c eventBus deliveries, FollowsFate c eventBus ⟨Table.empty, []⟩ deliveries := by
  intro h
  let c : Coercions := ⟨fun _ => none, fun _ => none, fun _ => none⟩
  let item : Json := .dict [("sku_id", .str ['s']), ("quantity", .int 1)]
  let delivery : Delivery :=
    ⟨.created { orderId := some ['a'], userId := none, items := [item] } 0, fun _ => .up⟩
  obtain ⟨-, -, hsingle⟩ := (h c false [delivery, delivery]).single
  refine not_single_deliver (fun hfresh => ?_) hsingle
  exact hfresh _ rfl ⟨0, _, rfl, rfl, rfl⟩

end Runs

/-- **The exact condition for the law.** -/
theorem followsFate_iff (c : Coercions) (eventBus : Bool) {w : World} (hw : w.Single)
    (deliveries : List Delivery) :
    FollowsFate c eventBus w deliveries ↔
      AllSteps (deliver c eventBus) (fun w delivery => delivery.Fresh c w) w deliveries := by
  have hsingle : Always (deliver c eventBus) World.Single w deliveries ↔
      AllSteps (deliver c eventBus) (fun w delivery => delivery.Fresh c w) w deliveries :=
    always_iff_allSteps hw (fun _ h => h) (fun _ _ => single_deliver)
      fun _ _ _ => not_single_deliver
  refine ⟨fun h => hsingle.mp h.single, fun h => ⟨hsingle.mpr h, ?_⟩⟩
  exact h.imp hw (fun _ _ => single_deliver) fun _ _ hw _ => settlesOrder_of_single hw

/-- An order that is announced once, and then paid. -/
theorem followsFate_paid :
    FollowsFate ⟨fun _ => none, fun _ => none, fun _ => none⟩ true ⟨Table.empty, []⟩
      [⟨.created { orderId := some ['a'], userId := none
                   items := [.dict [("sku_id", .str ['s']), ("quantity", .int 1)]] } 0,
          fun _ => .up⟩,
        ⟨.paymentCompleted { orderId := some ['a'], metadata := .missing, userId := none },
          fun _ => .up⟩] := by
  have hempty : ∀ orderId, ¬(⟨Table.empty, []⟩ : World).HasActive orderId := by
    rintro orderId ⟨id, row, hget, -⟩
    simp at hget
  refine (followsFate_iff _ true (fun _ _ _ _ h => by simp at h) _).mpr ⟨?_, ?_, trivial⟩
  · exact fun row _ => hempty row.orderId
  · nofun

end IsaUser.Inventory
