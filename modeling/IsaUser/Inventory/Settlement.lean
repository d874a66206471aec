import IsaUser.Inventory.Lifecycle
import IsaUser.Lib.Checks

/-!
# Settling What Was Reserved

`reserve_inventory` reads the items of an order leniently: the SKU may stand under `sku_id`,
`product_id` or `id`, a missing quantity is one, and an item without an SKU is left out. What it
stores are the items as they were given, and a settlement reads them again, as `ReservedItem`s,
after it has written the new status. So a reservation can be made that is settled and then
raises, or that is announced with other items.
-/

open IsaUser.Prog List Option

namespace IsaUser.Inventory

/-! ### The law and the condition -/

def ReservedItem.units (item : ReservedItem) : PyStr × ℤ := (item.skuId, item.quantity)

def StockEvent.units : StockEvent → List (PyStr × ℤ)
  | reserved _ _ _ items _ => items.map ReservedItem.units
  | committed _ _ _ items => items.map ReservedItem.units
  | released _ _ _ items _ => items.map ReservedItem.units
  | failed .. => []

/-- The items of the messages that went out from `w` to `w'`. -/
def World.unitsSince (w w' : World) : List (PyStr × ℤ) :=
  (w'.published.drop w.published.length).flatMap StockEvent.units

def Request.settles : Request → Option (ReservationStatus × PyStr × Option ℕ)
  | reserve .. => none
  | commit orderId reservationId => some (.committed, orderId, reservationId)
  | release orderId reservationId _ => some (.released, orderId, reservationId)

abbrev Request.answered (request : Request) : Attempt := ⟨request, fun _ => .up⟩

section Law

variable (service : InventoryService) (w : World) (orderId : PyStr) (items : List Json)
  (userId : Option PyStr) (now : Timestamp)

def Accepted : Prop :=
  ∃ answer, (service.outcome w (Request.reserve orderId items userId now).answered).1 = .ok answer

/-- **Whatever is reserved can be settled.** After a request to reserve that is accepted, and any
other requests, a request to commit or to release that finds the reservation is answered, and
publishes the items that were published as reserved. -/
def SettledAsReserved : Prop :=
  ∀ answer id, (service.outcome w (Request.reserve orderId items userId now).answered).1
      = .ok answer → answer.reservationId = some id →
    ∀ between (request : Request) status named reservationId,
      request.settles = some (status, named, reservationId) → named ≠ [] →
      let w₁ := service.step w (Request.reserve orderId items userId now).answered
      let w₂ := exec service.step w₁ between
      (w₂.findReservation named reservationId).map Row.id = some id →
        (service.outcome w₂ request.answered).1
            = .ok { status, orderId := some named, reservationId := some id } ∧
          w₂.unitsSince (service.step w₂ request.answered) = w.unitsSince w₁

end Law

section Items

variable (c : Coercions)

/-- The entries of an item that names what is reserved in full: a text under `sku_id`, which is
not empty if the item is to be announced, a whole number under `quantity`, and under
`unit_price`, if there is one, a number. -/
structure NamesInFull (announced : Bool) (entries : JsonDict) : Prop where
  skuId : ∃ s, entries.get? "sku_id" = some (.str s) ∧ (announced = true → s ≠ [])
  quantity : ∃ value, entries.get? "quantity" = some value ∧ (c.asInteger value).isSome
  unitPrice : ∀ value, entries.get? "unit_price" = some value → value ≠ .null →
    (c.asFloat value).isSome

def InFull (announced : Bool) (item : Json) : Prop :=
  ∃ entries, item = .dict entries ∧ NamesInFull c announced entries

/-! ### Items -/

variable {c} {entries : JsonDict} {item : Json} {r : ReservedItem}

theorem string_eq_some_iff {value : Json} {s : PyStr} :
    Coercions.string value = some s ↔ value = .str s := by
  cases value <;> simp [Coercions.string]

theorem validate_eq_some_iff :
    ReservedItem.validate c entries = some r ↔
      requiredField entries "sku_id" Coercions.string = some r.skuId ∧
      requiredField entries "quantity" c.asInteger = some r.quantity ∧
      optionalField entries "unit_price" c.asFloat = some r.unitPrice := by
  obtain ⟨skuId, quantity, unitPrice⟩ := r
  simp only [ReservedItem.validate, Option.bind_eq_bind, Option.bind_eq_some_iff,
    Option.pure_def, Option.some.injEq, ReservedItem.mk.injEq]
  constructor
  · rintro ⟨_, hsku, _, hquantity, _, hprice, rfl, rfl, rfl⟩
    exact ⟨hsku, hquantity, hprice⟩
  · rintro ⟨hsku, hquantity, hprice⟩
    exact ⟨_, hsku, _, hquantity, _, hprice, rfl, rfl, rfl⟩

theorem requiredField_eq_some_iff {α : Type} {name : String} {read : Json → Option α} {a : α} :
    requiredField entries name read = some a ↔
      ∃ value, entries.get? name = some value ∧ read value = some a :=
  Option.bind_eq_some_iff

theorem exists_optionalField_iff {α : Type} {name : String} {read : Json → Option α} :
    (∃ a, optionalField entries name read = some a) ↔
      ∀ value, entries.get? name = some value → value ≠ .null → (read value).isSome := by
  cases hget : entries.get? name with
  | none => simp [optionalField, hget]
  | some value =>
    by_cases hnull : value = .null
    · subst hnull
      simp [optionalField, hget]
    · rw [optionalField_of_get? hget hnull]
      simp [hnull, isSome_iff_exists]

/-- **What a settlement makes of a stored item.** -/
theorem exists_ofStored_iff {announced : Bool} :
    (∃ r, ReservedItem.ofStored c item = .ok r ∧ (announced = true → r.skuId ≠ [])) ↔
      InFull c announced item := by
  cases item with
  | dict entries =>
    have hread : ∀ r, ReservedItem.ofStored c (.dict entries) = .ok r ↔
        ReservedItem.validate c entries = some r := by
      rw [ReservedItem.ofStored]
      cases ReservedItem.validate c entries <;> simp
    simp only [InFull, Json.dict.injEq, exists_eq_left', hread, validate_eq_some_iff]
    constructor
    · rintro ⟨r, ⟨hsku, hquantity, hprice⟩, hne⟩
      obtain ⟨value, hget, hstr⟩ := requiredField_eq_some_iff.mp hsku
      obtain rfl := string_eq_some_iff.mp hstr
      obtain ⟨quantity, hget', hint⟩ := requiredField_eq_some_iff.mp hquantity
      exact ⟨⟨_, hget, hne⟩, ⟨quantity, hget', isSome_iff_exists.mpr ⟨_, hint⟩⟩,
        exists_optionalField_iff.mp ⟨_, hprice⟩⟩
    · rintro ⟨⟨s, hget, hne⟩, ⟨value, hget', hint⟩, hprice⟩
      obtain ⟨quantity, hquantity⟩ := isSome_iff_exists.mp hint
      obtain ⟨unitPrice, hunit⟩ := exists_optionalField_iff.mpr hprice
      exact ⟨⟨s, quantity, unitPrice⟩,
        ⟨requiredField_eq_some_iff.mpr ⟨_, hget, rfl⟩,
          requiredField_eq_some_iff.mpr ⟨_, hget', hquantity⟩, hunit⟩, hne⟩
  | _ => simp [InFull, ReservedItem.ofStored]

theorem skuId_ne_nil_of_reservedItem {stored : Json}
    (h : reservedItem c item = .ok (some (r, stored))) : r.skuId ≠ [] := by
  cases item with
  | dict entries =>
    rw [reservedItem] at h
    split at h
    · cases h
    · next skuId _ =>
        split at h
        · next htruthy =>
            dsimp only at h
            split at h
            · next reserved hvalid =>
                cases h
                obtain ⟨value, hget, hstr⟩ :=
                  requiredField_eq_some_iff.mp (validate_eq_some_iff.mp hvalid).1
                obtain rfl := string_eq_some_iff.mp hstr
                obtain rfl : skuId = .str r.skuId := some.inj hget
                simpa [Json.truthy] using htruthy
            · cases h
        · cases h
  | _ => cases h

/-- An item with an SKU under `sku_id` is reserved as it will be settled. -/
theorem reservedItem_of_ofStored {o : Option (ReservedItem × Json)}
    (hstored : ReservedItem.ofStored c item = .ok r) (hne : r.skuId ≠ [])
    (ho : reservedItem c item = .ok o) :
    ∃ reserved entries, o = some (reserved, entries) ∧ reserved.units = r.units := by
  cases item with
  | dict entries =>
    rw [ReservedItem.ofStored] at hstored
    split at hstored
    · next hvalid =>
        cases hstored
        obtain ⟨hsku, hquantity, -⟩ := validate_eq_some_iff.mp hvalid
        obtain ⟨value, hget, hstr⟩ := requiredField_eq_some_iff.mp hsku
        obtain rfl := string_eq_some_iff.mp hstr
        obtain ⟨quantity, hget', hint⟩ := requiredField_eq_some_iff.mp hquantity
        have htruthy : Json.truthy (.str r.skuId) = true := by simpa [Json.truthy] using hne
        simp only [reservedItem, hget, hget', Json.or, any_some, htruthy, if_true] at ho
        split at ho
        · next reserved hreserved =>
            obtain ⟨hsku', hquantity', -⟩ := validate_eq_some_iff.mp hreserved
            obtain ⟨value, hvalue, hstr'⟩ := requiredField_eq_some_iff.mp hsku'
            obtain rfl : .str r.skuId = value := some.inj hvalue
            obtain ⟨value', hvalue', hint'⟩ := requiredField_eq_some_iff.mp hquantity'
            obtain rfl : quantity = value' := some.inj hvalue'
            refine ⟨reserved, _, (Except.ok.inj ho).symm, Prod.ext ?_ ?_⟩
            · exact (some.inj hstr').symm
            · exact some.inj (hint'.symm.trans hint)
        · cases ho
    · cases hstored
  | _ => cases hstored

/-! ### Lists of items -/

variable {items : List Json} {stored : List ReservedItem} {built : List (ReservedItem × Json)}

theorem exists_storedItems_iff {announced : Bool} :
    (∃ stored, storedItems c items = .ok stored ∧
        ∀ r ∈ stored, announced = true → r.skuId ≠ []) ↔
      ∀ item ∈ items, InFull c announced item := by
  simp only [← exists_ofStored_iff, storedItems, mapM_eq_ok_iff]
  induction items with
  | nil => simp
  | cons item items ih =>
    simp only [forall₂_cons_left_iff, forall_mem_cons, ← ih]
    constructor
    · rintro ⟨_, ⟨r, stored, hr, hstored, rfl⟩, hne⟩
      obtain ⟨hne, hnes⟩ := forall_mem_cons.mp hne
      exact ⟨⟨r, hr, hne⟩, stored, hstored, hnes⟩
    · rintro ⟨⟨r, hr, hne⟩, stored, hstored, hnes⟩
      exact ⟨r :: stored, ⟨r, stored, hr, hstored, rfl⟩, forall_mem_cons.mpr ⟨hne, hnes⟩⟩

/-- What is reserved and what is settled are the same, if every SKU stands under `sku_id`. -/
theorem units_built_iff (hbuilt : buildReservedItems c items = .ok built)
    (hstored : storedItems c items = .ok stored) :
    stored.map ReservedItem.units = built.map (fun e => e.1.units) ↔
      ∀ r ∈ stored, r.skuId ≠ [] := by
  obtain ⟨all, hall, hfilter⟩ := bind_eq_ok_iff.mp hbuilt
  obtain rfl := pure_eq_ok_iff.mp hfilter
  constructor
  · intro heq r hr hnil
    have hmem : r.units ∈ (all.filterMap id).map fun e => e.1.units :=
      heq ▸ mem_map_of_mem hr
    obtain ⟨⟨reserved, entries⟩, he, hunits⟩ := mem_map.mp hmem
    obtain ⟨o, ho, hsome⟩ := mem_filterMap.mp he
    obtain rfl : o = some (reserved, entries) := hsome
    obtain ⟨item, -, hitem⟩ := exists_of_mem_mapM hall ho
    have hsku : reserved.skuId = r.skuId := congrArg Prod.fst hunits
    exact skuId_ne_nil_of_reservedItem hitem (hsku.trans hnil)
  · intro hne
    rw [storedItems] at hstored
    rw [mapM_eq_ok_iff] at hall hstored
    clear hbuilt hfilter
    induction hstored generalizing all with
    | nil =>
      obtain rfl := forall₂_nil_left_iff.mp hall
      rfl
    | cons hr _ ih =>
      obtain ⟨o, rest, ho, hrest, rfl⟩ := forall₂_cons_left_iff.mp hall
      obtain ⟨hfirst, hothers⟩ := forall_mem_cons.mp hne
      obtain ⟨reserved, entries, rfl, hunits⟩ := reservedItem_of_ofStored hr hfirst ho
      have hcons : (some (reserved, entries) :: rest).filterMap id =
          (reserved, entries) :: rest.filterMap id := rfl
      rw [hcons, map_cons, map_cons, ih rest hrest hothers, hunits]

end Items

/-! ### Requests whose calls are answered -/

def outgoing (eventBus : Bool) (event : Option StockEvent) : List StockEvent :=
  if eventBus then event.toList else []

section Runs

variable {service : InventoryService} {w : World} {n : ℕ} {orderId : PyStr} {items : List Json}
  {userId : Option PyStr} {now : Timestamp} {eventBus : Bool}

theorem publishStock_up {event : Option StockEvent} :
    (publishStock eventBus event).wp (served fun _ => .up) (fun r s => r = .ok () ∧
      w.Publishes (outgoing eventBus event) s.1) (w, n) := by
  cases eventBus with
  | false => exact ⟨rfl, w.publishes_nil⟩
  | true =>
    cases event with
    | none => exact ⟨rfl, w.publishes_nil⟩
    | some event => exact ⟨rfl, rfl⟩

def reservedMessage (w : World) (orderId : PyStr) (userId : Option PyStr) (now : Timestamp)
    (built : List (ReservedItem × Json)) : Option StockEvent :=
  if built = [] then none
  else userId.map fun userId =>
    .reserved orderId w.reservations.size userId (built.map (·.1)) (now + seconds (30 * 60))

structure Reserves (service : InventoryService) (w : World) (orderId : PyStr) (items : List Json)
    (userId : Option PyStr) (now : Timestamp) (answer : Answer) (w' : World)
    (built : List (ReservedItem × Json)) : Prop where
  id : answer.reservationId = some w.reservations.size
  order : orderId ≠ []
  reads : buildReservedItems service.coercions items = .ok built
  publishes : (w.insert (newReservation orderId userId items now)).Publishes
    (outgoing service.eventBus (reservedMessage w orderId userId now built)) w'

theorem reserveInventory_up :
    (reserveInventory service orderId items userId now).wp (served fun _ => .up)
      (fun r s => ∀ answer, r = .ok answer →
        ∃ built, Reserves service w orderId items userId now answer s.1 built) (w, 0) := by
  refine wp_require_bind (fun hgiven => wp_bind.mpr ?_) fun _ => nofun
  refine createReservation_wp (fun _ m => ?_) nofun fun _ _ => nofun
  refine wp_lift_bind (fun built hbuilt => ?_) fun e _ => nofun
  split
  · next hne =>
      refine wp_bind.mpr (wp_mono publishStock_up ?_)
      rintro r s ⟨rfl, hs⟩ answer hanswer
      cases hanswer
      refine ⟨built, rfl, hgiven.1, hbuilt, ?_⟩
      rw [reservedMessage, if_neg hne]
      exact hs
  · next heq =>
      intro answer hanswer
      cases hanswer
      refine ⟨built, rfl, hgiven.1, hbuilt, ?_⟩
      have hnone : outgoing service.eventBus none = [] := by simp [outgoing]
      rw [reservedMessage, if_pos (not_not.mp heq), hnone]
      exact World.publishes_nil _

def SettlesTo (service : InventoryService) (status : ReservationStatus) (orderId : PyStr)
    (row : Row Reservation) (event : List ReservedItem → PyStr → StockEvent) (w : World)
    (r : Except InventoryError Answer) (w' : World) : Prop :=
  match storedItems service.coercions row.val.items with
  | .ok stored =>
    r = .ok { status, orderId := some orderId, reservationId := some row.id } ∧
      (w.settle status row.id).Publishes
        (outgoing service.eventBus (row.val.userId.map (event stored))) w'
  | .error e => r = .error e

variable {reservationId : Option ℕ} {status : ReservationStatus} {row : Row Reservation}

theorem getReservation_up (id : ℕ) :
    (getReservation id).run (served fun _ => .up) (w, n) =
      (.ok ((w.reservations.get? id).map (Row.mk id)), (w, n + 1)) := rfl

variable (w orderId reservationId) in
theorem findReservation_up :
    ∃ m, (findReservation orderId reservationId).run (served fun _ => .up) (w, 0) =
      (.ok (w.findReservation orderId reservationId), (w, m)) := by
  cases reservationId with
  | none => exact ⟨1, rfl⟩
  | some id =>
    rw [findReservation, World.findReservation, bind_some,
      run_bind_of_ok (getReservation_up id)]
    cases (w.reservations.get? id).map (Row.mk id) with
    | none => exact ⟨2, rfl⟩
    | some row => exact ⟨1, rfl⟩

theorem settleFound_up {update : ℕ → InventoryM (Option (Row Reservation))}
    {publish : Row Reservation → List ReservedItem → InventoryM Unit}
    {missing : Except InventoryError Answer} {event : List ReservedItem → PyStr → StockEvent}
    (hupdate : update = Inventory.settleReservation status)
    (hpublish : ∀ stored, publish row stored =
      publishStock service.eventBus (row.val.userId.map (event stored)))
    (horder : orderId ≠ []) (hfound : w.findReservation orderId reservationId = some row) :
    (settleFound service orderId reservationId update publish status missing).wp
      (served fun _ => .up) (fun r s => SettlesTo service status orderId row event w r s.1)
      (w, 0) := by
  subst hupdate
  refine wp_require_bind (fun _ => wp_bind.mpr ?_) (absurd horder)
  obtain ⟨m, hrun⟩ := findReservation_up w orderId reservationId
  rw [wp, hrun, hfound]
  refine wp_bind.mpr ((wp_query_bind_up rfl).mpr ((wp_query_up rfl).mpr ?_))
  refine wp_lift_bind (fun stored hstored => ?_) fun e he => ?_
  · rw [hpublish]
    refine wp_bind.mpr (wp_mono publishStock_up ?_)
    rintro r s ⟨rfl, hs⟩
    change SettlesTo _ _ _ _ _ _ _ _
    rw [SettlesTo, hstored]
    exact ⟨rfl, hs⟩
  · rw [SettlesTo, he]

variable (service) in
theorem outcome_settles {request : Request}
    (h : request.settles = some (status, orderId, reservationId)) (horder : orderId ≠ [])
    (hfound : w.findReservation orderId reservationId = some row) :
    ∃ event : List ReservedItem → PyStr → StockEvent,
      (∀ stored user, (event stored user).units = stored.map ReservedItem.units) ∧
      SettlesTo service status orderId row event w (service.outcome w request.answered).1
        (service.step w request.answered) := by
  cases request with
  | reserve => cases h
  | commit =>
    cases h
    exact ⟨fun stored user => .committed orderId row.id user stored, fun _ _ => rfl,
      settleFound_up rfl (fun _ => rfl) horder hfound⟩
  | release _ _ reason =>
    cases h
    exact ⟨fun stored user => .released orderId row.id user stored reason, fun _ _ => rfl,
      settleFound_up rfl (fun _ => rfl) horder hfound⟩

/-! ### What goes out -/

theorem unitsSince_of_publishes {w w' w'' : World} {events : List StockEvent}
    (hpublished : w'.published = w.published) (h : w'.Publishes events w'') :
    w.unitsSince w'' = events.flatMap StockEvent.units := by
  subst h
  rw [World.unitsSince, hpublished, drop_left]

theorem units_outgoing {event : PyStr → StockEvent} {units : List (PyStr × ℤ)}
    (h : ∀ user, (event user).units = units) :
    (outgoing eventBus (userId.map event)).flatMap StockEvent.units =
      if eventBus && userId.isSome then units else [] := by
  cases eventBus with
  | false => rfl
  | true =>
    cases userId with
    | none => rfl
    | some user => simp [outgoing, h]

theorem units_reservedMessage {built : List (ReservedItem × Json)} :
    (outgoing eventBus (reservedMessage w orderId userId now built)).flatMap StockEvent.units =
      if eventBus && userId.isSome then built.map (fun e => e.1.units) else [] := by
  rw [reservedMessage]
  split
  · next hnil =>
      subst hnil
      cases eventBus <;> simp [outgoing]
  · refine units_outgoing fun user => ?_
    rw [StockEvent.units, List.map_map]
    rfl

variable (service) in
theorem kept_exec {id : ℕ} {stored : Reservation} (h : w.reservations.get? id = some stored)
    (attempts : List Attempt) :
    ∃ now, (exec service.step w attempts).reservations.get? id = some now ∧
      now.items = stored.items ∧ now.userId = stored.userId := by
  refine extends_exec (R := fun a b => b.items = a.items ∧ b.userId = a.userId)
    (fun _ => ⟨rfl, rfl⟩) ?_ (fun status row => ?_) attempts id stored h
  · rintro a b c ⟨hitems, huser⟩ ⟨hitems', huser'⟩
    exact ⟨hitems'.trans hitems, huser'.trans huser⟩
  · rw [Reservation.settle]
    split <;> exact ⟨rfl, rfl⟩

variable {answer : Answer} {built : List (ReservedItem × Json)} {w' : World}

theorem Reserves.stored (h : Reserves service w orderId items userId now answer w' built) :
    w'.reservations.get? w.reservations.size = some (newReservation orderId userId items now) := by
  have hw' := h.publishes
  subst hw'
  exact Table.get?_insert_size _ _

theorem Reserves.units (h : Reserves service w orderId items userId now answer w' built) :
    w.unitsSince w' =
      if service.eventBus && userId.isSome then built.map (fun e => e.1.units) else [] :=
  (unitsSince_of_publishes rfl h.publishes).trans units_reservedMessage

/-- **One request to settle.** It is answered, with the items that were published as reserved,
just if the items are named in full. -/
theorem answered_iff {request : Request}
    (h : request.settles = some (status, orderId, reservationId)) (horder : orderId ≠ [])
    (hfound : w.findReservation orderId reservationId = some row)
    (hbuilt : buildReservedItems service.coercions row.val.items = .ok built) :
    ((service.outcome w request.answered).1
          = .ok { status, orderId := some orderId, reservationId := some row.id } ∧
        w.unitsSince (service.step w request.answered) =
          if service.eventBus && row.val.userId.isSome then built.map (fun e => e.1.units)
          else []) ↔
      ∀ item ∈ row.val.items,
        InFull service.coercions (service.eventBus && row.val.userId.isSome) item := by
  obtain ⟨event, hevent, hsettles⟩ := outcome_settles service h horder hfound
  rw [← exists_storedItems_iff]
  rw [SettlesTo] at hsettles
  split at hsettles
  · next stored hstored =>
      obtain ⟨hok, hpublishes⟩ := hsettles
      rw [unitsSince_of_publishes settle_published hpublishes,
        units_outgoing fun user => hevent stored user, hok]
      have hunits := units_built_iff hbuilt hstored
      constructor
      · rintro ⟨-, hsame⟩
        refine ⟨stored, hstored, fun r hr hannounced => ?_⟩
        rw [if_pos hannounced, if_pos hannounced] at hsame
        exact hunits.mp hsame r hr
      · rintro ⟨stored', hstored', hne⟩
        obtain rfl := Except.ok.inj (hstored.symm.trans hstored')
        refine ⟨rfl, ?_⟩
        split
        · next hannounced => exact hunits.mpr fun r hr => hne r hr hannounced
        · rfl
  · next e hstored =>
      constructor
      · rintro ⟨hok, -⟩
        rw [hsettles] at hok
        cases hok
      · rintro ⟨stored, hstored', -⟩
        rw [hstored] at hstored'
        cases hstored'

end Runs

/-! ### When what is reserved can be settled -/

section Main

variable (service : InventoryService) (w : World) (orderId : PyStr) (items : List Json)
  (userId : Option PyStr) (now : Timestamp)

/-- **The exact condition on the items** of a request to reserve that is accepted. -/
theorem settledAsReserved_iff (haccepted : Accepted service w orderId items userId now) :
    SettledAsReserved service w orderId items userId now ↔
      ∀ item ∈ items, InFull service.coercions (service.eventBus && userId.isSome) item := by
  obtain ⟨answer, hanswer⟩ := haccepted
  obtain ⟨built, hreserves⟩ : ∃ built, Reserves service w orderId items userId now answer
      (service.step w (Request.reserve orderId items userId now).answered) built :=
    reserveInventory_up (w := w) answer hanswer
  constructor
  · -- a request to commit, right after the reservation
    intro h
    have hfound : World.findReservation orderId (some w.reservations.size)
        (service.step w (Request.reserve orderId items userId now).answered) =
          some ⟨w.reservations.size, newReservation orderId userId items now⟩ := by
      rw [World.findReservation, bind_some, hreserves.stored]
      rfl
    have hsettled := h answer _ hanswer hreserves.id [] (.commit orderId (some w.reservations.size))
      _ _ _ rfl hreserves.order (congrArg (Option.map Row.id) hfound)
    refine (answered_iff rfl hreserves.order hfound hreserves.reads).mp ⟨hsettled.1, ?_⟩
    exact hsettled.2.trans hreserves.units
  · intro hfull answer' id hanswer' hid between request status named reservationId hrequest hnamed
      w₁ w₂ hfound
    obtain rfl := Except.ok.inj (hanswer.symm.trans hanswer')
    obtain rfl : w.reservations.size = id := some.inj (hreserves.id.symm.trans hid)
    obtain ⟨⟨_, found⟩, hfound, rfl⟩ := map_eq_some_iff.mp hfound
    -- what is found has the items and the user of the reservation
    obtain ⟨kept, hkept, hitems, huser⟩ := kept_exec service hreserves.stored between
    obtain rfl : kept = found :=
      some.inj (hkept.symm.trans (findReservation_cases hfound).1)
    have hbuilt : buildReservedItems service.coercions kept.items = .ok built :=
      hitems ▸ hreserves.reads
    obtain ⟨hok, hunits⟩ := (answered_iff hrequest hnamed hfound hbuilt).mpr
      (by rw [hitems, huser]; exact hfull)
    refine ⟨hok, hunits.trans ?_⟩
    rw [huser]
    exact hreserves.units.symm

end Main

def plainService : InventoryService := ⟨⟨fun _ => none, fun _ => none, fun _ => none⟩, true⟩

/-- An item with its SKU under `sku_id` is settled as it was reserved. -/
theorem settledAsReserved_skuId :
    SettledAsReserved plainService ⟨.empty, []⟩ ['a']
      [.dict [("sku_id", .str ['s']), ("quantity", .int 1)]] (some ['u']) 0 := by
  refine (settledAsReserved_iff _ _ _ _ _ _ ⟨_, rfl⟩).mpr fun item hitem => ?_
  obtain rfl := mem_singleton.mp hitem
  exact ⟨_, rfl, ⟨['s'], rfl, fun _ => by decide⟩, ⟨.int 1, rfl, rfl⟩, nofun⟩

/-- An item with its SKU under `product_id` is reserved, and committing it raises. -/
theorem not_settledAsReserved_productId :
    Accepted plainService ⟨.empty, []⟩ ['a']
        [.dict [("product_id", .str ['p']), ("quantity", .int 1)]] (some ['u']) 0 ∧
      ¬SettledAsReserved plainService ⟨.empty, []⟩ ['a']
        [.dict [("product_id", .str ['p']), ("quantity", .int 1)]] (some ['u']) 0 := by
  refine ⟨⟨_, rfl⟩, fun h => ?_⟩
  have hok := (h _ 0 rfl rfl [] (.commit ['a'] (some 0)) _ _ _ rfl (by decide) rfl).1
  have hraises : (Except.error .validationError : Except InventoryError Answer) = .ok _ := hok
  cases hraises

end IsaUser.Inventory
