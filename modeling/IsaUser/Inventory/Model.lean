import IsaUser.Lib.Faults
import IsaUser.Lib.Json
import IsaUser.Lib.Table

/-!
# Inventory: Reservations and Their Store

The inventory service keeps one table of reservations (`inventory.reservations`), each of
them for the items of an order. A reservation is made active, and becomes committed or
released. The statements of `inventory_repository.py` are the calls of `InventoryApi`, and
`World.serve` is what the database does with them; the messages that go out to the event bus
are kept beside it.
-/

namespace IsaUser.Inventory

/-! ### Data -/

inductive ReservationStatus where
  | active
  | committed
  | released
  | expired
  deriving DecidableEq, Repr

/-- A row of `inventory.reservations`. The items are stored as they were given. -/
structure Reservation where
  orderId : PyStr
  userId : Option PyStr
  items : List Json
  status : ReservationStatus
  expiresAt : Timestamp
  createdAt : Timestamp

structure ReservedItem where
  skuId : PyStr
  quantity : ℤ
  unitPrice : Option (Option ℚ)
  deriving DecidableEq

inductive InventoryError where
  | valueError (message : String)
  | lookupError (message : String)
  | attributeError
  | typeError
  | validationError
  | connectionError
  deriving DecidableEq, Repr

/-- What `stock.failed` says went wrong: a text of its own, or that of an exception. -/
inductive ErrorMessage where
  | text (message : String)
  | exception (e : InventoryError)
  deriving DecidableEq, Repr

inductive StockEvent where
  | reserved (orderId : PyStr) (reservationId : ℕ) (userId : PyStr) (items : List ReservedItem)
      (expiresAt : Timestamp)
  | committed (orderId : PyStr) (reservationId : ℕ) (userId : PyStr) (items : List ReservedItem)
  | released (orderId : PyStr) (reservationId : ℕ) (userId : PyStr) (items : List ReservedItem)
      (reason : PyStr)
  | failed (orderId : PyStr) (userId : PyStr) (items : List Json) (errorCode : String)
      (errorMessage : ErrorMessage)

def StockEvent.settles : StockEvent → Option (ReservationStatus × ℕ)
  | committed _ reservationId _ _ => some (.committed, reservationId)
  | released _ reservationId _ _ _ => some (.released, reservationId)
  | _ => none

structure World where
  reservations : Table Reservation
  published : List StockEvent

/-! ### Items -/

section Items

variable (c : Coercions)

/-- `ReservedItem(**entries)`. -/
def ReservedItem.validate (entries : JsonDict) : Option ReservedItem := do
  let skuId ← requiredField entries "sku_id" Coercions.string
  let quantity ← requiredField entries "quantity" c.asInteger
  let unitPrice ← optionalField entries "unit_price" c.asFloat
  return { skuId, quantity, unitPrice }

/-- `ReservedItem(**item)`, of a stored item. -/
def ReservedItem.ofStored : Json → Except InventoryError ReservedItem
  | .dict entries =>
    match ReservedItem.validate c entries with
    | some item => .ok item
    | none => .error .validationError
  | _ => .error .typeError

def storedItems (items : List Json) : Except InventoryError (List ReservedItem) :=
  items.mapM (ReservedItem.ofStored c)

/-- An item of an order: what is reserved for it, and what is stored. An item that names no
product is left out. -/
def reservedItem : Json → Except InventoryError (Option (ReservedItem × Json))
  | .dict item =>
    let get := JsonDict.get? item
    let skuId := Json.or (Json.or (get "sku_id") (get "product_id")) (get "id")
    let quantity := (get "quantity").getD (.int 1)
    let unitPrice := Json.or (get "unit_price") (get "price")
    match skuId with
    | none => .ok none
    | some skuId =>
      if skuId.truthy then
        let entries := [("sku_id", skuId), ("quantity", quantity),
          ("unit_price", unitPrice.getD .null)]
        match ReservedItem.validate c entries with
        | some reserved => .ok (some (reserved, .dict entries))
        | none => .error .validationError
      else .ok none
  | _ => .error .attributeError

def buildReservedItems (items : List Json) :
    Except InventoryError (List (ReservedItem × Json)) := do
  let built ← items.mapM (reservedItem c)
  return built.filterMap id

end Items

/-! ### Statements -/

/-- The statements of the repository, and the publication of a message. -/
inductive Call where
  | insertReservation (row : Reservation)
  | selectReservation (reservationId : ℕ)
  | selectByOrder (orderId : PyStr) (status : Option ReservationStatus)
  | updateActive (status : ReservationStatus) (reservationId : ℕ)
  | publishEvent (event : StockEvent)

def Call.Reply : Call → Type
  | insertReservation _ => ℕ
  | selectReservation _ => Option (Row Reservation)
  | selectByOrder _ _ => Option (Row Reservation)
  | updateActive _ _ => Unit
  | publishEvent _ => Unit

@[reducible] def InventoryApi : Interface := ⟨Call, Call.Reply⟩

/-- The newest of the rows, by `ORDER BY created_at DESC LIMIT 1`. -/
def newest (rows : List (Row Reservation)) : Option (Row Reservation) :=
  (orderBy (fun row => -row.val.createdAt) rows).head?

def Reservation.Matches (orderId : PyStr) (status : Option ReservationStatus)
    (row : Reservation) : Prop :=
  row.orderId = orderId ∧ ∀ asked ∈ status, row.status = asked

instance (orderId : PyStr) (status : Option ReservationStatus) (row : Reservation) :
    Decidable (row.Matches orderId status) := inferInstanceAs (Decidable (_ ∧ _))

/-- `SELECT ... WHERE order_id = ? [AND status = ?] ORDER BY created_at DESC LIMIT 1`. -/
def World.selectByOrder (orderId : PyStr) (status : Option ReservationStatus) (w : World) :
    Option (Row Reservation) :=
  newest (w.reservations.select fun row => row.Matches orderId status)

/-- `SET status = ? WHERE status = 'active'`. -/
def Reservation.settle (status : ReservationStatus) (row : Reservation) : Reservation :=
  if row.status = .active then { row with status } else row

/-- `UPDATE ... SET status = ? WHERE reservation_id = ? AND status = 'active'`. -/
def World.settle (status : ReservationStatus) (reservationId : ℕ) (w : World) : World :=
  { w with reservations := w.reservations.modify reservationId (Reservation.settle status) }

/-- `INSERT INTO inventory.reservations`. -/
def World.insert (row : Reservation) (w : World) : World :=
  { w with reservations := w.reservations.insert row }

def World.publish (event : StockEvent) (w : World) : World :=
  { w with published := w.published ++ [event] }

def World.serve : Handler InventoryApi World
  | .insertReservation row, w => (w.reservations.size, w.insert row)
  | .selectReservation id, w => ((w.reservations.get? id).map fun row => ⟨id, row⟩, w)
  | .selectByOrder orderId status, w => (w.selectByOrder orderId status, w)
  | .updateActive status id, w => ((), w.settle status id)
  | .publishEvent event, w => ((), w.publish event)

/-! ### The repository -/

abbrev InventoryM := Prog (InventoryApi.fallible InventoryError) InventoryError

/-- Execute a statement; its error is logged and raised again. -/
def ask (call : Call) : InventoryM (InventoryApi.Reply call) :=
  Prog.query (I := InventoryApi) id call

def getReservation (reservationId : ℕ) : InventoryM (Option (Row Reservation)) :=
  ask (.selectReservation reservationId)

def getActiveReservationForOrder (orderId : PyStr) : InventoryM (Option (Row Reservation)) :=
  ask (.selectByOrder orderId (some .active))

/-- The row that `create_reservation` inserts. -/
def newReservation (orderId : PyStr) (userId : Option PyStr) (items : List Json)
    (now : Timestamp) : Reservation :=
  { orderId, userId, items, status := .active, expiresAt := now + seconds (30 * 60)
    createdAt := now }

def createReservation (orderId : PyStr) (userId : Option PyStr) (items : List Json)
    (now : Timestamp) : InventoryM (Option (Row Reservation)) := do
  let id ← ask (.insertReservation (newReservation orderId userId items now))
  getReservation id

/-- What `commit_reservation` and `release_reservation` have in common. -/
def settleReservation (status : ReservationStatus) (reservationId : ℕ) :
    InventoryM (Option (Row Reservation)) := do
  ask (.updateActive status reservationId)
  getReservation reservationId

def commitReservation (reservationId : ℕ) : InventoryM (Option (Row Reservation)) :=
  settleReservation .committed reservationId

def releaseReservation (reservationId : ℕ) : InventoryM (Option (Row Reservation)) :=
  settleReservation .released reservationId

/-! ### The publishers -/

def publishStock (eventBus : Bool) (event : Option StockEvent) : InventoryM Unit :=
  match eventBus, event with
  | true, some event => (ask (.publishEvent event)).tryCatch fun _ => .ret ()
  | _, _ => .ret ()

/-- `publish_stock_reserved`; a message without a user is invalid. -/
def publishStockReserved (eventBus : Bool) (orderId : PyStr) (reservationId : ℕ)
    (userId : Option PyStr) (items : List ReservedItem) (expiresAt : Timestamp) :
    InventoryM Unit :=
  publishStock eventBus <| userId.map fun userId =>
    .reserved orderId reservationId userId items expiresAt

def publishStockCommitted (eventBus : Bool) (orderId : PyStr) (reservationId : ℕ)
    (userId : Option PyStr) (items : List ReservedItem) : InventoryM Unit :=
  publishStock eventBus <| userId.map fun userId =>
    .committed orderId reservationId userId items

def publishStockReleased (eventBus : Bool) (orderId : PyStr) (reservationId : ℕ)
    (userId : Option PyStr) (items : List ReservedItem) (reason : PyStr) : InventoryM Unit :=
  publishStock eventBus <| userId.map fun userId =>
    .released orderId reservationId userId items reason

def Json.isDict : Json → Bool
  | .dict _ => true
  | _ => false

/-- `publish_stock_failed`; the items of a valid message are objects. -/
def publishStockFailed (eventBus : Bool) (orderId : PyStr) (userId : Option PyStr)
    (items : List Json) (errorMessage : ErrorMessage) (errorCode : String) : InventoryM Unit :=
  publishStock eventBus <|
    if items.all Json.isDict then
      userId.map fun userId => .failed orderId userId items errorCode errorMessage
    else none

/-! ### Statements over connections -/

abbrev served (links : ℕ → Link) : Handler (InventoryApi.fallible InventoryError) (World × ℕ) :=
  overLinks links .connectionError World.serve

section Statements

variable {links : ℕ → Link} {w : World} {n : ℕ}

theorem createReservation_wp {orderId : PyStr} {userId : Option PyStr} {items : List Json}
    {now : Timestamp} {Q : Except InventoryError (Option (Row Reservation)) → World × ℕ → Prop}
    (hok : links n ≠ .down → ∀ m,
      Q (.ok (some ⟨w.reservations.size, newReservation orderId userId items now⟩))
      (w.insert (newReservation orderId userId items now), m))
    (hdown : links n = .down → ∀ m, Q (.error .connectionError) (w, m))
    (hlost : links n ≠ .down → ∀ m, Q (.error .connectionError)
      (w.insert (newReservation orderId userId items now), m)) :
    (createReservation orderId userId items now).wp (served links) Q (w, n) := by
  refine Prog.wp_query_bind_overLinks (fun hup => ?_) (fun h => hdown h _)
    fun h => hlost (by simp [h]) _
  have hexecuted : links n ≠ .down := by simp [hup]
  refine Prog.wp_query_read rfl (fun _ => ?_) (hlost hexecuted _)
  have hget : ((w.insert (newReservation orderId userId items now)).reservations.get?
      w.reservations.size).map (Row.mk w.reservations.size)
      = some ⟨w.reservations.size, newReservation orderId userId items now⟩ := by
    simp [World.insert]
  have hok' := hok hexecuted (n + 1 + 1)
  rw [← hget] at hok'
  exact hok'

/-- The world `w'` is `w` after these messages went out. -/
def World.Publishes (w : World) (events : List StockEvent) (w' : World) : Prop :=
  w' = { w with published := w.published ++ events }

theorem World.publishes_nil (w : World) : w.Publishes [] w := by
  rw [World.Publishes, List.append_nil]

theorem publishStock_wp {eventBus : Bool} {event : Option StockEvent} :
    (publishStock eventBus event).wp (served links) (fun r s => r = .ok () ∧
      ∃ events, (∀ e ∈ events, event = some e) ∧ w.Publishes events s.1) (w, n) := by
  have hnone : ∀ m, (Except.ok () : Except InventoryError Unit) = .ok () ∧
      ∃ events, (∀ e ∈ events, event = some e) ∧ w.Publishes events ((w, m) : World × ℕ).1 :=
    fun m => ⟨rfl, [], nofun, w.publishes_nil⟩
  cases eventBus with
  | false => exact hnone n
  | true =>
    cases event with
    | none => exact hnone n
    | some event =>
      have hout : ∃ events, (∀ e ∈ events, some event = some e) ∧
          w.Publishes events (w.publish event) := ⟨[event], by simp, rfl⟩
      refine Prog.wp_tryCatch.mpr (Prog.wp_query_overLinks ?_ ?_ ?_)
      · exact fun _ => ⟨rfl, hout⟩
      · exact fun _ => hnone _
      · exact fun _ => ⟨rfl, hout⟩

theorem publishStock_settles {eventBus : Bool} {event : Option StockEvent}
    {settled : Option (ReservationStatus × ℕ)} (h : ∀ e, event = some e → e.settles = settled) :
    (publishStock eventBus event).wp (served links) (fun r s => r = .ok () ∧
      ∃ events, (∀ e ∈ events, e.settles = settled) ∧ w.Publishes events s.1) (w, n) := by
  refine Prog.wp_mono publishStock_wp ?_
  rintro r s ⟨hr, events, hevents, hs⟩
  exact ⟨hr, events, fun e he => h e (hevents e he), hs⟩

end Statements

/-! ### What the writes do -/

section Writes

variable {w : World} {i j : ℕ} {row r : Reservation} {status : ReservationStatus}

@[simp] theorem settle_orderId : (row.settle status).orderId = row.orderId := by
  unfold Reservation.settle
  split <;> rfl

@[simp] theorem settle_published : (w.settle status i).published = w.published := rfl

@[simp] theorem insert_published : (w.insert row).published = w.published := rfl

theorem settle_of_active (h : row.status = .active) : (row.settle status).status = status := by
  rw [Reservation.settle, if_pos h]

/-- A row that has left `active` stays as it is. -/
theorem settle_of_settled (h : row.status ≠ .active) : row.settle status = row :=
  if_neg h

theorem get?_settle : (w.settle status i).reservations.get? j =
    if i = j then (w.reservations.get? j).map (Reservation.settle status) else
      w.reservations.get? j :=
  Table.get?_modify _ _ _ _

theorem mem_of_newest {rows : List (Row Reservation)} {row : Row Reservation}
    (h : newest rows = some row) : row ∈ rows :=
  (mem_orderBy _ _).mp (List.mem_of_head? h)

theorem newest_eq_none {rows : List (Row Reservation)} (h : newest rows = none) : rows = [] := by
  have hnil : orderBy (fun row => -row.val.createdAt) rows = [] := List.head?_eq_none_iff.mp h
  have hperm := orderBy_perm (fun row : Row Reservation => -row.val.createdAt) rows
  rw [hnil] at hperm
  exact hperm.symm.eq_nil

theorem selectByOrder_eq_some {orderId : PyStr} {asked : Option ReservationStatus}
    {row : Row Reservation} (h : w.selectByOrder orderId asked = some row) :
    w.reservations.get? row.id = some row.val ∧ row.val.Matches orderId asked := by
  simpa using Table.mem_select.mp (mem_of_newest h)

theorem not_matches_of_selectByOrder {orderId : PyStr} {asked : Option ReservationStatus}
    (h : w.selectByOrder orderId asked = none) (hi : w.reservations.get? i = some r) :
    ¬r.Matches orderId asked := by
  intro hmatches
  have hmem : (⟨i, r⟩ : Row Reservation) ∈
      w.reservations.select fun row => row.Matches orderId asked :=
    Table.mem_select.mpr ⟨hi, by simpa using hmatches⟩
  rw [newest_eq_none h] at hmem
  cases hmem

end Writes

end IsaUser.Inventory
