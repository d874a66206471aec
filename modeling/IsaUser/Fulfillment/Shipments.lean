import IsaUser.Lib.Runs
import IsaUser.Lib.Table
import IsaUser.Lib.Values

/-!
# Shipments

A shipment is made when the tax of its order is known, gets a label when the order is paid, and is
canceled with the order, or any of these on request. A shipment that was canceled can get a label
again. What is announced of labels and of refunds is kept beside the rows.
-/

open List

namespace IsaUser.Fulfillment

inductive ShipmentStatus where
  | created
  | labelPurchased
  | failed
  deriving DecidableEq

/-- A row of `fulfillment.shipments`. -/
structure Shipment where
  orderId : PyStr
  userId : Option PyStr
  carrier : Option PyStr := none
  trackingNumber : Option PyStr := none
  labelUrl : Option PyStr := none
  status : ShipmentStatus := .created
  cancellationReason : Option PyStr := none

structure ItemData where
  skuId : Option PyStr
  productId : Option PyStr
  quantity : ℤ := 1
  weightGrams : ℤ := 500

structure ShipmentItem where
  skuId : PyStr
  quantity : ℤ
  weightGrams : ℤ

/-- What the provider makes of an order. -/
structure Label where
  trackingNumber : PyStr
  carrier : PyStr := "USPS".toList
  labelUrl : Option PyStr := none

/-- The calls of the publishers. -/
inductive Announcement where
  | shipmentPrepared (shipmentId : ℕ) (orderId : PyStr) (userId : Option PyStr)
    (items : List ShipmentItem) (estimatedWeightGrams : Option ℤ)
  | labelCreated (shipmentId : ℕ) (orderId : PyStr) (userId : Option PyStr) (label : Label)
  | shipmentCanceled (shipmentId : ℕ) (orderId : PyStr) (userId : Option PyStr) (reason : PyStr)
    (refundShipping : Bool)
  | shipmentFailed (orderId : PyStr) (userId : Option PyStr) (errorCode : String)

structure World where
  shipments : Table Shipment := .empty
  announced : List Announcement := []

inductive FulfillmentError where
  | valueError (message : String)
  | lookupError (message : String)
  | provider

inductive Answer where
  | created (shipmentId : ℕ) (trackingNumber : PyStr)
  | labelCreated (trackingNumber carrier labelUrl : Option PyStr)
  | canceled (refundShipping : Option Bool)

abbrev Served := Except FulfillmentError Answer × World

namespace World

variable (w : World)

/-! ### The repository -/

/-- `get_shipment_by_order`: the latest one. -/
def getShipmentByOrder (orderId : PyStr) : Option (Row Shipment) :=
  (w.shipments.select fun s => s.orderId = orderId).getLast?

def prepare (s : Shipment) (items : List ItemData) (weight : Option ℤ) : World where
  shipments := w.shipments.insert s
  announced :=
    let item (i : ItemData) : ShipmentItem :=
      ⟨(given i.skuId <|> given i.productId).getD "unknown".toList, i.quantity, i.weightGrams⟩
    .shipmentPrepared w.shipments.size s.orderId s.userId (items.map item) weight :: w.announced

def buyLabel (row : Row Shipment) (userId : Option PyStr) (label : Label) : World where
  shipments := w.shipments.modify row.id fun s =>
    { s with
      status := .labelPurchased
      carrier := given (some label.carrier) <|> s.carrier
      trackingNumber := given (some label.trackingNumber) <|> s.trackingNumber
      labelUrl := given label.labelUrl <|> s.labelUrl }
  announced := .labelCreated row.id row.val.orderId userId label :: w.announced

def cancel (row : Row Shipment) (userId : Option PyStr) (stored announced : PyStr) : World where
  shipments := w.shipments.modify row.id fun s =>
    { s with status := .failed, cancellationReason := some stored }
  announced := .shipmentCanceled row.id row.val.orderId userId announced
    (row.val.status = .labelPurchased) :: w.announced

/-! ### Events -/

def handleTaxCalculated (orderId userId : Option PyStr) (items : List ItemData) : World :=
  match given orderId with
  | none => w
  | some orderId =>
    if (w.getShipmentByOrder orderId).isSome then w
    else
      let items := if items = [] then [⟨some "placeholder".toList, none, 1, 500⟩] else items
      w.prepare { orderId, userId } items
        (some (items.map fun i => i.weightGrams * i.quantity).sum)

/-- `handle_payment_completed`, with what the provider answers unless it raises. -/
def handlePaymentCompleted (orderId metadataOrderId userId : Option PyStr)
    (label : Option Label) : World :=
  match given orderId <|> given metadataOrderId with
  | none => w
  | some orderId =>
    match w.getShipmentByOrder orderId with
    | none => w
    | some row =>
      if row.val.status = .labelPurchased then w
      else match label with
        | none =>
          let failed := .shipmentFailed orderId (given userId <|> row.val.userId)
            "LABEL_CREATION_ERROR"
          { w with announced := failed :: w.announced }
        | some label => w.buyLabel row (given userId <|> row.val.userId) label

def handleOrderCanceled (orderId userId reason : Option PyStr) : World :=
  match given orderId with
  | none => w
  | some orderId =>
    match w.getShipmentByOrder orderId with
    | none => w
    | some row =>
      if row.val.status = .failed then w
      else w.cancel row (given userId <|> row.val.userId)
        ((given reason).getD "manual_cancellation".toList)
        ((given reason).getD "order_canceled".toList)

/-! ### Requests -/

/-- `create_shipment`, with the tracking number of the provider unless it raises. -/
def createShipment (orderId : PyStr) (items : List ItemData) (hasAddress : Bool) (userId : PyStr)
    (tracking : Option PyStr) : Served :=
  if orderId = [] ∨ items = [] ∨ hasAddress = false then
    (.error (.valueError "order_id, items, and address are required"), w)
  else match tracking with
    | none => (.error .provider, w)
    | some trackingNumber =>
      (.ok (.created w.shipments.size trackingNumber),
        w.prepare { orderId, userId := some userId, trackingNumber } items none)

/-- `create_label`, with a new tracking number. -/
def createLabel (shipmentId : ℕ) (trackingNumber : PyStr) : Served :=
  match w.shipments.get? shipmentId with
  | none => (.error (.lookupError "Shipment not found"), w)
  | some s =>
    if s.status = .labelPurchased then (.ok (.labelCreated s.trackingNumber s.carrier s.labelUrl), w)
    else
      (.ok (.labelCreated trackingNumber (some "USPS".toList) none),
        w.buyLabel ⟨shipmentId, s⟩ s.userId { trackingNumber })

def cancelShipment (shipmentId : ℕ) (reason : PyStr) : Served :=
  match w.shipments.get? shipmentId with
  | none => (.error (.lookupError "Shipment not found"), w)
  | some s =>
    if s.status = .failed then (.ok (.canceled none), w)
    else
      (.ok (.canceled (some (s.status = .labelPurchased))), w.cancel ⟨shipmentId, s⟩ s.userId
        ((given (some reason)).getD "manual_cancellation".toList) reason)

end World

inductive Request where
  | taxCalculated (orderId userId : Option PyStr) (items : List ItemData)
  | paymentCompleted (orderId metadataOrderId userId : Option PyStr) (label : Option Label)
  | orderCanceled (orderId userId reason : Option PyStr)
  | createShipment (orderId : PyStr) (items : List ItemData) (hasAddress : Bool) (userId : PyStr)
    (tracking : Option PyStr)
  | createLabel (shipmentId : ℕ) (trackingNumber : PyStr)
  | cancelShipment (shipmentId : ℕ) (reason : PyStr)

def World.serve (w : World) : Request → World
  | .taxCalculated orderId userId items => w.handleTaxCalculated orderId userId items
  | .paymentCompleted orderId metadataOrderId userId label =>
    w.handlePaymentCompleted orderId metadataOrderId userId label
  | .orderCanceled orderId userId reason => w.handleOrderCanceled orderId userId reason
  | .createShipment orderId items hasAddress userId tracking =>
    (w.createShipment orderId items hasAddress userId tracking).2
  | .createLabel shipmentId trackingNumber => (w.createLabel shipmentId trackingNumber).2
  | .cancelShipment shipmentId reason => (w.cancelShipment shipmentId reason).2

/-! ### What a request does -/

def Request.Creates (orderId : PyStr) : Request → Bool
  | .createShipment orderId' .. => orderId' = orderId
  | _ => false

inductive Change (request : Request) (w : World) : World → Prop
  | nothing : Change request w w
  | failed (orderId : PyStr) (userId : Option PyStr) (code : String) : Change request w
      { w with announced := .shipmentFailed orderId userId code :: w.announced }
  | prepared (s : Shipment) (items : List ItemData) (weight : Option ℤ) (hs : s.status = .created)
      (hnew : w.getShipmentByOrder s.orderId = none ∨ request.Creates s.orderId) :
      Change request w (w.prepare s items weight)
  | labeled (row : Row Shipment) (userId : Option PyStr) (label : Label)
      (hrow : w.shipments.get? row.id = some row.val) (hs : row.val.status ≠ .labelPurchased) :
      Change request w (w.buyLabel row userId label)
  | canceled (row : Row Shipment) (userId : Option PyStr) (stored announced : PyStr)
      (hrow : w.shipments.get? row.id = some row.val) (hs : row.val.status ≠ .failed) :
      Change request w (w.cancel row userId stored announced)

theorem get?_of_getShipmentByOrder {w : World} {orderId : PyStr} {row : Row Shipment}
    (h : w.getShipmentByOrder orderId = some row) : w.shipments.get? row.id = some row.val :=
  (Table.mem_select.mp (mem_of_getLast? h)).1

theorem serve_change (w : World) (request : Request) : Change request w (w.serve request) := by
  cases request with
  | taxCalculated orderId userId items =>
    rw [World.serve, World.handleTaxCalculated]
    split
    · exact .nothing
    · split
      · exact .nothing
      · next hnone => exact .prepared _ _ _ rfl (.inl (Option.not_isSome_iff_eq_none.mp hnone))
  | paymentCompleted orderId metadataOrderId userId label =>
    rw [World.serve, World.handlePaymentCompleted]
    split
    · exact .nothing
    · split
      · exact .nothing
      · next hrow =>
          split
          · exact .nothing
          · next hs =>
              split
              · exact .failed _ _ _
              · exact .labeled _ _ _ (get?_of_getShipmentByOrder hrow) hs
  | orderCanceled orderId userId reason =>
    rw [World.serve, World.handleOrderCanceled]
    split
    · exact .nothing
    · split
      · exact .nothing
      · next hrow =>
          split
          · exact .nothing
          · next hs => exact .canceled _ _ _ _ (get?_of_getShipmentByOrder hrow) hs
  | createShipment orderId items hasAddress userId tracking =>
    rw [World.serve]
    unfold World.createShipment
    split
    · exact .nothing
    · split
      · exact .nothing
      · exact .prepared _ _ _ rfl (.inr (decide_eq_true rfl))
  | createLabel shipmentId trackingNumber =>
    rw [World.serve, World.createLabel]
    split
    · exact .nothing
    · next hrow =>
        split
        · exact .nothing
        · next hs => exact .labeled _ _ _ hrow hs
  | cancelShipment shipmentId reason =>
    rw [World.serve, World.cancelShipment]
    split
    · exact .nothing
    · next hrow =>
        split
        · exact .nothing
        · next hs => exact .canceled _ _ _ _ hrow hs

/-! ### Labels and refunds -/

def Announcement.IsLabelOf (id : ℕ) : Announcement → Bool
  | labelCreated id' .. => id' = id
  | _ => false

def Announcement.IsRefundOf (id : ℕ) : Announcement → Bool
  | shipmentCanceled id' _ _ _ refundShipping => id' = id ∧ refundShipping
  | _ => false

def World.Accounted (w : World) (id : ℕ) : Prop :=
  w.announced.countP (·.IsLabelOf id) = w.announced.countP (·.IsRefundOf id) +
    if (w.shipments.get? id).any (·.status = .labelPurchased) then 1 else 0

theorem Change.accounted {request : Request} {w w' : World} {id : ℕ} (h : Change request w w')
    (hw : w.Accounted id) : w'.Accounted id := by
  rw [World.Accounted] at hw ⊢
  cases h with
  | nothing => exact hw
  | failed => exact hw
  | prepared s items weight hs =>
    have hany : ((w.shipments.insert s).get? id).any (·.status = .labelPurchased) =
        (w.shipments.get? id).any (·.status = .labelPurchased) := by
      rw [Table.get?_insert]
      split
      · next hid => simp [hid, hs]
      · rfl
    rw [← hany] at hw
    exact hw
  | labeled row userId label hrow hs =>
    have hlabels : (w.buyLabel row userId label).announced.countP (·.IsLabelOf id) =
        w.announced.countP (·.IsLabelOf id) + if decide (row.id = id) then 1 else 0 := countP_cons
    have hrefunds : (w.buyLabel row userId label).announced.countP (·.IsRefundOf id) =
        w.announced.countP (·.IsRefundOf id) := countP_cons_of_neg Bool.false_ne_true
    rw [hlabels, hrefunds, hw, World.buyLabel, Table.get?_modify]
    by_cases hid : row.id = id
    · subst hid
      simp [hrow, hs]
    · simp [hid]
  | canceled row userId stored announced hrow hs =>
    have hlabels : (w.cancel row userId stored announced).announced.countP (·.IsLabelOf id) =
        w.announced.countP (·.IsLabelOf id) := countP_cons_of_neg Bool.false_ne_true
    have hrefunds : (w.cancel row userId stored announced).announced.countP (·.IsRefundOf id) =
        w.announced.countP (·.IsRefundOf id) +
          if decide (row.id = id ∧ decide (row.val.status = .labelPurchased)) then 1 else 0 :=
      countP_cons
    rw [hlabels, hrefunds, hw, World.cancel, Table.get?_modify]
    by_cases hid : row.id = id
    · subst hid
      simp [hrow]
    · simp [hid]

def World.shipmentsOf (w : World) (orderId : PyStr) : ℕ :=
  w.shipments.sumBy fun s => if s.orderId = orderId then 1 else 0

theorem Change.shipmentsOf_le {request : Request} {w w' : World} (h : Change request w w')
    (orderId : PyStr) : w'.shipmentsOf orderId ≤
      max 1 (w.shipmentsOf orderId) + if request.Creates orderId then 1 else 0 := by
  have hkept : w.shipmentsOf orderId ≤
      max 1 (w.shipmentsOf orderId) + if request.Creates orderId then 1 else 0 :=
    (le_max_right 1 _).trans (Nat.le_add_right _ _)
  cases h with
  | nothing => exact hkept
  | failed => exact hkept
  | prepared s items weight hs hnew =>
    rw [World.shipmentsOf, World.prepare, Table.sumBy_insert]
    change w.shipmentsOf orderId + _ ≤ _
    split
    · next horder =>
        subst horder
        rcases hnew with hnone | hcreates
        · have hzero : w.shipmentsOf s.orderId = 0 := by
            refine Table.sumBy_eq_zero fun i r hr => if_neg fun horder => ?_
            have hmem : ⟨i, r⟩ ∈ w.shipments.select fun s' => s'.orderId = s.orderId :=
              Table.mem_select.mpr ⟨hr, decide_eq_true horder⟩
            rw [getLast?_eq_none_iff.mp hnone] at hmem
            exact not_mem_nil hmem
          omega
        · rw [if_pos hcreates]
          omega
    · exact hkept
  | labeled row userId label =>
    refine le_of_eq_of_le (Table.sumBy_modify_of_eq _ _ fun s => rfl) hkept
  | canceled row userId stored announced =>
    refine le_of_eq_of_le (Table.sumBy_modify_of_eq _ _ fun s => rfl) hkept

theorem shipmentsOf_exec_le (w : World) (requests : List Request) (orderId : PyStr) :
    (exec World.serve w requests).shipmentsOf orderId ≤
      max 1 (w.shipmentsOf orderId) + requests.countP (·.Creates orderId) := by
  induction requests generalizing w with
  | nil => exact le_max_right _ _
  | cons request requests ih =>
    have hstep := (serve_change w request).shipmentsOf_le orderId
    have hrest := ih (w.serve request)
    rw [exec_cons, countP_cons]
    omega

/-- **Events make at most one shipment for an order**, and each request at most one more. -/
theorem shipments_of_order_le (requests : List Request) (orderId : PyStr) :
    (exec World.serve {} requests).shipmentsOf orderId ≤
      1 + requests.countP (·.Creates orderId) :=
  shipmentsOf_exec_le {} requests orderId

end IsaUser.Fulfillment
