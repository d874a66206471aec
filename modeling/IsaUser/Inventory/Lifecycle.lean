import IsaUser.Inventory.Service
import IsaUser.Lib.Runs

/-!
# The Lifecycle of a Reservation

A reservation that has left `active` never changes its status again, as the statements that
write it are guarded. What the service answers is another matter: it looks a reservation up by
the id it is given, of whatever order and status, and never looks at what the guarded statement
did. So it can confirm a commitment of a released reservation, or of one of another order, and
publish it.
-/

open Option

namespace IsaUser.Inventory

open Table

/-! ### The law -/

def World.Stores (w : World) (id : ℕ) (orderId : PyStr) (status : ReservationStatus) : Prop :=
  ∃ row, w.reservations.get? id = some row ∧ row.status = status ∧ row.orderId = orderId

def World.Announces (w : World) (status : ReservationStatus) (id : ℕ) : Prop :=
  ∃ e ∈ w.published, e.settles = some (status, id)

variable (service : InventoryService)

def InventoryService.step (w : World) (attempt : Attempt) : World := (service.outcome w attempt).2

/-- A request that is answered `committed`, or `released` with a reservation, has the stored
reservation committed or released, and it is one of the order that was given. -/
def Truthful (w : World) (attempt : Attempt) : Prop :=
  match attempt.request with
  | .reserve .. => True
  | .commit orderId _ =>
    ∀ answer, (service.outcome w attempt).1 = .ok answer → answer.status = .committed →
      ∃ id, answer.reservationId = some id ∧
        (service.step w attempt).Stores id orderId .committed
  | .release orderId _ _ =>
    ∀ answer id, (service.outcome w attempt).1 = .ok answer → answer.status = .released →
      answer.reservationId = some id → (service.step w attempt).Stores id orderId .released

/-- **The lifecycle law** for a run of requests. -/
structure Lifecycle (w : World) (attempts : List Attempt) : Prop where
  /-- What has left `active` never changes its status again. -/
  settled : ∀ before after, attempts = before ++ after → ∀ id row,
    (exec service.step w before).reservations.get? id = some row → row.status ≠ .active →
      ∃ row', (exec service.step w attempts).reservations.get? id = some row' ∧
        row'.status = row.status
  /-- Answers are true. -/
  truthful : AllSteps service.step (Truthful service) w attempts
  /-- No reservation is announced both as committed and as released. -/
  once : ∀ id, ¬((exec service.step w attempts).Announces .committed id ∧
    (exec service.step w attempts).Announces .released id)

/-- If the request names a stored reservation and gets through to its answer, the reservation
is one of the order, and active or already as it is asked to be. -/
def NamesProperly (links : ℕ → Link) (orderId : PyStr) (reservationId : Option ℕ)
    (status : ReservationStatus) (w : World) : Prop :=
  ∀ id row items, reservationId = some id → w.reservations.get? id = some row → orderId ≠ [] →
    storedItems service.coercions row.items = .ok items → (∀ k < 3, links k = .up) →
      row.orderId = orderId ∧ (row.status = .active ∨ row.status = status)

def Attempt.Proper (w : World) (attempt : Attempt) : Prop :=
  match attempt.request with
  | .reserve .. => True
  | .commit orderId reservationId =>
    NamesProperly service attempt.links orderId reservationId .committed w
  | .release orderId reservationId _ =>
    NamesProperly service attempt.links orderId reservationId .released w

section Law

variable {service} {w w' : World} {attempt : Attempt} {links : ℕ → Link} {orderId : PyStr}
  {reservationId : Option ℕ} {status : ReservationStatus} {r : Except InventoryError Answer}

/-! ### What requests do -/

def World.Keeps (w w' : World) : Prop :=
  w.reservations.Extends (fun row row' => row'.orderId = row.orderId ∧
    (row.status ≠ .active → row'.status = row.status)) w'.reservations

theorem settle_keeps (row : Reservation) :
    (row.settle status).orderId = row.orderId ∧
      (row.status ≠ .active → (row.settle status).status = row.status) :=
  ⟨settle_orderId, fun h => by rw [settle_of_settled h]⟩

section Extends

variable {R : Reservation → Reservation → Prop}

theorem Settled.extends {found : Option (Row Reservation)}
    (h : Settled service links orderId status found w r w') (hR : ∀ row, R row row)
    (hsettle : ∀ row, R row (row.settle status)) : w.reservations.Extends R w'.reservations := by
  have hwritten : ∀ id, w.reservations.Extends R (w.settle status id).reservations := fun id =>
    extends_modify hR _ _ fun row _ => hsettle row
  cases h with
  | untouched => exact Extends.refl hR _
  | failed e row => exact hwritten row.id
  | answered row _ _ _ _ events _ _ hw' =>
    subst hw'
    exact hwritten row.id

theorem Reserved.extends (h : Reserved w r w') (hR : ∀ row, R row row) :
    w.reservations.Extends R w'.reservations := by
  cases h with
  | failed => exact Extends.refl hR _
  | inserted _ row events _ _ _ _ hw' =>
    subst hw'
    exact extends_insert hR _ _

end Extends

theorem Settled.keeps {found : Option (Row Reservation)}
    (h : Settled service links orderId status found w r w') : w.Keeps w' :=
  h.extends (fun _ => ⟨rfl, fun _ => rfl⟩) settle_keeps

theorem Reserved.keeps (h : Reserved w r w') : w.Keeps w' :=
  h.extends fun _ => ⟨rfl, fun _ => rfl⟩

theorem outcome_commit (h : attempt.request = .commit orderId reservationId) :
    Settled service attempt.links orderId .committed (w.findReservation orderId reservationId) w
      (service.outcome w attempt).1 (service.step w attempt) := by
  rw [InventoryService.step, InventoryService.outcome, h]
  refine settleFound_wp rfl (fun row items w n => publishStock_settles fun e he => ?_) nofun
  obtain ⟨_, -, rfl⟩ := map_eq_some_iff.mp he
  rfl

theorem outcome_release {reason : PyStr}
    (h : attempt.request = .release orderId reservationId reason) :
    Settled service attempt.links orderId .released (w.findReservation orderId reservationId) w
      (service.outcome w attempt).1 (service.step w attempt) := by
  rw [InventoryService.step, InventoryService.outcome, h]
  refine settleFound_wp rfl (fun row items w n => publishStock_settles fun e he => ?_)
    fun _ h => by cases h; exact ⟨rfl, nofun⟩
  obtain ⟨_, -, rfl⟩ := map_eq_some_iff.mp he
  rfl

theorem outcome_reserve {items : List Json} {userId : Option PyStr} {now : Timestamp}
    (h : attempt.request = .reserve orderId items userId now) :
    Reserved w (service.outcome w attempt).1 (service.step w attempt) := by
  rw [InventoryService.step, InventoryService.outcome, h]
  exact reserveInventory_wp

section Answers

variable {id : ℕ} {row : Reservation} {items : List ReservedItem} (horder : orderId ≠ [])
  (hget : w.reservations.get? id = some row)
  (hitems : storedItems service.coercions row.items = .ok items)
  (hlinks : ∀ k < 3, attempt.links k = .up)

include horder hget hitems hlinks

theorem commit_answers (h : attempt.request = .commit orderId (some id)) :
    (service.outcome w attempt).1
      = .ok { status := .committed, orderId, reservationId := id } := by
  rw [InventoryService.outcome, h]
  exact settleFound_answers rfl (fun _ _ _ _ => Prog.wp_mono publishStock_wp fun _ _ h => h.1)
    horder hget hitems hlinks

theorem release_answers {reason : PyStr}
    (h : attempt.request = .release orderId (some id) reason) :
    (service.outcome w attempt).1
      = .ok { status := .released, orderId, reservationId := id } := by
  rw [InventoryService.outcome, h]
  exact settleFound_answers rfl (fun _ _ _ _ => Prog.wp_mono publishStock_wp fun _ _ h => h.1)
    horder hget hitems hlinks

end Answers

theorem extends_step {R : Reservation → Reservation → Prop} (hR : ∀ row, R row row)
    (hsettle : ∀ status row, R row (Reservation.settle status row)) :
    w.reservations.Extends R (service.step w attempt).reservations := by
  cases h : attempt.request with
  | reserve => exact (outcome_reserve h).extends hR
  | commit => exact (outcome_commit h).extends hR (hsettle _)
  | release => exact (outcome_release h).extends hR (hsettle _)

theorem keeps_step : w.Keeps (service.step w attempt) :=
  extends_step (fun _ => ⟨rfl, fun _ => rfl⟩) fun _ => settle_keeps

/-! ### Answers -/

theorem findReservation_cases {row : Row Reservation}
    (h : w.findReservation orderId reservationId = some row) :
    w.reservations.get? row.id = some row.val ∧
      (reservationId = some row.id ∨ row.val.orderId = orderId ∧ row.val.status = .active) := by
  rw [World.findReservation] at h
  split at h
  · next named hnamed =>
      obtain rfl : named = row := some.inj h
      obtain ⟨id, rfl, hid⟩ := bind_eq_some_iff.mp hnamed
      obtain ⟨val, hval, rfl⟩ := map_eq_some_iff.mp hid
      exact ⟨hval, .inl rfl⟩
  · obtain ⟨hget, horder, hstatus⟩ := selectByOrder_eq_some h
    exact ⟨hget, .inr ⟨horder, hstatus _ rfl⟩⟩

theorem stores_settle {row : Row Reservation} (hget : w.reservations.get? row.id = some row.val)
    (horder : row.val.orderId = orderId)
    (hstatus : row.val.status = .active ∨ row.val.status = status) :
    (w.settle status row.id).Stores row.id orderId status := by
  refine ⟨row.val.settle status, ?_, ?_, by rw [settle_orderId, horder]⟩
  · rw [get?_settle, if_pos rfl, hget, map_some]
  · by_cases hactive : row.val.status = .active
    · exact settle_of_active hactive
    · rw [settle_of_settled hactive]
      exact hstatus.resolve_left hactive

theorem Settled.stores
    (h : Settled service links orderId status (w.findReservation orderId reservationId) w r w')
    (hproper : NamesProperly service links orderId reservationId status w) {answer : Answer}
    {id : ℕ} (hr : r = .ok answer) (hid : answer.reservationId = some id) :
    w'.Stores id orderId status := by
  cases h with
  | untouched _ hnone =>
    rw [(hnone answer hr).1] at hid
    cases hid
  | failed => cases hr
  | answered row hfound horder hlinks hitems events _ _ hw' =>
    subst hw'
    cases hr
    obtain rfl : row.id = id := some.inj hid
    obtain ⟨hget, hnamed | ⟨hof, hactive⟩⟩ := findReservation_cases hfound
    · obtain ⟨items, hitems⟩ := hitems
      obtain ⟨hof, hstatus⟩ := hproper _ _ _ hnamed hget horder hitems hlinks
      exact stores_settle hget hof hstatus
    · exact stores_settle hget hof (.inl hactive)

/-- Only an answer that names a reservation is `committed`. -/
theorem Settled.names {found : Option (Row Reservation)}
    (h : Settled service links orderId status found w r w') {answer : Answer}
    (hr : r = .ok answer) (hcommitted : answer.status = .committed) :
    ∃ id, answer.reservationId = some id := by
  cases h with
  | untouched _ hnone => exact absurd hcommitted (hnone answer hr).2
  | failed => cases hr
  | answered row =>
    cases hr
    exact ⟨row.id, rfl⟩

theorem namesProperly_of_stores
    (h : ∀ id row items, reservationId = some id → w.reservations.get? id = some row →
      orderId ≠ [] → storedItems service.coercions row.items = .ok items →
      (∀ k < 3, links k = .up) → w'.Stores id orderId status)
    (hkeeps : w.Keeps w') : NamesProperly service links orderId reservationId status w := by
  intro id row items hid hget horder hitems hlinks
  obtain ⟨row', hget', hstatus, hof⟩ := h id row items hid hget horder hitems hlinks
  obtain ⟨row'', hget'', hkept, hsettled⟩ := hkeeps id row hget
  obtain rfl : row' = row'' := some.inj (hget'.symm.trans hget'')
  refine ⟨hkept.symm.trans hof, ?_⟩
  by_cases hactive : row.status = .active
  · exact .inl hactive
  · exact .inr ((hsettled hactive).symm.trans hstatus)

/-- **The exact condition on a request.** -/
theorem truthful_iff_proper : Truthful service w attempt ↔ attempt.Proper service w := by
  have hkeeps : w.Keeps (service.step w attempt) := keeps_step
  rw [Truthful, Attempt.Proper]
  split
  · rfl
  · next orderId reservationId hrequest =>
      constructor
      · refine fun h => namesProperly_of_stores ?_ hkeeps
        rintro id row items rfl hget horder hitems hlinks
        obtain ⟨_, hid, hstores⟩ :=
          h _ (commit_answers horder hget hitems hlinks hrequest) rfl
        obtain rfl := some.inj hid
        exact hstores
      · intro hproper answer hr hcommitted
        obtain ⟨id, hid⟩ := (outcome_commit hrequest).names hr hcommitted
        exact ⟨id, hid, (outcome_commit hrequest).stores hproper hr hid⟩
  · next orderId reservationId reason hrequest =>
      constructor
      · refine fun h => namesProperly_of_stores ?_ hkeeps
        rintro id row items rfl hget horder hitems hlinks
        exact h _ id (release_answers horder hget hitems hlinks hrequest) rfl rfl
      · intro hproper answer id hr _ hid
        exact (outcome_release hrequest).stores hproper hr hid

/-! ### Messages -/

/-- Every message that a reservation has taken a status is true, and stays true. -/
def World.Announced (w : World) : Prop :=
  ∀ status id, w.Announces status id →
    ∃ row, w.reservations.get? id = some row ∧ row.status = status ∧ status ≠ .active

theorem announced_of_keeps (hw : w.Announced) (hkeeps : w.Keeps w')
    (hnew : ∀ e ∈ w'.published, e ∈ w.published ∨ ∀ status id, e.settles = some (status, id) →
      ∃ row, w'.reservations.get? id = some row ∧ row.status = status ∧ status ≠ .active) :
    w'.Announced := by
  rintro status id ⟨e, he, hsettles⟩
  obtain hold | hrow := hnew e he
  · obtain ⟨row, hget, rfl, hactive⟩ := hw status id ⟨e, hold, hsettles⟩
    obtain ⟨row', hget', -, hstatus⟩ := hkeeps id row hget
    exact ⟨row', hget', hstatus hactive, hactive⟩
  · exact hrow status id hsettles

theorem Settled.announced (hw : w.Announced) (hstatus : status ≠ .active)
    (h : Settled service links orderId status (w.findReservation orderId reservationId) w r w')
    (hproper : NamesProperly service links orderId reservationId status w) : w'.Announced := by
  refine announced_of_keeps hw h.keeps fun e he => ?_
  have hstores : ∀ answer id, r = .ok answer → answer.reservationId = some id →
      w'.Stores id orderId status := fun _ _ => h.stores hproper
  cases h with
  | untouched => exact .inl he
  | failed => exact .inl he
  | answered row _ _ _ _ events hevents _ hw' =>
    have hpublished : w'.published = w.published ++ events := by rw [hw', settle_published]
    rw [hpublished, List.mem_append] at he
    refine he.imp_right fun he status' id hsettles => ?_
    obtain ⟨rfl, rfl⟩ : status = status' ∧ row.id = id := by
      simpa [hevents e he] using hsettles
    obtain ⟨row', hget, rfl, -⟩ := hstores _ _ rfl rfl
    exact ⟨row', hget, rfl, hstatus⟩

theorem Reserved.announced (hw : w.Announced) (h : Reserved w r w') : w'.Announced := by
  refine announced_of_keeps hw h.keeps fun e he => ?_
  cases h with
  | failed => exact .inl he
  | inserted _ row events _ _ _ hevents hw' =>
    have hpublished : w'.published = w.published ++ events := by rw [hw', insert_published]
    rw [hpublished, List.mem_append] at he
    refine he.imp_right fun he status id hsettles => ?_
    rw [hevents e he] at hsettles
    cases hsettles

theorem announced_step (hw : w.Announced) (hproper : attempt.Proper service w) :
    (service.step w attempt).Announced := by
  rw [Attempt.Proper] at hproper
  split at hproper
  · next h => exact (outcome_reserve h).announced hw
  · next h => exact (outcome_commit h).announced hw (by decide) hproper
  · next h => exact (outcome_release h).announced hw (by decide) hproper

/-! ### Runs -/

theorem extends_exec {R : Reservation → Reservation → Prop} (hR : ∀ row, R row row)
    (htrans : ∀ {a b c}, R a b → R b c → R a c)
    (hsettle : ∀ status row, R row (Reservation.settle status row)) (attempts : List Attempt) :
    w.reservations.Extends R (exec service.step w attempts).reservations :=
  exec_invariant (J := fun w' => w.reservations.Extends R w'.reservations)
    (Extends.refl hR _) (allSteps_true w attempts) fun _ _ hw' _ =>
      Extends.trans (R := R) htrans hw' (extends_step hR hsettle)

theorem keeps_exec (attempts : List Attempt) :
    w.Keeps (exec service.step w attempts) := by
  refine extends_exec (fun _ => ⟨rfl, fun _ => rfl⟩) ?_ (fun _ => settle_keeps) attempts
  rintro a b c ⟨hab, hab'⟩ ⟨hbc, hbc'⟩
  refine ⟨hbc.trans hab, fun ha => ?_⟩
  have hb := hab' ha
  rw [← hb]
  exact hbc' (by rwa [hb])

/-- A request to commit a reservation of the order that has been released is answered
`committed`. -/
theorem not_lifecycle_released :
    ¬∀ service attempts, Lifecycle service ⟨Table.empty, []⟩ attempts := by
  intro h
  let service : InventoryService := ⟨⟨fun _ => none, fun _ => none, fun _ => none⟩, true⟩
  let row := newReservation ['a'] (some ['u'])
    [.dict [("sku_id", .str ['s']), ("quantity", .int 1)]] 0
  let reserve : Attempt := ⟨.reserve ['a'] row.items row.userId 0, fun _ => .up⟩
  let release : Attempt := ⟨.release ['a'] none [], fun _ => .up⟩
  let commit : Attempt := ⟨.commit ['a'] (some 0), fun _ => .up⟩
  have hrow : (service.step (service.step ⟨empty, []⟩ reserve) release).reservations.get? 0
      = some (row.settle .released) := rfl
  have hproper := truthful_iff_proper.mp (h service [reserve, release, commit]).truthful.2.2.1
  have hstatus := (hproper 0 _ _ rfl hrow nofun rfl fun _ _ => rfl).2
  rcases hstatus with hstatus | hstatus <;> cases hstatus

end Law

/-- **The exact condition for the lifecycle law**, in a run that starts from any stored
reservations. -/
theorem lifecycle_iff (reservations : Table Reservation) (attempts : List Attempt) :
    Lifecycle service ⟨reservations, []⟩ attempts ↔
      AllSteps service.step (fun w attempt => attempt.Proper service w) ⟨reservations, []⟩
        attempts := by
  constructor
  · exact fun h => h.truthful.mono fun _ _ => truthful_iff_proper.mp
  · intro h
    refine ⟨?_, h.mono fun _ _ => truthful_iff_proper.mpr, ?_⟩
    · rintro before after rfl id row hget hactive
      rw [exec_append]
      obtain ⟨row', hget', -, hstatus⟩ := keeps_exec after id row hget
      exact ⟨row', hget', hstatus hactive⟩
    · rintro id ⟨hcommitted, hreleased⟩
      have hannounced : (exec service.step ⟨reservations, []⟩ attempts).Announced :=
        exec_invariant (J := World.Announced) (fun _ _ ⟨_, he, _⟩ => by cases he) h
          fun w attempt hw hproper => announced_step hw hproper
      obtain ⟨row, hget, hstatus, -⟩ := hannounced _ _ hcommitted
      obtain ⟨row', hget', hstatus', -⟩ := hannounced _ _ hreleased
      obtain rfl : row = row' := some.inj (hget.symm.trans hget')
      rw [hstatus] at hstatus'
      cases hstatus'

end IsaUser.Inventory
