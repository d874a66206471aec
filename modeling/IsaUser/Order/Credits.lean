import IsaUser.Order.Status

/-!
# Purchased Credits

`complete_order` completes an order whatever its status, then posts the credits to the wallet
and does not look at the answer; without a wallet, or without an amount in the request, it
posts nothing. A repeated completion posts again: the events that a replica remembers are known
by their ids, and to that replica only.
-/

namespace IsaUser.Orders

open World

/-! ### The law -/

def World.credited (w : World) (orderId : ℕ) : ℕ :=
  w.sent.countP fun sent => sent.received && decide (sent.Concerns orderId .deposit)

/-- **The law.** -/
structure World.CreditsOnce (w : World) : Prop where
  /-- No credits are received twice. -/
  once : ∀ i, w.credited i ≤ 1
  /-- Those of a completed and paid credit purchase have been received. -/
  completed : ∀ i row, w.orders.get? i = some row → row.orderType = .creditPurchase →
    row.status = .completed → row.paymentStatus = .completed → w.credited i = 1

def Delivered (deposit : Option SentRequest) : Prop := ∃ sent ∈ deposit, sent.received = true

def Deed.DeliversOnce (w : World) : Deed → Prop
  | complete orderId _ deposit => ∀ row, w.orders.get? orderId = some row →
      row.orderType = .creditPurchase → (Delivered deposit ↔ w.credited orderId = 0)
  | _ => True

def DeliversOnce (service : OrderService) (w : World) (attempt : Attempt) : Prop :=
  (service.deed w attempt).DeliversOnce w

section Proofs

variable {service : OrderService} {w w' : World} {attempt : Attempt} {i orderId : ℕ}
  {deposit : Option SentRequest} {deed : Deed}

/-! ### What a deed delivers -/

def Deed.DeliversTo (i : ℕ) : Deed → Prop
  | complete orderId _ deposit => orderId = i ∧ Delivered deposit
  | _ => False

theorem credited_send (sent : SentRequest) :
    (w.send sent).credited i = w.credited i +
      if sent.received = true ∧ sent.Concerns i .deposit then 1 else 0 := by
  rw [credited, send, credited]
  simp

theorem credited_sending (request : Option SentRequest) :
    (sending request w).credited i = w.credited i +
      if ∃ sent ∈ request, sent.received = true ∧ sent.Concerns i .deposit then 1 else 0 := by
  cases request with
  | none => simp [sending]
  | some sent => simp [sending, credited_send]

theorem Deed.Sound.credited (hsound : deed.Sound w) (i : ℕ) :
    (deed.DeliversTo i → (deed.on w).credited i = w.credited i + 1) ∧
      (¬deed.DeliversTo i → (deed.on w).credited i = w.credited i) := by
  cases deed with
  | cancel orderId refund =>
    obtain ⟨row, -, -, hrefund⟩ := hsound
    have hnone : ¬∃ sent ∈ refund, sent.received = true ∧ sent.Concerns i .deposit := by
      rintro ⟨sent, hsent, -, -, hdeposit⟩
      obtain ⟨⟨-, htype⟩, -⟩ := hrefund sent hsent
      cases htype.symm.trans hdeposit
    refine ⟨(fun h => by cases h), fun _ => ?_⟩
    rw [Deed.on, credited_sending, if_neg hnone]
    rfl
  | complete orderId transactionId deposit =>
    obtain ⟨row, -, hdeposit⟩ := hsound
    have hcounts : (∃ sent ∈ deposit, sent.received = true ∧ sent.Concerns i .deposit) ↔
        orderId = i ∧ Delivered deposit := by
      constructor
      · rintro ⟨sent, hsent, hreceived, hid, -⟩
        obtain ⟨⟨hid', -⟩, -⟩ := hdeposit sent hsent
        exact ⟨hid'.symm.trans hid, sent, hsent, hreceived⟩
      · rintro ⟨rfl, sent, hsent, hreceived⟩
        exact ⟨sent, hsent, hreceived, (hdeposit sent hsent).1⟩
    rw [Deed.on, credited_sending]
    constructor
    · intro h
      rw [if_pos (hcounts.mpr h)]
      rfl
    · intro h
      rw [if_neg fun hsome => h (hcounts.mp hsome)]
      rfl
  | keep => exact ⟨(fun h => by cases h), fun _ => rfl⟩
  | insert row => exact ⟨(fun h => by cases h), fun _ => rfl⟩
  | failPayment orderId => exact ⟨(fun h => by cases h), fun _ => rfl⟩
  | refundPayment orderId => exact ⟨(fun h => by cases h), fun _ => rfl⟩

/-! ### One step -/

theorem World.Same.creditsOnce (h : w.Same w') (hw : w.CreditsOnce) : w'.CreditsOnce := by
  have hcredited : ∀ i, w'.credited i = w.credited i := by
    intro i
    rw [credited, h.sent, credited]
  refine ⟨fun i => ?_, fun i row' hrow' htype hstatus hpayment => ?_⟩
  · rw [hcredited]
    exact hw.once i
  · obtain ⟨row, hrow, hcore⟩ := h.row hrow'
    obtain ⟨htype', hstatus', hpayment', -⟩ := columns_of_core hcore
    rw [hcredited]
    exact hw.completed i row hrow (htype'.trans htype) (hstatus'.trans hstatus)
      (hpayment'.trans hpayment)

theorem Deed.completed_of_patch {row : OrderRow} (hsubject : deed.subject = some i)
    (hstatus : (deed.patch.apply row).status = .completed) :
    ∃ transactionId deposit, deed = .complete i transactionId deposit := by
  cases deed with
  | complete orderId transactionId deposit =>
    obtain rfl : orderId = i := Option.some.inj hsubject
    exact ⟨transactionId, deposit, rfl⟩
  | keep => cases hsubject
  | insert row => cases hsubject
  | cancel orderId refund => cases hstatus
  | failPayment orderId => cases hstatus
  | refundPayment orderId => cases hstatus

theorem Deed.Sound.credited_le (hsound : deed.Sound w) (i : ℕ) :
    w.credited i ≤ (deed.on w).credited i := by
  by_cases hto : deed.DeliversTo i
  · have hnext := (hsound.credited i).1 hto
    omega
  · have hnext := (hsound.credited i).2 hto
    omega

theorem Deed.Sound.credited_le_one (hsound : deed.Sound w) (honce : w.credited i ≤ 1)
    (hdelivers : deed.DeliversOnce w) : (deed.on w).credited i ≤ 1 := by
  by_cases hto : deed.DeliversTo i
  · have hnext := (hsound.credited i).1 hto
    cases deed with
    | complete orderId transactionId deposit =>
      obtain ⟨rfl, sent, hsent, hreceived⟩ := hto
      obtain ⟨row, hrow, hdeposit⟩ := hsound
      have hzero := (hdelivers row hrow (hdeposit sent hsent).2).mp ⟨sent, hsent, hreceived⟩
      omega
    | _ => cases hto
  · have hnext := (hsound.credited i).2 hto
    omega

/-- **A deed that delivers as it should keeps the law.** -/
theorem Deed.Sound.creditsOnce (hsound : deed.Sound w) (hw : w.CreditsOnce)
    (hdelivers : deed.DeliversOnce w) : (deed.on w).CreditsOnce := by
  refine ⟨fun i => hsound.credited_le_one (hw.once i) hdelivers, ?_⟩
  intro i row' hrow' htype hstatus hpayment
  have honce := hsound.credited_le_one (hw.once i) hdelivers
  have hle := hsound.credited_le i
  rcases deed.row_on w i with ⟨row, rfl, -, hafter⟩ | hafter
  · obtain rfl : row = row' := Option.some.inj (hafter.symm.trans hrow')
    rcases hsound.1 with h | h
    · exact absurd (h.symm.trans hstatus) nofun
    · exact absurd (h.symm.trans hstatus) nofun
  · rw [hafter] at hrow'
    split at hrow'
    · next hsubject =>
        obtain ⟨row, hrow, rfl⟩ := Option.map_eq_some_iff.mp hrow'
        obtain ⟨transactionId, deposit, rfl⟩ := Deed.completed_of_patch hsubject hstatus
        have hiff := hdelivers row hrow htype
        by_cases hzero : w.credited i = 0
        · have hnext := (hsound.credited i).1 ⟨rfl, hiff.mpr hzero⟩
          omega
        · omega
    · have hone := hw.completed i row' hrow' htype hstatus hpayment
      omega

/-- **A deed that delivers otherwise breaks the law.** -/
theorem Deed.Sound.not_creditsOnce (hsound : deed.Sound w) (hdelivers : ¬deed.DeliversOnce w) :
    ¬(deed.on w).CreditsOnce := by
  intro h
  cases deed with
  | complete orderId transactionId deposit =>
    refine hdelivers fun row hrow htype => ?_
    have hrow' : ((Deed.complete orderId transactionId deposit).on w).orders.get? orderId
        = some ((completion transactionId).apply row) := by
      rw [Deed.on, sending_orders, update_row, if_pos rfl, hrow, Option.map_some]
    have hone := h.completed orderId _ hrow' htype rfl rfl
    constructor
    · intro hdelivered
      have hsum := (hsound.credited orderId).1 ⟨rfl, hdelivered⟩
      omega
    · intro hzero
      by_contra hmissed
      have hsum := (hsound.credited orderId).2 fun hto => hmissed hto.2
      omega
  | _ => exact hdelivers trivial

def creditPurchase : OrderCreateRequest :=
  { userId := "u".toList, orderType := .creditPurchase, totalAmount := 10
    walletId := some "w".toList, total_pos := tenDollars_pos }

def purchased (link : Link) : List Attempt :=
  [⟨.create creditPurchase, { links := fun _ => .up }⟩,
    ⟨.complete 0 { paymentConfirmed := true, creditsAdded := some 5 },
      { links := fun n => if n = 3 then link else .up }⟩]

theorem emptyWorld_creditsOnce : emptyWorld.CreditsOnce := by
  refine ⟨fun i => Nat.zero_le 1, fun i row hrow => ?_⟩
  cases hrow

end Proofs

end IsaUser.Orders
