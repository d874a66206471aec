import IsaUser.Order.Credits

/-!
# Refunds of Cancelled Orders

`cancel_order` asks for the refund that its request names, of any amount, whether or not the
order has been paid: the status of the payment is not looked at, nor is the amount of the
order. An order that has been paid is completed, so it can only be cancelled after a late
`payment.failed`.
-/

namespace IsaUser.Orders

/-! ### The law -/

/-- The world, and the orders whose payment has completed in the history that led to it. -/
structure History where
  world : World
  paid : List ℕ

def Deed.paying (paid : List ℕ) : Deed → List ℕ
  | complete orderId _ _ => orderId :: paid
  | _ => paid

def OrderService.follow (service : OrderService) (h : History) (attempt : Attempt) : History :=
  { world := service.step h.world attempt
    paid := (service.deed h.world attempt).paying h.paid }

def World.refunded (w : World) (orderId : ℕ) : ℚ :=
  ((w.sent.filter fun sent => sent.Concerns orderId .refund).map fun sent =>
    sent.request.amount).sum

def World.price (w : World) (orderId : ℕ) : ℚ :=
  ((w.orders.get? orderId).bind fun row => readAmount row.finalAmount).elim 0 Subtype.val

/-- What has been paid for the order: its final amount, once its payment has completed. -/
def History.paidFor (h : History) (orderId : ℕ) : ℚ :=
  if orderId ∈ h.paid then h.world.price orderId else 0

/-- **The law.** -/
def History.RefundsBounded (h : History) : Prop :=
  ∀ i, h.world.refunded i ≤ h.paidFor i

def Deed.Covered (h : History) : Deed → Prop
  | cancel orderId (some refund) =>
    h.world.refunded orderId + refund.request.amount ≤ h.paidFor orderId
  | _ => True

instance (h : History) : (deed : Deed) → Decidable (deed.Covered h)
  | .cancel _ (some _) => inferInstanceAs (Decidable (_ ≤ _))
  | .cancel _ none => isTrue trivial
  | .keep => isTrue trivial
  | .insert _ => isTrue trivial
  | .complete _ _ _ => isTrue trivial
  | .failPayment _ => isTrue trivial
  | .refundPayment _ => isTrue trivial

def RefundCovered (service : OrderService) (h : History) (attempt : Attempt) : Prop :=
  (service.deed h.world attempt).Covered h

instance (service : OrderService) (h : History) (attempt : Attempt) :
    Decidable (RefundCovered service h attempt) :=
  inferInstanceAs (Decidable (Deed.Covered _ _))

section Proofs

variable {service : OrderService} {w w' : World} {h h' : History} {attempt : Attempt}
  {i orderId : ℕ} {deed : Deed}

/-! ### Amounts -/

theorem price_nonneg (w : World) (i : ℕ) : 0 ≤ w.price i := by
  rw [World.price]
  cases (w.orders.get? i).bind fun row => readAmount row.finalAmount with
  | none => exact le_rfl
  | some amount => exact amount.property

theorem World.Same.price_eq (hsame : w.Same w') (i : ℕ) : w'.price i = w.price i := by
  have hread : ∀ w : World, w.price i =
      (((w.orders.get? i).map OrderRow.core).bind fun row => readAmount row.finalAmount).elim 0
        Subtype.val := by
    intro w
    rw [World.price]
    cases w.orders.get? i <;> rfl
  rw [hread, hread, hsame.orders]

theorem World.Same.refunded_eq (hsame : w.Same w') (i : ℕ) : w'.refunded i = w.refunded i := by
  rw [World.refunded, hsame.sent, World.refunded]

theorem price_on (deed : Deed) (w : World) (i : ℕ) :
    (∃ row, deed = .insert row) ∧ w.price i ≤ (deed.on w).price i ∨
      (deed.on w).price i = w.price i := by
  rcases deed.row_on w i with ⟨row, rfl, rfl, -⟩ | hrow
  · refine .inl ⟨⟨row, rfl⟩, ?_⟩
    have hzero : w.price w.orders.size = 0 := by
      rw [World.price, Table.get?_size]
      rfl
    rw [hzero]
    exact price_nonneg _ _
  · right
    rw [World.price, hrow, World.price]
    split
    · cases w.orders.get? i <;> rfl
    · rfl

theorem price_le_on (deed : Deed) (w : World) (i : ℕ) : w.price i ≤ (deed.on w).price i := by
  rcases price_on deed w i with ⟨-, hle⟩ | heq
  · exact hle
  · exact heq.ge

theorem refunded_send (sent : SentRequest) :
    (w.send sent).refunded i = w.refunded i +
      if sent.Concerns i .refund then sent.request.amount else 0 := by
  rw [World.refunded, World.send,
    World.refunded]
  by_cases hconcerns : sent.Concerns i .refund <;> simp [hconcerns]

def Deed.refundFor (i : ℕ) : Deed → ℚ
  | cancel orderId (some refund) => if orderId = i then refund.request.amount else 0
  | _ => 0

theorem Deed.refundFor_cases (deed : Deed) (i : ℕ) :
    deed.refundFor i = 0 ∨ ∃ refund, deed = .cancel i (some refund) ∧
      deed.refundFor i = refund.request.amount := by
  unfold Deed.refundFor
  split
  · next orderId refund =>
      split
      · next heq => exact .inr ⟨refund, by rw [heq], rfl⟩
      · exact .inl rfl
  · exact .inl rfl

theorem Deed.Sound.refunded (hsound : deed.Sound w) (i : ℕ) :
    (deed.on w).refunded i = w.refunded i + deed.refundFor i := by
  have hkept : ∀ w' : World, w'.sent = w.sent → w'.refunded i = w.refunded i + 0 := by
    intro w' hsent
    rw [World.refunded, hsent, World.refunded, add_zero]
  cases deed with
  | cancel orderId refund =>
    cases refund with
    | none => exact hkept _ rfl
    | some refund =>
      obtain ⟨row, -, -, hrefund⟩ := hsound
      obtain ⟨⟨hid, htype⟩, -⟩ := hrefund refund rfl
      have hconcerns : refund.Concerns i .refund ↔ orderId = i := by
        rw [SentRequest.Concerns, hid, htype]
        exact and_iff_left rfl
      change ((w.update orderId cancellation).send refund).refunded i = _
      rw [refunded_send, hkept (w.update orderId cancellation) rfl, add_zero, Deed.refundFor]
      simp only [hconcerns]
  | complete orderId transactionId deposit =>
    cases deposit with
    | none => exact hkept _ rfl
    | some deposit =>
      obtain ⟨row, -, hdeposit⟩ := hsound
      obtain ⟨⟨-, htype⟩, -⟩ := hdeposit deposit rfl
      have hconcerns : ¬deposit.Concerns i .refund := by
        rintro ⟨-, htype'⟩
        exact absurd (htype.symm.trans htype') nofun
      change ((w.update orderId (completion transactionId)).send deposit).refunded i = _
      rw [refunded_send, if_neg hconcerns, add_zero]
      exact hkept _ rfl
  | keep => exact hkept _ rfl
  | insert row => exact hkept _ rfl
  | failPayment orderId => exact hkept _ rfl
  | refundPayment orderId => exact hkept _ rfl

/-! ### One step -/

def Deed.follow (h : History) (deed : Deed) : History :=
  { world := deed.on h.world, paid := deed.paying h.paid }

theorem refundsBounded_congr (hsame : h.world.Same h'.world) (hpaid : h'.paid = h.paid) :
    h'.RefundsBounded ↔ h.RefundsBounded := by
  have hfor : ∀ i, h'.paidFor i = h.paidFor i := by
    intro i
    rw [History.paidFor, hpaid, hsame.price_eq, History.paidFor]
  simp only [History.RefundsBounded, hsame.refunded_eq, hfor]

theorem paidFor_le_follow (h : History) (deed : Deed) (i : ℕ) :
    h.paidFor i ≤ (deed.follow h).paidFor i := by
  have hle := price_le_on deed h.world i
  have hnonneg := price_nonneg (deed.on h.world) i
  have hmem : i ∈ h.paid → i ∈ deed.paying h.paid := by
    intro hi
    cases deed with
    | complete orderId transactionId deposit => exact List.mem_cons_of_mem _ hi
    | _ => exact hi
  have hfor : (deed.follow h).paidFor i =
      if i ∈ deed.paying h.paid then (deed.on h.world).price i else 0 := rfl
  rw [hfor, History.paidFor]
  by_cases hi : i ∈ h.paid
  · rw [if_pos hi, if_pos (hmem hi)]
    exact hle
  · rw [if_neg hi]
    split
    · exact hnonneg
    · exact le_rfl

theorem paidFor_cancel (h : History) (orderId : ℕ) (refund : Option SentRequest) (i : ℕ) :
    ((Deed.cancel orderId refund).follow h).paidFor i = h.paidFor i := by
  rcases price_on (.cancel orderId refund) h.world i with ⟨⟨row, hrow⟩, -⟩ | heq
  · cases hrow
  · rw [History.paidFor, History.paidFor, ← heq]
    rfl

theorem Deed.Sound.refundsBounded (hsound : deed.Sound h.world) (hbounded : h.RefundsBounded)
    (hcovered : deed.Covered h) : (deed.follow h).RefundsBounded := by
  intro i
  have hi := hbounded i
  have hle := paidFor_le_follow h deed i
  have hrefunded : (deed.follow h).world.refunded i = h.world.refunded i + deed.refundFor i :=
    hsound.refunded i
  rcases deed.refundFor_cases i with hzero | ⟨refund, rfl, hamount⟩
  · linarith
  · have hcovered' : h.world.refunded i + refund.request.amount ≤ h.paidFor i := hcovered
    linarith

theorem Deed.Sound.not_refundsBounded (hsound : deed.Sound h.world) (hcovered : ¬deed.Covered h) :
    ¬(deed.follow h).RefundsBounded := by
  intro hbounded
  cases deed with
  | cancel orderId refund =>
    cases refund with
    | none => exact hcovered trivial
    | some refund =>
      refine hcovered ?_
      have hafter := hbounded orderId
      have hpaid := paidFor_cancel h orderId (some refund) orderId
      have hrefunded : ((Deed.cancel orderId (some refund)).follow h).world.refunded orderId
          = h.world.refunded orderId
            + Deed.refundFor orderId (.cancel orderId (some refund)) :=
        hsound.refunded orderId
      rw [Deed.refundFor, if_pos rfl] at hrefunded
      rw [Deed.Covered]
      linarith
  | _ => exact hcovered trivial

def emptyHistory : History := { world := emptyWorld, paid := [] }

theorem emptyHistory_refundsBounded : emptyHistory.RefundsBounded := fun _ => le_rfl

def priced : OrderCreateRequest :=
  { creditPurchase with finalAmount := some ⟨10, tenDollars_nonneg⟩ }

def refundedLate : List Attempt :=
  [⟨.create priced, { links := fun _ => .up }⟩,
    ⟨.complete 0 { paymentConfirmed := true, transactionId := some "pi".toList },
      { links := fun _ => .up }⟩,
    ⟨.paymentFailed { paymentIntentId := some "pi".toList }, { links := fun _ => .up }⟩,
    ⟨.cancel 0 { refundAmount := some 4 }, { links := fun _ => .up }⟩]

def refundedUnpaid : List Attempt :=
  [⟨.create priced, { links := fun _ => .up }⟩,
    ⟨.cancel 0 { refundAmount := some 5 }, { links := fun _ => .up }⟩]

end Proofs

end IsaUser.Orders
