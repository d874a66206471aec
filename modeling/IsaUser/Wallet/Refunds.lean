import IsaUser.Wallet.Histories

/-!
# Refunds of One Transaction

A refund is compared with the amount of the original transaction and with nothing else:
what was refunded of it before is not looked at.
-/

namespace IsaUser.Wallets

open Table

/-! ### The law and its condition -/

/-- What the `REFUND` transactions of transaction `t` add up to. -/
def Store.refunded (s : Store) (t : ℕ) : ℤ :=
  s.transactions.sumBy fun row =>
    if row.transactionType = .refund ∧ row.referenceId = some (.transaction t) then row.amount
    else 0

def Store.RefundsBounded (s : Store) : Prop :=
  ∀ t original, s.transactions.get? t = some original → s.refunded t ≤ original.amount

def Step.refund? : Step → Option (ℕ × Option ℤ)
  | repository (.refund t x) => some (t, x)
  | service (.refund t x) => some (t, x)
  | _ => none

/-- If the step is a refund that goes through, then it is of no more than what the earlier
refunds have left of the original. -/
def Step.LeavesEnough (s : Store) (step : Step) : Prop :=
  ∀ r ∈ step.refund?, ∀ original, RefundGoes s r.1 r.2 original →
    s.refunded r.1 + refundAmount r.2 original ≤ original.amount

/-! ### Transactions that are written -/

section Log

variable {s : Store} {row : Transaction}

@[simp] theorem refunded_addTo (s : Store) (id : ℕ) (δ : ℤ) (t : ℕ) :
    (s.addTo id δ).refunded t = s.refunded t := rfl

theorem refunded_log (s : Store) (row : Transaction) (t : ℕ) :
    (s.log row).refunded t = s.refunded t +
      if row.transactionType = .refund ∧ row.referenceId = some (.transaction t)
      then row.amount else 0 :=
  sumBy_insert _ _ _

theorem Store.Regular.refunded_size (hs : s.Regular) :
    s.refunded s.transactions.size = 0 := by
  refine sumBy_eq_zero fun t r hr => if_neg ?_
  rintro ⟨hrefund, href⟩
  obtain ⟨u, hu, href'⟩ := hs.refers t r hr hrefund
  have hut : s.transactions.size = u := by
    simpa using href.symm.trans href'
  have hlt := lt_size_of_get? hr
  omega

theorem bounded_log (hs : s.Regular) (hb : s.RefundsBounded) (hpos : 0 < row.amount)
    (hrow : row.transactionType ≠ .refund) : (s.log row).RefundsBounded := by
  intro t original ht
  rw [refunded_log, if_neg fun h => hrow h.1, add_zero]
  rw [log_transactions, get?_insert] at ht
  split at ht
  · next hsize =>
      obtain rfl := Option.some.inj ht
      rw [hsize, hs.refunded_size]
      exact hpos.le
  · exact hb t original ht

theorem bounded_log_refund (hs : s.Regular) (hb : s.RefundsBounded) {u : ℕ} {x : ℤ}
    {original : Transaction} (hu : s.transactions.get? u = some original)
    (hrow : IsRefund u x row) (hx : 0 < x) (hle : s.refunded u + x ≤ original.amount) :
    (s.log row).RefundsBounded := by
  intro t r ht
  rw [refunded_log, hrow.reference, hrow.amount_eq]
  rw [log_transactions, get?_insert] at ht
  split at ht
  · next hsize =>
      obtain rfl := Option.some.inj ht
      have hne : u ≠ t := by
        have := lt_size_of_get? hu
        omega
      rw [hsize] at hne ⊢
      rw [hs.refunded_size, hrow.amount_eq]
      omega
  · rcases eq_or_ne u t with rfl | hne
    · obtain rfl := Option.some.inj (hu.symm.trans ht)
      rw [if_pos ⟨hrow.type, rfl⟩]
      exact hle
    · rw [if_neg (by simp [hne]), add_zero]
      exact hb t r ht

end Log

/-! ### Steps -/

section Steps

variable {α : Type} {s : Store}

theorem bounded_handle {k : TransactionType} {c : Statement} (hc : c.Logs k)
    (hk : k ≠ .refund) (hs : s.Regular) (hb : s.RefundsBounded) :
    (handle c s).2.RefundsBounded := by
  cases c with
  | updateBalance id b =>
    simp only [handle]
    split
    · exact hb
    · split <;> exact hb
  | insertTransaction row =>
    obtain ⟨rfl, hpos⟩ := hc
    exact bounded_log hs hb hpos hk
  | _ => exact hb

theorem bounded_of_logs {k : TransactionType} {p : RepoM α}
    (hp : p.Only (Statement.Logs k)) (hk : k ≠ .refund) (hs : s.Regular)
    (hb : s.RefundsBounded) : (p.run handle s).2.RefundsBounded :=
  (hp.run_keeps (J := fun s : Store => s.Regular ∧ s.RefundsBounded) ⟨hs, hb⟩ fun _ _ hc h =>
    ⟨regular_handle hc hk h.1, bounded_handle hc hk h.1 h.2⟩).2

theorem bounded_refund (hs : s.Regular) (hb : s.RefundsBounded) {t : ℕ} {x : Option ℤ}
    (henough : ∀ original, RefundGoes s t x original →
      s.refunded t + refundAmount x original ≤ original.amount) :
    ((refund t x).run handle s).2.RefundsBounded := by
  rcases refund_run t x s with ⟨original, row, hgoes, hrow, hrun⟩ | ⟨-, hrun | ⟨id, δ, hrun⟩⟩
  · rw [hrun]
    exact bounded_log_refund (hs.addTo _ _) hb hgoes.found hrow hgoes.positive
      (henough original hgoes)
  · rw [hrun]
    exact hb
  · rw [hrun]
    exact hb

theorem not_bounded_refund {t : ℕ} {x : Option ℤ} {original : Transaction}
    (hgoes : RefundGoes s t x original)
    (hover : ¬s.refunded t + refundAmount x original ≤ original.amount) :
    ¬((refund t x).run handle s).2.RefundsBounded := by
  rcases refund_run t x s with ⟨original', row, hgoes', hrow, hrun⟩ | ⟨hnot, -⟩
  · obtain rfl := Option.some.inj (hgoes.found.symm.trans hgoes'.found)
    intro h
    rw [hrun] at h
    have hle := h t original (get?_insert_of_some hgoes.found row)
    rw [refunded_log, if_pos ⟨hrow.type, hrow.reference⟩, hrow.amount_eq] at hle
    exact hover hle
  · exact absurd ⟨original, hgoes⟩ hnot

theorem bounded_repository (call : MoneyCall) (hs : s.Regular) (hb : s.RefundsBounded)
    (henough : (Step.repository call).LeavesEnough s) :
    (Step.run s (.repository call)).RefundsBounded := by
  cases call with
  | refund t x =>
    rw [repository_refund_run]
    exact bounded_refund hs hb (henough (t, x) rfl)
  | _ => exact bounded_of_logs (prog_logs _) nofun hs hb

theorem Step.bounded_run (step : Step) (hs : s.Regular) (hb : s.RefundsBounded)
    (henough : step.LeavesEnough s) : (step.run s).RefundsBounded := by
  cases step with
  | createWallet data now => exact bounded_of_logs (createWallet_logs data now) nofun hs hb
  | repository call => exact bounded_repository call hs hb henough
  | service call =>
    rw [serve_run]
    refine bounded_repository call hs hb ?_
    cases call <;> exact henough

theorem Step.not_bounded_run (step : Step) (hnot : ¬step.LeavesEnough s) :
    ¬(step.run s).RefundsBounded := by
  intro hbounded
  refine hnot fun r hr original hgoes => ?_
  by_contra hover
  cases step with
  | createWallet data now => cases hr
  | repository call =>
    cases call <;> cases hr
    rw [repository_refund_run] at hbounded
    exact not_bounded_refund hgoes hover hbounded
  | service call =>
    cases call <;> cases hr
    rw [serve_run, repository_refund_run] at hbounded
    exact not_bounded_refund hgoes hover hbounded

end Steps

def refundTwice : List Step :=
  [.createWallet ⟨['a'], .fiat, 100000000, oneUnit_nonneg⟩ 0,
    .repository (.consume 0 100000000),
    .service (.refund 1 none), .service (.refund 1 none)]

end IsaUser.Wallets
