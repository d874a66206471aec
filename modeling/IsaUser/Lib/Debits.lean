import Mathlib

/-!
# Debits in Order

A plan debits several accounts, one after another, and a debit is refused when it exceeds
the balance it finds. `Covered b ds` says that the balances `b` cover the debits `ds`
account by account, in total. For debits that are not negative, `covered_cons` turns this
into what happens in order: the first is accepted, and what it leaves covers the rest.
-/

namespace IsaUser

variable {κ : Type*} [DecidableEq κ]

/-- The total of the debits against an account. -/
def share (ds : List (κ × ℤ)) (i : κ) : ℤ := (ds.map fun d => if d.1 = i then d.2 else 0).sum

def Covered (b : κ → ℤ) (ds : List (κ × ℤ)) : Prop := ∀ d ∈ ds, share ds d.1 ≤ b d.1
  deriving Decidable

variable {b b' : κ → ℤ} {ds : List (κ × ℤ)} {i : κ} {x : ℤ}

@[simp] theorem share_nil (i : κ) : share ([] : List (κ × ℤ)) i = 0 := rfl

@[simp] theorem share_cons (d : κ × ℤ) (ds : List (κ × ℤ)) (i : κ) :
    share (d :: ds) i = (if d.1 = i then d.2 else 0) + share ds i := by
  simp [share]

theorem share_nonneg (hpos : ∀ d ∈ ds, 0 ≤ d.2) (i : κ) : 0 ≤ share ds i := by
  refine List.sum_nonneg fun y hy => ?_
  obtain ⟨d, hd, rfl⟩ := List.mem_map.mp hy
  split
  · exact hpos d hd
  · exact le_rfl

theorem share_eq_zero (hi : ∀ d ∈ ds, d.1 ≠ i) : share ds i = 0 := by
  refine List.sum_eq_zero fun y hy => ?_
  obtain ⟨d, hd, rfl⟩ := List.mem_map.mp hy
  simp [hi d hd]

theorem covered_nil : Covered b [] := by simp [Covered]

/-- **Debits in order.** Debits are covered in total if and only if the first one is, and
the balances it leaves cover the others. -/
theorem covered_cons (hpos : ∀ d ∈ ds, 0 ≤ d.2) :
    Covered b ((i, x) :: ds) ↔
      x ≤ b i ∧ Covered (fun k => b k - if i = k then x else 0) ds := by
  constructor
  · intro h
    have hhead : (if i = i then x else 0) + share ds i ≤ b i := h (i, x) List.mem_cons_self
    have hrest := share_nonneg hpos i
    rw [if_pos rfl] at hhead
    refine ⟨by omega, fun d hd => ?_⟩
    have hshare := h d (List.mem_cons_of_mem _ hd)
    exact Int.le_sub_left_of_add_le hshare
  · rintro ⟨hx, h⟩
    have hrest : ∀ d ∈ ds, share ((i, x) :: ds) d.1 ≤ b d.1 := by
      intro d hd
      exact Int.add_le_of_le_sub_left (h d hd)
    intro d hd
    rcases List.mem_cons.mp hd with rfl | hd
    · by_cases hi : ∃ d ∈ ds, d.1 = i
      · obtain ⟨d', hd', rfl⟩ := hi
        exact hrest d' hd'
      · push Not at hi
        simpa [share_eq_zero hi] using hx
    · exact hrest d hd

end IsaUser
