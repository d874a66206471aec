import Mathlib.Algebra.Group.Defs
import Mathlib.Data.List.Chain
import Mathlib.Data.List.Infix

/-!
# Ledgers

The ledger of an account is a list of rows in creation order, each with the balance
before it, an amount, and the balance after it. `Ledger.Chained rows balance` says that the
rows account for `balance`: they start from nothing, each adds up, each starts where the
one before it ended, and the last ends at `balance`.

`Chained.snoc` is the only way a chained ledger grows: by `Chained.init` and
`Chained.balance_eq`, a ledger with a new row is chained only if it was before, up to the
balance the row starts from, and the row leads to the balance it has now.
-/

namespace IsaUser.Ledger

variable {ρ M : Type*} [AddMonoid M] (before amount after : ρ → M)

/-- The rows are a chain that ends at `balance`. -/
structure Chained (rows : List ρ) (balance : M) : Prop where
  /-- The first row starts from nothing. -/
  first : ∀ r ∈ rows.head?, before r = 0
  /-- Every row adds up. -/
  adds : ∀ r ∈ rows, after r = before r + amount r
  /-- Every row starts where the one before it ended. -/
  linked : rows.IsChain fun r r' => before r' = after r
  /-- The last row ends at the balance. -/
  last : ∀ r ∈ rows.getLast?, after r = balance
  /-- Without rows there is no balance. -/
  nothing : rows = [] → balance = 0

variable {before amount after} {rows : List ρ} {balance : M}

theorem chained_iff : Chained before amount after rows balance ↔
    (∀ r ∈ rows.head?, before r = 0) ∧ (∀ r ∈ rows, after r = before r + amount r) ∧
      (rows.IsChain fun r r' => before r' = after r) ∧
        (∀ r ∈ rows.getLast?, after r = balance) ∧ (rows = [] → balance = 0) :=
  ⟨fun ⟨h₁, h₂, h₃, h₄, h₅⟩ => ⟨h₁, h₂, h₃, h₄, h₅⟩,
    fun ⟨h₁, h₂, h₃, h₄, h₅⟩ => ⟨h₁, h₂, h₃, h₄, h₅⟩⟩

instance [DecidableEq M] [DecidableEq ρ] :
    Decidable (Chained before amount after rows balance) :=
  decidable_of_iff _ chained_iff.symm

theorem chained_nil : Chained before amount after ([] : List ρ) 0 :=
  ⟨by simp, by simp, by simp, by simp, fun _ => rfl⟩

theorem Chained.snoc (h : Chained before amount after rows balance) {r : ρ}
    (hbefore : before r = balance) (hafter : after r = before r + amount r) :
    Chained before amount after (rows ++ [r]) (balance + amount r) where
  first := by
    cases rows with
    | nil => simpa [hbefore] using h.nothing rfl
    | cons a rows => simpa using h.first
  adds := by
    intro r' hr'
    rcases List.mem_append.mp hr' with hr' | hr'
    · exact h.adds r' hr'
    · obtain rfl := List.mem_singleton.mp hr'
      exact hafter
  linked := by
    refine List.IsChain.append h.linked (List.isChain_singleton r) ?_
    intro x hx y hy
    obtain rfl : r = y := by simpa using hy
    rw [hbefore, h.last x hx]
  last := by
    intro r' hr'
    obtain rfl : r = r' := by simpa using hr'
    rw [hafter, hbefore]
  nothing := by simp

theorem Chained.init {r : ρ} (h : Chained before amount after (rows ++ [r]) balance) :
    Chained before amount after rows (before r) where
  first r' hr' := by
    refine h.first r' ?_
    cases rows with
    | nil => cases hr'
    | cons a rows => exact hr'
  adds r' hr' := h.adds r' (List.mem_append_left _ hr')
  linked := (List.isChain_append.mp h.linked).1
  last r' hr' := ((List.isChain_append.mp h.linked).2.2 r' hr' r rfl).symm
  nothing hrows := by
    subst hrows
    exact h.first r rfl

theorem Chained.balance_eq {r : ρ} (h : Chained before amount after (rows ++ [r]) balance) :
    before r + amount r = balance := by
  rw [← h.adds r (by simp)]
  exact h.last r (by simp)

end IsaUser.Ledger
