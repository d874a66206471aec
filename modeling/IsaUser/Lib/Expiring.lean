import Mathlib.Algebra.Order.Group.Int

/-!
# Values that Expire

A cell of a key-value store with a time to live: it is empty, or holds a value until a
given instant. From that instant on the cell reads as empty, whether or not the value was
removed. Besides reading and writing there are the conditional operations that locks are
made of: set if empty, and delete or extend if the value is a given one.

Instants and times to live are integers in one unit.
-/

namespace IsaUser

variable {κ ν : Type*}

structure Expiring (ν : Type*) where
  value : ν
  expiresAt : ℤ
  deriving DecidableEq, Repr

abbrev Cell (ν : Type*) := Option (Expiring ν)

namespace Cell

def read (now : ℤ) (c : Cell ν) : Option ν :=
  match c with
  | some e => if now < e.expiresAt then some e.value else none
  | none => none

/-- Set the cell to `v` for `ttl`, unless it holds a value. -/
def setNX (now : ℤ) (v : ν) (ttl : ℤ) (c : Cell ν) : Bool × Cell ν :=
  match c.read now with
  | some _ => (false, c)
  | none => (true, some ⟨v, now + ttl⟩)

variable [DecidableEq ν] {c : Cell ν} {now : ℤ} {v : ν} {ttl : ℤ}

/-- Empty the cell, if it holds `v`. -/
def deleteIf (now : ℤ) (v : ν) (c : Cell ν) : Bool × Cell ν :=
  if c.read now = some v then (true, none) else (false, c)

/-- Let the cell expire `ttl` from now, if it holds `v`. -/
def extendIf (now : ℤ) (v : ν) (ttl : ℤ) (c : Cell ν) : Bool × Cell ν :=
  if c.read now = some v then (true, some ⟨v, now + ttl⟩) else (false, c)

omit [DecidableEq ν] in
@[simp] theorem read_none (now : ℤ) : Cell.read now (none : Cell ν) = none := rfl

omit [DecidableEq ν] in
theorem setNX_of_true (h : (c.setNX now v ttl).1 = true) :
    c.read now = none ∧ (c.setNX now v ttl).2 = some ⟨v, now + ttl⟩ := by
  rw [setNX] at h ⊢
  cases hc : c.read now with
  | none => exact ⟨rfl, rfl⟩
  | some w => simp [hc] at h

omit [DecidableEq ν] in
theorem setNX_of_some {w : ν} (h : c.read now = some w) : c.setNX now v ttl = (false, c) := by
  rw [setNX, h]

theorem deleteIf_of_ne (h : c.read now ≠ some v) :
    c.deleteIf now v = (false, c) := if_neg h

theorem extendIf_of_ne (h : c.read now ≠ some v) :
    c.extendIf now v ttl = (false, c) := if_neg h

end Cell

end IsaUser
