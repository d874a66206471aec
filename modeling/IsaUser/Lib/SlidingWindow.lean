import Mathlib.Algebra.Order.Group.Int
import Mathlib.Algebra.Order.Group.Defs
import Mathlib.Data.List.Count
import Mathlib.Tactic.Abel

/-!
# Sliding Windows

A limiter that remembers when it was asked, and grants a request if it was not asked too
often in the window that ends now. This module has the two facts its correctness rests on:
what a limiter forgets at one instant it does not need at a later one (`recent_recent`), and
no window of the same length, wherever it ends, has more granted requests than the limit
(`Counted.granted_le`).

Windows of length `W` are open at their beginning and closed at their end.
-/

open List

namespace IsaUser

variable {T : Type*} [AddCommGroup T] [LinearOrder T] {W : T}

/-- The instants of the window that ends at `e`. -/
def InWindow (W e t : T) : Prop := e - W < t ∧ t ≤ e
  deriving Decidable

def recent (W now : T) (times : List T) : List T := times.filter (now - W < ·)

theorem recent_cons (W now t : T) (times : List T) :
    (recent W now (t :: times)).length =
      (recent W now times).length + if now - W < t then 1 else 0 := by
  by_cases h : now - W < t
  · simp [h, recent]
  · simp [h, recent]

/-- A request: when it arrives, and whether it is granted. -/
structure Arrival (T : Type*) where
  time : T
  granted : Bool
  deriving DecidableEq, Repr

/-- Every request, of which the latest is the first, is granted if and only if it and those
before it in the window that ends with it are at most `limit` requests. -/
def Counted (W : T) (limit : ℤ) : List (Arrival T) → Prop
  | [] => True
  | r :: past =>
    (r.granted = true ↔ ((recent W r.time (past.map Arrival.time)).length : ℤ) + 1 ≤ limit) ∧
      (∀ p ∈ past, p.time ≤ r.time) ∧ Counted W limit past

/-- How many requests of the window that ends at `e` were granted. -/
def grantedIn (W e : T) (requests : List (Arrival T)) : ℕ :=
  requests.countP fun r => r.granted ∧ InWindow W e r.time

theorem recent_eq_nil {now : T} {times : List T} (h : ∀ t ∈ times, t ≤ now - W) :
    recent W now times = [] :=
  filter_eq_nil_iff.mpr fun t ht => by simpa using h t ht

variable [IsOrderedAddMonoid T]

theorem recent_recent (W : T) {now later : T} (h : now ≤ later) (times : List T) :
    recent W later (recent W now times) = recent W later times := by
  rw [recent, recent, filter_filter]
  refine filter_congr fun t _ => ?_
  have himp : later - W < t → now - W < t := (sub_le_sub_right h W).trans_lt
  by_cases hlater : later - W < t
  · simp [himp hlater]
  · simp [hlater]

theorem grantedIn_le_recent {e now : T} (hnow : now ≤ e) (past : List (Arrival T)) :
    grantedIn W e past ≤ (recent W now (past.map Arrival.time)).length := by
  rw [recent, ← countP_eq_length_filter, countP_map]
  refine countP_mono_left fun r _ hr => ?_
  obtain ⟨-, hstart, -⟩ := of_decide_eq_true hr
  exact decide_eq_true ((sub_le_sub_right hnow W).trans_lt hstart)

/-- **The sliding-window bound.** No window has more granted requests than the limit. -/
theorem Counted.granted_le {limit : ℤ} {requests : List (Arrival T)} (h : Counted W limit requests)
    (e : T) : (grantedIn W e requests : ℤ) ≤ max limit 0 := by
  induction requests with
  | nil => exact le_max_right _ _
  | cons r past ih =>
    obtain ⟨hgranted, -, hpast⟩ := h
    by_cases hr : r.granted = true ∧ InWindow W e r.time
    · -- the latest granted request of the window counts all of them
      have hcount : grantedIn W e (r :: past) = grantedIn W e past + 1 := by
        simp [grantedIn, hr]
      have hle : grantedIn W e past ≤ (recent W r.time (past.map Arrival.time)).length :=
        grantedIn_le_recent hr.2.2 past
      have hlimit := hgranted.mp hr.1
      have : (grantedIn W e (r :: past) : ℤ) ≤ limit := by omega
      exact this.trans (le_max_left _ _)
    · have hcount : grantedIn W e (r :: past) = grantedIn W e past := by
        rw [grantedIn, grantedIn, countP_cons, if_neg (by simpa using hr), add_zero]
      rw [hcount]
      exact ih hpast

omit [IsOrderedAddMonoid T] in
theorem Counted.le_of_refused {limit : ℤ} {after past : List (Arrival T)} {r : Arrival T}
    (h : Counted W limit (after ++ r :: past)) (hr : r.granted = false) :
    limit ≤ past.countP fun p => InWindow W r.time p.time := by
  induction after with
  | cons a after ih => exact ih h.2.2
  | nil =>
    obtain ⟨hgranted, hpast, -⟩ := h
    have hfull : ¬ ((recent W r.time (past.map Arrival.time)).length : ℤ) + 1 ≤ limit := by
      rw [← hgranted, hr]
      nofun
    have hcount : past.countP (fun p => InWindow W r.time p.time) =
        (recent W r.time (past.map Arrival.time)).length := by
      rw [recent, ← countP_eq_length_filter, countP_map]
      refine countP_congr fun p hp => ?_
      simp [InWindow, hpast p hp]
    omega

end IsaUser
