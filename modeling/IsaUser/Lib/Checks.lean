import Mathlib.Data.List.Forall2

/-!
# Checks That Raise

A request that is served at once is a function that raises an exception or returns: it looks for
what it needs and checks what it must. What a result says about the checks is read off one check at
a time.

## Main results

* `bind_eq_ok_iff`: a sequence returns just if its first part does and its rest.
* `orRaise_eq_ok_iff`, `check_eq_ok_iff`: when a single check passes.
* `mapM_eq_ok_iff`: a loop returns just if it does for each item.
-/

open List

namespace IsaUser

variable {ε : Type*} {α β : Type} {x : Except ε α} {f : α → Except ε β} {b : β} {e : ε} {l : List α}

def orRaise (found : Option α) (e : ε) : Except ε α := found.elim (.error e) .ok

/-- Raise an exception unless `p` holds. -/
def check (p : Prop) [Decidable p] (e : ε) : Except ε Unit := if p then .ok () else .error e

theorem bind_eq_ok_iff : x >>= f = .ok b ↔ ∃ a, x = .ok a ∧ f a = .ok b := by
  cases x with
  | error e => simp [bind, Except.bind]
  | ok a => simp [bind, Except.bind]

theorem orRaise_eq_ok_iff {found : Option α} {a : α} :
    orRaise found e = .ok a ↔ found = some a := by
  cases found <;> simp [orRaise]

theorem check_eq_ok_iff {p : Prop} [Decidable p] {u : Unit} : check p e = .ok u ↔ p := by
  by_cases hp : p <;> simp [check]

theorem pure_eq_ok_iff {a b : α} : (pure a : Except ε α) = .ok b ↔ a = b := by
  simp [pure, Except.pure]

theorem map_snd_eq_ok_iff {x : Except ε (α × β)} :
    Prod.snd <$> x = .ok b ↔ ∃ a, x = .ok (a, b) := by
  cases x with
  | error e => simp [Functor.map, Except.map]
  | ok p => simp [Functor.map, Except.map, Prod.ext_iff]

/-! ### Loops -/

theorem mapM_eq_ok_iff {r : List β} :
    l.mapM f = .ok r ↔ List.Forall₂ (fun a b => f a = .ok b) l r := by
  induction l generalizing r with
  | nil => rw [mapM_nil, pure_eq_ok_iff, forall₂_nil_left_iff, eq_comm]
  | cons a l ih =>
    simp only [mapM_cons, bind_eq_ok_iff, pure_eq_ok_iff, ih, forall₂_cons_left_iff]
    constructor
    · rintro ⟨b, hb, r, hr, rfl⟩
      exact ⟨b, r, hb, hr, rfl⟩
    · rintro ⟨b, r, hb, hr, rfl⟩
      exact ⟨b, hb, r, hr, rfl⟩

theorem exists_of_mem_mapM {r : List β} (h : l.mapM f = .ok r) (hb : b ∈ r) :
    ∃ a ∈ l, f a = .ok b := by
  rw [mapM_eq_ok_iff] at h
  induction h with
  | nil => exact nomatch hb
  | cons ha _ ih =>
    rcases mem_cons.mp hb with rfl | hb
    · exact ⟨_, mem_cons_self, ha⟩
    · obtain ⟨a, hmem, ha⟩ := ih hb
      exact ⟨a, mem_cons_of_mem _ hmem, ha⟩

theorem exists_mapM_eq_ok_iff : (∃ r, l.mapM f = .ok r) ↔ ∀ a ∈ l, ∃ b, f a = .ok b := by
  simp only [mapM_eq_ok_iff]
  induction l with
  | nil => simp
  | cons a l ih =>
    simp only [forall₂_cons_left_iff, forall_mem_cons, ← ih]
    constructor
    · rintro ⟨-, b, r, hb, hr, rfl⟩
      exact ⟨⟨b, hb⟩, r, hr⟩
    · rintro ⟨⟨b, hb⟩, r, hr⟩
      exact ⟨b :: r, b, r, hb, hr, rfl⟩

end IsaUser
