import IsaUser.Lib.Pool
import Mathlib.Algebra.Order.BigOperators.Group.Finset

/-!
# What Is Won Once

The calls of a kind that programs make are counted over any set of programs: `CalledOnce` says that
there is one at most. A call wins a key if it finds it unused and leaves it used, and a key that is
used stays used. So in every run each key is won once at most, whoever tries, and in whatever order.

## Main results

* `Pool.Reach.calledOnce`: calls that find a state unused and leave it used are made once.
* `CalledOnce.of_le`, `CalledOnce.or`: what is done no more often than something else, and what is
  done in one of two ways.
* `Pool.Reach.won_once`: two calls that won the same key are calls of one program, and the same.
-/

open List

namespace IsaUser

variable {I : Interface} {ε α : Type} {σ ι κ : Type*}

/-- A call that wins a key finds it unused and leaves it used, and what is used stays used. -/
structure OneTime (h : Handler I σ) (used : σ → κ → Prop) (wins : σ × I.Call → κ → Prop) :
    Prop where
  unused : ∀ {s c k}, wins (s, c) k → ¬used s k
  marks : ∀ {s c k}, wins (s, c) k → used (h c s).2 k
  keeps : ∀ {s c k}, used s k → used (h c s).2 k

theorem forall_mem_update [DecidableEq ι] {past : ι → Past I σ} {i : ι} {e : σ × I.Call}
    {P : ι → σ × I.Call → Prop} (hpast : ∀ j, ∀ e ∈ past j, P j e) (he : P i e) (j : ι) :
    ∀ e' ∈ Function.update past i (e :: past i) j, P j e' :=
  Pool.forall_mem_past_update.mpr ⟨he, hpast⟩ j

theorem Pool.Reach.keeps_past [DecidableEq ι] {h : Handler I σ} {env : σ → σ → Prop}
    {A : ι → (ι → Past I σ) → σ → I.Call → Prop} {pool₀ pool : Pool I ε α ι σ}
    (hpool : Pool.Reach h env A pool₀ pool) {J : σ → (ι → Past I σ) → Prop}
    (h₀ : J pool₀.state pool₀.past) (henv : ∀ s s' past, env s s' → J s past → J s' past)
    (hcall : ∀ i past s c, A i past s c → J s past →
      J (h c s).2 (Function.update past i ((s, c) :: past i))) : J pool.state pool.past := by
  induction hpool with
  | start => exact h₀
  | env _ hs ih => exact henv _ _ _ hs ih
  | @step pool i _ hA ih =>
    rw [advance]
    split
    · exact ih
    · exact ih
    · next c k hck => exact hcall i _ _ c (hA c k hck) ih

/-! ### What is called once -/

section Once

variable {past : ι → Past I σ} {P Q : σ × I.Call → Prop} [DecidablePred P] [DecidablePred Q]
  {S : Finset ι}

def callsOf (past : ι → Past I σ) (P : σ × I.Call → Prop) [DecidablePred P] (S : Finset ι) : ℕ :=
  ∑ i ∈ S, (past i).countP fun e => P e

/-- Whichever programs are looked at, they made one call of a kind at most. -/
def CalledOnce (past : ι → Past I σ) (P : σ × I.Call → Prop) [DecidablePred P] : Prop :=
  ∀ S : Finset ι, callsOf past P S ≤ 1

theorem callsOf_mono {S' : Finset ι} (h : S ⊆ S') : callsOf past P S ≤ callsOf past P S' :=
  Finset.sum_le_sum_of_subset h

theorem callsOf_eq_zero (h : ∀ i, ∀ e ∈ past i, ¬P e) : callsOf past P S = 0 :=
  Finset.sum_eq_zero fun i _ => countP_eq_zero.mpr fun e he => by simpa using h i e he

theorem exists_of_callsOf_pos (h : 0 < callsOf past P S) : ∃ i, ∃ e ∈ past i, P e := by
  by_contra hnot
  push Not at hnot
  exact h.ne' (callsOf_eq_zero hnot)

theorem callsOf_update [DecidableEq ι] {i : ι} {e : σ × I.Call} :
    callsOf (Function.update past i (e :: past i)) P S =
      callsOf past P S + if i ∈ S ∧ P e then 1 else 0 := by
  have hrest : ∀ S' : Finset ι, i ∉ S' →
      callsOf (Function.update past i (e :: past i)) P S' = callsOf past P S' := fun S' hi =>
    Finset.sum_congr rfl fun j hj => by
      rw [Function.update_of_ne]
      rintro rfl
      exact hi hj
  by_cases hi : i ∈ S
  · have herase := hrest (S.erase i) (Finset.notMem_erase i S)
    rw [callsOf] at herase ⊢
    rw [← Finset.sum_erase_add _ _ hi, herase, Function.update_self, countP_cons, callsOf,
      callsOf, ← Finset.sum_erase_add _ (fun j => (past j).countP fun e => P e) hi]
    simp [hi, add_assoc]
  · rw [hrest S hi]
    simp [hi]

theorem CalledOnce.of_le (hQ : CalledOnce past Q)
    (h : ∀ i, ((past i).countP fun e => P e) ≤ (past i).countP fun e => Q e) :
    CalledOnce past P :=
  fun S => (Finset.sum_le_sum fun i _ => h i).trans (hQ S)

theorem callsOf_or_le :
    callsOf past (fun e => P e ∨ Q e) S ≤ callsOf past P S + callsOf past Q S := by
  rw [callsOf, callsOf, callsOf, ← Finset.sum_add_distrib]
  refine Finset.sum_le_sum fun i _ => ?_
  induction past i with
  | nil => simp
  | cons e past ih =>
    have hhead : (if P e ∨ Q e then 1 else 0) ≤
        (if P e then 1 else 0) + if Q e then 1 else 0 := by
      by_cases hPe : P e <;> by_cases hQe : Q e <;> simp [hPe]
    simp only [countP_cons, decide_eq_true_eq]
    omega

theorem CalledOnce.or (hP : CalledOnce past P) (hQ : CalledOnce past Q)
    (h : ¬((∃ i, ∃ e ∈ past i, P e) ∧ ∃ i, ∃ e ∈ past i, Q e)) :
    CalledOnce past fun e => P e ∨ Q e := by
  intro S
  have hsum : callsOf past (fun e => P e ∨ Q e) S ≤ callsOf past P S + callsOf past Q S :=
    callsOf_or_le
  rcases Nat.eq_zero_or_pos (callsOf past P S) with hzero | hpos
  · have := hQ S
    omega
  · have hnone : callsOf past Q S = 0 := by
      refine callsOf_eq_zero fun i e he hQe => ?_
      exact h ⟨exists_of_callsOf_pos hpos, i, e, he, hQe⟩
    have := hP S
    omega

variable [DecidableEq ι]

theorem CalledOnce.eq (hP : CalledOnce past P) {i j : ι} {e e' : σ × I.Call} (he : e ∈ past i)
    (he' : e' ∈ past j) (h : P e) (h' : P e') : i = j ∧ e = e' := by
  have hi : 0 < (past i).countP fun e => P e := countP_pos_iff.mpr ⟨e, he, by simpa using h⟩
  have hj : 0 < (past j).countP fun e => P e := countP_pos_iff.mpr ⟨e', he', by simpa using h'⟩
  rcases eq_or_ne i j with rfl | hne
  · refine ⟨rfl, ?_⟩
    have hone := hP {i}
    rw [callsOf, Finset.sum_singleton, countP_eq_length_filter] at hone
    have hmem : e ∈ (past i).filter fun e => P e := mem_filter.mpr ⟨he, by simpa using h⟩
    have hmem' : e' ∈ (past i).filter fun e => P e := mem_filter.mpr ⟨he', by simpa using h'⟩
    cases hfilter : (past i).filter fun e => P e with
    | nil => simp [hfilter] at hmem
    | cons a rest =>
      rw [hfilter, length_cons] at hone
      obtain rfl : rest = [] := length_eq_zero_iff.mp (by omega)
      rw [hfilter, mem_singleton] at hmem hmem'
      rw [hmem, hmem']
  · have hone := hP {i, j}
    rw [callsOf, Finset.sum_pair hne] at hone
    omega

theorem Pool.Reach.calledOnce {h : Handler I σ} {env : σ → σ → Prop}
    {A : ι → (ι → Past I σ) → σ → I.Call → Prop} {s : σ} {ps : ι → Prog I ε α}
    {pool : Pool I ε α ι σ} (hpool : Pool.Reach h env A (Pool.start s ps) pool) {K : I.Call → Prop}
    (hK : ∀ i, (ps i).Only K) {used : σ → Prop} (hunused : ∀ s c, P (s, c) → ¬used s)
    (hmarks : ∀ s c, P (s, c) → used (h c s).2)
    (hkeeps : ∀ s c, K c → used s → used (h c s).2) (henv : ∀ s s', env s s' → used s → used s') :
    CalledOnce pool.past P := by
  have hall : (used pool.state ∧ CalledOnce pool.past P) ∨ ∀ i, ∀ e ∈ pool.past i, ¬P e := by
    induction hpool with
    | start => exact .inr fun _ _ he => absurd he not_mem_nil
    | env _ hs ih => exact ih.imp_left fun h => ⟨henv _ _ hs h.1, h.2⟩
    | @step pool i hreach _ ih =>
      have hi := hreach.only hK i
      rw [advance]
      split
      · exact ih
      · exact ih
      · next c k hck =>
          rw [hck] at hi
          by_cases hP : P (pool.state, c)
          · -- The state was unused, so this call is the first of its kind.
            refine .inl ⟨hmarks _ _ hP, fun S => ?_⟩
            have hnone : ∀ i, ∀ e ∈ pool.past i, ¬P e :=
              ih.resolve_left fun h => hunused _ _ hP h.1
            rw [callsOf_update, callsOf_eq_zero hnone]
            split <;> omega
          · refine ih.imp (fun h => ⟨hkeeps _ _ hi.1 h.1, fun S => ?_⟩) fun h =>
              forall_mem_update h hP
            rw [callsOf_update, if_neg fun h => hP h.2]
            exact h.2 S
  rcases hall with ⟨-, honce⟩ | hnone
  · exact honce
  · intro S
    rw [callsOf_eq_zero hnone]
    exact Nat.zero_le 1

theorem Pool.Reach.won_once {h : Handler I σ} {env : σ → σ → Prop}
    {A : ι → (ι → Past I σ) → σ → I.Call → Prop} {s : σ} {ps : ι → Prog I ε α}
    {pool : Pool I ε α ι σ} {used : σ → κ → Prop} {wins : σ × I.Call → κ → Prop}
    (hpool : Pool.Reach h env A (Pool.start s ps) pool) (hone : OneTime h used wins)
    (henv : ∀ s s' k, env s s' → used s k → used s' k) {i j : ι} {e e' : σ × I.Call} {k : κ}
    (he : e ∈ pool.past i) (he' : e' ∈ pool.past j) (hwins : wins e k) (hwins' : wins e' k) :
    i = j ∧ e = e' := by
  classical
  have honce : CalledOnce pool.past fun e => wins e k :=
    hpool.calledOnce (K := fun _ => True)
      (fun i => Prog.only_of_forall (ps i) fun _ => trivial) (fun _ _ => hone.unused)
      (fun _ _ => hone.marks) (fun _ _ _ => hone.keeps) fun s s' hs => henv s s' k hs
  exact honce.eq he he' hwins hwins'

end Once

end IsaUser
