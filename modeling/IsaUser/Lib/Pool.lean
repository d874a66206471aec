import IsaUser.Lib.Prog
import Mathlib.Algebra.BigOperators.Group.Finset.Basic
import Mathlib.Data.Fintype.Basic
import Mathlib.Tactic.Abel

/-!
# Programs in Parallel

Any number of programs, `ι`-indexed, work on one store. A step lets one of them make its
next call; between two calls of a program the others, and an environment, may do what
they like. `Pool` is a configuration of such a system and `Pool.Reach` its reachable
configurations, where every call made satisfies a condition on the state it finds.

A configuration remembers the past of each program: its calls, latest first, each with
the state it found. A statement about what a program has done so far, or about all it has
done when it ends, is a statement about its past.

## Main results

* `Pool.Reach.sound`: programs that are sound one by one are sound together.
* `Pool.Reach.measure_eq`: a measure of the store is its first value and the sum of what
  the calls added.
-/

open Function

namespace IsaUser

open Finset

instance neZero_one : NeZero 1 := ⟨one_ne_zero⟩

instance neZero_two : NeZero 2 := ⟨two_ne_zero⟩

instance neZero_three : NeZero 3 := ⟨three_ne_zero⟩

instance neZero_four : NeZero 4 := ⟨four_ne_zero⟩

variable {I : Interface} {ε ε' α β : Type} {σ ι : Type*}

abbrev Past (I : Interface) (σ : Type*) := List (σ × I.Call)

/-- A store with programs working on it. -/
structure Pool (I : Interface) (ε α : Type) (ι σ : Type*) where
  /-- The store. -/
  state : σ
  /-- What remains of each program. -/
  progs : ι → Prog I ε α
  /-- What each program has done. -/
  past : ι → Past I σ

namespace Pool

/-- The programs `ps`, none of which has started. -/
def start (s : σ) (ps : ι → Prog I ε α) : Pool I ε α ι σ :=
  ⟨s, ps, fun _ => []⟩

variable [DecidableEq ι] {A : ι → (ι → Past I σ) → σ → I.Call → Prop} {pool : Pool I ε α ι σ}
  {env : σ → σ → Prop} {pool₀ : Pool I ε α ι σ} {h : Handler I σ}

/-- Program `i` makes its next call, if it has one. -/
def advance (h : Handler I σ) (i : ι) (pool : Pool I ε α ι σ) : Pool I ε α ι σ :=
  match pool.progs i with
  | .ret _ => pool
  | .raise _ => pool
  | .call c k =>
    { state := (h c pool.state).2
      progs := Function.update pool.progs i (k (h c pool.state).1)
      past := Function.update pool.past i ((pool.state, c) :: pool.past i) }

def schedule (h : Handler I σ) (order : List ι) (pool : Pool I ε α ι σ) :
    Pool I ε α ι σ :=
  order.foldl (fun pool i => pool.advance h i) pool

/-- The configurations reached from `pool₀` when the environment acts by `env` and every
call that program `i` makes satisfies `A i`, a condition on what all programs have done,
the state and the call. -/
inductive Reach (h : Handler I σ) (env : σ → σ → Prop)
    (A : ι → (ι → Past I σ) → σ → I.Call → Prop) (pool₀ : Pool I ε α ι σ) :
    Pool I ε α ι σ → Prop where
  | start : Reach h env A pool₀ pool₀
  | env {pool : Pool I ε α ι σ} {s : σ} : Reach h env A pool₀ pool →
      env pool.state s → Reach h env A pool₀ { pool with state := s }
  | step {pool : Pool I ε α ι σ} (i : ι) : Reach h env A pool₀ pool →
      (∀ c k, pool.progs i = .call c k → A i pool.past pool.state c) →
      Reach h env A pool₀ (pool.advance h i)

abbrev anyCall : ι → (ι → Past I σ) → σ → I.Call → Prop := fun _ _ _ _ => True

/-- The call that program `i` makes next. -/
def next? (pool : Pool I ε α ι σ) (i : ι) : Option I.Call :=
  match pool.progs i with
  | .ret _ => none
  | .raise _ => none
  | .call c _ => some c

/-- Programs advance in a given order, and every call meets `A`. -/
def Permitted (h : Handler I σ) (A : ι → (ι → Past I σ) → σ → I.Call → Prop) :
    List ι → Pool I ε α ι σ → Prop
  | [], _ => True
  | i :: order, pool =>
    (∀ c ∈ pool.next? i, A i pool.past pool.state c) ∧
      Permitted h A order (pool.advance h i)

instance Permitted.decidable (h : Handler I σ)
    (A : ι → (ι → Past I σ) → σ → I.Call → Prop)
    [∀ i past s c, Decidable (A i past s c)] :
    (order : List ι) → (pool : Pool I ε α ι σ) → Decidable (Permitted h A order pool)
  | [], _ => .isTrue trivial
  | i :: order, pool =>
    have := Permitted.decidable h A order (pool.advance h i)
    inferInstanceAs (Decidable ((∀ c ∈ pool.next? i, _) ∧ Permitted h A order _))

theorem permitted_anyCall (h : Handler I σ) (order : List ι) (pool : Pool I ε α ι σ) :
    Permitted h anyCall order pool := by
  induction order generalizing pool with
  | nil => trivial
  | cons i order ih => exact ⟨fun _ _ => trivial, ih _⟩

theorem Reach.schedule (hpool : Reach h env A pool₀ pool) {order : List ι}
    (horder : Permitted h A order pool) : Reach h env A pool₀ (pool.schedule h order) := by
  induction order generalizing pool with
  | nil => exact hpool
  | cons i order ih =>
    refine ih (hpool.step i fun c k hck => horder.1 c ?_) horder.2
    rw [next?, hck]
    rfl

theorem Reach.mono {A' : ι → (ι → Past I σ) → σ → I.Call → Prop} (hpool : Reach h env A pool₀ pool)
    (hA : ∀ i past s c, A i past s c → A' i past s c) : Reach h env A' pool₀ pool := by
  induction hpool with
  | start => exact .start
  | env _ hs ih => exact ih.env hs
  | step i _ hc ih => exact ih.step i fun c k hck => hA _ _ _ _ (hc c k hck)

theorem Reach.trans {pool' : Pool I ε α ι σ} (hpool : Reach h env A pool₀ pool)
    (hpool' : Reach h env A pool pool') : Reach h env A pool₀ pool' := by
  induction hpool' with
  | start => exact hpool
  | env _ hs ih => exact ih.env hs
  | step i _ hc ih => exact ih.step i hc

theorem Reach.only (hpool : Reach h env A pool₀ pool) {P : ι → I.Call → Prop}
    (h₀ : ∀ i, (pool₀.progs i).Only (P i)) (i : ι) : (pool.progs i).Only (P i) := by
  induction hpool with
  | start => exact h₀ i
  | env _ _ ih => exact ih
  | @step pool j _ _ ih =>
    rw [advance]
    split
    · exact ih
    · exact ih
    · next c k hck =>
        rcases eq_or_ne i j with rfl | hj
        · rw [hck] at ih
          simpa using ih.2 _
        · simpa [hj] using ih

theorem Reach.keeps (hpool : Reach h env A pool₀ pool) {P : ι → I.Call → Prop}
    (h₀ : ∀ i, (pool₀.progs i).Only (P i)) {J : σ → Prop} (hJ₀ : J pool₀.state)
    (henv : ∀ s s', env s s' → J s → J s') (hcall : ∀ i c s, P i c → J s → J (h c s).2) :
    J pool.state := by
  induction hpool with
  | start => exact hJ₀
  | env _ hs ih => exact henv _ _ hs ih
  | @step pool i hreach _ ih =>
    have hi := hreach.only h₀ i
    rw [advance]
    split
    · exact ih
    · exact ih
    · next c k hck =>
        rw [hck] at hi
        exact hcall i c _ hi.1 ih

theorem forall_mem_past_update {past : ι → Past I σ} {i : ι} {e : σ × I.Call}
    {P : ι → σ × I.Call → Prop} :
    (∀ j, ∀ e' ∈ Function.update past i (e :: past i) j, P j e') ↔
      P i e ∧ ∀ j, ∀ e' ∈ past j, P j e' := by
  constructor
  · intro h
    refine ⟨h i e (by simp), fun j e' he' => h j e' ?_⟩
    rcases eq_or_ne j i with rfl | hj
    · rw [update_self]
      exact List.mem_cons_of_mem _ he'
    · rwa [update_of_ne hj]
  · rintro ⟨he, hpast⟩ j e' he'
    rcases eq_or_ne j i with rfl | hj
    · rw [update_self] at he'
      rcases List.mem_cons.mp he' with rfl | he'
      · exact he
      · exact hpast j e' he'
    · rw [update_of_ne hj] at he'
      exact hpast j e' he'

theorem Reach.always_iff (hpool : Reach h (fun _ _ => False) A pool₀ pool)
    (hnew : ∀ i, pool₀.past i = []) {P : σ → Prop} {C : σ → I.Call → Prop} (hP : P pool₀.state)
    (hstep : ∀ s c, P s → (P (h c s).2 ↔ C s c)) :
    (P pool.state ∧ ∀ i, ∀ e ∈ pool.past i, P e.1) ↔ ∀ i, ∀ e ∈ pool.past i, C e.1 e.2 := by
  induction hpool with
  | start => simp [hnew, hP]
  | env _ hs => exact hs.elim
  | @step pool i hreach _ ih =>
    rw [advance]
    split
    · exact ih
    · exact ih
    · next c k hck =>
        rw [forall_mem_past_update, forall_mem_past_update]
        constructor
        · rintro ⟨hnext, hs, hpast⟩
          exact ⟨(hstep _ c hs).mp hnext, ih.mp ⟨hs, hpast⟩⟩
        · rintro ⟨hc, hcalls⟩
          obtain ⟨hs, hpast⟩ := ih.mpr hcalls
          exact ⟨(hstep _ c hs).mpr hc, hs, hpast⟩

theorem Reach.progs_of_past_nil {s : σ} {ps : ι → Prog I ε α}
    (hpool : Reach h env A (Pool.start s ps) pool) {i : ι} (hpast : pool.past i = []) :
    pool.progs i = ps i := by
  induction hpool with
  | start => rfl
  | env _ _ ih => exact ih hpast
  | @step pool j _ _ ih =>
    rw [advance] at hpast ⊢
    split at hpast
    · next hj => simpa [hj] using ih hpast
    · next hj => simpa [hj] using ih hpast
    · next c k hj =>
        rcases eq_or_ne i j with rfl | hne
        · simp at hpast
        · simp only [update_of_ne hne] at hpast ⊢
          exact ih hpast

theorem Reach.past_of_ret (hpool : Reach h env A pool₀ pool) {i : ι} {a : α}
    (hi : pool₀.progs i = .ret a) : pool.progs i = .ret a ∧ pool.past i = pool₀.past i := by
  induction hpool with
  | start => exact ⟨hi, rfl⟩
  | env _ _ ih => exact ih
  | @step pool j _ _ ih =>
    rw [advance]
    split
    · exact ih
    · exact ih
    · next c k hj =>
        have hne : i ≠ j := by
          rintro rfl
          exact absurd (ih.1.symm.trans hj) nofun
        simpa [hne] using ih

/-- Programs that make at most `n` calls of a kind have made no more. -/
theorem Reach.countP_le {s : σ} {ps : ι → Prog I ε α} (hpool : Reach h env A (Pool.start s ps) pool)
    {P : I.Call → Prop} [DecidablePred P] {n : ℕ} (h₀ : ∀ i, (ps i).AtMost P n) (i : ι) :
    (pool.past i).countP (fun e => P e.2) ≤ n := by
  have hleft : ∃ m, (pool.progs i).AtMost P m ∧ (pool.past i).countP (fun e => P e.2) + m ≤ n := by
    induction hpool with
    | start => exact ⟨n, h₀ i, by simp [Pool.start]⟩
    | env _ _ ih => exact ih
    | @step pool j _ _ ih =>
      rw [advance]
      split
      · exact ih
      · exact ih
      · next c k hck =>
          rcases eq_or_ne i j with rfl | hj
          · obtain ⟨m, hm, hcount⟩ := ih
            rw [hck, Prog.AtMost] at hm
            simp only [update_self]
            split at hm
            · next hc => exact ⟨m - 1, hm.2 _, by simp [hc]; omega⟩
            · next hc => exact ⟨m, hm _, by simpa [hc] using hcount⟩
          · simpa [hj] using ih
  omega

end Pool

/-! ### Soundness of one program -/

/-- What programs sharing a store rely on: the invariant `inv` of every state, and the
relation `rel` between a state and a later one. -/
structure Terms (σ : Type*) where
  /-- The invariant. -/
  inv : σ → Prop
  /-- What others may do. -/
  rel : σ → σ → Prop
  rel_refl : ∀ s, rel s s
  rel_trans : ∀ {s₁ s₂ s₃}, rel s₁ s₂ → rel s₂ s₃ → rel s₁ s₃

def Terms.ofInv (inv : σ → Prop) : Terms σ where
  inv := inv
  rel _ _ := True
  rel_refl _ := trivial
  rel_trans _ _ := trivial

namespace Prog

variable (T : Terms σ) (h : Handler I σ) (A G : Past I σ → σ → I.Call → Prop)

/-- From the state `s`, with `past` behind it and others acting by `T`, a program makes only
calls that meet `G` and ends in an outcome that meets `Q`, as long as its earlier calls
met `A`. -/
def Sound (Q : Except ε α → Past I σ → σ → Prop) : Prog I ε α → Past I σ → σ → Prop
  | ret a, past, s => ∀ s', T.rel s s' → T.inv s' → Q (.ok a) past s'
  | raise e, past, s => ∀ s', T.rel s s' → T.inv s' → Q (.error e) past s'
  | call c k, past, s => ∀ s', T.rel s s' → T.inv s' → G past s' c ∧
      (A past s' c → (k (h c s').1).Sound Q ((s', c) :: past) (h c s').2)

variable {T h A G} {Q : Except ε α → Past I σ → σ → Prop} {past : Past I σ} {s : σ}

@[simp] theorem sound_call {c : I.Call} {k : I.Reply c → Prog I ε α} :
    (call c k).Sound T h A G Q past s ↔ ∀ s', T.rel s s' → T.inv s' → G past s' c ∧
      (A past s' c → (k (h c s').1).Sound T h A G Q ((s', c) :: past) (h c s').2) :=
  Iff.rfl

theorem sound_ret {a : α} (hQ : ∀ s', T.rel s s' → T.inv s' → Q (.ok a) past s') :
    (ret a : Prog I ε α).Sound T h A G Q past s := hQ

theorem sound_raise {e : ε} (hQ : ∀ s', T.rel s s' → T.inv s' → Q (.error e) past s') :
    (raise e : Prog I ε α).Sound T h A G Q past s := hQ

theorem Sound.of_rel {p : Prog I ε α} (hp : p.Sound T h A G Q past s) {s' : σ}
    (hs : T.rel s s') : p.Sound T h A G Q past s' := by
  cases p with
  | ret a => exact fun s'' h' => hp s'' (T.rel_trans hs h')
  | raise e => exact fun s'' h' => hp s'' (T.rel_trans hs h')
  | call c k => exact fun s'' h' => hp s'' (T.rel_trans hs h')

theorem sound_of_later {p : Prog I ε α}
    (hp : ∀ s', T.rel s s' → T.inv s' → p.Sound T h A G Q past s') :
    p.Sound T h A G Q past s := by
  cases p with
  | ret a => exact fun s' hs hi => hp s' hs hi s' (T.rel_refl s') hi
  | raise e => exact fun s' hs hi => hp s' hs hi s' (T.rel_refl s') hi
  | call c k => exact fun s' hs hi => hp s' hs hi s' (T.rel_refl s') hi

theorem Sound.bind {p : Prog I ε α} {f : α → Prog I ε β}
    {Q' : Except ε β → Past I σ → σ → Prop} (hp : p.Sound T h A G Q past s)
    (hok : ∀ a past s, Q (.ok a) past s → (f a).Sound T h A G Q' past s)
    (herror : ∀ e past s, Q (.error e) past s → Q' (.error e) past s) :
    (p >>= f).Sound T h A G Q' past s := by
  induction p generalizing past s with
  | ret a => exact sound_of_later fun s' hs hi => hok a past s' (hp s' hs hi)
  | raise e => exact fun s' hs hi => herror e past s' (hp s' hs hi)
  | call c k ih =>
    intro s' hs hi
    obtain ⟨hG, hk⟩ := hp s' hs hi
    exact ⟨hG, fun hA => ih _ (hk hA)⟩

theorem Sound.tryCatch {p : Prog I ε α} {f : ε → Prog I ε' α}
    {Q' : Except ε' α → Past I σ → σ → Prop} (hp : p.Sound T h A G Q past s)
    (hok : ∀ a past s, Q (.ok a) past s → Q' (.ok a) past s)
    (herror : ∀ e past s, Q (.error e) past s → (f e).Sound T h A G Q' past s) :
    (p.tryCatch f).Sound T h A G Q' past s := by
  induction p generalizing past s with
  | ret a => exact fun s' hs hi => hok a past s' (hp s' hs hi)
  | raise e => exact sound_of_later fun s' hs hi => herror e past s' (hp s' hs hi)
  | call c k ih =>
    intro s' hs hi
    obtain ⟨hG, hk⟩ := hp s' hs hi
    exact ⟨hG, fun hA => ih _ (hk hA)⟩

/-- Cleaning up: `q` is sound from wherever `p` ends, and raises what `p` raised unless it
raises itself. -/
theorem Sound.tryFinally {p : Prog I ε α} {q : Prog I ε Unit}
    {Q' : Except ε α → Past I σ → σ → Prop} (hp : p.Sound T h A G Q past s)
    (hq : ∀ r past s, Q r past s → q.Sound T h A G (fun r' past s =>
      match r' with
      | .ok _ => Q' r past s
      | .error e => Q' (.error e) past s) past s)
    (hQ' : ∀ r past s s', T.rel s s' → Q' r past s → Q' r past s') :
    (p.tryFinally q).Sound T h A G Q' past s := by
  refine Sound.bind (Q := fun r past s =>
    Except.rec (motive := fun _ => Prop) (fun e => Q' (.error e) past s)
      (fun a => Q (.ok a) past s) r) (hp.tryCatch (fun _ _ _ h => h) ?_) ?_ fun _ _ _ h => h
  · intro e past s hQ
    exact (hq (.error e) past s hQ).bind
      (fun _ past s h s' hs _ => hQ' _ past s s' hs h) fun _ _ _ h => h
  · intro a past s hQ
    exact (hq (.ok a) past s hQ).bind
      (fun _ past s h s' hs _ => hQ' _ past s s' hs h) fun _ _ _ h => h

theorem Sound.mono {p : Prog I ε α} {Q' : Except ε α → Past I σ → σ → Prop}
    (hp : p.Sound T h A G Q past s) (hQ : ∀ r past s, Q r past s → Q' r past s) :
    p.Sound T h A G Q' past s := by
  induction p generalizing past s with
  | ret a => exact fun s' hs hi => hQ _ _ _ (hp s' hs hi)
  | raise e => exact fun s' hs hi => hQ _ _ _ (hp s' hs hi)
  | call c k ih =>
    intro s' hs hi
    obtain ⟨hG, hk⟩ := hp s' hs hi
    exact ⟨hG, fun hA => ih _ (hk hA)⟩

theorem Sound.and {p : Prog I ε α} {Q' : Except ε α → Past I σ → σ → Prop}
    (hp : p.Sound T h A G Q past s) (hp' : p.Sound T h A G Q' past s) :
    p.Sound T h A G (fun r past s => Q r past s ∧ Q' r past s) past s := by
  induction p generalizing past s with
  | ret a => exact fun s' hs hi => ⟨hp s' hs hi, hp' s' hs hi⟩
  | raise e => exact fun s' hs hi => ⟨hp s' hs hi, hp' s' hs hi⟩
  | call c k ih =>
    intro s' hs hi
    obtain ⟨hG, hrest⟩ := hp s' hs hi
    exact ⟨hG, fun hA => ih _ (hrest hA) ((hp' s' hs hi).2 hA)⟩

theorem Sound.mono_promise {G' : Past I σ → σ → I.Call → Prop} {p : Prog I ε α}
    (hp : p.Sound T h A G Q past s) (hG : ∀ past s c, G past s c → G' past s c) :
    p.Sound T h A G' Q past s := by
  induction p generalizing past s with
  | ret a => exact hp
  | raise e => exact hp
  | call c k ih =>
    intro s' hs hi
    obtain ⟨hGc, hk⟩ := hp s' hs hi
    exact ⟨hG _ _ _ hGc, fun hA => ih _ (hk hA)⟩

theorem Sound.later {p : Prog I ε α} (hp : p.Sound T h A G Q past s)
    (hkeeps : ∀ past s c, T.inv s → A past s c → G past s c → T.rel s (h c s).2) :
    p.Sound T h A G (fun r past' s' => Q r past' s' ∧ T.rel s s') past s := by
  have hfrom : ∀ {s₀}, T.rel s₀ s →
      p.Sound T h A G (fun r past' s' => Q r past' s' ∧ T.rel s₀ s') past s := by
    induction p generalizing past s with
    | ret a => exact fun h₀ s' hs hi => ⟨hp s' hs hi, T.rel_trans h₀ hs⟩
    | raise e => exact fun h₀ s' hs hi => ⟨hp s' hs hi, T.rel_trans h₀ hs⟩
    | call c k ih =>
      intro s₀ h₀ s' hs hi
      obtain ⟨hG, hk⟩ := hp s' hs hi
      refine ⟨hG, fun hA => ih _ (hk hA) ?_⟩
      exact T.rel_trans (T.rel_trans h₀ hs) (hkeeps past s' c hi hA hG)
  exact hfrom (T.rel_refl s)

theorem Sound.frame {p : Prog I ε α} {P : σ → Prop} (hp : p.Sound T h A G Q past s)
    (hP : P s) (hrel : ∀ {s s'}, T.rel s s' → P s → P s')
    (hkeeps : ∀ past s c, T.inv s → G past s c → T.rel s (h c s).2) :
    p.Sound T h A G (fun r past s => Q r past s ∧ P s) past s := by
  induction p generalizing past s with
  | ret a => exact fun s' hs hi => ⟨hp s' hs hi, hrel hs hP⟩
  | raise e => exact fun s' hs hi => ⟨hp s' hs hi, hrel hs hP⟩
  | call c k ih =>
    intro s' hs hi
    obtain ⟨hG, hk⟩ := hp s' hs hi
    exact ⟨hG, fun hA => ih _ (hk hA) (hrel (hkeeps past s' c hi hG) (hrel hs hP))⟩

theorem sound_require_bind {p : Prop} [Decidable p] {e : ε} {f : Unit → Prog I ε α}
    (hok : p → (f ()).Sound T h A G Q past s)
    (herror : ¬p → ∀ s', T.rel s s' → T.inv s' → Q (.error e) past s') :
    (require p e >>= f).Sound T h A G Q past s := by
  by_cases hp : p
  · simpa [require, hp] using hok hp
  · rw [require, if_neg hp]
    exact sound_raise (herror hp)

theorem sound_void {p : Prog I ε α} {Q : Except ε Unit → Past I σ → σ → Prop}
    (hp : p.Sound T h A G (fun r past s => Q (r.map fun _ => ()) past s) past s) :
    p.void.Sound T h A G Q past s := by
  induction p generalizing past s with
  | ret a => exact hp
  | raise e => exact hp
  | call c k ih =>
    intro s' hs hi
    obtain ⟨hG, hk⟩ := hp s' hs hi
    exact ⟨hG, fun hA => ih _ (hk hA)⟩

section Only

variable {P : I.Call → Prop} {K : Past I σ → Prop} {p : Prog I ε α}

/-- A program of calls that always keep `K`, a condition on its past, and meet `G` under
it. -/
theorem Only.sound (hp : p.Only P) (hpast : K past)
    (hK : ∀ c, P c → ∀ past s, K past → G past s c ∧ K ((s, c) :: past)) :
    p.Sound T h A G (fun _ past _ => K past) past s := by
  induction p generalizing past s with
  | ret a => exact fun _ _ _ => hpast
  | raise e => exact fun _ _ _ => hpast
  | call c k ih =>
    intro s' hs hi
    obtain ⟨hG, hnext⟩ := hK c hp.1 past s' hpast
    exact ⟨hG, fun _ => ih _ (hp.2 _) hnext⟩

/-- A program of calls that always keep `J`, a condition on its past and the state, and meet `G`
under it. -/
theorem Only.sound_state {J : Past I σ → σ → Prop} (hp : p.Only P) (hstart : J past s)
    (hlater : ∀ past s s', T.rel s s' → J past s → J past s')
    (hstep : ∀ c, P c → ∀ past s, T.inv s → J past s → G past s c ∧ J ((s, c) :: past) (h c s).2) :
    p.Sound T h A G (fun _ past s => J past s) past s := by
  induction p generalizing past s with
  | ret a => exact fun s' hs _ => hlater past s s' hs hstart
  | raise e => exact fun s' hs _ => hlater past s s' hs hstart
  | call c k ih =>
    intro s' hs hi
    obtain ⟨hG, hnext⟩ := hstep c hp.1 past s' hi (hlater past s s' hs hstart)
    exact ⟨hG, fun _ => ih _ (hp.2 _) hnext⟩

theorem Obeys.sound {Q : Except ε α → Prop} (hp : p.Obeys P Q)
    (hP : ∀ c, P c → ∀ past s, G past s c) : p.Sound T h A G (fun r _ _ => Q r) past s := by
  induction p generalizing past s with
  | ret a => exact fun _ _ _ => hp
  | raise e => exact fun _ _ _ => hp
  | call c k ih => exact fun s' _ _ => ⟨hP c hp.1 past s', fun _ => ih _ (hp.2 _)⟩

theorem Only.sound_bind {f : α → Prog I ε β} {Q : Except ε β → Past I σ → σ → Prop} (hp : p.Only P)
    (hpast : K past) (hK : ∀ c, P c → ∀ past s, K past → G past s c ∧ K ((s, c) :: past))
    (hok : ∀ a past' s', K past' → (f a).Sound T h A G Q past' s')
    (herror : ∀ e past' s', K past' → Q (.error e) past' s') : (p >>= f).Sound T h A G Q past s :=
  (hp.sound hpast hK).bind hok herror

end Only

end Prog

/-! ### Soundness of a pool -/

namespace Pool

variable {T : Terms σ} {h : Handler I σ} {env : σ → σ → Prop}
  {A : ι → (ι → Past I σ) → σ → I.Call → Prop} {L G : ι → Past I σ → σ → I.Call → Prop}
  {Q : ι → Except ε α → Past I σ → σ → Prop} {pool₀ pool : Pool I ε α ι σ}

def AllSound (T : Terms σ) (h : Handler I σ) (L G : ι → Past I σ → σ → I.Call → Prop)
    (Q : ι → Except ε α → Past I σ → σ → Prop) (pool : Pool I ε α ι σ) : Prop :=
  T.inv pool.state ∧
    ∀ i, (pool.progs i).Sound T h (L i) (G i) (Q i) (pool.past i) pool.state

theorem AllSound.of_ret (hpool : AllSound T h L G Q pool) {i : ι} {a : α}
    (hi : pool.progs i = .ret a) : Q i (.ok a) (pool.past i) pool.state := by
  have hsound := hpool.2 i
  rw [hi] at hsound
  exact hsound _ (T.rel_refl _) hpool.1

theorem AllSound.of_raise (hpool : AllSound T h L G Q pool) {i : ι} {e : ε}
    (hi : pool.progs i = .raise e) : Q i (.error e) (pool.past i) pool.state := by
  have hsound := hpool.2 i
  rw [hi] at hsound
  exact hsound _ (T.rel_refl _) hpool.1

theorem AllSound.of_next? (hpool : AllSound T h L G Q pool) {i : ι} (hi : pool.next? i = none) :
    ∃ r, Q i r (pool.past i) pool.state := by
  cases hp : pool.progs i with
  | ret a => exact ⟨.ok a, hpool.of_ret hp⟩
  | raise e => exact ⟨.error e, hpool.of_raise hp⟩
  | call c k =>
    rw [next?, hp] at hi
    cases hi

theorem AllSound.of_call (hpool : AllSound T h L G Q pool) {i : ι} {c : I.Call}
    {k : I.Reply c → Prog I ε α} (hi : pool.progs i = .call c k) :
    G i (pool.past i) pool.state c := by
  have hsound := hpool.2 i
  rw [hi] at hsound
  exact (hsound _ (T.rel_refl _) hpool.1).1

theorem AllSound.of_mem_next? (hpool : AllSound T h L G Q pool) {i : ι} {c : I.Call}
    (hi : c ∈ pool.next? i) : G i (pool.past i) pool.state c := by
  rw [next?] at hi
  split at hi
  · cases hi
  · cases hi
  · next c' k hck =>
      obtain rfl := Option.some.inj hi
      exact hpool.of_call hck

variable [DecidableEq ι]

/-- **Programs that are sound one by one are sound together**, provided that every call
that meets the conditions and the promises keeps the terms, and so does the
environment. `L` is what the conditions say about a program and its own past. -/
theorem Reach.sound (hpool : Reach h env A pool₀ pool) (h₀ : AllSound T h L G Q pool₀)
    (hlocal : ∀ i past s c, A i past s c → L i (past i) s c)
    (hkeeps : ∀ i past s c, T.inv s → L i past s c → G i past s c →
      T.inv (h c s).2 ∧ T.rel s (h c s).2)
    (henv : ∀ s s', T.inv s → env s s' → T.inv s' ∧ T.rel s s') :
    AllSound T h L G Q pool := by
  induction hpool with
  | start => exact h₀
  | env hreach hs ih =>
    obtain ⟨hi, hsound⟩ := ih
    obtain ⟨hi', hrel⟩ := henv _ _ hi hs
    exact ⟨hi', fun j => (hsound j).of_rel hrel⟩
  | @step pool i hreach hA ih =>
    obtain ⟨hi, hsound⟩ := ih
    have hsi := hsound i
    rw [advance]
    split
    · exact ⟨hi, hsound⟩
    · exact ⟨hi, hsound⟩
    · next c k hck =>
        rw [hck] at hsi
        obtain ⟨hG, hk⟩ := hsi _ (T.rel_refl _) hi
        have hA := hlocal i _ _ c (hA c k hck)
        have hk := hk hA
        obtain ⟨hi', hrel⟩ := hkeeps i _ _ c hi hA hG
        refine ⟨hi', fun j => ?_⟩
        rcases eq_or_ne j i with rfl | hj
        · simpa using hk
        · simpa [hj] using (hsound j).of_rel hrel

theorem Reach.later (hpool : Reach h env A pool₀ pool) (h₀ : AllSound T h L G Q pool₀)
    (hlocal : ∀ i past s c, A i past s c → L i (past i) s c)
    (hkeeps : ∀ i past s c, T.inv s → L i past s c → G i past s c →
      T.inv (h c s).2 ∧ T.rel s (h c s).2)
    (henv : ∀ s s', T.inv s → env s s' → T.inv s' ∧ T.rel s s') :
    T.rel pool₀.state pool.state := by
  induction hpool with
  | start => exact T.rel_refl _
  | env hreach hs ih =>
    have hall : AllSound T h L G Q _ := hreach.sound h₀ hlocal hkeeps henv
    exact T.rel_trans ih (henv _ _ hall.1 hs).2
  | @step pool i hreach hA ih =>
    have hall : AllSound T h L G Q pool := hreach.sound h₀ hlocal hkeeps henv
    rw [advance]
    split
    · exact ih
    · exact ih
    · next c k hck =>
        have hlater := hkeeps i _ _ c hall.1 (hlocal i _ _ c (hA c k hck)) (hall.of_call hck)
        exact T.rel_trans ih hlater.2

theorem Reach.invariant (hpool : Reach h env A pool₀ pool) (h₀ : AllSound T h L G Q pool₀)
    (hlocal : ∀ i past s c, A i past s c → L i (past i) s c)
    (hkeeps : ∀ i past s c, T.inv s → L i past s c → G i past s c →
      T.inv (h c s).2 ∧ T.rel s (h c s).2)
    (henv : ∀ s s', T.inv s → env s s' → T.inv s' ∧ T.rel s s')
    (J : σ → (ι → Past I σ) → Prop) (hJ₀ : J pool₀.state pool₀.past)
    (hJenv : ∀ s s' past, env s s' → J s past → J s' past)
    (hJ : ∀ i past s c, T.inv s → A i past s c → G i (past i) s c → J s past →
      J (h c s).2 (Function.update past i ((s, c) :: past i))) :
    J pool.state pool.past := by
  induction hpool with
  | start => exact hJ₀
  | env hreach hs ih => exact hJenv _ _ _ hs ih
  | @step pool i hreach hA ih =>
    have hall : AllSound T h L G Q pool := hreach.sound h₀ hlocal hkeeps henv
    rw [advance]
    split
    · exact ih
    · exact ih
    · next c k hck =>
        exact hJ i _ _ c hall.1 (hA c k hck) (hall.of_call hck) ih

end Pool

/-! ### Accounting -/

section Tally

variable {M : Type*} [AddCommGroup M]

def tally (f : σ × I.Call → M) (past : Past I σ) : M := (past.map f).sum

@[simp] theorem tally_nil (f : σ × I.Call → M) : tally f ([] : Past I σ) = 0 := rfl

@[simp] theorem tally_cons (f : σ × I.Call → M) (e : σ × I.Call) (past : Past I σ) :
    tally f (e :: past) = f e + tally f past := by
  simp [tally]

theorem tally_eq_zero {f : σ × I.Call → M} {past : Past I σ} (h : ∀ e ∈ past, f e = 0) :
    tally f past = 0 := by
  refine List.sum_eq_zero fun x hx => ?_
  obtain ⟨e, he, rfl⟩ := List.mem_map.mp hx
  exact h e he

theorem sum_tally_update [Fintype ι] [DecidableEq ι] (f : σ × I.Call → M)
    (past : ι → Past I σ) (i : ι) (e : σ × I.Call) :
    ∑ j, tally f (Function.update past i (e :: past i) j) = ∑ j, tally f (past j) + f e := by
  have hrest : ∑ j ∈ univ.erase i, tally f (update past i (e :: past i) j) =
      ∑ j ∈ univ.erase i, tally f (past j) :=
    sum_congr rfl fun j hj => by
      rw [update_of_ne (ne_of_mem_erase hj)]
  rw [← sum_erase_add _ _ (mem_univ i), hrest, update_self, tally_cons,
    ← sum_erase_add _ (fun j => tally f (past j)) (mem_univ i)]
  abel

/-- **A measure of the store is its first value and what the calls added to it**, when
every call adds what `f` says and the environment keeps the measure. -/
theorem Pool.Reach.measure_eq [Fintype ι] [DecidableEq ι] {T : Terms σ} {h : Handler I σ}
    {env : σ → σ → Prop} {A : ι → (ι → Past I σ) → σ → I.Call → Prop}
    {L G : ι → Past I σ → σ → I.Call → Prop} {Q : ι → Except ε α → Past I σ → σ → Prop} {s : σ}
    {ps : ι → Prog I ε α} {pool : Pool I ε α ι σ}
    (hpool : Pool.Reach h env A (Pool.start s ps) pool)
    (h₀ : Pool.AllSound T h L G Q (Pool.start s ps))
    (hlocal : ∀ i past s c, A i past s c → L i (past i) s c)
    (hkeeps : ∀ i past s c, T.inv s → L i past s c → G i past s c →
      T.inv (h c s).2 ∧ T.rel s (h c s).2)
    (henv : ∀ s s', T.inv s → env s s' → T.inv s' ∧ T.rel s s') (m : σ → M)
    (f : σ × I.Call → M) (hm : ∀ s s', env s s' → m s' = m s)
    (hf : ∀ i past s c, T.inv s → L i past s c → G i past s c → m (h c s).2 = m s + f (s, c)) :
    m pool.state = m s + ∑ i, tally f (pool.past i) := by
  refine hpool.invariant h₀ hlocal hkeeps henv (fun s' past => m s' = m s + ∑ i, tally f (past i))
    (by simp [Pool.start]) (fun s' s'' past hs h => (hm s' s'' hs).trans h) ?_
  intro i past s' c hi hA hG h
  rw [hf i _ _ _ hi (hlocal i _ _ _ hA) hG, h, sum_tally_update, add_assoc]

end Tally

end IsaUser
