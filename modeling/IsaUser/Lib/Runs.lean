import Mathlib.Logic.Basic

/-!
# Runs of a State Machine

A service that completes one request before it takes the next is a deterministic state
machine: `step : σ → E → σ`. This module has the two ways a law can speak about all of
its runs, and the rules that reduce them to single steps.

* `exec` is the state at the end of a run and `AllSteps` says that every step of a run
  meets a condition on the state it starts from. `exec_invariant` is induction on runs.
* `Always` says that a law holds in every state of a run, the last one included.
  `always_iff_allSteps` gives the exact condition on the steps of a run for it, and
  `exec_iff_allSteps` the one for a law that is lost for good once it is lost.
* `Hereafter` says that a relation holds between every state of a run and every later one;
  `hereafter_iff_allSteps` gives the exact condition for it.
-/

namespace IsaUser

variable {σ E : Type*} (step : σ → E → σ)

def exec (s : σ) (es : List E) : σ := es.foldl step s

/-- Every step of the run meets `C` in the state it starts from. -/
def AllSteps (C : σ → E → Prop) : σ → List E → Prop
  | _, [] => True
  | s, e :: es => C s e ∧ AllSteps C (step s e) es

/-- Every state of the run meets `P`. -/
def Always (P : σ → Prop) : σ → List E → Prop
  | s, [] => P s
  | s, e :: es => P s ∧ Always P (step s e) es

instance AllSteps.decidable (C : σ → E → Prop) [∀ s e, Decidable (C s e)] :
    (s : σ) → (es : List E) → Decidable (AllSteps step C s es)
  | _, [] => .isTrue trivial
  | s, e :: es =>
    have := AllSteps.decidable C (step s e) es
    inferInstanceAs (Decidable (C s e ∧ _))

variable {step} {C : σ → E → Prop} {P J : σ → Prop} {s : σ} {D : σ → E → Prop}

@[simp] theorem exec_nil (s : σ) : exec step s [] = s := rfl

@[simp] theorem exec_cons (s : σ) (e : E) (es : List E) :
    exec step s (e :: es) = exec step (step s e) es := rfl

theorem exec_append (s : σ) (es es' : List E) :
    exec step s (es ++ es') = exec step (exec step s es) es' :=
  List.foldl_append

theorem allSteps_true (s : σ) (es : List E) : AllSteps step (fun _ _ => True) s es := by
  induction es generalizing s with
  | nil => trivial
  | cons e es ih => exact ⟨trivial, ih _⟩

/-- **Induction on runs.** What every permitted step keeps holds after a run of permitted
steps. -/
theorem exec_invariant {es : List E} (hs : J s) (hes : AllSteps step C s es)
    (hstep : ∀ s e, J s → C s e → J (step s e)) : J (exec step s es) := by
  induction es generalizing s with
  | nil => exact hs
  | cons e es ih => exact ih (hstep s e hs hes.1) hes.2

theorem AllSteps.mono {es : List E} (hes : AllSteps step C s es) (h : ∀ s e, C s e → D s e) :
    AllSteps step D s es := by
  induction es generalizing s with
  | nil => trivial
  | cons e es ih => exact ⟨h s e hes.1, ih hes.2⟩

theorem AllSteps.and_forall {D : E → Prop} {es : List E} (hes : AllSteps step C s es)
    (h : ∀ e ∈ es, D e) : AllSteps step (fun s e => C s e ∧ D e) s es := by
  induction es generalizing s with
  | nil => trivial
  | cons e es ih =>
    exact ⟨⟨hes.1, h e List.mem_cons_self⟩,
      ih hes.2 fun e' he' => h e' (List.mem_cons_of_mem e he')⟩

theorem allSteps_append {es es' : List E} :
    AllSteps step C s (es ++ es') ↔
      AllSteps step C s es ∧ AllSteps step C (exec step s es) es' := by
  induction es generalizing s with
  | nil => exact ⟨fun h => ⟨trivial, h⟩, fun h => h.2⟩
  | cons e es ih => exact (and_congr_right fun _ => ih).trans and_assoc.symm

theorem allSteps_of_forall {es : List E}
    (h : ∀ before e after, es = before ++ e :: after → C (exec step s before) e) :
    AllSteps step C s es := by
  induction es generalizing s with
  | nil => trivial
  | cons e es ih =>
    refine ⟨h [] e es rfl, ih fun before e' after heq => ?_⟩
    exact h (e :: before) e' after (by rw [heq, List.cons_append])

theorem AllSteps.imp {es : List E} (hes : AllSteps step C s es) (hs : J s)
    (hstep : ∀ s e, J s → C s e → J (step s e)) (himp : ∀ s e, J s → C s e → D s e) :
    AllSteps step D s es := by
  induction es generalizing s with
  | nil => trivial
  | cons e es ih => exact ⟨himp s e hs hes.1, ih hes.2 (hstep s e hs hes.1)⟩

theorem Always.head {es : List E} (h : Always step P s es) : P s := by
  cases es with
  | nil => exact h
  | cons e es => exact h.1

theorem AllSteps.always_of_invariant {es : List E} (hes : AllSteps step C s es) (hs : J s)
    (hJP : ∀ s, J s → P s) (hgood : ∀ s e, J s → C s e → J (step s e)) : Always step P s es := by
  induction es generalizing s with
  | nil => exact hJP s hs
  | cons e es ih => exact ⟨hJP s hs, ih hes.2 (hgood s e hs hes.1)⟩

/-- **The exact condition, for some runs.** Among the steps that a run may have at all, the
permitted ones keep `J`, which contains the law `P`, and every other one breaks `P` at once: then
the law holds in every state of the run if and only if all its steps are permitted. -/
theorem AllSteps.always_iff {es : List E} (hes : AllSteps step D s es) (hs : J s)
    (hJP : ∀ s, J s → P s) (hgood : ∀ s e, J s → D s e → C s e → J (step s e))
    (hbad : ∀ s e, J s → D s e → ¬C s e → ¬P (step s e)) :
    Always step P s es ↔ AllSteps step C s es := by
  induction es generalizing s with
  | nil => exact ⟨fun _ => trivial, fun _ => hJP s hs⟩
  | cons e es ih =>
    obtain ⟨he, hes⟩ := hes
    by_cases hC : C s e
    · have hcons := ih hes (hgood s e hs he hC)
      exact ⟨fun h => ⟨hC, hcons.mp h.2⟩, fun h => ⟨hJP s hs, hcons.mpr h.2⟩⟩
    · exact ⟨fun h => absurd h.2.head (hbad s e hs he hC), fun h => absurd h.1 hC⟩

/-- **The exact condition.** When the permitted steps keep `J`, which contains the law
`P`, and every other step breaks `P` at once, the law holds in every state of a run if and
only if all its steps are permitted. -/
theorem always_iff_allSteps {es : List E} (hs : J s) (hJP : ∀ s, J s → P s)
    (hgood : ∀ s e, J s → C s e → J (step s e)) (hbad : ∀ s e, J s → ¬C s e → ¬P (step s e)) :
    Always step P s es ↔ AllSteps step C s es :=
  (allSteps_true s es).always_iff hs hJP (fun s e hJ _ => hgood s e hJ) fun s e hJ _ => hbad s e hJ

/-- Every two states of the run, the second one not before the first, are related by `R`. -/
def Hereafter (step : σ → E → σ) (R : σ → σ → Prop) : σ → List E → Prop
  | s, [] => R s s
  | s, e :: es => Always step (R s) s (e :: es) ∧ Hereafter step R (step s e) es

theorem AllSteps.always {R T : σ → σ → Prop} {s₀ : σ} {es : List E} (hes : AllSteps step C s es)
    (hs : J s) (h₀ : T s₀ s) (htrans : ∀ {s s' s''}, T s s' → T s' s'' → T s s'')
    (hR : ∀ {s s'}, T s s' → J s' → R s s')
    (hgood : ∀ s e, J s → C s e → J (step s e) ∧ T s (step s e)) : Always step (R s₀) s es := by
  induction es generalizing s with
  | nil => exact hR h₀ hs
  | cons e es ih =>
    obtain ⟨hJ, hT⟩ := hgood s e hs hes.1
    exact ⟨hR h₀ hs, ih hes.2 hJ (htrans h₀ hT)⟩

/-- **The exact condition, for a law on two moments of a run.** When permitted steps keep `J`
and follow the preorder `T`, which together give `R`, and every other step leads to a state
that the one before it is not related to, the law holds of a run if and only if all its steps
are permitted. -/
theorem hereafter_iff_allSteps {R T : σ → σ → Prop} {es : List E} (hs : J s) (hrefl : ∀ s, T s s)
    (htrans : ∀ {s s' s''}, T s s' → T s' s'' → T s s'') (hR : ∀ {s s'}, T s s' → J s' → R s s')
    (hgood : ∀ s e, J s → C s e → J (step s e) ∧ T s (step s e))
    (hbad : ∀ s e, J s → ¬C s e → ¬R s (step s e)) :
    Hereafter step R s es ↔ AllSteps step C s es := by
  induction es generalizing s with
  | nil => exact ⟨fun _ => trivial, fun _ => hR (hrefl s) hs⟩
  | cons e es ih =>
    constructor
    · rintro ⟨halways, hafter⟩
      have hC : C s e := by_contra fun hC => hbad s e hs hC halways.2.head
      exact ⟨hC, (ih (hgood s e hs hC).1).mp hafter⟩
    · intro hes
      exact ⟨hes.always hs (hrefl s) htrans hR hgood, (ih (hgood s e hs hes.1).1).mpr hes.2⟩

theorem Always.exec {es : List E} (h : Always step P s es) : P (exec step s es) := by
  induction es generalizing s with
  | nil => exact h
  | cons e es ih => exact ih h.2

theorem Hereafter.exec {R : σ → σ → Prop} (es es' : List E) (h : Hereafter step R s (es ++ es')) :
    R (exec step s es) (exec step s (es ++ es')) := by
  induction es generalizing s with
  | nil =>
    cases es' with
    | nil => exact h
    | cons e es => exact Always.exec h.1
  | cons e es ih => exact ih h.2

theorem of_exec {V : σ → Prop} {es : List E} (hV : V s) (hkeep : ∀ s e, V s → V (step s e))
    (hback : ∀ s e, V s → P (step s e) → P s) (h : P (exec step s es)) : P s := by
  induction es generalizing s with
  | nil => exact h
  | cons e es ih => exact hback s e hV (ih (hkeep s e hV) h)

/-- **The exact condition, for a law that is lost for good.** When the permitted steps
keep the law, and a step leads to it only if it is permitted and starts from it, the law
holds at the end of a run if and only if all steps of the run are permitted. -/
theorem exec_iff_allSteps {V : σ → Prop} {es : List E} (hV : V s) (hP : P s)
    (hkeep : ∀ s e, V s → V (step s e)) (hgood : ∀ s e, V s → P s → C s e → P (step s e))
    (hback : ∀ s e, V s → P (step s e) → P s ∧ C s e) :
    P (exec step s es) ↔ AllSteps step C s es := by
  induction es generalizing s with
  | nil => exact ⟨fun _ => trivial, fun _ => hP⟩
  | cons e es ih =>
    constructor
    · intro h
      have hnext : P (step s e) :=
        of_exec (hkeep s e hV) hkeep (fun s e hV h => (hback s e hV h).1) h
      exact ⟨(hback s e hV hnext).2, (ih (hkeep s e hV) hnext).mp h⟩
    · rintro ⟨hC, hes⟩
      exact (ih (hkeep s e hV) (hgood s e hV hP hC)).mpr hes

end IsaUser
