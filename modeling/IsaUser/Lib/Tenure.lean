import IsaUser.Lib.Pool

/-!
# Tenure

A key is taken by a call that finds it free, and is given back by a call of the one who holds it.
`Holds` reads off a past whether its program holds a key. Where only holders give back, and
nothing else makes a taken key free, no two programs hold one key, and a key that is held is not
free.
-/

namespace IsaUser

variable {I : Interface} {ε α : Type} {σ ι κ : Type*}

def Holds (takes gives : σ × I.Call → κ → Prop) (k : κ) : Past I σ → Prop
  | [] => False
  | e :: past => takes e k ∨ ¬gives e k ∧ Holds takes gives k past

variable {takes gives : σ × I.Call → κ → Prop}

theorem Holds.cons {k : κ} {past : Past I σ} (h : Holds takes gives k past) {e : σ × I.Call}
    (he : ¬gives e k) : Holds takes gives k (e :: past) :=
  .inr ⟨he, h⟩

/-- What is held by a program is held by nobody else, and it is not free. -/
def Tenured (takes gives : σ × I.Call → κ → Prop) (free : σ → κ → Prop) (s : σ)
    (past : ι → Past I σ) : Prop :=
  (∀ k i j, Holds takes gives k (past i) → Holds takes gives k (past j) → i = j) ∧
    ∀ k i, Holds takes gives k (past i) → ¬free s k

theorem Tenured.step [DecidableEq ι] {free : σ → κ → Prop} {s s' : σ} {past : ι → Past I σ}
    (h : Tenured takes gives free s past) (i : ι) (c : I.Call)
    (htakes : ∀ k, takes (s, c) k → free s k ∧ ¬free s' k)
    (hgives : ∀ k, gives (s, c) k → Holds takes gives k (past i))
    (hstays : ∀ k, ¬free s k → ¬gives (s, c) k → ¬free s' k) :
    Tenured takes gives free s' (Function.update past i ((s, c) :: past i)) := by
  obtain ⟨hone, htaken⟩ := h
  -- Who holds a key after the call has just taken it, or has held it before.
  have hholds : ∀ k j, Holds takes gives k (Function.update past i ((s, c) :: past i) j) →
      (j = i ∧ takes (s, c) k) ∨
        ((j = i → ¬gives (s, c) k) ∧ Holds takes gives k (past j)) := by
    intro k j hj
    rcases eq_or_ne j i with rfl | hne
    · rw [Function.update_self] at hj
      rcases hj with htake | ⟨hgive, hj⟩
      · exact .inl ⟨rfl, htake⟩
      · exact .inr ⟨fun _ => hgive, hj⟩
    · rw [Function.update_of_ne hne] at hj
      exact .inr ⟨fun h => absurd h hne, hj⟩
  constructor
  · intro k j j' hj hj'
    rcases hholds k j hj with ⟨hi, htake⟩ | ⟨-, hbefore⟩
    · rcases hholds k j' hj' with ⟨hi', -⟩ | ⟨-, hbefore'⟩
      · exact hi.trans hi'.symm
      · exact absurd (htakes k htake).1 (htaken k j' hbefore')
    · rcases hholds k j' hj' with ⟨-, htake⟩ | ⟨-, hbefore'⟩
      · exact absurd (htakes k htake).1 (htaken k j hbefore)
      · exact hone k j j' hbefore hbefore'
  · intro k j hj
    rcases hholds k j hj with ⟨rfl, htake⟩ | ⟨hgive, hj⟩
    · exact (htakes k htake).2
    · refine hstays k (htaken k j hj) fun h => ?_
      exact hgive (hone k j i hj (hgives k h)) h

/-- **The law of tenure**: in every run a key has one holder at most, and is not free while it is
held. -/
theorem Pool.Reach.tenure [DecidableEq ι] {T : Terms σ} {h : Handler I σ} {env : σ → σ → Prop}
    {A : ι → (ι → Past I σ) → σ → I.Call → Prop} {L G : ι → Past I σ → σ → I.Call → Prop}
    {Q : ι → Except ε α → Past I σ → σ → Prop} {pool₀ pool : Pool I ε α ι σ}
    (hpool : Pool.Reach h env A pool₀ pool) (h₀ : Pool.AllSound T h L G Q pool₀)
    (hlocal : ∀ i past s c, A i past s c → L i (past i) s c)
    (hkeeps : ∀ i past s c, T.inv s → L i past s c → G i past s c →
      T.inv (h c s).2 ∧ T.rel s (h c s).2)
    (henv : ∀ s s', T.inv s → env s s' → T.inv s' ∧ T.rel s s') {free : σ → κ → Prop}
    (hstart : Tenured takes gives free pool₀.state pool₀.past)
    (hfree : ∀ s s' k, env s s' → free s' k → free s k)
    (htakes : ∀ i past s c k, G i past s c → takes (s, c) k → free s k ∧ ¬free (h c s).2 k)
    (hgives : ∀ i past s c k, G i past s c → gives (s, c) k → Holds takes gives k past)
    (hstays : ∀ i past s c k, L i past s c → G i past s c → ¬free s k → ¬gives (s, c) k →
      ¬free (h c s).2 k) :
    Tenured takes gives free pool.state pool.past :=
  hpool.invariant h₀ hlocal hkeeps henv (Tenured takes gives free) hstart
    (fun s s' _ hs ⟨hone, htaken⟩ => ⟨hone, fun k i hi hk => htaken k i hi (hfree s s' k hs hk)⟩)
    fun i past s c _ hA hG hJ => hJ.step i c (fun k => htakes i _ s c k hG)
      (fun k => hgives i _ s c k hG) fun k => hstays i _ s c k (hlocal i past s c hA) hG

end IsaUser
