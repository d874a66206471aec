import IsaUser.Lib.OneTime

/-!
# What Is Earned and Spent

A program that does something only when it has found a reason, and once for each reason: a call may
earn tokens, by what it finds, and a call may spend tokens. A program is *thrifty* if it spends only
what it has left of what it earned itself. So over all programs a token is spent no more often than
it is earned.

## Main results

* `Allowed.earn`, `Allowed.spend`: what is left after a call.
* `Pool.Reach.allowed`, `CalledOnce.of_allowed`: what is earned once is spent once.
-/

namespace IsaUser

variable {I : Interface} {ε α : Type} {σ ι κ : Type*}

section Allowance

variable (earns : σ × I.Call → κ → Prop) (spends : I.Call → κ → Prop)
  [∀ e, DecidablePred (earns e)] [∀ c, DecidablePred (spends c)]

def earned (past : Past I σ) (k : κ) : ℕ := past.countP fun e => earns e k

def spent (past : Past I σ) (k : κ) : ℕ := past.countP fun e => spends e.2 k

def Affords (past : Past I σ) (c : I.Call) : Prop :=
  ∀ k, spends c k → spent spends past k < earned earns past k

/-- No token was spent more often than it was earned, and those of `left` less often. -/
structure Allowed (left : Set κ) (past : Past I σ) : Prop where
  le : ∀ k, spent spends past k ≤ earned earns past k
  lt : ∀ k ∈ left, spent spends past k < earned earns past k

end Allowance

section Books

variable {earns : σ × I.Call → κ → Prop} {spends : I.Call → κ → Prop}
  [∀ e, DecidablePred (earns e)] [∀ c, DecidablePred (spends c)] {left left' : Set κ}
  {past : Past I σ} {s : σ} {c : I.Call} {k : κ}

@[simp] theorem earned_cons : earned earns ((s, c) :: past) k =
    earned earns past k + if earns (s, c) k then 1 else 0 := by
  simp [earned, List.countP_cons]

@[simp] theorem spent_cons : spent spends ((s, c) :: past) k =
    spent spends past k + if spends c k then 1 else 0 := by
  simp [spent, List.countP_cons]

namespace Allowed

theorem nil : Allowed earns spends ∅ ([] : Past I σ) :=
  ⟨fun _ => le_rfl, fun _ hk => hk.elim⟩

theorem mono (h : Allowed earns spends left past) (hleft : left' ⊆ left) :
    Allowed earns spends left' past :=
  ⟨h.le, fun k hk => h.lt k (hleft hk)⟩

theorem earn (h : Allowed earns spends left past) (hc : ∀ k, ¬spends c k) :
    Allowed earns spends (left ∪ {k | earns (s, c) k}) ((s, c) :: past) := by
  refine ⟨fun k => ?_, fun k hk => ?_⟩
  · rw [spent_cons, earned_cons, if_neg (hc k)]
    exact (h.le k).trans (Nat.le_add_right _ _)
  · rw [spent_cons, earned_cons, if_neg (hc k)]
    rcases hk with hk | hk
    · exact (h.lt k hk).trans_le (Nat.le_add_right _ _)
    · rw [if_pos (show earns (s, c) k from hk)]
      exact Nat.lt_succ_of_le (h.le k)

theorem free (h : Allowed earns spends left past) (hc : ∀ k, ¬spends c k) :
    Allowed earns spends left ((s, c) :: past) :=
  (h.earn hc).mono Set.subset_union_left

theorem spend (h : Allowed earns spends left past) (hk : k ∈ left)
    (hc : ∀ k', spends c k' ↔ k' = k) :
    Affords earns spends past c ∧ Allowed earns spends (left \ {k}) ((s, c) :: past) := by
  refine ⟨fun k' hk' => ?_, fun k' => ?_, fun k' hk' => ?_⟩
  · obtain rfl := (hc k').mp hk'
    exact h.lt _ hk
  · rw [spent_cons, earned_cons]
    split
    · next hk' =>
        obtain rfl := (hc k').mp hk'
        have hlt := h.lt k' hk
        omega
    · exact (h.le k').trans (Nat.le_add_right _ _)
  · rw [spent_cons, earned_cons, if_neg fun h => hk'.2 ((hc k').mp h)]
    exact (h.lt k' hk'.1).trans_le (Nat.le_add_right _ _)

theorem of_affords (h : Allowed earns spends ∅ past) (hc : Affords earns spends past c) :
    Allowed earns spends ∅ ((s, c) :: past) := by
  refine ⟨fun k => ?_, fun _ hk => hk.elim⟩
  rw [spent_cons, earned_cons]
  split
  · next hk =>
      have hlt := hc k hk
      omega
  · exact (h.le k).trans (Nat.le_add_right _ _)

end Allowed

end Books

/-! ### Thrifty programs -/

section Thrifty

variable (h : Handler I σ) (earns : σ × I.Call → κ → Prop) (spends : I.Call → κ → Prop)
  [∀ e, DecidablePred (earns e)] [∀ c, DecidablePred (spends c)]

/-- With `past` behind it, a program spends only what it has left, and ends in an outcome and a past
that meet `Q`. -/
def Prog.Thrifty (Q : Except ε α → Past I σ → Prop) (p : Prog I ε α) (past : Past I σ) : Prop :=
  ∀ s, p.Sound (Terms.ofInv fun _ => True) h (fun _ _ _ => True)
    (fun past _ c => Affords earns spends past c) (fun r past _ => Q r past) past s

end Thrifty

namespace Prog.Thrifty

variable {β : Type} {h : Handler I σ} {earns : σ × I.Call → κ → Prop} {spends : I.Call → κ → Prop}
  [∀ e, DecidablePred (earns e)] [∀ c, DecidablePred (spends c)] {left : Set κ} {past : Past I σ}
  {Q : Except ε α → Past I σ → Prop} {p : Prog I ε α}

theorem ret {a : α} (hQ : Q (.ok a) past) :
    (Prog.ret a : Prog I ε α).Thrifty h earns spends Q past :=
  fun _ _ _ _ => hQ

theorem raise {e : ε} (hQ : Q (.error e) past) :
    (Prog.raise e : Prog I ε α).Thrifty h earns spends Q past :=
  fun _ _ _ _ => hQ

theorem call {c : I.Call} {k : I.Reply c → Prog I ε α}
    (hk : ∀ s, Affords earns spends past c ∧
      (k (h c s).1).Thrifty h earns spends Q ((s, c) :: past)) :
    (Prog.call c k).Thrifty h earns spends Q past :=
  fun _ s _ _ => ⟨(hk s).1, fun _ => (hk s).2 _⟩

theorem bind {f : α → Prog I ε β} {Q' : Except ε β → Past I σ → Prop}
    (hp : p.Thrifty h earns spends Q past)
    (hok : ∀ a past, Q (.ok a) past → (f a).Thrifty h earns spends Q' past)
    (herror : ∀ e past, Q (.error e) past → Q' (.error e) past) :
    (p >>= f).Thrifty h earns spends Q' past :=
  fun s => (hp s).bind (fun a past s ha => hok a past ha s) fun e past _ he => herror e past he

theorem tryCatch {ε' : Type} {f : ε → Prog I ε' α} {Q' : Except ε' α → Past I σ → Prop}
    (hp : p.Thrifty h earns spends Q past)
    (hok : ∀ a past, Q (.ok a) past → Q' (.ok a) past)
    (herror : ∀ e past, Q (.error e) past → (f e).Thrifty h earns spends Q' past) :
    (p.tryCatch f).Thrifty h earns spends Q' past :=
  fun s => (hp s).tryCatch (fun a past _ ha => hok a past ha) fun e past s he => herror e past he s

theorem mono {Q' : Except ε α → Past I σ → Prop} (hp : p.Thrifty h earns spends Q past)
    (hQ : ∀ r past, Q r past → Q' r past) : p.Thrifty h earns spends Q' past :=
  fun s => (hp s).mono fun r past _ hr => hQ r past hr

theorem of_only (hp : p.Only fun c => ∀ k, ¬spends c k) (hpast : Allowed earns spends left past) :
    p.Thrifty h earns spends (fun _ past => Allowed earns spends left past) past :=
  fun _ => hp.sound hpast fun _ hc _ _ hpast =>
    ⟨fun k hk => (hc k hk).elim, hpast.free hc⟩

end Prog.Thrifty

/-! ### Thrifty programs together -/

theorem Pool.Reach.allowed [DecidableEq ι] {h : Handler I σ} {env : σ → σ → Prop}
    {A : ι → (ι → Past I σ) → σ → I.Call → Prop} {s : σ} {ps : ι → Prog I ε α}
    {pool : Pool I ε α ι σ} {earns : σ × I.Call → κ → Prop} {spends : I.Call → κ → Prop}
    [∀ e, DecidablePred (earns e)] [∀ c, DecidablePred (spends c)]
    (hpool : Pool.Reach h env A (Pool.start s ps) pool)
    (hps : ∀ i, (ps i).Thrifty h earns spends (fun _ _ => True) []) (i : ι) :
    Allowed earns spends ∅ (pool.past i) := by
  have h₀ : Pool.AllSound (Terms.ofInv fun _ => True) h (fun _ _ _ _ => True)
      (fun _ past _ c => Affords earns spends past c) (fun _ _ _ _ => True) (Pool.start s ps) :=
    ⟨trivial, fun i => hps i s⟩
  refine hpool.invariant h₀ (fun _ _ _ _ _ => trivial) (fun _ _ _ _ _ _ _ => ⟨trivial, trivial⟩)
    (fun _ _ _ _ => ⟨trivial, trivial⟩) (fun _ past => ∀ i, Allowed earns spends ∅ (past i))
    (fun _ => Allowed.nil) (fun _ _ _ _ hall => hall) (fun i past s c _ _ hc hall j => ?_) i
  rcases eq_or_ne j i with rfl | hj
  · rw [Function.update_self]
    exact (hall j).of_affords hc
  · rw [Function.update_of_ne hj]
    exact hall j

theorem CalledOnce.of_allowed {earns : σ × I.Call → κ → Prop} {spends : I.Call → κ → Prop}
    [∀ e, DecidablePred (earns e)] [∀ c, DecidablePred (spends c)] {past : ι → Past I σ} {k : κ}
    (hearns : CalledOnce past fun e => earns e k)
    (hall : ∀ i, Allowed earns spends ∅ (past i)) : CalledOnce past fun e => spends e.2 k :=
  hearns.of_le fun i => (hall i).le k

end IsaUser
