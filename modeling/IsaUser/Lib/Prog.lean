import Mathlib.Data.Nat.Notation
import Mathlib.Logic.Basic

/-!
# Programs over a Shared Store

A service method is a sequence of calls to a store, each of which may depend on the
replies of the earlier ones, and it ends in a value or in an exception. This module
gives such methods a syntax, `Prog`, over an arbitrary `Interface` of calls, and a
sequential meaning, `Prog.run`, under an arbitrary `Handler`.

`Prog` is a monad with exceptions, so a method can be written in `do` notation line by
line. Because the syntax keeps every call as a node, the same definition also has an
interleaved meaning, in which other programs act on the store between two calls; that
meaning is the subject of `IsaUser.Lib.Pool`.
-/

namespace IsaUser

structure Interface where
  /-- The calls. -/
  Call : Type
  /-- The type of the reply to a call. -/
  Reply : Call → Type

/-- The calls of `I` among those of `J`. -/
structure Interface.Embedding (I J : Interface) where
  /-- The call of `J` for a call of `I`. -/
  call : I.Call → J.Call
  /-- The reply to the call of `I` in the one to the call of `J`. -/
  reply : ∀ c, J.Reply (call c) → I.Reply c

/-- A program over the calls of `I` that ends in a value of `α` or raises an `ε`. -/
inductive Prog (I : Interface) (ε α : Type) : Type where
  /-- Return a value. -/
  | ret (a : α)
  /-- Raise an exception. -/
  | raise (e : ε)
  /-- Make a call and go on with its reply. -/
  | call (c : I.Call) (k : I.Reply c → Prog I ε α)

/-- The meaning of the calls over states `σ`: the reply and the next state. -/
abbrev Handler (I : Interface) (σ : Type*) :=
  (c : I.Call) → σ → I.Reply c × σ

namespace Prog

variable {I : Interface} {ε ε' α β : Type} {σ : Type*} {h : Handler I σ}

/-- Sequencing: an exception of the first program skips the second. -/
protected def bind : Prog I ε α → (α → Prog I ε β) → Prog I ε β
  | ret a, f => f a
  | raise e, _ => raise e
  | call c k, f => call c fun r => (k r).bind f

/-- `try p except e => f e`. -/
protected def tryCatch : Prog I ε α → (ε → Prog I ε' α) → Prog I ε' α
  | ret a, _ => ret a
  | raise e, f => f e
  | call c k, f => call c fun r => (k r).tryCatch f

instance : Monad (Prog I ε) where
  pure := ret
  bind := Prog.bind

def perform (c : I.Call) : Prog I ε (I.Reply c) :=
  call c ret

def void (p : Prog I ε α) : Prog I ε Unit := p.bind fun _ => ret ()

def Ended : Prog I ε α → Prop
  | ret _ => True
  | raise _ => True
  | call _ _ => False

instance : (p : Prog I ε α) → Decidable p.Ended
  | ret _ => .isTrue trivial
  | raise _ => .isTrue trivial
  | call _ _ => .isFalse id

/-- `try: p finally: q`. -/
def tryFinally (p : Prog I ε α) (q : Prog I ε Unit) : Prog I ε α :=
  (p.tryCatch fun e => q.bind fun _ => raise e).bind fun a => q.bind fun _ => ret a

/-- Raise `e` unless `p` holds. -/
def require (p : Prop) [Decidable p] (e : ε) : Prog I ε Unit :=
  if p then ret () else raise e

def lift : Except ε α → Prog I ε α
  | .ok a => ret a
  | .error e => raise e

@[simp] theorem pure_eq (a : α) : (pure a : Prog I ε α) = ret a := rfl

@[simp] theorem ret_bind (a : α) (f : α → Prog I ε β) : (ret a >>= f) = f a := rfl

@[simp] theorem raise_bind (e : ε) (f : α → Prog I ε β) : (raise e >>= f) = raise e := rfl

@[simp] theorem call_bind (c : I.Call) (k : I.Reply c → Prog I ε α) (f : α → Prog I ε β) :
    (call c k >>= f) = call c fun r => k r >>= f := rfl

@[simp] theorem perform_bind (c : I.Call) (f : I.Reply c → Prog I ε β) :
    (perform c >>= f) = call c f := rfl

theorem bind_ret (p : Prog I ε α) : (p >>= ret) = p := by
  induction p with
  | ret a => rfl
  | raise e => rfl
  | call c k ih =>
    exact congrArg (call c) (funext ih)

@[simp] theorem tryCatch_ret (a : α) (f : ε → Prog I ε' α) :
    (ret a : Prog I ε α).tryCatch f = ret a := rfl

@[simp] theorem tryCatch_raise (e : ε) (f : ε → Prog I ε' α) :
    (raise e : Prog I ε α).tryCatch f = f e := rfl

@[simp] theorem tryCatch_call (c : I.Call) (k : I.Reply c → Prog I ε α)
    (f : ε → Prog I ε' α) :
    (call c k).tryCatch f = call c fun r => (k r).tryCatch f := rfl

/-! ### Sequential execution -/

/-- Run a program to its end with nobody else acting on the state. -/
def run (h : Handler I σ) : Prog I ε α → σ → Except ε α × σ
  | ret a, s => (.ok a, s)
  | raise e, s => (.error e, s)
  | call c k, s => (k (h c s).1).run h (h c s).2

@[simp] theorem run_ret (h : Handler I σ) (a : α) (s : σ) :
    (ret a : Prog I ε α).run h s = (.ok a, s) := rfl

@[simp] theorem run_raise (h : Handler I σ) (e : ε) (s : σ) :
    (raise e : Prog I ε α).run h s = (.error e, s) := rfl

@[simp] theorem run_call (h : Handler I σ) (c : I.Call) (k : I.Reply c → Prog I ε α)
    (s : σ) : (call c k).run h s = (k (h c s).1).run h (h c s).2 := rfl

theorem run_bind_of_ok {p : Prog I ε α} {f : α → Prog I ε β} {s s' : σ} {a : α}
    (hp : p.run h s = (.ok a, s')) : (p >>= f).run h s = (f a).run h s' := by
  induction p generalizing s with
  | ret b => cases hp; rfl
  | raise e => cases hp
  | call c k ih => exact ih _ hp

theorem run_bind_of_error {p : Prog I ε α} {f : α → Prog I ε β} {s s' : σ} {e : ε}
    (hp : p.run h s = (.error e, s')) : (p >>= f).run h s = (.error e, s') := by
  induction p generalizing s with
  | ret b => cases hp
  | raise e => cases hp; rfl
  | call c k ih => exact ih _ hp

theorem run_tryCatch_of_ok {p : Prog I ε α} {f : ε → Prog I ε' α} {s s' : σ} {a : α}
    (hp : p.run h s = (.ok a, s')) : (p.tryCatch f).run h s = (.ok a, s') := by
  induction p generalizing s with
  | ret b => cases hp; rfl
  | raise e => cases hp
  | call c k ih => exact ih _ hp

theorem run_tryCatch_of_error {p : Prog I ε α} {f : ε → Prog I ε' α} {s s' : σ} {e : ε}
    (hp : p.run h s = (.error e, s')) : (p.tryCatch f).run h s = (f e).run h s' := by
  induction p generalizing s with
  | ret b => cases hp
  | raise e => cases hp; rfl
  | call c k ih => exact ih _ hp

/-- The **weakest precondition**: `p.wp h Q s` says that the run of `p` from `s` ends in
an outcome and a state that satisfy `Q`. -/
def wp (h : Handler I σ) (p : Prog I ε α) (Q : Except ε α → σ → Prop) (s : σ) : Prop :=
  Q (p.run h s).1 (p.run h s).2

section Wp

variable {h : Handler I σ} {Q : Except ε α → σ → Prop} {s : σ}

@[simp] theorem wp_ret {a : α} : (ret a : Prog I ε α).wp h Q s ↔ Q (.ok a) s := Iff.rfl

@[simp] theorem wp_raise {e : ε} : (raise e : Prog I ε α).wp h Q s ↔ Q (.error e) s :=
  Iff.rfl

@[simp] theorem wp_call {c : I.Call} {k : I.Reply c → Prog I ε α} :
    (call c k).wp h Q s ↔ (k (h c s).1).wp h Q (h c s).2 := Iff.rfl

@[simp] theorem wp_perform {c : I.Call} {Q : Except ε (I.Reply c) → σ → Prop} :
    (perform c : Prog I ε (I.Reply c)).wp h Q s ↔ Q (.ok (h c s).1) (h c s).2 := Iff.rfl

theorem wp_bind {p : Prog I ε α} {f : α → Prog I ε β} {Q : Except ε β → σ → Prop} :
    (p >>= f).wp h Q s ↔
      p.wp h (fun r s' => match r with
        | .ok a => (f a).wp h Q s'
        | .error e => Q (.error e) s') s := by
  induction p generalizing s with
  | ret a => rfl
  | raise e => rfl
  | call c k ih => exact ih _

theorem wp_void {p : Prog I ε α} {Q : Except ε Unit → σ → Prop} :
    p.void.wp h Q s ↔ p.wp h (fun r s' => Q (r.map fun _ => ()) s') s := by
  induction p generalizing s with
  | ret a => rfl
  | raise e => rfl
  | call c k ih => exact ih _

theorem wp_tryCatch {p : Prog I ε α} {f : ε → Prog I ε' α}
    {Q : Except ε' α → σ → Prop} :
    (p.tryCatch f).wp h Q s ↔
      p.wp h (fun r s' => match r with
        | .ok a => Q (.ok a) s'
        | .error e => (f e).wp h Q s') s := by
  induction p generalizing s with
  | ret a => rfl
  | raise e => rfl
  | call c k ih => exact ih _

theorem wp_require {p : Prop} [Decidable p] {e : ε} {Q : Except ε Unit → σ → Prop} :
    (require p e : Prog I ε Unit).wp h Q s ↔
      (p → Q (.ok ()) s) ∧ (¬p → Q (.error e) s) := by
  by_cases hp : p <;> simp [require, hp]

theorem wp_require_bind {p : Prop} [Decidable p] {e : ε} {f : Unit → Prog I ε α}
    (hok : p → (f ()).wp h Q s) (herror : ¬p → Q (.error e) s) :
    (require p e >>= f).wp h Q s := by
  by_cases hp : p
  · simpa [require, hp] using hok hp
  · simpa [require, hp] using herror hp

theorem wp_lift_bind {r : Except ε α} {f : α → Prog I ε β} {Q : Except ε β → σ → Prop}
    (hok : ∀ a, r = .ok a → (f a).wp h Q s) (herror : ∀ e, r = .error e → Q (.error e) s) :
    (lift r >>= f).wp h Q s := by
  cases r with
  | ok a => exact hok a rfl
  | error e => exact herror e rfl

theorem wp_mono {p : Prog I ε α} {Q' : Except ε α → σ → Prop} (hp : p.wp h Q s)
    (hQ : ∀ r s', Q r s' → Q' r s') : p.wp h Q' s :=
  hQ _ _ hp

theorem wp_of_forall {p : Prog I ε α} (hQ : ∀ r s', Q r s') : p.wp h Q s := hQ _ _

theorem wp_and {p : Prog I ε α} {Q' : Except ε α → σ → Prop} (hp : p.wp h Q s)
    (hp' : p.wp h Q' s) : p.wp h (fun r s' => Q r s' ∧ Q' r s') s :=
  ⟨hp, hp'⟩

end Wp

/-! ### Programs restricted to some calls -/

/-- Every call `p` can make, whatever the replies, satisfies `P`. -/
def Only (P : I.Call → Prop) : Prog I ε α → Prop
  | ret _ => True
  | raise _ => True
  | call c k => P c ∧ ∀ r, (k r).Only P

section Only

variable {P : I.Call → Prop} {p : Prog I ε α}

@[simp] theorem only_ret (a : α) : (ret a : Prog I ε α).Only P := trivial

@[simp] theorem only_raise (e : ε) : (raise e : Prog I ε α).Only P := trivial

@[simp] theorem only_call {c : I.Call} {k : I.Reply c → Prog I ε α} :
    (call c k).Only P ↔ P c ∧ ∀ r, (k r).Only P := Iff.rfl

@[simp] theorem only_perform {c : I.Call} : (perform c : Prog I ε _).Only P ↔ P c := by
  simp [perform]

@[simp] theorem only_require {p : Prop} [Decidable p] {e : ε} :
    (require p e : Prog I ε Unit).Only P := by
  by_cases hp : p <;> simp [require, hp]

theorem Only.bind {f : α → Prog I ε β} (hp : p.Only P) (hf : ∀ a, (f a).Only P) :
    (p >>= f).Only P := by
  induction p with
  | ret a => exact hf a
  | raise e => trivial
  | call c k ih => exact ⟨hp.1, fun r => ih r (hp.2 r)⟩

theorem Only.void (hp : p.Only P) : p.void.Only P :=
  hp.bind fun _ => trivial

theorem Only.tryCatch {f : ε → Prog I ε' α} (hp : p.Only P) (hf : ∀ e, (f e).Only P) :
    (p.tryCatch f).Only P := by
  induction p with
  | ret a => trivial
  | raise e => exact hf e
  | call c k ih => exact ⟨hp.1, fun r => ih r (hp.2 r)⟩

theorem Only.mono {P' : I.Call → Prop} (hp : p.Only P) (hPP' : ∀ c, P c → P' c) : p.Only P' := by
  induction p with
  | ret a => trivial
  | raise e => trivial
  | call c k ih => exact ⟨hPP' c hp.1, fun r => ih r (hp.2 r)⟩

theorem only_of_forall {P : I.Call → Prop} (p : Prog I ε α) (hP : ∀ c, P c) : p.Only P := by
  induction p with
  | ret a => trivial
  | raise e => trivial
  | call c k ih => exact ⟨hP c, ih⟩

theorem Only.run_keeps {h : Handler I σ} {J : σ → Prop} {s : σ} (hp : p.Only P) (hs : J s)
    (hJ : ∀ c s, P c → J s → J (h c s).2) : J (p.run h s).2 := by
  induction p generalizing s with
  | ret a => exact hs
  | raise e => exact hs
  | call c k ih => exact ih _ (hp.2 _) (hJ c s hp.1 hs)

theorem run_snd_of_only {h : Handler I σ} (hp : p.Only fun c => ∀ s, (h c s).2 = s) (s : σ) :
    (p.run h s).2 = s :=
  hp.run_keeps (J := (· = s)) rfl fun _ s' hc hs' => (hc s').trans hs'

end Only

/-! ### The calls of a run -/

/-- Every call that `p` makes when it is run from a state satisfies `P`. -/
def Makes (h : Handler I σ) (P : I.Call → Prop) : Prog I ε α → σ → Prop
  | ret _, _ => True
  | raise _, _ => True
  | call c k, s => P c ∧ (k (h c s).1).Makes h P (h c s).2

section Makes

variable {h : Handler I σ} {P : I.Call → Prop} {s : σ} {p : Prog I ε α}

theorem Only.makes (hp : p.Only P) : p.Makes h P s := by
  induction p generalizing s with
  | ret a => trivial
  | raise e => trivial
  | call c k ih => exact ⟨hp.1, ih _ (hp.2 _)⟩

theorem Makes.mono {P' : I.Call → Prop} (hp : p.Makes h P s) (hPP' : ∀ c, P c → P' c) :
    p.Makes h P' s := by
  induction p generalizing s with
  | ret a => trivial
  | raise e => trivial
  | call c k ih => exact ⟨hPP' c hp.1, ih _ hp.2⟩

theorem makes_bind {f : α → Prog I ε β} :
    (p >>= f).Makes h P s ↔
      p.Makes h P s ∧ p.wp h (fun r s' => ∀ a, r = .ok a → (f a).Makes h P s') s := by
  induction p generalizing s with
  | ret a => exact ⟨fun hf => ⟨trivial, fun _ ha => Except.ok.inj ha ▸ hf⟩, fun hf => hf.2 a rfl⟩
  | raise e => exact ⟨fun _ => ⟨trivial, nofun⟩, fun _ => trivial⟩
  | call c k ih => exact (and_congr_right fun _ => ih _).trans (and_assoc (b := (k _).Makes _ _ _)).symm

theorem makes_tryCatch {f : ε → Prog I ε' α} :
    (p.tryCatch f).Makes h P s ↔
      p.Makes h P s ∧ p.wp h (fun r s' => ∀ e, r = .error e → (f e).Makes h P s') s := by
  induction p generalizing s with
  | ret a => exact ⟨fun _ => ⟨trivial, nofun⟩, fun _ => trivial⟩
  | raise e =>
    exact ⟨fun hf => ⟨trivial, fun _ he => Except.error.inj he ▸ hf⟩, fun hf => hf.2 e rfl⟩
  | call c k ih => exact (and_congr_right fun _ => ih _).trans (and_assoc (b := (k _).Makes _ _ _)).symm

end Makes

/-! ### Programs restricted to some calls and outcomes -/

/-- Whatever the replies, every call of the program satisfies `P` and its outcome `Q`. -/
def Obeys (P : I.Call → Prop) (Q : Except ε α → Prop) : Prog I ε α → Prop
  | ret a => Q (.ok a)
  | raise e => Q (.error e)
  | call c k => P c ∧ ∀ r, (k r).Obeys P Q

section Obeys

variable {P : I.Call → Prop} {Q : Except ε α → Prop} {p : Prog I ε α}

theorem Obeys.only (hp : p.Obeys P Q) : p.Only P := by
  induction p with
  | ret a => trivial
  | raise e => trivial
  | call c k ih => exact ⟨hp.1, fun r => ih r (hp.2 r)⟩

theorem Only.obeys (hp : p.Only P) : p.Obeys P fun _ => True := by
  induction p with
  | ret a => trivial
  | raise e => trivial
  | call c k ih => exact ⟨hp.1, fun r => ih r (hp.2 r)⟩

theorem Obeys.mono {Q' : Except ε α → Prop} (hp : p.Obeys P Q) (hQ : ∀ r, Q r → Q' r) :
    p.Obeys P Q' := by
  induction p with
  | ret a => exact hQ _ hp
  | raise e => exact hQ _ hp
  | call c k ih => exact ⟨hp.1, fun r => ih r (hp.2 r)⟩

theorem Obeys.run (hp : p.Obeys P Q) (h : Handler I σ) (s : σ) : Q (p.run h s).1 := by
  induction p generalizing s with
  | ret a => exact hp
  | raise e => exact hp
  | call c k ih => exact ih _ (hp.2 _) _

theorem Obeys.bind {f : α → Prog I ε β} {Q' : Except ε β → Prop} (hp : p.Obeys P Q)
    (hok : ∀ a, Q (.ok a) → (f a).Obeys P Q') (herror : ∀ e, Q (.error e) → Q' (.error e)) :
    (p >>= f).Obeys P Q' := by
  induction p with
  | ret a => exact hok a hp
  | raise e => exact herror e hp
  | call c k ih => exact ⟨hp.1, fun r => ih r (hp.2 r)⟩

theorem Obeys.tryCatch {f : ε → Prog I ε' α} {Q' : Except ε' α → Prop} (hp : p.Obeys P Q)
    (hok : ∀ a, Q (.ok a) → Q' (.ok a)) (herror : ∀ e, Q (.error e) → (f e).Obeys P Q') :
    (p.tryCatch f).Obeys P Q' := by
  induction p with
  | ret a => exact hok a hp
  | raise e => exact herror e hp
  | call c k ih => exact ⟨hp.1, fun r => ih r (hp.2 r)⟩

theorem Obeys.tryFinally {q : Prog I ε Unit} (hp : p.Obeys P Q)
    (hq : q.Obeys P fun r => ∀ e, r = .error e → Q (.error e)) : (p.tryFinally q).Obeys P Q := by
  have hcatch : (p.tryCatch fun e => q.bind fun _ => raise e).Obeys P Q :=
    hp.tryCatch (fun _ h => h) fun e he => hq.bind (fun _ _ => he) fun e' h => h e' rfl
  exact hcatch.bind (fun a ha => hq.bind (fun _ _ => ha) fun e h => h e rfl) fun _ h => h

/-- Every call satisfies `P`, and nothing is raised. -/
abbrev Calm (P : I.Call → Prop) (p : Prog I ε α) : Prop := p.Obeys P fun r => ∀ e, r ≠ .error e

theorem calm_ret (a : α) : (ret a : Prog I ε α).Calm P := fun _ h => by cases h

theorem Calm.bind {f : α → Prog I ε β} (hp : p.Calm P) (hf : ∀ a, (f a).Calm P) :
    (p >>= f).Calm P :=
  Obeys.bind hp (fun a _ => hf a) fun e h => absurd rfl (h e)

theorem Only.calm (hp : p.Only P) (a : α) : (p.tryCatch fun _ => (ret a : Prog I ε α)).Calm P := by
  have hret : ∀ b : α, (ret b : Prog I ε α).Calm P := calm_ret
  exact hp.obeys.tryCatch (fun b _ => hret b) fun _ _ => hret a

end Obeys

/-! ### Programs that make few calls of a kind -/

/-- On no path are there more than `n` calls that satisfy `P`. -/
def AtMost (P : I.Call → Prop) [DecidablePred P] : ℕ → Prog I ε α → Prop
  | _, ret _ => True
  | _, raise _ => True
  | n, call c k => if P c then 0 < n ∧ ∀ r, AtMost P (n - 1) (k r) else ∀ r, AtMost P n (k r)

section AtMost

variable {P : I.Call → Prop} [DecidablePred P] {n m : ℕ} {p : Prog I ε α}

theorem atMost_zero (hp : p.Only fun c => ¬P c) : p.AtMost P 0 := by
  induction p with
  | ret a => trivial
  | raise e => trivial
  | call c k ih =>
    rw [AtMost, if_neg hp.1]
    exact fun r => ih r (hp.2 r)

theorem AtMost.mono (hp : p.AtMost P n) (h : n ≤ m) : p.AtMost P m := by
  induction p generalizing n m with
  | ret a => trivial
  | raise e => trivial
  | call c k ih =>
    rw [AtMost] at hp ⊢
    split at hp
    · next hc =>
        rw [if_pos hc]
        exact ⟨by omega, fun r => ih r (hp.2 r) (by omega)⟩
    · next hc =>
        rw [if_neg hc]
        exact fun r => ih r (hp r) h

theorem AtMost.bind {f : α → Prog I ε β} (hp : p.AtMost P n) (hf : ∀ a, (f a).AtMost P m) :
    (p >>= f).AtMost P (n + m) := by
  induction p generalizing n with
  | ret a => exact (hf a).mono (by omega)
  | raise e => trivial
  | call c k ih =>
    rw [AtMost] at hp
    rw [call_bind, AtMost]
    split at hp
    · next hc =>
        rw [if_pos hc]
        refine ⟨by omega, fun r => (ih r (hp.2 r)).mono ?_⟩
        omega
    · next hc =>
        rw [if_neg hc]
        exact fun r => ih r (hp r)

theorem AtMost.tryCatch {f : ε → Prog I ε' α} (hp : p.AtMost P n) (hf : ∀ e, (f e).AtMost P m) :
    (p.tryCatch f).AtMost P (n + m) := by
  induction p generalizing n with
  | ret a => trivial
  | raise e => exact (hf e).mono (by omega)
  | call c k ih =>
    rw [AtMost] at hp
    rw [tryCatch_call, AtMost]
    split at hp
    · next hc =>
        rw [if_pos hc]
        refine ⟨by omega, fun r => (ih r (hp.2 r)).mono ?_⟩
        omega
    · next hc =>
        rw [if_neg hc]
        exact fun r => ih r (hp r)

theorem AtMost.tryFinally {q : Prog I ε Unit} (hp : p.AtMost P n) (hq : q.AtMost P 0) :
    (p.tryFinally q).AtMost P n := by
  have hcleans : ∀ r : Prog I ε α, r.Ended → (q.bind fun _ => r).AtMost P 0 := by
    intro r hr
    refine hq.bind (m := 0) fun _ => ?_
    cases r with
    | call c k => exact hr.elim
    | _ => trivial
  have hcatch : (p.tryCatch fun e => q.bind fun _ => raise e).AtMost P n :=
    hp.tryCatch (m := 0) fun e => hcleans (raise e) trivial
  exact hcatch.bind (m := 0) fun a => hcleans (ret a) trivial

end AtMost

/-! ### Programs that never raise -/

/-- Whatever the replies, the program raises nothing, and what it returns satisfies `P`. -/
def Returns (P : α → Prop) : Prog I ε α → Prop
  | ret a => P a
  | raise _ => False
  | call _ k => ∀ r, (k r).Returns P

/-! ### Programs inside larger ones -/

variable {J : Interface}

/-- A program over `I` as one over `J`, with its exceptions translated. -/
def embed (f : I.Embedding J) (raised : ε → ε') : Prog I ε α → Prog J ε' α
  | ret a => ret a
  | raise e => raise (raised e)
  | call c k => call (f.call c) fun r => (k (f.reply c r)).embed f raised

section Embed

variable {f : I.Embedding J}

theorem embed_bind {raised : ε → ε'} (p : Prog I ε α) (g : α → Prog I ε β) :
    (p >>= g).embed f raised = p.embed f raised >>= fun a => (g a).embed f raised := by
  induction p with
  | ret a => rfl
  | raise e => rfl
  | call c k ih =>
    rw [call_bind, embed, embed, call_bind]
    simp only [ih]

theorem embed_tryCatch {δ : Type} {raised : δ → ε'} (p : Prog I ε α) (g : ε → Prog I δ α) :
    (p.tryCatch g).embed f raised = (p.embed f id).tryCatch fun e => (g e).embed f raised := by
  induction p with
  | ret a => rfl
  | raise e => rfl
  | call c k ih =>
    rw [tryCatch_call, embed, embed, tryCatch_call]
    simp only [ih]

theorem embed_embed {δ : Type} {K : Interface} {g : J.Embedding K} {raised : ε → ε'}
    {raised' : ε' → δ} (p : Prog I ε α) :
    (p.embed f raised).embed g raised' =
      p.embed ⟨fun c => g.call (f.call c), fun c r => f.reply c (g.reply (f.call c) r)⟩
        (raised' ∘ raised) := by
  induction p with
  | ret a => rfl
  | raise e => rfl
  | call c k ih =>
    simp only [embed, ih]

variable {f : I.Embedding J} {raised : ε → ε'} {P : J.Call → Prop} {p : Prog I ε α}

theorem Only.embed (hp : p.Only fun c => P (f.call c)) : (p.embed f raised).Only P := by
  induction p with
  | ret a => trivial
  | raise e => trivial
  | call c k ih => exact ⟨hp.1, fun r => ih _ (hp.2 _)⟩

theorem Obeys.embed {Q : Except ε' α → Prop}
    (hp : p.Obeys (fun c => P (f.call c)) fun r => Q (r.mapError raised)) :
    (p.embed f raised).Obeys P Q := by
  induction p with
  | ret a => exact hp
  | raise e => exact hp
  | call c k ih => exact ⟨hp.1, fun r => ih _ (hp.2 _)⟩

theorem AtMost.embed [DecidablePred P] {n : ℕ} (hp : p.AtMost (fun c => P (f.call c)) n) :
    (p.embed f raised).AtMost P n := by
  induction p generalizing n with
  | ret a => trivial
  | raise e => trivial
  | call c k ih =>
    rw [AtMost] at hp
    rw [Prog.embed, AtMost]
    split at hp
    · next hc =>
        rw [if_pos hc]
        exact ⟨hp.1, fun r => ih _ (hp.2 _)⟩
    · next hc =>
        rw [if_neg hc]
        exact fun r => ih _ (hp _)

end Embed

end Prog

end IsaUser
