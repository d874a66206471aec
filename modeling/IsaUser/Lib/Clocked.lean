import IsaUser.Lib.Faults
import IsaUser.Lib.OneTime
import IsaUser.Lib.Values

/-!
# Stores with a Clock

Programs that make the calls of an interface and look at a clock. A `Clocked` store has the time,
and how the next call fares: the clock needs no connection, every other call goes over one.
Between two calls time passes and the fortune of the next call may change (`Clocked.Shifts`).

## Main results

* `Clocked.rel_handle`: what every call keeps of the store is kept by the calls with a clock.
* `Prog.sound_ask`, `Prog.sound_now`: one call of a program under interference.
* `OneTime.clocked`: what is won once is won once with a clock.
-/

namespace IsaUser

variable {I : Interface} {δ ε α : Type} {σ κ : Type*}

/-- A look at the clock, or a call. -/
inductive Timed (C : Type) where
  | now
  | call (c : C)

/-- The calls of `I` and those that look at the clock. -/
@[reducible] def Interface.timed (I : Interface) : Interface where
  Call := Timed I.Call
  Reply
    | .now => Timestamp
    | .call c => I.Reply c

/-- A store, the clock, and how the next call fares. -/
structure Clocked (σ : Type*) where
  store : σ
  clock : Timestamp
  link : Link

namespace Clocked

def handle (e : δ) (h : Handler (I.fallible δ) σ) : Handler (I.timed.fallible δ) (Clocked σ)
  | .now, m => (.ok m.clock, m)
  | .call c, m =>
    let answer := m.link.pass e (h c m.store) m.store
    (answer.1, { m with store := answer.2 })

def Shifts (m m' : Clocked σ) : Prop := m'.store = m.store ∧ m.clock ≤ m'.clock

/-- A statement about a call and the store that it finds, unless it is not executed. -/
def Executed (P : σ → I.Call → Prop) (m : Clocked σ) : Timed I.Call → Prop
  | .now => False
  | .call c => m.link ≠ .down ∧ P m.store c

instance {P : σ → I.Call → Prop} [∀ s c, Decidable (P s c)] (m : Clocked σ) :
    DecidablePred (Executed P m)
  | .now => .isFalse id
  | .call c => inferInstanceAs (Decidable (m.link ≠ .down ∧ P m.store c))

def Heeds (P : σ → I.Call → Prop) (m : Clocked σ) : Timed I.Call → Prop
  | .now => True
  | .call c => m.link ≠ .down → P m.store c

instance {P : σ → I.Call → Prop} [∀ s c, Decidable (P s c)] (m : Clocked σ) :
    DecidablePred (Heeds P m)
  | .now => .isTrue trivial
  | .call c => inferInstanceAs (Decidable (m.link ≠ .down → P m.store c))

def terms (T : Terms σ) : Terms (Clocked σ) where
  inv m := T.inv m.store
  rel m m' := T.rel m.store m'.store
  rel_refl m := T.rel_refl m.store
  rel_trans h h' := T.rel_trans h h'

variable {e : δ} {h : Handler (I.fallible δ) σ} {m m' : Clocked σ}

theorem rel_handle {R : σ → σ → Prop} (hrefl : ∀ s, R s s) {c : Timed I.Call}
    (hcall : ∀ c', c = .call c' → R m.store (h c' m.store).2) :
    R m.store (handle e h c m).2.store := by
  cases c with
  | now => exact hrefl m.store
  | call c =>
    rw [handle]
    cases m.link with
    | down => exact hrefl m.store
    | up => exact hcall c rfl
    | lost => exact hcall c rfl

theorem inv_handle {P : σ → Prop} {c : Timed I.Call} (hm : P m.store)
    (hcall : ∀ c', c = .call c' → P (h c' m.store).2) : P (handle e h c m).2.store :=
  rel_handle (R := fun s s' => s = m.store → P s → P s') (fun _ _ hs => hs)
    (fun c' hc' _ _ => hcall c' hc') rfl hm

theorem handle_ok {c : I.Call} {r : I.Reply c} (hr : (handle e h (.call c) m).1 = .ok r) :
    m.link = .up ∧ (h c m.store).1 = .ok r ∧
      (handle e h (.call c) m).2.store = (h c m.store).2 := by
  rw [handle] at hr ⊢
  cases hlink : m.link with
  | down =>
    rw [hlink] at hr
    cases hr
  | lost =>
    rw [hlink] at hr
    cases hr
  | up =>
    rw [hlink] at hr
    exact ⟨rfl, hr, rfl⟩

end Clocked

theorem OneTime.clocked {e : δ} {h : Handler (I.fallible δ) σ} {used : σ → κ → Prop}
    {wins : σ × I.Call → κ → Prop} (hone : OneTime (I := I.fallible δ) h used wins) :
    OneTime (Clocked.handle e h) (fun m => used m.store)
      fun a k => Clocked.Executed (fun s c => wins (s, c) k) a.1 a.2 where
  unused {m c k} hwins := by
    cases c with
    | now => exact hwins.elim
    | call c => exact hone.unused hwins.2
  marks {m c k} hwins := by
    cases c with
    | now => exact hwins.elim
    | call c =>
      obtain ⟨hlink, hwins⟩ := hwins
      have hmarks := hone.marks hwins
      rw [Clocked.handle]
      cases hm : m.link with
      | down => exact absurd hm hlink
      | up => exact hmarks
      | lost => exact hmarks
  keeps {m c k} hused := by
    exact Clocked.inv_handle (P := fun s => used s k) hused fun c' _ => hone.keeps hused

namespace Prog

variable {T : Terms (Clocked σ)} {e : δ} {h : Handler (I.fallible δ) σ}
  {A G : Past (I.timed.fallible δ) (Clocked σ) → Clocked σ → Timed I.Call → Prop}
  {past : Past (I.timed.fallible δ) (Clocked σ)} {m : Clocked σ} {raised : δ → ε}

/-- Make a call over the connection, and raise the error that it ends in. -/
def ask (raised : δ → ε) (c : I.Call) : Prog (I.timed.fallible δ) ε (I.Reply c) :=
  Prog.query (I := I.timed) raised (.call c)

def now (raised : δ → ε) : Prog (I.timed.fallible δ) ε Timestamp :=
  Prog.query (I := I.timed) raised .now

/-- A call under interference: what it promises, what holds if it fails, and what holds at any
later moment of the answer and the store that it leaves. -/
theorem sound_ask {c : I.Call}
    {Q : Except ε (I.Reply c) → Past (I.timed.fallible δ) (Clocked σ) → Clocked σ → Prop}
    (hcall : ∀ m', T.rel m m' → T.inv m' → G past m' (.call c) ∧ (A past m' (.call c) →
      ∀ m'', T.rel (Clocked.handle e h (.call c) m').2 m'' → T.inv m'' →
        (∀ e', Q (.error (raised e')) ((m', .call c) :: past) m'') ∧
        ∀ r, m'.link = .up → (h c m'.store).1 = .ok r → Q (.ok r) ((m', .call c) :: past) m'')) :
    (Prog.ask raised c : Prog (I.timed.fallible δ) ε (I.Reply c)).Sound T (Clocked.handle e h) A G
      Q past m := by
  refine Prog.sound_query (I := I.timed) (c := Timed.call c) fun m' hm' hi => ?_
  obtain ⟨hG, hQ⟩ := hcall m' hm' hi
  refine ⟨hG, fun hA m'' hm'' hi' => ?_⟩
  obtain ⟨herror, hok⟩ := hQ hA m'' hm'' hi'
  cases hr : (Clocked.handle e h (.call c) m').1 with
  | error e' => exact herror _
  | ok r =>
    obtain ⟨hlink, hanswer, -⟩ := Clocked.handle_ok hr
    exact hok r hlink hanswer

theorem sound_now {f : Timestamp → Prog (I.timed.fallible δ) ε α}
    {Q : Except ε α → Past (I.timed.fallible δ) (Clocked σ) → Clocked σ → Prop}
    (hnow : ∀ m', T.rel m m' → T.inv m' → G past m' .now ∧
      (f m'.clock).Sound T (Clocked.handle e h) A G Q ((m', .now) :: past) m') :
    ((Prog.now raised : Prog (I.timed.fallible δ) ε Timestamp) >>= f).Sound T (Clocked.handle e h)
      A G Q past m :=
  fun m' hm' hi => ⟨(hnow m' hm' hi).1, fun _ => (hnow m' hm' hi).2⟩

end Prog

end IsaUser
