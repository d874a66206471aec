import IsaUser.Lib.Pool

/-!
# Calls that Can Fail

A statement sent to a database is answered or fails. `Interface.fallible` is an interface
whose replies may be errors, `Prog.query` the call that raises the error it gets, and
`withFaults` a handler under which the calls of a given set fail without effect; it counts
the calls, so that a fault is the number of the call that it hits. `Link` is the other way
to fail: the connection may break before or after a call has taken effect.
-/

namespace IsaUser

variable {I : Interface} {δ ε α : Type} {σ : Type*} {link : Link} {e : δ} {ρ : Type*}

/-- The calls of `I`, each of which may be answered by an error. -/
@[reducible] def Interface.fallible (I : Interface) (δ : Type) : Interface :=
  ⟨I.Call, fun c => Except δ (I.Reply c)⟩

def Prog.query (raised : δ → ε) (c : I.Call) : Prog (I.fallible δ) ε (I.Reply c) :=
  .call c fun
    | .ok r => .ret r
    | .error e => .raise (raised e)

theorem Prog.wp_query {h : Handler (I.fallible δ) σ} {raised : δ → ε} {c : I.Call}
    {Q : Except ε (I.Reply c) → σ → Prop} {s : σ} :
    (Prog.query raised c).wp h Q s ↔ Q ((h c s).1.mapError raised) (h c s).2 := by
  refine Prog.wp_call.trans ?_
  cases (h c s).1 <;> rfl

theorem Prog.obeys_query {P : (I.fallible δ).Call → Prop} {raised : δ → ε} {c : I.Call}
    {Q : Except ε (I.Reply c) → Prop} (hc : P c) (hQ : ∀ r, Q r) :
    (Prog.query raised c).Obeys P Q := by
  refine ⟨hc, fun r => ?_⟩
  cases r with
  | ok r => exact hQ (.ok r)
  | error e => exact hQ (.error (raised e))

/-- The handler `h`, except that the calls whose number is in `faults` fail with `e` and have
no effect. The state carries the number of the next call. -/
def withFaults (faults : ℕ → Bool) (e : δ) (h : Handler (I.fallible δ) σ) :
    Handler (I.fallible δ) (σ × ℕ) := fun c s =>
  if faults s.2 then (.error e, s.1, s.2 + 1) else ((h c s.1).1, (h c s.1).2, s.2 + 1)

/-- Without faults, a program runs as it does under `h`. -/
theorem Prog.run_of_withFaults {h : Handler (I.fallible δ) σ} {p : Prog (I.fallible δ) ε α}
    {s s' : σ} {n m : ℕ} {r : Except ε α}
    (hp : p.run (withFaults (fun _ => false) e h) (s, n) = (r, (s', m))) : p.run h s = (r, s') := by
  induction p generalizing s n with
  | ret a => cases hp; rfl
  | raise e => cases hp; rfl
  | call c k ih => exact ih _ hp

theorem Prog.only_query {P : (I.fallible δ).Call → Prop} {raised : δ → ε} {c : I.Call}
    (hc : P c) : (Prog.query raised c).Only P := by
  refine ⟨hc, fun r => ?_⟩
  cases r <;> trivial

theorem Prog.sound_query {T : Terms σ} {h : Handler (I.fallible δ) σ}
    {A G : Past (I.fallible δ) σ → σ → (I.fallible δ).Call → Prop} {raised : δ → ε} {c : I.Call}
    {Q : Except ε (I.Reply c) → Past (I.fallible δ) σ → σ → Prop}
    {past : Past (I.fallible δ) σ} {s : σ}
    (hcall : ∀ s', T.rel s s' → T.inv s' → G past s' c ∧ (A past s' c →
      ∀ s'', T.rel (h c s').2 s'' → T.inv s'' →
        Q ((h c s').1.mapError raised) ((s', c) :: past) s'')) :
    (Prog.query raised c).Sound T h A G Q past s := by
  intro s' hs hi
  obtain ⟨hG, hQ⟩ := hcall s' hs hi
  refine ⟨hG, fun hA => ?_⟩
  have hQ := hQ hA
  revert hQ
  cases (h c s').1 <;> exact fun hQ => hQ

/-! ### Connections -/

/-- How a call over a connection fares: it is answered, it is not executed, or it is executed
and its answer is lost. -/
inductive Link where
  | up
  | down
  | lost
  deriving DecidableEq, Repr

/-- The answer to a call and the state after it, when its execution has this outcome. -/
def Link.send {ρ : Type*} (link : Link) (e : δ) (executed : ρ × σ) (s : σ) : Except δ ρ × σ :=
  match link with
  | up => (.ok executed.1, executed.2)
  | down => (.error e, s)
  | lost => (.error e, executed.2)

theorem Link.send_ok {executed : ρ × σ} {s : σ} {r : ρ} (h : (link.send e executed s).1 = .ok r) :
    executed.1 = r ∧ (link.send e executed s).2 = executed.2 := by
  cases link with
  | up => exact ⟨Except.ok.inj h, rfl⟩
  | down => cases h
  | lost => cases h

theorem Link.exists_send_ok {executed : ρ × σ} {s : σ} :
    (∃ r, (link.send e executed s).1 = .ok r) ↔ link = .up := by
  cases link with
  | up => exact ⟨fun _ => rfl, fun _ => ⟨_, rfl⟩⟩
  | _ =>
    constructor
    · rintro ⟨r, h⟩
      cases h
    · intro h
      cases h

theorem Link.send_snd {executed : ρ × σ} {s : σ} {P : σ → Prop} (hs : P s)
    (hexecuted : P executed.2) : P (link.send e executed s).2 := by
  cases link with
  | down => exact hs
  | _ => exact hexecuted

/-! ### Calls over connections -/

/-- The handler `h` over a connection. How the next call fares is part of the state. -/
def overLink (e : δ) (h : Handler I σ) : Handler (I.fallible δ) (σ × Link) := fun c s =>
  let answer := s.2.send e (h c s.1) s.1
  (answer.1, answer.2, s.2)

/-- The answer to a call that may be refused, and the state after it. -/
def Link.pass {ρ : Type*} (link : Link) (e : δ) (executed : Except δ ρ × σ) (s : σ) :
    Except δ ρ × σ :=
  match link with
  | up => executed
  | down => (.error e, s)
  | lost => (.error e, executed.2)

/-- The handler `h`, whose calls may be refused, over a connection. -/
def throughLink (e : δ) (h : Handler (I.fallible δ) σ) : Handler (I.fallible δ) (σ × Link) :=
  fun c s =>
    let answer := s.2.pass e (h c s.1) s.1
    (answer.1, answer.2, s.2)

/-- The handler of fallible calls over connections: `links n` is how the call of number `n`
fares. The state carries the number of the next call. -/
def overLinks (links : ℕ → Link) (e : δ) (h : Handler I σ) :
    Handler (I.fallible δ) (σ × ℕ) := fun c s =>
  (((links s.2).send e (h c s.1) s.1).1, ((links s.2).send e (h c s.1) s.1).2, s.2 + 1)

namespace Prog

variable {links : ℕ → Link} {e : δ} {h : Handler I σ} {raised : δ → ε} {c : I.Call}
  {f : I.Reply c → Prog (I.fallible δ) ε α} {s : σ} {n : ℕ}
  {Q : Except ε (I.Reply c) → σ × ℕ → Prop}

/-- A call over a connection: it is answered, or it raises without having taken effect, or it
raises after it has taken effect. -/
theorem wp_query_overLinks (hup : links n = .up → Q (.ok (h c s).1) ((h c s).2, n + 1))
    (hdown : links n = .down → Q (.error (raised e)) (s, n + 1))
    (hlost : links n = .lost → Q (.error (raised e)) ((h c s).2, n + 1)) :
    (query raised c).wp (overLinks links e h) Q (s, n) := by
  rw [wp_query]
  simp only [overLinks]
  cases hlink : links n with
  | up => exact hup hlink
  | down => exact hdown hlink
  | lost => exact hlost hlink

theorem wp_query_bind_overLinks {Q : Except ε α → σ × ℕ → Prop}
    (hup : links n = .up → (f (h c s).1).wp (overLinks links e h) Q ((h c s).2, n + 1))
    (hdown : links n = .down → Q (.error (raised e)) (s, n + 1))
    (hlost : links n = .lost → Q (.error (raised e)) ((h c s).2, n + 1)) :
    (query raised c >>= f).wp (overLinks links e h) Q (s, n) :=
  wp_bind.mpr (wp_query_overLinks hup hdown hlost)

theorem wp_query_read (hread : (h c s).2 = s) (hup : links n = .up → Q (.ok (h c s).1) (s, n + 1))
    (herror : Q (.error (raised e)) (s, n + 1)) :
    (query raised c).wp (overLinks links e h) Q (s, n) := by
  refine wp_query_overLinks (fun hlink => ?_) (fun _ => herror) fun _ => ?_
  · rw [hread]
    exact hup hlink
  · rw [hread]
    exact herror

theorem wp_query_bind_read {Q : Except ε α → σ × ℕ → Prop} (hread : (h c s).2 = s)
    (hup : links n = .up → (f (h c s).1).wp (overLinks links e h) Q (s, n + 1))
    (herror : Q (.error (raised e)) (s, n + 1)) :
    (query raised c >>= f).wp (overLinks links e h) Q (s, n) :=
  wp_bind.mpr (wp_query_read hread hup herror)

theorem wp_query_up (hlink : links n = .up) :
    (query raised c).wp (overLinks links e h) Q (s, n) ↔ Q (.ok (h c s).1) ((h c s).2, n + 1) := by
  rw [wp_query]
  simp only [overLinks, hlink]
  rfl

theorem wp_query_bind_up {Q : Except ε α → σ × ℕ → Prop} (hlink : links n = .up) :
    (query raised c >>= f).wp (overLinks links e h) Q (s, n) ↔
      (f (h c s).1).wp (overLinks links e h) Q ((h c s).2, n + 1) :=
  wp_bind.trans (wp_query_up hlink)

end Prog

/-! ### Faults by number -/

/-- The `k` calls from number `n` on are not hit by a fault. -/
def Spared (faults : ℕ → Bool) (n k : ℕ) : Prop := ∀ m < k, faults (n + m) = false

instance (faults : ℕ → Bool) (n k : ℕ) : Decidable (Spared faults n k) :=
  inferInstanceAs (Decidable (∀ m < k, faults (n + m) = false))

theorem spared_split {faults : ℕ → Bool} {n k l : ℕ} :
    Spared faults n (k + l) ↔ Spared faults n k ∧ Spared faults (n + k) l := by
  constructor
  · intro h
    refine ⟨fun m hm => h m (by omega), fun m hm => ?_⟩
    simpa [Nat.add_assoc] using h (k + m) (by omega)
  · rintro ⟨hk, hl⟩ m hm
    rcases Nat.lt_or_ge m k with h | h
    · exact hk m h
    · obtain ⟨m, rfl⟩ := Nat.exists_eq_add_of_le h
      simpa [Nat.add_assoc] using hl m (by omega)

end IsaUser
