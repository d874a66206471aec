import IsaUser.Core.DistributedLock

/-!
# The Idempotency Guard

`DistributedLock.guard` of `core/distributed_lock.py`, used with a result cache for one key:
a context manager that looks into the cache, acquires the lock, looks into the cache again,
runs the body, publishes its result and releases the lock.

The body is a program over calls of its own. The guard hands an outcome to it
(`GuardCall.enter`), which is all the context manager does at its `yield`.
-/

open IsaUser.Prog

namespace IsaUser.Core

/-! ### Calls -/

/-- `LockOutcome`, as the guard hands it to the body; an empty token is `none`. -/
structure LockOutcome (ρ : Type) where
  token : Option Token
  cachedResult : Option ρ
  isCached : Bool
  deriving DecidableEq, Repr

namespace LockOutcome

variable {ρ : Type}

def acquired (token : Token) : LockOutcome ρ := ⟨some token, none, false⟩

def cached (result : ρ) : LockOutcome ρ := ⟨none, some result, true⟩

def contended : LockOutcome ρ := ⟨none, none, false⟩

end LockOutcome

inductive GuardCall (J : Interface) (ρ : Type) where
  /-- `result_cache.get(key)`. -/
  | cacheGet
  /-- `result_cache.set(key, result, ttl)`. -/
  | cacheSet (result : ρ) (ttlSeconds : ℤ)
  /-- `acquire(key, ttl_seconds)`. -/
  | acquire (ttlSeconds : ℤ)
  /-- `release(key, token)`. -/
  | release (token : Token)
  /-- `yield outcome`. -/
  | enter (outcome : LockOutcome ρ)
  /-- A call of the body. -/
  | body (c : J.Call)

@[reducible] def GuardCall.Reply {J : Interface} {ρ : Type} : GuardCall J ρ → Type
  | cacheGet => Option ρ
  | cacheSet _ _ => Unit
  | acquire _ => Except LockError (Option Token)
  | release _ => Except LockError Bool
  | enter _ => Unit
  | body c => J.Reply c

abbrev GuardApi (J : Interface) (ρ : Type) : Interface := ⟨GuardCall J ρ, GuardCall.Reply⟩

def bodyCalls (J : Interface) (ρ : Type) : J.Embedding (GuardApi J ρ) := ⟨.body, fun _ r => r⟩

/-! ### The guard -/

inductive OnContended where
  | raises
  | returns
  deriving DecidableEq, Repr

/-- The arguments of a guard. The waiting time is given as the number of times that the lock
is found contended before the deadline. -/
structure GuardSettings where
  ttlSeconds : ℤ
  resultCacheTtl : ℤ
  polls : ℕ
  onContended : OnContended
  deriving DecidableEq, Repr

/-- What a guard raises: an error of the lock, `LockContended`, or what its body raised. -/
inductive GuardError (ε : Type) where
  | lock (e : LockError)
  | lockContended
  | body (e : ε)
  deriving DecidableEq, Repr

variable {J : Interface} {ρ ε : Type} {σ : Type*}

abbrev GuardM (J : Interface) (ρ ε : Type) := Prog (GuardApi J ρ) (GuardError ε)

def ask (c : GuardCall J ρ) : GuardM J ρ ε c.Reply := .call c .ret

def lockCall {α : Type} (c : GuardCall J ρ) (f : c.Reply → Except LockError α) :
    GuardM J ρ ε α :=
  .call c fun r =>
    match f r with
    | .ok a => .ret a
    | .error e => .raise (.lock e)

/-- How the loop that acquires the lock ends. -/
inductive Contention (ρ : Type) where
  | acquired (token : Token)
  | cached (result : ρ)
  | contended

/-- One turn of the loop that acquires the lock: where it is contended and no result has
been published, `retry` goes on. -/
def contendOnce (ttlSeconds : ℤ) (retry : GuardM J ρ ε (Contention ρ)) :
    GuardM J ρ ε (Contention ρ) := do
  match ← lockCall (.acquire ttlSeconds) id with
  | some token => return .acquired token
  | none =>
    match ← ask .cacheGet with
    | some result => return .cached result
    | none => retry

/-- The loop that acquires the lock, until the deadline. -/
def contend (ttlSeconds : ℤ) : ℕ → GuardM J ρ ε (Contention ρ)
  | 0 => contendOnce ttlSeconds (return .contended)
  | polls + 1 => contendOnce ttlSeconds (contend ttlSeconds polls)

/-- `release`, whose failure is only logged. -/
def releaseQuietly (token : Token) : GuardM J ρ ε Unit :=
  (do
    let _ ← lockCall (.release token) id
    return ()).tryCatch fun
      | .lock .distributedLockError => return ()
      | e => .raise e

/-- The body of the `async with`, and the result it has set. -/
def runBody (body : LockOutcome ρ → Prog J ε (Option ρ)) (outcome : LockOutcome ρ) :
    GuardM J ρ ε (Option ρ) := do
  ask (.enter outcome)
  (body outcome).embed (bodyCalls J ρ) .body

def publish (resultCacheTtl : ℤ) (body : GuardM J ρ ε (Option ρ)) : GuardM J ρ ε Unit := do
  match ← body with
  | some result => ask (.cacheSet result resultCacheTtl)
  | none => return ()

/-- `guard`, around a body that says which result it has set. -/
def guard (settings : GuardSettings) (body : LockOutcome ρ → Prog J ε (Option ρ)) :
    GuardM J ρ ε Unit := do
  match ← ask .cacheGet with
  | some result => (runBody body (.cached result)).void
  | none =>
    match ← contend settings.ttlSeconds settings.polls with
    | .cached result => (runBody body (.cached result)).void
    | .contended =>
      match settings.onContended with
      | .returns => (runBody body .contended).void
      | .raises => .raise .lockContended
    | .acquired token =>
      -- the prior holder may have published between the last read and the acquisition
      match ← ask .cacheGet with
      | some result => do
        releaseQuietly token
        (runBody body (.cached result)).void
      | none =>
        publish settings.resultCacheTtl (runBody body (.acquired token))
          |>.tryFinally (releaseQuietly token)

/-! ### What a guard calls -/

section Calls

def GuardCall.IsBody : GuardCall J ρ → Prop
  | body _ => True
  | _ => False

def GuardCall.IsPlain : GuardCall J ρ → Prop
  | body _ => False
  | cacheSet _ _ => False
  | _ => True

variable {P : GuardCall J ρ → Prop} {Q : GuardError ε → Prop} {settings : GuardSettings}
  {body : LockOutcome ρ → Prog J ε (Option ρ)} {α : Type}

/-- What is raised satisfies `Q`. -/
def Raises {α : Type} (Q : GuardError ε → Prop) (r : Except (GuardError ε) α) : Prop :=
  ∀ e, r = .error e → Q e

theorem raises_ok (Q : GuardError ε → Prop) (a : α) : Raises Q (.ok a : Except (GuardError ε) α) :=
  fun _ h => by cases h

theorem raises_error {e : GuardError ε} (he : Q e) :
    Raises Q (.error e : Except (GuardError ε) α) := by
  intro e' h
  cases h
  exact he

theorem ask_obeys {c : GuardCall J ρ} (hc : P c) :
    (ask c : GuardM J ρ ε _).Obeys P (Raises Q) :=
  ⟨hc, fun r => raises_ok Q r⟩

theorem lockCall_obeys {c : GuardCall J ρ} {f : c.Reply → Except LockError α} (hc : P c)
    (hlock : ∀ e, Q (.lock e)) : (lockCall c f : GuardM J ρ ε α).Obeys P (Raises Q) := by
  refine ⟨hc, fun r => ?_⟩
  beta_reduce
  cases f r with
  | ok a => exact raises_ok Q a
  | error e => exact raises_error (hlock e)

/-- A program that goes on after one that raises nothing but `Q`. -/
theorem obeys_bind {β : Type} {p : GuardM J ρ ε α} {f : α → GuardM J ρ ε β}
    (hp : p.Obeys P (Raises Q)) (hf : ∀ a, (f a).Obeys P (Raises Q)) :
    (p >>= f).Obeys P (Raises Q) :=
  hp.bind (fun a _ => hf a) fun e he => raises_error (he e rfl)

theorem contendOnce_obeys (hP : ∀ c, ¬c.IsBody → P c) (hlock : ∀ e, Q (.lock e)) (ttl : ℤ)
    {retry : GuardM J ρ ε (Contention ρ)} (hretry : retry.Obeys P (Raises Q)) :
    (contendOnce ttl retry).Obeys P (Raises Q) := by
  refine obeys_bind (lockCall_obeys (hP _ id) hlock) fun token => ?_
  cases token with
  | some token => exact raises_ok Q _
  | none =>
    refine obeys_bind (ask_obeys (hP _ id)) fun result => ?_
    cases result with
    | some result => exact raises_ok Q _
    | none => exact hretry

theorem contend_obeys (hP : ∀ c, ¬c.IsBody → P c) (hlock : ∀ e, Q (.lock e)) (ttl : ℤ)
    (polls : ℕ) : (contend ttl polls : GuardM J ρ ε _).Obeys P (Raises Q) := by
  induction polls with
  | zero => exact contendOnce_obeys hP hlock ttl (raises_ok Q _)
  | succ polls ih => exact contendOnce_obeys hP hlock ttl ih

theorem releaseQuietly_obeys (hP : ∀ c, ¬c.IsBody → P c) (hlock : ∀ e, Q (.lock e))
    (token : Token) : (releaseQuietly token : GuardM J ρ ε _).Obeys P (Raises Q) := by
  refine Obeys.tryCatch (Q := Raises Q)
    (obeys_bind (lockCall_obeys (hP _ id) hlock) fun _ => raises_ok Q _) (fun _ _ => raises_ok Q _)
    fun e he => ?_
  split
  · exact raises_ok Q _
  · exact raises_error (he _ rfl)

/-- **What a guard calls and raises**: the calls of the lock, of the cache and of its body,
and what the lock and the body raise. -/
theorem guard_obeys (hP : ∀ c, ¬c.IsBody → P c)
    (hbody : ∀ outcome, (body outcome).Obeys (fun c => P (.body c))
      fun r => ∀ e, r = .error e → Q (.body e))
    (hlock : ∀ e, Q (.lock e)) (hcontended : Q .lockContended) :
    (guard settings body).Obeys P (Raises Q) := by
  have hrun : ∀ outcome, (runBody body outcome).Obeys P (Raises Q) := by
    intro outcome
    refine obeys_bind (ask_obeys (hP _ id)) fun _ => Obeys.embed ?_
    refine Obeys.mono (hbody outcome) fun r hr => ?_
    cases r with
    | ok a => exact raises_ok Q _
    | error e => exact raises_error (hr e rfl)
  have hvoid : ∀ outcome, (runBody body outcome).void.Obeys P (Raises Q) :=
    fun outcome => obeys_bind (hrun outcome) fun _ => raises_ok Q _
  refine obeys_bind (ask_obeys (hP _ id)) fun cached => ?_
  cases cached with
  | some result => exact hvoid _
  | none =>
    refine obeys_bind (contend_obeys hP hlock _ _) fun contention => ?_
    cases contention with
    | cached result => exact hvoid _
    | contended =>
      cases settings.onContended with
      | returns => exact hvoid _
      | raises => exact raises_error hcontended
    | acquired token =>
      refine obeys_bind (ask_obeys (hP _ id)) fun cached => ?_
      cases cached with
      | some result =>
        exact obeys_bind (releaseQuietly_obeys hP hlock token) fun _ => hvoid _
      | none =>
        refine Obeys.tryFinally ?_ ((releaseQuietly_obeys hP hlock token).mono
          fun r hr e he => raises_error (hr e he))
        refine obeys_bind (hrun _) fun result => ?_
        cases result with
        | some result => exact ask_obeys (hP _ id)
        | none => exact raises_ok Q _

variable [DecidablePred P] {n : ℕ}

theorem guard_atMost (hP : ∀ c, P c → c.IsBody)
    (hbody : ∀ outcome, (body outcome).AtMost (fun c => P (.body c)) n) :
    (guard settings body).AtMost P n := by
  have hother : ∀ c, ¬c.IsBody → ¬P c := fun c hc h => hc (hP c h)
  have hask : ∀ c : GuardCall J ρ, ¬c.IsBody → (ask c : GuardM J ρ ε _).AtMost P 0 :=
    fun c hc => atMost_zero ⟨hother c hc, fun _ => trivial⟩
  have hcontend : (contend settings.ttlSeconds settings.polls : GuardM J ρ ε _).AtMost P 0 :=
    atMost_zero (contend_obeys hother (fun _ => trivial) _ _ (Q := fun _ => True)).only
  have hrelease : ∀ token, (releaseQuietly token : GuardM J ρ ε _).AtMost P 0 := fun token =>
    atMost_zero
      (releaseQuietly_obeys hother (fun _ => trivial) token (Q := fun _ => True)).only
  have hrun : ∀ outcome, (runBody body outcome).AtMost P n := fun outcome =>
    ((hask _ id).bind fun _ => AtMost.embed (hbody outcome)).mono (by omega)
  have hvoid : ∀ outcome, (runBody body outcome).void.AtMost P n :=
    fun outcome => (hrun outcome).bind (m := 0) fun _ => trivial
  refine ((hask _ id).bind (m := n) fun cached => ?_).mono (by omega)
  cases cached with
  | some result => exact hvoid _
  | none =>
    refine (hcontend.bind (m := n) fun contention => ?_).mono (by omega)
    cases contention with
    | cached result => exact hvoid _
    | contended =>
      cases settings.onContended with
      | returns => exact hvoid _
      | raises => trivial
    | acquired token =>
      refine ((hask _ id).bind (m := n) fun cached => ?_).mono (by omega)
      cases cached with
      | some result =>
        exact ((hrelease token).bind fun _ => hvoid _).mono (by omega)
      | none =>
        have hpublish : (publish settings.resultCacheTtl
            (runBody body (.acquired token))).AtMost P n :=
          (hrun _).bind (m := 0) fun result => by
            cases result with
            | some result => exact hask _ id
            | none => trivial
        exact hpublish.tryFinally (hrelease token)

end Calls

/-! ### What the calls do -/

/-- The lock and the cached result of one key, and the world of the body. -/
structure Guarded (ρ : Type) (σ : Type*) where
  lock : Cell Token
  result : Cell ρ
  /-- The clock of the server. -/
  now : Timestamp
  /-- Tokens below this number have been drawn. -/
  issued : Token
  /-- How a call of the lock fares. -/
  lockLink : Link
  /-- How a call of the cache fares. -/
  cacheLink : Link
  inner : σ

namespace Guarded

/-- `get`. -/
def cacheGet (w : Guarded ρ σ) : Option ρ :=
  match w.cacheLink with
  | .up => w.result.read w.now
  | _ => none

/-- `set`. -/
def cacheSet (w : Guarded ρ σ) (result : ρ) (ttlSeconds : ℤ) : Guarded ρ σ :=
  match w.cacheLink with
  | .down => w
  | _ => { w with result := some ⟨result, w.now + seconds ttlSeconds⟩ }

def acquire (w : Guarded ρ σ) (ttlSeconds : ℤ) :
    Except LockError (Option Token) × Guarded ρ σ :=
  if ttlSeconds ≤ 0 then (.error .valueError, w)
  else
    let drawn := { w with issued := w.issued + 1 }
    let set := w.lock.setNX w.now w.issued (seconds ttlSeconds)
    w.lockLink.send .distributedLockError
      (if set.1 then some w.issued else none, { drawn with lock := set.2 }) drawn

def release (w : Guarded ρ σ) (token : Token) : Except LockError Bool × Guarded ρ σ :=
  let deleted := w.lock.deleteIf w.now token
  w.lockLink.send .distributedLockError (deleted.1, { w with lock := deleted.2 }) w

end Guarded

def guardHandle (h : Handler J σ) : Handler (GuardApi J ρ) (Guarded ρ σ)
  | .cacheGet, w => (w.cacheGet, w)
  | .cacheSet result ttl, w => ((), w.cacheSet result ttl)
  | .acquire ttl, w => w.acquire ttl
  | .release token, w => w.release token
  | .enter _, w => ((), w)
  | .body c, w => ((h c w.inner).1, { w with inner := (h c w.inner).2 })

theorem inner_of_not_isBody {h : Handler J σ} {c : GuardCall J ρ} (hc : ¬c.IsBody)
    (w : Guarded ρ σ) : (guardHandle h c w).2.inner = w.inner := by
  cases c with
  | cacheGet => rfl
  | cacheSet result ttl =>
    rw [guardHandle, Guarded.cacheSet]
    split <;> rfl
  | acquire ttl =>
    rw [guardHandle, Guarded.acquire]
    split
    · rfl
    · cases w.lockLink <;> rfl
  | release token =>
    rw [guardHandle, Guarded.release]
    cases w.lockLink <;> rfl
  | enter outcome => rfl
  | body c => exact absurd trivial hc

structure Elapses (env : σ → σ → Prop) (w w' : Guarded ρ σ) : Prop where
  lock : w'.lock = w.lock
  result : w'.result = w.result
  now : w.now ≤ w'.now
  issued : w'.issued = w.issued
  inner : env w.inner w'.inner

/-! ### A guard by itself -/

section Alone

variable {h : Handler J σ} {w : Guarded ρ σ}

theorem wp_embed_body {α : Type} {p : Prog J ε α}
    {Q : Except (GuardError ε) α → Guarded ρ σ → Prop} :
    (p.embed (bodyCalls J ρ) .body).wp (guardHandle h) Q w ↔
      p.wp h (fun r s => Q (r.mapError .body) { w with inner := s }) w.inner := by
  induction p generalizing w with
  | ret a => rfl
  | raise e => rfl
  | call c k ih => exact ih _

/-- A lock that is free and a cache that has no result, over healthy connections. -/
structure Guarded.Free (w : Guarded ρ σ) : Prop where
  lockLink : w.lockLink = .up
  cacheLink : w.cacheLink = .up
  lock : w.lock.read w.now = none
  result : w.result.read w.now = none

theorem wp_contend_of_free (hw : w.Free) {ttl : ℤ} (httl : 0 < ttl) (polls : ℕ) :
    (contend ttl polls : GuardM J ρ ε _).wp (guardHandle h)
      (fun r w' => r = .ok (.acquired w.issued) ∧
        w' = { w with issued := w.issued + 1,
                      lock := some ⟨w.issued, w.now + seconds ttl⟩ }) w := by
  have hacquire : w.acquire ttl = (.ok (some w.issued),
      { w with issued := w.issued + 1, lock := some ⟨w.issued, w.now + seconds ttl⟩ }) := by
    rw [Guarded.acquire, if_neg (by omega), hw.lockLink]
    simp [Link.send, Cell.setNX, hw.lock]
  have honce (retry : GuardM J ρ ε (Contention ρ)) :
      (contendOnce ttl retry).wp (guardHandle h)
        (fun r w' => r = .ok (.acquired w.issued) ∧
          w' = { w with issued := w.issued + 1,
                        lock := some ⟨w.issued, w.now + seconds ttl⟩ }) w := by
    refine wp_bind.mpr (wp_call.mpr ?_)
    rw [guardHandle, hacquire]
    exact ⟨rfl, rfl⟩
  cases polls with
  | zero => exact honce _
  | succ polls => exact honce _

theorem wp_releaseQuietly_of_up (hw : w.lockLink = .up) (token : Token) :
    (releaseQuietly token : GuardM J ρ ε Unit).wp (guardHandle h)
      (fun r w' => r = .ok () ∧ w'.inner = w.inner) w := by
  refine wp_tryCatch.mpr (wp_bind.mpr (wp_call.mpr ?_))
  rw [guardHandle, Guarded.release, hw]
  exact ⟨rfl, rfl⟩

theorem wp_publish {ttl : ℤ} {body : LockOutcome ρ → Prog J ε (Option ρ)}
    {outcome : LockOutcome ρ} {K : σ → Prop}
    (hbody : (body outcome).wp h (fun r s => (∃ result, r = .ok result) ∧ K s) w.inner) :
    (publish ttl (runBody body outcome)).wp (guardHandle h)
      (fun r w' => r = .ok () ∧ w'.lockLink = w.lockLink ∧ K w'.inner) w := by
  have hrun : (runBody body outcome).wp (guardHandle h)
      (fun r w' => (∃ result, r = .ok result) ∧ w'.lockLink = w.lockLink ∧ K w'.inner) w := by
    refine wp_bind.mpr (wp_call.mpr (wp_ret.mpr (wp_embed_body.mpr ?_)))
    refine wp_mono hbody ?_
    rintro _ s ⟨⟨result, rfl⟩, hK⟩
    exact ⟨⟨result, rfl⟩, rfl, hK⟩
  refine wp_bind.mpr (wp_mono hrun ?_)
  rintro _ w' ⟨⟨result, rfl⟩, hlink, hK⟩
  cases result with
  | none => exact ⟨rfl, hlink, hK⟩
  | some result =>
    refine wp_call.mpr (wp_ret.mpr ⟨rfl, ?_⟩)
    rw [guardHandle, Guarded.cacheSet]
    cases w'.cacheLink <;> exact ⟨hlink, hK⟩

theorem wp_guard_of_free {settings : GuardSettings} {body : LockOutcome ρ → Prog J ε (Option ρ)}
    (hw : w.Free) (httl : 0 < settings.ttlSeconds) {K : σ → Prop}
    (hbody : (body (.acquired w.issued)).wp h (fun r s => (∃ result, r = .ok result) ∧ K s)
      w.inner) :
    (guard settings body).wp (guardHandle h) (fun r w' => r = .ok () ∧ K w'.inner) w := by
  have hget {lock : Cell Token} {issued : Token} :
      (guardHandle h .cacheGet { w with lock, issued }).1 = none := by
    rw [hw.cacheLink]
    exact hw.result
  refine wp_bind.mpr (wp_call.mpr ?_)
  rw [hget]
  refine wp_ret.mpr (wp_bind.mpr ?_)
  refine wp_mono (wp_contend_of_free hw httl settings.polls) ?_
  rintro _ _ ⟨rfl, rfl⟩
  refine wp_bind.mpr (wp_call.mpr ?_)
  rw [hget]
  refine wp_ret.mpr (wp_bind.mpr (wp_tryCatch.mpr ?_))
  refine wp_mono (wp_publish hbody) ?_
  rintro _ w' ⟨rfl, hlink, hK⟩
  refine wp_bind.mpr (wp_mono (wp_releaseQuietly_of_up ?_ w.issued) ?_)
  · exact hlink.trans hw.lockLink
  · rintro _ w'' ⟨rfl, hinner⟩
    exact wp_ret.mpr ⟨rfl, by rwa [hinner]⟩

end Alone

/-! ### A guard among others -/

section Sound

variable {T : Terms (Guarded ρ σ)} {h : Handler J σ}
  {A G : Past (GuardApi J ρ) (Guarded ρ σ) → Guarded ρ σ → GuardCall J ρ → Prop}
  {settings : GuardSettings} {body : LockOutcome ρ → Prog J ε (Option ρ)}
  {past : Past (GuardApi J ρ) (Guarded ρ σ)} {w : Guarded ρ σ}

def FoundResult (past : Past (GuardApi J ρ) (Guarded ρ σ)) : Prop :=
  ∃ e ∈ past, e.2 = .cacheGet ∧ e.1.cacheGet.isSome

theorem FoundResult.cons {e : Guarded ρ σ × GuardCall J ρ} (hpast : FoundResult past) :
    FoundResult (e :: past) := by
  obtain ⟨e', he', hfound⟩ := hpast
  exact ⟨e', .tail _ he', hfound⟩

theorem contendOnce_keeps (hplain : ∀ c past w, c.IsPlain → G past w c) {ttl : ℤ}
    {retry : GuardM J ρ ε (Contention ρ)}
    (hretry : ∀ past w, retry.Sound T (guardHandle h) A G
      (fun r past _ => ∀ result, r = .ok (.cached result) → FoundResult past) past w) :
    (contendOnce ttl retry).Sound T (guardHandle h) A G
      (fun r past _ => ∀ result, r = .ok (.cached result) → FoundResult past) past w := by
  intro w₁ _ _
  refine ⟨hplain _ _ _ trivial, fun _ => ?_⟩
  cases (guardHandle h (.acquire ttl) w₁).1 with
  | error e => exact sound_raise fun _ _ _ _ hr => by cases hr
  | ok token =>
    cases token with
    | some token => exact sound_ret fun _ _ _ _ hr => by cases hr
    | none =>
      intro w₂ _ _
      refine ⟨hplain _ _ _ trivial, fun _ => ?_⟩
      cases hget : (guardHandle h .cacheGet w₂).1 with
      | none => exact hretry _ _
      | some result =>
        exact sound_ret fun _ _ _ _ _ => ⟨_, .head _, rfl, Option.isSome_of_eq_some hget⟩

theorem contend_keeps (hplain : ∀ c past w, c.IsPlain → G past w c) {ttl : ℤ} (polls : ℕ) :
    (contend ttl polls : GuardM J ρ ε _).Sound T (guardHandle h) A G
      (fun r past _ => ∀ result, r = .ok (.cached result) → FoundResult past) past w := by
  induction polls generalizing past w with
  | zero =>
    exact contendOnce_keeps hplain fun _ _ => sound_ret fun _ _ _ _ hr => by cases hr
  | succ polls ih => exact contendOnce_keeps hplain fun _ _ => ih

theorem releaseQuietly_keeps (hplain : ∀ c past w, c.IsPlain → G past w c) (token : Token)
    {K : Past (GuardApi J ρ) (Guarded ρ σ) → Prop} (hpast : K past)
    (hK : ∀ e past, K past → K (e :: past)) :
    (releaseQuietly token : GuardM J ρ ε _).Sound T (guardHandle h) A G (fun _ past _ => K past)
      past w := by
  have honly : (releaseQuietly token : GuardM J ρ ε _).Only GuardCall.IsPlain := by
    refine Only.tryCatch (Only.bind ⟨trivial, fun r => ?_⟩ fun _ => trivial) fun e => ?_
    · beta_reduce
      cases id r <;> trivial
    · split <;> trivial
  exact honly.sound hpast fun c hc past w hpast => ⟨hplain c past w hc, hK _ _ hpast⟩

/-- **What a guard keeps to while others work**, if its bodies do: a cached outcome is handed
out only when a result has been found, and what is published is what the body has set. -/
theorem guard_keeps {Good : Past (GuardApi J ρ) (Guarded ρ σ) → Prop}
    (hplain : ∀ c past w, c.IsPlain → G past w c)
    (hset : ∀ past w result ttl, Good past → G past w (.cacheSet result ttl))
    (hcached : ∀ result past w, FoundResult past →
      (runBody body (.cached result)).Sound T (guardHandle h) A G (fun _ _ _ => True) past w)
    (hcontended : ∀ past w,
      (runBody body .contended).Sound T (guardHandle h) A G (fun _ _ _ => True) past w)
    (hacquired : ∀ token past w,
      (runBody body (.acquired token)).Sound T (guardHandle h) A G
        (fun r past _ => ∀ result, r = .ok (some result) → Good past) past w) :
    (guard settings body).Sound T (guardHandle h) A G (fun _ _ _ => True) past w := by
  have htrue : ∀ {α : Type} {p : GuardM J ρ ε α} {past w},
      p.Sound T (guardHandle h) A G (fun _ _ _ => True) past w →
      p.void.Sound T (guardHandle h) A G (fun _ _ _ => True) past w :=
    fun hp => sound_void (hp.mono fun _ _ _ _ => trivial)
  intro w₁ _ _
  refine ⟨hplain _ _ _ trivial, fun _ => ?_⟩
  cases hget : (guardHandle h .cacheGet w₁).1 with
  | some result => exact htrue (hcached _ _ _ ⟨_, .head _, rfl, Option.isSome_of_eq_some hget⟩)
  | none =>
    refine (contend_keeps hplain settings.polls).bind (fun contention past₁ w hfound => ?_)
      fun _ _ _ _ => trivial
    cases contention with
    | cached result => exact htrue (hcached _ _ _ (hfound result rfl))
    | contended =>
      cases settings.onContended with
      | returns => exact htrue (hcontended _ _)
      | raises => exact sound_raise fun _ _ _ => trivial
    | acquired token =>
      intro w₂ _ _
      refine ⟨hplain _ _ _ trivial, fun _ => ?_⟩
      cases hget : (guardHandle h .cacheGet w₂).1 with
      | some result =>
        have hfound : FoundResult ((w₂, .cacheGet) :: past₁) :=
          ⟨_, .head _, rfl, Option.isSome_of_eq_some hget⟩
        refine (releaseQuietly_keeps hplain token hfound fun _ _ => FoundResult.cons).bind
          (fun _ past w hfound => htrue (hcached _ _ _ hfound)) fun _ _ _ _ => trivial
      | none =>
        refine Sound.tryFinally (Q := fun _ _ _ => True) ?_ (fun _ past w _ => ?_)
          fun _ _ _ _ _ _ => trivial
        · refine (hacquired token _ _).bind (fun result past w hgood => ?_)
            fun _ _ _ _ => trivial
          cases result with
          | none => exact sound_ret fun _ _ _ => trivial
          | some result =>
            exact fun w₃ _ _ => ⟨hset _ _ _ _ (hgood result rfl), fun _ =>
              sound_ret fun _ _ _ => trivial⟩
        · refine (releaseQuietly_keeps hplain token (K := fun _ => True) trivial
            fun _ _ _ => trivial).mono fun r _ _ _ => ?_
          cases r <;> trivial

end Sound

/-! ### The lock of the guard is the distributed lock -/

/-- Over a healthy connection, `acquire` of the guard is the one of `DistributedLock`, seen
from its key. -/
theorem acquire_refines {C : Type*} [DecidableEq C] {self : DistributedLock} {ns key : PyStr}
    {client : C} {net : Network} {w : LockWorld C} {g : Guarded ρ σ} {ttl : ℤ}
    (hself : self.configured) (hlatch : (w.latch client).healthy)
    (hlock : g.lock = w.locks (fullKey ns key)) (hnow : g.now = w.now)
    (hissued : g.issued = w.issued) (hlink : g.lockLink = net.command) :
    (g.acquire ttl).1 = (w.acquire self ns client key (some ttl) net).1 ∧
      (g.acquire ttl).2.lock =
        (w.acquire self ns client key (some ttl) net).2.locks (fullKey ns key) := by
  obtain ⟨latch, hconnect⟩ := @connect_of_healthy _ _ (fun _ => self) _ _ net hself hlatch
  simp only [Guarded.acquire, LockWorld.acquire, hconnect, Option.getD_some]
  split
  · exact ⟨rfl, hlock⟩
  · simp only [LockWorld.send, LockStore.setNxEx, hlock, hnow, hissued, hlink]
    cases hset : ((w.locks (fullKey ns key)).setNX w.now w.issued (seconds ttl)).1 <;>
      cases net.command <;> simp [Link.send, LockStore.set]

end IsaUser.Core
