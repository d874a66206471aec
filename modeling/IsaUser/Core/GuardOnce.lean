import IsaUser.Core.Guard

/-!
# Guarded Bodies Run at Most Once

Any number of users guard their bodies with the same key. As long as no body outlives the
lock it runs under, and the cache keeps what is published, one body runs at most: a user
that acquires the lock after another has published finds the result when it looks again.

Where a user stands is computed from what it has done (`phase`). The invariant ties the
phases of all users to the lock and to the cache.
-/

open IsaUser.Prog Option Function

namespace IsaUser.Core

variable {J : Interface} {ρ ε : Type} {σ ι : Type*}

/-! ### The law -/

abbrev GuardPast (J : Interface) (ρ : Type) (σ : Type*) := Past (GuardApi J ρ) (Guarded ρ σ)

def outcomes : GuardPast J ρ σ → List (LockOutcome ρ)
  | [] => []
  | (_, .enter outcome) :: past => outcome :: outcomes past
  | _ :: past => outcomes past

/-- How often a user has executed its body: it was handed an outcome with a token. -/
def executions (past : GuardPast J ρ σ) : ℕ :=
  (outcomes past).countP fun outcome => outcome.token.isSome

def ExecutedOnce (past : ι → GuardPast J ρ σ) : Prop :=
  (∀ i, executions (past i) ≤ 1) ∧
    ∀ i j, 0 < executions (past i) → 0 < executions (past j) → i = j

/-- A user that has ended without executing its body got a cached or a contended outcome, or
`LockContended`. -/
def TurnedAway (past : GuardPast J ρ σ) (p : GuardM J ρ ε Unit) : Prop :=
  (∃ outcome ∈ outcomes past, outcome.token = none) ∨ p = .raise .lockContended

/-! ### Where a user stands -/

/-- Where a user of the guard stands: outside, with the lock, after the second look into the
cache, in its body, after the publication, on the way out after a hit, or out again. The
deadline is the instant at which its lock expires. -/
inductive Phase where
  | outside
  | holding (token : Token) (deadline : Timestamp)
  | checked (token : Token) (deadline : Timestamp)
  | running (token : Token) (deadline : Timestamp)
  | published (token : Token)
  | leaving (token : Token)
  | out (executed : Bool)
  deriving DecidableEq, Repr

def Phase.next (phase : Phase) (w : Guarded ρ σ) : GuardCall J ρ → Phase
  | .acquire ttl =>
    match (w.acquire ttl).1 with
    | .ok (some token) => .holding token (w.now + seconds ttl)
    | _ => phase
  | .cacheGet =>
    match phase with
    | .holding token deadline =>
      if w.cacheGet.isSome then .leaving token else .checked token deadline
    | _ => phase
  | .enter outcome =>
    match phase with
    | .checked token deadline => if outcome.token.isSome then .running token deadline else phase
    | _ => phase
  | .cacheSet _ _ =>
    match phase with
    | .running token _ => .published token
    | _ => phase
  | .release _ =>
    match phase with
    | .published _ => .out true
    | .leaving _ => .out false
    | _ => phase
  | .body _ => phase

def phase : GuardPast J ρ σ → Phase
  | [] => .outside
  | (w, c) :: past => (phase past).next w c

def Phase.entered : Phase → Bool
  | running _ _ => true
  | published _ => true
  | out executed => executed
  | _ => false

def Phase.token? : Phase → Option Token
  | holding token _ => some token
  | checked token _ => some token
  | running token _ => some token
  | published token => some token
  | leaving token => some token
  | _ => none

def Phase.lock? : Phase → Option (Token × Timestamp)
  | holding token deadline => some (token, deadline)
  | checked token deadline => some (token, deadline)
  | running token deadline => some (token, deadline)
  | _ => none

def Phase.deadline? : Phase → Option Timestamp
  | running _ deadline => some deadline
  | _ => none

def Phase.entryDeadline : Phase → Option Timestamp
  | checked _ deadline => some deadline
  | _ => none

/-! ### The condition -/

/-- The call is a `yield`. -/
def GuardCall.isEnter : GuardCall J ρ → Bool
  | enter _ => true
  | _ => false

/-- The call is a `SET`. -/
def GuardCall.isAcquire : GuardCall J ρ → Bool
  | acquire _ => true
  | _ => false

/-- Every body finishes and publishes before its lock expires, the cache neither fails nor
loses a result, and `SET` is answered: no body is past its deadline when it is entered, and
at no call of anyone is one past its deadline that runs. -/
def InTime (i : ι) (past : ι → GuardPast J ρ σ) (w : Guarded ρ σ) (c : GuardCall J ρ) : Prop :=
  (∀ j, ∀ deadline ∈ (phase (past j)).deadline?, w.now < deadline) ∧
    (c.isEnter → ∀ deadline ∈ (phase (past i)).entryDeadline, w.now < deadline) ∧
    w.cacheLink = .up ∧ (∀ e ∈ w.result, w.now < e.expiresAt) ∧
    (c.isAcquire → w.lockLink = .up)

instance [Fintype ι] (i : ι) (past : ι → GuardPast J ρ σ) (w : Guarded ρ σ)
    (c : GuardCall J ρ) : Decidable (InTime i past w c) :=
  inferInstanceAs (Decidable (_ ∧ _))

/-! ### One user -/

def InPhase (past : GuardPast J ρ σ) (_ : Guarded ρ σ) : GuardCall J ρ → Prop
  | .acquire ttl => phase past = .outside ∧ 0 < ttl
  | .enter outcome =>
    if outcome.token.isSome then ∃ token deadline, phase past = .checked token deadline
    else (phase past).entryDeadline = none
  | .cacheSet _ _ => ∃ token deadline, phase past = .running token deadline
  | .release token => phase past = .published token ∨ phase past = .leaving token
  | _ => True

def Answered (_ : GuardPast J ρ σ) (w : Guarded ρ σ) (c : GuardCall J ρ) : Prop :=
  c.isAcquire → w.lockLink = .up

abbrev GuardSound {α : Type} (h : Handler J σ)
    (Q : Except (GuardError ε) α → GuardPast J ρ σ → Guarded ρ σ → Prop)
    (p : GuardM J ρ ε α) (past : GuardPast J ρ σ) (w : Guarded ρ σ) : Prop :=
  p.Sound (Terms.ofInv fun _ => True) (guardHandle h) Answered InPhase Q past w

section OneUser

variable {α β : Type} {h : Handler J σ} {past : GuardPast J ρ σ} {w : Guarded ρ σ}
  {Q : Except (GuardError ε) β → GuardPast J ρ σ → Guarded ρ σ → Prop}
  {body : LockOutcome ρ → Prog J ε (Option ρ)} {token : Token} {ttl : ℤ}

theorem sound_ask {c : GuardCall J ρ} {f : c.Reply → GuardM J ρ ε β}
    (hf : ∀ w', InPhase past w' c ∧ (Answered past w' c →
      GuardSound h Q (f (guardHandle h c w').1) ((w', c) :: past) (guardHandle h c w').2)) :
    GuardSound h Q (ask c >>= f) past w := fun w' _ _ => hf w'

def GotOutcome (past : GuardPast J ρ σ) : Prop := ∃ outcome ∈ outcomes past, outcome.token = none

theorem runBody_sound {outcome : LockOutcome ρ} (houtcome : outcome.token = none)
    (hphase : (phase past).entryDeadline = none) :
    GuardSound h (fun _ past _ => GotOutcome past) (runBody body outcome) past w := by
  refine sound_ask fun w₁ => ⟨?_, fun _ => ?_⟩
  · rw [InPhase, houtcome]
    exact hphase
  · have honly : ((body outcome).embed (bodyCalls J ρ) GuardError.body).Only
        fun c => ∃ c' : J.Call, c = GuardCall.body c' :=
      Only.embed (only_of_forall _ fun c => ⟨c, rfl⟩)
    refine honly.sound (K := GotOutcome) ⟨outcome, List.mem_cons_self, houtcome⟩ ?_
    rintro _ ⟨c, rfl⟩ past w hpast
    exact ⟨trivial, hpast⟩

theorem embed_sound {p : Prog J ε (Option ρ)} {deadline : Timestamp}
    (hp : p.Returns fun r => r.isSome) (hphase : phase past = .running token deadline)
    (hexecuted : 0 < executions past) :
    GuardSound h (fun r past _ => (∃ result, r = .ok (some result)) ∧
      phase past = .running token deadline ∧ 0 < executions past)
      (p.embed (bodyCalls J ρ) .body) past w := by
  induction p generalizing past w with
  | ret r =>
    obtain ⟨result, rfl⟩ := isSome_iff_exists.mp hp
    exact sound_ret fun _ _ _ => ⟨⟨result, rfl⟩, hphase, hexecuted⟩
  | raise e => exact hp.elim
  | call c k ih => exact fun w' _ _ => ⟨trivial, fun _ => ih _ (hp _) hphase hexecuted⟩

def Contended (r : Except (GuardError ε) (Contention ρ)) (past : GuardPast J ρ σ)
    (_ : Guarded ρ σ) : Prop :=
  match r with
  | .ok (.acquired token) => ∃ deadline, phase past = .holding token deadline
  | .ok _ => phase past = .outside
  | .error _ => False

theorem acquire_of_up (hlink : w.lockLink = .up) (httl : 0 < ttl) :
    ∃ r w', w.acquire ttl = (.ok r, w') := by
  simp [Guarded.acquire, not_le.mpr httl, hlink, Link.send]

theorem contendOnce_sound {retry : GuardM J ρ ε (Contention ρ)} (httl : 0 < ttl)
    (hphase : phase past = .outside)
    (hretry : ∀ past w, phase past = .outside → GuardSound h Contended retry past w) :
    GuardSound h Contended (contendOnce ttl retry) past w := by
  intro w₁ _ _
  refine ⟨⟨hphase, httl⟩, fun hlink => ?_⟩
  obtain ⟨r, w₂, hr⟩ := acquire_of_up (hlink rfl) httl
  simp only [guardHandle, hr]
  cases r with
  | some token =>
    refine sound_ret fun _ _ _ => ⟨w₁.now + seconds ttl, ?_⟩
    rw [phase, Phase.next, hr]
  | none =>
    refine sound_ask fun w₃ => ⟨trivial, fun _ => ?_⟩
    have houtside : phase ((w₃, GuardCall.cacheGet) ::
        (w₁, GuardCall.acquire (J := J) ttl) :: past) = .outside := by
      rw [phase, phase, Phase.next, hr, hphase]
      rfl
    cases hget : w₃.cacheGet with
    | some result =>
      simp only [guardHandle, hget]
      exact sound_ret fun _ _ _ => houtside
    | none =>
      simp only [guardHandle, hget]
      exact hretry _ _ houtside

theorem contend_sound (httl : 0 < ttl) (polls : ℕ) (hphase : phase past = .outside) :
    GuardSound h Contended (contend (ε := ε) ttl polls) past w := by
  induction polls generalizing past w with
  | zero =>
    exact contendOnce_sound httl hphase fun _ _ hphase => sound_ret fun _ _ _ => hphase
  | succ polls ih => exact contendOnce_sound httl hphase fun _ _ hphase => ih hphase

theorem releaseQuietly_sound {P : GuardPast J ρ σ → Prop}
    (hphase : phase past = .published token ∨ phase past = .leaving token) (hP : P past)
    (hrelease : ∀ w, P past → P ((w, .release token) :: past)) :
    GuardSound h (fun r past _ => r = .ok () ∧ (phase past).entryDeadline = none ∧ P past)
      (releaseQuietly (ε := ε) token) past w := by
  intro w₁ _ _
  refine ⟨hphase, fun _ => ?_⟩
  have hentry : (phase ((w₁, GuardCall.release (J := J) token) :: past)).entryDeadline = none := by
    rcases hphase with hphase | hphase <;> simp [phase, Phase.next, hphase, Phase.entryDeadline]
  have hanswer : ∀ e, (w₁.release token).1 = .error e → e = .distributedLockError := by
    intro e he
    simp only [Guarded.release, Link.send] at he
    split at he
    · cases he
    · exact (Except.error.inj he).symm
    · exact (Except.error.inj he).symm
  cases hr : (w₁.release token).1 with
  | ok released =>
    simp only [guardHandle, hr]
    exact sound_ret fun _ _ _ => ⟨rfl, hentry, hrelease w₁ hP⟩
  | error e =>
    obtain rfl := hanswer e hr
    simp only [guardHandle, hr]
    exact sound_ret fun _ _ _ => ⟨rfl, hentry, hrelease w₁ hP⟩

def Finished (r : Except (GuardError ε) Unit) (past : GuardPast J ρ σ) (_ : Guarded ρ σ) : Prop :=
  0 < executions past ∨ GotOutcome past ∨ r = .error .lockContended

theorem runBody_finished {outcome : LockOutcome ρ} (houtcome : outcome.token = none)
    (hphase : (phase past).entryDeadline = none) :
    GuardSound h Finished (runBody body outcome).void past w :=
  sound_void ((runBody_sound houtcome hphase).mono fun _ _ _ hgot => .inr (.inl hgot))

theorem locked_sound {settings : GuardSettings} {deadline : Timestamp}
    (hbody : (body (.acquired token)).Returns fun r => r.isSome)
    (hphase : phase past = .checked token deadline) :
    GuardSound h Finished
      (publish settings.resultCacheTtl (runBody body (.acquired token))
        |>.tryFinally (releaseQuietly token)) past w := by
  refine Sound.tryFinally (Q := fun r past _ => r = .ok () ∧
    phase past = .published token ∧ 0 < executions past) ?_ ?_ fun _ _ _ _ _ h => h
  · refine Sound.bind (Q := fun r past _ => (∃ result, r = .ok (some result)) ∧
      phase past = .running token deadline ∧ 0 < executions past) ?_ ?_ ?_
    · refine sound_ask fun w₁ => ⟨⟨token, deadline, hphase⟩, fun _ => ?_⟩
      refine embed_sound hbody (.trans ?_ (rfl : _ = Phase.running token deadline)) ?_
      · rw [phase, hphase]
        rfl
      · simp [executions, outcomes, LockOutcome.acquired]
    · rintro _ past₁ w₁ ⟨⟨result, ⟨⟩⟩, hrunning, hexecuted⟩
      intro w₂ _ _
      refine ⟨⟨token, deadline, hrunning⟩, fun _ => ?_⟩
      refine sound_ret fun _ _ _ => ⟨rfl, ?_, hexecuted⟩
      rw [phase, hrunning]
      rfl
    · rintro e past₁ w₁ ⟨⟨result, h⟩, -⟩
      cases h
  · rintro r past₁ w₁ ⟨rfl, hpublished, hexecuted⟩
    refine (releaseQuietly_sound (P := fun past => 0 < executions past) (.inl hpublished)
      hexecuted fun _ h => h).mono ?_
    rintro _ past₂ w₂ ⟨rfl, -, hexecuted⟩
    exact .inl hexecuted

/-- **A user of the guard makes each call in its phase**, whatever others do in between. -/
theorem guard_sound {settings : GuardSettings} (httl : 0 < settings.ttlSeconds)
    (hbody : ∀ token, (body (.acquired token)).Returns fun r => r.isSome) :
    GuardSound h Finished (guard settings body) [] w := by
  refine sound_ask fun w₁ => ⟨trivial, fun _ => ?_⟩
  have houtside : phase [((w₁, GuardCall.cacheGet) : Guarded ρ σ × GuardCall J ρ)] = .outside := rfl
  cases hget : w₁.cacheGet with
  | some result =>
    simp only [guardHandle, hget]
    exact runBody_finished rfl rfl
  | none =>
    simp only [guardHandle, hget]
    refine (contend_sound httl settings.polls houtside).bind ?_ fun _ _ _ h => h.elim
    intro r past₂ w₂ hr
    cases r with
    | cached result =>
      have houtside₂ : phase past₂ = .outside := hr
      exact runBody_finished rfl (by rw [houtside₂]; rfl)
    | contended =>
      dsimp only
      split
      · exact runBody_finished rfl (by rw [show phase past₂ = .outside from hr]; rfl)
      · exact sound_raise fun _ _ _ => .inr (.inr rfl)
    | acquired token =>
      obtain ⟨deadline, hholding⟩ := hr
      refine sound_ask fun w₃ => ⟨trivial, fun _ => ?_⟩
      cases hget₃ : w₃.cacheGet with
      | some result =>
        simp only [guardHandle, hget₃]
        have hleaving : phase ((w₃, GuardCall.cacheGet) :: past₂) = .leaving token := by
          rw [phase, hholding, Phase.next, hget₃]
          rfl
        refine (releaseQuietly_sound (P := fun _ => True) (.inr hleaving) trivial
          fun _ _ => trivial).bind (fun _ past₄ w₄ h => ?_) fun _ _ _ h => by cases h.1
        exact runBody_finished rfl h.2.1
      | none =>
        simp only [guardHandle, hget₃]
        refine locked_sound (hbody token) (.trans ?_ (rfl : _ = Phase.checked token deadline))
        rw [phase, hholding, Phase.next, hget₃]
        rfl

end OneUser

/-! ### All users -/

/-- What ties the users to the lock and to the cache. -/
structure Orderly (w : Guarded ρ σ) (phases : ι → Phase) : Prop where
  /-- Tokens that are stored have been drawn. -/
  stored : ∀ e ∈ w.lock, e.value < w.issued
  /-- Tokens that were given out have been drawn. -/
  drawn : ∀ i, ∀ token ∈ (phases i).token?, token < w.issued
  /-- No two users have the same token. -/
  distinct : ∀ i j, ∀ token ∈ (phases i).token?, token ∈ (phases j).token? → i = j
  /-- A user that has not published owns the lock until its deadline. -/
  locked : ∀ i, ∀ l ∈ (phases i).lock?, w.now < l.2 → w.lock = some ⟨l.1, l.2⟩
  /-- What was published is in the cache. -/
  result : ∀ i, (phases i).entered → (phases i).deadline? = none → w.result.isSome
  /-- When a user is about to enter its body, no other has entered. -/
  alone : ∀ i, ∀ deadline ∈ (phases i).entryDeadline, w.now < deadline →
    ∀ j, (phases j).entered = false
  /-- At most one user has entered. -/
  once : ∀ i j, (phases i).entered → (phases j).entered → i = j

section Orderly

variable {w w' : Guarded ρ σ} {phases : ι → Phase}

theorem Orderly.of_kept (ho : Orderly w phases) (hlock : w'.lock = w.lock)
    (hresult : w'.result = w.result) (hnow : w.now ≤ w'.now) (hissued : w.issued ≤ w'.issued) :
    Orderly w' phases where
  stored e he := (ho.stored e (hlock ▸ he)).trans_le hissued
  drawn i token h := (ho.drawn i token h).trans_le hissued
  distinct := ho.distinct
  locked i l hl h := hlock.trans (ho.locked i l hl (hnow.trans_lt h))
  result i h h' := hresult ▸ ho.result i h h'
  alone i d hd h := ho.alone i d hd (hnow.trans_lt h)
  once := ho.once

theorem token_of_lock {phase : Phase} {l : Token × Timestamp} (hl : l ∈ phase.lock?) :
    l.1 ∈ phase.token? := by
  cases phase <;> cases hl <;> rfl

theorem Orderly.owner_unique (ho : Orderly w phases) {i j : ι} {l l' : Token × Timestamp}
    (hl : l ∈ (phases i).lock?) (hl' : l' ∈ (phases j).lock?) (hnow : w.now < l.2)
    (hnow' : w.now < l'.2) : i = j := by
  have hsame := (ho.locked i l hl hnow).symm.trans (ho.locked j l' hl' hnow')
  have heq : l.1 = l'.1 := by simpa using congrArg (Option.map Expiring.value) hsame
  exact ho.distinct i j l.1 (token_of_lock hl) (heq ▸ token_of_lock hl')

variable [DecidableEq ι] {i : ι} {next : Phase}

/-- User `i` moves to another phase. It keeps no token and no lock that it did not have; the
lock of the others is not touched; and if it enters, or is about to, it is alone. -/
theorem Orderly.move (ho : Orderly w phases) (hnow : w'.now = w.now)
    (hissued : w'.issued = w.issued) (hstored : ∀ e ∈ w'.lock, e ∈ w.lock)
    (hresult : w.result.isSome → w'.result.isSome)
    (htoken : ∀ token ∈ next.token?, token ∈ (phases i).token?)
    (hlock : ∀ l ∈ next.lock?, l ∈ (phases i).lock? ∧ w'.lock = w.lock)
    (hothers : ∀ j ≠ i, ∀ l ∈ (phases j).lock?, w.now < l.2 → w'.lock = w.lock)
    (hpublished : next.entered → next.deadline? = none → w'.result.isSome)
    (halone : ∀ deadline ∈ next.entryDeadline, w.now < deadline → ∀ j, (phases j).entered = false)
    (henter : next.entered → (phases i).entered ∨ ∀ j, (phases j).entered = false ∧
      (j ≠ i → ∀ deadline ∈ (phases j).entryDeadline, deadline ≤ w.now)) :
    Orderly w' (Function.update phases i next) := by
  have hself : update phases i next i = next := update_self _ _ _
  have hne : ∀ j, j ≠ i → update phases i next j = phases j :=
    fun j hj => update_of_ne hj _ _
  have hentered : ∀ j, (update phases i next j).entered → j = i ∨ (phases j).entered := by
    intro j hj
    rcases eq_or_ne j i with rfl | hji
    · exact .inl rfl
    · exact .inr (hne j hji ▸ hj)
  have htokens : ∀ j, ∀ token ∈ (update phases i next j).token?,
      token ∈ (phases j).token? := by
    intro j token h
    rcases eq_or_ne j i with rfl | hji
    · exact htoken token (hself ▸ h)
    · exact hne j hji ▸ h
  constructor
  · exact fun e he => hissued.symm ▸ ho.stored e (hstored e he)
  · exact fun j token h => hissued.symm ▸ ho.drawn j token (htokens j token h)
  · exact fun j k token h h' => ho.distinct j k token (htokens j token h) (htokens k token h')
  · intro j l hl hlt
    rw [hnow] at hlt
    rcases eq_or_ne j i with rfl | hji
    · rw [hself] at hl
      exact (hlock l hl).2.trans (ho.locked j l (hlock l hl).1 hlt)
    · rw [hne j hji] at hl
      exact (hothers j hji l hl hlt).trans (ho.locked j l hl hlt)
  · intro j h h'
    rcases eq_or_ne j i with rfl | hji
    · rw [hself] at h h'
      exact hpublished h h'
    · rw [hne j hji] at h h'
      exact hresult (ho.result j h h')
  · intro j deadline hd hlt k
    rw [hnow] at hlt
    by_contra hk
    rw [Bool.not_eq_false] at hk
    rcases eq_or_ne j i with rfl | hji
    · rw [hself] at hd
      rcases hentered k hk with rfl | hk'
      · cases next <;> simp [Phase.entryDeadline, Phase.entered] at hd hk
      · simp [halone deadline hd hlt k] at hk'
    · rw [hne j hji] at hd
      rcases hentered k hk with rfl | hk'
      · rw [hself] at hk
        rcases henter hk with h | h
        · simp [ho.alone j deadline hd hlt k] at h
        · exact absurd hlt (not_lt.mpr ((h j).2 hji deadline hd))
      · simp [ho.alone j deadline hd hlt k] at hk'
  · intro j k hj hk
    have hmixed : ∀ k, k ≠ i → next.entered → (phases k).entered → k = i := by
      intro k hki hnext hk
      rcases henter hnext with h | h
      · exact ho.once k i hk h
      · simp [(h k).1] at hk
    by_cases hji : j = i <;> by_cases hki : k = i
    · rw [hji, hki]
    · rw [hji, hself] at hj
      rw [hne k hki] at hk
      exact hji.trans (hmixed k hki hj hk).symm
    · rw [hki, hself] at hk
      rw [hne j hji] at hj
      exact (hmixed j hji hk hj).trans hki.symm
    · rw [hne j hji] at hj
      rw [hne k hki] at hk
      exact ho.once j k hj hk

/-- User `i` gets the lock, which nobody owned. -/
theorem Orderly.acquired (ho : Orderly w phases) {ttl : ℤ} (hi : phases i = .outside)
    (hfree : w.lock.read w.now = none) (hnow : w'.now = w.now)
    (hissued : w'.issued = w.issued + 1)
    (hlock : w'.lock = some ⟨w.issued, w.now + seconds ttl⟩) (hresult : w'.result = w.result) :
    Orderly w' (Function.update phases i (.holding w.issued (w.now + seconds ttl))) := by
  have hself : update phases i (.holding w.issued (w.now + seconds ttl)) i =
      .holding w.issued (w.now + seconds ttl) := update_self _ _ _
  have hne : ∀ j, j ≠ i →
      update phases i (.holding w.issued (w.now + seconds ttl)) j = phases j :=
    fun j hj => update_of_ne hj _ _
  have hlt : w.issued < w'.issued := hissued ▸ Nat.lt_succ_self _
  have hentered : ∀ j, (update phases i
      (.holding w.issued (w.now + seconds ttl)) j).entered = (phases j).entered := by
    intro j
    rcases eq_or_ne j i with rfl | hji
    · rw [hself, hi]
      rfl
    · rw [hne j hji]
  have htoken : ∀ j ≠ i, ∀ token ∈ (phases j).token?, token < w.issued :=
    fun j _ => ho.drawn j
  constructor
  · intro e he
    rw [hlock] at he
    obtain rfl := some.inj he
    exact hlt
  · intro j token h
    rcases eq_or_ne j i with rfl | hji
    · rw [hself] at h
      obtain rfl := some.inj h
      exact hlt
    · exact (htoken j hji token (hne j hji ▸ h)).trans hlt
  · intro j k token hj hk
    by_cases hji : j = i <;> by_cases hki : k = i
    · rw [hji, hki]
    · rw [hji, hself] at hj
      obtain rfl := some.inj hj
      exact absurd (htoken k hki _ (hne k hki ▸ hk)) (lt_irrefl _)
    · rw [hki, hself] at hk
      obtain rfl := some.inj hk
      exact absurd (htoken j hji _ (hne j hji ▸ hj)) (lt_irrefl _)
    · exact ho.distinct j k token (hne j hji ▸ hj) (hne k hki ▸ hk)
  · intro j l hl h
    rcases eq_or_ne j i with rfl | hji
    · rw [hself] at hl
      obtain rfl := some.inj hl
      exact hlock
    · rw [hne j hji] at hl
      rw [hnow] at h
      have hread := ho.locked j l hl h
      rw [hread] at hfree
      exact absurd hfree (by simp [Cell.read, h])
  · intro j h h'
    rw [hentered] at h
    rw [hresult]
    refine ho.result j h ?_
    rcases eq_or_ne j i with rfl | hji
    · rw [hi]
      rfl
    · exact hne j hji ▸ h'
  · intro j deadline hd h k
    rw [hentered]
    rw [hnow] at h
    rcases eq_or_ne j i with rfl | hji
    · rw [hself] at hd
      cases hd
    · exact ho.alone j deadline (hne j hji ▸ hd) h k
  · intro j k hj hk
    rw [hentered] at hj hk
    exact ho.once j k hj hk

theorem Orderly.keep (ho : Orderly w phases) (hnext : next = phases i)
    (hlock : w'.lock = w.lock) (hresult : w'.result = w.result) (hnow : w'.now = w.now)
    (hissued : w.issued ≤ w'.issued) : Orderly w' (Function.update phases i next) := by
  rw [hnext, update_eq_self]
  exact ho.of_kept hlock hresult hnow.ge hissued

section Calls

variable {h : Handler J σ} {past : ι → GuardPast J ρ σ}

theorem orderly_acquire (ho : Orderly w fun j => phase (past j)) {ttl : ℤ}
    (htime : InTime i past w (.acquire ttl)) (hphase : InPhase (past i) w (.acquire ttl)) :
    Orderly (w.acquire ttl).2
      (Function.update (fun j => phase (past j)) i
        ((phase (past i)).next w (.acquire (J := J) ttl))) := by
  obtain ⟨houtside, httl⟩ := hphase
  have hlink := htime.2.2.2.2 rfl
  have hrun : w.acquire ttl =
      (.ok (if (w.lock.setNX w.now w.issued (seconds ttl)).1 then some w.issued else none),
        { w with
          issued := w.issued + 1
          lock := (w.lock.setNX w.now w.issued (seconds ttl)).2 }) := by
    simp only [Guarded.acquire, if_neg (not_le.mpr httl), hlink, Link.send]
  rw [Phase.next, hrun]
  cases hset : (w.lock.setNX w.now w.issued (seconds ttl)).1 with
  | true =>
    obtain ⟨hfree, hlock⟩ := Cell.setNX_of_true hset
    exact ho.acquired houtside hfree rfl rfl hlock rfl
  | false =>
    have hkept : (w.lock.setNX w.now w.issued (seconds ttl)).2 = w.lock := by
      cases hread : w.lock.read w.now with
      | none => simp [Cell.setNX, hread] at hset
      | some token => rw [Cell.setNX_of_some hread]
    exact ho.keep rfl hkept rfl rfl (Nat.le_succ _)

theorem orderly_cacheGet (ho : Orderly w fun j => phase (past j))
    (htime : InTime i past w .cacheGet) :
    Orderly w (Function.update (fun j => phase (past j)) i
      ((phase (past i)).next w (.cacheGet (J := J)))) := by
  obtain ⟨hrunning, -, hlink, hlive, -⟩ := htime
  cases hi : phase (past i) with
  | holding token deadline =>
    have htoken : some token = (phase (past i)).token? := by rw [hi]; rfl
    have hlock : some (token, deadline) = (phase (past i)).lock? := by rw [hi]; rfl
    rw [Phase.next]
    cases hget : w.cacheGet with
    | some result =>
      exact ho.move rfl rfl (fun _ h => h) id (fun _ h => htoken ▸ h) nofun
        (fun _ _ _ _ _ => rfl) nofun nofun nofun
    | none =>
      refine ho.move rfl rfl (fun _ h => h) id (fun _ h => htoken ▸ h)
        (fun _ h => ⟨hlock ▸ h, rfl⟩) (fun _ _ _ _ _ => rfl) nofun ?_ nofun
      intro d hd hlt j
      obtain rfl : deadline = d := some.inj hd
      by_contra hj
      rw [Bool.not_eq_false] at hj
      cases hdeadline : (phase (past j)).deadline? with
      | none =>
        -- what another user has published would have been found
        obtain ⟨e, he⟩ := isSome_iff_exists.mp (ho.result j hj hdeadline)
        have hread : w.result.read w.now = none := by
          simpa [Guarded.cacheGet, hlink] using hget
        rw [he] at hread
        simp [Cell.read, hlive e he] at hread
      | some d' =>
        -- another user that still runs its body owns the lock, as this one does
        obtain ⟨token', hlock'⟩ : ∃ token', (token', d') ∈ (phase (past j)).lock? := by
          cases hphase : phase (past j) <;> simp_all [Phase.deadline?, Phase.lock?]
        have hji : j = i := ho.owner_unique hlock' hlock.symm (hrunning j d' hdeadline) hlt
        rw [hji, hi] at hj
        cases hj
  | _ => exact ho.keep hi.symm rfl rfl rfl le_rfl

theorem orderly_enter (ho : Orderly w fun j => phase (past j)) {outcome : LockOutcome ρ}
    (htime : InTime i past w (.enter outcome)) (hphase : InPhase (past i) w (.enter outcome)) :
    Orderly w (Function.update (fun j => phase (past j)) i
      ((phase (past i)).next w (.enter (J := J) outcome))) := by
  rw [InPhase] at hphase
  split at hphase
  · next hsome =>
      obtain ⟨token, deadline, hi⟩ := hphase
      have hlt : w.now < deadline := htime.2.1 rfl deadline (by rw [hi]; rfl)
      have halone := ho.alone i deadline (by rw [hi]; rfl) hlt
      have hnext : (phase (past i)).next w (.enter (J := J) outcome) = .running token deadline := by
        simp [Phase.next, hi, hsome]
      rw [hnext]
      refine ho.move rfl rfl (fun _ h => h) id (fun _ h => by rw [hi]; exact h)
        (fun _ h => ⟨by rw [hi]; exact h, rfl⟩) (fun _ _ _ _ _ => rfl) nofun nofun
        fun _ => .inr fun j => ⟨halone j, fun hji d hd => ?_⟩
      -- another user that is about to enter would own the lock as well
      obtain ⟨token', hlock'⟩ : ∃ token', (token', d) ∈ (phase (past j)).lock? := by
        cases hphase : phase (past j) <;> simp_all [Phase.entryDeadline, Phase.lock?]
      have hlock : (token, deadline) ∈ (phase (past i)).lock? := by
        rw [hi]
        rfl
      by_contra hd'
      exact hji (ho.owner_unique hlock' hlock (not_le.mp hd') hlt)
  · next hnone =>
      refine ho.keep ?_ rfl rfl rfl le_rfl
      cases hi : phase (past i) <;> simp_all [Phase.next]

theorem orderly_cacheSet (ho : Orderly w fun j => phase (past j)) {result : ρ} {ttl : ℤ}
    (htime : InTime i past w (.cacheSet result ttl))
    (hphase : InPhase (past i) w (.cacheSet result ttl)) :
    Orderly (w.cacheSet result ttl) (Function.update (fun j => phase (past j)) i
      ((phase (past i)).next w (.cacheSet (J := J) result ttl))) := by
  obtain ⟨token, deadline, hi⟩ := hphase
  have hlink := htime.2.2.1
  have hset : w.cacheSet result ttl = { w with result := some ⟨result, w.now + seconds ttl⟩ } := by
    simp only [Guarded.cacheSet, hlink]
  have hnext : (phase (past i)).next w (.cacheSet (J := J) result ttl) = .published token := by
    simp [Phase.next, hi]
  rw [hnext, hset]
  exact ho.move rfl rfl (fun _ h => h) (fun _ => rfl) (fun _ h => by rw [hi]; exact h)
    (fun _ h => by cases h)    (fun _ _ _ _ _ => rfl) (fun _ _ => rfl) (fun _ h => by cases h) fun _ => .inl (by rw [hi]; rfl)

theorem release_cases (token : Token) :
    (w.release token).2 = w ∨
      w.lock.read w.now = some token ∧ (w.release token).2 = { w with lock := none } := by
  have hdeleted : (w.lock.deleteIf w.now token).2 = w.lock ∨
      w.lock.read w.now = some token ∧ (w.lock.deleteIf w.now token).2 = none := by
    rw [Cell.deleteIf]
    split
    · next h => exact .inr ⟨h, rfl⟩
    · exact .inl rfl
  rw [Guarded.release, Link.send.eq_def]
  rcases hdeleted with h | ⟨hread, h⟩
  · split <;> simp [h]
  · split
    · exact .inr ⟨hread, by simp [h]⟩
    · exact .inl rfl
    · exact .inr ⟨hread, by simp [h]⟩

theorem orderly_release (ho : Orderly w fun j => phase (past j)) {token : Token}
    (hphase : InPhase (past i) w (.release token)) :
    Orderly (w.release token).2 (Function.update (fun j => phase (past j)) i
      ((phase (past i)).next w (.release (J := J) token))) := by
  have htoken : some token = (phase (past i)).token? := by
    rcases hphase with hi | hi <;> rw [hi] <;> rfl
  have hsame : (w.release token).2.now = w.now ∧ (w.release token).2.issued = w.issued ∧
      (w.release token).2.result = w.result ∧ ∀ e ∈ (w.release token).2.lock, e ∈ w.lock := by
    rcases release_cases (w := w) token with h | ⟨-, h⟩
    · rw [h]
      exact ⟨rfl, rfl, rfl, fun _ h => h⟩
    · rw [h]
      exact ⟨rfl, rfl, rfl, nofun⟩
  obtain ⟨hnow, hissued, hresult, hstored⟩ := hsame
  have hothers : ∀ j ≠ i, ∀ l ∈ (phase (past j)).lock?, w.now < l.2 →
      (w.release token).2.lock = w.lock := by
    intro j hji l hl hlt
    rcases release_cases (w := w) token with h | ⟨hread, h⟩
    · rw [h]
    · -- the lock is another user's, so it is not deleted
      rw [ho.locked j l hl hlt] at hread
      have heq : l.1 = token := by simpa [Cell.read, hlt] using hread
      refine absurd (ho.distinct j i token ?_ htoken.symm) hji
      rw [← heq]
      exact token_of_lock hl
  rcases hphase with hi | hi
  · have hnext : (phase (past i)).next w (.release (J := J) token) = .out true := by
      simp [Phase.next, hi]
    rw [hnext]
    refine ho.move hnow hissued hstored (fun h => hresult ▸ h) nofun nofun hothers (fun _ _ => ?_)
      nofun fun _ => .inl (by rw [hi]; rfl)
    exact hresult ▸ ho.result i (by rw [hi]; rfl) (by rw [hi]; rfl)
  · have hnext : (phase (past i)).next w (.release (J := J) token) = .out false := by
      simp [Phase.next, hi]
    rw [hnext]
    exact ho.move hnow hissued hstored (fun h => hresult ▸ h) nofun nofun hothers nofun nofun nofun

/-- **Every call keeps the order.** -/
theorem orderly_handle (ho : Orderly w fun j => phase (past j)) {c : GuardCall J ρ}
    (htime : InTime i past w c) (hphase : InPhase (past i) w c) :
    Orderly (guardHandle h c w).2
      (Function.update (fun j => phase (past j)) i ((phase (past i)).next w c)) := by
  cases c with
  | cacheGet => exact orderly_cacheGet ho htime
  | cacheSet result ttl => exact orderly_cacheSet ho htime hphase
  | acquire ttl => exact orderly_acquire ho htime hphase
  | release token => exact orderly_release ho hphase
  | enter outcome => exact orderly_enter ho htime hphase
  | body c => exact ho.keep rfl rfl rfl rfl le_rfl

end Calls

end Orderly

/-! ### Runs -/

section Runs

variable [DecidableEq ι] {h : Handler J σ} {settings : ι → GuardSettings}
  {bodies : ι → LockOutcome ρ → Prog J ε (Option ρ)} {w : Guarded ρ σ}

def GuardPool.start (w : Guarded ρ σ) (settings : ι → GuardSettings)
    (bodies : ι → LockOutcome ρ → Prog J ε (Option ρ)) :
    Pool (GuardApi J ρ) (GuardError ε) Unit ι (Guarded ρ σ) :=
  Pool.start w fun i => guard (settings i) (bodies i)

omit [DecidableEq ι] in
theorem orderly_start (hw : ∀ e ∈ w.lock, e.value < w.issued) :
    Orderly w fun _ : ι => phase ([] : GuardPast J ρ σ) where
  stored := hw
  drawn := nofun
  distinct := nofun
  locked := nofun
  result := nofun
  alone := nofun
  once := nofun

theorem executions_next {past : GuardPast J ρ σ} {c : GuardCall J ρ}
    (hpast : executions past = (phase past).entered.toNat) (hphase : InPhase past w c) :
    executions ((w, c) :: past) = (phase ((w, c) :: past)).entered.toNat := by
  rw [phase]
  cases c with
  | acquire ttl =>
    have hcount : executions ((w, .acquire (J := J) ttl) :: past) = executions past := rfl
    rw [hcount, hpast, hphase.1, Phase.next]
    split <;> rfl
  | cacheGet =>
    have hcount : executions ((w, .cacheGet (J := J)) :: past) = executions past := rfl
    rw [hcount, hpast]
    cases hp : phase past with
    | holding token deadline =>
      simp only [Phase.next]
      split <;> rfl
    | _ => rfl
  | enter outcome =>
    rw [InPhase] at hphase
    have hcount : executions ((w, .enter (J := J) outcome) :: past) =
        executions past + if outcome.token.isSome then 1 else 0 := List.countP_cons ..
    rw [hcount, hpast]
    split at hphase
    · next hsome =>
        obtain ⟨token, deadline, hp⟩ := hphase
        simp [hsome, hp, Phase.next, Phase.entered]
    · next hnone =>
        cases hp : phase past <;> simp_all [Phase.next]
  | cacheSet result ttl =>
    obtain ⟨token, deadline, hp⟩ := hphase
    have hcount : executions ((w, .cacheSet (J := J) result ttl) :: past) = executions past := rfl
    simp [hcount, hpast, hp, Phase.next, Phase.entered]
  | release token =>
    have hcount : executions ((w, .release (J := J) token) :: past) = executions past := rfl
    rcases hphase with hp | hp <;> simp [hcount, hpast, hp, Phase.next, Phase.entered]
  | body c => exact hpast

/-- **Guarded bodies run at most once.** Any number of users guard their bodies with one key,
in any order of their calls, with time passing in between. If every body that is given the
lock ends with a result, and publishes it before its lock expires, and the cache neither
fails nor loses a result, then at most one body is executed, once, and every other user that
has ended got a cached or a contended outcome, or `LockContended`. -/
theorem guard_once (env : σ → σ → Prop) (hw : ∀ e ∈ w.lock, e.value < w.issued)
    (httl : ∀ i, 0 < (settings i).ttlSeconds)
    (hbodies : ∀ i token, (bodies i (.acquired token)).Returns fun r => r.isSome)
    {pool : Pool (GuardApi J ρ) (GuardError ε) Unit ι (Guarded ρ σ)}
    (hpool : Pool.Reach (guardHandle h) (Elapses env) InTime
      (GuardPool.start w settings bodies) pool) :
    ExecutedOnce pool.past ∧ ∀ i, (pool.progs i).Ended →
      0 < executions (pool.past i) ∨ TurnedAway (pool.past i) (pool.progs i) := by
  have hall : Pool.AllSound (Terms.ofInv fun _ => True) (guardHandle h) (fun _ => Answered)
      (fun _ => InPhase) (fun _ => Finished) (GuardPool.start w settings bodies) :=
    ⟨trivial, fun i => guard_sound (httl i) (hbodies i)⟩
  have hlocal : ∀ (i : ι) (past : ι → GuardPast J ρ σ) (w : Guarded ρ σ) (c : GuardCall J ρ),
      InTime i past w c → Answered (past i) w c := fun _ _ _ _ h => h.2.2.2.2
  have horder := hpool.invariant hall hlocal (fun _ _ _ _ _ _ _ => ⟨trivial, trivial⟩)
    (fun _ _ _ _ => ⟨trivial, trivial⟩)
    (fun w past => (Orderly w fun i => phase (past i)) ∧
      ∀ i, executions (past i) = (phase (past i)).entered.toNat)
    ⟨orderly_start hw, fun _ => rfl⟩
    (fun w w' past henv ho => ⟨ho.1.of_kept henv.lock henv.result henv.now henv.issued.ge, ho.2⟩)
    ?_
  · obtain ⟨ho, hcount⟩ := horder
    have hentered : ∀ i, 0 < executions (pool.past i) → (phase (pool.past i)).entered = true := by
      intro i hi
      rw [hcount i] at hi
      cases hphase : (phase (pool.past i)).entered with
      | true => rfl
      | false =>
        rw [hphase] at hi
        exact absurd hi (lt_irrefl 0)
    refine ⟨⟨fun i => ?_, fun i j hi hj => ho.once i j (hentered i hi) (hentered j hj)⟩,
      fun i hi => ?_⟩
    · rw [hcount i]
      exact Bool.toNat_le _
    · have hend := hpool.sound hall hlocal (fun _ _ _ _ _ _ _ => ⟨trivial, trivial⟩)
        fun _ _ _ _ => ⟨trivial, trivial⟩
      cases hprog : pool.progs i with
      | ret a =>
        rcases hend.of_ret hprog with h | h | h
        · exact .inl h
        · exact .inr (.inl h)
        · cases h
      | raise e =>
        rcases hend.of_raise hprog with h | h | h
        · exact .inl h
        · exact .inr (.inl h)
        · obtain rfl := Except.error.inj h
          exact .inr (.inr rfl)
      | call c k =>
        rw [hprog] at hi
        exact hi.elim
  · rintro i past w c - htime hphase ⟨ho, hcount⟩
    have hphases : (fun j => phase (update past i ((w, c) :: past i) j)) =
        update (fun j => phase (past j)) i ((phase (past i)).next w c) := by
      funext j
      rcases eq_or_ne j i with rfl | hji
      · simp [phase]
      · simp [hji]
    refine ⟨hphases ▸ orderly_handle ho htime hphase, fun j => ?_⟩
    rcases eq_or_ne j i with rfl | hji
    · rw [update_self]
      exact executions_next (hcount j) hphase
    · rw [update_of_ne hji]
      exact hcount j

end Runs

/-! ### Two users -/

def plainBody (_ : LockOutcome Unit) : Prog ⟨Empty, fun _ => Unit⟩ Empty (Option Unit) :=
  return some ()

def plainSettings (_ : Fin 2) : GuardSettings := ⟨120, 900, 1, .returns⟩

def plainWorld : Guarded Unit Unit := ⟨none, none, 0, 0, .up, .up, ()⟩

def plainPool (order : List (Fin 2)) :
    Pool (GuardApi ⟨Empty, fun _ => Unit⟩ Unit) (GuardError Empty) Unit (Fin 2)
      (Guarded Unit Unit) :=
  (GuardPool.start plainWorld plainSettings fun _ => plainBody).schedule
    (guardHandle fun c => c.elim) order

def waiting : List (Fin 2) := [0, 1, 0, 0, 1, 1, 0, 0, 0, 1, 1, 1, 1]

/-- The one that waited finds the result, and gives the lock back. -/
theorem guard_once_waiting :
    ExecutedOnce (plainPool waiting).past ∧ ∀ i, ((plainPool waiting).progs i).Ended →
      0 < executions ((plainPool waiting).past i) ∨
        TurnedAway ((plainPool waiting).past i) ((plainPool waiting).progs i) := by
  have hbodies : ∀ (_ : Fin 2) token,
      (plainBody (.acquired token)).Returns fun r => r.isSome := fun _ _ => rfl
  exact guard_once (fun _ _ => True) (by decide) (by decide) hbodies
    (Pool.Reach.start.schedule (by decide))

end IsaUser.Core
