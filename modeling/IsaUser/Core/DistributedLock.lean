import IsaUser.Lib.Expiring
import IsaUser.Lib.Faults
import IsaUser.Lib.Runs
import IsaUser.Lib.Values

/-!
# The Distributed Lock

`DistributedLock` of `core/distributed_lock.py`: `acquire`, `release` and `extend` over
the commands `SET NX EX` and the two compare-and-act scripts of one Redis server, with the
latch that refuses commands after a failure until a probe succeeds.

A command may fail before or after the server has executed it. Tokens are drawn at random
from 128 bits and are taken to be fresh.
-/

namespace IsaUser.Core

/-! ### The server -/

/-- A token of `secrets.token_hex(16)`. -/
abbrev Token := ℕ

abbrev LockStore := PyStr → Cell Token

def LockStore.set (locks : LockStore) (key : PyStr) (cell : Cell Token) : LockStore :=
  Function.update locks key cell

/-- `SET key token NX EX ttl`. -/
def LockStore.setNxEx (locks : LockStore) (now : Timestamp) (key : PyStr) (token : Token)
    (ttl : ℤ) : Bool × LockStore :=
  let r := (locks key).setNX now token (seconds ttl)
  (r.1, locks.set key r.2)

def LockStore.releaseScript (locks : LockStore) (now : Timestamp) (key : PyStr)
    (token : Token) : Bool × LockStore :=
  let r := (locks key).deleteIf now token
  (r.1, locks.set key r.2)

/-- `_EXTEND_SCRIPT`, with the time to live in milliseconds. -/
def LockStore.extendScript (locks : LockStore) (now : Timestamp) (key : PyStr)
    (token : Token) (milliseconds : ℤ) : Bool × LockStore :=
  let r := (locks key).extendIf now token (milliseconds * 1000)
  (r.1, locks.set key r.2)

/-! ### The latch -/

inductive LockError where
  | distributedLockError
  | valueError
  deriving DecidableEq, Repr

/-- A `DistributedLock` of a namespace, as it is constructed. -/
structure DistributedLock where
  defaultTtlSeconds : ℤ
  recoveryCooldown : ℤ
  /-- There is a client, or a URL to build one from. -/
  configured : Bool
  deriving DecidableEq, Repr

/-- The latch of a `DistributedLock`. -/
structure Latch where
  healthy : Bool
  unhealthySince : Option ℤ
  deriving DecidableEq, Repr

/-- The latch of a new `DistributedLock`. -/
def DistributedLock.latch (self : DistributedLock) : Latch := ⟨self.configured, none⟩

/-- What a method meets: what `time.monotonic()` reads, whether another task of the client is
probing the server, what `PING` answers (`none` where it raises), and how the command
fares. -/
structure Network where
  monotonic : ℤ
  probing : Bool
  ping : Option Bool
  command : Link
  deriving DecidableEq, Repr

def Latch.markUnhealthy (latch : Latch) (net : Network) : Latch :=
  ⟨false, some (latch.unhealthySince.getD net.monotonic)⟩

def Latch.shouldAttemptRecovery (self : DistributedLock) (latch : Latch) (net : Network) : Bool :=
  !latch.healthy && match latch.unhealthySince with
    | none => true
    | some since => self.recoveryCooldown ≤ net.monotonic - since

def Latch.attemptRecovery (latch : Latch) (net : Network) : Bool × Latch :=
  if latch.healthy then (true, latch)
  else if net.probing then (false, latch)
  else
    match net.ping with
    | some true => (true, ⟨true, none⟩)
    | _ => (false, ⟨false, some net.monotonic⟩)

/-- `_ensure_healthy`: whether the command may be sent. -/
def Latch.ensureHealthy (self : DistributedLock) (latch : Latch) (net : Network) : Bool × Latch :=
  if latch.healthy then (true, latch)
  else if latch.shouldAttemptRecovery self net then latch.attemptRecovery net
  else (false, latch)

/-! ### The methods -/

/-- The server, and what the clients of one namespace remember: their latches, and the
tokens they were given, with their keys. -/
structure LockWorld (C : Type*) where
  locks : LockStore
  now : Timestamp
  /-- Tokens below this number have been drawn. -/
  issued : Token
  latch : C → Latch
  grants : List (C × PyStr × Token)

section Methods

variable {C : Type*} [DecidableEq C]

def fullKey (ns key : PyStr) : PyStr := "lock:".toList ++ ns ++ ':' :: key

/-- `_ensure_client` and `_ensure_healthy`. -/
def LockWorld.connect (w : LockWorld C) (self : DistributedLock) (client : C) (net : Network) :
    Except LockError Unit × LockWorld C :=
  if self.configured then
    let r := (w.latch client).ensureHealthy self net
    let w := { w with latch := Function.update w.latch client r.2 }
    if r.1 then (.ok (), w) else (.error .distributedLockError, w)
  else (.error .distributedLockError, w)

def LockWorld.send {ρ : Type} (w : LockWorld C) (client : C) (net : Network)
    (executed : ρ × LockStore) : Except LockError ρ × LockWorld C :=
  match net.command.send LockError.distributedLockError executed w.locks with
  | (.ok r, locks) => (.ok r, { w with locks })
  | (.error e, locks) =>
    (.error e, { w with
      locks, latch := Function.update w.latch client ((w.latch client).markUnhealthy net) })

/-- `acquire`: the token, or `none` where another holder owns the lock. -/
def LockWorld.acquire (w : LockWorld C) (self : DistributedLock) (ns : PyStr) (client : C)
    (key : PyStr) (ttlSeconds : Option ℤ) (net : Network) :
    Except LockError (Option Token) × LockWorld C :=
  match w.connect self client net with
  | (.error e, w) => (.error e, w)
  | (.ok (), w) =>
    let ttl := ttlSeconds.getD self.defaultTtlSeconds
    if ttl ≤ 0 then (.error .valueError, w)
    else
      let token := w.issued
      let w := { w with issued := w.issued + 1 }
      match w.send client net (w.locks.setNxEx w.now (fullKey ns key) token ttl) with
      | (.error e, w) => (.error e, w)
      | (.ok false, w) => (.ok none, w)
      | (.ok true, w) =>
        (.ok (some token), { w with grants := (client, key, token) :: w.grants })

/-- `release`, where no token is the empty one. -/
def LockWorld.release (w : LockWorld C) (self : DistributedLock) (ns : PyStr) (client : C)
    (key : PyStr) (token : Option Token) (net : Network) : Except LockError Bool × LockWorld C :=
  match token with
  | none => (.error .valueError, w)
  | some token =>
    match w.connect self client net with
    | (.error e, w) => (.error e, w)
    | (.ok (), w) =>
      w.send client net (w.locks.releaseScript w.now (fullKey ns key) token)

def LockWorld.extend (w : LockWorld C) (self : DistributedLock) (ns : PyStr) (client : C)
    (key : PyStr) (token : Token) (ttlSeconds : ℤ) (net : Network) :
    Except LockError Bool × LockWorld C :=
  if ttlSeconds ≤ 0 then (.error .valueError, w)
  else
    match w.connect self client net with
    | (.error e, w) => (.error e, w)
    | (.ok (), w) =>
      w.send client net
        (w.locks.extendScript w.now (fullKey ns key) token (ttlSeconds * 1000))

end Methods

/-! ### Runs -/

/-- A step of a run: a client calls a method, or time passes. -/
inductive LockStep (C : Type*) where
  | acquire (client : C) (key : PyStr) (ttlSeconds : Option ℤ) (net : Network)
  | release (client : C) (key : PyStr) (token : Option Token) (net : Network)
  | extend (client : C) (key : PyStr) (token : Token) (ttlSeconds : ℤ) (net : Network)
  | wait (micros : ℕ)

def LockStep.key? {C : Type*} : LockStep C → Option PyStr
  | acquire _ key _ _ => some key
  | release _ key _ _ => some key
  | extend _ key _ _ _ => some key
  | wait _ => none

section Runs

variable {C : Type*} [DecidableEq C] (self : C → DistributedLock) (ns : PyStr)

/-- The world after a step. Every client has its own `DistributedLock`, all of one
namespace. -/
def LockWorld.step (w : LockWorld C) : LockStep C → LockWorld C
  | .acquire client key ttl net => (w.acquire (self client) ns client key ttl net).2
  | .release client key token net => (w.release (self client) ns client key token net).2
  | .extend client key token ttl net => (w.extend (self client) ns client key token ttl net).2
  | .wait micros => { w with now := w.now + micros }

def LockWorld.start (now : Timestamp) : LockWorld C where
  locks _ := none
  now := now
  issued := 0
  latch client := (self client).latch
  grants := []

def LockWorld.Holds (w : LockWorld C) (client : C) (key : PyStr) (token : Token) : Prop :=
  (client, key, token) ∈ w.grants ∧ (w.locks (fullKey ns key)).read w.now = some token

def LockWorld.OneHolder (w : LockWorld C) : Prop :=
  ∀ client client' key token token', w.Holds ns client key token →
    w.Holds ns client' key token' → client = client' ∧ token = token'

/-- The answer of `release` or `extend` is not `True`, it is `False` if the arguments are valid
and the command is sent and answered, and no lock has changed. -/
def LockWorld.Refuses (w : LockWorld C) (client : C) (net : Network)
    (r : Except LockError Bool × LockWorld C) : Prop :=
  r.1 ≠ .ok true ∧ r.2.locks = w.locks ∧
    ((self client).configured → (w.latch client).healthy → net.command = .up →
      r.1 ≠ .error .valueError → r.1 = .ok false)

/-! ### What a method can do -/

variable {self ns} {w : LockWorld C} {client : C} {net : Network} {key : PyStr} {w₁ : LockWorld C}

variable (self w client net) in
theorem connect_locks : (w.connect (self client) client net).2.locks = w.locks ∧
    (w.connect (self client) client net).2.now = w.now ∧
    (w.connect (self client) client net).2.issued = w.issued ∧
    (w.connect (self client) client net).2.grants = w.grants := by
  rw [LockWorld.connect]
  split
  · dsimp only
    split <;> exact ⟨rfl, rfl, rfl, rfl⟩
  · exact ⟨rfl, rfl, rfl, rfl⟩

variable (net) in
theorem connect_of_healthy (hself : (self client).configured)
    (hlatch : (w.latch client).healthy) :
    ∃ latch, w.connect (self client) client net = (.ok (), { w with latch }) := by
  simp [LockWorld.connect, hself, Latch.ensureHealthy, hlatch]

variable (w client net) in
theorem send_cases {ρ : Type} (executed : ρ × LockStore) :
    (w.send client net executed).2.now = w.now ∧
    (w.send client net executed).2.issued = w.issued ∧
    (w.send client net executed).2.grants = w.grants ∧
    ((w.send client net executed).2.locks = w.locks ∨
      (w.send client net executed).2.locks = executed.2) ∧
    ∀ r, (w.send client net executed).1 = .ok r →
      executed.1 = r ∧ (w.send client net executed).2.locks = executed.2 := by
  rw [LockWorld.send]
  cases net.command with
  | up => exact ⟨rfl, rfl, rfl, .inr rfl, fun r h => ⟨Except.ok.inj h, rfl⟩⟩
  | down => exact ⟨rfl, rfl, rfl, .inl rfl, nofun⟩
  | lost => exact ⟨rfl, rfl, rfl, .inr rfl, nofun⟩

/-- A method on a key changes the lock of that key only, and gives out at most one token,
which it has drawn. -/
structure LockWorld.Changes (ns key : PyStr) (w w' : LockWorld C) : Prop where
  issued : w.issued ≤ w'.issued
  others : ∀ k, k ≠ fullKey ns key → w'.locks k = w.locks k
  grants : w'.grants = w.grants ∨
    ∃ client, w'.grants = (client, key, w.issued) :: w.grants ∧ w.issued < w'.issued

theorem set_of_ne (locks : LockStore) {k : PyStr} (cell : Cell Token) (h : k ≠ key) :
    locks.set key cell k = locks k := Function.update_of_ne h _ _

theorem changes_of_send {ρ : Type} {executed : ρ × LockStore} (hlocks : w₁.locks = w.locks)
    (hissued : w₁.issued = w.issued) (hgrants : w₁.grants = w.grants)
    (hothers : ∀ k, k ≠ fullKey ns key → executed.2 k = w.locks k) :
    w.Changes ns key (w₁.send client net executed).2 := by
  obtain ⟨-, hissued', hgrants', hlocks', -⟩ := send_cases w₁ client net executed
  refine ⟨(hissued'.trans hissued).ge, fun k hk => ?_, .inl (hgrants'.trans hgrants)⟩
  rcases hlocks' with h | h
  · rw [h, hlocks]
  · rw [h, hothers k hk]

theorem release_changes (key : PyStr) (token : Option Token) :
    w.Changes ns key (w.release (self client) ns client key token net).2 := by
  have hconnect := connect_locks self w client net
  obtain ⟨hlocks, -, hissued, hgrants⟩ := hconnect
  rw [LockWorld.release.eq_def]
  cases token with
  | none => exact ⟨le_rfl, fun _ _ => rfl, .inl rfl⟩
  | some token =>
    dsimp only
    split
    · next e w₁ h =>
        rw [h] at hlocks hissued hgrants
        exact ⟨hissued.ge, fun k _ => congrFun hlocks k, .inl hgrants⟩
    · next w₁ h =>
        rw [h] at hlocks hissued hgrants
        refine changes_of_send hlocks hissued hgrants fun k hk => ?_
        exact (set_of_ne _ _ hk).trans (congrFun hlocks k)

theorem extend_changes (key : PyStr) (token : Token) (ttl : ℤ) :
    w.Changes ns key (w.extend (self client) ns client key token ttl net).2 := by
  have hconnect := connect_locks self w client net
  obtain ⟨hlocks, -, hissued, hgrants⟩ := hconnect
  rw [LockWorld.extend]
  split
  · exact ⟨le_rfl, fun _ _ => rfl, .inl rfl⟩
  · split
    · next e w₁ h =>
        rw [h] at hlocks hissued hgrants
        exact ⟨hissued.ge, fun k _ => congrFun hlocks k, .inl hgrants⟩
    · next w₁ h =>
        rw [h] at hlocks hissued hgrants
        refine changes_of_send hlocks hissued hgrants fun k hk => ?_
        exact (set_of_ne _ _ hk).trans (congrFun hlocks k)

theorem acquire_changes (key : PyStr) (ttl : Option ℤ) :
    w.Changes ns key (w.acquire (self client) ns client key ttl net).2 := by
  have hconnect := connect_locks self w client net
  obtain ⟨hlocks, -, hissued, hgrants⟩ := hconnect
  rw [LockWorld.acquire]
  split
  · next e w₁ h =>
      rw [h] at hlocks hissued hgrants
      exact ⟨hissued.ge, fun k _ => congrFun hlocks k, .inl hgrants⟩
  · next w₁ h =>
      rw [h] at hlocks hissued hgrants
      dsimp only
      split
      · exact ⟨hissued.ge, fun k _ => congrFun hlocks k, .inl hgrants⟩
      · have hdrawn : w.issued < w₁.issued + 1 := hissued ▸ Nat.lt_succ_self _
        set executed := w₁.locks.setNxEx w₁.now (fullKey ns key)
          w₁.issued (ttl.getD (self client).defaultTtlSeconds)
        obtain ⟨-, hissued', hgrants', hlocks', -⟩ := send_cases
          { w₁ with issued := w₁.issued + 1 } client net executed
        have hothers : ∀ k, k ≠ fullKey ns key → (LockWorld.send
            { w₁ with issued := w₁.issued + 1 } client net executed).2.locks k = w.locks k := by
          intro k hk
          rcases hlocks' with h' | h'
          · rw [h', hlocks]
          · rw [h']
            exact (set_of_ne _ _ hk).trans (congrFun hlocks k)
        split
        · next e w₂ h₂ =>
            rw [h₂] at hissued' hgrants' hothers
            exact ⟨hissued'.symm ▸ hdrawn.le, hothers, .inl (hgrants'.trans hgrants)⟩
        · next w₂ h₂ =>
            rw [h₂] at hissued' hgrants' hothers
            exact ⟨hissued'.symm ▸ hdrawn.le, hothers, .inl (hgrants'.trans hgrants)⟩
        · next w₂ h₂ =>
            rw [h₂] at hissued' hgrants' hothers
            refine ⟨hissued'.symm ▸ hdrawn.le, hothers, .inr ⟨client, ?_, ?_⟩⟩
            · exact congrArg₂ _ (by rw [hissued]) (hgrants'.trans hgrants)
            · exact hissued'.symm ▸ hdrawn

variable (self ns w) in
theorem step_changes (step : LockStep C) :
    (∃ key, step.key? = some key ∧ w.Changes ns key (w.step self ns step)) ∨
      step.key? = none ∧ ∃ now, w.step self ns step = { w with now } := by
  cases step with
  | acquire client key ttl net => exact .inl ⟨key, rfl, acquire_changes key ttl⟩
  | release client key token net => exact .inl ⟨key, rfl, release_changes key token⟩
  | extend client key token ttl net => exact .inl ⟨key, rfl, extend_changes key token ttl⟩
  | wait micros => exact .inr ⟨rfl, _, rfl⟩

/-! ### The invariant -/

/-- No two grants have the same token, and all tokens given out have been drawn. -/
structure LockWorld.Fresh (w : LockWorld C) : Prop where
  drawn : ∀ g ∈ w.grants, g.2.2 < w.issued
  unique : ∀ g ∈ w.grants, ∀ g' ∈ w.grants, g.2.2 = g'.2.2 → g = g'

omit [DecidableEq C] in
theorem fresh_start (now : Timestamp) : (LockWorld.start self now).Fresh := by
  constructor <;> intro g hg <;> cases hg

omit [DecidableEq C] in
theorem LockWorld.Changes.fresh {w' : LockWorld C} (h : w.Changes ns key w') (hw : w.Fresh) :
    w'.Fresh := by
  rcases h.grants with heq | ⟨client, heq, hlt⟩
  · exact ⟨fun g hg => (hw.drawn g (heq ▸ hg)).trans_le h.issued, by rw [heq]; exact hw.unique⟩
  · constructor
    · intro g hg
      rw [heq] at hg
      rcases List.mem_cons.mp hg with rfl | hg
      · exact hlt
      · exact (hw.drawn g hg).trans_le h.issued
    · intro g hg g' hg' htoken
      rw [heq] at hg hg'
      rcases List.mem_cons.mp hg with rfl | hg <;> rcases List.mem_cons.mp hg' with rfl | hg'
      · rfl
      · exact absurd htoken (hw.drawn g' hg').ne'
      · exact absurd htoken (hw.drawn g hg).ne
      · exact hw.unique g hg g' hg' htoken

theorem step_fresh (step : LockStep C) (hw : w.Fresh) : (w.step self ns step).Fresh := by
  rcases step_changes self ns w step with ⟨key, -, h⟩ | ⟨-, now, h⟩
  · exact h.fresh hw
  · rw [h]
    exact ⟨hw.drawn, hw.unique⟩

omit [DecidableEq C] in
theorem LockWorld.Fresh.oneHolder (hw : w.Fresh) : w.OneHolder ns := by
  rintro client client' key token token' ⟨hgrant, hread⟩ ⟨hgrant', hread'⟩
  obtain rfl := Option.some.inj (hread.symm.trans hread')
  have hsame := hw.unique _ hgrant _ hgrant' rfl
  exact ⟨congrArg (·.1) hsame, rfl⟩

/-! ### Tokens that are not stored -/

theorem fullKey_injective (ns : PyStr) : Function.Injective (fullKey ns) := by
  intro key key' h
  have hcons : ':' :: key = ':' :: key' := List.append_cancel_left h
  exact List.tail_eq_of_cons_eq hcons

theorem set_self (locks : LockStore) (k : PyStr) : locks.set k (locks k) = locks :=
  Function.update_eq_self _ _

theorem refuses_of_send (hw₁ : w.connect (self client) client net = (.ok (), w₁)) :
    w.Refuses self client net (w₁.send client net (false, w₁.locks)) := by
  have hlocks := connect_locks self w client net
  rw [hw₁] at hlocks
  obtain ⟨-, -, -, hsame, hanswer⟩ := send_cases w₁ client net (false, w₁.locks)
  refine ⟨fun h => absurd (hanswer true h).1 nofun, ?_, fun _ _ hup _ => ?_⟩
  · rcases hsame with h | h <;> exact h.trans hlocks.1
  · simp [LockWorld.send, hup, Link.send]

theorem refuses_of_error {e : LockError}
    (hw₁ : w.connect (self client) client net = (.error e, w₁)) :
    w.Refuses self client net (.error e, w₁) := by
  have hlocks := connect_locks self w client net
  rw [hw₁] at hlocks
  refine ⟨nofun, hlocks.1, fun hself hlatch _ _ => ?_⟩
  obtain ⟨latch, h⟩ := connect_of_healthy net hself hlatch
  exact absurd (hw₁.symm.trans h) nofun

theorem release_refuses {token : Token}
    (htoken : (w.locks (fullKey ns key)).read w.now ≠ some token) :
    w.Refuses self client net (w.release (self client) ns client key (some token) net) := by
  have hconnect := connect_locks self w client net
  simp only [LockWorld.release]
  split
  · next e w₁ h => exact refuses_of_error h
  · next w₁ h =>
      rw [h] at hconnect
      rw [LockStore.releaseScript, Cell.deleteIf_of_ne (by rwa [hconnect.1, hconnect.2.1])]
      rw [set_self]
      exact refuses_of_send h

theorem extend_refuses {token : Token} {ttl : ℤ}
    (htoken : (w.locks (fullKey ns key)).read w.now ≠ some token) :
    w.Refuses self client net (w.extend (self client) ns client key token ttl net) := by
  have hconnect := connect_locks self w client net
  rw [LockWorld.extend]
  split
  · exact ⟨nofun, rfl, fun _ _ _ h => absurd rfl h⟩
  · split
    · next e w₁ h => exact refuses_of_error h
    · next w₁ h =>
        rw [h] at hconnect
        rw [LockStore.extendScript, Cell.extendIf_of_ne (by rwa [hconnect.1, hconnect.2.1])]
        rw [set_self]
        exact refuses_of_send h

/-- **The lock is safe.** After any run of any number of clients on one namespace, each key
has at most one holder; `release` and `extend` with a token that is not the stored one, or
is expired, change no lock and do not succeed, and answer `False` when the command is sent
and answered; and a step on one key leaves the lock of every other key as it is. -/
theorem lock_safety (self : C → DistributedLock) (ns : PyStr) (now : Timestamp)
    (steps : List (LockStep C)) :
    let w := exec (LockWorld.step self ns) (LockWorld.start self now) steps
    w.OneHolder ns ∧
      (∀ client key token net, (w.locks (fullKey ns key)).read w.now ≠ some token →
        w.Refuses self client net (w.release (self client) ns client key (some token) net) ∧
        ∀ ttl, w.Refuses self client net
          (w.extend (self client) ns client key token ttl net)) ∧
      ∀ step key, step.key? ≠ some key →
        (w.step self ns step).locks (fullKey ns key) = w.locks (fullKey ns key) := by
  intro w
  have hfresh : w.Fresh := exec_invariant (fresh_start now) (allSteps_true _ _)
    fun _ step h _ => step_fresh step h
  refine ⟨hfresh.oneHolder, fun client key token net h => ⟨release_refuses h, fun ttl =>
    extend_refuses h⟩, fun step key hkey => ?_⟩
  rcases step_changes self ns w step with
    ⟨key', hkey', h⟩ | ⟨-, now', h⟩
  · refine h.others _ fun heq => hkey ?_
    rw [hkey', fullKey_injective ns heq]
  · rw [h]

end Runs

end IsaUser.Core
