import IsaUser.Lib.Faults
import IsaUser.Lib.Runs
import IsaUser.Lib.SlidingWindow
import IsaUser.Lib.Values
import Mathlib.Data.Rat.Floor

/-!
# Rate Limits

`SlidingWindowCounter.check` of `core/rate_limiter.py` over the backend that
`core/rate_limit_backend.py` builds where Redis is configured: a sorted set of Redis for
each key, and lists in memory that take over, for good, when a command to Redis fails.

A command may fail before or after Redis has executed it. Every member of a sorted set has
a random part, and is taken to be a new one.
-/

namespace IsaUser.Core

/-! ### The backends -/

structure RateLimitConfig where
  requests : ℤ := 60
  windowSeconds : ℤ := 60
  deriving DecidableEq, Repr

/-- `InMemoryBackend`: the timestamps of each key, the oldest first. A key without an entry
has none. -/
abbrev InMemoryBackend := PyStr → List ℚ

def InMemoryBackend.increment (self : InMemoryBackend) (now : ℚ) (key : PyStr) (window : ℚ) :
    ℕ × InMemoryBackend :=
  let cutoff := now - window
  let pruned := (self key).filter (cutoff < ·)
  let entries := pruned ++ [now]
  (entries.length, Function.update self key entries)

def InMemoryBackend.getCount (self : InMemoryBackend) (now : ℚ) (key : PyStr) (window : ℚ) : ℕ :=
  let cutoff := now - window
  ((self key).filter (cutoff < ·)).length

/-- A sorted set of Redis: the scores of its members, and when it expires. -/
structure SortedSet where
  scores : List ℚ
  expiresAt : ℚ
  deriving DecidableEq, Repr

/-- `RedisBackend`: what Redis stores. -/
abbrev RedisBackend := PyStr → Option SortedSet

def RedisBackend.scores (self : RedisBackend) (now : ℚ) (key : PyStr) : List ℚ :=
  match self key with
  | some set => if now < set.expiresAt then set.scores else []
  | none => []

/-- What `ZREMRANGEBYSCORE key 0 cutoff` leaves. -/
def RedisBackend.kept (self : RedisBackend) (now : ℚ) (key : PyStr) (cutoff : ℚ) : List ℚ :=
  (self.scores now key).filter fun score => ¬ (0 ≤ score ∧ score ≤ cutoff)

/-- `int(window) + 1`. -/
def secondsToLive (window : ℚ) : ℤ := (if 0 ≤ window then ⌊window⌋ else ⌈window⌉) + 1

/-- `RedisBackend.increment`, a pipeline that Redis executes as a whole. -/
def RedisBackend.increment (self : RedisBackend) (now : ℚ) (key : PyStr) (window : ℚ) :
    ℕ × RedisBackend :=
  let cutoff := now - window
  -- ZADD and ZCARD
  let scores := now :: self.kept now key cutoff
  (scores.length, Function.update self key (some ⟨scores, now + secondsToLive window⟩))

/-- `RedisBackend.get_count`. A set without members is none, and does not expire. -/
def RedisBackend.getCount (self : RedisBackend) (now : ℚ) (key : PyStr) (window : ℚ) :
    ℕ × RedisBackend :=
  let cutoff := now - window
  let scores := self.kept now key cutoff
  (scores.length, Function.update self key
    (if scores = [] then none else some ⟨scores, now + secondsToLive window⟩))

inductive Counter where
  | primary
  | fallback
  deriving DecidableEq, Repr

/-- `FallbackRateLimitBackend`, with both backends in it. -/
structure FallbackRateLimitBackend where
  primary : RedisBackend
  fallback : InMemoryBackend
  primaryAvailable : Bool

/-- `FallbackRateLimitBackend.increment`, by `_call`: the count, and who has counted. -/
def FallbackRateLimitBackend.increment (self : FallbackRateLimitBackend) (link : Link) (now : ℚ)
    (key : PyStr) (window : ℚ) : (ℕ × Counter) × FallbackRateLimitBackend :=
  let degraded (self : FallbackRateLimitBackend) :=
    let r := self.fallback.increment now key window
    ((r.1, Counter.fallback), { self with fallback := r.2 })
  if self.primaryAvailable then
    match link.send () (self.primary.increment now key window) self.primary with
    | (.ok count, primary) => ((count, .primary), { self with primary })
    | (.error (), primary) => degraded { self with primary, primaryAvailable := false }
  else degraded self

/-! ### The counter -/

/-- The `info` of an answer. -/
structure RateLimitInfo where
  limit : ℤ
  remaining : ℤ
  retryAfter : ℤ
  deriving DecidableEq, Repr

/-- What `SlidingWindowCounter.check` makes of a count. -/
def RateLimitConfig.answer (config : RateLimitConfig) (count : ℕ) : Bool × RateLimitInfo :=
  let remaining := max 0 (config.requests - count)
  let allowed := (count : ℤ) ≤ config.requests
  (allowed, ⟨config.requests, remaining, if allowed then 0 else config.windowSeconds⟩)

structure Checked where
  key : PyStr
  time : ℚ
  counter : Counter
  allowed : Bool
  deriving DecidableEq, Repr

/-- The backend, and what it has answered, the latest first. -/
structure Limiter where
  backend : FallbackRateLimitBackend
  now : ℚ
  answers : List Checked

inductive LimiterStep where
  /-- `check(key, config)`; the link is the one to Redis. -/
  | check (key : PyStr) (link : Link)
  | wait (seconds : ℚ≥0)
  deriving DecidableEq

/-- The limiter before the first request. The clock is never negative. -/
def Limiter.start (now : ℚ≥0) : Limiter := ⟨⟨fun _ => none, fun _ => [], true⟩, now, []⟩

/-- One step. The limit of a key is `config key`. -/
def Limiter.step (config : PyStr → RateLimitConfig) (l : Limiter) : LimiterStep → Limiter
  | .check key link =>
    let r := l.backend.increment link l.now key (config key).windowSeconds
    { l with
      backend := r.2
      answers := ⟨key, l.now, r.1.2, ((config key).answer r.1.1).1⟩ :: l.answers }
  | .wait seconds => { l with now := l.now + seconds }

/-! ### The law -/

def countedBy (counter : Counter) (key : PyStr) (answers : List Checked) : List (Arrival ℚ) :=
  (answers.filter fun a => a.counter = counter ∧ a.key = key).map fun a => ⟨a.time, a.allowed⟩

def requestsOf (key : PyStr) (answers : List Checked) : List (Arrival ℚ) :=
  (answers.filter fun a => a.key = key).map fun a => ⟨a.time, a.allowed⟩

/-- No window has more allowed requests of a key than its limit; a request that is refused is
one of more than the limit in the window that ends with it. -/
def WithinLimit (config : RateLimitConfig) (requests : List (Arrival ℚ)) : Prop :=
  (∀ e, (grantedIn (config.windowSeconds : ℚ) e requests : ℤ) ≤ max config.requests 0) ∧
    ∀ after r before, requests = after ++ r :: before → r.granted = false →
      config.requests ≤ before.countP fun p => InWindow (config.windowSeconds : ℚ) r.time p.time

/-! ### What the backends remember -/

/-- What a store returns from now on has as many requests as were made, in every window that
ends then or later. -/
def Remembers (W now : ℚ) (stored : ℚ → List ℚ) (times : List ℚ) : Prop :=
  ∀ read later, now ≤ read → read ≤ later →
    (recent W later (stored read)).length = (recent W later times).length

variable {W now : ℚ} {key : PyStr} {times : List ℚ} {self : RedisBackend} {memory : InMemoryBackend}
  {window : PyStr → ℚ} {redis : RedisBackend}

theorem Remembers.later {stored : ℚ → List ℚ} (h : Remembers W now stored times) {now' : ℚ}
    (hnow : now ≤ now') : Remembers W now' stored times :=
  fun read later hread => h read later (hnow.trans hread)

theorem Remembers.length_cons {stored : ℚ → List ℚ} (h : Remembers W now stored times)
    {later : ℚ} (hlater : now ≤ later) :
    (recent W later (now :: recent W now (stored now))).length =
      (recent W later (now :: times)).length := by
  rw [recent_cons, recent_cons, recent_recent _ hlater, h now later le_rfl hlater]

/-- **`InMemoryBackend.increment`** counts the request and those that are recent. -/
theorem inMemory_increment {self : InMemoryBackend}
    (h : Remembers W now (fun _ => self key) times) :
    (self.increment now key W).1 = (recent W now times).length + 1 ∧
    Remembers W now (fun _ => (self.increment now key W).2 key) (now :: times) ∧
    ∀ k, k ≠ key → (self.increment now key W).2 k = self k := by
  have hnow : (recent W now (self key)).length = (recent W now times).length :=
    h now now le_rfl le_rfl
  refine ⟨?_, fun read later hread hlater => ?_, fun k hk => Function.update_of_ne hk _ _⟩
  · rw [← hnow]
    exact List.length_append
  · have hentries : (self.increment now key W).2 key = recent W now (self key) ++ [now] :=
      Function.update_self _ _ _
    have hcons := h.length_cons (hread.trans hlater)
    have hperm : (recent W now (self key) ++ [now]).Perm
        (now :: recent W now (self key)) := List.perm_append_singleton _ _
    rw [hentries, ← hcons]
    exact (hperm.filter _).length_eq

theorem mem_scores {t : ℚ} (ht : t ∈ self.scores now key) :
    ∃ set, self key = some set ∧ t ∈ set.scores := by
  rw [RedisBackend.scores.eq_def] at ht
  cases hset : self key with
  | none => simp [hset] at ht
  | some set =>
    rw [hset] at ht
    dsimp only at ht
    split at ht
    · exact ⟨set, rfl, ht⟩
    · cases ht

/-- Scores are readings of a clock that is never negative. -/
def RedisBackend.Nonneg (self : RedisBackend) : Prop :=
  ∀ key set, self key = some set → ∀ t ∈ set.scores, 0 ≤ t

theorem kept_eq (hself : self.Nonneg) :
    self.kept now key (now - W) = recent W now (self.scores now key) := by
  refine List.filter_congr fun t ht => ?_
  obtain ⟨set, hset, hmem⟩ := mem_scores ht
  simp [hself key set hset t hmem]

theorem le_secondsToLive (window : ℚ) : window ≤ secondsToLive window := by
  rw [secondsToLive]
  push_cast
  split
  · exact (Int.lt_floor_add_one window).le
  · linarith [Int.le_ceil window]

theorem remembers_of_expiring {scores : List ℚ}
    (hset : self key = some ⟨scores, now + secondsToLive W⟩) (htimes : ∀ t ∈ times, t ≤ now)
    (h : ∀ later, now ≤ later → (recent W later scores).length = (recent W later times).length) :
    Remembers W now (fun read => self.scores read key) times := by
  intro read later hread hlater
  have hscores : self.scores read key =
      if read < now + secondsToLive W then scores else [] := by
    rw [RedisBackend.scores, hset]
  dsimp only
  rw [hscores]
  split
  · exact h later (hread.trans hlater)
  · next hexpired =>
    have hleft : now ≤ later - W := by linarith [le_secondsToLive W]
    rw [recent_eq_nil fun t ht => (htimes t ht).trans hleft]
    rfl

theorem RedisBackend.Nonneg.update (hself : self.Nonneg) {set : Option SortedSet}
    (hset : ∀ s ∈ set, ∀ t ∈ s.scores, 0 ≤ t) :
    RedisBackend.Nonneg (Function.update self key set) := by
  intro key' set' hset' t ht
  rcases eq_or_ne key' key with rfl | hkey
  · rw [Function.update_self] at hset'
    exact hset set' hset' t ht
  · rw [Function.update_of_ne hkey] at hset'
    exact hself key' set' hset' t ht

theorem kept_nonneg (hself : self.Nonneg) {cutoff t : ℚ} (ht : t ∈ self.kept now key cutoff) :
    0 ≤ t := by
  obtain ⟨set, hset, hmem⟩ := mem_scores (List.mem_of_mem_filter ht)
  exact hself key set hset t hmem

/-- **`RedisBackend.increment`** does the same. -/
theorem redis_increment (hnow : 0 ≤ now) (hself : self.Nonneg) (htimes : ∀ t ∈ times, t ≤ now)
    (h : Remembers W now (fun read => self.scores read key) times) :
    (self.increment now key W).1 = (recent W now times).length + 1 ∧
    Remembers W now (fun read => (self.increment now key W).2.scores read key)
      (now :: times) ∧
    (self.increment now key W).2.Nonneg ∧
    ∀ k, k ≠ key → (self.increment now key W).2 k = self k := by
  have hkept : self.kept now key (now - W) = recent W now (self.scores now key) := kept_eq hself
  refine ⟨?_, ?_, hself.update ?_, fun k hk => Function.update_of_ne hk _ _⟩
  · rw [← h now now le_rfl le_rfl, ← hkept]
    rfl
  · refine remembers_of_expiring (Function.update_self _ _ _)
      (List.forall_mem_cons.mpr ⟨le_rfl, htimes⟩) fun later hlater => ?_
    rw [hkept]
    exact h.length_cons hlater
  · rintro _ ⟨⟩
    exact List.forall_mem_cons.mpr ⟨hnow, fun _ => kept_nonneg hself⟩

/-- **`RedisBackend.get_count`** counts those that are recent, and forgets none of them. -/
theorem redis_getCount (hself : self.Nonneg) (htimes : ∀ t ∈ times, t ≤ now)
    (h : Remembers W now (fun read => self.scores read key) times) :
    (self.getCount now key W).1 = (recent W now times).length ∧
    Remembers W now (fun read => (self.getCount now key W).2.scores read key) times ∧
    (self.getCount now key W).2.Nonneg ∧
    ∀ k, k ≠ key → (self.getCount now key W).2 k = self k := by
  have hkept : self.kept now key (now - W) = recent W now (self.scores now key) := kept_eq hself
  have hlength : ∀ later, now ≤ later →
      (recent W later (self.kept now key (now - W))).length = (recent W later times).length := by
    intro later hlater
    rw [hkept, recent_recent _ hlater, h now later le_rfl hlater]
  refine ⟨?_, ?_, hself.update ?_, fun k hk => Function.update_of_ne hk _ _⟩
  · rw [← h now now le_rfl le_rfl, ← hkept]
    rfl
  · by_cases hnil : self.kept now key (now - W) = []
    · intro read later hread hlater
      have hset : (self.getCount now key W).2 key = none :=
        (Function.update_self _ _ _).trans (if_pos hnil)
      have hscores : (self.getCount now key W).2.scores read key = [] := by
        rw [RedisBackend.scores, hset]
      dsimp only
      rw [← hlength later (hread.trans hlater), hnil, hscores]
    · refine remembers_of_expiring ((Function.update_self _ _ _).trans (if_neg hnil)) htimes hlength
  · intro s hs
    split at hs
    · cases hs
    · cases hs
      exact fun _ => kept_nonneg hself

/-! ### Both backends -/

inductive StoreOperation where
  | increment (key : PyStr)
  | getCount (key : PyStr)
  deriving DecidableEq

/-- What an operation returns and leaves, in memory. The window of a key is `window key`. -/
def InMemoryBackend.perform (window : PyStr → ℚ) (self : InMemoryBackend) (now : ℚ) :
    StoreOperation → ℕ × InMemoryBackend
  | .increment key => self.increment now key (window key)
  | .getCount key => (self.getCount now key (window key), self)

def RedisBackend.perform (window : PyStr → ℚ) (self : RedisBackend) (now : ℚ) :
    StoreOperation → ℕ × RedisBackend
  | .increment key => self.increment now key (window key)
  | .getCount key => self.getCount now key (window key)

def countsOf {S : Type} (perform : S → ℚ → StoreOperation → ℕ × S) : S → List (ℚ × StoreOperation) →
    List ℕ
  | _, [] => []
  | s, (now, operation) :: rest =>
    (perform s now operation).1 :: countsOf perform (perform s now operation).2 rest

def Alike (window : PyStr → ℚ) (now : ℚ) (memory : InMemoryBackend) (redis : RedisBackend) : Prop :=
  redis.Nonneg ∧ ∀ key, ∃ times : List ℚ, (∀ t ∈ times, t ≤ now) ∧
    Remembers (window key) now (fun _ => memory key) times ∧
    Remembers (window key) now (fun read => redis.scores read key) times

theorem Alike.later (h : Alike window now memory redis) {now' : ℚ} (hnow : now ≤ now') :
    Alike window now' memory redis := by
  refine ⟨h.1, fun key => ?_⟩
  obtain ⟨times, htimes, hmemory, hredis⟩ := h.2 key
  exact ⟨times, fun t ht => (htimes t ht).trans hnow, hmemory.later hnow, hredis.later hnow⟩

theorem Alike.perform (h : Alike window now memory redis) (hnow : 0 ≤ now)
    (operation : StoreOperation) :
    (memory.perform window now operation).1 = (redis.perform window now operation).1 ∧
      Alike window now (memory.perform window now operation).2
        (redis.perform window now operation).2 := by
  obtain ⟨hnonneg, hkeys⟩ := h
  cases operation with
  | increment key =>
    obtain ⟨times, htimes, hmemory, hredis⟩ := hkeys key
    obtain ⟨hcount, hmemory', hothers⟩ := inMemory_increment hmemory
    obtain ⟨hcount', hredis', hnonneg', hothers'⟩ := redis_increment hnow hnonneg htimes hredis
    refine ⟨hcount.trans hcount'.symm, hnonneg', fun key' => ?_⟩
    rcases eq_or_ne key' key with rfl | hkey
    · exact ⟨now :: times, List.forall_mem_cons.mpr ⟨le_rfl, htimes⟩, hmemory', hredis'⟩
    · simpa only [InMemoryBackend.perform, RedisBackend.perform, RedisBackend.scores,
        hothers key' hkey, hothers' key' hkey] using hkeys key'
  | getCount key =>
    obtain ⟨times, htimes, hmemory, hredis⟩ := hkeys key
    obtain ⟨hcount, hredis', hnonneg', hothers⟩ := redis_getCount hnonneg htimes hredis
    refine ⟨(hmemory now now le_rfl le_rfl).trans hcount.symm, hnonneg', fun key' => ?_⟩
    rcases eq_or_ne key' key with rfl | hkey
    · exact ⟨times, htimes, hmemory, hredis'⟩
    · simpa only [InMemoryBackend.perform, RedisBackend.perform, RedisBackend.scores,
        hothers key' hkey] using hkeys key'

theorem Alike.counts (h : Alike window now memory redis) (hnow : 0 ≤ now)
    {es : List (ℚ × StoreOperation)} (hsorted : (es.map Prod.fst).Pairwise (· ≤ ·))
    (hlater : ∀ e ∈ es, now ≤ e.1) :
    countsOf (InMemoryBackend.perform window) memory es =
      countsOf (RedisBackend.perform window) redis es := by
  induction es generalizing now memory redis with
  | nil => rfl
  | cons e es ih =>
    rw [List.map_cons, List.pairwise_cons] at hsorted
    have hnow' := hlater e List.mem_cons_self
    obtain ⟨hcount, hafter⟩ := (h.later hnow').perform (hnow.trans hnow') e.2
    rw [countsOf, hcount]
    refine congrArg _ (ih hafter (hnow.trans hnow') hsorted.2 fun e' he' => ?_)
    exact hsorted.1 _ (List.mem_map_of_mem he')

/-- **The two backends agree**: at times of a clock that is positive and does not go back they
return the same counts. -/
theorem stores_agree (window : PyStr → ℚ) (es : List (ℚ × StoreOperation))
    (hpos : ∀ e ∈ es, 0 < e.1) (hsorted : (es.map Prod.fst).Pairwise (· ≤ ·)) :
    countsOf (InMemoryBackend.perform window) (fun _ => []) es =
      countsOf (RedisBackend.perform window) (fun _ => none) es := by
  have hstart : Alike window 0 (fun _ => []) fun _ => none :=
    ⟨nofun, fun _ => ⟨[], nofun, fun _ _ _ _ => rfl, fun _ _ _ _ => rfl⟩⟩
  exact hstart.counts le_rfl hsorted fun e he => (hpos e he).le

/-- A key is counted twice at one time, and when half a second has passed. -/
theorem stores_agree_tie : countsOf (InMemoryBackend.perform fun _ => 1 / 2) (fun _ => [])
      [(1, .increment ['k']), (1, .increment ['k']), (3 / 2, .getCount ['k'])] =
    countsOf (RedisBackend.perform fun _ => 1 / 2) (fun _ => none)
      [(1, .increment ['k']), (1, .increment ['k']), (3 / 2, .getCount ['k'])] :=
  stores_agree _ _ (by decide +kernel) (by decide +kernel)

/-! ### Every run -/

def timesOf (counter : Counter) (key : PyStr) (answers : List Checked) : List ℚ :=
  (countedBy counter key answers).map Arrival.time

/-- The backends remember what they have counted, as far as they will be asked for it. -/
structure Limiter.Sound (config : PyStr → RateLimitConfig) (l : Limiter) : Prop where
  clock : 0 ≤ l.now
  past : ∀ a ∈ l.answers, a.time ≤ l.now
  nonneg : l.backend.primaryAvailable = true → l.backend.primary.Nonneg
  primary : l.backend.primaryAvailable = true → ∀ key,
    Remembers (config key).windowSeconds l.now (fun read => l.backend.primary.scores read key)
      (timesOf .primary key l.answers)
  fallback : ∀ key, Remembers (config key).windowSeconds l.now
    (fun _ => l.backend.fallback key) (timesOf .fallback key l.answers)
  latched : l.backend.primaryAvailable = true → ∀ a ∈ l.answers, a.counter = .primary
  ordered : l.answers.Pairwise fun later earlier =>
    later.counter = .primary → earlier.counter = .primary
  counted : ∀ counter key, Counted ((config key).windowSeconds : ℚ) (config key).requests
    (countedBy counter key l.answers)

variable {config : PyStr → RateLimitConfig} {l : Limiter}

theorem limiter_sound_start (config : PyStr → RateLimitConfig) (now : ℚ≥0) :
    (Limiter.start now).Sound config where
  clock := now.2
  past := nofun
  nonneg _ := nofun
  primary _ _ := fun _ _ _ _ => rfl
  fallback _ := fun _ _ _ _ => rfl
  latched _ := nofun
  ordered := List.Pairwise.nil
  counted _ _ := trivial

/-- **What an increment can do**: Redis has counted, or it is not asked again. -/
theorem increment_cases (self : FallbackRateLimitBackend) (link : Link) (now : ℚ) (key : PyStr)
    (window : ℚ) :
    (self.primaryAvailable = true ∧
      self.increment link now key window =
        (((self.primary.increment now key window).1, .primary),
          { self with primary := (self.primary.increment now key window).2 })) ∨
    ∃ primary, self.increment link now key window =
      (((self.fallback.increment now key window).1, .fallback),
        ⟨primary, (self.fallback.increment now key window).2, false⟩) := by
  rw [FallbackRateLimitBackend.increment]
  by_cases h : self.primaryAvailable = true
  · rw [if_pos h]
    cases link with
    | up => exact .inl ⟨h, rfl⟩
    | down => exact .inr ⟨_, rfl⟩
    | lost => exact .inr ⟨_, rfl⟩
  · rw [if_neg h]
    have hlatched : self.primaryAvailable = false := Bool.eq_false_of_not_eq_true h
    refine .inr ⟨self.primary, ?_⟩
    rw [← hlatched]

theorem countedBy_cons (counter : Counter) (key : PyStr) (a : Checked) (answers : List Checked) :
    countedBy counter key (a :: answers) =
      if a.counter = counter ∧ a.key = key then
        ⟨a.time, a.allowed⟩ :: countedBy counter key answers
      else countedBy counter key answers := by
  by_cases h : a.counter = counter ∧ a.key = key
  · simp [h, countedBy]
  · simp [h, countedBy]

theorem timesOf_cons (counter : Counter) (key : PyStr) (a : Checked) (answers : List Checked) :
    timesOf counter key (a :: answers) =
      if a.counter = counter ∧ a.key = key then a.time :: timesOf counter key answers
      else timesOf counter key answers := by
  rw [timesOf, countedBy_cons]
  split <;> rfl

theorem mem_countedBy {counter : Counter} {key : PyStr} {answers : List Checked} {r : Arrival ℚ}
    (h : r ∈ countedBy counter key answers) : ∃ a ∈ answers, a.time = r.time := by
  obtain ⟨a, ha, rfl⟩ := List.mem_map.mp h
  exact ⟨a, List.mem_of_mem_filter ha, rfl⟩

namespace Limiter.Sound

theorem times_le (hl : l.Sound config) (counter : Counter) (key : PyStr) :
    ∀ t ∈ timesOf counter key l.answers, t ≤ l.now := by
  intro t ht
  obtain ⟨r, hr, rfl⟩ := List.mem_map.mp ht
  obtain ⟨a, ha, htime⟩ := mem_countedBy hr
  exact htime ▸ hl.past a ha

theorem counted_cons (hl : l.Sound config) {key : PyStr} {c : Counter} {count : ℕ}
    (hcount : count = (recent ((config key).windowSeconds : ℚ) l.now
      (timesOf c key l.answers)).length + 1) (counter : Counter) (key' : PyStr) :
    Counted ((config key').windowSeconds : ℚ) (config key').requests
      (countedBy counter key' (⟨key, l.now, c, ((config key).answer count).1⟩ :: l.answers)) := by
  rw [countedBy_cons]
  by_cases h : c = counter ∧ key = key'
  · obtain ⟨rfl, rfl⟩ := h
    rw [if_pos ⟨rfl, rfl⟩]
    refine ⟨?_, fun p hp => ?_, hl.counted c key⟩
    · rw [hcount]
      exact decide_eq_true_iff
    · obtain ⟨a, ha, htime⟩ := mem_countedBy hp
      exact htime ▸ hl.past a ha
  · rw [if_neg h]
    exact hl.counted counter key'

theorem check (hl : l.Sound config) (key : PyStr) (link : Link) :
    (l.step config (.check key link)).Sound config := by
  rw [Limiter.step]
  rcases increment_cases l.backend link l.now key (config key).windowSeconds with
    ⟨havailable, h⟩ | ⟨primary, h⟩
  · obtain ⟨hcount, hremembers, hnonneg, hothers⟩ := redis_increment hl.clock
      (hl.nonneg havailable) (hl.times_le .primary key) (hl.primary havailable key)
    rw [h]
    constructor
    case clock => exact hl.clock
    case past => exact List.forall_mem_cons.mpr ⟨le_rfl, hl.past⟩
    case nonneg => exact fun _ => hnonneg
    case primary =>
      intro _ key'
      rw [timesOf_cons]
      rcases eq_or_ne key key' with rfl | hkey
      · rw [if_pos ⟨rfl, rfl⟩]
        exact hremembers
      · rw [if_neg fun h => hkey h.2]
        intro read later hread hlater
        have hsame := hl.primary havailable key' read later hread hlater
        simpa only [RedisBackend.scores, hothers key' hkey.symm] using hsame
    case fallback =>
      intro key'
      exact hl.fallback key'
    case latched => exact fun _ => List.forall_mem_cons.mpr ⟨rfl, hl.latched havailable⟩
    case ordered =>
      exact List.pairwise_cons.mpr ⟨fun a ha _ => hl.latched havailable a ha, hl.ordered⟩
    case counted => exact hl.counted_cons hcount
  · obtain ⟨hcount, hremembers, hothers⟩ := inMemory_increment (hl.fallback key)
    rw [h]
    constructor
    case clock => exact hl.clock
    case past => exact List.forall_mem_cons.mpr ⟨le_rfl, hl.past⟩
    case nonneg => exact nofun
    case primary => exact nofun
    case fallback =>
      intro key'
      rw [timesOf_cons]
      rcases eq_or_ne key key' with rfl | hkey
      · rw [if_pos ⟨rfl, rfl⟩]
        exact hremembers
      · rw [if_neg fun h => hkey h.2]
        intro read later hread hlater
        have hsame := hl.fallback key' read later hread hlater
        simpa only [hothers key' hkey.symm] using hsame
    case latched => exact nofun
    case ordered => exact List.pairwise_cons.mpr ⟨fun _ _ => nofun, hl.ordered⟩
    case counted => exact hl.counted_cons hcount

theorem wait (hl : l.Sound config) (seconds : ℚ≥0) :
    (l.step config (.wait seconds)).Sound config := by
  have hlater : l.now ≤ l.now + seconds := le_add_of_nonneg_right seconds.2
  exact {
    clock := hl.clock.trans hlater
    past := fun a ha => (hl.past a ha).trans hlater
    nonneg := hl.nonneg
    primary := fun havailable key => (hl.primary havailable key).later hlater
    fallback := fun key => (hl.fallback key).later hlater
    latched := hl.latched
    ordered := hl.ordered
    counted := hl.counted }

theorem run (config : PyStr → RateLimitConfig) (now : ℚ≥0) (es : List LimiterStep) :
    (exec (Limiter.step config) (Limiter.start now) es).Sound config := by
  refine exec_invariant (J := fun l : Limiter => l.Sound config) (limiter_sound_start config now)
    (allSteps_true _ es) ?_
  rintro l (⟨key, link⟩ | seconds) hl -
  · exact hl.check key link
  · exact hl.wait seconds

end Limiter.Sound

theorem withinLimit_of_counted {limits : RateLimitConfig} {requests : List (Arrival ℚ)}
    (h : Counted (limits.windowSeconds : ℚ) limits.requests requests) :
    WithinLimit limits requests := by
  refine ⟨h.granted_le, ?_⟩
  rintro after r before rfl hr
  exact h.le_of_refused hr

theorem grantedIn_requestsOf (W e : ℚ) (key : PyStr) (answers : List Checked) :
    grantedIn W e (requestsOf key answers) =
      grantedIn W e (countedBy .primary key answers) +
        grantedIn W e (countedBy .fallback key answers) := by
  induction answers with
  | nil => rfl
  | cons a answers ih =>
    rw [countedBy_cons, countedBy_cons, requestsOf, List.filter_cons]
    by_cases hkey : a.key = key
    · have hcons (requests : List (Arrival ℚ)) :
          grantedIn W e (⟨a.time, a.allowed⟩ :: requests) = grantedIn W e requests +
            if a.allowed ∧ InWindow W e a.time then 1 else 0 := by
        rw [grantedIn, List.countP_cons]
        simp [grantedIn]
      rw [if_pos (by simpa using hkey), List.map_cons, hcons]
      change grantedIn W e (requestsOf key answers) + _ = _
      cases hcounter : a.counter with
      | primary =>
        simp only [hkey, and_self, reduceCtorEq, false_and, if_true, if_false, hcons]
        omega
      | fallback =>
        simp only [hkey, and_self, reduceCtorEq, false_and, if_true, if_false, hcons]
        omega
    · rw [if_neg (by simpa using hkey), if_neg fun h => hkey h.2, if_neg fun h => hkey h.2]
      exact ih

/-- **Rate limit bound.** Among the requests of a key that one backend has counted, no window
has more allowed ones than the limit, and one is refused only if the limit is reached. So no
window has more than twice as many in all; and once Redis has failed it counts no more. -/
theorem rateLimit_bound (config : PyStr → RateLimitConfig) (now : ℚ≥0) (es : List LimiterStep)
    (key : PyStr) :
    let answers := (exec (Limiter.step config) (Limiter.start now) es).answers
    (∀ counter, WithinLimit (config key) (countedBy counter key answers)) ∧
    (∀ e, (grantedIn ((config key).windowSeconds : ℚ) e (requestsOf key answers) : ℤ) ≤
      2 * max (config key).requests 0) ∧
    answers.Pairwise fun later earlier =>
      later.counter = .primary → earlier.counter = .primary := by
  have hsound := Limiter.Sound.run config now es
  have hwithin (counter : Counter) : WithinLimit (config key) (countedBy counter key
      (exec (Limiter.step config) (Limiter.start now) es).answers) :=
    withinLimit_of_counted (hsound.counted counter key)
  refine ⟨hwithin, fun e => ?_, hsound.ordered⟩
  have hprimary := (hwithin .primary).1 e
  have hfallback := (hwithin .fallback).1 e
  rw [grantedIn_requestsOf]
  omega

def loginLimit : RateLimitConfig := ⟨20, 60⟩

def failover : List LimiterStep :=
  List.replicate 20 (.check "rl:10.0.0.1:/login".toList .up) ++
    [.wait 1, .check "rl:10.0.0.1:/login".toList .down]

/-- The next request is counted from zero. -/
theorem not_withinLimit_failover :
    ¬ ∀ es, WithinLimit loginLimit (requestsOf "rl:10.0.0.1:/login".toList
      (exec (Limiter.step fun _ => loginLimit) (Limiter.start 0) es).answers) := by
  intro h
  have hbound := (h failover).1 1
  revert hbound
  decide +kernel

end IsaUser.Core
