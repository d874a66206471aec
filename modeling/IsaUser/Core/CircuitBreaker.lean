import IsaUser.Lib.Runs
import IsaUser.Lib.Values
import Mathlib.Tactic.Linarith

/-!
# The Circuit Breaker

`CircuitBreaker` of `core/circuit_breaker.py`, and the calls that
`BaseServiceClient._request` sends through it. Any number of calls are in flight at once:
each starts with `check`, and records one outcome when the transport has answered it, or
none. The methods do not suspend, so each of them is one step, at one reading of the clock.

The model keeps a log of what the breaker reports of itself, and of which call was admitted
or recorded when. The laws are about the log.
-/

open List Option

namespace IsaUser.Core

/-! ### The breaker -/

inductive CircuitState where
  | closed
  /-- `OPEN`. -/
  | opened
  | halfOpen
  deriving DecidableEq, Repr

/-- A `CircuitBreaker`, as it is constructed. -/
structure CircuitBreaker where
  name : PyStr
  failureThreshold : ℤ := 5
  recoveryTimeout : ℚ := 30
  halfOpenMaxCalls : ℤ := 1
  deriving DecidableEq, Repr

/-- What a `CircuitBreaker` remembers. -/
structure Breaker where
  failureCount : ℕ := 0
  successCount : ℕ := 0
  state : CircuitState := .closed
  openedAt : Option ℚ := none
  halfOpenCalls : ℕ := 0
  deriving DecidableEq, Repr

inductive Transition where
  /-- "transitioned to HALF_OPEN". -/
  | halfOpened
  /-- "transitioned to CLOSED (probe succeeded)". -/
  | closed
  /-- "re-opened (half-open probe failed)". -/
  | reopened
  /-- "transitioned to OPEN after ... failures". -/
  | opened
  deriving DecidableEq, Repr

/-- What `check` raises. -/
inductive CheckError where
  | circuitBreakerOpen (name : PyStr) (recoverySeconds : ℚ)
  /-- A breaker that is open, but does not know since when. -/
  | typeError
  deriving DecidableEq, Repr

namespace CircuitBreaker

/-- `state`, a property that moves an open breaker on. -/
def readState (self : CircuitBreaker) (now : ℚ) (b : Breaker) : Breaker × List Transition :=
  match b.state, b.openedAt with
  | .opened, some openedAt =>
    if self.recoveryTimeout ≤ now - openedAt then
      ({ b with state := .halfOpen, halfOpenCalls := 0 }, [.halfOpened])
    else (b, [])
  | _, _ => (b, [])

def check (self : CircuitBreaker) (now : ℚ) (b : Breaker) :
    Except CheckError Unit × Breaker × List Transition :=
  let r := self.readState now b
  match r.1.state with
  | .closed => (.ok (), r)
  | .opened =>
    match r.1.openedAt with
    | none => (.error .typeError, r)
    | some openedAt =>
      let remaining := self.recoveryTimeout - (now - openedAt)
      (.error (.circuitBreakerOpen self.name (max 0 remaining)), r)
  | .halfOpen =>
    if self.halfOpenMaxCalls ≤ r.1.halfOpenCalls then
      (.error (.circuitBreakerOpen self.name 0), r)
    else (.ok (), { r.1 with halfOpenCalls := r.1.halfOpenCalls + 1 }, r.2)

def recordSuccess (self : CircuitBreaker) (now : ℚ) (b : Breaker) : Breaker × List Transition :=
  -- a breaker that is half-open already is read as it is
  let r := self.readState now b
  ({ r.1 with
      failureCount := 0, successCount := r.1.successCount + 1, state := .closed,
      openedAt := none, halfOpenCalls := 0 },
    r.2 ++ if r.1.state = .halfOpen then [.closed] else [])

def recordFailure (self : CircuitBreaker) (now : ℚ) (b : Breaker) : Breaker × List Transition :=
  let r := self.readState now { b with failureCount := b.failureCount + 1 }
  if r.1.state = .halfOpen then
    ({ r.1 with state := .opened, openedAt := some now, halfOpenCalls := 0 }, r.2 ++ [.reopened])
  else if self.failureThreshold ≤ r.1.failureCount then
    ({ r.1 with state := .opened, openedAt := some now }, r.2 ++ [.opened])
  else r

end CircuitBreaker

/-! ### The calls -/

/-- What `self.client.request` ends with. -/
inductive Transport where
  | response (statusCode : ℤ)
  /-- `httpx.ConnectError`. -/
  | connectError
  /-- `httpx.TimeoutException`. -/
  | timeoutException
  /-- Any other exception, a cancellation among them. -/
  | otherException
  deriving DecidableEq, Repr

/-- A `BaseServiceClient`, of which every subclass has its own name and may have its own
limits. -/
structure BaseServiceClient where
  serviceName : PyStr
  cbFailureThreshold : ℤ := 5
  cbRecoveryTimeout : ℚ := 30
  deriving DecidableEq, Repr

def BaseServiceClient.circuitBreaker (self : BaseServiceClient) : CircuitBreaker where
  name := self.serviceName
  failureThreshold := self.cbFailureThreshold
  recoveryTimeout := self.cbRecoveryTimeout

/-- What `_request` does with it: `record_success`, `record_failure`, or nothing. -/
def CircuitBreaker.record (self : CircuitBreaker) (now : ℚ) (b : Breaker) :
    Transport → Option (Breaker × List Transition)
  | .response statusCode =>
    if 500 ≤ statusCode then some (self.recordFailure now b)
    else some (self.recordSuccess now b)
  | .connectError => some (self.recordFailure now b)
  | .timeoutException => some (self.recordFailure now b)
  | .otherException => none

/-- The transport result that `_request` records as a success. -/
def Transport.IsSuccess : Transport → Prop
  | .response statusCode => statusCode < 500
  | _ => False

instance : DecidablePred Transport.IsSuccess
  | .response statusCode => inferInstanceAs (Decidable (statusCode < 500))
  | .connectError => .isFalse id
  | .timeoutException => .isFalse id
  | .otherException => .isFalse id

inductive LogEntry where
  | transition (transition : Transition) (time : ℚ)
  | admitted (call : ℕ) (time : ℚ)
  | recorded (call : ℕ)
  deriving DecidableEq, Repr

def report (now : ℚ) (transitions : List Transition) (log : List LogEntry) : List LogEntry :=
  transitions.foldl (fun log transition => .transition transition now :: log) log

structure Traffic where
  breaker : Breaker
  now : ℚ
  /-- How many calls have been admitted, which is the number of the next. -/
  admitted : ℕ
  /-- The calls that the transport has not answered. -/
  flying : List ℕ
  log : List LogEntry
  deriving DecidableEq, Repr

inductive TrafficStep where
  /-- `_request` is called. -/
  | start
  /-- The transport ends a call. -/
  | finish (call : ℕ) (result : Transport)
  | wait (seconds : ℚ≥0)
  deriving DecidableEq

def Traffic.start (now : ℚ) : Traffic := ⟨{}, now, 0, [], []⟩

def Traffic.step (self : CircuitBreaker) (w : Traffic) : TrafficStep → Traffic
  | .start =>
    match self.check w.now w.breaker with
    | (.error _, breaker, transitions) =>
      { w with breaker, log := report w.now transitions w.log }
    | (.ok (), breaker, transitions) =>
      { w with
        breaker, admitted := w.admitted + 1, flying := w.admitted :: w.flying,
        log := .admitted w.admitted w.now :: report w.now transitions w.log }
  | .finish call result =>
    if call ∈ w.flying then
      match self.record w.now w.breaker result with
      | none => { w with flying := w.flying.erase call }
      | some (breaker, transitions) =>
        { w with
          breaker, flying := w.flying.erase call,
          log := .recorded call :: report w.now transitions w.log }
    else w
  | .wait seconds => { w with now := w.now + seconds }

/-! ### The laws -/

def latestOpening : List LogEntry → Option ℚ
  | [] => none
  | .transition .opened time :: _ => some time
  | .transition .reopened time :: _ => some time
  | _ :: log => latestOpening log

/-- The probes of the current half-open period: the calls admitted since the breaker became
half-open. There is no such period once the breaker has opened, or an outcome of one of
these very calls has been recorded. -/
def currentProbes : List LogEntry → Option (List ℕ)
  | [] => none
  | .transition .halfOpened _ :: _ => some []
  | .transition .opened _ :: _ => none
  | .transition .reopened _ :: _ => none
  | .transition .closed _ :: log => currentProbes log
  | .admitted call _ :: log => (currentProbes log).map (call :: ·)
  | .recorded call :: log => (currentProbes log).filter (call ∉ ·)

/-- **Isolation.** Every call was admitted after `recovery_timeout` had elapsed since the
latest opening, and into a half-open period that was not full. -/
def Isolated (self : CircuitBreaker) : List LogEntry → Prop
  | [] => True
  | .admitted _ time :: log =>
    (∀ openedAt ∈ latestOpening log, openedAt + self.recoveryTimeout ≤ time) ∧
      (∀ probes ∈ currentProbes log, (probes.length : ℤ) < self.halfOpenMaxCalls) ∧
      Isolated self log
  | _ :: log => Isolated self log

instance Isolated.decidable (self : CircuitBreaker) :
    (log : List LogEntry) → Decidable (Isolated self log)
  | [] => .isTrue trivial
  | .admitted _ _ :: log =>
    have := Isolated.decidable self log
    inferInstanceAs (Decidable (_ ∧ _ ∧ _))
  | .transition _ _ :: log => Isolated.decidable self log
  | .recorded _ :: log => Isolated.decidable self log

def Owned (w : Traffic) : TrafficStep → Prop
  | .finish call result => call ∈ w.flying → result.IsSuccess → w.breaker.state ≠ .closed →
      ∃ probes ∈ currentProbes w.log, call ∈ probes
  | _ => True

instance (w : Traffic) : DecidablePred (Owned w)
  | .start => .isTrue trivial
  | .wait _ => .isTrue trivial
  | .finish call _ => inferInstanceAs (Decidable (call ∈ w.flying → _))

/-- While the breaker is half-open it counts the probes in flight. -/
def SlotsHeld (w : Traffic) : Prop :=
  w.breaker.state = .halfOpen → ∀ probes ∈ currentProbes w.log,
    w.breaker.halfOpenCalls = (probes.filter (· ∈ w.flying)).length

/-- Once no call is in flight, and `recovery_timeout` has passed, the breaker admits one. -/
def Recovers (self : CircuitBreaker) (w : Traffic) : Prop :=
  w.flying = [] → ∀ wait : ℚ, 0 ≤ wait → self.recoveryTimeout ≤ wait →
    (self.check (w.now + wait) w.breaker).1 = .ok ()

def ProbeAnswered (w : Traffic) : TrafficStep → Prop
  | .finish call .otherException => call ∈ w.flying → w.breaker.state = .halfOpen →
      ∀ probes ∈ currentProbes w.log, call ∉ probes
  | _ => True

/-! ### What a method can do -/

section Methods

variable {self : CircuitBreaker} {now : ℚ} {b : Breaker} {w : Traffic}

variable (self) in
def Traffic.wake (w : Traffic) : Traffic :=
  let r := self.readState w.now w.breaker
  { w with breaker := r.1, log := report w.now r.2 w.log }

theorem readState_cases (self : CircuitBreaker) (now : ℚ) (b : Breaker) :
    (self.readState now b = (b, []) ∧
      (b.state = .opened → ∀ openedAt ∈ b.openedAt, now < openedAt + self.recoveryTimeout)) ∨
    ∃ openedAt, b.state = .opened ∧ b.openedAt = some openedAt ∧
      openedAt + self.recoveryTimeout ≤ now ∧
      self.readState now b =
        ({ b with state := .halfOpen, halfOpenCalls := 0 }, [.halfOpened]) := by
  rw [CircuitBreaker.readState.eq_def]
  split
  · next openedAt hstate hopened =>
      by_cases h : self.recoveryTimeout ≤ now - openedAt
      · rw [if_pos h]
        exact .inr ⟨openedAt, hstate, hopened, by linarith, rfl⟩
      · rw [if_neg h, hopened]
        refine .inl ⟨rfl, fun _ t ht => ?_⟩
        obtain rfl : openedAt = t := some.inj ht
        linarith
  · next hne =>
      refine .inl ⟨rfl, fun hstate t ht => ?_⟩
      exact absurd ht (hne t hstate)

theorem readState_failureCount (self : CircuitBreaker) (now : ℚ) (b : Breaker) (n : ℕ) :
    self.readState now { b with failureCount := n } =
      ({ (self.readState now b).1 with failureCount := n }, (self.readState now b).2) := by
  obtain ⟨failureCount, successCount, state, openedAt, halfOpenCalls⟩ := b
  rcases state with _ | _ | _ <;> rcases openedAt with _ | openedAt <;>
    simp only [CircuitBreaker.readState]
  split <;> rfl

@[simp] theorem report_nil (log : List LogEntry) : report now [] log = log := rfl

theorem report_append (before after : List Transition) (log : List LogEntry) :
    report now (before ++ after) log = report now after (report now before log) :=
  foldl_append

def Traffic.grant (w : Traffic) (breaker : Breaker) : Traffic :=
  { w with
    breaker, admitted := w.admitted + 1, flying := w.admitted :: w.flying,
    log := .admitted w.admitted w.now :: w.log }

/-- **What a check can do**, once the state has been read. -/
theorem start_cases (self : CircuitBreaker) (w : Traffic) :
    (w.step self .start = w.wake self ∧ (w.wake self).breaker.state ≠ .closed) ∨
    ((w.wake self).breaker.state = .closed ∧
      w.step self .start = (w.wake self).grant (w.wake self).breaker) ∨
    ((w.wake self).breaker.state = .halfOpen ∧
      ((w.wake self).breaker.halfOpenCalls : ℤ) < self.halfOpenMaxCalls ∧
      w.step self .start = (w.wake self).grant { (w.wake self).breaker with
        halfOpenCalls := (w.wake self).breaker.halfOpenCalls + 1 }) := by
  simp only [Traffic.step, CircuitBreaker.check, Traffic.wake]
  cases hstate : (self.readState w.now w.breaker).1.state with
  | closed => exact .inr (.inl ⟨rfl, rfl⟩)
  | opened =>
    cases (self.readState w.now w.breaker).1.openedAt with
    | none => exact .inl ⟨rfl, nofun⟩
    | some openedAt => exact .inl ⟨rfl, nofun⟩
  | halfOpen =>
    by_cases hfull : self.halfOpenMaxCalls ≤ (self.readState w.now w.breaker).1.halfOpenCalls
    · rw [if_pos hfull]
      exact .inl ⟨rfl, nofun⟩
    · rw [if_neg hfull]
      exact .inr (.inr ⟨rfl, not_le.mp hfull, rfl⟩)

/-- **What a recorded success does**: it closes the breaker. -/
theorem recordSuccess_eq (self : CircuitBreaker) (w : Traffic) :
    ∃ breaker transitions, self.recordSuccess w.now w.breaker = (breaker, transitions) ∧
      breaker.state = .closed ∧
      (report w.now transitions w.log = (w.wake self).log ∨
        report w.now transitions w.log = .transition .closed w.now :: (w.wake self).log) := by
  refine ⟨_, _, rfl, rfl, ?_⟩
  rw [report_append]
  by_cases hstate : (self.readState w.now w.breaker).1.state = .halfOpen
  · rw [if_pos hstate]
    exact .inr rfl
  · rw [if_neg hstate]
    exact .inl rfl

/-- **What a recorded failure can do**: it opens the breaker, or is counted only. -/
theorem recordFailure_cases (self : CircuitBreaker) (w : Traffic) :
    ∃ breaker transitions, self.recordFailure w.now w.breaker = (breaker, transitions) ∧
      ((breaker.state = .opened ∧ breaker.openedAt = some w.now ∧
          ∃ transition, (transition = .opened ∨ transition = .reopened) ∧
            report w.now transitions w.log =
              .transition transition w.now :: (w.wake self).log) ∨
        ((w.wake self).breaker.state ≠ .halfOpen ∧
          breaker = { (w.wake self).breaker with failureCount := breaker.failureCount } ∧
          report w.now transitions w.log = (w.wake self).log)) := by
  refine ⟨(self.recordFailure w.now w.breaker).1, (self.recordFailure w.now w.breaker).2, rfl, ?_⟩
  rw [CircuitBreaker.recordFailure, readState_failureCount]
  by_cases hstate : (self.readState w.now w.breaker).1.state = .halfOpen
  · rw [if_pos hstate, report_append]
    exact .inl ⟨rfl, rfl, .reopened, .inr rfl, rfl⟩
  · rw [if_neg hstate]
    split
    · rw [report_append]
      exact .inl ⟨rfl, rfl, .opened, .inl rfl, rfl⟩
    · exact .inr ⟨hstate, rfl, rfl⟩

/-- What `_request` records. -/
theorem record_cases (self : CircuitBreaker) (now : ℚ) (b : Breaker) (result : Transport) :
    (result = .otherException ∧ self.record now b result = none) ∨
    (result.IsSuccess ∧ self.record now b result = some (self.recordSuccess now b)) ∨
    self.record now b result = some (self.recordFailure now b) := by
  cases result with
  | response statusCode =>
    by_cases h : 500 ≤ statusCode
    · exact .inr (.inr (if_pos h))
    · exact .inr (.inl ⟨not_le.mp h, if_neg h⟩)
  | connectError => exact .inr (.inr rfl)
  | timeoutException => exact .inr (.inr rfl)
  | otherException => exact .inl ⟨rfl, rfl⟩

/-- **What the end of a call can do.** -/
theorem finish_cases (self : CircuitBreaker) {w : Traffic} {call : ℕ} (result : Transport)
    (hcall : call ∈ w.flying) :
    ∃ breaker log, w.step self (.finish call result) =
        { w with breaker, flying := w.flying.erase call, log } ∧
      ((result = .otherException ∧ breaker = w.breaker ∧ log = w.log) ∨
        (result.IsSuccess ∧ breaker.state = .closed ∧
          (log = .recorded call :: (w.wake self).log ∨
            log = .recorded call :: .transition .closed w.now :: (w.wake self).log)) ∨
        (breaker.state = .opened ∧ breaker.openedAt = some w.now ∧
          ∃ transition, (transition = .opened ∨ transition = .reopened) ∧
            log = .recorded call :: .transition transition w.now :: (w.wake self).log) ∨
        ((w.wake self).breaker.state ≠ .halfOpen ∧
          breaker = { (w.wake self).breaker with failureCount := breaker.failureCount } ∧
          log = .recorded call :: (w.wake self).log)) := by
  rw [Traffic.step.eq_def]
  dsimp only
  rw [if_pos hcall]
  rcases record_cases self w.now w.breaker result with ⟨hother, hr⟩ | ⟨hsuccess, hr⟩ | hr
  · exact ⟨w.breaker, w.log, by rw [hr], .inl ⟨hother, rfl, rfl⟩⟩
  · obtain ⟨breaker, transitions, hs, hclosed, hlog⟩ := recordSuccess_eq self w
    refine ⟨breaker, .recorded call :: report w.now transitions w.log, by rw [hr, hs], ?_⟩
    refine .inr (.inl ⟨hsuccess, hclosed, ?_⟩)
    rcases hlog with hlog | hlog
    · exact .inl (by rw [hlog])
    · exact .inr (by rw [hlog])
  · obtain ⟨breaker, transitions, hf, hcases⟩ := recordFailure_cases self w
    refine ⟨breaker, .recorded call :: report w.now transitions w.log, by rw [hr, hf], ?_⟩
    rcases hcases with ⟨hopened, hat, transition, htransition, hlog⟩ | ⟨hstate, hsame, hlog⟩
    · exact .inr (.inr (.inl ⟨hopened, hat, transition, htransition, by rw [hlog]⟩))
    · exact .inr (.inr (.inr ⟨hstate, hsame, by rw [hlog]⟩))

end Methods

/-! ### What every run keeps -/

/-- The log knows when the breaker opened, and which probes it counts. -/
structure Traffic.Sound (w : Traffic) : Prop where
  openedAt : w.breaker.state = .opened →
    ∃ openedAt, w.breaker.openedAt = some openedAt ∧ latestOpening w.log = some openedAt
  past : ∀ openedAt ∈ latestOpening w.log, openedAt ≤ w.now
  opened : w.breaker.state = .opened → currentProbes w.log = none
  halfOpen : w.breaker.state = .halfOpen →
    ∃ probes, currentProbes w.log = some probes ∧ probes.length = w.breaker.halfOpenCalls
  fresh : ∀ call ∈ w.flying, call < w.admitted
  nodup : w.flying.Nodup

variable {self : CircuitBreaker} {w : Traffic}

theorem sound_start (now : ℚ) : (Traffic.start now).Sound :=
  ⟨nofun, nofun, nofun, nofun, nofun, nodup_nil⟩

theorem wake_cases (self : CircuitBreaker) (w : Traffic) :
    (w.wake self = w ∧
      (w.breaker.state = .opened →
        ∀ openedAt ∈ w.breaker.openedAt, w.now < openedAt + self.recoveryTimeout)) ∨
    ∃ openedAt, w.breaker.state = .opened ∧ w.breaker.openedAt = some openedAt ∧
      openedAt + self.recoveryTimeout ≤ w.now ∧
      w.wake self = { w with
        breaker := { w.breaker with state := .halfOpen, halfOpenCalls := 0 }
        log := .transition .halfOpened w.now :: w.log } := by
  rw [Traffic.wake]
  rcases readState_cases self w.now w.breaker with ⟨hr, hearly⟩ | ⟨t, hstate, hopened, ht, hr⟩
  · rw [hr]
    exact .inl ⟨rfl, hearly⟩
  · rw [hr]
    exact .inr ⟨t, hstate, hopened, ht, rfl⟩

theorem Traffic.Sound.wake (hw : w.Sound) : (w.wake self).Sound := by
  rcases wake_cases self w with ⟨hr, -⟩ | ⟨t, -, -, -, hr⟩
  · rwa [hr]
  · rw [hr]
    exact ⟨nofun, hw.past, nofun, fun _ => ⟨[], rfl, rfl⟩, hw.fresh, hw.nodup⟩

theorem Traffic.Sound.grant (hw : w.Sound) {breaker : Breaker}
    (hbreaker : (breaker = w.breaker ∧ w.breaker.state = .closed) ∨
      (w.breaker.state = .halfOpen ∧
        breaker = { w.breaker with halfOpenCalls := w.breaker.halfOpenCalls + 1 })) :
    (w.grant breaker).Sound := by
  have hstate : breaker.state = w.breaker.state := by
    rcases hbreaker with ⟨h, -⟩ | ⟨-, h⟩ <;> rw [h]
  have hnotOpened : breaker.state ≠ .opened := by
    rw [hstate]
    rcases hbreaker with ⟨-, h⟩ | ⟨h, -⟩ <;> rw [h] <;> nofun
  refine ⟨fun h => absurd h hnotOpened, hw.past, fun h => absurd h hnotOpened, fun h => ?_, ?_, ?_⟩
  · rcases hbreaker with ⟨-, hclosed⟩ | ⟨hhalf, hcalls⟩
    · rw [Traffic.grant, hstate, hclosed] at h
      cases h
    · obtain ⟨probes, hprobes, hlength⟩ := hw.halfOpen hhalf
      refine ⟨w.admitted :: probes, ?_, ?_⟩
      · rw [Traffic.grant, currentProbes, hprobes]
        rfl
      · rw [Traffic.grant, hcalls, length_cons, hlength]
  · intro call hcall
    rcases mem_cons.mp hcall with rfl | hcall
    · exact Nat.lt_succ_self _
    · exact Nat.lt_succ_of_lt (hw.fresh call hcall)
  · exact nodup_cons.mpr ⟨fun h => lt_irrefl _ (hw.fresh _ h), hw.nodup⟩

theorem Traffic.Sound.step (hw : w.Sound) (e : TrafficStep) : (w.step self e).Sound := by
  have hwake : (w.wake self).Sound := hw.wake
  cases e with
  | start =>
    rcases start_cases self w with ⟨h, -⟩ | ⟨hclosed, h⟩ | ⟨hhalf, -, h⟩
    · rwa [h]
    · rw [h]
      exact hwake.grant (.inl ⟨rfl, hclosed⟩)
    · rw [h]
      exact hwake.grant (.inr ⟨hhalf, rfl⟩)
  | wait seconds =>
    have hlater : w.now ≤ w.now + seconds := le_add_of_nonneg_right seconds.2
    exact ⟨hw.openedAt, fun t ht => (hw.past t ht).trans hlater, hw.opened, hw.halfOpen,
      hw.fresh, hw.nodup⟩
  | finish call result =>
    by_cases hcall : call ∈ w.flying
    · have hfresh : ∀ c ∈ w.flying.erase call, c < w.admitted := fun c hc =>
        hw.fresh c (mem_of_mem_erase hc)
      obtain ⟨breaker, log, h, hcases⟩ := finish_cases self result hcall
      rw [h]
      rcases hcases with ⟨-, hsame, hlog⟩ | ⟨-, hclosed, hlog⟩ |
        ⟨hopened, hat, transition, htransition, hlog⟩ | ⟨hstate, hsame, hlog⟩
      · rw [hsame, hlog]
        exact ⟨hw.openedAt, hw.past, hw.opened, hw.halfOpen, hfresh, hw.nodup.erase call⟩
      · have hlatest : latestOpening log = latestOpening (w.wake self).log := by
          rcases hlog with rfl | rfl <;> rfl
        refine ⟨?_, ?_, ?_, ?_, hfresh, hw.nodup.erase call⟩
        · simp [hclosed]
        · rw [hlatest]
          exact hwake.past
        · simp [hclosed]
        · simp [hclosed]
      · have hnow : latestOpening log = some w.now ∧ currentProbes log = none := by
          rw [hlog]
          rcases htransition with rfl | rfl <;> exact ⟨rfl, rfl⟩
        refine ⟨fun _ => ⟨w.now, hat, hnow.1⟩, ?_, fun _ => hnow.2, ?_, hfresh,
          hw.nodup.erase call⟩
        · rw [hnow.1]
          exact fun t ht => (some.inj ht).ge
        · simp [hopened]
      · have hsameState : breaker.state = (w.wake self).breaker.state := by rw [hsame]
        rw [hlog]
        refine ⟨?_, hwake.past, ?_, ?_, hfresh, hw.nodup.erase call⟩
        · rw [hsame]
          exact hwake.openedAt
        · intro h
          rw [currentProbes, hwake.opened (hsameState.symm.trans h)]
          rfl
        · intro h
          exact absurd (hsameState.symm.trans h) hstate
    · rw [Traffic.step, if_neg hcall]
      exact hw

/-! ### Isolation -/

/-- The breaker has isolated so far: one that is not open has waited, one that is closed has
no probes. -/
structure Traffic.Isolating (cb : CircuitBreaker) (w : Traffic) : Prop where
  waited : w.breaker.state ≠ .opened →
    ∀ openedAt ∈ latestOpening w.log, openedAt + cb.recoveryTimeout ≤ w.now
  closed : w.breaker.state = .closed → currentProbes w.log = none
  isolated : Isolated cb w.log

theorem isolating_start (self : CircuitBreaker) (now : ℚ) :
    (Traffic.start now).Isolating self :=
  ⟨fun _ => nofun, fun _ => rfl, trivial⟩

theorem Traffic.Isolating.wake (hw : w.Isolating self) (hsound : w.Sound) :
    (w.wake self).Isolating self := by
  rcases wake_cases self w with ⟨hr, -⟩ | ⟨t, hstate, hopened, ht, hr⟩
  · rwa [hr]
  · obtain ⟨t', hopened', hlatest⟩ := hsound.openedAt hstate
    obtain rfl : t = t' := some.inj (hopened.symm.trans hopened')
    rw [hr]
    refine ⟨fun _ openedAt h => ?_, nofun, hw.isolated⟩
    obtain rfl : t = openedAt := some.inj (hlatest.symm.trans h)
    exact ht

theorem Traffic.Isolating.grant (hw : w.Isolating self) {breaker : Breaker}
    (hopened : w.breaker.state ≠ .opened) (hstate : breaker.state = w.breaker.state)
    (hroom : ∀ probes ∈ currentProbes w.log, (probes.length : ℤ) < self.halfOpenMaxCalls) :
    (w.grant breaker).Isolating self := by
  have hwaited := hw.waited hopened
  refine ⟨fun _ => hwaited, fun h => ?_, hwaited, hroom, hw.isolated⟩
  rw [Traffic.grant, currentProbes, hw.closed (hstate.symm.trans h)]
  rfl

theorem currentProbes_recorded {call : ℕ} {log : List LogEntry} {probes : List ℕ}
    (hprobes : currentProbes log = some probes) (hcall : call ∈ probes) :
    currentProbes (.recorded call :: log) = none := by
  rw [currentProbes, hprobes, filter_some, if_neg (by simpa using hcall)]

theorem Traffic.Isolating.step (hw : w.Isolating self) (hsound : w.Sound) (e : TrafficStep)
    (howned : Owned w e) : (w.step self e).Isolating self := by
  have hwake : (w.wake self).Isolating self := hw.wake hsound
  cases e with
  | start =>
    rcases start_cases self w with ⟨h, -⟩ | ⟨hclosed, h⟩ | ⟨hhalf, hroom, h⟩
    · rwa [h]
    · rw [h]
      refine hwake.grant (by simp [hclosed]) rfl fun probes hprobes => ?_
      rw [hwake.closed hclosed] at hprobes
      cases hprobes
    · rw [h]
      refine hwake.grant (by simp [hhalf]) rfl fun probes hprobes => ?_
      have hsoundWake : (w.wake self).Sound := hsound.wake
      obtain ⟨probes', hprobes', hlength⟩ := hsoundWake.halfOpen hhalf
      obtain rfl : probes' = probes := some.inj (hprobes'.symm.trans hprobes)
      rwa [hlength]
  | wait seconds =>
    have hlater : w.now ≤ w.now + seconds := le_add_of_nonneg_right seconds.2
    exact ⟨fun h t ht => (hw.waited h t ht).trans hlater, hw.closed, hw.isolated⟩
  | finish call result =>
    by_cases hcall : call ∈ w.flying
    · obtain ⟨breaker, log, h, hcases⟩ := finish_cases self result hcall
      rw [h]
      rcases hcases with ⟨-, hsame, hlog⟩ | ⟨hsuccess, hclosed, hlog⟩ |
        ⟨hopened, -, transition, htransition, hlog⟩ | ⟨hstate, hsame, hlog⟩
      · rw [hsame, hlog]
        exact ⟨hw.waited, hw.closed, hw.isolated⟩
      · -- a success closes the breaker, which was closed, or probed by this very call
        have hopen : w.breaker.state ≠ .opened := by
          intro hopen
          obtain ⟨probes, hprobes, -⟩ := howned hcall hsuccess (by simp [hopen])
          rw [hsound.opened hopen] at hprobes
          cases hprobes
        have hasleep : w.wake self = w := by
          rcases wake_cases self w with ⟨hr, -⟩ | ⟨t, hopened, -⟩
          · exact hr
          · exact absurd hopened hopen
        rw [hasleep] at hlog
        have hended : currentProbes (.recorded call :: w.log) = none := by
          by_cases hstate : w.breaker.state = .closed
          · rw [currentProbes, hw.closed hstate]
            rfl
          · obtain ⟨probes, hprobes, hmem⟩ := howned hcall hsuccess hstate
            exact currentProbes_recorded hprobes hmem
        rcases hlog with rfl | rfl
        · exact ⟨fun _ => hw.waited hopen, fun _ => hended, hw.isolated⟩
        · exact ⟨fun _ => hw.waited hopen, fun _ => hended, hw.isolated⟩
      · rw [hlog]
        refine ⟨fun h => absurd hopened h, ?_, hwake.isolated⟩
        simp [hopened]
      · have hsameState : breaker.state = (w.wake self).breaker.state := by rw [hsame]
        rw [hlog]
        refine ⟨fun h => hwake.waited (hsameState ▸ h), fun h => ?_, hwake.isolated⟩
        rw [currentProbes, hwake.closed (hsameState.symm.trans h)]
        rfl
    · rw [Traffic.step, if_neg hcall]
      exact hw

/-- **Circuit breaker isolation.** Where every success that is recorded on a breaker that is
not closed is one of a probe of the current half-open period, no call is admitted too early
or too often. -/
theorem isolated_of_owned (self : CircuitBreaker) (now : ℚ) (es : List TrafficStep)
    (hes : AllSteps (Traffic.step self) Owned (Traffic.start now) es) :
    Isolated self (exec (Traffic.step self) (Traffic.start now) es).log := by
  have hrun : (exec (Traffic.step self) (Traffic.start now) es).Sound ∧
      (exec (Traffic.step self) (Traffic.start now) es).Isolating self :=
    exec_invariant (J := fun w => w.Sound ∧ w.Isolating self)
      ⟨sound_start now, isolating_start self now⟩ hes fun w e hw howned =>
      ⟨hw.1.step e, hw.2.step hw.1 e howned⟩
  exact hrun.2.isolated

def accountBreaker : CircuitBreaker where
  name := "account_service".toList

def lateSuccess : List TrafficStep :=
  List.replicate 6 .start ++
    [.finish 0 .connectError, .finish 1 .connectError, .finish 2 .connectError,
      .finish 3 .connectError, .finish 4 .connectError, .finish 5 (.response 200)]

/-- The next call is admitted at once. -/
theorem not_isolated_late :
    ¬ ∀ es, Isolated accountBreaker
      (exec (Traffic.step accountBreaker) (Traffic.start 0) es).log := by
  intro h
  have hlate := h (lateSuccess ++ [.start])
  revert hlate
  decide +kernel

def probedInTime : List TrafficStep :=
  List.replicate 5 .start ++
    [.finish 0 .connectError, .finish 1 .connectError, .finish 2 .connectError,
      .finish 3 .connectError, .finish 4 .connectError, .start, .wait 30, .start,
      .finish 5 (.response 200), .start]

theorem isolated_probedInTime :
    Isolated accountBreaker
      (exec (Traffic.step accountBreaker) (Traffic.start 0) probedInTime).log :=
  isolated_of_owned accountBreaker 0 probedInTime (by decide +kernel)

/-! ### Recovery -/

def Traffic.ProbesFly (w : Traffic) : Prop :=
  w.breaker.state = .halfOpen → ∀ probes ∈ currentProbes w.log, ∀ call ∈ probes, call ∈ w.flying

theorem slotsHeld_of_probesFly (hsound : w.Sound) (hfly : w.ProbesFly) : SlotsHeld w := by
  intro hhalf probes hprobes
  obtain ⟨probes', hprobes', hlength⟩ := hsound.halfOpen hhalf
  obtain rfl : probes' = probes := some.inj (hprobes'.symm.trans hprobes)
  have hall : probes'.filter (· ∈ w.flying) = probes' :=
    filter_eq_self.mpr fun call hcall => by simpa using hfly hhalf _ hprobes call hcall
  rw [hall, hlength]

theorem recovers_of_probesFly (hmax : 0 < self.halfOpenMaxCalls) (hsound : w.Sound)
    (hfly : w.ProbesFly) : Recovers self w := by
  intro hnone wait hwait htimeout
  cases hstate : w.breaker.state with
  | closed => simp [CircuitBreaker.check, CircuitBreaker.readState, hstate]
  | opened =>
    obtain ⟨t, hopened, hlatest⟩ := hsound.openedAt hstate
    have hpast : t ≤ w.now := hsound.past t hlatest
    have helapsed : self.recoveryTimeout ≤ w.now + wait - t := by linarith
    have hroom : ¬ self.halfOpenMaxCalls ≤ 0 := not_le.mpr hmax
    simp [CircuitBreaker.check, CircuitBreaker.readState, hstate, hopened, helapsed, hroom]
  | halfOpen =>
    obtain ⟨probes, hprobes, hlength⟩ := hsound.halfOpen hstate
    have hempty : probes = [] := by
      refine eq_nil_iff_forall_not_mem.mpr fun call hcall => ?_
      have hmem := hfly hstate probes hprobes call hcall
      rw [hnone] at hmem
      cases hmem
    have hcalls : w.breaker.halfOpenCalls = 0 := by rw [← hlength, hempty]; rfl
    have hroom : ¬ self.halfOpenMaxCalls ≤ 0 := not_le.mpr hmax
    simp [CircuitBreaker.check, CircuitBreaker.readState, hstate, hcalls, hroom]

theorem Traffic.ProbesFly.wake (hfly : w.ProbesFly) : (w.wake self).ProbesFly := by
  rcases wake_cases self w with ⟨hr, -⟩ | ⟨t, -, -, -, hr⟩
  · rwa [hr]
  · rw [hr]
    intro _ probes hprobes call hcall
    obtain rfl : [] = probes := some.inj hprobes
    cases hcall

theorem Traffic.ProbesFly.grant (hfly : w.ProbesFly) {breaker : Breaker}
    (hstate : breaker.state = w.breaker.state) : (w.grant breaker).ProbesFly := by
  intro hhalf probes hprobes call hcall
  obtain ⟨earlier, hearlier, rfl⟩ := map_eq_some_iff.mp hprobes
  rcases mem_cons.mp hcall with rfl | hcall
  · exact mem_cons_self
  · exact mem_cons_of_mem _ (hfly (hstate.symm.trans hhalf) earlier hearlier call hcall)

theorem Traffic.ProbesFly.step (hfly : w.ProbesFly) (e : TrafficStep)
    (hanswered : ProbeAnswered w e) : (w.step self e).ProbesFly := by
  have hwake : (w.wake self).ProbesFly := hfly.wake
  cases e with
  | start =>
    rcases start_cases self w with ⟨h, -⟩ | ⟨-, h⟩ | ⟨-, -, h⟩
    · rwa [h]
    · rw [h]
      exact hwake.grant rfl
    · rw [h]
      exact hwake.grant rfl
  | wait seconds => exact hfly
  | finish call result =>
    by_cases hcall : call ∈ w.flying
    · obtain ⟨breaker, log, h, hcases⟩ := finish_cases self result hcall
      rw [h]
      rcases hcases with ⟨hother, hsame, hlog⟩ | ⟨-, hclosed, -⟩ | ⟨hopened, -⟩ |
        ⟨hstate, hsame, -⟩
      · subst hother
        rw [hsame, hlog]
        intro hhalf probes hprobes c hc
        have hne : c ≠ call := by
          rintro rfl
          exact hanswered hcall hhalf probes hprobes hc
        exact (mem_erase_of_ne hne).mpr (hfly hhalf probes hprobes c hc)
      · intro hhalf
        exact absurd (hclosed.symm.trans hhalf) nofun
      · intro hhalf
        exact absurd (hopened.symm.trans hhalf) nofun
      · intro hhalf
        have hsameState : breaker.state = (w.wake self).breaker.state := by rw [hsame]
        exact absurd (hsameState.symm.trans hhalf) hstate
    · rw [Traffic.step, if_neg hcall]
      exact hfly

theorem not_slotsHeld_step (hsound : w.Sound) {e : TrafficStep} (h : ¬ ProbeAnswered w e) :
    ¬ SlotsHeld (w.step self e) := by
  rcases e with _ | ⟨call, _ | _ | _ | _⟩ | _
  case finish.otherException =>
    simp only [ProbeAnswered, not_forall, not_not] at h
    obtain ⟨hcall, hhalf, probes, hprobes, hmem⟩ := h
    have hstep : w.step self (.finish call .otherException) =
        { w with flying := w.flying.erase call } := by
      rw [Traffic.step, if_pos hcall]
      rfl
    intro hheld
    rw [hstep] at hheld
    have hcount := hheld hhalf probes hprobes
    obtain ⟨probes', hprobes', hlength⟩ := hsound.halfOpen hhalf
    obtain rfl : probes' = probes := some.inj (hprobes'.symm.trans hprobes)
    have hall := length_filter_eq_length_iff.mp (hcount.symm.trans hlength.symm) call hmem
    exact hsound.nodup.not_mem_erase (by simpa using hall)
  all_goals exact absurd trivial h

/-- **The breaker never wedges** if and only if no probe of a half-open breaker ends with an
exception for which `_request` records nothing. -/
theorem neverWedges_iff (client : BaseServiceClient) (now : ℚ) (es : List TrafficStep) :
    Always (Traffic.step client.circuitBreaker)
        (fun w => SlotsHeld w ∧ Recovers client.circuitBreaker w) (Traffic.start now) es ↔
      AllSteps (Traffic.step client.circuitBreaker) ProbeAnswered (Traffic.start now) es := by
  refine always_iff_allSteps (J := fun w => w.Sound ∧ w.ProbesFly)
    ⟨sound_start now, nofun⟩ ?_ ?_ ?_
  · rintro w ⟨hsound, hfly⟩
    exact ⟨slotsHeld_of_probesFly hsound hfly,
      recovers_of_probesFly Int.one_pos hsound hfly⟩
  · rintro w e ⟨hsound, hfly⟩ hanswered
    exact ⟨hsound.step e, hfly.step e hanswered⟩
  · rintro w e ⟨hsound, -⟩ hanswered ⟨hheld, -⟩
    exact not_slotsHeld_step hsound hanswered hheld

theorem wedged_forever (self : CircuitBreaker) (w : Traffic) (hstate : w.breaker.state = .halfOpen)
    (hfull : self.halfOpenMaxCalls ≤ w.breaker.halfOpenCalls) (hnone : w.flying = [])
    (es : List TrafficStep) :
    (self.check (exec (Traffic.step self) w es).now (exec (Traffic.step self) w es).breaker).1 =
      .error (.circuitBreakerOpen self.name 0) := by
  have hcheck (now : ℚ) : self.check now w.breaker =
      (.error (.circuitBreakerOpen self.name 0), w.breaker, []) := by
    simp [CircuitBreaker.check, CircuitBreaker.readState, hstate, hfull]
  have hrun : (exec (Traffic.step self) w es).breaker = w.breaker ∧
      (exec (Traffic.step self) w es).flying = [] := by
    refine exec_invariant (J := fun w' : Traffic => w'.breaker = w.breaker ∧ w'.flying = [])
      ⟨rfl, hnone⟩ (allSteps_true w es) ?_
    rintro w' e ⟨hbreaker, hflying⟩ -
    cases e with
    | start =>
      rw [Traffic.step, hbreaker, hcheck]
      exact ⟨rfl, hflying⟩
    | wait seconds => exact ⟨hbreaker, hflying⟩
    | finish call result =>
      rw [Traffic.step, if_neg (by simp [hflying])]
      exact ⟨hbreaker, hflying⟩
  rw [hrun.1, hcheck]

def accountServiceClient : BaseServiceClient where
  serviceName := "account_service".toList

def readError : List TrafficStep :=
  List.replicate 5 .start ++
    [.finish 0 .connectError, .finish 1 .connectError, .finish 2 .connectError,
      .finish 3 .connectError, .finish 4 .connectError, .wait 30, .start,
      .finish 5 .otherException]

/-- From then on, no call is admitted. -/
theorem not_neverWedges_readError :
    ¬ ∀ es, Recovers accountServiceClient.circuitBreaker
      (exec (Traffic.step accountServiceClient.circuitBreaker) (Traffic.start 0) es) := by
  intro h
  have hrecovers := h readError (by decide +kernel) 30 (by norm_num) (by decide +kernel)
  have hwedged := wedged_forever accountServiceClient.circuitBreaker
    (exec (Traffic.step accountServiceClient.circuitBreaker) (Traffic.start 0) readError)
    (by decide +kernel) (by decide +kernel) (by decide +kernel) [.wait 30]
  cases hrecovers.symm.trans hwedged

end IsaUser.Core
