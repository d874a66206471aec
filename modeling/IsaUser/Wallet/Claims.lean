import IsaUser.Wallet.EventStore

/-!
# Who Owns a Claim

Any number of processors call `claim_event_processing`, `mark_event_processing_completed`
and `mark_event_processing_failed` on one claim key, with their statements interleaved in
any order, any clock readings and any failures of the connection.

A completed claim is never granted again. A claim that its holder has refreshed within
`stale_after_seconds` is not granted to anybody else either, but the two statements that
end a claim do not look at the owner: a processor that comes back late ends the claim of
its successor.
-/

namespace IsaUser.Wallets

open Pool

/-! ### Requests -/

inductive ClaimOperation where
  | claim
  | complete
  | fail
  deriving DecidableEq, Repr

/-- A call of a processor, with the `stale_after_seconds` that this processor uses. -/
structure ClaimRequest where
  operation : ClaimOperation
  processorId : ℕ
  staleAfterSeconds : ℤ
  deriving DecidableEq, Repr

def ClaimRequest.serve (r : ClaimRequest) : EventM Unit :=
  match r.operation with
  | .claim => (claimEventProcessing r.processorId r.staleAfterSeconds).void
  | .complete => markEventProcessingCompleted
  | .fail => markEventProcessingFailed

/-! ### The law -/

def EventStore.Completed (w : EventStore) : Prop :=
  ∃ row, w.claim = some row ∧ row.status = .completed

def Granted : (c : EventCall) → c.Reply → Prop
  | .insertClaim _ _, r => r = .ok true
  | .reclaim _ _ _, r => r = .ok true
  | _, _ => False

/-- At the time that the statement carries, the row was refreshed within the processor's
`stale_after_seconds`. -/
def ClaimRequest.FreshAt (r : ClaimRequest) (row : Claim) (time : Timestamp) : Prop :=
  time - seconds (max r.staleAfterSeconds 1) ≤ row.updatedAt
  deriving Decidable

def EventCall.time? : EventCall → Option Timestamp
  | insertClaim _ now => some now
  | reclaim _ now _ => some now
  | setCompleted completedAt => some completedAt
  | setFailed failedAt => some failedAt
  | _ => none

def HeldByOther (r : ClaimRequest) (c : EventCall) (row : Claim) : Prop :=
  row.status = .processing ∧ row.processorId ≠ r.processorId ∧ ∀ t ∈ c.time?, r.FreshAt row t

/-- What a call may do to a claim: a completed one stays completed, and one that another
processor holds stays as it is; neither is granted. -/
structure OwnedStep (r : ClaimRequest) (c : EventCall) (w : EventStore) : Prop where
  completed : w.Completed →
    (eventHandle c w).2.Completed ∧ ¬Granted c (eventHandle c w).1
  held : ∀ row, w.claim = some row → HeldByOther r c row →
    (eventHandle c w).2.claim = some row ∧ ¬Granted c (eventHandle c w).1

def ClaimKept (w w' : EventStore) : Prop := w'.claim = w.claim

section Law

variable {ι : Type*} [DecidableEq ι]

/-- A run of the requests: the calls of request `i` meet `C i`. -/
abbrev ClaimRun (C : ι → EventStore → EventCall → Prop) :
    Pool EventApi EventError Unit ι EventStore → Pool EventApi EventError Unit ι EventStore → Prop :=
  Reach eventHandle ClaimKept fun i _ w c => C i w c

/-- **Claim ownership**, in every run of the requests whose calls meet `C`: a claim that is
completed remains so, and every step does what it may. -/
def ClaimsOwned (requests : ι → ClaimRequest) (C : ι → EventStore → EventCall → Prop)
    (w : EventStore) : Prop :=
  ∀ pool, ClaimRun C (start w fun i => (requests i).serve) pool →
    (pool.state.Completed → ∀ later, ClaimRun C pool later → later.state.Completed) ∧
      ∀ i c k, pool.progs i = .call c k → C i pool.state c → OwnedStep (requests i) c pool.state

/-- In every run of the requests, the steps that do what they may are those that meet `C`. -/
def OwnedExactly (requests : ι → ClaimRequest) (C : ι → EventStore → EventCall → Prop)
    (w : EventStore) : Prop :=
  ∀ pool, ClaimRun (fun _ _ _ => True) (start w fun i => (requests i).serve) pool →
    ∀ i c k, pool.progs i = .call c k →
      (OwnedStep (requests i) c pool.state ↔ C i pool.state c)

/-- The condition: a statement that ends the claim and is executed does not find it held by
another processor. -/
def MarksByHolder (requests : ι → ClaimRequest) (i : ι) (w : EventStore) : EventCall → Prop
  | .setCompleted t =>
    w.database = .down ∨ ∀ row, w.claim = some row →
      ¬HeldByOther (requests i) (.setCompleted t) row
  | .setFailed t =>
    w.database = .down ∨ ∀ row, w.claim = some row → ¬HeldByOther (requests i) (.setFailed t) row
  | _ => True

end Law

/-! ### What the requests send -/

def ClaimRequest.Makes (r : ClaimRequest) : EventCall → Prop
  | .clock => True
  | .insertClaim processorId _ => processorId = r.processorId
  | .reclaim processorId now staleCutoff =>
    processorId = r.processorId ∧ staleCutoff = now - seconds (max r.staleAfterSeconds 1)
  | .setCompleted _ => True
  | .setFailed _ => True
  | _ => False

theorem ClaimRequest.serve_only (r : ClaimRequest) : r.serve.Only r.Makes := by
  rw [serve]
  cases r.operation with
  | claim =>
    exact (claimEventProcessing_only trivial (fun _ => rfl) fun _ => ⟨rfl, rfl⟩).bind
      fun _ => trivial
  | complete => exact markEventProcessingCompleted_only trivial fun _ => trivial
  | fail => exact markEventProcessingFailed_only trivial fun _ => trivial

/-! ### One step -/

variable {r : ClaimRequest} {c : EventCall} {w : EventStore}

theorem send_claim {ρ : Type} {executed : ρ × EventStore} {row : Claim} (hw : w.claim = some row)
    (hexecuted : executed.2.claim = some row) : (w.send executed).2.claim = some row :=
  Link.send_snd (P := fun w : EventStore => w.claim = some row) hw hexecuted

theorem not_granted_send {executed : Bool × EventStore} (h : executed.1 = false) :
    (w.send executed).1 ≠ .ok true := by
  intro hok
  rw [(Link.send_ok hok).1] at h
  cases h

theorem insertClaim_of_some {row : Claim} (hw : w.claim = some row) (p : ℕ) (now : Timestamp) :
    w.insertClaim p now = (false, w) := by
  rw [EventStore.insertClaim, hw]

theorem reclaim_of_kept {row : Claim} (hw : w.claim = some row) (p : ℕ) (now : Timestamp)
    {cutoff : Timestamp}
    (hrow : row.status = .completed ∨ row.status = .processing ∧ cutoff ≤ row.updatedAt) :
    w.reclaim p now cutoff = (false, w) := by
  rw [EventStore.reclaim, hw]
  refine if_neg ?_
  rintro ⟨hopen, hfree⟩
  rcases hrow with h | ⟨h, hfresh⟩
  · exact hopen h
  · rw [h] at hfree
    rcases hfree with h | h
    · cases h
    · exact absurd h (not_lt.mpr hfresh)

/-- **A completed claim stays completed**, and is not granted. -/
theorem completed_stays (hw : w.Completed) (c : EventCall) :
    (eventHandle c w).2.Completed ∧ ¬Granted c (eventHandle c w).1 := by
  obtain ⟨row, hrow, hdone⟩ := hw
  have hkept : ∀ w' : EventStore, w'.claim = some row → w'.Completed :=
    fun w' h => ⟨row, h, hdone⟩
  cases c with
  | isEventProcessed _ => exact ⟨hkept _ hrow, id⟩
  | markEventProcessed _ => exact ⟨hkept _ hrow, id⟩
  | clock => exact ⟨hkept _ hrow, id⟩
  | insertClaim p now =>
    have h := insertClaim_of_some hrow p now
    exact ⟨hkept _ (send_claim hrow (by rw [h]; exact hrow)), not_granted_send (by rw [h])⟩
  | reclaim p now cutoff =>
    have h := reclaim_of_kept hrow p now (.inl hdone : _ ∨ _ ∧ cutoff ≤ _)
    exact ⟨hkept _ (send_claim hrow (by rw [h]; exact hrow)), not_granted_send (by rw [h])⟩
  | setCompleted t =>
    refine ⟨Link.send_snd (P := EventStore.Completed) (hkept _ hrow) ?_, id⟩
    exact ⟨{ row with status := .completed, updatedAt := t },
      by simp [EventStore.setCompleted, hrow], rfl⟩
  | setFailed t =>
    refine ⟨Link.send_snd (P := EventStore.Completed) (hkept _ hrow) ?_, id⟩
    exact hkept _ (by simp [EventStore.setFailed, hrow, hdone])
  | wallet s =>
    refine ⟨hkept _ ?_, id⟩
    rw [eventHandle, EventStore.sendWallet]
    split <;> exact hrow

theorem held_kept (hc : r.Makes c) {row : Claim} (hrow : w.claim = some row)
    (hheld : HeldByOther r c row) (hends : ∀ t, c ≠ .setCompleted t ∧ c ≠ .setFailed t) :
    (eventHandle c w).2.claim = some row ∧ ¬Granted c (eventHandle c w).1 := by
  cases c with
  | isEventProcessed _ => exact ⟨hrow, id⟩
  | markEventProcessed _ => exact ⟨hrow, id⟩
  | clock => exact ⟨hrow, id⟩
  | insertClaim p now =>
    have h := insertClaim_of_some hrow p now
    exact ⟨send_claim hrow (by rw [h]; exact hrow), not_granted_send (by rw [h])⟩
  | reclaim p now cutoff =>
    obtain ⟨-, rfl⟩ := hc
    have h := reclaim_of_kept hrow p now
      (.inr ⟨hheld.1, hheld.2.2 now rfl⟩)
    exact ⟨send_claim hrow (by rw [h]; exact hrow), not_granted_send (by rw [h])⟩
  | setCompleted t => exact absurd rfl (hends t).1
  | setFailed t => exact absurd rfl (hends t).2
  | wallet s => exact hc.elim

theorem send_keeps_iff {ρ : Type} {executed : ρ × EventStore} {row : Claim}
    (hw : w.claim = some row) (hne : executed.2.claim ≠ some row) :
    (w.send executed).2.claim = some row ↔ w.database = .down := by
  rw [EventStore.send]
  cases w.database with
  | up => exact ⟨fun h => absurd h hne, fun h => by cases h⟩
  | down => exact ⟨fun _ => rfl, fun _ => hw⟩
  | lost => exact ⟨fun h => absurd h hne, fun h => by cases h⟩

theorem setCompleted_ne {row : Claim} (hw : w.claim = some row) (hrow : row.status = .processing)
    (t : Timestamp) : (w.setCompleted t).claim ≠ some row := by
  intro h
  rw [EventStore.setCompleted, hw] at h
  have hstatus := congrArg Claim.status (Option.some.inj h)
  rw [hrow] at hstatus
  cases hstatus

theorem setFailed_ne {row : Claim} (hw : w.claim = some row) (hrow : row.status = .processing)
    (t : Timestamp) : (w.setFailed t).claim ≠ some row := by
  intro h
  simp only [EventStore.setFailed, hw, Option.map_some] at h
  have hstatus := congrArg Claim.status (Option.some.inj h)
  rw [hrow] at hstatus
  cases hstatus

theorem ownedStep_iff_of_ends (hkeeps : ∀ row, w.claim = some row → row.status = .processing →
      ((eventHandle c w).2.claim = some row ↔ w.database = .down))
    (hgranted : ¬Granted c (eventHandle c w).1) :
    OwnedStep r c w ↔
      w.database = .down ∨ ∀ row, w.claim = some row → ¬HeldByOther r c row := by
  constructor
  · intro h
    by_cases hdown : w.database = .down
    · exact .inl hdown
    · exact .inr fun row hrow hheld =>
        hdown ((hkeeps row hrow hheld.1).mp (h.held row hrow hheld).1)
  · intro h
    refine ⟨fun hw => completed_stays hw c, fun row hrow hheld => ⟨?_, hgranted⟩⟩
    rcases h with hdown | hnot
    · exact (hkeeps row hrow hheld.1).mpr hdown
    · exact absurd hheld (hnot row hrow)

/-- **The exact condition for one step.** -/
theorem ownedStep_iff {ι : Type*} {requests : ι → ClaimRequest} {i : ι}
    (hc : (requests i).Makes c) :
    OwnedStep (requests i) c w ↔ MarksByHolder requests i w c := by
  cases c with
  | setCompleted t =>
    exact ownedStep_iff_of_ends
      (fun row hrow hstatus => send_keeps_iff hrow (setCompleted_ne hrow hstatus t)) id
  | setFailed t =>
    exact ownedStep_iff_of_ends
      (fun row hrow hstatus => send_keeps_iff hrow (setFailed_ne hrow hstatus t)) id
  | _ =>
    refine ⟨fun _ => trivial, fun _ => ⟨fun hw => completed_stays hw _, fun row hrow hheld => ?_⟩⟩
    exact held_kept hc hrow hheld fun t => ⟨by simp, by simp⟩

/-! ### Runs -/

section Runs

variable {ι : Type*} [DecidableEq ι] {requests : ι → ClaimRequest}
  {C : ι → EventStore → EventCall → Prop}

theorem makes_of_run {pool : Pool EventApi EventError Unit ι EventStore}
    (hpool : ClaimRun C (start w fun i => (requests i).serve) pool) {i : ι} {c : EventCall}
    {k : c.Reply → EventM Unit} (hi : pool.progs i = .call c k) : (requests i).Makes c := by
  have honly := hpool.only (fun i => (requests i).serve_only) i
  rw [hi] at honly
  exact honly.1

theorem completed_of_run {pool later : Pool EventApi EventError Unit ι EventStore}
    (hlater : ClaimRun C pool later) (hpool : pool.state.Completed) : later.state.Completed := by
  induction hlater with
  | start => exact hpool
  | env _ hs ih =>
    obtain ⟨row, hrow, hdone⟩ := ih
    exact ⟨row, hs.trans hrow, hdone⟩
  | @step pool' i _ _ ih =>
    rw [advance]
    split
    · exact ih
    · exact ih
    · next c k _ => exact (completed_stays ih c).1

/-- **Claim ownership.** Completed claims are never granted again, in any run; and as long as
only the holder of a fresh claim ends it, no claim is taken from its holder. The condition is
exact: no other step of any run obeys the law. -/
theorem claimsOwned_of_marksByHolder (requests : ι → ClaimRequest) (w : EventStore) :
    ClaimsOwned requests (MarksByHolder requests) w ∧
      OwnedExactly requests (MarksByHolder requests) w := by
  constructor
  · intro pool hpool
    refine ⟨fun hdone later hlater => completed_of_run hlater hdone, fun i c k hi hC => ?_⟩
    exact (ownedStep_iff (makes_of_run hpool hi)).mpr hC
  · intro pool hpool i c k hi
    exact ownedStep_iff (makes_of_run hpool hi)

end Runs

/-! ### A processor that comes back late -/

def lateRequests : Fin 3 → ClaimRequest
  | 0 => ⟨.claim, 0, 300⟩
  | 1 => ⟨.claim, 1, 300⟩
  | 2 => ⟨.fail, 0, 300⟩

def unclaimed : EventStore := ⟨.empty, none, fun _ => false, 0, .up⟩

def atTime {ι : Type} (t : Timestamp) (pool : Pool EventApi EventError Unit ι EventStore) :
    Pool EventApi EventError Unit ι EventStore :=
  { pool with state := { pool.state with clock := t } }

def latePool : Pool EventApi EventError Unit (Fin 3) EventStore :=
  let claimed := (start unclaimed fun i => (lateRequests i).serve).schedule eventHandle [0, 0]
  (atTime (seconds 301) claimed).schedule eventHandle [1, 1, 1, 2]

theorem latePool_run : ClaimRun (fun _ _ _ => True)
    (start unclaimed fun i => (lateRequests i).serve) latePool := by
  refine Reach.schedule ?_ (permitted_anyCall _ _ _)
  refine Reach.env ?_ rfl
  exact Reach.start.schedule (permitted_anyCall _ _ _)

/-- The second processor holds a claim of this very second, and the failure of the first
one ends it. -/
theorem not_claimsOwned_late : ¬ClaimsOwned lateRequests (fun _ _ _ => True) unclaimed := by
  intro h
  have hheld := ((h _ latePool_run).2 2 (.setFailed (seconds 301)) _ rfl trivial).held
    ⟨1, .processing, seconds 301⟩ rfl ⟨rfl, by decide, by decide⟩
  exact absurd hheld.1 (by decide)

end IsaUser.Wallets
