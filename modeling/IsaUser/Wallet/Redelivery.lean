import IsaUser.Core.GuardOnce
import IsaUser.Wallet.Claims
import IsaUser.Wallet.EventHandlers
import IsaUser.Wallet.Histories

/-!
# Events Delivered More Than Once

One event that puts money into a wallet is delivered any number of times, to any replicas.
A delivery can stop for good between any two of its calls, locks and cached results expire,
and any time can pass.

A claim whose processor has been silent for five minutes is taken over. If that processor
died after its deposit, or is only slow, the money is deposited twice.
-/

open IsaUser.Prog Option Function

namespace IsaUser.Wallets

open IsaUser.Core Pool

/-! ### The law -/

abbrev EventWorld := Guarded EventResult EventStore

abbrev HandlerCall := GuardCall EventApi EventResult

abbrev EventPast := GuardPast EventApi EventResult EventStore

abbrev EventPool (ι : Type*) :=
  Pool (GuardApi EventApi EventResult) (GuardError EventError) Unit ι EventWorld

def EventPool.start {ι : Type*} (w : EventWorld) (e : MoneyEvent) (deliveries : ι → Delivery) :
    EventPool ι :=
  Pool.start w fun i => e.handler (deliveries i)

def Deposits (w : EventWorld) : HandlerCall → Bool
  | .body (.wallet (.updateBalance id b)) =>
    w.inner.database ≠ .down ∧ (handle (.updateBalance id b) w.inner.store).1 = .ok 1
  | _ => false

def deposits (past : EventPast) : ℕ := past.countP fun e => Deposits e.1 e.2

def DepositedOnce {ι : Type*} (past : ι → EventPast) : Prop :=
  (∀ i, deposits (past i) ≤ 1) ∧
    ∀ i j, 0 < deposits (past i) → 0 < deposits (past j) → i = j

/-! ### The condition -/

def Takes (w : EventWorld) : HandlerCall → Option Claim
  | .body (.insertClaim p now) =>
    if w.inner.database ≠ .down ∧ (w.inner.insertClaim p now).1 = true then
      some ⟨p, .processing, now⟩
    else none
  | .body (.reclaim p now cutoff) =>
    if w.inner.database ≠ .down ∧ (w.inner.reclaim p now cutoff).1 = true then
      some ⟨p, .processing, now⟩
    else none
  | _ => none

def TakesOver (w : EventWorld) : HandlerCall → Bool
  | .body (.reclaim p now cutoff) =>
    w.inner.database ≠ .down ∧ (w.inner.reclaim p now cutoff).1 = true
  | _ => false

def Taken (past : EventPast) (row : Claim) : Prop := ∃ e ∈ past, Takes e.1 e.2 = some row
  deriving Decidable

/-- A claim is taken over only while nobody has deposited, and a delivery deposits only while
the claim is as it has taken it. -/
def SafeTakeover {ι : Type*} (i : ι) (past : ι → EventPast) (w : EventWorld) (c : HandlerCall) :
    Prop :=
  (TakesOver w c → ∀ j, deposits (past j) = 0) ∧
    (Deposits w c → ∃ row ∈ w.inner.claim, Taken (past i) row)

instance {ι : Type*} [Fintype ι] (i : ι) (past : ι → EventPast) (w : EventWorld)
    (c : HandlerCall) : Decidable (SafeTakeover i past w c) :=
  inferInstanceAs (Decidable ((_ → _) ∧ (_ → ∃ row ∈ w.inner.claim, _)))

/-- The runs of the deliveries of an event whose calls meet `A`; between two calls time
passes, and everything but the lock, the cached result and the claim may change. -/
abbrev EventRun {ι : Type*} [DecidableEq ι]
    (A : ι → (ι → EventPast) → EventWorld → HandlerCall → Prop) :
    EventPool ι → EventPool ι → Prop :=
  Reach (guardHandle eventHandle) (Elapses ClaimKept) A

/-! ### What a handler calls -/

def MoneyEvent.deposit? : MoneyEvent → Option (PyStr × ℤ)
  | paymentCompleted e => payment e
  | paymentRefunded e => payment e
  | subscriptionCreated e =>
    match given e.userId, given e.subscriptionId, e.monthlyCredits with
    | some userId, some _, .number x => if 0 < x then some (userId, x) else none
    | _, _, _ => none
where
  payment (e : PaymentEvent) : Option (PyStr × ℤ) :=
    match given e.userId, e.amount with
    | some userId, .number x => if 0 < x then some (userId, x) else none
    | _, _ => none

/-- A call of a handler: a claim is stale only when it is older than now, and an event that
puts money into a wallet never fails, while the others change no balance. -/
def EventCall.Proper (pays : Prop) : EventCall → Prop
  | reclaim _ now staleCutoff => staleCutoff < now
  | setFailed _ => ¬pays
  | wallet (.updateBalance _ _) => pays
  | _ => True

def Statement.IsUpdate : Statement → Bool
  | updateBalance _ _ => true
  | _ => false

section Calls

variable {paying : Prop} {d : Delivery} {α β : Type}

abbrev Smooth (paying : Prop) (p : EventM α) : Prop :=
  p.Obeys (EventCall.Proper paying) fun r => ∀ err, r ≠ .error err

abbrev Pays (paying : Prop) (p : EventM α) : Prop :=
  p.Obeys (EventCall.Proper paying) fun r => paying → ∀ err, r ≠ .error err

theorem Smooth.toPays {p : EventM α} (hp : Smooth paying p) : Pays paying p :=
  hp.mono fun _ h _ => h

theorem pays_ret (a : α) : Pays paying (.ret a : EventM α) :=
  Smooth.toPays (calm_ret a)

theorem Pays.bind {p : EventM α} {f : α → EventM β} (hp : Pays paying p)
    (hf : ∀ a, Pays paying (f a)) : Pays paying (p >>= f) :=
  Obeys.bind hp (fun a _ => hf a) fun e h hpaying => absurd rfl (h hpaying e)

theorem smooth_perform {c : EventCall} (hc : c.Proper paying) : Smooth paying (perform c) :=
  ⟨hc, fun r => calm_ret r⟩

theorem claimWalletEvent_smooth (processorId : ℕ) :
    Smooth paying (claimWalletEvent processorId) := by
  have hstale : ∀ now : Timestamp, now - seconds (max 300 1) < now :=
    fun now => sub_lt_self now (by decide)
  exact (claimEventProcessing_only trivial (fun _ => trivial) hstale).calm false

theorem markWalletEventCompleted_smooth : Smooth paying markWalletEventCompleted :=
  (markEventProcessingCompleted_only trivial fun _ => trivial).calm ()

theorem markWalletEventFailed_smooth (h : ¬paying) : Smooth paying markWalletEventFailed :=
  (markEventProcessingFailed_only trivial fun _ => h).calm ()

theorem finish_smooth (result : EventResult) : Smooth paying (finish d result) := by
  refine Calm.bind (smooth_perform trivial) fun _ => ?_
  exact Calm.bind markWalletEventCompleted_smooth fun _ => calm_ret _

theorem missingFields_pays (h : ¬paying) : Pays paying missingFields :=
  (markWalletEventFailed_smooth h).toPays.bind fun _ => pays_ret _

/-- A method of the repository or the service: its statements are proper, and it raises
nothing. -/
abbrev Caught (paying : Prop) (p : RepoM α) : Prop :=
  p.Obeys (fun c : Statement => (EventCall.wallet c).Proper paying) fun r => ∀ err, r ≠ .error err

theorem walletCall_smooth {p : RepoM α} (hp : Caught paying p) : Smooth paying (walletCall p) := by
  refine Obeys.embed (hp.mono fun r hr err => ?_)
  cases r with
  | ok b => exact fun h => by cases h
  | error e => exact absurd rfl (hr e)

theorem getPrimaryWallet_caught (userId : PyStr) : Caught paying (getPrimaryWallet userId) := by
  have hrows : (do
      let rows ← sql (.selectWallets userId .fiat)
      toWalletBalances rows).Only fun c : Statement => (EventCall.wallet c).Proper paying :=
    Only.bind (sql_only trivial) toWalletBalances_only
  exact (hrows.calm []).bind fun _ => calm_ret _

theorem deposit_caught (h : paying) (id : ℕ) (x : ℤ) (referenceId : Option PyStr) :
    Caught paying (WalletService.deposit id x referenceId) := by
  have hproper : ∀ c : Statement, (EventCall.wallet c).Proper paying := by
    intro c
    cases c with
    | updateBalance id b => exact h
    | _ => trivial
  exact ((only_of_forall _ hproper).calm none).bind fun _ => calm_ret _

theorem depositInto_pays {wallet : WalletBalance} {amount : EventAmount}
    {referenceId : Option PyStr} (h : paying ↔ ∃ x, amount = .number x ∧ 0 < x) :
    Pays paying (depositInto wallet amount referenceId) := by
  have hraise : ¬paying → Pays paying (.raise .amount : EventM Unit) :=
    fun hnot hp => absurd hp hnot
  rw [depositInto]
  cases amount with
  | number x =>
    by_cases hx : 0 < x
    · have hp : paying := h.mpr ⟨x, rfl, hx⟩
      rw [depositRequest, if_pos hx]
      have hdeposit := walletCall_smooth (deposit_caught hp wallet.walletId x referenceId)
      have hcall := Calm.bind hdeposit fun _ => calm_ret ()
      exact Smooth.toPays hcall
    · rw [depositRequest, if_neg hx]
      refine hraise fun hp => ?_
      obtain ⟨y, hy, hpos⟩ := h.mp hp
      obtain rfl := EventAmount.number.inj hy
      exact hx hpos
  | _ =>
    refine hraise fun hp => ?_
    obtain ⟨y, hy, -⟩ := h.mp hp
    cases hy

theorem withPrimaryWallet_pays {userId : PyStr} {work : WalletBalance → EventM EventResult}
    (hwork : ∀ wallet, Pays paying (work wallet)) :
    Pays paying (withPrimaryWallet d userId work) := by
  refine (walletCall_smooth (getPrimaryWallet_caught userId)).toPays.bind fun found => ?_
  cases found with
  | none => exact (finish_smooth _).toPays
  | some wallet => exact (hwork wallet).bind fun result => (finish_smooth result).toPays

theorem depositPayment_pays {e : PaymentEvent} {referenceId : Option PyStr} {result : EventResult}
    (h : paying ↔ (MoneyEvent.deposit?.payment e).isSome) :
    Pays paying (depositPayment d e referenceId result) := by
  rw [depositPayment]
  rw [MoneyEvent.deposit?.payment] at h
  cases huser : given e.userId with
  | none =>
    rw [huser] at h
    exact missingFields_pays (by simp [h])
  | some userId =>
    rw [huser] at h
    dsimp only
    split
    · next hmissing =>
        rw [hmissing] at h
        exact missingFields_pays (by simp [h])
    · refine withPrimaryWallet_pays fun wallet =>
        (depositInto_pays ?_).bind fun _ => pays_ret _
      rw [h]
      cases e.amount <;> simp

theorem allocateCredits_pays {e : SubscriptionEvent}
    (h : paying ↔ (MoneyEvent.subscriptionCreated e).deposit?.isSome) :
    Pays paying (allocateCredits d e) := by
  rw [allocateCredits]
  rw [MoneyEvent.deposit?] at h
  cases huser : given e.userId with
  | none =>
    rw [huser] at h
    exact missingFields_pays (by simp [h])
  | some userId =>
    cases hsubscription : given e.subscriptionId with
    | none =>
      rw [hsubscription] at h
      exact missingFields_pays (by simp [h])
    | some subscriptionId =>
      rw [huser, hsubscription] at h
      refine withPrimaryWallet_pays fun wallet => ?_
      cases hcredits : e.monthlyCredits with
      | missing => exact pays_ret _
      | malformed =>
        rw [hcredits] at h
        exact fun hp => absurd (h.mp hp) (by simp)
      | number x =>
        rw [hcredits] at h
        dsimp only
        split
        · next hx =>
            refine Pays.bind (depositInto_pays ?_) fun _ => pays_ret _
            simpa [hx] using h
        · exact pays_ret _

def MoneyEvent.Paying (e : MoneyEvent) : Prop := e.deposit?.isSome

theorem MoneyEvent.work_pays (e : MoneyEvent) : Pays e.Paying (e.work d) := by
  cases e with
  | paymentCompleted e => exact depositPayment_pays Iff.rfl
  | paymentRefunded e => exact depositPayment_pays Iff.rfl
  | subscriptionCreated e => exact allocateCredits_pays Iff.rfl

theorem onceClaimed_pays {work : EventM (Option EventResult)} (hwork : Pays paying work)
    (outcome : LockOutcome EventResult) : Pays paying (onceClaimed d work outcome) := by
  rw [onceClaimed]
  split
  · refine Smooth.toPays (Calm.bind (smooth_perform trivial) fun _ => calm_ret _)
  · split
    · exact pays_ret _
    · refine (claimWalletEvent_smooth _).toPays.bind fun claimed => ?_
      split
      · exact hwork
      · exact pays_ret _

def ProperCall (paying : Prop) : HandlerCall → Prop
  | .body c => c.Proper paying
  | _ => True

theorem properCall_of_guard (c : HandlerCall) (hc : ¬c.IsBody) : ProperCall paying c := by
  cases c with
  | body c => exact absurd trivial hc
  | _ => trivial

/-- **What a handler calls.** -/
theorem handleOnce_only {work : EventM (Option EventResult)} (hwork : Pays paying work) :
    (handleOnce d work).Only (ProperCall paying) := by
  refine Only.bind ⟨trivial, fun _ => trivial⟩ fun processed => ?_
  split
  · trivial
  · refine Obeys.only (Q := fun _ => True) (Obeys.tryCatch
      (guard_obeys (P := ProperCall paying) (Q := fun e => ∀ err, e = .body err → ¬paying)
        properCall_of_guard (fun outcome => (onceClaimed_pays hwork outcome).mono ?_)
        (fun _ _ h => by cases h) (fun _ h => by cases h)) (fun _ _ => trivial) fun e he => ?_)
    · exact fun r hr err hrerr _ _ hp => hr hp err hrerr
    · cases e with
      | body err =>
        exact Obeys.embed
          ((markWalletEventFailed_smooth (he _ rfl err rfl)).mono fun _ _ => trivial)
      | _ => trivial

end Calls

/-! ### At most one balance is changed -/

section Updates

variable {d : Delivery} {α : Type}

def EventCall.IsUpdate : EventCall → Bool
  | wallet c => c.IsUpdate
  | _ => false

def UpdateCall : HandlerCall → Bool
  | .body c => c.IsUpdate
  | _ => false

abbrev Idle (p : EventM α) : Prop := p.AtMost (fun c : EventCall => c.IsUpdate) 0

theorem idle_of_smooth {p : EventM α} (hp : Smooth False p) : Idle p := by
  refine atMost_zero (hp.only.mono fun c hc => ?_)
  cases c with
  | wallet c =>
    cases c with
    | updateBalance id b => exact hc.elim
    | _ => simp [EventCall.IsUpdate, Statement.IsUpdate]
  | _ => simp [EventCall.IsUpdate]

theorem getWallet_idle (id : ℕ) : (getWallet id).AtMost (fun c : Statement => c.IsUpdate) 0 := by
  have hselect : ¬(Statement.selectWallet id).IsUpdate := by simp [Statement.IsUpdate]
  refine atMost_zero (Only.tryCatch (Only.bind (sql_only hselect)
    fun found => ?_) fun _ => trivial)
  cases found with
  | none => trivial
  | some row =>
    refine Only.bind ?_ fun _ => trivial
    rw [toWalletBalance]
    split <;> trivial

theorem createTransaction_idle (data : TransactionCreate) (b b' : ℤ) :
    (createTransaction data b b').AtMost (fun c : Statement => c.IsUpdate) 0 :=
  atMost_zero (Only.tryCatch (Only.bind (sql_only (by simp [Statement.IsUpdate]))
    fun _ => sql_only (by simp [Statement.IsUpdate])) fun _ => trivial)

theorem updateBalance_once (id : ℕ) (x : ℤ) (operation : BalanceOperation) :
    (updateBalance id x operation).AtMost (fun c : Statement => c.IsUpdate) 1 := by
  refine AtMost.tryCatch (n := 1) (m := 0)
    (((getWallet_idle id).bind (m := 1) fun found => ?_).mono (by omega)) fun _ => trivial
  cases found with
  | none => trivial
  | some wallet =>
    dsimp only
    split
    · trivial
    · exact ⟨by omega, fun r => by cases r <;> trivial⟩

theorem moveOwn_once (operation : BalanceOperation) (k : TransactionType) (id : ℕ) (x : ℤ)
    (reference : Option Reference) :
    (moveOwn operation k id x reference).AtMost (fun c : Statement => c.IsUpdate) 1 := by
  refine ((getWallet_idle id).bind (m := 1) fun found => ?_).mono (by omega)
  cases found with
  | none => trivial
  | some wallet =>
    dsimp only
    split
    · trivial
    · refine (updateBalance_once id x operation).bind (m := 0) fun updated => ?_
      cases updated with
      | none => trivial
      | some b =>
        rw [transactionCreate]
        by_cases hx : 0 < x
        · rw [dif_pos hx]
          exact createTransaction_idle _ _ _
        · rw [dif_neg hx]
          trivial

theorem depositInto_once (wallet : WalletBalance) (amount : EventAmount)
    (referenceId : Option PyStr) :
    (depositInto wallet amount referenceId).AtMost (fun c : EventCall => c.IsUpdate) 1 := by
  have hdeposit : ∀ x, (walletCall (WalletService.deposit wallet.walletId x referenceId)).AtMost
      (fun c : EventCall => c.IsUpdate) 1 := by
    intro x
    refine AtMost.embed (AtMost.bind (n := 1) (m := 0) ?_ fun _ => trivial)
    exact (moveOwn_once _ _ _ _ _).tryCatch (m := 0) fun _ => trivial
  rw [depositInto]
  cases amount with
  | number x =>
    rw [depositRequest]
    split
    · exact (hdeposit x).bind (m := 0) fun _ => trivial
    · trivial
  | _ => trivial

theorem withPrimaryWallet_once {userId : PyStr} {work : WalletBalance → EventM EventResult}
    (hwork : ∀ wallet, (work wallet).AtMost (fun c : EventCall => c.IsUpdate) 1) :
    (withPrimaryWallet d userId work).AtMost (fun c : EventCall => c.IsUpdate) 1 := by
  refine ((idle_of_smooth (walletCall_smooth (getPrimaryWallet_caught userId))).bind (m := 1)
    fun found => ?_).mono (by omega)
  cases found with
  | none => exact (idle_of_smooth (finish_smooth _)).mono (by omega)
  | some wallet => exact (hwork wallet).bind (m := 0) fun _ => idle_of_smooth (finish_smooth _)

theorem missingFields_once :
    missingFields.AtMost (fun c : EventCall => c.IsUpdate) 1 := by
  refine AtMost.bind (n := 0) (m := 1) (idle_of_smooth (markWalletEventFailed_smooth id)) ?_
  exact fun _ => trivial

theorem depositPayment_once (e : PaymentEvent) (referenceId : Option PyStr) (result : EventResult) :
    (depositPayment d e referenceId result).AtMost (fun c : EventCall => c.IsUpdate) 1 := by
  rw [depositPayment]
  split
  · exact missingFields_once
  · split
    · exact missingFields_once
    · exact withPrimaryWallet_once fun wallet =>
        (depositInto_once _ _ _).bind (m := 0) fun _ => trivial

theorem allocateCredits_once (e : SubscriptionEvent) :
    (allocateCredits d e).AtMost (fun c : EventCall => c.IsUpdate) 1 := by
  rw [allocateCredits]
  split
  · refine withPrimaryWallet_once fun wallet => ?_
    cases e.monthlyCredits with
    | number x =>
      dsimp only
      split
      · exact (depositInto_once _ _ _).bind (m := 0) fun _ => trivial
      · trivial
    | _ => trivial
  · exact missingFields_once

theorem MoneyEvent.work_once (e : MoneyEvent) :
    (e.work d).AtMost (fun c : EventCall => c.IsUpdate) 1 := by
  cases e with
  | paymentCompleted e => exact depositPayment_once _ _ _
  | paymentRefunded e => exact depositPayment_once _ _ _
  | subscriptionCreated e => exact allocateCredits_once e

/-- **A delivery changes at most one balance.** -/
theorem MoneyEvent.handler_once (e : MoneyEvent) :
    (e.handler d).AtMost (fun c : HandlerCall => UpdateCall c) 1 := by
  have hbody : ∀ outcome, (onceClaimed d (e.work d) outcome).AtMost
      (fun c : EventCall => UpdateCall (.body c)) 1 := by
    intro outcome
    rw [onceClaimed]
    split
    · exact fun _ => trivial
    · split
      · trivial
      · refine ((idle_of_smooth (claimWalletEvent_smooth _)).bind (m := 1) fun claimed => ?_).mono
          (by omega)
        split
        · exact e.work_once
        · trivial
  have hguard : (guard (eventGuard d) (onceClaimed d (e.work d))).AtMost
      (fun c : HandlerCall => UpdateCall c) 1 := by
    refine guard_atMost (fun c hc => ?_) hbody
    cases c with
    | body c => trivial
    | _ => cases hc
  rw [e.handler_eq]
  refine AtMost.mono (AtMost.bind (n := 0) (m := 1) ?_ fun processed => ?_) (by omega)
  · exact fun _ => trivial
  · split
    · trivial
    · refine hguard.tryCatch (m := 0) fun err => ?_
      cases err with
      | body err => exact AtMost.embed (idle_of_smooth (markWalletEventFailed_smooth id))
      | _ => trivial

end Updates

/-! ### One call -/

section Step

variable {w : EventWorld} {c : HandlerCall} {row : Claim}

theorem takes_spec {paying : Prop} (hc : ProperCall paying c) (h : Takes w c = some row) :
    (guardHandle eventHandle c w).2.inner.claim = some row ∧ row.status = .processing ∧
      ∀ old, w.inner.claim = some old → TakesOver w c ∧
        (old.status = .failed ∨ old.status = .processing ∧ old.updatedAt < row.updatedAt) := by
  cases c with
  | body c =>
    cases c with
    | insertClaim p now =>
      rw [Takes, ite_none_right_eq_some] at h
      obtain ⟨⟨hlink, hinserted⟩, hrow⟩ := h
      obtain rfl := some.inj hrow
      rcases insertClaim_cases w.inner p now with ⟨hnone, hrun⟩ | hrun
      · refine ⟨?_, rfl, fun old hold => by rw [hnone] at hold; cases hold⟩
        show (w.inner.send (w.inner.insertClaim p now)).2.claim = _
        rw [send_of_executed hlink, hrun]
      · rw [hrun] at hinserted
        cases hinserted
    | reclaim p now cutoff =>
      rw [Takes, ite_none_right_eq_some] at h
      obtain ⟨hexecuted, hrow⟩ := h
      obtain rfl := some.inj hrow
      have hover : TakesOver w (.body (.reclaim p now cutoff)) = true :=
        decide_eq_true hexecuted
      rcases reclaim_cases w.inner p now cutoff with ⟨row, hclaim, hopen, hstale, hrun⟩ | hrun
      · refine ⟨?_, rfl, fun old hold => ⟨hover, ?_⟩⟩
        · show (w.inner.send (w.inner.reclaim p now cutoff)).2.claim = _
          rw [send_of_executed hexecuted.1, hrun]
        · obtain rfl := some.inj (hclaim.symm.trans hold)
          rcases hstale with hfailed | hstale
          · exact .inl hfailed
          · cases hstatus : row.status with
            | processing => exact .inr ⟨rfl, hstale.trans hc⟩
            | completed => exact absurd hstatus hopen
            | failed => exact .inl rfl
      · rw [hrun] at hexecuted
        cases hexecuted.2
    | _ => cases h
  | _ => cases h

theorem claim_after {paying : Prop} (hpaying : paying) (hc : ProperCall paying c)
    (h : Takes w c = none) :
    (guardHandle eventHandle c w).2.inner.claim = w.inner.claim ∨
      ∃ old t, w.inner.claim = some old ∧ (guardHandle eventHandle c w).2.inner.claim =
        some { old with status := .completed, updatedAt := t } := by
  have hkept : ∀ {ρ : Type} {executed : ρ × EventStore}, executed.2 = w.inner →
      (w.inner.send executed).2.claim = w.inner.claim := by
    intro ρ executed hexecuted
    exact Link.send_snd (P := fun v : EventStore => v.claim = w.inner.claim) rfl (by rw [hexecuted])
  cases c with
  | body c =>
    cases c with
    | insertClaim p now =>
      refine .inl ?_
      by_cases hlink : w.inner.database = .down
      · exact congrArg EventStore.claim (send_of_down hlink)
      · rcases insertClaim_cases w.inner p now with ⟨-, hrun⟩ | hrun
        · simp [Takes, hlink, hrun] at h
        · exact hkept (by rw [hrun])
    | reclaim p now cutoff =>
      refine .inl ?_
      by_cases hlink : w.inner.database = .down
      · exact congrArg EventStore.claim (send_of_down hlink)
      · rcases reclaim_cases w.inner p now cutoff with ⟨row, -, -, -, hrun⟩ | hrun
        · simp [Takes, hlink, hrun] at h
        · exact hkept (by rw [hrun])
    | setCompleted t =>
      by_cases hlink : w.inner.database = .down
      · exact .inl (congrArg EventStore.claim (send_of_down hlink))
      · have hclaim : (guardHandle eventHandle (.body (.setCompleted t)) w).2.inner.claim =
            (w.inner.setCompleted t).claim :=
          congrArg EventStore.claim (send_of_executed hlink)
        cases hold : w.inner.claim with
        | none => exact .inl (by rw [hclaim, setCompleted_claim, hold]; rfl)
        | some old =>
          exact .inr ⟨old, t, rfl, by rw [hclaim, setCompleted_claim, hold]; rfl⟩
    | setFailed t => exact absurd hpaying hc
    | wallet s => exact .inl (sendWallet_claim s)
    | _ => exact .inl rfl
  | _ => exact .inl (congrArg EventStore.claim (inner_of_not_isBody id w))

theorem deposits_spec (h : Deposits w c) :
    (guardHandle eventHandle c w).2.inner.claim = w.inner.claim ∧ Takes w c = none ∧
      UpdateCall c := by
  cases c with
  | body c =>
    cases c with
    | wallet s =>
      cases s with
      | updateBalance id b => exact ⟨sendWallet_claim _, rfl, rfl⟩
      | _ => cases h
    | _ => cases h
  | _ => cases h

end Step

/-! ### Every run -/

section Runs

variable {ι : Type*} [DecidableEq ι] {w : EventWorld} {past : ι → EventPast} {i : ι}
  {c : HandlerCall} {paying : Prop}

/-- The claim and the deposits of all deliveries: who has taken the claim has done so later
than everybody before, and who has deposited still has the claim, or it is completed. -/
structure Exclusive (claim : Option Claim) (past : ι → EventPast) : Prop where
  free : (∀ row ∈ claim, row.status = .failed) → ∀ i taken, ¬Taken (past i) taken
  latest : ∀ row ∈ claim, row.status = .processing →
    ∀ i taken, Taken (past i) taken → taken.updatedAt ≤ row.updatedAt
  distinct : ∀ i j taken, Taken (past i) taken → Taken (past j) taken → i = j
  paid : ∀ i, 0 < deposits (past i) →
    ∃ row ∈ claim, row.status = .completed ∨ row.status = .processing ∧ Taken (past i) row
  once : ∀ i j, 0 < deposits (past i) → 0 < deposits (past j) → i = j

theorem taken_update {j : ι} {taken : Claim} :
    Taken (Function.update past i ((w, c) :: past i) j) taken ↔
      Taken (past j) taken ∨ j = i ∧ Takes w c = some taken := by
  by_cases hj : j = i
  · subst hj
    simp only [update_self, Taken, List.mem_cons, exists_eq_or_imp, true_and]
    exact or_comm
  · simp [hj]

theorem deposits_update {j : ι} :
    deposits (Function.update past i ((w, c) :: past i) j) =
      deposits (past j) + if j = i ∧ Deposits w c then 1 else 0 := by
  by_cases hj : j = i
  · subst hj
    simp [deposits, List.countP_cons]
  · simp [hj]

theorem taken_processing {past : EventPast} {taken : Claim} (h : Taken past taken) :
    taken.status = .processing := by
  obtain ⟨⟨w, c⟩, -, htakes⟩ := h
  cases c with
  | body c =>
    cases c with
    | insertClaim p now =>
      rw [Takes, ite_none_right_eq_some] at htakes
      rw [← some.inj htakes.2]
    | reclaim p now cutoff =>
      rw [Takes, ite_none_right_eq_some] at htakes
      rw [← some.inj htakes.2]
    | _ => cases htakes
  | _ => cases htakes

theorem Exclusive.take (h : Exclusive w.inner.claim past) (hc : ProperCall paying c)
    (hsafe : SafeTakeover i past w c) {row : Claim} (htakes : Takes w c = some row) :
    Exclusive (guardHandle eventHandle c w).2.inner.claim
      (Function.update past i ((w, c) :: past i)) := by
  obtain ⟨hclaim, hstatus, hold⟩ := takes_spec hc htakes
  have hnot : ¬Deposits w c := by
    intro hdeposits
    rw [(deposits_spec hdeposits).2.1] at htakes
    cases htakes
  have hzero : ∀ j, deposits (past j) = 0 := by
    intro j
    by_contra hpos
    obtain ⟨old, hrow, -⟩ := h.paid j (Nat.pos_of_ne_zero hpos)
    exact hpos (hsafe.1 (hold old hrow).1 j)
  have hearlier : ∀ j taken, Taken (past j) taken → taken.updatedAt < row.updatedAt := by
    intro j taken htaken
    cases hbefore : w.inner.claim with
    | none => exact absurd htaken (h.free (by simp [hbefore]) j taken)
    | some old =>
      rcases (hold old hbefore).2 with hfailed | ⟨hprocessing, hlt⟩
      · exact absurd htaken (h.free (by simp [hbefore, hfailed]) j taken)
      · exact (h.latest old hbefore hprocessing j taken htaken).trans_lt hlt
  rw [hclaim]
  refine ⟨fun hfailed => ?_, fun r hr _ j taken htaken => ?_, fun j k taken hj hk => ?_,
    fun j hpos => ?_, fun j k hpos => ?_⟩
  · have := hfailed row rfl
    rw [hstatus] at this
    cases this
  · obtain rfl := some.inj hr
    rcases taken_update.mp htaken with htaken | ⟨-, htaken⟩
    · exact (hearlier j taken htaken).le
    · rw [htakes] at htaken
      rw [some.inj htaken]
  · have hnew : ∀ l, Taken (update past i ((w, c) :: past i) l) taken →
        ¬Taken (past l) taken → l = i ∧ row = taken := fun l hl hno =>
      (taken_update.mp hl).elim (fun h => absurd h hno)
        fun h => ⟨h.1, some.inj (htakes.symm.trans h.2)⟩
    by_cases hj' : Taken (past j) taken <;> by_cases hk' : Taken (past k) taken
    · exact h.distinct j k taken hj' hk'
    · exact absurd (hearlier j taken hj') (by rw [(hnew k hk hk').2]; exact lt_irrefl _)
    · exact absurd (hearlier k taken hk') (by rw [(hnew j hj hj').2]; exact lt_irrefl _)
    · exact (hnew j hj hj').1.trans (hnew k hk hk').1.symm
  · rw [deposits_update, hzero] at hpos
    simp [hnot] at hpos
  · rw [deposits_update, hzero] at hpos
    simp [hnot] at hpos

theorem Exclusive.keep (h : Exclusive w.inner.claim past) (hpaying : paying)
    (hc : ProperCall paying c) (htakes : Takes w c = none) (hnot : ¬Deposits w c) :
    Exclusive (guardHandle eventHandle c w).2.inner.claim
      (Function.update past i ((w, c) :: past i)) := by
  have htaken : ∀ j taken, Taken (update past i ((w, c) :: past i) j) taken ↔
      Taken (past j) taken := fun j taken => by rw [taken_update, htakes]; simp
  have hdeposits : ∀ j, deposits (update past i ((w, c) :: past i) j) =
      deposits (past j) := fun j => by rw [deposits_update]; simp [hnot]
  rcases claim_after hpaying hc htakes with hclaim | ⟨old, t, hold, hclaim⟩
  · rw [hclaim]
    exact ⟨by simpa only [htaken] using h.free, by simpa only [htaken] using h.latest,
      by simpa only [htaken] using h.distinct, by simpa only [htaken, hdeposits] using h.paid,
      by simpa only [hdeposits] using h.once⟩
  · rw [hclaim]
    refine ⟨fun hfailed => ?_, fun row hrow hprocessing => ?_,
      by simpa only [htaken] using h.distinct, fun j _ => ⟨_, rfl, .inl rfl⟩,
      by simpa only [hdeposits] using h.once⟩
    · have := hfailed _ rfl
      cases this
    · obtain rfl := some.inj hrow
      cases hprocessing

theorem Exclusive.pay (h : Exclusive w.inner.claim past) (hsafe : SafeTakeover i past w c)
    (hdeposit : Deposits w c) :
    Exclusive (guardHandle eventHandle c w).2.inner.claim
      (Function.update past i ((w, c) :: past i)) := by
  obtain ⟨hclaim, htakes, -⟩ := deposits_spec hdeposit
  obtain ⟨row, hrow, hmine⟩ := hsafe.2 hdeposit
  have htaken : ∀ j taken, Taken (update past i ((w, c) :: past i) j) taken ↔
      Taken (past j) taken := fun j taken => by rw [taken_update, htakes]; simp
  have halone : ∀ j, 0 < deposits (update past i ((w, c) :: past i) j) → j = i := by
    intro j hpos
    by_contra hj
    obtain ⟨row', hrow', hstill⟩ := h.paid j (by simpa [hj] using hpos)
    obtain rfl := some.inj (hrow.symm.trans hrow')
    rcases hstill with hdone | ⟨-, htheirs⟩
    · rw [taken_processing hmine] at hdone
      cases hdone
    · exact hj (h.distinct j i row htheirs hmine)
  rw [hclaim]
  refine ⟨by simpa only [htaken] using h.free, by simpa only [htaken] using h.latest,
    by simpa only [htaken] using h.distinct, fun j hpos => ?_,
    fun j k hj hk => (halone j hj).trans (halone k hk).symm⟩
  obtain rfl := halone j hpos
  exact ⟨row, hrow, .inr ⟨taken_processing hmine, (htaken _ _).mpr hmine⟩⟩

/-- **Every call of a safe run keeps the deposits exclusive.** -/
theorem Exclusive.step (h : Exclusive w.inner.claim past) (hpaying : paying)
    (hc : ProperCall paying c) (hsafe : SafeTakeover i past w c) :
    Exclusive (guardHandle eventHandle c w).2.inner.claim
      (Function.update past i ((w, c) :: past i)) := by
  by_cases hdeposit : Deposits w c
  · exact h.pay hsafe hdeposit
  · cases htakes : Takes w c with
    | none => exact h.keep hpaying hc htakes hdeposit
    | some row => exact h.take hc hsafe htakes

variable {e : MoneyEvent} {deliveries : ι → Delivery} {pool : EventPool ι}

/-- The deliveries make at most `n` deposits each, if their programs do. -/
theorem deposits_le {A : ι → (ι → EventPast) → EventWorld → HandlerCall → Prop} {n : ℕ}
    (hpool : EventRun A (EventPool.start w e deliveries) pool)
    (hn : ∀ i, (e.handler (deliveries i)).AtMost (fun c : HandlerCall => UpdateCall c) n) (i : ι) :
    deposits (pool.past i) ≤ n := by
  refine le_trans (List.countP_mono_left fun entry _ h => ?_) (hpool.countP_le hn i)
  exact decide_eq_true (deposits_spec h).2.2

theorem handler_idle (d : Delivery) (h : ¬e.Paying) :
    (e.handler d).AtMost (fun c : HandlerCall => UpdateCall c) 0 := by
  rw [e.handler_eq]
  refine atMost_zero ((handleOnce_only e.work_pays).mono fun c hc => ?_)
  cases c with
  | body c =>
    cases c with
    | wallet s =>
      cases s with
      | updateBalance id b => exact absurd hc h
      | _ => simp [UpdateCall, EventCall.IsUpdate, Statement.IsUpdate]
    | _ => simp [UpdateCall, EventCall.IsUpdate]
  | _ => simp [UpdateCall]

theorem exclusive_of_run (h : e.Paying)
    (hpool : EventRun SafeTakeover (EventPool.start w e deliveries) pool) :
    Exclusive pool.state.inner.claim pool.past := by
  induction hpool with
  | start =>
    refine ⟨fun _ i taken => ?_, fun _ _ _ i taken => ?_, fun i _ taken => ?_, fun i => ?_,
      fun i => ?_⟩ <;> simp [EventPool.start, start, Taken, deposits]
  | env _ hs ih =>
    have hclaim := hs.inner
    rwa [hclaim]
  | @step pool i hreach hsafe ih =>
    rw [advance]
    split
    · exact ih
    · exact ih
    · next c k hck =>
        have honly := hreach.only
          (fun i => (e.handler_eq (deliveries i)).symm ▸ handleOnce_only e.work_pays) i
        rw [hck] at honly
        exact ih.step h honly.1 (hsafe c k hck)

/-- **Exactly-once money events, as long as claims are taken over safely.** An event is
delivered any number of times, to any replicas; deliveries may stop for good anywhere, and
any time may pass anywhere. If no claim is taken over after a deposit, and every deposit is
made while the claim is as its delivery has taken it, then the deliveries together deposit
the amount at most once. -/
theorem depositedOnce_of_safeTakeover
    (hpool : EventRun SafeTakeover (EventPool.start w e deliveries) pool) :
    DepositedOnce pool.past := by
  refine ⟨deposits_le hpool fun i => e.handler_once, fun i j hi hj => ?_⟩
  by_cases h : e.Paying
  · exact (exclusive_of_run h hpool).once i j hi hj
  · have := deposits_le hpool (fun i => handler_idle _ h) i
    omega

end Runs

/-! ### Two deliveries of one payment -/

def payeeStore : Store :=
  exec Step.run .empty [.createWallet ⟨['a'], .fiat, 0, noUnits_nonneg⟩ 0]

def paymentWorld : EventWorld :=
  ⟨none, none, 0, 0, .up, .up, payeeStore, none, fun _ => false, 0, .up⟩

def payment : MoneyEvent := .paymentCompleted ⟨some ['a'], .number 500000000, some ['p'], none⟩

def twoReplicas (i : Fin 2) : Delivery := ⟨i, i, 0⟩

def redelivered : EventPool (Fin 2) :=
  (EventPool.start paymentWorld payment twoReplicas).schedule (guardHandle eventHandle)
    (List.replicate 18 0 ++ List.replicate 4 1)

/-- The payment is deposited once. -/
theorem depositedOnce_redelivered : DepositedOnce redelivered.past :=
  depositedOnce_of_safeTakeover (Reach.start.schedule (by decide))

def elapse {ι : Type} (t : ℤ) (pool : EventPool ι) : EventPool ι :=
  { pool with
    state := { pool.state with
      now := pool.state.now + t
      inner := { pool.state.inner with clock := pool.state.inner.clock + t } } }

def crashed : EventPool (Fin 2) :=
  let deposited := (EventPool.start paymentWorld payment twoReplicas).schedule
    (guardHandle eventHandle) (List.replicate 14 0)
  (elapse (seconds 301) deposited).schedule (guardHandle eventHandle) (List.replicate 12 1)

/-- The second replica takes the claim over and deposits the payment again. -/
theorem not_depositedOnce_crashed :
    EventRun Pool.anyCall (EventPool.start paymentWorld payment twoReplicas) crashed ∧
      ¬DepositedOnce crashed.past := by
  constructor
  · refine Reach.schedule ?_ (permitted_anyCall _ _ _)
    refine Reach.env ?_ ⟨rfl, rfl, by decide, rfl, rfl⟩
    exact Reach.start.schedule (permitted_anyCall _ _ _)
  · intro h
    exact absurd (h.2 0 1 (by decide) (by decide)) (by decide)

end IsaUser.Wallets
