import IsaUser.Subscription.Reservations

/-!
# Subscriptions that the Lookup does not See

Creation, balance and consumption all look for a subscription in status `active`, whose
`organization_id` is `NULL` unless the payer is an organization. A trial is in status
`trialing`, and a subscription that is created with an empty organization id keeps the empty
text although its payer is the user. Neither is found afterwards: it cannot be used, and it
does not keep a second one from being created.
-/

open Option

namespace IsaUser.Subscriptions

/-! ### The law -/

/-- Status `active` or `trialing`. -/
def UserSubscription.Live (sub : UserSubscription) : Prop :=
  sub.status = .active ∨ sub.status = .trialing

def UserSubscription.account (sub : UserSubscription) : BillingAccountType × Option PyStr :=
  (resolveBillingScope { userId := sub.userId, organizationId := sub.organizationId }).account

def CreateSubscriptionRequest.account (request : CreateSubscriptionRequest) :
    BillingAccountType × Option PyStr :=
  (resolveBillingScope request.payer).account

def Store.OneLive (s : Store) : Prop :=
  ∀ i j a b, s.subscriptions.get? i = some a → s.subscriptions.get? j = some b →
    a.Live → b.Live → a.account = b.account → i = j

/-- An account has `n` credits, and can consume any amount of them. -/
def Store.Usable (s : Store) (account : BillingAccountType × Option PyStr) (n : ℤ) : Prop :=
  ∀ payer : Payer, (resolveBillingScope payer).account = account →
    (Service.getCreditBalance payer s).totalCreditsAvailable = n ∧
      ∀ k (hk : 0 < k), k ≤ n → (Service.consumeCredits ⟨payer, k, hk⟩ s).1.success

/-- No account has two live subscriptions after the call, and if it is a successful creation
then the credits it reports are usable. -/
def ServiceCall.Lawful (s : Store) (call : ServiceCall) : Prop :=
  (call.run s).OneLive ∧
    match call with
    | createSubscription request now =>
      ∀ n, (Service.createSubscription request now s).1.success →
        (Service.createSubscription request now s).1.creditsAllocated = some n →
          (Service.createSubscription request now s).2.Usable request.account n
    | _ => True

/-! ### The condition -/

/-- The lookup does not see the subscription, even if it is live: it is on trial, or its
organization id is empty. -/
def UserSubscription.Hidden (sub : UserSubscription) : Prop :=
  sub.status = .trialing ∨ sub.organizationId = some []

def ServiceCall.Visible (s : Store) : ServiceCall → Prop
  | createSubscription request now =>
    ∀ tier, getTierInfo request.tierCode = some tier →
      s.activeSubscription (resolveBillingScope request.payer) = none →
        (∀ i sub, s.subscriptions.get? i = some sub → sub.Live → sub.Hidden →
          sub.account ≠ request.account) ∧
        ((newSubscription tier request now).Hidden → allocatedCredits tier request = 0)
  | _ => True

/-! ### Accounts and the lookup -/

section Accounts

variable {sub : UserSubscription} {scope : BillingScope} {s : Store}

theorem account_eq (sub : UserSubscription) :
    sub.account = if truthy sub.organizationId then (.organization, sub.organizationId)
      else (.user, some sub.userId) := by
  obtain ⟨user, organization, -, -, -, -⟩ := sub
  rcases organization with - | - | ⟨c, cs⟩
  · cases user <;> rfl
  · cases user <;> rfl
  · rfl

/-- **What the lookup finds.** The lookup finds the active subscriptions of an account,
unless they were created with an empty organization id. -/
theorem owns_iff (h : sub.organizationId ≠ some []) :
    scope.owns sub ↔ sub.account = scope.account := by
  rw [account_eq, BillingScope.owns, BillingScope.account]
  obtain ⟨user, organization, _, _, _, _⟩ := sub
  obtain ⟨_, _, _, type, id⟩ := scope
  rcases organization with - | - | ⟨c, cs⟩
  · cases id <;> cases type <;> simp [truthy]
  · exact absurd rfl h
  · cases id <;> cases type <;> simp [truthy]

theorem request_account_ne (request : CreateSubscriptionRequest) :
    request.account ≠ (.organization, some []) := by
  obtain ⟨user, organization, -, -, -, -, -⟩ := request
  rcases organization with - | - | ⟨c, cs⟩
  · exact fun h => by cases h
  · exact fun h => by cases h
  · exact fun h => by cases h

theorem organization_ne_of_owns {request : CreateSubscriptionRequest}
    (hscope : scope.account = request.account) (h : scope.owns sub) :
    sub.organizationId ≠ some [] := by
  intro hempty
  have hnot := request_account_ne request
  obtain ⟨_, _, _, type, id⟩ := scope
  cases id <;> cases type <;> simp_all [BillingScope.owns, BillingScope.account]

end Accounts

/-! ### Calls that create nothing -/

section Uncreated

variable {s s' : Store}

/-- Every subscription of `s'` was in `s`, of the same account, and live if it still is. -/
def NoneCreated (s s' : Store) : Prop :=
  ∀ i sub', s'.subscriptions.get? i = some sub' →
    ∃ sub, s.subscriptions.get? i = some sub ∧ sub.account = sub'.account ∧
      (sub'.Live → sub.Live)

theorem NoneCreated.refl (s : Store) : NoneCreated s s :=
  fun _ sub h => ⟨sub, h, rfl, id⟩

theorem noneCreated_setCredits (s : Store) (i : ℕ) (credits : Credits) :
    NoneCreated s (s.setCredits i credits) := by
  intro j sub' hsub'
  rw [get?_setCredits] at hsub'
  split at hsub'
  · obtain ⟨sub, hsub, rfl⟩ := map_eq_some_iff.mp hsub'
    exact ⟨sub, hsub, rfl, id⟩
  · exact ⟨sub', hsub', rfl, id⟩

theorem Settlement.noneCreated {id : ℕ} {charge : ℤ} (h : Settlement s id charge s') :
    NoneCreated s s' := by
  obtain ⟨⟩ := h
  exact noneCreated_setCredits s _ _

theorem Step.noneCreated {step : Step} (h : step.creation? = none) (s : Store) :
    NoneCreated s (step.run s) := by
  have heffect := step.effect s
  generalize step.run s = s' at heffect
  cases heffect with
  | unchanged nothing => exact .refl s
  | created tier request now => cases h
  | consumed found takes all => exact noneCreated_setCredits s _ _
  | reserved payer requestId found takes => exact noneCreated_setCredits s _ _
  | settled asks settlement => exact settlement.noneCreated

theorem noneCreated_canceled (s : Store) (id : ℕ) :
    NoneCreated s (updateStatus id .canceled s).2 := by
  unfold updateStatus
  split
  · exact .refl s
  · intro j sub' hsub'
    rw [Table.get?_modify] at hsub'
    split at hsub'
    · obtain ⟨sub, hsub, rfl⟩ := map_eq_some_iff.mp hsub'
      exact ⟨sub, hsub, rfl, fun h => by rcases h with h | h <;> cases h⟩
    · exact ⟨sub', hsub', rfl, fun h => h⟩

theorem ServiceCall.noneCreated {call : ServiceCall} (h : call.creation? = none) (s : Store) :
    NoneCreated s (call.run s) := by
  rcases ServiceCall.run_cases s call with hrun | ⟨step, hstep, hrun⟩ | ⟨id, hrun⟩
  · rw [hrun]
    exact .refl s
  · rw [hrun]
    exact Step.noneCreated (hstep.trans h) s
  · rw [hrun]
    exact noneCreated_canceled s id

theorem Store.OneLive.of_noneCreated (hs : s.OneLive) (h : NoneCreated s s') : s'.OneLive := by
  intro i j a b ha hb hlive hlive' haccount
  obtain ⟨a', ha', hsame, hwas⟩ := h i a ha
  obtain ⟨b', hb', hsame', hwas'⟩ := h j b hb
  refine hs i j a' b' ha' hb' (hwas hlive) (hwas' hlive') ?_
  rw [hsame, hsame', haccount]

end Uncreated

/-! ### Creations -/

section Creations

variable {s : Store} {request : CreateSubscriptionRequest} {tier : Tier} {now : Timestamp}

theorem create_cases (request : CreateSubscriptionRequest) (now : Timestamp) (s : Store) :
    (Service.createSubscription request now s).1.success = false ∧
        (Service.createSubscription request now s).2 = s ∧
          (∀ tier, getTierInfo request.tierCode = some tier →
            s.activeSubscription (resolveBillingScope request.payer) ≠ none) ∨
      ∃ tier, getTierInfo request.tierCode = some tier ∧
        s.activeSubscription (resolveBillingScope request.payer) = none ∧
          (Service.createSubscription request now s).1.success = true ∧
            (Service.createSubscription request now s).1.creditsAllocated =
              some (allocatedCredits tier request) ∧
              (Service.createSubscription request now s).2 =
                s.addSubscription (newSubscription tier request now) := by
  unfold Service.createSubscription
  cases htier : getTierInfo request.tierCode with
  | none => exact .inl ⟨rfl, rfl, fun tier h => by cases h⟩
  | some tier =>
    cases hactive : getUserSubscription request.payer s with
    | some existing =>
      refine .inl ⟨rfl, rfl, fun _ _ hnone => ?_⟩
      rw [getUserSubscription, hnone] at hactive
      cases hactive
    | none => exact .inr ⟨tier, rfl, hactive, rfl, rfl, rfl⟩

theorem live_newSubscription : (newSubscription tier request now).Live := by
  unfold newSubscription UserSubscription.Live
  cases isTrial tier request
  · exact .inl rfl
  · exact .inr rfl

@[simp] theorem account_newSubscription :
    (newSubscription tier request now).account = request.account := rfl

theorem oneLive_add (hs : s.OneLive) :
    (s.addSubscription (newSubscription tier request now)).OneLive ↔
      ∀ i sub, s.subscriptions.get? i = some sub → sub.Live → sub.account ≠ request.account := by
  constructor
  · intro hone i sub hsub hlive haccount
    have hlt := Table.lt_size_of_get? hsub
    have heq : i = s.subscriptions.size :=
      hone i _ sub _ (Table.get?_insert_of_some hsub _) (Table.get?_insert_size _ _) hlive
        live_newSubscription haccount
    omega
  · intro hnone i j a b ha hb hlive hlive' haccount
    rw [addSubscription_subscriptions, Table.get?_insert] at ha hb
    split at ha <;> split at hb
    · omega
    · obtain rfl := some.inj ha
      exact absurd haccount.symm (hnone j b hb hlive')
    · obtain rfl := some.inj hb
      exact absurd haccount (hnone i a ha hlive)
    · exact hs i j a b ha hb hlive hlive' haccount

theorem hidden_of_live (hnone : s.activeSubscription (resolveBillingScope request.payer) = none)
    {i : ℕ} {sub : UserSubscription} (hsub : s.subscriptions.get? i = some sub)
    (hlive : sub.Live) (haccount : sub.account = request.account) : sub.Hidden := by
  rcases hlive with hactive | htrial
  · by_contra hvisible
    have hempty : sub.organizationId ≠ some [] := fun h => hvisible (.inr h)
    exact activeSubscription_eq_none.mp hnone i sub hsub ((owns_iff hempty).mpr haccount) hactive
  · exact .inl htrial

theorem lookup_eq (s : Store) {payer : Payer}
    (h : (resolveBillingScope payer).account = request.account) :
    getUserSubscription (resolveBillingScope payer).payer s =
      s.activeSubscription (resolveBillingScope request.payer) :=
  activeSubscription_congr ((account_resolve_payer payer).trans h)

/-- An account whose lookup finds `n` credits can use them. -/
theorem usable_of_found {row : Row UserSubscription}
    (h : s.activeSubscription (resolveBillingScope request.payer) = some row) :
    s.Usable request.account row.val.credits.remaining := by
  intro payer hpayer
  have hlookup := (lookup_eq s hpayer).trans h
  constructor
  · rw [Service.getCreditBalance, hlookup]
  · intro k hk hle
    have htake : row.val.credits.take k ≠ none := fun hnone => by
      have := Credits.take_eq_none.mp hnone
      omega
    obtain ⟨credits, hcredits⟩ := ne_none_iff_exists'.mp htake
    have hconsume : consumeCredits row.id k s =
        (some ⟨row.id, { row.val with credits }⟩, s.setCredits row.id credits) := by
      rw [consumeCredits, (of_activeSubscription h).1]
      dsimp only
      rw [hcredits]
    unfold Service.consumeCredits
    dsimp only
    rw [hlookup]
    dsimp only
    rw [if_neg (by omega), hconsume]

theorem usable_of_not_found
    (h : s.activeSubscription (resolveBillingScope request.payer) = none) {n : ℤ} :
    s.Usable request.account n ↔ n = 0 := by
  constructor
  · intro husable
    have hlookup : getUserSubscription (resolveBillingScope request.payer).payer s =
        s.activeSubscription (resolveBillingScope request.payer) := lookup_eq s rfl
    have hbalance := (husable request.payer rfl).1
    rw [Service.getCreditBalance, hlookup, h] at hbalance
    exact hbalance.symm
  · rintro rfl payer hpayer
    refine ⟨?_, fun k hk hle => by omega⟩
    rw [Service.getCreditBalance, (lookup_eq s hpayer).trans h]

theorem usable_add
    (hone : (s.addSubscription (newSubscription tier request now)).OneLive) :
    (s.addSubscription (newSubscription tier request now)).Usable request.account
        (allocatedCredits tier request) ↔
      ((newSubscription tier request now).Hidden → allocatedCredits tier request = 0) := by
  have hnew : (s.addSubscription (newSubscription tier request now)).subscriptions.get?
      s.subscriptions.size = some (newSubscription tier request now) :=
    Table.get?_insert_size _ _
  cases hlookup : (s.addSubscription (newSubscription tier request now)).activeSubscription
      (resolveBillingScope request.payer) with
  | none =>
    have hhidden := hidden_of_live hlookup hnew live_newSubscription rfl
    rw [usable_of_not_found hlookup]
    exact ⟨fun h _ => h, fun h => h hhidden⟩
  | some row =>
    obtain ⟨hget, howns, hactive⟩ := of_activeSubscription hlookup
    have hscope : (resolveBillingScope request.payer).account = request.account := rfl
    have hempty := organization_ne_of_owns hscope howns
    have haccount := (owns_iff hempty).mp howns
    have hid : row.id = s.subscriptions.size :=
      hone _ _ _ _ hget hnew (.inl hactive) live_newSubscription haccount
    have hrow : row.val = newSubscription tier request now := by
      rw [hid, hnew] at hget
      exact (some.inj hget).symm
    have husable := usable_of_found hlookup
    rw [hrow] at hactive hempty husable
    refine ⟨fun _ hhidden => ?_, fun _ => husable⟩
    rcases hhidden with htrial | horganization
    · rw [hactive] at htrial
      cases htrial
    · exact absurd horganization hempty

/-- **Creations.** From a state without two live subscriptions of one account, a call is
lawful exactly if it is visible to the lookup. -/
theorem lawful_iff (hs : s.OneLive) (call : ServiceCall) : call.Lawful s ↔ call.Visible s := by
  have hkept : call.creation? = none → (call.run s).OneLive :=
    fun h => hs.of_noneCreated (ServiceCall.noneCreated h s)
  cases call with
  | createSubscription request now =>
    rw [ServiceCall.Lawful, ServiceCall.run]
    rcases create_cases request now s with ⟨hfail, hrun, hfound⟩ |
      ⟨tier, htier, hnone, hsuccess, hallocated, hrun⟩
    · rw [hrun]
      refine ⟨fun _ tier htier hnone => absurd hnone (hfound tier htier), fun _ => ⟨hs, ?_⟩⟩
      intro n hsuccess
      simp [hfail] at hsuccess
    · rw [hrun]
      constructor
      · rintro ⟨hone, husable⟩ tier' htier' -
        obtain rfl := some.inj (htier.symm.trans htier')
        exact ⟨fun i sub hsub hlive _ => (oneLive_add hs).mp hone i sub hsub hlive,
          (usable_add hone).mp (husable _ hsuccess hallocated)⟩
      · intro hvisible
        obtain ⟨hhidden, hnothing⟩ := hvisible tier htier hnone
        have hone : (s.addSubscription (newSubscription tier request now)).OneLive := by
          refine (oneLive_add hs).mpr fun i sub hsub hlive haccount => ?_
          exact hhidden i sub hsub hlive (hidden_of_live hnone hsub hlive haccount) haccount
        refine ⟨hone, fun n _ hn => ?_⟩
        obtain rfl := some.inj (hallocated.symm.trans hn)
        exact (usable_add hone).mpr hnothing
  | _ => exact ⟨fun _ => trivial, fun _ => ⟨hkept rfl, trivial⟩⟩

end Creations

/-- **One usable subscription, exactly if creations are visible.** In a run of requests from
the empty store, no account ever has two live subscriptions and the credits of every new
subscription are usable, if and only if every creation that goes through meets no live
subscription of its account that is on trial or has an empty organization id, and is itself
neither, unless it allocates no credits. -/
theorem lawful_iff_visible (calls : List ServiceCall) :
    AllSteps ServiceCall.run ServiceCall.Lawful .empty calls ↔
      AllSteps ServiceCall.run ServiceCall.Visible .empty calls := by
  have hempty : Store.empty.OneLive := fun i _ a _ h => by simp [Store.empty] at h
  constructor
  · exact fun h => h.imp hempty (fun _ _ _ hlawful => hlawful.1)
      fun s call hs => (lawful_iff hs call).mp
  · exact fun h => h.imp hempty (fun s call hs hvisible => ((lawful_iff hs call).mpr hvisible).1)
      fun s call hs => (lawful_iff hs call).mpr

/-- Alice starts a trial of the `pro` tier, and then takes the free tier. -/
def trialThenFree : List ServiceCall :=
  [.createSubscription
      { userId := ['a'], tierCode := ['p', 'r', 'o'], useTrial := true, seats_pos := oneSeat_pos } 0,
    .createSubscription
      { userId := ['a'], tierCode := ['f', 'r', 'e', 'e'], seats_pos := oneSeat_pos } 1]

/-- The trial reports 30000000 credits, and her balance is 0. -/
theorem not_lawful_trial : ¬AllSteps ServiceCall.run ServiceCall.Lawful .empty trialThenFree := by
  rintro ⟨⟨-, husable⟩, -⟩
  have hbalance := (husable 30000000 (by rfl) (by rfl) { userId := ['a'] } (by rfl)).1
  exact absurd hbalance (by decide)

end IsaUser.Subscriptions
