import IsaUser.Lib.Table
import IsaUser.Lib.Values

/-!
# The Subscription Store

The tables `user_subscriptions` and `credit_reservations` of the `subscription` schema
(`001_create_subscription_schema.sql`, `002_add_credit_reservations.sql`,
`003_add_canonical_payer_fields_to_credit_reservations.sql`), the payer that a request
resolves to, and the lookup of its subscription. The generated texts `sub_…` and `res_…`
are the serial numbers of the rows.

The `CHECK` constraint on the remaining credits is a field of the `Credits` of a
subscription, so an `UPDATE` that would violate it has no result.

Columns that no modelled operation reads (prices, periods, trials, seats, payment methods,
metadata, models, update times) are left out.
-/

namespace IsaUser.Subscriptions

/-! ### Rows -/

inductive SubscriptionStatus where
  | active
  | trialing
  | pastDue
  | canceled
  | paused
  | expired
  | incomplete
  deriving DecidableEq, Repr

inductive ReservationStatus where
  | pending
  | reconciled
  | released
  deriving DecidableEq, Repr

def ReservationStatus.value : ReservationStatus → String
  | pending => "pending"
  | reconciled => "reconciled"
  | released => "released"

inductive BillingAccountType where
  | user
  | organization
  deriving DecidableEq, Repr

/-- The columns `credits_allocated`, `credits_used`, `credits_remaining` and
`credits_rolled_over` of a subscription. -/
structure Credits where
  allocated : ℤ
  used : ℤ
  remaining : ℤ
  rolledOver : ℤ
  /-- `credits_non_negative`. -/
  remaining_nonneg : 0 ≤ remaining
  deriving DecidableEq

/-- A row of `user_subscriptions`. -/
structure UserSubscription where
  userId : PyStr
  organizationId : Option PyStr
  tierCode : PyStr
  status : SubscriptionStatus
  credits : Credits
  createdAt : Timestamp
  deriving DecidableEq

/-- A row of `credit_reservations`. -/
structure CreditReservation where
  requestId : Option PyStr
  subscriptionId : ℕ
  userId : PyStr
  actorUserId : PyStr
  billingAccountType : BillingAccountType
  billingAccountId : Option PyStr
  organizationId : Option PyStr
  estimatedCredits : ℤ
  actualCredits : Option ℤ
  creditsRefunded : ℤ
  extraCreditsConsumed : ℤ
  creditsRemainingAfterReserve : ℤ
  creditsRemainingAfterFinalize : Option ℤ
  status : ReservationStatus
  deriving DecidableEq

/-- The `subscription` schema. -/
structure Store where
  subscriptions : Table UserSubscription
  reservations : Table CreditReservation
  deriving DecidableEq

def Store.empty : Store := ⟨.empty, .empty⟩

/-! ### Updates of the credits -/

namespace Credits

/-- `SET credits_used = credits_used + $1, credits_remaining = credits_remaining - $1 …
WHERE credits_remaining >= $1`. -/
def take (c : Credits) (n : ℤ) : Option Credits :=
  if h : n ≤ c.remaining then
    some { c with
      used := c.used + n
      remaining := c.remaining - n
      remaining_nonneg := Int.sub_nonneg_of_le h }
  else none

/-- `SET credits_used = GREATEST(credits_used - $1, 0), credits_remaining =
credits_remaining + $1`. -/
def putBack (c : Credits) (n : ℤ) : Option Credits :=
  if h : 0 ≤ c.remaining + n then
    some { c with
      used := max (c.used - n) 0
      remaining := c.remaining + n
      remaining_nonneg := h }
  else none

/-- `SET credits_allocated = $1, credits_remaining = $1 + $2, credits_used = 0,
credits_rolled_over = $2`. -/
def renew (allocated rolledOver : ℤ) : Option Credits :=
  if h : 0 ≤ allocated + rolledOver then
    some ⟨allocated, 0, allocated + rolledOver, rolledOver, h⟩
  else none

/-- The credits that were ever granted are used or remain, and none is used twice. -/
structure Balanced (c : Credits) : Prop where
  /-- `credits_used` is not negative. -/
  used_nonneg : 0 ≤ c.used
  /-- The two counters add up. -/
  adds : c.used + c.remaining = c.allocated + c.rolledOver

variable {c d : Credits} {n x : ℤ}

theorem take_eq_some : c.take n = some d ↔
    n ≤ c.remaining ∧ d.allocated = c.allocated ∧ d.used = c.used + n ∧
      d.remaining = c.remaining - n ∧ d.rolledOver = c.rolledOver := by
  obtain ⟨a, u, r, o, hr⟩ := d
  by_cases h : n ≤ c.remaining <;> simp [take, h, eq_comm]

theorem putBack_eq_some : c.putBack n = some d ↔
    0 ≤ c.remaining + n ∧ d.allocated = c.allocated ∧ d.used = max (c.used - n) 0 ∧
      d.remaining = c.remaining + n ∧ d.rolledOver = c.rolledOver := by
  obtain ⟨a, u, r, o, hr⟩ := d
  by_cases h : 0 ≤ c.remaining + n <;> simp [putBack, h, eq_comm]

@[simp] theorem take_zero (c : Credits) : c.take 0 = some c := by
  have h := c.remaining_nonneg
  rw [take_eq_some]
  omega

theorem take_eq_none : c.take n = none ↔ c.remaining < n := by
  by_cases h : n ≤ c.remaining
  · simp [take]
  · simp [take]

theorem putBack_isSome (c : Credits) (hn : 0 ≤ n) : ∃ d, c.putBack n = some d := by
  have h : 0 ≤ c.remaining + n := add_nonneg c.remaining_nonneg hn
  exact ⟨_, dif_pos h⟩

theorem Balanced.take (hc : c.Balanced) (hn : 0 ≤ n) (h : c.take n = some d) :
    d.Balanced := by
  obtain ⟨hused, hadds⟩ := hc
  obtain ⟨-, hallocated, hused', hremaining, hrolled⟩ := take_eq_some.mp h
  constructor <;> omega

/-- **The clamp.** To put credits back keeps the books balanced exactly if no more is put
back than is used. -/
theorem Balanced.putBack_iff (hc : c.Balanced) (h : c.putBack n = some d) :
    d.Balanced ↔ n ≤ c.used := by
  obtain ⟨hused, hadds⟩ := hc
  obtain ⟨-, hallocated, hused', hremaining, hrolled⟩ := putBack_eq_some.mp h
  constructor
  · rintro ⟨-, hadds'⟩
    omega
  · intro hle
    constructor <;> omega

theorem balanced_renew {allocated rolledOver : ℤ} (h : renew allocated rolledOver = some d) :
    d.Balanced := by
  unfold renew at h
  split at h
  · obtain rfl := Option.some.inj h
    exact ⟨le_rfl, zero_add _⟩
  · cases h

end Credits

/-! ### The payer -/

structure Payer where
  userId : PyStr
  organizationId : Option PyStr := none
  actorUserId : Option PyStr := none
  billingAccountType : Option BillingAccountType := none
  billingAccountId : Option PyStr := none
  deriving DecidableEq, Repr

/-- What `_resolve_billing_scope` returns. -/
structure BillingScope where
  userId : PyStr
  actorUserId : PyStr
  organizationId : Option PyStr
  billingAccountType : BillingAccountType
  billingAccountId : Option PyStr
  deriving DecidableEq, Repr

/-- A string that is neither `None` nor empty. -/
def truthy : Option PyStr → Bool
  | some (_ :: _) => true
  | _ => false

/-- `a or b`. -/
def orElse (a b : Option PyStr) : Option PyStr := if truthy a then a else b

/-- `a or b`, of which `b` is a string. -/
def orStr (a : Option PyStr) (b : PyStr) : PyStr := (orElse a (some b)).getD b

def resolveBillingScope (p : Payer) : BillingScope :=
  let actor := orStr p.actorUserId (orStr (some p.userId) (orStr p.billingAccountId []))
  let user := orStr (some p.userId) actor
  let account : BillingAccountType × Option PyStr :=
    match p.billingAccountType with
    | none =>
      if truthy p.organizationId then (.organization, p.organizationId)
      else (.user, some user)
    | some t =>
      match p.billingAccountId, t with
      | some id, _ => (t, some id)
      | none, .organization => (t, p.organizationId)
      | none, .user => (t, some user)
  { userId := user
    actorUserId := actor
    organizationId :=
      if account.1 = .organization then orElse p.organizationId account.2
      else p.organizationId
    billingAccountType := account.1
    billingAccountId := account.2 }

def BillingScope.account (scope : BillingScope) : BillingAccountType × Option PyStr :=
  (scope.billingAccountType, scope.billingAccountId)

/-- The payer fields that a service method passes on to the repository. -/
def BillingScope.payer (scope : BillingScope) : Payer :=
  ⟨scope.userId, scope.organizationId, some scope.actorUserId, some scope.billingAccountType,
    scope.billingAccountId⟩

@[simp] theorem account_resolve_payer (p : Payer) :
    (resolveBillingScope (resolveBillingScope p).payer).account =
      (resolveBillingScope p).account := by
  obtain ⟨user, organization, actor, type, id⟩ := p
  cases type with
  | none =>
    cases organization with
    | none => rfl
    | some o => cases o <;> rfl
  | some t =>
    cases t with
    | user => cases id <;> rfl
    | organization =>
      cases id with
      | none => cases organization <;> rfl
      | some id => rfl

/-! ### The lookup -/

/-- The condition of the lookup: `organization_id = $1` for an organization, and `user_id =
$1 AND organization_id IS NULL` for a user. Nothing equals `NULL`. -/
def BillingScope.owns (scope : BillingScope) (sub : UserSubscription) : Bool :=
  match scope.billingAccountId, scope.billingAccountType with
  | none, _ => false
  | some id, .organization => sub.organizationId = some id
  | some id, .user => sub.userId = id ∧ sub.organizationId = none

/-- `SELECT * FROM user_subscriptions WHERE … AND status = 'active' ORDER BY created_at DESC
LIMIT 1`. -/
def Store.activeSubscription (s : Store) (scope : BillingScope) :
    Option (Row UserSubscription) :=
  (orderBy (fun row => -row.val.createdAt)
    (s.subscriptions.select fun sub => scope.owns sub ∧ sub.status = .active)).head?

variable {s : Store} {scope scope' : BillingScope} {row : Row UserSubscription}

theorem owns_congr (h : scope.account = scope'.account) : scope.owns = scope'.owns := by
  obtain ⟨htype, hid⟩ := Prod.mk.inj h
  funext sub
  simp only [BillingScope.owns, htype, hid]

theorem activeSubscription_congr (h : scope.account = scope'.account) :
    s.activeSubscription scope = s.activeSubscription scope' := by
  simp only [Store.activeSubscription, owns_congr h]

theorem of_activeSubscription (h : s.activeSubscription scope = some row) :
    s.subscriptions.get? row.id = some row.val ∧ scope.owns row.val ∧
      row.val.status = .active := by
  have hmem := List.mem_of_mem_head? (Option.mem_def.mpr h)
  simpa [Table.mem_select] using hmem

theorem activeSubscription_eq_none : s.activeSubscription scope = none ↔
    ∀ i sub, s.subscriptions.get? i = some sub → scope.owns sub → sub.status ≠ .active := by
  rw [Store.activeSubscription, List.head?_eq_none_iff, List.eq_nil_iff_forall_not_mem]
  simp only [mem_orderBy, Table.mem_select, Bool.decide_and, Bool.and_eq_true, decide_eq_true_eq]
  constructor
  · exact fun h i sub hget howns hactive => h ⟨i, sub⟩ ⟨hget, by simpa using howns, hactive⟩
  · rintro h ⟨i, sub⟩ ⟨hget, howns, hactive⟩
    exact h i sub hget (by simpa using howns) hactive

end IsaUser.Subscriptions
