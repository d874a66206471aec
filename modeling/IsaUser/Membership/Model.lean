import IsaUser.Lib.Faults
import IsaUser.Lib.Values

/-!
# Memberships and Their Store

A membership has a balance of points, and a history that says how it came about. They are two
tables, `membership.memberships` and `membership.membership_history`, and every statement of
`membership_repository.py` works on one of them.

No statement fails for want of storage. But a column takes only what fits into it: a text without
a null character and, where the length is bounded, not longer than that up to blanks at its end;
and a number of 64 bits.
-/

namespace IsaUser.Memberships

/-! ### Data -/

inductive MembershipStatus where
  | pending
  | active
  | suspended
  | expired
  | canceled
  deriving DecidableEq, Repr

inductive MembershipTier where
  | bronze
  | silver
  | gold
  | platinum
  | diamond
  deriving DecidableEq, Repr

inductive PointAction where
  | enrolled
  | pointsEarned
  | pointsRedeemed
  | pointsExpired
  | pointsAdjusted
  | tierUpgraded
  | tierDowngraded
  | benefitUsed
  | suspended
  | reactivated
  | renewed
  | expired
  | canceled
  deriving DecidableEq, Repr

inductive InitiatedBy where
  | user
  | system
  | admin
  | service
  deriving DecidableEq, Repr

/-- A row of `membership.memberships`. -/
structure MembershipRow where
  userId : PyStr
  organizationId : Option PyStr
  tierCode : MembershipTier
  status : MembershipStatus := .active
  pointsBalance : ℤ
  tierPoints : ℤ := 0
  lifetimePoints : ℤ
  enrollmentSource : Option PyStr
  promoCode : Option PyStr
  createdAt : Timestamp
  deriving DecidableEq

/-- `Membership`. An id is the number of its drawing. -/
structure Membership extends MembershipRow where
  membershipId : ℕ
  deriving DecidableEq

structure HistoryDetails where
  source : Option PyStr := none
  referenceId : Option PyStr := none
  rewardCode : Option PyStr := none
  description : Option PyStr := none
  /-- Whether `json.dumps` and the column take the metadata. -/
  metadata : Bool := true
  deriving DecidableEq

/-- A row of `membership.membership_history`. -/
structure HistoryRow where
  membershipId : ℕ
  action : PointAction
  pointsChange : ℤ := 0
  balanceAfter : Option ℤ := none
  previousTier : Option MembershipTier := none
  newTier : Option MembershipTier := none
  details : HistoryDetails := {}
  initiatedBy : InitiatedBy := .system
  deriving DecidableEq

/-! ### What the columns take -/

def Bigint (n : ℤ) : Prop := -9223372036854775808 ≤ n ∧ n ≤ 9223372036854775807
  deriving Decidable

def Text (s : PyStr) : Prop := Char.ofNat 0 ∉ s
  deriving Decidable

/-- `VARCHAR(n)`: blanks beyond the length are cut off. -/
def Varchar (n : ℕ) (s : PyStr) : Prop := Text s ∧ ∀ c ∈ s.drop n, c = ' '
  deriving Decidable

def MembershipRow.InRange (row : MembershipRow) : Prop :=
  Bigint row.pointsBalance ∧ Bigint row.tierPoints ∧ Bigint row.lifetimePoints
  deriving Decidable

def MembershipRow.TextsFit (row : MembershipRow) : Prop :=
  Varchar 50 row.userId ∧ (∀ s ∈ row.organizationId, Varchar 50 s) ∧
    (∀ s ∈ row.enrollmentSource, Varchar 50 s) ∧ ∀ s ∈ row.promoCode, Varchar 50 s
  deriving Decidable

def HistoryDetails.Fits (details : HistoryDetails) : Prop :=
  (∀ s ∈ details.source, Varchar 50 s) ∧ (∀ s ∈ details.referenceId, Varchar 100 s) ∧
    (∀ s ∈ details.rewardCode, Varchar 50 s) ∧ (∀ s ∈ details.description, Text s) ∧
      details.metadata = true
  deriving Decidable

def HistoryRow.Fits (row : HistoryRow) : Prop :=
  row.details.Fits ∧ Bigint row.pointsChange ∧ ∀ b ∈ row.balanceAfter, Bigint b
  deriving Decidable

/-! ### Reading -/

/-- `_row_to_membership`, whose points are not negative. -/
def MembershipRow.toMembership (membershipId : ℕ) (row : MembershipRow) : Option Membership :=
  if 0 ≤ row.pointsBalance ∧ 0 ≤ row.tierPoints ∧ 0 ≤ row.lifetimePoints then
    some { row with membershipId }
  else none

/-! ### The world -/

/-- The tables, the memberships by their ids; how many ids have been drawn; and what the clock
reads next. -/
structure World where
  memberships : ℕ → Option MembershipRow
  history : List HistoryRow
  issued : ℕ
  clock : Timestamp

def World.empty (clock : Timestamp) : World := ⟨fun _ => none, [], 0, clock⟩

inductive DbError where
  /-- A value does not fit into its column. -/
  | dataError
  | uniqueViolation
  deriving DecidableEq, Repr

inductive Call where
  /-- `datetime.now(timezone.utc)`. -/
  | clock
  | insertMembership (row : MembershipRow) (metadata : Bool)
  | selectMembership (membershipId : ℕ)
  | selectByUser (userId : PyStr) (organizationId : Option PyStr) (activeOnly : Bool)
  | addPoints (membershipId : ℕ) (points tierPoints : ℤ)
  | deductPoints (membershipId : ℕ) (points : ℤ)
  | updateTier (membershipId : ℕ) (newTier : MembershipTier)
  | updateStatus (membershipId : ℕ) (status : MembershipStatus)
  | insertHistory (row : HistoryRow)

def Call.Reply : Call → Type
  | clock => Timestamp
  | insertMembership _ _ => Option (ℕ × MembershipRow)
  | selectMembership _ => Option (ℕ × MembershipRow)
  | selectByUser _ _ _ => Option (ℕ × MembershipRow)
  | addPoints _ _ _ => Option (ℕ × MembershipRow)
  | deductPoints _ _ => Option (ℕ × MembershipRow)
  | updateTier _ _ => Option (ℕ × MembershipRow)
  | updateStatus _ _ => Option (ℕ × MembershipRow)
  | insertHistory _ => HistoryRow

@[reducible] def MembershipApi : Interface := ⟨Call, Call.Reply⟩

def World.rows (w : World) : List (ℕ × MembershipRow) :=
  (List.range w.issued).filterMap fun id => (w.memberships id).map (id, ·)

/-- `status IN ('active', 'pending')`. -/
def MembershipStatus.Current (status : MembershipStatus) : Prop :=
  status = .active ∨ status = .pending
  deriving Decidable

/-- The row offends `idx_memberships_user_active`. Rows without an organization do not. -/
def World.Conflicts (w : World) (id : ℕ) (row : MembershipRow) : Prop :=
  row.status.Current ∧ row.organizationId.isSome ∧
    ∃ other ∈ w.rows, other.1 ≠ id ∧ other.2.status.Current ∧ other.2.userId = row.userId ∧
      other.2.organizationId = row.organizationId
  deriving Decidable

def World.put (w : World) (id : ℕ) (row : MembershipRow) : World :=
  { w with memberships := Function.update w.memberships id (some row) }

def World.write (w : World) (id : ℕ) (row : MembershipRow) :
    Except DbError (Option (ℕ × MembershipRow)) × World :=
  if row.InRange then
    if w.Conflicts id row then (.error .uniqueViolation, w)
    else (.ok (some (id, row)), w.put id row)
  else (.error .dataError, w)

/-- `UPDATE … RETURNING *` of the row with an id, if `change` has a new row for it. -/
def World.update (w : World) (id : ℕ) (change : MembershipRow → Option MembershipRow) :
    Except DbError (Option (ℕ × MembershipRow)) × World :=
  match (w.memberships id).bind change with
  | none => (.ok none, w)
  | some row => w.write id row

/-- `SET` clause of `add_points`. -/
def MembershipRow.add (points tierPoints : ℤ) (row : MembershipRow) : MembershipRow :=
  { row with
    pointsBalance := row.pointsBalance + points
    tierPoints := row.tierPoints + tierPoints
    lifetimePoints := row.lifetimePoints + points }

/-- `SET` clause of `deduct_points`, where `points_balance >= points`. -/
def MembershipRow.deduct (points : ℤ) (row : MembershipRow) : Option MembershipRow :=
  if points ≤ row.pointsBalance then some { row with pointsBalance := row.pointsBalance - points }
  else none

/-- The statement of `create_membership`. -/
def World.insertMembership (w : World) (row : MembershipRow) (metadata : Bool) :
    Except DbError (Option (ℕ × MembershipRow)) × World :=
  let drawn := { w with issued := w.issued + 1 }
  if row.TextsFit ∧ metadata = true then drawn.write w.issued row else (.error .dataError, drawn)

/-- The statement of `add_points`. -/
def World.addPoints (w : World) (id : ℕ) (points tierPoints : ℤ) :
    Except DbError (Option (ℕ × MembershipRow)) × World :=
  if Bigint points ∧ Bigint tierPoints then
    w.update id fun row => some (row.add points tierPoints)
  else (.error .dataError, w)

/-- The statement of `deduct_points`. -/
def World.deductPoints (w : World) (id : ℕ) (points : ℤ) :
    Except DbError (Option (ℕ × MembershipRow)) × World :=
  if Bigint points then w.update id (MembershipRow.deduct points) else (.error .dataError, w)

def MembershipRow.BelongsTo (userId : PyStr) (organizationId : Option PyStr) (activeOnly : Bool)
    (row : MembershipRow) : Prop :=
  row.userId = userId ∧ row.organizationId = given organizationId ∧
    (activeOnly = true → row.status.Current)

instance (userId : PyStr) (organizationId : Option PyStr) (activeOnly : Bool) :
    DecidablePred (MembershipRow.BelongsTo userId organizationId activeOnly) :=
  fun _ => inferInstanceAs (Decidable (_ ∧ _ ∧ (_ → _)))

def World.latest (w : World) (userId : PyStr) (organizationId : Option PyStr) (activeOnly : Bool) :
    Option (ℕ × MembershipRow) :=
  (orderBy (fun e => -e.2.createdAt)
    (w.rows.filter fun e => e.2.BelongsTo userId organizationId activeOnly)).head?

def handle : Handler (MembershipApi.fallible DbError) World
  | .clock, w => (.ok w.clock, w)
  | .insertMembership row metadata, w => w.insertMembership row metadata
  | .selectMembership id, w => (.ok ((w.memberships id).map (id, ·)), w)
  | .selectByUser userId organizationId activeOnly, w =>
    (.ok (w.latest userId organizationId activeOnly), w)
  | .addPoints id points tierPoints, w => w.addPoints id points tierPoints
  | .deductPoints id points, w => w.deductPoints id points
  | .updateTier id newTier, w => w.update id fun row => some { row with tierCode := newTier }
  | .updateStatus id status, w => w.update id fun row => some { row with status }
  | .insertHistory row, w =>
    if row.Fits then (.ok row, { w with history := w.history ++ [row] })
    else (.error .dataError, w)

/-! ### The repository -/

inductive MembershipError where
  /-- "Failed to create membership". -/
  | notCreated
  /-- "Membership not found: ...". -/
  | membershipNotFound (membershipId : ℕ)
  /-- "Insufficient points. Available: ..., Requested: ...". -/
  | insufficientPoints (available requested : ℤ)
  /-- "Failed to deduct points - insufficient balance or membership not found". -/
  | notDeducted
  | validationError
  | database (e : DbError)
  deriving DecidableEq, Repr

abbrev MembershipM := Prog (MembershipApi.fallible DbError) MembershipError

def ask (c : Call) : MembershipM c.Reply := Prog.query (I := MembershipApi) .database c

def converted : ℕ × MembershipRow → MembershipM Membership
  | (id, row) =>
    match row.toMembership id with
    | none => .raise .validationError
    | some membership => return membership

def returned (missing : MembershipError) : Option (ℕ × MembershipRow) → MembershipM Membership
  | none => .raise missing
  | some e => converted e

def found : Option (ℕ × MembershipRow) → MembershipM (Option Membership)
  | none => return none
  | some e => do
    let membership ← converted e
    return some membership

def createMembership (userId : PyStr) (tierCode : MembershipTier) (pointsBalance : ℤ)
    (organizationId enrollmentSource promoCode : Option PyStr) (metadata : Bool) :
    MembershipM Membership := do
  let now : Timestamp ← ask .clock
  let row ← ask (.insertMembership
    { userId, organizationId, tierCode, pointsBalance, lifetimePoints := pointsBalance
      enrollmentSource, promoCode, createdAt := now } metadata)
  returned .notCreated row

def getMembership (membershipId : ℕ) : MembershipM (Option Membership) := do
  let row ← ask (.selectMembership membershipId)
  found row

def getMembershipByUser (userId : PyStr) (organizationId : Option PyStr) (activeOnly : Bool) :
    MembershipM (Option Membership) := do
  let row ← ask (.selectByUser userId organizationId activeOnly)
  found row

def addPoints (membershipId : ℕ) (points tierPoints : ℤ) : MembershipM Membership := do
  let row ← ask (.addPoints membershipId points tierPoints)
  returned (.membershipNotFound membershipId) row

def deductPoints (membershipId : ℕ) (points : ℤ) : MembershipM Membership := do
  match ← getMembership membershipId with
  | none => .raise (.membershipNotFound membershipId)
  | some membership => do
    Prog.require (points ≤ membership.pointsBalance)
      (.insufficientPoints membership.pointsBalance points)
    let row ← ask (.deductPoints membershipId points)
    returned .notDeducted row

def updateTier (membershipId : ℕ) (newTier : MembershipTier) : MembershipM Membership := do
  let row ← ask (.updateTier membershipId newTier)
  returned (.membershipNotFound membershipId) row

def updateStatus (membershipId : ℕ) (status : MembershipStatus) : MembershipM Membership := do
  let row ← ask (.updateStatus membershipId status)
  returned (.membershipNotFound membershipId) row

def addHistory (row : HistoryRow) : MembershipM HistoryRow := ask (.insertHistory row)

end IsaUser.Memberships
