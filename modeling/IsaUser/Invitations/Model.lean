import IsaUser.Lib.Clocked

/-!
# Invitations

An invitation brings an email into an organization. It is pending until it is accepted, cancelled
or expired. Whoever accepts it is added to the organization by a request to the organization
service; if that fails, the invitation is pending again.

How the organization service answers is part of the state, and changes between two calls.
-/

namespace IsaUser.Invitations

/-! ### The table -/

inductive InvitationStatus where
  | pending
  | accepted
  | expired
  | cancelled
  deriving DecidableEq, Repr

inductive OrganizationRole where
  | owner
  | admin
  | member
  | viewer
  | guest
  deriving DecidableEq, Repr

/-- A row of `invitation.organization_invitations`. -/
structure Invitation where
  invitationId : PyStr
  organizationId : PyStr
  email : PyStr
  role : OrganizationRole
  invitedBy : PyStr
  invitationToken : PyStr
  status : InvitationStatus
  expiresAt : Timestamp
  acceptedAt : Option Timestamp := none
  createdAt : Timestamp
  deriving DecidableEq

structure UpdateData where
  status : Option InvitationStatus := none
  expiresAt : Option Timestamp := none
  acceptedAt : Option (Option Timestamp) := none
  deriving DecidableEq

def Invitation.update (row : Invitation) (data : UpdateData) : Invitation :=
  { row with
    status := data.status.getD row.status
    expiresAt := data.expiresAt.getD row.expiresAt
    acceptedAt := data.acceptedAt.getD row.acceptedAt }

def Invitation.Apart (row row' : Invitation) : Prop :=
  row.invitationId ≠ row'.invitationId ∧ row.invitationToken ≠ row'.invitationToken
  deriving Decidable

structure InvitationTable where
  rows : List Invitation
  apart : rows.Pairwise Invitation.Apart

namespace InvitationTable

def empty : InvitationTable := ⟨[], .nil⟩

def insert (t : InvitationTable) (row : Invitation) (h : ∀ r ∈ t.rows, row.Apart r) :
    InvitationTable :=
  ⟨row :: t.rows, .cons h t.apart⟩

def update (t : InvitationTable) (p : Invitation → Bool) (data : UpdateData) : InvitationTable where
  rows := t.rows.map fun row => if p row = true then row.update data else row
  apart := by
    refine List.pairwise_map.mpr (t.apart.imp fun {row row'} h => ?_)
    split <;> split <;> exact h

def find? (t : InvitationTable) (p : Invitation → Bool) : Option Invitation := t.rows.find? p

def count (t : InvitationTable) (p : Invitation → Bool) : ℕ := t.rows.countP p

end InvitationTable

/-- A member of an organization, as the organization service shows it. -/
structure Member where
  userId : PyStr
  role : PyStr
  deriving DecidableEq

structure InvitationStore where
  invitations : InvitationTable
  organizationStatus : ℕ
  membersStatus : ℕ
  members : List Member
  addStatus : ℕ

/-! ### Statements -/

/-- The requests to the organization service and the statements of the repository. -/
inductive Call where
  | getOrganization (organizationId userId : PyStr)
  | getMembers (organizationId userId : PyStr)
  | addMember (organizationId userId : PyStr) (role : OrganizationRole) (inviterUserId : PyStr)
  | insertInvitation (row : Invitation)
  | selectById (invitationId : PyStr)
  | selectByToken (invitationToken : PyStr)
  | selectPending (email organizationId : PyStr)
  | updateInvitation (invitationId : PyStr) (data : UpdateData)
  | acceptInvitation (invitationToken : PyStr) (now : Timestamp)
  | expireOldInvitations (now : Timestamp)
  | cancelOrganizationInvitations (organizationId : PyStr)
  | cancelInvitationsByInviter (userId : PyStr)
  deriving DecidableEq

def Call.Reply : Call → Type
  | getOrganization _ _ => ℕ
  | getMembers _ _ => ℕ × List Member
  | addMember _ _ _ _ => ℕ
  | insertInvitation _ => List Invitation
  | selectById _ => Option Invitation
  | selectByToken _ => Option Invitation
  | selectPending _ _ => Option Invitation
  | updateInvitation _ _ => ℕ
  | acceptInvitation _ _ => ℕ
  | expireOldInvitations _ => ℕ
  | cancelOrganizationInvitations _ => ℕ
  | cancelInvitationsByInviter _ => ℕ

@[reducible] def InvitationApi : Interface := ⟨Call, Call.Reply⟩

inductive CallError where
  | unavailable
  | uniqueViolation
  /-- A time that is read as a text, or the other way round. -/
  | typeError
  deriving DecidableEq, Repr

namespace InvitationStore

def withInvitations (s : InvitationStore) (t : InvitationTable) : InvitationStore :=
  { s with invitations := t }

/-- An update of the rows that meet a condition, answered with their number. -/
def updateWhere (s : InvitationStore) (p : Invitation → Bool) (data : UpdateData) :
    Except CallError ℕ × InvitationStore :=
  (.ok (s.invitations.count p), s.withInvitations (s.invitations.update p data))

end InvitationStore

def execute : Handler (InvitationApi.fallible CallError) InvitationStore
  | .getOrganization _ _, s => (.ok s.organizationStatus, s)
  | .getMembers _ _, s => (.ok (s.membersStatus, s.members), s)
  | .addMember _ _ _ _, s => (.ok s.addStatus, s)
  | .insertInvitation row, s =>
    if h : ∀ r ∈ s.invitations.rows, row.Apart r then
      (.ok [row], s.withInvitations (s.invitations.insert row h))
    else (.error .uniqueViolation, s)
  | .selectById invitationId, s =>
    (.ok (s.invitations.find? (·.invitationId = invitationId)), s)
  | .selectByToken token, s => (.ok (s.invitations.find? (·.invitationToken = token)), s)
  | .selectPending email organizationId, s =>
    (.ok (s.invitations.find? fun row =>
      row.email = email ∧ row.organizationId = organizationId ∧ row.status = .pending), s)
  | .updateInvitation invitationId data, s =>
    s.updateWhere (·.invitationId = invitationId) data
  | .acceptInvitation token now, s =>
    s.updateWhere (fun row => row.invitationToken = token ∧ row.status = .pending)
      { status := some .accepted, acceptedAt := some (some now) }
  | .expireOldInvitations now, s =>
    s.updateWhere (fun row => row.status = .pending ∧ row.expiresAt < now)
      { status := some .expired }
  | .cancelOrganizationInvitations organizationId, s =>
    s.updateWhere (fun row => row.organizationId = organizationId ∧ row.status = .pending)
      { status := some .cancelled }
  | .cancelInvitationsByInviter userId, s =>
    s.updateWhere (fun row => row.invitedBy = userId ∧ row.status = .pending)
      { status := some .cancelled }

abbrev handle : Handler (InvitationApi.timed.fallible CallError) (Clocked InvitationStore) :=
  Clocked.handle .unavailable execute

def Shifts (m m' : Clocked InvitationStore) : Prop :=
  m'.store.invitations = m.store.invitations ∧ m.clock ≤ m'.clock

theorem handle_store {m : Clocked InvitationStore} (c : Call) : (handle (.call c) m).2.store =
    if m.link = .down then m.store else (execute c m.store).2 := by
  change (m.link.pass CallError.unavailable (execute c m.store) m.store).2 = _
  cases m.link <;> rfl

/-! ### The repository -/

abbrev InvitationM := Prog (InvitationApi.timed.fallible CallError) CallError

def ask (c : Call) : InvitationM c.Reply := Prog.ask (I := InvitationApi) id c

def now : InvitationM Timestamp := Prog.now (I := InvitationApi) id

/-- `create_invitation` of the repository: what fails is no invitation. -/
def insertInvitation (row : Timestamp → Timestamp → Invitation) :
    InvitationM (Option Invitation) :=
  Prog.tryCatch (ε := CallError) (do
    let expiresAt ← now
    let createdAt ← now
    let rows : List Invitation ← ask (.insertInvitation (row (expiresAt + days 7) createdAt))
    return rows.head?) fun _ => return none

/-- `get_invitation_by_id`: what fails is no invitation. -/
def getInvitationById (invitationId : PyStr) : InvitationM (Option Invitation) :=
  (ask (.selectById invitationId) : InvitationM (Option Invitation)).tryCatch fun _ => return none

/-- `get_invitation_by_token` of the repository: what fails is no invitation. -/
def selectByToken (invitationToken : PyStr) : InvitationM (Option Invitation) :=
  (ask (.selectByToken invitationToken) : InvitationM (Option Invitation)).tryCatch fun _ =>
    return none

/-- `get_pending_invitation_by_email_and_organization`: what fails is no invitation. -/
def getPendingInvitation (email organizationId : PyStr) : InvitationM (Option Invitation) :=
  (ask (.selectPending email organizationId) : InvitationM (Option Invitation)).tryCatch fun _ =>
    return none

def changes (statement : InvitationM ℕ) : InvitationM Bool :=
  Prog.tryCatch (ε := CallError) (do
    let count ← statement
    return decide (0 < count)) fun _ => return false

/-- A statement with the number of rows that it has changed; what fails has changed none. -/
def counts (statement : InvitationM ℕ) : InvitationM ℕ :=
  statement.tryCatch fun _ => return 0

def updateInvitation (invitationId : PyStr) (data : UpdateData) : InvitationM Bool :=
  changes (ask (.updateInvitation invitationId data))

/-- `accept_invitation` of the repository. -/
def markAccepted (invitationToken : PyStr) : InvitationM Bool :=
  changes do
    let time ← now
    ask (.acceptInvitation invitationToken time)

/-- `expire_old_invitations` of the repository. -/
def expirePending : InvitationM ℕ :=
  counts do
    let time ← now
    ask (.expireOldInvitations time)

def cancelOrganizationInvitations (organizationId : PyStr) : InvitationM ℕ :=
  counts (ask (.cancelOrganizationInvitations organizationId))

def cancelInvitationsByInviter (userId : PyStr) : InvitationM ℕ :=
  counts (ask (.cancelInvitationsByInviter userId))

/-! ### The service -/

/-- A time of `invitation.dict()`, as the service finds it. -/
inductive DateField where
  | datetime (t : Timestamp)
  | text (s : PyStr)
  deriving DecidableEq

/-- The service: what a time becomes in `dict()`, what `datetime.fromisoformat` makes of a text,
where one without an offset is in UTC, and `str.lower`. -/
structure InvitationService where
  field : Timestamp → DateField
  fromIsoFormat : PyStr → Option Timestamp
  lower : PyStr → PyStr

inductive Refusal where
  /-- "Organization not found". -/
  | organizationNotFound
  /-- "You don't have permission to invite users to this organization", and the like. -/
  | noPermission
  /-- "A pending invitation already exists for this email". -/
  | pendingExists
  /-- "User is already a member of this organization". -/
  | alreadyMember
  /-- "Failed to create invitation". -/
  | createFailed
  /-- "Invitation not found". -/
  | notFound
  /-- "Invitation is …", "Cannot resend … invitation". -/
  | hasStatus (status : InvitationStatus)
  /-- "Invitation has expired". -/
  | hasExpired
  /-- "Failed to get invitation: …". -/
  | getFailed (e : CallError)
  /-- "Email mismatch". -/
  | emailMismatch
  /-- "Failed to accept invitation". -/
  | acceptFailed
  /-- "Failed to add user to organization". -/
  | addFailed
  /-- "Failed to cancel invitation". -/
  | cancelFailed
  /-- Any other exception. -/
  | failed (e : CallError)
  deriving DecidableEq, Repr

/-- `InvitationDetailResponse`. -/
structure InvitationDetail where
  invitationId : PyStr
  organizationId : PyStr
  email : PyStr
  role : OrganizationRole
  status : InvitationStatus
  expiresAt : Option Timestamp
  createdAt : Timestamp
  deriving DecidableEq

inductive Response where
  | created (invitation : Invitation)
  | found (detail : InvitationDetail)
  | accepted (invitationId organizationId userId : PyStr) (role : OrganizationRole)
  | cancelled
  | resent
  | expired (count : ℕ)
  | handled (success : Bool)
  | refused (refusal : Refusal)
  deriving DecidableEq

structure CreateRequest where
  organizationId : PyStr
  inviterUserId : PyStr
  email : PyStr
  role : OrganizationRole
  invitationId : PyStr
  invitationToken : PyStr
  deriving DecidableEq

section Service

variable (service : InvitationService)

/-- `_verify_organization_exists`: what fails does not exist. -/
def verifyOrganizationExists (organizationId userId : PyStr) : InvitationM Bool :=
  Prog.tryCatch (ε := CallError) (do
    let status : ℕ ← ask (.getOrganization organizationId userId)
    return decide (status = 200)) fun _ => return false

def mayInvite (userId : PyStr) (members : List Member) : Bool :=
  match members.find? (·.userId = userId) with
  | some member => service.lower member.role ∈ ["owner".toList, "admin".toList]
  | none => false

/-- `_verify_inviter_permissions`: what fails is not permitted. -/
def verifyInviterPermissions (organizationId userId : PyStr) : InvitationM Bool :=
  Prog.tryCatch (ε := CallError) (do
    let answer : ℕ × List Member ← ask (.getMembers organizationId userId)
    return decide (answer.1 = 200) && mayInvite service userId answer.2) fun _ => return false

/-- `_check_user_membership`: nobody is looked for. -/
def checkUserMembership (_organizationId _email : PyStr) : Bool := false

/-- `_verify_user_email_match`: nobody is asked. -/
def verifyUserEmailMatch (_userId _email : PyStr) : Bool := true

/-- `_add_user_to_organization`: what fails is not added. -/
def addUserToOrganization (organizationId userId : PyStr) (role : OrganizationRole)
    (inviterUserId : PyStr) : InvitationM Bool :=
  Prog.tryCatch (ε := CallError) (do
    let status : ℕ ← ask (.addMember organizationId userId role inviterUserId)
    return decide (status = 200)) fun _ => return false

def CreateRequest.row (r : CreateRequest) (expiresAt createdAt : Timestamp) : Invitation :=
  { invitationId := r.invitationId
    organizationId := r.organizationId
    email := r.email
    role := r.role
    invitedBy := r.inviterUserId
    invitationToken := r.invitationToken
    status := .pending
    expiresAt
    createdAt }

def createInvitation (r : CreateRequest) : InvitationM Response := do
  let organizationExists ← verifyOrganizationExists r.organizationId r.inviterUserId
  if organizationExists = false then return .refused .organizationNotFound
  else do
    let permitted ← verifyInviterPermissions service r.organizationId r.inviterUserId
    if permitted = false then return .refused .noPermission
    else do
      match ← getPendingInvitation r.email r.organizationId with
      | some _ => return .refused .pendingExists
      | none =>
        if checkUserMembership r.organizationId r.email = true then
          return .refused .alreadyMember
        else do
          match ← insertInvitation r.row with
          | none => return .refused .createFailed
          | some invitation => return .created invitation

def DateField.Given : DateField → Prop
  | datetime _ => True
  | text s => s ≠ []

instance : DecidablePred DateField.Given
  | .datetime _ => .isTrue trivial
  | .text s => inferInstanceAs (Decidable (s ≠ []))

/-- `datetime.fromisoformat(field.replace("Z", ""))`: a datetime has another `replace`. -/
def DateField.parseStripped : DateField → Option Timestamp
  | datetime _ => none
  | text s => service.fromIsoFormat (s.filter (· ≠ 'Z'))

/-- `datetime.fromisoformat(field)`. -/
def DateField.parse : DateField → Option Timestamp
  | datetime _ => none
  | text s => service.fromIsoFormat s

def Invitation.detail (row : Invitation) : InvitationM InvitationDetail :=
  match if (service.field row.expiresAt).Given
    then ((service.field row.expiresAt).parse service).map some else some none with
  | none => .raise .typeError
  | some expiresAt =>
    match (service.field row.createdAt).parse service with
    | none => .raise .typeError
    | some createdAt =>
      return { invitationId := row.invitationId, organizationId := row.organizationId
               email := row.email, role := row.role, status := row.status
               expiresAt, createdAt }

def checkExpiry (row : Invitation) : InvitationM Bool :=
  if (service.field row.expiresAt).Given then
    match (service.field row.expiresAt).parseStripped service with
    | none => .raise .typeError
    | some expiresAt => do
      let time ← now
      return decide (expiresAt < time)
  else return false

/-- The checks of `get_invitation_by_token` on what has been read. -/
def examineInvitation : Option Invitation → InvitationM (Except Refusal InvitationDetail)
  | none => return .error .notFound
  | some row =>
    if row.status ≠ .pending then return .error (.hasStatus row.status)
    else do
      let expired ← checkExpiry service row
      if expired = true then do
        let _ ← updateInvitation row.invitationId { status := some .expired }
        return .error .hasExpired
      else do
        let detail ← row.detail service
        return .ok detail

def getInvitationByToken (invitationToken : PyStr) :
    InvitationM (Except Refusal InvitationDetail) :=
  Prog.tryCatch (ε := CallError) (do
    let row ← selectByToken invitationToken
    examineInvitation service row) fun e => return .error (.getFailed e)

/-- The end of `accept_invitation`, once the invitation is marked. -/
def joinOrganization (invitationToken userId : PyStr) (detail : InvitationDetail) :
    InvitationM Response := do
  let invitation ← selectByToken invitationToken
  let added ← addUserToOrganization detail.organizationId userId detail.role
    (invitation.elim "system".toList Invitation.invitedBy)
  if added = true then
    return .accepted detail.invitationId detail.organizationId userId detail.role
  else do
    let _ ← updateInvitation detail.invitationId
      { status := some .pending, acceptedAt := some none }
    return .refused .addFailed

def acceptInvitation (invitationToken userId : PyStr) : InvitationM Response := do
  match ← getInvitationByToken service invitationToken with
  | .error refusal => return .refused refusal
  | .ok detail =>
    if verifyUserEmailMatch userId detail.email = false then return .refused .emailMismatch
    else do
      let marked ← markAccepted invitationToken
      if marked = true then joinOrganization invitationToken userId detail
      else return .refused .acceptFailed

def withPermission (row : Invitation) (userId : PyStr) (act : InvitationM Response) :
    InvitationM Response :=
  if row.invitedBy = userId then act
  else do
    let permitted ← verifyInviterPermissions service row.organizationId userId
    if permitted = true then act else return .refused .noPermission

def cancelInvitation (invitationId userId : PyStr) : InvitationM Response := do
  match ← getInvitationById invitationId with
  | none => return .refused .notFound
  | some row => withPermission service row userId do
      let success ← updateInvitation invitationId { status := some .cancelled }
      if success = true then return .cancelled else return .refused .cancelFailed

def resendInvitation (invitationId userId : PyStr) : InvitationM Response := do
  match ← getInvitationById invitationId with
  | none => return .refused .notFound
  | some row => withPermission service row userId <|
      if row.status ≠ .pending then return .refused (.hasStatus row.status)
      else do
        let time ← now
        let _ ← updateInvitation invitationId { expiresAt := some (time + days 7) }
        return .resent

def expireOldInvitations : InvitationM Response := do
  let count ← expirePending
  return .expired count

def handleOrganizationDeleted (organizationId : PyStr) : InvitationM Response :=
  if organizationId = [] then return .handled false
  else do
    let _ ← cancelOrganizationInvitations organizationId
    return .handled true

def handleUserDeleted (userId : PyStr) : InvitationM Response :=
  if userId = [] then return .handled false
  else do
    let _ ← cancelInvitationsByInviter userId
    return .handled true

/-! ### Requests -/

inductive Request where
  | create (r : CreateRequest)
  | get (invitationToken : PyStr)
  | accept (invitationToken userId : PyStr)
  | cancel (invitationId userId : PyStr)
  | resend (invitationId userId : PyStr)
  | expireOld
  | organizationDeleted (organizationId : PyStr)
  | userDeleted (userId : PyStr)
  deriving DecidableEq

def Request.serve (request : Request) : InvitationM Response :=
  Prog.tryCatch (ε := CallError)
    (match request with
    | create r => createInvitation service r
    | get token => do
      match ← getInvitationByToken service token with
      | .error refusal => return .refused refusal
      | .ok detail => return .found detail
    | accept token userId => acceptInvitation service token userId
    | cancel invitationId userId => cancelInvitation service invitationId userId
    | resend invitationId userId => resendInvitation service invitationId userId
    | expireOld => expireOldInvitations
    | organizationDeleted organizationId => handleOrganizationDeleted organizationId
    | userDeleted userId => handleUserDeleted userId)
    fun e => return .refused (.failed e)

abbrev InvitationPast := Past (InvitationApi.timed.fallible CallError) (Clocked InvitationStore)

abbrev InvitationPool (ι : Type*) :=
  Pool (InvitationApi.timed.fallible CallError) CallError Response ι (Clocked InvitationStore)

def InvitationPool.start {ι : Type*} (requests : ι → Request) (m : Clocked InvitationStore) :
    InvitationPool ι :=
  Pool.start m fun i => (requests i).serve service

/-- From one configuration to another, where every call meets a condition on the state that it
finds. -/
abbrev InvitationRun {ι : Type*} [DecidableEq ι]
    (A : Clocked InvitationStore → Timed Call → Prop) :
    InvitationPool ι → InvitationPool ι → Prop :=
  Pool.Reach handle Shifts fun _ _ => A

end Service

end IsaUser.Invitations
