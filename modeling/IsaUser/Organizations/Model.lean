import IsaUser.Lib.Json
import IsaUser.Lib.Pool
import IsaUser.Lib.Rows

/-!
# Organizations and Their Members

An organization has members, each with a role and a status. Members are added, updated and removed
by other members, whose roles say what they may do; a member that is removed becomes inactive, and
an organization that is deleted keeps its row and its members.
-/

namespace IsaUser.Organizations

/-! ### Roles -/

inductive OrganizationRole where
  | owner
  | admin
  | member
  | viewer
  | guest
  deriving DecidableEq, Repr

def OrganizationRole.value : OrganizationRole → PyStr
  | owner => "owner".toList
  | admin => "admin".toList
  | member => "member".toList
  | viewer => "viewer".toList
  | guest => "guest".toList

/-- `_ASSIGNMENT_MATRIX`: whom each role may assign. -/
def assignmentMatrix : OrganizationRole → List OrganizationRole
  | .owner => [.owner, .admin, .member, .viewer, .guest]
  | .admin => [.member, .viewer, .guest]
  | .member | .viewer | .guest => []

def canAssignOrgRole (assigner assignee : OrganizationRole) : Bool :=
  assignee ∈ assignmentMatrix assigner

/-! ### The tables -/

inductive MemberStatus where
  | active
  | inactive
  | pending
  | suspended
  deriving DecidableEq, Repr

inductive OrganizationStatus where
  | active
  | inactive
  | suspended
  | deleted
  deriving DecidableEq, Repr

/-- A row of `organization.organization_members`. -/
structure Member where
  organizationId : PyStr
  userId : PyStr
  role : OrganizationRole
  status : MemberStatus := .active
  permissions : List PyStr := []
  deriving DecidableEq

def Member.key (m : Member) : PyStr × PyStr := (m.organizationId, m.userId)

/-- A row of `organization.organizations`. -/
structure Organization where
  name : PyStr
  status : OrganizationStatus := .active
  creditsPool : ℚ := 0

structure OrganizationStore where
  organizations : PyStr → Option Organization
  members : Rows Member.key

def OrganizationStore.member (s : OrganizationStore) (organizationId userId : PyStr) :
    Option Member :=
  s.members.get? (organizationId, userId)

/-! ### The repository -/

/-- `OrganizationMemberUpdateRequest`: the columns that are updated. -/
structure MemberUpdates where
  role : Option OrganizationRole := none
  status : Option MemberStatus := none
  permissions : Option (List PyStr) := none

inductive Call where
  | getUserOrganizationRole (organizationId userId : PyStr)
  | getOrganizationMembers (organizationId : PyStr) (roleFilter : OrganizationRole) (limit : ℕ)
  | addOrganizationMember (organizationId userId : PyStr) (role : OrganizationRole ⊕ PyStr)
      (permissions : Option (List PyStr))
  | updateOrganizationMember (organizationId userId : PyStr) (updates : MemberUpdates)
  | removeOrganizationMember (organizationId userId : PyStr)
  | getOrganization (organizationId : PyStr)
  | deleteOrganization (organizationId : PyStr)

def Call.Reply : Call → Type
  | getUserOrganizationRole _ _ => Option Member
  | getOrganizationMembers _ _ _ => List Member
  | addOrganizationMember _ _ _ _ => Option Member
  | updateOrganizationMember _ _ _ => Option Member
  | removeOrganizationMember _ _ => Bool
  | getOrganization _ => Option Organization
  | deleteOrganization _ => Bool

@[reducible] def OrganizationApi : Interface := ⟨Call, Call.Reply⟩

def Member.update (m : Member) (updates : MemberUpdates) : Member :=
  { m with
    role := updates.role.getD m.role
    status := updates.status.getD m.status
    permissions := updates.permissions.getD m.permissions }

@[simp] theorem Member.key_update (m : Member) (updates : MemberUpdates) :
    (m.update updates).key = m.key := rfl

def MemberUpdates.removal : MemberUpdates := { status := some .inactive }

def OrganizationStore.updateMember (s : OrganizationStore) (organizationId userId : PyStr)
    (updates : MemberUpdates) : OrganizationStore :=
  { s with
    members := s.members.modify (organizationId, userId) (·.update updates) fun m =>
      m.key_update updates }

def OrganizationStore.addMember (s : OrganizationStore) (m : Member)
    (h : s.members.get? m.key = none) : OrganizationStore :=
  { s with members := s.members.insert m h }

def OrganizationStore.deleteOrganization (s : OrganizationStore) (organizationId : PyStr) :
    OrganizationStore :=
  { s with
    organizations := Function.update s.organizations organizationId
      ((s.organizations organizationId).map fun o => { o with status := .deleted }) }

/-- `add_organization_member`. A text has no value, and then nobody is added. -/
def OrganizationStore.add (s : OrganizationStore) (organizationId userId : PyStr)
    (role : OrganizationRole ⊕ PyStr) (permissions : Option (List PyStr)) :
    Option Member × OrganizationStore :=
  match role with
  | .inr _ => (none, s)
  | .inl role =>
    let m : Member :=
      { organizationId, userId, role, status := .active, permissions := permissions.getD [] }
    match h : s.members.get? m.key with
    | none => (some m, s.addMember m h)
    | some found =>
      if found.status = .inactive then
        let updates : MemberUpdates :=
          { role := some role, status := some .active, permissions := some m.permissions }
        (some (found.update updates), s.updateMember organizationId userId updates)
      else (none, s)

def execute : Handler OrganizationApi OrganizationStore
  | .getUserOrganizationRole organizationId userId, s => (s.member organizationId userId, s)
  | .getOrganizationMembers organizationId roleFilter limit, s =>
    ((s.members.rows.filter fun m =>
      m.organizationId = organizationId ∧ m.role = roleFilter ∧ m.status = .active).take limit, s)
  | .addOrganizationMember organizationId userId role permissions, s =>
    s.add organizationId userId role permissions
  | .updateOrganizationMember organizationId userId updates, s =>
    ((s.updateMember organizationId userId updates).member organizationId userId,
      s.updateMember organizationId userId updates)
  | .removeOrganizationMember organizationId userId, s =>
    ((s.member organizationId userId).isSome,
      s.updateMember organizationId userId MemberUpdates.removal)
  | .getOrganization organizationId, s => (s.organizations organizationId, s)
  | .deleteOrganization organizationId, s =>
    ((s.organizations organizationId).isSome, s.deleteOrganization organizationId)

/-! ### The service -/

/-- `OrganizationServiceError` and its subclasses. -/
inductive OrganizationError where
  | notFound
  | accessDenied
  | validation
  | service
  deriving DecidableEq, Repr

abbrev OrganizationM := Prog OrganizationApi OrganizationError

def ask (c : Call) : OrganizationM c.Reply := Prog.perform (I := OrganizationApi) c

def checkUserAccess (organizationId userId : PyStr) : OrganizationM Bool := do
  match (← ask (.getUserOrganizationRole organizationId userId) : Option Member) with
  | none => return false
  | some m => return m.status = .active

def checkAdminAccess (organizationId userId : PyStr) : OrganizationM Bool := do
  match (← ask (.getUserOrganizationRole organizationId userId) : Option Member) with
  | none => return false
  | some m => return m.status = .active ∧ m.role ∈ [OrganizationRole.owner, .admin]

def checkOwnerAccess (organizationId userId : PyStr) : OrganizationM Bool := do
  match (← ask (.getUserOrganizationRole organizationId userId) : Option Member) with
  | none => return false
  | some m => return m.status = .active ∧ m.role = .owner

def enforceRoleAssignment (assignerRole : Option OrganizationRole)
    (targetRole : OrganizationRole) : OrganizationM Unit :=
  match assignerRole with
  | none => .raise .accessDenied
  | some assigner =>
    if canAssignOrgRole assigner targetRole = false then .raise .accessDenied else return ()

abbrev NewRole := { role : OrganizationRole // role ≠ .owner }

/-- `OrganizationMemberAddRequest`. -/
structure AddRequest where
  userId : PyStr
  role : NewRole := ⟨.member, OrganizationRole.noConfusion⟩
  permissions : Option (List PyStr) := some []

/-- `add_organization_member`. The role is passed on as a text. -/
def addOrganizationMember (organizationId : PyStr) (request : AddRequest)
    (requestingUserId : PyStr) : OrganizationM Member := do
  match (← ask (.getUserOrganizationRole organizationId requestingUserId) : Option Member) with
  | none => .raise .accessDenied
  | some assigner =>
    if assigner.status ≠ .active ∨ assigner.role ∉ [OrganizationRole.owner, .admin] then
      .raise .accessDenied
    else if request.userId = [] then .raise .validation
    else do
      enforceRoleAssignment (some assigner.role) request.role
      match (← ask (.addOrganizationMember organizationId request.userId
          (.inr request.role.val.value) request.permissions) : Option Member) with
      | none => .raise .service
      | some m => return m

def updateOrganizationMember (organizationId memberUserId : PyStr) (request : MemberUpdates)
    (requestingUserId : PyStr) : OrganizationM Member := do
  let isAdmin ← checkAdminAccess organizationId requestingUserId
  if isAdmin = false then .raise .accessDenied
  else do
    match (← ask (.getUserOrganizationRole organizationId memberUserId) : Option Member) with
    | none => .raise .notFound
    | some target => do
      let requesting ← (ask (.getUserOrganizationRole organizationId requestingUserId) :
        OrganizationM (Option Member))
      let assignerRole := requesting.map Member.role
      if assignerRole = some .admin ∧ target.role ∈ [OrganizationRole.owner, .admin] then
        .raise .accessDenied
      else do
        match request.role with
        | none => pure ()
        | some newRole => enforceRoleAssignment assignerRole newRole
        match (← ask (.updateOrganizationMember organizationId memberUserId request) :
            Option Member) with
        | none => .raise .service
        | some m => return m

/-- The check of `remove_organization_member` for an owner: not the last one is removed. -/
def checkLastOwner (organizationId : PyStr) (target : Member) : OrganizationM Unit :=
  if target.role = .owner then do
    let owners ← (ask (.getOrganizationMembers organizationId .owner 100) :
      OrganizationM (List Member))
    if owners.length ≤ 1 then .raise .validation else return ()
  else return ()

/-- The checks of `remove_organization_member`, by the role of who asks. -/
def checkRemoval (organizationId memberUserId requestingUserId : PyStr)
    (requesting target : Member) : OrganizationM Unit :=
  match requesting.role with
  | .admin =>
    if target.role ∈ [OrganizationRole.owner, .admin] then .raise .accessDenied else return ()
  | .owner => checkLastOwner organizationId target
  | _ => if requestingUserId ≠ memberUserId then .raise .accessDenied else return ()

def removeOrganizationMember (organizationId memberUserId requestingUserId : PyStr) :
    OrganizationM Bool := do
  match (← ask (.getUserOrganizationRole organizationId requestingUserId) : Option Member) with
  | none => .raise .accessDenied
  | some requesting =>
    match (← ask (.getUserOrganizationRole organizationId memberUserId) : Option Member) with
    | none => .raise .notFound
    | some target => do
      checkRemoval organizationId memberUserId requestingUserId requesting target
      let success ← (ask (.removeOrganizationMember organizationId memberUserId) :
        OrganizationM Bool)
      return success

def deleteOrganization (organizationId userId : PyStr) : OrganizationM Bool := do
  let isOwner ← checkOwnerAccess organizationId userId
  if isOwner = false then .raise .accessDenied
  else do
    match (← ask (.getOrganization organizationId) : Option Organization) with
    | none => .raise .notFound
    | some _ => do
      let success ← (ask (.deleteOrganization organizationId) : OrganizationM Bool)
      return success

/-- `OrganizationContextResponse`: of an organization, or of a person. -/
inductive Context where
  | organization (organizationId name : PyStr) (userRole : OrganizationRole)
      (permissions : List PyStr) (creditsAvailable : ℚ)
  | individual

def switchUserContext (userId : PyStr) (organizationId : Option PyStr) : OrganizationM Context :=
  match organizationId.filter (· ≠ []) with
  | none => return .individual
  | some organizationId => do
    match (← ask (.getUserOrganizationRole organizationId userId) : Option Member) with
    | none => .raise .accessDenied
    | some m =>
      if m.status ≠ .active then .raise .accessDenied
      else do
        match (← ask (.getOrganization organizationId) : Option Organization) with
        | none => .raise .notFound
        | some organization =>
          return .organization organizationId organization.name m.role m.permissions
            organization.creditsPool

/-! ### Requests -/

inductive Request where
  | addMember (organizationId : PyStr) (request : AddRequest) (requestingUserId : PyStr)
  | updateMember (organizationId memberUserId : PyStr) (request : MemberUpdates)
      (requestingUserId : PyStr)
  | removeMember (organizationId memberUserId requestingUserId : PyStr)
  | deleteOrganization (organizationId userId : PyStr)
  | checkUserAccess (organizationId userId : PyStr)
  | checkAdminAccess (organizationId userId : PyStr)
  | switchUserContext (userId : PyStr) (organizationId : Option PyStr)

inductive Response where
  | member (m : Member)
  | done (success : Bool)
  | access (granted : Bool)
  | context (c : Context)

def Request.serve : Request → OrganizationM Response
  | addMember organizationId request requestingUserId => do
    return .member (← addOrganizationMember organizationId request requestingUserId)
  | updateMember organizationId memberUserId request requestingUserId => do
    return .member (← updateOrganizationMember organizationId memberUserId request
      requestingUserId)
  | removeMember organizationId memberUserId requestingUserId => do
    return .done (← removeOrganizationMember organizationId memberUserId requestingUserId)
  | deleteOrganization organizationId userId => do
    return .done (← Organizations.deleteOrganization organizationId userId)
  | checkUserAccess organizationId userId => do
    return .access (← Organizations.checkUserAccess organizationId userId)
  | checkAdminAccess organizationId userId => do
    return .access (← Organizations.checkAdminAccess organizationId userId)
  | switchUserContext userId organizationId => do
    return .context (← Organizations.switchUserContext userId organizationId)

abbrev OrganizationPast := Past OrganizationApi OrganizationStore

abbrev OrganizationPool (ι : Type*) :=
  Pool OrganizationApi OrganizationError Response ι OrganizationStore

def OrganizationPool.start {ι : Type*} (requests : ι → Request) (s : OrganizationStore) :
    OrganizationPool ι :=
  Pool.start s fun i => (requests i).serve

abbrev OrganizationRun {ι : Type*} [DecidableEq ι] (A : OrganizationStore → Call → Prop) :
    OrganizationPool ι → OrganizationPool ι → Prop :=
  Pool.Reach execute (fun _ _ => False) fun _ _ => A

end IsaUser.Organizations
