import IsaUser.Lib.Json
import IsaUser.Lib.Table

/-!
# Permissions and Decisions

The authorization service keeps permissions in one table and decides, from a permission that
the user has, from the organization and from the subscription, whether a user may access a
resource (`authorization_service.py`, `_check_resource_access_uncached`). What the other
services and the configuration say is the `Surroundings` of the decision; the permission of the
user is read twice, so the decision is a function of both readings.
-/

open Option

namespace IsaUser.Authorization

/-! ### Enumerations -/

inductive ResourceType where
  | mcpTool
  | prompt
  | resource
  | apiEndpoint
  | database
  | fileStorage
  | compute
  | aiModel
  deriving DecidableEq, Repr

def ResourceType.value : ResourceType → String
  | mcpTool => "mcp_tool"
  | prompt => "prompt"
  | resource => "resource"
  | apiEndpoint => "api_endpoint"
  | database => "database"
  | fileStorage => "file_storage"
  | compute => "compute"
  | aiModel => "ai_model"

inductive AccessLevel where
  | none
  | readOnly
  | readWrite
  | admin
  | owner
  deriving DecidableEq, Repr

def AccessLevel.value : AccessLevel → String
  | none => "none"
  | readOnly => "read_only"
  | readWrite => "read_write"
  | admin => "admin"
  | owner => "owner"

/-- `access_level_hierarchy`. -/
def AccessLevel.priority : AccessLevel → ℕ
  | none => 0
  | readOnly => 1
  | readWrite => 2
  | admin => 3
  | owner => 4

inductive PermissionSource where
  | subscription
  | organization
  | adminGrant
  | systemDefault
  deriving DecidableEq, Repr

inductive SubscriptionTier where
  | free
  | pro
  | enterprise
  | custom
  deriving DecidableEq, Repr

def SubscriptionTier.value : SubscriptionTier → String
  | free => "free"
  | pro => "pro"
  | enterprise => "enterprise"
  | custom => "custom"

/-- `subscription_hierarchy`. -/
def SubscriptionTier.priority : SubscriptionTier → ℕ
  | free => 0
  | pro => 1
  | enterprise => 2
  | custom => 3

/-- The tier of a subscription status; a status that is none is `FREE`. -/
def SubscriptionTier.ofStatus (status : PyStr) : SubscriptionTier :=
  if status = "pro".toList then pro
  else if status = "enterprise".toList then enterprise
  else if status = "custom".toList then custom
  else free

/-! ### Permissions -/

/-- A user and a resource: what a permission is about. -/
structure Target where
  userId : PyStr
  resourceType : ResourceType
  resourceName : PyStr
  deriving DecidableEq

/-- A row of `authz.permissions` of type `user_permission`. -/
structure PermissionRow where
  target : Target
  accessLevel : AccessLevel
  permissionSource : PermissionSource
  grantedBy : Option PyStr
  isActive : Bool
  deriving DecidableEq

structure UserPermissionRecord where
  target : Target
  accessLevel : AccessLevel
  permissionSource : PermissionSource
  grantedByUserId : Option PyStr := none
  organizationId : Option PyStr := none
  expiresAt : Option Timestamp := none
  isActive : Bool := true
  deriving DecidableEq

/-- The row that `grant_user_permission` inserts. -/
def UserPermissionRecord.row (record : UserPermissionRecord) : PermissionRow :=
  { target := record.target, accessLevel := record.accessLevel
    permissionSource := record.permissionSource, grantedBy := record.grantedByUserId
    isActive := record.isActive }

/-- The record that `get_user_permission` reads a row as. -/
def PermissionRow.record (row : PermissionRow) : UserPermissionRecord :=
  { target := row.target, accessLevel := row.accessLevel
    permissionSource := row.permissionSource, grantedByUserId := row.grantedBy
    organizationId := none, expiresAt := none, isActive := row.isActive }

/-! ### What a decision depends on -/

structure ResourceAccessRequest where
  userId : PyStr
  resourceType : ResourceType
  resourceName : PyStr
  requiredAccessLevel : AccessLevel := .readOnly
  organizationId : Option PyStr := none
  context : Option JsonDict := none

def ResourceAccessRequest.target (request : ResourceAccessRequest) : Target :=
  ⟨request.userId, request.resourceType, request.resourceName⟩

/-- What a request asks, without its context, which no decision looks at. -/
def ResourceAccessRequest.question (request : ResourceAccessRequest) : ResourceAccessRequest :=
  { request with context := none }

/-- `ExternalServiceUser`. -/
structure UserInfo where
  subscriptionStatus : PyStr
  isActive : Bool
  organizationId : Option PyStr

/-- `ExternalServiceOrganization`. -/
structure OrganizationInfo where
  plan : PyStr
  isActive : Bool

structure OrganizationPermission where
  accessLevel : AccessLevel
  orgPlanRequired : PyStr

structure ResourcePermission where
  subscriptionTierRequired : SubscriptionTier
  accessLevel : AccessLevel
  resourceCategory : Option PyStr

/-- What the account service, the organization service and the configured permissions say. -/
structure Surroundings where
  getUserInfo : PyStr → Option UserInfo
  isUserOrganizationMember : PyStr → PyStr → Bool
  getOrganizationInfo : PyStr → Option OrganizationInfo
  getOrganizationPermission : PyStr → ResourceType → PyStr → Option OrganizationPermission
  getResourcePermission : ResourceType → PyStr → Option ResourcePermission

/-! ### Decisions -/

structure ResourceAccessResponse where
  hasAccess : Bool
  userAccessLevel : AccessLevel
  permissionSource : PermissionSource
  subscriptionTier : Option PyStr := none
  organizationPlan : Option PyStr := none
  reason : String
  expiresAt : Option Timestamp := none
  metadata : Option JsonDict := none

def ResourceAccessResponse.isError (response : ResourceAccessResponse) : Bool :=
  response.metadata.any fun metadata => (metadata.get? "error").isSome

def ResourceAccessResponse.decision (response : ResourceAccessResponse) : Bool × AccessLevel :=
  (response.hasAccess, response.userAccessLevel)

def jsonText : Option PyStr → Json
  | none => .null
  | some s => .str s

def hasSufficientAccess (userLevel requiredLevel : AccessLevel) : Bool :=
  requiredLevel.priority ≤ userLevel.priority

def subscriptionTierSufficient (userTier requiredTier : SubscriptionTier) : Bool :=
  requiredTier.priority ≤ userTier.priority

/-- `plan_hierarchy`, of a plan in lower case. -/
def planPriority (plan : PyStr) (default : ℤ) : ℤ :=
  let plan := plan.map Char.toLower
  if plan = "startup".toList then 0
  else if plan = "growth".toList then 1
  else if plan = "enterprise".toList then 2
  else if plan = "custom".toList then 3
  else default

def organizationPlanSufficient (orgPlan requiredPlan : PyStr) : Bool :=
  planPriority requiredPlan 999 ≤ planPriority orgPlan (-1)

namespace Surroundings

variable (s : Surroundings)

def checkOrganizationAccess (userId organizationId : PyStr) (resourceType : ResourceType)
    (resourceName : PyStr) (requiredLevel : AccessLevel) : ResourceAccessResponse :=
  let denied (plan : Option PyStr) (reason : String) : ResourceAccessResponse :=
    { hasAccess := false, userAccessLevel := .none, permissionSource := .organization
      organizationPlan := plan, reason }
  if ¬s.isUserOrganizationMember userId organizationId then
    denied none "User is not a member of the organization"
  else
    match s.getOrganizationInfo organizationId with
    | none => denied none "Organization not found or inactive"
    | some info =>
      if ¬info.isActive then denied none "Organization not found or inactive"
      else
        let insufficient := denied (some info.plan)
          "Organization does not have sufficient permissions for this resource"
        match s.getOrganizationPermission organizationId resourceType resourceName with
        | none => insufficient
        | some permission =>
          if organizationPlanSufficient info.plan permission.orgPlanRequired ∧
              hasSufficientAccess permission.accessLevel requiredLevel then
            { hasAccess := true, userAccessLevel := permission.accessLevel
              permissionSource := .organization, organizationPlan := some info.plan
              reason := "Organization permission: " ++ permission.accessLevel.value
              metadata := some [("organization_id", .str organizationId),
                ("org_plan", .str info.plan),
                ("plan_required", .str permission.orgPlanRequired)] }
          else insufficient

def checkSubscriptionAccess (subscriptionStatus : PyStr) (resourceType : ResourceType)
    (resourceName : PyStr) (requiredLevel : AccessLevel) : ResourceAccessResponse :=
  let denied (reason : String) : ResourceAccessResponse :=
    { hasAccess := false, userAccessLevel := .none, permissionSource := .subscription
      subscriptionTier := some subscriptionStatus, reason }
  match s.getResourcePermission resourceType resourceName with
  | none => denied "Resource not configured for subscription access"
  | some permission =>
    if subscriptionTierSufficient (.ofStatus subscriptionStatus)
          permission.subscriptionTierRequired ∧
        hasSufficientAccess permission.accessLevel requiredLevel then
      { hasAccess := true, userAccessLevel := permission.accessLevel
        permissionSource := .subscription, subscriptionTier := some subscriptionStatus
        reason := "Subscription access: " ++ permission.accessLevel.value
        metadata := some
          [("subscription_required", .str permission.subscriptionTierRequired.value.toList),
            ("resource_category", jsonText permission.resourceCategory)] }
    else
      denied ("Subscription tier '" ++ subscriptionStatus.text ++ "' insufficient, requires '" ++
        permission.subscriptionTierRequired.value ++ "'")

variable (request : ResourceAccessRequest) (userInfo : UserInfo)

def adminAccess (permission : Option (Row UserPermissionRecord)) :
    Option ResourceAccessResponse := do
  let permission ← permission
  if permission.val.permissionSource = .adminGrant ∧
      hasSufficientAccess permission.val.accessLevel request.requiredAccessLevel then
    some
      { hasAccess := true, userAccessLevel := permission.val.accessLevel
        permissionSource := .adminGrant, subscriptionTier := some userInfo.subscriptionStatus
        reason := "Admin-granted permission: " ++ permission.val.accessLevel.value
        expiresAt := permission.val.expiresAt
        metadata := some [("granted_by", jsonText permission.val.grantedByUserId)] }
  else none

def organizationAccess : Option ResourceAccessResponse := do
  let organizationId ← given request.organizationId <|> given userInfo.organizationId
  let access := s.checkOrganizationAccess request.userId organizationId request.resourceType
    request.resourceName request.requiredAccessLevel
  if access.hasAccess then some access else none

def subscriptionAccess : Option ResourceAccessResponse :=
  let access := s.checkSubscriptionAccess userInfo.subscriptionStatus request.resourceType
    request.resourceName request.requiredAccessLevel
  if access.hasAccess then some access else none

def userAccess (permission : Option (Row UserPermissionRecord)) :
    Option ResourceAccessResponse := do
  let permission ← permission
  if permission.val.permissionSource ≠ .adminGrant ∧
      hasSufficientAccess permission.val.accessLevel request.requiredAccessLevel then
    some
      { hasAccess := true, userAccessLevel := permission.val.accessLevel
        permissionSource := permission.val.permissionSource
        subscriptionTier := some userInfo.subscriptionStatus
        reason := "User permission: " ++ permission.val.accessLevel.value
        expiresAt := permission.val.expiresAt
        metadata := some [("permission_id", .str (Nat.repr permission.id).toList)] }
  else none

def userNotFound : ResourceAccessResponse :=
  { hasAccess := false, userAccessLevel := .none, permissionSource := .systemDefault
    reason := "User not found or inactive"
    metadata := some [("user_id", .str request.userId)] }

def accessDenied : ResourceAccessResponse :=
  { hasAccess := false, userAccessLevel := .none, permissionSource := .systemDefault
    subscriptionTier := some userInfo.subscriptionStatus
    reason := "Insufficient permissions for " ++ request.resourceType.value ++ ":" ++
      request.resourceName.text ++ ", required: " ++ request.requiredAccessLevel.value
    metadata := some [("required_level", .str request.requiredAccessLevel.value.toList)] }

def activeUser (userId : PyStr) : Option UserInfo :=
  (s.getUserInfo userId).filter UserInfo.isActive

/-- **The decision**, as a function of the two readings of the user's permission. -/
def resolve (first second : Option (Row UserPermissionRecord)) : ResourceAccessResponse :=
  match s.activeUser request.userId with
  | none => userNotFound request
  | some userInfo =>
    (adminAccess request userInfo first <|> s.organizationAccess request userInfo <|>
      s.subscriptionAccess request userInfo <|> userAccess request userInfo second).getD
        (accessDenied request userInfo)

section Resolve

variable {s request userInfo} {first second : Option (Row UserPermissionRecord)}

theorem resolve_of_notFound (huser : s.activeUser request.userId = none) :
    s.resolve request first second = userNotFound request := by
  rw [resolve, huser]

theorem resolve_of_user (huser : s.activeUser request.userId = some userInfo) :
    s.resolve request first second =
      ((adminAccess request userInfo first <|> s.organizationAccess request userInfo <|>
        s.subscriptionAccess request userInfo) <|> userAccess request userInfo second).getD
          (accessDenied request userInfo) := by
  simp only [resolve, huser]
  cases adminAccess request userInfo first with
  | some response => rfl
  | none => cases s.organizationAccess request userInfo <;> rfl

theorem resolve_of_some (huser : s.activeUser request.userId = some userInfo)
    {response : ResourceAccessResponse}
    (h : (adminAccess request userInfo first <|> s.organizationAccess request userInfo <|>
      s.subscriptionAccess request userInfo) = some response) :
    s.resolve request first second = response := by
  rw [resolve_of_user huser, h]
  rfl

theorem resolve_of_none (huser : s.activeUser request.userId = some userInfo)
    (h : (adminAccess request userInfo first <|> s.organizationAccess request userInfo <|>
      s.subscriptionAccess request userInfo) = none) :
    s.resolve request first second =
      (userAccess request userInfo second).getD (accessDenied request userInfo) := by
  rw [resolve_of_user huser, h]
  rfl

def worth (permission : Option (Row UserPermissionRecord)) :
    Option (PermissionSource × AccessLevel) :=
  permission.map fun permission => (permission.val.permissionSource, permission.val.accessLevel)

variable {first' second' : Option (Row UserPermissionRecord)}

theorem access_congr {f : Option (Row UserPermissionRecord) → Option ResourceAccessResponse}
    (h : worth first = worth first')
    (hsome : ∀ p p' : Row UserPermissionRecord, p.val.permissionSource = p'.val.permissionSource →
      p.val.accessLevel = p'.val.accessLevel →
      (f (some p)).map ResourceAccessResponse.decision =
        (f (some p')).map ResourceAccessResponse.decision) :
    (f first).map ResourceAccessResponse.decision =
      (f first').map ResourceAccessResponse.decision := by
  rcases first with _ | permission <;> rcases first' with _ | permission'
  · rfl
  · cases h
  · cases h
  · obtain ⟨hsource, hlevel⟩ := Prod.mk.inj (some.inj h)
    exact hsome _ _ hsource hlevel

theorem adminAccess_congr (h : worth first = worth first') :
    (adminAccess request userInfo first).map ResourceAccessResponse.decision =
      (adminAccess request userInfo first').map ResourceAccessResponse.decision := by
  refine access_congr h fun p p' hsource hlevel => ?_
  simp only [adminAccess, bind_eq_bind, bind_some, hsource, hlevel]
  split <;> rfl

theorem userAccess_congr (h : worth second = worth second') :
    (userAccess request userInfo second).map ResourceAccessResponse.decision =
      (userAccess request userInfo second').map ResourceAccessResponse.decision := by
  refine access_congr h fun p p' hsource hlevel => ?_
  simp only [userAccess, bind_eq_bind, bind_some, hsource, hlevel]
  split <;> rfl

theorem resolve_congr (hfirst : worth first = worth first')
    (hsecond : worth second = worth second') :
    (s.resolve request first second).decision = (s.resolve request first' second').decision := by
  cases huser : s.activeUser request.userId with
  | none => rw [resolve_of_notFound huser, resolve_of_notFound huser]
  | some userInfo =>
    have hgetD : ∀ (x x' : Option ResourceAccessResponse) (d : ResourceAccessResponse),
        x.map ResourceAccessResponse.decision = x'.map ResourceAccessResponse.decision →
        (x.getD d).decision = (x'.getD d).decision := by
      rintro (_ | x) (_ | x') d h
      · rfl
      · cases h
      · cases h
      · exact some.inj h
    rw [resolve_of_user huser, resolve_of_user huser]
    refine hgetD _ _ _ ?_
    simp only [orElse_eq_orElse, orElse_eq_or, map_or]
    rw [adminAccess_congr hfirst, userAccess_congr hsecond]

end Resolve

end Surroundings

end IsaUser.Authorization
