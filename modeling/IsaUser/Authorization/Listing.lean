import IsaUser.Authorization.Handlers

/-!
# What a User Can Access

`list_user_accessible_resources` lists the permissions that a user has, and the configured
permissions that the user's subscription is enough for. A configured permission is left out if
something of its name is listed already, of whatever type. The table has no unique keys, so there
may be several permissions about a resource.
-/

open List

namespace IsaUser.Authorization

/-! ### The method -/

/-- The resource type of a text: `ResourceType(text)`. -/
def ResourceType.ofValue? (text : PyStr) : Option ResourceType :=
  [mcpTool, prompt, resource, apiEndpoint, database, fileStorage, compute, aiModel].find? fun t =>
    t.value.toList = text

/-- A row of `authz.permissions` of type `resource_config`. -/
structure ResourceConfig where
  resourceType : ResourceType
  resourceName : PyStr
  permission : ResourcePermission
  isActive : Bool := true

def matchesType (filter : Option ResourceType) (t : ResourceType) : Bool :=
  filter.all fun t' => t = t'

def listResourcePermissions (configs : List ResourceConfig) (filter : Option ResourceType) :
    List ResourceConfig :=
  configs.filter fun c => c.isActive ∧ matchesType filter c.resourceType

def configsAbout (configs : List ResourceConfig) (t : ResourceType) (name : PyStr) :
    List ResourceConfig :=
  configs.filter fun c => c.isActive ∧ c.resourceType = t ∧ c.resourceName = name

/-- `get_resource_permission`, which returns any of them. -/
def getResourcePermission (configs : List ResourceConfig) (pick : ℕ) (t : ResourceType)
    (name : PyStr) : Option ResourcePermission :=
  ((configsAbout configs t name).rotate pick).head?.map ResourceConfig.permission

/-- `list_user_permissions`, of a type or of all. -/
def listUserPermissionsOf (userId : PyStr) (filter : Option ResourceType) :
    AuthM (List (Row UserPermissionRecord)) := do
  let permissions ← listUserPermissions userId
  return permissions.filter fun p => matchesType filter p.val.target.resourceType

structure AccessibleResource where
  resourceType : ResourceType
  resourceName : PyStr
  accessLevel : AccessLevel
  permissionSource : PermissionSource
  expiresAt : Option Timestamp := none
  organizationId : Option PyStr := none
  subscriptionRequired : Option SubscriptionTier := none
  resourceCategory : Option PyStr := none
  deriving DecidableEq

def UserPermissionRecord.resource (p : UserPermissionRecord) : AccessibleResource :=
  { resourceType := p.target.resourceType, resourceName := p.target.resourceName
    accessLevel := p.accessLevel, permissionSource := p.permissionSource
    expiresAt := p.expiresAt, organizationId := p.organizationId }

def ResourceConfig.resource (c : ResourceConfig) : AccessibleResource :=
  { resourceType := c.resourceType, resourceName := c.resourceName
    accessLevel := c.permission.accessLevel, permissionSource := .subscription
    subscriptionRequired := some c.permission.subscriptionTierRequired
    resourceCategory := c.permission.resourceCategory }

def ResourceConfig.Sufficient (tier : SubscriptionTier) (c : ResourceConfig) : Prop :=
  subscriptionTierSufficient tier c.permission.subscriptionTierRequired
  deriving Decidable

def addConfigured (tier : SubscriptionTier) (listed : List AccessibleResource) :
    List ResourceConfig → List AccessibleResource
  | [] => listed
  | c :: configs =>
    if listed.any fun r => r.resourceName = c.resourceName then
      addConfigured tier listed configs
    else if c.Sufficient tier then addConfigured tier (listed ++ [c.resource]) configs
    else addConfigured tier listed configs

def accessibleResources (service : AuthorizationService) (configs : List ResourceConfig)
    (userId : PyStr) (filter : Option ResourceType) : AuthM (List AccessibleResource) := do
  let permissions ← listUserPermissionsOf userId filter
  match service.surroundings.getUserInfo userId with
  | none => return []
  | some userInfo =>
    return addConfigured (.ofStatus userInfo.subscriptionStatus)
      (permissions.map fun p => p.val.resource) (listResourcePermissions configs filter)

def listUserAccessibleResources (service : AuthorizationService) (configs : List ResourceConfig)
    (userId : PyStr) (resourceType : Option PyStr) : AuthM (List AccessibleResource) :=
  match given resourceType with
  | none => accessibleResources service configs userId none
  | some text =>
    match ResourceType.ofValue? text with
    | none => return []
    | some t => accessibleResources service configs userId (some t)

theorem mem_addConfigured {tier : SubscriptionTier} {configs : List ResourceConfig}
    {listed : List AccessibleResource} {r : AccessibleResource} :
    r ∈ addConfigured tier listed configs ↔
      r ∈ listed ∨ (∀ r' ∈ listed, r'.resourceName ≠ r.resourceName) ∧
        ∃ c, configs.find? (fun c => c.resourceName = r.resourceName ∧ c.Sufficient tier) =
          some c ∧ c.resource = r := by
  induction configs generalizing listed with
  | nil => simp [addConfigured]
  | cons c configs ih =>
    rw [addConfigured]
    split
    · next hany =>
        obtain ⟨r', hr', hname⟩ := any_eq_true.mp hany
        rw [ih]
        refine or_congr_right (and_congr_right fun hnew => ?_)
        have hne : c.resourceName ≠ r.resourceName := of_decide_eq_true hname ▸ hnew r' hr'
        rw [find?_cons_of_neg (by simp [hne])]
    · next hany =>
        have hnew : ∀ r' ∈ listed, r'.resourceName ≠ c.resourceName := by
          simpa using hany
        split
        · next hsufficient =>
            rw [ih]
            simp only [mem_append, mem_singleton, or_imp, forall_and, forall_eq,
              or_assoc]
            refine or_congr_right ?_
            by_cases hname : c.resourceName = r.resourceName
            · rw [find?_cons_of_pos (by simp [hname, hsufficient])]
              constructor
              · rintro (rfl | ⟨⟨-, h⟩, -⟩)
                · exact ⟨hnew, c, rfl, rfl⟩
                · exact absurd hname h
              · rintro ⟨-, _, ⟨⟩, rfl⟩
                exact .inl rfl
            · rw [find?_cons_of_neg (by simp [hname]), or_iff_right]
              · exact and_congr_left fun _ => and_iff_left hname
              · rintro rfl
                exact hname rfl
        · next hsufficient =>
            rw [ih, find?_cons_of_neg (by simp [hsufficient])]

/-! ### What is listed -/

/-- Which rows the database returns of several: for the calls to come, and for a configured
permission. -/
structure Choices where
  picks : ℕ → ℕ
  config : ResourceType → PyStr → ℕ

/-- A request of an active user without an organization: the account names none, and if the request
names one, then the user is not a member of it. -/
structure Inquiry where
  service : AuthorizationService
  configs : List ResourceConfig
  permissions : Table PermissionRow
  request : ResourceAccessRequest
  userInfo : UserInfo
  active : service.surroundings.activeUser request.userId = some userInfo
  noOrganization : given userInfo.organizationId = none
  notMember : ∀ organizationId ∈ given request.organizationId,
    service.surroundings.isUserOrganizationMember request.userId organizationId = false

namespace Inquiry

variable (q : Inquiry)

def configured (choices : Choices) : AuthorizationService :=
  { q.service with
    surroundings :=
      { q.service.surroundings with
        getResourcePermission := fun t name =>
          getResourcePermission q.configs (choices.config t name) t name } }

def store (choices : Choices) : Store :=
  { permissions := q.permissions, cache := ∅, weather := fun n => ⟨.up, choices.picks n⟩ }

def Listed (choices : Choices) (resourceType : Option PyStr) (level : AccessLevel) : Prop :=
  ∃ resources, ((listUserAccessibleResources (q.configured choices) q.configs q.request.userId
      resourceType).run q.service.redis.handle (q.store choices)).1 = .ok resources ∧
    ∃ r ∈ resources, r.resourceType = q.request.resourceType ∧
      r.resourceName = q.request.resourceName ∧ r.accessLevel = level

def tier : SubscriptionTier := .ofStatus q.userInfo.subscriptionStatus

def userRows : List (Row PermissionRow) :=
  q.permissions.select fun row => row.isActive ∧ row.target = q.request.target

def namedRows (filter : Option ResourceType) : List (Row PermissionRow) :=
  q.permissions.select fun row => row.isActive ∧ row.target.userId = q.request.userId ∧
    row.target.resourceName = q.request.resourceName ∧ matchesType filter row.target.resourceType

def configRows : List ResourceConfig :=
  configsAbout q.configs q.request.resourceType q.request.resourceName

def subscriptionRows : List ResourceConfig := q.configRows.filter (ResourceConfig.Sufficient q.tier)

def firstOfName (filter : Option ResourceType) : Option ResourceConfig :=
  (listResourcePermissions q.configs filter).find? fun c =>
    c.resourceName = q.request.resourceName ∧ c.Sufficient q.tier

variable {q} {choices : Choices} {level : AccessLevel}

theorem answered : (q.store choices).Answered := fun _ => rfl

theorem accessibleResources_wp (filter : Option ResourceType) :
    (accessibleResources (q.configured choices) q.configs q.request.userId filter).wp
      q.service.redis.handle (fun r _ => r = .ok (addConfigured q.tier
        (((q.permissions.select fun row => row.isActive ∧
          row.target.userId = q.request.userId).filter fun row =>
            matchesType filter row.val.target.resourceType).map fun row => row.val.record.resource)
        (listResourcePermissions q.configs filter))) (q.store choices) := by
  have hinfo : (q.configured choices).surroundings.getUserInfo q.request.userId = some q.userInfo :=
    (Option.filter_eq_some_iff.mp q.active).1
  refine Prog.wp_bind.mpr (Prog.wp_bind.mpr
    (Prog.wp_mono (listUserPermissions_inTurn q.request.userId answered) ?_))
  rintro _ s ⟨rfl, -⟩
  rw [hinfo]
  simp only [Prog.pure_eq, Prog.wp_ret, filter_map, map_map]
  rfl

theorem listUser_eq {filter : Option ResourceType}
    (hfilter : filter ∈ [none, some q.request.resourceType]) :
    listUserAccessibleResources (q.configured choices) q.configs q.request.userId
        (filter.map fun t => t.value.toList) =
      accessibleResources (q.configured choices) q.configs q.request.userId filter := by
  rcases mem_pair.mp hfilter with rfl | rfl
  · rfl
  · cases htype : q.request.resourceType <;> rfl

/-- **When a resource is listed**: with the level of a permission of the user; or, if the user has
none under its name, with that of the first configured permission of the name that the subscription
is enough for, if this one is about the resource. -/
theorem listed_iff {filter : Option ResourceType}
    (hfilter : filter ∈ [none, some q.request.resourceType]) :
    q.Listed choices (filter.map fun t => t.value.toList) level ↔
      (∃ row ∈ q.userRows, row.val.accessLevel = level) ∨
        q.namedRows filter = [] ∧ ∃ c ∈ q.firstOfName filter,
          c.resourceType = q.request.resourceType ∧ c.permission.accessLevel = level := by
  have hmatches : matchesType filter q.request.resourceType = true := by
    rcases mem_pair.mp hfilter with rfl | rfl
    · rfl
    · exact decide_eq_true rfl
  have hrun : ((accessibleResources _ q.configs q.request.userId filter).run q.service.redis.handle
      (q.store choices)).1 = _ := accessibleResources_wp filter
  rw [Listed, listUser_eq hfilter, hrun]
  simp only [Except.ok.injEq, exists_eq_left', mem_addConfigured, userRows, namedRows, firstOfName,
    eq_nil_iff_forall_not_mem, mem_map, mem_filter, Table.mem_select,
    decide_eq_true_eq, or_and_right, exists_or]
  refine or_congr ⟨?_, ?_⟩ ⟨?_, ?_⟩
  · rintro ⟨_, ⟨row, ⟨⟨hget, hactive, hown⟩, -⟩, rfl⟩, htype, hname, hlevel⟩
    exact ⟨row, ⟨hget, hactive, congr (congr (congrArg Target.mk hown) htype) hname⟩, hlevel⟩
  · rintro ⟨row, ⟨hget, hactive, htarget⟩, hlevel⟩
    have htype : row.val.target.resourceType = q.request.resourceType :=
      congrArg Target.resourceType htarget
    exact ⟨_, ⟨row, ⟨⟨hget, hactive, congrArg Target.userId htarget⟩, htype ▸ hmatches⟩, rfl⟩,
      htype, congrArg Target.resourceName htarget, hlevel⟩
  · rintro ⟨_, ⟨hnew, c, hc, rfl⟩, htype, hname, hlevel⟩
    have hname' : c.resourceName = q.request.resourceName := hname
    rw [← hname']
    refine ⟨?_, c, hc, htype, hlevel⟩
    rintro row ⟨hget, hactive, hown, hrow, hmatch⟩
    exact hnew _ ⟨row, ⟨⟨hget, hactive, hown⟩, hmatch⟩, rfl⟩ hrow
  · rintro ⟨hnone, c, hc, htype, hlevel⟩
    have hfound := find?_some hc
    have hname : c.resourceName = q.request.resourceName := (of_decide_eq_true hfound).1
    rw [← hname] at hc hnone
    refine ⟨c.resource, ⟨?_, c, hc, rfl⟩, htype, hname, hlevel⟩
    rintro _ ⟨row, ⟨⟨hget, hactive, hown⟩, hmatch⟩, rfl⟩ hrow
    exact hnone row ⟨hget, hactive, hown, hrow, hmatch⟩

end Inquiry

end IsaUser.Authorization
