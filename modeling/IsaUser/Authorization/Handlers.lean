import IsaUser.Authorization.InTurn

/-!
# Events of Organizations

The handlers of `organization.member_added`, `organization.member_removed` and
`organization.deleted` (`events/handlers.py`). A member that is added is granted the configured
permissions of the organization, and a member that is removed loses every permission whose source
is an organization. The handler of a deletion calls two methods that the repository does not have.
-/

namespace IsaUser.Authorization

/-! ### The handlers -/

/-- A configured permission of an organization, as a row of `authz.permissions`. -/
structure OrganizationRow where
  resourceType : ResourceType
  resourceName : PyStr
  accessLevel : AccessLevel
  subscriptionTierRequired : Option PyStr

/-- `list_organization_permissions`, when the query returns these rows: a single row without a
plan is not valid, and the list is empty. -/
def listOrganizationPermissions (rows : List OrganizationRow) : List OrganizationRow :=
  if rows.all fun row => row.subscriptionTierRequired.isSome then rows else []

def OrganizationRow.record (row : OrganizationRow) (organizationId userId : PyStr)
    (addedBy : Option PyStr) : UserPermissionRecord :=
  { target := ⟨userId, row.resourceType, row.resourceName⟩, accessLevel := row.accessLevel
    permissionSource := .organization, grantedByUserId := addedBy
    organizationId := some organizationId }

def grantOrganizationPermissions (organizationId userId : PyStr) (addedBy : Option PyStr) :
    List OrganizationRow → AuthM Unit
  | [] => return ()
  | row :: rows => do
    let record := row.record organizationId userId addedBy
    match ← getUserPermission record.target with
    | some _ => grantOrganizationPermissions organizationId userId addedBy rows
    | none =>
      let _ ← grantUserPermission record
      grantOrganizationPermissions organizationId userId addedBy rows

/-- `handle_org_member_added`, when the query for the permissions of the organization returns
these rows. -/
def handleOrgMemberAdded (organizationId userId addedBy : Option PyStr)
    (rows : List OrganizationRow) : AuthM Unit :=
  match given organizationId, given userId with
  | some organizationId, some userId =>
    grantOrganizationPermissions organizationId userId addedBy (listOrganizationPermissions rows)
  | _, _ => return ()

def revokeOrganizationSourced (userId : PyStr) : List (Row UserPermissionRecord) → AuthM Unit
  | [] => return ()
  | permission :: permissions => do
    if permission.val.permissionSource = .organization then
      let _ ← revokeUserPermission
        ⟨userId, permission.val.target.resourceType, permission.val.target.resourceName⟩
      revokeOrganizationSourced userId permissions
    else revokeOrganizationSourced userId permissions

def handleOrgMemberRemoved (organizationId userId : Option PyStr) : AuthM Unit :=
  match given organizationId, given userId with
  | some _, some userId => do
    let permissions ← listUserPermissions userId
    revokeOrganizationSourced userId permissions
  | _, _ => return ()

def missingMethod : AuthM ℕ := .raise .attributeError

/-- `handle_organization_deleted`. Neither `delete_organization_permissions` nor
`revoke_permissions_by_organization` is a method of the repository. -/
def handleOrganizationDeleted (organizationId : Option PyStr) : AuthM Unit :=
  match given organizationId with
  | some _ => do
    missingMethod.void.tryCatch fun _ => return ()
    missingMethod.void.tryCatch fun _ => return ()
  | none => return ()

/-! ### What the handlers do -/

def Store.organizationTargets (s : Store) (userId : PyStr) : List Target :=
  ((s.permissions.select fun row => row.isActive ∧ row.target.userId = userId).filter fun row =>
    row.val.permissionSource = .organization).map fun row => row.val.target

def PermissionRow.revokeAll (targets : List Target) (row : PermissionRow) : PermissionRow :=
  if row.target ∈ targets then { row with isActive := false } else row

section Proofs

variable {redis : Redis} {s : Store} {userId : PyStr}

theorem listUserPermissions_inTurn (userId : PyStr) (hs : s.Answered) :
    (listUserPermissions userId).wp redis.handle (fun r s' => r = .ok ((s.permissions.select
      fun row => row.isActive ∧ row.target.userId = userId).map readRecord) ∧ ReadOnly s s') s := by
  refine Prog.wp_tryCatch.mpr (Prog.wp_bind.mpr (wp_ask hs (fun _ => nofun) ?_))
  intro pick later hlater
  refine ⟨?_, hlater⟩
  rw [← hlater.permissions]
  rfl

theorem PermissionRow.revokeAll_nil (row : PermissionRow) : row.revokeAll [] = row :=
  if_neg List.not_mem_nil

theorem PermissionRow.revokeAll_cons (target : Target) (targets : List Target)
    (row : PermissionRow) : row.revokeAll (target :: targets) =
      (row.revoke target).revokeAll targets := by
  simp only [PermissionRow.revokeAll]
  by_cases htarget : row.target = target
  · simp [PermissionRow.revoke, htarget]
  · simp [PermissionRow.revoke, htarget]

theorem revokeOrganizationSourced_inTurn (permissions : List (Row PermissionRow))
    (huser : ∀ row ∈ permissions, row.val.target.userId = userId) (hs : s.Answered) :
    (revokeOrganizationSourced userId (permissions.map readRecord)).wp redis.handle (fun r s' =>
      r = .ok () ∧ s'.permissions = s.permissions.map (PermissionRow.revokeAll
        ((permissions.filter fun row => row.val.permissionSource = .organization).map
          fun row => row.val.target))) s := by
  induction permissions generalizing s with
  | nil => exact ⟨rfl, (Table.map_eq_self _ PermissionRow.revokeAll_nil).symm⟩
  | cons row permissions ih =>
    have hrest := fun r hr => huser r (List.mem_cons_of_mem row hr)
    have hown : (⟨userId, row.val.target.resourceType, row.val.target.resourceName⟩ : Target) =
        row.val.target := by
      rw [← huser row List.mem_cons_self]
    rw [List.map_cons, revokeOrganizationSourced, List.filter_cons]
    by_cases hsource : row.val.permissionSource = .organization
    · have hread : (readRecord row).val.permissionSource = .organization := hsource
      rw [if_pos hread, if_pos (decide_eq_true hsource)]
      refine Prog.wp_bind.mpr (Prog.wp_mono (revokeUserPermission_inTurn _ hs) ?_)
      rintro _ s₁ ⟨rfl, hs₁⟩
      refine Prog.wp_mono (ih hrest hs₁.answered) ?_
      rintro _ s₂ ⟨rfl, hs₂⟩
      refine ⟨rfl, ?_⟩
      rw [hs₂, hs₁.permissions, Store.revoke, Table.map_map]
      refine congrArg (Table.map s.permissions) (funext fun r => ?_)
      rw [List.map_cons, PermissionRow.revokeAll_cons, ← hown]
      rfl
    · have hread : (readRecord row).val.permissionSource ≠ .organization := hsource
      rw [if_neg hread, if_neg (by simpa using hsource)]
      exact ih hrest hs

/-- **What a removal does**: it deactivates the permissions about the targets that the user has
from an organization. -/
theorem handleOrgMemberRemoved_inTurn (redis : Redis) {organizationId user : Option PyStr}
    {org : PyStr} (horg : given organizationId = some org) (huser : given user = some userId)
    (hs : s.Answered) :
    (handleOrgMemberRemoved organizationId user).wp redis.handle (fun r s' => r = .ok () ∧
      s'.permissions = s.permissions.map
        (PermissionRow.revokeAll (s.organizationTargets userId))) s := by
  rw [handleOrgMemberRemoved, horg, huser]
  refine Prog.wp_bind.mpr (Prog.wp_mono (listUserPermissions_inTurn userId hs) ?_)
  rintro _ s₁ ⟨rfl, hs₁⟩
  have htargets : s.organizationTargets userId = s₁.organizationTargets userId := by
    rw [Store.organizationTargets, Store.organizationTargets, hs₁.permissions]
  rw [htargets, ← hs₁.permissions]
  refine revokeOrganizationSourced_inTurn _ (fun row hrow => ?_) hs₁.answered
  exact (of_decide_eq_true (Table.mem_select.mp hrow).2).2

end Proofs

end IsaUser.Authorization
