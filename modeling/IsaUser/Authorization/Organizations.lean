import IsaUser.Authorization.Handlers
import IsaUser.Lib.Runs

/-!
# Members and Organizations

A permission may come from an organization: its record then says which, but the row of the table
does not. So a removal revokes what comes from any organization, and, as the statement only looks
at the user and the resource, everything else that the user has on the same resource. And the
deletion of an organization revokes nothing.
-/

namespace IsaUser.Authorization

/-! ### Runs -/

/-- The store, and the organization in the record that each row was written from. -/
structure Registry where
  store : Store
  organizationIds : ℕ → Option PyStr

inductive Occurrence where
  | grant (now : Timestamp) (request : GrantPermissionRequest)
  | revoke (target : Target)
  | memberAdded (organizationId userId addedBy : Option PyStr) (rows : List OrganizationRow)
  | memberRemoved (organizationId userId : Option PyStr)
  | organizationDeleted (organizationId : Option PyStr)

/-- An occurrence, and which rows the database picks meanwhile. -/
structure Delivery where
  occurrence : Occurrence
  picks : ℕ → ℕ := fun _ => 0

def Occurrence.organizationId : Occurrence → Option PyStr
  | grant _ request => request.organizationId
  | memberAdded organizationId _ _ _ => given organizationId
  | _ => none

def Registry.ready (r : Registry) (delivery : Delivery) : Store :=
  { r.store with weather := fun n => ⟨.up, delivery.picks n⟩ }

namespace AuthorizationService

variable (service : AuthorizationService)

def handleOccurrence (s : Store) : Occurrence → Store
  | .grant now request =>
    ((service.grantResourcePermission now request).run service.redis.handle s).2
  | .revoke target => ((service.revokeResourcePermission target).run service.redis.handle s).2
  | .memberAdded organizationId userId addedBy rows =>
    ((handleOrgMemberAdded organizationId userId addedBy rows).run service.redis.handle s).2
  | .memberRemoved organizationId userId =>
    ((handleOrgMemberRemoved organizationId userId).run service.redis.handle s).2
  | .organizationDeleted organizationId =>
    ((handleOrganizationDeleted organizationId).run service.redis.handle s).2

def deliver (r : Registry) (delivery : Delivery) : Registry where
  store := service.handleOccurrence (r.ready delivery) delivery.occurrence
  organizationIds id :=
    if id < r.store.permissions.size then r.organizationIds id
    else delivery.occurrence.organizationId

end AuthorizationService

/-! ### The law -/

def Registry.CameFrom (r : Registry) (organizationId : PyStr) (id : ℕ) (row : PermissionRow) :
    Prop :=
  row.permissionSource = .organization ∧ r.organizationIds id = some organizationId

structure RevokesExactly (came : Registry → ℕ → PermissionRow → Prop) (r r' : Registry) :
    Prop where
  /-- What came from there is not active. -/
  gone : ∀ id row, r'.store.permissions.get? id = some row → row.isActive → ¬came r' id row
  /-- What did not is unchanged. -/
  kept : ∀ id row, r.store.permissions.get? id = some row → row.isActive → ¬came r id row →
    r'.store.permissions.get? id = some row

/-- **The law** for a step: a removal revokes exactly the user's permissions that came from the
organization, and a deletion exactly those of all users. -/
def FollowsOrganization (service : AuthorizationService) (r : Registry) (delivery : Delivery) :
    Prop :=
  match delivery.occurrence with
  | .memberRemoved organizationId userId => ∀ org ∈ given organizationId, ∀ user ∈ given userId,
      RevokesExactly (fun r id row => row.target.userId = user ∧ r.CameFrom org id row) r
        (service.deliver r delivery)
  | .organizationDeleted organizationId => ∀ org ∈ given organizationId,
      RevokesExactly (fun r id row => r.CameFrom org id row) r (service.deliver r delivery)
  | _ => True

def OnlyOwn (r : Registry) (delivery : Delivery) : Prop :=
  match delivery.occurrence with
  | .memberRemoved organizationId userId => ∀ org ∈ given organizationId, ∀ user ∈ given userId,
      ∀ id row, r.store.permissions.get? id = some row → row.isActive →
        row.target ∈ r.store.organizationTargets user → r.CameFrom org id row
  | .organizationDeleted organizationId => ∀ org ∈ given organizationId,
      ∀ id row, r.store.permissions.get? id = some row → row.isActive → ¬r.CameFrom org id row
  | _ => True

section Proofs

variable {service : AuthorizationService} {r : Registry} {delivery : Delivery}
  {organizationId userId : Option PyStr} {picks : ℕ → ℕ} {org user : PyStr}

/-! ### Removals -/

theorem mem_organizationTargets {s : Store} {target : Target} :
    target ∈ s.organizationTargets user ↔ ∃ id row, s.permissions.get? id = some row ∧
      row.isActive = true ∧ row.target = target ∧ target.userId = user ∧
        row.permissionSource = .organization := by
  simp only [Store.organizationTargets, List.mem_map, List.mem_filter, Table.mem_select,
    decide_eq_true_eq]
  constructor
  · rintro ⟨row, ⟨⟨hget, hactive, huser⟩, hsource⟩, rfl⟩
    exact ⟨row.id, row.val, hget, hactive, rfl, huser, hsource⟩
  · rintro ⟨id, row, hget, hactive, rfl, huser, hsource⟩
    exact ⟨⟨id, row⟩, ⟨⟨hget, hactive, huser⟩, hsource⟩, rfl⟩

/-- **What a removal does to a row.** -/
theorem get?_memberRemoved (service : AuthorizationService) (r : Registry) (picks : ℕ → ℕ)
    (horg : given organizationId = some org) (huser : given userId = some user) (id : ℕ) :
    (service.deliver r ⟨.memberRemoved organizationId userId, picks⟩).store.permissions.get? id =
      (r.store.permissions.get? id).map
        (PermissionRow.revokeAll (r.store.organizationTargets user)) := by
  have hanswered : (r.ready ⟨.memberRemoved organizationId userId, picks⟩).Answered := fun _ => rfl
  obtain ⟨-, hpermissions⟩ := handleOrgMemberRemoved_inTurn service.redis horg huser hanswered
  exact (congrArg (fun t => Table.get? t id) hpermissions).trans (Table.get?_map _ _ _)

theorem cameFrom_deliver {id : ℕ} {row row' : PermissionRow}
    (hrow : r.store.permissions.get? id = some row) :
    (service.deliver r delivery).CameFrom org id row' ↔ r.CameFrom org id row' := by
  have hid : (service.deliver r delivery).organizationIds id = r.organizationIds id :=
    if_pos (Table.lt_size_of_get? hrow)
  rw [Registry.CameFrom, Registry.CameFrom, hid]

theorem revokesExactly_memberRemoved (horg : given organizationId = some org)
    (huser : given userId = some user) :
    RevokesExactly (fun r id row => row.target.userId = user ∧ r.CameFrom org id row) r
        (service.deliver r ⟨.memberRemoved organizationId userId, picks⟩) ↔
      ∀ id row, r.store.permissions.get? id = some row → row.isActive →
        row.target ∈ r.store.organizationTargets user → r.CameFrom org id row := by
  have hafter := get?_memberRemoved service r picks horg huser
  constructor
  · intro h id row hrow hactive hmem
    by_contra hother
    have hkept := h.kept id row hrow hactive fun hcame => hother hcame.2
    rw [hafter, hrow, Option.map_some, PermissionRow.revokeAll, if_pos hmem] at hkept
    have hinactive := congrArg PermissionRow.isActive (Option.some.inj hkept)
    rw [hactive] at hinactive
    cases hinactive
  · intro h
    constructor
    · rintro id row hrow hactive ⟨hown, hcame⟩
      rw [hafter] at hrow
      obtain ⟨before, hbefore, rfl⟩ := Option.map_eq_some_iff.mp hrow
      by_cases hmem : before.target ∈ r.store.organizationTargets user
      · rw [PermissionRow.revokeAll, if_pos hmem] at hactive
        cases hactive
      · rw [PermissionRow.revokeAll, if_neg hmem] at hactive hown hcame
        exact hmem (mem_organizationTargets.mpr ⟨id, before, hbefore, hactive, rfl, hown, hcame.1⟩)
    · intro id row hrow hactive hnot
      have hmem : row.target ∉ r.store.organizationTargets user := by
        intro hmem
        obtain ⟨-, -, -, -, -, hown, -⟩ := mem_organizationTargets.mp hmem
        exact hnot ⟨hown, h id row hrow hactive hmem⟩
      rw [hafter, hrow, Option.map_some, PermissionRow.revokeAll, if_neg hmem]

/-! ### Deletions -/

theorem store_organizationDeleted :
    (service.deliver r ⟨.organizationDeleted organizationId, picks⟩).store =
      r.ready ⟨.organizationDeleted organizationId, picks⟩ := by
  simp only [AuthorizationService.deliver, AuthorizationService.handleOccurrence,
    handleOrganizationDeleted]
  cases given organizationId with
  | none => rfl
  | some org => rfl

theorem revokesExactly_organizationDeleted :
    RevokesExactly (fun r id row => r.CameFrom org id row) r
        (service.deliver r ⟨.organizationDeleted organizationId, picks⟩) ↔
      ∀ id row, r.store.permissions.get? id = some row → row.isActive →
        ¬r.CameFrom org id row := by
  have hsame : (service.deliver r ⟨.organizationDeleted organizationId, picks⟩).store.permissions =
      r.store.permissions := by
    rw [store_organizationDeleted]
    rfl
  constructor
  · intro h id row hrow hactive hcame
    exact h.gone id row (by rw [hsame, hrow]) hactive ((cameFrom_deliver hrow).mpr hcame)
  · intro h
    constructor
    · intro id row hrow hactive hcame
      rw [hsame] at hrow
      exact h id row hrow hactive ((cameFrom_deliver hrow).mp hcame)
    · intro id row hrow _ _
      rw [hsame, hrow]

/-! ### Runs -/

theorem followsOrganization_iff :
    FollowsOrganization service r delivery ↔ OnlyOwn r delivery := by
  obtain ⟨occurrence, picks⟩ := delivery
  cases occurrence with
  | memberRemoved organizationId userId =>
    exact forall₂_congr fun org horg => forall₂_congr fun user huser =>
      revokesExactly_memberRemoved horg huser
  | organizationDeleted organizationId =>
    exact forall₂_congr fun org _ => revokesExactly_organizationDeleted
  | _ => exact Iff.rfl

end Proofs

/-! ### An admin grant that is lost -/

def Registry.start : Registry := ⟨⟨Table.empty, ∅, fun _ => {}⟩, fun _ => none⟩

def memberAdded : Delivery :=
  { occurrence := .memberAdded (some "acme".toList) (some "u".toList) (some "system".toList)
      [⟨.database, "t".toList, .readOnly, some "startup".toList⟩] }

def adminGrant : Delivery :=
  { occurrence := .grant 0
      { target := plainRequest.target, accessLevel := .owner, permissionSource := .adminGrant } }

def memberRemoved : Delivery :=
  { occurrence := .memberRemoved (some "acme".toList) (some "u".toList) }

def organizationDeleted : Delivery := { occurrence := .organizationDeleted (some "acme".toList) }

/-- **The permission that stays**: the deletion of the organization revokes nothing. -/
theorem not_revokesExactly_deleted :
    ¬AllSteps plainService.deliver (FollowsOrganization plainService) Registry.start
      [memberAdded, organizationDeleted] := by
  rintro ⟨-, h, -⟩
  refine (h "acme".toList rfl).gone 0
    ⟨plainRequest.target, .readOnly, .organization, some "system".toList, true⟩
    (by decide +kernel) rfl ⟨rfl, ?_⟩
  decide +kernel

end IsaUser.Authorization
