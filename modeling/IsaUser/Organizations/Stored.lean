import IsaUser.Organizations.Powers

/-!
# What an Accepted Change Stores

A request that passes the checks of the service asks for a row: that of a new member, that of a
member with other columns, or that of a member who is removed. An update and a removal store it. An
addition never does, since the service passes the role on as a text and the repository asks the text
for its value.

## Main results

* `stored_iff`: an accepted change is stored just if it is no addition.
* `not_stored_added`: an owner adds a member, and nobody is added.
-/

open Option

namespace IsaUser.Organizations

open Prog

/-! ### The law -/

def Request.about : Request → Option (PyStr × PyStr)
  | addMember organizationId request _ => some (organizationId, request.userId)
  | updateMember organizationId memberUserId _ _ => some (organizationId, memberUserId)
  | removeMember organizationId memberUserId _ => some (organizationId, memberUserId)
  | deleteOrganization _ _ | checkUserAccess _ _ | checkAdminAccess _ _ | switchUserContext _ _ =>
    none

def Request.asksFor (old : Option Member) : Request → Option Member
  | addMember organizationId request _ =>
    some { organizationId, userId := request.userId, role := request.role
           permissions := request.permissions.getD [] }
  | updateMember _ _ request _ => old.map (·.update request)
  | removeMember _ _ _ => old.map (·.update MemberUpdates.removal)
  | deleteOrganization _ _ | checkUserAccess _ _ | checkAdminAccess _ _ | switchUserContext _ _ =>
    old

/-- An addition may be made: an owner or an admin asks for a role that they may assign, for a user
who is no member, or a former one. -/
structure OrganizationStore.MayAdd (s : OrganizationStore) (organizationId : PyStr)
    (request : AddRequest) (requestingUserId : PyStr) : Prop where
  given : request.userId ≠ []
  assigner : ∃ assigner ∈ s.member organizationId requestingUserId, assigner.status = .active ∧
    assigner.role ∈ [OrganizationRole.owner, .admin] ∧ canAssignOrgRole assigner.role request.role
  former : ∀ m ∈ s.member organizationId request.userId, m.status = .inactive

def IsAccepted (s : OrganizationStore) : Request → Prop
  | .addMember organizationId request requestingUserId =>
    s.MayAdd organizationId request requestingUserId
  | .updateMember organizationId memberUserId request requestingUserId =>
    s.MayUpdate organizationId memberUserId request requestingUserId
  | .removeMember organizationId memberUserId requestingUserId =>
    s.MayRemove organizationId memberUserId requestingUserId
  | .deleteOrganization _ _ | .checkUserAccess _ _ | .checkAdminAccess _ _
  | .switchUserContext _ _ => False

/-- A change succeeds, the row that it asks for is the one read afterwards, and every other row is
as it was. -/
structure IsStored (s : OrganizationStore) (r : Request) : Prop where
  succeeds : ∃ response, (r.serve.run execute s).1 = .ok response ∧ response ≠ .done false
  read : ∀ p ∈ r.about, (ask (.getUserOrganizationRole p.1 p.2) : OrganizationM (Option Member)).run
    execute (r.step s) = (.ok (r.asksFor (s.member p.1 p.2)), r.step s)
  others : ∀ p ∈ r.about, ∀ organizationId userId, (organizationId, userId) ≠ p →
    (r.step s).member organizationId userId = s.member organizationId userId

def Stores (s : OrganizationStore) (r : Request) : Prop := IsAccepted s r → IsStored s r

/-! ### The condition -/

def Request.IsAddition : Request → Prop
  | addMember _ _ _ => True
  | _ => False

section Stored

variable {s : OrganizationStore} {organizationId memberUserId requestingUserId : PyStr}
  {updates : MemberUpdates} {r : Request}

theorem isStored_of_update {response : Response} (hdone : response ≠ .done false)
    (habout : r.about = some (organizationId, memberUserId))
    (hasks : ∀ old, r.asksFor old = old.map (·.update updates))
    (hrun : r.serve.run execute s =
      (.ok response, s.updateMember organizationId memberUserId updates)) : IsStored s r := by
  have hstep : r.step s = s.updateMember organizationId memberUserId updates := by
    rw [Request.step, hrun]
  refine ⟨⟨response, by rw [hrun], hdone⟩, fun p hp => ?_, fun p hp id userId hne => ?_⟩
  · obtain rfl : (organizationId, memberUserId) = p := some.inj (habout.symm.trans hp)
    rw [hstep, hasks]
    exact run_role member_updateMember
  · obtain rfl : (organizationId, memberUserId) = p := some.inj (habout.symm.trans hp)
    rw [hstep, OrganizationStore.member, OrganizationStore.updateMember,
      Rows.get?_modify fun m => m.key_update updates, if_neg hne]
    rfl

theorem not_isStored_addMember {request : AddRequest} :
    ¬IsStored s (.addMember organizationId request requestingUserId) := by
  intro h
  obtain ⟨response, hok, -⟩ := h.succeeds
  obtain ⟨e, hrun⟩ := run_addOrganizationMember (s := s)
  rw [Request.serve, serve_of_error hrun] at hok
  cases hok

/-- **Accepted membership changes are stored**, just if they are no additions. -/
theorem stored_iff (s : OrganizationStore) (r : Request) :
    Stores s r ↔ ¬(IsAccepted s r ∧ r.IsAddition) := by
  cases r with
  | addMember organizationId request requestingUserId =>
    constructor
    · rintro h ⟨haccepted, -⟩
      exact not_isStored_addMember (h haccepted)
    · intro h haccepted
      exact absurd ⟨haccepted, trivial⟩ h
  | updateMember organizationId memberUserId request requestingUserId =>
    refine iff_of_true (fun haccepted => ?_) fun h => h.2
    obtain ⟨m, hrun⟩ := run_updateOrganizationMember_of_may haccepted
    have hdone : Response.member m ≠ .done false := nofun
    exact isStored_of_update hdone rfl (fun _ => rfl) (serve_of_run hrun)
  | removeMember organizationId memberUserId requestingUserId =>
    refine iff_of_true (fun haccepted => ?_) fun h => h.2
    exact isStored_of_update (by simp) rfl (fun _ => rfl)
      (serve_of_run (run_removeOrganizationMember_of_may haccepted))
  | deleteOrganization | checkUserAccess | checkAdminAccess | switchUserContext =>
    exact iff_of_true (fun h => h.elim) fun h => h.2

end Stored

/-! ### A member who is added -/

def addition : Request := .addMember ['o'] { userId := ['d'] } ['a']

/-- The owner may add a member, and nobody is added. -/
theorem not_stored_added : IsAccepted threeMembers addition ∧ ¬IsStored threeMembers addition := by
  refine ⟨⟨by decide, ⟨_, rfl, rfl, by decide, by decide⟩, ?_⟩, not_isStored_addMember⟩
  rintro m hm
  cases hm

end IsaUser.Organizations
