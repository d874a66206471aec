import IsaUser.Invitations.Lifecycle

/-!
# A Live Invitation Cannot Be Used

What is read of an invitation keeps its times as datetimes, and the service reads them as texts. So
an invitation that is pending and has not expired is neither shown nor accepted.

## Main results

* `not_isUsable`: no invitation can be used, in any state.
* `not_isUsable_invited`: an email is invited, and the invitation cannot be used.
-/

open IsaUser.Prog

namespace IsaUser.Invitations

/-! ### The law -/

structure IsLive (m : Clocked InvitationStore) (row : Invitation) : Prop where
  mem : row ∈ m.store.invitations.rows
  pending : row.status = .pending
  unexpired : m.clock < row.expiresAt

/-- The token of an invitation shows it, and whoever accepts it is added with its role. -/
structure IsUsable (service : InvitationService) (m : Clocked InvitationStore) (row : Invitation) :
    Prop where
  shown : ∃ detail m', (getInvitationByToken service row.invitationToken).run handle m =
    (.ok (.ok detail), m') ∧ detail.organizationId = row.organizationId ∧
      detail.email = row.email ∧ detail.role = row.role ∧ detail.status = row.status
  accepted : ∀ userId, m.store.addStatus = 200 → ∃ m',
    (acceptInvitation service row.invitationToken userId).run handle m =
        (.ok (.accepted row.invitationId row.organizationId userId row.role), m') ∧
      ¬(acceptInvitation service row.invitationToken userId).Makes handle
        (∀ inviter, · ≠ .call (.addMember row.organizationId userId row.role inviter)) m

/-! ### Times that stay datetimes -/

section Datetimes

variable {service : InvitationService} {m : Clocked InvitationStore} {row : Invitation}

theorem not_shown (hfield : ∀ t, service.field t = .datetime t) (token : PyStr) :
    ¬∃ detail m', (getInvitationByToken service token).run handle m = (.ok (.ok detail), m') := by
  rintro ⟨detail, m', hrun⟩
  have hobeys : (getInvitationByToken service token).Obeys Meek _ :=
    getInvitationByToken_of_datetimes hfield
  have hfound := hobeys.run handle m
  rw [hrun] at hfound
  exact hfound detail rfl

theorem not_joins (hfield : ∀ t, service.field t = .datetime t) (token userId : PyStr)
    {organizationId : PyStr} {role : OrganizationRole} :
    (acceptInvitation service token userId).Makes handle
      (∀ inviter, · ≠ .call (.addMember organizationId userId role inviter)) m := by
  refine ((acceptInvitation_of_datetimes hfield).mono fun c hc => ?_).makes
  rintro inviter rfl
  exact hc

/-- **A live invitation can be used**: never, live or not, whatever has happened before. -/
theorem not_isUsable (service : InvitationService) (hfield : ∀ t, service.field t = .datetime t)
    (m : Clocked InvitationStore) (row : Invitation) :
    ¬IsUsable service m row ∧ ∀ userId, (acceptInvitation service row.invitationToken userId).Makes
      handle (∀ inviter, · ≠ .call (.addMember row.organizationId userId row.role inviter)) m := by
  refine ⟨fun h => ?_, fun userId => not_joins hfield _ userId⟩
  obtain ⟨detail, m', hrun, -⟩ := h.shown
  exact not_shown hfield _ ⟨detail, m', hrun⟩

end Datetimes

/-! ### An email that is invited -/

def invited : Except CallError Response × Clocked InvitationStore :=
  ((invite ['i']).serve datetimes).run handle noInvitations

def invitation : Invitation :=
  { invitationId := ['i'], organizationId := ['o'], email := ['e'], role := .member
    invitedBy := ['u'], invitationToken := ['i'], status := .pending, expiresAt := days 7
    createdAt := 0 }

/-- The invitation has just been created, and cannot be used. -/
theorem not_isUsable_invited : invited.1 = .ok (.created invitation) ∧
    IsLive invited.2 invitation ∧ invited.2.link = .up ∧ ¬IsUsable datetimes invited.2 invitation := by
  refine ⟨by decide +kernel, ⟨by decide +kernel, rfl, by decide +kernel⟩, by decide +kernel, ?_⟩
  intro h
  obtain ⟨detail, m', hrun, -⟩ := h.shown
  exact not_shown (fun _ => rfl) _ ⟨detail, m', hrun⟩

theorem not_isUsable_datetimes : ¬IsUsable datetimes invited.2 invitation :=
  (not_isUsable datetimes (fun _ => rfl) invited.2 invitation).1

end IsaUser.Invitations
