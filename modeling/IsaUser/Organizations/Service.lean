import IsaUser.Organizations.Model

/-!
# What Each Request Does

When a request runs alone, what it does is decided by the rows of who asks and of whom it is about.
Who asks for an update has to be active. Who asks for a removal does not, and nothing looks at the
status of the organization.

## Main results

* `run_updateOrganizationMember_of_may`, `run_removeOrganizationMember_of_may`: when a member is
  updated, and when one is removed.
* `run_checkUserAccess`, `run_checkAdminAccess`, `run_switchUserContext_of_may`: who is let through.
-/

open Option

namespace IsaUser.Organizations

open Prog

variable {s : OrganizationStore} {organizationId userId memberUserId requestingUserId : PyStr}
  {request : MemberUpdates}

/-! ### Who is let through -/

def OrganizationStore.IsActive (s : OrganizationStore) (organizationId userId : PyStr) : Prop :=
  ∃ m ∈ s.member organizationId userId, m.status = .active
  deriving Decidable

def OrganizationStore.IsAdmin (s : OrganizationStore) (organizationId userId : PyStr) : Prop :=
  ∃ m ∈ s.member organizationId userId,
    m.status = .active ∧ m.role ∈ [OrganizationRole.owner, .admin]
  deriving Decidable

theorem run_role {found : Option Member} (h : s.member organizationId userId = found) :
    run execute (ask (.getUserOrganizationRole organizationId userId) :
      OrganizationM (Option Member)) s = (.ok found, s) := by
  subst h
  rfl

theorem run_checkUserAccess : (checkUserAccess organizationId userId).run execute s =
    (.ok (decide (s.IsActive organizationId userId)), s) := by
  rw [checkUserAccess]
  cases hm : s.member organizationId userId with
  | none =>
    rw [run_bind_of_ok (run_role hm)]
    simp [OrganizationStore.IsActive, hm]
  | some m =>
    rw [run_bind_of_ok (run_role hm)]
    simp [OrganizationStore.IsActive, hm]

theorem run_checkAdminAccess : (checkAdminAccess organizationId userId).run execute s =
    (.ok (decide (s.IsAdmin organizationId userId)), s) := by
  rw [checkAdminAccess]
  cases hm : s.member organizationId userId with
  | none =>
    rw [run_bind_of_ok (run_role hm)]
    simp [OrganizationStore.IsAdmin, hm]
  | some m =>
    rw [run_bind_of_ok (run_role hm)]
    simp [OrganizationStore.IsAdmin, hm]

def OrganizationStore.MaySwitch (s : OrganizationStore) (organizationId userId : PyStr) : Prop :=
  s.IsActive organizationId userId ∧ (s.organizations organizationId).isSome

theorem run_organization {found : Option Organization}
    (h : s.organizations organizationId = found) :
    run execute (ask (.getOrganization organizationId) :
      OrganizationM (Option Organization)) s = (.ok found, s) := by
  subst h
  rfl

theorem run_switchUserContext_of_may (hid : organizationId ≠ [])
    (h : s.MaySwitch organizationId userId) : ∃ context,
      (switchUserContext userId (some organizationId)).run execute s = (.ok context, s) := by
  obtain ⟨⟨m, hm, hactive⟩, horganization⟩ := h
  obtain ⟨organization, horganization⟩ := isSome_iff_exists.mp horganization
  rw [switchUserContext, filter_some, if_pos (by simpa using hid)]
  rw [run_bind_of_ok (run_role hm)]
  dsimp only
  rw [if_neg (not_not.mpr hactive), run_bind_of_ok (run_organization horganization)]
  exact ⟨_, rfl⟩

theorem run_switchUserContext_of_not (hid : organizationId ≠ [])
    (h : ¬s.MaySwitch organizationId userId) : ∃ e,
      (switchUserContext userId (some organizationId)).run execute s = (.error e, s) := by
  rw [switchUserContext, filter_some, if_pos (by simpa using hid)]
  cases hm : s.member organizationId userId with
  | none =>
    rw [run_bind_of_ok (run_role hm)]
    exact ⟨.accessDenied, rfl⟩
  | some m =>
    rw [run_bind_of_ok (run_role hm)]
    dsimp only
    by_cases hactive : m.status = .active
    · have hgone : s.organizations organizationId = none := by
        rw [← not_isSome_iff_eq_none]
        exact fun horganization => h ⟨⟨m, hm, hactive⟩, horganization⟩
      rw [if_neg (not_not.mpr hactive), run_bind_of_ok (run_organization hgone)]
      exact ⟨.notFound, rfl⟩
    · rw [if_pos hactive]
      exact ⟨.accessDenied, rfl⟩

/-! ### Additions -/

theorem run_addOrganizationMember {request : AddRequest} : ∃ e,
    (addOrganizationMember organizationId request requestingUserId).run execute s =
      (.error e, s) := by
  rw [addOrganizationMember]
  cases hm : s.member organizationId requestingUserId with
  | none =>
    rw [run_bind_of_ok (run_role hm)]
    exact ⟨.accessDenied, rfl⟩
  | some assigner =>
    rw [run_bind_of_ok (run_role hm)]
    dsimp only
    split
    · exact ⟨.accessDenied, rfl⟩
    · split
      · exact ⟨.validation, rfl⟩
      · rw [enforceRoleAssignment]
        split
        · exact ⟨.accessDenied, rfl⟩
        · exact ⟨.service, rfl⟩

/-! ### Updates -/

structure UpdateAllowed (requesting target : Member) (request : MemberUpdates) : Prop where
  active : requesting.status = .active
  role : requesting.role ∈ [OrganizationRole.owner, .admin]
  target : requesting.role = .admin → target.role ∉ [OrganizationRole.owner, .admin]
  newRole : ∀ role ∈ request.role, canAssignOrgRole requesting.role role = true

def OrganizationStore.MayUpdate (s : OrganizationStore) (organizationId memberUserId : PyStr)
    (request : MemberUpdates) (requestingUserId : PyStr) : Prop :=
  ∃ requesting ∈ s.member organizationId requestingUserId,
    ∃ target ∈ s.member organizationId memberUserId, UpdateAllowed requesting target request

theorem member_updateMember {updates : MemberUpdates} :
    (s.updateMember organizationId memberUserId updates).member organizationId memberUserId =
      (s.member organizationId memberUserId).map (·.update updates) :=
  Rows.get?_modify_self fun m => m.key_update updates

theorem run_updateOrganizationMember_of_may
    (h : s.MayUpdate organizationId memberUserId request requestingUserId) : ∃ m,
      (updateOrganizationMember organizationId memberUserId request requestingUserId).run
          execute s =
        (.ok m, s.updateMember organizationId memberUserId request) := by
  obtain ⟨requesting, hrequesting, target, htarget, hallowed⟩ := h
  have hadmin : s.IsAdmin organizationId requestingUserId :=
    ⟨requesting, hrequesting, hallowed.active, hallowed.role⟩
  rw [updateOrganizationMember, run_bind_of_ok run_checkAdminAccess, decide_eq_true hadmin,
    if_neg Bool.noConfusion, run_bind_of_ok (run_role htarget)]
  rw [run_bind_of_ok (run_role hrequesting)]
  have htarget' : ¬(Option.map Member.role (some requesting) = some .admin ∧
      target.role ∈ [OrganizationRole.owner, .admin]) := by
    rintro ⟨hadmin, hmem⟩
    exact hallowed.target (some.inj hadmin) hmem
  have hupdated : (s.updateMember organizationId memberUserId request).member organizationId
      memberUserId = some (target.update request) := by
    rw [member_updateMember, show s.member organizationId memberUserId = some target from htarget]
    rfl
  have hupdate :
      run execute (ask (.updateOrganizationMember organizationId memberUserId request) :
        OrganizationM (Option Member)) s =
        (.ok (some (target.update request)),
          s.updateMember organizationId memberUserId request) := by
    rw [← hupdated]
    rfl
  rw [if_neg htarget']
  split
  · rw [run_bind_of_ok hupdate]
    exact ⟨_, rfl⟩
  · next newRole hnew =>
      rw [map_some, enforceRoleAssignment, hallowed.newRole newRole hnew,
        if_neg Bool.noConfusion]
      rw [pure_eq, ret_bind, run_bind_of_ok hupdate]
      exact ⟨_, rfl⟩

theorem run_updateOrganizationMember_of_not
    (h : ¬s.MayUpdate organizationId memberUserId request requestingUserId) : ∃ e,
      (updateOrganizationMember organizationId memberUserId request requestingUserId).run
          execute s =
        (.error e, s) := by
  rw [updateOrganizationMember, run_bind_of_ok run_checkAdminAccess]
  by_cases hadmin : s.IsAdmin organizationId requestingUserId
  · rw [decide_eq_true hadmin, if_neg Bool.noConfusion]
    obtain ⟨requesting, hrequesting, hactive, hrole⟩ := hadmin
    cases htarget : s.member organizationId memberUserId with
    | none =>
      rw [run_bind_of_ok (run_role htarget)]
      exact ⟨.notFound, rfl⟩
    | some target =>
      rw [run_bind_of_ok (run_role htarget)]
      dsimp only
      rw [run_bind_of_ok (run_role hrequesting)]
      split
      · exact ⟨.accessDenied, rfl⟩
      · next hhigher =>
          have hallowed : ∃ role ∈ request.role,
              canAssignOrgRole requesting.role role = false := by
            by_contra hnone
            refine h ⟨requesting, hrequesting, target, htarget, hactive, hrole, ?_, ?_⟩
            · exact fun hadmin hmem => hhigher ⟨congrArg some hadmin, hmem⟩
            · exact fun role hmem =>
                Bool.eq_true_of_not_eq_false fun hno => hnone ⟨role, hmem, hno⟩
          obtain ⟨role, hnew, hno⟩ := hallowed
          rw [show request.role = some role from hnew]
          dsimp only
          rw [map_some, enforceRoleAssignment, hno]
          exact ⟨.accessDenied, rfl⟩
  · rw [decide_eq_false hadmin]
    exact ⟨.accessDenied, rfl⟩

/-! ### Removals -/

def OrganizationStore.owners (s : OrganizationStore) (organizationId : PyStr) : List Member :=
  s.members.rows.filter fun m =>
    m.organizationId = organizationId ∧ m.role = .owner ∧ m.status = .active

def RemovalAllowed (s : OrganizationStore) (organizationId memberUserId requestingUserId : PyStr)
    (requesting target : Member) : Prop :=
  match requesting.role with
  | .admin => target.role ∉ [OrganizationRole.owner, .admin]
  | .owner => target.role = .owner → 1 < (s.owners organizationId).length
  | _ => requestingUserId = memberUserId

def OrganizationStore.MayRemove (s : OrganizationStore)
    (organizationId memberUserId requestingUserId : PyStr) : Prop :=
  ∃ requesting ∈ s.member organizationId requestingUserId,
    ∃ target ∈ s.member organizationId memberUserId,
      RemovalAllowed s organizationId memberUserId requestingUserId requesting target

theorem run_checkLastOwner {target : Member} :
    (checkLastOwner organizationId target).run execute s =
      (if target.role = .owner → 1 < (s.owners organizationId).length then .ok ()
        else .error .validation, s) := by
  rw [checkLastOwner]
  by_cases howner : target.role = .owner
  · have hcount : ((s.owners organizationId).take 100).length ≤ 1 ↔
        ¬(target.role = .owner → 1 < (s.owners organizationId).length) := by
      rw [List.length_take]
      constructor
      · intro hle h
        have := h howner
        omega
      · omega
    have hrun : run execute (ask (.getOrganizationMembers organizationId .owner 100) :
        OrganizationM (List Member)) s = (.ok ((s.owners organizationId).take 100), s) := rfl
    rw [if_pos howner, run_bind_of_ok hrun]
    by_cases hlast : ((s.owners organizationId).take 100).length ≤ 1
    · rw [if_pos hlast, if_neg (hcount.mp hlast)]
      rfl
    · rw [if_neg hlast, if_pos (not_not.mp (mt hcount.mpr hlast))]
      rfl
  · rw [if_neg howner, if_pos fun h => absurd h howner]
    rfl

theorem run_checkRemoval {requesting target : Member} :
    ((checkRemoval organizationId memberUserId requestingUserId requesting target).run execute s =
        (.ok (), s) ∧
      RemovalAllowed s organizationId memberUserId requestingUserId requesting target) ∨
    ((∃ e, (checkRemoval organizationId memberUserId requestingUserId requesting target).run execute
        s = (.error e, s)) ∧
      ¬RemovalAllowed s organizationId memberUserId requestingUserId requesting target) := by
  rw [RemovalAllowed, checkRemoval]
  cases requesting.role with
  | admin =>
    dsimp only
    split
    · next hmem => exact .inr ⟨⟨.accessDenied, rfl⟩, not_not.mpr hmem⟩
    · next hmem => exact .inl ⟨rfl, hmem⟩
  | owner =>
    rw [run_checkLastOwner]
    split
    · next h => exact .inl ⟨rfl, h⟩
    · next h => exact .inr ⟨⟨.validation, rfl⟩, h⟩
  | member | viewer | guest =>
    dsimp only
    split
    · next hne => exact .inr ⟨⟨.accessDenied, rfl⟩, hne⟩
    · next heq => exact .inl ⟨rfl, not_not.mp heq⟩

theorem run_removeOrganizationMember_of_may
    (h : s.MayRemove organizationId memberUserId requestingUserId) :
    (removeOrganizationMember organizationId memberUserId requestingUserId).run execute s =
      (.ok true, s.updateMember organizationId memberUserId MemberUpdates.removal) := by
  obtain ⟨requesting, hrequesting, target, htarget, hallowed⟩ := h
  rw [removeOrganizationMember, run_bind_of_ok (run_role hrequesting)]
  rw [run_bind_of_ok (run_role htarget)]
  obtain ⟨hrun, -⟩ | ⟨-, hnot⟩ := run_checkRemoval (s := s)
  · refine (run_bind_of_ok hrun).trans ?_
    rw [show true = (s.member organizationId memberUserId).isSome by rw [htarget]; rfl]
    rfl
  · exact absurd hallowed hnot

theorem run_removeOrganizationMember_of_not
    (h : ¬s.MayRemove organizationId memberUserId requestingUserId) : ∃ e,
      (removeOrganizationMember organizationId memberUserId requestingUserId).run execute s =
        (.error e, s) := by
  rw [removeOrganizationMember]
  cases hrequesting : s.member organizationId requestingUserId with
  | none =>
    rw [run_bind_of_ok (run_role hrequesting)]
    exact ⟨.accessDenied, rfl⟩
  | some requesting =>
    rw [run_bind_of_ok (run_role hrequesting)]
    cases htarget : s.member organizationId memberUserId with
    | none =>
      rw [run_bind_of_ok (run_role htarget)]
      exact ⟨.notFound, rfl⟩
    | some target =>
      rw [run_bind_of_ok (run_role htarget)]
      obtain ⟨-, hallowed⟩ | ⟨⟨e, hrun⟩, -⟩ := run_checkRemoval (s := s)
      · exact absurd ⟨requesting, hrequesting, target, htarget, hallowed⟩ h
      · exact ⟨e, run_bind_of_error hrun⟩

end IsaUser.Organizations
