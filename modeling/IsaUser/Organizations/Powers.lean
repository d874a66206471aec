import IsaUser.Lib.Runs
import IsaUser.Organizations.Service

/-!
# What Membership Gives and Its End Takes

A user who is no active member is refused, and so should everybody be in an organization that is
deleted. But a removal asks for the role of who requests it and not for their status, and nothing
asks for the status of the organization.
-/

open Option

namespace IsaUser.Organizations

/-! ### The law -/

def Request.step (s : OrganizationStore) (r : Request) : OrganizationStore :=
  (r.serve.run execute s).2

def OrganizationStore.IsDeleted (s : OrganizationStore) (organizationId : PyStr) : Prop :=
  ∃ organization ∈ s.organizations organizationId, organization.status = .deleted

def OrganizationStore.Powerless (s : OrganizationStore) (organizationId userId : PyStr) : Prop :=
  ¬s.IsActive organizationId userId ∨ s.IsDeleted organizationId

/-- The organization and the user whose powers a request uses. Nobody needs any to leave, and a
deletion is not looked at. -/
def Request.uses : Request → Option (PyStr × PyStr)
  | addMember organizationId _ requestingUserId => some (organizationId, requestingUserId)
  | updateMember organizationId _ _ requestingUserId => some (organizationId, requestingUserId)
  | removeMember organizationId memberUserId requestingUserId =>
    if memberUserId = requestingUserId then none else some (organizationId, requestingUserId)
  | deleteOrganization _ _ => none
  | checkUserAccess organizationId userId => some (organizationId, userId)
  | checkAdminAccess organizationId userId => some (organizationId, userId)
  | switchUserContext userId organizationId => (organizationId.filter (· ≠ [])).map (·, userId)

def IsRefused : Except OrganizationError Response → Prop
  | .error _ => True
  | .ok (.access granted) => granted = false
  | .ok _ => False

def IsChange (m m' : Member) : Prop :=
  m.role ≠ m'.role ∨ m.status ≠ .inactive ∧ m'.status = .inactive

/-- An active member asks whose role may assign both roles, or somebody leaves. -/
def IsEntitled (s : OrganizationStore) (r : Request) (m m' : Member) : Prop :=
  r = .removeMember m.organizationId m.userId m.userId ∨
    ∃ p ∈ r.uses, p.1 = m.organizationId ∧ ∃ requesting ∈ s.member p.1 p.2,
      requesting.status = .active ∧ canAssignOrgRole requesting.role m.role ∧
        canAssignOrgRole requesting.role m'.role

structure PowersEnd (s : OrganizationStore) (r : Request) : Prop where
  refused : ∀ p ∈ r.uses, s.Powerless p.1 p.2 →
    IsRefused (r.serve.run execute s).1 ∧ r.step s = s
  entitled : ∀ m ∈ s.members.rows, ∀ m' ∈ (r.step s).members.rows, m'.key = m.key →
    IsChange m m' → IsEntitled s r m m'

/-! ### The condition -/

def IsLetThrough (s : OrganizationStore) : Request → Prop
  | .addMember _ _ _ => False
  | .updateMember organizationId memberUserId request requestingUserId =>
    s.MayUpdate organizationId memberUserId request requestingUserId
  | .removeMember organizationId memberUserId requestingUserId =>
    s.MayRemove organizationId memberUserId requestingUserId
  | .deleteOrganization _ _ => False
  | .checkUserAccess organizationId userId => s.IsActive organizationId userId
  | .checkAdminAccess organizationId userId => s.IsAdmin organizationId userId
  | .switchUserContext userId organizationId =>
    ∃ id ∈ organizationId.filter (· ≠ []), s.MaySwitch id userId

/-- Who is let through is so in an organization that is not deleted, and a removal of somebody else
is asked for by an active member. -/
structure IsOrderly (s : OrganizationStore) (r : Request) : Prop where
  organization : IsLetThrough s r → ∀ p ∈ r.uses, ¬s.IsDeleted p.1
  removal : ∀ organizationId memberUserId requestingUserId,
    r = .removeMember organizationId memberUserId requestingUserId →
    memberUserId ≠ requestingUserId →
    s.MayRemove organizationId memberUserId requestingUserId →
    s.IsActive organizationId requestingUserId

/-! ### One request -/

section Request

variable {s : OrganizationStore} {r : Request} {organizationId userId : PyStr} {m m' : Member}

theorem serve_of_run {α : Type} {p : OrganizationM α} {f : α → Response} {a : α}
    {s' : OrganizationStore} (h : p.run execute s = (.ok a, s')) :
    (do return f (← p) : OrganizationM Response).run execute s = (.ok (f a), s') :=
  Prog.run_bind_of_ok h

theorem serve_of_error {α : Type} {p : OrganizationM α} {f : α → Response} {e : OrganizationError}
    {s' : OrganizationStore} (h : p.run execute s = (.error e, s')) :
    (do return f (← p) : OrganizationM Response).run execute s = (.error e, s') :=
  Prog.run_bind_of_error h

theorem not_isRefused (h : IsLetThrough s r) : ¬IsRefused (r.serve.run execute s).1 := by
  cases r with
  | addMember | deleteOrganization => exact h.elim
  | updateMember organizationId memberUserId request requestingUserId =>
    obtain ⟨m, hrun⟩ := run_updateOrganizationMember_of_may h
    rw [Request.serve, serve_of_run hrun]
    exact id
  | removeMember organizationId memberUserId requestingUserId =>
    rw [Request.serve, serve_of_run (run_removeOrganizationMember_of_may h)]
    exact id
  | checkUserAccess organizationId userId =>
    have hactive : s.IsActive organizationId userId := h
    rw [Request.serve, serve_of_run run_checkUserAccess, decide_eq_true hactive]
    exact Bool.noConfusion
  | checkAdminAccess organizationId userId =>
    have hadmin : s.IsAdmin organizationId userId := h
    rw [Request.serve, serve_of_run run_checkAdminAccess, decide_eq_true hadmin]
    exact Bool.noConfusion
  | switchUserContext userId organizationId =>
    obtain ⟨given, hgiven, hmay⟩ := h
    obtain ⟨horganization, hne⟩ := filter_eq_some_iff.mp hgiven
    obtain ⟨context, hrun⟩ := run_switchUserContext_of_may (of_decide_eq_true hne) hmay
    rw [Request.serve, horganization, serve_of_run hrun]
    exact id

theorem isRefused_of_not (h : ¬IsLetThrough s r) (huses : r.uses.isSome) :
    IsRefused (r.serve.run execute s).1 ∧ r.step s = s := by
  rw [Request.step]
  cases r with
  | addMember organizationId request requestingUserId =>
    obtain ⟨e, hrun⟩ := run_addOrganizationMember (s := s)
    rw [Request.serve, serve_of_error hrun]
    exact ⟨trivial, rfl⟩
  | deleteOrganization => cases huses
  | updateMember organizationId memberUserId request requestingUserId =>
    obtain ⟨e, hrun⟩ := run_updateOrganizationMember_of_not h
    rw [Request.serve, serve_of_error hrun]
    exact ⟨trivial, rfl⟩
  | removeMember organizationId memberUserId requestingUserId =>
    obtain ⟨e, hrun⟩ := run_removeOrganizationMember_of_not h
    rw [Request.serve, serve_of_error hrun]
    exact ⟨trivial, rfl⟩
  | checkUserAccess organizationId userId =>
    have hinactive : ¬s.IsActive organizationId userId := h
    rw [Request.serve, serve_of_run run_checkUserAccess, decide_eq_false hinactive]
    exact ⟨rfl, rfl⟩
  | checkAdminAccess organizationId userId =>
    have hnone : ¬s.IsAdmin organizationId userId := h
    rw [Request.serve, serve_of_run run_checkAdminAccess, decide_eq_false hnone]
    exact ⟨rfl, rfl⟩
  | switchUserContext userId organizationId =>
    cases hgiven : organizationId.filter (· ≠ []) with
    | none =>
      rw [Request.uses, hgiven] at huses
      cases huses
    | some given =>
      obtain ⟨horganization, hne⟩ := filter_eq_some_iff.mp hgiven
      have hnot : ¬s.MaySwitch given userId := fun hmay => h ⟨given, hgiven, hmay⟩
      obtain ⟨e, hrun⟩ := run_switchUserContext_of_not (of_decide_eq_true hne) hnot
      rw [Request.serve, horganization, serve_of_error hrun]
      exact ⟨trivial, rfl⟩

def LeavesMembers (c : Call) : Prop := ∀ s, (execute c s).2.members = s.members

theorem deleteOrganization_only :
    (deleteOrganization organizationId userId).Only LeavesMembers := by
  have howner : (checkOwnerAccess organizationId userId).Only LeavesMembers := by
    refine ⟨fun _ => rfl, fun found => ?_⟩
    dsimp only [Prog.bind]
    split <;> trivial
  refine howner.bind fun isOwner => ?_
  split
  · trivial
  · refine ⟨fun _ => rfl, fun found => ?_⟩
    dsimp only [Prog.bind]
    split
    · trivial
    · exact ⟨fun _ => rfl, fun _ => trivial⟩

theorem step_cases (s : OrganizationStore) (r : Request) :
    (r.step s).members = s.members ∨
    (∃ organizationId memberUserId request requestingUserId,
      r = .updateMember organizationId memberUserId request requestingUserId ∧
      s.MayUpdate organizationId memberUserId request requestingUserId ∧
      r.step s = s.updateMember organizationId memberUserId request) ∨
    ∃ organizationId memberUserId requestingUserId,
      r = .removeMember organizationId memberUserId requestingUserId ∧
      s.MayRemove organizationId memberUserId requestingUserId ∧
      r.step s = s.updateMember organizationId memberUserId MemberUpdates.removal := by
  by_cases hthrough : IsLetThrough s r
  · cases r with
    | addMember | deleteOrganization => exact hthrough.elim
    | updateMember organizationId memberUserId request requestingUserId =>
      obtain ⟨m, hrun⟩ := run_updateOrganizationMember_of_may hthrough
      refine .inr (.inl ⟨_, _, _, _, rfl, hthrough, ?_⟩)
      rw [Request.step, Request.serve, serve_of_run hrun]
    | removeMember organizationId memberUserId requestingUserId =>
      refine .inr (.inr ⟨_, _, _, rfl, hthrough, ?_⟩)
      rw [Request.step, Request.serve,
        serve_of_run (run_removeOrganizationMember_of_may hthrough)]
    | checkUserAccess organizationId userId =>
      rw [Request.step, Request.serve, serve_of_run run_checkUserAccess]
      exact .inl rfl
    | checkAdminAccess organizationId userId =>
      rw [Request.step, Request.serve, serve_of_run run_checkAdminAccess]
      exact .inl rfl
    | switchUserContext userId organizationId =>
      obtain ⟨given, hgiven, hmay⟩ := hthrough
      obtain ⟨horganization, hne⟩ := filter_eq_some_iff.mp hgiven
      obtain ⟨context, hrun⟩ := run_switchUserContext_of_may (of_decide_eq_true hne) hmay
      rw [Request.step, Request.serve, horganization, serve_of_run hrun]
      exact .inl rfl
  · cases huses : r.uses with
    | some p =>
      rw [(isRefused_of_not hthrough (by rw [huses]; rfl)).2]
      exact .inl rfl
    | none =>
      left
      cases r with
      | addMember | updateMember | checkUserAccess | checkAdminAccess => cases huses
      | removeMember organizationId memberUserId requestingUserId =>
        obtain ⟨e, hrun⟩ := run_removeOrganizationMember_of_not hthrough
        rw [Request.step, Request.serve, serve_of_error hrun]
      | deleteOrganization organizationId userId =>
        have honly : (Request.serve (.deleteOrganization organizationId userId)).Only
            LeavesMembers := deleteOrganization_only.bind fun _ => trivial
        exact honly.run_keeps (J := fun s' => s'.members = s.members) rfl
          fun _ s' hc hs' => (hc s').trans hs'
      | switchUserContext userId organizationId =>
        have hnone : organizationId.filter (· ≠ []) = none := map_eq_none_iff.mp huses
        rw [Request.step, Request.serve, switchUserContext, hnone]
        rfl

theorem eq_of_mem_updateMember {updates : MemberUpdates} (hm : m ∈ s.members.rows)
    (hm' : m' ∈ (s.updateMember organizationId userId updates).members.rows)
    (hkey : m'.key = m.key) :
    m' = if m.key = (organizationId, userId) then m.update updates else m := by
  obtain ⟨m₀, hm₀, rfl⟩ := List.mem_map.mp hm'
  have hkey₀ : m₀.key = m.key := by
    rw [← hkey]
    split <;> rfl
  rw [List.inj_on_of_nodup_map s.members.unique hm₀ hm hkey₀]

theorem canAssignOrgRole_owner (role : OrganizationRole) : canAssignOrgRole .owner role = true := by
  cases role <;> rfl

theorem canAssignOrgRole_admin {role : OrganizationRole}
    (h : role ∉ [OrganizationRole.owner, .admin]) : canAssignOrgRole .admin role = true := by
  cases role with
  | owner | admin => simp at h
  | member | viewer | guest => rfl

theorem UpdateAllowed.canAssign {requesting target : Member} {request : MemberUpdates}
    (h : UpdateAllowed requesting target request) :
    canAssignOrgRole requesting.role target.role ∧
      canAssignOrgRole requesting.role (target.update request).role := by
  have hold : canAssignOrgRole requesting.role target.role = true := by
    rcases List.mem_pair.mp h.role with howner | hadmin
    · rw [howner]
      exact canAssignOrgRole_owner _
    · rw [hadmin]
      exact canAssignOrgRole_admin (h.target hadmin)
  refine ⟨hold, ?_⟩
  rw [Member.update]
  cases hnew : request.role with
  | none => exact hold
  | some role => exact h.newRole role hnew

theorem RemovalAllowed.canAssign {memberUserId requestingUserId : PyStr}
    {requesting target : Member}
    (h : RemovalAllowed s organizationId memberUserId requestingUserId requesting target) :
    memberUserId = requestingUserId ∨ canAssignOrgRole requesting.role target.role := by
  rw [RemovalAllowed] at h
  split at h
  · next hadmin =>
      rw [hadmin]
      exact .inr (canAssignOrgRole_admin h)
  · next howner =>
      rw [howner]
      exact .inr (canAssignOrgRole_owner _)
  · exact .inl h.symm

theorem IsChange.irrefl (m : Member) : ¬IsChange m m := by
  rintro (h | ⟨h, h'⟩)
  · exact h rfl
  · exact h h'

theorem IsOrderly.entitled (h : IsOrderly s r) (hm : m ∈ s.members.rows)
    (hm' : m' ∈ (r.step s).members.rows) (hkey : m'.key = m.key) (hchange : IsChange m m') :
    IsEntitled s r m m' := by
  obtain hmembers | ⟨organizationId, memberUserId, request, requestingUserId, rfl, hmay, hstep⟩ |
    ⟨organizationId, memberUserId, requestingUserId, rfl, hmay, hstep⟩ := step_cases s r
  · rw [hmembers] at hm'
    obtain rfl := List.inj_on_of_nodup_map s.members.unique hm' hm hkey
    exact absurd hchange (IsChange.irrefl _)
  · rw [hstep] at hm'
    have heq := eq_of_mem_updateMember hm hm' hkey
    split at heq
    · next hupdated =>
        obtain ⟨requesting, hrequesting, target, htarget, hallowed⟩ := hmay
        have hfound : s.member organizationId memberUserId = some m :=
          Rows.get?_eq_some_iff.mpr ⟨hm, hupdated⟩
        obtain rfl : m = target := some.inj (hfound.symm.trans htarget)
        subst heq
        exact .inr ⟨_, rfl, (congrArg Prod.fst hupdated).symm, requesting, hrequesting,
          hallowed.active, hallowed.canAssign⟩
    · subst heq
      exact absurd hchange (IsChange.irrefl _)
  · rw [hstep] at hm'
    have heq := eq_of_mem_updateMember hm hm' hkey
    split at heq
    · next hremoved =>
        have hfound : s.member organizationId memberUserId = some m :=
          Rows.get?_eq_some_iff.mpr ⟨hm, hremoved⟩
        obtain ⟨horganization, huser⟩ := Prod.mk.inj hremoved
        by_cases hself : memberUserId = requestingUserId
        · left
          rw [horganization, huser, ← hself]
        · obtain ⟨requesting', hrequesting', hactive⟩ := h.removal _ _ _ rfl hself hmay
          obtain ⟨requesting, hrequesting, target, htarget, hallowed⟩ := hmay
          obtain rfl : requesting' = requesting :=
            some.inj (hrequesting'.symm.trans hrequesting)
          obtain rfl : m = target := some.inj (hfound.symm.trans htarget)
          obtain hleaves | hassign := hallowed.canAssign
          · exact absurd hleaves hself
          · subst heq
            exact .inr ⟨_, if_neg hself, horganization.symm, requesting', hrequesting', hactive,
              hassign, hassign⟩
    · subst heq
      exact absurd hchange (IsChange.irrefl _)

theorem powersEnd_iff_isOrderly : PowersEnd s r ↔ IsOrderly s r := by
  constructor
  · intro h
    refine ⟨fun hthrough p hp hdeleted => ?_, ?_⟩
    · exact not_isRefused hthrough (h.refused p hp (.inr hdeleted)).1
    · rintro organizationId memberUserId requestingUserId rfl hne hmay
      by_contra hinactive
      have hthrough : IsLetThrough s (.removeMember organizationId memberUserId requestingUserId) :=
        hmay
      exact not_isRefused hthrough (h.refused _ (if_neg hne) (.inl hinactive)).1
  · intro h
    refine ⟨fun p hp hpowerless => ?_, fun m hm m' hm' => h.entitled hm hm'⟩
    refine isRefused_of_not (fun hthrough => ?_) (by rw [show r.uses = some p from hp]; rfl)
    rcases hpowerless with hinactive | hdeleted
    · cases r with
      | addMember | deleteOrganization => exact hthrough
      | updateMember organizationId memberUserId request requestingUserId =>
        obtain ⟨requesting, hrequesting, _, _, hallowed⟩ := hthrough
        cases hp
        exact hinactive ⟨requesting, hrequesting, hallowed.active⟩
      | removeMember organizationId memberUserId requestingUserId =>
        obtain ⟨hne, hp⟩ := ite_none_left_eq_some.mp hp
        cases hp
        exact hinactive (h.removal _ _ _ rfl hne hthrough)
      | checkUserAccess =>
        cases hp
        exact hinactive hthrough
      | checkAdminAccess =>
        obtain ⟨m, hm, hactive, -⟩ := hthrough
        cases hp
        exact hinactive ⟨m, hm, hactive⟩
      | switchUserContext userId organizationId =>
        obtain ⟨given, hgiven, hmay⟩ := hthrough
        rw [Request.uses, show organizationId.filter (· ≠ []) = some given from hgiven] at hp
        cases hp
        exact hinactive hmay.1
    · exact h.organization hthrough p hp hdeleted

end Request

/-! ### Histories -/

/-- **Ending membership ends its powers** in every history of requests, run one after another, just
where each request is orderly. -/
theorem powers_end_iff (s : OrganizationStore) (history : List Request) :
    AllSteps Request.step PowersEnd s history ↔ AllSteps Request.step IsOrderly s history :=
  ⟨fun h => h.mono fun _ _ => powersEnd_iff_isOrderly.mp,
    fun h => h.mono fun _ _ => powersEnd_iff_isOrderly.mpr⟩

/-! ### An admin who was removed -/

def threeMembers : OrganizationStore where
  organizations id := if id = ['o'] then some { name := ['o'] } else none
  members :=
    { rows :=
        [{ organizationId := ['o'], userId := ['a'], role := .owner },
          { organizationId := ['o'], userId := ['b'], role := .admin },
          { organizationId := ['o'], userId := ['c'], role := .member }]
      unique := by decide }

/-- An admin who was removed removes a member, and the owner of an organization that is deleted is
let in. -/
theorem not_powers_end :
    ¬AllSteps Request.step PowersEnd threeMembers
        [.removeMember ['o'] ['b'] ['a'], .removeMember ['o'] ['c'] ['b']] ∧
      ¬AllSteps Request.step PowersEnd threeMembers
        [.deleteOrganization ['o'] ['a'], .checkUserAccess ['o'] ['a']] := by
  constructor
  · intro h
    have hactive := (powersEnd_iff_isOrderly.mp h.2.1).removal ['o'] ['c'] ['b'] rfl (by decide)
      ⟨_, rfl, _, rfl, show OrganizationRole.member ∉ [.owner, .admin] by decide⟩
    exact absurd hactive (by decide +kernel)
  · intro h
    exact (powersEnd_iff_isOrderly.mp h.2.1).organization ⟨_, rfl, rfl⟩ _ rfl ⟨_, rfl, rfl⟩

end IsaUser.Organizations
