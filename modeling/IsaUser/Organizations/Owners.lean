import IsaUser.Organizations.Service

/-!
# The Last Owner

A removal by an owner counts the owners first, and does not take the last one. An update does not
count: an owner may end their own role. And two removals may count before either is carried out.
-/

open List

namespace IsaUser.Organizations

/-! ### The law -/

def Member.IsActiveOwner (m : Member) : Prop := m.role = .owner ∧ m.status = .active
  deriving Decidable

def HasActiveOwner (organizationId : PyStr) (s : OrganizationStore) : Prop :=
  ∃ m ∈ s.members.rows, m.organizationId = organizationId ∧ m.IsActiveOwner

/-! ### The condition -/

structure TakesLast (organizationId : PyStr) (s : OrganizationStore) (userId : PyStr)
    (updates : MemberUpdates) : Prop where
  only : ∀ m ∈ s.members.rows, m.organizationId = organizationId → m.IsActiveOwner →
    m.userId = userId
  ends : ∀ m ∈ s.member organizationId userId, ¬(m.update updates).IsActiveOwner

def LeavesOwner (organizationId : PyStr) (s : OrganizationStore) : Call → Prop
  | .updateOrganizationMember id userId updates =>
    id = organizationId → ¬TakesLast organizationId s userId updates
  | .removeOrganizationMember id userId =>
    id = organizationId → ¬TakesLast organizationId s userId MemberUpdates.removal
  | _ => True

/-! ### One call -/

section Step

variable {organizationId userId : PyStr} {s : OrganizationStore} {updates : MemberUpdates}

theorem HasActiveOwner.of_modify (h : HasActiveOwner organizationId s) {id : PyStr}
    (hkept : ∀ m ∈ s.members.rows, m.organizationId = organizationId → m.IsActiveOwner →
      m.key = (id, userId) → (m.update updates).IsActiveOwner) :
    HasActiveOwner organizationId (s.updateMember id userId updates) := by
  obtain ⟨m, hm, horganization, howner⟩ := h
  refine ⟨_, mem_map_of_mem hm, ?_⟩
  split
  · next hkey => exact ⟨horganization, hkept m hm horganization howner hkey⟩
  · exact ⟨horganization, howner⟩

theorem hasActiveOwner_updateMember_iff (h : HasActiveOwner organizationId s) :
    HasActiveOwner organizationId (s.updateMember organizationId userId updates) ↔
      ¬TakesLast organizationId s userId updates := by
  constructor
  · rintro ⟨m', hm', horganization, howner⟩ htakes
    obtain ⟨m, hm, rfl⟩ := mem_map.mp hm'
    split at horganization
    · next hkey =>
        rw [if_pos hkey] at howner
        exact htakes.ends m (Rows.get?_eq_some_iff.mpr ⟨hm, hkey⟩) howner
    · next hkey =>
        rw [if_neg hkey] at howner
        have huser := htakes.only m hm horganization howner
        exact hkey (by rw [Member.key, horganization, huser])
  · intro hleaves
    by_cases honly : ∀ m ∈ s.members.rows, m.organizationId = organizationId → m.IsActiveOwner →
        m.userId = userId
    · have hkept : ∃ m ∈ s.member organizationId userId, (m.update updates).IsActiveOwner := by
        by_contra hnone
        exact hleaves ⟨honly, fun m hm howner => hnone ⟨m, hm, howner⟩⟩
      obtain ⟨m, hm, howner⟩ := hkept
      refine h.of_modify fun m' hm' _ _ hkey => ?_
      have heq := Rows.get?_key hm'
      rw [hkey, show s.members.get? (organizationId, userId) = some m from hm] at heq
      rwa [← Option.some.inj heq]
    · simp only [not_forall] at honly
      obtain ⟨m, hm, horganization, howner, hne⟩ := honly
      exact ⟨m, mem_map.mpr ⟨m, hm, if_neg fun hkey => hne (congrArg Prod.snd hkey)⟩,
        horganization, howner⟩

theorem HasActiveOwner.updateMember_of_ne (h : HasActiveOwner organizationId s) {id : PyStr}
    (hne : id ≠ organizationId) :
    HasActiveOwner organizationId (s.updateMember id userId updates) :=
  h.of_modify fun _ _ horganization _ hkey =>
    absurd ((congrArg Prod.fst hkey).symm.trans horganization) hne

theorem HasActiveOwner.add (h : HasActiveOwner organizationId s) {id : PyStr}
    {role : OrganizationRole ⊕ PyStr} {permissions : Option (List PyStr)} :
    HasActiveOwner organizationId (s.add id userId role permissions).2 := by
  unfold OrganizationStore.add
  split
  · exact h
  · dsimp only
    split
    · obtain ⟨m, hm, howner⟩ := h
      exact ⟨m, mem_append_left _ hm, howner⟩
    · next found hfound =>
        split
        · next hinactive =>
            refine h.of_modify fun m hm _ howner hkey => ?_
            have heq := Rows.get?_key hm
            rw [hkey, show s.members.get? (id, userId) = some found from hfound] at heq
            obtain rfl := Option.some.inj heq
            rw [howner.2] at hinactive
            cases hinactive
        · exact h

theorem hasActiveOwner_execute_iff (c : Call) (h : HasActiveOwner organizationId s) :
    HasActiveOwner organizationId (execute c s).2 ↔ LeavesOwner organizationId s c := by
  cases c with
  | getUserOrganizationRole | getOrganizationMembers | getOrganization | deleteOrganization =>
    exact iff_of_true h trivial
  | addOrganizationMember => exact iff_of_true h.add trivial
  | updateOrganizationMember id userId updates =>
    rcases eq_or_ne id organizationId with rfl | hne
    · exact (hasActiveOwner_updateMember_iff h).trans (by simp [LeavesOwner])
    · exact iff_of_true (h.updateMember_of_ne hne) fun heq => absurd heq hne
  | removeOrganizationMember id userId =>
    rcases eq_or_ne id organizationId with rfl | hne
    · exact (hasActiveOwner_updateMember_iff h).trans (by simp [LeavesOwner])
    · exact iff_of_true (h.updateMember_of_ne hne) fun heq => absurd heq hne

end Step

/-! ### Runs -/

def ownedBy (owners : List PyStr) (h : owners.Nodup) : OrganizationStore where
  organizations id := if id = ['o'] then some { name := ['o'] } else none
  members :=
    { rows := owners.map fun userId => { organizationId := ['o'], userId, role := .owner }
      unique := by
        rw [List.map_map]
        exact h.map fun _ _ heq => congrArg Prod.snd heq }

def demotion (_ : Fin 1) : Request :=
  .updateMember ['o'] ['a'] { role := some .member } ['a']

def demoted (owners : List PyStr) (h : owners.Nodup) : OrganizationPool (Fin 1) :=
  (OrganizationPool.start demotion (ownedBy owners h)).schedule execute [0, 0, 0, 0]

theorem demoted_reached (owners : List PyStr) (h : owners.Nodup) :
    OrganizationRun (fun _ _ => True) (OrganizationPool.start demotion (ownedBy owners h))
      (demoted owners h) :=
  Pool.Reach.start.schedule (Pool.permitted_anyCall _ _ _)

end IsaUser.Organizations
