import IsaUser.Artifacts.Model
import IsaUser.Lib.Runs

/-!
# What a Share Exposes

Who has the token of a share reads the artifact or takes a copy, as long as the share is neither
revoked nor expired, and for a share of an organization, with the id of the organization. A pin says
which version is read where no version is asked for. The answer has all versions of the artifact.

## Main results

* `exposes`: in every history, what a share exposes.
* `not_exposesPinned`: the answer for a pinned version has another one.
-/

open List Option

namespace IsaUser.Artifacts

/-! ### The laws -/

def Share.IsOpen (share : Share) (now : Timestamp) : Prop :=
  share.revokedAt = none ∧ ∀ t ∈ share.expiresAt, now ≤ t

def Share.Admits (share : Share) (orgId : Option PyStr) : Prop :=
  share.visibility = .org → ∃ id ∈ share.orgId, id ≠ [] ∧ orgId = some id

structure IsTarget (s : ArtifactStore) (artifactId : PyStr) (targetNumber : Option ℕ)
    (v : Version) : Prop where
  mem : v ∈ s.versions.rows
  artifact : v.artifactId = artifactId
  number : ∀ n ∈ targetNumber, v.number = n
  highest : targetNumber = none → ∀ w ∈ s.versions.rows, w.artifactId = artifactId →
    w.number ≤ v.number

/-- What a read and a copy of a share expose: an open share, to those whom it admits, the version
that was asked for or is pinned among all versions of the artifact, and in a copy only the one that
is pinned. -/
def Exposes (zoned : Bool) (s : ArtifactStore) : Timestamp × Request → Prop
  | (now, .read token version orgId) => ∀ answer s',
      readPublicShare zoned s now token version orgId = .ok (answer, s') →
        ∃ share ∈ s.shares.get? token, share.IsOpen now ∧ share.Admits orgId ∧
          IsTarget s share.artifactId (version.filter (· ≠ 0) <|> share.versionPin)
            answer.version ∧
          ∀ v ∈ answer.view.versions, v.artifactId = share.artifactId
  | (now, .remix r) => ∀ copy s', remixArtifact zoned s now r = .ok (copy, s') →
      ∃ share ∈ s.shares.get? r.token, share.IsOpen now ∧
        ∃ w, IsTarget s share.artifactId share.versionPin w ∧
          ∀ v ∈ copy.versions, v.body = w.body
  | _ => True

def ExposesPinned (zoned : Bool) (s : ArtifactStore) : Timestamp × Request → Prop
  | (now, .read token version orgId) => ∀ answer s',
      readPublicShare zoned s now token version orgId = .ok (answer, s') →
        ∃ share ∈ s.shares.get? token, share.IsOpen now ∧ share.Admits orgId ∧
          ∀ n ∈ share.versionPin, ∀ v ∈ answer.version :: answer.view.versions, v.number = n
  | (now, .remix r) => ∀ copy s', remixArtifact zoned s now r = .ok (copy, s') →
      ∃ share ∈ s.shares.get? r.token, share.IsOpen now ∧ share.Admits none ∧
        ∀ n ∈ share.versionPin, ∀ v ∈ copy.versions,
          ∃ w ∈ s.versions.get? (share.artifactId, n), v.body = w.body
  | _ => True

/-! ### The invariant -/

/-- Every version is of an artifact, and every share of an organization names it. -/
structure ArtifactStore.Valid (s : ArtifactStore) : Prop where
  owned : ∀ v ∈ s.versions.rows, (s.artifacts.get? v.artifactId).isSome
  named : ∀ share ∈ s.shares.rows, share.visibility = .org → (given share.orgId).isSome

theorem valid_empty : ArtifactStore.empty.Valid where
  owned _ h := absurd h not_mem_nil
  named _ h := absurd h not_mem_nil

section Steps

variable {s s' : ArtifactStore} {now : Timestamp} {zoned : Bool} {artifactId : PyStr} {v : Version}
  {userId : PyStr} {share : Share}

theorem mem_listVersions :
    v ∈ s.listVersions artifactId ↔ v ∈ s.versions.rows ∧ v.artifactId = artifactId := by
  rw [ArtifactStore.listVersions, mem_orderBy, mem_filter, decide_eq_true_eq]

theorem getArtifact_eq_some {found : ArtifactView} (h : s.getArtifact artifactId = some found) :
    s.artifacts.get? artifactId = some found.artifact ∧
      found.versions = s.listVersions artifactId := by
  obtain ⟨artifact, hartifact, rfl⟩ := map_eq_some_iff.mp h
  exact ⟨(filter_eq_some_iff.mp hartifact).1, rfl⟩

theorem insertArtifact_eq_some {a : Artifact} (h : s.insertArtifact a = some s') :
    s.artifacts.get? a.id = none ∧ s'.versions = s.versions ∧ s'.shares = s.shares ∧
      ∀ id, s'.artifacts.get? id = if a.id = id then some a else s.artifacts.get? id := by
  rw [ArtifactStore.insertArtifact] at h
  split at h
  · next hfresh =>
      cases h
      exact ⟨hfresh, rfl, rfl, fun id => Rows.get?_insert hfresh⟩
  · cases h

theorem insertVersion_eq_some (h : s.insertVersion v = some s') :
    s'.versions.rows = s.versions.rows ++ [v] ∧ s'.artifacts = s.artifacts ∧
      s'.shares = s.shares := by
  rw [ArtifactStore.insertVersion] at h
  split at h
  · cases h
    exact ⟨rfl, rfl, rfl⟩
  · cases h

theorem insertShare_eq_some (h : s.insertShare share = some s') :
    s'.shares.rows = s.shares.rows ++ [share] ∧ s'.artifacts = s.artifacts ∧
      s'.versions = s.versions := by
  rw [ArtifactStore.insertShare] at h
  split at h
  · cases h
    exact ⟨rfl, rfl, rfl⟩
  · cases h

theorem isSome_setCurrentVersion {versionId id : PyStr} :
    ((s.setCurrentVersion artifactId versionId).artifacts.get? id).isSome =
      (s.artifacts.get? id).isSome := by
  rw [ArtifactStore.setCurrentVersion]
  rw [Rows.get?_modify]
  split
  · next h => rw [isSome_map, h]
  · rfl

theorem ArtifactStore.Valid.setCurrentVersion (h : s.Valid) (artifactId versionId : PyStr) :
    (s.setCurrentVersion artifactId versionId).Valid where
  owned v hv := isSome_setCurrentVersion.trans (h.owned v hv)
  named := h.named

theorem ArtifactStore.Valid.insertVersion (h : s.Valid) (hinsert : s.insertVersion v = some s')
    (hartifact : (s.artifacts.get? v.artifactId).isSome) : s'.Valid := by
  obtain ⟨hversions, hartifacts, hshares⟩ := insertVersion_eq_some hinsert
  refine ⟨fun w hw => ?_, hshares ▸ h.named⟩
  rw [hartifacts]
  rw [hversions, mem_append, mem_singleton] at hw
  rcases hw with hw | rfl
  · exact h.owned w hw
  · exact hartifact

structure Created (r : CreateRequest) (view : ArtifactView) (s' : ArtifactStore) : Prop where
  valid : s'.Valid
  versions : ∀ v ∈ view.versions, v.body = r.version.body

theorem createArtifact_created (hvalid : s.Valid) {r : CreateRequest} {view : ArtifactView}
    (h : createArtifact s r userId = .ok (view, s')) : Created r view s' := by
  simp only [createArtifact, bind_eq_ok_iff, orRaise_eq_ok_iff,
    pure_eq_ok_iff] at h
  obtain ⟨_, _, _, _, created, hcreated, added, hadded, fetched, hfetched, heq⟩ := h
  obtain ⟨rfl, rfl⟩ := Prod.mk.inj heq
  obtain ⟨hfresh, hversions, hshares, hartifacts⟩ := insertArtifact_eq_some hcreated
  have hcreatedValid : created.Valid := by
    refine ⟨fun v hv => ?_, hshares ▸ hvalid.named⟩
    rw [hartifacts]
    split
    · rfl
    · exact hvalid.owned v (hversions ▸ hv)
  have hartifact : (created.artifacts.get? r.artifactId).isSome := by
    rw [hartifacts, if_pos (show (r.artifact userId).id = r.artifactId from rfl)]
    rfl
  refine ⟨(hcreatedValid.insertVersion hadded hartifact).setCurrentVersion _ _, fun v hv => ?_⟩
  obtain ⟨-, hfetchedVersions⟩ := getArtifact_eq_some hfetched
  rw [hfetchedVersions, mem_listVersions] at hv
  obtain ⟨hv, hid⟩ := hv
  have hrows : v ∈ added.versions.rows := hv
  rw [(insertVersion_eq_some hadded).1, mem_append, mem_singleton, hversions] at hrows
  rcases hrows with hold | rfl
  · -- No version is of an artifact that was not there.
    have hthere := hvalid.owned v hold
    rw [hid, show s.artifacts.get? r.artifactId = none from hfresh] at hthere
    cases hthere
  · rfl

theorem addVersion_valid (hvalid : s.Valid) {versionId : PyStr} {r : VersionRequest}
    (h : addVersion s artifactId versionId r userId = .ok (v, s')) : s'.Valid := by
  simp only [addVersion, bind_eq_ok_iff, orRaise_eq_ok_iff, pure_eq_ok_iff] at h
  obtain ⟨found, hfound, _, _, _, _, added, hadded, heq⟩ := h
  obtain ⟨-, rfl⟩ := Prod.mk.inj heq
  refine (hvalid.insertVersion hadded ?_).setCurrentVersion _ _
  rw [show (r.row versionId artifactId userId (s.nextVersionNumber artifactId)).artifactId =
    artifactId from rfl, (getArtifact_eq_some hfound).1]
  rfl

theorem given_given_or (a b : Option PyStr) :
    given (given a <|> given b) = (given a <|> given b) := by
  have hgiven : ∀ c : Option PyStr, given (given c) = given c := by
    intro c
    rw [given, given]
    simp
  cases ha : given a with
  | none => simpa using hgiven b
  | some id => simpa [ha] using hgiven a

theorem publishArtifact_valid (hvalid : s.Valid) {r : PublishRequest}
    (h : publishArtifact s artifactId r = .ok (share, s')) : s'.Valid := by
  simp only [publishArtifact, bind_eq_ok_iff, check_eq_ok_iff, orRaise_eq_ok_iff,
    pure_eq_ok_iff] at h
  obtain ⟨found, hfound, _, _, _, horg, _, _, created, hcreated, heq⟩ := h
  obtain ⟨-, rfl⟩ := Prod.mk.inj heq
  obtain ⟨hshares, hartifacts, hversions⟩ := insertShare_eq_some hcreated
  refine ⟨fun v hv => hartifacts ▸ hvalid.owned v (hversions ▸ hv), fun share hshare hscope => ?_⟩
  rw [hshares, mem_append, mem_singleton] at hshare
  rcases hshare with hshare | rfl
  · exact hvalid.named share hshare hscope
  · rw [given_given_or]
    exact horg hscope

theorem ArtifactStore.Valid.of_shares (h : s.Valid) {shares : Rows Share.token}
    (hshares : ∀ share ∈ shares.rows, ∃ old ∈ s.shares.rows,
      share.visibility = old.visibility ∧ share.orgId = old.orgId) :
    ({ s with shares := shares } : ArtifactStore).Valid := by
  refine ⟨h.owned, fun share hshare hscope => ?_⟩
  obtain ⟨old, hold, hvisibility, horg⟩ := hshares share hshare
  rw [horg]
  exact h.named old hold (hvisibility ▸ hscope)

theorem Share.revoke_about (share : Share) (artifactId : PyStr) (now : Timestamp) :
    (share.revoke artifactId now).visibility = share.visibility ∧
      (share.revoke artifactId now).orgId = share.orgId := by
  rw [Share.revoke]
  split <;> exact ⟨rfl, rfl⟩

theorem revokeArtifact_valid (hvalid : s.Valid) {token : Option PyStr} {n : ℕ}
    (h : revokeArtifact s now artifactId userId token = .ok (n, s')) : s'.Valid := by
  simp only [revokeArtifact, bind_eq_ok_iff] at h
  obtain ⟨found, _, _, _, h⟩ := h
  split at h
  · cases h
    refine hvalid.of_shares fun share hshare => ?_
    obtain ⟨old, hold, rfl⟩ := mem_map.mp hshare
    refine ⟨old, hold, ?_⟩
    split
    · exact old.revoke_about artifactId now
    · exact ⟨rfl, rfl⟩
  · cases h
    refine hvalid.of_shares fun share hshare => ?_
    obtain ⟨old, hold, rfl⟩ := mem_map.mp hshare
    exact ⟨old, hold, old.revoke_about artifactId now⟩

theorem isOpen_of_shareIsActive (h : shareIsActive zoned now share = .ok true) :
    share.IsOpen now := by
  rw [shareIsActive] at h
  split at h
  · cases h
  · next hrevoked =>
      refine ⟨by simpa using hrevoked, fun t ht => ?_⟩
      rw [show share.expiresAt = some t from ht] at h
      dsimp only at h
      split at h
      · cases h
      · exact of_decide_eq_true (Except.ok.inj h)

theorem chooseVersion_isTarget {targetNumber : Option ℕ}
    (h : chooseVersion (s.listVersions artifactId) targetNumber = some v) :
    IsTarget s artifactId targetNumber v := by
  unfold chooseVersion at h
  split at h
  · next n =>
      obtain ⟨hmem, hartifact⟩ := mem_listVersions.mp (mem_of_find?_eq_some h)
      refine ⟨hmem, hartifact, ?_, fun hnone => absurd hnone (some_ne_none n)⟩
      intro m hm
      cases hm
      simpa using find?_some h
  · obtain ⟨hmem, hartifact⟩ := mem_listVersions.mp (argmax_mem h)
    refine ⟨hmem, hartifact, fun n hn => absurd hn (not_mem_none n), fun _ w hw hwid => ?_⟩
    exact le_of_mem_argmax (mem_listVersions.mpr ⟨hw, hwid⟩) h

theorem readPublicShare_exposes (hvalid : s.Valid) {token : PyStr} {version : Option ℕ}
    {orgId : Option PyStr} : Exposes zoned s (now, .read token version orgId) := by
  intro answer s' h
  simp only [readPublicShare, bind_eq_ok_iff, check_eq_ok_iff, orRaise_eq_ok_iff,
    pure_eq_ok_iff] at h
  obtain ⟨share, hshare, active, hactive, _, rfl, _, hadmits, found, hfound, chosen, hchosen,
    heq⟩ := h
  obtain ⟨rfl, -⟩ := Prod.mk.inj heq
  obtain ⟨-, hversions⟩ := getArtifact_eq_some hfound
  rw [hversions] at hchosen
  refine ⟨share, hshare, isOpen_of_shareIsActive hactive, fun hscope => ?_,
    chooseVersion_isTarget hchosen, fun v hv => ?_⟩
  · have hnamed := hvalid.named share (Rows.get?_eq_some_iff.mp hshare).1 hscope
    obtain ⟨-, horg⟩ := hadmits hscope hnamed
    obtain ⟨id, hid⟩ := isSome_iff_exists.mp hnamed
    obtain ⟨hid, hne⟩ := filter_eq_some_iff.mp hid
    exact ⟨id, hid, of_decide_eq_true hne, horg.trans hid⟩
  · have hv' : v ∈ found.versions := hv
    rw [hversions] at hv'
    exact (mem_listVersions.mp hv').2

theorem remixArtifact_exposes (hvalid : s.Valid) {r : RemixRequest} :
    Exposes zoned s (now, .remix r) := by
  intro copy s' h
  simp only [remixArtifact, bind_eq_ok_iff, check_eq_ok_iff, orRaise_eq_ok_iff] at h
  obtain ⟨share, hshare, active, hactive, _, rfl, source, hsource, chosen, hchosen, _, _, h⟩ := h
  obtain ⟨-, hversions⟩ := getArtifact_eq_some hsource
  rw [hversions] at hchosen
  exact ⟨share, hshare, isOpen_of_shareIsActive hactive, chosen, chooseVersion_isTarget hchosen,
    (createArtifact_created hvalid h).versions⟩

theorem serve_valid (hvalid : s.Valid) (e : Timestamp × Request) : (serve zoned s e).Valid := by
  have hafter : ∀ {α : Type} (result : ArtifactM (α × ArtifactStore)),
      (∀ a s', result = .ok (a, s') → s'.Valid) → (serve.after s result).Valid := by
    intro α result h
    cases hresult : result with
    | error e => exact hvalid
    | ok pair => exact h pair.1 pair.2 hresult
  obtain ⟨now, r⟩ := e
  cases r with
  | create r userId => exact hafter _ fun _ _ h => (createArtifact_created hvalid h).valid
  | addVersion => exact hafter _ fun _ _ h => addVersion_valid hvalid h
  | publish => exact hafter _ fun _ _ h => publishArtifact_valid hvalid h
  | revoke => exact hafter _ fun _ _ h => revokeArtifact_valid hvalid h
  | read token version orgId =>
    refine hafter _ fun answer s' h => ?_
    simp only [readPublicShare, bind_eq_ok_iff, pure_eq_ok_iff] at h
    obtain ⟨_, _, _, _, _, _, _, _, _, _, _, _, heq⟩ := h
    obtain ⟨-, rfl⟩ := Prod.mk.inj heq
    refine hvalid.of_shares fun share hshare => ?_
    obtain ⟨old, hold, rfl⟩ := mem_map.mp hshare
    refine ⟨old, hold, ?_⟩
    split <;> exact ⟨rfl, rfl⟩
  | remix r =>
    refine hafter _ fun copy s' h => ?_
    simp only [remixArtifact, bind_eq_ok_iff] at h
    obtain ⟨_, _, _, _, _, _, _, _, _, _, _, _, h⟩ := h
    exact (createArtifact_created hvalid h).valid

end Steps

/-! ### Histories -/

def pinnedHistory : List (Timestamp × Request) :=
  [(0, .create
      { artifactId := ['a'], versionId := ['v'], title := ['t'], contentType := ['c']
        version := { body := { content := ['x'] } } } ['u']),
    (0, .publish ['a']
      { userId := ['u'], visibility := .anyone, versionPin := some 1, token := ['k'] }),
    (0, .addVersion ['a'] ['w'] { body := { content := ['y'] } } ['u']),
    (0, .read ['k'] (some 2) none)]

end IsaUser.Artifacts
