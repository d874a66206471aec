import IsaUser.Lib.Checks
import IsaUser.Lib.Json
import IsaUser.Lib.Rows

/-!
# Artifacts and Their Shares

An artifact has versions, which are only added to. Its owner publishes it under a token, for
everybody or for an organization, with or without a version pinned and a time when it expires, and
revokes what was published. Who has a token reads the artifact or takes a copy.
-/

namespace IsaUser.Artifacts

/-! ### The tables -/

inductive ArtifactVisibility where
  /-- `PRIVATE`. -/
  | owner
  | unlisted
  | org
  /-- `PUBLIC`. -/
  | anyone
  deriving DecidableEq, Repr

inductive ArtifactStorageScope where
  | personal
  | shared
  | none
  deriving DecidableEq, Repr

inductive ArtifactShareVisibility where
  /-- `PUBLIC`. -/
  | anyone
  | org
  deriving DecidableEq, Repr

/-- A row of `artifact.artifacts`. -/
structure Artifact where
  id : PyStr
  ownerUserId : PyStr
  ownerOrgId : Option PyStr := none
  title : PyStr
  contentType : PyStr
  currentVersionId : PyStr
  sourceSessionId : Option PyStr := none
  sourceMessageId : Option PyStr := none
  parentArtifactId : Option PyStr := none
  visibility : ArtifactVisibility := .owner
  aiRuntimeEnabled : Bool := false
  storageScope : ArtifactStorageScope := .none
  metadata : JsonDict := []
  deletedAt : Option Timestamp := none

structure Content where
  content : PyStr
  language : Option PyStr := none
  filename : Option PyStr := none
  blobUrl : Option PyStr := none
  a2uiStateJson : Option JsonDict := none

/-- A row of `artifact.artifact_versions`. -/
structure Version where
  id : PyStr
  artifactId : PyStr
  number : ℕ
  body : Content
  instruction : Option PyStr := none
  createdBy : PyStr

def Version.key (v : Version) : PyStr × ℕ := (v.artifactId, v.number)

/-- A row of `artifact.artifact_shares`. -/
structure Share where
  token : PyStr
  artifactId : PyStr
  versionPin : Option ℕ
  visibility : ArtifactShareVisibility
  orgId : Option PyStr
  createdBy : PyStr
  expiresAt : Option Timestamp
  revokedAt : Option Timestamp := none
  viewCount : ℕ := 0

structure ArtifactStore where
  artifacts : Rows Artifact.id
  versions : Rows Version.key
  shares : Rows Share.token

def ArtifactStore.empty : ArtifactStore := ⟨Rows.empty, Rows.empty, Rows.empty⟩

def soleArtifact : Rows Artifact.id :=
  Rows.empty.insert
    { id := ['a'], ownerUserId := ['u'], title := ['t'], contentType := ['c']
      currentVersionId := ['v'] } rfl

structure ArtifactView where
  artifact : Artifact
  versions : List Version

/-! ### The repository -/

def ArtifactStore.listVersions (s : ArtifactStore) (artifactId : PyStr) : List Version :=
  orderBy Version.number (s.versions.rows.filter fun v => v.artifactId = artifactId)

/-- `get_artifact`: one that is not deleted. -/
def ArtifactStore.getArtifact (s : ArtifactStore) (artifactId : PyStr) : Option ArtifactView :=
  ((s.artifacts.get? artifactId).filter fun a => a.deletedAt.isNone).map fun artifact =>
    { artifact, versions := s.listVersions artifactId }

def ArtifactStore.nextVersionNumber (s : ArtifactStore) (artifactId : PyStr) : ℕ :=
  ((s.listVersions artifactId).map Version.number).foldl max 0 + 1

/-- An insertion into `artifacts`. -/
def ArtifactStore.insertArtifact (s : ArtifactStore) (a : Artifact) : Option ArtifactStore :=
  if h : s.artifacts.get? a.id = none then some { s with artifacts := s.artifacts.insert a h }
  else none

/-- An insertion into `artifact_versions`. -/
def ArtifactStore.insertVersion (s : ArtifactStore) (v : Version) : Option ArtifactStore :=
  if h : s.versions.get? v.key = none then some { s with versions := s.versions.insert v h }
  else none

/-- An insertion into `artifact_shares`. -/
def ArtifactStore.insertShare (s : ArtifactStore) (share : Share) : Option ArtifactStore :=
  if h : s.shares.get? share.token = none then some { s with shares := s.shares.insert share h }
  else none

def Artifact.setCurrentVersion (a : Artifact) (versionId : PyStr) : Artifact :=
  if a.deletedAt.isNone then { a with currentVersionId := versionId } else a

theorem Artifact.id_setCurrentVersion (a : Artifact) (versionId : PyStr) :
    (a.setCurrentVersion versionId).id = a.id := by
  rw [setCurrentVersion]
  split <;> rfl

def ArtifactStore.setCurrentVersion (s : ArtifactStore) (artifactId versionId : PyStr) :
    ArtifactStore :=
  { s with
    artifacts := s.artifacts.modify artifactId (·.setCurrentVersion versionId) fun a =>
      a.id_setCurrentVersion versionId }

def Share.revoke (share : Share) (artifactId : PyStr) (now : Timestamp) : Share :=
  if share.artifactId = artifactId ∧ share.revokedAt = none then
    { share with revokedAt := some now }
  else share

theorem Share.token_revoke (share : Share) (artifactId : PyStr) (now : Timestamp) :
    (share.revoke artifactId now).token = share.token := by
  rw [revoke]
  split <;> rfl

def ArtifactStore.revokeShare (s : ArtifactStore) (artifactId token : PyStr) (now : Timestamp) :
    ArtifactStore :=
  { s with
    shares := s.shares.modify token (·.revoke artifactId now) fun share =>
      share.token_revoke artifactId now }

def ArtifactStore.revokeAllShares (s : ArtifactStore) (artifactId : PyStr) (now : Timestamp) :
    ArtifactStore :=
  { s with
    shares := s.shares.map (·.revoke artifactId now) fun share =>
      share.token_revoke artifactId now }

def ArtifactStore.active (s : ArtifactStore) (artifactId : PyStr) : List Share :=
  s.shares.rows.filter fun share => share.artifactId = artifactId ∧ share.revokedAt = none

def Share.view (share : Share) : Share := { share with viewCount := share.viewCount + 1 }

def ArtifactStore.incrementViewCount (s : ArtifactStore) (token : PyStr) : ArtifactStore :=
  { s with shares := s.shares.modify token Share.view fun _ => rfl }

/-! ### The service -/

/-- `ArtifactServiceError` and its subclasses, and other exceptions. -/
inductive ArtifactError where
  | notFound
  | permission
  | validation
  | service
  /-- `TypeError`: a time with a zone is compared with one that has none. -/
  | type
  deriving DecidableEq, Repr

abbrev ArtifactM := Except ArtifactError

/-- `ArtifactVersionCreateRequest`. -/
structure VersionRequest where
  body : Content
  instruction : Option PyStr := none
  number : Option ℕ := none

/-- `ArtifactCreateRequest`, with the ids that are drawn. -/
structure CreateRequest where
  artifactId : PyStr
  versionId : PyStr
  title : PyStr
  contentType : PyStr
  ownerOrgId : Option PyStr := none
  sourceSessionId : Option PyStr := none
  sourceMessageId : Option PyStr := none
  parentArtifactId : Option PyStr := none
  visibility : ArtifactVisibility := .owner
  aiRuntimeEnabled : Bool := false
  storageScope : ArtifactStorageScope := .none
  metadata : JsonDict := []
  version : VersionRequest

def VersionRequest.numberOr (r : VersionRequest) (n : ℕ) : ℕ := (r.number.filter (· ≠ 0)).getD n

def CreateRequest.artifact (r : CreateRequest) (userId : PyStr) : Artifact where
  id := r.artifactId
  ownerUserId := userId
  ownerOrgId := r.ownerOrgId
  title := PyStr.strip r.title
  contentType := r.contentType
  currentVersionId := r.versionId
  sourceSessionId := r.sourceSessionId
  sourceMessageId := r.sourceMessageId
  parentArtifactId := r.parentArtifactId
  visibility := r.visibility
  aiRuntimeEnabled := r.aiRuntimeEnabled
  storageScope := r.storageScope
  metadata := r.metadata

def VersionRequest.row (r : VersionRequest) (versionId artifactId userId : PyStr) (n : ℕ) :
    Version where
  id := versionId
  artifactId := artifactId
  number := r.numberOr n
  body := r.body
  instruction := r.instruction
  createdBy := userId

def createArtifact (s : ArtifactStore) (r : CreateRequest) (userId : PyStr) :
    ArtifactM (ArtifactView × ArtifactStore) := do
  check (PyStr.strip r.title ≠ []) .validation
  check (r.version.body.content ≠ []) .validation
  let created ← orRaise (s.insertArtifact (r.artifact userId)) .service
  let added ← orRaise (created.insertVersion (r.version.row r.versionId r.artifactId userId 1))
    .service
  let s' := added.setCurrentVersion r.artifactId r.versionId
  let fetched ← orRaise (s'.getArtifact r.artifactId) .service
  return (fetched, s')

def assertOwner (a : Artifact) (userId : PyStr) : ArtifactM Unit :=
  check (a.ownerUserId = userId) .permission

/-- `add_version`, with the id that is drawn. -/
def addVersion (s : ArtifactStore) (artifactId versionId : PyStr) (r : VersionRequest)
    (userId : PyStr) : ArtifactM (Version × ArtifactStore) := do
  let found ← orRaise (s.getArtifact artifactId) .notFound
  assertOwner found.artifact userId
  check (r.body.content ≠ []) .validation
  let version := r.row versionId artifactId userId (s.nextVersionNumber artifactId)
  let added ← orRaise (s.insertVersion version) .service
  return (version, added.setCurrentVersion artifactId versionId)

/-- `PublishArtifactRequest`, with the token that is drawn. -/
structure PublishRequest where
  userId : PyStr
  visibility : ArtifactShareVisibility
  versionPin : Option ℕ := none
  expiresAt : Option Timestamp := none
  orgId : Option PyStr := none
  token : PyStr

def publishArtifact (s : ArtifactStore) (artifactId : PyStr) (r : PublishRequest) :
    ArtifactM (Share × ArtifactStore) := do
  let found ← orRaise (s.getArtifact artifactId) .notFound
  assertOwner found.artifact r.userId
  let orgId := given r.orgId <|> given found.artifact.ownerOrgId
  check (r.visibility = .org → orgId.isSome) .validation
  check (∀ n ∈ r.versionPin, ∃ v ∈ found.versions, v.number = n) .validation
  let share : Share :=
    { token := r.token, artifactId, versionPin := r.versionPin, visibility := r.visibility, orgId
      createdBy := r.userId, expiresAt := r.expiresAt }
  let created ← orRaise (s.insertShare share) .service
  return (share, created)

/-- `revoke_artifact`: one share, or all. The result is how many were revoked. -/
def revokeArtifact (s : ArtifactStore) (now : Timestamp) (artifactId userId : PyStr)
    (token : Option PyStr) : ArtifactM (ℕ × ArtifactStore) := do
  let found ← orRaise (s.getArtifact artifactId) .notFound
  assertOwner found.artifact userId
  match given token with
  | some token =>
    return (((s.active artifactId).filter fun share => share.token = token).length,
      s.revokeShare artifactId token now)
  | none => return ((s.active artifactId).length, s.revokeAllShares artifactId now)

/-- `_share_is_active`. A time that comes from the database may have a zone, and then it cannot be
compared. -/
def shareIsActive (zoned : Bool) (now : Timestamp) (share : Share) : ArtifactM Bool :=
  if share.revokedAt.isSome then .ok false
  else
    match share.expiresAt with
    | none => .ok true
    | some t => if zoned then .error .type else .ok (now ≤ t)

def chooseVersion (versions : List Version) (targetNumber : Option ℕ) : Option Version :=
  match targetNumber with
  | some n => versions.find? fun v => v.number = n
  | none => versions.argmax Version.number

/-- `PublicArtifactResponse`. -/
structure PublicArtifact where
  view : ArtifactView
  version : Version
  visibility : ArtifactShareVisibility
  viewCount : ℕ
  expiresAt : Option Timestamp
  versionPin : Option ℕ

def readPublicShare (zoned : Bool) (s : ArtifactStore) (now : Timestamp) (token : PyStr)
    (version : Option ℕ) (orgId : Option PyStr) : ArtifactM (PublicArtifact × ArtifactStore) := do
  let share ← orRaise (s.shares.get? token) .notFound
  let active ← shareIsActive zoned now share
  check (active = true) .validation
  check (share.visibility = .org → (given share.orgId).isSome →
    (given orgId).isSome ∧ orgId = share.orgId) .permission
  let found ← orRaise (s.getArtifact share.artifactId) .notFound
  let targetNumber := version.filter (· ≠ 0) <|> share.versionPin
  let chosen ← orRaise (chooseVersion found.versions targetNumber) .validation
  return ({ view := found, version := chosen, visibility := share.visibility
            viewCount := share.viewCount + 1, expiresAt := share.expiresAt
            versionPin := share.versionPin }, s.incrementViewCount token)

/-- `RemixArtifactRequest`, with the ids that are drawn. -/
structure RemixRequest where
  token : PyStr
  userId : PyStr
  sourceSessionId : Option PyStr := none
  artifactId : PyStr
  versionId : PyStr

def RemixRequest.create (r : RemixRequest) (source : Artifact) (chosen : Version) :
    CreateRequest where
  artifactId := r.artifactId
  versionId := r.versionId
  title := "Remix of ".toList ++ source.title
  contentType := source.contentType
  parentArtifactId := some source.id
  sourceSessionId := r.sourceSessionId
  visibility := .owner
  aiRuntimeEnabled := source.aiRuntimeEnabled
  storageScope := source.storageScope
  metadata :=
    source.metadata.filter (fun entry => entry.1 ∉ ["remixed_from", "remixed_from_version"]) ++
      [("remixed_from", .str source.id), ("remixed_from_version", .int chosen.number)]
  version :=
    { body := chosen.body
      instruction := some ("Remixed from artifact ".toList ++ source.id ++ " v".toList ++
        (toString chosen.number).toList) }

/-- `remix_artifact`. A title of more than 500 characters is not accepted. -/
def remixArtifact (zoned : Bool) (s : ArtifactStore) (now : Timestamp) (r : RemixRequest) :
    ArtifactM (ArtifactView × ArtifactStore) := do
  let share ← orRaise (s.shares.get? r.token) .notFound
  let active ← shareIsActive zoned now share
  check (active = true) .validation
  let source ← orRaise (s.getArtifact share.artifactId) .notFound
  let chosen ← orRaise (chooseVersion source.versions share.versionPin) .validation
  let request := r.create source.artifact chosen
  check (request.title.length ≤ 500) .validation
  createArtifact s request r.userId

/-! ### Requests -/

inductive Request where
  | create (r : CreateRequest) (userId : PyStr)
  | addVersion (artifactId versionId : PyStr) (r : VersionRequest) (userId : PyStr)
  | publish (artifactId : PyStr) (r : PublishRequest)
  | revoke (artifactId userId : PyStr) (token : Option PyStr)
  | read (token : PyStr) (version : Option ℕ) (orgId : Option PyStr)
  | remix (r : RemixRequest)

def serve (zoned : Bool) (s : ArtifactStore) : Timestamp × Request → ArtifactStore
  | (_, .create r userId) => after (createArtifact s r userId)
  | (_, .addVersion artifactId versionId r userId) =>
    after (addVersion s artifactId versionId r userId)
  | (_, .publish artifactId r) => after (publishArtifact s artifactId r)
  | (now, .revoke artifactId userId token) => after (revokeArtifact s now artifactId userId token)
  | (now, .read token version orgId) => after (readPublicShare zoned s now token version orgId)
  | (now, .remix r) => after (remixArtifact zoned s now r)
where
  /-- The store that is left. -/
  after {α : Type} (result : ArtifactM (α × ArtifactStore)) : ArtifactStore :=
    (result.map Prod.snd).toOption.getD s

end IsaUser.Artifacts
