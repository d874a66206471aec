import IsaUser.Lib.Clocked
import IsaUser.Lib.Keyed

/-!
# Storage

Files are kept in an object store and recorded in a table. A quota record counts what a user
stores. It is looked at before an upload and charged after it, and credited after a deletion. A
file is shared by a share with a token.
-/

namespace IsaUser.Storage

/-! ### The tables -/

inductive FileStatus where
  | uploading
  | available
  | deleted
  | failed
  | archived
  deriving DecidableEq, Repr

/-- A row of `storage.storage_files`. -/
structure StoredFile where
  userId : PyStr
  fileName : PyStr
  fileSize : ℕ
  contentType : PyStr
  objectName : PyStr
  status : FileStatus := .available
  deriving DecidableEq

/-- A row of `storage.storage_quotas` of the type `user`. -/
structure StorageQuota where
  totalQuotaBytes : ℤ
  usedBytes : ℤ := 0
  fileCount : ℤ := 0
  maxFileSize : Option ℤ
  maxFileCount : Option ℤ
  isActive : Bool := true
  deriving DecidableEq

structure Permissions where
  view : Bool
  download : Bool
  delete : Bool
  deriving DecidableEq, Repr

/-- A row of `storage.file_shares`. -/
structure FileShare where
  fileId : PyStr
  sharedBy : PyStr
  sharedWith : Option PyStr
  sharedWithEmail : Option PyStr
  accessToken : PyStr
  password : Option PyStr
  permissions : List String
  maxDownloads : Option ℤ
  downloadCount : ℤ := 0
  expiresAt : Option Timestamp
  isActive : Bool := true
  deriving DecidableEq

/-- The files by their ids, the quotas by their users, and the shares by their ids. -/
structure StorageStore where
  files : Keyed PyStr StoredFile
  quotas : PyStr → Option StorageQuota
  shares : PyStr → Option FileShare

/-! ### Statements -/

inductive Call where
  | ensureBucket
  | uploadObject (objectName : PyStr)
  | getPresignedUrl (objectName : PyStr)
  | deleteObject (objectName : PyStr)
  | insertFile (fileId : PyStr) (file : StoredFile)
  | selectFile (fileId : PyStr) (userId : Option PyStr)
  | deleteFile (fileId userId : PyStr)
  | selectQuota (entityId : PyStr)
  | insertQuota (entityId : PyStr) (quota : StorageQuota)
  | updateUsage (entityId : PyStr) (bytesDelta fileCountDelta : ℤ)
  | insertShare (shareId : PyStr) (share : FileShare)
  | selectShare (shareId : PyStr)
  | incrementShareDownload (shareId : PyStr)
  deriving DecidableEq

def Call.Reply : Call → Type
  | ensureBucket => Unit
  | uploadObject _ => Unit
  | getPresignedUrl _ => PyStr
  | deleteObject _ => Unit
  | insertFile _ _ => ℕ
  | selectFile _ _ => Option StoredFile
  | deleteFile _ _ => ℕ
  | selectQuota _ => Option StorageQuota
  | insertQuota _ _ => ℕ
  | updateUsage _ _ _ => ℕ
  | insertShare _ _ => ℕ
  | selectShare _ => Option FileShare
  | incrementShareDownload _ => ℕ

@[reducible] def StorageApi : Interface := ⟨Call, Call.Reply⟩

/-- Why a call fails, or a request is refused. -/
inductive StorageError where
  | unavailable
  | uniqueViolation
  /-- "File type not allowed". -/
  | notAllowed
  /-- "File too large". -/
  | tooLarge
  /-- "Storage quota exceeded". -/
  | quotaExceeded
  /-- "File not found", "Share not found or expired". -/
  | notFound
  /-- "Invalid password". -/
  | invalidPassword
  /-- "Download limit exceeded". -/
  | limitExceeded
  /-- What is read of a share that is not there. -/
  | attributeError
  deriving DecidableEq, Repr

def StorageQuota.charge (quota : StorageQuota) (bytesDelta fileCountDelta : ℤ) : StorageQuota :=
  { quota with
    usedBytes := quota.usedBytes + bytesDelta
    fileCount := quota.fileCount + fileCountDelta }

def StoredFile.deletedBy (file : StoredFile) (userId : PyStr) : StoredFile :=
  if file.userId = userId then { file with status := .deleted } else file

def StorageStore.file? (s : StorageStore) (fileId : PyStr) (userId : Option PyStr) :
    Option StoredFile :=
  (s.files.get? fileId).filter fun file =>
    (∀ u ∈ userId, file.userId = u) ∧ file.status ≠ .deleted

def StorageStore.setQuota (s : StorageStore) (entityId : PyStr) (quota : Option StorageQuota) :
    StorageStore :=
  { s with quotas := Function.update s.quotas entityId quota }

def StorageStore.setShare (s : StorageStore) (shareId : PyStr) (share : Option FileShare) :
    StorageStore :=
  { s with shares := Function.update s.shares shareId share }

@[simp] theorem StorageStore.shares_setShare (s : StorageStore) (shareId : PyStr)
    (share : Option FileShare) : (s.setShare shareId share).shares shareId = share :=
  Function.update_self ..

theorem StorageStore.shares_setShare_of_ne (s : StorageStore) {shareId id : PyStr}
    (share : Option FileShare) (hne : id ≠ shareId) :
    (s.setShare shareId share).shares id = s.shares id :=
  Function.update_of_ne hne ..

def FileShare.count (share : FileShare) : FileShare :=
  { share with downloadCount := share.downloadCount + 1 }

def execute : Handler (StorageApi.fallible StorageError) StorageStore
  | .ensureBucket, s => (.ok (), s)
  | .uploadObject _, s => (.ok (), s)
  | .getPresignedUrl objectName, s => (.ok objectName, s)
  | .deleteObject _, s => (.ok (), s)
  | .insertFile fileId file, s =>
    if (s.files.get? fileId).isSome then (.error .uniqueViolation, s)
    else (.ok (1 : ℕ), { s with files := s.files.insert fileId file })
  | .selectFile fileId userId, s => (.ok (s.file? fileId userId), s)
  | .deleteFile fileId userId, s =>
    (.ok ((s.files.get? fileId).toList.countP fun file => file.userId = userId),
      { s with files := s.files.modify fileId (·.deletedBy userId) })
  | .selectQuota entityId, s =>
    (.ok ((s.quotas entityId).filter StorageQuota.isActive), s)
  | .insertQuota entityId quota, s =>
    if (s.quotas entityId).isSome then (.error .uniqueViolation, s)
    else (.ok (1 : ℕ), s.setQuota entityId (some quota))
  | .updateUsage entityId bytesDelta fileCountDelta, s =>
    (.ok (s.quotas entityId).toList.length, s.setQuota entityId
      ((s.quotas entityId).map (·.charge bytesDelta fileCountDelta)))
  | .insertShare shareId share, s =>
    if (s.shares shareId).isSome then (.error .uniqueViolation, s)
    else (.ok (1 : ℕ), s.setShare shareId (some share))
  | .selectShare shareId, s => (.ok ((s.shares shareId).filter FileShare.isActive), s)
  | .incrementShareDownload shareId, s =>
    (.ok (s.shares shareId).toList.length,
      s.setShare shareId ((s.shares shareId).map .count))

abbrev handle : Handler (StorageApi.timed.fallible StorageError) (Clocked StorageStore) :=
  Clocked.handle .unavailable execute

theorem handle_store {m : Clocked StorageStore} (c : Call) : (handle (.call c) m).2.store =
    if m.link = .down then m.store else (execute c m.store).2 := by
  change (m.link.pass StorageError.unavailable (execute c m.store) m.store).2 = _
  cases m.link <;> rfl

/-! ### The repository -/

abbrev StorageM := Prog (StorageApi.timed.fallible StorageError) StorageError

def ask (c : Call) : StorageM c.Reply := Prog.ask (I := StorageApi) id c

def now : StorageM Timestamp := Prog.now (I := StorageApi) id

/-- `get_file_by_id`: what fails is no file. -/
def getFileById (fileId : PyStr) (userId : Option PyStr) : StorageM (Option StoredFile) :=
  (ask (.selectFile fileId userId) : StorageM (Option StoredFile)).tryCatch fun _ => return none

def createFileRecord (fileId : PyStr) (file : StoredFile) : StorageM (Option StoredFile) := do
  let count : ℕ ← ask (.insertFile fileId file)
  if 0 < count then getFileById fileId (given (some file.userId))
  else return none

/-- `delete_file` of the repository. -/
def deleteFileRecord (fileId userId : PyStr) : StorageM Bool := do
  let count : ℕ ← ask (.deleteFile fileId userId)
  return decide (0 < count)

/-- `get_storage_quota`: what fails is no quota. -/
def getStorageQuota (entityId : PyStr) : StorageM (Option StorageQuota) :=
  (ask (.selectQuota entityId) : StorageM (Option StorageQuota)).tryCatch fun _ => return none

def defaultQuota : StorageQuota where
  totalQuotaBytes := 10737418240
  maxFileSize := some 524288000
  maxFileCount := some 10000

def createStorageQuota (entityId : PyStr) (quota : StorageQuota) :
    StorageM (Option StorageQuota) := do
  let count : ℕ ← ask (.insertQuota entityId quota)
  if 0 < count then getStorageQuota entityId
  else return none

def ensureQuota (entityId : PyStr) : Option StorageQuota → StorageM Unit
  | some _ => return ()
  | none => do
    let _ ← createStorageQuota entityId defaultQuota
    return ()

def updateStorageUsage (entityId : PyStr) (bytesDelta fileCountDelta : ℤ) : StorageM Bool := do
  let existingQuota ← getStorageQuota entityId
  ensureQuota entityId existingQuota
  let count : ℕ ← ask (.updateUsage entityId bytesDelta fileCountDelta)
  return decide (0 < count)

def Permissions.array (permissions : Permissions) : List String :=
  let array := (if permissions.view then ["read"] else []) ++
    (if permissions.download then ["download"] else []) ++
    (if permissions.delete then ["delete"] else [])
  if array = [] then ["read"] else array

def FileShare.permitted (share : FileShare) : Permissions where
  view := "read" ∈ share.permissions ∨ "view" ∈ share.permissions
  download := "download" ∈ share.permissions
  delete := "delete" ∈ share.permissions

/-- `get_file_share`, with the id of a share: what fails is no share. -/
def getFileShare (shareId : PyStr) : StorageM (Option FileShare) :=
  if shareId = [] then return none
  else (ask (.selectShare shareId) : StorageM (Option FileShare)).tryCatch fun _ => return none

def createFileShare (shareId : PyStr) (share : FileShare) : StorageM (Option FileShare) := do
  let count : ℕ ← ask (.insertShare shareId share)
  if 0 < count then getFileShare shareId
  else return none

/-- `increment_share_download`: what fails is passed over. -/
def incrementShareDownload (shareId : PyStr) : StorageM Bool :=
  Prog.tryCatch (ε := StorageError) (do
    let count : ℕ ← ask (.incrementShareDownload shareId)
    return decide (0 < count)) fun _ => return false

/-! ### The service -/

inductive Response where
  | uploaded (fileId downloadUrl : PyStr)
  | deleted (success : Bool)
  | shared (shareId : PyStr) (accessToken : Option PyStr) (expiresAt : Option Timestamp)
      (permissions : Permissions)
  | file (fileId : PyStr) (file : StoredFile) (downloadUrl : Option PyStr)
  | refused (error : StorageError)
  deriving DecidableEq

/-- The service: the types and the size that it allows, and the type that it guesses from a name. -/
structure StorageService where
  allowedTypes : List PyStr
  maxFileSize : ℤ := 524288000
  guessType : PyStr → Option PyStr

/-- The file and the request of an upload, with the id and the object name that are drawn. -/
structure Upload where
  userId : PyStr
  fileName : PyStr
  size : ℕ
  contentType : Option PyStr
  fileId : PyStr
  objectName : PyStr
  deriving DecidableEq

/-- `FileShareRequest`, with the id and the token that are drawn. -/
structure ShareRequest where
  fileId : PyStr
  sharedBy : PyStr
  sharedWith : Option PyStr := none
  sharedWithEmail : Option PyStr := none
  permissions : Permissions := { view := true, download := false, delete := false }
  password : Option PyStr := none
  expiresHours : ℕ := 24
  maxDownloads : Option ℤ := none
  shareId : PyStr
  accessToken : PyStr
  deriving DecidableEq

section Service

variable (service : StorageService)

def checkQuota (userId : PyStr) (fileSize : ℤ) : StorageM Bool := do
  match ← getStorageQuota userId with
  | none => return true
  | some quota =>
    return decide (quota.usedBytes + fileSize ≤ quota.totalQuotaBytes ∧
      ∀ size ∈ quota.maxFileSize, size ≠ 0 → fileSize ≤ size)

def Upload.file (u : Upload) (contentType : PyStr) : StoredFile :=
  { userId := u.userId, fileName := u.fileName, fileSize := u.size, contentType
    objectName := u.objectName }

/-- The end of `upload_file`, once the quota has been checked. -/
def storeFile (u : Upload) (contentType : PyStr) : StorageM Response := do
  let _ : Unit ← ask (.uploadObject u.objectName)
  let downloadUrl : PyStr ← ask (.getPresignedUrl u.objectName)
  let _ ← createFileRecord u.fileId (u.file contentType)
  let _ ← updateStorageUsage u.userId u.size 1
  return .uploaded u.fileId downloadUrl

def uploadFile (u : Upload) : StorageM Response := do
  let _ : Unit ← ask .ensureBucket
  match given u.contentType <|> service.guessType u.fileName with
  | none => .raise .notAllowed
  | some contentType =>
    if contentType ∉ service.allowedTypes then .raise .notAllowed
    else if service.maxFileSize < u.size then .raise .tooLarge
    else do
      let quotaOk ← checkQuota u.userId u.size
      if quotaOk = true then storeFile u contentType
      else .raise .quotaExceeded

def deleteObject (objectName : PyStr) (permanent : Bool) : StorageM Unit :=
  if permanent = true then
    (ask (.deleteObject objectName) : StorageM Unit).tryCatch fun _ => return ()
  else return ()

def credit (file : StoredFile) (userId : PyStr) (success : Bool) : StorageM Response :=
  if success = true then do
    let _ ← updateStorageUsage userId (-(file.fileSize : ℤ)) (-1)
    return .deleted true
  else return .deleted false

def deleteFile (fileId userId : PyStr) (permanent : Bool) : StorageM Response := do
  match ← getFileById fileId (given (some userId)) with
  | none => .raise .notFound
  | some file => do
    deleteObject file.objectName permanent
    let success ← deleteFileRecord fileId userId
    credit file userId success

def ShareRequest.share (r : ShareRequest) (now : Timestamp) : FileShare :=
  { fileId := r.fileId
    sharedBy := r.sharedBy
    sharedWith := r.sharedWith
    sharedWithEmail := r.sharedWithEmail
    accessToken := r.accessToken
    password := r.password
    permissions := r.permissions.array
    maxDownloads := r.maxDownloads
    expiresAt := some (now + seconds (3600 * r.expiresHours)) }

def shareFile (r : ShareRequest) : StorageM Response := do
  match ← getFileById r.fileId (given (some r.sharedBy)) with
  | none => .raise .notFound
  | some _ => do
    let time ← now
    match ← createFileShare r.shareId (r.share time) with
    | none => .raise .attributeError
    | some share =>
      return .shared r.shareId (if (given r.password).isSome then none else some r.accessToken)
        share.expiresAt share.permitted

def sharedUrl (file : StoredFile) (permissions : Permissions) : StorageM (Option PyStr) :=
  if permissions.view = true ∨ permissions.download = true then
    Prog.tryCatch (ε := StorageError) (do
      let url : PyStr ← ask (.getPresignedUrl file.objectName)
      return some url) fun _ => return none
  else return none

def countDownload (shareId : PyStr) (permissions : Permissions) : StorageM Unit :=
  if permissions.download = true then do
    let _ ← incrementShareDownload shareId
    return ()
  else return ()

def FileShare.Exhausted (share : FileShare) : Prop :=
  ∃ n ∈ share.maxDownloads, n ≠ 0 ∧ n ≤ share.downloadCount
  deriving Decidable

/-- `get_shared_file`. The token goes to a parameter that is not looked at. -/
def getSharedFile (shareId : PyStr) (_accessToken password : Option PyStr) : StorageM Response := do
  match ← getFileShare shareId with
  | none => .raise .notFound
  | some share =>
    if (given share.password).isSome ∧ share.password ≠ password then .raise .invalidPassword
    else if share.Exhausted then .raise .limitExceeded
    else do
      match ← getFileById share.fileId none with
      | none => .raise .notFound
      | some file => do
        countDownload shareId share.permitted
        let url ← sharedUrl file share.permitted
        return .file share.fileId file url

/-! ### Requests -/

inductive Request where
  | upload (u : Upload)
  | delete (fileId userId : PyStr) (permanent : Bool)
  | share (r : ShareRequest)
  | getShared (shareId : PyStr) (accessToken password : Option PyStr)
  deriving DecidableEq

def Request.serve (request : Request) : StorageM Response :=
  Prog.tryCatch (ε := StorageError)
    (match request with
    | upload u => uploadFile service u
    | delete fileId userId permanent => deleteFile fileId userId permanent
    | share r => shareFile r
    | getShared shareId accessToken password => getSharedFile shareId accessToken password)
    fun e => return .refused e

abbrev StoragePast := Past (StorageApi.timed.fallible StorageError) (Clocked StorageStore)

abbrev StoragePool (ι : Type*) :=
  Pool (StorageApi.timed.fallible StorageError) StorageError Response ι (Clocked StorageStore)

def StoragePool.start {ι : Type*} (requests : ι → Request) (m : Clocked StorageStore) :
    StoragePool ι :=
  Pool.start m fun i => (requests i).serve service

abbrev StorageRun {ι : Type*} [DecidableEq ι]
    (A : ι → StoragePast → Clocked StorageStore → Timed Call → Prop) :
    StoragePool ι → StoragePool ι → Prop :=
  Pool.Reach handle Clocked.Shifts fun i past => A i (past i)

end Service

/-! ### Reads under interference -/

def fileAt (fileId : PyStr) (userId : Option PyStr) (m : Clocked StorageStore) :
    Option StoredFile :=
  if m.link = .up then m.store.file? fileId userId else none

def quotaAt (userId : PyStr) (m : Clocked StorageStore) : Option StorageQuota :=
  if m.link = .up then (m.store.quotas userId).filter StorageQuota.isActive else none

def shareAt (shareId : PyStr) (m : Clocked StorageStore) : Option FileShare :=
  if m.link = .up then (m.store.shares shareId).filter FileShare.isActive else none

section Reads

variable {α : Type} {T : Terms (Clocked StorageStore)}
  {A G : StoragePast → Clocked StorageStore → Timed Call → Prop}
  {Q : Except StorageError α → StoragePast → Clocked StorageStore → Prop} {past : StoragePast}
  {m : Clocked StorageStore}

theorem sound_getFileById {fileId : PyStr} {userId : Option PyStr}
    {f : Option StoredFile → StorageM α}
    (hread : ∀ m', T.rel m m' → T.inv m' → G past m' (.call (.selectFile fileId userId)) ∧
      (A past m' (.call (.selectFile fileId userId)) →
        (f (fileAt fileId userId m')).Sound T handle A G Q
          ((m', .call (.selectFile fileId userId)) :: past) m')) :
    (getFileById fileId userId >>= f).Sound T handle A G Q past m := by
  intro m' hm' hi
  obtain ⟨hG, hf⟩ := hread m' hm' hi
  refine ⟨hG, fun hA => ?_⟩
  have hf := hf hA
  obtain ⟨store, clock, link⟩ := m'
  cases link <;> exact hf

theorem sound_getStorageQuota {userId : PyStr} {f : Option StorageQuota → StorageM α}
    (hread : ∀ m', T.rel m m' → T.inv m' → G past m' (.call (.selectQuota userId)) ∧
      (A past m' (.call (.selectQuota userId)) → (f (quotaAt userId m')).Sound T handle A G Q
        ((m', .call (.selectQuota userId)) :: past) m')) :
    (getStorageQuota userId >>= f).Sound T handle A G Q past m := by
  intro m' hm' hi
  obtain ⟨hG, hf⟩ := hread m' hm' hi
  refine ⟨hG, fun hA => ?_⟩
  have hf := hf hA
  obtain ⟨store, clock, link⟩ := m'
  cases link <;> exact hf

theorem sound_getFileShare {shareId : PyStr} {f : Option FileShare → StorageM α}
    (hempty : shareId = [] → (f none).Sound T handle A G Q past m)
    (hread : ∀ m', T.rel m m' → T.inv m' → G past m' (.call (.selectShare shareId)) ∧
      (A past m' (.call (.selectShare shareId)) → (f (shareAt shareId m')).Sound T handle A G Q
        ((m', .call (.selectShare shareId)) :: past) m')) :
    (getFileShare shareId >>= f).Sound T handle A G Q past m := by
  by_cases h : shareId = []
  · have hnone : getFileShare shareId = .ret none := if_pos h
    rw [hnone]
    exact hempty h
  · have hask : getFileShare shareId = (ask (.selectShare shareId) :
        StorageM (Option FileShare)).tryCatch fun _ => return none := if_neg h
    rw [hask]
    intro m' hm' hi
    obtain ⟨hG, hf⟩ := hread m' hm' hi
    refine ⟨hG, fun hA => ?_⟩
    have hf := hf hA
    obtain ⟨store, clock, link⟩ := m'
    cases link <;> exact hf

theorem sound_ask {c : Call}
    {Q : Except StorageError c.Reply → StoragePast → Clocked StorageStore → Prop}
    (hcall : ∀ m', T.rel m m' → T.inv m' → G past m' (.call c) ∧ (A past m' (.call c) →
      ∀ m'', T.rel (handle (.call c) m').2 m'' → T.inv m'' →
        Q (handle (.call c) m').1 ((m', .call c) :: past) m'')) :
    (ask c).Sound T handle A G Q past m := by
  refine Prog.sound_query (I := StorageApi.timed) (c := Timed.call c) fun m' hm' hi => ?_
  obtain ⟨hG, hQ⟩ := hcall m' hm' hi
  refine ⟨hG, fun hA m'' hm'' hi' => ?_⟩
  have hQ := hQ hA m'' hm'' hi'
  revert hQ
  cases (handle (.call c) m').1 <;> exact fun hQ => hQ

end Reads

end IsaUser.Storage
