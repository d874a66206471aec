import IsaUser.Lib.Clocked
import IsaUser.Lib.Json

/-!
# Vault

Secrets are stored encrypted. What is needed to decrypt one, the encrypted key, its salt and the
nonce, stands in the metadata, next to what the callers put there. A secret can be shared; a
secret that is deleted is inactive.
-/

open IsaUser.Prog

namespace IsaUser.Vault

/-! ### The cipher layer -/

/-- What `encrypt_secret` returns, as base64. -/
structure Components where
  data : PyStr
  dek : PyStr
  salt : PyStr
  nonce : PyStr
  deriving DecidableEq

/-- `VaultEncryption`: a secret is encrypted for a user, with what is drawn. -/
structure VaultCipher where
  encrypt : PyStr → PyStr → PyStr → Components
  decrypt : Components → PyStr → Option PyStr
  decrypt_encrypt : ∀ plain userId drawn, decrypt (encrypt plain userId drawn) userId = some plain

def keyNames : List String := ["dek_encrypted", "kek_salt", "nonce"]

def Components.metadata (c : Components) : JsonDict :=
  [("dek_encrypted", .str c.dek), ("kek_salt", .str c.salt), ("nonce", .str c.nonce)]

/-- `{**a, **b}`. -/
def merge (a b : JsonDict) : JsonDict :=
  b ++ a.filter fun entry => (JsonDict.get? b entry.1).isNone

theorem get?_merge (a b : JsonDict) (name : String) :
    (merge a b).get? name = (b.get? name).or (a.get? name) := by
  have hrest : b.get? name = none →
      (a.filter fun entry => (JsonDict.get? b entry.1).isNone).lookup name = a.lookup name := by
    intro hnone
    induction a with
    | nil => rfl
    | cons entry a ih =>
      obtain ⟨key, value⟩ := entry
      rcases eq_or_ne name key with rfl | hne
      · simp [hnone]
      · have hbeq : (name == key) = false := beq_false_of_ne hne
        rw [List.filter_cons, List.lookup_cons, hbeq]
        split
        · simpa only [List.lookup_cons, hbeq] using ih
        · exact ih
  rw [merge, JsonDict.get?, List.lookup_append]
  cases hb : b.get? name with
  | none =>
    rw [hrest hb, show b.lookup name = none from hb]
    rfl
  | some value =>
    rw [show b.lookup name = some value from hb]
    rfl

/-! ### The tables -/

/-- The column `encrypted_value`; what was encrypted is there for the law alone. -/
structure EncryptedValue where
  data : PyStr
  plain : PyStr
  deriving DecidableEq

/-- A row of `vault.vault_items`; whether it was deleted, and not made active since, is there for
the law alone. -/
structure VaultItem where
  userId : PyStr
  name : PyStr
  description : Option PyStr
  encryptedValue : EncryptedValue
  metadata : JsonDict
  tags : List PyStr
  version : ℤ := 1
  expiresAt : Option Timestamp
  isActive : Bool := true
  rotationEnabled : Bool
  rotationDays : Option ℤ
  deleted : Bool := false

inductive PermissionLevel where
  | read
  | readWrite
  deriving DecidableEq, Repr

/-- A row of `vault.vault_shares`. -/
structure VaultShare where
  shareId : PyStr
  vaultId : PyStr
  ownerUserId : PyStr
  sharedWithUserId : Option PyStr
  sharedWithOrgId : Option PyStr
  permissionLevel : PermissionLevel
  expiresAt : Option Timestamp
  isActive : Bool := true
  deriving DecidableEq

/-- The secrets by their ids, and the shares in the order in which they are found. -/
structure VaultStore where
  items : PyStr → Option VaultItem
  shares : List VaultShare

structure UpdateData where
  name : Option PyStr := none
  description : Option PyStr := none
  metadata : Option JsonDict := none
  tags : Option (List PyStr) := none
  expiresAt : Option Timestamp := none
  rotationEnabled : Option Bool := none
  rotationDays : Option ℤ := none
  isActive : Option Bool := none
  encryptedValue : Option EncryptedValue := none
  version : Option ℤ := none

def VaultItem.update (item : VaultItem) (data : UpdateData) : VaultItem :=
  { item with
    name := data.name.getD item.name
    description := data.description.or item.description
    metadata := data.metadata.getD item.metadata
    tags := data.tags.getD item.tags
    expiresAt := data.expiresAt.or item.expiresAt
    rotationEnabled := data.rotationEnabled.getD item.rotationEnabled
    rotationDays := data.rotationDays.or item.rotationDays
    isActive := data.isActive.getD item.isActive
    encryptedValue := data.encryptedValue.getD item.encryptedValue
    version := data.version.getD item.version
    deleted := item.deleted && data.isActive ≠ some true }

def VaultItem.delete (item : VaultItem) : VaultItem :=
  { item with isActive := false, deleted := true }

/-! ### Statements -/

inductive Call where
  | insertItem (vaultId : PyStr) (item : VaultItem)
  | selectItem (vaultId : PyStr)
  | updateItem (vaultId : PyStr) (data : UpdateData)
  | deleteItem (vaultId : PyStr)
  | insertShare (share : VaultShare)
  | selectShares (vaultId : PyStr)
  | revokeShare (shareId : PyStr)

def Call.Reply : Call → Type
  | insertItem _ _ => Unit
  | selectItem _ => Option VaultItem
  | updateItem _ _ => ℕ
  | deleteItem _ => ℕ
  | insertShare _ => Unit
  | selectShares _ => List VaultShare
  | revokeShare _ => ℕ

@[reducible] def VaultApi : Interface := ⟨Call, Call.Reply⟩

inductive VaultError where
  | unavailable
  | uniqueViolation
  | checkViolation
  /-- What is read of a row that is not there. -/
  | attributeError
  /-- A time that cannot be compared. -/
  | typeError
  deriving DecidableEq, Repr

def VaultStore.insertItem (s : VaultStore) (vaultId : PyStr) (item : VaultItem) : VaultStore :=
  { s with items := Function.update s.items vaultId (some item) }

@[simp] theorem VaultStore.items_insertItem (s : VaultStore) (vaultId : PyStr) (item : VaultItem) :
    (s.insertItem vaultId item).items vaultId = some item :=
  Function.update_self ..

theorem VaultStore.items_insertItem_of_ne (s : VaultStore) {vaultId id : PyStr} (item : VaultItem)
    (hne : id ≠ vaultId) : (s.insertItem vaultId item).items id = s.items id :=
  Function.update_of_ne hne ..

def VaultStore.modifyItem (s : VaultStore) (vaultId : PyStr) (f : VaultItem → VaultItem) :
    VaultStore :=
  { s with items := Function.update s.items vaultId ((s.items vaultId).map f) }

@[simp] theorem VaultStore.items_modifyItem (s : VaultStore) (vaultId : PyStr)
    (f : VaultItem → VaultItem) :
    (s.modifyItem vaultId f).items vaultId = (s.items vaultId).map f :=
  Function.update_self ..

theorem VaultStore.items_modifyItem_of_ne (s : VaultStore) {vaultId id : PyStr}
    (f : VaultItem → VaultItem) (hne : id ≠ vaultId) :
    (s.modifyItem vaultId f).items id = s.items id :=
  Function.update_of_ne hne ..

def execute : Handler (VaultApi.fallible VaultError) VaultStore
  | .insertItem vaultId item, s =>
    if (s.items vaultId).isSome then (.error .uniqueViolation, s)
    else (.ok (), s.insertItem vaultId item)
  | .selectItem vaultId, s => (.ok (s.items vaultId), s)
  | .updateItem vaultId data, s =>
    (.ok (s.items vaultId).toList.length, s.modifyItem vaultId (·.update data))
  | .deleteItem vaultId, s =>
    (.ok (s.items vaultId).toList.length, s.modifyItem vaultId .delete)
  | .insertShare share, s =>
    if share.shareId ∈ s.shares.map VaultShare.shareId then (.error .uniqueViolation, s)
    else if share.sharedWithUserId = none ∧ share.sharedWithOrgId = none then
      (.error .checkViolation, s)
    else (.ok (), { s with shares := s.shares ++ [share] })
  | .selectShares vaultId, s =>
    (.ok (s.shares.filter fun share => share.vaultId = vaultId ∧ share.isActive = true), s)
  | .revokeShare shareId, s =>
    (.ok (s.shares.countP fun share => share.shareId = shareId),
      { s with shares := s.shares.map fun share =>
          if share.shareId = shareId then { share with isActive := false } else share })

abbrev handle : Handler (VaultApi.timed.fallible VaultError) (Clocked VaultStore) :=
  Clocked.handle .unavailable execute

def Shifts (m m' : Clocked VaultStore) : Prop :=
  m'.store.items = m.store.items ∧ m'.store.shares.Perm m.store.shares ∧ m.clock ≤ m'.clock

/-! ### What every call keeps -/

def VaultStore.All (P : VaultItem → Prop) (s : VaultStore) : Prop :=
  ∀ vaultId, ∀ item ∈ s.items vaultId, P item

def VaultStore.Related (R : VaultItem → VaultItem → Prop) (s s' : VaultStore) : Prop :=
  ∀ vaultId, ∀ item ∈ s.items vaultId, ∃ item' ∈ s'.items vaultId, R item item'

section Keeps

variable {P : VaultItem → Prop} {R : VaultItem → VaultItem → Prop} {m m' : Clocked VaultStore}

theorem VaultStore.Related.refl (hrefl : ∀ item, R item item) (s : VaultStore) : s.Related R s :=
  fun _ item hitem => ⟨item, hitem, hrefl item⟩

theorem VaultStore.Related.trans (htrans : ∀ a b c, R a b → R b c → R a c)
    {s₁ s₂ s₃ : VaultStore} (h : s₁.Related R s₂) (h' : s₂.Related R s₃) : s₁.Related R s₃ := by
  intro vaultId item hitem
  obtain ⟨item₂, hitem₂, hR₂⟩ := h vaultId item hitem
  obtain ⟨item₃, hitem₃, hR₃⟩ := h' vaultId item₂ hitem₂
  exact ⟨item₃, hitem₃, htrans _ _ _ hR₂ hR₃⟩

def itemTerms (P : VaultItem → Prop) (R : VaultItem → VaultItem → Prop)
    (hrefl : ∀ item, R item item) (htrans : ∀ a b c, R a b → R b c → R a c) :
    Terms (Clocked VaultStore) :=
  Clocked.terms {
    inv := VaultStore.All P
    rel := VaultStore.Related R
    rel_refl := .refl hrefl
    rel_trans := .trans htrans }

theorem VaultStore.modifyItem_keeps (hrefl : ∀ item, R item item) {s : VaultStore}
    {vaultId : PyStr} {f : VaultItem → VaultItem} (hs : s.All P)
    (hf : ∀ item ∈ s.items vaultId, P (f item) ∧ R item (f item)) :
    (s.modifyItem vaultId f).All P ∧ s.Related R (s.modifyItem vaultId f) := by
  refine ⟨fun id item hitem => ?_, fun id item hitem => ?_⟩
  · rcases eq_or_ne id vaultId with rfl | hne
    · rw [s.items_modifyItem] at hitem
      obtain ⟨item₀, hitem₀, rfl⟩ := Option.mem_map.mp hitem
      exact (hf item₀ hitem₀).1
    · rw [s.items_modifyItem_of_ne f hne] at hitem
      exact hs id item hitem
  · rcases eq_or_ne id vaultId with rfl | hne
    · refine ⟨f item, ?_, (hf item hitem).2⟩
      rw [s.items_modifyItem]
      exact Option.mem_map_of_mem _ hitem
    · refine ⟨item, ?_, hrefl item⟩
      rw [s.items_modifyItem_of_ne f hne]
      exact hitem

theorem handle_keeps (hrefl : ∀ item, R item item) {c : Timed Call} (hm : m.store.All P)
    (hinsert : ∀ vaultId item, c = .call (.insertItem vaultId item) → P item)
    (hupdate : ∀ vaultId data, c = .call (.updateItem vaultId data) → m.link ≠ .down →
      ∀ item ∈ m.store.items vaultId, P (item.update data) ∧ R item (item.update data))
    (hdelete : ∀ item, P item → P item.delete ∧ R item item.delete) :
    (handle c m).2.store.All P ∧ m.store.Related R (handle c m).2.store := by
  have hsame : m.store.All P ∧ m.store.Related R m.store := ⟨hm, .refl hrefl _⟩
  cases c with
  | now => exact hsame
  | call c =>
    suffices hexecuted : m.link ≠ .down →
        (execute c m.store).2.All P ∧ m.store.Related R (execute c m.store).2 by
      change VaultStore.All P (m.link.pass VaultError.unavailable (execute c m.store) m.store).2 ∧
        m.store.Related R (m.link.pass _ _ _).2
      cases hlink : m.link with
      | down => exact hsame
      | up => exact hexecuted (by rw [hlink]; exact nofun)
      | lost => exact hexecuted (by rw [hlink]; exact nofun)
    intro hlink
    cases c with
    | insertItem vaultId item =>
      rw [execute]
      split
      · exact hsame
      · next hnone =>
          refine ⟨fun id item' hitem' => ?_, fun id item' hitem' => ?_⟩
          · rcases eq_or_ne id vaultId with rfl | hne
            · rw [m.store.items_insertItem] at hitem'
              obtain rfl := Option.some.inj hitem'
              exact hinsert id item rfl
            · rw [m.store.items_insertItem_of_ne item hne] at hitem'
              exact hm id item' hitem'
          · have hne : id ≠ vaultId := by
              rintro rfl
              exact hnone (by rw [hitem']; rfl)
            refine ⟨item', ?_, hrefl item'⟩
            rw [m.store.items_insertItem_of_ne item hne]
            exact hitem'
    | updateItem vaultId data =>
      exact VaultStore.modifyItem_keeps hrefl hm (hupdate vaultId data rfl hlink)
    | deleteItem vaultId =>
      exact VaultStore.modifyItem_keeps hrefl hm fun item hitem =>
        hdelete item (hm vaultId item hitem)
    | selectItem vaultId => exact hsame
    | selectShares vaultId => exact hsame
    | revokeShare shareId => exact hsame
    | insertShare share =>
      rw [execute]
      split
      · exact hsame
      · split <;> exact hsame

theorem keeps_of_shifts (hrefl : ∀ item, R item item) (hm : m.store.All P) (h : Shifts m m') :
    m'.store.All P ∧ m.store.Related R m'.store := by
  obtain ⟨hitems, -, -⟩ := h
  refine ⟨fun vaultId item hitem => hm vaultId item ?_, fun vaultId item hitem =>
    ⟨item, ?_, hrefl item⟩⟩
  · rwa [hitems] at hitem
  · rwa [hitems]

end Keeps

/-! ### The repository -/

abbrev VaultM := Prog (VaultApi.timed.fallible VaultError) VaultError

def ask (c : Call) : VaultM c.Reply := Prog.ask (I := VaultApi) id c

def now : VaultM Timestamp := Prog.now (I := VaultApi) id

/-- `get_vault_item`: what fails is no secret. -/
def getVaultItem (vaultId : PyStr) : VaultM (Option VaultItem) :=
  (ask (.selectItem vaultId) : VaultM (Option VaultItem)).tryCatch fun _ => return none

/-- `create_vault_item`: what fails is not created. -/
def createVaultItem (vaultId : PyStr) (item : VaultItem) : VaultM Bool :=
  Prog.tryCatch (ε := VaultError) (do
    let _ : Unit ← ask (.insertItem vaultId item)
    return true) fun _ => return false

def found (p : VaultM ℕ) : VaultM Bool :=
  Prog.tryCatch (ε := VaultError) (do
    let count ← p
    return decide (0 < count)) fun _ => return false

def updateVaultItem (vaultId : PyStr) (data : UpdateData) : VaultM Bool :=
  found (ask (.updateItem vaultId data))

def deleteVaultItem (vaultId : PyStr) : VaultM Bool := found (ask (.deleteItem vaultId))

def revokeShare (shareId : PyStr) : VaultM Bool := found (ask (.revokeShare shareId))

def createShare (share : VaultShare) : VaultM Bool :=
  Prog.tryCatch (ε := VaultError) (do
    let _ : Unit ← ask (.insertShare share)
    return true) fun _ => return false

/-- `get_shares_for_vault`: what fails is no share. -/
def getSharesForVault (vaultId : PyStr) : VaultM (List VaultShare) :=
  (ask (.selectShares vaultId) : VaultM (List VaultShare)).tryCatch fun _ => return []

/-- What `check_user_access` answers. -/
inductive Access where
  | owner
  | shared (level : PermissionLevel)
  deriving DecidableEq, Repr

def VaultShare.LiveFor (share : VaultShare) (userId : PyStr) (now : Timestamp) : Prop :=
  share.sharedWithUserId = some userId ∧ ∀ t ∈ share.expiresAt, now ≤ t

instance (share : VaultShare) (userId : PyStr) (now : Timestamp) :
    Decidable (share.LiveFor userId now) :=
  inferInstanceAs (Decidable (_ ∧ ∀ t ∈ share.expiresAt, now ≤ t))

/-- `check_user_access`: the level of the first share that is found. -/
def checkUserAccess (vaultId userId : PyStr) : VaultM (Option Access) := do
  let item ← getVaultItem vaultId
  if item.map VaultItem.userId = some userId then return some .owner
  else do
    let shares ← getSharesForVault vaultId
    let time ← now
    return (shares.find? fun share => share.LiveFor userId time).map
      fun share => .shared share.permissionLevel

/-! ### The service -/

inductive Refusal where
  /-- "Access denied". -/
  | accessDenied
  /-- "Secret not found". -/
  | notFound
  /-- "Secret is inactive". -/
  | inactive
  /-- "Secret has expired". -/
  | expired
  /-- "Failed to decrypt secret". -/
  | decryptFailed
  /-- What else fails: "Failed to ...". -/
  | failed
  deriving DecidableEq, Repr

inductive Response where
  | created (vaultId : PyStr)
  | secret (value : PyStr) (item : VaultItem)
  | updated (item : VaultItem)
  | deleted
  | shared (share : VaultShare)
  | revoked (found : Bool)
  | refused (reason : Refusal)

/-- The vault: its cipher, and what `fromisoformat` makes of the value that the client returns for
a time: `none` where it raises, or where the time has an offset, since `utcnow()` has none and the
two cannot be compared. -/
structure VaultService where
  cipher : VaultCipher
  fromIsoFormat : Timestamp → Option Timestamp

section Service

variable (service : VaultService)

/-- `VaultCreateRequest`. -/
structure CreateRequest where
  name : PyStr
  description : Option PyStr := none
  secretValue : PyStr
  metadata : JsonDict := []
  tags : List PyStr := []
  expiresAt : Option Timestamp := none
  rotationEnabled : Bool := false
  rotationDays : Option ℤ := none

/-- `VaultUpdateRequest`. -/
structure UpdateRequest where
  name : Option PyStr := none
  description : Option PyStr := none
  secretValue : Option PyStr := none
  metadata : Option JsonDict := none
  tags : Option (List PyStr) := none
  expiresAt : Option Timestamp := none
  rotationEnabled : Option Bool := none
  rotationDays : Option ℤ := none
  isActive : Option Bool := none

/-- `VaultShareRequest`. -/
structure ShareRequest where
  sharedWithUserId : Option PyStr := none
  sharedWithOrgId : Option PyStr := none
  permissionLevel : PermissionLevel := .read
  expiresAt : Option Timestamp := none

def answering (p : VaultM Response) : VaultM Response := p.tryCatch fun _ =>
  return .refused .failed

def CreateRequest.item (userId : PyStr) (r : CreateRequest) (drawn : PyStr) : VaultItem :=
  let components := service.cipher.encrypt r.secretValue userId drawn
  { userId
    name := r.name
    description := r.description
    encryptedValue := { data := components.data, plain := r.secretValue }
    metadata := merge r.metadata components.metadata
    tags := r.tags
    expiresAt := r.expiresAt
    rotationEnabled := r.rotationEnabled
    rotationDays := r.rotationDays }

/-- `create_secret`, with the id and what else is drawn. -/
def createSecret (userId : PyStr) (r : CreateRequest) (vaultId drawn : PyStr) : VaultM Response :=
  answering do
    let created ← createVaultItem vaultId (r.item service userId drawn)
    if created = true then return .created vaultId
    else return .refused .failed

def textAt (metadata : JsonDict) (name : String) : Option PyStr :=
  match metadata.get? name with
  | some (.str s) => some s
  | _ => none

def VaultItem.components (item : VaultItem) : Option Components := do
  let dek ← textAt item.metadata "dek_encrypted"
  let salt ← textAt item.metadata "kek_salt"
  let nonce ← textAt item.metadata "nonce"
  return { data := item.encryptedValue.data, dek, salt, nonce }

def VaultItem.decrypted (item : VaultItem) : Option PyStr :=
  item.components.bind fun components => service.cipher.decrypt components item.userId

/-- A secret is revealed, once it is known to be active and not expired. -/
def reveal (item : VaultItem) (decrypt : Bool) : Response :=
  if decrypt = true then
    match item.decrypted service with
    | none => .refused .decryptFailed
    | some value => .secret value item
  else .secret "[ENCRYPTED]".toList item

def getSecret (vaultId userId : PyStr) (decrypt : Bool) : VaultM Response :=
  answering do
    match ← checkUserAccess vaultId userId with
    | none => return .refused .accessDenied
    | some _ => do
      match ← getVaultItem vaultId with
      | none => return .refused .notFound
      | some item =>
        if item.isActive = false then return .refused .inactive
        else match item.expiresAt with
          | none => return reveal service item decrypt
          | some t =>
            match service.fromIsoFormat t with
            | none => .raise .typeError
            | some expiresAt => do
              let time ← now
              if expiresAt < time then return .refused .expired
              else return reveal service item decrypt

def UpdateRequest.data (r : UpdateRequest) : UpdateData :=
  { name := given r.name
    description := r.description
    tags := r.tags.filter (· ≠ [])
    expiresAt := r.expiresAt
    rotationEnabled := r.rotationEnabled
    rotationDays := r.rotationDays.filter (· ≠ 0)
    isActive := r.isActive }

def mergedMetadata (vaultId : PyStr) (metadata : Option JsonDict) :
    VaultM (Option JsonDict) :=
  match metadata.filter fun entries => entries.length ≠ 0 with
  | none => return none
  | some entries => do
    match ← getVaultItem vaultId with
    | none => .raise .attributeError
    | some item => return some (merge item.metadata entries)

def withValue (vaultId : PyStr) (secretValue : Option PyStr) (drawn : PyStr) (data : UpdateData) :
    VaultM UpdateData :=
  match given secretValue with
  | none => return data
  | some plain => do
    match ← getVaultItem vaultId with
    | none => .raise .attributeError
    | some item =>
      let components := service.cipher.encrypt plain item.userId drawn
      return { data with
        encryptedValue := some { data := components.data, plain }
        version := some (item.version + 1)
        metadata := some (merge item.metadata components.metadata) }

def Access.Writes : Option Access → Prop
  | some .owner => True
  | some (.shared level) => level = .readWrite
  | none => False

instance : (access : Option Access) → Decidable (Access.Writes access)
  | some .owner => .isTrue trivial
  | some (.shared level) => inferInstanceAs (Decidable (level = .readWrite))
  | none => .isFalse id

/-- The end of `update_secret`: the row is written and read back. -/
def writeUpdate (vaultId : PyStr) (data : UpdateData) : VaultM Response := do
  let success ← updateVaultItem vaultId data
  if success = true then do
    match ← getVaultItem vaultId with
    | none => .raise .typeError
    | some item => return .updated item
  else return .refused .failed

def updateSecret (vaultId userId : PyStr) (r : UpdateRequest) (drawn : PyStr) : VaultM Response :=
  answering do
    let permission ← checkUserAccess vaultId userId
    if Access.Writes permission then do
      let metadata ← mergedMetadata vaultId r.metadata
      let data ← withValue service vaultId r.secretValue drawn { r.data with metadata }
      writeUpdate vaultId data
    else return .refused .accessDenied

def rotateSecret (vaultId userId newSecretValue drawn : PyStr) : VaultM Response :=
  updateSecret service vaultId userId { secretValue := some newSecretValue } drawn

def forOwner (vaultId userId : PyStr) (p : VaultM Response) : VaultM Response :=
  answering do
    let item ← getVaultItem vaultId
    if item.map VaultItem.userId = some userId then p
    else return .refused .accessDenied

def deleteSecret (vaultId userId : PyStr) : VaultM Response :=
  forOwner vaultId userId do
    let success ← deleteVaultItem vaultId
    if success = true then return .deleted
    else return .refused .failed

/-- `share_secret`, with the id that is drawn. -/
def shareSecret (vaultId ownerUserId : PyStr) (r : ShareRequest) (shareId : PyStr) :
    VaultM Response :=
  forOwner vaultId ownerUserId do
    let share : VaultShare :=
      { shareId, vaultId, ownerUserId
        sharedWithUserId := r.sharedWithUserId
        sharedWithOrgId := r.sharedWithOrgId
        permissionLevel := r.permissionLevel
        expiresAt := r.expiresAt }
    let created ← createShare share
    if created = true then return .shared share
    else return .refused .failed

/-! ### Requests -/

inductive Request where
  | create (userId : PyStr) (r : CreateRequest) (vaultId drawn : PyStr)
  | get (vaultId userId : PyStr) (decrypt : Bool)
  | update (vaultId userId : PyStr) (r : UpdateRequest) (drawn : PyStr)
  | rotate (vaultId userId newSecretValue drawn : PyStr)
  | delete (vaultId userId : PyStr)
  | share (vaultId ownerUserId : PyStr) (r : ShareRequest) (shareId : PyStr)
  | revoke (shareId : PyStr)

def Request.serve : Request → VaultM Response
  | create userId r vaultId drawn => createSecret service userId r vaultId drawn
  | get vaultId userId decrypt => getSecret service vaultId userId decrypt
  | update vaultId userId r drawn => updateSecret service vaultId userId r drawn
  | rotate vaultId userId value drawn => rotateSecret service vaultId userId value drawn
  | delete vaultId userId => deleteSecret vaultId userId
  | share vaultId ownerUserId r shareId => shareSecret vaultId ownerUserId r shareId
  | revoke shareId => do return .revoked (← revokeShare shareId)

abbrev VaultPast := Past (VaultApi.timed.fallible VaultError) (Clocked VaultStore)

abbrev VaultPool (ι : Type*) :=
  Pool (VaultApi.timed.fallible VaultError) VaultError Response ι (Clocked VaultStore)

def VaultPool.start {ι : Type*} (requests : ι → Request) (m : Clocked VaultStore) : VaultPool ι :=
  Pool.start m fun i => (requests i).serve service

end Service

abbrev VaultRun {ι : Type*} [DecidableEq ι]
    (A : ι → VaultPast → Clocked VaultStore → Timed Call → Prop) :
      VaultPool ι → VaultPool ι → Prop :=
  Pool.Reach handle Shifts fun i past => A i (past i)

/-! ### Calls that write no secret -/

def Call.Free : Timed Call → Prop
  | .call (.insertItem ..) => False
  | .call (.updateItem ..) => False
  | _ => True

section Free

variable {service : VaultService} {vaultId userId : PyStr}

theorem getVaultItem_free : (getVaultItem vaultId).Only Call.Free :=
  (only_query (I := VaultApi.timed) trivial).tryCatch fun _ => trivial

theorem checkUserAccess_free : (checkUserAccess vaultId userId).Only Call.Free := by
  refine Only.bind getVaultItem_free fun item => ?_
  split
  · trivial
  · refine Only.bind ((only_query (I := VaultApi.timed) trivial).tryCatch
      fun _ => trivial) fun shares => ?_
    exact Only.bind (only_query (I := VaultApi.timed) trivial) fun _ => trivial

theorem getSecret_free {decrypt : Bool} :
    (getSecret service vaultId userId decrypt).Only Call.Free := by
  refine Only.tryCatch (Only.bind checkUserAccess_free fun access => ?_) fun _ => trivial
  cases access with
  | none => trivial
  | some access =>
    refine Only.bind getVaultItem_free fun item => ?_
    cases item with
    | none => trivial
    | some item =>
      dsimp only
      split
      · trivial
      · split
        · trivial
        · split
          · trivial
          · refine Only.bind (only_query (I := VaultApi.timed) trivial)
              fun time => ?_
            split <;> trivial

theorem mergedMetadata_free {metadata : Option JsonDict} :
    (mergedMetadata vaultId metadata).Only Call.Free := by
  rw [mergedMetadata]
  split
  · trivial
  · refine Only.bind getVaultItem_free fun item => ?_
    cases item <;> trivial

theorem found_only {P : Timed Call → Prop} {p : VaultM ℕ} (hp : p.Only P) : (found p).Only P :=
  Only.tryCatch (hp.bind fun _ => trivial) fun _ => trivial

theorem forOwner_free {p : VaultM Response} (hp : p.Only Call.Free) :
    (forOwner vaultId userId p).Only Call.Free := by
  refine Only.tryCatch (Only.bind getVaultItem_free fun item => ?_) fun _ => trivial
  split
  · exact hp
  · trivial

theorem deleteSecret_free : (deleteSecret vaultId userId).Only Call.Free := by
  refine forOwner_free (Only.bind (found_only (only_query (I := VaultApi.timed) trivial))
    fun success => ?_)
  split <;> trivial

theorem shareSecret_free {r : ShareRequest} {shareId : PyStr} :
    (shareSecret vaultId userId r shareId).Only Call.Free := by
  refine forOwner_free (Only.bind (Only.tryCatch (Only.bind
    (only_query (I := VaultApi.timed) trivial) fun _ => trivial) fun _ => trivial)
    fun created => ?_)
  split <;> trivial

theorem revoke_free {shareId : PyStr} :
    ((Request.revoke shareId).serve service).Only Call.Free :=
  Only.bind (found_only (only_query (I := VaultApi.timed) trivial)) fun _ => trivial

end Free

/-! ### Reads under interference -/

def itemAt (vaultId : PyStr) (m : Clocked VaultStore) : Option VaultItem :=
  if m.link = .up then m.store.items vaultId else none

def sharesAt (vaultId : PyStr) (m : Clocked VaultStore) : List VaultShare :=
  if m.link = .up then
    m.store.shares.filter fun share => share.vaultId = vaultId ∧ share.isActive = true
  else []

section Reads

variable {α : Type} {T : Terms (Clocked VaultStore)}
  {A G : VaultPast → Clocked VaultStore → Timed Call → Prop}
  {Q : Except VaultError α → VaultPast → Clocked VaultStore → Prop} {past : VaultPast}
  {m : Clocked VaultStore} {vaultId : PyStr}

theorem itemAt_up (h : m.link = .up) : itemAt vaultId m = m.store.items vaultId := if_pos h

theorem mem_of_itemAt {item : VaultItem} (h : itemAt vaultId m = some item) :
    item ∈ m.store.items vaultId := by
  rw [itemAt] at h
  split at h
  · exact h
  · cases h

theorem sound_getVaultItem {f : Option VaultItem → VaultM α}
    (hread : ∀ m', T.rel m m' → T.inv m' → G past m' (.call (.selectItem vaultId)) ∧
      (A past m' (.call (.selectItem vaultId)) → (f (itemAt vaultId m')).Sound T handle A G Q
        ((m', .call (.selectItem vaultId)) :: past) m')) :
    (getVaultItem vaultId >>= f).Sound T handle A G Q past m := by
  intro m' hm' hi
  obtain ⟨hG, hf⟩ := hread m' hm' hi
  refine ⟨hG, fun hA => ?_⟩
  have hf := hf hA
  obtain ⟨store, clock, link⟩ := m'
  cases link <;> exact hf

theorem sound_getSharesForVault {f : List VaultShare → VaultM α}
    (hread : ∀ m', T.rel m m' → T.inv m' → G past m' (.call (.selectShares vaultId)) ∧
      (A past m' (.call (.selectShares vaultId)) → (f (sharesAt vaultId m')).Sound T handle A G Q
        ((m', .call (.selectShares vaultId)) :: past) m')) :
    (getSharesForVault vaultId >>= f).Sound T handle A G Q past m := by
  intro m' hm' hi
  obtain ⟨hG, hf⟩ := hread m' hm' hi
  refine ⟨hG, fun hA => ?_⟩
  have hf := hf hA
  obtain ⟨store, clock, link⟩ := m'
  cases link <;> exact hf

theorem sound_ask {c : Call}
    {Q : Except VaultError c.Reply → VaultPast → Clocked VaultStore → Prop}
    (hcall : ∀ m', T.rel m m' → T.inv m' → G past m' (.call c) ∧ (A past m' (.call c) →
      ∀ m'', T.rel (handle (.call c) m').2 m'' → T.inv m'' →
        (∀ e, Q (.error e) ((m', .call c) :: past) m'') ∧
        ∀ r, m'.link = .up → (execute c m'.store).1 = .ok r →
          Q (.ok r) ((m', .call c) :: past) m'')) :
    (ask c).Sound T handle A G Q past m :=
  Prog.sound_ask hcall

theorem sound_now {f : Timestamp → VaultM α}
    (hnow : ∀ m', T.rel m m' → T.inv m' → G past m' .now ∧
      (f m'.clock).Sound T handle A G Q ((m', .now) :: past) m') :
    (now >>= f).Sound T handle A G Q past m :=
  Prog.sound_now hnow

end Reads

end IsaUser.Vault
