import IsaUser.Lib.Clocked
import IsaUser.Lib.Json

/-!
# API Keys

The API keys of an organization are one list in its row. Every operation reads the whole list, and
writes it back whole: also validation, which notes when a key was last used.

A key is a dictionary, as it is stored. The hash, the readings of times and of addresses are
parameters.
-/

namespace IsaUser.Auth.ApiKeys

/-! ### Keys -/

abbrev KeyData := JsonDict

def KeyData.IsText (key : KeyData) (name : String) (text : PyStr) : Prop :=
  match JsonDict.get? key name with
  | some (.str s) => s = text
  | _ => False

instance (key : KeyData) (name : String) (text : PyStr) :
    Decidable (KeyData.IsText key name text) :=
  match h : JsonDict.get? key name with
  | some (.str s) => decidable_of_iff (s = text) (by rw [KeyData.IsText, h])
  | none | some .null | some (.bool _) | some (.int _) | some (.float _) | some (.list _)
  | some (.dict _) => .isFalse (by rw [KeyData.IsText, h]; exact id)

def KeyData.truthy? (key : KeyData) (name : String) : Option Json :=
  (JsonDict.get? key name).filter Json.truthy

def KeyData.isActive (key : KeyData) : Bool := (KeyData.truthy? key "is_active").isSome

/-- What the repository uses of other libraries: `hashlib.sha256`, `datetime.fromisoformat` with
the instant and whether it has an offset, `isoformat`, `json.loads`, and `ipaddress`. -/
structure Libraries where
  hash : PyStr → PyStr
  fromIsoFormat : PyStr → Option (Timestamp × Bool)
  isoFormat : Timestamp → PyStr
  loads : PyStr → Option Json
  Address : Type
  Network : Type
  ipAddress : PyStr → Option Address
  ipNetwork : Json → Option Network
  contains : Network → Address → Bool

section Metadata

variable (libraries : Libraries)

def asList : Option Json → List Json
  | none => []
  | some .null => []
  | some (.list items) => items
  | some value => [value]

def asDict : Option Json → JsonDict
  | some (.dict entries) => entries
  | some (.str s) =>
    match libraries.loads s with
    | some (.dict entries) => entries
    | _ => []
  | _ => []

/-- `_parse_datetime`, of a stored value: what is no text is no time. -/
def parseDatetime : Json → Option Timestamp
  | .str s => (libraries.fromIsoFormat
      (s.flatMap fun c => if c = 'Z' then "+00:00".toList else [c])).map Prod.fst
  | _ => none

def entryMatches (ipAddress : PyStr) (entry : Json) : Bool :=
  (match entry with
    | .str s => decide (s = ipAddress)
    | _ => false) ||
  match libraries.ipAddress ipAddress, libraries.ipNetwork entry with
  | some address, some network => libraries.contains network address
  | _, _ => false

def ipMatchesAllowlist (ipAddress : PyStr) (allowlist : List Json) : Bool :=
  allowlist.any (entryMatches libraries ipAddress)

structure ApiKeyMetadata where
  projectId : Option Json
  ownerType : PyStr
  serviceAccountId : Option Json
  scopes : List Json
  ipAllowlist : List Json
  rateLimits : JsonDict
  spendLimit : Option Json
  createdBy : Option Json
  expiresAt : Option Json

def apiKeyOwnerTypes : List PyStr := ["organization".toList, "service_account".toList]

def ownerType (key : KeyData) : Option PyStr :=
  match KeyData.truthy? key "owner_type" with
  | none => some "organization".toList
  | some (.list _) => none
  | some (.dict _) => none
  | some (.str s) => some (if s ∈ apiKeyOwnerTypes then s else "organization".toList)
  | some _ => some "organization".toList

def notNull? (key : KeyData) (name : String) : Option Json :=
  match JsonDict.get? key name with
  | some .null => none
  | value => value

def buildApiKeyMetadata (key : KeyData) : Option ApiKeyMetadata :=
  (ownerType key).map fun ownerType =>
    { projectId := JsonDict.get? key "project_id"
      ownerType
      serviceAccountId := JsonDict.get? key "service_account_id"
      scopes := asList (match notNull? key "scopes" with
        | some scopes => some scopes
        | none => JsonDict.get? key "permissions")
      ipAllowlist := asList (JsonDict.get? key "ip_allowlist")
      rateLimits := asDict libraries (JsonDict.get? key "rate_limits")
      spendLimit := JsonDict.get? key "spend_limit"
      createdBy := JsonDict.get? key "created_by"
      expiresAt := JsonDict.get? key "expires_at" }

end Metadata

/-! ### Statements -/

/-- A row of `auth.organizations`: its id and its keys. -/
abbrev OrganizationRow := PyStr × List KeyData

/-- The organizations with their keys, and the ids of keys that they have ever had. -/
structure ApiKeyStore where
  organizations : PyStr → Option (List KeyData)
  seen : PyStr → List PyStr

/-- The statements of the repository. The order in which a query finds the rows is part of it. -/
inductive Call where
  | selectKeys (organizationId : PyStr)
  | selectAll (order : List PyStr)
  | insertOrganization (organizationId : PyStr)
  | updateKeys (organizationId : PyStr) (keys : List KeyData)

def Call.Reply : Call → Type
  | selectKeys _ => Option (List KeyData)
  | selectAll _ => List OrganizationRow
  | insertOrganization _ => ℕ
  | updateKeys _ _ => ℕ

@[reducible] def ApiKeyApi : Interface := ⟨Call, Call.Reply⟩

inductive ApiKeyError where
  | unavailable
  | valueError
  | typeError
  | attributeError
  /-- "Failed to create API key". -/
  | createFailed
  deriving DecidableEq, Repr

def KeyData.keyId (key : KeyData) : Option PyStr :=
  match JsonDict.get? key "key_id" with
  | some (.str s) => some s
  | _ => none

def ApiKeyStore.setKeys (s : ApiKeyStore) (organizationId : PyStr) (keys : List KeyData) :
    ApiKeyStore where
  organizations := Function.update s.organizations organizationId (some keys)
  seen := Function.update s.seen organizationId
    (keys.filterMap KeyData.keyId ++ s.seen organizationId)

def execute : Handler (ApiKeyApi.fallible ApiKeyError) ApiKeyStore
  | .selectKeys organizationId, s => (.ok (s.organizations organizationId), s)
  | .selectAll order, s =>
    (.ok (order.filterMap fun id => (s.organizations id).map (id, ·)), s)
  | .insertOrganization organizationId, s =>
    match s.organizations organizationId with
    | some _ => (.ok (0 : ℕ), s)
    | none => (.ok (1 : ℕ), s.setKeys organizationId [])
  | .updateKeys organizationId keys, s =>
    match s.organizations organizationId with
    | some _ => (.ok (1 : ℕ), s.setKeys organizationId keys)
    | none => (.ok (0 : ℕ), s)

abbrev handle : Handler (ApiKeyApi.timed.fallible ApiKeyError) (Clocked ApiKeyStore) :=
  Clocked.handle .unavailable execute

theorem handle_store {m : Clocked ApiKeyStore} (c : Call) : (handle (.call c) m).2.store =
    if m.link = .down then m.store else (execute c m.store).2 := by
  change (m.link.pass ApiKeyError.unavailable (execute c m.store) m.store).2 = _
  cases m.link <;> rfl

/-! ### The repository -/

abbrev ApiKeyM := Prog (ApiKeyApi.timed.fallible ApiKeyError) ApiKeyError

def ask (c : Call) : ApiKeyM c.Reply := Prog.ask (I := ApiKeyApi) id c

def now : ApiKeyM Timestamp := Prog.now (I := ApiKeyApi) id

structure CreateRequest where
  organizationId : PyStr
  name : PyStr
  permissions : List PyStr := []
  expiresAt : Option Timestamp := none
  createdBy : Option PyStr := none
  projectId : Option PyStr := none
  ownerType : Option PyStr := none
  serviceAccountId : Option PyStr := none
  scopes : List PyStr := []
  ipAllowlist : List PyStr := []
  rateLimits : JsonDict := []
  spendLimit : Option Json := none
  keyId : PyStr
  apiKey : PyStr

section Repository

variable (libraries : Libraries)

def texts (items : List PyStr) : Json := .list (items.map .str)

def textOrNull (text : Option PyStr) : Json := text.elim .null .str

def CreateRequest.key (r : CreateRequest) (ownerType : PyStr) (now : Timestamp) : KeyData :=
  [("key_id", .str r.keyId), ("name", .str r.name),
    ("key_hash", .str (libraries.hash r.apiKey)), ("permissions", texts r.permissions),
    ("created_at", .str (libraries.isoFormat now)), ("created_by", textOrNull r.createdBy),
    ("expires_at", textOrNull (r.expiresAt.map libraries.isoFormat)), ("is_active", .bool true),
    ("last_used", .null), ("project_id", textOrNull r.projectId), ("owner_type", .str ownerType),
    ("service_account_id", textOrNull r.serviceAccountId), ("scopes", texts r.scopes),
    ("ip_allowlist", texts r.ipAllowlist), ("rate_limits", .dict r.rateLimits),
    ("spend_limit", r.spendLimit.getD .null)]

def keysOrInsert (organizationId : PyStr) : ApiKeyM (List KeyData) := do
  match (← ask (.selectKeys organizationId) : Option (List KeyData)) with
  | some keys => return keys
  | none => do
    let _ : ℕ ← ask (.insertOrganization organizationId)
    match (← ask (.selectKeys organizationId) : Option (List KeyData)) with
    | some keys => return keys
    | none => .raise .attributeError

def createApiKey (r : CreateRequest) : ApiKeyM KeyData := do
  let ownerType := (given r.ownerType).getD "organization".toList
  if ownerType ∉ apiKeyOwnerTypes then .raise .valueError
  else if ownerType = "service_account".toList ∧ given r.serviceAccountId = none then
    .raise .valueError
  else do
    let time ← now
    let key := r.key libraries ownerType time
    let keys ← keysOrInsert r.organizationId
    let count : ℕ ← ask (.updateKeys r.organizationId (keys ++ [key]))
    if count = 0 then .raise .createFailed else return key

inductive ValidationError where
  /-- "Invalid API key". -/
  | invalidKey
  /-- "API key is not scoped to project …". -/
  | notScoped (projectId : PyStr)
  /-- "IP address is not allowed for this API key". -/
  | ipNotAllowed
  /-- "API key has expired". -/
  | expired
  /-- "Failed to validate API key: …". -/
  | failed (e : ApiKeyError)

structure ValidKey where
  organizationId : PyStr
  key : KeyData
  metadata : ApiKeyMetadata

def findActive (hash : PyStr) : List KeyData → Option (List KeyData × KeyData × List KeyData)
  | [] => none
  | key :: keys =>
    if KeyData.IsText key "key_hash" hash ∧ KeyData.isActive key = true then some ([], key, keys)
    else (findActive hash keys).map fun found => (key :: found.1, found.2)

def findRow (hash : PyStr) :
    List OrganizationRow → Option (PyStr × List KeyData × KeyData × List KeyData)
  | [] => none
  | row :: rows =>
    match findActive hash row.2 with
    | some found => some (row.1, found)
    | none => findRow hash rows

def notScoped (projectId : PyStr) (metadata : ApiKeyMetadata) : Bool :=
  match metadata.projectId with
  | some (.str s) => s ≠ [] ∧ s ≠ projectId
  | some value => value.truthy
  | none => false

/-- The restriction of a key that a request does not meet. What the request does not say is not
looked at. -/
def violated (projectId ipAddress : Option PyStr) (metadata : ApiKeyMetadata) :
    Option ValidationError :=
  match (given projectId).filter (notScoped · metadata) with
  | some projectId => some (.notScoped projectId)
  | none =>
    match (given ipAddress).filter fun ip => metadata.ipAllowlist ≠ [] ∧
        ipMatchesAllowlist libraries ip metadata.ipAllowlist = false with
    | some _ => some .ipNotAllowed
    | none => none

def hasExpired (key : KeyData) : ApiKeyM Bool :=
  match KeyData.truthy? key "expires_at" with
  | none => return false
  | some value =>
    match parseDatetime libraries value with
    | none => .raise (if value matches .str _ then .valueError else .attributeError)
    | some expiresAt => do
      let time ← now
      return decide (expiresAt < time)

def KeyData.touch (key : KeyData) (now : Timestamp) : KeyData :=
  JsonDict.set key "last_used" (.str (libraries.isoFormat now))

/-- The checks of `validate_api_key` on the key that has been found, and the note of its use. -/
def checkKey (projectId ipAddress : Option PyStr)
    (found : PyStr × List KeyData × KeyData × List KeyData) :
    ApiKeyM (Except ValidationError ValidKey) :=
  let (organizationId, before, key, after) := found
  match buildApiKeyMetadata libraries key with
  | none => .raise .typeError
  | some metadata =>
    match violated libraries projectId ipAddress metadata with
    | some e => return .error e
    | none => do
      let expired ← hasExpired libraries key
      if expired = true then return .error .expired
      else do
        let time ← now
        let _ : ℕ ← ask (.updateKeys organizationId
          (before ++ KeyData.touch libraries key time :: after))
        return .ok { organizationId, key := KeyData.touch libraries key time, metadata }

def validateApiKey (apiKey : PyStr) (projectId ipAddress : Option PyStr) (order : List PyStr) :
    ApiKeyM (Except ValidationError ValidKey) :=
  Prog.tryCatch (ε := ApiKeyError) (do
    let rows : List OrganizationRow ← ask (.selectAll order)
    match findRow (libraries.hash apiKey) rows with
    | none => return .error .invalidKey
    | some found => checkKey libraries projectId ipAddress found) fun e =>
      return .error (.failed e)

def updateFirst (keyId : PyStr) (f : KeyData → KeyData) : List KeyData → Option (List KeyData)
  | [] => none
  | key :: keys =>
    if KeyData.keyId key = some keyId then some (f key :: keys)
    else (updateFirst keyId f keys).map (key :: ·)

def KeyData.revoke (key : KeyData) (now : Timestamp) : KeyData :=
  JsonDict.set (JsonDict.set key "is_active" (.bool false)) "revoked_at"
    (.str (libraries.isoFormat now))

def revokeApiKey (organizationId keyId : PyStr) : ApiKeyM Bool :=
  Prog.tryCatch (ε := ApiKeyError) (do
    match (← ask (.selectKeys organizationId) : Option (List KeyData)) with
    | none => .raise .valueError
    | some keys => do
      let time ← now
      match updateFirst keyId (KeyData.revoke libraries · time) keys with
      | none => .raise .valueError
      | some keys => do
        let _ : ℕ ← ask (.updateKeys organizationId keys)
        return true) fun _ => return false

def without (keyId : PyStr) (keys : List KeyData) : List KeyData :=
  keys.filter fun key => KeyData.keyId key ≠ some keyId

def deleteApiKey (organizationId keyId : PyStr) : ApiKeyM Bool :=
  Prog.tryCatch (ε := ApiKeyError) (do
    match (← ask (.selectKeys organizationId) : Option (List KeyData)) with
    | none => .raise .valueError
    | some keys =>
      if (without keyId keys).length = keys.length then .raise .valueError
      else do
        let _ : ℕ ← ask (.updateKeys organizationId (without keyId keys))
        return true) fun _ => return false

def updateApiKeyRateLimits (organizationId keyId : PyStr) (rateLimits : JsonDict) :
    ApiKeyM (Option JsonDict) :=
  Prog.tryCatch (ε := ApiKeyError) (do
    match (← ask (.selectKeys organizationId) : Option (List KeyData)) with
    | none => return none
    | some keys =>
      match updateFirst keyId (JsonDict.set · "rate_limits" (.dict rateLimits)) keys with
      | none => return none
      | some keys => do
        let _ : ℕ ← ask (.updateKeys organizationId keys)
        return some rateLimits) fun _ => return none

def expiry (key : KeyData) : Except ApiKeyError (Option Timestamp) :=
  match KeyData.truthy? key "expires_at" with
  | none => .ok none
  | some (.str s) =>
    match libraries.fromIsoFormat s with
    | some (time, true) => .ok (some time)
    | some (_, false) => .error .typeError
    | none => .error .valueError
  | some _ => .error .typeError

def unexpired (time : Timestamp) : List KeyData → Except ApiKeyError (List KeyData)
  | [] => .ok []
  | key :: keys => do
    let expiresAt ← expiry libraries key
    let rest ← unexpired time keys
    return if ∃ t ∈ expiresAt, t ≤ time then rest else key :: rest

def cleanupRows : List OrganizationRow → ApiKeyM ℕ
  | [] => return 0
  | row :: rows => do
    let time ← now
    let keys ← Prog.lift (unexpired libraries time row.2)
    if keys.length = row.2.length then cleanupRows rows
    else do
      let _ : ℕ ← ask (.updateKeys row.1 keys)
      let removed ← cleanupRows rows
      return row.2.length - keys.length + removed

def cleanupExpiredKeys (order : List PyStr) : ApiKeyM ℕ :=
  Prog.tryCatch (ε := ApiKeyError) (do
    let rows : List OrganizationRow ← ask (.selectAll order)
    cleanupRows libraries rows) fun _ => return 0

/-! ### Requests -/

inductive Request where
  | create (r : CreateRequest)
  | validate (apiKey : PyStr) (projectId ipAddress : Option PyStr) (order : List PyStr)
  | revoke (organizationId keyId : PyStr)
  | delete (organizationId keyId : PyStr)
  | updateRateLimits (organizationId keyId : PyStr) (rateLimits : JsonDict)
  | cleanup (order : List PyStr)

inductive Response where
  | created (key : KeyData)
  | validated (result : Except ValidationError ValidKey)
  | revoked (success : Bool)
  | deleted (success : Bool)
  | rateLimits (saved : Option JsonDict)
  | removed (count : ℕ)

def Request.serve : Request → ApiKeyM Response
  | create r => do
    let key ← createApiKey libraries r
    return .created key
  | validate apiKey projectId ipAddress order => do
    let result ← validateApiKey libraries apiKey projectId ipAddress order
    return .validated result
  | revoke organizationId keyId => do
    let success ← revokeApiKey libraries organizationId keyId
    return .revoked success
  | delete organizationId keyId => do
    let success ← deleteApiKey organizationId keyId
    return .deleted success
  | updateRateLimits organizationId keyId limits => do
    let saved ← updateApiKeyRateLimits organizationId keyId limits
    return .rateLimits saved
  | cleanup order => do
    let count ← cleanupExpiredKeys libraries order
    return .removed count

abbrev ApiKeyPast := Past (ApiKeyApi.timed.fallible ApiKeyError) (Clocked ApiKeyStore)

abbrev ApiKeyPool (ι : Type*) :=
  Pool (ApiKeyApi.timed.fallible ApiKeyError) ApiKeyError Response ι (Clocked ApiKeyStore)

def ApiKeyPool.start {ι : Type*} (requests : ι → Request) (m : Clocked ApiKeyStore) :
    ApiKeyPool ι :=
  Pool.start m fun i => (requests i).serve libraries

abbrev ApiKeyRun {ι : Type*} [DecidableEq ι]
    (A : ι → ApiKeyPast → Clocked ApiKeyStore → Timed Call → Prop) :
    ApiKeyPool ι → ApiKeyPool ι → Prop :=
  Pool.Reach handle Clocked.Shifts fun i past => A i (past i)

end Repository

end IsaUser.Auth.ApiKeys
