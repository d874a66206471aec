import IsaUser.Auth.Refresh
import IsaUser.Lib.Clocked
import Mathlib.Data.Char

/-!
# OAuth Clients and Authorization Codes

Clients get access tokens by their credentials, or for a code that a user has approved. A code is
stored with the scopes that were approved and is marked when it is consumed.
-/

namespace IsaUser.Auth.OAuth

/-! ### Scopes -/

def scopeMigrationMap : List (PyStr × PyStr) :=
  [("a2a.invoke".toList, "mcp:tools:execute".toList),
    ("a2a.tasks.read".toList, "mcp:tasks:read".toList),
    ("a2a.tasks.cancel".toList, "mcp:tasks:cancel".toList)]

def normalizeScope (scope : PyStr) : PyStr := (scopeMigrationMap.lookup scope).getD scope

def normalizeScopes (scopes : List PyStr) : List PyStr := (scopes.map normalizeScope).dedup

/-- `str.split`: the words between white space. -/
def split (s : PyStr) : List PyStr := (s.splitOnP isSpace).filter (· ≠ [])

/-- `" ".join`. -/
def join (words : List PyStr) : PyStr := [' '].intercalate words

/-! ### The tables -/

/-- A row of `auth.oauth_clients`. -/
structure OAuthClient where
  clientId : PyStr
  clientSecretHash : PyStr
  clientName : PyStr
  organizationId : Option PyStr
  isActive : Bool
  allowedScopes : List PyStr
  tokenTtlSeconds : ℤ
  clientType : Option PyStr
  redirectUris : List PyStr
  requirePkce : Bool
  lastUsedAt : Option Timestamp := none
  deriving DecidableEq

def OAuthClient.kind (client : OAuthClient) : PyStr :=
  (given client.clientType).getD "confidential".toList

/-- A row of `auth.oauth_authorization_codes`. -/
structure AuthorizationCode where
  codeId : PyStr
  clientId : PyStr
  redirectUri : PyStr
  state : PyStr
  resource : Option PyStr
  scopes : List PyStr
  approvedScopes : List PyStr
  userId : PyStr
  organizationId : Option PyStr
  codeChallenge : Option PyStr
  codeChallengeMethod : Option PyStr
  codeValue : PyStr
  isUsed : Bool := false
  usedAt : Option Timestamp := none
  createdAt : Timestamp
  expiresAt : Timestamp
  deriving DecidableEq

def AuthorizationCode.granted (code : AuthorizationCode) : List PyStr :=
  if code.approvedScopes ≠ [] then code.approvedScopes else code.scopes

def AuthorizationCode.mark (now : Timestamp) (code : AuthorizationCode) : AuthorizationCode :=
  { code with isUsed := true, usedAt := some now }

/-- The clients by their ids, and the codes: ids and values are unique. -/
structure OAuthStore where
  clients : PyStr → Option OAuthClient
  codes : List AuthorizationCode
  ids : (codes.map AuthorizationCode.codeId).Nodup
  values : (codes.map AuthorizationCode.codeValue).Nodup

/-! ### Statements -/

inductive Call where
  | selectClient (clientId : PyStr)
  | touchClient (clientId : PyStr) (now : Timestamp)
  | insertCode (code : AuthorizationCode)
  | selectCode (codeValue : PyStr)
  | markUsed (codeId : PyStr) (now : Timestamp)

def Call.Reply : Call → Type
  | selectClient _ => Option OAuthClient
  | touchClient _ _ => ℕ
  | insertCode _ => Unit
  | selectCode _ => Option AuthorizationCode
  | markUsed _ _ => ℕ

@[reducible] def OAuthApi : Interface := ⟨Call, Call.Reply⟩

inductive DbError where
  | unavailable
  | uniqueViolation
  | checkViolation
  /-- A text that its column does not hold. -/
  | dataError
  deriving DecidableEq, Repr

inductive OAuthError where
  | db (e : DbError)
  /-- `ValueError`, with its text. -/
  | valueError (text : PyStr)
  /-- `UnicodeEncodeError`, which is a `ValueError` whose text depends on the verifier. -/
  | unicodeError
  deriving DecidableEq, Repr

def AuthorizationCode.Unused (codeId : PyStr) (code : AuthorizationCode) : Prop :=
  code.codeId = codeId ∧ code.isUsed = false
  deriving Decidable

/-- The guarded update of `mark_used`. -/
def markCodes (codeId : PyStr) (now : Timestamp) (codes : List AuthorizationCode) :
    List AuthorizationCode :=
  codes.map fun code => if code.Unused codeId then code.mark now else code

theorem map_markCodes {α : Type} {f : AuthorizationCode → α}
    (hf : ∀ code now, f (code.mark now) = f code) (codeId : PyStr) (now : Timestamp)
    (codes : List AuthorizationCode) : (markCodes codeId now codes).map f = codes.map f := by
  rw [markCodes, List.map_map]
  refine List.map_congr_left fun code _ => ?_
  rw [Function.comp_apply]
  split
  · exact hf code now
  · rfl

def OAuthStore.markUsed (s : OAuthStore) (codeId : PyStr) (now : Timestamp) : OAuthStore :=
  { s with
    codes := markCodes codeId now s.codes
    ids := by rw [map_markCodes fun _ _ => rfl]; exact s.ids
    values := by rw [map_markCodes fun _ _ => rfl]; exact s.values }

def OAuthStore.touchClient (s : OAuthStore) (clientId : PyStr) (now : Timestamp) : OAuthStore :=
  let touched := (s.clients clientId).map fun client => { client with lastUsedAt := some now }
  { s with clients := Function.update s.clients clientId touched }

def execute : Handler (OAuthApi.fallible DbError) OAuthStore
  | .selectClient clientId, s => (.ok (s.clients clientId), s)
  | .touchClient clientId now, s =>
    (.ok (s.clients clientId).toList.length, s.touchClient clientId now)
  | .insertCode code, s =>
    if hnew : code.codeId ∉ s.codes.map AuthorizationCode.codeId ∧
        code.codeValue ∉ s.codes.map AuthorizationCode.codeValue then
      if 10 < (code.codeChallengeMethod.getD []).length then (.error .dataError, s)
      else if code.createdAt < code.expiresAt then
        (.ok (), { s with
          codes := code :: s.codes
          ids := List.nodup_cons.mpr ⟨hnew.1, s.ids⟩
          values := List.nodup_cons.mpr ⟨hnew.2, s.values⟩ })
      else (.error .checkViolation, s)
    else (.error .uniqueViolation, s)
  | .selectCode codeValue, s => (.ok (s.codes.find? fun code => code.codeValue = codeValue), s)
  | .markUsed codeId now, s =>
    (.ok (s.codes.countP fun code => code.Unused codeId), s.markUsed codeId now)

/-! ### The repositories -/

abbrev OAuthM := Prog (OAuthApi.timed.fallible DbError) OAuthError

def ask (c : Call) : OAuthM c.Reply := Prog.ask (I := OAuthApi) .db c

def now : OAuthM Timestamp := Prog.now (I := OAuthApi) .db

/-- Raise a `ValueError`. -/
def fault {α : Type} (text : String) : OAuthM α := .raise (.valueError text.toList)

def getClient (clientId : PyStr) : OAuthM (Option OAuthClient) := ask (.selectClient clientId)

def markUsed (codeId : PyStr) : OAuthM Bool := do
  let usedAt ← now
  let count : ℕ ← ask (.markUsed codeId usedAt)
  return decide (0 < count)

/-- `AuthenticationService`, with its clients and codes: `checkpw` compares a secret with a hash
(a hash that is none compares with no secret), `s256` is the challenge of a verifier. -/
structure OAuthService (jwt : Jwt) extends AuthService jwt where
  checkpw : PyStr → PyStr → Bool
  s256 : PyStr → PyStr
  codeTtlSeconds : ℤ := 600

structure Approval where
  clientId : PyStr
  redirectUri : PyStr
  scope : PyStr
  state : PyStr
  codeChallenge : Option PyStr
  codeChallengeMethod : Option PyStr
  resource : Option PyStr
  userId : PyStr
  organizationId : Option PyStr
  deriving DecidableEq

structure Exchange where
  code : PyStr
  redirectUri : PyStr
  codeVerifier : Option PyStr
  clientId : PyStr
  clientSecret : Option PyStr
  deriving DecidableEq

namespace OAuthService

variable {jwt : Jwt} (service : OAuthService jwt)

def Authenticates (client : OAuthClient) (clientSecret : PyStr) : Prop :=
  client.isActive = true ∧ service.checkpw clientSecret client.clientSecretHash = true

instance (client : OAuthClient) (clientSecret : PyStr) :
    Decidable (service.Authenticates client clientSecret) :=
  inferInstanceAs (Decidable (_ ∧ _))

def verifyClientCredentials (clientId clientSecret : PyStr) : OAuthM (Option OAuthClient) := do
  match ← (ask (.selectClient clientId) : OAuthM (Option OAuthClient)) with
  | none => return none
  | some client =>
    if service.Authenticates client clientSecret then do
      let usedAt ← now
      let _ : ℕ ← ask (.touchClient clientId usedAt)
      return some client
    else return none

/-! ### The code service -/

/-- `create_authorization_request`, with the value and the id that are drawn. -/
def createAuthorizationRequest (approval : Approval) (codeValue codeId : PyStr) :
    OAuthM PyStr := do
  match ← getClient approval.clientId with
  | none => fault "invalid_client: Client not found"
  | some client =>
    if client.redirectUris ≠ [] ∧ approval.redirectUri ∉ client.redirectUris then
      fault "invalid_request: redirect_uri not registered"
    else if (client.kind = "public".toList ∨ client.requirePkce = true) ∧
        given approval.codeChallenge = none then
      fault "invalid_request: code_challenge required"
    else if (client.kind = "public".toList ∨ client.requirePkce = true) ∧
        approval.codeChallengeMethod ≠ some "S256".toList then
      fault "invalid_request: only S256 code_challenge_method supported"
    else do
      let requestedScopes := split approval.scope
      let asked ← now
      let expiresAt := asked + seconds service.codeTtlSeconds
      let createdAt ← now
      let _ : Unit ← ask (.insertCode
        { codeId, codeValue, createdAt, expiresAt
          clientId := approval.clientId
          redirectUri := approval.redirectUri
          state := approval.state
          resource := approval.resource
          scopes := requestedScopes
          approvedScopes := requestedScopes
          userId := approval.userId
          organizationId := approval.organizationId
          codeChallenge := approval.codeChallenge
          codeChallengeMethod := approval.codeChallengeMethod })
      return codeValue

/-- `_validate_pkce`, which raises for a verifier that is not ASCII. -/
def validatePkce (codeVerifier codeChallenge : PyStr) (method : Option PyStr) :
    Except OAuthError Bool :=
  if method ≠ some "S256".toList then .ok false
  else if ∃ c ∈ codeVerifier, 128 ≤ c.toNat then .error .unicodeError
  else .ok (decide (service.s256 codeVerifier = codeChallenge))

def checkPkce (code : AuthorizationCode) (codeVerifier : Option PyStr) :
    Except OAuthError Unit :=
  match given code.codeChallenge with
  | none => .ok ()
  | some codeChallenge =>
    match given codeVerifier with
    | none => .error (.valueError "invalid_grant: code_verifier required".toList)
    | some codeVerifier => do
      if ← service.validatePkce codeVerifier codeChallenge code.codeChallengeMethod then
        .ok ()
      else .error (.valueError "invalid_grant: PKCE validation failed".toList)

def consumeAuthorizationCode (exchange : Exchange) : OAuthM AuthorizationCode := do
  match ← (ask (.selectCode exchange.code) : OAuthM (Option AuthorizationCode)) with
  | none => fault "invalid_grant: Authorization code not found"
  | some code => do
    let looked ← now
    if code.expiresAt < looked then fault "invalid_grant: Authorization code expired"
    else if code.isUsed = true then fault "invalid_grant: Authorization code already used"
    else if code.clientId ≠ exchange.clientId then fault "invalid_grant: client_id mismatch"
    else if code.redirectUri ≠ exchange.redirectUri then
      fault "invalid_grant: redirect_uri mismatch"
    else do
      let _ : Unit ← Prog.lift (service.checkPkce code exchange.codeVerifier)
      let success ← markUsed code.codeId
      if success = true then return code
      else fault "invalid_grant: Authorization code already used"

end OAuthService

/-! ### Grants -/

inductive Response (Token : Type) where
  | issued (accessToken : Token) (expiresIn : ℤ) (scope clientId : PyStr)
  /-- What is refused, with the error and its code. -/
  | refused (error errorCode : PyStr)
  /-- A verifier that is not ASCII: the texts depend on it. -/
  | badVerifier
  | authorized (code state redirectUri : PyStr)
  /-- An approval that raises. -/
  | raised (e : OAuthError)

namespace Response

variable {Token : Type}

def refusal (error errorCode : String) : Response Token := refused error.toList errorCode.toList

def NotAuthenticated : Response Token → Prop
  | refused _ errorCode => errorCode = "invalid_client".toList
  | _ => False

instance : (r : Response Token) → Decidable r.NotAuthenticated
  | refused _ errorCode => inferInstanceAs (Decidable (errorCode = _))
  | issued .. | badVerifier | authorized .. | raised _ => .isFalse id

/-- What is made of the text of a `ValueError`: its code is what stands before the colon. -/
def ofText (text : PyStr) : Response Token :=
  if ':' ∈ text then
    refused (PyStr.strip ((text.dropWhile (· ≠ ':')).drop 1))
      (PyStr.strip (text.takeWhile (· ≠ ':')))
  else refused text "invalid_grant".toList

end Response

section Grants

variable {jwt : Jwt} (service : OAuthService jwt)

/-- What is raised ends in `server_error`. -/
def issuing (p : OAuthM (Response jwt.Token)) : OAuthM (Response jwt.Token) :=
  p.tryCatch fun _ => return .refusal "Token issuance failed" "server_error"

def issueToken (claims : TokenClaims) (ttlSeconds : ℤ) (clientId jti : PyStr) :
    OAuthM (Response jwt.Token) := do
  let issuedAt ← now
  return .issued
    (service.manager.createAccessToken jwt claims (some (seconds ttlSeconds)) issuedAt jti)
    ttlSeconds (join claims.permissions) clientId

def audience (resource : Option PyStr) : PyStr := (given resource).getD "a2a".toList

def clientClaims (client : OAuthClient) (clientId : PyStr) (granted : List PyStr)
    (resource : Option PyStr) : TokenClaims :=
  { userId := "client:".toList ++ clientId
    organizationId := client.organizationId
    scope := .service
    permissions := orderBy id granted
    metadata := [("client_id", .str clientId), ("client_name", .str client.clientName),
      ("grant_type", .str "client_credentials".toList), ("aud", .str (audience resource))]
    audience := some (audience resource) }

def issueClientCredentialsToken (clientId clientSecret : PyStr) (scope resource : Option PyStr)
    (jti : PyStr) : OAuthM (Response jwt.Token) :=
  issuing do
    match ← service.verifyClientCredentials clientId clientSecret with
    | none => return .refusal "Invalid client credentials" "invalid_client"
    | some client =>
      let allowed := normalizeScopes client.allowedScopes
      let requested := normalizeScopes (split (scope.getD []))
      if requested ≠ [] ∧ ¬∀ scope ∈ requested, scope ∈ allowed then
        return .refusal "Requested scope is not allowed" "invalid_scope"
      else
        let granted := if requested ≠ [] then requested else allowed
        issueToken service (clientClaims client clientId granted resource)
          (max 300 (min client.tokenTtlSeconds 86400)) clientId jti

def codeClaims (code : AuthorizationCode) (clientId : PyStr) : TokenClaims :=
  { userId := code.userId
    organizationId := code.organizationId
    permissions := orderBy id (normalizeScopes code.granted)
    metadata := [("client_id", .str clientId), ("grant_type", .str "authorization_code".toList),
      ("aud", .str (audience code.resource))]
    audience := some (audience code.resource) }

def authenticate (exchange : Exchange) : OAuthM (Option (Response jwt.Token)) := do
  match ← getClient exchange.clientId with
  | none => return none
  | some client =>
    if client.kind = "confidential".toList then
      match given exchange.clientSecret with
      | none =>
        return some (.refusal "Client secret required for confidential clients"
          "invalid_client")
      | some clientSecret => do
        match ← service.verifyClientCredentials exchange.clientId clientSecret with
        | none => return some (.refusal "Invalid client credentials" "invalid_client")
        | some _ => return none
    else return none

/-- `consume_authorization_code`, whose `ValueError`s are what is refused. -/
def redeem (exchange : Exchange) :
    OAuthM (Except (Response jwt.Token) AuthorizationCode) :=
  ((do return .ok (← service.consumeAuthorizationCode exchange)) :
    OAuthM (Except (Response jwt.Token) AuthorizationCode)).tryCatch fun
    | .valueError text => return .error (.ofText text)
    | .unicodeError => return .error .badVerifier
    | e => .raise e

/-- `issue_authorization_code_token`: the code is consumed first. -/
def issueAuthorizationCodeToken (exchange : Exchange) (jti : PyStr) :
    OAuthM (Response jwt.Token) :=
  issuing do
    match ← redeem service exchange with
    | .error refused => return refused
    | .ok code => do
      match ← authenticate service exchange with
      | some refused => return refused
      | none =>
        issueToken service (codeClaims code exchange.clientId) 3600 exchange.clientId jti

/-! ### Verification -/

inductive ResourceError where
  | jwt (e : VerifyError)
  /-- What `verify_token` refuses. -/
  | notVerified
  /-- "Invalid token type". -/
  | invalidTokenType
  /-- "Insufficient scope". -/
  | insufficientScope
  deriving DecidableEq, Repr

def verifyForResource (token : jwt.Token) (resourceUri : Option PyStr) (now : Timestamp) :
    Except ResourceError Verification :=
  match given resourceUri with
  | some uri =>
    match service.manager.verifyToken jwt token none true (some uri) now with
    | .error e => .error (.jwt e)
    | .ok verified => .ok
        { provider := .isaUser
          userId := some verified.userId
          email := none
          payload := some verified.payload
          permissions := verified.permissions }
  | none =>
    match service.toAuthService.verifyToken token (some "isa_user".toList) now with
    | none => .error .notVerified
    | some verification => .ok verification

def verifyAccessTokenForResource (token : jwt.Token) (requiredScopes : Option (List PyStr))
    (resourceUri : Option PyStr) (now : Timestamp) : Except ResourceError Verification := do
  let verification ← verifyForResource service token resourceUri now
  if verification.payload.map Payload.type ≠ some .access then .error .invalidTokenType
  else if ∀ scope ∈ requiredScopes.getD [], scope ∈ verification.permissions then
    .ok verification
  else .error .insufficientScope

/-! ### Requests -/

inductive Request where
  | clientCredentials (clientId clientSecret : PyStr) (scope resource : Option PyStr)
      (jti : PyStr)
  | approve (approval : Approval) (codeValue codeId : PyStr)
  | exchange (exchange : Exchange) (jti : PyStr)

def Request.serve : Request → OAuthM (Response jwt.Token)
  | clientCredentials clientId clientSecret scope resource jti =>
    issueClientCredentialsToken service clientId clientSecret scope resource jti
  | approve approval codeValue codeId =>
    Prog.tryCatch (ε := OAuthError) (do
      let code ← service.createAuthorizationRequest approval codeValue codeId
      return .authorized code approval.state approval.redirectUri)
      fun e => return .raised e
  | exchange e jti => issueAuthorizationCodeToken service e jti

abbrev OAuthPool (jwt : Jwt) (ι : Type*) :=
  Pool (OAuthApi.timed.fallible DbError) OAuthError (Response jwt.Token) ι (Clocked OAuthStore)

def OAuthPool.start {ι : Type*} (m : Clocked OAuthStore) (requests : ι → Request) :
    OAuthPool jwt ι :=
  Pool.start m fun i => (requests i).serve service

end Grants

abbrev handle : Handler (OAuthApi.timed.fallible DbError) (Clocked OAuthStore) :=
  Clocked.handle .unavailable execute

abbrev OAuthPast := Past (OAuthApi.timed.fallible DbError) (Clocked OAuthStore)

end IsaUser.Auth.OAuth
