import IsaUser.Lib.Json

/-!
# Tokens

`JWTManager` signs claims and reads them back. Signing and reading is done by a library, `Jwt`,
of which this module has what it documents: what was signed with a key is read with it, unless it
has expired, or is of another issuer, or for another audience.
-/

namespace IsaUser.Auth

inductive TokenType where
  | access
  | refresh
  | apiKey
  | device
  deriving DecidableEq, Repr

inductive TokenScope where
  | user
  | admin
  | service
  | device
  deriving DecidableEq, Repr

/-- The claims of a token. Those that are `None` are left out. -/
structure Payload where
  iss : PyStr
  sub : PyStr
  iat : ℤ
  exp : ℤ
  jti : PyStr
  type : TokenType
  scope : TokenScope
  email : Option PyStr := none
  organizationId : Option PyStr := none
  permissions : Option (List PyStr) := none
  metadata : Option JsonDict := none
  aud : Option PyStr := none

/-! ### The library -/

inductive JwtError where
  | immature
  | expired
  | invalidIssuer
  | invalidAudience
  | invalidSignature
  deriving DecidableEq, Repr

/-- What is asked of a token: without an audience, it may be for any. -/
structure DecodeOptions where
  issuer : PyStr
  verifyExp : Bool := true
  audience : Option PyStr := none

def checkClaims (payload : Payload) (options : DecodeOptions) (now : Timestamp) :
    Except JwtError Payload :=
  if now < seconds payload.iat then .error .immature
  else if options.verifyExp ∧ seconds payload.exp ≤ now then .error .expired
  else if payload.iss ≠ options.issuer then .error .invalidIssuer
  else if options.audience.isSome ∧ payload.aud ≠ options.audience then .error .invalidAudience
  else .ok payload

/-- A library that signs and reads tokens. -/
structure Jwt where
  Token : Type
  encode : Payload → PyStr → Token
  decode : Token → PyStr → DecodeOptions → Timestamp → Except JwtError Payload
  /-- Reading without verification. -/
  peek : Token → Option Payload
  decode_encode : ∀ payload key options now,
    decode (encode payload key) key options now = checkClaims payload options now
  peek_encode : ∀ payload key, peek (encode payload key) = some payload

def sealed : Jwt where
  Token := Payload × PyStr
  encode payload key := (payload, key)
  decode token key options now :=
    if token.2 = key then checkClaims token.1 options now else .error .invalidSignature
  peek token := some token.1
  decode_encode _ _ _ _ := if_pos rfl
  peek_encode _ _ := rfl

/-! ### The manager -/

/-- `JWTManager`: the lifetimes are in seconds. -/
structure JWTManager where
  secretKey : PyStr
  issuer : PyStr := "isA_user".toList
  accessTokenExpiry : ℤ := 3600
  refreshTokenExpiry : ℤ := 604800

structure TokenClaims where
  userId : PyStr
  email : Option PyStr := none
  organizationId : Option PyStr := none
  scope : TokenScope := .user
  tokenType : TokenType := .access
  permissions : List PyStr := []
  metadata : JsonDict := []
  audience : Option PyStr := none

namespace JWTManager

variable (m : JWTManager)

/-- `int(now.timestamp())`. -/
def timestamp (t : Timestamp) : ℤ := t.tdiv 1000000

/-- `expires_delta or timedelta(seconds=...)`. -/
def lifetime (expiresDelta : Option ℤ) (expiry : ℤ) : ℤ :=
  (expiresDelta.filter (· ≠ 0)).getD (seconds expiry)

/-- The payload of `create_access_token`, with the id that is drawn. -/
def accessPayload (claims : TokenClaims) (expiresDelta : Option ℤ) (now : Timestamp)
    (jti : PyStr) : Payload :=
  { iss := m.issuer
    sub := claims.userId
    iat := timestamp now
    exp := timestamp (now + lifetime expiresDelta m.accessTokenExpiry)
    jti
    type := claims.tokenType
    scope := claims.scope
    email := claims.email
    organizationId := claims.organizationId
    permissions := some claims.permissions
    metadata := some claims.metadata
    aud := given claims.audience }

/-- The payload of `create_refresh_token`. -/
def refreshPayload (claims : TokenClaims) (expiresDelta : Option ℤ) (now : Timestamp)
    (jti : PyStr) : Payload :=
  { iss := m.issuer
    sub := claims.userId
    iat := timestamp now
    exp := timestamp (now + lifetime expiresDelta m.refreshTokenExpiry)
    jti
    type := .refresh
    scope := claims.scope }

variable (jwt : Jwt)

def createAccessToken (claims : TokenClaims) (expiresDelta : Option ℤ) (now : Timestamp)
    (jti : PyStr) : jwt.Token :=
  jwt.encode (m.accessPayload claims expiresDelta now jti) m.secretKey

def createRefreshToken (claims : TokenClaims) (expiresDelta : Option ℤ) (now : Timestamp)
    (jti : PyStr) : jwt.Token :=
  jwt.encode (m.refreshPayload claims expiresDelta now jti) m.secretKey

/-- `create_token_pair`: the access token and the refresh token, each with its time and id. -/
def createTokenPair (claims : TokenClaims) (accessDelta refreshDelta : Option ℤ)
    (access refresh : Timestamp × PyStr) : jwt.Token × jwt.Token :=
  (m.createAccessToken jwt claims accessDelta access.1 access.2,
    m.createRefreshToken jwt claims refreshDelta refresh.1 refresh.2)

end JWTManager

/-- Why `verify_token` refuses a token. -/
inductive VerifyError where
  | jwt (e : JwtError)
  /-- "Invalid audience. Expected ...". -/
  | invalidAudience
  /-- "Invalid token type. Expected ...". -/
  | invalidType
  deriving DecidableEq, Repr

/-- What `verify_token` returns of a token that it accepts. -/
structure VerifiedToken where
  payload : Payload
  userId : PyStr
  email : Option PyStr
  organizationId : Option PyStr
  scope : TokenScope
  permissions : List PyStr
  metadata : JsonDict
  tokenType : TokenType
  expiresAt : ℤ
  issuedAt : ℤ
  jti : PyStr

def Payload.verified (payload : Payload) : VerifiedToken :=
  { payload
    userId := payload.sub
    email := payload.email
    organizationId := payload.organizationId
    scope := payload.scope
    permissions := payload.permissions.getD []
    metadata := payload.metadata.getD []
    tokenType := payload.type
    expiresAt := payload.exp
    issuedAt := payload.iat
    jti := payload.jti }

def Payload.metadataAud (payload : Payload) : Option Json :=
  JsonDict.get? (payload.metadata.getD []) "aud"

def Json.isText (value : Option Json) (text : PyStr) : Bool :=
  match value with
  | some (.str s) => s = text
  | _ => false

namespace JWTManager

variable (m : JWTManager) (jwt : Jwt)

def verifyToken (token : jwt.Token) (expectedType : Option TokenType) (verifyExp : Bool)
    (expectedAudience : Option PyStr) (now : Timestamp) : Except VerifyError VerifiedToken :=
  let audience := given expectedAudience
  match jwt.decode token m.secretKey { issuer := m.issuer, verifyExp, audience } now with
  | .error e => .error (.jwt e)
  | .ok payload =>
    if ∃ aud ∈ audience, payload.aud = none ∧ Json.isText payload.metadataAud aud = false then
      .error .invalidAudience
    else if ∃ t ∈ expectedType, payload.type ≠ t then .error .invalidType
    else .ok payload.verified

/-- `refresh_access_token`: unless new claims are given, those of the refresh token. -/
def refreshAccessToken (refreshToken : jwt.Token) (newClaims : Option TokenClaims)
    (now : Timestamp) (jti : PyStr) : Except VerifyError jwt.Token := do
  let result ← m.verifyToken jwt refreshToken (some .refresh) true none now
  let claims := newClaims.getD
    { userId := result.userId
      email := result.email
      organizationId := result.organizationId
      scope := result.scope
      tokenType := .access
      permissions := result.permissions
      metadata := result.metadata }
  return m.createAccessToken jwt claims none now jti

end JWTManager

end IsaUser.Auth
