import IsaUser.Auth.Jwt

/-!
# Refreshed Tokens

A refresh token has the user and the scope, and `refresh_access_token` makes a new access token of
what it reads there: without email, organization, permissions and metadata. `verify_token` and
`get_user_info_from_token` do not ask for the type of a token.
-/

open Option

namespace IsaUser.Auth

/-! ### Verification by the service -/

inductive AuthProvider where
  | auth0
  | isaUser
  | localProvider
  deriving DecidableEq, Repr

def providerOf (hint : PyStr) : Option AuthProvider :=
  if hint = "auth0".toList then some .auth0
  else if hint = "isa_user".toList then some .isaUser
  else if hint = "local".toList then some .localProvider
  else none

/-- `AuthenticationService`, as far as it verifies tokens: what Auth0 says of a token, its user and
email, and whose email makes an administrator where development mode is on. -/
structure AuthService (jwt : Jwt) where
  manager : JWTManager
  auth0 : jwt.Token → Timestamp → Option (Option PyStr × Option PyStr)
  isDevBypassAdminEmail : PyStr → Bool

/-- What `verify_token` returns of a token that it accepts. -/
structure Verification where
  provider : AuthProvider
  userId : Option PyStr
  email : Option PyStr
  payload : Option Payload := none
  organizationId : Option PyStr := none
  scope : Option TokenScope := none
  permissions : List PyStr := []
  metadata : JsonDict := []

/-- The account of a user, as `_resolve_account_claim_context` returns it. -/
structure AccountContext where
  name : Option PyStr := none
  accountActive : Option Bool := none
  accountMissing : Bool := false
  adminRoles : List PyStr := []

/-- The organization of a user, as `_resolve_organization_claim_context` returns it. -/
structure OrganizationContext where
  organizationId : Option PyStr := none
  tenantId : Option PyStr := none
  orgRole : Option PyStr := none
  organizationPermissions : List PyStr := []

/-- What `get_user_info_from_token` returns. -/
structure UserInfo where
  userId : Option PyStr
  email : Option PyStr
  preferredUsername : Option Json
  name : Option Json
  accountActive : Option Bool
  accountMissing : Bool
  organizationId : Option Json
  tenantId : Option Json
  orgRole : Option PyStr
  roles : List PyStr
  adminRoles : List PyStr
  organizationPermissions : List PyStr
  permissions : List PyStr
  provider : AuthProvider

/-- `list(value or [])`, of texts: what is no list raises. -/
def texts : Option Json → Option (List PyStr)
  | none => some []
  | some (.list items) => items.mapM Coercions.string
  | some (.str s) => some (s.map fun c => [c])
  | some (.dict entries) => some (entries.map (·.1.toList))
  | some value => if value.truthy then none else some []

def metadataRoles (metadata : JsonDict) : Option (List PyStr) :=
  match Json.or (metadata.get? "roles") (metadata.get? "role") with
  | some (.str s) => some (if s = [] then [] else [s])
  | value => texts value

def including (entry : PyStr) (entries : List PyStr) : List PyStr :=
  if entry ∈ entries then entries else entries ++ [entry]

/-- What comes before the first `@`, if there is one. -/
def localPart (email : PyStr) : Option PyStr :=
  if '@' ∈ email then some (email.takeWhile (· ≠ '@')) else none

/-- The claims of `get_user_info_from_token`, of a token that has been verified. -/
def Verification.userInfo (v : Verification) (devAdmin : Bool) (account : AccountContext)
    (org : OrganizationContext) : Option UserInfo := do
  let tokenOrganizationId := Json.or (v.organizationId.map .str) <|
    Json.or (v.metadata.get? "organization_id") <|
      Json.or (v.metadata.get? "org_id") (v.metadata.get? "tenant_id")
  let organizationId := Json.or (org.organizationId.map .str) tokenOrganizationId
  let tenantId := Json.or (org.tenantId.map .str) <|
    Json.or (v.metadata.get? "tenant_id") organizationId
  let deduped := (v.permissions ++ org.organizationPermissions).eraseDups
  let metadataAdminRoles ← texts (v.metadata.get? "admin_roles")
  let adminRoles := (metadataAdminRoles ++ account.adminRoles).eraseDups
  let permissions := if devAdmin then including "auth.admin".toList deduped else deduped
  let metadataRoles ← metadataRoles v.metadata
  let memberRoles := (given org.orgRole).elim metadataRoles fun role => including role metadataRoles
  let admin := v.scope = some .admin ∨ "auth.admin".toList ∈ permissions ∨ adminRoles ≠ [] ∨
    devAdmin = true
  return {
    userId := v.userId
    email := v.email
    preferredUsername := Json.or (v.metadata.get? "preferred_username") <|
      Json.or (v.metadata.get? "username") <|
        Json.or ((v.email.bind localPart).map .str) (v.userId.map .str)
    name := Json.or (account.name.map .str) (v.metadata.get? "name")
    accountActive := account.accountActive
    accountMissing := account.accountMissing
    organizationId
    tenantId
    orgRole := org.orgRole
    roles := if admin then including "admin".toList memberRoles else memberRoles
    adminRoles
    organizationPermissions := org.organizationPermissions
    permissions
    provider := v.provider }

namespace AuthService

variable {jwt : Jwt} (service : AuthService jwt)

def verifyCustomJwt (token : jwt.Token) (now : Timestamp) : Option Verification :=
  match service.manager.verifyToken jwt token none true none now with
  | .error _ => none
  | .ok verified =>
    some { provider := .isaUser
           userId := some verified.userId
           email := verified.email
           payload := some verified.payload
           organizationId := verified.organizationId
           scope := some verified.scope
           permissions := verified.permissions
           metadata := verified.metadata }

/-- `_detect_provider`: by the issuer, which is not verified. -/
def detectProvider (token : jwt.Token) : AuthProvider :=
  match jwt.peek token with
  | none => .isaUser
  | some payload =>
    if payload.iss = "isA_user".toList then .isaUser
    else if "auth0.com".toList <:+: payload.iss then .auth0
    else .isaUser

def route (token : jwt.Token) (provider : Option PyStr) : Option AuthProvider :=
  match given provider with
  | none => some (detectProvider token)
  | some hint => providerOf hint

/-- `verify_token`: what is accepted. -/
def verifyToken (token : jwt.Token) (provider : Option PyStr) (now : Timestamp) :
    Option Verification :=
  match route token provider with
  | none => none
  | some .auth0 => (service.auth0 token now).map fun user =>
    { provider := .auth0, userId := user.1, email := user.2 }
  | some _ => service.verifyCustomJwt token now

/-- `get_user_info_from_token`: what succeeds. -/
def getUserInfoFromToken (token : jwt.Token) (account : AccountContext)
    (org : OrganizationContext) (now : Timestamp) : Option UserInfo := do
  let v ← service.verifyToken token none now
  v.userInfo ((given v.email).any service.isDevBypassAdminEmail) account org

end AuthService

/-! ### The law -/

structure Rights where
  userId : PyStr
  scope : TokenScope
  email : Option PyStr
  organizationId : Option PyStr
  permissions : Option (List PyStr)
  metadata : Option JsonDict

def Payload.rights (payload : Payload) : Rights :=
  { userId := payload.sub
    scope := payload.scope
    email := payload.email
    organizationId := payload.organizationId
    permissions := payload.permissions
    metadata := payload.metadata }

/-- A pair of tokens is issued: the claims, the lifetimes, and the time and id of each token. -/
structure Issue where
  claims : TokenClaims
  accessDelta : Option ℤ := none
  refreshDelta : Option ℤ := none
  access : Timestamp × PyStr
  refresh : Timestamp × PyStr

section Law

variable (jwt : Jwt) (m : JWTManager) (issue : Issue)

def Issue.pair : jwt.Token × jwt.Token :=
  m.createTokenPair jwt issue.claims issue.accessDelta issue.refreshDelta issue.access
    issue.refresh

def Issue.chain (refreshes : List (Timestamp × PyStr)) : List jwt.Token :=
  (issue.pair jwt m).1 :: refreshes.filterMap fun refresh =>
    (m.refreshAccessToken jwt (issue.pair jwt m).2 none refresh.1 refresh.2).toOption

def KeepsRights : Prop :=
  ∀ refreshes : List (Timestamp × PyStr), (∀ refresh ∈ refreshes, issue.refresh.1 ≤ refresh.1) →
    ∀ token ∈ issue.chain jwt m refreshes,
      (jwt.peek token).map Payload.rights =
        (jwt.peek (issue.pair jwt m).1).map Payload.rights

def TakenFor (service : AuthService jwt) (provider : Option PyStr) (now : Timestamp) : Prop :=
  (service.verifyToken (issue.pair jwt service.manager).2 provider now).isSome

def Informed (service : AuthService jwt) (account : AccountContext) (org : OrganizationContext)
    (now : Timestamp) : Prop :=
  (service.getUserInfoFromToken (issue.pair jwt service.manager).2 account org now).isSome
  deriving Decidable

instance (service : AuthService jwt) (provider : Option PyStr) (now : Timestamp) :
    Decidable (TakenFor jwt issue service provider now) :=
  inferInstanceAs (Decidable (_ = true))

/-! ### The condition -/

def TokenClaims.Bare (claims : TokenClaims) : Prop :=
  claims.email = none ∧ claims.organizationId = none ∧ claims.permissions = [] ∧
    claims.metadata = []

def Payload.Live (payload : Payload) (now : Timestamp) : Prop :=
  seconds payload.iat ≤ now ∧ now < seconds payload.exp
  deriving Decidable

def Issue.refreshPayload : Payload :=
  m.refreshPayload issue.claims issue.refreshDelta issue.refresh.1 issue.refresh.2

def Answered (service : AuthService jwt) (provider : Option PyStr) (now : Timestamp) : Prop :=
  match AuthService.route (issue.pair jwt service.manager).2 provider with
  | none => False
  | some .auth0 => (service.auth0 (issue.pair jwt service.manager).2 now).isSome
  | some _ => (issue.refreshPayload service.manager).Live now

end Law

/-! ### Reading -/

section Reading

variable {jwt : Jwt} {m : JWTManager} {issue : Issue} {now : Timestamp}

variable (jwt m now) in
theorem verifyToken_encode (payload : Payload) (hiss : payload.iss = m.issuer)
    (expected : Option TokenType) :
    (m.verifyToken jwt (jwt.encode payload m.secretKey) expected true none now).toOption =
      if payload.Live now ∧ ∀ t ∈ expected, payload.type = t then some payload.verified
      else none := by
  have hdecode : jwt.decode (jwt.encode payload m.secretKey) m.secretKey
      { issuer := m.issuer, verifyExp := true, audience := given none } now =
        checkClaims payload { issuer := m.issuer } now := jwt.decode_encode _ _ _ _
  rw [JWTManager.verifyToken, hdecode, checkClaims]
  by_cases himmature : now < seconds payload.iat
  · rw [if_pos himmature, if_neg fun h => absurd h.1.1 (not_le.mpr himmature)]
    rfl
  · rw [if_neg himmature]
    by_cases hexpired : seconds payload.exp ≤ now
    · rw [if_pos ⟨rfl, hexpired⟩, if_neg fun h => absurd h.1.2 (not_lt.mpr hexpired)]
      rfl
    · have hlive : payload.Live now := ⟨not_lt.mp himmature, not_le.mp hexpired⟩
      have haud : ¬∃ aud ∈ given none, payload.aud = none ∧
          Json.isText payload.metadataAud aud = false := by simp [given]
      rw [if_neg fun h => hexpired h.2, if_neg (not_not.mpr hiss), if_neg fun h => nomatch h.1]
      dsimp only
      rw [if_neg haud]
      cases expected with
      | none => simp [hlive, Except.toOption]
      | some t =>
        by_cases htype : payload.type = t
        · simp [hlive, htype, Except.toOption]
        · simp [htype, Except.toOption]

def TokenClaims.refreshed (claims : TokenClaims) : TokenClaims :=
  { userId := claims.userId, scope := claims.scope }

theorem refreshAccessToken_eq (jti : PyStr) :
    (m.refreshAccessToken jwt (issue.pair jwt m).2 none now jti).toOption =
      if (issue.refreshPayload m).Live now then
        some (m.createAccessToken jwt issue.claims.refreshed none now jti) else none := by
  have hverify := verifyToken_encode jwt m now (issue.refreshPayload m) rfl (some .refresh)
  have htype : ∀ t ∈ some TokenType.refresh, (issue.refreshPayload m).type = t := by
    rintro t ⟨⟩
    rfl
  change (Except.bind (m.verifyToken jwt (jwt.encode (issue.refreshPayload m) m.secretKey) _ _ _ _)
    _).toOption = _
  cases hresult : m.verifyToken jwt (jwt.encode (issue.refreshPayload m) m.secretKey)
      (some .refresh) true none now with
  | error e =>
    rw [hresult] at hverify
    by_cases hlive : (issue.refreshPayload m).Live now
    · rw [if_pos ⟨hlive, htype⟩] at hverify
      cases hverify
    · rw [if_neg hlive]
      rfl
  | ok result =>
    rw [hresult] at hverify
    by_cases hlive : (issue.refreshPayload m).Live now
    · rw [if_pos ⟨hlive, htype⟩] at hverify
      obtain rfl : result = (issue.refreshPayload m).verified := some.inj hverify
      rw [if_pos hlive]
      rfl
    · rw [if_neg fun h => hlive h.1] at hverify
      cases hverify

theorem rights_refreshed_iff (claims : TokenClaims) (delta delta' : Option ℤ) (t t' : Timestamp)
    (jti jti' : PyStr) :
    (m.accessPayload claims.refreshed delta t jti).rights =
      (m.accessPayload claims delta' t' jti').rights ↔ claims.Bare := by
  constructor
  · intro h
    refine ⟨(congrArg Rights.email h).symm, (congrArg Rights.organizationId h).symm, ?_, ?_⟩
    · exact (some.inj (congrArg Rights.permissions h)).symm
    · exact (some.inj (congrArg Rights.metadata h)).symm
  · rintro ⟨hemail, horg, hpermissions, hmetadata⟩
    simp [JWTManager.accessPayload, Payload.rights, TokenClaims.refreshed, hemail, horg,
      hpermissions, hmetadata]

theorem peek_createAccessToken (claims : TokenClaims) (delta : Option ℤ) (jti : PyStr) :
    (jwt.peek (m.createAccessToken jwt claims delta now jti)).map Payload.rights =
      some (m.accessPayload claims delta now jti).rights := by
  rw [JWTManager.createAccessToken, jwt.peek_encode, map_some]

theorem keepsRights_iff : KeepsRights jwt m issue ↔
    issue.claims.Bare ∨ ∀ now, issue.refresh.1 ≤ now → ¬(issue.refreshPayload m).Live now := by
  have hfirst : (jwt.peek (issue.pair jwt m).1).map Payload.rights =
      some (m.accessPayload issue.claims issue.accessDelta issue.access.1 issue.access.2).rights :=
    peek_createAccessToken _ _ _
  constructor
  · intro h
    by_contra! hnot
    obtain ⟨hbare, now, hnow, hlive⟩ := hnot
    have hmem : m.createAccessToken jwt issue.claims.refreshed none now [] ∈
        issue.chain jwt m [(now, [])] := by
      refine List.mem_cons_of_mem _ (List.mem_filterMap.mpr ⟨(now, []), List.mem_cons_self, ?_⟩)
      rw [refreshAccessToken_eq, if_pos hlive]
    have hsame := h [(now, [])] (by simpa using hnow) _ hmem
    rw [peek_createAccessToken, hfirst] at hsame
    exact hbare ((rights_refreshed_iff _ _ _ _ _ _ _).mp (some.inj hsame))
  · intro h refreshes hrefreshes token htoken
    rcases List.mem_cons.mp htoken with rfl | htoken
    · rfl
    · obtain ⟨refresh, hrefresh, hmade⟩ := List.mem_filterMap.mp htoken
      rw [refreshAccessToken_eq, ite_none_right_eq_some] at hmade
      obtain ⟨hlive, hmade⟩ := hmade
      obtain rfl := some.inj hmade
      rcases h with hbare | hnever
      · rw [peek_createAccessToken, hfirst]
        exact congrArg some ((rights_refreshed_iff _ _ _ _ _ _ _).mpr hbare)
      · exact absurd hlive (hnever refresh.1 (hrefreshes refresh hrefresh))

variable {service : AuthService jwt}

theorem verifyCustomJwt_isSome : (service.verifyCustomJwt (issue.pair jwt service.manager).2
    now).isSome ↔ (issue.refreshPayload service.manager).Live now := by
  have hverify := verifyToken_encode jwt service.manager now
    (issue.refreshPayload service.manager) rfl none
  change (service.verifyCustomJwt (jwt.encode (issue.refreshPayload service.manager) _)
    now).isSome ↔ _
  rw [AuthService.verifyCustomJwt]
  cases hresult : service.manager.verifyToken jwt
      (jwt.encode (issue.refreshPayload service.manager) service.manager.secretKey) none true none
        now with
  | error e =>
    rw [hresult] at hverify
    by_cases hlive : (issue.refreshPayload service.manager).Live now
    · rw [if_pos ⟨hlive, by simp⟩] at hverify
      cases hverify
    · simp [hlive]
  | ok result =>
    rw [hresult] at hverify
    by_cases hlive : (issue.refreshPayload service.manager).Live now
    · simp [hlive]
    · rw [if_neg fun h => hlive h.1] at hverify
      cases hverify

theorem takenFor_iff (provider : Option PyStr) :
    TakenFor jwt issue service provider now ↔ Answered jwt issue service provider now := by
  rw [TakenFor, Answered, AuthService.verifyToken]
  cases AuthService.route (issue.pair jwt service.manager).2 provider with
  | none => simp
  | some provider =>
    cases provider with
    | auth0 => simp
    | isaUser => exact verifyCustomJwt_isSome
    | localProvider => exact verifyCustomJwt_isSome

theorem userInfo_isSome {v : Verification} (hmetadata : v.metadata = []) (devAdmin : Bool)
    (account : AccountContext) (org : OrganizationContext) :
    (v.userInfo devAdmin account org).isSome := by
  have hnone : ∀ name, JsonDict.get? v.metadata name = none := by
    intro name
    rw [hmetadata]
    rfl
  have hroles : metadataRoles v.metadata = some [] := by
    rw [metadataRoles, hnone, hnone]
    rfl
  rw [Verification.userInfo, hroles, hnone "admin_roles"]
  rfl

theorem metadata_of_taken {provider : Option PyStr} {v : Verification}
    (h : service.verifyToken (issue.pair jwt service.manager).2 provider now = some v) :
    v.metadata = [] := by
  have hcustom : service.verifyCustomJwt (issue.pair jwt service.manager).2 now = some v →
      v.metadata = [] := by
    intro h
    have hverify := verifyToken_encode jwt service.manager now
      (issue.refreshPayload service.manager) rfl none
    change service.verifyCustomJwt (jwt.encode (issue.refreshPayload service.manager) _) now =
      some v at h
    rw [AuthService.verifyCustomJwt] at h
    cases hresult : service.manager.verifyToken jwt
        (jwt.encode (issue.refreshPayload service.manager) service.manager.secretKey) none true
          none now with
    | error e =>
      rw [hresult] at h
      cases h
    | ok result =>
      rw [hresult] at h hverify
      rw [← some.inj h]
      have hresult := (ite_none_right_eq_some.mp hverify.symm).2
      rw [← some.inj hresult]
      rfl
  rw [AuthService.verifyToken] at h
  cases hroute : AuthService.route (issue.pair jwt service.manager).2 provider with
  | none =>
    rw [hroute] at h
    cases h
  | some route =>
    rw [hroute] at h
    cases route with
    | auth0 =>
      obtain ⟨user, -, rfl⟩ := map_eq_some_iff.mp h
      rfl
    | isaUser => exact hcustom h
    | localProvider => exact hcustom h

theorem informed_iff (account : AccountContext) (org : OrganizationContext) :
    Informed jwt issue service account org now ↔ Answered jwt issue service none now := by
  rw [← takenFor_iff, Informed, TakenFor, AuthService.getUserInfoFromToken]
  cases hresult : service.verifyToken (issue.pair jwt service.manager).2 none now with
  | none => simp
  | some v => simp [userInfo_isSome (metadata_of_taken hresult)]

end Reading

/-- **Refreshing keeps the rights** of a chain exactly if there were none to lose or nothing can be
refreshed, and a refresh token is refused exactly where it is not live, or its provider does not
answer for it. -/
theorem identity_iff (jwt : Jwt) (service : AuthService jwt) (issue : Issue) :
    (KeepsRights jwt service.manager issue ↔ issue.claims.Bare ∨
      ∀ now, issue.refresh.1 ≤ now → ¬(issue.refreshPayload service.manager).Live now) ∧
    (∀ provider now, ¬TakenFor jwt issue service provider now ↔
      ¬Answered jwt issue service provider now) ∧
    ∀ account org now, ¬Informed jwt issue service account org now ↔
      ¬Answered jwt issue service none now :=
  ⟨keepsRights_iff, fun provider _ => not_congr (takenFor_iff provider),
    fun account org _ => not_congr (informed_iff account org)⟩

/-! ### A user with an email -/

def service : AuthService sealed where
  manager := { secretKey := "secret".toList }
  auth0 _ _ := none
  isDevBypassAdminEmail _ := false

def login : Issue :=
  { claims := { userId := ['u'], email := some ['e'], permissions := ["read".toList] }
    access := (0, ['a'])
    refresh := (0, ['r']) }

/-- The email is lost, and the refresh token is taken for an access token. -/
theorem not_identity :
    ¬KeepsRights sealed service.manager login ∧ TakenFor sealed login service none 0 ∧
      Informed sealed login service {} {} 0 := by
  refine ⟨fun h => ?_, by decide +kernel, by decide +kernel⟩
  have hmem : service.manager.createAccessToken sealed { userId := ['u'] } none 0 ['b'] ∈
      login.chain sealed service.manager [(0, ['b'])] := List.mem_cons_of_mem _ List.mem_cons_self
  have hsame := h [(0, ['b'])] (by simp [login]) _ hmem
  have hemail := congrArg (Option.map Rights.email) hsame
  exact absurd hemail (by decide)

end IsaUser.Auth
