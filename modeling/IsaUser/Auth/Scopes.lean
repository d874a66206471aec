import IsaUser.Auth.Codes

/-!
# Granted Scopes

A client that comes for itself gets scopes that it is allowed. For a code it gets what the user
has approved, and nobody asks whether the client is allowed that. A token has scopes by their names
of today, and a resource that requires a scope by its old name refuses it.
-/

open Option

namespace IsaUser.Auth.OAuth

/-! ### The law -/

section Law

variable {jwt : Jwt} {ι : Type*}

def Request.clientId : Request → PyStr
  | clientCredentials clientId _ _ _ _ => clientId
  | approve approval _ _ => approval.clientId
  | exchange e _ => e.clientId

def scopesOf (token : jwt.Token) : List PyStr := ((jwt.peek token).bind Payload.permissions).getD []

def Granted (pool : OAuthPool jwt ι) (i : ι) (token : jwt.Token) : Prop :=
  ∃ r, pool.progs i = .ret r ∧ r.token = some token

def WithinAllowed (requests : ι → Request) (pool : OAuthPool jwt ι) : Prop :=
  ∀ i token, Granted pool i token → ∀ client ∈ pool.state.store.clients (requests i).clientId,
    scopesOf token ⊆ normalizeScopes client.allowedScopes

def Presentable (token : jwt.Token) (resourceUri : Option PyStr) (now : Timestamp) : Prop :=
  ∃ payload ∈ jwt.peek token, payload.Live now ∧ ∀ uri ∈ given resourceUri, payload.aud = some uri

def VerifiedExactly (service : OAuthService jwt) (token : jwt.Token)
    (requiredScopes : Option (List PyStr)) (resourceUri : Option PyStr) (now : Timestamp) : Prop :=
  (∃ verification, verifyAccessTokenForResource service token requiredScopes resourceUri now =
      .ok verification) ↔
    Presentable token resourceUri now ∧
      normalizeScopes (requiredScopes.getD []) ⊆ scopesOf token

/-! ### The condition -/

def CodesAllowed (requests : ι → Request) (pool : OAuthPool jwt ι) : Prop :=
  ∀ i exchange token, Redeemed requests pool i exchange token →
    ∀ code ∈ pool.state.store.codes, code.codeValue = exchange.code →
      ∀ client ∈ pool.state.store.clients exchange.clientId,
        normalizeScopes code.granted ⊆ normalizeScopes client.allowedScopes

def Legacy (scope : PyStr) : Prop := scope ∈ scopeMigrationMap.map Prod.fst
  deriving Decidable

end Law

/-! ### Scopes -/

variable {scope : PyStr}

theorem normalizeScope_of_not_legacy (h : ¬Legacy scope) : normalizeScope scope = scope := by
  rw [normalizeScope, List.lookup_eq_none_iff.mpr, getD_none]
  intro entry hentry
  have hne : scope ≠ entry.1 := fun heq => h (heq ▸ List.mem_map_of_mem hentry)
  simpa using hne

theorem not_legacy_normalizeScope (scope : PyStr) : ¬Legacy (normalizeScope scope) := by
  by_cases h : Legacy scope
  · have hall : ∀ scope ∈ scopeMigrationMap.map Prod.fst, ¬Legacy (normalizeScope scope) := by
      decide
    exact hall scope h
  · rwa [normalizeScope_of_not_legacy h]

theorem mem_normalizeScopes {scopes : List PyStr} :
    scope ∈ normalizeScopes scopes ↔ ∃ old ∈ scopes, normalizeScope old = scope := by
  rw [normalizeScopes, List.mem_dedup, List.mem_map]

theorem not_legacy_of_mem {scopes : List PyStr} (h : scope ∈ normalizeScopes scopes) :
    ¬Legacy scope := by
  obtain ⟨old, -, rfl⟩ := mem_normalizeScopes.mp h
  exact not_legacy_normalizeScope old

theorem subset_iff_normalizeScopes {required granted : List PyStr} :
    required ⊆ normalizeScopes granted ↔
      normalizeScopes required ⊆ normalizeScopes granted ∧ ∀ scope ∈ required, ¬Legacy scope := by
  constructor
  · intro h
    refine ⟨fun scope hscope => ?_, fun scope hscope => not_legacy_of_mem (h hscope)⟩
    obtain ⟨old, hold, rfl⟩ := mem_normalizeScopes.mp hscope
    rw [normalizeScope_of_not_legacy (not_legacy_of_mem (h hold))]
    exact h hold
  · rintro ⟨hsubset, hlegacy⟩ scope hscope
    refine hsubset (mem_normalizeScopes.mpr ⟨scope, hscope, ?_⟩)
    exact normalizeScope_of_not_legacy (hlegacy scope hscope)

/-! ### Tokens -/

section Tokens

variable {jwt : Jwt} {service : OAuthService jwt} {claims : TokenClaims} {token : jwt.Token}

def MadeOf (service : OAuthService jwt) (token : jwt.Token) (claims : TokenClaims) : Prop :=
  ∃ ttl issuedAt jti, token = service.manager.createAccessToken jwt claims ttl issuedAt jti

structure GrantClaims (claims : TokenClaims) (scopes : List PyStr) : Prop where
  type : claims.tokenType = .access
  permissions : claims.permissions = orderBy id (normalizeScopes scopes)

theorem grantClaims_code (code : AuthorizationCode) (clientId : PyStr) :
    GrantClaims (codeClaims code clientId) code.granted :=
  ⟨rfl, rfl⟩

theorem grantClaims_client (client : OAuthClient) (clientId : PyStr) (scopes : List PyStr)
    (resource : Option PyStr) :
    GrantClaims (clientClaims client clientId (normalizeScopes scopes) resource) scopes :=
  ⟨rfl, rfl⟩

theorem scopesOf_made (h : MadeOf service token claims) : scopesOf token = claims.permissions := by
  obtain ⟨ttl, issuedAt, jti, rfl⟩ := h
  rw [scopesOf, JWTManager.createAccessToken, jwt.peek_encode]
  rfl

theorem mem_scopesOf {scopes : List PyStr} (hmade : MadeOf service token claims)
    (hclaims : GrantClaims claims scopes) {scope : PyStr} :
    scope ∈ scopesOf token ↔ scope ∈ normalizeScopes scopes := by
  rw [scopesOf_made hmade, hclaims.permissions]
  exact (orderBy_perm id _).mem_iff

theorem verifyToken_audience {payload : Payload} (hiss : payload.iss = service.manager.issuer)
    (resourceUri : Option PyStr) (now : Timestamp) :
    (service.manager.verifyToken jwt (jwt.encode payload service.manager.secretKey) none true
        resourceUri now).toOption =
      if payload.Live now ∧ ∀ uri ∈ given resourceUri, payload.aud = some uri then
        some payload.verified else none := by
  rw [JWTManager.verifyToken, jwt.decode_encode, checkClaims]
  by_cases himmature : now < seconds payload.iat
  · rw [if_pos himmature, if_neg fun h => absurd h.1.1 (not_le.mpr himmature)]
    rfl
  rw [if_neg himmature]
  by_cases hexpired : seconds payload.exp ≤ now
  · rw [if_pos ⟨rfl, hexpired⟩, if_neg fun h => absurd h.1.2 (not_lt.mpr hexpired)]
    rfl
  have hlive : payload.Live now := ⟨not_lt.mp himmature, not_le.mp hexpired⟩
  rw [if_neg fun h => hexpired h.2, if_neg (not_not.mpr hiss)]
  cases hgiven : given resourceUri with
  | none => simp [hlive, Except.toOption]
  | some uri =>
    by_cases huri : payload.aud = some uri
    · simp [hlive, huri, Except.toOption]
    · simp [huri, Except.toOption]

theorem verifyForResource_made {payload : Payload} (hiss : payload.iss = service.manager.issuer)
    (resourceUri : Option PyStr) (now : Timestamp) :
    (verifyForResource service (jwt.encode payload service.manager.secretKey) resourceUri
        now).toOption.map (fun v => (v.payload, v.permissions)) =
      if payload.Live now ∧ ∀ uri ∈ given resourceUri, payload.aud = some uri then
        some (some payload, payload.permissions.getD []) else none := by
  rw [verifyForResource]
  cases hgiven : given resourceUri with
  | some uri =>
    have huri : given (some uri) = some uri := by
      rw [given, filter_some, if_pos (filter_eq_some_iff.mp hgiven).2]
    have hverify := verifyToken_audience hiss (some uri) now
    rw [huri] at hverify
    dsimp only
    cases hresult : service.manager.verifyToken jwt
        (jwt.encode payload service.manager.secretKey) none true (some uri) now with
    | error e =>
      rw [hresult] at hverify
      split at hverify
      · cases hverify
      · next hnot =>
          rw [if_neg hnot]
          rfl
    | ok verified =>
      rw [hresult] at hverify
      split at hverify
      · next hok =>
          obtain rfl := some.inj hverify
          rw [if_pos hok]
          rfl
      · cases hverify
  | none =>
    have hverify := verifyToken_audience hiss none now
    rw [show given none = none from rfl] at hverify
    have hroute : service.toAuthService.verifyToken (jwt.encode payload
        service.manager.secretKey) (some "isa_user".toList) now =
          service.verifyCustomJwt (jwt.encode payload service.manager.secretKey) now := rfl
    rw [hroute, AuthService.verifyCustomJwt]
    cases hresult : service.manager.verifyToken jwt
        (jwt.encode payload service.manager.secretKey) none true none now with
    | error e =>
      rw [hresult] at hverify
      split at hverify
      · cases hverify
      · next hnot =>
          rw [if_neg hnot]
          rfl
    | ok verified =>
      rw [hresult] at hverify
      split at hverify
      · next hok =>
          obtain rfl := some.inj hverify
          rw [if_pos hok]
          rfl
      · cases hverify

theorem verified_iff {scopes : List PyStr} (hmade : MadeOf service token claims)
    (hclaims : GrantClaims claims scopes) (requiredScopes : Option (List PyStr))
    (resourceUri : Option PyStr) (now : Timestamp) :
    (∃ verification, verifyAccessTokenForResource service token requiredScopes resourceUri now =
        .ok verification) ↔
      Presentable token resourceUri now ∧ requiredScopes.getD [] ⊆ scopesOf token := by
  obtain ⟨ttl, issuedAt, jti, rfl⟩ := hmade
  set payload := service.manager.accessPayload claims ttl issuedAt jti with hpayload
  have hpeek : jwt.peek (service.manager.createAccessToken jwt claims ttl issuedAt jti) =
      some payload := jwt.peek_encode _ _
  have hiss : payload.iss = service.manager.issuer := rfl
  have hread := verifyForResource_made hiss resourceUri now
  have hscopes : scopesOf (service.manager.createAccessToken jwt claims ttl issuedAt jti) =
      payload.permissions.getD [] := by
    rw [scopesOf, hpeek]
    rfl
  have hpresentable : Presentable (service.manager.createAccessToken jwt claims ttl issuedAt jti)
      resourceUri now ↔ payload.Live now ∧ ∀ uri ∈ given resourceUri, payload.aud = some uri := by
    rw [Presentable, hpeek]
    simp
  rw [hpresentable, hscopes]
  change (∃ verification, Except.bind (verifyForResource service (jwt.encode payload _) _ _) _ =
    .ok verification) ↔ _
  cases hresult : verifyForResource service (jwt.encode payload service.manager.secretKey)
      resourceUri now with
  | error e =>
    rw [hresult] at hread
    by_cases hok : payload.Live now ∧ ∀ uri ∈ given resourceUri, payload.aud = some uri
    · rw [if_pos hok] at hread
      cases hread
    · exact ⟨fun h => (nomatch h.choose_spec), fun h => absurd h.1 hok⟩
  | ok v =>
    rw [hresult] at hread
    by_cases hok : payload.Live now ∧ ∀ uri ∈ given resourceUri, payload.aud = some uri
    · rw [if_pos hok] at hread
      obtain ⟨hv, hpermissions⟩ := Prod.mk.inj (some.inj hread)
      have htype : v.payload.map Payload.type = some .access := by
        rw [hv]
        exact congrArg some hclaims.type
      rw [← hpermissions]
      dsimp only [Except.bind]
      rw [if_neg (not_not.mpr htype)]
      by_cases hsubset : ∀ scope ∈ requiredScopes.getD [], scope ∈ v.permissions
      · rw [if_pos hsubset]
        exact ⟨fun _ => ⟨hok, hsubset⟩, fun _ => ⟨v, rfl⟩⟩
      · rw [if_neg hsubset]
        exact ⟨fun h => (nomatch h.choose_spec), fun h => absurd h.2 hsubset⟩
    · rw [if_neg hok] at hread
      cases hread

end Tokens

/-! ### Grants under interference -/

section Grants

variable {jwt : Jwt} {service : OAuthService jwt} {past : OAuthPast} {m m' : Clocked OAuthStore}
  {A : OAuthPast → Clocked OAuthStore → Timed Call → Prop} {clientId : PyStr}

def Registered (clientId : PyStr) (client : OAuthClient) (m : Clocked OAuthStore) : Prop :=
  (m.store.clients clientId).map OAuthClient.settled = some client.settled

theorem Registered.later {client : OAuthClient} (h : Registered clientId client m)
    (hm : Later m.store m'.store) : Registered clientId client m' :=
  (hm.clients clientId).trans h

theorem verifyClientCredentials_sound {clientSecret : PyStr} :
    OAuthSound A (Returns fun r _ m => ∀ client ∈ r, Registered clientId client m)
      (service.verifyClientCredentials clientId clientSecret) past m := by
  refine ask_bind_sound fun m₁ found hm₁ _ _ hfound => ?_
  obtain rfl := Except.ok.inj hfound
  cases hclient : m₁.store.clients clientId with
  | none => exact sound_pure fun _ _ _ h => nomatch h
  | some client =>
    dsimp only
    split
    · refine now_bind_sound fun m₂ hm₂ => ask_bind_sound fun m₃ _ hm₃ _ _ _ => ?_
      refine sound_pure fun m₄ hm₄ client' h => ?_
      obtain rfl := some.inj h
      have hregistered : Registered clientId client m₁ := by
        rw [Registered, hclient, map_some]
      have hlater : Later m₁.store m₃.store := ((later_handle _ m₁).trans hm₂).trans hm₃
      exact hregistered.later (hlater.trans ((later_handle _ m₃).trans hm₄))
    · exact sound_pure fun _ _ _ h => nomatch h

theorem granted_scopes {requested allowed : List PyStr}
    (h : ¬(normalizeScopes requested ≠ [] ∧
      ¬∀ scope ∈ normalizeScopes requested, scope ∈ normalizeScopes allowed)) :
    ∃ scopes, (if normalizeScopes requested ≠ [] then normalizeScopes requested
      else normalizeScopes allowed) = normalizeScopes scopes ∧
        normalizeScopes scopes ⊆ normalizeScopes allowed := by
  by_cases hrequested : normalizeScopes requested ≠ []
  · refine ⟨requested, if_pos hrequested, fun scope hscope => ?_⟩
    by_contra hnot
    exact h ⟨hrequested, fun hall => hnot (hall scope hscope)⟩
  · exact ⟨allowed, if_neg hrequested, fun _ h => h⟩

theorem issueClientCredentialsToken_sound {clientSecret : PyStr} {scope resource : Option PyStr}
    {jti : PyStr} :
    OAuthSound A (fun r _ m => ∀ a token, r = .ok a → a.token = some token →
        ∃ client claims scopes, Registered clientId client m ∧ MadeOf service token claims ∧
          GrantClaims claims scopes ∧ normalizeScopes scopes ⊆ normalizeScopes client.allowedScopes)
      (issueClientCredentialsToken service clientId clientSecret scope resource jti) past m := by
  refine Prog.Sound.tryCatch (Q := Returns fun a _ m => ∀ token, a.token = some token →
    ∃ client claims scopes, Registered clientId client m ∧ MadeOf service token claims ∧
      GrantClaims claims scopes ∧ normalizeScopes scopes ⊆ normalizeScopes client.allowedScopes)
    ?_ ?_ ?_
  · refine sound_bind verifyClientCredentials_sound fun found past m h => ?_
    cases found with
    | none => exact sound_pure fun _ _ _ h => nomatch h
    | some client =>
      have hregistered := h client rfl
      dsimp only
      split
      · exact sound_pure fun _ _ _ h => nomatch h
      · next hallowed =>
          obtain ⟨scopes, hscopes, hsubset⟩ := granted_scopes hallowed
          refine now_bind_sound fun m₁ hm₁ => sound_pure fun m₂ hm₂ token htoken => ?_
          obtain rfl := some.inj htoken
          refine ⟨client, _, scopes, (hregistered.later hm₁).later hm₂, ⟨_, _, _, rfl⟩, ?_,
            hsubset⟩
          rw [hscopes]
          exact grantClaims_client _ _ _ _
  · rintro a past m h a' token ha'
    obtain rfl := Except.ok.inj ha'
    exact h token
  · rintro e past m - m' _ - a token ha htoken
    obtain rfl := Except.ok.inj ha
    cases htoken

theorem approve_sound {approval : Approval} {codeValue codeId : PyStr} :
    OAuthSound A (fun r _ _ => ∀ a, r = .ok a → a.token = none)
      ((Request.approve approval codeValue codeId).serve service) past m := by
  refine Prog.Sound.tryCatch (Q := fun r _ _ => ∀ a, r = .ok a → Response.token a = none) ?_
    (fun _ _ _ h => h) ?_
  · refine Prog.Only.sound_bind (K := fun _ => True) (P := fun _ => True)
      (Prog.only_of_forall _ fun _ => trivial) trivial (fun _ _ _ _ _ => ⟨trivial, trivial⟩) ?_ ?_
    · rintro code past m - m' _ - a ha
      obtain rfl := Except.ok.inj ha
      rfl
    · exact fun _ _ _ _ _ h => nomatch h
  · rintro e past m - m' _ - a ha
    obtain rfl := Except.ok.inj ha
    rfl

end Grants

/-! ### Runs -/

section Runs

variable {jwt : Jwt} {ι : Type*} [DecidableEq ι] {service : OAuthService jwt}
  {requests : ι → Request} {m : Clocked OAuthStore} {pool : OAuthPool jwt ι}

abbrev AnyRun : OAuthPool jwt ι → OAuthPool jwt ι → Prop := OAuthRun fun _ _ _ => True

theorem granted_other (hpool : AnyRun (OAuthPool.start service m requests) pool) (i : ι) :
    ∀ r, pool.progs i = .ret r → ∀ token, r.token = some token → match requests i with
      | .clientCredentials clientId _ _ _ _ => ∃ client claims scopes,
          Registered clientId client pool.state ∧ MadeOf service token claims ∧
            GrantClaims claims scopes ∧
            normalizeScopes scopes ⊆ normalizeScopes client.allowedScopes
      | .approve _ _ _ => False
      | .exchange _ _ => True := by
  have hall : Pool.AllSound oauthTerms handle (fun _ _ _ _ => True) (fun _ _ _ _ => True)
      (fun i a _ m => ∀ r, a = .ok r → ∀ token, r.token = some token → match requests i with
        | .clientCredentials clientId _ _ _ _ => ∃ client claims scopes,
            Registered clientId client m ∧ MadeOf service token claims ∧
              GrantClaims claims scopes ∧
              normalizeScopes scopes ⊆ normalizeScopes client.allowedScopes
        | .approve _ _ _ => False
        | .exchange _ _ => True)
      (OAuthPool.start service m requests) := by
    refine ⟨trivial, fun i => ?_⟩
    change ((requests i).serve service).Sound _ _ _ _ _ _ _
    cases hi : requests i with
    | clientCredentials clientId clientSecret scope resource jti =>
      refine issueClientCredentialsToken_sound.mono fun _ _ _ h r hr token htoken => ?_
      rw [hi]
      exact h r token hr htoken
    | approve approval codeValue codeId =>
      refine approve_sound.mono fun a _ _ h r hr token htoken => ?_
      rw [h r hr] at htoken
      cases htoken
    | exchange e jti =>
      refine (Prog.Only.sound (K := fun _ => True) (Prog.only_of_forall (P := fun _ => True) _
        fun _ => trivial) trivial fun _ _ _ _ _ => ⟨trivial, trivial⟩).mono ?_
      intro _ _ _ _ _ _ _ _
      rw [hi]
      trivial
  have hsound := hpool.sound hall (fun _ _ _ _ h => h)
    (fun _ _ m c _ _ _ => ⟨trivial, later_handle c m⟩) fun _ _ _ h => ⟨trivial, later_of_shifts h⟩
  exact fun r hr => hsound.of_ret hr r rfl

theorem granted_of_run (hpool : AnyRun (OAuthPool.start service m requests) pool) {i : ι}
    {token : jwt.Token} (h : Granted pool i token) :
    ∃ claims scopes, MadeOf service token claims ∧ GrantClaims claims scopes ∧
      match requests i with
      | .clientCredentials clientId _ _ _ _ => ∃ client, Registered clientId client pool.state ∧
          normalizeScopes scopes ⊆ normalizeScopes client.allowedScopes
      | .approve _ _ _ => False
      | .exchange e _ => ∃ code ∈ pool.state.store.codes, code.codeValue = e.code ∧
          scopes = code.granted := by
  obtain ⟨r, hr, htoken⟩ := h
  cases hi : requests i with
  | exchange e jti =>
    obtain ⟨code, issuedAt, hconsumed, rfl⟩ := (exchanged_of_run hpool hi hr).token token htoken
    obtain ⟨stored, hstored, hsame⟩ := hconsumed.stored
    refine ⟨_, _, ⟨_, _, _, rfl⟩, grantClaims_code code e.clientId, stored, hstored, ?_, ?_⟩
    · exact (congrArg AuthorizationCode.codeValue hsame :).trans hconsumed.value
    · exact (congrArg AuthorizationCode.granted hsame :).symm
  | clientCredentials clientId clientSecret scope resource jti =>
    have hother := granted_other hpool i r hr token htoken
    rw [hi] at hother
    obtain ⟨client, claims, scopes, hregistered, hmade, hclaims, hsubset⟩ := hother
    exact ⟨claims, scopes, hmade, hclaims, client, hregistered, hsubset⟩
  | approve approval codeValue codeId =>
    have hother := granted_other hpool i r hr token htoken
    rw [hi] at hother
    exact hother.elim

theorem withinAllowed_iff (hpool : AnyRun (OAuthPool.start service m requests) pool) :
    WithinAllowed requests pool ↔ CodesAllowed requests pool := by
  constructor
  · rintro h i e token ⟨jti, r, hi, hr, htoken⟩ code hcode hvalue client hclient
    obtain ⟨claims, scopes, hmade, hclaims, hmatch⟩ := granted_of_run hpool ⟨r, hr, htoken⟩
    have hwithin := h i token ⟨r, hr, htoken⟩ client
    rw [hi] at hmatch hwithin
    obtain ⟨code', hcode', hvalue', rfl⟩ := hmatch
    obtain rfl := List.inj_on_of_nodup_map pool.state.store.values hcode hcode'
      (hvalue.trans hvalue'.symm)
    exact fun scope hscope => hwithin hclient ((mem_scopesOf hmade hclaims).mpr hscope)
  · rintro h i token ⟨r, hr, htoken⟩ client hclient scope hscope
    obtain ⟨claims, scopes, hmade, hclaims, hmatch⟩ := granted_of_run hpool ⟨r, hr, htoken⟩
    have hscope := (mem_scopesOf hmade hclaims).mp hscope
    cases hi : requests i with
    | clientCredentials clientId clientSecret wanted resource jti =>
      rw [hi] at hmatch hclient
      obtain ⟨client', hregistered, hsubset⟩ := hmatch
      have hstored : pool.state.store.clients clientId = some client := hclient
      rw [Registered, hstored] at hregistered
      have hsame := some.inj hregistered
      have hallowed : client.allowedScopes = client'.allowedScopes :=
        (congrArg OAuthClient.allowedScopes hsame :)
      rw [hallowed]
      exact hsubset hscope
    | approve approval codeValue codeId =>
      rw [hi] at hmatch
      exact hmatch.elim
    | exchange e jti =>
      rw [hi] at hmatch hclient
      obtain ⟨code, hcode, hvalue, rfl⟩ := hmatch
      exact h i e token ⟨jti, r, hi, hr, htoken⟩ code hcode hvalue client hclient hscope

theorem verifiedExactly_iff (hpool : AnyRun (OAuthPool.start service m requests) pool) {i : ι}
    {token : jwt.Token} (h : Granted pool i token) (requiredScopes : Option (List PyStr))
    (resourceUri : Option PyStr) (now : Timestamp) :
    VerifiedExactly service token requiredScopes resourceUri now ↔
      (Presentable token resourceUri now →
        normalizeScopes (requiredScopes.getD []) ⊆ scopesOf token →
          ∀ scope ∈ requiredScopes.getD [], ¬Legacy scope) := by
  obtain ⟨claims, scopes, hmade, hclaims, -⟩ := granted_of_run hpool h
  have hmem : ∀ required : List PyStr,
      required ⊆ scopesOf token ↔ required ⊆ normalizeScopes scopes :=
    fun required => forall₂_congr fun scope _ => mem_scopesOf hmade hclaims
  rw [VerifiedExactly, verified_iff hmade hclaims, hmem, hmem, subset_iff_normalizeScopes]
  constructor
  · exact fun h hpresentable hsubset => (h.mpr ⟨hpresentable, hsubset⟩).2.2
  · exact fun h => ⟨fun hall => ⟨hall.1, hall.2.1⟩, fun hall => ⟨hall.1, hall.2, h hall.1 hall.2⟩⟩

end Runs

/-- **Scopes are within what is allowed** to the client in every token of a run exactly if they are
in the codes that were exchanged, and a token is verified as it should be exactly if the resource
does not require a scope that it has by an old name. -/
theorem granted_iff {jwt : Jwt} {ι : Type*} [DecidableEq ι] (service : OAuthService jwt)
    (requests : ι → Request) (m : Clocked OAuthStore) {pool : OAuthPool jwt ι}
    (hpool : AnyRun (OAuthPool.start service m requests) pool) :
    (WithinAllowed requests pool ↔ CodesAllowed requests pool) ∧
    ∀ i token, Granted pool i token → ∀ requiredScopes resourceUri now,
      (VerifiedExactly service token requiredScopes resourceUri now ↔
        (Presentable token resourceUri now →
          normalizeScopes (requiredScopes.getD []) ⊆ scopesOf token →
            ∀ scope ∈ requiredScopes.getD [], ¬Legacy scope)) :=
  ⟨withinAllowed_iff hpool, fun _ _ h => verifiedExactly_iff hpool h⟩

/-! ### A code for more than is allowed -/

theorem granted_rightFirst :
    (WithinAllowed secrets rightFirst ↔ CodesAllowed secrets rightFirst) ∧
      ∃ token, Granted rightFirst 1 token :=
  ⟨(granted_iff plain secrets approved
      (Pool.Reach.start.schedule (Pool.permitted_anyCall _ _ _))).1, _, _, rfl, rfl⟩

def alone (_ : Unit) : Request := .clientCredentials ['c'] ['s'] none none ['j']

def served : OAuthPool sealed Unit :=
  (OAuthPool.start plain approved alone).schedule handle [(), (), (), ()]

/-- A client that is allowed to read gets `admin`; and its token to read is refused where reading is
required by its old name. -/
theorem not_granted :
    (AnyRun (OAuthPool.start plain approved secrets) rightFirst ∧
      ¬WithinAllowed secrets rightFirst) ∧
    AnyRun (OAuthPool.start plain approved alone) served ∧
      ∃ token, Granted served () token ∧
        ¬VerifiedExactly plain token (some ["a2a.tasks.read".toList]) none 0 := by
  refine ⟨⟨Pool.Reach.start.schedule (Pool.permitted_anyCall _ _ _), fun h => ?_⟩,
    Pool.Reach.start.schedule (Pool.permitted_anyCall _ _ _), _, ⟨_, rfl, rfl⟩, fun h => ?_⟩
  · have hadmin := h 1 _ ⟨_, rfl, rfl⟩ _ rfl (a := "admin".toList) (by decide +kernel)
    exact absurd hadmin (by decide +kernel)
  · have hisSome : ∀ {r : Except ResourceError Verification},
      (∃ verification, r = .ok verification) →
        r.toOption.isSome = true := by
      rintro _ ⟨verification, rfl⟩
      rfl
    have haccepted := hisSome (h.mpr ⟨⟨_, rfl, by decide +kernel, nofun⟩, by decide +kernel⟩)
    exact absurd haccepted (by decide +kernel)

end IsaUser.Auth.OAuth
