import IsaUser.Auth.OAuth

/-!
# One-Time Codes

The mark that consumes a code is guarded, so a code is consumed once at most, by who knows what it
was approved for. The client is authenticated after that: who fails has used the code up.
-/

open List Option

namespace IsaUser.Auth.OAuth

open Prog

/-! ### The law -/

section Law

variable {jwt : Jwt} {ι : Type*}

def Response.token {Token : Type} : Response Token → Option Token
  | issued token _ _ _ => some token
  | _ => none

def Wins : OAuthStore × Call → PyStr → Prop
  | (s, .markUsed codeId _), k => codeId = k ∧ ∃ code ∈ s.codes, code.Unused codeId
  | _, _ => False

instance (codeId : PyStr) : ∀ (s : OAuthStore) (c : Call), Decidable (Wins (s, c) codeId)
  | s, .markUsed id _ =>
    inferInstanceAs (Decidable (id = codeId ∧ ∃ code ∈ s.codes, code.Unused id))
  | _, .selectClient _ | _, .touchClient .. | _, .insertCode _ | _, .selectCode _ => .isFalse id

def Marks (codeId : PyStr) (e : Clocked OAuthStore × Timed Call) : Prop :=
  Clocked.Executed (I := OAuthApi) (fun s c => Wins (s, c) codeId) e.1 e.2
  deriving Decidable

def Unexpired (code : AuthorizationCode) (e : Clocked OAuthStore × Timed Call) : Prop :=
  e.2 = .now ∧ e.1.clock ≤ code.expiresAt

def Redeemed (requests : ι → Request) (pool : OAuthPool jwt ι) (i : ι) (exchange : Exchange)
    (token : jwt.Token) : Prop :=
  ∃ jti r, requests i = .exchange exchange jti ∧ pool.progs i = .ret r ∧ r.token = some token

variable (service : OAuthService jwt) (requests : ι → Request) (pool : OAuthPool jwt ι)

def Once : Prop :=
  ∀ i j exchange exchange' token token', Redeemed requests pool i exchange token →
    Redeemed requests pool j exchange' token' → exchange.code = exchange'.code → i = j

/-- Who gets a token is the client that the code is stored for, with its redirect URI and its
verifier, and has come before the code expired. -/
def Bound : Prop :=
  ∀ i exchange token, Redeemed requests pool i exchange token →
    ∃ code ∈ pool.state.store.codes, code.codeValue = exchange.code ∧
      code.clientId = exchange.clientId ∧ code.redirectUri = exchange.redirectUri ∧
      service.checkPkce code exchange.codeVerifier = .ok () ∧
      ∃ e ∈ pool.past i, Unexpired code e

def Unburned : Prop :=
  ∀ i exchange jti r, requests i = .exchange exchange jti → pool.progs i = .ret r →
    r.NotAuthenticated → ∀ e ∈ pool.past i, ∀ codeId, ¬Marks codeId e

/-! ### The condition -/

def Authentic (exchange : Exchange) (s : OAuthStore) : Prop :=
  ∀ client ∈ s.clients exchange.clientId, client.kind = "confidential".toList →
    ∃ clientSecret ∈ given exchange.clientSecret, service.Authenticates client clientSecret
  deriving Decidable

def MarksAuthentic : Request → OAuthStore → Call → Prop
  | .exchange exchange _, s, .markUsed codeId _ =>
    (∃ code ∈ s.codes, code.Unused codeId) → Authentic service exchange s
  | _, _, _ => True

instance : ∀ (request : Request) (s : OAuthStore) (c : Call),
    Decidable (MarksAuthentic service request s c)
  | .exchange exchange _, s, .markUsed codeId _ =>
    inferInstanceAs (Decidable ((∃ code ∈ s.codes, code.Unused codeId) →
      Authentic service exchange s))
  | .clientCredentials .., _, _ | .approve .., _, _ => .isTrue trivial
  | .exchange .., _, .selectClient _ | .exchange .., _, .touchClient .. => .isTrue trivial
  | .exchange .., _, .insertCode _ | .exchange .., _, .selectCode _ => .isTrue trivial

def Authenticated (i : ι) (m : Clocked OAuthStore) (c : Timed Call) : Prop :=
  Clocked.Heeds (I := OAuthApi) (MarksAuthentic service (requests i)) m c

instance (i : ι) (m : Clocked OAuthStore) (c : Timed Call) :
    Decidable (Authenticated service requests i m c) :=
  inferInstanceAs (Decidable (Clocked.Heeds _ _ _))

end Law

/-! ### What a statement does -/

section Statements

variable {s s' : OAuthStore} {m m' : Clocked OAuthStore}

def OAuthClient.settled (client : OAuthClient) : OAuthClient := { client with lastUsedAt := none }

def AuthorizationCode.settled (code : AuthorizationCode) : AuthorizationCode :=
  { code with isUsed := false, usedAt := none }

/-- Clients stay as they are, and codes are stored for good and used for good. -/
structure Later (s s' : OAuthStore) : Prop where
  clients : ∀ clientId,
    (s'.clients clientId).map OAuthClient.settled = (s.clients clientId).map OAuthClient.settled
  codes : ∀ code ∈ s.codes, ∃ code' ∈ s'.codes, code'.settled = code.settled ∧
    (code.isUsed = true → code'.isUsed = true)

theorem Later.refl (s : OAuthStore) : Later s s :=
  ⟨fun _ => rfl, fun code hcode => ⟨code, hcode, rfl, fun h => h⟩⟩

theorem Later.trans {s'' : OAuthStore} (h : Later s s') (h' : Later s' s'') : Later s s'' := by
  refine ⟨fun clientId => (h'.clients clientId).trans (h.clients clientId), fun code hcode => ?_⟩
  obtain ⟨code', hcode', hsettled, hused⟩ := h.codes code hcode
  obtain ⟨code'', hcode'', hsettled', hused'⟩ := h'.codes code' hcode'
  exact ⟨code'', hcode'', hsettled'.trans hsettled, fun hcode => hused' (hused hcode)⟩

def oauthTerms : Terms (Clocked OAuthStore) :=
  Clocked.terms { inv := fun _ => True, rel := Later, rel_refl := Later.refl,
                  rel_trans := Later.trans }

theorem later_touchClient (s : OAuthStore) (clientId : PyStr) (now : Timestamp) :
    Later s (s.touchClient clientId now) := by
  refine ⟨fun clientId' => ?_, (Later.refl s).codes⟩
  rw [OAuthStore.touchClient]
  dsimp only
  rcases eq_or_ne clientId' clientId with rfl | hne
  · rw [Function.update_self, Option.map_map]
    rfl
  · rw [Function.update_of_ne hne]

theorem later_markUsed (s : OAuthStore) (codeId : PyStr) (now : Timestamp) :
    Later s (s.markUsed codeId now) := by
  refine ⟨fun _ => rfl, fun code hcode => ?_⟩
  refine ⟨_, mem_map_of_mem hcode, ?_⟩
  split
  · exact ⟨rfl, fun _ => rfl⟩
  · exact ⟨rfl, fun h => h⟩

theorem later_execute (c : Call) (s : OAuthStore) : Later s (execute c s).2 := by
  cases c with
  | selectClient clientId => exact Later.refl s
  | selectCode codeValue => exact Later.refl s
  | touchClient clientId now => exact later_touchClient s clientId now
  | markUsed codeId now => exact later_markUsed s codeId now
  | insertCode code =>
    rw [execute]
    split
    · split
      · exact Later.refl s
      · split
        · exact ⟨fun _ => rfl, fun code' hcode' =>
            ⟨code', mem_cons_of_mem _ hcode', rfl, fun h => h⟩⟩
        · exact Later.refl s
    · exact Later.refl s

theorem later_handle (c : Timed Call) (m : Clocked OAuthStore) :
    Later m.store (handle c m).2.store :=
  Clocked.rel_handle Later.refl fun c' _ => later_execute c' m.store

def Used (s : OAuthStore) (codeId : PyStr) : Prop :=
  ∃ code ∈ s.codes, code.codeId = codeId ∧ code.isUsed = true

theorem Used.later {codeId : PyStr} (h : Used s codeId) (hs : Later s s') : Used s' codeId := by
  obtain ⟨code, hcode, hid, hused⟩ := h
  obtain ⟨code', hcode', hsettled, hused'⟩ := hs.codes code hcode
  exact ⟨code', hcode', (congrArg AuthorizationCode.codeId hsettled).trans hid, hused' hused⟩

theorem oneTime : OneTime execute Used Wins where
  unused {s c k} hwins hused := by
    obtain ⟨code, hcode, hid, htrue⟩ := hused
    cases c with
    | markUsed codeId now =>
      obtain ⟨rfl, code', hcode', hid', hfalse⟩ := hwins
      obtain rfl := inj_on_of_nodup_map s.ids hcode hcode' (hid.trans hid'.symm)
      rw [hfalse] at htrue
      cases htrue
    | _ => exact hwins
  marks {s c k} hwins := by
    cases c with
    | markUsed codeId now =>
      obtain ⟨rfl, code, hcode, hunused⟩ := hwins
      refine ⟨code.mark now, ?_, hunused.1, rfl⟩
      have hmem := mem_map_of_mem
        (f := fun code => if code.Unused codeId then code.mark now else code) hcode
      rwa [if_pos hunused] at hmem
    | _ => exact hwins.elim
  keeps {s c k} hused := hused.later (later_execute c s)

theorem Authentic.later {jwt : Jwt} {service : OAuthService jwt} {exchange : Exchange}
    (h : Authentic service exchange s) (hs : Later s s') : Authentic service exchange s' := by
  intro client' hclient' hkind
  have hsettled := hs.clients exchange.clientId
  rw [mem_def.mp hclient'] at hsettled
  obtain ⟨client, hclient, hsame⟩ := map_eq_some_iff.mp hsettled.symm
  have hkind' : client.kind = client'.kind := (congrArg OAuthClient.kind hsame :)
  have hactive' : client.isActive = client'.isActive := (congrArg OAuthClient.isActive hsame :)
  have hhash : client.clientSecretHash = client'.clientSecretHash :=
    (congrArg OAuthClient.clientSecretHash hsame :)
  obtain ⟨clientSecret, hsecret, hactive, hcheck⟩ := h client hclient (hkind'.trans hkind)
  exact ⟨clientSecret, hsecret, hactive'.symm.trans hactive, hhash ▸ hcheck⟩

end Statements

/-! ### Calls under interference -/

section Calls

variable {jwt : Jwt} {service : OAuthService jwt} {past : OAuthPast} {m : Clocked OAuthStore}
  {exchange : Exchange} {A : OAuthPast → Clocked OAuthStore → Timed Call → Prop}
  {code : AuthorizationCode}

/-- A program under interference, which ends as `Q` says. -/
abbrev OAuthSound {α : Type} (A : OAuthPast → Clocked OAuthStore → Timed Call → Prop)
    (Q : Except OAuthError α → OAuthPast → Clocked OAuthStore → Prop) (p : OAuthM α) :
    OAuthPast → Clocked OAuthStore → Prop :=
  p.Sound oauthTerms handle A (fun _ _ _ => True) Q

def GrantError : OAuthError → Prop
  | .valueError text => ¬(Response.ofText text : Response Unit).NotAuthenticated
  | _ => True

instance : DecidablePred GrantError
  | .valueError _ => inferInstanceAs (Decidable ¬_)
  | .db _ | .unicodeError => .isTrue trivial

def Returns {α : Type} (P : α → OAuthPast → Clocked OAuthStore → Prop) :
    Except OAuthError α → OAuthPast → Clocked OAuthStore → Prop
  | .ok a, past, m => P a past m
  | .error e, _, _ => GrantError e

theorem sound_fault {α : Type} {P : α → OAuthPast → Clocked OAuthStore → Prop} {text : String}
    (h : GrantError (.valueError text.toList)) : OAuthSound A (Returns P) (fault text) past m :=
  fun _ _ _ => h

theorem ask_bind_sound {α : Type} {c : Call} {f : c.Reply → OAuthM α}
    {P : α → OAuthPast → Clocked OAuthStore → Prop}
    (h : ∀ m' r, Later m.store m'.store → A past m' (.call c) → m'.link = .up →
      (execute c m'.store).1 = .ok r →
        OAuthSound A (Returns P) (f r) ((m', .call c) :: past) (handle (.call c) m').2) :
    OAuthSound A (Returns P) (ask c >>= f) past m := by
  intro m' hm' _
  refine ⟨trivial, fun hA => ?_⟩
  cases hr : (handle (.call c) m').1 with
  | error e => exact fun _ _ _ => trivial
  | ok r =>
    obtain ⟨hlink, hanswer, -⟩ := Clocked.handle_ok hr
    exact h m' r hm' hA hlink hanswer

theorem now_bind_sound {α : Type} {f : Timestamp → OAuthM α}
    {P : α → OAuthPast → Clocked OAuthStore → Prop}
    (h : ∀ m', Later m.store m'.store → OAuthSound A (Returns P)
      (f m'.clock) ((m', .now) :: past) m') :
    OAuthSound A (Returns P) (now >>= f) past m :=
  sound_now fun m' hm' _ => ⟨trivial, h m' hm'⟩

theorem sound_bind {α β : Type} {p : OAuthM α} {f : α → OAuthM β}
    {P : α → OAuthPast → Clocked OAuthStore → Prop}
    {P' : β → OAuthPast → Clocked OAuthStore → Prop} (hp : OAuthSound A (Returns P) p past m)
    (hf : ∀ a past m, P a past m → OAuthSound A (Returns P') (f a) past m) :
    OAuthSound A (Returns P') (p >>= f) past m :=
  Sound.bind hp hf fun _ _ _ h => h

theorem sound_pure {α : Type} {P : α → OAuthPast → Clocked OAuthStore → Prop} {a : α}
    (h : ∀ m', Later m.store m'.store → P a past m') :
    OAuthSound A (Returns P) (pure a) past m :=
  fun m' hm' _ => h m' hm'

structure Consumed (service : OAuthService jwt) (exchange : Exchange) (code : AuthorizationCode)
    (past : OAuthPast) (m : Clocked OAuthStore) : Prop where
  stored : ∃ code' ∈ m.store.codes, code'.settled = code.settled
  value : code.codeValue = exchange.code
  client : code.clientId = exchange.clientId
  redirect : code.redirectUri = exchange.redirectUri
  pkce : service.checkPkce code exchange.codeVerifier = .ok ()
  unexpired : ∃ e ∈ past, Unexpired code e
  marked : ∃ e ∈ past, Marks code.codeId e

theorem stored_later {m' : Clocked OAuthStore}
    (h : ∃ code' ∈ m.store.codes, code'.settled = code.settled) (hm : Later m.store m'.store) :
    ∃ code' ∈ m'.store.codes, code'.settled = code.settled := by
  obtain ⟨code', hcode', hsame⟩ := h
  obtain ⟨code'', hcode'', hsame', -⟩ := hm.codes code' hcode'
  exact ⟨code'', hcode'', hsame'.trans hsame⟩

theorem exists_mem_cons {P : Clocked OAuthStore × Timed Call → Prop}
    (e : Clocked OAuthStore × Timed Call) (h : ∃ e ∈ past, P e) : ∃ e' ∈ e :: past, P e' := by
  obtain ⟨e', he', hP⟩ := h
  exact ⟨e', mem_cons_of_mem e he', hP⟩

theorem Consumed.later {m' : Clocked OAuthStore} (h : Consumed service exchange code past m)
    (hm : Later m.store m'.store) : Consumed service exchange code past m' :=
  { h with stored := stored_later h.stored hm }

theorem Consumed.cons (h : Consumed service exchange code past m)
    (e : Clocked OAuthStore × Timed Call) : Consumed service exchange code (e :: past) m :=
  { h with
    unexpired := exists_mem_cons e h.unexpired
    marked := exists_mem_cons e h.marked }

theorem Consumed.sound {α : Type} (h : Consumed service exchange code past m) (p : OAuthM α) :
    OAuthSound A (fun _ past m => Consumed service exchange code past m) p past m := by
  induction p generalizing past m with
  | ret a => exact fun m' hm' _ => h.later hm'
  | raise e => exact fun m' hm' _ => h.later hm'
  | call c k ih =>
    exact fun m' hm' _ => ⟨trivial, fun _ =>
      ih _ (((h.later hm').later (later_handle c m')).cons _)⟩

/-- A mark that used a code up before the moment `m`. -/
structure MarkedAt (A : OAuthPast → Clocked OAuthStore → Timed Call → Prop)
    (m' m : Clocked OAuthStore) : Prop where
  later : Later m'.store m.store
  link : m'.link = .up
  mark : ∃ past codeId usedAt, A past m' (.call (.markUsed codeId usedAt)) ∧
    ∃ code ∈ m'.store.codes, code.Unused codeId

theorem markUsed_sound {codeId : PyStr} :
    OAuthSound A (Returns fun success past' m' => Later m.store m'.store ∧
      (∀ e ∈ past, e ∈ past') ∧ (success = true →
        (∃ e ∈ past', Marks codeId e) ∧ ∃ m₀, MarkedAt A m₀ m'))
      (markUsed codeId) past m := by
  refine now_bind_sound fun m₁ hm₁ => ask_bind_sound fun m₂ count hm₂ hA hlink hcount => ?_
  obtain rfl := Except.ok.inj hcount
  refine sound_pure fun m₃ hm₃ => ?_
  have hlater : Later m₂.store m₃.store := (later_handle _ m₂).trans hm₃
  refine ⟨(hm₁.trans hm₂).trans hlater,
    fun e he => mem_cons_of_mem _ (mem_cons_of_mem _ he), fun hpos => ?_⟩
  have hunused : ∃ code ∈ m₂.store.codes, code.Unused codeId := by
    obtain ⟨code, hcode, hunused⟩ := countP_pos_iff.mp (of_decide_eq_true hpos)
    exact ⟨code, hcode, of_decide_eq_true hunused⟩
  have hdown : m₂.link ≠ .down := by
    rw [hlink]
    exact nofun
  exact ⟨⟨_, mem_cons_self, hdown, rfl, hunused⟩, m₂, hlater, hlink, _, _, _, hA, hunused⟩

theorem checkPkce_error {codeVerifier : Option PyStr} {e : OAuthError}
    (h : service.checkPkce code codeVerifier = .error e) : GrantError e := by
  rw [OAuthService.checkPkce] at h
  cases hchallenge : given code.codeChallenge with
  | none =>
    rw [hchallenge] at h
    cases h
  | some codeChallenge =>
    rw [hchallenge] at h
    cases hverifier : given codeVerifier with
    | none =>
      rw [hverifier] at h
      obtain rfl := Except.error.inj h
      decide
    | some verifier =>
      rw [hverifier] at h
      dsimp only at h
      cases hvalid : service.validatePkce verifier codeChallenge code.codeChallengeMethod with
      | error e' =>
        rw [hvalid] at h
        obtain rfl : e' = e := Except.error.inj h
        rw [OAuthService.validatePkce] at hvalid
        split at hvalid
        · cases hvalid
        · split at hvalid
          · obtain rfl := Except.error.inj hvalid
            trivial
          · cases hvalid
      | ok valid =>
        rw [hvalid] at h
        cases valid with
        | true => cases h
        | false =>
          obtain rfl : _ = e := Except.error.inj h
          decide

theorem consumeAuthorizationCode_sound :
    OAuthSound A (Returns fun code past m => Consumed service exchange code past m ∧
        ∃ m₀, MarkedAt A m₀ m)
      (service.consumeAuthorizationCode exchange) past m := by
  refine ask_bind_sound fun m₁ found hm₁ _ _ hfound => ?_
  obtain rfl := Except.ok.inj hfound
  cases hcode : m₁.store.codes.find? fun code => decide (code.codeValue = exchange.code) with
  | none => exact sound_fault (by decide)
  | some code =>
    have hvalue : code.codeValue = exchange.code := by simpa using find?_some hcode
    refine now_bind_sound fun m₂ hm₂ => ?_
    split
    · exact sound_fault (by decide)
    split
    · exact sound_fault (by decide)
    split
    · exact sound_fault (by decide)
    split
    · exact sound_fault (by decide)
    next hexpired _ hclient hredirect =>
      cases hpkce : service.checkPkce code exchange.codeVerifier with
      | error e => exact fun _ _ _ => checkPkce_error hpkce
      | ok _ =>
        have hstored : ∃ code' ∈ m₂.store.codes, code'.settled = code.settled :=
          stored_later ⟨code, mem_of_find?_eq_some hcode, rfl⟩
            ((later_handle _ m₁).trans hm₂)
        change OAuthSound A _ (markUsed code.codeId >>= _) _ _
        refine sound_bind markUsed_sound fun success past' m₃ h => ?_
        obtain ⟨hm₃, hpast, hsuccess⟩ := h
        split
        · next htrue =>
            refine sound_pure fun m₄ hm₄ => ?_
            obtain ⟨hmarked, m₀, hmark⟩ := hsuccess htrue
            refine ⟨⟨stored_later hstored (hm₃.trans hm₄), hvalue, not_not.mp hclient,
              not_not.mp hredirect, hpkce, ?_, hmarked⟩, ?_⟩
            · exact ⟨_, hpast _ mem_cons_self, rfl, not_lt.mp hexpired⟩
            · exact ⟨m₀, { hmark with later := hmark.later.trans hm₄ }⟩
        · exact sound_fault (by decide)

theorem notAuthenticated_ofText {T U : Type} {text : PyStr} :
    (Response.ofText text : Response T).NotAuthenticated →
      (Response.ofText text : Response U).NotAuthenticated := by
  rw [Response.ofText, Response.ofText]
  split <;> exact id

theorem redeem_sound : OAuthSound A (Returns fun r past m => match r with
      | .error refused => refused.token = none ∧ ¬refused.NotAuthenticated
      | .ok code => Consumed service exchange code past m ∧ ∃ m₀, MarkedAt A m₀ m)
    (redeem service exchange) past m := by
  refine Sound.tryCatch (Q := Returns fun r past m => ∃ code, r = .ok code ∧
    Consumed service exchange code past m ∧ ∃ m₀, MarkedAt A m₀ m) ?_ ?_ ?_
  · refine sound_bind consumeAuthorizationCode_sound fun code past m h => ?_
    obtain ⟨hconsumed, m₀, hmark⟩ := h
    exact sound_pure fun m' hm' => ⟨code, rfl, hconsumed.later hm', m₀,
      { hmark with later := hmark.later.trans hm' }⟩
  · rintro r past m ⟨code, rfl, h⟩
    exact h
  · intro e past m h
    cases e with
    | db e => exact fun _ _ _ => trivial
    | unicodeError => exact fun _ _ _ => ⟨rfl, id⟩
    | valueError text =>
      refine fun _ _ _ => ⟨?_, fun hnot => h (notAuthenticated_ofText hnot)⟩
      rw [Response.ofText]
      split <;> rfl

theorem authenticate_sound (h : Authentic service exchange m.store) :
    OAuthSound A (Returns fun r _ _ => r = none) (authenticate service exchange) past m := by
  refine ask_bind_sound fun m₁ found hm₁ _ _ hfound => ?_
  obtain rfl := Except.ok.inj hfound
  have hauth := h.later hm₁
  cases hclient : m₁.store.clients exchange.clientId with
  | none => exact sound_pure fun _ _ => rfl
  | some client =>
    dsimp only
    split
    · next hkind =>
        obtain ⟨clientSecret, hsecret, -, -⟩ := hauth client hclient hkind
        rw [mem_def.mp hsecret]
        refine sound_bind (P := fun r _ _ => r ≠ none) ?_ fun r past m hr => ?_
        · refine ask_bind_sound fun m₂ found hm₂ _ _ hfound => ?_
          obtain rfl := Except.ok.inj hfound
          have hauth₂ := hauth.later ((later_handle _ m₁).trans hm₂)
          have hsame := ((later_handle _ m₁).trans hm₂).clients exchange.clientId
          rw [hclient] at hsame
          obtain ⟨client', hclient', hsettled⟩ := map_eq_some_iff.mp hsame
          have hkind' : client'.kind = client.kind := (congrArg OAuthClient.kind hsettled :)
          obtain ⟨clientSecret', hsecret', hauthenticates⟩ :=
            hauth₂ client' hclient' (hkind'.trans hkind)
          obtain rfl := mem_unique hsecret hsecret'
          rw [hclient']
          dsimp only
          rw [if_pos hauthenticates]
          refine now_bind_sound fun m₃ _ => ask_bind_sound fun m₄ _ _ _ _ _ => ?_
          exact sound_pure fun _ _ => nofun
        · cases r with
          | none => exact absurd rfl hr
          | some _ => exact sound_pure fun _ _ => rfl
    · exact sound_pure fun _ _ => rfl

theorem authenticate_refuses : OAuthSound A
    (Returns fun r _ _ => ∀ refused ∈ r, refused.token = none) (authenticate service exchange)
      past m := by
  refine ask_bind_sound fun m₁ found _ _ _ _ => ?_
  cases found with
  | none => exact sound_pure fun _ _ _ h => nomatch h
  | some client =>
    dsimp only
    split
    · split
      · refine sound_pure fun _ _ refused h => ?_
        obtain rfl := some.inj h
        rfl
      · refine sound_bind (P := fun _ _ _ => True) ?_ fun r _ _ _ => ?_
        · refine ask_bind_sound fun m₂ found _ _ _ _ => ?_
          cases found with
          | none => exact sound_pure fun _ _ => trivial
          | some client =>
            dsimp only
            split
            · refine now_bind_sound fun m₃ _ => ask_bind_sound fun m₄ _ _ _ _ _ => ?_
              exact sound_pure fun _ _ => trivial
            · exact sound_pure fun _ _ => trivial
        · cases r with
          | none =>
            refine sound_pure fun _ _ refused h => ?_
            obtain rfl := some.inj h
            rfl
          | some _ => exact sound_pure fun _ _ _ h => nomatch h
    · exact sound_pure fun _ _ _ h => nomatch h

structure Exchanged (A : OAuthPast → Clocked OAuthStore → Timed Call → Prop)
    (service : OAuthService jwt) (exchange : Exchange) (jti : PyStr) (past : OAuthPast)
    (m : Clocked OAuthStore) (r : Response jwt.Token) : Prop where
  token : ∀ token, r.token = some token → ∃ code issuedAt,
    Consumed service exchange code past m ∧ token = service.manager.createAccessToken jwt
      (codeClaims code exchange.clientId) (some (seconds 3600)) issuedAt jti
  /-- Who is not authenticated was not when it used the code up. -/
  burned : r.NotAuthenticated → ∃ m₀, MarkedAt A m₀ m ∧ ¬Authentic service exchange m₀.store

theorem Exchanged.refused {jti : PyStr} {r : Response jwt.Token} (htoken : r.token = none)
    (hburned : r.NotAuthenticated → ∃ m₀, MarkedAt A m₀ m ∧ ¬Authentic service exchange m₀.store) :
    Exchanged A service exchange jti past m r where
  token token h := by
    rw [htoken] at h
    cases h
  burned := hburned

theorem issueToken_sound {jti : PyStr} (h : Consumed service exchange code past m) :
    OAuthSound A (Returns fun r past m => Exchanged A service exchange jti past m r)
      (issueToken service (codeClaims code exchange.clientId) 3600 exchange.clientId jti)
      past m := by
  refine now_bind_sound fun m₁ hm₁ => sound_pure fun m₂ hm₂ => ⟨fun token htoken => ?_, False.elim⟩
  obtain rfl := some.inj htoken
  exact ⟨code, m₁.clock, ((h.later hm₁).later hm₂).cons _, rfl⟩

theorem issueAuthorizationCodeToken_sound (jti : PyStr) :
    OAuthSound A (fun r past m => ∀ a, r = .ok a → Exchanged A service exchange jti past m a)
      (issueAuthorizationCodeToken service exchange jti) past m := by
  refine Sound.tryCatch
    (Q := Returns fun r past m => Exchanged A service exchange jti past m r) ?_ ?_ ?_
  · refine sound_bind redeem_sound fun redeemed past m h => ?_
    cases redeemed with
    | error refused => exact sound_pure fun _ _ => .refused h.1 fun hnot => absurd hnot h.2
    | ok code =>
      obtain ⟨hconsumed, m₀, hmark⟩ := h
      by_cases hauth : Authentic service exchange m₀.store
      · refine Sound.bind ((authenticate_sound (hauth.later hmark.later)).and
          (hconsumed.sound _)) ?_ fun _ _ _ h => h.1
        rintro r past m ⟨rfl, hconsumed⟩
        exact issueToken_sound hconsumed
      · refine Sound.bind ((authenticate_refuses.and (hconsumed.sound _)).later
          fun _ s c _ _ _ => later_handle c s) ?_ fun _ _ _ h => h.1.1
        rintro refused past m' ⟨⟨hrefused, hconsumed⟩, hlater⟩
        cases refused with
        | none => exact issueToken_sound hconsumed
        | some refused =>
          refine sound_pure fun m'' hm'' => .refused (hrefused _ rfl) fun _ => ⟨m₀, ?_, hauth⟩
          exact { hmark with later := (hmark.later.trans hlater).trans hm'' }
  · rintro a past m h a' ha'
    obtain rfl := Except.ok.inj ha'
    exact h
  · rintro e past m - m' _ - a ha
    obtain rfl := Except.ok.inj ha
    have hcode : "server_error".toList ≠ "invalid_client".toList := by decide
    exact .refused rfl fun h => absurd h hcode

end Calls

/-! ### Runs -/

section Runs

variable {jwt : Jwt} {ι : Type*} [DecidableEq ι] {service : OAuthService jwt}
  {requests : ι → Request} {m : Clocked OAuthStore} {pool : OAuthPool jwt ι}
  {C : ι → Clocked OAuthStore → Timed Call → Prop}

abbrev OAuthRun (C : ι → Clocked OAuthStore → Timed Call → Prop) :
    OAuthPool jwt ι → OAuthPool jwt ι → Prop :=
  Pool.Reach handle Clocked.Shifts fun i _ => C i

theorem later_of_shifts {m m' : Clocked OAuthStore} (h : Clocked.Shifts m m') :
    Later m.store m'.store := by
  rw [h.1]
  exact Later.refl m.store

theorem exchanged_of_run (hpool : OAuthRun C (OAuthPool.start service m requests) pool) {i : ι}
    {exchange : Exchange} {jti : PyStr} {r : Response jwt.Token}
    (hi : requests i = .exchange exchange jti) (hr : pool.progs i = .ret r) :
    Exchanged (fun _ => C i) service exchange jti (pool.past i) pool.state r := by
  have hall : Pool.AllSound oauthTerms handle (fun i _ => C i) (fun _ _ _ _ => True)
      (fun i r past m => ∀ exchange jti a, requests i = .exchange exchange jti → r = .ok a →
        Exchanged (fun _ => C i) service exchange jti past m a)
      (OAuthPool.start service m requests) := by
    refine ⟨trivial, fun i => ?_⟩
    change ((requests i).serve service).Sound _ _ _ _ _ _ _
    cases hi : requests i with
    | exchange exchange jti =>
      refine (issueAuthorizationCodeToken_sound jti).mono
        fun r past m h exchange' jti' a heq hr =>
        ?_
      obtain ⟨rfl, rfl⟩ := Request.exchange.inj (hi.symm.trans heq)
      exact h a hr
    | _ =>
      refine (Only.sound (K := fun _ => True) (only_of_forall (P := fun _ => True) _
        fun _ => trivial) trivial fun _ _ _ _ _ => ⟨trivial, trivial⟩).mono ?_
      exact fun _ _ _ _ _ _ _ heq => nomatch hi.symm.trans heq
  have hsound := hpool.sound hall (fun _ _ _ _ h => h)
    (fun _ _ m c _ _ _ => ⟨trivial, later_handle c m⟩) fun _ _ _ h => ⟨trivial, later_of_shifts h⟩
  exact hsound.of_ret hr exchange jti r hi rfl

theorem codeId_eq {s : OAuthStore} {code code' : AuthorizationCode}
    (h : ∃ stored ∈ s.codes, stored.settled = code.settled)
    (h' : ∃ stored ∈ s.codes, stored.settled = code'.settled)
    (hvalue : code.codeValue = code'.codeValue) : code.settled = code'.settled := by
  obtain ⟨stored, hstored, hsame⟩ := h
  obtain ⟨stored', hstored', hsame'⟩ := h'
  have hvalues : stored.codeValue = stored'.codeValue :=
    (congrArg AuthorizationCode.codeValue hsame :).trans
      (hvalue.trans (congrArg AuthorizationCode.codeValue hsame' :).symm)
  obtain rfl := inj_on_of_nodup_map s.values hstored hstored' hvalues
  exact hsame.symm.trans hsame'

theorem once_of_run (hpool : OAuthRun C (OAuthPool.start service m requests) pool) :
    Once requests pool := by
  rintro i j exchange exchange' token token' ⟨jti, r, hi, hr, htoken⟩
    ⟨jti', r', hj, hr', htoken'⟩ hcode
  obtain ⟨code, -, hconsumed, -⟩ := (exchanged_of_run hpool hi hr).token token htoken
  obtain ⟨code', -, hconsumed', -⟩ := (exchanged_of_run hpool hj hr').token token' htoken'
  have hsame := codeId_eq hconsumed.stored hconsumed'.stored
    ((hconsumed.value.trans hcode).trans hconsumed'.value.symm)
  have hid : code.codeId = code'.codeId := (congrArg AuthorizationCode.codeId hsame :)
  obtain ⟨e, he, hmarks⟩ := hconsumed.marked
  obtain ⟨e', he', hmarks'⟩ := hconsumed'.marked
  rw [← hid] at hmarks'
  exact (hpool.won_once (oneTime.clocked (e := .unavailable))
    (fun _ _ _ h hused => hused.later (later_of_shifts h)) he he' hmarks hmarks').1

theorem bound_of_run (hpool : OAuthRun C (OAuthPool.start service m requests) pool) :
    Bound service requests pool := by
  rintro i exchange token ⟨jti, r, hi, hr, htoken⟩
  obtain ⟨code, -, hconsumed, -⟩ := (exchanged_of_run hpool hi hr).token token htoken
  obtain ⟨stored, hstored, hsame⟩ := hconsumed.stored
  obtain ⟨e, he, hnow, hunexpired⟩ := hconsumed.unexpired
  refine ⟨stored, hstored, ?_, ?_, ?_, ?_, e, he, hnow, ?_⟩
  · exact (congrArg AuthorizationCode.codeValue hsame :).trans hconsumed.value
  · exact (congrArg AuthorizationCode.clientId hsame :).trans hconsumed.client
  · exact (congrArg AuthorizationCode.redirectUri hsame :).trans hconsumed.redirect
  · exact (congrArg (service.checkPkce · exchange.codeVerifier) hsame :).trans hconsumed.pkce
  · exact hunexpired.trans (congrArg AuthorizationCode.expiresAt hsame :).ge

theorem unburned_of_run (hpool : OAuthRun (Authenticated service requests)
    (OAuthPool.start service m requests) pool) : Unburned requests pool := by
  intro i exchange jti r hi hr hnot
  obtain ⟨m₀, ⟨-, hlink, _, codeId, usedAt, hA, hunused⟩, hauth⟩ :=
    (exchanged_of_run hpool hi hr).burned hnot
  rw [Authenticated, hi] at hA
  have hup : m₀.link ≠ .down := by
    rw [hlink]
    exact nofun
  exact absurd (hA hup hunused) hauth

end Runs

/-- **A code is good for one token**, for the client, the redirect URI and the verifier that it is
bound to, and before it expires; and where every mark is made for a client that is authenticated,
a client that is not leaves codes as they are. -/
theorem codes_oneTime {jwt : Jwt} {ι : Type*} [DecidableEq ι] (service : OAuthService jwt)
    (requests : ι → Request) (m : Clocked OAuthStore) :
    (∀ pool, OAuthRun (fun _ _ _ => True) (OAuthPool.start service m requests) pool →
      Once requests pool ∧ Bound service requests pool) ∧
    ∀ pool, OAuthRun (Authenticated service requests) (OAuthPool.start service m requests) pool →
      Unburned requests pool :=
  ⟨fun _ hpool => ⟨once_of_run hpool, bound_of_run hpool⟩, fun _ hpool => unburned_of_run hpool⟩

/-! ### The wrong secret -/

def plain : OAuthService sealed where
  manager := { secretKey := "secret".toList }
  auth0 _ _ := none
  isDevBypassAdminEmail _ := false
  checkpw secret hash := secret = hash
  s256 verifier := verifier

def approved : Clocked OAuthStore where
  store :=
    { clients := fun clientId => if clientId = ['c'] then
        some { clientId := ['c'], clientSecretHash := ['s'], clientName := ['n']
               organizationId := none, isActive := true, allowedScopes := ["mcp:tasks:read".toList]
               tokenTtlSeconds := 3600, clientType := none, redirectUris := []
               requirePkce := false }
        else none
      codes := [
        { codeId := ['1'], clientId := ['c'], redirectUri := ['r'], state := [], resource := none
          scopes := ["admin".toList], approvedScopes := ["admin".toList], userId := ['u']
          organizationId := none, codeChallenge := none, codeChallengeMethod := none
          codeValue := ['v'], createdAt := 0, expiresAt := seconds 600 }]
      ids := List.nodup_singleton _
      values := List.nodup_singleton _ }
  clock := 0
  link := .up

def exchangeWith (clientSecret : PyStr) : Exchange :=
  { code := ['v'], redirectUri := ['r'], codeVerifier := none, clientId := ['c']
    clientSecret := some clientSecret }

def secrets (i : Fin 2) : Request :=
  .exchange (exchangeWith (if i = 0 then ['x'] else ['s'])) ['j']

def wrongFirst : OAuthPool sealed (Fin 2) :=
  (OAuthPool.start plain approved secrets).schedule handle [0, 0, 0, 0, 0, 0]

/-- The code is used up by the client that was refused. -/
theorem not_codes_oneTime :
    OAuthRun (fun _ _ _ => True) (OAuthPool.start plain approved secrets) wrongFirst ∧
      ¬Unburned secrets wrongFirst := by
  refine ⟨Pool.Reach.start.schedule (Pool.permitted_anyCall _ _ _), fun h => ?_⟩
  have hburned := h 0 (exchangeWith ['x']) ['j'] _ rfl rfl (by decide +kernel)
  exact hburned (wrongFirst.past 0)[2] (getElem_mem _) ['1'] (by decide +kernel)

def rightFirst : OAuthPool sealed (Fin 2) :=
  (OAuthPool.start plain approved secrets).schedule handle [1, 1, 1, 1, 1, 1, 1, 1, 1]

theorem codes_oneTime_rightFirst :
    Bound plain secrets rightFirst ∧ Unburned secrets rightFirst :=
  ⟨((codes_oneTime plain secrets approved).1 rightFirst
      (Pool.Reach.start.schedule (Pool.permitted_anyCall _ _ _))).2,
    (codes_oneTime plain secrets approved).2 rightFirst
      (Pool.Reach.start.schedule (by decide +kernel))⟩

end IsaUser.Auth.OAuth
