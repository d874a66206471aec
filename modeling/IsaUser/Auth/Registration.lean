import IsaUser.Auth.Jwt
import IsaUser.Lib.Faults
import IsaUser.Lib.OneTime

/-!
# Registrations

A registration is kept in memory until its code is verified. `verify_registration` then creates an
auth user under a new id and an account, and only after that removes the registration. Emails of
auth users are unique: a second attempt does not create a second user, and does not find the first.
-/

open IsaUser.Prog

namespace IsaUser.Auth.Registration

/-! ### The store -/

/-- An entry of `_pending_registrations`. -/
structure PendingRegistration where
  email : PyStr
  password : PyStr
  name : PyStr
  code : PyStr
  expiresAt : Timestamp
  deriving DecidableEq

/-- A row of `auth.users`. -/
structure AuthUser where
  userId : PyStr
  email : PyStr
  name : PyStr
  passwordHash : Option PyStr
  emailVerified : Bool := true
  deriving DecidableEq

structure Account where
  userId : PyStr
  email : PyStr
  name : PyStr
  deriving DecidableEq

/-- The registrations, the auth users, whose ids and emails are unique, the accounts, the clock, and
how the next call fares. -/
structure World where
  pending : PyStr → Option PendingRegistration
  users : List AuthUser
  ids : (users.map AuthUser.userId).Nodup
  emails : (users.map AuthUser.email).Nodup
  accounts : List Account
  clock : Timestamp
  link : Link

inductive Checked where
  | invalid
  | expired
  | wrongCode
  | found (record : PendingRegistration)

inductive Call where
  | register (pendingId email password name code : PyStr)
  | notify (email code pendingId : PyStr)
  | check (pendingId code : PyStr)
  | insertUser (user : AuthUser)
  | selectUser (email : PyStr)
  | ensureAccount (account : Account)
  | complete (pendingId : PyStr)
  deriving DecidableEq

def Call.Reply : Call → Type
  | register .. => Timestamp
  | notify .. => Unit
  | check .. => Checked
  | insertUser _ => ℕ
  | selectUser _ => Option AuthUser
  | ensureAccount _ => Account
  | complete _ => Timestamp

@[reducible] def RegistrationApi : Interface := ⟨Call, Call.Reply⟩

inductive RegistrationError where
  | unavailable
  | uniqueViolation
  /-- A text that its column does not hold. -/
  | dataError
  /-- The registration is not there. -/
  | keyError
  /-- A password that cannot be hashed. -/
  | valueError
  deriving DecidableEq, Repr

def Insertable (user : AuthUser) (w : World) : Prop :=
  user.userId ∉ w.users.map AuthUser.userId ∧ user.email ∉ w.users.map AuthUser.email
  deriving Decidable

def AuthUser.Fits (user : AuthUser) : Prop :=
  user.userId.length ≤ 255 ∧ user.email.length ≤ 255 ∧ user.name.length ≤ 255
  deriving Decidable

def World.remove (w : World) (pendingId : PyStr) : World :=
  { w with pending := Function.update w.pending pendingId none }

def execute : Handler (RegistrationApi.fallible RegistrationError) World
  | .register pendingId email password name code, w =>
    let record := { email, password, name, code, expiresAt := w.clock + seconds 600 }
    (.ok record.expiresAt,
      { w with pending := Function.update w.pending pendingId (some record) })
  | .notify _ _ _, w => (.ok (), w)
  | .check pendingId code, w =>
    match w.pending pendingId with
    | none => (.ok .invalid, w)
    | some record =>
      if record.expiresAt < w.clock then (.ok .expired, w.remove pendingId)
      else if PyStr.strip code ≠ PyStr.strip record.code then (.ok .wrongCode, w)
      else (.ok (.found record), w)
  | .insertUser user, w =>
    if hnew : Insertable user w then
      if user.Fits then
        (.ok (1 : ℕ), { w with
          users := user :: w.users
          ids := List.nodup_cons.mpr ⟨hnew.1, w.ids⟩
          emails := List.nodup_cons.mpr ⟨hnew.2, w.emails⟩ })
      else (.error .dataError, w)
    else (.error .uniqueViolation, w)
  | .selectUser email, w => (.ok (w.users.find? fun user => user.email = email), w)
  | .ensureAccount account, w =>
    match w.accounts.find? fun known => known.userId = account.userId with
    | some known => (.ok known, w)
    | none => (.ok account, { w with accounts := account :: w.accounts })
  | .complete pendingId, w =>
    match w.pending pendingId with
    | none => (.error .keyError, w)
    | some _ => (.ok w.clock, w.remove pendingId)

def Call.Local : Call → Bool
  | register .. | check .. | complete _ => true
  | _ => false

def handle : Handler (RegistrationApi.fallible RegistrationError) World := fun c w =>
  if c.Local then execute c w else w.link.pass .unavailable (execute c w) w

/-! ### The methods -/

abbrev RegistrationM := Prog (RegistrationApi.fallible RegistrationError) RegistrationError

def ask (c : Call) : RegistrationM c.Reply := query (I := RegistrationApi) id c

/-- The two kinds of account clients: one that raises where the account service fails, and
`AccountServiceClient`, which then answers with `None`. -/
inductive AccountClient where
  | raising
  | swallowing
  deriving DecidableEq, Repr

/-- `AuthenticationService`, as far as it registers users. A password that cannot be hashed has no
hash. -/
structure Registrar (jwt : Jwt) where
  manager : JWTManager
  accountClient : Option AccountClient
  notifies : Bool
  hashPassword : PyStr → PyStr → Option PyStr
  lower : PyStr → PyStr

inductive Response (Token : Type) where
  | started (pendingId : PyStr) (expiresAt : Timestamp)
  | success (userId email : PyStr) (account : Option Account) (tokens : Token × Token)
  | failure (error : String)
  | raised (e : RegistrationError)

/-- The parameters of `start_registration`, with the id and the code that are drawn. -/
structure Start where
  email : PyStr
  password : PyStr
  name : Option PyStr
  pendingId : PyStr
  code : PyStr
  deriving DecidableEq

/-- The parameters of `verify_registration`, with what is drawn: the id of the user, the salt of the
hash, and the ids of the tokens. -/
structure Verify where
  pendingId : PyStr
  code : PyStr
  userId : PyStr
  salt : PyStr := []
  jtis : PyStr × PyStr := ([], [])
  deriving DecidableEq

inductive Request where
  | start (s : Start)
  | verify (v : Verify)

section Methods

variable {jwt : Jwt} (service : Registrar jwt)

def Registrar.normalizeEmail (email : PyStr) : PyStr := service.lower (PyStr.strip email)

def sendCode (email code pendingId : PyStr) : RegistrationM Unit :=
  if service.notifies = true then
    (ask (.notify email code pendingId) : RegistrationM Unit).tryCatch fun _ => return ()
  else return ()

def startRegistration (s : Start) : RegistrationM (Response jwt.Token) := do
  let email := service.normalizeEmail s.email
  let name := (given s.name).getD (email.takeWhile (· ≠ '@'))
  let expiresAt : Timestamp ← ask (.register s.pendingId email s.password name s.code)
  sendCode service email s.code s.pendingId
  return .started s.pendingId expiresAt

/-- `get_user_by_email`: what fails is no user. -/
def getUserByEmail (email : PyStr) : RegistrationM (Option AuthUser) :=
  (ask (.selectUser email) : RegistrationM (Option AuthUser)).tryCatch fun _ => return none

/-- `create_user`, where it does not raise. -/
def createUser (user : AuthUser) : RegistrationM Bool :=
  Prog.tryCatch (ε := RegistrationError) (do
    let count : ℕ ← ask (.insertUser user)
    let _ ← (if 0 < count then getUserByEmail user.email else .ret none : RegistrationM _)
    return true) fun _ => return false

/-- The account of a user: `none` where it cannot be created. -/
def ensureAccount (account : Account) : RegistrationM (Option (Option Account)) :=
  match service.accountClient with
  | none => return some (some account)
  | some .raising =>
    Prog.tryCatch (ε := RegistrationError) (do
      let known : Account ← ask (.ensureAccount account)
      return some (some known)) fun _ => return none
  | some .swallowing =>
    Prog.tryCatch (ε := RegistrationError) (do
      let known : Account ← ask (.ensureAccount account)
      return some (some known)) fun _ => return some none

def hashOf (password salt : PyStr) : Except RegistrationError (Option PyStr) :=
  if password = [] then .ok none
  else match service.hashPassword password salt with
    | none => .error .valueError
    | some passwordHash => .ok (some passwordHash)

/-- The end of `verify_registration`, with the user in the store: account, removal, tokens. -/
def finishRegistration (v : Verify) (user : AuthUser) : RegistrationM (Response jwt.Token) := do
  match ← ensureAccount service { userId := user.userId, email := user.email, name := user.name }
    with
  | none => return .failure "Account creation failed"
  | some account => do
    let issuedAt : Timestamp ← ask (.complete v.pendingId)
    let claims : TokenClaims :=
      { userId := user.userId
        email := some user.email
        metadata := [("registration", .str "email_code".toList)] }
    return .success user.userId user.email account
      (service.manager.createTokenPair jwt claims none none (issuedAt, v.jtis.1)
        (issuedAt, v.jtis.2))

/-- `verify_registration`, from the registration that it has found. -/
def completeRegistration (v : Verify) (record : PendingRegistration) :
    RegistrationM (Response jwt.Token) := do
  let passwordHash ← lift (hashOf service record.password v.salt)
  let user : AuthUser :=
    { userId := v.userId, email := record.email, name := record.name, passwordHash }
  if ← createUser user then finishRegistration service v user
  else return .failure "User creation failed"

def verifyRegistration (v : Verify) : RegistrationM (Response jwt.Token) := do
  match ← (ask (.check v.pendingId v.code) : RegistrationM Checked) with
  | .invalid => return .failure "Invalid pending registration"
  | .expired => return .failure "Verification expired"
  | .wrongCode => return .failure "Invalid verification code"
  | .found record => completeRegistration service v record

def Request.serve (request : Request) : RegistrationM (Response jwt.Token) :=
  Prog.tryCatch (ε := RegistrationError)
    (match request with
    | start s => startRegistration service s
    | verify v => verifyRegistration service v) fun e => return .raised e

end Methods

/-! ### The law -/

abbrev RegistrationPast := Past (RegistrationApi.fallible RegistrationError) World

abbrev RegistrationPool (jwt : Jwt) (ι : Type*) :=
  Pool (RegistrationApi.fallible RegistrationError) RegistrationError (Response jwt.Token) ι World

section Law

variable {jwt : Jwt} {ι : Type*} (service : Registrar jwt) (requests : ι → Request)
  (pool : RegistrationPool jwt ι)

def RegistrationPool.start (w : World) : RegistrationPool jwt ι :=
  Pool.start w fun i => (requests i).serve service

def Creates (user : AuthUser) (e : World × Call) : Prop :=
  e.2 = .insertUser user ∧ e.1.link ≠ .down ∧ Insertable user e.1 ∧ user.Fits
  deriving Decidable

def CreatedBy (i : ι) (v : Verify) (user : AuthUser) : Prop :=
  requests i = .verify v ∧ ∃ e ∈ pool.past i, Creates user e

def Accepted (i : ι) (v : Verify) : Prop :=
  requests i = .verify v ∧
    ∃ userId email account tokens, pool.progs i = .ret (.success userId email account tokens)

def Response.Failed {Token : Type} : Response Token → Prop
  | failure _ => True
  | raised _ => True
  | _ => False

def Completes (w : World) (v : Verify) (user : AuthUser) : Prop :=
  ∀ userId salt jtis, ∃ w' email account tokens,
    ((Request.verify { v with userId, salt, jtis }).serve service).run handle
        { w with link := .up } =
      (.ok (.success user.userId email account tokens), w')

def OneUser : Prop :=
  ∀ i j v v' user user', CreatedBy requests pool i v user → CreatedBy requests pool j v' user' →
    v.pendingId = v'.pendingId → i = j ∧ user = user'

def AcceptedOnce : Prop :=
  ∀ i j v v', Accepted requests pool i v → Accepted requests pool j v' →
    v.pendingId = v'.pendingId → i = j

/-- Who is refused has created no user, or the same verification completes the user later. -/
def Recoverable : Prop :=
  ∀ i v r, requests i = .verify v → pool.progs i = .ret r → r.Failed →
    (∀ e ∈ pool.past i, ∀ user, ¬Creates user e) ∨
      ∃ user, CreatedBy requests pool i v user ∧ Completes service pool.state v user

/-! ### The condition -/

def Request.drawn : Request → Option PyStr
  | start s => some s.pendingId
  | verify _ => none

structure Fresh (w : World) : Prop where
  distinct : ∀ i j pendingId, (requests i).drawn = some pendingId →
    (requests j).drawn = some pendingId → i = j
  new : ∀ i pendingId, (requests i).drawn = some pendingId → w.pending pendingId = none

/-- Nothing fails once a user has been created: the insert that is executed is answered, an account
client that raises gets its answer, and the registration is still there when it is removed. -/
def Steady (w : World) : Call → Prop
  | .insertUser user => w.link = .lost → ¬(Insertable user w ∧ user.Fits)
  | .ensureAccount _ => service.accountClient = some .raising → w.link = .up
  | .complete pendingId => (w.pending pendingId).isSome
  | _ => True

instance (w : World) : DecidablePred (Steady service w)
  | .insertUser user =>
    inferInstanceAs (Decidable (w.link = .lost → ¬(Insertable user w ∧ user.Fits)))
  | .ensureAccount _ =>
    inferInstanceAs (Decidable (service.accountClient = some .raising → w.link = .up))
  | .complete pendingId => inferInstanceAs (Decidable ((w.pending pendingId).isSome = true))
  | .register .. | .notify .. | .check .. | .selectUser _ => .isTrue trivial

end Law

def Shifts (w w' : World) : Prop :=
  w'.pending = w.pending ∧ w'.users = w.users ∧ w'.accounts = w.accounts ∧ w.clock ≤ w'.clock

/-! ### What a call does -/

section Calls

variable {jwt : Jwt} {ι : Type*} {service : Registrar jwt} {requests : ι → Request} {w w' w₀ : World}
  {past : RegistrationPast} {A : RegistrationPast → World → Call → Prop} {v : Verify}
  {user : AuthUser} {P : Call → Prop} {email : PyStr}

theorem handle_snd {P : World → Prop} {c : Call} (hw : P w) (hexecuted : P (execute c w).2) :
    P (handle c w).2 := by
  rw [handle]
  split
  · exact hexecuted
  · cases w.link with
    | down => exact hw
    | _ => exact hexecuted

def Stored (w : World) (email : PyStr) : Prop := email ∈ w.users.map AuthUser.email

theorem stored_handle (c : Call) (h : Stored w email) : Stored (handle c w).2 email := by
  refine handle_snd (P := fun w => Stored w email) h ?_
  cases c with
  | insertUser user =>
    rw [execute]
    split
    · split
      · exact List.mem_cons_of_mem _ h
      · exact h
    · exact h
  | check pendingId code =>
    rw [execute]
    split
    · exact h
    · split
      · exact h
      · split <;> exact h
  | ensureAccount account =>
    rw [execute]
    split <;> exact h
  | complete pendingId =>
    rw [execute]
    split <;> exact h
  | _ => exact h

theorem oneTime : OneTime handle Stored fun e email =>
    ∃ user : AuthUser, user.email = email ∧ Creates user e where
  unused {w c email} hwins hstored := by
    obtain ⟨user, rfl, -, -, hinsertable, -⟩ := hwins
    exact hinsertable.2 hstored
  marks {w c email} hwins := by
    obtain ⟨user, rfl, hcall, hlink, hinsertable, hfits⟩ := hwins
    obtain rfl : c = .insertUser user := hcall
    have hexecuted : Stored (execute (.insertUser user) w).2 user.email := by
      rw [execute, dif_pos hinsertable, if_pos hfits]
      exact List.mem_cons_self
    change Stored (w.link.pass RegistrationError.unavailable (execute (.insertUser user) w) w).2 _
    cases hw : w.link with
    | down => exact absurd hw hlink
    | _ => exact hexecuted
  keeps {w c email} hstored := stored_handle c hstored

def EmailAt (service : Registrar jwt) (requests : ι → Request) (w₀ : World)
    (pendingId email : PyStr) : Prop :=
  (∃ record ∈ w₀.pending pendingId, record.email = email) ∨
    ∃ i s, requests i = .start s ∧ s.pendingId = pendingId ∧ service.normalizeEmail s.email = email

theorem EmailAt.unique (hfresh : Fresh requests w₀) {pendingId email' : PyStr}
    (h : EmailAt service requests w₀ pendingId email)
    (h' : EmailAt service requests w₀ pendingId email') : email = email' := by
  have hnot : ∀ {i s}, requests i = .start s → s.pendingId = pendingId →
      w₀.pending pendingId = none := by
    rintro i s hi rfl
    exact hfresh.new i s.pendingId (by rw [hi]; rfl)
  rcases h with ⟨record, hrecord, rfl⟩ | ⟨i, s, hi, hs, rfl⟩
  · rcases h' with ⟨record', hrecord', rfl⟩ | ⟨j, s', hj, hs', rfl⟩
    · rw [Option.mem_unique hrecord hrecord']
    · rw [hnot hj hs'] at hrecord
      cases hrecord
  · rcases h' with ⟨record', hrecord', rfl⟩ | ⟨j, s', hj, hs', rfl⟩
    · rw [hnot hi hs] at hrecord'
      cases hrecord'
    · obtain rfl : i = j := hfresh.distinct i j pendingId (by rw [hi, ← hs]; rfl)
        (by rw [hj, ← hs']; rfl)
      obtain rfl := Request.start.inj (hi.symm.trans hj)
      rfl

def Known (service : Registrar jwt) (requests : ι → Request) (w₀ w : World) : Prop :=
  ∀ pendingId, ∀ record ∈ w.pending pendingId,
    EmailAt service requests w₀ pendingId record.email

def Promise (service : Registrar jwt) (requests : ι → Request) (w₀ : World) :
    Request → Call → Prop
  | .verify v, .insertUser user => EmailAt service requests w₀ v.pendingId user.email
  | _, .register pendingId email _ _ _ => EmailAt service requests w₀ pendingId email
  | _, _ => True

theorem Known.remove (h : Known service requests w₀ w) (pendingId : PyStr) :
    Known service requests w₀ (w.remove pendingId) := by
  intro pendingId' record hrecord
  rw [World.remove] at hrecord
  dsimp only at hrecord
  rcases eq_or_ne pendingId' pendingId with rfl | hne
  · rw [Function.update_self] at hrecord
    cases hrecord
  · rw [Function.update_of_ne hne] at hrecord
    exact h pendingId' record hrecord

theorem known_handle {request : Request} {c : Call} (hw : Known service requests w₀ w)
    (hc : Promise service requests w₀ request c) : Known service requests w₀ (handle c w).2 := by
  refine handle_snd (P := fun w => Known service requests w₀ w) hw ?_
  cases c with
  | register pendingId email password name code =>
    intro pendingId' record hrecord
    simp only [execute] at hrecord
    rcases eq_or_ne pendingId' pendingId with rfl | hne
    · rw [Function.update_self] at hrecord
      obtain rfl := Option.some.inj hrecord
      cases request <;> exact hc
    · rw [Function.update_of_ne hne] at hrecord
      exact hw pendingId' record hrecord
  | check pendingId code =>
    rw [execute]
    split
    · exact hw
    · split
      · exact hw.remove pendingId
      · split <;> exact hw
  | insertUser user =>
    rw [execute]
    split
    · split <;> exact hw
    · exact hw
  | ensureAccount account =>
    rw [execute]
    split <;> exact hw
  | complete pendingId =>
    rw [execute]
    split
    · exact hw
    · exact hw.remove pendingId
  | notify email code pendingId => exact hw
  | selectUser email => exact hw

/-- A program under interference, which ends as `Q` says. -/
abbrev RegistrationSound {α : Type} (service : Registrar jwt) (requests : ι → Request) (w₀ : World)
    (request : Request) (A : RegistrationPast → World → Call → Prop)
    (Q : Except RegistrationError α → RegistrationPast → World → Prop) (p : RegistrationM α) :
    RegistrationPast → World → Prop :=
  p.Sound (Terms.ofInv (Known service requests w₀)) handle A
    (fun _ _ c => Promise service requests w₀ request c) Q

theorem ensureAccount_only {account : Account} (h : P (.ensureAccount account)) :
    (ensureAccount service account).Only P := by
  have hask : (do
      let known : Account ← ask (.ensureAccount account)
      return some (some known) : RegistrationM (Option (Option Account))).Only P :=
    (only_query (I := RegistrationApi) h).bind fun _ => trivial
  rw [ensureAccount]
  cases service.accountClient with
  | none => trivial
  | some client => cases client <;> exact hask.tryCatch fun _ => trivial

theorem finishRegistration_only (haccount : ∀ account, P (.ensureAccount account))
    (hcomplete : P (.complete v.pendingId)) : (finishRegistration service v user).Only P := by
  refine (ensureAccount_only (haccount _)).bind fun account => ?_
  cases account with
  | none => trivial
  | some account => exact (only_query (I := RegistrationApi) hcomplete).bind fun _ => trivial

theorem creates_of_ok {count : ℕ} (h : (handle (.insertUser user) w).1 = .ok count) :
    Creates user (w, .insertUser user) := by
  change (w.link.pass RegistrationError.unavailable (execute (.insertUser user) w) w).1 =
    .ok count at h
  cases hlink : w.link with
  | down =>
    rw [hlink] at h
    cases h
  | lost =>
    rw [hlink] at h
    cases h
  | up =>
    rw [hlink] at h
    refine ⟨rfl, by rw [hlink]; exact nofun, ?_⟩
    rw [execute] at h
    split at h
    · next hinsertable =>
        split at h
        · next hfits => exact ⟨hinsertable, hfits⟩
        · cases h
    · cases h

theorem createUser_sound (hemail : EmailAt service requests w₀ v.pendingId user.email) :
    RegistrationSound service requests w₀ (.verify v) A
      (fun r past _ => r = .ok true → ∃ e ∈ past, Creates user e) (createUser user) past w := by
  refine Sound.tryCatch (Q := fun r past _ => r = .ok true → ∃ e ∈ past, Creates user e) ?_
    (fun _ _ _ h => h) fun _ _ _ _ _ _ _ h => nomatch h
  refine Sound.bind (Q := fun r past _ => ∀ count, r = .ok count →
    ∃ e ∈ past, Creates user e) ?_ ?_ fun _ _ _ _ h => nomatch h
  · refine sound_query (I := RegistrationApi) (c := Call.insertUser user) fun w' _ _ =>
      ⟨hemail, fun _ w'' _ _ count hcount => ⟨_, List.mem_cons_self, ?_⟩⟩
    cases hanswer : (handle (.insertUser user) w').1 with
    | error e =>
      rw [hanswer] at hcount
      cases hcount
    | ok count' => exact creates_of_ok hanswer
  · intro count past w h
    refine (Only.sound (K := fun past => ∃ e ∈ past, Creates user e)
      (P := fun c : Call => ∃ email, c = .selectUser email) ?_ (h count rfl) ?_).mono
        fun _ _ _ h _ => h
    · refine Only.bind ?_ fun _ => trivial
      split
      · exact (only_query (I := RegistrationApi) ⟨_, rfl⟩).tryCatch fun _ => trivial
      · trivial
    · rintro _ ⟨email, rfl⟩ past s ⟨e, he, h⟩
      exact ⟨trivial, e, List.mem_cons_of_mem _ he, h⟩

theorem completeRegistration_sound {record : PendingRegistration}
    (hemail : EmailAt service requests w₀ v.pendingId record.email) :
    RegistrationSound service requests w₀ (.verify v) A
      (fun r past _ => ∀ userId email account tokens,
        r = .ok (.success userId email account tokens) → ∃ user, ∃ e ∈ past, Creates user e)
      (completeRegistration service v record) past w := by
  rw [completeRegistration]
  cases hashOf service record.password v.salt with
  | error e => exact fun _ _ _ _ _ _ _ h => nomatch h
  | ok passwordHash =>
    change RegistrationSound service requests w₀ (.verify v) A _ (createUser _ >>= _) past w
    refine Sound.bind (createUser_sound hemail) ?_ fun _ _ _ _ _ _ _ _ h => nomatch h
    intro created past w h
    cases created with
    | false => exact fun _ _ _ _ _ _ _ h => nomatch h
    | true =>
      refine (Only.sound (K := fun past => ∃ e ∈ past, Creates _ e)
        (P := fun c : Call => (∃ account, c = .ensureAccount account) ∨
          c = .complete v.pendingId)
        (finishRegistration_only (fun account => .inl ⟨account, rfl⟩) (.inr rfl)) (h rfl)
        ?_).mono fun _ _ _ h _ _ _ _ _ => ⟨_, h⟩
      rintro c hc past s ⟨e, he, h⟩
      refine ⟨?_, e, List.mem_cons_of_mem _ he, h⟩
      rcases hc with ⟨account, rfl⟩ | rfl <;> trivial

def NoneCreated (past : RegistrationPast) : Prop := ∀ e ∈ past, ∀ user, ¬Creates user e

theorem NoneCreated.cons (h : NoneCreated past) {e : World × Call} (he : ∀ user, ¬Creates user e) :
    NoneCreated (e :: past) := by
  intro e' he' user
  rcases List.mem_cons.mp he' with rfl | he'
  · exact he user
  · exact h e' he' user

theorem check_sound (hpast : NoneCreated past) :
    RegistrationSound service requests w₀ (.verify v) A (fun r past _ => NoneCreated past ∧
        ∀ record, r = .ok (.found record) →
          EmailAt service requests w₀ v.pendingId record.email)
      (ask (.check v.pendingId v.code) : RegistrationM Checked) past w := by
  refine sound_query (I := RegistrationApi) (c := Call.check v.pendingId v.code)
    fun w' _ hknown => ⟨trivial, fun _ w'' _ _ => ⟨hpast.cons fun _ h => (nomatch h.1), ?_⟩⟩
  intro record hfound
  change (execute (.check v.pendingId v.code) w').1.mapError id = _ at hfound
  rw [execute] at hfound
  split at hfound
  · cases hfound
  · next record' hrecord' =>
      split at hfound
      · cases hfound
      · split at hfound
        · cases hfound
        · obtain rfl := Checked.found.inj (Except.ok.inj hfound)
          exact hknown v.pendingId record' hrecord'

theorem verify_sound :
    RegistrationSound service requests w₀ (.verify v) A (fun r past _ =>
        ∀ userId email account tokens, r = .ok (.success userId email account tokens) →
          ∃ user, ∃ e ∈ past, Creates user e)
      ((Request.verify v).serve service) [] w := by
  refine Sound.tryCatch (Q := fun r past _ => ∀ userId email account tokens,
    r = .ok (.success userId email account tokens) → ∃ user, ∃ e ∈ past, Creates user e) ?_
    (fun _ _ _ h => h) fun _ _ _ _ _ _ _ => nofun
  refine Sound.bind (check_sound fun _ he => (nomatch he)) ?_ fun _ _ _ _ => nofun
  rintro checked past w ⟨-, hfound⟩
  cases checked with
  | found record => exact completeRegistration_sound (hfound record rfl)
  | _ => exact fun _ _ _ => nofun

theorem not_creates_of_error {e : RegistrationError} (hsteady : Steady service w (.insertUser user))
    (h : (handle (.insertUser user) w).1 = .error e) (user' : AuthUser) :
    ¬Creates user' (w, .insertUser user) := by
  rintro ⟨hcall, hlink, hinsertable, hfits⟩
  obtain rfl := Call.insertUser.inj hcall
  change (w.link.pass RegistrationError.unavailable (execute (.insertUser user) w) w).1 =
    .error e at h
  cases hw : w.link with
  | down => exact hlink hw
  | lost => exact hsteady hw ⟨hinsertable, hfits⟩
  | up =>
    rw [hw] at h
    rw [execute, dif_pos hinsertable, if_pos hfits] at h
    cases h

theorem createUser_steady (hpast : NoneCreated past)
    (hemail : EmailAt service requests w₀ v.pendingId user.email) :
    RegistrationSound service requests w₀ (.verify v) (fun _ => Steady service)
      (fun r past _ => r = .ok true ∨ r = .ok false ∧ NoneCreated past) (createUser user)
      past w := by
  refine Sound.tryCatch (Q := fun r past _ => r = .ok true ∨ (∃ e, r = .error e) ∧
    NoneCreated past) ?_ ?_ ?_
  · refine Sound.bind (Q := fun r past _ => (∃ count, r = .ok count) ∨ (∃ e, r = .error e) ∧
      NoneCreated past) ?_ ?_ ?_
    · refine sound_query (I := RegistrationApi) (c := Call.insertUser user) fun w' _ _ =>
        ⟨hemail, fun hsteady w'' _ _ => ?_⟩
      cases hanswer : (handle (.insertUser user) w').1 with
      | ok count => exact .inl ⟨count, rfl⟩
      | error e => exact .inr ⟨⟨_, rfl⟩, hpast.cons (not_creates_of_error hsteady hanswer)⟩
    · intro count past w _
      refine (Obeys.sound (Q := fun r => r = .ok true) (P := fun c : Call =>
        ∃ email, c = .selectUser email) ?_ ?_).mono fun _ _ _ h => .inl h
      · refine Obeys.bind (Q := fun r => ∀ e, r ≠ .error e) ?_ (fun _ _ => rfl)
          fun e h => absurd rfl (h e)
        have hselect : (ask (.selectUser user.email) : RegistrationM (Option AuthUser)).Only
            fun c : Call => ∃ email, c = .selectUser email :=
          only_query (I := RegistrationApi) ⟨user.email, rfl⟩
        split
        · exact hselect.calm none
        · exact nofun
      · rintro _ ⟨email, rfl⟩ past s
        trivial
    · rintro e past w (⟨count, h⟩ | h)
      · cases h
      · exact .inr ⟨⟨e, rfl⟩, h.2⟩
  · rintro created past w (h | ⟨⟨e, h⟩, -⟩)
    · exact .inl h
    · cases h
  · rintro e past w (h | ⟨-, hpast⟩)
    · cases h
    · exact fun _ _ _ => .inr ⟨rfl, hpast⟩

theorem finishRegistration_steady :
    RegistrationSound service requests w₀ (.verify v) (fun _ => Steady service)
      (fun r _ _ => ∃ a, r = .ok a ∧ ¬a.Failed) (finishRegistration service v user) past w := by
  refine Sound.bind (Q := fun r _ _ => ∃ account, r = .ok (some account)) ?_ ?_ ?_
  · rw [ensureAccount]
    cases hclient : service.accountClient with
    | none => exact fun _ _ _ => ⟨_, rfl⟩
    | some client =>
      cases client with
      | swallowing =>
        refine (Obeys.sound (Q := fun r => ∃ account, r = .ok (some account))
          (P := fun c : Call => ∃ account, c = .ensureAccount account) ?_ ?_)
        · refine Obeys.tryCatch (Q := fun r => ∀ a, r = .ok a →
            ∃ account, a = some account)
            ?_ (fun a h => ?_) fun _ _ => ⟨_, rfl⟩
          · have hask : ∀ account, (ask (.ensureAccount account) : RegistrationM Account).Only
                fun c : Call => ∃ account, c = .ensureAccount account :=
              fun account => only_query (I := RegistrationApi) ⟨account, rfl⟩
            refine (hask _).obeys.bind (fun known _ a h => ⟨some known, ?_⟩)
              fun _ _ _ h => nomatch h
            exact (Except.ok.inj h).symm
          · obtain ⟨account, rfl⟩ := h a rfl
            exact ⟨account, rfl⟩
        · rintro _ ⟨account, rfl⟩ past s
          trivial
      | raising =>
        refine Sound.tryCatch (Q := fun r _ _ => ∃ account, r = .ok (some account)) ?_
          (fun _ _ _ h => h) fun _ _ _ h => nomatch h.choose_spec
        refine Sound.bind (Q := fun r _ _ => ∃ known, r = .ok known) ?_
          (fun known _ _ _ _ _ _ => ⟨_, rfl⟩) fun _ _ _ h => nomatch h.choose_spec
        refine sound_query (I := RegistrationApi) (c := Call.ensureAccount _)
          fun w' _ _ => ⟨trivial, fun hsteady w'' _ _ => ?_⟩
        change ∃ known, (w'.link.pass RegistrationError.unavailable
          (execute (.ensureAccount _) w') w').1.mapError id = .ok known
        rw [(hsteady hclient : w'.link = .up)]
        rw [execute]
        split <;> exact ⟨_, rfl⟩
  · rintro account past w ⟨account', h⟩
    obtain rfl := Except.ok.inj h
    refine Sound.bind (Q := fun r _ _ => ∃ issuedAt, r = .ok issuedAt) ?_
      (fun issuedAt _ _ _ _ _ _ => ⟨_, rfl, id⟩) fun _ _ _ h => nomatch h.choose_spec
    refine sound_query (I := RegistrationApi) (c := Call.complete v.pendingId)
      fun w' _ _ => ⟨trivial, fun hsteady w'' _ _ => ?_⟩
    obtain ⟨record, hrecord⟩ := Option.isSome_iff_exists.mp hsteady
    change ∃ issuedAt, (execute (.complete v.pendingId) w').1.mapError id = .ok issuedAt
    rw [execute, hrecord]
    exact ⟨_, rfl⟩
  · exact fun _ _ _ h => nomatch h.choose_spec

theorem completeRegistration_steady {record : PendingRegistration} (hpast : NoneCreated past)
    (hemail : EmailAt service requests w₀ v.pendingId record.email) :
    RegistrationSound service requests w₀ (.verify v) (fun _ => Steady service)
      (fun r past _ => (∃ a, r = .ok a ∧ ¬a.Failed) ∨ NoneCreated past)
      (completeRegistration service v record) past w := by
  rw [completeRegistration]
  cases hashOf service record.password v.salt with
  | error e => exact fun _ _ _ => .inr hpast
  | ok passwordHash =>
    change RegistrationSound service requests w₀ (.verify v) _ _ (createUser _ >>= _) past w
    refine Sound.bind (createUser_steady hpast hemail) ?_ ?_
    · rintro created past w (h | ⟨h, hnone⟩)
      · obtain rfl := Except.ok.inj h
        exact finishRegistration_steady.mono fun _ _ _ h => .inl h
      · obtain rfl := Except.ok.inj h
        exact fun _ _ _ => .inr hnone
    · rintro e past w (h | ⟨h, -⟩) <;> cases h

theorem verify_steady :
    RegistrationSound service requests w₀ (.verify v) (fun _ => Steady service)
      (fun r past _ => ∀ a, r = .ok a → a.Failed → NoneCreated past)
      ((Request.verify v).serve service) [] w := by
  refine Sound.tryCatch (Q := fun r past _ =>
    (∃ a, r = .ok a ∧ ¬a.Failed) ∨ NoneCreated past) ?_ ?_ ?_
  · refine Sound.bind (check_sound fun _ he => (nomatch he)) ?_ fun _ _ _ h => .inr h.1
    rintro checked past w ⟨hpast, hfound⟩
    cases checked with
    | found record => exact completeRegistration_steady hpast (hfound record rfl)
    | _ => exact fun _ _ _ => .inr hpast
  · rintro a past w (⟨a', ha', hsucceeded⟩ | hnone) b hb hfailed
    · obtain rfl := Except.ok.inj ha'
      obtain rfl := Except.ok.inj hb
      exact absurd hfailed hsucceeded
    · exact hnone
  · rintro e past w (⟨a, ha, -⟩ | hnone)
    · cases ha
    · exact fun _ _ _ _ _ _ => hnone

theorem sendCode_only {code pendingId : PyStr}
    (h : ∀ email code pendingId, P (.notify email code pendingId)) :
    (sendCode service email code pendingId).Only P := by
  have hnotify : (ask (.notify email code pendingId) : RegistrationM Unit).Only P :=
    only_query (I := RegistrationApi) (h email code pendingId)
  rw [sendCode]
  cases service.notifies with
  | false => exact (trivial : (ret () : RegistrationM Unit).Only P)
  | true => exact hnotify.tryCatch fun _ => trivial

theorem start_sound {s : Start} {i : ι} (hi : requests i = .start s) :
    RegistrationSound service requests w₀ (.start s) A (fun _ _ _ => True)
      ((Request.start s).serve service) past w := by
  have honly : ((Request.start s).serve service).Only
      (Promise service requests w₀ (.start s)) := by
    refine Only.tryCatch (Only.bind (only_query (I := RegistrationApi) ?_)
      fun _ => ?_)
      fun _ => trivial
    · exact .inr ⟨i, s, hi, rfl, rfl⟩
    · exact Only.bind (sendCode_only fun _ _ _ => trivial) fun _ => trivial
  exact honly.sound (K := fun _ => True) trivial fun _ hc _ _ _ => ⟨hc, trivial⟩

end Calls

/-! ### Runs -/

section Runs

variable {jwt : Jwt} {ι : Type*} [DecidableEq ι] {service : Registrar jwt}
  {requests : ι → Request} {w : World} {pool : RegistrationPool jwt ι}
  {A : World → Call → Prop}

abbrev RegistrationRun (A : World → Call → Prop) :
    RegistrationPool jwt ι → RegistrationPool jwt ι → Prop :=
  Pool.Reach handle Shifts fun _ _ => A

variable (service requests w A) in
omit [DecidableEq ι] in
theorem allSound_start {Q : ι → Except RegistrationError (Response jwt.Token) →
      RegistrationPast → World → Prop}
    (hverify : ∀ i v, requests i = .verify v → RegistrationSound service requests w (.verify v)
      (fun _ => A) (Q i) ((Request.verify v).serve service) [] w)
    (hstart : ∀ i s, requests i = .start s → ∀ r past w, Q i r past w) :
    Pool.AllSound (Terms.ofInv (Known service requests w)) handle (fun _ _ => A)
      (fun i _ _ c => Promise service requests w (requests i) c) Q
      (RegistrationPool.start service requests w) := by
  refine ⟨fun pendingId record h => .inl ⟨record, h, rfl⟩, fun i => ?_⟩
  change ((requests i).serve service).Sound _ _ _
    (fun _ _ c => Promise service requests w (requests i) c) _ _ _
  cases hi : requests i with
  | start s => exact (start_sound hi).mono fun r past w _ => hstart i s hi r past w
  | verify v => exact hverify i v hi

omit [DecidableEq ι] in
theorem known_of_shifts {w₀ w w' : World} (hw : Known service requests w₀ w) (h : Shifts w w') :
    Known service requests w₀ w' := by
  intro pendingId record hrecord
  rw [h.1] at hrecord
  exact hw pendingId record hrecord

theorem email_of_created (hpool : RegistrationRun A (RegistrationPool.start service requests w) pool)
    {i : ι} {v : Verify} {user : AuthUser} (h : CreatedBy requests pool i v user) :
    EmailAt service requests w v.pendingId user.email := by
  obtain ⟨hi, e, he, hcreates⟩ := h
  have hall := allSound_start service requests w A
    (Q := fun _ _ _ _ => True) (fun i v hi => verify_sound.mono fun _ _ _ _ => trivial)
    fun _ _ _ _ _ _ => trivial
  have hinv := hpool.invariant hall (fun _ _ _ _ h => h)
    (fun _ _ _ _ hknown _ hpromise => ⟨known_handle hknown hpromise, trivial⟩)
    (fun _ _ hknown h => ⟨known_of_shifts hknown h, trivial⟩)
    (fun _ past => ∀ i, ∀ e ∈ past i, Promise service requests w (requests i) e.2)
    (fun _ _ he => (nomatch he)) (fun _ _ _ _ h => h)
    fun i past s c _ _ hpromise hpast => forall_mem_update hpast hpromise
  have hpromise := hinv i e he
  rw [hi, hcreates.1] at hpromise
  exact hpromise

theorem oneUser_of_run (hfresh : Fresh requests w)
    (hpool : RegistrationRun A (RegistrationPool.start service requests w) pool) :
    OneUser requests pool := by
  intro i j v v' user user' h h' hsame
  have hemail : user.email = user'.email := by
    have hat := email_of_created hpool h
    rw [hsame] at hat
    exact hat.unique hfresh (email_of_created hpool h')
  obtain ⟨-, e, he, hcreates⟩ := h
  obtain ⟨-, e', he', hcreates'⟩ := h'
  obtain ⟨rfl, rfl⟩ := hpool.won_once oneTime
    (fun w w' email hshift hstored => by rw [Stored, hshift.2.1]; exact hstored)
    he he' ⟨user, rfl, hcreates⟩ ⟨user', hemail.symm, hcreates'⟩
  exact ⟨rfl, Call.insertUser.inj (hcreates.1.symm.trans hcreates'.1)⟩

theorem acceptedOnce_of_run (hfresh : Fresh requests w)
    (hpool : RegistrationRun A (RegistrationPool.start service requests w) pool) :
    AcceptedOnce requests pool := by
  have hall := allSound_start service requests w A
    (Q := fun i r past _ => ∀ v, requests i = .verify v → ∀ userId email account tokens,
      r = .ok (.success userId email account tokens) → ∃ user, ∃ e ∈ past, Creates user e)
    (fun i v hi => verify_sound.mono fun _ _ _ h _ _ => h)
    fun i s hi _ _ _ v hv => nomatch hi.symm.trans hv
  have hsound := hpool.sound hall (fun _ _ _ _ h => h)
    (fun _ _ _ _ hknown _ hpromise => ⟨known_handle hknown hpromise, trivial⟩)
    fun _ _ hknown h => ⟨known_of_shifts hknown h, trivial⟩
  rintro i j v v' ⟨hi, userId, email, account, tokens, hret⟩
    ⟨hj, userId', email', account', tokens', hret'⟩ hsame
  obtain ⟨user, hcreated⟩ := hsound.of_ret hret v hi userId email account tokens rfl
  obtain ⟨user', hcreated'⟩ := hsound.of_ret hret' v' hj userId' email' account' tokens' rfl
  exact (oneUser_of_run hfresh hpool i j v v' user user' ⟨hi, hcreated⟩ ⟨hj, hcreated'⟩ hsame).1

theorem recoverable_of_run (hpool : RegistrationRun (Steady service)
    (RegistrationPool.start service requests w) pool) : Recoverable service requests pool := by
  have hall := allSound_start service requests w (Steady service)
    (Q := fun i r past _ => ∀ v, requests i = .verify v → ∀ a, r = .ok a → a.Failed →
      NoneCreated past) (fun i v hi => verify_steady.mono fun _ _ _ h _ _ => h)
    fun i s hi _ _ _ v hv => nomatch hi.symm.trans hv
  have hsound := hpool.sound hall (fun _ _ _ _ h => h)
    (fun _ _ _ _ hknown _ hpromise => ⟨known_handle hknown hpromise, trivial⟩)
    fun _ _ hknown h => ⟨known_of_shifts hknown h, trivial⟩
  exact fun i v r hi hret hfailed => .inl (hsound.of_ret hret v hi r rfl hfailed)

end Runs

def registrar : Registrar sealed where
  manager := { secretKey := "secret".toList }
  accountClient := some .swallowing
  notifies := false
  hashPassword password _ := some password
  lower s := s

def waiting (link : Link) : World where
  pending pendingId := if pendingId = ['p'] then
    some { email := ['e'], password := ['x'], name := ['n'], code := ['1'], expiresAt := 600 }
    else none
  users := []
  ids := List.nodup_nil
  emails := List.nodup_nil
  accounts := []
  clock := 0
  link

def verification (_ : Unit) : Request :=
  .verify { pendingId := ['p'], code := ['1'], userId := ['u'] }

def lostAnswer : RegistrationPool sealed Unit :=
  (RegistrationPool.start registrar verification (waiting .lost)).schedule handle [(), ()]

def answered : RegistrationPool sealed Unit :=
  (RegistrationPool.start registrar verification (waiting .up)).schedule handle
    [(), (), (), (), ()]

theorem fresh_verification (link : Link) : Fresh verification (waiting link) :=
  ⟨fun _ _ _ h => (nomatch h), fun _ _ h => (nomatch h)⟩

end IsaUser.Auth.Registration
