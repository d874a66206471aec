import IsaUser.Authorization.InTurn
import IsaUser.Lib.Runs

/-!
# When Permissions End

Grants, revocations, cleanups and checks follow one another while the clock advances and entries
of the cache expire. A grant may have an expiry, but the table has no column for it: the row that
a grant inserts, and the record that a check reads, have none, and the statement that is to delete
expired rows fails. Nor does a grant replace the one before: a check reads any active row.
-/

open List

namespace IsaUser.Authorization

/-! ### Runs -/

/-- The store, the clock, and the grants since the last revocation of what they are about, latest
first. -/
structure World where
  store : Store
  now : Timestamp
  granted : List GrantPermissionRequest

inductive Act where
  | grant (request : GrantPermissionRequest)
  | revoke (target : Target)
  | cleanup
  | advance (time : ℕ) (expired : List PyStr)
  | check (request : ResourceAccessRequest)

/-- An act, and which rows the database picks meanwhile. -/
structure Turn where
  act : Act
  picks : ℕ → ℕ := fun _ => 0

def World.start (now : Timestamp) : World :=
  ⟨⟨Table.empty, ∅, fun _ => {}⟩, now, []⟩

def World.ready (w : World) (turn : Turn) : Store :=
  { w.store with weather := fun n => ⟨.up, turn.picks n⟩ }

def World.withdraw (w : World) (target : Target) : List GrantPermissionRequest :=
  w.granted.filter fun request => request.target ≠ target

namespace AuthorizationService

variable (service : AuthorizationService)

def turn (w : World) (turn : Turn) : World :=
  match turn.act with
  | .grant request =>
    let result := (service.grantResourcePermission w.now request).run service.redis.handle
      (w.ready turn)
    { w with
      store := result.2
      granted := match result.1 with
        | .ok true => request :: w.granted
        | _ => w.granted }
  | .revoke target =>
    { w with
      store := ((service.revokeResourcePermission target).run service.redis.handle
        (w.ready turn)).2
      granted := w.withdraw target }
  | .cleanup =>
    { w with
      store := ((cleanupExpiredPermissions w.now).run service.redis.handle (w.ready turn)).2 }
  | .advance time expired =>
    { w with
      store :=
        { w.store with
          cache := expired.foldl (fun cache key => cache.erase key) w.store.cache }
      now := w.now + time }
  | .check request =>
    { w with
      store := ((service.checkResourceAccess request).run service.redis.handle (w.ready turn)).2 }

def answer (w : World) (turn : Turn) (request : ResourceAccessRequest) :
    Except StoreError ResourceAccessResponse :=
  ((service.checkResourceAccess request).run service.redis.handle (w.ready turn)).1

end AuthorizationService

/-! ### The law -/

def GrantPermissionRequest.Expired (request : GrantPermissionRequest) (now : Timestamp) : Prop :=
  ∃ expiry ∈ request.expiresAt, expiry ≤ now
  deriving Decidable

def World.latest (w : World) (target : Target) : Option GrantPermissionRequest :=
  w.granted.find? fun request => request.target = target

def World.due (w : World) (target : Target) : Option (Row UserPermissionRecord) :=
  ((w.latest target).filter fun request => ¬request.Expired w.now).map fun request =>
    ⟨0, request.record⟩

/-- **The law** for a turn: a check decides as it does for the permission that the user has. -/
def Timely (service : AuthorizationService) (w : World) (turn : Turn) : Prop :=
  match turn.act with
  | .check request => ∃ response, service.answer w turn request = .ok response ∧
      response.decision = (service.surroundings.resolve request (w.due request.target)
        (w.due request.target)).decision
  | _ => True

def PatternMatches (service : AuthorizationService) (userId : PyStr) : Prop :=
  ∀ request key, request.userId = userId → service.permissionCacheKey request = some key →
    service.redis.glob (AuthorizationService.userPattern userId) (fullKey key)

/-- All grants about the target since it was revoked are in force, and the same in level and
source. -/
def World.Settled (w : World) (target : Target) : Prop :=
  ∀ request ∈ w.granted, request.target = target → ¬request.Expired w.now ∧
    ∀ latest ∈ w.latest target, request.accessLevel = latest.accessLevel ∧
      request.permissionSource = latest.permissionSource
  deriving Decidable

def Settled (service : AuthorizationService) (w : World) (turn : Turn) : Prop :=
  match turn.act with
  | .grant request => PatternMatches service request.target.userId
  | .revoke target => PatternMatches service target.userId
  | .check request => w.Settled request.target
  | _ => True

def Asked (turns : List Turn) (request : ResourceAccessRequest) : Prop :=
  ∃ turn ∈ turns, turn.act = .check request

def TellsApart (service : AuthorizationService) (asked : ResourceAccessRequest → Prop) : Prop :=
  ∀ request request' key, asked request → asked request' →
    service.permissionCacheKey request = some key →
    service.permissionCacheKey request' = some key → request.question = request'.question

section Proofs

variable {service : AuthorizationService} {asked : ResourceAccessRequest → Prop} {w : World}
  {turn : Turn} {s s' : Store} {target : Target} {request : ResourceAccessRequest}
  {response : ResourceAccessResponse} {picks : ℕ → ℕ}

/-! ### What holds between the turns -/

def World.Grants (w : World) (target : Target) (level : AccessLevel) (source : PermissionSource) :
    Prop :=
  ∃ request ∈ w.granted, request.target = target ∧ request.accessLevel = level ∧
    request.permissionSource = source

def Store.Holds (s : Store) (target : Target) (level : AccessLevel) (source : PermissionSource) :
    Prop :=
  ∃ row ∈ s.active target, row.val.accessLevel = level ∧ row.val.permissionSource = source

def CacheResolves (service : AuthorizationService) (asked : ResourceAccessRequest → Prop)
    (s : Store) : Prop :=
  ∀ key response, s.cache.lookup key = some response → ∃ request k, asked request ∧
    service.permissionCacheKey request = some k ∧ fullKey k = key ∧
    service.Resolves s request response

structure World.InOrder (service : AuthorizationService) (asked : ResourceAccessRequest → Prop)
    (w : World) : Prop where
  /-- What is active are the grants since the last revocation. -/
  rows : ∀ target level source, w.store.Holds target level source ↔ w.Grants target level source
  cache : CacheResolves service asked w.store

theorem World.inOrder_start (now : Timestamp) : (World.start now).InOrder service asked where
  rows target level source := by
    constructor
    · rintro ⟨row, hrow, -⟩
      cases hrow
    · rintro ⟨request, hrequest, -⟩
      cases hrequest
  cache key response h := by
    simp [World.start] at h

theorem resolves_of_active (h : service.Resolves s request response)
    (hactive : s'.active request.target = s.active request.target) :
    service.Resolves s' request response := by
  simp only [AuthorizationService.Resolves, Store.Reads, hactive] at h ⊢
  exact h

theorem ready_answered (w : World) (turn : Turn) : (w.ready turn).Answered := fun _ => rfl

theorem CacheResolves.of_less {P : PyStr → Prop} (h : CacheResolves service asked s)
    (hcache : ∀ key response, s'.cache.lookup key = some response →
      s.cache.lookup key = some response ∧ P key)
    (hactive : ∀ request key, service.permissionCacheKey request = some key → P (fullKey key) →
      s'.active request.target = s.active request.target) : CacheResolves service asked s' := by
  intro key response hlookup
  obtain ⟨hbefore, hkept⟩ := hcache key response hlookup
  obtain ⟨request, k, hasked, hkey, rfl, hresolves⟩ := h key response hbefore
  exact ⟨request, k, hasked, hkey, rfl, resolves_of_active hresolves (hactive request k hkey hkept)⟩

theorem userId_ne_of_kept {userId key : PyStr} (hpattern : PatternMatches service userId)
    (hkey : service.permissionCacheKey request = some key)
    (hkept : userId = [] ∨
      ¬service.redis.glob (AuthorizationService.userPattern userId) (fullKey key)) :
    request.userId ≠ userId := by
  rintro rfl
  rcases hkept with hempty | hglob
  · exact (AuthorizationService.permissionCacheKey_eq_some hkey).1 hempty
  · exact hglob (hpattern request key rfl hkey)

theorem Store.Holds.congr (hactive : s'.active target = s.active target) (level : AccessLevel)
    (source : PermissionSource) : s'.Holds target level source ↔ s.Holds target level source := by
  rw [Store.Holds, hactive, Store.Holds]

theorem holds_insert (request : GrantPermissionRequest)
    (hs : s'.permissions = s.permissions.insert request.record.row) (target : Target)
    (level : AccessLevel) (source : PermissionSource) :
    s'.Holds target level source ↔ (request.target = target ∧ request.accessLevel = level ∧
      request.permissionSource = source) ∨ s.Holds target level source := by
  have hactive : s'.active target = s.active target ++
      if request.target = target then [⟨s.permissions.size, request.record.row⟩] else [] := by
    rw [Store.active, hs]
    refine (active_insert s request.record.row target).trans ?_
    simp [UserPermissionRecord.row, GrantPermissionRequest.record]
  rw [Store.Holds, hactive]
  constructor
  · rintro ⟨row, hrow, hvalues⟩
    rcases mem_append.mp hrow with hold | hnew
    · exact .inr ⟨row, hold, hvalues⟩
    · split at hnew
      · next htarget =>
          obtain rfl := mem_singleton.mp hnew
          exact .inl ⟨htarget, hvalues⟩
      · cases hnew
  · rintro (⟨htarget, hvalues⟩ | ⟨row, hrow, hvalues⟩)
    · rw [if_pos htarget]
      exact ⟨_, mem_append_right _ mem_cons_self, hvalues⟩
    · exact ⟨row, mem_append_left _ hrow, hvalues⟩

theorem World.InOrder.of_less {w' : World} (h : w.InOrder service asked)
    (hpermissions : w'.store.permissions = w.store.permissions)
    (hcache : ∀ key response, w'.store.cache.lookup key = some response →
      w.store.cache.lookup key = some response) (hgranted : w'.granted = w.granted) :
    w'.InOrder service asked := by
  have hactive : ∀ target, w'.store.active target = w.store.active target := fun target => by
    rw [Store.active, hpermissions, Store.active]
  refine ⟨fun target level source => ?_, h.cache.of_less (P := fun _ => True)
    (fun key response h => ⟨hcache key response h, trivial⟩) fun request _ _ _ => hactive _⟩
  rw [Store.Holds.congr (hactive target), h.rows, World.Grants, World.Grants, hgranted]

theorem World.InOrder.of_readOnly {w' : World} (h : w.InOrder service asked)
    (hs : ReadOnly (w.ready turn) w'.store) (hgranted : w'.granted = w.granted) :
    w'.InOrder service asked :=
  h.of_less hs.permissions (fun _ _ hlookup => hs.cache ▸ hlookup) hgranted

theorem inOrder_grant {grant : GrantPermissionRequest} (h : w.InOrder service asked)
    (hpattern : PatternMatches service grant.target.userId) :
    (service.turn w ⟨.grant grant, picks⟩).InOrder service asked := by
  obtain ⟨success, hreply, hgranted⟩ := grantResourcePermission_inTurn service w.now grant
    (ready_answered w ⟨.grant grant, picks⟩)
  simp only [AuthorizationService.turn, hreply]
  cases success with
  | false => exact h.of_readOnly hgranted rfl
  | true =>
    have hevicts : Evicts _ _ _ := hgranted
    refine ⟨fun target level source => ?_, ?_⟩
    · refine (holds_insert grant hevicts.permissions target level source).trans ?_
      rw [World.Grants, exists_mem_cons_iff]
      exact or_congr_right (h.rows target level source)
    · refine h.cache.of_less hevicts.cache fun request key hkey hkept => ?_
      have hother := userId_ne_of_kept hpattern hkey hkept
      refine (hevicts.active _).trans ((active_insert _ _ _).trans ?_)
      rw [if_neg ?_, append_nil]
      · rfl
      · rintro ⟨-, htarget⟩
        exact hother (congrArg Target.userId htarget).symm

theorem holds_revoke (h : ∀ target level source, s.Holds target level source ↔
      w.Grants target level source) (hs : s'.permissions = (s.revoke target).permissions)
    (target' : Target) (level : AccessLevel) (source : PermissionSource) :
    s'.Holds target' level source ↔
      ∃ request ∈ w.withdraw target, request.target = target' ∧ request.accessLevel = level ∧
        request.permissionSource = source := by
  have hactive : s'.active target' = (s.revoke target).active target' := by
    rw [Store.active, hs, Store.active]
  rw [Store.Holds.congr hactive]
  rcases eq_or_ne target' target with rfl | hne
  · rw [Store.Holds, active_revoke_self]
    constructor
    · rintro ⟨row, hrow, -⟩
      cases hrow
    · rintro ⟨request, hrequest, rfl, -⟩
      simp [World.withdraw] at hrequest
  · rw [Store.Holds.congr (active_revoke_of_ne hne), h]
    constructor
    · rintro ⟨request, hrequest, rfl, hvalues⟩
      exact ⟨request, mem_filter.mpr ⟨hrequest, decide_eq_true hne⟩, rfl, hvalues⟩
    · rintro ⟨request, hrequest, hvalues⟩
      exact ⟨request, (mem_filter.mp hrequest).1, hvalues⟩

theorem inOrder_revoke (h : w.InOrder service asked)
    (hpattern : PatternMatches service target.userId) :
    (service.turn w ⟨.revoke target, picks⟩).InOrder service asked := by
  obtain ⟨success, -, hrevoked⟩ := revokeResourcePermission_inTurn service target
    (ready_answered w ⟨.revoke target, picks⟩)
  cases success with
  | false =>
    obtain ⟨hzero, hread⟩ := hrevoked
    refine ⟨holds_revoke h.rows hread.permissions, ?_⟩
    refine h.cache.of_less hread.evicts.cache fun request key _ _ => ?_
    refine (hread.active _).trans ?_
    rcases eq_or_ne request.target target with heq | hne
    · -- Nothing has ever been granted about the target.
      rw [heq, active_revoke_self]
      exact (active_of_count hzero).symm
    · exact active_revoke_of_ne hne
  | true =>
    have hevicts : Evicts _ _ _ := hrevoked
    refine ⟨holds_revoke h.rows hevicts.permissions, ?_⟩
    refine h.cache.of_less hevicts.cache fun request key hkey hkept => ?_
    have hother := userId_ne_of_kept hpattern hkey hkept
    refine (hevicts.active _).trans ?_
    exact active_revoke_of_ne fun heq => hother (congrArg Target.userId heq)

theorem inOrder_check {request : ResourceAccessRequest} (hasked : asked request)
    (h : w.InOrder service asked) :
    (service.turn w ⟨.check request, picks⟩).InOrder service asked := by
  obtain ⟨response, -, hchecked⟩ := checkResourceAccess_inTurn service request
    (ready_answered w ⟨.check request, picks⟩)
  cases hchecked with
  | hit key hkey hlookup hread => exact h.of_readOnly hread rfl
  | resolved hresolves hread => exact h.of_readOnly hread rfl
  | stored key hkey hresolves hpermissions hcache =>
    have hactive : ∀ target, (service.turn w ⟨.check request, picks⟩).store.active target =
        w.store.active target := fun target => by
      exact congrArg (fun t : Table PermissionRow => t.select _) hpermissions
    refine ⟨fun target level source => ?_, fun key' response' hlookup => ?_⟩
    · exact (Store.Holds.congr (hactive target) level source).trans (h.rows target level source)
    · have hinsert : (w.store.cache.insert (fullKey key) response).lookup key' = some response' :=
        (congrArg (AList.lookup key') hcache).symm.trans hlookup
      rcases eq_or_ne key' (fullKey key) with rfl | hne
      · obtain rfl : response = response' := by simpa using hinsert
        exact ⟨request, key, hasked, hkey, rfl, resolves_of_active hresolves (hactive _)⟩
      · rw [AList.lookup_insert_ne hne] at hinsert
        obtain ⟨request', k, hasked', hkey', hfull, hresolves'⟩ := h.cache key' response' hinsert
        exact ⟨request', k, hasked', hkey', hfull, resolves_of_active hresolves' (hactive _)⟩

theorem lookup_of_erased {cache : AList fun _ : PyStr => ResourceAccessResponse} {key : PyStr}
    (expired : List PyStr)
    (h : (expired.foldl (fun cache key => cache.erase key) cache).lookup key = some response) :
    cache.lookup key = some response := by
  induction expired generalizing cache with
  | nil => exact h
  | cons k expired ih =>
    have hrest := ih h
    rcases eq_or_ne key k with rfl | hne
    · simp at hrest
    · exact (AList.lookup_erase_ne hne).symm.trans hrest

/-- **What a turn keeps.** -/
theorem inOrder_turn (hasked : ∀ request, turn.act = .check request → asked request)
    (hsettled : Settled service w turn) (h : w.InOrder service asked) :
    (service.turn w turn).InOrder service asked := by
  obtain ⟨act, picks⟩ := turn
  cases act with
  | grant request => exact inOrder_grant h hsettled
  | revoke target => exact inOrder_revoke h hsettled
  | check request => exact inOrder_check (hasked request rfl) h
  | cleanup =>
    obtain ⟨-, hread⟩ := cleanupExpiredPermissions_inTurn service.redis w.now
      (ready_answered w ⟨.cleanup, picks⟩)
    exact h.of_readOnly hread rfl
  | advance time expired => exact h.of_less rfl (fun _ _ => lookup_of_erased expired) rfl

/-! ### Checks -/

theorem resolves_of_question {request' : ResourceAccessRequest}
    (hsame : request.question = request'.question) (h : service.Resolves s request response) :
    service.Resolves s request' response := by
  have hquestion : service.Resolves s request.question response := h
  rw [hsame] at hquestion
  exact hquestion

theorem latest_granted {latest : GrantPermissionRequest} (h : w.latest target = some latest) :
    latest ∈ w.granted ∧ latest.target = target := by
  have hfound := find?_some h
  exact ⟨mem_of_find?_eq_some h, of_decide_eq_true hfound⟩

theorem worth_of_reads (h : w.InOrder service asked) (hsettled : w.Settled target)
    {permission : Option (Row UserPermissionRecord)} (hreads : w.store.Reads target permission) :
    Surroundings.worth permission = Surroundings.worth (w.due target) := by
  cases hlatest : w.latest target with
  | none =>
    have hdue : w.due target = none := by rw [World.due, hlatest]; rfl
    rcases hreads with ⟨rfl, -⟩ | ⟨row, hrow, -⟩
    · rw [hdue]
    · obtain ⟨request, hrequest, htarget, -⟩ := (h.rows target _ _).mp ⟨row, hrow, rfl, rfl⟩
      have hnot := find?_eq_none.mp hlatest request hrequest
      exact absurd (decide_eq_true htarget) hnot
  | some latest =>
    obtain ⟨hmem, htarget⟩ := latest_granted hlatest
    have hforce := (hsettled latest hmem htarget).1
    have hdue : w.due target = some ⟨0, latest.record⟩ := by
      simp [World.due, hlatest, hforce]
    rw [hdue]
    rcases hreads with ⟨-, hnone⟩ | ⟨row, hrow, rfl⟩
    · obtain ⟨row, hrow, -⟩ := (h.rows target _ _).mpr ⟨latest, hmem, htarget, rfl, rfl⟩
      rw [hnone] at hrow
      cases hrow
    · obtain ⟨request, hrequest, hsame, hlevel, hsource⟩ :=
        (h.rows target _ _).mp ⟨row, hrow, rfl, rfl⟩
      obtain ⟨hlevel', hsource'⟩ := (hsettled request hrequest hsame).2 latest hlatest
      exact congrArg some (Prod.ext (hsource.symm.trans hsource') (hlevel.symm.trans hlevel'))

/-- **A check in a settled world** decides for the permission that the user has. -/
theorem timely_check (hapart : TellsApart service asked) (hasked : asked request)
    (hsettled : w.Settled request.target) (h : w.InOrder service asked) :
    Timely service w ⟨.check request, picks⟩ := by
  obtain ⟨response, hanswer, hchecked⟩ := checkResourceAccess_inTurn service request
    (ready_answered w ⟨.check request, picks⟩)
  have hresolves : service.Resolves w.store request response := by
    cases hchecked with
    | hit key hkey hlookup _ =>
      obtain ⟨request', k, hasked', hkey', hfull, hresolves⟩ := h.cache _ response hlookup
      obtain rfl : k = key := append_cancel_left hfull
      exact resolves_of_question (hapart request' request k hasked' hasked hkey' hkey) hresolves
    | resolved hresolves _ => exact hresolves
    | stored key _ hresolves _ _ => exact hresolves
  obtain ⟨first, second, hfirst, hsecond, rfl⟩ := hresolves
  exact ⟨_, hanswer, Surroundings.resolve_congr (worth_of_reads h hsettled hfirst)
    (worth_of_reads h hsettled hsecond)⟩

/-- **If the grants about the target of every check, since it was last revoked, are in force and
the same in level and source, and the patterns match the keys of their users, permissions end
when they should.** -/
theorem timely_of_settled {turns : List Turn} {now : Timestamp}
    (hapart : TellsApart service (Asked turns))
    (hturns : AllSteps service.turn (Settled service) (World.start now) turns) :
    AllSteps service.turn (Timely service) (World.start now) turns := by
  have hasked := hturns.and_forall
    (D := fun turn => ∀ request, turn.act = .check request → Asked turns request)
    fun turn hturn request hact => ⟨turn, hturn, hact⟩
  refine hasked.imp (J := World.InOrder service (Asked turns)) (World.inOrder_start now)
    (fun w turn h hC => inOrder_turn hC.2 hC.1 h) ?_
  rintro w ⟨act, picks⟩ h ⟨hsettled, hasked⟩
  cases act with
  | check request => exact timely_check hapart (hasked request rfl) hsettled h
  | _ => trivial

end Proofs

/-! ### Grants that should have ended -/

def plainGrant (level : AccessLevel) (expiresAt : Option Timestamp) : Turn :=
  { act := .grant
      { target := plainRequest.target, accessLevel := level, permissionSource := .adminGrant
        expiresAt } }

def plainCheck : Turn := { act := .check plainRequest }

theorem isPrefixOf_of_pattern (a b c : PyStr) :
    (a ++ (b ++ ['*'])).dropLast.isPrefixOf (a ++ (b ++ c)) := by
  rw [← append_assoc, dropLast_concat, isPrefixOf_iff_prefix, ← append_assoc]
  exact prefix_append _ _

theorem patternMatches_plain (userId : PyStr) : PatternMatches plainService userId := by
  rintro request key rfl hkey
  obtain ⟨-, rest, rfl⟩ := AuthorizationService.permissionCacheKey_eq_some hkey
  refine (plainService_glob _ _).trans ?_
  exact isPrefixOf_of_pattern _ _ _

def properTurns : List Turn :=
  [plainGrant .readOnly (some 100), plainCheck, { act := .advance 50 [] },
    plainGrant .readOnly none, plainCheck, { act := .revoke plainRequest.target }, plainCheck]

theorem timely_properTurns :
    AllSteps plainService.turn (Timely plainService) (World.start 0) properTurns := by
  have hsettled : ∀ n ∈ [1, 4, 6],
      (exec plainService.turn (World.start 0) (properTurns.take n)).Settled plainRequest.target := by
    decide +kernel
  refine timely_of_settled ?_ ⟨patternMatches_plain _, hsettled 1 (by simp), trivial,
    patternMatches_plain _, hsettled 4 (by simp), patternMatches_plain _, hsettled 6 (by simp),
    trivial⟩
  rintro request request' key ⟨turn, hturn, hact⟩ ⟨turn', hturn', hact'⟩ - -
  have hplain : ∀ turn ∈ properTurns, ∀ request, turn.act = .check request →
      request = plainRequest := by
    intro turn hturn request hact
    simp only [properTurns, mem_cons, not_mem_nil, or_false] at hturn
    rcases hturn with rfl | rfl | rfl | rfl | rfl | rfl | rfl
    all_goals cases hact
    all_goals rfl
  rw [hplain turn hturn request hact, hplain turn' hturn' request' hact']

/-- **The expired allow**: access is granted until a moment that passes. -/
theorem not_timely_expired :
    ¬AllSteps plainService.turn (Timely plainService) (World.start 0)
      [plainGrant .readOnly (some 100), { act := .advance 200 [] }, { act := .cleanup },
        plainCheck] := by
  rintro ⟨-, -, -, ⟨response, hanswer, hdecision⟩, -⟩
  have h := congrArg (Except.map ResourceAccessResponse.decision) hanswer
  exact absurd (h.trans (congrArg Except.ok hdecision)) (by decide +kernel)

theorem not_timely_lowered :
    ¬AllSteps plainService.turn (Timely plainService) (World.start 0)
      [plainGrant .owner none, plainGrant .readOnly none, plainCheck] := by
  rintro ⟨-, -, ⟨response, hanswer, hdecision⟩, -⟩
  have h := congrArg (Except.map ResourceAccessResponse.decision) hanswer
  exact absurd (h.trans (congrArg Except.ok hdecision)) (by decide +kernel)

end IsaUser.Authorization
