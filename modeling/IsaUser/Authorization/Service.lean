import IsaUser.Authorization.Model
import IsaUser.Lib.Faults
import Mathlib.Data.List.AList

/-!
# The Authorization Service

`AuthorizationService` and its repository, call by call: the statements on the table of
permissions, and the commands to the Redis that all replicas share as the cache of their
decisions. A statement or a command may fail, with or without effect; the repository and the
cache turn that into `None`, except for the deletion of a pattern, which raises.

What Redis does with its keys is a parameter: the batches in which `SCAN` returns them, and when
a pattern matches a key.
-/

namespace IsaUser.Authorization

open Table

/-! ### The store -/

/-- How a call fares, and which row it returns of those that a query finds. -/
structure Weather where
  link : Link := .up
  pick : ℕ := 0

/-- The permissions, the cache, and how the calls to come will fare. -/
structure Store where
  permissions : Table PermissionRow
  cache : AList fun _ : PyStr => ResourceAccessResponse
  weather : ℕ → Weather

structure Redis where
  /-- How many batches a `SCAN` takes. -/
  batches : ℕ
  /-- The batch that a key is in. -/
  batch : PyStr → ℕ
  batch_lt : ∀ key, batch key < batches
  /-- The pattern matches the key. -/
  glob : PyStr → PyStr → Bool

inductive StoreError where
  | connectionError
  | undefinedColumn
  | cacheInvalidationError
  | attributeError
  deriving DecidableEq, Repr

inductive Call where
  | get (key : PyStr)
  | set (key : PyStr) (response : ResourceAccessResponse)
  | scan (pattern : PyStr) (batch : ℕ)
  | delete (key : PyStr)
  | selectPermission (target : Target)
  | listPermissions (userId : PyStr)
  | insertPermission (row : PermissionRow)
  | revokePermission (target : Target)
  | deleteExpired (now : Timestamp)

def Call.Reply : Call → Type
  | get _ => Option ResourceAccessResponse
  | set _ _ => Unit
  | scan _ _ => List PyStr
  | delete _ => Unit
  | selectPermission _ => Option (Row PermissionRow)
  | listPermissions _ => List (Row PermissionRow)
  | insertPermission _ => ℕ
  | revokePermission _ => ℕ
  | deleteExpired _ => ℕ

@[reducible] def StoreApi : Interface := ⟨Call, Call.Reply⟩

def Store.active (s : Store) (target : Target) : List (Row PermissionRow) :=
  s.permissions.select fun row => row.isActive ∧ row.target = target

def Store.count (s : Store) (target : Target) : ℕ :=
  (s.permissions.select fun row => row.target = target).length

/-- `UPDATE authz.permissions SET is_active = FALSE`, of a row. -/
def PermissionRow.revoke (target : Target) (row : PermissionRow) : PermissionRow :=
  if row.target = target then { row with isActive := false } else row

/-- `UPDATE authz.permissions SET is_active = FALSE`. -/
def Store.revoke (s : Store) (target : Target) : Store :=
  { s with permissions := s.permissions.map (PermissionRow.revoke target) }

def Redis.serve (redis : Redis) (pick : ℕ) : Handler StoreApi Store
  | .get key, s => (s.cache.lookup key, s)
  | .set key response, s => ((), { s with cache := s.cache.insert key response })
  | .scan pattern batch, s =>
    (s.cache.keys.filter fun key => redis.batch key = batch ∧ redis.glob pattern key, s)
  | .delete key, s => ((), { s with cache := s.cache.erase key })
  | .selectPermission target, s => (((s.active target).rotate pick).head?, s)
  | .listPermissions userId, s =>
    (s.permissions.select fun row => row.isActive ∧ row.target.userId = userId, s)
  | .insertPermission row, s => ((1 : ℕ), { s with permissions := s.permissions.insert row })
  | .revokePermission target, s => (s.count target, s.revoke target)
  | .deleteExpired _, s => ((0 : ℕ), s)

/-- One call: the weather decides how it fares. The table has no column `expires_at`, so the
statement that names it always fails. -/
def Redis.handle (redis : Redis) : Handler (StoreApi.fallible StoreError) Store
  | .deleteExpired _, s =>
    (.error .undefinedColumn, { s with weather := fun n => s.weather (n + 1) })
  | c, s =>
    let later := { s with weather := fun n => s.weather (n + 1) }
    (s.weather 0).link.send .connectionError (redis.serve (s.weather 0).pick c later) later

theorem Redis.handle_ok {redis : Redis} {c : Call} {s s' : Store} {r : c.Reply}
    (h : redis.handle c s = (.ok r, s')) :
    ∃ pick, redis.serve pick c { s with weather := fun n => s.weather (n + 1) } = (r, s') := by
  cases c with
  | deleteExpired now => cases congrArg Prod.fst h
  | _ =>
    obtain ⟨hreply, hstate⟩ := Link.send_ok (congrArg Prod.fst h)
    exact ⟨_, Prod.ext hreply (hstate.symm.trans (congrArg Prod.snd h))⟩

/-! ### Permissions about a target -/

section Active

variable {s : Store} {target : Target}

theorem mem_active {row : Row PermissionRow} (h : row ∈ s.active target) :
    row.val.target = target := by
  have hrow := (mem_select.mp h).2
  exact (of_decide_eq_true hrow).2

theorem count_eq (s : Store) (target : Target) :
    s.count target = s.permissions.rows.countP fun row => decide (row.target = target) :=
  length_select _ _

theorem active_of_count (h : s.count target = 0) : s.active target = [] := by
  rw [count_eq, List.countP_eq_zero] at h
  rw [← List.length_eq_zero_iff, Store.active, length_select, List.countP_eq_zero]
  intro row hrow hactive
  exact h row hrow (decide_eq_true (of_decide_eq_true hactive).2)

theorem active_insert (s : Store) (row : PermissionRow) (target : Target) :
    Store.active { s with permissions := s.permissions.insert row } target =
      s.active target ++
        if row.isActive ∧ row.target = target then [⟨s.permissions.size, row⟩] else [] := by
  simp only [Store.active, select_insert, decide_eq_true_eq]

@[simp] theorem PermissionRow.revoke_target (row : PermissionRow) :
    (row.revoke target).target = row.target := by
  rw [PermissionRow.revoke]
  split <;> rfl

theorem active_revoke_self (s : Store) (target : Target) :
    (s.revoke target).active target = [] := by
  refine select_map_eq_nil _ fun row => decide_eq_false ?_
  rintro ⟨hactive, htarget⟩
  rw [PermissionRow.revoke_target] at htarget
  simp [PermissionRow.revoke, htarget] at hactive

theorem active_revoke_of_ne {target' : Target} (h : target' ≠ target) :
    (s.revoke target).active target' = s.active target' := by
  refine select_map _ (fun row => ?_) fun row hrow => ?_
  · rw [PermissionRow.revoke]
    split
    · next htarget =>
        have hother : row.target ≠ target' := fun heq => h (heq.symm.trans htarget)
        simp [hother]
    · rfl
  · have htarget : row.target = target' := (of_decide_eq_true hrow).2
    rw [PermissionRow.revoke, if_neg (fun heq => h (htarget.symm.trans heq))]

@[simp] theorem count_revoke (s : Store) (target target' : Target) :
    (s.revoke target).count target' = s.count target' := by
  simp only [count_eq, Store.revoke, map, List.countP_map, Function.comp_def,
    PermissionRow.revoke_target]

end Active

/-! ### The repository -/

abbrev AuthM := Prog (StoreApi.fallible StoreError) StoreError

def ask (call : Call) : AuthM (StoreApi.Reply call) := Prog.query (I := StoreApi) id call

def readRecord (row : Row PermissionRow) : Row UserPermissionRecord := ⟨row.id, row.val.record⟩

def getUserPermission (target : Target) : AuthM (Option (Row UserPermissionRecord)) :=
  (do let row : Option (Row PermissionRow) ← ask (.selectPermission target)
      return row.map readRecord : AuthM _).tryCatch fun _ => return none

def listUserPermissions (userId : PyStr) : AuthM (List (Row UserPermissionRecord)) :=
  (do let rows : List (Row PermissionRow) ← ask (.listPermissions userId)
      return rows.map readRecord : AuthM _).tryCatch fun _ => return []

def grantUserPermission (permission : UserPermissionRecord) :
    AuthM (Option (Row UserPermissionRecord)) :=
  (do let count : ℕ ← ask (.insertPermission permission.row)
      if 0 < count then getUserPermission permission.target else return none
    : AuthM _).tryCatch fun _ => return none

def revokeUserPermission (target : Target) : AuthM Bool :=
  (do let count : ℕ ← ask (.revokePermission target)
      return decide (0 < count) : AuthM _).tryCatch fun _ => return false

def cleanupExpiredPermissions (now : Timestamp) : AuthM ℕ :=
  (do let count : ℕ ← ask (.deleteExpired now)
      return count : AuthM _).tryCatch fun _ => return (0 : ℕ)

/-! ### The cache -/

def fullKey (key : PyStr) : PyStr := "authorization:permission:".toList ++ key

/-- `RedisCache.get`. -/
def cacheGet (key : PyStr) : AuthM (Option ResourceAccessResponse) :=
  (ask (.get (fullKey key))).tryCatch fun _ => return none

/-- `RedisCache.set`. -/
def cacheSet (key : PyStr) (response : ResourceAccessResponse) : AuthM Unit :=
  (ask (.set (fullKey key) response)).tryCatch fun _ => return ()

def deleteKeys : List PyStr → AuthM Unit
  | [] => return ()
  | key :: keys => do
    ask (.delete key)
    deleteKeys keys

def deleteBatches (pattern : PyStr) : List ℕ → AuthM Unit
  | [] => return ()
  | batch :: batches => do
    let keys : List PyStr ← ask (.scan pattern batch)
    deleteKeys keys
    deleteBatches pattern batches

def deletePattern (redis : Redis) (pattern : PyStr) : AuthM Unit :=
  (deleteBatches (fullKey pattern) (List.range redis.batches)).tryCatch fun _ =>
    .raise .cacheInvalidationError

/-! ### The service -/

structure AuthorizationService where
  surroundings : Surroundings
  redis : Redis
  /-- The digest of all fields of a request. -/
  digest : ResourceAccessRequest → PyStr

structure GrantPermissionRequest where
  target : Target
  accessLevel : AccessLevel
  permissionSource : PermissionSource
  grantedByUserId : Option PyStr := none
  organizationId : Option PyStr := none
  expiresAt : Option Timestamp := none

def GrantPermissionRequest.record (request : GrantPermissionRequest) : UserPermissionRecord :=
  { target := request.target, accessLevel := request.accessLevel
    permissionSource := request.permissionSource, grantedByUserId := request.grantedByUserId
    organizationId := request.organizationId, expiresAt := request.expiresAt }

namespace AuthorizationService

variable (service : AuthorizationService)

def userPrefix (userId : PyStr) : PyStr := "user:".toList ++ userId ++ ":".toList

def userPattern (userId : PyStr) : PyStr := fullKey (userPrefix userId ++ "*".toList)

def permissionCacheKey (request : ResourceAccessRequest) : Option PyStr :=
  if request.userId = [] ∨ request.resourceName = [] then none
  else some (userPrefix request.userId ++ "res:".toList ++ request.resourceType.value.toList ++
    ":".toList ++ request.resourceName ++ ":h:".toList ++ service.digest request)

theorem permissionCacheKey_eq_some {service : AuthorizationService}
    {request : ResourceAccessRequest} {key : PyStr}
    (h : service.permissionCacheKey request = some key) :
    request.userId ≠ [] ∧ ∃ rest, key = userPrefix request.userId ++ rest := by
  rw [permissionCacheKey] at h
  by_cases hempty : request.userId = [] ∨ request.resourceName = []
  · rw [if_pos hempty] at h
    cases h
  · rw [if_neg hempty] at h
    obtain rfl := Option.some.inj h
    refine ⟨fun huser => hempty (.inl huser), ?_⟩
    simp only [List.append_assoc, List.append_cancel_left_eq, exists_eq']

def invalidatePermissionCache (userId : PyStr) : AuthM Unit :=
  if userId = [] then return ()
  else deletePattern service.redis (userPrefix userId ++ "*".toList)

/-- `_check_resource_access_uncached`. What is written to the log is left out. -/
def checkResourceAccessUncached (request : ResourceAccessRequest) :
    AuthM ResourceAccessResponse := do
  match service.surroundings.activeUser request.userId with
  | none => return Surroundings.userNotFound request
  | some userInfo =>
    let adminPermission ← getUserPermission request.target
    match Surroundings.adminAccess request userInfo adminPermission <|>
        service.surroundings.organizationAccess request userInfo <|>
        service.surroundings.subscriptionAccess request userInfo with
    | some response => return response
    | none =>
      let userPermission ← getUserPermission request.target
      return (Surroundings.userAccess request userInfo userPermission).getD
        (Surroundings.accessDenied request userInfo)

def checkResourceAccess (request : ResourceAccessRequest) : AuthM ResourceAccessResponse := do
  match service.permissionCacheKey request with
  | none => service.checkResourceAccessUncached request
  | some key =>
    match ← cacheGet key with
    | some cached => return cached
    | none =>
      let response ← service.checkResourceAccessUncached request
      if ¬response.isError then cacheSet key response
      return response

/-- `grant_resource_permission`. A record whose expiry has passed is not valid. -/
def grantResourcePermission (now : Timestamp) (request : GrantPermissionRequest) :
    AuthM Bool := do
  match service.surroundings.getUserInfo request.target.userId with
  | none => return false
  | some _ =>
    if request.expiresAt.any (· ≤ now) then return false
    else
      match ← grantUserPermission request.record with
      | none => return false
      | some _ =>
        (service.invalidatePermissionCache request.target.userId).tryCatch fun _ => return ()
        return true

/-- `revoke_resource_permission`. If the cache is not invalidated, the revocation is reported as
failed. -/
def revokeResourcePermission (target : Target) : AuthM Bool := do
  let _ ← getUserPermission target
  if ← revokeUserPermission target then
    (do service.invalidatePermissionCache target.userId
        return true : AuthM _).tryCatch fun _ => return false
  else return false

end AuthorizationService

/-! ### Operations -/

inductive Operation where
  | check (request : ResourceAccessRequest)
  | grant (now : Timestamp) (request : GrantPermissionRequest)
  | revoke (target : Target)

inductive Outcome where
  | decision (response : ResourceAccessResponse)
  | done (success : Bool)

def AuthorizationService.program (service : AuthorizationService) : Operation → AuthM Outcome
  | .check request => do
    let response ← service.checkResourceAccess request
    return .decision response
  | .grant now request => do
    let success ← service.grantResourcePermission now request
    return .done success
  | .revoke target => do
    let success ← service.revokeResourcePermission target
    return .done success

/-! ### A small service -/

def plainRedis : Redis where
  batches := 1
  batch _ := 0
  batch_lt _ := Nat.one_pos
  glob pattern key := pattern.dropLast.isPrefixOf key

def plainService : AuthorizationService where
  surroundings :=
    { getUserInfo := fun _ => some ⟨"free".toList, true, none⟩
      isUserOrganizationMember := fun _ _ => false
      getOrganizationInfo := fun _ => none
      getOrganizationPermission := fun _ _ _ => none
      getResourcePermission := fun _ _ => none }
  redis := plainRedis
  digest _ := "0".toList

theorem plainService_glob (pattern key : PyStr) :
    plainService.redis.glob pattern key = pattern.dropLast.isPrefixOf key := rfl

def plainRequest : ResourceAccessRequest :=
  { userId := "u".toList, resourceType := .database, resourceName := "t".toList }

end IsaUser.Authorization
