import IsaUser.Authorization.Service

/-!
# One Request after Another

What the methods of the service do when nobody else is at work and every call is answered: which
permission a reading returns is up to the database, so a decision is the one that follows from
some reading. A grant adds a row and deletes the cached decisions that the pattern of its user
matches, and so does a revocation, after it has deactivated the rows about its target.
-/

open IsaUser.Prog List

namespace IsaUser.Authorization

open AuthorizationService

/-! ### Stores -/

def Store.Answered (s : Store) : Prop := ∀ n, (s.weather n).link = .up

def Store.Reads (s : Store) (target : Target) (permission : Option (Row UserPermissionRecord)) :
    Prop :=
  (permission = none ∧ s.active target = []) ∨
    ∃ row ∈ s.active target, permission = some (readRecord row)

structure ReadOnly (s s' : Store) : Prop where
  permissions : s'.permissions = s.permissions
  cache : s'.cache = s.cache
  answered : s'.Answered

/-- The permissions are as they were, and the cache holds what it held of the keys that `P`
keeps. -/
structure Evicts (P : PyStr → Prop) (s s' : Store) : Prop where
  permissions : s'.permissions = s.permissions
  cache : ∀ key response, s'.cache.lookup key = some response →
    s.cache.lookup key = some response ∧ P key
  answered : s'.Answered

def AuthorizationService.Resolves (service : AuthorizationService) (s : Store)
    (request : ResourceAccessRequest) (response : ResourceAccessResponse) : Prop :=
  ∃ first second, s.Reads request.target first ∧ s.Reads request.target second ∧
    response = service.surroundings.resolve request first second

section Proofs

variable {service : AuthorizationService} {redis : Redis} {s s' s'' : Store} {target : Target}
  {request : ResourceAccessRequest} {P P' : PyStr → Prop}

theorem Store.Answered.readOnly (hs : s.Answered) : ReadOnly s s := ⟨rfl, rfl, hs⟩

theorem ReadOnly.trans (h : ReadOnly s s') (h' : ReadOnly s' s'') : ReadOnly s s'' :=
  ⟨h'.permissions.trans h.permissions, h'.cache.trans h.cache, h'.answered⟩

theorem ReadOnly.active (h : ReadOnly s s') (target : Target) :
    s'.active target = s.active target := by
  rw [Store.active, h.permissions, Store.active]

theorem ReadOnly.reads (h : ReadOnly s s') {permission : Option (Row UserPermissionRecord)} :
    s'.Reads target permission ↔ s.Reads target permission := by
  rw [Store.Reads, h.active, Store.Reads]

theorem Store.exists_reads (s : Store) (target : Target) :
    ∃ permission, s.Reads target permission := by
  cases hactive : s.active target with
  | nil => exact ⟨none, .inl ⟨rfl, hactive⟩⟩
  | cons row rows =>
    exact ⟨_, .inr ⟨row, by rw [hactive]; exact mem_cons_self, rfl⟩⟩

theorem ReadOnly.evicts (h : ReadOnly s s') : Evicts (fun _ => True) s s' :=
  ⟨h.permissions, fun _ _ hlookup => ⟨h.cache ▸ hlookup, trivial⟩, h.answered⟩

theorem Evicts.active (h : Evicts P s s') (target : Target) :
    s'.active target = s.active target := by
  rw [Store.active, h.permissions, Store.active]

theorem Evicts.trans (h : Evicts P s s') (h' : Evicts P' s' s'') :
    Evicts (fun key => P key ∧ P' key) s s'' where
  permissions := h'.permissions.trans h.permissions
  cache key response hlookup := by
    obtain ⟨hlookup', hP'⟩ := h'.cache key response hlookup
    obtain ⟨hlookup'', hP⟩ := h.cache key response hlookup'
    exact ⟨hlookup'', hP, hP'⟩
  answered := h'.answered

theorem Evicts.mono (h : Evicts P s s') (hP : ∀ key response, s.cache.lookup key = some response →
    P key → P' key) : Evicts P' s s' where
  permissions := h.permissions
  cache key response hlookup := by
    obtain ⟨hlookup', hkey⟩ := h.cache key response hlookup
    exact ⟨hlookup', hP key response hlookup' hkey⟩
  answered := h.answered

/-! ### Calls -/

theorem wp_ask {c : Call} {Q : Except StoreError c.Reply → Store → Prop} (hs : s.Answered)
    (hc : ∀ now, c ≠ .deleteExpired now)
    (h : ∀ pick later, ReadOnly s later →
      Q (.ok (redis.serve pick c later).1) (redis.serve pick c later).2) :
    (ask c).wp redis.handle Q s := by
  refine wp_query.mpr ?_
  have hlater : ReadOnly s { s with weather := fun n => s.weather (n + 1) } :=
    ⟨rfl, rfl, fun n => hs (n + 1)⟩
  have hhandle : redis.handle c s =
      (.ok (redis.serve (s.weather 0).pick c { s with weather := fun n => s.weather (n + 1) }).1,
        (redis.serve (s.weather 0).pick c { s with weather := fun n => s.weather (n + 1) }).2) := by
    cases c with
    | deleteExpired now => exact absurd rfl (hc now)
    | _ => simp only [Redis.handle, hs 0, Link.send]
  rw [hhandle]
  exact h _ _ hlater

theorem getUserPermission_inTurn (target : Target) (hs : s.Answered) :
    (getUserPermission target).wp redis.handle (fun r s' => ∃ permission, r = .ok permission ∧
      s.Reads target permission ∧ ReadOnly s s') s := by
  refine wp_tryCatch.mpr (wp_bind.mpr (wp_ask hs (fun _ => nofun) ?_))
  intro pick later hlater
  refine ⟨_, rfl, ?_, hlater⟩
  rw [← hlater.reads]
  cases hrow : ((later.active target).rotate pick).head? with
  | none =>
    refine .inl ⟨by simp [Redis.serve, hrow], ?_⟩
    rw [head?_eq_none_iff, rotate_eq_nil_iff] at hrow
    exact hrow
  | some row =>
    refine .inr ⟨row, mem_rotate.mp (mem_of_head? hrow), ?_⟩
    simp [Redis.serve, hrow]

/-! ### Checks -/

theorem checkResourceAccessUncached_inTurn (hs : s.Answered) :
    (service.checkResourceAccessUncached request).wp redis.handle (fun r s' =>
      ∃ response, r = .ok response ∧ service.Resolves s request response ∧ ReadOnly s s') s := by
  rw [checkResourceAccessUncached]
  cases huser : service.surroundings.activeUser request.userId with
  | none =>
    obtain ⟨permission, hreads⟩ := s.exists_reads request.target
    exact ⟨_, rfl, ⟨permission, permission, hreads, hreads,
      (Surroundings.resolve_of_notFound huser).symm⟩, hs.readOnly⟩
  | some userInfo =>
    refine wp_bind.mpr (wp_mono (getUserPermission_inTurn _ hs) ?_)
    rintro _ s₁ ⟨first, rfl, hfirst, hs₁⟩
    dsimp only
    split
    · next response hresponse =>
        exact ⟨_, rfl, ⟨first, first, hfirst, hfirst,
          (Surroundings.resolve_of_some huser hresponse).symm⟩, hs₁⟩
    · next hnone =>
        refine wp_bind.mpr (wp_mono (getUserPermission_inTurn _ hs₁.answered) ?_)
        rintro _ s₂ ⟨second, rfl, hsecond, hs₂⟩
        exact ⟨_, rfl, ⟨first, second, hfirst, hs₁.reads.mp hsecond,
          (Surroundings.resolve_of_none huser hnone).symm⟩, hs₁.trans hs₂⟩

inductive Checked (service : AuthorizationService) (s : Store) (request : ResourceAccessRequest)
    (response : ResourceAccessResponse) (s' : Store) : Prop where
  /-- The decision was in the cache. -/
  | hit (key : PyStr) : service.permissionCacheKey request = some key →
      s.cache.lookup (fullKey key) = some response → ReadOnly s s' →
      Checked service s request response s'
  /-- The decision was resolved. -/
  | resolved : service.Resolves s request response → ReadOnly s s' →
      Checked service s request response s'
  /-- The decision was resolved and stored. -/
  | stored (key : PyStr) : service.permissionCacheKey request = some key →
      service.Resolves s request response → s'.permissions = s.permissions →
      s'.cache = s.cache.insert (fullKey key) response → Checked service s request response s'

theorem cacheGet_inTurn {key : PyStr} (hs : s.Answered) :
    (cacheGet key).wp redis.handle
      (fun r s' => r = .ok (s.cache.lookup (fullKey key)) ∧ ReadOnly s s') s := by
  refine wp_tryCatch.mpr (wp_ask hs (fun _ => nofun) fun pick later hlater => ?_)
  rw [← hlater.cache]
  exact ⟨rfl, hlater⟩

theorem checkResourceAccess_inTurn (service : AuthorizationService)
    (request : ResourceAccessRequest) (hs : s.Answered) :
    (service.checkResourceAccess request).wp service.redis.handle (fun r s' =>
      ∃ response, r = .ok response ∧ Checked service s request response s') s := by
  rw [checkResourceAccess]
  cases hkey : service.permissionCacheKey request with
  | none =>
    refine wp_mono (checkResourceAccessUncached_inTurn hs) ?_
    rintro _ s₁ ⟨response, rfl, hresolves, hs₁⟩
    exact ⟨response, rfl, .resolved hresolves hs₁⟩
  | some key =>
    refine wp_bind.mpr (wp_mono (cacheGet_inTurn hs) ?_)
    rintro _ s₁ ⟨rfl, hs₁⟩
    cases hlookup : s.cache.lookup (fullKey key) with
    | some response => exact ⟨response, rfl, .hit key hkey hlookup hs₁⟩
    | none =>
      refine wp_bind.mpr
        (wp_mono (checkResourceAccessUncached_inTurn hs₁.answered) ?_)
      rintro _ s₂ ⟨response, rfl, hresolves, hs₂⟩
      have hresolves : service.Resolves s request response := by
        obtain ⟨first, second, hfirst, hsecond, rfl⟩ := hresolves
        exact ⟨first, second, hs₁.reads.mp hfirst, hs₁.reads.mp hsecond, rfl⟩
      have hread := hs₁.trans hs₂
      dsimp only
      split
      · refine wp_bind.mpr (wp_tryCatch.mpr (wp_ask hs₂.answered (fun _ => nofun) ?_))
        intro pick later hlater
        have hwritten := hread.trans hlater
        refine ⟨response, rfl, .stored key hkey hresolves hwritten.permissions ?_⟩
        exact congrArg (AList.insert (fullKey key) response) hwritten.cache
      · exact ⟨response, rfl, .resolved hresolves hread⟩

/-! ### Deletions -/

theorem deleteKeys_inTurn (keys : List PyStr) (hs : s.Answered) :
    (deleteKeys keys).wp redis.handle
      (fun r s' => r = .ok () ∧ Evicts (fun key => key ∉ keys) s s') s := by
  induction keys generalizing s with
  | nil => exact ⟨rfl, rfl, fun _ _ h => ⟨h, not_mem_nil⟩, hs⟩
  | cons key keys ih =>
    refine wp_bind.mpr (wp_ask hs (fun _ => nofun) fun pick later hlater => ?_)
    have hdeleted : Evicts (fun k => k ≠ key) s (redis.serve pick (.delete key) later).2 := by
      refine ⟨hlater.permissions, fun k response hlookup => ?_, hlater.answered⟩
      simp only [Redis.serve, hlater.cache] at hlookup
      rcases eq_or_ne k key with rfl | hne
      · simp at hlookup
      · exact ⟨(AList.lookup_erase_ne hne).symm.trans hlookup, hne⟩
    refine wp_mono (ih hdeleted.answered) ?_
    rintro _ s' ⟨rfl, hs'⟩
    refine ⟨rfl, (hdeleted.trans hs').mono fun k _ _ hk hmem => ?_⟩
    rcases mem_cons.mp hmem with rfl | hmem
    · exact hk.1 rfl
    · exact hk.2 hmem

theorem deleteBatches_inTurn (pattern : PyStr) (batches : List ℕ) (hs : s.Answered) :
    (deleteBatches pattern batches).wp redis.handle (fun r s' => r = .ok () ∧
      Evicts (fun key => ¬(redis.batch key ∈ batches ∧ redis.glob pattern key)) s s') s := by
  induction batches generalizing s with
  | nil => exact ⟨rfl, rfl, fun _ _ h => ⟨h, fun hmem => not_mem_nil hmem.1⟩, hs⟩
  | cons batch batches ih =>
    refine wp_bind.mpr (wp_ask hs (fun _ => nofun) fun pick later hlater => ?_)
    refine wp_bind.mpr (wp_mono (deleteKeys_inTurn _ hlater.answered) ?_)
    rintro _ s₁ ⟨rfl, hs₁⟩
    refine wp_mono (ih hs₁.answered) ?_
    rintro _ s₂ ⟨rfl, hs₂⟩
    refine ⟨rfl, ((hlater.evicts.trans hs₁).trans hs₂).mono ?_⟩
    rintro key response hlookup ⟨⟨-, hfound⟩, hrest⟩ ⟨hbatch, hglob⟩
    rcases mem_cons.mp hbatch with hthis | hlater'
    · refine hfound (mem_filter.mpr ⟨?_, decide_eq_true ⟨hthis, hglob⟩⟩)
      rw [hlater.cache]
      exact AList.mem_keys.mp (AList.lookup_isSome.mp (by rw [hlookup]; rfl))
    · exact hrest ⟨hlater', hglob⟩

theorem invalidatePermissionCache_inTurn (userId : PyStr) (hs : s.Answered) :
    (service.invalidatePermissionCache userId).wp service.redis.handle (fun r s' => r = .ok () ∧
      Evicts (fun key => userId = [] ∨ ¬service.redis.glob (userPattern userId)
        key) s s') s := by
  rw [invalidatePermissionCache]
  split
  · next huser => exact ⟨rfl, rfl, fun _ _ h => ⟨h, .inl huser⟩, hs⟩
  · refine wp_tryCatch.mpr (wp_mono (deleteBatches_inTurn _ _ hs) ?_)
    rintro _ s' ⟨rfl, hs'⟩
    refine ⟨rfl, hs'.mono fun key _ _ hkey => .inr fun hglob => hkey ⟨?_, hglob⟩⟩
    exact mem_range.mpr (service.redis.batch_lt key)

/-! ### Grants and revocations -/

def Granted (service : AuthorizationService) (s : Store) (request : GrantPermissionRequest)
    (success : Bool) (s' : Store) : Prop :=
  match success with
  | false => ReadOnly s s'
  | true =>
    Evicts (fun key => request.target.userId = [] ∨
      ¬service.redis.glob (userPattern request.target.userId) key)
      { s with permissions := s.permissions.insert request.record.row } s'

theorem grantUserPermission_inTurn (permission : UserPermissionRecord)
    (hactive : permission.isActive = true) (hs : s.Answered) :
    (grantUserPermission permission).wp redis.handle (fun r s' => (∃ row, r = .ok (some row)) ∧
      ReadOnly { s with permissions := s.permissions.insert permission.row } s') s := by
  refine wp_tryCatch.mpr (wp_bind.mpr (wp_ask hs (fun _ => nofun) ?_))
  intro pick later hlater
  have hinserted : ReadOnly { s with permissions := s.permissions.insert permission.row }
      (redis.serve pick (.insertPermission permission.row) later).2 := by
    refine ⟨?_, hlater.cache, hlater.answered⟩
    exact congrArg (fun t => Table.insert t permission.row) hlater.permissions
  refine wp_mono (getUserPermission_inTurn permission.target hinserted.answered) ?_
  rintro _ s' ⟨found, rfl, hreads, hs'⟩
  refine ⟨?_, hinserted.trans hs'⟩
  rcases hreads with ⟨-, hnone⟩ | ⟨row, -, rfl⟩
  · rw [hinserted.active, active_insert, if_pos ⟨hactive, rfl⟩] at hnone
    simp at hnone
  · exact ⟨_, rfl⟩

theorem grantResourcePermission_inTurn (service : AuthorizationService) (now : Timestamp)
    (request : GrantPermissionRequest) (hs : s.Answered) :
    (service.grantResourcePermission now request).wp service.redis.handle
      (fun r s' => ∃ success, r = .ok success ∧ Granted service s request success s') s := by
  rw [grantResourcePermission]
  cases service.surroundings.getUserInfo request.target.userId with
  | none => exact ⟨false, rfl, hs.readOnly⟩
  | some userInfo =>
    dsimp only
    split
    · exact ⟨false, rfl, hs.readOnly⟩
    · refine wp_bind.mpr (wp_mono (grantUserPermission_inTurn request.record rfl hs) ?_)
      rintro _ s₁ ⟨⟨row, rfl⟩, hs₁⟩
      refine wp_bind.mpr (wp_tryCatch.mpr (wp_mono
        (invalidatePermissionCache_inTurn request.target.userId hs₁.answered) ?_))
      rintro _ s₂ ⟨rfl, hs₂⟩
      refine ⟨true, rfl, hs₂.permissions.trans hs₁.permissions, fun key response h => ?_,
        hs₂.answered⟩
      rw [← hs₁.cache]
      exact hs₂.cache key response h

def RevokedBy (service : AuthorizationService) (s : Store) (target : Target) (success : Bool)
    (s' : Store) : Prop :=
  match success with
  | false => s.count target = 0 ∧ ReadOnly (s.revoke target) s'
  | true =>
    Evicts (fun key => target.userId = [] ∨
      ¬service.redis.glob (userPattern target.userId) key) (s.revoke target) s'

theorem revokeUserPermission_inTurn (target : Target) (hs : s.Answered) :
    (revokeUserPermission target).wp redis.handle (fun r s' =>
      r = .ok (decide (0 < s.count target)) ∧ ReadOnly (s.revoke target) s') s := by
  refine wp_tryCatch.mpr (wp_bind.mpr (wp_ask hs (fun _ => nofun) ?_))
  intro pick later hlater
  have hcount : later.count target = s.count target := by
    rw [count_eq, hlater.permissions, ← count_eq]
  refine ⟨?_, ?_, hlater.cache, hlater.answered⟩
  · rw [← hcount]
    rfl
  · exact congrArg (fun t => Table.map t (PermissionRow.revoke target)) hlater.permissions

theorem revokeResourcePermission_inTurn (service : AuthorizationService) (target : Target)
    (hs : s.Answered) :
    (service.revokeResourcePermission target).wp service.redis.handle (fun r s' =>
      ∃ success, r = .ok success ∧ RevokedBy service s target success s') s := by
  refine wp_bind.mpr (wp_mono (getUserPermission_inTurn _ hs) ?_)
  rintro _ s₁ ⟨_, rfl, -, hs₁⟩
  refine wp_bind.mpr (wp_mono (revokeUserPermission_inTurn target hs₁.answered) ?_)
  rintro _ s₂ ⟨rfl, hs₂⟩
  have hcount : s₁.count target = s.count target := by
    rw [count_eq, hs₁.permissions, ← count_eq]
  have hrevoked : ReadOnly (s.revoke target) s₂ := by
    refine ⟨hs₂.permissions.trans ?_, hs₂.cache.trans hs₁.cache, hs₂.answered⟩
    exact congrArg (fun t => Table.map t (PermissionRow.revoke target)) hs₁.permissions
  rw [hcount]
  rcases Nat.eq_zero_or_pos (s.count target) with hzero | hpos
  · rw [decide_eq_false (by omega)]
    exact ⟨false, rfl, hzero, hrevoked⟩
  · rw [decide_eq_true hpos]
    refine wp_tryCatch.mpr (wp_bind.mpr (wp_mono
      (invalidatePermissionCache_inTurn target.userId hrevoked.answered) ?_))
    rintro _ s₃ ⟨rfl, hs₃⟩
    refine ⟨true, rfl, hs₃.permissions.trans hrevoked.permissions, fun key response h => ?_,
      hs₃.answered⟩
    rw [← hrevoked.cache]
    exact hs₃.cache key response h

theorem cleanupExpiredPermissions_inTurn (redis : Redis) (now : Timestamp) (hs : s.Answered) :
    (cleanupExpiredPermissions now).wp redis.handle
      (fun r s' => r = .ok 0 ∧ ReadOnly s s') s := by
  exact ⟨rfl, rfl, rfl, fun n => hs (n + 1)⟩

end Proofs

end IsaUser.Authorization
