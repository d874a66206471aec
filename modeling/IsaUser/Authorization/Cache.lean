import IsaUser.Authorization.Service

/-!
# Decisions in the Cache

A check stores its decision in the cache that all replicas share. About one target, a user and a
resource, the store is clean when no permission is active and the cached decisions are those
without one. What a check stores it has decided, and what it returns is cached or decided: so if
it starts in a clean store, it decides without a permission until the next grant.

## Main results

* `rel_handle`: what a call may do to a target.
* `checkResourceAccess_sound`: what a check promises.
-/

open IsaUser.Prog List

namespace IsaUser.Authorization

variable {ι : Type*}

/-! ### When decisions are stored -/

abbrev AuthPast := Past (StoreApi.fallible StoreError) Store

def Redis.read (redis : Redis) (s : Store) : Call → Option (Row PermissionRow)
  | .selectPermission target =>
    match (redis.handle (.selectPermission target) s).1 with
    | .ok row => row
    | .error _ => none
  | _ => none

def StoredFresh (redis : Redis) (past : AuthPast) (s : Store) : Call → Prop
  | .set _ _ => ∀ e ∈ past, ∀ row ∈ redis.read e.1 e.2, row ∈ s.active row.val.target
  | _ => True

instance (redis : Redis) (past : AuthPast) (s : Store) :
    (c : Call) → Decidable (StoredFresh redis past s c)
  | .set _ _ => inferInstanceAs
      (Decidable (∀ e ∈ past, ∀ row ∈ redis.read e.1 e.2, row ∈ s.active row.val.target))
  | .get _ => .isTrue trivial
  | .scan _ _ => .isTrue trivial
  | .delete _ => .isTrue trivial
  | .selectPermission _ => .isTrue trivial
  | .listPermissions _ => .isTrue trivial
  | .insertPermission _ => .isTrue trivial
  | .revokePermission _ => .isTrue trivial
  | .deleteExpired _ => .isTrue trivial

def DistinctKeys (service : AuthorizationService) (ops : ι → Operation) : Prop :=
  ∀ i j request request' key, ops i = .check request → ops j = .check request' →
    service.permissionCacheKey request = some key →
    service.permissionCacheKey request' = some key → request.question = request'.question

variable {service : AuthorizationService} {ops : ι → Operation} {s s' s₀ : Store}
  {target : Target} {request : ResourceAccessRequest} {P : PyStr → Prop} {past : AuthPast}

/-! ### Stores that are clean -/

def AuthorizationService.base (service : AuthorizationService) (request : ResourceAccessRequest) :
    ResourceAccessResponse :=
  service.surroundings.resolve request none none

def IsKeyOf (service : AuthorizationService) (ops : ι → Operation) (target : Target)
    (request : ResourceAccessRequest) (key : PyStr) : Prop :=
  (∃ i, ops i = .check request) ∧ request.target = target ∧
    ∃ k, service.permissionCacheKey request = some k ∧ fullKey k = key

def Store.Revoked (s : Store) (target : Target) : Prop := s.active target = []

/-- The permissions about the target are revoked, and what the cache holds about it is decided
without one, except for the keys that `P` allows. -/
def CleanExcept (service : AuthorizationService) (ops : ι → Operation) (target : Target)
    (P : PyStr → Prop) (s : Store) : Prop :=
  s.Revoked target ∧ ∀ request key response, IsKeyOf service ops target request key →
    s.cache.lookup key = some response → response = service.base request ∨ P key

/-- What others do to a target between two moments: grants are counted, and without one no
permission is active again, nor does the cache come to hold a decision by a permission. -/
def authTerms (service : AuthorizationService) (ops : ι → Operation) (target : Target) :
    Terms Store where
  inv _ := True
  rel s s' := s.count target ≤ s'.count target ∧
    (s'.count target = s.count target → ∀ P,
      CleanExcept service ops target P s → CleanExcept service ops target P s')
  rel_refl s := ⟨le_rfl, fun _ _ h => h⟩
  rel_trans := by
    intro s₁ s₂ s₃ h₁₂ h₂₃
    refine ⟨h₁₂.1.trans h₂₃.1, fun hcount P h => ?_⟩
    have hfirst := h₁₂.1
    have hsecond := h₂₃.1
    exact h₂₃.2 (by omega) P (h₁₂.2 (by omega) P h)

abbrev Later (service : AuthorizationService) (ops : ι → Operation) (target : Target) :
    Store → Store → Prop :=
  (authTerms service ops target).rel

theorem Later.refl (s : Store) : Later service ops target s s :=
  (authTerms service ops target).rel_refl s

theorem Later.trans {s₁ s₂ s₃ : Store} (h : Later service ops target s₁ s₂)
    (h' : Later service ops target s₂ s₃) : Later service ops target s₁ s₃ :=
  (authTerms service ops target).rel_trans h h'

/-- A decision that a check stores: no permission had a part in it, or the check has read one. -/
def Decides (service : AuthorizationService) (ops : ι → Operation) (past : AuthPast) :
    Call → Prop
  | .set key response => ∃ request, IsKeyOf service ops request.target request key ∧
      (response = service.base request ∨
        ∃ e ∈ past, ∃ row ∈ service.redis.read e.1 e.2, row.val.target = request.target)
  | _ => True

theorem CleanExcept.mono {P' : PyStr → Prop} (h : CleanExcept service ops target P s)
    (hP : ∀ request key, IsKeyOf service ops target request key → P key → P' key) :
    CleanExcept service ops target P' s := by
  refine ⟨h.1, fun request key response hkey hlookup => ?_⟩
  rcases h.2 request key response hkey hlookup with h | h
  · exact .inl h
  · exact .inr (hP request key hkey h)

theorem CleanExcept.of_less (h : CleanExcept service ops target P s)
    (hactive : s.Revoked target → s'.Revoked target)
    (hcache : ∀ key response, s'.cache.lookup key = some response →
      s.cache.lookup key = some response) : CleanExcept service ops target P s' :=
  ⟨hactive h.1, fun request key response hkey hlookup =>
    h.2 request key response hkey (hcache key response hlookup)⟩

/-! ### What the calls do -/

theorem Store.Revoked.revoke (h : s.Revoked target) (target' : Target) :
    (s.revoke target').Revoked target := by
  rcases eq_or_ne target target' with rfl | hne
  · exact active_revoke_self s target
  · exact (active_revoke_of_ne hne).trans h

theorem clean_set {key : PyStr} {response : ResourceAccessResponse}
    (hdistinct : DistinctKeys service ops) (hdecides : Decides service ops past (.set key response))
    (hfresh : StoredFresh service.redis past s (.set key response))
    (h : CleanExcept service ops target P s) :
    CleanExcept service ops target P { s with cache := s.cache.insert key response } := by
  refine ⟨h.1, fun request' key' response' hkey hlookup => ?_⟩
  rcases eq_or_ne key' key with rfl | hne
  · left
    obtain rfl : response = response' := by simpa using hlookup
    obtain ⟨request, hof, hbase⟩ := hdecides
    have hsame : request.question = request'.question := by
      obtain ⟨⟨i, hi⟩, -, k, hk, rfl⟩ := hof
      obtain ⟨⟨j, hj⟩, -, k', hk', hfull⟩ := hkey
      obtain rfl : k' = k := append_cancel_left hfull
      exact hdistinct i j request request' k' hi hj hk hk'
    have htarget : request.question.target = request'.question.target := by rw [hsame]
    change request.target = request'.target at htarget
    rcases hbase with rfl | ⟨e, he, row, hrow, hrowTarget⟩
    · have hresolve : service.base request.question = service.base request'.question := by
        rw [hsame]
      exact hresolve
    · have hactive := hfresh e he row hrow
      rw [hrowTarget, htarget, hkey.2.1, h.1] at hactive
      cases hactive
  · rw [AList.lookup_insert_ne hne] at hlookup
    exact h.2 request' key' response' hkey hlookup

theorem rel_weather (s : Store) (weather : ℕ → Weather) :
    Later service ops target s { s with weather := weather } :=
  ⟨le_rfl, fun _ _ h => h.of_less id fun _ _ => id⟩

/-- **What a call does to a target** when it is executed is what others may do. -/
theorem rel_serve (pick : ℕ) {c : Call} (hdistinct : DistinctKeys service ops)
    (hdecides : Decides service ops past c) (hfresh : StoredFresh service.redis past s c) :
    Later service ops target s (service.redis.serve pick c s).2 := by
  have hrefl : Later service ops target s s := Later.refl s
  cases c with
  | get key => exact hrefl
  | scan pattern batch => exact hrefl
  | selectPermission t => exact hrefl
  | listPermissions u => exact hrefl
  | deleteExpired now => exact hrefl
  | set key response => exact ⟨le_rfl, fun _ _ h => clean_set hdistinct hdecides hfresh h⟩
  | delete key =>
    refine ⟨le_rfl, fun _ P h => h.of_less id fun key' response hlookup => ?_⟩
    rcases eq_or_ne key' key with rfl | hne
    · simp [Redis.serve] at hlookup
    · exact (AList.lookup_erase_ne hne).symm.trans hlookup
  | revokePermission t =>
    refine ⟨(count_revoke s t target).ge, fun _ P h => ?_⟩
    exact h.of_less (fun hactive => hactive.revoke t) fun _ _ => id
  | insertPermission row =>
    have hcount : (service.redis.serve pick (.insertPermission row) s).2.count target =
        s.count target + if row.target = target then 1 else 0 := by
      simp [count_eq, Redis.serve, Table.insert]
    refine ⟨by omega, fun hsame P h => h.of_less (fun hactive => ?_) fun _ _ => id⟩
    have hother : row.target ≠ target := by
      intro htarget
      rw [if_pos htarget] at hcount
      omega
    refine (active_insert s row target).trans ?_
    rw [if_neg fun h => hother h.2, append_nil]
    exact hactive

theorem rel_handle {c : Call} (hdistinct : DistinctKeys service ops)
    (hdecides : Decides service ops past c) (hfresh : StoredFresh service.redis past s c) :
    Later service ops target s (service.redis.handle c s).2 := by
  have hlater : Later service ops target s { s with weather := fun n => s.weather (n + 1) } :=
    rel_weather s _
  have hfresh' : StoredFresh service.redis past
      { s with weather := fun n => s.weather (n + 1) } c := by
    cases c with
    | set key response => exact hfresh
    | _ => trivial
  have hexecuted := hlater.trans (rel_serve (s.weather 0).pick hdistinct hdecides hfresh')
  cases c with
  | deleteExpired now => exact hlater
  | _ => exact Link.send_snd hlater hexecuted

/-! ### Checks -/

/-- A program, while others work on the store: it stores only what it decides, as long as no
decision is stored after a permission that its check has read is revoked. -/
abbrev AuthSound {α : Type} (service : AuthorizationService) (ops : ι → Operation)
    (target : Target) (Q : Except StoreError α → AuthPast → Store → Prop) (p : AuthM α)
    (past : AuthPast) (s : Store) : Prop :=
  p.Sound (authTerms service ops target) service.redis.handle (StoredFresh service.redis)
    (fun past _ c => Decides service ops past c) Q past s

/-- Between `start` and now, a permission about `asked` has been read. -/
def Seen (service : AuthorizationService) (ops : ι → Operation) (target asked : Target)
    (start : Store) (past : AuthPast) (now : Store) : Prop :=
  ∃ e ∈ past, Later service ops target start e.1 ∧
    Later service ops target e.1 now ∧
      ∃ row ∈ service.redis.read e.1 e.2, row ∈ e.1.active asked

/-- A check has decided: no permission had a part in it, or the check has read one. -/
def Decided (service : AuthorizationService) (ops : ι → Operation) (target : Target)
    (request : ResourceAccessRequest) (start : Store) (r : Except StoreError ResourceAccessResponse)
    (past : AuthPast) (now : Store) : Prop :=
  ∃ response, r = .ok response ∧ (response = service.base request ∨
    Seen service ops target request.target start past now)

theorem mem_active_of_read {row : Row PermissionRow} {asked : Target} {redis : Redis}
    (h : row ∈ redis.read s (.selectPermission asked)) : row ∈ s.active asked := by
  simp only [Redis.read] at h
  split at h
  · next found hfound =>
      obtain ⟨pick, hserve⟩ := Redis.handle_ok (Prod.ext hfound rfl)
      obtain rfl := congrArg Prod.fst hserve
      exact mem_rotate.mp (mem_of_head? h)
  · cases h

section Sound

variable {α : Type} {Q : Except StoreError α → AuthPast → Store → Prop} {past : AuthPast}
  {start : Store}

theorem Seen.mono {asked : Target} {start' : Store} {past' : AuthPast}
    (h : Seen service ops target asked start past s)
    (hstart : Later service ops target start' start) (hpast : past ⊆ past')
    (hs : Later service ops target s s') :
    Seen service ops target asked start' past' s' := by
  obtain ⟨e, he, hread, hnow, hrow⟩ := h
  exact ⟨e, hpast he, hstart.trans hread, hnow.trans hs, hrow⟩

theorem Decided.mono {r : Except StoreError ResourceAccessResponse} {start' : Store}
    {past' : AuthPast} (h : Decided service ops target request start r past s)
    (hstart : Later service ops target start' start) (hpast : past ⊆ past')
    (hs : Later service ops target s s') :
    Decided service ops target request start' r past' s' := by
  obtain ⟨response, hr, hbase | hseen⟩ := h
  · exact ⟨response, hr, .inl hbase⟩
  · exact ⟨response, hr, .inr (hseen.mono hstart hpast hs)⟩

theorem Decided.decides {response : ResourceAccessResponse} {key : PyStr}
    (h : Decided service ops target request start (.ok response) past s)
    (hkey : IsKeyOf service ops request.target request key) :
    Decides service ops past (.set key response) := by
  refine ⟨request, hkey, ?_⟩
  obtain ⟨_, ⟨⟩, hbase | ⟨e, he, -, -, row, hread, hactive⟩⟩ := h
  · exact .inl hbase
  · exact .inr ⟨e, he, row, hread, mem_active hactive⟩

theorem Seen.count_ne (h : Seen service ops target target start past s)
    (hclean : CleanExcept service ops target P start) : s.count target ≠ start.count target := by
  obtain ⟨e, -, hstart, hnow, row, -, hrow⟩ := h
  intro hcount
  have hfirst := hstart.1
  have hsecond := hnow.1
  have hrevoked : e.1.Revoked target := (hstart.2 (by omega) P hclean).1
  rw [hrevoked] at hrow
  cases hrow

theorem sound_ask (hdistinct : DistinctKeys service ops) {c : Call}
    {f : StoreApi.Reply c → AuthM α} (hdecides : Decides service ops past c)
    (hok : ∀ s₁ r s₂, Later service ops target s s₁ →
      service.redis.handle c s₁ = (.ok r, s₂) → Later service ops target s₁ s₂ →
      AuthSound service ops target Q (f r) ((s₁, c) :: past) s₂)
    (herror : ∀ e s₁ s₂, Later service ops target s s₁ →
      Later service ops target s₁ s₂ → Q (.error e) ((s₁, c) :: past) s₂) :
    AuthSound service ops target Q (ask c >>= f) past s := by
  intro s₁ hs₁ _
  refine ⟨hdecides, fun hfresh => ?_⟩
  have hrel : Later service ops target s₁ _ := rel_handle hdistinct hdecides hfresh
  cases hreply : (service.redis.handle c s₁).1 with
  | ok r => exact hok s₁ r _ hs₁ (Prod.ext hreply rfl) hrel
  | error e =>
    exact sound_raise fun s₂ hs₂ _ =>
      herror e s₁ s₂ hs₁ (Later.trans hrel hs₂)

/-- What `get_user_permission` has done when it ends. -/
def PermissionRead (service : AuthorizationService) (ops : ι → Operation) (target asked : Target)
    (start : Store) (past : AuthPast) (r : Except StoreError (Option (Row UserPermissionRecord)))
    (past' : AuthPast) (now : Store) : Prop :=
  (∃ s₁, past' = (s₁, .selectPermission asked) :: past ∧
    Later service ops target start now) ∧
      (r = .ok none ∨ (∃ row, r = .ok (some row)) ∧
        Seen service ops target asked start past' now)

theorem getUserPermission_sound (hdistinct : DistinctKeys service ops) (asked : Target) :
    AuthSound service ops target (PermissionRead service ops target asked s past)
      (getUserPermission asked) past s := by
  refine Sound.tryCatch (Q := fun r past' now => (∃ e, r = .error e ∧ ∃ s₁,
      past' = (s₁, .selectPermission asked) :: past ∧ Later service ops target s now) ∨
        (∃ row, r = .ok row) ∧ PermissionRead service ops target asked s past r past' now)
    (sound_ask hdistinct trivial (fun s₁ row s₂ hs₁ hrun hs₂ => ?_)
      fun e s₁ s₂ hs₁ hs₂ => .inl ⟨e, rfl, s₁, rfl, Later.trans hs₁ hs₂⟩) ?_ ?_
  · refine sound_ret fun s₃ hs₃ _ => .inr ⟨⟨_, rfl⟩, ⟨s₁, rfl, ?_⟩, ?_⟩
    · exact Later.trans hs₁ (Later.trans hs₂ hs₃)
    · cases row with
      | none => exact .inl rfl
      | some row =>
        right
        have hread : row ∈ service.redis.read s₁ (.selectPermission asked) := by
          simp [Redis.read, hrun]
        exact ⟨⟨_, rfl⟩, _, mem_cons_self, hs₁, Later.trans hs₂ hs₃, row, hread,
          mem_active_of_read hread⟩
  · rintro row past' now (⟨e, h, -⟩ | ⟨-, h⟩)
    · cases h
    · exact h
  · rintro e past' now (⟨-, -, s₁, hpast, hrel⟩ | ⟨⟨row, h⟩, -⟩)
    · exact sound_ret fun s' hs' _ => ⟨⟨s₁, hpast, hrel.trans hs'⟩, .inl rfl⟩
    · cases h

/-- The rule of `get_user_permission`. -/
theorem sound_getUserPermission (hdistinct : DistinctKeys service ops) {asked : Target}
    {f : Option (Row UserPermissionRecord) → AuthM α}
    (hf : ∀ permission s₁ s₂, Later service ops target s s₂ →
      (permission = none ∨
        Seen service ops target asked s ((s₁, .selectPermission asked) :: past) s₂) →
      AuthSound service ops target Q (f permission) ((s₁, .selectPermission asked) :: past) s₂) :
    AuthSound service ops target Q (getUserPermission asked >>= f) past s := by
  refine (getUserPermission_sound hdistinct asked).bind ?_ ?_
  · rintro permission past' s₂ ⟨⟨s₁, rfl, hs₂⟩, hread⟩
    refine hf permission s₁ s₂ hs₂ ?_
    rcases hread with h | ⟨-, hseen⟩
    · exact .inl (Except.ok.inj h)
    · exact .inr hseen
  · rintro e past' s₂ ⟨-, h | ⟨⟨row, h⟩, -⟩⟩
    · cases h
    · cases h

/-- **The uncached resolution decides.** -/
theorem checkResourceAccessUncached_sound (hdistinct : DistinctKeys service ops) :
    AuthSound service ops target (Decided service ops target request s)
      (service.checkResourceAccessUncached request) past s := by
  rw [AuthorizationService.checkResourceAccessUncached]
  cases huser : service.surroundings.activeUser request.userId with
  | none =>
    have hbase : service.base request = Surroundings.userNotFound request :=
      Surroundings.resolve_of_notFound huser
    exact sound_ret fun _ _ _ => ⟨_, rfl, .inl hbase.symm⟩
  | some userInfo =>
    refine sound_getUserPermission hdistinct fun first s₁ s₂ hs₂ hfirst => ?_
    split
    · next response hresponse =>
        refine sound_ret fun s₃ hs₃ _ => ⟨_, rfl, ?_⟩
        rcases hfirst with rfl | hseen
        · exact .inl (Surroundings.resolve_of_some huser hresponse).symm
        · exact .inr (hseen.mono (Later.refl s) (Subset.refl _) hs₃)
    · next hnone =>
        refine sound_getUserPermission hdistinct fun second s₃ s₄ hs₄ hsecond => ?_
        refine sound_ret fun s₅ hs₅ _ => ⟨_, rfl, ?_⟩
        rcases hfirst with rfl | hseen
        · rcases hsecond with rfl | ⟨e, he, hstart, hnow, hrow⟩
          · exact .inl (Surroundings.resolve_of_none huser hnone).symm
          · exact .inr ⟨e, he, Later.trans hs₂ hstart, Later.trans hnow hs₅, hrow⟩
        · exact .inr (hseen.mono (Later.refl s) (subset_cons_self _ _) (Later.trans hs₄ hs₅))

/-- A check that has started in a clean store returns the decision without a permission, if
nothing has been granted since. -/
def Answers (service : AuthorizationService) (ops : ι → Operation) (target : Target)
    (request : ResourceAccessRequest) (start : Store) (r : Except StoreError ResourceAccessResponse)
    (_ : AuthPast) (now : Store) : Prop :=
  ∀ response, r = .ok response → request.target = target →
    now.count target = start.count target →
    CleanExcept service ops target (fun _ => False) start → response = service.base request

theorem Decided.answers {r : Except StoreError ResourceAccessResponse}
    (h : Decided service ops target request start r past s) :
    Answers service ops target request start r past s := by
  rintro response hr rfl hcount hclean
  obtain ⟨_, rfl, hbase | hseen⟩ := h
  · exact (Except.ok.inj hr).symm.trans hbase
  · exact absurd hcount (hseen.count_ne hclean)

theorem cacheGet_sound (hdistinct : DistinctKeys service ops) (key : PyStr) :
    AuthSound service ops target (fun r _ s₂ => ∃ cached, r = .ok cached ∧ ∃ s₁,
        Later service ops target s s₁ ∧ Later service ops target s₁ s₂ ∧
          ∀ response, cached = some response → s₁.cache.lookup (fullKey key) = some response)
      (cacheGet key) past s := by
  refine Sound.tryCatch (Q := fun r _ s₂ => ∃ s₁, Later service ops target s s₁ ∧
      Later service ops target s₁ s₂ ∧ ∀ response, r = .ok (some response) →
        s₁.cache.lookup (fullKey key) = some response) ?_ ?_ ?_
  · rw [← bind_ret (ask _)]
    refine sound_ask hdistinct trivial (fun s₁ cached s₂ hs₁ hrun hs₂ => ?_) ?_
    · refine sound_ret fun s₃ hs₃ _ => ⟨s₁, hs₁, Later.trans hs₂ hs₃, fun response hr => ?_⟩
      obtain rfl := Except.ok.inj hr
      obtain ⟨pick, hserve⟩ := Redis.handle_ok hrun
      exact congrArg Prod.fst hserve
    · exact fun e s₁ s₂ hs₁ hs₂ => ⟨s₁, hs₁, hs₂, fun _ h => nomatch h⟩
  · rintro cached past' s₂ ⟨s₁, hs₁, hs₂, h⟩
    exact ⟨cached, rfl, s₁, hs₁, hs₂, fun response hr => h response (congrArg _ hr)⟩
  · rintro e past' s₂ ⟨s₁, hs₁, hs₂, -⟩
    exact sound_ret fun s₃ hs₃ _ =>
      ⟨none, rfl, s₁, hs₁, Later.trans hs₂ hs₃, fun _ h => nomatch h⟩

theorem cacheSet_sound (hdistinct : DistinctKeys service ops) {key : PyStr}
    {response : ResourceAccessResponse}
    (hdecides : Decides service ops past (.set (fullKey key) response)) :
    AuthSound service ops target
      (fun r past' s' => r = .ok () ∧ past ⊆ past' ∧ Later service ops target s s')
      (cacheSet key response) past s := by
  refine Sound.tryCatch (Q := fun _ past' s' => past ⊆ past' ∧ Later service ops target s s')
    ?_ (fun _ _ _ h => ⟨rfl, h⟩) ?_
  · rw [← bind_ret (ask _)]
    refine sound_ask hdistinct hdecides (fun s₁ _ s₂ hs₁ _ hs₂ => ?_) fun e s₁ s₂ hs₁ hs₂ => ?_
    · exact sound_ret fun s₃ hs₃ _ => ⟨subset_cons_self _ _, hs₁.trans (hs₂.trans hs₃)⟩
    · exact ⟨subset_cons_self _ _, hs₁.trans hs₂⟩
  · rintro e past' s₂ ⟨hpast, hs₂⟩
    exact sound_ret fun s₃ hs₃ _ => ⟨rfl, hpast, hs₂.trans hs₃⟩

/-- **What `check_resource_access` promises**: what it stores it has decided, and what it returns
is cached or decided. -/
theorem checkResourceAccess_sound (hdistinct : DistinctKeys service ops) {i : ι}
    (hi : ops i = .check request) :
    AuthSound service ops target (Answers service ops target request s)
      (service.checkResourceAccess request) past s := by
  rw [AuthorizationService.checkResourceAccess]
  cases hkey : service.permissionCacheKey request with
  | none =>
    exact (checkResourceAccessUncached_sound hdistinct).mono fun _ _ _ h => h.answers
  | some key =>
    refine (cacheGet_sound hdistinct key).bind ?_ fun e _ _ ⟨_, h, _⟩ => nomatch h
    rintro cached past₁ s₂ ⟨_, ⟨⟩, s₁, hs₁, hs₂, hcached⟩
    cases cached with
    | some response =>
      refine sound_ret fun s₃ hs₃ _ => ?_
      rintro _ ⟨⟩ rfl hcount hclean
      have hlater := Later.trans hs₂ hs₃
      have hfirst := hs₁.1
      have hsecond := hlater.1
      have hclean₁ := hs₁.2 (by omega) _ hclean
      have hof : IsKeyOf service ops request.target request (fullKey key) :=
        ⟨⟨i, hi⟩, rfl, key, hkey, rfl⟩
      exact (hclean₁.2 request _ response hof (hcached response rfl)).resolve_right id
    | none =>
      refine (checkResourceAccessUncached_sound hdistinct).bind ?_
        fun _ _ _ ⟨_, h, _⟩ => nomatch h
      rintro response past₂ s₃ hdecided
      replace hdecided := hdecided.mono (hs₁.trans hs₂) (Subset.refl _) (Later.refl s₃)
      split
      · refine (cacheSet_sound hdistinct (hdecided.decides ⟨⟨i, hi⟩, rfl, key, hkey, rfl⟩)).bind
          ?_ fun e _ _ ⟨h, _⟩ => nomatch h
        rintro _ past₃ s₄ ⟨-, hpast, hs₄⟩
        exact sound_ret fun s₅ hs₅ _ =>
          (hdecided.mono (Later.refl s) hpast (hs₄.trans hs₅)).answers
      · exact sound_ret fun s₄ hs₄ _ =>
          (hdecided.mono (Later.refl s) (Subset.refl _) hs₄).answers

end Sound

end IsaUser.Authorization
