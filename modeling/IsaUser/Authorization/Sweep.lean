import IsaUser.Authorization.Cache

/-!
# Revocations

A revocation updates the permissions about its target in one statement. From then on nothing is
active until the next grant, and the deletion of the cached decisions, batch by batch and key by
key, leaves fewer and fewer that may rest on a permission: when it ends without an error, the
store is clean.
-/

open IsaUser.Prog

namespace IsaUser.Authorization

open AuthorizationService

variable {ι : Type*}

def PatternsMatch (service : AuthorizationService) (ops : ι → Operation) : Prop :=
  ∀ i j target request key, ops i = .revoke target → ops j = .check request →
    request.target = target → service.permissionCacheKey request = some key →
    service.redis.glob (userPattern target.userId) (fullKey key)

section Sweeps

variable {service : AuthorizationService} {ops : ι → Operation} {s s' s₀ : Store}
  {target : Target} {request : ResourceAccessRequest} {P : PyStr → Prop} {past : AuthPast}

/-- Since the only update of the revocation, in the state `s₀`, the store is clean except for the
keys that `P` allows, if nothing has been granted. -/
def Sweeping (service : AuthorizationService) (ops : ι → Operation) (target : Target) (s₀ : Store)
    (P : PyStr → Prop) (past : AuthPast) (s : Store) : Prop :=
  (∀ s₁, (s₁, Call.revokePermission target) ∈ past → s₁ = s₀) ∧ s₀.count target ≤ s.count target ∧
    (s.count target = s₀.count target → CleanExcept service ops target P s)

theorem Sweeping.of_later (h : Sweeping service ops target s₀ P past s)
    (hs : Later service ops target s s') : Sweeping service ops target s₀ P past s' := by
  obtain ⟨honly, hcount, hclean⟩ := h
  have hmore := hs.1
  exact ⟨honly, by omega, fun hsame => hs.2 (by omega) P (hclean (by omega))⟩

theorem Sweeping.mono {P' : PyStr → Prop} (h : Sweeping service ops target s₀ P past s)
    (hP : ∀ request key, IsKeyOf service ops target request key → P key → P' key) :
    Sweeping service ops target s₀ P' past s :=
  ⟨h.1, h.2.1, fun hsame => (h.2.2 hsame).mono hP⟩

theorem Sweeping.step {P' : PyStr → Prop} {c : Call} (h : Sweeping service ops target s₀ P past s)
    (hc : ∀ t, c ≠ .revokePermission t) (hs : Later service ops target s s')
    (hclean : CleanExcept service ops target P s → CleanExcept service ops target P' s') :
    Sweeping service ops target s₀ P' ((s, c) :: past) s' := by
  obtain ⟨honly, hcount, hswept⟩ := h
  have hmore := hs.1
  refine ⟨fun s₁ hs₁ => ?_, by omega, fun hsame => hclean (hswept (by omega))⟩
  rcases List.mem_cons.mp hs₁ with h | h
  · exact absurd (congrArg Prod.snd h).symm (hc target)
  · exact honly s₁ h

theorem clean_delete {key : PyStr}
    (h : CleanExcept service ops target (fun k => P k ∨ k = key) s) :
    CleanExcept service ops target P { s with cache := s.cache.erase key } := by
  refine ⟨h.1, fun request key' response hkey hlookup => ?_⟩
  rcases eq_or_ne key' key with rfl | hne
  · simp at hlookup
  · rw [AList.lookup_erase_ne hne] at hlookup
    rcases h.2 request key' response hkey hlookup with hbase | hP | heq
    · exact .inl hbase
    · exact .inr hP
    · exact absurd heq hne

theorem deleteKeys_sound (hdistinct : DistinctKeys service ops) (keys : List PyStr)
    (h : Sweeping service ops target s₀ (fun key => P key ∨ key ∈ keys) past s) :
    AuthSound service ops target
      (fun r past' s' => r = .ok () → Sweeping service ops target s₀ P past' s')
      (deleteKeys keys) past s := by
  induction keys generalizing past s with
  | nil =>
    refine sound_ret fun s' hs _ _ => (h.of_later hs).mono fun _ key _ hP => ?_
    exact hP.resolve_right List.not_mem_nil
  | cons key keys ih =>
    refine sound_ask hdistinct trivial (fun s₁ _ s₂ hs₁ hrun hs₂ => ih ?_)
      fun _ _ _ _ _ h => nomatch h
    obtain ⟨pick, hserve⟩ := Redis.handle_ok hrun
    obtain rfl := congrArg Prod.snd hserve
    refine (h.of_later hs₁).step (fun _ => nofun) hs₂ fun hclean => clean_delete ?_
    refine hclean.mono fun _ k _ hP => ?_
    rcases hP with hP | hk
    · exact .inl (.inl hP)
    · rcases List.mem_cons.mp hk with rfl | hk
      · exact .inr rfl
      · exact .inl (.inr hk)

theorem clean_scan {pattern : PyStr} {batch : ℕ} {batches : List ℕ}
    (hpattern : ∀ request key, IsKeyOf service ops target request key →
      service.redis.glob pattern key)
    (h : CleanExcept service ops target (fun key => service.redis.batch key ∈ batch :: batches) s) :
    CleanExcept service ops target (fun key => service.redis.batch key ∈ batches ∨
      key ∈ s.cache.keys.filter fun key =>
        service.redis.batch key = batch ∧ service.redis.glob pattern key) s := by
  refine ⟨h.1, fun request key response hkey hlookup => ?_⟩
  rcases h.2 request key response hkey hlookup with hbase | hbatch
  · exact .inl hbase
  · right
    rcases List.mem_cons.mp hbatch with hthis | hlater
    · right
      have hmem : key ∈ s.cache :=
        AList.lookup_isSome.mp (Option.isSome_iff_exists.mpr ⟨response, hlookup⟩)
      rw [List.mem_filter]
      exact ⟨AList.mem_keys.mp hmem, decide_eq_true ⟨hthis, hpattern request key hkey⟩⟩
    · exact .inl hlater

theorem deleteBatches_sound (hdistinct : DistinctKeys service ops) {pattern : PyStr}
    (hpattern : ∀ request key, IsKeyOf service ops target request key →
      service.redis.glob pattern key) (batches : List ℕ)
    (h : Sweeping service ops target s₀ (fun key => service.redis.batch key ∈ batches) past s) :
    AuthSound service ops target
      (fun r past' s' => r = .ok () → Sweeping service ops target s₀ (fun _ => False) past' s')
      (deleteBatches pattern batches) past s := by
  induction batches generalizing past s with
  | nil =>
    exact sound_ret fun s' hs _ _ => (h.of_later hs).mono fun _ _ _ => List.not_mem_nil
  | cons batch batches ih =>
    refine sound_ask hdistinct trivial (fun s₁ keys s₂ hs₁ hrun hs₂ => ?_)
      fun _ _ _ _ _ h => nomatch h
    obtain ⟨pick, hserve⟩ := Redis.handle_ok hrun
    obtain rfl := congrArg Prod.fst hserve
    obtain rfl := congrArg Prod.snd hserve
    have hscan : ∀ t, Call.scan pattern batch ≠ .revokePermission t := fun _ => nofun
    have hfound := (h.of_later hs₁).step hscan hs₂ (clean_scan hpattern)
    refine (deleteKeys_sound hdistinct _ hfound).bind ?_ ?_
    · exact fun _ past' s' hswept => ih (hswept rfl)
    · exact fun _ _ _ _ h => by cases h

theorem invalidatePermissionCache_sound (hdistinct : DistinctKeys service ops)
    (hpattern : PatternsMatch service ops) {j : ι} (hj : ops j = .revoke target)
    (h : Sweeping service ops target s₀ (fun _ => True) past s) :
    AuthSound service ops target
      (fun r past' s' => r = .ok () → Sweeping service ops target s₀ (fun _ => False) past' s')
      (service.invalidatePermissionCache target.userId) past s := by
  rw [invalidatePermissionCache]
  split
  · next huser =>
      refine sound_ret fun s' hs _ _ => (h.of_later hs).mono fun request key hkey _ => ?_
      -- A request of this user has no key.
      obtain ⟨-, rfl, k, hk, -⟩ := hkey
      exact (permissionCacheKey_eq_some hk).1 huser
  · have hmatch : ∀ request key, IsKeyOf service ops target request key → 
        service.redis.glob (userPattern target.userId) key := by
      rintro request _ ⟨⟨i, hi⟩, htarget, k, hk, rfl⟩
      exact hpattern j i target request k hj hi htarget hk
    refine (deleteBatches_sound hdistinct hmatch (List.range service.redis.batches) ?_).tryCatch
      (fun _ _ _ h => h) fun _ _ _ _ => sound_raise fun _ _ _ h => nomatch h
    exact h.mono fun _ key _ _ => List.mem_range.mpr (service.redis.batch_lt key)

/-- **What `revoke_resource_permission` promises**: if it returns `True`, the store is clean. -/
theorem revokeResourcePermission_sound (hdistinct : DistinctKeys service ops)
    (hpattern : PatternsMatch service ops) {j : ι} (hj : ops j = .revoke target) :
    AuthSound service ops target
      (fun r past s => r = .ok true → ∃ s₀, Sweeping service ops target s₀ (fun _ => False) past s)
      (service.revokeResourcePermission target) [] s := by
  refine sound_getUserPermission hdistinct fun _ s₁ s₂ _ _ => ?_
  refine Sound.bind (Q := fun r past s => r = .ok true →
    ∃ s₀, Sweeping service ops target s₀ (fun _ => True) past s) ?_ ?_ fun _ _ _ _ h => nomatch h
  · refine Sound.tryCatch (Q := fun r past s => r = .ok true →
      ∃ s₀, Sweeping service ops target s₀ (fun _ => True) past s) ?_ (fun _ _ _ h => h)
      fun _ _ _ _ => sound_ret fun _ _ _ h => nomatch h
    refine sound_ask hdistinct trivial (fun s₃ count s₄ hs₃ hrun hs₄ => ?_)
      fun _ _ _ _ _ h => nomatch h
    obtain ⟨pick, hserve⟩ := Redis.handle_ok hrun
    obtain rfl := congrArg Prod.snd hserve
    have hupdated : Sweeping service ops target s₃ (fun _ => True)
        [(s₃, .revokePermission target), (s₁, .selectPermission target)] (s₃.revoke target) := by
      refine ⟨fun s hs => ?_, (count_revoke s₃ target target).ge, fun _ => ?_⟩
      · simpa using hs
      · exact ⟨active_revoke_self s₃ target, fun _ _ _ _ _ => .inr trivial⟩
    exact sound_ret fun s₅ hs₅ _ _ => ⟨s₃, hupdated.of_later hs₅⟩
  · rintro revoked past s hswept
    cases revoked with
    | false => exact sound_ret fun _ _ _ h => nomatch h
    | true =>
      obtain ⟨s₀, hswept⟩ := hswept rfl
      refine Sound.tryCatch (Q := fun r past s => r = .ok true →
        ∃ s₀, Sweeping service ops target s₀ (fun _ => False) past s) ?_ (fun _ _ _ h => h)
        fun _ _ _ _ => sound_ret fun _ _ _ h => nomatch h
      refine (invalidatePermissionCache_sound hdistinct hpattern hj hswept).bind ?_
        fun _ _ _ _ h => nomatch h
      exact fun _ past s h => sound_ret fun s' hs' _ _ => ⟨s₀, (h rfl).of_later hs'⟩

end Sweeps

end IsaUser.Authorization
