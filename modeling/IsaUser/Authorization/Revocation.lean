import IsaUser.Authorization.Sweep

/-!
# Revocation through the Cache

Any number of checks, grants and revocations work on one store, while entries of the cache expire
and calls fail. A revocation deactivates the permissions about a user and a resource, and then
deletes the decisions about the user that all replicas share. A check that has read a permission
before the revocation may store its decision after the deletion, where it stays for ten minutes.
And the user id is part of the pattern of the deletion, so a user id with a bracket has a pattern
that does not match its own keys.
-/

open IsaUser.Prog

namespace IsaUser.Authorization

open AuthorizationService Pool

variable {ι : Type*}

/-! ### The law -/

def Expires (s s' : Store) : Prop :=
  s'.permissions = s.permissions ∧
    ∀ key response, s'.cache.lookup key = some response → s.cache.lookup key = some response

def NoGrantSince (past : AuthPast) (target : Target) (s : Store) : Prop :=
  ∃ s₀, (s₀, Call.revokePermission target) ∈ past ∧ s.count target = s₀.count target

/-- **The law**, for calls that all meet `A`: when a revocation has returned, and nothing has
been granted since, the calls of `check_resource_access` that start afterwards return what the
resolution without the cache does. -/
def RevocationEffective (A : ι → (ι → AuthPast) → Store → Call → Prop) [DecidableEq ι]
    (service : AuthorizationService) (ops : ι → Operation) (s : Store) : Prop :=
  ∀ (pool₁ pool₂ : Pool (StoreApi.fallible StoreError) StoreError Outcome ι Store) (i j : ι)
    (target : Target) (request : ResourceAccessRequest) (response : ResourceAccessResponse),
    Reach service.redis.handle Expires A
      (start s fun i => service.program (ops i)) pool₁ →
    ops j = .revoke target → pool₁.progs j = .ret (.done true) →
    ops i = .check request → request.target = target → pool₁.past i = [] →
    Reach service.redis.handle Expires A pool₁ pool₂ →
    pool₂.progs i = .ret (.decision response) →
    NoGrantSince (pool₂.past j) target pool₂.state →
      ((service.checkResourceAccessUncached request).run service.redis.handle pool₂.state).1
        = .ok response

section Proofs

variable {service : AuthorizationService} {ops : ι → Operation} {s s' : Store}
  {target : Target} {request : ResourceAccessRequest}

theorem rel_expires (h : Expires s s') : Later service ops target s s' := by
  have hcount : s'.count target = s.count target := by rw [count_eq, count_eq, h.1]
  refine ⟨hcount.ge, fun _ P hclean => hclean.of_less (fun hrevoked => ?_) h.2⟩
  rw [Store.Revoked, Store.active, h.1]
  exact hrevoked

/-! ### All programs together -/

def Call.StoresNothing : Call → Prop
  | set _ _ => False
  | _ => True

theorem ask_storesNothing {c : Call} (hc : c.StoresNothing) : (ask c).Only Call.StoresNothing :=
  only_query (I := StoreApi) hc

theorem storesNothing_ask {α : Type} {c : Call} {f : StoreApi.Reply c → AuthM α}
    {g : StoreError → AuthM α} (hc : c.StoresNothing)
    (hf : ∀ r, (f r).Only Call.StoresNothing) (hg : ∀ e, (g e).Only Call.StoresNothing) :
    ((ask c >>= f).tryCatch g).Only Call.StoresNothing :=
  Only.tryCatch (Only.bind (ask_storesNothing hc) hf) hg

theorem getUserPermission_storesNothing (asked : Target) :
    (getUserPermission asked).Only Call.StoresNothing :=
  storesNothing_ask trivial (fun _ => trivial) fun _ => trivial

theorem deleteKeys_storesNothing (keys : List PyStr) :
    (deleteKeys keys).Only Call.StoresNothing := by
  induction keys with
  | nil => trivial
  | cons key keys ih => exact Only.bind (ask_storesNothing trivial) fun _ => ih

theorem deleteBatches_storesNothing (pattern : PyStr) (batches : List ℕ) :
    (deleteBatches pattern batches).Only Call.StoresNothing := by
  induction batches with
  | nil => trivial
  | cons batch batches ih =>
    exact Only.bind (ask_storesNothing trivial) fun keys =>
      (deleteKeys_storesNothing keys).bind fun _ => ih

theorem invalidatePermissionCache_storesNothing (userId : PyStr) :
    (service.invalidatePermissionCache userId).Only Call.StoresNothing := by
  rw [invalidatePermissionCache]
  split
  · trivial
  · exact (deleteBatches_storesNothing _ _).tryCatch fun _ => trivial

theorem grantResourcePermission_storesNothing (now : Timestamp)
    (request : GrantPermissionRequest) :
    (service.grantResourcePermission now request).Only Call.StoresNothing := by
  rw [grantResourcePermission]
  split
  · trivial
  · split
    · trivial
    · refine Only.bind (storesNothing_ask trivial (fun count => ?_) fun _ => trivial) ?_
      · split
        · exact getUserPermission_storesNothing _
        · trivial
      · rintro (_ | permission)
        · trivial
        · exact Only.bind ((invalidatePermissionCache_storesNothing _).tryCatch
            fun _ => trivial) fun _ => trivial

theorem revokeResourcePermission_storesNothing (asked : Target) :
    (service.revokeResourcePermission asked).Only Call.StoresNothing := by
  refine (getUserPermission_storesNothing asked).bind fun _ => Only.bind ?_ ?_
  · exact storesNothing_ask trivial (fun _ => trivial) fun _ => trivial
  · rintro (_ | _)
    · trivial
    · exact Only.tryCatch (Only.bind (invalidatePermissionCache_storesNothing _)
        fun _ => trivial) fun _ => trivial

theorem sound_of_storesNothing {α : Type} {p : AuthM α} (hp : p.Only Call.StoresNothing) :
    AuthSound service ops target (fun _ _ _ => True) p [] s := by
  refine hp.sound (K := fun _ => True) trivial fun c hc past s _ => ⟨?_, trivial⟩
  cases c with
  | set key response => exact hc.elim
  | _ => trivial

/-- What a program that has started in `start` has done about the target when it ends. -/
def Fulfils (service : AuthorizationService) (ops : ι → Operation) (target : Target)
    (start : Store) (i : ι) (r : Except StoreError Outcome) (past : AuthPast) (s : Store) : Prop :=
  (ops i = .revoke target → r = .ok (.done true) →
    ∃ s₀, Sweeping service ops target s₀ (fun _ => False) past s) ∧
  ∀ request response, ops i = .check request → r = .ok (.decision response) →
    request.target = target → s.count target = start.count target →
    CleanExcept service ops target (fun _ => False) start → response = service.base request

theorem fulfils_of_storesNothing {p : AuthM Outcome} {i : ι} (hp : p.Only Call.StoresNothing)
    (hrevoke : ops i ≠ .revoke target) (hcheck : ∀ request, ops i ≠ .check request) :
    AuthSound service ops target (Fulfils service ops target s i) p [] s :=
  (sound_of_storesNothing hp).mono fun _ _ _ _ =>
    ⟨fun h => absurd h hrevoke, fun request _ h => absurd h (hcheck request)⟩

/-- **Every program fulfils its part.** -/
theorem program_sound (hdistinct : DistinctKeys service ops) (hpattern : PatternsMatch service ops)
    (i : ι) : AuthSound service ops target (Fulfils service ops target s i)
      (service.program (ops i)) [] s := by
  cases hi : ops i with
  | check request =>
    have hfulfils : ∀ r past s', (∀ response, r = .ok (.decision response) →
        Answers service ops target request s (.ok response) past s') →
        Fulfils service ops target s i r past s' := by
      intro r past s' h
      refine ⟨fun h' => absurd (hi.symm.trans h') nofun, fun request' response hi' hr => ?_⟩
      obtain rfl := Operation.check.inj (hi.symm.trans hi')
      exact h response hr response rfl
    refine ((checkResourceAccess_sound hdistinct hi).later fun past s c _ hfresh hdecides =>
      rel_handle hdistinct hdecides hfresh).bind ?_ ?_
    · rintro response past s' ⟨h, hs'⟩
      refine sound_ret fun s'' hs'' _ => hfulfils _ _ _ ?_
      rintro _ ⟨⟩ _ ⟨⟩ htarget hcount hclean
      have hfirst := hs'.1
      have hsecond := hs''.1
      exact h response rfl htarget (by omega) hclean
    · exact fun e past s' _ => hfulfils _ _ _ fun _ h => nomatch h
  | grant now request =>
    refine fulfils_of_storesNothing ?_ (by rw [hi]; nofun) (by rw [hi]; nofun)
    exact (grantResourcePermission_storesNothing now request).bind fun _ => trivial
  | revoke asked =>
    rcases eq_or_ne asked target with rfl | hne
    · refine (revokeResourcePermission_sound hdistinct hpattern hi).bind ?_ ?_
      · refine fun success past s' h => sound_ret fun s'' hs'' _ => ?_
        refine ⟨fun _ hr => ?_, fun _ _ hcheck => absurd (hi.symm.trans hcheck) nofun⟩
        obtain rfl : success = true := by simpa using hr
        exact (h rfl).imp fun _ hswept => hswept.of_later hs''
      · exact fun e past s' _ => ⟨fun _ hr => absurd hr nofun, fun _ _ _ hr => absurd hr nofun⟩
    · refine fulfils_of_storesNothing ?_ (by rw [hi]; simpa using hne) (by rw [hi]; nofun)
      exact (revokeResourcePermission_storesNothing asked).bind fun _ => trivial

theorem getUserPermission_revoked {asked : Target} (h : s.Revoked asked) (redis : Redis) :
    (getUserPermission asked).wp redis.handle
      (fun r s' => r = .ok none ∧ s'.Revoked asked) s := by
  have hstill : (redis.handle (.selectPermission asked) s).2.Revoked asked :=
    Link.send_snd (P := fun s' : Store => s'.Revoked asked) h h
  refine wp_tryCatch.mpr (wp_bind.mpr (wp_query.mpr ?_))
  cases hreply : (redis.handle (.selectPermission asked) s).1 with
  | error e => exact ⟨rfl, hstill⟩
  | ok row =>
    obtain ⟨pick, hserve⟩ := Redis.handle_ok (Prod.ext hreply rfl)
    obtain rfl := congrArg Prod.fst hserve
    have hnone : ((s.active asked).rotate pick).head? = none := by
      rw [h]
      rfl
    exact ⟨congrArg (fun row => Except.ok (row.map readRecord)) hnone, hstill⟩

theorem checkResourceAccessUncached_revoked (h : s.Revoked request.target) :
    ((service.checkResourceAccessUncached request).run service.redis.handle s).1 =
      .ok (service.base request) := by
  change (service.checkResourceAccessUncached request).wp service.redis.handle
    (fun r _ => r = .ok (service.base request)) s
  rw [checkResourceAccessUncached]
  cases huser : service.surroundings.activeUser request.userId with
  | none => exact congrArg Except.ok (Surroundings.resolve_of_notFound huser).symm
  | some userInfo =>
    refine wp_bind.mpr (wp_mono (getUserPermission_revoked h _) ?_)
    rintro _ s₁ ⟨rfl, h₁⟩
    dsimp only
    split
    · next response hresponse =>
        exact congrArg Except.ok (Surroundings.resolve_of_some huser hresponse).symm
    · next hnone =>
        refine wp_bind.mpr (wp_mono (getUserPermission_revoked h₁ _) ?_)
        rintro _ s₂ ⟨rfl, -⟩
        exact congrArg Except.ok (Surroundings.resolve_of_none huser hnone).symm

variable [DecidableEq ι]

/-- **If decisions are stored while what they rest on is active, and every pattern matches the
keys of its user, revocation is effective through the cache.** -/
theorem effective_of_fresh (hdistinct : DistinctKeys service ops)
    (hpattern : PatternsMatch service ops) (s : Store) :
    RevocationEffective (fun i past => StoredFresh service.redis (past i)) service ops s := by
  intro pool₁ pool₂ i j target request response hreach₁ hj hrevoked hi htarget hnew hreach₂
    hanswer hnoGrant
  have hkeeps : ∀ (k : ι) past s c, (authTerms service ops target).inv s →
      StoredFresh service.redis past s c → Decides service ops past c →
      (authTerms service ops target).inv (service.redis.handle c s).2 ∧
        Later service ops target s (service.redis.handle c s).2 :=
    fun _ _ _ _ _ hfresh hdecides => ⟨trivial, rel_handle hdistinct hdecides hfresh⟩
  have henv : ∀ s s', (authTerms service ops target).inv s → Expires s s' →
      (authTerms service ops target).inv s' ∧ Later service ops target s s' :=
    fun _ _ _ h => ⟨trivial, rel_expires h⟩
  -- Up to the return of the revocation.
  have hfirst := hreach₁.sound (L := fun _ => StoredFresh service.redis)
    ⟨trivial, program_sound hdistinct hpattern⟩ (fun _ _ _ _ h => h) hkeeps henv
  obtain ⟨s₀, hswept⟩ := (hfirst.of_ret hrevoked).1 hj rfl
  -- From there to the answer of the check.
  have hsecond := hreach₂.sound (L := fun _ => StoredFresh service.redis)
    (Q := fun k r past s => k = i → Fulfils service ops target pool₁.state i r past s ∧
      Later service ops target pool₁.state s)
    ⟨trivial, fun k => ?_⟩ (fun _ _ _ _ h => h) hkeeps henv
  · obtain ⟨hfulfils, hlater⟩ := hsecond.of_ret hanswer rfl
    obtain ⟨s₁, hs₁, hcount⟩ := hnoGrant
    rw [(hreach₂.past_of_ret hrevoked).2] at hs₁
    obtain rfl := hswept.1 s₁ hs₁
    have hmore := hswept.2.1
    have hmore₂ := hlater.1
    have hclean := hswept.2.2 (by omega)
    have hbase := hfulfils.2 request response hi rfl htarget (by omega) hclean
    have hstill := (hlater.2 (by omega) _ hclean).1
    rw [hbase]
    exact checkResourceAccessUncached_revoked (htarget ▸ hstill)
  · rcases eq_or_ne k i with rfl | hne
    · rw [hreach₁.progs_of_past_nil hnew, hnew]
      refine ((program_sound hdistinct hpattern k).later fun past s c _ hfresh hdecides =>
        rel_handle hdistinct hdecides hfresh).mono fun r past s h _ => h
    · exact (hfirst.2 k).mono fun _ _ _ _ h => absurd h hne

end Proofs

/-! ### A check that is overtaken by a revocation -/

def grantedStore : Store where
  permissions := ⟨[⟨plainRequest.target, .readOnly, .adminGrant, none, true⟩]⟩
  cache := ∅
  weather _ := {}

def racedOps (i : Fin 3) : Operation :=
  if i = 1 then .revoke plainRequest.target else .check plainRequest

def racedPool (order : List (Fin 3)) :
    Pool (StoreApi.fallible StoreError) StoreError Outcome (Fin 3) Store :=
  (start grantedStore fun i => plainService.program (racedOps i)).schedule
    plainRedis.handle order

/-- When the first check ends before the revocation, all is well. -/
theorem revocationEffective_inTurn :
    RevocationEffective (fun i past => StoredFresh plainRedis (past i)) plainService racedOps
        grantedStore ∧
      Pool.Permitted plainRedis.handle (fun i past => StoredFresh plainRedis (past i))
        [0, 0, 0, 1, 1, 1, 1, 2, 2, 2, 2]
        (Pool.start grantedStore fun i => plainService.program (racedOps i)) := by
  have hcheck : ∀ i request, racedOps i = .check request → request = plainRequest := by
    intro i request hi
    rw [racedOps] at hi
    split at hi
    · cases hi
    · exact (Operation.check.inj hi).symm
  have hrevoke : ∀ i target, racedOps i = .revoke target → target = plainRequest.target := by
    intro i target hi
    rw [racedOps] at hi
    split at hi
    · exact (Operation.revoke.inj hi).symm
    · cases hi
  refine ⟨effective_of_fresh ?_ ?_ grantedStore, by decide +kernel⟩
  · intro i j request request' key hi hj _ _
    rw [hcheck i request hi, hcheck j request' hj]
  · intro i j target request key hi hj _ hkey
    obtain rfl := hrevoke i target hi
    obtain rfl := hcheck j request hj
    obtain rfl := Option.some.inj hkey
    decide +kernel

/-- **The stale allow**: the first check reads the permission, then it is revoked and the
decisions about the user are deleted, and then the first check stores its own. The second check
starts after that and is answered by it. -/
theorem not_revocationEffective_overtaken :
    ¬RevocationEffective Pool.anyCall plainService racedOps grantedStore := by
  intro h
  have hreach (order : List (Fin 3))
      (pool : Pool (StoreApi.fallible StoreError) StoreError Outcome (Fin 3) Store) :
      Reach plainRedis.handle Expires anyCall pool
        (pool.schedule plainRedis.handle order) :=
    Reach.start.schedule (permitted_anyCall _ order pool)
  have hbefore : (racedPool [0, 0, 1, 1, 1, 0]).progs 1 = .ret (.done true) := rfl
  have hanswer : (racedPool [0, 0, 1, 1, 1, 0, 2]).progs 2 = .ret (.decision
      (plainService.surroundings.resolve plainRequest
        (some ⟨0, ⟨plainRequest.target, .readOnly, .adminGrant, none, none, none, true⟩⟩) none)) :=
    rfl
  have hnoGrant : NoGrantSince ((racedPool [0, 0, 1, 1, 1, 0, 2]).past 1) plainRequest.target
      (racedPool [0, 0, 1, 1, 1, 0, 2]).state :=
    ⟨(racedPool [0, 0, 1]).state, List.mem_cons_of_mem _ List.mem_cons_self, rfl⟩
  have huncached := h _ _ 2 1 plainRequest.target plainRequest _ (hreach [0, 0, 1, 1, 1, 0] _) rfl
    hbefore rfl rfl rfl (hreach [2] _) hanswer hnoGrant
  have hsame := congrArg (Except.map ResourceAccessResponse.hasAccess) huncached
  exact absurd hsame (by decide +kernel)

end IsaUser.Authorization
