import IsaUser.Auth.ApiKeys

/-!
# What a Key Is Checked For

A key is valid only if it is stored, active and unexpired. Its project and its addresses restrict
the requests that name a project and an address: a request that leaves them out is not restricted.
-/

open List Option

namespace IsaUser.Auth.ApiKeys

open KeyData

variable {libraries : Libraries}

/-! ### The checks -/

def Live (hash : PyStr) (key : KeyData) : Prop :=
  IsText key "key_hash" hash ∧ isActive key = true
  deriving Decidable

def Unexpired (libraries : Libraries) (key : KeyData) (past : ApiKeyPast) : Prop :=
  ∀ value ∈ truthy? key "expires_at", ∃ expiresAt ∈ parseDatetime libraries value,
    ∃ e ∈ past, e.2 = .now ∧ e.1.clock ≤ expiresAt

def InProject (key : KeyData) (projectId : Option PyStr) : Prop :=
  (truthy? key "project_id").isSome →
    ∃ project ∈ projectId, IsText key "project_id" project

def Covers (libraries : Libraries) (entry : Json) (ip : PyStr) : Prop :=
  entry = .str ip ∨ ∃ address ∈ libraries.ipAddress ip, ∃ network ∈ libraries.ipNetwork entry,
    libraries.contains network address = true

def FromAllowed (libraries : Libraries) (key : KeyData) (ipAddress : Option PyStr) : Prop :=
  asList (JsonDict.get? key "ip_allowlist") ≠ [] →
    ∃ ip ∈ ipAddress, ∃ entry ∈ asList (JsonDict.get? key "ip_allowlist"), Covers libraries entry ip

/-! ### What is found -/

section Found

variable {hash : PyStr} {key : KeyData} {keys before after : List KeyData}

theorem findActive_some (h : findActive hash keys = some (before, key, after)) :
    keys = before ++ key :: after ∧ Live hash key := by
  induction keys generalizing before with
  | nil => cases h
  | cons first keys ih =>
    rw [findActive] at h
    split at h
    · next hlive =>
        obtain ⟨rfl, rfl, rfl⟩ := h
        exact ⟨rfl, hlive⟩
    · obtain ⟨⟨before', found⟩, hfound, heq⟩ := map_eq_some_iff.mp h
      obtain ⟨rfl, rfl⟩ := Prod.mk.inj heq
      obtain ⟨rfl, hlive⟩ := ih hfound
      exact ⟨rfl, hlive⟩

theorem findRow_some {rows : List OrganizationRow} {organizationId : PyStr}
    (h : findRow hash rows = some (organizationId, before, key, after)) :
    (organizationId, before ++ key :: after) ∈ rows ∧ Live hash key := by
  induction rows with
  | nil => cases h
  | cons row rows ih =>
    rw [findRow] at h
    split at h
    · next found hfound =>
        obtain ⟨rfl, rfl⟩ := Prod.mk.inj (some.inj h)
        obtain ⟨hkeys, hlive⟩ := findActive_some hfound
        rw [← hkeys]
        exact ⟨mem_cons_self, hlive⟩
    · obtain ⟨hmem, hlive⟩ := ih h
      exact ⟨mem_cons_of_mem _ hmem, hlive⟩

theorem mem_rows {store : ApiKeyStore} {order : List PyStr} {row : OrganizationRow}
    (h : row ∈ order.filterMap fun id => (store.organizations id).map (id, ·)) :
    store.organizations row.1 = some row.2 := by
  obtain ⟨id, -, hid⟩ := mem_filterMap.mp h
  obtain ⟨keys, hkeys, rfl⟩ := map_eq_some_iff.mp hid
  exact hkeys

theorem mem_order {store : ApiKeyStore} {order : List PyStr} {row : OrganizationRow}
    (h : row ∈ order.filterMap fun id => (store.organizations id).map (id, ·)) :
    row.1 ∈ order := by
  obtain ⟨id, hid, heq⟩ := mem_filterMap.mp h
  obtain ⟨_, _, rfl⟩ := map_eq_some_iff.mp heq
  exact hid

end Found

/-! ### What is checked -/

section Checked

variable {key : KeyData} {metadata : ApiKeyMetadata} {projectId ipAddress : Option PyStr}
  {past : ApiKeyPast} {m : Clocked ApiKeyStore}

theorem entryMatches_covers {ip : PyStr} {entry : Json}
    (h : entryMatches libraries ip entry = true) : Covers libraries entry ip := by
  rcases Bool.or_eq_true_iff.mp h with h | h
  · cases entry with
    | str s => exact .inl (congrArg Json.str (of_decide_eq_true h))
    | null | bool | int | float | list | dict => cases h
  · split at h
    · next address network haddress hnetwork => exact .inr ⟨address, haddress, network, hnetwork, h⟩
    · cases h

theorem metadata_eq (h : buildApiKeyMetadata libraries key = some metadata) :
    metadata.projectId = JsonDict.get? key "project_id" ∧
      metadata.ipAllowlist = asList (JsonDict.get? key "ip_allowlist") := by
  obtain ⟨ownerType, -, rfl⟩ := map_eq_some_iff.mp h
  exact ⟨rfl, rfl⟩

theorem inProject_of_violated (hmetadata : buildApiKeyMetadata libraries key = some metadata)
    (h : violated libraries projectId ipAddress metadata = none)
    (hgiven : (given projectId).isSome) : InProject key projectId := by
  intro hproject
  obtain ⟨project, hgiven⟩ := isSome_iff_exists.mp hgiven
  obtain ⟨value, hvalue⟩ := isSome_iff_exists.mp hproject
  obtain ⟨hstored, htruthy⟩ := filter_eq_some_iff.mp hvalue
  have hscoped : notScoped project metadata = false := by
    rw [violated, hgiven] at h
    split at h
    · cases h
    · next hnone => exact Bool.eq_false_iff.mpr (filter_eq_none_iff.mp hnone project rfl)
  refine ⟨project, (filter_eq_some_iff.mp hgiven).1, ?_⟩
  rw [notScoped, (metadata_eq hmetadata).1, hstored] at hscoped
  rw [IsText, hstored]
  cases value with
  | str s =>
    have hne : s ≠ [] := of_decide_eq_true htruthy
    simpa [hne] using hscoped
  | null => cases htruthy
  | bool | int | float | list | dict => exact absurd htruthy (Bool.eq_false_iff.mp hscoped)

theorem fromAllowed_of_violated (hmetadata : buildApiKeyMetadata libraries key = some metadata)
    (h : violated libraries projectId ipAddress metadata = none)
    (hgiven : (given ipAddress).isSome) : FromAllowed libraries key ipAddress := by
  intro hlist
  obtain ⟨ip, hgiven⟩ := isSome_iff_exists.mp hgiven
  refine ⟨ip, (filter_eq_some_iff.mp hgiven).1, ?_⟩
  rw [← (metadata_eq hmetadata).2] at hlist ⊢
  have hmatches : ipMatchesAllowlist libraries ip metadata.ipAllowlist = true := by
    rw [violated, hgiven] at h
    split at h
    · cases h
    · split at h
      · cases h
      · next hnone =>
          have hnot := filter_eq_none_iff.mp hnone ip rfl
          simpa [hlist] using hnot
  obtain ⟨entry, hentry, hmatches⟩ := any_eq_true.mp hmatches
  exact ⟨entry, hentry, entryMatches_covers hmatches⟩

abbrev anyTerms : Terms (Clocked ApiKeyStore) := Terms.ofInv fun _ => True

abbrev Ends {α : Type} (Q : Except ApiKeyError α → ApiKeyPast → Prop) (p : ApiKeyM α)
    (past : ApiKeyPast) (m : Clocked ApiKeyStore) : Prop :=
  p.Sound anyTerms handle (fun _ _ _ => True) (fun _ _ _ => True) (fun r past _ => Q r past) past m

theorem Ends.bind {α β : Type} {p : ApiKeyM α} {f : α → ApiKeyM β}
    {Q : Except ApiKeyError α → ApiKeyPast → Prop} {Q' : Except ApiKeyError β → ApiKeyPast → Prop}
    (hp : Ends Q p past m) (hok : ∀ a past m, Q (.ok a) past → Ends Q' (f a) past m)
    (herror : ∀ e past, Q (.error e) past → Q' (.error e) past) : Ends Q' (p >>= f) past m :=
  Prog.Sound.bind hp hok fun e past _ => herror e past

theorem ends_subset {α : Type} (p : ApiKeyM α) :
    Ends (fun _ past' => past ⊆ past') p past m :=
  (Prog.only_of_forall (P := fun _ => True) p fun _ => trivial).sound
    (K := fun past' => past ⊆ past') (fun _ h => h)
    fun _ _ _ _ h => ⟨trivial, fun _ he => mem_cons_of_mem _ (h he)⟩

theorem Unexpired.mono {past' : ApiKeyPast} (h : Unexpired libraries key past)
    (hpast : past ⊆ past') : Unexpired libraries key past' := by
  intro value hvalue
  obtain ⟨t, ht, e, he, hle⟩ := h value hvalue
  exact ⟨t, ht, e, hpast he, hle⟩

theorem hasExpired_ends : Ends (fun r past' => r = .ok false → Unexpired libraries key past')
    (hasExpired libraries key) past m := by
  rw [hasExpired]
  split
  · next hnone =>
      intro _ _ _ _ value hvalue
      rw [hnone] at hvalue
      cases hvalue
  · next value hvalue =>
      split
      · exact fun _ _ _ => nofun
      · next expiresAt hexpires =>
          intro m' _ _
          refine ⟨trivial, fun _ _ _ _ hend value' hvalue' => ?_⟩
          rw [hvalue] at hvalue'
          obtain rfl := some.inj hvalue'
          have hle : ¬expiresAt < m'.clock := of_decide_eq_false (Except.ok.inj hend)
          exact ⟨expiresAt, hexpires, _, mem_cons_self, rfl, not_lt.mp hle⟩

structure Checked (libraries : Libraries) (projectId ipAddress : Option PyStr) (key : KeyData)
    (past : ApiKeyPast) : Prop where
  unexpired : Unexpired libraries key past
  project : (given projectId).isSome → InProject key projectId
  address : (given ipAddress).isSome → FromAllowed libraries key ipAddress

theorem checkKey_ends {organizationId : PyStr} {before after : List KeyData} :
    Ends (fun r past' => ∀ valid, r = .ok (.ok valid) →
        valid.organizationId = organizationId ∧
          Checked libraries projectId ipAddress key past')
      (checkKey libraries projectId ipAddress (organizationId, before, key, after)) past m := by
  rw [checkKey]
  split
  · exact fun _ _ _ => nofun
  · next metadata hmetadata =>
      split
      · exact fun _ _ _ => nofun
      · next hviolated =>
          refine Ends.bind hasExpired_ends (fun expired past' m' hexpired => ?_) fun _ _ _ => nofun
          split
          · exact fun _ _ _ => nofun
          · next hnot =>
              have hunexpired := hexpired (congrArg Except.ok (Bool.eq_false_iff.mpr hnot))
              refine Ends.bind (ends_subset now) (fun time past₁ m₁ hnow => ?_) fun _ _ _ => nofun
              refine Ends.bind (ends_subset _) (fun _ past₂ m₂ hask => ?_) fun _ _ _ => nofun
              intro _ _ _ valid hvalid
              obtain rfl := Except.ok.inj (Except.ok.inj hvalid)
              exact ⟨rfl, hunexpired.mono fun _ he => hask (hnow he),
                inProject_of_violated hmetadata hviolated,
                fromAllowed_of_violated hmetadata hviolated⟩

def Found (libraries : Libraries) (apiKey : PyStr) (projectId ipAddress : Option PyStr)
    (order : List PyStr) (valid : ValidKey) (past : ApiKeyPast) : Prop :=
  ∃ m, (m, .call (.selectAll order)) ∈ past ∧
    ∃ keys ∈ m.store.organizations valid.organizationId, ∃ key ∈ keys,
      Live (libraries.hash apiKey) key ∧ Checked libraries projectId ipAddress key past

theorem validateApiKey_ends {apiKey : PyStr} {order : List PyStr} :
    Ends (fun r past' => ∀ valid, r = .ok (.ok valid) →
        Found libraries apiKey projectId ipAddress order valid past')
      (validateApiKey libraries apiKey projectId ipAddress order) past m := by
  refine Prog.Sound.tryCatch (Q := fun r past' _ => ∀ valid, r = .ok (.ok valid) →
    Found libraries apiKey projectId ipAddress order valid past') ?_ (fun _ _ _ h => h)
    fun _ _ _ _ _ _ _ _ h => by cases h
  intro m' _ _
  refine ⟨trivial, fun _ => ?_⟩
  have hread : ∀ found, findRow (libraries.hash apiKey)
      (order.filterMap fun id => (m'.store.organizations id).map (id, ·)) = some found →
      ∀ m'', Ends (fun r past' => ∀ valid, r = .ok (.ok valid) →
          Found libraries apiKey projectId ipAddress order valid past')
        (checkKey libraries projectId ipAddress found)
        ((m', .call (.selectAll order)) :: past) m'' := by
    rintro ⟨organizationId, before, key, after⟩ hfound m''
    obtain ⟨hrow, hlive⟩ := findRow_some hfound
    refine (checkKey_ends.and (ends_subset _)).mono fun r past' _ h valid hvalid => ?_
    obtain ⟨hend, hsubset⟩ := h
    obtain ⟨rfl, hchecked⟩ := hend valid hvalid
    exact ⟨m', hsubset mem_cons_self, _, mem_rows hrow, key, by simp, hlive, hchecked⟩
  obtain ⟨store, clock, link⟩ := m'
  cases link with
  | up =>
    simp only [Prog.bind, handle, Clocked.handle, Link.pass, execute]
    split
    · exact fun _ _ _ _ h => by cases h
    · next found hfound => exact hread found hfound _
  | down => exact fun _ _ _ _ h => by cases h
  | lost => exact fun _ _ _ _ h => by cases h

end Checked

/-! ### Runs -/

/-- **What a valid key is checked for.** It was read from the list of its organization, has the
hash, is active, and had not expired. A request that names a project names the project of the key,
and one that names an address is from its allow list. -/
theorem validateApiKey_checks (libraries : Libraries) {ι : Type*} [DecidableEq ι]
    (requests : ι → Request) (m : Clocked ApiKeyStore) (pool : ApiKeyPool ι)
    (hpool : ApiKeyRun (fun _ _ _ _ => True) (ApiKeyPool.start libraries requests m) pool) (i : ι)
    (apiKey : PyStr) (projectId ipAddress : Option PyStr) (order : List PyStr)
    (hi : requests i = .validate apiKey projectId ipAddress order) (valid : ValidKey)
    (hvalid : pool.progs i = .ret (.validated (.ok valid))) :
    Found libraries apiKey projectId ipAddress order valid (pool.past i) := by
  have hsound : Pool.AllSound anyTerms handle (fun _ _ _ _ => True) (fun _ _ _ _ => True)
      (fun j r past _ => j = i → ∀ valid, r = .ok (.validated (.ok valid)) →
        Found libraries apiKey projectId ipAddress order valid past) pool := by
    refine hpool.sound ⟨trivial, fun j => ?_⟩ (fun _ _ _ _ h => h)
      (fun _ _ _ _ _ _ _ => ⟨trivial, trivial⟩) fun _ _ _ _ => ⟨trivial, trivial⟩
    rcases eq_or_ne j i with rfl | hne
    · change Prog.Sound _ _ _ _ _ ((requests j).serve libraries) _ _
      rw [hi]
      refine Prog.Sound.bind validateApiKey_ends (fun result past _ h => ?_) fun _ _ _ _ _ => nofun
      intro _ _ _ _ valid hvalid
      obtain rfl := Response.validated.inj (Except.ok.inj hvalid)
      exact h valid rfl
    · exact (ends_subset _).mono fun _ _ _ _ hj => absurd hj hne
  exact hsound.of_ret hvalid rfl valid rfl

/-! ### A request without a project -/

def plainLibraries : Libraries where
  hash := id
  fromIsoFormat _ := none
  isoFormat _ := []
  loads _ := none
  Address := Unit
  Network := Unit
  ipAddress _ := none
  ipNetwork _ := none
  contains _ _ := false

def projectKey : KeyData :=
  [("key_id", .str ['k']), ("key_hash", .str ['a']), ("is_active", .bool true),
    ("project_id", .str ['p']), ("ip_allowlist", .list [.str ['x']])]

def oneKey : Clocked ApiKeyStore where
  store :=
    { organizations := fun id => if id = ['o'] then some [projectKey] else none
      seen := fun _ => [['k']] }
  clock := 0
  link := .up

def present (projectId ipAddress : Option PyStr) : Fin 1 → Request :=
  fun _ => .validate ['a'] projectId ipAddress [['o']]

def presented (projectId ipAddress : Option PyStr) : ApiKeyPool (Fin 1) :=
  (ApiKeyPool.start plainLibraries (present projectId ipAddress) oneKey).schedule handle [0, 0, 0]

def validProjectKey : ValidKey where
  organizationId := ['o']
  key := touch plainLibraries projectKey 0
  metadata :=
    { projectId := some (.str ['p'])
      ownerType := "organization".toList
      serviceAccountId := none
      scopes := []
      ipAllowlist := [.str ['x']]
      rateLimits := []
      spendLimit := none
      createdBy := none
      expiresAt := none }

theorem validateApiKey_checks_presented :
    Found plainLibraries ['a'] (some ['p']) (some ['x']) [['o']] validProjectKey
      ((presented (some ['p']) (some ['x'])).past 0) :=
  validateApiKey_checks plainLibraries (present (some ['p']) (some ['x'])) oneKey
    (presented (some ['p']) (some ['x'])) (Pool.Reach.start.schedule (Pool.permitted_anyCall _ _ _))
    0 ['a'] (some ['p']) (some ['x']) [['o']] rfl validProjectKey rfl

/-- A key of a project with an allow list is valid for a request that names neither a project nor
an address: the restrictions are skipped. -/
theorem not_validateApiKey_restricts :
    (presented none none).progs 0 = .ret (.validated (.ok validProjectKey)) ∧
      ∀ keys ∈ oneKey.store.organizations ['o'], ∀ key ∈ keys, Live ['a'] key →
        ¬InProject key none ∧ ¬FromAllowed plainLibraries key none := by
  refine ⟨rfl, fun keys hkeys key hkey _ => ?_⟩
  obtain rfl := some.inj hkeys
  obtain rfl := mem_singleton.mp hkey
  constructor
  · intro hproject
    obtain ⟨project, hnone, -⟩ := hproject rfl
    cases hnone
  · intro hallowed
    obtain ⟨ip, hnone, -⟩ := hallowed nofun
    cases hnone

end IsaUser.Auth.ApiKeys
