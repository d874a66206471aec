import IsaUser.Vault.Model

/-!
# Access to Secrets

A secret is reached by its owner, or by a share that is active and not expired. The level is that
of the first such share that is found, and a secret is deleted by the flag that updates may set.
-/

open IsaUser.Prog List Option

namespace IsaUser.Vault

open VaultItem

/-! ### The law -/

def Request.user : Request → Option PyStr
  | create userId _ _ _ => some userId
  | get _ userId _ => some userId
  | update _ userId _ _ => some userId
  | rotate _ userId _ _ => some userId
  | delete _ userId => some userId
  | share _ ownerUserId _ _ => some ownerUserId
  | revoke _ => none

def Request.isActive : Request → Option Bool
  | update _ _ r _ => r.isActive
  | _ => none

section Law

variable {ι : Type*} (requests : ι → Request) (pool : VaultPool ι)

def Shared (vaultId userId : PyStr) (level : PermissionLevel → Prop) (past : VaultPast) : Prop :=
  ∃ e ∈ past, ∃ e' ∈ past, e.2 = .call (.selectShares vaultId) ∧ e'.2 = .now ∧
    ∃ share ∈ sharesAt vaultId e.1, share.LiveFor userId e'.1.clock ∧ level share.permissionLevel

/-- All calls of a request are answered, and find a share to its user to write that is active and
not expired. -/
structure MayWrite (vaultId userId : PyStr) (past : VaultPast) : Prop where
  up : ∀ e ∈ past, e.1.link = .up
  share : ∃ share : VaultShare, share.vaultId = vaultId ∧ share.isActive = true ∧
    share.permissionLevel = .readWrite ∧
      ∀ e ∈ past, share ∈ e.1.store.shares ∧ share.LiveFor userId e.1.clock

def GetsShared : Prop :=
  ∀ i vaultId userId decrypt value item, requests i = .get vaultId userId decrypt →
    pool.progs i = .ret (.secret value item) → item.userId = userId ∨
      Shared vaultId userId (fun _ => True) (pool.past i)

/-- Nobody but its owner updates a secret without a share to write. -/
def UpdatesShared : Prop :=
  ∀ i vaultId userId r drawn item, requests i = .update vaultId userId r drawn →
    pool.progs i = .ret (.updated item) → item.userId = userId ∨
      Shared vaultId userId (· = .readWrite) (pool.past i)

def WritersAllowed : Prop :=
  ∀ i vaultId userId r drawn, requests i = .update vaultId userId r drawn →
    pool.progs i = .ret (.refused .accessDenied) → ¬MayWrite vaultId userId (pool.past i)

def Revives (vaultId : PyStr) (item : VaultItem) (e : Clocked VaultStore × Timed Call) : Prop :=
  item ∈ e.1.store.items vaultId ∧ item.deleted = true ∧
    ∃ item' ∈ (handle e.2 e.1).2.store.items vaultId, item'.isActive = true

/-- Nobody but its owner makes a deleted secret active. -/
def StaysDeleted : Prop :=
  ∀ i, ∀ e ∈ pool.past i, ∀ vaultId item, Revives vaultId item e →
    (requests i).user = some item.userId

/-! ### The condition -/

def sharesBy (vaultId : PyStr) : Clocked VaultStore × Timed Call → Option (List VaultShare)
  | (m, .call (.selectShares id)) => if id = vaultId then some (sharesAt vaultId m) else none
  | _ => none

def lastShares (vaultId : PyStr) (past : VaultPast) : List VaultShare :=
  (past.findSome? (sharesBy vaultId)).getD []

def WriteFirst (shares : List VaultShare) (userId : PyStr) (now : Timestamp) : Prop :=
  ∀ share ∈ shares, share.LiveFor userId now → share.permissionLevel = .readWrite →
    ∀ first ∈ shares.find? (fun share => share.LiveFor userId now),
      first.permissionLevel = .readWrite

instance (shares : List VaultShare) (userId : PyStr) (now : Timestamp) :
    Decidable (WriteFirst shares userId now) :=
  inferInstanceAs (Decidable (∀ share ∈ shares, _))

/-- A request to update finds a share to write before one to read, and does not make a deleted
secret active unless it is its owner's. -/
def Respectful (request : Request) (past : VaultPast) (m : Clocked VaultStore) : Timed Call → Prop
  | .now =>
    match request with
    | .update vaultId userId _ _ => WriteFirst (lastShares vaultId past) userId m.clock
    | _ => True
  | .call (.updateItem vaultId _) => request.isActive = some true →
      ∀ item ∈ m.store.items vaultId, item.deleted = true → request.user = some item.userId
  | _ => True

instance (request : Request) (past : VaultPast) (m : Clocked VaultStore) :
    DecidablePred (Respectful request past m)
  | .now => by
    cases request with
    | update vaultId userId r drawn =>
      exact inferInstanceAs (Decidable (WriteFirst (lastShares vaultId past) userId m.clock))
    | _ => exact .isTrue trivial
  | .call (.updateItem vaultId _) => inferInstanceAs (Decidable (request.isActive = some true →
      ∀ item ∈ m.store.items vaultId, item.deleted = true → request.user = some item.userId))
  | .call (.insertItem ..) | .call (.deleteItem _) | .call (.insertShare _)
  | .call (.selectItem _) | .call (.selectShares _) | .call (.revokeShare _) => .isTrue trivial

end Law

/-! ### What a call leaves -/

section Calls

variable {request : Request} {past : VaultPast} {m m' : Clocked VaultStore}
  {vaultId userId : PyStr} {item : VaultItem} {item' : VaultItem}

def VaultItem.SameOwner (item item' : VaultItem) : Prop := item'.userId = item.userId

def VaultItem.Consistent (item : VaultItem) : Prop := item.deleted = true → item.isActive = false

/-- Deleted secrets are inactive, and secrets keep their owners. -/
def ownership : Terms (Clocked VaultStore) :=
  itemTerms Consistent SameOwner (fun _ => rfl) fun _ _ _ h h' => h'.trans h

/-- What a request promises of its calls: a secret is inserted as it is created, and an update
sets the flag of the request. -/
def Keeps (request : Request) : Timed Call → Prop
  | .call (.insertItem _ item) => item.Consistent
  | .call (.updateItem _ data) => data.isActive = request.isActive
  | _ => True

theorem consistent_update {data : UpdateData} (h : item.Consistent) :
    (item.update data).Consistent := by
  intro hdeleted
  have hkept : item.deleted = true ∧ data.isActive ≠ some true := by
    simpa [update] using hdeleted
  have hinactive := h hkept.1
  rw [update]
  cases hflag : data.isActive with
  | none => exact hinactive
  | some flag =>
    cases flag with
    | false => rfl
    | true => exact absurd hflag hkept.2

theorem handle_ownership {c : Timed Call} (hi : ownership.inv m) (hc : Keeps request c) :
    ownership.inv (handle c m).2 ∧ ownership.rel m (handle c m).2 := by
  refine handle_keeps (P := Consistent) (R := SameOwner) (fun _ => rfl) hi ?_
    ?_ fun item _ => ⟨fun _ => rfl, rfl⟩
  · rintro vaultId item rfl
    exact hc
  · rintro vaultId data rfl _ item hitem
    exact ⟨consistent_update (hi vaultId item hitem), rfl⟩

theorem mem_execute {c : Call} (hsame : item' ∉ m.store.items vaultId)
    (h : item' ∈ (handle (.call c) m).2.store.items vaultId) :
    m.link ≠ .down ∧ item' ∈ (execute c m.store).2.items vaultId := by
  change item' ∈ (m.link.pass VaultError.unavailable (execute c m.store) m.store).2.items
    vaultId at h
  cases hm : m.link with
  | down =>
    rw [hm] at h
    exact absurd h hsame
  | up =>
    rw [hm] at h
    exact ⟨nofun, h⟩
  | lost =>
    rw [hm] at h
    exact ⟨nofun, h⟩

theorem not_mem_of_active {s : VaultStore} (hitem : item ∈ s.items vaultId)
    (hinactive : item.isActive = false) (hactive : item'.isActive = true) :
    item' ∉ s.items vaultId := by
  intro hmem
  rw [mem_unique hmem hitem, hinactive] at hactive
  cases hactive

theorem updates_of_activates {c : Call} {s : VaultStore} (hitem : item ∈ s.items vaultId)
    (hinactive : item.isActive = false) (hitem' : item' ∈ (execute c s).2.items vaultId)
    (hactive : item'.isActive = true) :
    ∃ data, c = .updateItem vaultId data ∧ data.isActive = some true := by
  have hsame := not_mem_of_active hitem hinactive hactive
  cases c with
  | insertItem id item₀ =>
    rw [execute] at hitem'
    split at hitem'
    · exact absurd hitem' hsame
    · next hnone =>
        have hne : vaultId ≠ id := by
          rintro rfl
          exact hnone (by rw [hitem]; rfl)
        rw [s.items_insertItem_of_ne item₀ hne] at hitem'
        exact absurd hitem' hsame
  | updateItem id data =>
    change item' ∈ (s.modifyItem id (·.update data)).items vaultId at hitem'
    rcases eq_or_ne vaultId id with rfl | hne
    · refine ⟨data, rfl, ?_⟩
      rw [s.items_modifyItem, hitem] at hitem'
      obtain rfl := some.inj hitem'
      change data.isActive.getD item.isActive = true at hactive
      cases hflag : data.isActive with
      | none =>
        rw [hflag, hinactive] at hactive
        cases hactive
      | some flag =>
        rw [hflag, getD_some] at hactive
        rw [hactive]
    · rw [s.items_modifyItem_of_ne _ hne] at hitem'
      exact absurd hitem' hsame
  | deleteItem id =>
    change item' ∈ (s.modifyItem id .delete).items vaultId at hitem'
    rcases eq_or_ne vaultId id with rfl | hne
    · rw [s.items_modifyItem, hitem] at hitem'
      obtain rfl := some.inj hitem'
      cases hactive
    · rw [s.items_modifyItem_of_ne _ hne] at hitem'
      exact absurd hitem' hsame
  | selectItem id => exact absurd hitem' hsame
  | selectShares id => exact absurd hitem' hsame
  | revokeShare id => exact absurd hitem' hsame
  | insertShare share =>
    rw [execute] at hitem'
    split at hitem'
    · exact absurd hitem' hsame
    · split at hitem' <;> exact absurd hitem' hsame

theorem flag_of_revives {c : Timed Call} (hi : ownership.inv m) (hc : Keeps request c)
    (h : Revives vaultId item (m, c)) :
    m.link ≠ .down ∧ (∃ data, c = .call (.updateItem vaultId data)) ∧
      request.isActive = some true := by
  obtain ⟨hitem, hdeleted, item', hitem', hactive⟩ := h
  have hinactive := hi vaultId item hitem hdeleted
  have hsame := not_mem_of_active hitem hinactive hactive
  cases c with
  | now => exact absurd hitem' hsame
  | call c =>
    obtain ⟨hlink, hexecuted⟩ := mem_execute hsame hitem'
    obtain ⟨data, rfl, hflag⟩ := updates_of_activates hitem hinactive hexecuted hactive
    exact ⟨hlink, ⟨data, rfl⟩, hc.symm.trans hflag⟩

end Calls

/-! ### The programs -/

section Programs

variable {service : VaultService} {request : Request} {past : VaultPast} {m m' : Clocked VaultStore}
  {vaultId userId : PyStr} {item : VaultItem} {level : PermissionLevel → Prop}
  {A : VaultPast → Clocked VaultStore → Timed Call → Prop} {r : UpdateRequest}

/-- A program under interference, which ends as `Q` says. -/
abbrev AccessSound {α : Type} (request : Request)
    (A : VaultPast → Clocked VaultStore → Timed Call → Prop)
    (Q : Except VaultError α → VaultPast → Clocked VaultStore → Prop) (p : VaultM α) :
    VaultPast → Clocked VaultStore → Prop :=
  p.Sound ownership handle A (fun _ _ c => Keeps request c) Q

def Allowed (vaultId userId : PyStr) (level : PermissionLevel → Prop) (past : VaultPast)
    (m : Clocked VaultStore) : Prop :=
  (∃ item ∈ m.store.items vaultId, item.userId = userId) ∨ Shared vaultId userId level past

theorem Shared.cons (h : Shared vaultId userId level past) (e : Clocked VaultStore × Timed Call) :
    Shared vaultId userId level (e :: past) := by
  obtain ⟨e₁, he₁, e₂, he₂, h⟩ := h
  exact ⟨e₁, mem_cons_of_mem _ he₁, e₂, mem_cons_of_mem _ he₂, h⟩

theorem Shared.mono {level' : PermissionLevel → Prop} (h : Shared vaultId userId level past)
    (hlevel : ∀ l, level l → level' l) : Shared vaultId userId level' past := by
  obtain ⟨e₁, he₁, e₂, he₂, hcall, hnow, share, hshare, hlive, hl⟩ := h
  exact ⟨e₁, he₁, e₂, he₂, hcall, hnow, share, hshare, hlive, hlevel _ hl⟩

theorem Allowed.later (h : Allowed vaultId userId level past m) (hm' : ownership.rel m m') :
    Allowed vaultId userId level past m' := by
  rcases h with ⟨item, hitem, huser⟩ | h
  · obtain ⟨item', hitem', huser'⟩ := hm' vaultId item hitem
    exact .inl ⟨item', hitem', huser'.trans huser⟩
  · exact .inr h

theorem Allowed.cons (h : Allowed vaultId userId level past m)
    (e : Clocked VaultStore × Timed Call) : Allowed vaultId userId level (e :: past) m :=
  h.imp_right fun h => h.cons e

theorem Allowed.read (h : Allowed vaultId userId level past m)
    (hread : itemAt vaultId m = some item) :
    item.userId = userId ∨ Shared vaultId userId level past := by
  refine h.imp_left ?_
  rintro ⟨item', hitem', huser⟩
  rwa [mem_unique (mem_of_itemAt hread) hitem']

theorem sound_allowed {α : Type} {p : VaultM α} (hp : p.Only (Keeps request))
    (h : Allowed vaultId userId level past m) :
    AccessSound request A (fun _ past m => Allowed vaultId userId level past m) p past m :=
  hp.sound_state h (fun _ _ _ hm' h => h.later hm') fun c hc _ m hi h =>
    ⟨hc, (h.later (handle_ownership hi hc).2).cons (m, c)⟩

theorem keeps_of_free {c : Timed Call} (h : Call.Free c) : Keeps request c := by
  cases c with
  | now => trivial
  | call c => cases c with
    | insertItem vaultId item => exact h.elim
    | updateItem vaultId data => exact h.elim
    | _ => trivial

theorem checkUserAccess_allowed :
    AccessSound request A (fun r past m => ∀ access, r = .ok (some access) →
      (access = .owner → ∃ item ∈ m.store.items vaultId, item.userId = userId) ∧
        ∀ l, access = .shared l → Shared vaultId userId (· = l) past)
      (checkUserAccess vaultId userId) past m := by
  refine sound_getVaultItem fun m₁ _ _ => ⟨trivial, fun _ => ?_⟩
  split
  · next howner =>
      rintro m' hm' _ _ ⟨⟩
      refine ⟨fun _ => ?_, nofun⟩
      cases hread : itemAt vaultId m₁ with
      | none =>
        rw [hread] at howner
        cases howner
      | some item =>
        rw [hread] at howner
        obtain ⟨item', hitem', huser⟩ := hm' vaultId item (mem_of_itemAt hread)
        exact ⟨item', hitem', huser.trans (some.inj howner)⟩
  · refine sound_getSharesForVault fun m₂ _ _ => ⟨trivial, fun _ => ?_⟩
    refine sound_now fun m₃ _ _ => ⟨trivial, ?_⟩
    intro m' _ _ access haccess
    obtain ⟨share, hfind, rfl⟩ := map_eq_some_iff.mp (Except.ok.inj haccess)
    have hlive := find?_some (p := fun share : VaultShare => share.LiveFor userId m₃.clock)
      hfind
    refine ⟨nofun, ?_⟩
    rintro l ⟨⟩
    exact ⟨_, mem_cons_of_mem _ mem_cons_self, _, mem_cons_self, rfl, rfl, share,
      mem_of_find?_eq_some hfind, of_decide_eq_true hlive, rfl⟩

theorem getSecret_allowed {decrypt : Bool} :
    AccessSound request A (fun r past _ => ∀ value item, r = .ok (.secret value item) →
      item.userId = userId ∨ Shared vaultId userId (fun _ => True) past)
      (getSecret service vaultId userId decrypt) past m := by
  refine Sound.tryCatch (Q := fun r past _ => ∀ value item, r = .ok (.secret value item) →
    item.userId = userId ∨ Shared vaultId userId (fun _ => True) past) ?_ (fun _ _ _ h => h)
    fun _ _ _ _ _ _ _ _ _ => nofun
  refine Sound.bind checkUserAccess_allowed ?_ fun _ _ _ _ _ _ => nofun
  intro access past m haccess
  cases access with
  | none => exact fun _ _ _ _ _ => nofun
  | some access =>
    have hallowed : Allowed vaultId userId (fun _ => True) past m := by
      obtain ⟨howner, hshared⟩ := haccess access rfl
      cases access with
      | owner => exact .inl (howner rfl)
      | shared l => exact .inr ((hshared l rfl).mono fun _ _ => trivial)
    refine sound_getVaultItem fun m₁ hm₁ _ => ⟨trivial, fun _ => ?_⟩
    cases hread : itemAt vaultId m₁ with
    | none => exact fun _ _ _ _ _ => nofun
    | some item =>
      have hitem := ((hallowed.later hm₁).cons (m₁, .call (.selectItem vaultId))).read hread
      have hrevealed : ∀ value item', reveal service item decrypt = .secret value item' →
          item' = item := by
        intro value item' h
        rw [reveal] at h
        split at h
        · split at h
          · cases h
          · cases h
            rfl
        · cases h
          rfl
      dsimp only
      split
      · exact fun _ _ _ _ _ => nofun
      · split
        · intro m' _ _ value item' h
          rw [hrevealed value item' (Except.ok.inj h)]
          exact hitem
        · split
          · exact fun _ _ _ _ _ => nofun
          · refine sound_now fun m₂ _ _ => ⟨trivial, ?_⟩
            split
            · exact fun _ _ _ _ _ => nofun
            · intro m' _ _ value item' h
              rw [hrevealed value item' (Except.ok.inj h)]
              exact hitem.imp_right fun h => h.cons _

theorem withValue_flag {secretValue : Option PyStr} {drawn : PyStr} {data : UpdateData} :
    (withValue service vaultId secretValue drawn data).Obeys (Keeps request)
      fun r => ∀ data', r = .ok data' → data'.isActive = data.isActive := by
  rw [withValue]
  split
  · rintro _ ⟨⟩
    rfl
  · refine Obeys.bind (Q := fun _ => True)
      (getVaultItem_free.mono fun _ => keeps_of_free).obeys ?_ fun _ _ _ => nofun
    intro item _
    cases item with
    | none =>
      intro data' h
      cases h
    | some item =>
      rintro _ ⟨⟩
      rfl

theorem writeUpdate_allowed {data : UpdateData} (hflag : data.isActive = request.isActive)
    (h : Allowed vaultId userId level past m) :
    AccessSound request A (fun r past _ => r ≠ .ok (.refused .accessDenied) ∧
      ∀ item, r = .ok (.updated item) → item.userId = userId ∨ Shared vaultId userId level past)
      (writeUpdate vaultId data) past m := by
  refine Sound.bind (sound_allowed (found_only (only_query (I := VaultApi.timed) hflag)) h)
    ?_ fun _ _ _ _ => ⟨nofun, fun _ => nofun⟩
  intro success past m h
  cases success with
  | false => exact fun _ _ _ => ⟨nofun, fun _ => nofun⟩
  | true =>
    refine sound_getVaultItem fun m₁ hm₁ _ => ⟨trivial, fun _ => ?_⟩
    cases hread : itemAt vaultId m₁ with
    | none => exact fun _ _ _ => ⟨nofun, fun _ => nofun⟩
    | some item =>
      refine fun _ _ _ => ⟨nofun, ?_⟩
      rintro _ ⟨⟩
      exact ((h.later hm₁).cons (m₁, .call (.selectItem vaultId))).read hread

theorem update_allowed {drawn : PyStr} (hflag : r.isActive = request.isActive)
    (h : Allowed vaultId userId level past m) :
    AccessSound request A (fun r past _ => r ≠ .ok (.refused .accessDenied) ∧
      ∀ item, r = .ok (.updated item) → item.userId = userId ∨ Shared vaultId userId level past)
      (do
        let metadata ← mergedMetadata vaultId r.metadata
        let data ← withValue service vaultId r.secretValue drawn { r.data with metadata }
        writeUpdate vaultId data) past m := by
  refine Sound.bind (sound_allowed (mergedMetadata_free.mono fun _ => keeps_of_free) h) ?_
    fun _ _ _ _ => ⟨nofun, fun _ => nofun⟩
  intro metadata past m h
  have hvalue := @withValue_flag service request vaultId r.secretValue drawn
  refine Sound.bind ((sound_allowed hvalue.only h).and
    (hvalue.sound fun _ hc _ _ => hc)) ?_ fun _ _ _ _ => ⟨nofun, fun _ => nofun⟩
  exact fun data past m hdata => writeUpdate_allowed ((hdata.2 data rfl).trans hflag) hdata.1

theorem updateSecret_allowed {drawn : PyStr} (hflag : r.isActive = request.isActive) :
    AccessSound request A (fun r past _ => ∀ item, r = .ok (.updated item) →
      item.userId = userId ∨ Shared vaultId userId (· = .readWrite) past)
      (updateSecret service vaultId userId r drawn) past m := by
  refine Sound.tryCatch (Q := fun r past _ => ∀ item, r = .ok (.updated item) →
    item.userId = userId ∨ Shared vaultId userId (· = .readWrite) past) ?_ (fun _ _ _ h => h)
    fun _ _ _ _ _ _ _ _ => nofun
  refine Sound.bind checkUserAccess_allowed ?_ fun _ _ _ _ _ => nofun
  intro access past m haccess
  split
  · next hwrites =>
      have hallowed : Allowed vaultId userId (· = .readWrite) past m := by
        cases access with
        | none => exact hwrites.elim
        | some access =>
          obtain ⟨howner, hshared⟩ := haccess access rfl
          cases access with
          | owner => exact .inl (howner rfl)
          | shared l =>
            obtain rfl : l = .readWrite := hwrites
            exact .inr (hshared _ rfl)
      exact (update_allowed hflag hallowed).mono fun _ _ _ h => h.2
  · exact fun _ _ _ _ => nofun

theorem checkUserAccess_writes {drawn : PyStr}
    (hrequest : request = .update vaultId userId r drawn) :
    AccessSound request (Respectful request) (fun result past _ => ∀ access, result = .ok access →
      MayWrite vaultId userId past → Access.Writes access)
      (checkUserAccess vaultId userId) past m := by
  subst hrequest
  refine sound_getVaultItem fun m₁ _ _ => ⟨trivial, fun _ => ?_⟩
  split
  · rintro m' _ _ _ ⟨⟩ _
    trivial
  · refine sound_getSharesForVault fun m₂ _ _ => ⟨trivial, fun _ => ?_⟩
    intro m₃ _ _
    refine ⟨trivial, fun hfirst => ?_⟩
    rintro m' _ _ _ ⟨⟩ hmay
    obtain ⟨share, hvault, hactive, hwrite, hshare⟩ := hmay.share
    have hlive := (hshare _ mem_cons_self).2
    have h₂ : (m₂, Timed.call (Call.selectShares vaultId)) ∈ (m₃, Timed.now) ::
        (m₂, .call (.selectShares vaultId)) :: (m₁, .call (.selectItem vaultId)) :: past := by simp
    have hmem : share ∈ sharesAt vaultId m₂ := by
      rw [sharesAt, if_pos (hmay.up _ h₂), mem_filter]
      exact ⟨(hshare _ h₂).1, by simp [hvault, hactive]⟩
    have hread : lastShares vaultId ((m₂, .call (.selectShares vaultId)) ::
        (m₁, .call (.selectItem vaultId)) :: past) = sharesAt vaultId m₂ := by
      rw [lastShares, findSome?_cons, sharesBy, if_pos rfl]
      rfl
    have hfirst : WriteFirst (sharesAt vaultId m₂) userId m₃.clock := by
      rw [← hread]
      exact hfirst
    cases hfind : (sharesAt vaultId m₂).find? fun share => share.LiveFor userId m₃.clock with
    | none => exact absurd (decide_eq_true hlive) (find?_eq_none.mp hfind share hmem)
    | some first => exact hfirst share hmem hlive hwrite first hfind

theorem updateSecret_writes {drawn : PyStr} (hrequest : request = .update vaultId userId r drawn) :
    AccessSound request (Respectful request) (fun result past _ =>
      result = .ok (.refused .accessDenied) → ¬MayWrite vaultId userId past)
      (updateSecret service vaultId userId r drawn) past m := by
  refine Sound.tryCatch (Q := fun result past _ =>
    result = .ok (.refused .accessDenied) → ¬MayWrite vaultId userId past) ?_ (fun _ _ _ h => h)
    fun _ _ _ _ _ _ _ => nofun
  refine Sound.bind ((checkUserAccess_writes hrequest).and checkUserAccess_allowed) ?_
    fun _ _ _ _ => nofun
  rintro access past m ⟨hwrites, haccess⟩
  split
  · have hallowed : Allowed vaultId userId (fun _ => True) past m := by
      cases access with
      | none => exact (‹Access.Writes none›).elim
      | some access =>
        obtain ⟨howner, hshared⟩ := haccess access rfl
        cases access with
        | owner => exact .inl (howner rfl)
        | shared l => exact .inr ((hshared l rfl).mono fun _ _ => trivial)
    have hflag : r.isActive = request.isActive := by rw [hrequest]; rfl
    exact (update_allowed hflag hallowed).mono fun _ _ _ h hdenied => absurd hdenied h.1
  · next hnot => exact fun _ _ _ _ hmay => hnot (hwrites access rfl hmay)

end Programs

/-! ### Runs -/

section Runs

variable {service : VaultService} {ι : Type*} [DecidableEq ι] {requests : ι → Request}
  {m : Clocked VaultStore} {pool : VaultPool ι} {request : Request} {past : VaultPast}
  {A : VaultPast → Clocked VaultStore → Timed Call → Prop}

def EndsShared (request : Request) (r : Except VaultError Response) (past : VaultPast) : Prop :=
  match request with
  | .get vaultId userId _ => ∀ value item, r = .ok (.secret value item) →
      item.userId = userId ∨ Shared vaultId userId (fun _ => True) past
  | .update vaultId userId _ _ => ∀ item, r = .ok (.updated item) →
      item.userId = userId ∨ Shared vaultId userId (· = .readWrite) past
  | _ => True

theorem access_of_only {α : Type} {p : VaultM α} (hp : p.Only (Keeps request)) :
    AccessSound request A (fun _ _ _ => True) p past m :=
  (hp.sound (K := fun _ => True) trivial fun _ hc _ _ _ => ⟨hc, trivial⟩).mono fun _ _ _ _ => trivial

theorem serve_shared :
    AccessSound request A (fun r past _ => EndsShared request r past) (request.serve service)
      past m := by
  cases request with
  | create userId r vaultId drawn =>
    refine (access_of_only ?_).mono fun _ _ _ _ => trivial
    refine Only.tryCatch (Only.bind (Only.tryCatch (Only.bind
      (only_query (I := VaultApi.timed) nofun) fun _ => trivial) fun _ => trivial)
      fun created => ?_) fun _ => trivial
    split <;> trivial
  | get vaultId userId decrypt => exact getSecret_allowed
  | update vaultId userId r drawn => exact updateSecret_allowed rfl
  | rotate vaultId userId value drawn =>
    exact (updateSecret_allowed rfl).mono fun _ _ _ _ => trivial
  | delete vaultId userId =>
    exact (access_of_only (deleteSecret_free.mono fun _ => keeps_of_free)).mono
      fun _ _ _ _ => trivial
  | share vaultId userId r shareId =>
    exact (access_of_only (shareSecret_free.mono fun _ => keeps_of_free)).mono
      fun _ _ _ _ => trivial
  | revoke shareId =>
    exact (access_of_only (revoke_free.mono fun _ => keeps_of_free)).mono fun _ _ _ _ => trivial

def EndsWriting (request : Request) (r : Except VaultError Response) (past : VaultPast) : Prop :=
  match request with
  | .update vaultId userId _ _ => r = .ok (.refused .accessDenied) → ¬MayWrite vaultId userId past
  | _ => True

theorem serve_writing :
    AccessSound request (Respectful request) (fun r past _ => EndsWriting request r past)
      (request.serve service) past m := by
  cases hrequest : request with
  | update vaultId userId r drawn => exact updateSecret_writes rfl
  | _ => exact serve_shared.mono fun _ _ _ _ => trivial

theorem keeps_of_run (s s' : Clocked VaultStore) (hi : ownership.inv s) (h : Shifts s s') :
    ownership.inv s' ∧ ownership.rel s s' :=
  keeps_of_shifts (R := SameOwner) (fun _ => rfl) hi h

theorem shared_of_run (hm : ownership.inv m) (hpool : VaultRun (fun _ _ _ _ => True)
    (VaultPool.start service requests m) pool) :
    GetsShared requests pool ∧ UpdatesShared requests pool := by
  have hsound : Pool.AllSound ownership handle (fun _ _ _ _ => True)
      (fun i _ _ c => Keeps (requests i) c) (fun i r past _ => EndsShared (requests i) r past)
      pool :=
    hpool.sound ⟨hm, fun i => serve_shared⟩ (fun _ _ _ _ _ => trivial)
      (fun _ _ _ _ hi _ hG => handle_ownership hi hG) keeps_of_run
  refine ⟨fun i vaultId userId decrypt value item hi hr => ?_,
    fun i vaultId userId r drawn item hi hr => ?_⟩
  · have hends := hsound.of_ret hr
    rw [hi] at hends
    exact hends value item rfl
  · have hends := hsound.of_ret hr
    rw [hi] at hends
    exact hends item rfl

theorem writing_of_run (hm : ownership.inv m)
    (hpool : VaultRun (fun i => Respectful (requests i)) (VaultPool.start service requests m) pool) :
    WritersAllowed requests pool ∧ StaysDeleted requests pool := by
  have hstart : Pool.AllSound ownership handle (fun i => Respectful (requests i))
      (fun i _ _ c => Keeps (requests i) c) (fun i r past _ => EndsWriting (requests i) r past)
      (VaultPool.start service requests m) :=
    ⟨hm, fun i => serve_writing⟩
  refine ⟨fun i vaultId userId r drawn hi hr => ?_, ?_⟩
  · have hends := (hpool.sound hstart (fun _ _ _ _ h => h)
      (fun _ _ _ _ hi _ hG => handle_ownership hi hG) keeps_of_run).of_ret hr
    rw [hi] at hends
    exact hends rfl
  · refine hpool.invariant hstart (fun _ _ _ _ h => h)
      (fun _ _ _ _ hi _ hG => handle_ownership hi hG) keeps_of_run
      (fun _ past => ∀ i, ∀ e ∈ past i, ∀ vaultId item, Revives vaultId item e →
        (requests i).user = some item.userId)
      (fun _ _ he => absurd he not_mem_nil) (fun _ _ _ _ h => h) ?_
    intro i past s c hi hA hG h
    refine forall_mem_update h fun vaultId item hrevives => ?_
    obtain ⟨-, ⟨data, rfl⟩, hflag⟩ := flag_of_revives hi hG hrevives
    exact hA hflag item hrevives.1 hrevives.2.1

end Runs

def openVault : VaultService where
  cipher :=
    { encrypt := fun plain userId drawn =>
        { data := plain, dek := drawn, salt := userId, nonce := [] }
      decrypt := fun components _ => some components.data
      decrypt_encrypt := fun _ _ _ => rfl }
  fromIsoFormat := some

def shareTo (shareId userId : PyStr) (permissionLevel : PermissionLevel) : VaultShare :=
  { shareId, vaultId := ['v'], ownerUserId := ['o'], sharedWithUserId := some userId
    sharedWithOrgId := none, permissionLevel, expiresAt := none }

def sharedSecret (shares : List VaultShare) : Clocked VaultStore where
  store :=
    { items := fun vaultId => if vaultId = ['v'] then
        some (CreateRequest.item openVault ['o'] { name := ['n'], secretValue := ['a'] } ['d'])
        else none
      shares }
  clock := 0
  link := .up

theorem consistent_sharedSecret (shares : List VaultShare) :
    ∀ vaultId, ∀ item ∈ (sharedSecret shares).store.items vaultId, item.Consistent := by
  intro vaultId item hitem
  change item ∈ (if vaultId = ['v'] then _ else none) at hitem
  split at hitem
  · obtain rfl := some.inj hitem
    exact nofun
  · cases hitem

def visits : Fin 3 → Request
  | 0 => .update ['v'] ['u'] { description := some ['x'] } ['e']
  | 1 => .delete ['v'] ['o']
  | 2 => .update ['v'] ['w'] { isActive := some true } ['f']

def readFirst : Clocked VaultStore :=
  sharedSecret [shareTo ['1'] ['u'] .read, shareTo ['2'] ['u'] .readWrite,
    shareTo ['3'] ['w'] .readWrite]

def visited : VaultPool (Fin 3) :=
  (VaultPool.start openVault visits readFirst).schedule handle [0, 0, 0, 1, 1, 2, 2, 2, 2, 2]

theorem mayWrite_visited : MayWrite ['v'] ['u'] (visited.past 0) where
  up := by decide +kernel
  share := ⟨shareTo ['2'] ['u'] .readWrite, rfl, rfl, rfl, by decide +kernel⟩

def writeOnly : Clocked VaultStore := sharedSecret [shareTo ['2'] ['u'] .readWrite]

def guarded : VaultPool (Fin 3) :=
  (VaultPool.start openVault visits writeOnly).schedule handle [0, 0, 0, 0, 0, 1, 1, 2, 2, 2]

end IsaUser.Vault
