import IsaUser.Vault.Model

/-!
# Readable Secrets

A secret decrypts as long as its key material and its encrypted value were written together. The
value is read, and the metadata merged, some calls before the row is written.
-/

open IsaUser.Prog List Option

namespace IsaUser.Vault

open VaultItem

/-! ### The law -/

def Request.value : Request → Option PyStr
  | create _ r _ _ => some r.secretValue
  | update _ _ r _ => given r.secretValue
  | rotate _ _ newSecretValue _ => given (some newSecretValue)
  | _ => none

def Request.metadata : Request → Option JsonDict
  | update _ _ r _ => r.metadata.filter fun entries => entries.length ≠ 0
  | _ => none

section Law

variable (service : VaultService) {ι : Type*} (requests : ι → Request) (pool : VaultPool ι)

/-- A secret that decrypts to the value that was written last. -/
def VaultItem.Intact (item : VaultItem) : Prop :=
  item.decrypted service = some item.encryptedValue.plain

def Writes (value : EncryptedValue) : Timed Call → Prop
  | .call (.insertItem _ item) => item.encryptedValue = value
  | .call (.updateItem _ data) => data.encryptedValue = some value
  | _ => False

def readBy (vaultId : PyStr) : Clocked VaultStore × Timed Call → Option VaultItem
  | (m, .call (.selectItem id)) => if id = vaultId then itemAt vaultId m else none
  | _ => none

/-- All calls of a request are answered, and find the secret active and not expired, and open to
the user: as its owner, or by one share. -/
structure Open (vaultId userId : PyStr) (past : VaultPast) : Prop where
  up : ∀ e ∈ past, e.1.link = .up
  active : ∀ e ∈ past, ∃ item ∈ e.1.store.items vaultId, item.isActive = true ∧
    ∀ t ∈ item.expiresAt, ∀ e' ∈ past, e'.1.clock ≤ t
  access : (∀ e ∈ past, ∀ item ∈ e.1.store.items vaultId, item.userId = userId) ∨
    ∃ share : VaultShare, share.vaultId = vaultId ∧ share.isActive = true ∧
      ∀ e ∈ past, share ∈ e.1.store.shares ∧ share.LiveFor userId e.1.clock

def WritesOwn : Prop :=
  ∀ i, ∀ e ∈ pool.past i, ∀ value, Writes value e.2 → (requests i).value = some value.plain

/-- The secrets decrypt to the values that were written last. -/
def AllIntact : Prop :=
  ∀ vaultId, ∀ item ∈ pool.state.store.items vaultId, item.Intact service

/-- A get of a secret that is open all the time returns the value that it had at a read. -/
def Revealed : Prop :=
  ∀ i vaultId userId r, requests i = .get vaultId userId true → pool.progs i = .ret r →
    Open vaultId userId (pool.past i) → ∃ item : VaultItem,
      (∃ e ∈ pool.past i, readBy vaultId e = some item) ∧
        r = .secret item.encryptedValue.plain item

def MetadataKept : Prop :=
  ∀ i vaultId userId u drawn updated, requests i = .update vaultId userId u drawn →
    pool.progs i = .ret (.updated updated) → ∀ entries ∈ (requests i).metadata, ∀ name,
      (entries.get? name).isSome = true → ∃ item ∈ pool.state.store.items vaultId,
        (item.metadata.get? name).isSome = true

structure Readable : Prop where
  own : WritesOwn requests pool
  intact : AllIntact service pool
  revealed : Revealed requests pool
  kept : MetadataKept requests pool

/-! ### The condition -/

def lastRead (vaultId : PyStr) (past : VaultPast) : Option VaultItem :=
  past.findSome? (readBy vaultId)

/-- Every name in the metadata was read, and so was the key material, unless it is replaced. -/
def Current (rekeyed : Bool) (read item : VaultItem) : Prop :=
  (∀ name ∈ item.metadata.map Prod.fst, (read.metadata.get? name).isSome = true) ∧
    (rekeyed = false → ∀ name ∈ keyNames, textAt read.metadata name = textAt item.metadata name)
  deriving Decidable

def Request.decrypts : Request → Bool
  | get _ _ decrypt => decrypt
  | _ => false

def Request.writesMetadata (request : Request) : Bool :=
  request.value.isSome || request.metadata.isSome

def Steady (request : Request) (past : VaultPast) (m : Clocked VaultStore) : Timed Call → Prop
  | .call (.selectItem vaultId) => request.decrypts = true → ∀ item ∈ m.store.items vaultId,
      ∀ t ∈ item.expiresAt, service.fromIsoFormat t = some t
  | .call (.updateItem vaultId _) => m.link ≠ .down → request.writesMetadata = true →
      ∀ item ∈ m.store.items vaultId, ∀ read ∈ lastRead vaultId past,
        Current request.value.isSome read item
  | _ => True

instance (request : Request) (past : VaultPast) (m : Clocked VaultStore) :
    DecidablePred (Steady service request past m)
  | .call (.selectItem vaultId) => inferInstanceAs (Decidable (request.decrypts = true →
      ∀ item ∈ m.store.items vaultId, ∀ t ∈ item.expiresAt, service.fromIsoFormat t = some t))
  | .call (.updateItem vaultId _) => inferInstanceAs (Decidable (m.link ≠ .down →
      request.writesMetadata = true → ∀ item ∈ m.store.items vaultId,
        ∀ read ∈ lastRead vaultId past, Current request.value.isSome read item))
  | .now | .call (.insertItem ..) | .call (.deleteItem _) | .call (.insertShare _)
  | .call (.selectShares _) | .call (.revokeShare _) => .isTrue trivial

/-- An update brings a value or metadata, and names no key material. -/
def Request.Plain (request : Request) : Prop :=
  ∀ entries ∈ request.metadata, request.value = none ∧
    ∀ name ∈ keyNames, JsonDict.get? entries name = none
  deriving Decidable

end Law

/-! ### Metadata and key material -/

section Updates

variable {service : VaultService} {request : Request} {past : VaultPast} {m m' : Clocked VaultStore}
  {vaultId : PyStr} {item read : VaultItem} {name : String}

theorem textAt_merge {a b : JsonDict} (h : b.get? name = none) :
    textAt (merge a b) name = textAt a name := by
  rw [textAt, get?_merge, h]
  rfl

theorem decrypted_congr (hvalue : item.encryptedValue = read.encryptedValue)
    (huser : item.userId = read.userId)
    (hkeys : ∀ name ∈ keyNames, textAt item.metadata name = textAt read.metadata name) :
    item.decrypted service = read.decrypted service := by
  have hdek := hkeys "dek_encrypted" (by decide)
  have hsalt := hkeys "kek_salt" (by decide)
  have hnonce := hkeys "nonce" (by decide)
  rw [decrypted, decrypted, components, components, hdek,
    hsalt, hnonce, hvalue, huser]

theorem intact_of_components (plain drawn : PyStr) (metadata : JsonDict)
    (hvalue : item.encryptedValue =
      { data := (service.cipher.encrypt plain item.userId drawn).data, plain })
    (hmetadata : item.metadata =
      merge metadata (service.cipher.encrypt plain item.userId drawn).metadata) :
    item.Intact service := by
  have htext : ∀ name value, (service.cipher.encrypt plain item.userId drawn).metadata.get? name =
      some (.str value) → textAt item.metadata name = some value := by
    intro name value h
    rw [textAt, hmetadata, get?_merge, h]
    rfl
  rw [Intact, decrypted, components, htext "dek_encrypted" _ rfl,
    htext "kek_salt" _ rfl, htext "nonce" _ rfl, hvalue]
  exact service.cipher.decrypt_encrypt plain item.userId drawn

theorem isSome_merge {a b : JsonDict}
    (h : (a.get? name).isSome = true ∨ (b.get? name).isSome = true) :
    ((merge a b).get? name).isSome = true := by
  rw [get?_merge, isSome_or, Bool.or_eq_true]
  exact h.symm

theorem mem_of_get? {entries : JsonDict} (h : (entries.get? name).isSome = true) :
    name ∈ entries.map Prod.fst := by
  obtain ⟨entry, hentry, hname⟩ := lookup_isSome_iff.mp h
  exact mem_map.mpr ⟨entry, hentry, (eq_of_beq hname).symm⟩

/-! ### What an update writes -/

inductive Derived (service : VaultService) (request : Request) (vaultId : PyStr)
    (past : VaultPast) (m : Clocked VaultStore) (data : UpdateData) : Prop where
  | kept : data.metadata = none → data.encryptedValue = none → request.metadata = none →
      Derived service request vaultId past m data
  | merged (read : VaultItem) (entries : JsonDict) : lastRead vaultId past = some read →
      request.metadata = some entries → request.value = none → data.encryptedValue = none →
      data.metadata = some (merge read.metadata entries) →
      Derived service request vaultId past m data
  | rekeyed (read : VaultItem) (plain drawn : PyStr) : lastRead vaultId past = some read →
      request.value = some plain →
      (∃ item ∈ m.store.items vaultId, item.userId = read.userId) →
      data.encryptedValue =
        some { data := (service.cipher.encrypt plain read.userId drawn).data, plain } →
      data.metadata =
        some (merge read.metadata (service.cipher.encrypt plain read.userId drawn).metadata) →
      Derived service request vaultId past m data

def Promise (service : VaultService) (request : Request) (past : VaultPast)
    (m : Clocked VaultStore) : Timed Call → Prop
  | .call (.insertItem _ item) =>
    item.Intact service ∧ request.value = some item.encryptedValue.plain
  | .call (.updateItem vaultId data) => Derived service request vaultId past m data
  | _ => True

def VaultItem.Grows (item item' : VaultItem) : Prop :=
  item'.userId = item.userId ∧ ∀ name, (item.metadata.get? name).isSome = true →
    (item'.metadata.get? name).isSome = true

theorem VaultItem.Grows.refl (item : VaultItem) : item.Grows item := ⟨rfl, fun _ h => h⟩

theorem VaultItem.Grows.trans {item₁ item₂ item₃ : VaultItem} (h : item₁.Grows item₂)
    (h' : item₂.Grows item₃) : item₁.Grows item₃ :=
  ⟨h'.1.trans h.1, fun name hname => h'.2 name (h.2 name hname)⟩

def terms (service : VaultService) : Terms (Clocked VaultStore) :=
  itemTerms (Intact service) Grows .refl fun _ _ _ => .trans

theorem update_steady {data : UpdateData} (hplain : request.Plain)
    (hderived : Derived service request vaultId past m data) (hitem : item ∈ m.store.items vaultId)
    (hintact : item.Intact service)
    (hcurrent : request.writesMetadata = true → ∀ read ∈ lastRead vaultId past,
      Current request.value.isSome read item) :
    (item.update data).Intact service ∧ item.Grows (item.update data) := by
  cases hderived with
  | kept hmetadata hvalue =>
    have hsame : (item.update data).metadata = item.metadata := by
      rw [update, hmetadata]
      rfl
    refine ⟨?_, rfl, fun name hname => by rw [hsame]; exact hname⟩
    have hvalue' : (item.update data).encryptedValue = item.encryptedValue := by
      rw [update, hvalue]
      rfl
    rw [Intact, decrypted_congr hvalue' rfl fun name _ => by rw [hsame], hvalue']
    exact hintact
  | merged read entries hread hentries hvalue hkept hmerged =>
    have hmetadata : (item.update data).metadata = merge read.metadata entries := by
      rw [update, hmerged]
      rfl
    obtain ⟨hnames, hkeys⟩ := hcurrent (by rw [Request.writesMetadata, hentries]; simp) read hread
    refine ⟨?_, rfl, fun name hname => ?_⟩
    · have hvalue' : (item.update data).encryptedValue = item.encryptedValue := by
        rw [update, hkept]
        rfl
      rw [Intact, decrypted_congr hvalue' rfl, hvalue']
      · exact hintact
      · intro name hname
        rw [hmetadata, textAt_merge ((hplain entries hentries).2 name hname)]
        exact hkeys (by rw [hvalue]; rfl) name hname
    · rw [hmetadata]
      exact isSome_merge (.inl (hnames name (mem_of_get? hname)))
  | rekeyed read plain drawn hread hvalue howner hnew hmerged =>
    have hmetadata : (item.update data).metadata =
        merge read.metadata (service.cipher.encrypt plain read.userId drawn).metadata := by
      rw [update, hmerged]
      rfl
    have huser : item.userId = read.userId := by
      obtain ⟨item', hitem', huser⟩ := howner
      rw [mem_unique hitem hitem', huser]
    obtain ⟨hnames, -⟩ := hcurrent (by rw [Request.writesMetadata, hvalue]; rfl) read hread
    refine ⟨intact_of_components plain drawn read.metadata ?_ ?_, rfl, fun name hname => ?_⟩
    · rw [update, hnew, ← huser]
      rfl
    · rw [hmetadata, ← huser]
      rfl
    · rw [hmetadata]
      exact isSome_merge (.inl (hnames name (mem_of_get? hname)))

theorem handle_steady {c : Timed Call} (hplain : request.Plain) (hi : (terms service).inv m)
    (hsteady : Steady service request past m c) (hc : Promise service request past m c) :
    (terms service).inv (handle c m).2 ∧ (terms service).rel m (handle c m).2 := by
  refine handle_keeps (P := Intact service) .refl hi ?_ ?_ fun item hitem =>
    ⟨hitem, .refl item⟩
  · rintro vaultId item rfl
    exact hc.1
  · rintro vaultId data rfl hlink item hitem
    exact update_steady hplain hc hitem (hi vaultId item hitem) fun hwrites =>
      hsteady hlink hwrites item hitem

end Updates

/-! ### The programs -/

section Programs

variable {service : VaultService} {request : Request} {past : VaultPast} {m m' : Clocked VaultStore}
  {vaultId userId : PyStr} {item : VaultItem}

/-- A program under interference, which ends as `Q` says. -/
abbrev VaultSound {α : Type} (service : VaultService) (request : Request)
    (Q : Except VaultError α → VaultPast → Clocked VaultStore → Prop) (p : VaultM α) :
    VaultPast → Clocked VaultStore → Prop :=
  p.Sound (terms service) handle (Steady service request) (Promise service request) Q

theorem lastRead_cons :
    lastRead vaultId ((m, .call (.selectItem vaultId)) :: past) =
      (itemAt vaultId m).or (lastRead vaultId past) := by
  rw [lastRead, findSome?_cons, readBy, if_pos rfl]
  cases itemAt vaultId m <;> rfl

theorem checkUserAccess_sound :
    VaultSound service request (fun r past _ => Open vaultId userId past →
      ∃ access, r = .ok (some access)) (checkUserAccess vaultId userId) past m := by
  refine sound_getVaultItem fun m₁ _ _ => ⟨trivial, fun _ => ?_⟩
  split
  · exact fun _ _ _ _ => ⟨_, rfl⟩
  · next howner =>
      refine sound_getSharesForVault fun m₂ _ _ => ⟨trivial, fun _ => ?_⟩
      refine sound_now fun m₃ _ _ => ⟨trivial, fun _ _ _ hopen => ?_⟩
      have h₁ : (m₁, Timed.call (Call.selectItem vaultId)) ∈ (m₃, Timed.now) ::
          (m₂, .call (.selectShares vaultId)) :: (m₁, .call (.selectItem vaultId)) :: past := by simp
      rcases hopen.access with hown | ⟨share, hvault, hactive, hshare⟩
      · obtain ⟨item, hitem, -⟩ := hopen.active _ h₁
        rw [itemAt_up (hopen.up _ h₁), show m₁.store.items vaultId = some item from hitem,
          map_some, hown _ h₁ item hitem] at howner
        exact absurd rfl howner
      · have hlive := (hshare _ mem_cons_self).2
        have hmem : share ∈ sharesAt vaultId m₂ := by
          have h₂ : (m₂, Timed.call (Call.selectShares vaultId)) ∈ (m₃, Timed.now) ::
            (m₂, .call (.selectShares vaultId)) :: (m₁, .call (.selectItem vaultId)) :: past := by
              simp
          rw [sharesAt, if_pos (hopen.up _ h₂), mem_filter]
          exact ⟨(hshare _ h₂).1, by simp [hvault, hactive]⟩
        cases hfind : (sharesAt vaultId m₂).find? fun share => share.LiveFor userId m₃.clock with
        | none => exact absurd (decide_eq_true hlive) (find?_eq_none.mp hfind share hmem)
        | some found => exact ⟨.shared found.permissionLevel, rfl⟩

theorem reveal_intact (hintact : item.Intact service) :
    reveal service item true = .secret item.encryptedValue.plain item := by
  rw [reveal, if_pos rfl, hintact]

theorem getSecret_sound (hdecrypts : request.decrypts = true) :
    VaultSound service request (fun r past _ => Open vaultId userId past → ∃ item : VaultItem,
      (∃ e ∈ past, readBy vaultId e = some item) ∧
        r = .ok (.secret item.encryptedValue.plain item))
      (getSecret service vaultId userId true) past m := by
  refine Sound.tryCatch (Q := fun r past _ => Open vaultId userId past → ∃ item : VaultItem,
    (∃ e ∈ past, readBy vaultId e = some item) ∧
      r = .ok (.secret item.encryptedValue.plain item)) ?_ (fun _ _ _ h => h) ?_
  · refine Sound.bind checkUserAccess_sound ?_ ?_
    · intro access past m haccess
      cases access with
      | none =>
        intro m' _ _ hopen
        obtain ⟨access, h⟩ := haccess hopen
        cases h
      | some access =>
        refine sound_getVaultItem fun m₁ _ hi => ⟨trivial, fun hsteady => ?_⟩
        cases hread : itemAt vaultId m₁ with
        | none =>
          intro m' _ _ hopen
          obtain ⟨item, hitem, -⟩ := hopen.active _ mem_cons_self
          rw [itemAt_up (hopen.up _ mem_cons_self)] at hread
          cases hread.symm.trans hitem
        | some item =>
          have hitem := mem_of_itemAt hread
          have hrevealed := reveal_intact (hi vaultId item hitem)
          have hreadBy : readBy vaultId (m₁, .call (.selectItem vaultId)) = some item := by
            rw [readBy, if_pos rfl, hread]
          dsimp only
          split
          · next hinactive =>
              intro m' _ _ hopen
              obtain ⟨item', hitem', hactive, -⟩ := hopen.active _ mem_cons_self
              rw [mem_unique hitem hitem', hactive] at hinactive
              cases hinactive
          · cases hexpires : item.expiresAt with
            | none =>
              intro m' _ _ _
              exact ⟨item, ⟨_, mem_cons_self, hreadBy⟩, congrArg Except.ok hrevealed⟩
            | some t =>
              dsimp only
              rw [hsteady hdecrypts item hitem t hexpires]
              refine sound_now fun m₂ _ _ => ⟨trivial, ?_⟩
              split
              · next hlate =>
                  intro m' _ _ hopen
                  obtain ⟨item', hitem', -, hunexpired⟩ :=
                    hopen.active _ (mem_cons_of_mem _ mem_cons_self)
                  obtain rfl := mem_unique hitem hitem'
                  have := hunexpired t hexpires _ mem_cons_self
                  exact absurd hlate this.not_gt
              · intro m' _ _ _
                exact ⟨item, ⟨_, mem_cons_of_mem _ mem_cons_self, hreadBy⟩,
                  congrArg Except.ok hrevealed⟩
    · intro e past m herror hopen
      obtain ⟨access, h⟩ := herror hopen
      cases h
  · intro e past m herror m' _ _ hopen
    obtain ⟨item, -, h⟩ := herror hopen
    cases h

def Present (request : Request) (vaultId : PyStr) (m : Clocked VaultStore) : Prop :=
  ∀ entries ∈ request.metadata, ∀ name, (entries.get? name).isSome = true →
    ∃ item ∈ m.store.items vaultId, (item.metadata.get? name).isSome = true

theorem Present.later (h : Present request vaultId m)
    (hm' : m.store.Related Grows m'.store) :
    Present request vaultId m' := by
  intro entries hentries name hname
  obtain ⟨item, hitem, hitemName⟩ := h entries hentries name hname
  obtain ⟨item', hitem', -, hnames⟩ := hm' vaultId item hitem
  exact ⟨item', hitem', hnames name hitemName⟩

theorem Derived.later {data : UpdateData} (h : Derived service request vaultId past m data)
    (hm' : m.store.Related Grows m'.store) :
    Derived service request vaultId past m' data := by
  cases h with
  | kept hmetadata hvalue hnone => exact .kept hmetadata hvalue hnone
  | merged read entries hread hentries hvalue hkept hmerged =>
    exact .merged read entries hread hentries hvalue hkept hmerged
  | rekeyed read plain drawn hread hvalue howner hnew hmerged =>
    obtain ⟨item, hitem, huser⟩ := howner
    obtain ⟨item', hitem', huser', -⟩ := hm' vaultId item hitem
    exact .rekeyed read plain drawn hread hvalue ⟨item', hitem', huser'.trans huser⟩ hnew hmerged

theorem mergedMetadata_sound {metadata : Option JsonDict}
    (hmetadata : request.metadata = metadata.filter fun entries => entries.length ≠ 0) :
    VaultSound service request (fun r past _ => ∀ merged, r = .ok merged →
      (merged = none ∧ request.metadata = none) ∨ ∃ read entries,
        lastRead vaultId past = some read ∧ request.metadata = some entries ∧
          merged = some (merge read.metadata entries))
      (mergedMetadata vaultId metadata) past m := by
  rw [mergedMetadata, ← hmetadata]
  cases hentries : request.metadata with
  | none =>
    rintro m' _ _ _ ⟨⟩
    exact .inl ⟨rfl, rfl⟩
  | some entries =>
    refine sound_getVaultItem fun m₁ _ _ => ⟨trivial, fun _ => ?_⟩
    cases hread : itemAt vaultId m₁ with
    | none => exact fun _ _ _ _ h => by cases h
    | some item =>
      rintro m' _ _ _ ⟨⟩
      refine .inr ⟨item, entries, ?_, rfl, rfl⟩
      rw [lastRead_cons, hread]
      rfl

theorem withValue_sound {secretValue : Option PyStr} {drawn : PyStr} {data : UpdateData}
    (hvalue : request.value = given secretValue) (hkept : data.encryptedValue = none)
    (hmetadata : (data.metadata = none ∧ request.metadata = none) ∨ ∃ read entries,
      lastRead vaultId past = some read ∧ request.metadata = some entries ∧
        data.metadata = some (merge read.metadata entries)) :
    VaultSound service request (fun r past m => ∀ data, r = .ok data →
      Derived service request vaultId past m data)
      (withValue service vaultId secretValue drawn data) past m := by
  rw [withValue, ← hvalue]
  cases hplain : request.value with
  | none =>
    rintro m' _ _ _ ⟨⟩
    rcases hmetadata with ⟨hnone, hrequest⟩ | ⟨read, entries, hread, hentries, hmerged⟩
    · exact .kept hnone hkept hrequest
    · exact .merged read entries hread hentries hplain hkept hmerged
  | some plain =>
    refine sound_getVaultItem fun m₁ _ _ => ⟨trivial, fun _ => ?_⟩
    cases hread : itemAt vaultId m₁ with
    | none => exact fun _ _ _ _ h => nomatch h
    | some item =>
      rintro m' hm' _ _ ⟨⟩
      obtain ⟨item', hitem', huser, -⟩ := hm' vaultId item (mem_of_itemAt hread)
      refine .rekeyed item plain drawn ?_ hplain ⟨item', hitem', huser⟩ rfl rfl
      rw [lastRead_cons, hread]
      rfl

theorem present_update {data : UpdateData} (hplain : request.Plain)
    (hderived : Derived service request vaultId past m data) :
    ∀ entries ∈ request.metadata, ∀ name, (entries.get? name).isSome = true →
      ((item.update data).metadata.get? name).isSome = true := by
  intro entries hentries name hname
  cases hderived with
  | kept _ _ hnone => cases hnone.symm.trans hentries
  | rekeyed _ _ _ _ hvalue => cases hvalue.symm.trans (hplain entries hentries).1
  | merged read entries' hread hentries' hvalue hkept hmerged =>
    obtain rfl := mem_unique hentries hentries'
    rw [update, hmerged]
    exact isSome_merge (.inr hname)

theorem writeUpdate_sound {data : UpdateData} (hplain : request.Plain)
    (hderived : Derived service request vaultId past m data) :
    VaultSound service request (fun r _ m => ∀ updated, r = .ok (.updated updated) →
      Present request vaultId m) (writeUpdate vaultId data) past m := by
  refine Sound.bind (Q := fun r _ m => r = .ok true → Present request vaultId m) ?_ ?_
    fun _ _ _ _ _ => nofun
  · refine Sound.tryCatch (Q := fun r _ m => r = .ok true → Present request vaultId m) ?_
      (fun _ _ _ h => h) fun _ _ _ _ _ _ _ h => nomatch h
    refine Sound.bind (Q := fun r _ m => ∀ count, r = .ok count → 0 < count →
      Present request vaultId m) ?_ ?_ fun _ _ _ _ => nofun
    · refine sound_ask fun m₁ hm₁ _ => ⟨hderived.later hm₁, fun _ m₂ hm₂ _ =>
        ⟨fun _ _ => nofun, ?_⟩⟩
      rintro r hup hr count ⟨⟩ hpos
      obtain rfl : (m₁.store.items vaultId).toList.length = r := Except.ok.inj hr
      obtain ⟨item, hitem⟩ : ∃ item, m₁.store.items vaultId = some item := by
        cases hitem : m₁.store.items vaultId with
        | none =>
          rw [hitem] at hpos
          exact absurd hpos (lt_irrefl 0)
        | some item => exact ⟨item, rfl⟩
      refine Present.later ?_ hm₂
      intro entries hentries name hname
      refine ⟨item.update data, ?_,
        present_update hplain hderived entries hentries name hname⟩
      change (m₁.link.pass VaultError.unavailable (execute (.updateItem vaultId data) m₁.store)
        m₁.store).2.items vaultId = some _
      rw [hup]
      change (m₁.store.modifyItem vaultId (·.update data)).items vaultId = some _
      rw [m₁.store.items_modifyItem, hitem]
      rfl
    · intro count past m hcount m' hm' _ hdecide
      exact (hcount count rfl (of_decide_eq_true (Except.ok.inj hdecide))).later hm'
  · intro success past m hpresent
    cases success with
    | false => exact fun _ _ _ _ => nofun
    | true =>
      refine sound_getVaultItem fun m₁ hm₁ _ => ⟨trivial, fun _ => ?_⟩
      cases itemAt vaultId m₁ with
      | none => exact fun _ _ _ _ => nofun
      | some item =>
        intro m' hm' _ _ _
        exact (hpresent rfl).later ((terms service).rel_trans hm₁ hm')

theorem updateSecret_sound {r : UpdateRequest} {drawn : PyStr} (hplain : request.Plain)
    (hvalue : request.value = given r.secretValue)
    (hmetadata : request.metadata = r.metadata.filter fun entries => entries.length ≠ 0) :
    VaultSound service request (fun r _ m => ∀ updated, r = .ok (.updated updated) →
      Present request vaultId m) (updateSecret service vaultId userId r drawn) past m := by
  refine Sound.tryCatch (Q := fun r _ m => ∀ updated, r = .ok (.updated updated) →
    Present request vaultId m) ?_ (fun _ _ _ h => h) fun _ _ _ _ _ _ _ _ => nofun
  refine Sound.bind checkUserAccess_sound ?_ fun _ _ _ _ _ => nofun
  intro permission past m _
  split
  · refine Sound.bind (mergedMetadata_sound hmetadata) ?_ fun _ _ _ _ _ => nofun
    intro merged past m hmerged
    refine Sound.bind (withValue_sound hvalue rfl (hmerged merged rfl)) ?_
      fun _ _ _ _ _ => nofun
    exact fun data past m hderived => writeUpdate_sound hplain (hderived data rfl)
  · exact fun _ _ _ _ => nofun

theorem sound_of_only {α : Type} {p : VaultM α} (hp : p.Only Call.Free) :
    VaultSound service request (fun _ _ _ => True) p past m := by
  refine (hp.sound (K := fun _ => True) trivial fun c hc past s _ => ⟨?_, trivial⟩).mono
    fun _ _ _ _ => trivial
  cases c with
  | now => trivial
  | call c => cases c <;> trivial

def Ends (request : Request) (r : Except VaultError Response) (past : VaultPast)
    (m : Clocked VaultStore) : Prop :=
  match request with
  | .get vaultId userId decrypt => decrypt = true → Open vaultId userId past →
      ∃ item : VaultItem, (∃ e ∈ past, readBy vaultId e = some item) ∧
        r = .ok (.secret item.encryptedValue.plain item)
  | .update vaultId _ _ _ => ∀ updated, r = .ok (.updated updated) → Present request vaultId m
  | _ => True

theorem serve_sound (hplain : request.Plain) :
    VaultSound service request (Ends request) (request.serve service) past m := by
  cases request with
  | create userId r vaultId drawn =>
    refine Sound.tryCatch (Q := fun _ _ _ => True) ?_ (fun _ _ _ h => h)
      fun _ _ _ _ _ _ _ => trivial
    refine Sound.bind (Q := fun _ _ _ => True) ?_ ?_ fun _ _ _ h => h
    · refine Sound.tryCatch (Q := fun _ _ _ => True) ?_ (fun _ _ _ h => h)
        fun _ _ _ _ _ _ _ => trivial
      refine Sound.bind (Q := fun _ _ _ => True) ?_ (fun _ _ _ _ _ _ _ => trivial)
        fun _ _ _ h => h
      refine sound_ask fun m₁ _ _ => ⟨⟨?_, rfl⟩, fun _ _ _ _ =>
        ⟨fun _ => trivial, fun _ _ _ => trivial⟩⟩
      exact intact_of_components r.secretValue drawn r.metadata rfl rfl
    · intro created past m _
      split <;> exact fun _ _ _ => trivial
  | get vaultId userId decrypt =>
    cases decrypt with
    | true => exact (getSecret_sound rfl).mono fun _ _ _ h _ => h
    | false => exact (sound_of_only getSecret_free).mono fun _ _ _ _ => nofun
  | update vaultId userId r drawn => exact updateSecret_sound hplain rfl rfl
  | rotate vaultId userId value drawn =>
    exact (updateSecret_sound hplain rfl rfl).mono fun _ _ _ _ => trivial
  | delete vaultId userId => exact (sound_of_only deleteSecret_free).mono fun _ _ _ _ => trivial
  | share vaultId userId r shareId =>
    exact (sound_of_only shareSecret_free).mono fun _ _ _ _ => trivial
  | revoke shareId => exact (sound_of_only revoke_free).mono fun _ _ _ _ => trivial

end Programs

/-! ### Runs -/

section Runs

variable {service : VaultService} {ι : Type*} [DecidableEq ι] {requests : ι → Request}
  {m : Clocked VaultStore} {pool : VaultPool ι}

theorem allSound_of_run (hm : (terms service).inv m) (hplain : ∀ i, (requests i).Plain)
    (hpool : VaultRun (fun i => Steady service (requests i))
      (VaultPool.start service requests m) pool) :
    Pool.AllSound (terms service) handle (fun i => Steady service (requests i))
      (fun i => Promise service (requests i)) (fun i => Ends (requests i)) pool :=
  hpool.sound ⟨hm, fun i => serve_sound (hplain i)⟩ (fun _ _ _ _ h => h)
    (fun i _ _ _ hi hA hG => handle_steady (hplain i) hi hA hG)
    fun _ _ hi h => keeps_of_shifts .refl hi h

theorem own_of_promise {request : Request} {past : VaultPast} {m : Clocked VaultStore}
    {c : Timed Call} {value : EncryptedValue} (hc : Promise service request past m c)
    (hvalue : Writes value c) : request.value = some value.plain := by
  cases c with
  | now => cases hvalue
  | call c =>
    cases c with
    | insertItem vaultId item =>
      obtain rfl : item.encryptedValue = value := hvalue
      exact hc.2
    | updateItem vaultId data =>
      have hdata : data.encryptedValue = some value := hvalue
      cases hc with
      | kept _ hkept => cases hkept.symm.trans hdata
      | merged _ _ _ _ _ hkept => cases hkept.symm.trans hdata
      | rekeyed read plain drawn _ hplain _ hnew =>
        obtain rfl := some.inj (hnew.symm.trans hdata)
        exact hplain
    | _ => cases hvalue

theorem writesOwn_of_run (hm : (terms service).inv m) (hplain : ∀ i, (requests i).Plain)
    (hpool : VaultRun (fun i => Steady service (requests i))
      (VaultPool.start service requests m) pool) : WritesOwn requests pool := by
  refine hpool.invariant (T := terms service) (G := fun i => Promise service (requests i))
    (Q := fun i => Ends (requests i)) ⟨hm, fun i => serve_sound (hplain i)⟩ (fun _ _ _ _ h => h)
    (fun i _ _ _ hi hA hG => handle_steady (hplain i) hi hA hG)
    (fun _ _ hi h => keeps_of_shifts .refl hi h)
    (fun _ past => ∀ i, ∀ e ∈ past i, ∀ value, Writes value e.2 →
      (requests i).value = some value.plain)
    (fun _ _ he => absurd he not_mem_nil) (fun _ _ _ _ h => h) ?_
  exact fun i past s c _ _ hG h => forall_mem_update h fun value hvalue => own_of_promise hG hvalue

theorem readable_of_run (hm : (terms service).inv m) (hplain : ∀ i, (requests i).Plain)
    (hpool : VaultRun (fun i => Steady service (requests i))
      (VaultPool.start service requests m) pool) : Readable service requests pool := by
  have hsound := allSound_of_run hm hplain hpool
  refine ⟨writesOwn_of_run hm hplain hpool, hsound.1, ?_, ?_⟩
  · intro i vaultId userId r hi hr hopen
    have hends := hsound.of_ret hr
    rw [hi] at hends
    obtain ⟨item, hread, hitem⟩ := hends rfl hopen
    exact ⟨item, hread, Except.ok.inj hitem⟩
  · intro i vaultId userId u drawn updated hi hr entries hentries
    have hends := hsound.of_ret hr
    rw [hi] at hends hentries
    exact hends updated rfl entries hentries

end Runs

/-- **A stored secret stays readable and current**, where writes of metadata find the metadata that
was read, and updates name no key material and bring a value or metadata. -/
theorem secrets_readable (service : VaultService) {ι : Type*} [DecidableEq ι]
    (requests : ι → Request) (m : Clocked VaultStore)
    (hm : ∀ vaultId, ∀ item ∈ m.store.items vaultId, item.Intact service)
    (hplain : ∀ i, (requests i).Plain) (pool : VaultPool ι)
    (hpool : VaultRun (fun i => Steady service (requests i))
      (VaultPool.start service requests m) pool) : Readable service requests pool :=
  readable_of_run hm hplain hpool

/-! ### A race -/

def noncedCipher : VaultCipher where
  encrypt plain userId drawn := { data := plain, dek := drawn, salt := userId, nonce := plain }
  decrypt components userId :=
    if components.salt = userId ∧ components.nonce = components.data then some components.data
    else none
  decrypt_encrypt _ _ _ := if_pos ⟨rfl, rfl⟩

def nonced : VaultService := { cipher := noncedCipher, fromIsoFormat := some }

def oneSecret : Clocked VaultStore where
  store :=
    { items := fun vaultId => if vaultId = ['v'] then
        some (CreateRequest.item nonced ['o'] { name := ['n'], secretValue := ['a'] } ['d'])
        else none
      shares := [] }
  clock := 0
  link := .up

def racing : Fin 3 → Request
  | 0 => .update ['v'] ['o'] { metadata := some [("team", .str ['t'])] } ['e']
  | 1 => .rotate ['v'] ['o'] ['b'] ['f']
  | 2 => .get ['v'] ['o'] true

def raced : VaultPool (Fin 3) :=
  (VaultPool.start nonced racing oneSecret).schedule handle [0, 0, 1, 1, 1, 1, 0, 0, 2, 2]

theorem open_raced : Open ['v'] ['o'] (raced.past 2) where
  up := by decide +kernel
  active := by decide +kernel
  access := .inl (by decide +kernel)

/-- The secret cannot be decrypted any more. -/
theorem not_secrets_readable : VaultRun (fun _ _ _ _ => True)
    (VaultPool.start nonced racing oneSecret) raced ∧ ¬Readable nonced racing raced := by
  refine ⟨Pool.Reach.start.schedule (Pool.permitted_anyCall _ _ _), fun h => ?_⟩
  obtain ⟨item, -, hfailed⟩ := h.revealed 2 ['v'] ['o'] (.refused .decryptFailed) rfl rfl open_raced
  cases hfailed

def inTurn : VaultPool (Fin 3) :=
  (VaultPool.start nonced racing oneSecret).schedule handle [1, 1, 1, 1, 0, 0, 0, 0, 2, 2]

theorem intact_oneSecret :
    ∀ vaultId, ∀ item ∈ oneSecret.store.items vaultId, item.Intact nonced := by
  intro vaultId item hitem
  rw [oneSecret] at hitem
  dsimp only at hitem
  split at hitem
  · obtain rfl := some.inj hitem
    exact intact_of_components ['a'] ['d'] [] rfl rfl
  · cases hitem

theorem secrets_readable_inTurn : Readable nonced racing inTurn :=
  secrets_readable nonced racing oneSecret intact_oneSecret (by decide +kernel) inTurn
    (Pool.Reach.start.schedule (by decide +kernel))

end IsaUser.Vault
