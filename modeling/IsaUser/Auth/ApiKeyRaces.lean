import IsaUser.Auth.ApiKeyChecks

/-!
# Keys That Are Revoked and Keys That Are Lost

Every operation writes the whole list of an organization back, as it has read it and with its own
change. Where nothing else was written in between, a revoked key stays revoked and no key is lost.
Otherwise even the validation of another key undoes a revocation.

## Main results

* `keys_kept`: both laws, in every run whose writes find what was read.
* `not_keys_kept`: a validation undoes a revocation and loses a new key.
-/

open IsaUser.Prog List Option Function

namespace IsaUser.Auth.ApiKeys

open KeyData JsonDict

variable {libraries : Libraries}

/-! ### The laws -/

def expires (libraries : Libraries) (key : KeyData) : Option Timestamp :=
  match expiry libraries key with
  | .ok expiresAt => expiresAt
  | .error _ => none

def Stored (store : ApiKeyStore) (organizationId keyId : PyStr) : Prop :=
  ∃ keys ∈ store.organizations organizationId, ∃ key ∈ keys, KeyData.keyId key = some keyId

def Removes (libraries : Libraries) (request : Request) (organizationId keyId : PyStr) :
    Clocked ApiKeyStore × Timed Call → Prop
  | (m, .call (.updateKeys id _)) => id = organizationId ∧ m.link ≠ .down ∧
      match request with
      | .delete _ deleted => deleted = keyId
      | .cleanup _ => ∃ keys ∈ m.store.organizations organizationId, ∃ key ∈ keys,
          KeyData.keyId key = some keyId ∧ ∃ t ∈ expires libraries key, t ≤ m.clock
      | _ => False
  | _ => False

section Laws

variable {ι : Type*} (requests : ι → Request)

def Ended (pool : ApiKeyPool ι) (i : ι) (organizationId keyId : PyStr) : Prop :=
  (requests i = .revoke organizationId keyId ∧ pool.progs i = .ret (.revoked true)) ∨
    (requests i = .delete organizationId keyId ∧ pool.progs i = .ret (.deleted true))

/-- No validation that has started after a key was revoked or deleted has found it valid. -/
def RevokedStay (pool pool' : ApiKeyPool ι) : Prop :=
  ∀ i organizationId keyId, Ended requests pool i organizationId keyId →
    ∀ j, pool.past j = [] → ∀ valid, pool'.progs j = .ret (.validated (.ok valid)) →
      valid.organizationId = organizationId → KeyData.keyId valid.key ≠ some keyId

/-- Every key that was created is stored, unless a request has removed it. -/
def NoneLost (libraries : Libraries) (pool : ApiKeyPool ι) : Prop :=
  ∀ i r key, requests i = .create r → pool.progs i = .ret (.created key) →
    Stored pool.state.store r.organizationId r.keyId ∨
      ∃ j, ∃ e ∈ pool.past j, Removes libraries (requests j) r.organizationId r.keyId e

end Laws

/-! ### The condition -/

/-- What the laws say of a key: its id, whether it is active, and when it expires. -/
structure Gist where
  id : Option PyStr
  active : Bool
  expires : Option Timestamp
  deriving DecidableEq

def gist (libraries : Libraries) (key : KeyData) : Gist where
  id := KeyData.keyId key
  active := KeyData.isActive key
  expires := expires libraries key

abbrev gists (libraries : Libraries) (keys : List KeyData) : List Gist := keys.map (gist libraries)

def readBy (organizationId : PyStr) : Clocked ApiKeyStore × Timed Call → Option (List KeyData)
  | (m, .call (.selectKeys id)) =>
    if id = organizationId ∧ m.link = .up then m.store.organizations organizationId else none
  | (m, .call (.selectAll order)) =>
    if organizationId ∈ order ∧ m.link = .up then m.store.organizations organizationId else none
  | _ => none

def lastKeys (organizationId : PyStr) (past : ApiKeyPast) : Option (List KeyData) :=
  past.findSome? (readBy organizationId)

def Request.Fits (request : Request) (seen : List PyStr) (keys : List KeyData) : Prop :=
  match request with
  | .create r => r.keyId ∉ seen
  | .revoke _ keyId => keys.countP (fun key => KeyData.keyId key = some keyId) ≤ 1
  | _ => True

instance (request : Request) (seen : List PyStr) (keys : List KeyData) :
    Decidable (request.Fits seen keys) :=
  match request with
  | .create r => inferInstanceAs (Decidable (r.keyId ∉ seen))
  | .revoke _ keyId =>
    inferInstanceAs (Decidable (keys.countP (fun key => KeyData.keyId key = some keyId) ≤ 1))
  | .validate .. | .delete .. | .updateRateLimits .. | .cleanup .. => .isTrue trivial

/-- A write of a list that is executed finds the keys that were read, with ids that fit. -/
def InTurn (libraries : Libraries) (request : Request) (past : ApiKeyPast)
    (m : Clocked ApiKeyStore) : Timed Call → Prop
  | .call (.updateKeys id _) => m.link ≠ .down →
      (m.store.organizations id).map (gists libraries) =
        (lastKeys id past).map (gists libraries) ∧
      ∀ keys ∈ m.store.organizations id, request.Fits (m.store.seen id) keys
  | _ => True

instance (request : Request) (past : ApiKeyPast) (m : Clocked ApiKeyStore) :
    DecidablePred (InTurn libraries request past m)
  | .call (.updateKeys id _) => inferInstanceAs (Decidable (m.link ≠ .down →
      (m.store.organizations id).map (gists libraries) =
        (lastKeys id past).map (gists libraries) ∧
      ∀ keys ∈ m.store.organizations id, request.Fits (m.store.seen id) keys))
  | .now | .call (.selectKeys _) | .call (.selectAll _) | .call (.insertOrganization _) =>
    .isTrue trivial

/-! ### What a request makes of a list -/

section Changes

inductive Change (clock : Timestamp) (organizationId : PyStr) :
    Request → List Gist → List Gist → Prop
  | append {r : CreateRequest} {read : List Gist} {new : Gist}
      (horganization : r.organizationId = organizationId) (hid : new.id = some r.keyId) :
      Change clock organizationId (.create r) read (read ++ [new])
  | keep {request : Request} {read : List Gist} : Change clock organizationId request read read
  | revoke {keyId : PyStr} {before after : List Gist} {key : Gist} (hid : key.id = some keyId) :
      Change clock organizationId (.revoke organizationId keyId) (before ++ key :: after)
        (before ++ { key with active := false } :: after)
  | delete {keyId : PyStr} {read : List Gist} :
      Change clock organizationId (.delete organizationId keyId) read
        (read.filter fun key => key.id ≠ some keyId)
  | cleanup {order : List PyStr} {read : List Gist} {time : Timestamp} (htime : time ≤ clock) :
      Change clock organizationId (.cleanup order) read
        (read.filter fun key => ¬∃ t ∈ key.expires, t ≤ time)

variable {clock : Timestamp} {organizationId keyId : PyStr} {request : Request}
  {read written : List Gist} {key : Gist}

theorem Change.of_active (h : Change clock organizationId request read written)
    (hkey : key ∈ written) (hactive : key.active = true) :
    key ∈ read ∨ ∃ r, request = .create r ∧ key.id = some r.keyId := by
  cases h with
  | append _ hid =>
    rcases mem_append.mp hkey with hkey | hkey
    · exact .inl hkey
    · obtain rfl := mem_singleton.mp hkey
      exact .inr ⟨_, rfl, hid⟩
  | keep => exact .inl hkey
  | revoke hid =>
    rcases mem_append.mp hkey with hkey | hkey
    · exact .inl (mem_append_left _ hkey)
    · rcases mem_cons.mp hkey with rfl | hkey
      · cases hactive
      · exact .inl (mem_append_right _ (mem_cons_of_mem _ hkey))
  | delete => exact .inl (mem_filter.mp hkey).1
  | cleanup => exact .inl (mem_filter.mp hkey).1

theorem Change.of_mem (h : Change clock organizationId request read written)
    (hkey : key ∈ read) (hid : key.id = some keyId) :
    (∃ key' ∈ written, key'.id = some keyId) ∨ request = .delete organizationId keyId ∨
      ∃ order, request = .cleanup order ∧ ∃ t ∈ key.expires, t ≤ clock := by
  cases h with
  | append => exact .inl ⟨key, mem_append_left _ hkey, hid⟩
  | keep => exact .inl ⟨key, hkey, hid⟩
  | revoke =>
    rcases mem_append.mp hkey with hkey | hkey
    · exact .inl ⟨key, mem_append_left _ hkey, hid⟩
    · rcases mem_cons.mp hkey with rfl | hkey
      · exact .inl ⟨_, mem_append_right _ mem_cons_self, hid⟩
      · exact .inl ⟨key, mem_append_right _ (mem_cons_of_mem _ hkey), hid⟩
  | @delete deleted =>
    rcases eq_or_ne keyId deleted with rfl | hne
    · exact .inr (.inl rfl)
    · refine .inl ⟨key, mem_filter.mpr ⟨hkey, ?_⟩, hid⟩
      simpa [hid] using hne
  | @cleanup order _ time htime =>
    by_cases hexpired : ∃ t ∈ key.expires, t ≤ time
    · obtain ⟨t, ht, hle⟩ := hexpired
      exact .inr (.inr ⟨order, rfl, t, ht, le_trans hle htime⟩)
    · exact .inl ⟨key, mem_filter.mpr ⟨hkey, decide_eq_true hexpired⟩, hid⟩

end Changes

/-! ### What the operations make of a list -/

section Lists

variable {key : KeyData} {keys keys' : List KeyData} {keyId : PyStr}

theorem gist_set {name : String} (value : Json) (hid : name ≠ "key_id")
    (hactive : name ≠ "is_active") (hexpires : name ≠ "expires_at") :
    gist libraries (set key name value) = gist libraries key := by
  have hget : ∀ name', name ≠ name' →
      get? (set key name value) name' = get? key name' :=
    fun _ hne => get?_set_of_ne key value hne.symm
  simp only [gist, KeyData.keyId, isActive, expires, expiry, truthy?,
    hget _ hid, hget _ hactive, hget _ hexpires]

theorem gist_revoke (time : Timestamp) : gist libraries (revoke libraries key time) =
    { gist libraries key with active := false } := by
  rw [revoke, gist_set _ (by decide) (by decide) (by decide)]
  have hget : ∀ name', "is_active" ≠ name' →
      get? (set key "is_active" (.bool false)) name' =
        get? key name' :=
    fun _ hne => get?_set_of_ne key _ hne.symm
  have hself : get? (set key "is_active" (.bool false)) "is_active" =
      some (.bool false) := get?_set_self ..
  simp only [gist, KeyData.keyId, isActive, expires, expiry, truthy?, hself,
    hget "key_id" (by decide), hget "expires_at" (by decide)]
  rfl

theorem updateFirst_some {f : KeyData → KeyData} (h : updateFirst keyId f keys = some keys') :
    ∃ before key after, KeyData.keyId key = some keyId ∧ keys = before ++ key :: after ∧
      keys' = before ++ f key :: after := by
  induction keys generalizing keys' with
  | nil => cases h
  | cons first keys ih =>
    rw [updateFirst] at h
    split at h
    · next hid =>
        obtain rfl := some.inj h
        exact ⟨[], first, keys, hid, rfl, rfl⟩
    · obtain ⟨rest, hrest, rfl⟩ := map_eq_some_iff.mp h
      obtain ⟨before, key, after, hid, rfl, rfl⟩ := ih hrest
      exact ⟨first :: before, key, after, hid, rfl, rfl⟩

theorem gists_updateFirst {f : KeyData → KeyData}
    (hf : ∀ key, gist libraries (f key) = gist libraries key)
    (h : updateFirst keyId f keys = some keys') : gists libraries keys' = gists libraries keys := by
  obtain ⟨before, key, after, -, rfl, rfl⟩ := updateFirst_some h
  simp [hf]

theorem gists_without : gists libraries (without keyId keys) =
    (gists libraries keys).filter fun key => key.id ≠ some keyId := by
  rw [List.filter_map]
  rfl

theorem unexpired_eq_ok_iff {time : Timestamp} : unexpired libraries time keys = .ok keys' ↔
    (∀ key ∈ keys, ∃ expiresAt, expiry libraries key = .ok expiresAt) ∧
      keys' = keys.filter fun key => ¬∃ t ∈ expires libraries key, t ≤ time := by
  induction keys generalizing keys' with
  | nil => exact ⟨fun h => ⟨nofun, (Except.ok.inj h).symm⟩, fun h => congrArg Except.ok h.2.symm⟩
  | cons key keys ih =>
    rw [unexpired, forall_mem_cons]
    cases hexpiry : expiry libraries key with
    | error e => exact ⟨nofun, fun h => by obtain ⟨⟨⟨_, h⟩, -⟩, -⟩ := h; cases h⟩
    | ok expiresAt =>
      have hexpires : expires libraries key = expiresAt := by rw [expires, hexpiry]
      cases hrest : unexpired libraries time keys with
      | error e =>
        refine ⟨nofun, fun h => ?_⟩
        have hok := ih.mpr ⟨h.1.2, rfl⟩
        rw [hrest] at hok
        cases hok
      | ok rest =>
        obtain ⟨hall, rfl⟩ := ih.mp hrest
        have hkeep : (key :: keys).filter (fun key => ¬∃ t ∈ expires libraries key, t ≤ time) =
            if ∃ t ∈ expiresAt, t ≤ time then
              keys.filter fun key => ¬∃ t ∈ expires libraries key, t ≤ time
            else key :: keys.filter fun key => ¬∃ t ∈ expires libraries key, t ≤ time := by
          rw [filter_cons, hexpires]
          by_cases hover : ∃ t ∈ expiresAt, t ≤ time
          · rw [if_pos hover, if_neg (by simpa using hover)]
          · rw [if_neg hover, if_pos (by simpa using hover)]
        rw [hkeep]
        exact ⟨fun h => ⟨⟨⟨_, rfl⟩, hall⟩, (Except.ok.inj h).symm⟩,
          fun h => congrArg Except.ok h.2.symm⟩

theorem gists_unexpired {time : Timestamp} (h : unexpired libraries time keys = .ok keys') :
    gists libraries keys' =
      (gists libraries keys).filter fun key => ¬∃ t ∈ key.expires, t ≤ time := by
  rw [(unexpired_eq_ok_iff.mp h).2, List.filter_map]
  rfl

end Lists

/-! ### What a call keeps -/

section Calls

def Dead (store : ApiKeyStore) (organizationId keyId : PyStr) : Prop :=
  keyId ∈ store.seen organizationId ∧ ∀ keys ∈ store.organizations organizationId,
    ∀ key ∈ keys, KeyData.keyId key = some keyId → KeyData.isActive key = false

def Known (store : ApiKeyStore) : Prop :=
  ∀ organizationId keyId, Stored store organizationId keyId → keyId ∈ store.seen organizationId

def keyTerms : Terms (Clocked ApiKeyStore) where
  inv m := Known m.store
  rel m m' := m.clock ≤ m'.clock ∧
    ∀ organizationId keyId, Dead m.store organizationId keyId → Dead m'.store organizationId keyId
  rel_refl _ := ⟨le_rfl, fun _ _ h => h⟩
  rel_trans h h' := ⟨le_trans h.1 h'.1, fun _ _ hdead => h'.2 _ _ (h.2 _ _ hdead)⟩

def Promise (libraries : Libraries) (request : Request) (past : ApiKeyPast)
    (m : Clocked ApiKeyStore) : Timed Call → Prop
  | .call (.updateKeys id keys) => ∃ read, lastKeys id past = some read ∧
      Change m.clock id request (gists libraries read) (gists libraries keys)
  | _ => True

variable {organizationId keyId : PyStr} {request : Request} {past : ApiKeyPast}
  {m : Clocked ApiKeyStore} {c : Timed Call} {keys : List KeyData}

theorem changes_stored (hturn : InTurn libraries request past m
      (.call (.updateKeys organizationId keys)))
    (hpromise : Promise libraries request past m (.call (.updateKeys organizationId keys)))
    (hlink : m.link ≠ .down) : ∃ found, m.store.organizations organizationId = some found ∧
      Change m.clock organizationId request (gists libraries found) (gists libraries keys) ∧
      request.Fits (m.store.seen organizationId) found := by
  obtain ⟨read, hread, hchange⟩ := hpromise
  obtain ⟨hsame, hfits⟩ := hturn hlink
  rw [hread] at hsame
  obtain ⟨found, hfound, hgists⟩ := map_eq_some_iff.mp hsame
  exact ⟨found, hfound, hgists ▸ hchange, hfits found hfound⟩

theorem handle_updateKeys {found : List KeyData} (hlink : m.link ≠ .down)
    (hfound : m.store.organizations organizationId = some found) :
    (handle (.call (.updateKeys organizationId keys)) m).2.store =
      m.store.setKeys organizationId keys := by
  rw [handle_store, if_neg hlink, execute, hfound]

theorem mem_setKeys {store : ApiKeyStore} {keys' : List KeyData}
    (h : keys' ∈ (store.setKeys organizationId keys).organizations organizationId) :
    keys' = keys := by
  rw [ApiKeyStore.setKeys] at h
  dsimp only at h
  rw [update_self] at h
  exact (some.inj h).symm

theorem Known.setKeys {store : ApiKeyStore} (h : Known store) :
    Known (store.setKeys organizationId keys) := by
  rintro organizationId' keyId ⟨keys', hkeys', key, hkey, hid⟩
  rw [ApiKeyStore.setKeys] at hkeys' ⊢
  dsimp only at hkeys' ⊢
  rcases eq_or_ne organizationId' organizationId with rfl | hne
  · rw [update_self] at hkeys' ⊢
    obtain rfl := some.inj hkeys'
    exact mem_append_left _ (mem_filterMap.mpr ⟨key, hkey, hid⟩)
  · rw [update_of_ne hne] at hkeys' ⊢
    exact h organizationId' keyId ⟨keys', hkeys', key, hkey, hid⟩

theorem Dead.setKeys {store : ApiKeyStore} {organizationId' : PyStr}
    (h : Dead store organizationId' keyId)
    (hkeys : organizationId' = organizationId → ∀ key ∈ keys, KeyData.keyId key = some keyId →
      KeyData.isActive key = false) :
    Dead (store.setKeys organizationId keys) organizationId' keyId := by
  obtain ⟨hseen, hinactive⟩ := h
  rcases eq_or_ne organizationId' organizationId with rfl | hne
  · refine ⟨?_, fun keys' hkeys' => ?_⟩
    · rw [ApiKeyStore.setKeys]
      dsimp only
      rw [update_self]
      exact mem_append_right _ hseen
    · rw [mem_setKeys hkeys']
      exact hkeys rfl
  · rw [Dead, ApiKeyStore.setKeys]
    dsimp only
    rw [update_of_ne hne, update_of_ne hne]
    exact ⟨hseen, hinactive⟩

theorem keeps_of_store_eq {m' : Clocked ApiKeyStore} (hknown : Known m.store)
    (hstore : m'.store = m.store) (hclock : m.clock ≤ m'.clock) :
    keyTerms.inv m' ∧ keyTerms.rel m m' := by
  refine ⟨?_, hclock, fun _ _ h => ?_⟩
  · change Known m'.store
    rwa [hstore]
  · rwa [hstore]

theorem keeps_of_setKeys {m' : Clocked ApiKeyStore} (hknown : Known m.store)
    (hstore : m'.store = m.store.setKeys organizationId keys) (hclock : m.clock ≤ m'.clock)
    (hkeys : ∀ keyId, Dead m.store organizationId keyId → ∀ key ∈ keys,
      KeyData.keyId key = some keyId → KeyData.isActive key = false) :
    keyTerms.inv m' ∧ keyTerms.rel m m' := by
  refine ⟨?_, hclock, fun _ keyId h => ?_⟩
  · change Known m'.store
    rw [hstore]
    exact hknown.setKeys
  · rw [hstore]
    refine h.setKeys ?_
    rintro rfl
    exact hkeys keyId h

theorem handle_keeps (hknown : Known m.store) (hturn : InTurn libraries request past m c)
    (hpromise : Promise libraries request past m c) :
    keyTerms.inv (handle c m).2 ∧ keyTerms.rel m (handle c m).2 := by
  cases c with
  | now => exact ⟨hknown, keyTerms.rel_refl m⟩
  | call c =>
    by_cases hlink : m.link = .down
    · exact keeps_of_store_eq hknown (by rw [handle_store, if_pos hlink]) le_rfl
    · cases c with
      | selectKeys | selectAll =>
        exact keeps_of_store_eq hknown (by rw [handle_store, if_neg hlink]; rfl) le_rfl
      | insertOrganization id =>
        cases hfound : m.store.organizations id with
        | some keys =>
          exact keeps_of_store_eq hknown
            (by rw [handle_store, if_neg hlink, execute, hfound]) le_rfl
        | none =>
          exact keeps_of_setKeys hknown
            (by rw [handle_store, if_neg hlink, execute, hfound]) le_rfl
            fun _ _ _ hkey => absurd hkey not_mem_nil
      | updateKeys id keys =>
        obtain ⟨found, hfound, hchange, hfits⟩ := changes_stored hturn hpromise hlink
        refine keeps_of_setKeys hknown (handle_updateKeys hlink hfound) le_rfl ?_
        intro keyId hdead key hkey hid
        by_contra hactive
        rcases hchange.of_active (mem_map_of_mem hkey)
          (Bool.eq_true_of_not_eq_false hactive) with hold | ⟨r, rfl, hnew⟩
        · obtain ⟨key', hkey', heq⟩ := mem_map.mp hold
          have hid' : KeyData.keyId key' = some keyId := (congrArg Gist.id heq).trans hid
          have hsame : isActive key' = isActive key := congrArg Gist.active heq
          rw [← hsame] at hactive
          exact hactive (hdead.2 found hfound key' hkey' hid')
        · have hid' : some keyId = some r.keyId := hid.symm.trans hnew
          obtain rfl := some.inj hid'
          exact hfits hdead.1

end Calls

/-! ### Programs -/

section Programs

variable {α β : Type} {request : Request} {organizationId keyId : PyStr} {past : ApiKeyPast}
  {m m₀ : Clocked ApiKeyStore} {keys : List KeyData}

/-- A program keeps the promises of a request, as long as its writes are in turn. -/
abbrev KeySound (libraries : Libraries) (request : Request)
    (Q : Except ApiKeyError α → ApiKeyPast → Clocked ApiKeyStore → Prop) (p : ApiKeyM α)
    (past : ApiKeyPast) (m : Clocked ApiKeyStore) : Prop :=
  p.Sound keyTerms handle (InTurn libraries request) (Promise libraries request) Q past m

abbrev OnReturn (Q : α → ApiKeyPast → Clocked ApiKeyStore → Prop) :
    Except ApiKeyError α → ApiKeyPast → Clocked ApiKeyStore → Prop
  | .ok a, past, m => Q a past m
  | .error _, _, _ => True

variable {Q : β → ApiKeyPast → Clocked ApiKeyStore → Prop} {order : List PyStr} {key : KeyData}

theorem sound_selectKeys {f : Option (List KeyData) → ApiKeyM β}
    (hnone : ∀ past m, KeySound libraries request (OnReturn Q) (f none) past m)
    (hsome : ∀ keys past m, lastKeys organizationId past = some keys →
      KeySound libraries request (OnReturn Q) (f (some keys)) past m) :
    KeySound libraries request (OnReturn Q) (ask (.selectKeys organizationId) >>= f) past m := by
  intro m' _ _
  refine ⟨trivial, fun _ => ?_⟩
  have hf : m'.link = .up → KeySound libraries request (OnReturn Q)
      (f (m'.store.organizations organizationId))
      ((m', .call (.selectKeys organizationId)) :: past) m' := by
    intro hlink
    cases hfound : m'.store.organizations organizationId with
    | none => exact hnone _ _
    | some keys =>
      have hread :
          readBy organizationId (m', .call (.selectKeys organizationId)) = some keys := by
        rw [readBy, if_pos ⟨rfl, hlink⟩, hfound]
      exact hsome keys _ _ (by rw [lastKeys, List.findSome?_cons, hread])
  obtain ⟨store, clock, link⟩ := m'
  cases link with
  | up => exact hf rfl
  | down => exact fun _ _ _ => trivial
  | lost => exact fun _ _ _ => trivial

theorem sound_now {f : Timestamp → ApiKeyM β}
    (hf : ∀ m', keyTerms.rel m m' →
      KeySound libraries request (OnReturn Q) (f m'.clock) ((m', .now) :: past) m') :
    KeySound libraries request (OnReturn Q) (now >>= f) past m :=
  Prog.sound_now fun m' hm' _ => ⟨trivial, hf m' hm'⟩

theorem sound_updateKeys {f : ℕ → ApiKeyM β} {read : List KeyData}
    (hread : lastKeys organizationId past = some read)
    (hchange : ∀ clock, m.clock ≤ clock →
      Change clock organizationId request (gists libraries read) (gists libraries keys))
    (hf : ∀ count m₁ found, m₁.link = .up → Known m₁.store →
      m₁.store.organizations organizationId = some found →
      gists libraries found = gists libraries read →
      request.Fits (m₁.store.seen organizationId) found →
      KeySound libraries request (OnReturn Q) (f count)
        ((m₁, .call (.updateKeys organizationId keys)) :: past)
        { m₁ with store := m₁.store.setKeys organizationId keys }) :
    KeySound libraries request (OnReturn Q) (ask (.updateKeys organizationId keys) >>= f) past
      m := by
  intro m₁ hm₁ hknown
  refine ⟨⟨read, hread, hchange m₁.clock hm₁.1⟩, fun hturn => ?_⟩
  have hf : m₁.link = .up → ∃ found, m₁.store.organizations organizationId = some found ∧
      KeySound libraries request (OnReturn Q) (f 1)
        ((m₁, .call (.updateKeys organizationId keys)) :: past)
        { m₁ with store := m₁.store.setKeys organizationId keys } := by
    intro hlink
    obtain ⟨hsame, hfits⟩ := hturn (by rw [hlink]; decide)
    rw [hread] at hsame
    obtain ⟨found, hfound, hgists⟩ := map_eq_some_iff.mp hsame
    exact ⟨found, hfound, hf 1 m₁ found hlink hknown hfound hgists (hfits found hfound)⟩
  obtain ⟨store, clock, link⟩ := m₁
  cases link with
  | up =>
    obtain ⟨found, hfound, hf⟩ := hf rfl
    have hhandle : handle (.call (.updateKeys organizationId keys)) ⟨store, clock, .up⟩ =
        (.ok (1 : ℕ), ⟨store.setKeys organizationId keys, clock, .up⟩) := by
      have hexecute : execute (.updateKeys organizationId keys) store =
          (.ok (1 : ℕ), store.setKeys organizationId keys) := by
        simp only [execute, show store.organizations organizationId = some found from hfound]
      rw [handle, Clocked.handle, hexecute]
      rfl
    rw [hhandle]
    exact hf
  | down => exact fun _ _ _ => trivial
  | lost => exact fun _ _ _ => trivial

theorem dead_setKeys {store : ApiKeyStore}
    (hseen : keyId ∈ keys.filterMap KeyData.keyId ++ store.seen organizationId)
    (hinactive : ∀ key ∈ keys, KeyData.keyId key = some keyId → KeyData.isActive key = false) :
    Dead (store.setKeys organizationId keys) organizationId keyId := by
  refine ⟨?_, fun keys' hkeys' => ?_⟩
  · rw [ApiKeyStore.setKeys]
    dsimp only
    rwa [update_self]
  · rw [mem_setKeys hkeys']
    exact hinactive

theorem countP_gists (libraries : Libraries) :
    (gists libraries keys).countP (fun key => key.id = some keyId) =
      keys.countP fun key => KeyData.keyId key = some keyId := by
  rw [countP_map]
  rfl

theorem inactive_of_revoked {before after : List KeyData} {time : Timestamp}
    (hid : KeyData.keyId key = some keyId)
    (hcount : (before ++ key :: after).countP (fun key => KeyData.keyId key = some keyId) ≤ 1) :
    ∀ key' ∈ before ++ revoke libraries key time :: after,
      KeyData.keyId key' = some keyId → KeyData.isActive key' = false := by
  intro key' hkey' hid'
  have hothers : ∀ l : List KeyData, key' ∈ l →
      0 < l.countP (fun key => KeyData.keyId key = some keyId) :=
    fun l hl => countP_pos_iff.mpr ⟨key', hl, decide_eq_true hid'⟩
  rw [countP_append, countP_cons, if_pos (decide_eq_true hid)] at hcount
  rcases mem_append.mp hkey' with hbefore | hrest
  · have := hothers before hbefore
    omega
  · rcases mem_cons.mp hrest with rfl | hafter
    · have hgist : gist libraries (revoke libraries key time) = _ := gist_revoke time
      exact congrArg Gist.active hgist
    · have := hothers after hafter
      omega

theorem revokeApiKey_sound : KeySound libraries (.revoke organizationId keyId)
    (OnReturn fun success _ m => success = true → Dead m.store organizationId keyId)
    (revokeApiKey libraries organizationId keyId) past m := by
  refine Sound.tryCatch (Q := OnReturn fun success _ m => success = true →
    Dead m.store organizationId keyId) ?_ (fun _ _ _ h => h) fun _ _ _ _ _ _ _ => nofun
  refine sound_selectKeys (fun _ _ _ _ _ => trivial) fun read past m hread => ?_
  refine sound_now fun m' _ => ?_
  cases hupdate : updateFirst keyId (revoke libraries · m'.clock) read with
  | none => exact fun _ _ _ => trivial
  | some keys =>
    obtain ⟨before, key, after, hid, rfl, rfl⟩ := updateFirst_some hupdate
    refine sound_updateKeys hread (fun _ _ => ?_) fun count m₁ found _ _ _ hgists hfits => ?_
    · rw [gists, gists, map_append, map_cons, map_append, map_cons,
        gist_revoke]
      exact .revoke hid
    · intro m₂ hm₂ _ _
      refine hm₂.2 _ _ (dead_setKeys ?_ (inactive_of_revoked hid ?_))
      · refine mem_append_left _ (mem_filterMap.mpr
          ⟨_, mem_append_right _ mem_cons_self, ?_⟩)
        have hgist : gist libraries (revoke libraries key m'.clock) = _ :=
          gist_revoke m'.clock
        exact (congrArg Gist.id hgist).trans hid
      · rw [← countP_gists libraries, ← hgists, countP_gists]
        exact hfits

theorem deleteApiKey_sound : KeySound libraries (.delete organizationId keyId)
    (OnReturn fun success _ m => success = true → Dead m.store organizationId keyId)
    (deleteApiKey organizationId keyId) past m := by
  refine Sound.tryCatch (Q := OnReturn fun success _ m => success = true →
    Dead m.store organizationId keyId) ?_ (fun _ _ _ h => h) fun _ _ _ _ _ _ _ => nofun
  refine sound_selectKeys (fun _ _ _ _ _ => trivial) fun read past m hread => ?_
  dsimp only
  split
  · exact fun _ _ _ => trivial
  · next hlength =>
      refine sound_updateKeys hread (fun _ _ => ?_)
        fun count m₁ found _ hknown hfound hgists _ => ?_
      · rw [gists_without]
        exact .delete
      · intro m₂ hm₂ _ _
        have hread : ∃ key ∈ read, KeyData.keyId key = some keyId := by
          by_contra hnone
          refine hlength (congrArg length (filter_eq_self.mpr fun key hkey => ?_))
          exact decide_eq_true fun hid => hnone ⟨key, hkey, hid⟩
        obtain ⟨key, hkey, hid⟩ := hread
        have hmem : gist libraries key ∈ gists libraries found :=
          hgists ▸ mem_map_of_mem hkey
        obtain ⟨key', hkey', heq⟩ := mem_map.mp hmem
        have hseen := hknown organizationId keyId
          ⟨found, hfound, key', hkey', (congrArg Gist.id heq).trans hid⟩
        refine hm₂.2 _ _ (dead_setKeys (mem_append_right _ hseen) fun key hkey hid' => ?_)
        exact absurd hid' (of_decide_eq_true (mem_filter.mp hkey).2)

theorem updateApiKeyRateLimits_sound {rateLimits : JsonDict} :
    KeySound libraries (.updateRateLimits organizationId keyId rateLimits)
      (OnReturn fun _ _ _ => True)
      (updateApiKeyRateLimits organizationId keyId rateLimits) past m := by
  refine Sound.tryCatch (Q := OnReturn fun _ _ _ => True) ?_ (fun _ _ _ h => h)
    fun _ _ _ _ _ _ _ => trivial
  refine sound_selectKeys (fun _ _ _ _ _ => trivial) fun read past m hread => ?_
  dsimp only
  split
  · exact fun _ _ _ => trivial
  · next keys hupdate =>
      refine sound_updateKeys hread (fun _ _ => ?_) fun _ _ _ _ _ _ _ _ => fun _ _ _ => trivial
      rw [gists_updateFirst (fun _ => gist_set _ (by decide) (by decide) (by decide)) hupdate]
      exact .keep

def Wrote (organizationId keyId : PyStr) : Clocked ApiKeyStore × Timed Call → Prop
  | (m, .call (.updateKeys id keys)) => id = organizationId ∧ m.link ≠ .down ∧
      ∃ key ∈ keys, KeyData.keyId key = some keyId
  | _ => False

theorem keysOrInsert_sound : KeySound libraries request
    (OnReturn fun keys past _ => lastKeys organizationId past = some keys)
    (keysOrInsert organizationId) past m := by
  refine sound_selectKeys (fun past m m' _ _ => ⟨trivial, fun _ => ?_⟩)
    fun keys past m hread _ _ _ => hread
  cases (handle (.call (.insertOrganization organizationId)) m').1 with
  | ok _ =>
    exact sound_selectKeys (fun _ _ _ _ _ => trivial) fun _ _ _ hread _ _ _ => hread
  | error _ => exact fun _ _ _ => trivial

theorem createApiKey_sound (r : CreateRequest) : KeySound libraries (.create r)
    (OnReturn fun _ past _ => ∃ e ∈ past, Wrote r.organizationId r.keyId e)
    (createApiKey libraries r) past m := by
  rw [createApiKey]
  split
  · exact fun _ _ _ => trivial
  · split
    · exact fun _ _ _ => trivial
    · refine sound_now fun m' _ => ?_
      refine Sound.bind keysOrInsert_sound (fun keys past m hread => ?_)
        fun _ _ _ _ => trivial
      refine sound_updateKeys hread (fun _ _ => ?_) fun count m₁ found hlink _ _ _ _ => ?_
      · rw [gists, gists, map_append]
        exact .append rfl rfl
      · have hwrote : ∀ ownerType, Wrote r.organizationId r.keyId (m₁, .call (.updateKeys
            r.organizationId (keys ++ [r.key libraries ownerType m'.clock]))) :=
          fun _ => ⟨rfl, by rw [hlink]; decide, _, mem_append_right _ mem_cons_self, rfl⟩
        split
        · exact fun _ _ _ => trivial
        · exact fun _ _ _ => ⟨_, mem_cons_self, hwrote _⟩

theorem hasExpired_sound (hread : lastKeys organizationId past = some keys) :
    KeySound libraries request (OnReturn fun _ past _ => lastKeys organizationId past = some keys)
      (hasExpired libraries key) past m := by
  rw [hasExpired]
  split
  · exact fun _ _ _ => hread
  · split
    · exact fun _ _ _ => trivial
    · exact fun _ _ _ => ⟨trivial, fun _ _ _ _ => hread⟩

theorem checkKey_sound {apiKey : PyStr} {projectId ipAddress : Option PyStr}
    {before after : List KeyData}
    (hread : lastKeys organizationId past = some (before ++ key :: after)) :
    KeySound libraries (.validate apiKey projectId ipAddress order)
      (OnReturn fun result _ _ => ∀ valid, result = .ok valid →
        valid.organizationId = organizationId ∧ KeyData.keyId valid.key = KeyData.keyId key)
      (checkKey libraries projectId ipAddress (organizationId, before, key, after)) past m := by
  have htouch : ∀ time, gist libraries (touch libraries key time) = gist libraries key :=
    fun _ => gist_set _ (by decide) (by decide) (by decide)
  rw [checkKey]
  split
  · exact fun _ _ _ => trivial
  · split
    · exact fun _ _ _ _ h => by cases h
    · refine Sound.bind (hasExpired_sound hread) (fun expired past m hread => ?_)
        fun _ _ _ _ => trivial
      split
      · exact fun _ _ _ _ h => by cases h
      · refine sound_now fun m' _ => ?_
        refine sound_updateKeys hread (fun _ _ => ?_)
          fun _ _ _ _ _ _ _ _ _ _ _ valid hvalid => ?_
        · rw [gists, gists, map_append, map_cons, map_append, map_cons, htouch]
          exact .keep
        · obtain rfl := Except.ok.inj hvalid
          exact ⟨rfl, congrArg Gist.id (htouch m'.clock)⟩

theorem validateApiKey_sound {apiKey : PyStr} {projectId ipAddress : Option PyStr} :
    KeySound libraries (.validate apiKey projectId ipAddress order)
      (OnReturn fun result _ _ => ∀ valid, result = .ok valid →
        ∀ keyId, Dead m.store valid.organizationId keyId → KeyData.keyId valid.key ≠ some keyId)
      (validateApiKey libraries apiKey projectId ipAddress order) past m := by
  refine Sound.tryCatch (Q := OnReturn fun result _ _ => ∀ valid, result = .ok valid →
    ∀ keyId, Dead m.store valid.organizationId keyId → KeyData.keyId valid.key ≠ some keyId) ?_
    (fun _ _ _ h => h) fun _ _ _ _ _ _ _ _ h => by cases h
  intro m' hm' _
  refine ⟨trivial, fun _ => ?_⟩
  have hrows : m'.link = .up → ∀ found, findRow (libraries.hash apiKey)
      (order.filterMap fun id => (m'.store.organizations id).map (id, ·)) = some found →
      ∀ m'', KeySound libraries (.validate apiKey projectId ipAddress order)
        (OnReturn fun result _ _ => ∀ valid, result = .ok valid →
          ∀ keyId, Dead m.store valid.organizationId keyId → KeyData.keyId valid.key ≠ some keyId)
        (checkKey libraries projectId ipAddress found)
        ((m', .call (.selectAll order)) :: past) m'' := by
    rintro hlink ⟨organizationId, before, key, after⟩ hfound m''
    obtain ⟨hrow, hlive⟩ := findRow_some hfound
    have hstored := mem_rows hrow
    have hread : readBy organizationId (m', .call (.selectAll order)) =
        some (before ++ key :: after) := by
      rw [readBy, if_pos ⟨mem_order hrow, hlink⟩, hstored]
    refine (checkKey_sound (by rw [lastKeys, List.findSome?_cons, hread])).mono
      fun r past' m₁ h => ?_
    cases r with
    | error e => trivial
    | ok result =>
      intro valid hvalid keyId hdead hid
      obtain ⟨rfl, hkey⟩ := h valid hvalid
      have hinactive := (hm'.2 _ _ hdead).2 _ hstored key (by simp) (hkey ▸ hid)
      rw [hlive.2] at hinactive
      cases hinactive
  obtain ⟨store, clock, link⟩ := m'
  cases link with
  | up =>
    simp only [Prog.bind, handle, Clocked.handle, Link.pass, execute]
    split
    · exact fun _ _ _ _ h => by cases h
    · next found hfound => exact hrows rfl found hfound _
  | down => exact fun _ _ _ => trivial
  | lost => exact fun _ _ _ => trivial

theorem cleanupRows_sound {rows : List OrganizationRow}
    (hrows : ∀ row ∈ rows, lastKeys row.1 past = some row.2) :
    KeySound libraries (.cleanup order) (OnReturn fun _ _ _ => True) (cleanupRows libraries rows)
      past m := by
  induction rows generalizing past m with
  | nil => exact fun _ _ _ => trivial
  | cons row rows ih =>
    refine sound_now fun m' _ => ?_
    cases hunexpired : unexpired libraries m'.clock row.2 with
    | error e => exact fun _ _ _ => trivial
    | ok keys =>
      change KeySound libraries (.cleanup order) _ (if keys.length = row.2.length then
        cleanupRows libraries rows else _) _ _
      split
      · exact ih fun row' hrow' => hrows row' (mem_cons_of_mem _ hrow')
      · refine sound_updateKeys (hrows row mem_cons_self) (fun clock hclock => ?_)
          fun _ _ _ _ _ _ _ _ => ?_
        · rw [gists_unexpired hunexpired]
          exact .cleanup hclock
        · refine Sound.bind (ih ?_) (fun _ _ _ _ _ _ _ => trivial) fun _ _ _ _ => trivial
          exact fun row' hrow' => hrows row' (mem_cons_of_mem _ hrow')

def Outcome (m₀ : Clocked ApiKeyStore) (request : Request) (response : Response)
    (past : ApiKeyPast) (m : Clocked ApiKeyStore) : Prop :=
  match response with
  | .created _ => ∀ r, request = .create r → ∃ e ∈ past, Wrote r.organizationId r.keyId e
  | .validated result => ∀ valid, result = .ok valid →
      ∀ keyId, Dead m₀.store valid.organizationId keyId → KeyData.keyId valid.key ≠ some keyId
  | .revoked success => ∀ organizationId keyId, request = .revoke organizationId keyId →
      success = true → Dead m.store organizationId keyId
  | .deleted success => ∀ organizationId keyId, request = .delete organizationId keyId →
      success = true → Dead m.store organizationId keyId
  | .rateLimits _ | .removed _ => True

theorem serve_sound : KeySound libraries request (OnReturn (Outcome m request))
    (request.serve libraries) past m := by
  cases request with
  | create r =>
    refine Sound.bind (createApiKey_sound r) (fun key past m h => ?_) fun _ _ _ _ => trivial
    rintro _ _ _ _ ⟨⟩
    exact h
  | validate =>
    exact Sound.bind validateApiKey_sound (fun _ _ _ h _ _ _ => h) fun _ _ _ _ => trivial
  | revoke =>
    refine Sound.bind revokeApiKey_sound (fun _ _ _ h => ?_) fun _ _ _ _ => trivial
    rintro m' hm' _ _ _ ⟨⟩ hsuccess
    exact hm'.2 _ _ (h hsuccess)
  | delete =>
    refine Sound.bind deleteApiKey_sound (fun _ _ _ h => ?_) fun _ _ _ _ => trivial
    rintro m' hm' _ _ _ ⟨⟩ hsuccess
    exact hm'.2 _ _ (h hsuccess)
  | updateRateLimits =>
    exact Sound.bind updateApiKeyRateLimits_sound (fun _ _ _ _ _ _ _ => trivial)
      fun _ _ _ _ => trivial
  | cleanup order =>
    have hrows : KeySound libraries (.cleanup order) (OnReturn fun _ _ _ => True)
        (cleanupExpiredKeys libraries order) past m := by
      refine Sound.tryCatch (Q := OnReturn fun _ _ _ => True) ?_ (fun _ _ _ h => h)
        fun _ _ _ _ _ _ _ => trivial
      intro m' _ _
      refine ⟨trivial, fun _ => ?_⟩
      have hread : m'.link = .up → ∀ row ∈ order.filterMap fun id =>
          (m'.store.organizations id).map (id, ·),
          lastKeys row.1 ((m', .call (.selectAll order)) :: past) = some row.2 := by
        intro hlink row hrow
        have hread : readBy row.1 (m', .call (.selectAll order)) = some row.2 := by
          rw [readBy, if_pos ⟨mem_order hrow, hlink⟩, mem_rows hrow]
        rw [lastKeys, List.findSome?_cons, hread]
      obtain ⟨store, clock, link⟩ := m'
      cases link with
      | up => exact cleanupRows_sound (hread rfl)
      | down => exact fun _ _ _ => trivial
      | lost => exact fun _ _ _ => trivial
    exact Sound.bind hrows (fun _ _ _ _ _ _ _ => trivial) fun _ _ _ _ => trivial

end Programs

/-! ### Runs -/

section Runs

variable {ι : Type*} [DecidableEq ι] {requests : ι → Request} {m : Clocked ApiKeyStore}
  {pool pool' : ApiKeyPool ι} {organizationId keyId : PyStr} {past : ι → ApiKeyPast}
  {e : Clocked ApiKeyStore × Timed Call} {i : ι} {c : Timed Call}

theorem keeps_of_shifts (m m' : Clocked ApiKeyStore) (hknown : Known m.store)
    (h : Clocked.Shifts m m') : keyTerms.inv m' ∧ keyTerms.rel m m' :=
  keeps_of_store_eq hknown h.1 h.2

abbrev InTurnRun (libraries : Libraries) (requests : ι → Request) :
    ApiKeyPool ι → ApiKeyPool ι → Prop :=
  ApiKeyRun fun i => InTurn libraries (requests i)

theorem allSound (hknown : Known m.store)
    (hpool : InTurnRun libraries requests (ApiKeyPool.start libraries requests m) pool) :
    Pool.AllSound keyTerms handle (fun i => InTurn libraries (requests i))
      (fun i => Promise libraries (requests i)) (fun i => OnReturn (Outcome m (requests i))) pool :=
  hpool.sound ⟨hknown, fun _ => serve_sound⟩ (fun _ _ _ _ h => h)
    (fun _ _ _ _ hinv hturn hpromise => handle_keeps hinv hturn hpromise) keeps_of_shifts

theorem dead_of_ended (hknown : Known m.store)
    (hpool : InTurnRun libraries requests (ApiKeyPool.start libraries requests m) pool)
    (hended : Ended requests pool i organizationId keyId) :
    Dead pool.state.store organizationId keyId := by
  rcases hended with ⟨hi, hret⟩ | ⟨hi, hret⟩
  · exact (allSound hknown hpool).of_ret hret _ _ hi rfl
  · exact (allSound hknown hpool).of_ret hret _ _ hi rfl

theorem revokedStay (hknown : Known m.store)
    (hpool : InTurnRun libraries requests (ApiKeyPool.start libraries requests m) pool)
    (hpool' : InTurnRun libraries requests pool pool') : RevokedStay requests pool pool' := by
  intro i organizationId keyId hended j hj valid hvalid horganization
  have hsound := allSound hknown hpool
  have hsound' : Pool.AllSound keyTerms handle (fun i => InTurn libraries (requests i))
      (fun i => Promise libraries (requests i))
      (fun i r past m' => i = j → OnReturn (Outcome pool.state (requests i)) r past m') pool' := by
    refine hpool'.sound ⟨hsound.1, fun i' => ?_⟩ (fun _ _ _ _ h => h)
      (fun _ _ _ _ hinv hturn hpromise => handle_keeps hinv hturn hpromise) keeps_of_shifts
    rcases eq_or_ne i' j with rfl | hne
    · have hprog : pool.progs i' = (requests i').serve libraries := hpool.progs_of_past_nil hj
      rw [hprog]
      exact serve_sound.mono fun _ _ _ h _ => h
    · exact (hsound.2 i').mono fun _ _ _ _ h => absurd h hne
  have houtcome := hsound'.of_ret hvalid rfl
  refine houtcome valid rfl keyId ?_
  rw [horganization]
  exact dead_of_ended hknown hpool hended

def Accounted (libraries : Libraries) (requests : ι → Request) (store : ApiKeyStore)
    (past : ι → ApiKeyPast) : Prop :=
  ∀ organizationId keyId, (∃ i, ∃ e ∈ past i, Wrote organizationId keyId e) →
    Stored store organizationId keyId ∨
      ∃ j, ∃ e ∈ past j, Removes libraries (requests j) organizationId keyId e

theorem exists_mem_update {P : ι → Clocked ApiKeyStore × Timed Call → Prop}
    (h : ∃ j, ∃ e' ∈ past j, P j e') :
    ∃ j, ∃ e' ∈ Function.update past i (e :: past i) j, P j e' := by
  obtain ⟨j, e', he', hP⟩ := h
  refine ⟨j, e', ?_, hP⟩
  rcases eq_or_ne j i with rfl | hne
  · rw [update_self]
    exact mem_cons_of_mem _ he'
  · rwa [update_of_ne hne]

theorem exists_mem_update_self {P : ι → Clocked ApiKeyStore × Timed Call → Prop} (h : P i e) :
    ∃ j, ∃ e' ∈ Function.update past i (e :: past i) j, P j e' :=
  ⟨i, e, by rw [update_self]; exact mem_cons_self, h⟩

theorem exists_mem_of_update {P : Clocked ApiKeyStore × Timed Call → Prop}
    (h : ∃ j, ∃ e' ∈ Function.update past i (e :: past i) j, P e') :
    P e ∨ ∃ j, ∃ e' ∈ past j, P e' := by
  obtain ⟨j, e', he', hP⟩ := h
  rcases eq_or_ne j i with rfl | hne
  · rw [update_self] at he'
    rcases mem_cons.mp he' with rfl | he'
    · exact .inl hP
    · exact .inr ⟨j, e', he', hP⟩
  · rw [update_of_ne hne] at he'
    exact .inr ⟨j, e', he', hP⟩

theorem exists_of_wrote (h : Wrote organizationId keyId (m, c)) :
    ∃ keys, c = .call (.updateKeys organizationId keys) ∧ m.link ≠ .down ∧
      ∃ key ∈ keys, KeyData.keyId key = some keyId := by
  cases c with
  | now => exact h.elim
  | call c =>
    cases c with
    | updateKeys id keys =>
      obtain ⟨rfl, hlink, hkey⟩ := h
      exact ⟨keys, rfl, hlink, hkey⟩
    | selectKeys | selectAll | insertOrganization => exact h.elim

theorem Stored.handle (h : Stored m.store organizationId keyId)
    (hc : ∀ keys, c = .call (.updateKeys organizationId keys) → m.link = .down) :
    Stored (handle c m).2.store organizationId keyId := by
  cases c with
  | now => exact h
  | call c =>
    rw [handle_store]
    split
    · exact h
    · next hlink =>
        obtain ⟨keys, hkeys, hkey⟩ := h
        cases c with
        | selectKeys | selectAll => exact ⟨keys, hkeys, hkey⟩
        | insertOrganization id =>
          rw [execute]
          split
          · exact ⟨keys, hkeys, hkey⟩
          · next hnone =>
              have hne : organizationId ≠ id := by
                rintro rfl
                rw [hnone] at hkeys
                cases hkeys
              exact ⟨keys, (update_of_ne hne _ _).trans hkeys, hkey⟩
        | updateKeys id keys' =>
          have hne : organizationId ≠ id := by
            rintro rfl
            exact hlink (hc keys' rfl)
          rw [execute]
          split
          · exact ⟨keys, (update_of_ne hne _ _).trans hkeys, hkey⟩
          · exact ⟨keys, hkeys, hkey⟩

theorem stored_setKeys {store : ApiKeyStore} {keys : List KeyData}
    (h : ∃ key ∈ keys, KeyData.keyId key = some keyId) :
    Stored (store.setKeys organizationId keys) organizationId keyId := by
  refine ⟨keys, ?_, h⟩
  rw [ApiKeyStore.setKeys]
  dsimp only
  rw [update_self]
  rfl

theorem removes_of_change {keys found : List KeyData} {request : Request}
    (hlink : m.link ≠ .down) (hfound : m.store.organizations organizationId = some found)
    (hchange : Change m.clock organizationId request (gists libraries found)
      (gists libraries keys))
    (hstored : Stored m.store organizationId keyId)
    (hgone : ¬∃ key ∈ keys, KeyData.keyId key = some keyId) :
    Removes libraries request organizationId keyId
      (m, .call (.updateKeys organizationId keys)) := by
  obtain ⟨found', hfound', key, hkey, hid⟩ := hstored
  rw [hfound] at hfound'
  obtain rfl := some.inj hfound'
  have hid' : (gist libraries key).id = some keyId := hid
  rcases hchange.of_mem (mem_map_of_mem hkey) hid' with
    ⟨new, hnew, hnewId⟩ | rfl | ⟨order, rfl, t, ht, hle⟩
  · obtain ⟨key', hkey', rfl⟩ := mem_map.mp hnew
    exact absurd ⟨key', hkey', hnewId⟩ hgone
  · exact ⟨rfl, hlink, rfl⟩
  · exact ⟨rfl, hlink, found, hfound, key, hkey, hid, t, ht, hle⟩

theorem Accounted.handle (h : Accounted libraries requests m.store past)
    (hturn : InTurn libraries (requests i) (past i) m c)
    (hpromise : Promise libraries (requests i) (past i) m c) :
    Accounted libraries requests (ApiKeys.handle c m).2.store
      (Function.update past i ((m, c) :: past i)) := by
  intro organizationId keyId hwrote
  have hold := exists_mem_of_update hwrote
  by_cases hwrite : ∃ keys, c = .call (.updateKeys organizationId keys) ∧ m.link ≠ .down
  · obtain ⟨keys, rfl, hlink⟩ := hwrite
    obtain ⟨found, hfound, hchange, -⟩ := changes_stored hturn hpromise hlink
    rw [handle_updateKeys hlink hfound]
    by_cases hkey : ∃ key ∈ keys, KeyData.keyId key = some keyId
    · exact .inl (stored_setKeys hkey)
    · right
      rcases hold with hnew | hold
      · exact absurd hnew.2.2 hkey
      · rcases h organizationId keyId hold with hstored | hremoved
        · exact exists_mem_update_self
            (removes_of_change hlink hfound hchange hstored hkey)
        · exact exists_mem_update hremoved
  · rcases hold with hnew | hold
    · obtain ⟨keys, hc, hlink, -⟩ := exists_of_wrote hnew
      exact absurd ⟨keys, hc, hlink⟩ hwrite
    · rcases h organizationId keyId hold with hstored | hremoved
      · refine .inl (hstored.handle fun keys hc => ?_)
        by_contra hlink
        exact hwrite ⟨keys, hc, hlink⟩
      · exact .inr (exists_mem_update hremoved)

theorem noneLost (hknown : Known m.store)
    (hpool : InTurnRun libraries requests (ApiKeyPool.start libraries requests m) pool) :
    NoneLost requests libraries pool := by
  have haccounted : Accounted libraries requests pool.state.store pool.past := by
    refine hpool.invariant (J := fun m past => Accounted libraries requests m.store past)
      ⟨hknown, fun _ => serve_sound⟩ (fun _ _ _ _ h => h)
      (fun _ _ _ _ hinv hturn hpromise => handle_keeps hinv hturn hpromise) keeps_of_shifts ?_ ?_ ?_
    · rintro _ _ ⟨_, _, he, _⟩
      cases he
    · intro m m' past hshifts h
      rw [hshifts.1]
      exact h
    · exact fun i past m c _ hturn hpromise h => h.handle hturn hpromise
  intro i r key hi hret
  exact haccounted _ _ ⟨i, (allSound hknown hpool).of_ret hret r hi⟩

/-- **A revoked key stays revoked and no key is lost**, in every run whose executed writes find the
keys that were read, a new key has an id that was never seen, and a key that is revoked is the only
one with its id. -/
theorem keys_kept (libraries : Libraries) {ι : Type*} [DecidableEq ι] (requests : ι → Request)
    (m : Clocked ApiKeyStore)
    (hknown : ∀ organizationId keyId, Stored m.store organizationId keyId →
      keyId ∈ m.store.seen organizationId) (pool pool' : ApiKeyPool ι)
    (hpool : ApiKeyRun (fun i => InTurn libraries (requests i))
      (ApiKeyPool.start libraries requests m) pool)
    (hpool' : ApiKeyRun (fun i => InTurn libraries (requests i)) pool pool') :
    RevokedStay requests pool pool' ∧ NoneLost requests libraries pool' :=
  ⟨revokedStay hknown hpool hpool', noneLost hknown (hpool.trans hpool')⟩

end Runs

/-! ### A validation of another key -/

def activeKey (keyId hash : PyStr) : KeyData :=
  [("key_id", .str keyId), ("key_hash", .str hash), ("is_active", .bool true)]

def twoKeys : Clocked ApiKeyStore where
  store :=
    { organizations := fun id =>
        if id = ['o'] then some [activeKey ['k'] ['a'], activeKey ['l'] ['b']] else none
      seen := fun _ => [['k'], ['l']] }
  clock := 0
  link := .up

def validateAndRevoke : Fin 4 → Request
  | 0 => .validate ['a'] none none [['o']]
  | 1 => .revoke ['o'] ['l']
  | 2 => .create { organizationId := ['o'], name := ['n'], keyId := ['m'], apiKey := ['c'] }
  | 3 => .validate ['b'] none none [['o']]

def revokedBetween : ApiKeyPool (Fin 4) :=
  (ApiKeyPool.start plainLibraries validateAndRevoke twoKeys).schedule handle
    [0, 0, 1, 1, 1, 2, 2, 2]

def revivedAfter : ApiKeyPool (Fin 4) := revokedBetween.schedule handle [0, 3, 3, 3]

def validRevokedKey : ValidKey where
  organizationId := ['o']
  key := touch plainLibraries (activeKey ['l'] ['b']) 0
  metadata :=
    { projectId := none
      ownerType := "organization".toList
      serviceAccountId := none
      scopes := []
      ipAllowlist := []
      rateLimits := []
      spendLimit := none
      createdBy := none
      expiresAt := none }

/-- The validation of a key writes back what it has read: the key that was revoked is valid again,
and the new key is lost. -/
theorem not_keys_kept : ApiKeyRun (fun _ _ _ _ => True)
    (ApiKeyPool.start plainLibraries validateAndRevoke twoKeys) revokedBetween ∧
      ApiKeyRun (fun _ _ _ _ => True) revokedBetween revivedAfter ∧
      ¬RevokedStay validateAndRevoke revokedBetween revivedAfter ∧
      ¬NoneLost validateAndRevoke plainLibraries revivedAfter := by
  refine ⟨Pool.Reach.start.schedule (Pool.permitted_anyCall _ _ _),
    Pool.Reach.start.schedule (Pool.permitted_anyCall _ _ _), fun h => ?_, fun h => ?_⟩
  · exact h 1 ['o'] ['l'] (.inl ⟨rfl, rfl⟩) 3 rfl validRevokedKey rfl rfl rfl
  · rcases h 2 _ _ rfl rfl with ⟨keys, hkeys, key, hkey, hid⟩ | ⟨j, e, -, hremoves⟩
    · obtain rfl := some.inj hkeys
      have hids : KeyData.keyId key ∈ [some ['k'], some ['l']] := mem_map_of_mem hkey
      rw [hid] at hids
      exact absurd hids (by decide)
    · obtain ⟨m, c⟩ := e
      cases c with
      | now => exact hremoves
      | call c =>
        cases c with
        | updateKeys =>
          obtain ⟨-, -, hremoves⟩ := hremoves
          match j, hremoves with
          | 0, h | 1, h | 2, h | 3, h => exact h
        | selectKeys | selectAll | insertOrganization => exact hremoves

def revokedAfter : ApiKeyPool (Fin 4) :=
  (ApiKeyPool.start plainLibraries validateAndRevoke twoKeys).schedule handle
    [0, 0, 0, 1, 1, 1, 2, 2, 2]

theorem keys_kept_revokedAfter :
    RevokedStay validateAndRevoke revokedAfter (revokedAfter.schedule handle [3]) ∧
      NoneLost validateAndRevoke plainLibraries (revokedAfter.schedule handle [3]) := by
  refine keys_kept plainLibraries validateAndRevoke twoKeys ?_ revokedAfter _
    (Pool.Reach.start.schedule (by decide +kernel)) (Pool.Reach.start.schedule (by decide +kernel))
  rintro organizationId keyId ⟨keys, hkeys, key, hkey, hid⟩
  change keys ∈ (if organizationId = ['o'] then _ else none : Option (List KeyData)) at hkeys
  split at hkeys
  · obtain rfl := some.inj hkeys
    have hids : KeyData.keyId key ∈ [some ['k'], some ['l']] := mem_map_of_mem hkey
    rw [hid] at hids
    simpa [twoKeys] using hids
  · cases hkeys

end IsaUser.Auth.ApiKeys
