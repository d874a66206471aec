import IsaUser.Vault.Secrets

/-!
# Verified Secrets

The hash of a secret is sent to a blockchain when the secret is created, under an id that is not
the one it gets, and is looked up under the one that it has. An update sends nothing.
-/

open IsaUser.Prog

namespace IsaUser.Vault

/-! ### The blockchain -/

/-- The client of a blockchain, which keeps what is sent, and a hash of texts. -/
structure Blockchain where
  Chain : Type
  sendTransaction : PyStr → Chain → PyStr × Chain
  getTransaction : PyStr → Chain → Option PyStr
  sha256 : PyStr → PyStr
  get_send : ∀ data chain,
    getTransaction (sendTransaction data chain).1 (sendTransaction data chain).2 = some data
  get_of_get : ∀ data chain txHash stored, getTransaction txHash chain = some stored →
    getTransaction txHash (sendTransaction data chain).2 = some stored
  sha256_injective : sha256.Injective

def hashData (vaultId secretHash : PyStr) : PyStr :=
  "vault:".toList ++ (vaultId ++ (":hash:".toList ++ secretHash))

variable {b : Blockchain}

def storeSecretHash (vaultId secretHash : PyStr) (chain : b.Chain) : PyStr × b.Chain :=
  b.sendTransaction (hashData vaultId secretHash) chain

def verifySecretFromBlockchain (vaultId secretHash txHash : PyStr) (chain : b.Chain) : Bool :=
  b.getTransaction txHash chain = some (hashData vaultId secretHash)

/-! ### The vault -/

structure VaultId where
  text : PyStr
  length_eq : text.length = 36
  digits : ∀ char ∈ text, char ∈ "0123456789abcdef-".toList

/-- The vault, with the column `blockchain_reference` and the blockchain. -/
structure Anchored (b : Blockchain) where
  vault : Clocked VaultStore
  references : PyStr → Option PyStr
  chain : b.Chain

inductive VaultEvent where
  /-- `create_secret` with `blockchain_verify`. -/
  | create (userId : PyStr) (r : CreateRequest) (vaultId : VaultId) (drawn : PyStr)
  /-- Any request without `blockchain_verify`. -/
  | serve (request : Request)
  /-- A row gets another value and other metadata, not through the service. -/
  | tamper (vaultId data : PyStr) (metadata : JsonDict)
  /-- The time, and how the calls fare from now on. -/
  | pass (clock : Timestamp) (link : Link)

def VaultItem.tamper (item : VaultItem) (data : PyStr) (metadata : JsonDict) : VaultItem :=
  { item with encryptedValue := { item.encryptedValue with data }, metadata }

section Service

variable (service : VaultService)

/-- `create_secret` with `blockchain_verify`: the hash is sent before there is an id. The row has
the reference from the start. -/
def Anchored.createSecret (s : Anchored b) (userId : PyStr) (r : CreateRequest)
    (vaultId drawn : PyStr) : Anchored b :=
  let sent := storeSecretHash "temp".toList (b.sha256 r.secretValue) s.chain
  let vault := ((Vault.createSecret service userId r vaultId drawn).run handle s.vault).2
  let inserted := s.vault.store.items vaultId = none ∧ vault.store.items vaultId ≠ none
  { vault
    references := if inserted then Function.update s.references vaultId (given (some sent.1))
      else s.references
    chain := sent.2 }

def Anchored.step (s : Anchored b) : VaultEvent → Anchored b
  | .create userId r vaultId drawn => s.createSecret service userId r vaultId.text drawn
  | .serve request => { s with vault := ((request.serve service).run handle s.vault).2 }
  | .tamper vaultId data metadata =>
    let store := s.vault.store.modifyItem vaultId (·.tamper data metadata)
    { s with vault := { s.vault with store } }
  | .pass clock link => { s with vault := { s.vault with clock, link } }

def Anchored.run (history : List VaultEvent) (m : Clocked VaultStore) (chain : b.Chain) :
    Anchored b :=
  history.foldl (Anchored.step service) { vault := m, references := fun _ => none, chain }

/-- `get_secret` with `decrypt`: the answer, and `blockchain_verified`. -/
def Anchored.getSecret (s : Anchored b) (vaultId userId : PyStr) :
    Except VaultError Response × Bool :=
  let answer := ((Vault.getSecret service vaultId userId true).run handle s.vault).1
  let verified := match answer, given (s.references vaultId) with
    | .ok (.secret value _), some reference =>
      verifySecretFromBlockchain vaultId (b.sha256 value) reference s.chain
    | _, _ => false
  (answer, verified)

/-! ### The law -/

def Anchored.Gets (s : Anchored b) (vaultId userId value : PyStr) (item : VaultItem) : Prop :=
  (s.getSecret service vaultId userId).1 = .ok (.secret value item)

/-- A secret with a reference is verified just if it is the value that was set last. -/
def Anchored.Detects (s : Anchored b) : Prop :=
  ∀ vaultId userId value item, (given (s.references vaultId)).isSome →
    s.Gets service vaultId userId value item →
      ((s.getSecret service vaultId userId).2 ↔ value = item.encryptedValue.plain)

end Service

/-! ### What is sent -/

section Sent

variable {service : VaultService} {s : Anchored b}

def Anchored.Sent (s : Anchored b) : Prop :=
  ∀ vaultId, ∀ reference ∈ s.references vaultId,
    (∃ secretHash, b.getTransaction reference s.chain =
      some (hashData "temp".toList secretHash)) ∧ ∃ drawn : VaultId, drawn.text = vaultId

theorem Anchored.Sent.createSecret (h : s.Sent) (userId : PyStr) (r : CreateRequest)
    (vaultId : VaultId) (drawn : PyStr) :
    (s.createSecret service userId r vaultId.text drawn).Sent := by
  have hold : ∀ id, ∀ reference ∈ s.references id, (∃ secretHash,
      b.getTransaction reference (s.createSecret service userId r vaultId.text drawn).chain =
        some (hashData "temp".toList secretHash)) ∧ ∃ drawn : VaultId, drawn.text = id := by
    intro id reference hreference
    obtain ⟨⟨secretHash, hget⟩, hid⟩ := h id reference hreference
    exact ⟨⟨secretHash, b.get_of_get _ _ _ _ hget⟩, hid⟩
  intro id reference hreference
  rw [Anchored.createSecret] at hreference
  dsimp only at hreference
  split at hreference
  · rcases eq_or_ne id vaultId.text with rfl | hne
    · rw [Function.update_self] at hreference
      obtain rfl := Option.some.inj (Option.mem_filter_iff.mp hreference).1
      exact ⟨⟨_, b.get_send _ _⟩, vaultId, rfl⟩
    · rw [Function.update_of_ne hne] at hreference
      exact hold id reference hreference
  · exact hold id reference hreference

theorem Anchored.Sent.step (h : s.Sent) (event : VaultEvent) : (s.step service event).Sent := by
  cases event with
  | create userId r vaultId drawn => exact h.createSecret userId r vaultId drawn
  | serve request => exact h
  | tamper vaultId data metadata => exact h
  | pass clock link => exact h

theorem Anchored.Sent.foldl (h : s.Sent) (history : List VaultEvent) :
    (history.foldl (Anchored.step service) s).Sent := by
  induction history generalizing s with
  | nil => exact h
  | cons event history ih => exact ih (h.step event)

theorem Anchored.sent_run (history : List VaultEvent) (m : Clocked VaultStore) (chain : b.Chain) :
    (Anchored.run service history m chain).Sent :=
  Sent.foldl (fun _ _ h => by cases h) history

theorem hashData_ne (vaultId : VaultId) (secretHash secretHash' : PyStr) :
    hashData "temp".toList secretHash ≠ hashData vaultId.text secretHash' := by
  intro h
  have hcolon : ':' ∉ vaultId.text := fun hmem => absurd (vaultId.digits _ hmem) (by decide)
  have hid (id rest : PyStr) (hid : ':' ∉ id) :
      (id ++ (":hash:".toList ++ rest)).takeWhile (· ≠ ':') = id := by
    have hall : ∀ c ∈ id, decide (c ≠ ':') = true := by
      intro c hc
      have hne : c ≠ ':' := ne_of_mem_of_not_mem hc hid
      simpa using hne
    rw [List.takeWhile_append_of_pos hall]
    simp
  have htext := hid _ secretHash' hcolon
  rw [← List.append_cancel_left h, hid _ secretHash (by decide)] at htext
  have hlength := vaultId.length_eq
  rw [← htext] at hlength
  exact absurd hlength (by decide)

theorem getSecret_unverified (h : s.Sent) (vaultId userId : PyStr) :
    (s.getSecret service vaultId userId).2 = false := by
  rw [Anchored.getSecret]
  dsimp only
  split
  · next value item reference hanswer hreference =>
      obtain ⟨⟨secretHash, hget⟩, vaultId, rfl⟩ := h vaultId reference
        (Option.mem_filter_iff.mp (Option.mem_def.mpr hreference)).1
      rw [verifySecretFromBlockchain, hget]
      simpa using hashData_ne vaultId secretHash _
  · rfl

theorem reveal_eq_secret {item item' : VaultItem} {value : PyStr}
    (h : reveal service item true = .secret value item') :
    item' = item ∧ item.decrypted service = some value := by
  rw [reveal, if_pos rfl] at h
  split at h
  · cases h
  · cases h
    exact ⟨rfl, by assumption⟩

theorem run_checkUserAccess (vaultId userId : PyStr) (m : Clocked VaultStore) :
    ((checkUserAccess vaultId userId).run handle m).2 = m := by
  have hread {c : Call} (hc : ∀ s, (execute c s).2 = s) (m : Clocked VaultStore) :
      (handle (.call c) m).2 = m := by
    obtain ⟨store, clock, link⟩ := m
    cases link with
    | down => rfl
    | up => exact congrArg (Clocked.mk · clock Link.up) (hc store)
    | lost => exact congrArg (Clocked.mk · clock Link.lost) (hc store)
  have hreads : (checkUserAccess vaultId userId).Only fun c => ∀ m, (handle c m).2 = m := by
    refine Only.bind (Only.tryCatch (only_query (I := VaultApi.timed) ?_) fun _ => trivial)
      fun item => ?_
    · exact hread fun _ => rfl
    split
    · trivial
    refine Only.bind (Only.tryCatch (only_query (I := VaultApi.timed) ?_) fun _ => trivial)
      fun shares => ?_
    · exact hread fun _ => rfl
    exact Only.bind (only_query (I := VaultApi.timed) fun _ => rfl) fun _ => trivial
  exact run_snd_of_only hreads m

theorem wp_getVaultItem {vaultId : PyStr} {m : Clocked VaultStore}
    {Q : Except VaultError (Option VaultItem) → Clocked VaultStore → Prop} :
    (getVaultItem vaultId).wp handle Q m ↔ Q (.ok (itemAt vaultId m)) m := by
  obtain ⟨store, clock, link⟩ := m
  cases link <;> rfl

theorem wp_now {m : Clocked VaultStore}
    {Q : Except VaultError Timestamp → Clocked VaultStore → Prop} :
    now.wp handle Q m ↔ Q (.ok m.clock) m := Iff.rfl

theorem getSecret_decrypted {m : Clocked VaultStore} {vaultId userId value : PyStr}
    {item : VaultItem}
    (h : ((getSecret service vaultId userId true).run handle m).1 = .ok (.secret value item)) :
    item ∈ m.store.items vaultId ∧ item.decrypted service = some value := by
  suffices hwp : (getSecret service vaultId userId true).wp handle (fun r _ =>
      r = .ok (.secret value item) →
        item ∈ m.store.items vaultId ∧ item.decrypted service = some value) m from hwp h
  refine wp_tryCatch.mpr (wp_bind.mpr ?_)
  rw [wp, run_checkUserAccess]
  rcases ((checkUserAccess vaultId userId).run handle m).1 with e | access
  · exact fun h => by cases h
  cases access with
  | none => exact fun h => by cases h
  | some access =>
    refine wp_bind.mpr (wp_getVaultItem.mpr ?_)
    cases hread : itemAt vaultId m with
    | none => exact fun h => by cases h
    | some row =>
      have hrow := mem_of_itemAt hread
      have hreveal (h : reveal service row true = .secret value item) :
          item ∈ m.store.items vaultId ∧ item.decrypted service = some value := by
        obtain ⟨rfl, hdecrypted⟩ := reveal_eq_secret h
        exact ⟨hrow, hdecrypted⟩
      dsimp only
      split
      · exact fun h => by cases h
      split
      · exact fun h => hreveal (Except.ok.inj h)
      split
      · exact fun h => by cases h
      refine wp_bind.mpr (wp_now.mpr ?_)
      dsimp only
      split
      · exact fun h => by cases h
      · exact fun h => hreveal (Except.ok.inj h)

end Sent

/-- **A secret is verified just if it is the value that was set**, in a vault in which what a user
gets is never that value. -/
theorem detects_iff (service : VaultService) (history : List VaultEvent) (m : Clocked VaultStore)
    (chain : b.Chain) :
    let s := Anchored.run service history m chain
    s.Detects service ↔ ∀ vaultId userId value item, (given (s.references vaultId)).isSome →
      s.Gets service vaultId userId value item → ¬item.Intact service := by
  intro s
  have hsent : s.Sent := Anchored.sent_run history m chain
  refine forall₄_congr fun vaultId userId value item => forall₂_congr fun _ hgets => ?_
  have hvalue := (getSecret_decrypted hgets).2
  rw [getSecret_unverified hsent, VaultItem.Intact, hvalue]
  simp

/-! ### A secret as it was created -/

def ledger : Blockchain where
  Chain := List PyStr
  sendTransaction data chain := (List.replicate (chain.length + 1) 'x', chain ++ [data])
  getTransaction txHash chain := if txHash.length = 0 then none else chain[txHash.length - 1]?
  sha256 text := text
  get_send data chain := by simp
  get_of_get data chain txHash stored h := by
    split at h
    · cases h
    · next hlength =>
        rw [if_neg hlength, List.getElem?_append_left (List.getElem?_eq_some_iff.mp h).1, h]
  sha256_injective := Function.injective_id

def firstId : VaultId where
  text := List.replicate 36 'a'
  length_eq := by decide
  digits := by decide

def emptyVault : Clocked VaultStore where
  store := { items := fun _ => none, shares := [] }
  clock := 0
  link := .up

def createdVault : Anchored ledger :=
  Anchored.run nonced [.create ['o'] { name := ['n'], secretValue := ['a'] } firstId ['d']]
    emptyVault []

/-- Its owner gets it unverified. -/
theorem not_detects_created : ¬createdVault.Detects nonced := by
  intro h
  have hsent : createdVault.Sent := Anchored.sent_run _ _ _
  have hverified := (h firstId.text ['o'] ['a'] _ rfl rfl).mpr rfl
  exact Bool.false_ne_true ((getSecret_unverified hsent _ _).symm.trans hverified)

end IsaUser.Vault
