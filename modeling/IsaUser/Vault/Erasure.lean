import IsaUser.Vault.Model

/-!
# Erasing the Data of a User

The rows of a user are deleted by four statements, each committed by itself. Two of them name a
column that the shares do not have. So the deletion never returns, and when it raises, the secrets
are gone.
-/

open IsaUser.Prog

namespace IsaUser.Vault

/-! ### The tables -/

/-- A row of `vault.vault_access_logs`. -/
structure AccessLog where
  logId : PyStr
  vaultId : PyStr
  userId : PyStr

structure VaultRows where
  items : List (PyStr × VaultItem)
  shares : List VaultShare
  logs : List AccessLog

inductive VaultTable where
  | vaultItems
  | vaultShares
  | vaultAccessLogs

def VaultTable.columns : VaultTable → List String
  | vaultItems => ["id", "vault_id", "user_id", "organization_id", "secret_type", "provider", "name",
      "description", "encrypted_value", "encryption_method", "encryption_key_id", "metadata", "tags",
      "version", "expires_at", "last_accessed_at", "access_count", "is_active", "rotation_enabled",
      "rotation_days", "blockchain_reference", "created_at", "updated_at"]
  | vaultShares => ["id", "share_id", "vault_id", "owner_user_id", "shared_with_user_id",
      "shared_with_org_id", "permission_level", "expires_at", "is_active", "created_at"]
  | vaultAccessLogs => ["id", "log_id", "vault_id", "user_id", "action", "ip_address", "user_agent",
      "success", "error_message", "metadata", "created_at"]

def itemIds (item : PyStr × VaultItem) : List (String × Option PyStr) :=
  [("vault_id", item.1), ("user_id", item.2.userId)]

def shareIds (share : VaultShare) : List (String × Option PyStr) :=
  [("share_id", share.shareId), ("vault_id", share.vaultId), ("owner_user_id", share.ownerUserId),
    ("shared_with_user_id", share.sharedWithUserId), ("shared_with_org_id", share.sharedWithOrgId)]

def logIds (log : AccessLog) : List (String × Option PyStr) :=
  [("log_id", log.logId), ("vault_id", log.vaultId), ("user_id", log.userId)]

/-- The rows that `DELETE … WHERE column = value` leaves. -/
def deleteWhere {α : Type} (ids : α → List (String × Option PyStr)) (column : String)
    (value : PyStr) (rows : List α) : List α :=
  rows.filter fun row => (ids row).lookup column ≠ some (some value)

/-! ### The statements -/

inductive ErasureError where
  | unavailable
  | undefinedColumn
  /-- `None + None`. -/
  | typeError
  deriving DecidableEq, Repr

/-- `DELETE FROM table WHERE column = value`. -/
structure Deletion where
  table : VaultTable
  column : String
  value : PyStr

/-- A deletion answers with the number of rows; `None` is the answer of a client that does not
raise. -/
@[reducible] def ErasureApi : Interface := ⟨Deletion, fun _ => Option ℤ⟩

def Deletion.execute (d : Deletion) (s : VaultRows) : Except ErasureError ℤ × VaultRows :=
  if d.column ∈ d.table.columns then
    match d.table with
    | .vaultItems =>
      let items := deleteWhere itemIds d.column d.value s.items
      (.ok (s.items.length - items.length), { s with items })
    | .vaultShares =>
      let shares := deleteWhere shareIds d.column d.value s.shares
      (.ok (s.shares.length - shares.length), { s with shares })
    | .vaultAccessLogs =>
      let logs := deleteWhere logIds d.column d.value s.logs
      (.ok (s.logs.length - logs.length), { s with logs })
  else (.error .undefinedColumn, s)

/-- The client of the database: `links n` is how the statement of number `n` fares, and a statement
that fails raises or is answered by `None`. -/
def client (raises : Bool) (links : ℕ → Link) :
    Handler (ErasureApi.fallible ErasureError) (VaultRows × ℕ) := fun d s =>
  let answer := (links s.2).pass .unavailable (d.execute s.1) s.1
  (match answer.1 with
    | .ok count => .ok (some count)
    | .error e => if raises then .error e else .ok none,
    answer.2, s.2 + 1)

def delete (table : VaultTable) (column : String) (value : PyStr) :
    Prog (ErasureApi.fallible ErasureError) ErasureError (Option ℤ) :=
  query (I := ErasureApi) id ⟨table, column, value⟩

def deleteUserData (userId : PyStr) :
    Prog (ErasureApi.fallible ErasureError) ErasureError ℤ := do
  let items ← delete .vaultItems "user_id" userId
  let shares ← delete .vaultShares "shared_by" userId
  let sharesTo ← delete .vaultShares "shared_with" userId
  let logs ← delete .vaultAccessLogs "user_id" userId
  let total := items.getD 0 + shares.getD 0 + sharesTo.getD 0 + logs.getD 0
  -- the text of the log has the sum of the two counts as they are
  require (shares.isSome ∧ sharesTo.isSome) .typeError
  pure total

/-! ### The law -/

/-- Nothing of a user is left, nor a share of what was deleted, and all else is. -/
structure IsErased (userId : PyStr) (s s' : VaultRows) : Prop where
  items : ∀ item, item ∈ s'.items ↔ item ∈ s.items ∧ item.2.userId ≠ userId
  shares : ∀ share, share ∈ s'.shares ↔ share ∈ s.shares ∧ share.ownerUserId ≠ userId ∧
    share.sharedWithUserId ≠ some userId ∧
    ∀ item ∈ s.items, item.2.userId = userId → item.1 ≠ share.vaultId
  logs : ∀ log, log ∈ s'.logs ↔ log ∈ s.logs ∧ log.userId ≠ userId

def Erases (raises : Bool) (links : ℕ → Link) (userId : PyStr) (s : VaultRows) : Prop :=
  let answer := (deleteUserData userId).run (client raises links) (s, 0)
  (∃ e, answer.1 = .error e) ∧ answer.2.1 = s ∨
    (∃ total, answer.1 = .ok total) ∧ IsErased userId s answer.2.1

/-! ### What a statement leaves -/

section Erasure

variable {raises : Bool} {links : ℕ → Link} {userId value : PyStr} {s : VaultRows} {n : ℕ}
  {d : Deletion} {table : VaultTable} {column : String}
  {Q : Except ErasureError (Option ℤ) → VaultRows × ℕ → Prop}

def Deletion.leaves (d : Deletion) (link : Link) (s : VaultRows) : VaultRows :=
  if link = .down then s else (d.execute s).2

theorem wp_delete (hok : ∀ count, Q (.ok count)
      (Deletion.leaves ⟨table, column, value⟩ (links n) s, n + 1))
    (herror : raises = true → ∀ e, Q (.error e)
      (Deletion.leaves ⟨table, column, value⟩ (links n) s, n + 1)) :
    (delete table column value).wp (client raises links) Q (s, n) := by
  have hrows : ((links n).pass .unavailable (Deletion.execute ⟨table, column, value⟩ s) s).2 =
      Deletion.leaves ⟨table, column, value⟩ (links n) s := by
    rw [Deletion.leaves]
    cases links n <;> rfl
  refine wp_query.mpr ?_
  simp only [client, hrows]
  cases ((links n).pass .unavailable (Deletion.execute ⟨table, column, value⟩ s) s).1 with
  | ok count => exact hok _
  | error e =>
    cases raises with
    | true => exact herror rfl _
    | false => exact hok _

theorem wp_delete_undefined (h : column ∉ table.columns)
    (hnone : raises = false → Q (.ok none) (s, n + 1))
    (herror : raises = true → ∀ e, Q (.error e) (s, n + 1)) :
    (delete table column value).wp (client raises links) Q (s, n) := by
  have hexecute : Deletion.execute ⟨table, column, value⟩ s = (.error .undefinedColumn, s) :=
    if_neg h
  refine wp_query.mpr ?_
  simp only [client, hexecute]
  cases raises with
  | true => cases links n <;> exact herror rfl _
  | false => cases links n <;> exact hnone rfl

/-- The rows that are left: a client that raises comes no further than the second statement. -/
def leftOver (raises : Bool) (links : ℕ → Link) (userId : PyStr) (s : VaultRows) : VaultRows :=
  let s' := Deletion.leaves ⟨.vaultItems, "user_id", userId⟩ (links 0) s
  if raises then s' else Deletion.leaves ⟨.vaultAccessLogs, "user_id", userId⟩ (links 3) s'

/-- **The deletion raises.** -/
theorem deleteUserData_raises (raises : Bool) (links : ℕ → Link) (userId : PyStr) (s : VaultRows) :
    (deleteUserData userId).wp (client raises links)
    (fun r s' => (∃ e, r = .error e) ∧ s'.1 = leftOver raises links userId s) (s, 0) := by
  have hfirst : raises = true → leftOver raises links userId s =
      Deletion.leaves ⟨.vaultItems, "user_id", userId⟩ (links 0) s := fun hraises => if_pos hraises
  refine wp_bind.mpr (wp_delete (fun items => ?_) fun hraises e => ⟨⟨e, rfl⟩, (hfirst hraises).symm⟩)
  refine wp_bind.mpr (wp_delete_undefined (by decide) (fun hquiet => ?_) fun hraises e =>
    ⟨⟨e, rfl⟩, (hfirst hraises).symm⟩)
  subst hquiet
  refine wp_bind.mpr (wp_delete_undefined (by decide) (fun _ => ?_) fun hraises =>
    absurd hraises Bool.false_ne_true)
  exact wp_bind.mpr (wp_delete (fun logs => ⟨⟨_, rfl⟩, rfl⟩) fun hraises =>
    absurd hraises Bool.false_ne_true)

/-! ### When nothing is lost -/

theorem leaves_items (link : Link) : Deletion.leaves ⟨.vaultItems, "user_id", userId⟩ link s =
    { s with items :=
        if link = .down then s.items else deleteWhere itemIds "user_id" userId s.items } := by
  cases link <;> rfl

theorem leaves_logs (link : Link) : Deletion.leaves ⟨.vaultAccessLogs, "user_id", userId⟩ link s =
    { s with logs :=
        if link = .down then s.logs else deleteWhere logIds "user_id" userId s.logs } := by
  cases link <;> rfl

theorem ite_deleteWhere_eq_self {α : Type} {ids : α → List (String × Option PyStr)} {link : Link}
    {rows : List α} : (if link = .down then rows else deleteWhere ids column value rows) = rows ↔
      link = .down ∨ ∀ row ∈ rows, (ids row).lookup column ≠ some (some value) := by
  split
  · next h => exact iff_of_true rfl (.inl h)
  · next h => simp [deleteWhere, List.filter_eq_self, h]

/-- **Erasure is complete or not at all**, just if no statement that names a column of its table is
executed and finds a row. -/
theorem erases_iff (raises : Bool) (links : ℕ → Link) (userId : PyStr) (s : VaultRows) :
    Erases raises links userId s ↔
      (links 0 = .down ∨ ∀ item ∈ s.items, item.2.userId ≠ userId) ∧
        (raises = true ∨ links 3 = .down ∨ ∀ log ∈ s.logs, log.userId ≠ userId) := by
  obtain ⟨⟨e, he⟩, hleft⟩ := deleteUserData_raises raises links userId s
  have hrefused : Erases raises links userId s ↔ leftOver raises links userId s = s := by
    simp only [Erases, he, hleft]
    simp
  have hitems : (∀ item ∈ s.items, (itemIds item).lookup "user_id" ≠ some (some userId)) ↔
      ∀ item ∈ s.items, item.2.userId ≠ userId := by
    refine forall₂_congr fun item _ => not_congr ?_
    rw [show (itemIds item).lookup "user_id" = some (some item.2.userId) from rfl]
    simp
  have hlogs : (∀ log ∈ s.logs, (logIds log).lookup "user_id" ≠ some (some userId)) ↔
      ∀ log ∈ s.logs, log.userId ≠ userId := by
    refine forall₂_congr fun log _ => not_congr ?_
    rw [show (logIds log).lookup "user_id" = some (some log.userId) from rfl]
    simp
  rw [hrefused, leftOver, leaves_items, leaves_logs, ← hitems, ← hlogs, ← ite_deleteWhere_eq_self,
    ← ite_deleteWhere_eq_self]
  obtain ⟨items, shares, logs⟩ := s
  cases raises <;> simp

/-! ### A user with one secret -/

def oneSecretRows : VaultRows where
  items := [(['s'], { userId := ['u'], name := ['n'], description := none
                      encryptedValue := ⟨['d'], ['p']⟩, metadata := [], tags := []
                      expiresAt := none, rotationEnabled := false, rotationDays := none })]
  shares := []
  logs := []

/-- With a connection that is up, the deletion raises and the secret is gone. -/
theorem not_erases_oneSecret : ¬Erases true (fun _ => .up) ['u'] oneSecretRows := by
  rintro (⟨-, h⟩ | ⟨⟨total, h⟩, -⟩)
  · exact absurd (congrArg (fun s => s.items.length) h) (by decide)
  · exact absurd h nofun

end Erasure

end IsaUser.Vault
