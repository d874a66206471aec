import IsaUser.Artifacts.Model
import IsaUser.Lib.Runs

/-!
# Values under Keys

An artifact keeps values under keys, for each user apart and for all of them together. A value that
is neither an object nor a list is put into an envelope, an object with the one key `_v`, and taken
out of it when it is read. An object that looks like the envelope is taken for it.
-/

open Option

namespace IsaUser.Artifacts.Kv

/-! ### The table -/

inductive ArtifactKVScope where
  | personal
  | shared
  deriving DecidableEq, Repr

structure KvKey where
  artifactId : PyStr
  scope : ArtifactKVScope
  userId : PyStr
  key : PyStr
  deriving DecidableEq

/-- A row of `artifact.artifact_kv`. -/
structure KvRow where
  pk : KvKey
  value : Json
  updatedAt : Timestamp

def sharedSentinel : PyStr := "_shared".toList

/-- The check of the table: shared rows have the sentinel for a user, and no others do. -/
abbrev KvRow.Checked (row : KvRow) : Prop :=
  row.pk.scope = .personal ∧ row.pk.userId ≠ sharedSentinel ∨
    row.pk.scope = .shared ∧ row.pk.userId = sharedSentinel

abbrev KvTable := Rows KvRow.pk

def kvUserKey (scope : ArtifactKVScope) (userId : Option PyStr) : Option PyStr :=
  match scope with
  | .personal => userId
  | .shared => some sharedSentinel

def wrapKvValue : Json → Json
  | .dict entries => .dict entries
  | .list items => .list items
  | value => .dict [("_v", value)]

/-- The keys of an object are `_v` and no other. -/
def IsEnvelope : Json → Prop
  | .dict entries => (JsonDict.get? entries "_v").isSome ∧ ∀ entry ∈ entries, entry.1 = "_v"
  | _ => False

instance : DecidablePred IsEnvelope
  | .dict entries => inferInstanceAs (Decidable (_ ∧ ∀ entry ∈ entries, entry.1 = "_v"))
  | .null | .bool _ | .int _ | .float _ | .str _ | .list _ => .isFalse id

def unwrapKvValue (value : Json) : Json :=
  match value with
  | .dict entries =>
    if IsEnvelope value then (JsonDict.get? entries "_v").getD value else value
  | _ => value

/-- The repository's `kv_get`. -/
def KvTable.kvGet (t : KvTable) (artifactId : PyStr) (scope : ArtifactKVScope)
    (userId : Option PyStr) (key : PyStr) : Option KvRow :=
  (kvUserKey scope userId).bind fun userId =>
    (t.get? ⟨artifactId, scope, userId, key⟩).map fun row =>
      { row with value := unwrapKvValue row.value }

def KvRow.setValue (row : KvRow) (value : Json) (now : Timestamp) : KvRow :=
  { row with value, updatedAt := now }

theorem KvRow.pk_setValue (row : KvRow) (value : Json) (now : Timestamp) :
    (row.setValue value now).pk = row.pk := rfl

/-- `INSERT … ON CONFLICT DO UPDATE`. -/
def KvTable.upsert (t : KvTable) (row : KvRow) : KvTable :=
  if h : t.get? row.pk = none then t.insert row h
  else t.modify row.pk (·.setValue row.value row.updatedAt) fun r =>
    r.pk_setValue row.value row.updatedAt

/-- The repository's `kv_put`. The database refuses a row that fails the check or that the columns
do not take. -/
def KvTable.kvPut (takes : KvRow → Bool) (t : KvTable) (now : Timestamp) (artifactId : PyStr)
    (scope : ArtifactKVScope) (userId : Option PyStr) (key : PyStr) (value : Json) :
    Option (KvRow × KvTable) :=
  (kvUserKey scope userId).bind fun userId =>
    let row : KvRow := ⟨⟨artifactId, scope, userId, key⟩, wrapKvValue value, now⟩
    if row.Checked ∧ takes row = true then
      some ({ row with value := unwrapKvValue row.value }, t.upsert row)
    else none

def KvTable.erase (t : KvTable) (pk : KvKey) : KvTable where
  rows := t.rows.filter fun row => row.pk ≠ pk
  unique := t.unique.sublist (List.filter_sublist.map _)

/-- The repository's `kv_delete`. -/
def KvTable.kvDelete (t : KvTable) (artifactId : PyStr) (scope : ArtifactKVScope)
    (userId : Option PyStr) (key : PyStr) : Bool × KvTable :=
  match kvUserKey scope userId with
  | none => (false, t)
  | some userId =>
    ((t.get? ⟨artifactId, scope, userId, key⟩).isSome, t.erase ⟨artifactId, scope, userId, key⟩)

/-! ### The service -/

structure World where
  artifacts : ArtifactStore
  kv : KvTable

def validateKvScope (a : Artifact) (scope : ArtifactKVScope) (userId : Option PyStr)
    (isWrite : Bool) : ArtifactM Unit :=
  match scope with
  | .personal => check (given userId).isSome .validation
  | .shared => check (isWrite = true → a.storageScope = .shared) .permission

structure ArtifactKVResponse where
  artifactId : PyStr
  scope : ArtifactKVScope
  userId : Option PyStr
  key : PyStr
  value : Json
  updatedAt : Timestamp

/-- What a request is about: a key of an artifact in a scope. -/
structure Place where
  artifactId : PyStr
  key : PyStr
  scope : ArtifactKVScope
  userId : Option PyStr

def Place.response (p : Place) (row : KvRow) : ArtifactKVResponse where
  artifactId := p.artifactId
  scope := p.scope
  userId := if p.scope = .personal then p.userId else none
  key := p.key
  value := row.value
  updatedAt := row.updatedAt

def kvGet (w : World) (p : Place) : ArtifactM ArtifactKVResponse := do
  let found ← orRaise (w.artifacts.getArtifact p.artifactId) .notFound
  validateKvScope found.artifact p.scope p.userId false
  let row ← orRaise (w.kv.kvGet p.artifactId p.scope p.userId p.key) .notFound
  return p.response row

def kvPut (takes : KvRow → Bool) (w : World) (now : Timestamp) (p : Place) (value : Json) :
    ArtifactM (ArtifactKVResponse × World) := do
  let found ← orRaise (w.artifacts.getArtifact p.artifactId) .notFound
  validateKvScope found.artifact p.scope p.userId true
  let (row, kv) ← orRaise (w.kv.kvPut takes now p.artifactId p.scope p.userId p.key value) .service
  return (p.response row, { w with kv })

def kvDelete (w : World) (p : Place) : ArtifactM (Bool × World) := do
  let found ← orRaise (w.artifacts.getArtifact p.artifactId) .notFound
  validateKvScope found.artifact p.scope p.userId true
  let (ok, kv) := w.kv.kvDelete p.artifactId p.scope p.userId p.key
  return (ok, { w with kv })

/-! ### The map that it is meant to be -/

inductive Owner where
  | user (id : PyStr)
  | everybody
  deriving DecidableEq

/-- Whose key a request is about: the user's, if its scope is personal. -/
def Place.owner (p : Place) : Owner :=
  match p.scope with
  | .personal => .user (p.userId.getD [])
  | .shared => .everybody

abbrev Slot := PyStr × Owner × PyStr

def Place.slot (p : Place) : Slot := (p.artifactId, p.owner, p.key)

inductive Request where
  | get (p : Place)
  | put (p : Place) (value : Json)
  | delete (p : Place)
  /-- A request about artifacts, which leaves them so. -/
  | other (artifacts : ArtifactStore)

structure Observed where
  world : World
  contents : Slot → Option Json

def step (takes : KvRow → Bool) (o : Observed) : Timestamp × Request → Observed
  | (_, .get _) => o
  | (now, .put p value) =>
    match kvPut takes o.world now p value with
    | .ok (_, world) => ⟨world, Function.update o.contents p.slot (some value)⟩
    | .error _ => o
  | (_, .delete p) =>
    match kvDelete o.world p with
    | .ok (_, world) => ⟨world, Function.update o.contents p.slot none⟩
    | .error _ => o
  | (_, .other artifacts) => { o with world := { o.world with artifacts } }

def Observed.start (artifacts : ArtifactStore) : Observed :=
  ⟨⟨artifacts, Rows.empty⟩, fun _ => none⟩

def Request.owner? : Request → Option Owner
  | .get p | .put p _ | .delete p => some p.owner
  | .other _ => none

def Readable (w : World) (p : Place) : Prop :=
  ∃ found, w.artifacts.getArtifact p.artifactId = some found ∧
    validateKvScope found.artifact p.scope p.userId false = .ok ()

/-- **The law.** What is read is what the map has, and no request about the keys of one owner
changes what is read of another's. -/
structure IsMap (takes : KvRow → Bool) (o : Observed) : Prop where
  answers : ∀ p, Readable o.world p →
    (kvGet o.world p).map ArtifactKVResponse.value = orRaise (o.contents p.slot) .notFound
  isolated : ∀ now r p, r.owner? ≠ none → r.owner? ≠ some p.owner →
    kvGet (step takes o (now, r)).world p = kvGet o.world p

def Accepted (takes : KvRow → Bool) (w : World) (now : Timestamp) (p : Place) (value : Json) :
    Prop :=
  ∃ found, w.artifacts.getArtifact p.artifactId = some found ∧
    validateKvScope found.artifact p.scope p.userId true = .ok () ∧
    ∃ userId ∈ kvUserKey p.scope p.userId,
      let row : KvRow := ⟨⟨p.artifactId, p.scope, userId, p.key⟩, wrapKvValue value, now⟩
      row.Checked ∧ takes row = true

def PlainPut (takes : KvRow → Bool) (o : Observed) : Timestamp × Request → Prop
  | (now, .put p value) => Accepted takes o.world now p value → ¬IsEnvelope value
  | _ => True

/-! ### The envelope -/

theorem ne_of_get? {entries : JsonDict} {name : String} {v : Json}
    (h : entries.get? name = some v) : v ≠ .dict entries := by
  intro heq
  have hmem : (name, v) ∈ entries := by
    obtain ⟨l, r, hl, -⟩ := List.lookup_eq_some_iff.mp h
    exact hl ▸ List.mem_append_right _ List.mem_cons_self
  have hsize := List.sizeOf_lt_of_mem hmem
  rw [heq, Prod.mk.sizeOf_spec, Json.dict.sizeOf_spec] at hsize
  omega

/-- **The envelope is taken off again**, just if the value does not look like one. -/
theorem unwrapKvValue_wrapKvValue (v : Json) :
    unwrapKvValue (wrapKvValue v) = v ↔ ¬IsEnvelope v := by
  cases v with
  | dict entries =>
    rw [wrapKvValue, unwrapKvValue]
    by_cases h : IsEnvelope (.dict entries)
    · obtain ⟨v, hv⟩ := isSome_iff_exists.mp h.1
      rw [if_pos h, hv]
      exact ⟨fun heq => absurd heq (ne_of_get? hv), fun hnot => absurd h hnot⟩
    · rw [if_neg h]
      exact ⟨fun _ => h, fun _ => rfl⟩
  | null | bool | int | float | str | list => exact ⟨fun _ h => h, fun _ => rfl⟩

/-! ### Writes to the table -/

section Table

variable {t : KvTable} {row : KvRow} {pk : KvKey}

theorem get?_upsert_of_ne (h : row.pk ≠ pk) : (t.upsert row).get? pk = t.get? pk := by
  rw [KvTable.upsert]
  split
  · rw [Rows.get?_insert, if_neg h]
  · rw [Rows.get?_modify, if_neg h.symm]

theorem value_upsert_self :
    ((t.upsert row).get? row.pk).map KvRow.value = some row.value := by
  rw [KvTable.upsert]
  split
  · rw [Rows.get?_insert, if_pos rfl, map_some]
  · next h =>
      obtain ⟨old, hold⟩ := ne_none_iff_exists'.mp h
      rw [Rows.get?_modify_self, hold, map_some, map_some, KvRow.setValue]

theorem get?_erase {pk' : KvKey} :
    (t.erase pk).get? pk' = if pk' = pk then none else t.get? pk' := by
  refine ext fun r => ?_
  rw [Rows.get?_eq_some_iff, KvTable.erase, List.mem_filter, decide_eq_true_eq]
  split
  · next h => exact ⟨fun hr => absurd (hr.2.trans h) hr.1.2, fun h => by cases h⟩
  · next h => exact ⟨fun hr => Rows.get?_eq_some_iff.mpr ⟨hr.1.1, hr.2⟩, fun hr =>
      have hr := Rows.get?_eq_some_iff.mp hr
      ⟨⟨hr.1, hr.2 ▸ h⟩, hr.2⟩⟩

end Table

/-! ### Keys of the map and of the table -/

def Slot.pk : Slot → KvKey
  | (artifactId, .user id, key) => ⟨artifactId, .personal, id, key⟩
  | (artifactId, .everybody, key) => ⟨artifactId, .shared, sharedSentinel, key⟩

/-- **Two keys of the map have two rows.** -/
theorem Slot.pk_injective : Function.Injective Slot.pk := by
  rintro ⟨a, _ | _, k⟩ ⟨a', _ | _, k'⟩ h <;> simp_all [Slot.pk]

section Requests

variable {takes : KvRow → Bool} {w w' : World} {p : Place} {now : Timestamp} {value : Json}

theorem kvUserKey_of_validate {a : Artifact} {isWrite : Bool}
    (h : validateKvScope a p.scope p.userId isWrite = .ok ()) :
    ∃ userId, kvUserKey p.scope p.userId = some userId ∧
      (⟨p.artifactId, p.scope, userId, p.key⟩ : KvKey) = Slot.pk p.slot := by
  obtain ⟨artifactId, key, scope, userId⟩ := p
  cases scope with
  | personal =>
    cases userId with
    | none => exact absurd (check_eq_ok_iff.mp h) Bool.false_ne_true
    | some userId => exact ⟨userId, rfl, rfl⟩
  | shared => exact ⟨sharedSentinel, rfl, rfl⟩

theorem kvGet_of_readable (h : Readable w p) :
    kvGet w p = (orRaise (w.kv.get? (Slot.pk p.slot)) .notFound).map fun row =>
      p.response { row with value := unwrapKvValue row.value } := by
  obtain ⟨found, hfound, hvalid⟩ := h
  obtain ⟨userId, huser, hpk⟩ := kvUserKey_of_validate hvalid
  rw [kvGet, hfound]
  change (validateKvScope found.artifact p.scope p.userId false >>= fun _ => _) = _
  rw [hvalid, KvTable.kvGet, huser, bind_some, hpk]
  cases w.kv.get? (Slot.pk p.slot) <;> rfl

theorem kvPut_eq_ok {answer : ArtifactKVResponse}
    (h : kvPut takes w now p value = .ok (answer, w')) :
    Accepted takes w now p value ∧ w'.artifacts = w.artifacts ∧
      w'.kv = w.kv.upsert ⟨Slot.pk p.slot, wrapKvValue value, now⟩ := by
  simp only [kvPut, bind_eq_ok_iff, orRaise_eq_ok_iff, pure_eq_ok_iff] at h
  obtain ⟨found, hfound, _, hvalid, ⟨row, kv⟩, hput, heq⟩ := h
  obtain ⟨-, rfl⟩ := Prod.mk.inj heq
  obtain ⟨userId, huser, hpk⟩ := kvUserKey_of_validate hvalid
  simp only [KvTable.kvPut, huser, bind_some, ite_none_right_eq_some] at hput
  obtain ⟨htakes, heq⟩ := hput
  obtain ⟨-, rfl⟩ := Prod.mk.inj (some.inj heq)
  exact ⟨⟨found, hfound, hvalid, userId, huser, htakes⟩, rfl, by rw [hpk]⟩

theorem exists_kvPut (h : Accepted takes w now p value) :
    ∃ result, kvPut takes w now p value = .ok result := by
  obtain ⟨found, hfound, hvalid, userId, huser, htakes⟩ := h
  set row : KvRow := ⟨⟨p.artifactId, p.scope, userId, p.key⟩, wrapKvValue value, now⟩
  have hput : w.kv.kvPut takes now p.artifactId p.scope p.userId p.key value =
      some ({ row with value := unwrapKvValue row.value }, w.kv.upsert row) := by
    rw [KvTable.kvPut, huser]
    exact if_pos htakes
  refine ⟨(p.response { row with value := unwrapKvValue row.value },
    { w with kv := w.kv.upsert row }), ?_⟩
  simp only [kvPut, hfound, hput]
  change (validateKvScope found.artifact p.scope p.userId true >>= fun _ => _) = _
  rw [hvalid]
  rfl

theorem kvDelete_eq_ok {ok : Bool} (h : kvDelete w p = .ok (ok, w')) :
    w'.artifacts = w.artifacts ∧ w'.kv = w.kv.erase (Slot.pk p.slot) := by
  simp only [kvDelete, bind_eq_ok_iff, pure_eq_ok_iff] at h
  obtain ⟨found, hfound, _, hvalid, heq⟩ := h
  obtain ⟨userId, huser, hpk⟩ := kvUserKey_of_validate hvalid
  simp only [KvTable.kvDelete, huser, hpk] at heq
  obtain ⟨-, rfl⟩ := Prod.mk.inj heq
  exact ⟨rfl, rfl⟩

theorem Accepted.readable (h : Accepted takes w now p value) : Readable w p := by
  obtain ⟨found, hfound, hvalid, -⟩ := h
  refine ⟨found, hfound, ?_⟩
  obtain ⟨artifactId, key, scope, userId⟩ := p
  cases scope with
  | personal => exact hvalid
  | shared => exact check_eq_ok_iff.mpr fun hwrite => absurd hwrite Bool.false_ne_true

theorem kvGet_congr (hartifacts : w'.artifacts = w.artifacts)
    (hrow : w'.kv.get? (Slot.pk p.slot) = w.kv.get? (Slot.pk p.slot)) : kvGet w' p = kvGet w p := by
  have hkv : w'.kv.kvGet p.artifactId p.scope p.userId p.key =
      w.kv.kvGet p.artifactId p.scope p.userId p.key := by
    obtain ⟨artifactId, key, scope, userId⟩ := p
    cases scope with
    | personal =>
      cases userId with
      | none => rfl
      | some userId => exact congrArg (Option.map _) hrow
    | shared => exact congrArg (Option.map _) hrow
  rw [kvGet, kvGet, hartifacts, hkv]

end Requests

/-! ### Histories -/

section Histories

variable {takes : KvRow → Bool} {o : Observed}

def Stored (o : Observed) : Prop :=
  ∀ slot, (o.world.kv.get? (Slot.pk slot)).map KvRow.value = (o.contents slot).map wrapKvValue

theorem Stored.step (h : Stored o) (e : Timestamp × Request) : Stored (step takes o e) := by
  obtain ⟨now, r⟩ := e
  cases r with
  | get p => exact h
  | other artifacts => exact h
  | put p value =>
    rw [Kv.step]
    cases hput : kvPut takes o.world now p value with
    | error e => exact h
    | ok result =>
      obtain ⟨-, -, hkv⟩ := kvPut_eq_ok hput
      intro slot
      dsimp only
      rw [hkv]
      by_cases hslot : slot = p.slot
      · rw [hslot, Function.update_self]
        exact value_upsert_self
      · rw [Function.update_of_ne hslot,
          get?_upsert_of_ne fun heq => hslot (Slot.pk_injective heq).symm]
        exact h slot
  | delete p =>
    rw [Kv.step]
    cases hdelete : kvDelete o.world p with
    | error e => exact h
    | ok result =>
      obtain ⟨-, hkv⟩ := kvDelete_eq_ok hdelete
      intro slot
      dsimp only
      rw [hkv]
      by_cases hslot : slot = p.slot
      · rw [hslot, Function.update_self, get?_erase, if_pos rfl]
        rfl
      · rw [Function.update_of_ne hslot, get?_erase,
          if_neg fun heq => hslot (Slot.pk_injective heq)]
        exact h slot

theorem Stored.kvGet (h : Stored o) {p : Place} (hp : Readable o.world p) :
    (kvGet o.world p).map ArtifactKVResponse.value =
      orRaise ((o.contents p.slot).map fun v => unwrapKvValue (wrapKvValue v)) .notFound := by
  have hslot := h p.slot
  rw [kvGet_of_readable hp]
  cases hrow : o.world.kv.get? (Slot.pk p.slot) with
  | none =>
    rw [hrow, map_none, eq_comm, map_eq_none_iff] at hslot
    rw [hslot]
    rfl
  | some row =>
    rw [hrow, map_some, eq_comm, map_eq_some_iff] at hslot
    obtain ⟨v, hv, hrow⟩ := hslot
    rw [hv, map_some, hrow]
    rfl

theorem step_isolated {now : Timestamp} {r : Request} {p : Place} (hcall : r.owner? ≠ none)
    (hother : r.owner? ≠ some p.owner) :
    kvGet (step takes o (now, r)).world p = kvGet o.world p := by
  have hpk : ∀ q : Place, r.owner? = some q.owner → Slot.pk q.slot ≠ Slot.pk p.slot := by
    intro q hq heq
    have howner : q.owner = p.owner := congrArg (·.2.1) (Slot.pk_injective heq)
    exact hother (howner ▸ hq)
  cases r with
  | get q => rfl
  | other artifacts => exact absurd rfl hcall
  | put q value =>
    rw [step]
    cases hput : kvPut takes o.world now q value with
    | error e => rfl
    | ok result =>
      obtain ⟨-, hartifacts, hkv⟩ := kvPut_eq_ok hput
      refine kvGet_congr hartifacts ?_
      rw [hkv]
      exact get?_upsert_of_ne (hpk q rfl)
  | delete q =>
    rw [step]
    cases hdelete : kvDelete o.world q with
    | error e => rfl
    | ok result =>
      obtain ⟨hartifacts, hkv⟩ := kvDelete_eq_ok hdelete
      refine kvGet_congr hartifacts ?_
      rw [hkv, get?_erase, if_neg (hpk q rfl).symm]

def Plain (o : Observed) : Prop := ∀ slot, ∀ v ∈ o.contents slot, ¬IsEnvelope v

theorem Stored.isMap (h : Stored o) (hplain : Plain o) : IsMap takes o where
  answers p hp := by
    rw [h.kvGet hp]
    cases hv : o.contents p.slot with
    | none => rfl
    | some v => rw [map_some, (unwrapKvValue_wrapKvValue v).mpr (hplain p.slot v hv)]
  isolated _ _ _ hcall hother := step_isolated hcall hother

theorem Plain.update (h : Plain o) {slot : Slot} {v : Option Json} {world : World}
    (hv : ∀ v' ∈ v, ¬IsEnvelope v') : Plain ⟨world, Function.update o.contents slot v⟩ := by
  intro slot' v' hv'
  by_cases hslot : slot' = slot
  · subst hslot
    exact hv v' (by simpa using hv')
  · exact h slot' v' (by simpa [hslot] using hv')

theorem Plain.step (h : Plain o) {e : Timestamp × Request} (he : PlainPut takes o e) :
    Plain (step takes o e) := by
  obtain ⟨now, r⟩ := e
  cases r with
  | get p => exact h
  | other artifacts => exact h
  | put p value =>
    rw [Kv.step]
    cases hput : kvPut takes o.world now p value with
    | error e => exact h
    | ok result =>
      refine h.update fun v' hv' => ?_
      cases hv'
      exact he (kvPut_eq_ok hput).1
  | delete p =>
    rw [Kv.step]
    cases hdelete : kvDelete o.world p with
    | error e => exact h
    | ok result => exact h.update nofun

/-- An object that looks like the envelope is read back as what is in it. -/
theorem Stored.not_isMap (h : Stored o) {e : Timestamp × Request} (he : ¬PlainPut takes o e) :
    ¬IsMap takes (Kv.step takes o e) := by
  intro hmap
  have hstored : Stored (Kv.step takes o e) := h.step e
  obtain ⟨now, r⟩ := e
  cases r with
  | get | delete | other => exact he trivial
  | put p value =>
    obtain ⟨haccepted, henvelope⟩ := not_forall.mp he
    rw [Kv.step] at hmap hstored
    obtain ⟨⟨answer, world⟩, hput⟩ := exists_kvPut haccepted
    rw [hput] at hmap hstored
    obtain ⟨-, hartifacts, -⟩ := kvPut_eq_ok hput
    have hreadable : Readable world p := by
      obtain ⟨found, hfound, hvalid⟩ := haccepted.readable
      exact ⟨found, hartifacts ▸ hfound, hvalid⟩
    have hread := (hstored.kvGet hreadable).symm.trans (hmap.answers p hreadable)
    simp only [Function.update_self] at hread
    have hvalue : unwrapKvValue (wrapKvValue value) = value := Except.ok.inj hread
    exact henvelope ((unwrapKvValue_wrapKvValue value).mp hvalue)

/-- **Values under keys.** In every history, all that is read is what the map has, just if no
object is stored that looks like the envelope. -/
theorem isMap_iff (takes : KvRow → Bool) (artifacts : ArtifactStore)
    (history : List (Timestamp × Request)) :
    Always (step takes) (IsMap takes) (.start artifacts) history ↔
      AllSteps (step takes) (PlainPut takes) (.start artifacts) history :=
  always_iff_allSteps (J := fun o => Stored o ∧ Plain o) ⟨fun _ => rfl, nofun⟩
    (fun _ h => h.1.isMap h.2) (fun _ e h he => ⟨h.1.step e, h.2.step he⟩)
    fun _ _ h he => h.1.not_isMap he

end Histories

/-! ### An object like the envelope -/

/-- An artifact, and a value for a user: an object with the one key `_v`. -/
def envelopeHistory : List (Timestamp × Request) :=
  [(0, .other { ArtifactStore.empty with artifacts := soleArtifact }),
    (1, .put ⟨['a'], ['k'], .personal, some ['u']⟩ (.dict [("_v", .int 1)]))]

/-- The number is read, without the object. -/
theorem not_isMap :
    ¬Always (step fun _ => true) (IsMap fun _ => true) (.start ArtifactStore.empty)
      envelopeHistory := by
  intro h
  have hread := h.2.2.answers ⟨['a'], ['k'], .personal, some ['u']⟩ ⟨_, rfl, rfl⟩
  exact nomatch Except.ok.inj hread

end IsaUser.Artifacts.Kv
