import IsaUser.Lib.Faults
import IsaUser.Product.Model

/-!
# Writing the Catalogue

The administration of cost definitions in `product_service.py` and `product_repository.py`.
`admin_rotate_cost_definitions` gives each listed definition an end date and inserts its
successor, one after the other; what a write answers is not looked at.
-/

open List Option

namespace IsaUser.Product

/-! ### The repository -/

def CostTable.find? (table : CostTable) (costId : PyStr) : Option CostDefinition :=
  table.rows.find? fun d => d.costId = costId

def CostDefinition.expire (costId : PyStr) (effectiveUntil : Option Timestamp)
    (d : CostDefinition) : CostDefinition :=
  if d.costId = costId then { d with effectiveUntil } else d

@[simp] theorem expire_costId (costId : PyStr) (effectiveUntil : Option Timestamp)
    (d : CostDefinition) : (d.expire costId effectiveUntil).costId = d.costId := by
  rw [CostDefinition.expire]
  split <;> rfl

/-- `UPDATE cost_definitions SET effective_until = ... WHERE cost_id = ...`. -/
def CostTable.expire (table : CostTable) (costId : PyStr) (effectiveUntil : Option Timestamp) :
    CostTable where
  rows := table.rows.map (CostDefinition.expire costId effectiveUntil)
  unique := by
    rw [List.map_map]
    have hsame : CostDefinition.costId ∘ CostDefinition.expire costId effectiveUntil =
        CostDefinition.costId := funext fun d => expire_costId costId effectiveUntil d
    rw [hsame]
    exact table.unique

def CostTable.Accepts (table : CostTable) (costId : PyStr) : Prop :=
  costId.length ≤ 100 ∧ ∀ d ∈ table.rows, d.costId ≠ costId
  deriving Decidable

def CostTable.append (table : CostTable) (d : CostDefinition) (h : table.Accepts d.costId) :
    CostTable where
  rows := table.rows ++ [d]
  unique := by
    rw [List.map_append, List.nodup_append]
    refine ⟨table.unique, List.nodup_singleton _, ?_⟩
    rintro _ hmem _ hd rfl
    obtain ⟨e, he, hid⟩ := List.mem_map.mp hmem
    exact h.2 e he (hid.trans (List.mem_singleton.mp hd))

/-- `INSERT INTO cost_definitions`. -/
def CostTable.insert (table : CostTable) (d : CostDefinition) : Option CostTable :=
  if h : table.Accepts d.costId then some (table.append d h) else none

/-- The `data` of `create_cost_definition`. An outer `none` is a missing key. -/
structure CostData where
  costId : Option PyStr
  productId : Option PyStr := none
  serviceType : Option PyStr
  provider : Option PyStr := none
  modelName : Option PyStr := none
  operationType : Option PyStr := none
  costPerUnit : Option ℤ
  unitType : Option PyStr
  unitSize : Option (Option ℤ) := none
  originalCostUsd : Option ℚ := none
  marginPercentage : Option (Option ℚ) := none
  effectiveFrom : Option (Option Timestamp) := none
  effectiveUntil : Option Timestamp := none
  freeTierLimit : Option (Option ℤ) := none
  freeTierPeriod : Option (Option PyStr) := none
  isActive : Option (Option Bool) := none
  metadata : Option RuntimeMetadata := none
  deriving DecidableEq, Repr

def CostData.row (data : CostData) (now : Timestamp) : Option CostDefinition :=
  match data.costId, data.serviceType, data.costPerUnit, data.unitType with
  | some costId, some serviceType, some costPerUnit, some unitType =>
    some {
      costId, productId := data.productId, serviceType, provider := data.provider,
      modelName := data.modelName, operationType := data.operationType, costPerUnit, unitType,
      unitSize := data.unitSize.getD (some 1), originalCostUsd := data.originalCostUsd,
      marginPercentage := data.marginPercentage.getD (some 30),
      effectiveFrom := data.effectiveFrom.getD (some now),
      effectiveUntil := data.effectiveUntil, freeTierLimit := data.freeTierLimit.getD (some 0),
      freeTierPeriod := data.freeTierPeriod.getD (some "monthly".toList),
      isActive := data.isActive.getD (some true), metadata := data.metadata.getD {} }
  | _, _, _, _ => none

/-- `create_cost_definition`: the row, or `None` where anything fails. -/
def CostTable.createCostDefinition (table : CostTable) (link : Link) (now : Timestamp)
    (data : CostData) : Option CostDefinition × CostTable :=
  match data.row now with
  | none => (none, table)
  | some d =>
    match table.insert d with
    | none => (none, table)
    | some inserted =>
      match link.send () (d, inserted) table with
      | (.ok d, table) => (some d, table)
      | (.error (), table) => (none, table)

/-- `expire_cost_definition`: whether a row was updated, or `False` where anything fails. -/
def CostTable.expireCostDefinition (table : CostTable) (link : Link) (costId : PyStr)
    (effectiveUntil : Option Timestamp) : Bool × CostTable :=
  match link.send () ((table.find? costId).isSome, table.expire costId effectiveUntil) table with
  | (.ok updated, table) => (updated, table)
  | (.error (), table) => (false, table)

/-- `get_cost_definition`: `None` where anything fails. -/
def CostTable.getCostDefinition (table : CostTable) (link : Link) (costId : PyStr) :
    Option CostDefinition :=
  if link = .up then table.find? costId else none

/-! ### The administration -/

/-- An `effective_from` of a request. A date with a time zone cannot be compared with
`datetime.utcnow()`. -/
inductive DateEntry where
  | absent
  | naive (t : Timestamp)
  | aware (t : Timestamp)
  | malformed
  deriving DecidableEq, Repr

inductive CatalogError where
  | keyError
  | typeError
  /-- "Invalid isoformat string". -/
  | invalidIsoformat
  /-- "effective_from ... cannot be in the past". -/
  | inThePast (costId : Option PyStr)
  /-- "Cost definition ... not found". -/
  | notFound (costId : PyStr)
  deriving DecidableEq, Repr

def DateEntry.read (entry : DateEntry) (now : Timestamp) (costId : Option PyStr) :
    Except CatalogError (Option Timestamp) :=
  match entry with
  | absent => .ok none
  | naive t => if t < now then .error (.inThePast costId) else .ok (some t)
  | aware _ => .error .typeError
  | malformed => .error .invalidIsoformat

/-- `admin_create_cost_definition`, where `effective_from` is an entry of its own. -/
def CostTable.adminCreate (table : CostTable) (link : Link) (now : Timestamp) (data : CostData)
    (effectiveFrom : DateEntry) : Except CatalogError (Option CostDefinition) × CostTable :=
  match effectiveFrom.read now none with
  | .error e => (.error e, table)
  | .ok date =>
    let data := { data with effectiveFrom := date.elim data.effectiveFrom (some ∘ some) }
    let r := table.createCostDefinition link now data
    (.ok r.1, r.2)

structure Rotation where
  costId : Option PyStr
  newCostPerUnit : Option ℤ := none
  /-- `None` may be given. -/
  newOriginalCostUsd : Option (Option ℚ) := none
  effectiveFrom : DateEntry := .absent
  deriving DecidableEq, Repr

/-- What a rotation meets: the readings of `datetime.utcnow()`, and how its calls fare. -/
structure Surroundings where
  checkTime : Timestamp
  idTime : Timestamp
  read : Link := .up
  expire : Link := .up
  create : Link := .up
  deriving DecidableEq, Repr

/-- `f"{cost_id}_v{int(datetime.utcnow().timestamp())}"`. -/
def successorId (costId : PyStr) (now : Timestamp) : PyStr :=
  costId ++ "_v".toList ++ (toString (now.tdiv 1000000)).toList

def Rotation.newData (r : Rotation) (old : CostDefinition) (costId : PyStr)
    (effectiveFrom : Option Timestamp) : CostData where
  costId := some costId
  productId := old.productId
  serviceType := some old.serviceType
  provider := old.provider
  modelName := old.modelName
  operationType := old.operationType
  costPerUnit := some (r.newCostPerUnit.getD old.costPerUnit)
  unitType := some old.unitType
  unitSize := some old.unitSize
  originalCostUsd := r.newOriginalCostUsd.getD old.originalCostUsd
  marginPercentage := some old.marginPercentage
  effectiveFrom := some effectiveFrom
  freeTierLimit := some old.freeTierLimit
  freeTierPeriod := some old.freeTierPeriod

/-- An entry of `results`. -/
structure RotationResult where
  expired : PyStr
  created : Option CostDefinition
  deriving DecidableEq, Repr

/-- One turn of the loop of `admin_rotate_cost_definitions`. -/
def Rotation.carryOut (r : Rotation) (env : Surroundings) (table : CostTable) :
    Except CatalogError RotationResult × CostTable :=
  match r.costId with
  | none => (.error .keyError, table)
  | some costId =>
    match r.effectiveFrom.read env.checkTime (some costId) with
    | .error e => (.error e, table)
    | .ok eff =>
      match table.getCostDefinition env.read costId with
      | none => (.error (.notFound costId), table)
      | some old =>
        let expired := (table.expireCostDefinition env.expire costId eff).2
        let created := expired.createCostDefinition env.create env.idTime
          (r.newData old (successorId costId env.idTime) eff)
        (.ok ⟨costId, created.1⟩, created.2)

/-- `admin_rotate_cost_definitions`. -/
def CostTable.adminRotate (table : CostTable) :
    List (Rotation × Surroundings) → Except CatalogError (List RotationResult) × CostTable
  | [] => (.ok [], table)
  | (r, env) :: rotations =>
    match r.carryOut env table with
    | (.error e, table) => (.error e, table)
    | (.ok result, table) =>
      match adminRotate table rotations with
      | (.error e, table) => (.error e, table)
      | (.ok results, table) => (.ok (result :: results), table)

/-! ### The law -/

structure RotationTurn where
  rotation : Rotation
  env : Surroundings
  before : CostTable
  after : CostTable

def CostTable.turns (table : CostTable) : List (Rotation × Surroundings) → List RotationTurn
  | [] => []
  | (r, env) :: rotations =>
    ⟨r, env, table, (r.carryOut env table).2⟩ ::
      match (r.carryOut env table).1 with
      | .error _ => []
      | .ok _ => turns (r.carryOut env table).2 rotations

/-- The successor of a definition from a date on: a new row for the same service, provider,
model, operation, unit and runtime. -/
structure Succeeds (old new : CostDefinition) (date : Timestamp) : Prop where
  serviceType : new.serviceType = old.serviceType
  provider : new.provider = old.provider
  modelName : new.modelName = old.modelName
  operationType : new.operationType = old.operationType
  unitType : new.unitType = old.unitType
  unitSize : new.unitSize = old.unitSize
  metadata : new.metadata = old.metadata
  effectiveFrom : new.effectiveFrom = some date

/-- The listed definition has got an end date and one successor, and nothing else has
changed. -/
def RotationTurn.CarriedOut (turn : RotationTurn) : Prop :=
  ∃ costId old date new, turn.rotation.costId = some costId ∧
    turn.before.find? costId = some old ∧ Succeeds old new date ∧
    turn.after.rows = (turn.before.expire costId (some date)).rows ++ [new]

/-- **All or nothing.** The call returns, and each rotation has been carried out, or it raises,
and none has changed the table. -/
def AllOrNothing (table : CostTable) (rotations : List (Rotation × Surroundings)) : Prop :=
  ((∃ results, (table.adminRotate rotations).1 = .ok results) ∧
      ∀ turn ∈ table.turns rotations, turn.CarriedOut) ∨
    (∃ e, (table.adminRotate rotations).1 = .error e) ∧
      ∀ turn ∈ table.turns rotations, turn.after = turn.before

def RotationTurn.Refused (turn : RotationTurn) : Prop :=
  match turn.rotation.costId with
  | none => True
  | some costId =>
    (∃ t, turn.rotation.effectiveFrom = .aware t) ∨ turn.rotation.effectiveFrom = .malformed ∨
      (∃ t < turn.env.checkTime, turn.rotation.effectiveFrom = .naive t) ∨
      turn.env.read ≠ .up ∨ turn.before.find? costId = none

/-- A rotation to a date, of a definition for every runtime, whose successor has an id that the
table accepts, and whose writes do not fail. -/
def RotationTurn.Clean (turn : RotationTurn) : Prop :=
  ∃ costId old date, turn.rotation.costId = some costId ∧
    turn.rotation.effectiveFrom = .naive date ∧ turn.env.checkTime ≤ date ∧
    turn.env.read = .up ∧ turn.before.find? costId = some old ∧ old.metadata = {} ∧
    turn.before.Accepts (successorId costId turn.env.idTime) ∧
    (turn.env.expire = .down → old.effectiveUntil = some date) ∧ turn.env.create ≠ .down

def RotationTurn.Idle (turn : RotationTurn) : Prop :=
  ∀ costId ∈ turn.rotation.costId, ∀ old ∈ turn.before.find? costId,
    (turn.env.expire = .down ∨ ∀ date, turn.rotation.effectiveFrom.read turn.env.checkTime
      (some costId) = .ok date → old.effectiveUntil = date) ∧
    (turn.env.create = .down ∨ ¬ turn.before.Accepts (successorId costId turn.env.idTime))

/-! ### What the writes do -/

section Writes

variable {table : CostTable} {costId : PyStr}

theorem CostTable.ext {t t' : CostTable} (h : t.rows = t'.rows) : t = t' := by
  cases t
  cases t'
  congr

theorem map_eq_self_iff {α : Type} {f : α → α} {l : List α} :
    l.map f = l ↔ ∀ a ∈ l, f a = a := by
  simpa using map_inj_left (f := f) (g := id) (l := l)

theorem mem_of_find? {old : CostDefinition} (h : table.find? costId = some old) :
    old ∈ table.rows ∧ old.costId = costId :=
  ⟨mem_of_find?_eq_some h, by simpa using find?_some h⟩

theorem accepts_expire (effectiveUntil : Option Timestamp) (newId : PyStr) :
    (table.expire costId effectiveUntil).Accepts newId ↔ table.Accepts newId := by
  simp [CostTable.Accepts, CostTable.expire]

theorem expire_eq_self_iff {old : CostDefinition} (h : table.find? costId = some old)
    (effectiveUntil : Option Timestamp) :
    table.expire costId effectiveUntil = table ↔ old.effectiveUntil = effectiveUntil := by
  obtain ⟨hmem, hid⟩ := mem_of_find? h
  constructor
  · intro hsame
    have hrows : table.rows.map (CostDefinition.expire costId effectiveUntil) = table.rows :=
      congrArg CostTable.rows hsame
    have hold : old.expire costId effectiveUntil = old :=
      map_eq_self_iff.mp hrows old hmem
    rw [CostDefinition.expire, if_pos hid] at hold
    exact (congrArg CostDefinition.effectiveUntil hold).symm
  · intro huntil
    refine CostTable.ext (map_eq_self_iff.mpr fun d hd => ?_)
    rw [CostDefinition.expire]
    split
    · next hd' =>
        obtain rfl : d = old := inj_on_of_nodup_map table.unique hd hmem (hd'.trans hid.symm)
        rw [← huntil]
    · rfl

/-- **`expire_cost_definition`** has changed the row unless it was not executed. -/
theorem expireCostDefinition_snd (table : CostTable) (link : Link) (costId : PyStr)
    (effectiveUntil : Option Timestamp) :
    (table.expireCostDefinition link costId effectiveUntil).2 =
      if link = .down then table else table.expire costId effectiveUntil := by
  cases link <;> rfl

def Rotation.newRow (r : Rotation) (old : CostDefinition) (newId : PyStr)
    (effectiveFrom : Option Timestamp) : CostDefinition :=
  { old with
    costId := newId, costPerUnit := r.newCostPerUnit.getD old.costPerUnit,
    originalCostUsd := r.newOriginalCostUsd.getD old.originalCostUsd,
    effectiveFrom, effectiveUntil := none, isActive := some true, metadata := {} }

/-- **`create_cost_definition`** has inserted the successor unless it was not executed, or its
id was not accepted. -/
theorem createCostDefinition_snd (table : CostTable) (link : Link) (now : Timestamp)
    (r : Rotation) (old : CostDefinition) (newId : PyStr) (eff : Option Timestamp) :
    (table.createCostDefinition link now (r.newData old newId eff)).2.rows =
      if link ≠ .down ∧ table.Accepts newId then table.rows ++ [r.newRow old newId eff]
      else table.rows := by
  have hrow : (r.newData old newId eff).row now = some (r.newRow old newId eff) := rfl
  rw [CostTable.createCostDefinition, hrow]
  dsimp only
  by_cases haccepts : table.Accepts newId
  · have hinsert : table.insert (r.newRow old newId eff) =
        some (table.append (r.newRow old newId eff) haccepts) := dif_pos haccepts
    rw [hinsert]
    cases link with
    | up => exact (if_pos ⟨nofun, haccepts⟩).symm
    | down => exact (if_neg fun h => h.1 rfl).symm
    | lost => exact (if_pos ⟨nofun, haccepts⟩).symm
  · have hinsert : table.insert (r.newRow old newId eff) = none := dif_neg haccepts
    rw [hinsert, if_neg fun h => haccepts h.2]

end Writes

/-! ### What a turn does -/

section Turns

variable {turn : RotationTurn}

def RotationTurn.Valid (turn : RotationTurn) : Prop :=
  turn.after = (turn.rotation.carryOut turn.env turn.before).2

theorem read_eq_error_iff {entry : DateEntry} {now : Timestamp} {costId : Option PyStr} :
    (∃ e, entry.read now costId = .error e) ↔
      (∃ t, entry = .aware t) ∨ entry = .malformed ∨ ∃ t < now, entry = .naive t := by
  cases entry with
  | absent => simp [DateEntry.read]
  | naive t =>
    by_cases h : t < now
    · simp [DateEntry.read, h]
    · simp [DateEntry.read, h]
  | aware t => simp [DateEntry.read]
  | malformed => simp [DateEntry.read]

/-- **What a turn can do**: it raises and changes nothing, or it makes both writes. -/
theorem carryOut_cases (turn : RotationTurn) :
    (turn.Refused ∧ ∃ e, turn.rotation.carryOut turn.env turn.before = (.error e, turn.before)) ∨
    (¬ turn.Refused ∧ ∃ costId eff old result expired, turn.rotation.costId = some costId ∧
      turn.rotation.effectiveFrom.read turn.env.checkTime (some costId) = .ok eff ∧
      turn.env.read = .up ∧ turn.before.find? costId = some old ∧
      expired = (turn.before.expireCostDefinition turn.env.expire costId eff).2 ∧
      turn.rotation.carryOut turn.env turn.before = (.ok result,
        (expired.createCostDefinition turn.env.create turn.env.idTime
          (turn.rotation.newData old (successorId costId turn.env.idTime) eff)).2)) := by
  obtain ⟨r, env, table, after⟩ := turn
  simp only [RotationTurn.Refused, Rotation.carryOut]
  cases hid : r.costId with
  | none => exact .inl ⟨trivial, _, rfl⟩
  | some costId =>
    dsimp only
    cases hread : r.effectiveFrom.read env.checkTime (some costId) with
    | error e =>
      have hdate := read_eq_error_iff.mp ⟨e, hread⟩
      refine .inl ⟨?_, e, rfl⟩
      rcases hdate with h | h | h
      · exact .inl h
      · exact .inr (.inl h)
      · exact .inr (.inr (.inl h))
    | ok eff =>
      have hdate : ¬ _ := fun h => by
        obtain ⟨e, he⟩ := read_eq_error_iff.mpr h
        cases he.symm.trans hread
      rw [not_or, not_or] at hdate
      by_cases hup : env.read = .up
      · have hget : table.getCostDefinition env.read costId = table.find? costId := if_pos hup
        rw [hget]
        cases hfind : table.find? costId with
        | none => exact .inl ⟨.inr (.inr (.inr (.inr rfl))), _, rfl⟩
        | some old =>
          refine .inr ⟨?_, costId, eff, old, _, _, rfl, hread, hup, hfind, rfl, rfl⟩
          rintro (h | h | h | h | h)
          · exact hdate.1 h
          · exact hdate.2.1 h
          · exact hdate.2.2 h
          · exact h hup
          · cases h
      · have hget : table.getCostDefinition env.read costId = none := if_neg hup
        rw [hget]
        exact .inl ⟨.inr (.inr (.inr (.inl hup))), _, rfl⟩

theorem rows_after (hvalid : turn.Valid) (hrefused : ¬ turn.Refused) :
    ∃ costId eff old expired, turn.rotation.costId = some costId ∧
      turn.rotation.effectiveFrom.read turn.env.checkTime (some costId) = .ok eff ∧
      turn.env.read = .up ∧ turn.before.find? costId = some old ∧
      expired = (if turn.env.expire = .down then turn.before else turn.before.expire costId eff) ∧
      turn.after.rows =
        if turn.env.create ≠ .down ∧ turn.before.Accepts (successorId costId turn.env.idTime) then
          expired.rows ++ [turn.rotation.newRow old (successorId costId turn.env.idTime) eff]
        else expired.rows := by
  rcases carryOut_cases turn with ⟨h, -⟩ | ⟨-, costId, eff, old, result, expired, hid, hread, hup,
    hfind, hexpired, hout⟩
  · exact absurd h hrefused
  · rw [expireCostDefinition_snd] at hexpired
    have haccepts : expired.Accepts (successorId costId turn.env.idTime) ↔
        turn.before.Accepts (successorId costId turn.env.idTime) := by
      rw [hexpired]
      split
      · rfl
      · exact accepts_expire _ _
    refine ⟨costId, eff, old, expired, hid, hread, hup, hfind, hexpired, ?_⟩
    rw [hvalid, hout]
    rw [createCostDefinition_snd]
    simp only [haccepts]

theorem read_eq_ok_some {entry : DateEntry} {now t : Timestamp} {costId : Option PyStr} :
    entry.read now costId = .ok (some t) ↔ entry = .naive t ∧ now ≤ t := by
  cases entry with
  | absent => simp [DateEntry.read]
  | naive t' =>
    by_cases h : t' < now
    · simp only [DateEntry.read, if_pos h, DateEntry.naive.injEq, reduceCtorEq, false_iff]
      rintro ⟨rfl, hle⟩
      exact absurd hle (not_le.mpr h)
    · simp only [DateEntry.read, if_neg h, DateEntry.naive.injEq, Except.ok.injEq,
        some.injEq]
      constructor
      · rintro rfl
        exact ⟨rfl, not_lt.mp h⟩
      · exact And.left
  | aware t' => simp [DateEntry.read]
  | malformed => simp [DateEntry.read]

theorem length_expire (table : CostTable) (costId : PyStr) (eff : Option Timestamp) :
    (table.expire costId eff).rows.length = table.rows.length :=
  length_map _

theorem length_expired (turn : RotationTurn) (costId : PyStr) (eff : Option Timestamp) :
    (if turn.env.expire = .down then turn.before
      else turn.before.expire costId eff).rows.length = turn.before.rows.length := by
  split
  · rfl
  · exact length_expire _ _ _

theorem carriedOut_iff (hvalid : turn.Valid) (hrefused : ¬ turn.Refused) :
    turn.CarriedOut ↔ turn.Clean := by
  obtain ⟨costId, eff, old, expired, hid, hread, hup, hfind, hexpired, hrows⟩ :=
    rows_after hvalid hrefused
  have hlength : expired.rows.length = turn.before.rows.length :=
    hexpired ▸ length_expired turn costId eff
  constructor
  · rintro ⟨costId', old', date, new, hid', hfind', hsucceeds, hafter⟩
    obtain rfl : costId = costId' := some.inj (hid.symm.trans hid')
    obtain rfl : old = old' := some.inj (hfind.symm.trans hfind')
    rw [hrows] at hafter
    by_cases hcreated : turn.env.create ≠ .down ∧
        turn.before.Accepts (successorId costId turn.env.idTime)
    · rw [if_pos hcreated] at hafter
      obtain ⟨hsame, hnew⟩ := append_inj hafter (hlength.trans (length_expire _ _ _).symm)
      obtain rfl : turn.rotation.newRow old (successorId costId turn.env.idTime) eff = new :=
        singleton_inj.mp hnew
      obtain rfl : eff = some date := hsucceeds.effectiveFrom
      obtain ⟨hnaive, hle⟩ := read_eq_ok_some.mp hread
      refine ⟨costId, old, date, hid, hnaive, hle, hup, hfind, hsucceeds.metadata.symm, hcreated.2,
        fun hdown => ?_, hcreated.1⟩
      rw [if_pos hdown] at hexpired
      rw [hexpired] at hsame
      exact (expire_eq_self_iff hfind _).mp (CostTable.ext hsame).symm
    · rw [if_neg hcreated] at hafter
      have hcount := congrArg length hafter
      rw [length_append, length_expire, hlength] at hcount
      simp at hcount
  · rintro ⟨costId', old', date, hid', hnaive, hle, -, hfind', hmetadata, haccepts, huntil, hcreate⟩
    obtain rfl : costId = costId' := some.inj (hid.symm.trans hid')
    obtain rfl : old = old' := some.inj (hfind.symm.trans hfind')
    obtain rfl : eff = some date :=
      Except.ok.inj (hread.symm.trans (read_eq_ok_some.mpr ⟨hnaive, hle⟩))
    have hended : expired = turn.before.expire costId (some date) := by
      rw [hexpired]
      by_cases hdown : turn.env.expire = .down
      · rw [if_pos hdown, (expire_eq_self_iff hfind _).mpr (huntil hdown)]
      · rw [if_neg hdown]
    refine ⟨costId, old, date, turn.rotation.newRow old (successorId costId turn.env.idTime)
      (some date), hid, hfind, ⟨rfl, rfl, rfl, rfl, rfl, rfl, hmetadata.symm, rfl⟩, ?_⟩
    rw [hrows, if_pos ⟨hcreate, haccepts⟩, hended]

theorem after_eq_before_iff (hvalid : turn.Valid) (hrefused : ¬ turn.Refused) :
    turn.after = turn.before ↔ turn.Idle := by
  obtain ⟨costId, eff, old, expired, hid, hread, hup, hfind, hexpired, hrows⟩ :=
    rows_after hvalid hrefused
  have hlength : expired.rows.length = turn.before.rows.length :=
    hexpired ▸ length_expired turn costId eff
  have hidle : turn.Idle ↔ (turn.env.expire = .down ∨ old.effectiveUntil = eff) ∧
      (turn.env.create = .down ∨ ¬ turn.before.Accepts (successorId costId turn.env.idTime)) := by
    simp [RotationTurn.Idle, hid, hfind, hread]
  have hexpiredSame : expired = turn.before ↔
      turn.env.expire = .down ∨ old.effectiveUntil = eff := by
    rw [hexpired]
    by_cases hdown : turn.env.expire = .down
    · simp [hdown]
    · rw [if_neg hdown, expire_eq_self_iff hfind]
      simp [hdown]
  rw [hidle, ← hexpiredSame]
  constructor
  · intro hsame
    have hcreated : ¬ (turn.env.create ≠ .down ∧
        turn.before.Accepts (successorId costId turn.env.idTime)) := by
      intro hcreated
      rw [hsame, if_pos hcreated] at hrows
      have hcount := congrArg length hrows
      rw [length_append, hlength] at hcount
      simp at hcount
    rw [if_neg hcreated, hsame] at hrows
    refine ⟨(CostTable.ext hrows).symm, ?_⟩
    by_cases hdown : turn.env.create = .down
    · exact .inl hdown
    · exact .inr fun haccepts => hcreated ⟨hdown, haccepts⟩
  · rintro ⟨hsame, hfailed⟩
    refine CostTable.ext ?_
    rw [hrows, if_neg, hsame]
    rintro ⟨hcreate, haccepts⟩
    rcases hfailed with h | h
    · exact hcreate h
    · exact h haccepts

end Turns

/-! ### The whole call -/

section Call

variable {table table' : CostTable} {r : Rotation} {env : Surroundings}
  {rotations : List (Rotation × Surroundings)}

variable (rotations) in
theorem rotate_of_error {e : CatalogError} (h : r.carryOut env table = (.error e, table')) :
    table.turns ((r, env) :: rotations) = [⟨r, env, table, table'⟩] ∧
      (table.adminRotate ((r, env) :: rotations)).1 = .error e := by
  constructor
  · simp only [CostTable.turns, h]
  · simp only [CostTable.adminRotate, h]

variable (rotations) in
theorem rotate_of_ok {result : RotationResult}
    (h : r.carryOut env table = (.ok result, table')) :
    table.turns ((r, env) :: rotations) = ⟨r, env, table, table'⟩ :: table'.turns rotations ∧
      (table.adminRotate ((r, env) :: rotations)).1 =
        (table'.adminRotate rotations).1.map (result :: ·) := by
  constructor
  · simp only [CostTable.turns, h]
  · simp only [CostTable.adminRotate, h]
    rcases table'.adminRotate rotations with ⟨_ | _, _⟩ <;> rfl

variable (table rotations) in
/-- **The turns of a call**: none raises and it returns, or the last one raises, and it does. -/
theorem turns_cases :
    (∀ turn ∈ table.turns rotations, turn.Valid) ∧
    (((∃ results, (table.adminRotate rotations).1 = .ok results) ∧
      ∀ turn ∈ table.turns rotations, ¬ turn.Refused) ∨
    (∃ e, (table.adminRotate rotations).1 = .error e) ∧
      ∃ turns last, table.turns rotations = turns ++ [last] ∧ last.Refused ∧
        last.after = last.before ∧ ∀ turn ∈ turns, ¬ turn.Refused) := by
  induction rotations generalizing table with
  | nil => simp [CostTable.turns, CostTable.adminRotate]
  | cons entry rotations ih =>
    obtain ⟨r, env⟩ := entry
    rcases carryOut_cases ⟨r, env, table, table⟩ with
      ⟨hrefused, e, hout⟩ | ⟨hrefused, _, _, _, result, _, -, -, -, -, -, hout⟩
    · dsimp only at hout
      obtain ⟨hturns, hcall⟩ := rotate_of_error rotations hout
      have hvalid : RotationTurn.Valid ⟨r, env, table, table⟩ := (congrArg Prod.snd hout).symm
      rw [hturns]
      refine ⟨forall_mem_singleton.mpr hvalid, .inr ⟨⟨e, hcall⟩, [], ⟨r, env, table, table⟩,
        nil_append _, hrefused, Eq.refl table, forall_mem_nil _⟩⟩
    · dsimp only at hout
      generalize hafter : (CostTable.createCostDefinition _ _ _ _).2 = table' at hout
      obtain ⟨hturns, hcall⟩ := rotate_of_ok rotations hout
      have hvalid : RotationTurn.Valid ⟨r, env, table, table'⟩ := (congrArg Prod.snd hout).symm
      obtain ⟨hvalids, hcases⟩ := ih table'
      rw [hturns, hcall]
      refine ⟨forall_mem_cons.mpr ⟨hvalid, hvalids⟩, ?_⟩
      rcases hcases with
        ⟨⟨results, hresults⟩, hall⟩ | ⟨⟨e, he⟩, turns, last, hsplit, hlast, hsame, hall⟩
      · rw [hresults]
        exact .inl ⟨⟨result :: results, rfl⟩, forall_mem_cons.mpr ⟨hrefused, hall⟩⟩
      · rw [he, hsplit]
        exact .inr ⟨⟨e, rfl⟩, ⟨r, env, table, table'⟩ :: turns, last, cons_append, hlast,
          hsame, forall_mem_cons.mpr ⟨hrefused, hall⟩⟩

end Call

theorem RotationTurn.Clean.not_refused {turn : RotationTurn} (h : turn.Clean) :
    ¬ turn.Refused := by
  obtain ⟨costId, old, date, hid, hnaive, hle, hup, hfind, -⟩ := h
  rw [RotationTurn.Refused, hid, hnaive]
  rintro (⟨t, h⟩ | h | ⟨t, hlt, h⟩ | h | h)
  · cases h
  · cases h
  · obtain rfl : date = t := DateEntry.naive.inj h
    exact absurd hlt (not_lt.mpr hle)
  · exact h hup
  · cases hfind.symm.trans h

/-- **Rotation is all or nothing** exactly if each rotation is clean, or one raises after
rotations that were idle, if there were any before it. -/
theorem allOrNothing_iff (table : CostTable) (rotations : List (Rotation × Surroundings)) :
    AllOrNothing table rotations ↔
      (∀ turn ∈ table.turns rotations, turn.Clean) ∨
      ∃ turns last, table.turns rotations = turns ++ [last] ∧ last.Refused ∧
        ∀ turn ∈ turns, turn.Idle := by
  obtain ⟨hvalid, hcases⟩ := turns_cases table rotations
  constructor
  · rintro (⟨⟨results, hresults⟩, hall⟩ | ⟨⟨e, he⟩, hall⟩)
    · rcases hcases with ⟨-, hrefused⟩ | ⟨⟨e, he⟩, -⟩
      · exact .inl fun turn hturn =>
          (carriedOut_iff (hvalid turn hturn) (hrefused turn hturn)).mp (hall turn hturn)
      · cases he.symm.trans hresults
    · rcases hcases with ⟨⟨results, hresults⟩, -⟩ | ⟨-, turns, last, hsplit, hlast, -, hrefused⟩
      · cases he.symm.trans hresults
      · refine .inr ⟨turns, last, hsplit, hlast, fun turn hturn => ?_⟩
        have hmem : turn ∈ table.turns rotations := hsplit ▸ mem_append_left _ hturn
        exact (after_eq_before_iff (hvalid turn hmem) (hrefused turn hturn)).mp (hall turn hmem)
  · rintro (hclean | ⟨turns, last, hsplit, hlast, hidle⟩)
    · rcases hcases with ⟨hresults, hrefused⟩ | ⟨-, turns, last, hsplit, hlast, -⟩
      · exact .inl ⟨hresults, fun turn hturn =>
          (carriedOut_iff (hvalid turn hturn) (hrefused turn hturn)).mpr (hclean turn hturn)⟩
      · have hmem : last ∈ table.turns rotations :=
          hsplit ▸ mem_append_right _ mem_cons_self
        exact absurd hlast (hclean last hmem).not_refused
    · rcases hcases with ⟨-, hrefused⟩ | ⟨herror, turns', last', hsplit', -, hsame, hrefused⟩
      · have hmem : last ∈ table.turns rotations :=
          hsplit ▸ mem_append_right _ mem_cons_self
        exact absurd hlast (hrefused last hmem)
      · obtain ⟨rfl, hlast'⟩ := append_inj' (hsplit.symm.trans hsplit') rfl
        obtain rfl : last = last' := singleton_inj.mp hlast'
        refine .inr ⟨herror, fun turn hturn => ?_⟩
        rw [hsplit] at hturn
        rcases mem_append.mp hturn with hmem | hmem
        · exact (after_eq_before_iff (hvalid turn (hsplit ▸ mem_append_left _ hmem))
            (hrefused turn hmem)).mpr (hidle turn hmem)
        · obtain rfl : turn = last := mem_singleton.mp hmem
          exact hsame

def llamaInput : CostDefinition where
  costId := "llama_vllm_input".toList
  productId := none
  serviceType := modelInference
  provider := some "vllm".toList
  modelName := some "llama-3-70b".toList
  operationType := some "input".toList
  costPerUnit := 80
  unitType := "token".toList
  unitSize := some 1000
  originalCostUsd := none
  marginPercentage := some 30
  effectiveFrom := some 0
  effectiveUntil := none
  freeTierLimit := some 0
  freeTierPeriod := some "monthly".toList
  isActive := some true
  metadata := { engineUsed := some "vllm".toList, backend := some "local_gpu".toList }

def llamaCatalogue : CostTable := ⟨[llamaInput], List.nodup_singleton _⟩

def llamaRotation : Rotation where
  costId := some llamaInput.costId
  newCostPerUnit := some 90
  effectiveFrom := .naive 86400000000

/-- Its successor has no runtime metadata. -/
theorem not_allOrNothing_metadata :
    ¬ ∀ table rotations, AllOrNothing table rotations := by
  intro h
  have hok : (llamaCatalogue.adminRotate [(llamaRotation, ⟨0, 0, .up, .up, .up⟩)]).1.toOption.isSome
      = true := by decide +kernel
  rcases h llamaCatalogue [(llamaRotation, ⟨0, 0, .up, .up, .up⟩)] with ⟨-, hall⟩ | ⟨⟨e, he⟩, -⟩
  · obtain ⟨costId, old, date, new, hid, hfind, hsucceeds, hafter⟩ := hall _ mem_cons_self
    have hfound : llamaCatalogue.find? llamaInput.costId = some llamaInput := by decide +kernel
    have hplain : ((llamaRotation.carryOut ⟨0, 0, .up, .up, .up⟩ llamaCatalogue).2.rows.getLast?.map
        CostDefinition.metadata) = some {} := by decide +kernel
    obtain rfl : llamaInput.costId = costId := some.inj hid
    obtain rfl : llamaInput = old := some.inj (hfound.symm.trans hfind)
    rw [hafter] at hplain
    have hnew : new.metadata = {} := some.inj hplain
    exact absurd (hsucceeds.metadata.symm.trans hnew) (by decide)
  · rw [he] at hok
    cases hok

end IsaUser.Product
