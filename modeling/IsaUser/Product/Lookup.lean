import IsaUser.Lib.Runs
import IsaUser.Product.Catalog

/-!
# Prices and Dates

A lookup reads no date: it chooses among the definitions that are active. This module has the
run of a catalogue in which definitions are created and rotated, time passes and prices are
looked up, and the condition under which a lookup is in step with the dates.

## Main results

* `pricedByDate_iff`: exactly when every lookup of a run uses prices at their dates.
* `not_pricedByDate_rotated`: an expired price that is still charged.
-/

open List

namespace IsaUser.Product

open CostRequest

section Lookup

variable (lower : PyStr → PyStr) (r : CostRequest)

/-! ### Choices as ranks -/

/-- The rank of a definition for `_select_cost_definition`. -/
def CostRequest.matchScore : CostDefinition → Option ℤ :=
  preferScore (fun d => r.lookupName = none ∨ d.modelName = r.lookupName)
    (fun d => r.Names d) (r.lookupName ≠ none ∨ given r.operationType = none)

theorem select_eq (definitions : List CostDefinition) :
    r.select definitions = firstBest r.matchScore definitions := by
  have hcandidates : r.candidates definitions =
      definitions.filter fun d => r.lookupName = none ∨ d.modelName = r.lookupName := by
    rw [candidates.eq_def]
    cases r.lookupName with
    | none => simp
    | some name => simp
  rw [matchScore, firstBest_preferScore, select, hcandidates]
  cases find? (fun d => decide (r.Names d)) _ with
  | some d => rfl
  | none =>
    by_cases hany : r.lookupName ≠ none ∨ given r.operationType = none
    · rw [if_pos hany, if_pos (decide_eq_true hany)]
    · rw [if_neg hany, if_neg (by simpa using hany)]

theorem unique_definitions (table : CostTable) :
    ((r.definitions table).map CostDefinition.costId).Nodup := by
  rw [definitions, CostTable.activeDefinitions, nodup_map_orderBy]
  exact table.unique.sublist (filter_sublist.map _)

variable {r} {definitions : List CostDefinition}

theorem runtimeComponents_eq : ∃ step : List CostDefinition → PyStr → List CostDefinition,
    r.runtimeComponents lower definitions = componentOperations.foldl step [] ∧
    ∀ components operation, (r.selectBest lower (some operation) definitions = none →
        step components operation = components) ∧
      ∀ d, r.selectBest lower (some operation) definitions = some d →
        step components operation =
          if d.costId ∈ components.map CostDefinition.costId then components
          else components ++ [d] := by
  refine ⟨_, rfl, fun components operation => ⟨fun hnone => ?_, fun d hsome => ?_⟩⟩
  · simp only [hnone]
  · simp only [hsome]

theorem mem_runtimeComponents (hunique : (definitions.map CostDefinition.costId).Nodup)
    {d : CostDefinition} :
    d ∈ r.runtimeComponents lower definitions ↔
      ∃ operation ∈ componentOperations,
        r.selectBest lower (some operation) definitions = some d := by
  obtain ⟨step, hloop, hstep⟩ := @runtimeComponents_eq lower r definitions
  have hscan : ∀ (operations : List PyStr) (components : List CostDefinition),
      (∀ c ∈ components, c ∈ definitions) →
      (d ∈ operations.foldl step components ↔
        d ∈ components ∨ ∃ operation ∈ operations,
          r.selectBest lower (some operation) definitions = some d) := by
    intro operations
    induction operations with
    | nil => simp
    | cons operation operations ih =>
      intro components hcomponents
      rw [foldl_cons]
      cases hfound : r.selectBest lower (some operation) definitions with
      | none =>
        rw [(hstep _ _).1 hfound, ih components hcomponents]
        simp [hfound]
      | some c =>
        have hc : c ∈ definitions := mem_of_firstBest hfound
        rw [(hstep _ _).2 c hfound]
        by_cases hseen : c.costId ∈ components.map CostDefinition.costId
        · -- an id that has been seen is the one of this very definition
          obtain ⟨c', hc', hid⟩ := mem_map.mp hseen
          obtain rfl : c' = c :=
            inj_on_of_nodup_map hunique (hcomponents c' hc') hc hid
          rw [if_pos hseen, ih components hcomponents]
          simp only [mem_cons, exists_eq_or_imp, hfound, Option.some.injEq]
          constructor
          · rintro (h | h)
            · exact .inl h
            · exact .inr (.inr h)
          · rintro (h | rfl | h)
            · exact .inl h
            · exact .inl hc'
            · exact .inr h
        · have hmore : ∀ e ∈ components ++ [c], e ∈ definitions := by
            intro e he
            rcases mem_append.mp he with he | he
            · exact hcomponents e he
            · exact mem_singleton.mp he ▸ hc
          rw [if_neg hseen, ih _ hmore]
          simp only [mem_append, mem_cons, not_mem_nil, or_false,
            exists_eq_or_imp, hfound, Option.some.injEq, or_assoc]
          rw [eq_comm (a := d) (b := c)]
  rw [hloop, hscan componentOperations [] (forall_mem_nil _)]
  simp only [not_mem_nil, false_or]

/-! ### Answers by ranks -/

variable (r) in
/-- For each part of a model's price, every matching definition for which `p` fails is outranked
by one for which it holds. -/
structure CostRequest.ModelRanked (p : CostDefinition → Prop) (definitions : List CostDefinition) :
    Prop where
  input : Outranked (r.scoreFor lower (some "input".toList)) p definitions
  output : Outranked (r.scoreFor lower (some "output".toList)) p definitions
  /-- Without a price for the input or the output, one for any operation is taken. -/
  fallback : (∀ d ∈ definitions, r.scoreFor lower (some "input".toList) d = none) →
    (∀ d ∈ definitions, r.scoreFor lower (some "output".toList) d = none) →
      Outranked (r.scoreFor lower none) p definitions
  components : r.Hybrid lower → ∀ operation ∈ componentOperations,
    Outranked (r.scoreFor lower (some operation)) p definitions

variable (r) in
/-- Every matching definition for which `p` fails is outranked by one for which it holds. -/
def CostRequest.Ranked (productBacked : CostRequest → Bool) (p : CostDefinition → Prop)
    (table : CostTable) : Prop :=
  if r.serviceType = modelInference then r.ModelRanked lower p (r.definitions table)
  else given r.productId ≠ none ∧ productBacked r ∨ Outranked r.matchScore p (r.definitions table)

theorem scoreFor_none {operation : PyStr} {d : CostDefinition} {s : ℤ}
    (h : r.scoreFor lower (some operation) d = some s) : r.scoreFor lower none d = some s := by
  rw [scoreFor] at h ⊢
  split at h
  · rwa [if_pos (.inl rfl)]
  · cases h

theorem selectBest_none_ne_none {operation : PyStr} {d : CostDefinition}
    (h : r.selectBest lower (some operation) definitions = some d) :
    r.selectBest lower none definitions ≠ none := by
  intro hnone
  rcases firstBest_cases (r.scoreFor lower (some operation)) definitions with
    ⟨hsame, -⟩ | ⟨before, a, after, s, rfl, hwins, -⟩
  · cases hsame.symm.trans h
  · have hall := firstBest_eq_none_iff.mp hnone a (mem_append_right _ mem_cons_self)
    cases hall.symm.trans (scoreFor_none lower hwins.scored)

theorem mem_used_modelLookup {d : CostDefinition} :
    d ∈ (r.modelLookup lower definitions).used ↔
      d ∈ r.selectBest lower (some "input".toList) definitions ∨
      d ∈ r.selectBest lower (some "output".toList) definitions ∨
      (r.selectBest lower (some "input".toList) definitions = none ∧
        r.selectBest lower (some "output".toList) definitions = none ∧
        d ∈ r.selectBest lower none definitions) ∨
      (r.selectBest lower none definitions ≠ none ∧ r.Hybrid lower ∧
        d ∈ r.runtimeComponents lower definitions) := by
  rw [modelLookup]
  cases hinput : r.selectBest lower (some "input".toList) definitions with
  | some input =>
    have hfound := selectBest_none_ne_none lower hinput
    by_cases hhybrid : r.Hybrid lower
    · simp [CostAnswer.used, hfound, eq_comm]
    · simp [CostAnswer.used, hhybrid, eq_comm]
  | none =>
    cases houtput : r.selectBest lower (some "output".toList) definitions with
    | some output =>
      have hfound := selectBest_none_ne_none lower houtput
      by_cases hhybrid : r.Hybrid lower
      · simp [CostAnswer.used, hfound, eq_comm]
      · simp [CostAnswer.used, hhybrid, eq_comm]
    | none =>
      cases hfallback : r.selectBest lower none definitions with
      | some c =>
        by_cases hhybrid : r.Hybrid lower
        · simp [CostAnswer.used, eq_comm]
        · simp [CostAnswer.used, eq_comm]
      | none => simp [CostAnswer.used]

theorem forall_modelLookup_iff {p : CostDefinition → Prop}
    (hunique : (definitions.map CostDefinition.costId).Nodup) :
    (∀ d ∈ (r.modelLookup lower definitions).used, p d) ↔ r.ModelRanked lower p definitions := by
  simp only [mem_used_modelLookup, mem_runtimeComponents lower hunique]
  constructor
  · intro h
    refine ⟨forall_firstBest_iff.mp fun d hd => h d (.inl hd),
      forall_firstBest_iff.mp fun d hd => h d (.inr (.inl hd)), fun hinput houtput => ?_,
      fun hhybrid operation hoperation => ?_⟩
    · refine forall_firstBest_iff.mp fun d hd => h d (.inr (.inr (.inl ⟨?_, ?_, hd⟩)))
      · exact firstBest_eq_none_iff.mpr hinput
      · exact firstBest_eq_none_iff.mpr houtput
    · exact forall_firstBest_iff.mp fun d hd => h d (.inr (.inr (.inr
        ⟨selectBest_none_ne_none lower hd, hhybrid, operation, hoperation, hd⟩)))
  · rintro ⟨hinput, houtput, hfallback, hcomponents⟩ d
      (hd | hd | ⟨hnoInput, hnoOutput, hd⟩ | ⟨-, hhybrid, operation, hoperation, hd⟩)
    · exact forall_firstBest_iff.mpr hinput d hd
    · exact forall_firstBest_iff.mpr houtput d hd
    · refine forall_firstBest_iff.mpr (hfallback ?_ ?_) d hd
      · exact firstBest_eq_none_iff.mp hnoInput
      · exact firstBest_eq_none_iff.mp hnoOutput
    · exact forall_firstBest_iff.mpr (hcomponents hhybrid operation hoperation) d hd

/-- **Of which kind the definitions of an answer are.** -/
theorem forall_used_iff (productBacked : CostRequest → Bool) (p : CostDefinition → Prop)
    (table : CostTable) :
    (∀ d ∈ (r.lookupCost lower productBacked table).used, p d) ↔
      r.Ranked lower productBacked p table := by
  rw [lookupCost, Ranked]
  by_cases hmodel : r.serviceType = modelInference
  · rw [if_pos hmodel, if_pos hmodel]
    exact forall_modelLookup_iff lower (unique_definitions r table)
  · rw [if_neg hmodel, if_neg hmodel]
    by_cases hproduct : given r.productId ≠ none ∧ productBacked r
    · rw [if_pos hproduct]
      exact ⟨fun _ => .inl hproduct, fun _ => forall_mem_nil _⟩
    · rw [if_neg hproduct, select_eq, or_iff_right hproduct, ← forall_firstBest_iff]
      cases firstBest r.matchScore (r.definitions table) with
      | none => simp [CostAnswer.used]
      | some d => simp [CostAnswer.used]

end Lookup

/-! ### Runs -/

/-- A definition that has been rotated: its id, that of its successor, if it was inserted, and
the date. -/
structure Rotated where
  old : PyStr
  new : Option PyStr
  date : Timestamp
  deriving DecidableEq, Repr

/-- The definition that prices at `t` what the rotated definition has priced. -/
def Rotated.Right (pair : Rotated) (t : Timestamp) (d : CostDefinition) : Prop :=
  if t < pair.date then d.costId = pair.old else some d.costId = pair.new

def RotationTurn.rotated? (turn : RotationTurn) : Option Rotated :=
  match turn.rotation.costId, turn.rotation.effectiveFrom,
      (turn.rotation.carryOut turn.env turn.before).1 with
  | some costId, .naive date, .ok _ =>
    let inserted := turn.after.rows.drop turn.before.rows.length
    some ⟨costId, inserted.head?.map CostDefinition.costId, date⟩
  | _, _, _ => none

/-- The catalogue, and what the latest call of the administration has done to it. -/
structure Pricing where
  table : CostTable
  now : Timestamp
  before : CostTable
  rotated : List Rotated

inductive PricingStep where
  /-- `admin_create_cost_definition`. -/
  | create (data : CostData) (effectiveFrom : DateEntry)
  /-- `admin_rotate_cost_definitions`. -/
  | rotate (rotations : List Rotation)
  /-- `lookup_cost`. -/
  | lookup (request : CostRequest)
  | wait (micros : ℕ)

def atOnce (now : Timestamp) (r : Rotation) : Rotation × Surroundings :=
  (r, ⟨now, now, .up, .up, .up⟩)

def Pricing.step (w : Pricing) : PricingStep → Pricing
  | .create data effectiveFrom =>
    { w with
      table := (w.table.adminCreate .up w.now data effectiveFrom).2
      before := w.table, rotated := [] }
  | .rotate rotations =>
    let turns := rotations.map (atOnce w.now)
    { w with
      table := (w.table.adminRotate turns).2
      before := w.table, rotated := (w.table.turns turns).filterMap RotationTurn.rotated? }
  | .lookup _ => w
  | .wait micros => { w with now := w.now + micros }

section PricedByDate

variable (lower : PyStr → PyStr) (productBacked : CostRequest → Bool)

def CostRequest.choice (r : CostRequest) (operation : Option PyStr) (table : CostTable) :
    Option CostDefinition :=
  if r.serviceType = modelInference then r.selectBest lower operation (r.definitions table)
  else r.select (r.definitions table)

def CostRequest.choiceScore (r : CostRequest) (operation : Option PyStr) :
    CostDefinition → Option ℤ :=
  if r.serviceType = modelInference then r.scoreFor lower operation else r.matchScore

/-- **Prices take effect at their dates.** A lookup uses only definitions whose window contains
the present. What a definition has priced before it was rotated is priced by it until the date
of the rotation, and from then on by its successor. -/
def PricedByDate (w : Pricing) : PricingStep → Prop
  | .lookup r =>
    (∀ d ∈ (r.lookupCost lower productBacked w.table).used, d.EffectiveAt w.now) ∧
      ∀ pair ∈ w.rotated, ∀ operation,
        (∃ d ∈ r.choice lower operation w.before, d.costId = pair.old) →
          ∃ d ∈ r.choice lower operation w.table, pair.Right w.now d
  | _ => True

/-- Each matching definition outside its window is outranked by one inside. For what a rotated
definition has priced there is a match, and the right one of it and its successor outranks every
other match. -/
def RankedByDate (w : Pricing) : PricingStep → Prop
  | .lookup r =>
    r.Ranked lower productBacked (CostDefinition.EffectiveAt w.now) w.table ∧
      ∀ pair ∈ w.rotated, ∀ operation,
        (∃ d ∈ r.choice lower operation w.before, d.costId = pair.old) →
          (∃ d ∈ r.definitions w.table, r.choiceScore lower operation d ≠ none) ∧
            Outranked (r.choiceScore lower operation) (pair.Right w.now) (r.definitions w.table)
  | _ => True

theorem choice_eq (r : CostRequest) (operation : Option PyStr) (table : CostTable) :
    r.choice lower operation table =
      firstBest (r.choiceScore lower operation) (r.definitions table) := by
  rw [choice, choiceScore]
  split
  · rfl
  · exact select_eq r _

theorem pricedByDate_step_iff (w : Pricing) (e : PricingStep) :
    PricedByDate lower productBacked w e ↔ RankedByDate lower productBacked w e := by
  cases e with
  | lookup r =>
    refine and_congr (forall_used_iff lower productBacked _ w.table) ?_
    refine forall₂_congr fun pair _ => forall_congr' fun operation => imp_congr_right fun _ => ?_
    rw [choice_eq]
    exact exists_firstBest_iff
  | create data effectiveFrom => exact Iff.rfl
  | rotate rotations => exact Iff.rfl
  | wait micros => exact Iff.rfl

/-- **When prices take effect at their dates.** In a run of a catalogue, every lookup is in step
with the dates if and only if in each lookup the definitions rank by them. -/
theorem pricedByDate_iff (table : CostTable) (now : Timestamp) (es : List PricingStep) :
    AllSteps Pricing.step (PricedByDate lower productBacked) ⟨table, now, table, []⟩ es ↔
      AllSteps Pricing.step (RankedByDate lower productBacked) ⟨table, now, table, []⟩ es :=
  ⟨fun h => h.mono fun w e => (pricedByDate_step_iff lower productBacked w e).mp,
    fun h => h.mono fun w e => (pricedByDate_step_iff lower productBacked w e).mpr⟩

end PricedByDate

def rotatedPrice : List PricingStep :=
  [.rotate [llamaRotation], .wait 172800000000,
    .lookup { serviceType := modelInference, provider := some "vllm".toList,
              modelName := some "llama-3-70b".toList }]

/-- The old price is used a day after its end. -/
theorem not_pricedByDate_rotated :
    ¬ ∀ es, AllSteps Pricing.step (PricedByDate id fun _ => false)
      ⟨llamaCatalogue, 0, llamaCatalogue, []⟩ es := by
  intro h
  obtain ⟨-, -, ⟨hwindow, -⟩, -⟩ := h rotatedPrice
  revert hwindow
  decide +kernel

end IsaUser.Product
