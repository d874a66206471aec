import IsaUser.Product.Lookup

/-!
# Meters of a Model's Price

A model is charged by what it reads, by what it writes and, on some runtimes, by the time and
the memory it takes. `_build_model_inference_cost_lookup` looks for a definition of each
operation, and where there is none for the input it takes the one for the output, or any.

## Main results

* `apart_iff`: exactly when no definition is charged under two meters.
* `not_apart_outputOnly`: a model that has a price for its output only.
-/

open List

namespace IsaUser.Product

open CostRequest

def CostDefinition.OfRuntime (d : CostDefinition) : Prop :=
  ∃ operation ∈ componentOperations, d.operationType = some operation

/-- **No definition is charged under two meters.** What the input, the output and the components
cost is said by different rows, the first of which is neither for the output nor for the runtime. -/
def CostAnswer.Apart : CostAnswer → Prop
  | .model _ input output components =>
    (input :: output.toList ++ components).Nodup ∧
      input.operationType ≠ some "output".toList ∧ ¬input.OfRuntime
  | _ => True

section Meters

variable (lower : PyStr → PyStr) (r : CostRequest)

/-- A definition for the input matches; or none for the output does, and each matching one for the
runtime is outranked by one that is not. -/
def CostRequest.PricesInput (definitions : List CostDefinition) : Prop :=
  (∃ d ∈ definitions, d.operationType = some "input".toList ∧ r.Eligible lower d) ∨
    (∀ d ∈ definitions, d.operationType = some "output".toList → ¬r.Eligible lower d) ∧
      Outranked (r.scoreFor lower none) (fun d => ¬d.OfRuntime) definitions

variable {r} {definitions : List CostDefinition} {operation : PyStr} {d : CostDefinition}

theorem scoreFor_eq_none_iff :
    r.scoreFor lower (some operation) d = none ↔
      (d.operationType = some operation → ¬r.Eligible lower d) := by
  rw [scoreFor]
  by_cases hoperation : d.operationType = some operation
  · rw [if_pos (.inr hoperation), score]
    by_cases heligible : r.Eligible lower d
    · rw [if_pos heligible]
      exact ⟨(fun h => by cases h), fun h => absurd heligible (h hoperation)⟩
    · rw [if_neg heligible]
      exact ⟨fun _ _ => heligible, fun _ => rfl⟩
  · rw [if_neg (not_or.mpr ⟨(fun h => by cases h), hoperation⟩)]
    exact ⟨fun _ h => absurd h hoperation, fun _ => rfl⟩

theorem selectBest_eq_none_iff :
    r.selectBest lower (some operation) definitions = none ↔
      ∀ d ∈ definitions, d.operationType = some operation → ¬r.Eligible lower d :=
  firstBest_eq_none_iff.trans (forall₂_congr fun _ _ => scoreFor_eq_none_iff lower)

theorem operationType_of_selectBest
    (h : r.selectBest lower (some operation) definitions = some d) :
    d.operationType = some operation := by
  have hall : Outranked (r.scoreFor lower (some operation))
      (fun d => d.operationType = some operation) definitions := by
    intro before b after hl hb t ht
    cases ((scoreFor_eq_none_iff lower).mpr fun h => absurd h hb).symm.trans ht
  exact forall_firstBest_iff.mpr hall d h

theorem eligible_of_selectBest {operation : Option PyStr}
    (h : r.selectBest lower operation definitions = some d) : r.Eligible lower d := by
  have hall : Outranked (r.scoreFor lower operation) (r.Eligible lower) definitions := by
    intro before b after hl hb t ht
    rw [scoreFor, score, if_neg hb, ite_self] at ht
    cases ht
  exact forall_firstBest_iff.mpr hall d h

/-- **The components** are different rows, each of them for a runtime meter. -/
theorem runtimeComponents_spec :
    (r.runtimeComponents lower definitions).Nodup ∧
      ∀ d ∈ r.runtimeComponents lower definitions, d.OfRuntime := by
  obtain ⟨step, hloop, hstep⟩ := @runtimeComponents_eq lower r definitions
  have hscan : ∀ operations ⊆ componentOperations, ∀ components : List CostDefinition,
      (components.map CostDefinition.costId).Nodup → (∀ d ∈ components, d.OfRuntime) →
      ((operations.foldl step components).map CostDefinition.costId).Nodup ∧
        ∀ d ∈ operations.foldl step components, d.OfRuntime := by
    intro operations
    induction operations with
    | nil => exact fun _ _ hnodup hruntime => ⟨hnodup, hruntime⟩
    | cons operation operations ih =>
      intro hsub components hnodup hruntime
      obtain ⟨hoperation, hsub⟩ := cons_subset.mp hsub
      rw [foldl_cons]
      cases hfound : r.selectBest lower (some operation) definitions with
      | none =>
        rw [(hstep _ _).1 hfound]
        exact ih hsub components hnodup hruntime
      | some c =>
        rw [(hstep _ _).2 c hfound]
        split
        · exact ih hsub components hnodup hruntime
        · next hnew =>
            refine ih hsub _ ?_ (forall_mem_append.mpr ⟨hruntime, ?_⟩)
            · rw [map_append, nodup_append]
              refine ⟨hnodup, nodup_singleton _, fun id hid id' hid' heq => hnew ?_⟩
              exact mem_singleton.mp hid' ▸ heq ▸ hid
            · refine forall_mem_singleton.mpr ⟨operation, hoperation, ?_⟩
              exact operationType_of_selectBest lower hfound
  obtain ⟨hnodup, hruntime⟩ := hscan _ (Subset.refl _) [] nodup_nil (by simp)
  rw [hloop]
  exact ⟨hnodup.of_map, hruntime⟩

theorem not_ofRuntime (h : d.operationType = some operation)
    (hother : operation ∉ componentOperations) : ¬d.OfRuntime := by
  rintro ⟨_, hmem, heq⟩
  exact hother (Option.some.inj (h.symm.trans heq) ▸ hmem)

/-- **When no definition is charged under two meters.** -/
theorem apart_iff (definitions : List CostDefinition) :
    (r.modelLookup lower definitions).Apart ↔ r.PricesInput lower definitions := by
  obtain ⟨hnodup, hruntime⟩ := @runtimeComponents_spec lower r definitions
  have hexists : (∃ d ∈ definitions, d.operationType = some "input".toList ∧ r.Eligible lower d) ↔
      r.selectBest lower (some "input".toList) definitions ≠ none := by
    rw [Ne, selectBest_eq_none_iff]
    push Not
    rfl
  rw [PricesInput, modelLookup, ← forall_firstBest_iff,
    ← selectBest_eq_none_iff, hexists]
  generalize hc : (if r.Hybrid lower then r.runtimeComponents lower definitions else []) = components
  have hcomponents : components.Nodup ∧ ∀ d ∈ components, d.OfRuntime := by
    rw [← hc]
    split
    · exact ⟨hnodup, hruntime⟩
    · exact ⟨nodup_nil, by simp⟩
  cases hinput : r.selectBest lower (some "input".toList) definitions with
  | some input =>
    have hin := operationType_of_selectBest lower hinput
    have hnot := not_ofRuntime hin (by decide)
    have houtput : ∀ output ∈ r.selectBest lower (some "output".toList) definitions,
        output ∉ components ∧ input ≠ output := by
      intro output houtput
      have hout := operationType_of_selectBest lower houtput
      refine ⟨fun hmem => not_ofRuntime hout (by decide) (hcomponents.2 output hmem), ?_⟩
      rintro rfl
      exact absurd (hin.symm.trans hout) (by decide)
    refine iff_of_true ⟨?_, ne_of_eq_of_ne hin (by decide), hnot⟩ (.inl fun h => by cases h)
    have hinputNew := mt (hcomponents.2 input) hnot
    cases hfound : r.selectBest lower (some "output".toList) definitions with
    | none => exact nodup_cons.mpr ⟨hinputNew, hcomponents.1⟩
    | some output =>
      obtain ⟨hnew, hne⟩ := houtput output hfound
      refine nodup_cons.mpr ⟨?_, nodup_cons.mpr ⟨hnew, hcomponents.1⟩⟩
      exact not_mem_cons_of_ne_of_not_mem hne hinputNew
  | none =>
    cases houtput : r.selectBest lower (some "output".toList) definitions with
    | some output =>
      -- the output is charged as the input as well
      refine iff_of_false (fun h => h.2.1 (operationType_of_selectBest lower houtput)) ?_
      rintro (h | ⟨h, -⟩)
      · exact h rfl
      · cases h
    | none =>
      rw [or_iff_right (fun h => h rfl), and_iff_right rfl]
      change _ ↔ ∀ d ∈ r.selectBest lower none definitions, ¬d.OfRuntime
      cases hany : r.selectBest lower none definitions with
      | none => exact iff_of_true trivial fun _ h => by cases h
      | some d =>
        have hnot : d.operationType ≠ some "output".toList := by
          intro hout
          exact (selectBest_eq_none_iff lower).mp houtput d (mem_of_firstBest hany) hout
            (eligible_of_selectBest lower hany)
        constructor
        · rintro ⟨-, -, h⟩ e he
          exact Option.some.inj he ▸ h
        · intro h
          have hd := h d rfl
          exact ⟨nodup_cons.mpr ⟨mt (hcomponents.2 d) hd, hcomponents.1⟩, hnot, hd⟩

end Meters

/-- The price of the output is charged for the input and for the output. -/
theorem not_apart_outputOnly :
    ¬ ∀ (r : CostRequest) (definitions : List CostDefinition),
      (r.modelLookup id definitions).Apart := by
  intro h
  refine (h { serviceType := modelInference, provider := some "vllm".toList }
    [{ llamaInput with operationType := some "output".toList }]).2.1 ?_
  decide +kernel

end IsaUser.Product
