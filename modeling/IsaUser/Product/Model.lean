import IsaUser.Lib.FirstBest
import IsaUser.Lib.Values
import Mathlib.Algebra.Order.Ring.Rat
import Mathlib.Data.Char
import Mathlib.Data.List.Lex

/-!
# Cost Definitions and Lookups

A cost definition prices one operation of a service, from one date to another, for a model, a
provider and the runtime that its metadata names. `lookup_cost` of `product_service.py` finds
the definition for a request among those that are active.

The model lookup scores the definitions and takes the first of the best for the input, for the
output and for each runtime component. Of the metadata it reads the entries of
`RuntimeMetadata`. `str.lower` is a parameter.
-/

namespace IsaUser.Product

/-! ### Rows -/

structure RuntimeMetadata where
  backend : Option PyStr := none
  runtimeBackend : Option PyStr := none
  engineUsed : Option PyStr := none
  engine : Option PyStr := none
  serviceSurface : Option PyStr := none
  gpuType : Option PyStr := none
  minGpuCount : Option ℤ := none
  maxGpuCount : Option ℤ := none
  tenancyMode : Option PyStr := none
  region : Option PyStr := none
  preemptible : Option Bool := none
  skuFamily : Option PyStr := none
  deriving DecidableEq, Repr

/-- A row of `cost_definitions`. -/
structure CostDefinition where
  costId : PyStr
  productId : Option PyStr
  serviceType : PyStr
  provider : Option PyStr
  modelName : Option PyStr
  operationType : Option PyStr
  costPerUnit : ℤ
  unitType : PyStr
  unitSize : Option ℤ
  originalCostUsd : Option ℚ
  marginPercentage : Option ℚ
  effectiveFrom : Option Timestamp
  effectiveUntil : Option Timestamp
  freeTierLimit : Option ℤ
  freeTierPeriod : Option PyStr
  isActive : Option Bool
  metadata : RuntimeMetadata
  deriving DecidableEq, Repr

/-- The effective window, without an end where the column is `NULL`. -/
def CostDefinition.EffectiveAt (t : Timestamp) (d : CostDefinition) : Prop :=
  (∀ start ∈ d.effectiveFrom, start ≤ t) ∧ ∀ stop ∈ d.effectiveUntil, t < stop
  deriving Decidable

structure CostTable where
  rows : List CostDefinition
  /-- `cost_id` is `UNIQUE`. -/
  unique : (rows.map CostDefinition.costId).Nodup

/-! ### Requests -/

/-- The arguments of `lookup_cost` on which the choice of a definition depends. -/
structure CostRequest where
  serviceType : PyStr
  productId : Option PyStr := none
  provider : Option PyStr := none
  modelName : Option PyStr := none
  operationType : Option PyStr := none
  serviceSurface : Option PyStr := none
  backend : Option PyStr := none
  engineUsed : Option PyStr := none
  gpuType : Option PyStr := none
  gpuCount : Option ℤ := none
  tenancyMode : Option PyStr := none
  region : Option PyStr := none
  preemptible : Option Bool := none
  toolName : Option PyStr := none
  deriving DecidableEq, Repr

def CostRequest.lookupName (r : CostRequest) : Option PyStr := given r.toolName <|> given r.modelName

/-- `resolved_service_surface`. -/
def CostRequest.surface (r : CostRequest) : Option PyStr :=
  given r.serviceSurface <|> given r.productId

section Runtime

variable (lower : PyStr → PyStr)

def normalizeRuntimeValue (value : Option PyStr) : Option PyStr :=
  given (some (lower (PyStr.strip (value.getD []))))

/-- What a definition or a request says about the runtime, normalized. -/
structure Runtime where
  backend : Option PyStr
  engineUsed : Option PyStr
  serviceSurface : Option PyStr
  gpuType : Option PyStr
  tenancyMode : Option PyStr
  region : Option PyStr
  preemptible : Option Bool
  deriving DecidableEq, Repr

def localGpuEngines : List PyStr :=
  ["vllm".toList, "sglang".toList, "triton".toList, "onnx".toList]

/-- `_normalize_model_inference_runtime`: the backend and the engine. -/
def CostRequest.normalizeRuntime (r : CostRequest) : Option PyStr × Option PyStr :=
  let provider := normalizeRuntimeValue lower r.provider
  let backend := normalizeRuntimeValue lower r.backend
  let engine := normalizeRuntimeValue lower r.engineUsed
  let engine := if engine.isNone ∧ provider.any (· ∈ localGpuEngines) then provider else engine
  let backend :=
    if backend.isNone ∧ engine.any (· ∈ localGpuEngines) then some "local_gpu".toList else backend
  (backend, engine)

/-- `_build_requested_model_inference_runtime`, and the surface. -/
def CostRequest.runtime (r : CostRequest) : Runtime where
  backend := (r.normalizeRuntime lower).1
  engineUsed := (r.normalizeRuntime lower).2
  serviceSurface := normalizeRuntimeValue lower r.surface
  gpuType := normalizeRuntimeValue lower r.gpuType
  tenancyMode := normalizeRuntimeValue lower r.tenancyMode
  region := normalizeRuntimeValue lower r.region
  preemptible := r.preemptible

/-- `_extract_model_inference_runtime_metadata`. -/
def RuntimeMetadata.runtime (m : RuntimeMetadata) : Runtime where
  backend := normalizeRuntimeValue lower (given m.backend <|> m.runtimeBackend)
  engineUsed := normalizeRuntimeValue lower (given m.engineUsed <|> m.engine)
  serviceSurface := normalizeRuntimeValue lower m.serviceSurface
  gpuType := normalizeRuntimeValue lower m.gpuType
  tenancyMode := normalizeRuntimeValue lower m.tenancyMode
  region := normalizeRuntimeValue lower m.region
  preemptible := m.preemptible

end Runtime

/-! ### Scores -/

def Compatible {α : Type} (requested item : Option α) : Prop :=
  requested = none ∨ item = none ∨ item = requested

instance {α : Type} [DecidableEq α] (requested item : Option α) :
    Decidable (Compatible requested item) := inferInstanceAs (Decidable (_ ∨ _ ∨ _))

def points {α : Type} [DecidableEq α] (requested item : Option α) (hit miss : ℤ) : ℤ :=
  match requested with
  | some _ => if item = requested then hit else 0
  | none => if item.isSome then -miss else 0

section Scores

variable (lower : PyStr → PyStr) (r : CostRequest)

/-- The conditions under which `_score_model_inference_definition` returns no `None`. -/
def CostRequest.Eligible (d : CostDefinition) : Prop :=
  let requested := r.runtime lower
  let item := d.metadata.runtime lower
  let provider := normalizeRuntimeValue lower r.provider
  let itemProvider := normalizeRuntimeValue lower d.provider
  (r.lookupName = none ∨ d.modelName = r.lookupName ∨ given d.modelName = none) ∧
    (provider = none ∨ itemProvider = none ∨ itemProvider = provider ∨
      itemProvider = requested.engineUsed) ∧
    Compatible requested.serviceSurface item.serviceSurface ∧
    Compatible requested.engineUsed item.engineUsed ∧
    Compatible requested.backend item.backend ∧
    Compatible requested.gpuType item.gpuType ∧
    Compatible requested.tenancyMode item.tenancyMode ∧
    Compatible requested.region item.region ∧
    Compatible requested.preemptible item.preemptible ∧
    (∀ count ∈ r.gpuCount, ∀ minimum ∈ d.metadata.minGpuCount, minimum ≤ count) ∧
    ∀ count ∈ r.gpuCount, ∀ maximum ∈ d.metadata.maxGpuCount, count ≤ maximum
  deriving Decidable

def CostRequest.modelPoints (d : CostDefinition) : ℤ :=
  match r.lookupName with
  | some name => if d.modelName = some name then 100 else if given d.modelName = none then 10 else 0
  | none => if given d.modelName = none then 5 else 0

def CostRequest.providerPoints (d : CostDefinition) : ℤ :=
  let itemProvider := normalizeRuntimeValue lower d.provider
  match normalizeRuntimeValue lower r.provider with
  | some provider =>
    if itemProvider = (r.runtime lower).engineUsed ∧ (r.runtime lower).engineUsed ≠ none then 60
    else if itemProvider = some provider then 40
    else 0
  | none => if itemProvider = none then 5 else 0

/-- `_score_model_inference_definition`. -/
def CostRequest.score (d : CostDefinition) : Option ℤ :=
  let requested := r.runtime lower
  let item := d.metadata.runtime lower
  if r.Eligible lower d then
    some (r.modelPoints d + r.providerPoints lower d +
      points requested.serviceSurface item.serviceSurface 120 12 +
      points requested.engineUsed item.engineUsed 200 20 +
      points requested.backend item.backend 100 10 +
      points requested.gpuType item.gpuType 80 8 +
      points requested.tenancyMode item.tenancyMode 70 6 +
      points requested.region item.region 50 4 +
      points requested.preemptible item.preemptible 40 4 +
      (if r.gpuCount.isSome ∧ (d.metadata.minGpuCount.isSome ∨ d.metadata.maxGpuCount.isSome)
        then 20 else 0) +
      (if normalizeRuntimeValue lower d.metadata.skuFamily = some "local_gpu_inference".toList
        then 5 else 0) +
      if d.operationType = some "input".toList ∨ d.operationType = some "output".toList
        then 1 else 0)
  else none

def CostRequest.scoreFor (operation : Option PyStr) (d : CostDefinition) : Option ℤ :=
  if operation = none ∨ d.operationType = operation then r.score lower d else none

/-- `_select_best_model_inference_definition`. -/
def CostRequest.selectBest (operation : Option PyStr) (definitions : List CostDefinition) :
    Option CostDefinition :=
  firstBest (r.scoreFor lower operation) definitions

end Scores

/-! ### Lookups -/

def CostRequest.operationCandidates (r : CostRequest) : List PyStr :=
  match given r.operationType with
  | none => []
  | some operation =>
    operation ::
      if r.serviceType = "mcp_service".toList ∧ operation = "tool_call".toList then
        ["request".toList, "execution".toList, "minute".toList, "image".toList,
          "character".toList]
      else if r.serviceType = "storage_minio".toList ∧ operation = "download".toList then
        ["egress_gb".toList]
      else if r.serviceType = "storage_minio".toList ∧ operation = "storage_month".toList then
        ["storage_gb_month".toList]
      else []

/-- The candidates of `_select_cost_definition`. -/
def CostRequest.candidates (r : CostRequest) (definitions : List CostDefinition) :
    List CostDefinition :=
  match r.lookupName with
  | some name => definitions.filter fun d => d.modelName = some name
  | none => definitions

def CostRequest.Names (r : CostRequest) (d : CostDefinition) : Prop :=
  ∃ operation ∈ r.operationCandidates, d.operationType = some operation
  deriving Decidable

/-- `_select_cost_definition`. -/
def CostRequest.select (r : CostRequest) (definitions : List CostDefinition) :
    Option CostDefinition :=
  match (r.candidates definitions).find? fun d => r.Names d with
  | some d => some d
  | none =>
    if r.lookupName ≠ none ∨ given r.operationType = none then (r.candidates definitions).head?
    else none

/-- What `lookup_cost` answers. -/
inductive CostAnswer where
  | notFound
  /-- The price of a product, of `_build_product_backed_cost_lookup`. -/
  | productBacked
  /-- `cost_definition`. -/
  | found (definition : CostDefinition)
  /-- `cost_definition`, what the input and the output cost, and `runtime_cost_components`. -/
  | model (primary input : CostDefinition) (output : Option CostDefinition)
      (components : List CostDefinition)
  deriving DecidableEq, Repr

def CostAnswer.used : CostAnswer → List CostDefinition
  | notFound => []
  | productBacked => []
  | found d => [d]
  | model primary input output components => primary :: input :: output.toList ++ components

/-- The operations of `_build_model_inference_runtime_components`. -/
def componentOperations : List PyStr :=
  ["gpu_seconds".toList, "prefill_seconds".toList, "queue_seconds".toList,
    "cold_start_seconds".toList, "kv_cache_gib_seconds".toList]

section Lookup

variable (lower : PyStr → PyStr) (r : CostRequest)

/-- `_build_model_inference_runtime_components`. -/
def CostRequest.runtimeComponents (definitions : List CostDefinition) : List CostDefinition :=
  componentOperations.foldl (fun components operation =>
    match r.selectBest lower (some operation) definitions with
    | some d => if d.costId ∈ components.map CostDefinition.costId then components
        else components ++ [d]
    | none => components) []

def CostRequest.Hybrid : Prop :=
  (r.runtime lower).backend = some "local_gpu".toList ∨
    (r.runtime lower).backend = some "modal".toList ∨
    r.surface = some "local-gpu".toList ∨ r.surface = some "cloud-gpu".toList
  deriving Decidable

/-- `_build_model_inference_cost_lookup`. -/
def CostRequest.modelLookup (definitions : List CostDefinition) : CostAnswer :=
  let input := r.selectBest lower (some "input".toList) definitions
  let output := r.selectBest lower (some "output".toList) definitions
  match input <|> output <|> r.selectBest lower none definitions with
  | none => .notFound
  | some primary =>
    let components := if r.Hybrid lower then r.runtimeComponents lower definitions else []
    .model primary (input.getD primary) output components

/-- The key of `ORDER BY service_type, provider, model_name`, where `NULL` comes last. -/
def CostDefinition.orderKey (d : CostDefinition) :
    Lex (PyStr × Lex (WithTop PyStr × WithTop PyStr)) :=
  toLex (d.serviceType, toLex (d.provider.elim ⊤ some, d.modelName.elim ⊤ some))

/-- `get_cost_definitions(is_active=True, provider, service_type)`. Rows with equal keys come in
the order of the table. -/
def CostTable.activeDefinitions (table : CostTable) (provider : Option PyStr)
    (serviceType : PyStr) : List CostDefinition :=
  orderBy CostDefinition.orderKey <| table.rows.filter fun d =>
    d.isActive = some true ∧ (given provider = none ∨ d.provider = provider) ∧
      (serviceType = [] ∨ d.serviceType = serviceType)

def modelInference : PyStr := "model_inference".toList

def CostRequest.definitions (table : CostTable) : List CostDefinition :=
  table.activeDefinitions (if r.serviceType = modelInference then none else r.provider)
    r.serviceType

/-- `lookup_cost`, where `productBacked` says whether a product has a price for the request. -/
def CostRequest.lookupCost (productBacked : CostRequest → Bool) (table : CostTable) :
    CostAnswer :=
  let definitions := r.definitions table
  if r.serviceType = modelInference then r.modelLookup lower definitions
  else if given r.productId ≠ none ∧ productBacked r then .productBacked
  else
    match r.select definitions with
    | none => .notFound
    | some d => .found d

end Lookup

end IsaUser.Product
