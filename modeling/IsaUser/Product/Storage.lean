import IsaUser.Lib.Json

/-!
# Storing Products

`create_product` and `update_product` of `product_repository.py`, statement by statement. A row
has its JSON columns parsed and its instants in microseconds. What pydantic makes of a billing
profile and what the types and constraints of the table admit are parameters.
-/

namespace IsaUser.Products

open JsonDict

/-! ### Rows and products -/

/-- A row of `products`. -/
abbrev Row := String → Json

abbrev Member (values : List String) := {s : PyStr // ∃ value ∈ values, value.toList = s}

/-- The values of `ProductType`. -/
abbrev productTypes : List String :=
  ["model", "model_inference", "storage", "storage_minio", "agent", "agent_runtime",
    "agent_execution", "mcp_tool", "mcp_service", "api_service", "api_gateway", "notification",
    "computation", "data_processing", "integration", "other"]

/-- The billing profile: `model_validate` and `as_metadata`. -/
structure Profiles (P : Type) where
  validate : Json → Option P
  dump : P → JsonDict

/-- A `Product`, with a profile of type `P`. -/
structure Product (P : Type) where
  productId : PyStr
  name : PyStr
  productCode : Option PyStr
  description : Option PyStr
  categoryId : PyStr
  productType : Member productTypes
  basePrice : {q : ℚ // 0 ≤ q}
  currency : Member ["USD", "EUR", "CNY", "CREDIT"]
  billingInterval : Option PyStr
  productKind : Member ["digital", "physical"]
  fulfillmentType : Member ["digital", "ship"]
  inventoryPolicy : Member ["infinite", "finite"]
  requiresShipping : Bool
  taxCategory : Member ["digital_goods", "physical_goods", "services"]
  defaultSkuId : Option PyStr
  features : List PyStr
  quotaLimits : JsonDict
  isActive : Bool
  isFeatured : Bool
  displayOrder : ℤ
  metadata : JsonDict
  tags : Option (List PyStr)
  billingProfile : P

section Storage

variable {P : Type} (profiles : Profiles P) (admits : List Row → Bool) (now : Timestamp)

def Product.metadataForStorage (p : Product P) : JsonDict :=
  p.metadata.set "billing_profile" (.dict (profiles.dump p.billingProfile))

/-- A text or `None`. -/
def optional (s : Option PyStr) : Json := s.elim .null .str

/-- The columns of the `INSERT`. -/
def productColumns : List String :=
  ["product_id", "product_name", "product_code", "description", "category", "product_type",
    "base_price", "currency", "billing_interval", "product_kind", "fulfillment_type",
    "inventory_policy", "requires_shipping", "tax_category", "default_sku_id", "features",
    "quota_limits", "is_active", "is_featured", "display_order", "metadata", "tags", "created_at",
    "updated_at"]

/-- Its `VALUES`, from `$1` to `$25`. -/
def productValues : List ℕ := (List.range 25).map (· + 1)

def Product.params (p : Product P) : List Json :=
  [.str p.productId, .str p.name, .str ((given p.productCode).getD ("code_".toList ++ p.productId)),
    optional p.description, .str p.categoryId, .str p.productType.1, .float (float p.basePrice.1),
    .str p.currency.1, optional p.billingInterval, .str p.productKind.1,
    .str p.fulfillmentType.1, .str p.inventoryPolicy.1, .bool p.requiresShipping,
    .str p.taxCategory.1, optional p.defaultSkuId, .list (p.features.map .str),
    .dict p.quotaLimits, .bool p.isActive, .bool p.isFeatured, .int p.displayOrder,
    .dict (p.metadataForStorage profiles), p.tags.elim .null fun tags => .list (tags.map .str),
    .int now, .int now]

/-- `INSERT INTO ... (columns) VALUES (values)`: there are as many values as columns, and as many
parameters as the values number. -/
def insertRow (columns : List String) (values : List ℕ) (params : List Json) : Option Row :=
  if values.length = columns.length ∧ values.foldl max 0 = params.length then
    some fun column =>
      ((columns.zip values).lookup column).elim .null fun n => params.getD (n - 1) .null
  else none

/-- The entries of a JSON column, or of `{}`. -/
def entriesOf : Json → Option JsonDict
  | .dict entries => some entries
  | value => if value.truthy then none else some []

/-- `Enum(value)`. -/
def member (values : List String) : Json → Option (Member values)
  | .str s => if h : ∃ value ∈ values, value.toList = s then some ⟨s, h⟩ else none
  | _ => none

/-- A value of type `Optional[str]`. -/
def asOptional : Json → Option (Option PyStr)
  | .null => some none
  | value => (Coercions.string value).map some

/-- A list of texts, or `[]`. -/
def textsOf : Json → Option (List PyStr)
  | .list items => items.mapM Coercions.string
  | value => if value.truthy then none else some []

def profileOf (metadata : Json) : Option P := do
  let entries ← entriesOf metadata
  profiles.validate ((entries.get? "billing_profile").getD (.dict []))

def rowToProduct (row : Row) : Option (Product P) := do
  let orDefault (column value : String) :=
    if (row column).truthy then row column else .str value.toList
  let price ← match row "base_price" with
    | .float x => x.map shortest
    | .int n => some n
    | _ => none
  if h : 0 ≤ price then
    return {
      productId := ← Coercions.string (row "product_id")
      name := ← Coercions.string (row "product_name")
      productCode := ← asOptional (row "product_code")
      description := ← asOptional (row "description")
      categoryId := ← Coercions.string (row "category")
      productType := ← member _ (row "product_type")
      basePrice := ⟨price, h⟩
      currency := ← member _ (row "currency")
      billingInterval := ← asOptional (row "billing_interval")
      productKind := ← member _ (orDefault "product_kind" "digital")
      fulfillmentType := ← member _ (orDefault "fulfillment_type" "digital")
      inventoryPolicy := ← member _ (orDefault "inventory_policy" "infinite")
      requiresShipping := (row "requires_shipping").truthy
      taxCategory := ← member _ (orDefault "tax_category" "digital_goods")
      defaultSkuId := ← asOptional (row "default_sku_id")
      features := ← textsOf (row "features")
      quotaLimits := ← entriesOf (row "quota_limits")
      isActive := ← match row "is_active" with
        | .bool b => some b
        | _ => none
      isFeatured := (row "is_featured").truthy
      displayOrder := match row "display_order" with
        | .int n => n
        | _ => 0
      metadata := ← entriesOf (row "metadata")
      tags := ← match row "tags" with
        | .null => some none
        | tags => (textsOf tags).map some
      billingProfile := ← profileOf profiles (row "metadata") }
  else none

/-! ### The repository -/

def HasId (productId : PyStr) (row : Row) : Prop :=
  Coercions.string (row "product_id") = some productId
  deriving Decidable

def getProduct (table : List Row) (productId : PyStr) : Option (Product P) :=
  (table.find? fun row => HasId productId row).bind (rowToProduct profiles)

/-- `create_product`: what it returns, and the table. A statement that fails returns `None`. -/
def createProduct (table : List Row) (p : Product P) : Option (Product P) × List Row :=
  match insertRow productColumns productValues (p.params profiles now) with
  | none => (none, table)
  | some row =>
    if admits (table ++ [row]) then (rowToProduct profiles row, table ++ [row]) else (none, table)

/-- The profile of an update, unless it is `None`. -/
def profileUpdate (updates : JsonDict) : Option Json :=
  match updates.get? "billing_profile" with
  | some .null => none
  | value => value

/-- `normalized_updates`, unless the profile or the metadata cannot be read. -/
def normalizedUpdates (updates : JsonDict) : Option JsonDict :=
  let rest : JsonDict := updates.filter fun update => update.1 ≠ "billing_profile"
  match profileUpdate updates with
  | none => some rest
  | some value => do
    let profile ← profiles.validate value
    let metadata ← entriesOf ((rest.get? "metadata").getD .null)
    return rest.set "metadata" (.dict (metadata.set "billing_profile" (.dict (profiles.dump profile))))

/-- `SET`. -/
def Row.assign (row : Row) (assignments : JsonDict) : Row :=
  fun column => (assignments.get? column).getD (row column)

/-- The table after the `UPDATE`, if it is carried out: its columns exist, and each is set once. -/
def updatedTable (table : List Row) (productId : PyStr) (updates : JsonDict) :
    Option (List Row) := do
  let assignments := (← normalizedUpdates profiles updates) ++ [("updated_at", .int now)]
  let columns := assignments.map Prod.fst
  let table' := table.map fun row => if HasId productId row then row.assign assignments else row
  if columns.Nodup ∧ (∀ column ∈ columns, column ∈ "id" :: productColumns) ∧ admits table' then
    some table'
  else none

def updateProduct (table : List Row) (productId : PyStr) (updates : JsonDict) :
    Option (Product P) × List Row :=
  match updatedTable profiles admits now table productId updates with
  | none => (none, table)
  | some table' => (getProduct profiles table' productId, table')

/-! ### What a call leaves -/

inductive Request (P : Type) where
  | create (p : Product P)
  | update (productId : PyStr) (updates : JsonDict)

structure Product.Stored (p p' : Product P) : Prop where
  name : p'.name = p.name
  code : ∀ code ∈ given p.productCode, p'.productCode = some code
  category : p'.categoryId = p.categoryId
  type : p'.productType = p.productType
  price : p'.basePrice = p.basePrice
  fulfillment : p'.fulfillmentType = p.fulfillmentType
  features : p'.features = p.features
  quotas : p'.quotaLimits = p.quotaLimits
  tags : p'.tags = p.tags
  profile : p'.billingProfile = p.billingProfile
  metadata : ∀ key ≠ "billing_profile", p'.metadata.get? key = p.metadata.get? key

/-- The columns that are not named are as they were; a new profile leaves the other entries of
the metadata, and new metadata leave the profile. -/
structure Kept (updates : JsonDict) (row new : Row) : Prop where
  columns : ∀ column ≠ "updated_at", updates.get? column = none →
    (column = "metadata" → profileUpdate updates = none) → new column = row column
  entries : profileUpdate updates ≠ none → updates.get? "metadata" = none →
    ∀ entries ∈ entriesOf (row "metadata"), ∀ key ≠ "billing_profile",
      ∃ entries' ∈ entriesOf (new "metadata"), entries'.get? key = entries.get? key
  profile : profileUpdate updates = none → updates.get? "metadata" ≠ none →
    profileOf profiles (new "metadata") = profileOf profiles (row "metadata")

/-- **Products survive storage.** What is created can be read, and an update changes what it
names. -/
def Stands (table : List Row) : Request P → Prop
  | .create p =>
    let (created, table') := createProduct profiles admits now table p
    created.isSome ∧ ∃ p' ∈ getProduct profiles table' p.productId, p.Stored p'
  | .update productId updates =>
    List.Forall₂ (fun row new => if HasId productId row then Kept profiles updates row new
      else new = row) table (updateProduct profiles admits now table productId updates).2

/-- A new profile finds no other metadata, and new metadata have the profile of the old. -/
def Spares (updates : JsonDict) (row : Row) : Prop :=
  (profileUpdate updates ≠ none → updates.get? "metadata" = none →
    ∀ entries ∈ entriesOf (row "metadata"), ∀ key ≠ "billing_profile", entries.get? key = none) ∧
  (profileUpdate updates = none → ∀ metadata ∈ updates.get? "metadata",
    profileOf profiles metadata = profileOf profiles (row "metadata"))

def Spared (table : List Row) : Request P → Prop
  | .create _ => False
  | .update productId updates =>
    (updatedTable profiles admits now table productId updates).isSome →
      ∀ row ∈ table, HasId productId row → Spares profiles updates row

variable {profiles admits now} {table : List Row} {updates : JsonDict}

/-- The `INSERT` has a value too many. -/
theorem insertRow_product (p : Product P) :
    insertRow productColumns productValues (p.params profiles now) = none :=
  if_neg fun h => absurd h.1 (by decide)

theorem get?_cons {name column : String} {value : Json} {entries : JsonDict} :
    get? ((name, value) :: entries) column =
      if column = name then some value else entries.get? column := by
  rw [get?, List.lookup_cons]
  by_cases h : column = name
  · simp [h]
  · simp [beq_false_of_ne h, h, get?]

theorem get?_filter {column : String} :
    get? (updates.filter fun update => update.1 ≠ "billing_profile") column =
      if column = "billing_profile" then none else updates.get? column := by
  induction updates with
  | nil => simp [get?]
  | cons update updates ih =>
    obtain ⟨name, value⟩ := update
    rw [get?_cons]
    by_cases hname : name = "billing_profile"
    · split <;> simp_all
    · rw [List.filter_cons_of_pos (by simpa using hname), get?_cons]
      split <;> simp_all

theorem kept_assign_iff {assignments : JsonDict} {row : Row}
    (h : normalizedUpdates profiles updates = some assignments) :
    Kept profiles updates row (row.assign (assignments ++ [("updated_at", .int now)])) ↔
      Spares profiles updates row := by
  have hassign : ∀ column ≠ "updated_at", row.assign (assignments ++ [("updated_at", .int now)])
      column = (assignments.get? column).getD (row column) := by
    intro column hcolumn
    have hlast := @get?_cons "updated_at" column (.int now) []
    rw [if_neg hcolumn] at hlast
    simp only [get?] at hlast ⊢
    rw [Row.assign, get?, List.lookup_append, hlast]
    simp
  have hmetadata := hassign "metadata" (by decide)
  have hrest := @get?_filter updates
  rw [normalizedUpdates] at h
  cases hprofile : profileUpdate updates with
  | none =>
    rw [hprofile] at h
    obtain rfl := Option.some.inj h
    rw [hrest] at hmetadata
    constructor
    · intro hkept
      refine ⟨absurd hprofile, fun _ metadata hnamed => ?_⟩
      have hnew := hkept.profile hprofile (by rw [hnamed]; exact fun h => by cases h)
      rwa [hmetadata, hnamed] at hnew
    · rintro ⟨-, hspared⟩
      refine ⟨fun column hcolumn hnone _ => ?_, absurd hprofile, fun _ hnamed => ?_⟩
      · rw [hassign column hcolumn, hrest, hnone, ite_self]
        rfl
      · obtain ⟨metadata, hnamed⟩ := Option.ne_none_iff_exists'.mp hnamed
        rw [hmetadata, hnamed]
        exact hspared hprofile metadata hnamed
  | some value =>
    rw [hprofile] at h
    simp only [Option.bind_eq_bind, Option.bind_eq_some_iff, Option.pure_def,
      Option.some.injEq] at h
    obtain ⟨profile, -, entries, hentries, rfl⟩ := h
    rw [get?_set_self] at hmetadata
    rw [hrest] at hentries
    have hnew : updates.get? "metadata" = none → ∀ key ≠ "billing_profile",
        (entries.set "billing_profile" (.dict (profiles.dump profile))).get? key = none := by
      intro hnone key hkey
      rw [hnone] at hentries
      obtain rfl : [] = entries := Option.some.inj hentries
      rw [get?_set_of_ne _ _ hkey]
      rfl
    constructor
    · intro hkept
      refine ⟨fun hsome hnone old hold key hkey => ?_, fun h => absurd h (by simp [hprofile])⟩
      obtain ⟨entries', hentries', hsame⟩ := hkept.entries hsome hnone old hold key hkey
      rw [hmetadata] at hentries'
      rw [← hsame, ← Option.some.inj hentries', hnew hnone key hkey]
    · rintro ⟨hspared, -⟩
      refine ⟨fun column hcolumn hnone hother => ?_, fun hsome hnone old hold key hkey => ?_,
        fun h => absurd h (by simp [hprofile])⟩
      · have hne : column ≠ "metadata" := by
          rintro rfl
          cases hprofile.symm.trans (hother rfl)
        rw [hassign column hcolumn, get?_set_of_ne _ _ hne, hrest, hnone, ite_self]
        rfl
      · refine ⟨_, by rw [hmetadata]; rfl, ?_⟩
        rw [hnew hnone key hkey, hspared hsome hnone old hold key hkey]

/-- **When products survive storage.** -/
theorem stands_iff (request : Request P) :
    Stands profiles admits now table request ↔ Spared profiles admits now table request := by
  cases request with
  | create p => simp [Stands, Spared, createProduct, insertRow_product]
  | update productId updates =>
    rw [Stands, Spared, updateProduct]
    cases htable : updatedTable profiles admits now table productId updates with
    | none =>
      refine iff_of_true (List.forall₂_same.mpr fun row _ => ?_) (by simp)
      split
      · exact ⟨fun _ _ _ _ => rfl, fun _ _ entries h _ _ => ⟨entries, h, rfl⟩, fun _ _ => rfl⟩
      · rfl
    | some table' =>
      simp only [updatedTable, Option.bind_eq_bind, Option.bind_eq_some_iff,
        Option.ite_none_right_eq_some, Option.some.injEq] at htable
      obtain ⟨assignments, hassignments, -, rfl⟩ := htable
      rw [List.forall₂_map_right_iff, List.forall₂_same, Option.isSome_some, forall_prop_of_true rfl]
      refine forall₂_congr fun row _ => ?_
      by_cases hid : HasId productId row
      · simp only [hid, true_imp_iff]
        exact kept_assign_iff hassignments
      · simp [hid]

end Storage

def storagePlan : Product Unit :=
  let member {values : List String} (s : String) (h : ∃ v ∈ values, v.toList = s.toList) :
      Member values := ⟨s.toList, h⟩
  ⟨"plan".toList, "Storage".toList, none, none, "storage".toList, member "storage" (by decide),
    ⟨5, by decide⟩, member "USD" (by decide), none, member "digital" (by decide),
    member "digital" (by decide), member "infinite" (by decide), false,
    member "services" (by decide), none, [], [], true, false, 0, [], none, ()⟩

/-- It is not stored. -/
theorem not_stands_created :
    ¬ ∀ request, Stands ⟨fun _ => some (), fun _ => []⟩ (fun _ => true) 0 [] request := by
  intro h
  exact absurd (h (.create storagePlan)).1 (by simp)

end IsaUser.Products
