import IsaUser.Billing.Usage
import IsaUser.Lib.Json

/-!
# The Answer to a Price Calculation

How `calculate_billing_cost` reads what the product service answers. The answer is any JSON:
prices stand in different places, and may be texts, or no numbers at all.

How a text is read as a decimal number or as a double, and how a value is printed, are parameters.
Results are not rounded to the 28 digits of the decimal context, and an infinite double of an
answer is taken to be positive.
-/

namespace IsaUser.Billing

/-- `Decimal(text)` and `float(text)`, unless they raise, and `repr(value)`. -/
structure Conversions where
  decimal : PyStr → Option Decimal
  float : PyStr → Option Decimal
  repr : Json → String

/-- `type(value).__name__`. -/
def typeName : Json → String
  | .null => "NoneType"
  | .bool _ => "bool"
  | .int _ => "int"
  | .float _ => "float"
  | .str _ => "str"
  | .list _ => "list"
  | .dict _ => "dict"

/-- The object whose `get` is called. -/
def asObject : Json → Except String JsonDict
  | .dict entries => .ok entries
  | value => .error s!"'{typeName value}' object has no attribute 'get'"

/-- `entries.get(name)`, with `None` for what is missing. -/
def getOrNull (entries : JsonDict) (name : String) : Json := (entries.get? name).getD .null

/-- `a or b`. -/
def orValue (a b : Json) : Json := if a.truthy then a else b

def Decimal.times (usageAmount : ℚ) : Decimal → Except String Decimal
  | finite price => .ok (.finite (usageAmount * price))
  | infinite positive =>
    if usageAmount = 0 then .error "[<class 'decimal.InvalidOperation'>]"
    else .ok (.infinite positive)
  | nan => .ok .nan
  | signaling => .error "[<class 'decimal.InvalidOperation'>]"

section Reading

variable (conv : Conversions)

/-- `Decimal(str(value))`. -/
def Conversions.toDecimal : Json → Except String Decimal
  | .int n => .ok (.finite n)
  | .float (some x) => .ok (.finite (shortest x))
  | .float none => .ok (.infinite true)
  | .str s => (conv.decimal s).elim (.error "[<class 'decimal.ConversionSyntax'>]") .ok
  | _ => .error "[<class 'decimal.ConversionSyntax'>]"

/-- `float(value)`. -/
def Conversions.toFloat : Json → Except String Decimal
  | .bool b => .ok (.finite (if b then 1 else 0))
  | .int n =>
    (IsaUser.float n).elim (.error "int too large to convert to float") (.ok <| .finite ·)
  | .float (some x) => .ok (.finite x)
  | .float none => .ok (.infinite true)
  | .str s =>
    (conv.float s).elim (.error s!"could not convert string to float: {conv.repr (.str s)}") .ok
  | value =>
    .error s!"float() argument must be a string or a real number, not '{typeName value}'"

/-- `Currency(value)`. -/
def Conversions.toCurrency (value : Json) : Except String Currency :=
  match value with
  | .str text =>
    (Currency.ofText text).elim (.error s!"{conv.repr value} is not a valid Currency") .ok
  | value => .error s!"{conv.repr value} is not a valid Currency"

def tierUnitPrice : Json → Json
  | .list (first :: _) =>
    match first with
    | .dict entries => getOrNull entries "price_per_unit"
    | _ => .null
  | _ => .null

/-- `len(value)` is defined. -/
def hasLength : Json → Bool
  | .str _ | .list _ | .dict _ => true
  | _ => false

/-- The first price there is, in the order of the places where it may stand. Without one, the
number of tiers is written to the log. -/
def rawPrice (info model effective : JsonDict) (tiers : Json) : Except String Json :=
  let candidates := [getOrNull info "unit_price", getOrNull model "base_unit_price",
    getOrNull effective "base_unit_price", tierUnitPrice tiers]
  match candidates.find? fun candidate => typeName candidate ≠ "NoneType" with
  | some price => .ok price
  | none =>
    if hasLength tiers then .ok .null
    else .error s!"object of type '{typeName tiers}' has no len()"

def readTotal (usageAmount : ℚ) (info : JsonDict) (unitPrice : Decimal) : Except String Decimal :=
  match orValue (getOrNull info "total_price") (getOrNull info "total_cost") with
  | .null => unitPrice.times usageAmount
  | total => conv.toDecimal total

def readPrices (usageAmount : ℚ) (payload : Json) : Except String Pricing := do
  let info ← asObject payload
  let tiers := orValue (getOrNull info "tiers") (.list [])
  let model ← asObject (orValue (getOrNull info "pricing_model") (.dict []))
  let effective ← asObject (orValue (getOrNull info "effective_pricing") (.dict []))
  let raw ← rawPrice info model effective tiers
  let unitPrice ← conv.toDecimal (orValue raw (.int 0))
  let total ← readTotal conv usageAmount info unitPrice
  let currency ← conv.toCurrency (orValue (getOrNull model "currency")
    (orValue (getOrNull info "currency") (.str "CREDIT".toList)))
  let freeTierLimit ← conv.toFloat ((model.get? "free_tier_limit").getD (.int 0))
  return { unitPrice, total, currency, freeTierLimit }

def readPricing (usageAmount : ℚ) (payload : Json) : Option PriceAnswer :=
  if payload.truthy then
    some <| match readPrices conv usageAmount payload with
      | .ok pricing => .priced pricing
      | .error e => .unreadable e
  else none

end Reading

end IsaUser.Billing
