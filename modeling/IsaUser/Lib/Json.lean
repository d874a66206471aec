import IsaUser.Lib.Binary64
import IsaUser.Lib.Values

/-!
# JSON and Validation

The values of JSON as the host language holds them, `Json`, and the fields of a data class
that validates what it is given: required, optional, or with a default.

How a text is turned into a number or a truth value is left to the validation library.
`Coercions` has these conversions as parameters; the conversions of the other values are those
that the library documents.
-/

namespace IsaUser

/-- The values of JSON. A float is the number that it stands for, or none if it is infinite. -/
inductive Json where
  | null
  | bool (b : Bool)
  | int (n : ℤ)
  | float (x : Option ℚ)
  | str (s : PyStr)
  | list (items : List Json)
  | dict (entries : List (String × Json))

abbrev JsonDict := List (String × Json)

/-- `dict.get`. -/
def JsonDict.get? (entries : JsonDict) (name : String) : Option Json := entries.lookup name

def JsonDict.set (entries : JsonDict) (name : String) (value : Json) : JsonDict :=
  match entries with
  | [] => [(name, value)]
  | entry :: entries =>
    if entry.1 = name then (name, value) :: entries else entry :: JsonDict.set entries name value

@[simp] theorem JsonDict.get?_set_self (entries : JsonDict) (name : String) (value : Json) :
    (entries.set name value).get? name = some value := by
  induction entries with
  | nil => simp [set, get?]
  | cons entry entries ih =>
    obtain ⟨key, old⟩ := entry
    rw [set]
    split
    · simp [get?]
    · next hne =>
        have hne' : (name == key) = false := by simpa using fun h => hne h.symm
        simpa [get?, List.lookup_cons, hne'] using ih

theorem JsonDict.get?_set_of_ne (entries : JsonDict) {name name' : String} (value : Json)
    (hne : name' ≠ name) : (entries.set name value).get? name' = entries.get? name' := by
  have hfalse : (name' == name) = false := by simpa using hne
  induction entries with
  | nil => simp [set, get?, List.lookup_cons, hfalse]
  | cons entry entries ih =>
    obtain ⟨key, old⟩ := entry
    rw [set]
    split
    · next h =>
        subst h
        simp [get?, List.lookup_cons, hfalse]
    · simp only [get?, List.lookup_cons] at ih ⊢
      rw [ih]

def Json.truthy : Json → Bool
  | null => false
  | bool b => b
  | int n => n ≠ 0
  | float x => x ≠ some 0
  | str s => s ≠ []
  | list items => !items.isEmpty
  | dict entries => !entries.isEmpty

/-- `a or b`, where a missing entry is `None`. -/
def Json.or (a b : Option Json) : Option Json := if a.any truthy then a else b

/-! ### Validation -/

/-- The conversions of texts to other types. -/
structure Coercions where
  decimal : PyStr → Option ℚ
  integer : PyStr → Option ℤ
  boolean : PyStr → Option Bool

namespace Coercions

variable (c : Coercions)

/-- A field of type `str`. -/
def string : Json → Option PyStr
  | .str s => some s
  | _ => none

/-- A field of type `Decimal`: a float is read by its shortest text. -/
def asDecimal : Json → Option ℚ
  | .int n => some n
  | .float x => x.map shortest
  | .str s => c.decimal s
  | _ => none

/-- A field of type `float`. -/
def asFloat : Json → Option (Option ℚ)
  | .bool b => some (some (if b then 1 else 0))
  | .int n => some (IsaUser.float n)
  | .float x => some x
  | .str s => (c.decimal s).map IsaUser.float
  | _ => none

/-- A field of type `int`. -/
def asInteger : Json → Option ℤ
  | .bool b => some (if b then 1 else 0)
  | .int n => some n
  | .float (some x) => if x.den = 1 then some x.num else none
  | .str s => c.integer s
  | _ => none

/-- A field of type `bool`. -/
def asBoolean : Json → Option Bool
  | .bool b => some b
  | .int n => if n = 0 then some false else if n = 1 then some true else none
  | .float (some x) => if x = 0 then some false else if x = 1 then some true else none
  | .str s => c.boolean s
  | _ => none

theorem asDecimal_float (q : ℚ) : c.asDecimal (.float (IsaUser.float q)) = throughDouble q := rfl

end Coercions

def requiredField {α : Type} (entries : JsonDict) (name : String) (read : Json → Option α) :
    Option α :=
  (entries.get? name).bind read

/-- A field of an optional type, `None` if it is missing. -/
def optionalField {α : Type} (entries : JsonDict) (name : String) (read : Json → Option α) :
    Option (Option α) :=
  match entries.get? name with
  | none => some none
  | some .null => some none
  | some value => (read value).map some

def defaultField {α : Type} (entries : JsonDict) (name : String) (read : Json → Option α)
    (default : α) : Option α :=
  match entries.get? name with
  | none => some default
  | some value => read value

section Fields

variable {α : Type} {entries : JsonDict} {name : String} {read : Json → Option α} {value : Json}

theorem requiredField_of_get? (h : entries.get? name = some value) :
    requiredField entries name read = read value := by
  rw [requiredField, h, Option.bind_some]

theorem defaultField_of_get? {default : α} (h : entries.get? name = some value) :
    defaultField entries name read default = read value := by
  rw [defaultField, h]

theorem optionalField_of_get? (h : entries.get? name = some value) (hvalue : value ≠ .null) :
    optionalField entries name read = (read value).map some := by
  rw [optionalField, h]
  cases value with
  | null => exact absurd rfl hvalue
  | _ => rfl

end Fields

end IsaUser
