import ContractLint.Number.Binary64
import ContractLint.Text.Raw

/-!
# JSON values

The values of the JSON data format.  An object keeps its fields in order and holds each key once:
`Json.setField` replaces the value of a key that is already there.  The strings of a value that was
read are raw texts; a value without surrogates is a plain one.
-/

namespace ContractLint

/-- A number: an integer of any size, or a binary number when it is written with a fraction or an
exponent. -/
inductive Number where
  /-- An integer. -/
  | integer (value : Int)
  /-- A number written with a fraction or an exponent. -/
  | real (value : Binary64)
  deriving DecidableEq, Repr

/-- A JSON value whose strings are of some type. -/
inductive Json (σ : Type := String) where
  | null
  | bool (value : Bool)
  | number (value : Number)
  | string (value : σ)
  | array (items : List (Json σ))
  | object (fields : List (σ × Json σ))
  deriving Repr

namespace Json

variable {σ : Type}

instance : Inhabited (Json σ) := ⟨.null⟩

/-- The integer `n` as a value. -/
def int (n : Int) : Json σ :=
  .number (.integer n)

/-- The natural number `n` as a value. -/
def nat (n : Nat) : Json σ :=
  .int n

/-- The value of a key among fields. -/
def lookup? [DecidableEq σ] (key : σ) : List (σ × Json σ) → Option (Json σ)
  | [] => none
  | (name, value) :: rest => if name = key then some value else lookup? key rest

/-- The value of a key of an object. -/
def get? [DecidableEq σ] (key : σ) : Json σ → Option (Json σ)
  | .object fields => lookup? key fields
  | _ => none

/-- The fields with one key set: its value is replaced where the key stands, and a new key comes
last. -/
def setField [DecidableEq σ] (key : σ) (value : Json σ) : List (σ × Json σ) → List (σ × Json σ)
  | [] => [(key, value)]
  | (name, old) :: rest =>
    if name = key then (name, value) :: rest else (name, old) :: setField key value rest

/-- Whether a value counts as given: null, false, zero and everything empty does not. -/
def isTruthy : Json → Bool
  | .null => false
  | .bool value => value
  | .number (.integer n) => n != 0
  | .number (.real x) => !x.isZero
  | .string text => text != ""
  | .array items => !items.isEmpty
  | .object fields => !fields.isEmpty

/-! ### Raw values -/

mutual

/-- The value with raw strings. -/
def raw : Json → Json RawText
  | .null => .null
  | .bool value => .bool value
  | .number value => .number value
  | .string text => .string (.ofString text)
  | .array items => .array (rawItems items)
  | .object fields => .object (rawFields fields)

/-- The items with raw strings. -/
def rawItems : List Json → List (Json RawText)
  | [] => []
  | item :: rest => item.raw :: rawItems rest

/-- The fields with raw strings. -/
def rawFields : List (String × Json) → List (RawText × Json RawText)
  | [] => []
  | (key, value) :: rest => (.ofString key, value.raw) :: rawFields rest

end

mutual

/-- The value without raw strings, if no surrogate is in any of them. -/
def plain? : Json RawText → Option Json
  | .null => some .null
  | .bool value => some (.bool value)
  | .number value => some (.number value)
  | .string text => text.string?.map .string
  | .array items => (plainItems? items).map .array
  | .object fields => (plainFields? fields).map .object

/-- The items without raw strings. -/
def plainItems? : List (Json RawText) → Option (List Json)
  | [] => some []
  | item :: rest => do return (← plain? item) :: (← plainItems? rest)

/-- The fields without raw strings. -/
def plainFields? : List (RawText × Json RawText) → Option (List (String × Json))
  | [] => some []
  | (key, value) :: rest => do
    return ((← key.string?), (← plain? value)) :: (← plainFields? rest)

end

end Json

end ContractLint
