import ContractLint.Json.Printer
import ContractLint.Proofs.Text.Raw

/-!
# Values with raw strings

A value can be taken back from its raw form, and both are written as the same text.
-/

namespace ContractLint.Json

/-! ### Items and fields -/

theorem rawItems_eq_map (items : List Json) :
  rawItems items = items.map raw
  := by
  induction items with
  | nil => rfl
  | cons item items ih => rw [rawItems, List.map_cons, ih]

theorem rawFields_eq_map (fields : List (String × Json)) :
  rawFields fields = fields.map fun (key, value) => (RawText.ofString key, value.raw)
  := by
  induction fields with
  | nil => rfl
  | cons field fields ih => rw [rawFields, List.map_cons, ih]

/-! ### Taking a value back -/

mutual

/-- A value is taken back from its raw form. -/
theorem plain?_raw (value : Json) :
  plain? (raw value) = some value
  := by
  cases value with
  | null => rfl
  | bool value => rfl
  | number value => rfl
  | string text => rw [raw, plain?, RawText.string?_ofString, Option.map_some]
  | array items => rw [raw, plain?, plainItems?_rawItems, Option.map_some]
  | object fields => rw [raw, plain?, plainFields?_rawFields, Option.map_some]

/-- The items of a value are plain again. -/
theorem plainItems?_rawItems (items : List Json) :
  plainItems? (rawItems items) = some items
  := by
  cases items with
  | nil => rfl
  | cons item items =>
    rw [rawItems, plainItems?, plain?_raw, plainItems?_rawItems]
    rfl

/-- The fields of a value are plain again. -/
theorem plainFields?_rawFields (fields : List (String × Json)) :
  plainFields? (rawFields fields) = some fields
  := by
  cases fields with
  | nil => rfl
  | cons field fields =>
    rw [rawFields, plainFields?, RawText.string?_ofString, plain?_raw, plainFields?_rawFields]
    rfl

end

/-! ### Texts of raw values -/

variable (style : Style)

mutual

/-- A value and its raw form have the same text. -/
theorem write_raw (depth : Nat) (value : Json) :
  write style depth (raw value) = write style depth value
  := by
  match value with
  | .null => rfl
  | .bool true => rfl
  | .bool false => rfl
  | .number value => rfl
  | .string text => rfl
  | .array [] => rfl
  | .array (item :: items) =>
    rw [raw, rawItems, write, write, write_raw, writeItems_rawItems]
  | .object [] => rfl
  | .object ((key, value) :: fields) =>
    rw [raw, rawFields, write, write, write_raw, writeFields_rawFields]
    rfl

/-- Items are written in the same way over raw texts. -/
theorem writeItems_rawItems (depth : Nat) (items : List Json) :
  writeItems style depth (rawItems items) = writeItems style depth items
  := by
  match items with
  | [] => rfl
  | item :: items => rw [rawItems, writeItems, writeItems, write_raw, writeItems_rawItems]

/-- Fields are written in the same way over raw texts. -/
theorem writeFields_rawFields (depth : Nat) (fields : List (String × Json)) :
  writeFields style depth (rawFields fields) = writeFields style depth fields
  := by
  match fields with
  | [] => rfl
  | (key, value) :: fields =>
    rw [rawFields, writeFields, writeFields, write_raw, writeFields_rawFields]
    rfl

end

end ContractLint.Json
