import ContractLint.Json.Basic
import ContractLint.Text.Quoted

/-!
# Values in messages

The text of a value as error messages and identifiers show it: texts are quoted, and the three
constants are capitalised.
-/

namespace ContractLint.Json

variable {σ : Type} [RawString σ]

mutual

/-- The text of a value in a message. -/
def display : Json σ → Text
  | .null => "None".toList
  | .bool true => "True".toList
  | .bool false => "False".toList
  | .number (.integer n) => Text.ofInt n
  | .number (.real x) => x.display
  | .string text => (RawString.toRaw text).quoted
  | .array [] => ['[', ']']
  | .array (first :: rest) => '[' :: display first ++ displayItems rest ++ [']']
  | .object [] => ['\x7b', '\x7d']
  | .object ((key, first) :: rest) =>
    '\x7b' :: (RawString.toRaw key).quoted ++ [':', ' '] ++ display first ++ displayFields rest
      ++ ['\x7d']

/-- The items after the first one. -/
def displayItems : List (Json σ) → Text
  | [] => []
  | item :: rest => [',', ' '] ++ display item ++ displayItems rest

/-- The fields after the first one. -/
def displayFields : List (σ × Json σ) → Text
  | [] => []
  | (key, value) :: rest =>
    [',', ' '] ++ (RawString.toRaw key).quoted ++ [':', ' '] ++ display value
      ++ displayFields rest

end

/-- The text of a value used as a name: a string is its own text. -/
def asName : Json σ → RawText
  | .string text => RawString.toRaw text
  | value => .ofText value.display

end ContractLint.Json
