/-!
# Sets of names

A set of names is written as the list of its members in increasing order by code point, each
once.
-/

namespace ContractLint

/-- The names in increasing order, each once. -/
def sortedNames (names : List String) : List String :=
  (names.mergeSort fun a b => decide (a ≤ b)).eraseDups

/-- Sorting names neither adds nor loses one. -/
theorem mem_sortedNames {name : String} {names : List String} :
  name ∈ sortedNames names ↔ name ∈ names
  := by rw [sortedNames, List.mem_eraseDups, List.mem_mergeSort]

end ContractLint
