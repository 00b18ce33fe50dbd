import ContractLint.Contract.Function

/-!
# The layout of a contract

The first contract declaration divides the lines of a source: what comes after it is the preamble
up to the first signature, and then the functions.  `Layout.ofLines?` finds this division; nothing
after the declaration is lost.
-/

namespace ContractLint

/-- How the lines after the first contract declaration are divided. -/
structure Layout where
  /-- The index of the declaration. -/
  contractLine : Nat
  /-- The lines before the first signature, with their indices. -/
  preamble : List (Line × Nat)
  /-- The functions, with the indices of their signatures. -/
  functions : List (Function × Nat)
  deriving DecidableEq

namespace Layout

/-- The layout of lines, if one of them declares a contract. -/
def ofLines? (lines : List Line) : Option Layout :=
  (lines.findIdx? Signature.isContractDeclaration).map fun contractLine =>
    let rest := (lines.drop (contractLine + 1)).zipIdx (contractLine + 1)
    { contractLine
      preamble := rest.takeWhile fun (line, _) => !Signature.opensFunction line
      functions := Function.split rest }

end Layout

end ContractLint
