/-!
# Rounding

Quotients rounded to the nearest integer; a half goes to the even neighbour.
-/

namespace ContractLint

/-- The quotient rounded to the nearest integer, a half to the even one. -/
def roundQuotient (num den : Nat) : Nat :=
  let q := num / den
  let r := num % den
  if 2 * r < den then q
  else if den < 2 * r then q + 1
  else if q % 2 = 0 then q else q + 1

end ContractLint
