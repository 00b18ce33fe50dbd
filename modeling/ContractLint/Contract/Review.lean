import ContractLint.Contract.Layout
import ContractLint.Rule.Catalogue

/-!
# The review of a contract

The checks that look at more than one line: state variables that everyone may read in the
preamble, and the checks of functions.  `Function.issues` lists the checks that a function fails;
they do not depend on where the function stands.
-/

namespace ContractLint

/-! ### Checks -/

namespace Check

/-- A state variable that everyone may read. -/
def stateVisibility : Check where
  id := "state-visibility"
  severity := .low
  message := "Public state variable without getter"
  description := "Public state variables automatically create getters, "
    ++ "which may expose sensitive data."
  recommendation := "Consider using private visibility with explicit getter "
    ++ "functions for better control."

/-- A public function that does not say how it uses state. -/
def mutability : Check where
  id := "visibility"
  severity := .medium
  message := "Public function without state mutability specifier"
  description := "Public functions should explicitly declare their state mutability."
  recommendation :=
    "Add stateMutability specifier (pure, view, payable, or nonpayable) to the function."

/-- A payable function that does not look at the value it receives. -/
def payableValidation : Check where
  id := "payable-validation"
  severity := .medium
  message := "Payable function without value validation"
  description := "Payable functions should validate the received value."
  recommendation :=
    "Add require(msg.value > 0) or similar validation at the start of the function."

/-- What to do about an operation that anyone may start. -/
def guardHint : String :=
  "Restrict the function with an owner-only modifier such as onlyOwner."

/-- An initializer that anyone may call. -/
def unprotectedInit : Check where
  id := "unprotected-init"
  severity := .high
  message := "Unprotected initializer"
  description := "Anyone can call initialize() and take over the contract's initial state."
  recommendation := guardHint ++ " Use an initializer guard so it can run only once."

/-- An upgrade that anyone may call. -/
def unprotectedUpgrade : Check where
  id := "unprotected-upgrade"
  severity := .high
  message := "Unprotected upgrade function"
  description := "Anyone can call upgrade() and replace the contract's logic."
  recommendation := guardHint

/-- A withdrawal that anyone may call. -/
def unprotectedWithdraw : Check where
  id := "unprotected-withdraw"
  severity := .high
  message := "Unprotected withdraw function"
  description := "withdraw() has no owner-only guard and may let anyone drain funds."
  recommendation := guardHint ++ " Or make sure callers can only withdraw their own balance."

/-- A destruction of the contract that anyone may start. -/
def unprotectedSelfdestruct : Check where
  id := "unprotected-selfdestruct"
  severity := .high
  message := "Unprotected selfdestruct"
  description := "A function without an owner-only guard can destroy the contract."
  recommendation := guardHint

/-- The check of a function that only the owner should call, by its name. -/
def privileged? : String → Option Check
  | "initialize" => some unprotectedInit
  | "upgrade" => some unprotectedUpgrade
  | "withdraw" => some unprotectedWithdraw
  | _ => none

end Check

/-! ### Functions -/

namespace Function

/-- Whether a public function never mentions `pure` or `view`. -/
def lacksMutability (function : Function) : Bool :=
  function.visibility == .publicAccess && !Text.occursIn "pure".toList function.bodyText
    && !Text.occursIn "view".toList function.bodyText

/-- Whether a payable function has no line that validates the value it receives. -/
def lacksValueCheck (function : Function) : Bool :=
  function.isPayable && !function.body.any Pattern.checksValue

/-- Whether the first write of state does not come before the first external call. -/
def writesAfterCall (function : Function) : Bool :=
  function.callsOut && function.writesState
    && match function.body.findIdx? Pattern.writesState,
          function.body.findIdx? Pattern.callsOut with
      | some write, some call => decide (call ≤ write)
      | _, _ => false

/-- Whether one of the modifiers restricts the function to the owner. -/
def isOwnerGuarded (guards : List String) (function : Function) : Bool :=
  function.modifiers.any guards.contains

/-- The checks of operations that only the owner should start. -/
def unprotectedIssues (function : Function) : List Check :=
  (Check.privileged? function.name).toList
    ++ if function.body.any (Text.occursIn "selfdestruct".toList) then
        [Check.unprotectedSelfdestruct]
      else []

/-- The checks that a function fails. -/
def issues (guards : List String) (function : Function) : List Check :=
  (if function.lacksMutability then [Check.mutability] else [])
    ++ (if function.lacksValueCheck then [Check.payableValidation] else [])
    ++ (if function.writesAfterCall then [Rule.reentrancy.toCheck] else [])
    ++ (if function.isOwnerGuarded guards then [] else function.unprotectedIssues)

/-- The signature line as it is shown with findings. -/
def snippet (function : Function) : Option String :=
  function.body.head?.map String.ofList

/-- The findings of a function whose signature stands at a position. -/
def findings (guards : List String) (position : Position) (function : Function) :
    List Finding :=
  (function.issues guards).map (·.findingAt position function.snippet)

/-- The findings of a function whose signature has a line number, which must be at least one if
there are any. -/
def findingsAtNumber (guards : List String) (number : Int) (function : Function) :
    Except WireError (List Finding) :=
  Check.findingsAtNumber (function.issues guards) number function.snippet

end Function

/-! ### Contracts -/

namespace Layout

/-- The findings of the preamble. -/
def preambleFindings (source : Source) (layout : Layout) : List Finding :=
  (layout.preamble.filter fun (line, _) => Signature.exposesState line).map
    fun (line, index) =>
      Check.stateVisibility.findingAt (source.position index) (some (String.ofList line))

/-- The findings of the functions. -/
def functionFindings (guards : List String) (source : Source) (layout : Layout) :
    List Finding :=
  layout.functions.flatMap fun (function, index) =>
    function.findings guards (source.position index)

end Layout

end ContractLint
