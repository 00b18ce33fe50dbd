import ContractLint.Analysis
import ContractLint.History.Clock
import ContractLint.History.Store
import ContractLint.Service.Message

/-!
# The service

The service analyses texts and lists the history of users.  An analysis for a user is not stored at
once: it joins a queue, and the oldest one in the queue is stored at some later time, if it can be
stored.  So the state of the service is its store and the queue of what is still to be stored.
-/

namespace ContractLint

/-- What the service is run with. -/
structure Engine where
  /-- The analysis of a text, which may fail. -/
  analysis : Text → Option (List Finding)
  /-- How many arrays and objects can be nested in a body. -/
  nesting : Nat

/-- The wire form of a finding in a raw text.  The snippet is a part of the text, so that surrogates
in its line stand in it again. -/
def Finding.toRawJson (source : RawText) (finding : Finding) : Json RawText :=
  let before := (Text.lines (Text.unifyBreaks source.face)).take (finding.line.number - 1)
  let glyphs := source.masked.drop ((before.map (·.count '�')).foldl (· + ·) 0)
  match finding.toJson.raw with
  | .object fields =>
    .object (fields.map fun (key, value) =>
      match value with
      | .string text =>
        (key, .string (if key = .ofString "snippet" then .unmask glyphs text.face else text))
      | value => (key, value))
  | value => value

/-- An analysis that is still to be stored. -/
structure PendingSave where
  /-- The text that was analysed. -/
  source : RawText
  /-- The wire forms of its findings. -/
  results : List (Json RawText)
  /-- The user it belongs to. -/
  user : String

/-- The service between two requests. -/
structure Service where
  /-- Where analyses are stored, if they are. -/
  store : Option Store
  /-- What is still to be stored, the oldest first. -/
  queue : List PendingSave := []

/-- A place where the service answers. -/
inductive Route where
  | health
  | analysis
  | history
  deriving DecidableEq, Repr

namespace Route

/-- The route of a path. -/
def ofPath? (path : Text) : Option Route :=
  if path = "/health".toList then some .health
  else if path = "/api/analyze".toList then some .analysis
  else if path = "/api/history".toList then some .history
  else none

/-- Whether a route serves a method. -/
def serves (route : Route) (verb : String) : Bool :=
  match route with
  | .analysis => verb == "POST" || verb == "OPTIONS"
  | .health | .history => verb == "GET" || verb == "HEAD" || verb == "OPTIONS"

end Route

/-- The path with each pair of slashes as one slash. -/
def mergeSlashes : Text → Text
  | '/' :: '/' :: rest => '/' :: mergeSlashes rest
  | c :: rest => c :: mergeSlashes rest
  | [] => []

namespace Service

/-- The answer to a request for an analysis of a text.  The analysis itself may fail. -/
def analyseSource (engine : Engine) (service : Service) (source : RawText)
    (user? : Option String) : Service × Response :=
  match engine.analysis source.face with
  | none => (service, .error 500 "Failed to analyze contract")
  | some findings =>
    let results := findings.map (Finding.toRawJson source)
    let response := Response.ok (.object [("results", .array results)])
    match service.store, user? with
    | some _, some user =>
      ({ service with queue := service.queue ++ [⟨source, results, user⟩] }, response)
    | _, _ => (service, response)

/-- The answer to a request for an analysis.  A body that is nested too deep breaks it off. -/
def postAnalysis (engine : Engine) (service : Service) (request : Request) :
    Service × Response :=
  match request.json engine.nesting with
  | .error .tooDeep => (service, .broken)
  | .error .malformed => (service, .error 400 "Source code is required")
  | .ok value =>
    match Request.sourceIn? value with
    | none => (service, .error 400 "Source code is required")
    | some source => service.analyseSource engine source request.user?

/-- The answer to a request for the history. -/
def getHistory (service : Service) (request : Request) : Service × Response :=
  match request.user? with
  | none => (service, .error 401 "Authentication required")
  | some user =>
    match service.store with
    | none => (service, .error 503 "History is not enabled")
    | some store =>
      let (store, result) := store.history {} user
      let response :=
        match result with
        | .ok records =>
          Response.ok (.object [("history", .array (records.map fun record => record.toJson.raw))])
        | .error error =>
          if error.isRefusal then .error 500 "Failed to load history" else .broken
      ({ service with store := some store }, response)

/-- The answer of a route to a request that it serves. -/
def answer (engine : Engine) (service : Service) (route : Route) (request : Request) :
    Service × Response :=
  if request.verb == "OPTIONS" then (service, ⟨200, none⟩)
  else
    let (service, response) :=
      match route with
      | .health =>
        (service, Response.ok (.object [("status", .string "healthy")]))
      | .analysis => service.postAnalysis engine request
      | .history => service.getHistory request
    if request.verb == "HEAD" then (service, { response with body := none })
    else (service, response)

/-- The service after a request, and its response.  A path with doubled slashes leads to the route
without them. -/
def handle (engine : Engine) (service : Service) (request : Request) : Service × Response :=
  match Route.ofPath? request.path with
  | some route =>
    if route.serves request.verb then service.answer engine route request
    else (service, ⟨405, none⟩)
  | none =>
    match Route.ofPath? (mergeSlashes request.path) with
    | some route => (service, ⟨if route.serves request.verb then 308 else 405, none⟩)
    | none => (service, ⟨404, none⟩)

/-- The service after the oldest analysis in the queue was stored.  One that cannot be stored is
dropped. -/
def storeNext (service : Service) (clock : Clock) : Service × Clock :=
  match service.store, service.queue with
  | some store, pending :: queue =>
    let (now, clock) := clock.now
    let (store, _) :=
      store.save {} (.text pending.source) (resultsText pending.results) pending.user now
    (⟨some store, queue⟩, clock)
  | _, _ => (service, clock)

/-- The service after `count` analyses were taken from the queue. -/
def storeMany : Nat → Service → Clock → Service × Clock
  | 0, service, clock => (service, clock)
  | count + 1, service, clock =>
    let (service, clock) := service.storeNext clock
    storeMany count service clock

/-- The service after everything in the queue was stored. -/
def storeAll (service : Service) (clock : Clock) : Service × Clock :=
  storeMany service.queue.length service clock

/-- The service after its store was closed. -/
def closeStore (service : Service) : Service :=
  { service with store := service.store.map Store.close }

end Service

end ContractLint
