import Mathlib.Data.List.Forall2
import Mathlib.Logic.Relation
import ContractLint.Service.Api
import ContractLint.Proofs.Analysis.Shape
import ContractLint.Proofs.History.Alone
import ContractLint.Proofs.History.Listing
import ContractLint.Proofs.Json.Limits
import ContractLint.Proofs.Json.Raw

/-!
# Recorded analyses

A service answers requests in any order, and takes what is in its queue at any time between them.
Whatever the order, what it took and what is still in the queue are the analyses that it answered to
users, each once and in the order of the answers.  What it took is stored, unless a surrogate is in
the text, which then has no encoding and is dropped.  A user who asks for the history gets what was
stored for that user and nothing else.
-/

namespace ContractLint

/-! ### Exchanges -/

/-- A request with its response. -/
structure Exchange where
  /-- The request. -/
  request : Request
  /-- The response. -/
  response : Response

/-- An analysis that was answered to a user. -/
structure Post where
  /-- The text that was posted. -/
  source : RawText
  /-- The results in the response. -/
  results : List (Json RawText)
  /-- The user who is named in the request. -/
  user : String

/-- Whether an analysis can be stored, which it can unless a surrogate is in its text. -/
def Post.isStorable (post : Post) : Bool :=
  !post.source.any Glyph.isSurrogate

/-- The value in the body of a request, however deep it is nested. -/
def Request.content? (request : Request) : Option (Json RawText) :=
  if request.contentType.any (isJsonType ∘ mediaType) then
    (Json.readOctets { digits := some 4300 } request.body).toOption
  else none

/-- The text that a request posts. -/
def Request.posted? (request : Request) : Option RawText :=
  match request.content?.bind (Json.get? "sourceCode") with
  | some (.string source) => some source
  | _ => none

/-- The results that a response lists. -/
def Response.results? (response : Response) : Option (List (Json RawText)) :=
  match response.body.bind (Json.get? "results") with
  | some (.array results) => some results
  | _ => none

/-- The analysis that an exchange answers to a user, if it does. -/
def Exchange.post? (exchange : Exchange) : Option Post :=
  if exchange.request.path = "/api/analyze".toList ∧ exchange.request.verb = "POST"
      ∧ exchange.response.status = 200 then do
    let source ← exchange.request.posted?
    let results ← exchange.response.results?
    let user ← exchange.request.user?
    return ⟨source, results, user⟩
  else none

/-- The answered analysis that is still to be stored. -/
def PendingSave.post (pending : PendingSave) : Post :=
  ⟨pending.source, pending.results, pending.user⟩

/-- An answered analysis that was stored. -/
structure StoredPost where
  /-- Its number. -/
  id : Nat
  /-- The answered analysis. -/
  post : Post
  /-- When it was stored. -/
  createdAt : String

/-- How a stored analysis is listed: as it was posted and answered. -/
def StoredPost.toJson (stored : StoredPost) : Json RawText :=
  .object [("id", .nat stored.id), ("sourceCode", .string stored.post.source),
    ("results", .array stored.post.results), ("createdAt", .string stored.createdAt)]

/-- One stored analysis is listed before another: a later time first, and then a larger number. -/
def StoredPost.ListedBefore (a b : StoredPost) : Prop :=
  b.createdAt < a.createdAt ∨ a.createdAt = b.createdAt ∧ b.id < a.id

/-- A row holds a stored analysis, with the JSON text of its results. -/
structure Row.Holds (row : Row) (stored : StoredPost) : Prop where
  /-- The number. -/
  id : row.id = stored.id
  /-- The text as it was posted. -/
  source : RawText.ofString row.source = stored.post.source
  /-- The text of the results that were answered. -/
  results : row.results = resultsText stored.post.results
  /-- The user. -/
  user : row.user = stored.post.user
  /-- The time. -/
  createdAt : row.createdAt = stored.createdAt

/-! ### Running services -/

/-- The engine behind a service, which may fail. -/
def Engine.ofSettings (settings : Settings) (fails : Bool) (nesting : Nat) : Engine where
  analysis text := if fails then none else some (analyze settings none text)
  nesting := nesting

/-- A service with what happened so far. -/
structure RunningService where
  /-- The service. -/
  service : Service
  /-- The requests with their responses, the oldest first. -/
  exchanges : List Exchange := []
  /-- The times at which something was taken from the queue, the oldest first. -/
  times : List String := []

namespace RunningService

/-- A service with a store that was just opened and holds an empty table. -/
def fresh : RunningService where
  service := { store := some (Store.initialise {} {}).1 }

/-- The service after a request, on which the engine may fail. -/
def respond (settings : Settings) (fails : Bool) (nesting : Nat) (request : Request)
    (running : RunningService) : RunningService :=
  let (service, response) :=
    running.service.handle (Engine.ofSettings settings fails nesting) request
  { running with service, exchanges := running.exchanges ++ [⟨request, response⟩] }

/-- The service after the oldest analysis was taken from the queue, at the time of a clock. -/
def storeOldest (clock : Clock) (running : RunningService) : RunningService :=
  { running with
    service := (running.service.storeNext clock).1
    times := running.times ++ [clock.now.1] }

/-- What may happen next: a request arrives, or the oldest analysis is taken from the queue. -/
inductive Step (settings : Settings) : RunningService → RunningService → Prop where
  | respond (fails : Bool) (nesting : Nat) (request : Request) (running : RunningService) :
    Step settings running (running.respond settings fails nesting request)
  | storeOldest (clock : Clock) {running : RunningService} (h : running.service.queue ≠ []) :
    Step settings running (running.storeOldest clock)

/-- What a fresh service may come to. -/
def Reachable (settings : Settings) (running : RunningService) : Prop :=
  Relation.ReflTransGen (Step settings) fresh running

/-- The analyses that were answered to users, the oldest first. -/
def accepted (running : RunningService) : List Post :=
  running.exchanges.filterMap Exchange.post?

/-- The answered analyses that were stored: the oldest ones, one for each time, but for those that
cannot be stored, numbered from one. -/
def stored (running : RunningService) : List StoredPost :=
  (((running.accepted.zip running.times).filter (·.1.isStorable)).zipIdx 1).map
    fun ((post, createdAt), id) => ⟨id, post, createdAt⟩

end RunningService

/-! ### Wire forms -/

/-- In a text without surrogates the wire form of a finding is the usual one. -/
theorem Finding.toRawJson_ofString (source : String) (finding : Finding) :
  finding.toRawJson (.ofString source) = finding.toJson.raw
  := by
  have hunmask (count : Nat) (text : String) :
      RawText.unmask ((RawText.masked (.ofString source)).drop count) (RawText.ofString text).face
        = .ofString text := by
    rw [RawText.face_ofString, RawText.unmask_of_char, RawText.ofString]
    intro glyph hglyph
    apply RawText.masked_ofText _ (List.mem_of_mem_drop hglyph)
  rw [toRawJson, toJson, Json.raw, Json.rawFields_eq_map]
  simp only [List.map_map]
  congr 1
  apply List.map_congr_left
  rintro ⟨key, value⟩ _
  cases value with
  | string text =>
    simp only [Function.comp, Json.raw, hunmask, ite_self]
  | null => rfl
  | bool value => rfl
  | number value => rfl
  | array items => rfl
  | object fields => rfl

theorem map_toRawJson_ofString (source : String) (findings : List Finding) :
  findings.map (Finding.toRawJson (.ofString source)) = (findings.map Finding.toJson).map Json.raw
  := by
  rw [List.map_map]
  apply List.map_congr_left
  intro finding _
  apply Finding.toRawJson_ofString

/-- Values and their raw forms are stored as the same text. -/
theorem resultsText_raw (values : List Json) :
  resultsText (values.map Json.raw) = resultsText values
  := by
  rw [resultsText, resultsText, Json.render, Json.render, ← Json.rawItems_eq_map]
  congr 1
  apply Json.write_raw _ _ (.array values)

/-- Those analyses can be stored whose text has an encoding. -/
theorem Post.isStorable_iff {post : Post} :
  post.isStorable = true ↔ ∃ text : String, post.source = .ofString text
  := by rw [isStorable, Bool.not_eq_true', RawText.any_isSurrogate_eq_false_iff]

/-! ### Requests -/

namespace Request

variable {request : Request}

/-- The body of a request is read as it is without a limit on nesting, unless it is nested too
deep. -/
theorem content?_of_json (nesting : Nat) (h : request.json nesting ≠ .error .tooDeep) :
  (request.json nesting).toOption = request.content?
  := by
  rw [json] at h ⊢
  rw [content?]
  split_ifs with htype
  · rw [if_pos htype] at h
    congr 1
    apply (Json.agrees_readOctets _ request.body).resolve_left h
  · rfl

/-- The text that is analysed is the one that was posted. -/
theorem posted?_of_sourceIn? {nesting : Nat} {value : Json RawText} {source : RawText}
    (hvalue : request.json nesting = .ok value) (hsource : sourceIn? value = some source) :
  request.posted? = some source
  := by
  have hcontent : request.content? = some value := by
    rw [← content?_of_json nesting, hvalue]
    · rfl
    · rw [hvalue]
      rintro ⟨⟩
  rw [sourceIn?] at hsource
  split at hsource
  · next text htext =>
    rw [posted?, hcontent, Option.bind_some, htext]
    apply (Option.ite_none_left_eq_some.mp hsource).2
  · cases hsource

end Request

namespace Exchange

variable {exchange : Exchange}

/-- An exchange posts an analysis when it was answered with results to a user. -/
theorem post?_eq_some_iff {post : Post} :
  exchange.post? = some post
    ↔ (exchange.request.path = "/api/analyze".toList ∧ exchange.request.verb = "POST"
      ∧ exchange.response.status = 200) ∧ exchange.request.posted? = some post.source
      ∧ exchange.response.results? = some post.results ∧ exchange.request.user? = some post.user
  := by
  obtain ⟨source, results, user⟩ := post
  rw [post?, Option.ite_none_right_eq_some]
  simp [Option.bind_eq_some_iff]

/-- Nothing is answered to a user unless an analysis is posted, and answered, and a user named. -/
theorem post?_eq_none
    (h : ¬ (exchange.request.path = "/api/analyze".toList ∧ exchange.request.verb = "POST")
      ∨ exchange.response.status ≠ 200 ∨ exchange.request.user? = none) :
  exchange.post? = none
  := by
  apply Option.eq_none_iff_forall_ne_some.mpr
  intro post hpost
  obtain ⟨⟨hpath, hverb, hstatus⟩, -, -, huser⟩ := post?_eq_some_iff.mp hpost
  obtain h | h | h := h
  · apply h ⟨hpath, hverb⟩
  · apply h hstatus
  · rw [h] at huser
    cases huser

end Exchange

/-- What is still to be stored lists findings with identifiers. -/
def PendingSave.IsReadable (pending : PendingSave) : Prop :=
  ∃ findings : List Finding, pending.results = findings.map (Finding.toRawJson pending.source)
    ∧ ∀ finding ∈ findings, finding.ruleId ≠ ""

namespace Service

variable {engine : Engine} {service : Service} {request : Request} {saves : List Save}

/-- The store of a service is at rest and holds some saves. -/
def Stores (service : Service) (saves : List Save) : Prop :=
  ∃ store, service.store = some store ∧ store.IsSettled
    ∧ store.table? = .ok (Table.ofSaves saves)

/-- All findings of an engine have identifiers. -/
theorem ruleId_ne_of_ofSettings {settings : Settings} {fails : Bool} {nesting : Nat} {text : Text}
    {findings : List Finding}
    (h : (Engine.ofSettings settings fails nesting).analysis text = some findings) :
  ∀ finding ∈ findings, finding.ruleId ≠ ""
  := by
  obtain ⟨-, h⟩ := Option.ite_none_left_eq_some.mp h
  cases h
  intro finding hfinding
  have hvalue : finding ∈ analyzeValue settings none (.string (String.ofList text)) := by
    rw [analyzeValue, String.toList_ofList]
    apply hfinding
  apply ruleId_ne_empty_of_mem_analyzeValue hvalue

theorem path_of_ofPath?_eq_analysis {path : Text} (h : Route.ofPath? path = some .analysis) :
  path = "/api/analyze".toList
  := by
  by_contra hne
  rw [Route.ofPath?, if_neg hne] at h
  split_ifs at h <;> cases h

theorem handle_post (hpath : request.path = "/api/analyze".toList)
    (hverb : request.verb = "POST") :
  service.handle engine request = service.postAnalysis engine request
  := by
  have hroute : Route.ofPath? "/api/analyze".toList = some .analysis := by decide
  rw [handle, hpath, hroute]
  simp [hverb, Route.serves, answer]

/-- A request for the history is answered from the store. -/
theorem handle_history (hpath : request.path = "/api/history".toList)
    (hverb : request.verb = "GET") :
  service.handle engine request = service.getHistory request
  := by
  have hroute : Route.ofPath? "/api/history".toList = some .history := by decide
  rw [handle, hpath, hroute]
  simp [hverb, Route.serves, answer]

theorem getHistory_of_user?_eq_none (h : request.user? = none) :
  service.getHistory request = (service, .error 401 "Authentication required")
  := by rw [getHistory, h]

/-! ### The store -/

theorem Stores.congr (h : service.Stores saves) {service' : Service}
    (hstore : service'.store = service.store) :
  service'.Stores saves
  := by
  rw [Stores, hstore]
  apply h

/-- A request for the history leaves what is stored, and what is in the queue. -/
theorem Stores.getHistory (h : service.Stores saves) (request : Request) :
  (service.getHistory request).1.Stores saves
  ∧ (service.getHistory request).1.queue = service.queue
  := by
  obtain ⟨store, hstore, hsettled, htable⟩ := h
  rw [Service.getHistory]
  cases request.user? with
  | none => exact ⟨⟨store, hstore, hsettled, htable⟩, rfl⟩
  | some user =>
    have halone : store.isOpen = true → ({} : Rivals) = {} := fun _ => rfl
    obtain ⟨-, hsettles⟩ := Store.history_alone hsettled halone user
    rw [hstore]
    exact ⟨⟨_, rfl, hsettles.settled, hsettles.table?.trans htable⟩, rfl⟩

/-- Answers to other requests leave the store and the queue as they are. -/
theorem Stores.answer (h : service.Stores saves) (engine : Engine) {route : Route}
    (hroute : route = .analysis → request.verb = "OPTIONS") :
  (service.answer engine route request).1.Stores saves
  ∧ (service.answer engine route request).1.queue = service.queue
  := by
  have hsame : service.Stores saves ∧ service.queue = service.queue := ⟨h, rfl⟩
  unfold Service.answer
  cases route with
  | health => split_ifs <;> apply hsame
  | history =>
    split_ifs
    · apply hsame
    · apply h.getHistory
    · apply h.getHistory
  | analysis =>
    rw [if_pos (by rw [hroute rfl, beq_self_eq_true])]
    apply hsame

/-- Nothing but a posted analysis changes what is stored or what is in the queue. -/
theorem Stores.handle_of_not_post (h : service.Stores saves) (engine : Engine)
    (hpost : ¬ (request.path = "/api/analyze".toList ∧ request.verb = "POST")) :
  (service.handle engine request).1.Stores saves
  ∧ (service.handle engine request).1.queue = service.queue
  := by
  have hsame : service.Stores saves ∧ service.queue = service.queue := ⟨h, rfl⟩
  rw [handle]
  split
  · next route hroute =>
    split_ifs with hserves
    · apply h.answer
      rintro rfl
      have hverb : request.verb = "POST" ∨ request.verb = "OPTIONS" := by
        simpa [Route.serves] using hserves
      apply hverb.resolve_left
      intro hverb
      apply hpost ⟨path_of_ofPath?_eq_analysis hroute, hverb⟩
    · apply hsame
  · split <;> apply hsame

/-- What is posted to a service that stores analyses: it is not answered to a user, or it is and
joins the queue. -/
theorem Stores.postAnalysis (h : service.Stores saves) (settings : Settings) (fails : Bool)
    (nesting : Nat) (hpath : request.path = "/api/analyze".toList) (hverb : request.verb = "POST")
    {service' : Service} {response : Response}
    (hposted : service.postAnalysis (.ofSettings settings fails nesting) request
      = (service', response)) :
  (service' = service ∧ Exchange.post? ⟨request, response⟩ = none)
  ∨ ∃ pending : PendingSave, pending.IsReadable
    ∧ service' = { service with queue := service.queue ++ [pending] }
    ∧ Exchange.post? ⟨request, response⟩ = some pending.post
  := by
  obtain ⟨store, hstore, -⟩ := h
  have hrefused {status : Nat} {body : Option (Json RawText)} (hstatus : status ≠ 200)
      (hresult : (service, ⟨status, body⟩) = (service', response)) :
      service' = service ∧ Exchange.post? ⟨request, response⟩ = none := by
    cases hresult
    use rfl
    apply Exchange.post?_eq_none (.inr (.inl hstatus))
  rw [Service.postAnalysis] at hposted
  split at hposted
  · exact .inl (hrefused (by decide) hposted)
  · exact .inl (hrefused (by decide) hposted)
  · next value hvalue =>
    split at hposted
    · exact .inl (hrefused (by decide) hposted)
    · next source hsource =>
      rw [analyseSource] at hposted
      split at hposted
      · exact .inl (hrefused (by decide) hposted)
      · next findings hfindings =>
        rw [hstore] at hposted
        cases huser : request.user? with
        | none =>
          rw [huser] at hposted
          cases hposted
          exact .inl ⟨rfl, Exchange.post?_eq_none (.inr (.inr huser))⟩
        | some user =>
          rw [huser] at hposted
          cases hposted
          right
          refine ⟨⟨source, _, user⟩, ⟨findings, rfl, ruleId_ne_of_ofSettings hfindings⟩,
            by rw [hstore], ?_⟩
          rw [Exchange.post?_eq_some_iff]
          exact ⟨⟨hpath, hverb, rfl⟩, Request.posted?_of_sourceIn? hvalue hsource, rfl, huser⟩

/-- A service that stores analyses puts each one that it answers to a user into the queue, and does
nothing else at a request. -/
theorem Stores.handle (h : service.Stores saves) (settings : Settings) (fails : Bool)
    (nesting : Nat) {service' : Service} {response : Response}
    (hhandle : service.handle (.ofSettings settings fails nesting) request = (service', response)) :
  service'.Stores saves
  ∧ ((service'.queue = service.queue ∧ Exchange.post? ⟨request, response⟩ = none)
    ∨ ∃ pending : PendingSave, pending.IsReadable ∧ service'.queue = service.queue ++ [pending]
      ∧ Exchange.post? ⟨request, response⟩ = some pending.post)
  := by
  by_cases hpost : request.path = "/api/analyze".toList ∧ request.verb = "POST"
  · obtain ⟨hpath, hverb⟩ := hpost
    rw [handle_post hpath hverb] at hhandle
    obtain ⟨rfl, hnone⟩ | ⟨pending, hreadable, rfl, hsome⟩ :=
      h.postAnalysis settings fails nesting hpath hverb hhandle
    · exact ⟨h, .inl ⟨rfl, hnone⟩⟩
    · exact ⟨h, .inr ⟨pending, hreadable, rfl, hsome⟩⟩
  · obtain ⟨hstores, hqueue⟩ := h.handle_of_not_post (.ofSettings settings fails nesting) hpost
    rw [hhandle] at hstores hqueue
    exact ⟨hstores, .inl ⟨hqueue, Exchange.post?_eq_none (.inl hpost)⟩⟩

/-- The oldest save of the queue is made, whatever comes of it. -/
theorem storeNext_of_cons {store : Store} (hstore : service.store = some store)
    {pending : PendingSave} {queue : List PendingSave} (hqueue : service.queue = pending :: queue)
    (clock : Clock) :
  (service.storeNext clock).1
    = ⟨some (store.save {} (.text pending.source) (resultsText pending.results) pending.user
        clock.now.1).1, queue⟩
  := by
  rw [storeNext, hstore, hqueue]

/-- The oldest analysis in the queue is stored if its text has an encoding. -/
theorem Stores.storeNext_ofString (h : service.Stores saves) (clock : Clock) {text : String}
    {findings : List Finding} {user : String} {queue : List PendingSave}
    (hqueue : service.queue
      = ⟨.ofString text, findings.map (Finding.toRawJson (.ofString text)), user⟩ :: queue) :
  (service.storeNext clock).1.Stores (saves ++ [⟨text, findings, user, clock.now.1⟩])
  ∧ (service.storeNext clock).1.queue = queue
  := by
  obtain ⟨store, hstore, hsettled, htable⟩ := h
  have halone : store.isOpen = true → ({} : Rivals) = {} := fun _ => rfl
  obtain ⟨hopen, -⟩ := Store.table?_eq_ok_iff.mp htable
  obtain ⟨-, hsettles⟩ := Store.save_alone hsettled halone (.text (.ofString text))
    (resultsText (findings.map Finding.toJson)) user clock.now.1
  rw [Store.savedTable_ofString htable, Table.insert_ofSaves] at hsettles
  rw [storeNext_of_cons hstore hqueue, map_toRawJson_ofString, resultsText_raw]
  refine ⟨⟨_, rfl, hsettles.settled, ?_⟩, rfl⟩
  apply Store.table?_eq_ok_iff.mpr ⟨hsettles.isOpen.trans hopen, hsettles.database⟩

/-- The oldest analysis in the queue is dropped if its text has no encoding. -/
theorem Stores.storeNext_of_unencodable (h : service.Stores saves) (clock : Clock)
    {pending : PendingSave} {queue : List PendingSave} (hqueue : service.queue = pending :: queue)
    (hsource : ∀ text : String, pending.source ≠ .ofString text) :
  (service.storeNext clock).1.Stores saves ∧ (service.storeNext clock).1.queue = queue
  := by
  obtain ⟨store, hstore, hsettled, htable⟩ := h
  have halone : store.isOpen = true → ({} : Rivals) = {} := fun _ => rfl
  obtain ⟨-, hsettles⟩ := Store.save_alone hsettled halone (.text pending.source)
    (resultsText pending.results) pending.user clock.now.1
  obtain ⟨error, herror⟩ := Store.exists_savedTable_eq_error (.inl hsource)
    (resultsText pending.results) clock.now.1 store
  rw [herror] at hsettles
  rw [storeNext_of_cons hstore hqueue]
  exact ⟨⟨_, rfl, hsettles.settled, (Store.Settles.table? hsettles).trans htable⟩, rfl⟩

end Service

/-! ### The running service -/

/-- An attempt to store an analysis, at some time. -/
structure Attempt where
  /-- The text that was posted. -/
  source : RawText
  /-- Its findings. -/
  findings : List Finding
  /-- The user the analysis belongs to. -/
  user : String
  /-- When the attempt was made. -/
  createdAt : String

namespace Attempt

/-- The answered analysis that was to be stored. -/
def post (attempt : Attempt) : Post :=
  ⟨attempt.source, attempt.findings.map (Finding.toRawJson attempt.source), attempt.user⟩

/-- The save that was made, if the text has an encoding. -/
def save? (attempt : Attempt) : Option Save :=
  attempt.source.string?.map fun text =>
    ⟨text, attempt.findings, attempt.user, attempt.createdAt⟩

/-- All findings have an identifier. -/
def IsReadable (attempt : Attempt) : Prop :=
  ∀ finding ∈ attempt.findings, finding.ruleId ≠ ""

/-- The saves that were made. -/
def saves (attempts : List Attempt) : List Save :=
  attempts.filterMap save?

end Attempt

/-- The answered analysis that was saved. -/
def Save.post (save : Save) : Post :=
  ⟨.ofString save.source, (save.findings.map Finding.toJson).map Json.raw, save.user⟩

/-- A saved analysis with its number, as it was stored. -/
def StoredPost.ofSave : Save × Nat → StoredPost
  | (save, id) => ⟨id, save.post, save.createdAt⟩

/-- A save is listed as it was stored. -/
theorem Save.toJson_record (save : Save) (id : Nat) :
  (save.record id).toJson.raw = (StoredPost.ofSave (save, id)).toJson
  := by
  have hresults : (save.findings.map Finding.readBack).map Finding.toJson
      = save.findings.map Finding.toJson := by
    rw [List.map_map]
    apply List.map_congr_left
    intro finding _
    apply Finding.toJson_readBack
  rw [Record.toJson, Save.record, hresults, StoredPost.ofSave, StoredPost.toJson, Save.post,
    ← Json.rawItems_eq_map]
  rfl

namespace Attempt

variable {attempt : Attempt} {save : Save}

/-- What was saved is what was to be stored, and has an encoding. -/
theorem post_of_save? (h : attempt.save? = some save) :
  attempt.post = save.post ∧ attempt.createdAt = save.createdAt ∧ attempt.post.isStorable = true
  := by
  obtain ⟨text, htext, rfl⟩ := Option.map_eq_some_iff.mp h
  have hsource := RawText.string?_eq_some_iff.mp htext
  refine ⟨?_, rfl, Post.isStorable_iff.mpr ⟨text, hsource⟩⟩
  rw [post, Save.post, hsource, map_toRawJson_ofString]

theorem isStorable_of_save?_eq_none (h : attempt.save? = none) :
  attempt.post.isStorable = false
  := by
  rw [← Bool.not_eq_true, Post.isStorable_iff]
  rintro ⟨text, htext⟩
  have hsource : attempt.source = .ofString text := htext
  rw [save?, hsource, RawText.string?_ofString] at h
  cases h

/-- All saves that were made can be read back. -/
theorem isReadable_of_mem_saves {attempts : List Attempt}
    (h : ∀ attempt ∈ attempts, attempt.IsReadable) (hsave : save ∈ saves attempts) :
  save.IsReadable
  := by
  obtain ⟨attempt, hattempt, hsome⟩ := List.mem_filterMap.mp hsave
  obtain ⟨text, -, rfl⟩ := Option.map_eq_some_iff.mp hsome
  apply h attempt hattempt

/-- The attempts to store what can be stored are the saves. -/
theorem filter_isStorable (attempts : List Attempt) :
  (attempts.map fun attempt => (attempt.post, attempt.createdAt)).filter (·.1.isStorable)
    = (saves attempts).map fun save => (save.post, save.createdAt)
  := by
  induction attempts with
  | nil => rfl
  | cons attempt attempts ih =>
    rw [List.map_cons, List.filter_cons, ih, saves, saves, List.filterMap_cons]
    cases hsave : attempt.save? with
    | none => simp [isStorable_of_save?_eq_none hsave]
    | some save =>
      obtain ⟨hpost, htime, hstorable⟩ := post_of_save? hsave
      rw [hpost] at hstorable
      simp [hstorable, hpost, htime]

end Attempt

namespace RunningService

/-- A running service accounts for attempts: the saves that they made are what its store holds, and
with the queue they are what it answered to users. -/
structure Accounts (running : RunningService) (attempts : List Attempt) : Prop where
  /-- The store holds the saves. -/
  stores : running.service.Stores (Attempt.saves attempts)
  /-- The attempts and the queue are the analyses that were answered to users. -/
  accepted : attempts.map Attempt.post ++ running.service.queue.map PendingSave.post
    = running.accepted
  /-- The attempts were made at the times at which something was taken from the queue. -/
  times : attempts.map Attempt.createdAt = running.times
  /-- The saves can be read back. -/
  attempts_readable : ∀ attempt ∈ attempts, attempt.IsReadable
  /-- What is in the queue can be read back once it is stored. -/
  queue_readable : ∀ pending ∈ running.service.queue, pending.IsReadable

theorem accounts_fresh :
  fresh.Accounts []
  where
  stores := ⟨_, rfl, Store.isSettled_of_transaction rfl, rfl⟩
  accepted := rfl
  times := rfl
  attempts_readable := by simp
  queue_readable := by simp [fresh]

section
variable {running : RunningService} {attempts : List Attempt}

/-- A request adds to what was answered to users what it answers to a user. -/
theorem accepted_respond {settings : Settings} {fails : Bool} {nesting : Nat} {request : Request}
    {service : Service} {response : Response}
    (h : running.service.handle (.ofSettings settings fails nesting) request
      = (service, response)) :
  (running.respond settings fails nesting request).accepted
    = running.accepted ++ (Exchange.post? ⟨request, response⟩).toList
  := by
  rw [RunningService.respond, h, accepted, List.filterMap_append, accepted]
  cases hpost : Exchange.post? ⟨request, response⟩ with
  | none => simp [hpost]
  | some post => simp [hpost]

/-- A response keeps the accounts, with an accepted analysis at the end of the queue. -/
theorem Accounts.respond (h : running.Accounts attempts) (settings : Settings) (fails : Bool)
    (nesting : Nat) (request : Request) :
  (running.respond settings fails nesting request).Accounts attempts
  := by
  obtain ⟨⟨service, response⟩, hhandle⟩ :
    ∃ result, running.service.handle (.ofSettings settings fails nesting) request = result :=
    ⟨_, rfl⟩
  have hservice : (running.respond settings fails nesting request).service = service := by
    rw [RunningService.respond, hhandle]
  have haccepted := accepted_respond hhandle
  -- a request leaves the saves alone: it adds the same analysis to the queue and to the answers
  obtain ⟨hstores, ⟨hqueue, hpost⟩ | ⟨pending, hreadable, hqueue, hpost⟩⟩ :=
    h.stores.handle settings fails nesting hhandle
  · rw [hpost, Option.toList_none, List.append_nil] at haccepted
    exact {
      stores := by rwa [hservice]
      accepted := by rw [hservice, hqueue, haccepted, h.accepted]
      times := h.times
      attempts_readable := h.attempts_readable
      queue_readable := by
        rw [hservice, hqueue]
        apply h.queue_readable }
  · rw [hpost, Option.toList_some] at haccepted
    exact {
      stores := by rwa [hservice]
      accepted := by
        rw [hservice, hqueue, haccepted, ← h.accepted, List.map_append, List.append_assoc,
          List.map_singleton]
      times := h.times
      attempts_readable := h.attempts_readable
      queue_readable := by
        rw [hservice, hqueue, List.forall_mem_append, List.forall_mem_singleton]
        exact ⟨h.queue_readable, hreadable⟩ }

/-- The saves after an attempt to store the oldest analysis in the queue. -/
theorem Accounts.stores_storeOldest (h : running.Accounts attempts) {pending : PendingSave}
    {queue : List PendingSave} (hqueue : running.service.queue = pending :: queue)
    {findings : List Finding}
    (hresults : pending.results = findings.map (Finding.toRawJson pending.source))
    (clock : Clock) :
  (running.service.storeNext clock).1.Stores
      (Attempt.saves (attempts ++ [⟨pending.source, findings, pending.user, clock.now.1⟩]))
  ∧ (running.service.storeNext clock).1.queue = queue
  := by
  obtain ⟨source, results, user⟩ := pending
  obtain rfl : results = findings.map (Finding.toRawJson source) := hresults
  rw [Attempt.saves, List.filterMap_append]
  cases hsource : source.string? with
  | some text =>
    obtain rfl := RawText.string?_eq_some_iff.mp hsource
    have hstored := h.stores.storeNext_ofString clock hqueue
    simpa [Attempt.save?, Attempt.saves] using hstored
  | none =>
    have hstored := h.stores.storeNext_of_unencodable clock hqueue (by
      rintro text rfl
      rw [RawText.string?_ofString] at hsource
      cases hsource)
    simpa [Attempt.save?, Attempt.saves, hsource] using hstored

/-- The oldest analysis in the queue is the last attempt. -/
theorem Accounts.storeOldest (h : running.Accounts attempts) {pending : PendingSave}
    {queue : List PendingSave} (hqueue : running.service.queue = pending :: queue)
    (clock : Clock) :
  ∃ attempts', (running.storeOldest clock).Accounts attempts'
  := by
  have hreadable := h.queue_readable
  rw [hqueue, List.forall_mem_cons] at hreadable
  obtain ⟨⟨findings, hresults, hfindings⟩, hrest⟩ := hreadable
  obtain ⟨hstores, hqueue'⟩ := h.stores_storeOldest hqueue hresults clock
  have hpost : Attempt.post ⟨pending.source, findings, pending.user, clock.now.1⟩
      = pending.post := by
    rw [Attempt.post, PendingSave.post, hresults]
  use attempts ++ [⟨pending.source, findings, pending.user, clock.now.1⟩]
  exact {
    stores := hstores
    accepted := by
      have haccepted := h.accepted
      rw [hqueue] at haccepted
      rw [RunningService.storeOldest, hqueue', List.map_append, List.append_assoc,
        List.map_singleton, hpost]
      apply haccepted
    times := by
      rw [List.map_append, h.times]
      rfl
    attempts_readable := by
      rw [List.forall_mem_append, List.forall_mem_singleton]
      use h.attempts_readable, hfindings
    queue_readable := by
      rw [RunningService.storeOldest, hqueue']
      apply hrest }

/-- Every step keeps the accounts. -/
theorem Accounts.step (h : running.Accounts attempts) {settings : Settings}
    {running' : RunningService} (hstep : Step settings running running') :
  ∃ attempts', running'.Accounts attempts'
  := by
  cases hstep with
  | respond fails nesting request =>
    use attempts
    apply h.respond
  | storeOldest clock hne =>
    obtain ⟨pending, queue, hqueue⟩ := List.exists_cons_of_ne_nil hne
    apply h.storeOldest hqueue

/-- In every reachable state there are accounts of what was stored. -/
theorem Reachable.accounts {settings : Settings} (h : Reachable settings running) :
  ∃ attempts, running.Accounts attempts
  := by
  induction h with
  | refl =>
    use []
    apply accounts_fresh
  | tail _ hstep ih =>
    obtain ⟨attempts, haccounts⟩ := ih
    apply haccounts.step hstep

/-! ### What is listed -/

/-- What was stored is what the saves say. -/
theorem Accounts.stored (h : running.Accounts attempts) :
  running.stored = (Save.numbered (Attempt.saves attempts)).map StoredPost.ofSave
  := by
  -- the times are as many as the attempts, which come first among what was accepted
  have hzip : running.accepted.zip running.times
      = attempts.map fun attempt => (attempt.post, attempt.createdAt) := by
    rw [← h.accepted, ← h.times, ← List.append_nil (attempts.map Attempt.createdAt),
      List.zip_append (by simp), List.zip_nil_right, List.append_nil, List.zip_map']
  rw [RunningService.stored, hzip, Attempt.filter_isStorable, List.zipIdx_map, List.map_map,
    Save.numbered]
  rfl

/-- Who asks for the history of a user gets what was stored for that user. -/
theorem Accounts.getHistory (h : running.Accounts attempts) {request : Request} {user : String}
    (huser : request.user? = some user) :
  (running.service.getHistory request).2
    = .ok (.object [("history", .array (((Table.listed user (Attempt.saves attempts)).map
        StoredPost.ofSave).map StoredPost.toJson))])
  := by
  obtain ⟨store, hstore, hsettled, htable⟩ := h.stores
  have halone : store.isOpen = true → ({} : Rivals) = {} := fun _ => rfl
  obtain ⟨hrecords, -⟩ := Store.history_alone hsettled halone user
  rw [Store.records_ofSaves htable
    (fun _ => Attempt.isReadable_of_mem_saves h.attempts_readable)] at hrecords
  rw [Service.getHistory, huser, hstore]
  simp only [hrecords]
  rw [List.map_map, List.map_map]
  congr 5
  apply List.map_congr_left
  rintro ⟨save, id⟩ _
  apply Save.toJson_record

theorem Accounts.listed_perm (h : running.Accounts attempts) (user : String) :
  ((Table.listed user (Attempt.saves attempts)).map StoredPost.ofSave).Perm
    (running.stored.filter fun stored => stored.post.user == user)
  := by
  rw [h.stored, List.filter_map]
  apply (Table.listed_perm user _).map

theorem pairwise_listed (user : String) (saves : List Save) :
  ((Table.listed user saves).map StoredPost.ofSave).Pairwise StoredPost.ListedBefore
  := by
  rw [List.pairwise_map]
  apply (Table.pairwise_listed user saves).imp
  intro a b hbefore
  apply hbefore

/-- The rows of the store hold what was stored. -/
theorem Accounts.rows (h : running.Accounts attempts) :
  List.Forall₂ Row.Holds (Table.ofSaves (Attempt.saves attempts)).rows running.stored
  := by
  rw [h.stored, Table.ofSaves, List.forall₂_map_left_iff, List.forall₂_map_right_iff,
    List.forall₂_same]
  rintro ⟨save, id⟩ _
  exact ⟨rfl, rfl, (resultsText_raw _).symm, rfl, rfl⟩

/-- What was taken from the queue and then the queue are what was answered to users. -/
theorem Accounts.take_append_queue (h : running.Accounts attempts) :
  running.times.length + running.service.queue.length = running.accepted.length
  ∧ running.accepted.take running.times.length ++ running.service.queue.map PendingSave.post
    = running.accepted
  := by
  have htimes : running.times.length = (attempts.map Attempt.post).length := by
    rw [← h.times, List.length_map, List.length_map]
  constructor
  · rw [← h.accepted, List.length_append, htimes, List.length_map PendingSave.post]
  · rw [← h.accepted, htimes, List.take_left]

end

/-- Whatever order requests and saves come in, what was taken from the queue and then the queue are
the analyses that were answered to users, in the order of the answers.  Of what was taken, the store
holds each analysis once, with the text and the results of its exchange, unless a surrogate is in
the text.  A user who asks for the history gets what was stored for that user, the newest first;
without a user the answer is a refusal, and at no request for the history does the service fail. -/
theorem Reachable.history_exact {settings : Settings} {running : RunningService}
    (h : Reachable settings running) :
  (running.times.length + running.service.queue.length = running.accepted.length
    ∧ running.accepted.take running.times.length ++ running.service.queue.map PendingSave.post
      = running.accepted)
  ∧ (∃ store table, running.service.store = some store ∧ store.isOpen = true
    ∧ store.database = .table table ∧ List.Forall₂ Row.Holds table.rows running.stored)
  ∧ ∀ (fails : Bool) (nesting : Nat) (request : Request), request.path = "/api/history".toList →
      request.verb = "GET" →
    let response := (running.service.handle (.ofSettings settings fails nesting) request).2
    (request.user? = none → response = .error 401 "Authentication required")
    ∧ (∀ user, request.user? = some user → ∃ listed : List StoredPost,
      response = .ok (.object [("history", .array (listed.map StoredPost.toJson))])
      ∧ listed.Perm (running.stored.filter fun stored => stored.post.user == user)
      ∧ listed.Pairwise StoredPost.ListedBefore)
    ∧ response.status ≠ 500
  := by
  obtain ⟨attempts, haccounts⟩ := h.accounts
  refine ⟨haccounts.take_append_queue, ?_, ?_⟩
  · obtain ⟨store, hstore, -, htable⟩ := haccounts.stores
    obtain ⟨hopen, hdatabase⟩ := Store.table?_eq_ok_iff.mp htable
    exact ⟨store, _, hstore, hopen, hdatabase, haccounts.rows⟩
  · intro fails nesting request hpath hverb response
    have hresponse : response = (running.service.getHistory request).2 := by
      rw [← Service.handle_history hpath hverb]
    rw [hresponse]
    cases huser : request.user? with
    | none =>
      rw [Service.getHistory_of_user?_eq_none huser]
      refine ⟨fun _ => rfl, ?_, ?_⟩
      · rintro user ⟨⟩
      · have hstatus : 401 ≠ 500 := by decide
        apply hstatus
    | some user =>
      rw [haccounts.getHistory huser]
      refine ⟨?_, ?_, ?_⟩
      · rintro ⟨⟩
      · rintro _ ⟨⟩
        exact ⟨_, rfl, haccounts.listed_perm user, pairwise_listed user _⟩
      · intro hstatus
        cases hstatus

/-- A request of a user to analyse a text. -/
def analysisRequest (user source : String) : Request where
  method := "POST"
  target := "/api/analyze"
  headers := [("X-User-Id", user)]
  contentType := some "application/json"
  body := ("\x7b\"sourceCode\": \"" ++ source ++ "\"\x7d").toList.map Char.toNat

/-- A run in which two users take turns, one text has no encoding, and the last analysis waits in
the queue. -/
def twoUsers : RunningService :=
  fresh
    |>.respond {} false 9 (analysisRequest "ada" "contract A \x7b\x7d")
    |>.respond {} false 9 (analysisRequest "ada" "\\ud800")
    |>.respond {} false 9 (analysisRequest " bob " "contract B \x7b\x7d")
    |>.storeOldest { shows := fun _ => "2024-01-02" }
    |>.respond {} false 9 (analysisRequest "ada " "no declaration")
    |>.storeOldest { shows := fun _ => "2024-01-01" }
    |>.storeOldest { shows := fun _ => "2024-01-01" }
    |>.storeOldest { shows := fun _ => "2024-01-01" }
    |>.respond {} true 9 (analysisRequest "ada" "contract C \x7b\x7d")
    |>.respond {} false 9 (analysisRequest "ada" "contract D \x7b\x7d")

theorem Reachable.history_exact_twoUsers :
  Reachable {} twoUsers
  ∧ twoUsers.stored.map
      (fun stored => (stored.id, stored.post.source.faceString, stored.post.user))
    = [(1, "contract A \x7b\x7d", "ada"), (2, "contract B \x7b\x7d", "bob"),
      (3, "no declaration", "ada")]
  ∧ twoUsers.service.queue.map (fun pending => pending.source.faceString)
    = ["contract D \x7b\x7d"]
  ∧ ∃ listed : List StoredPost,
    (twoUsers.service.handle (.ofSettings {} false 9)
        { target := "/api/history", headers := [("x-user-id", " ada")] }).2
      = .ok (.object [("history", .array (listed.map StoredPost.toJson))])
    ∧ listed.Perm (twoUsers.stored.filter fun stored => stored.post.user == "ada")
    ∧ listed.Pairwise StoredPost.ListedBefore
  := by
  have hreachable : Reachable {} twoUsers := by
    apply Relation.ReflTransGen.refl
      |>.tail (.respond _ _ _ _)
      |>.tail (.respond _ _ _ _)
      |>.tail (.respond _ _ _ _)
      |>.tail (.storeOldest _ (by decide +kernel))
      |>.tail (.respond _ _ _ _)
      |>.tail (.storeOldest _ (by decide +kernel))
      |>.tail (.storeOldest _ (by decide +kernel))
      |>.tail (.storeOldest _ (by decide +kernel))
      |>.tail (.respond _ _ _ _)
      |>.tail (.respond _ _ _ _)
  refine ⟨hreachable, by decide +kernel, by decide +kernel, ?_⟩
  obtain ⟨-, -, hhistory⟩ := hreachable.history_exact
  obtain ⟨-, hlisted, -⟩ :=
    hhistory false 9 { target := "/api/history", headers := [("x-user-id", " ada")] }
      (by decide +kernel) (by decide +kernel)
  apply hlisted "ada" (by decide +kernel)

/-- A run in which the only analysis has a text without an encoding. -/
def loneSurrogate : RunningService :=
  fresh
    |>.respond {} false 9 (analysisRequest "ada" "\\ud800")
    |>.storeOldest { shows := fun _ => "2024-01-01" }

/-- An analysis was answered to a user and taken from the queue, and yet it is not in the history of
that user. -/
theorem Reachable.history_loneSurrogate :
  Reachable {} loneSurrogate
  ∧ loneSurrogate.accepted.map (fun post => (post.source, post.user))
    = [(RawText.loneSurrogate, "ada")]
  ∧ loneSurrogate.service.queue.length = 0
  ∧ (loneSurrogate.service.handle (.ofSettings {} false 9)
      { target := "/api/history", headers := [("X-User-Id", "ada")] }).2
    = .ok (.object [("history", .array [])])
  := by
  have hreachable : Reachable {} loneSurrogate := by
    apply Relation.ReflTransGen.refl
      |>.tail (.respond _ _ _ _)
      |>.tail (.storeOldest _ (by decide +kernel))
  refine ⟨hreachable, by decide +kernel, by decide +kernel, ?_⟩
  have hstored : loneSurrogate.stored = [] := by
    apply List.eq_nil_of_length_eq_zero
    decide +kernel
  obtain ⟨attempts, haccounts⟩ := hreachable.accounts
  have hlisted := haccounts.listed_perm "ada"
  rw [hstored, List.filter_nil, List.perm_nil] at hlisted
  rw [Service.handle_history (by decide +kernel) (by decide +kernel),
    haccounts.getHistory (by decide +kernel : _ = some "ada"), hlisted]
  rfl

end RunningService

end ContractLint
