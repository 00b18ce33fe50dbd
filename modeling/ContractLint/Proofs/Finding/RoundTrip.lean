import ContractLint.Finding.Wire
import ContractLint.Proofs.Path.RoundTrip

/-!
# Findings and their wire forms

A finding with an identifier is read back from its wire form as it was, but for an empty snippet,
which is left out of the wire form.  A finding without one is not read back: no other key of the
wire form stands for the identifier.  Reading back changes no wire form, so that an accepted value
in an older spelling is brought into the wire form once and for all.
-/

namespace ContractLint

/-! ### Fields of the wire form -/

theorem Json.lookup?_eq_none_iff {key : String} {fields : List (String × Json)} :
  Json.lookup? key fields = none ↔ ∀ field ∈ fields, field.1 ≠ key
  := by
  induction fields with
  | nil => simp [Json.lookup?]
  | cons field fields ih =>
    obtain ⟨name, value⟩ := field
    rw [Json.lookup?, List.forall_mem_cons, ← ih]
    by_cases h : name = key
    · simp [h]
    · simp [h]

/-- The location as it is read back: an empty snippet is missing. -/
def Location.readBack (location : Location) : Location :=
  { location with snippet := location.snippet.filter (· != "") }

namespace Finding

variable (finding : Finding)

/-- The fields that every wire form has. -/
def requiredFields : List (String × Json) :=
  [("severity", .string finding.severity.name),
    ("message", .string finding.message),
    ("line", .nat finding.location.line.number),
    ("column", .nat finding.location.column.number),
    ("ruleId", .string finding.ruleId),
    ("description", .string finding.description),
    ("recommendation", .string finding.recommendation)]

/-- The wire form has a field for a path, and one for a snippet that is not empty. -/
theorem wireFields_eq :
  finding.wireFields = finding.requiredFields
    ++ (finding.location.path.map fun path => ("path", Json.string (toString path))).toList
    ++ (finding.location.readBack.snippet.map
      fun snippet => ("snippet", Json.string snippet)).toList
  := by
  rw [wireFields, Location.readBack]
  congr 1
  · congr 1
    cases finding.location.path with
    | none => rfl
    | some path => rfl
  · cases finding.location.snippet with
    | none => rfl
    | some snippet =>
      by_cases hsnippet : snippet = ""
      · subst hsnippet
        rfl
      · rw [Option.filter_some_pos (by simpa using hsnippet)]
        grind

theorem lookup?_path_wireFields :
  Json.lookup? "path" finding.wireFields
    = finding.location.path.map fun path => .string (toString path)
  := by
  rw [wireFields_eq]
  cases finding.location.path with
  | some path => rfl
  | none =>
    cases finding.location.readBack.snippet with
    | some snippet => rfl
    | none => rfl

theorem lookup?_snippet_wireFields :
  Json.lookup? "snippet" finding.wireFields = finding.location.readBack.snippet.map .string
  := by
  rw [wireFields_eq]
  cases finding.location.path with
  | some path =>
    cases finding.location.readBack.snippet with
    | some snippet => rfl
    | none => rfl
  | none =>
    cases finding.location.readBack.snippet with
    | some snippet => rfl
    | none => rfl

/-- The keys of wire forms. -/
def wireKeys : List String :=
  ["severity", "message", "line", "column", "ruleId", "description", "recommendation", "path",
    "snippet"]

theorem mem_wireKeys {field : String × Json} (h : field ∈ finding.wireFields) :
  field.1 ∈ wireKeys
  := by
  rw [wireFields_eq, List.mem_append, List.mem_append, Option.mem_toList, Option.mem_toList,
    Option.map_eq_some_iff, Option.map_eq_some_iff] at h
  obtain (hrequired | ⟨path, -, rfl⟩) | ⟨snippet, -, rfl⟩ := h
  · have hkeys : ∀ field ∈ finding.requiredFields, field.1 ∈ wireKeys := by
      simp [requiredFields, wireKeys]
    apply hkeys field hrequired
  · simp [wireKeys]
  · simp [wireKeys]

/-- Findings have no other fields. -/
theorem lookup?_wireFields_eq_none {key : String} (h : key ∉ wireKeys) :
  Json.lookup? key finding.wireFields = none
  := by
  apply Json.lookup?_eq_none_iff.mpr
  rintro field hfield rfl
  apply h (finding.mem_wireKeys hfield)

/-! ### Reading back -/

/-- The identifier is read back, if there is one. -/
theorem readRule_wireFields (h : finding.ruleId ≠ "") :
  readRule finding.wireFields = .ok (.string finding.ruleId)
  := by
  have hrule : Json.lookup? "ruleId" finding.wireFields = some (.string finding.ruleId) := rfl
  have hgiven : (some (Json.string finding.ruleId)).filter Json.isTruthy
      = some (.string finding.ruleId) :=
    Option.filter_some_pos (by simpa [Json.isTruthy] using h)
  simp [readRule, hrule, hgiven]

/-- An empty identifier does not count as given, and the wire form has no other key for one. -/
theorem readRule_wireFields_of_empty (h : finding.ruleId = "") :
  readRule finding.wireFields = .error (.missing "rule_id")
  := by
  have hrule : Json.lookup? "ruleId" finding.wireFields = some (.string "") := by
    rw [← h]
    rfl
  have hgiven : (some (Json.string "")).filter Json.isTruthy = none := rfl
  have hold : Json.lookup? "rule" finding.wireFields = none :=
    finding.lookup?_wireFields_eq_none (by decide)
  have hoption : Json.lookup? "rule_id" finding.wireFields = none :=
    finding.lookup?_wireFields_eq_none (by decide)
  simp [readRule, hrule, hgiven, hold, hoption]

theorem readSeverity_wireFields :
  readSeverity finding.wireFields = .ok finding.severity
  := by
  have hseverity : Json.lookup? "severity" finding.wireFields
      = some (.string finding.severity.name) := rfl
  simp [readSeverity, hseverity, Severity.ofName?_name]

theorem readPath_map_toString (path : Option Path) :
  readPath ((path.map fun path => Json.string (toString path)).getD .null) = .ok path
  := by
  cases path with
  | none => rfl
  | some path =>
    rw [Option.map_some, Option.getD_some, readPath, Path.ofString_toString]

theorem readSnippet_map_string (snippet : Option String) :
  readSnippet ((snippet.map Json.string).getD .null) = .ok snippet
  := by cases snippet <;> rfl

/-- The location is read back, but for an empty snippet. -/
theorem readLocation_wireFields :
  readLocation finding.wireFields = .ok finding.location.readBack
  := by
  have hline : readPosition ((Json.lookup? "line" finding.wireFields).getD (.nat 1))
      = .ok finding.location.line := rfl
  have hcolumn : readPosition ((Json.lookup? "column" finding.wireFields).getD (.nat 1))
      = .ok finding.location.column := rfl
  have hpath : readPath ((Json.lookup? "path" finding.wireFields).getD .null)
      = .ok finding.location.path := by
    rw [lookup?_path_wireFields, readPath_map_toString]
  have hsnippet : readSnippet ((Json.lookup? "snippet" finding.wireFields).getD .null)
      = .ok finding.location.readBack.snippet := by
    rw [lookup?_snippet_wireFields, readSnippet_map_string]
  rw [readLocation, hline, hcolumn, hpath, hsnippet]
  rfl

/-- The finding as it is read back from its wire form. -/
def readBack : Finding :=
  { finding with location := finding.location.readBack }

/-- A finding without an empty snippet is read back as it is. -/
theorem readBack_eq_self (h : finding.location.snippet ≠ some "") :
  finding.readBack = finding
  := by
  have hsnippet : finding.location.snippet.filter (· != "") = finding.location.snippet := by
    cases hsome : finding.location.snippet with
    | none => rfl
    | some snippet =>
      rw [Option.filter_some_pos]
      rw [bne_iff_ne]
      rintro rfl
      apply h hsome
  rw [readBack, Location.readBack, hsnippet]

/-- A finding with an identifier is read back from its wire form. -/
theorem ofJson_toJson (h : finding.ruleId ≠ "") :
  ofJson finding.toJson = .ok finding.readBack
  := by
  have hmessage : Json.lookup? "message" finding.wireFields = some (.string finding.message) :=
    rfl
  have hdescription : Json.lookup? "description" finding.wireFields
      = some (.string finding.description) := rfl
  have hrecommendation : Json.lookup? "recommendation" finding.wireFields
      = some (.string finding.recommendation) := rfl
  simp only [toJson, ofJson, ofFields, readRule_wireFields finding h, readSeverity_wireFields,
    readLocation_wireFields, hmessage, hdescription, hrecommendation, bind, Except.bind,
    Option.getD_some, readText]
  rfl

/-- A finding without an identifier is not read back from its wire form. -/
theorem ofJson_toJson_of_empty (h : finding.ruleId = "") :
  ofJson finding.toJson = .error (.missing "rule_id")
  := by
  rw [toJson, ofJson, ofFields, readRule_wireFields_of_empty finding h]
  rfl

/-- Reading a finding back does not change its wire form. -/
theorem toJson_readBack :
  finding.readBack.toJson = finding.toJson
  := by
  have hsnippet : finding.location.readBack.readBack.snippet
      = finding.location.readBack.snippet := by
    rw [Location.readBack, Location.readBack, Option.filter_filter]
    simp
  rw [toJson, toJson, wireFields_eq, wireFields_eq, readBack, hsnippet]
  rfl

/-- Findings with identifiers are read back from their wire forms, in order. -/
theorem ofJsonList_map_toJson {findings : List Finding}
    (h : ∀ finding ∈ findings, finding.ruleId ≠ "") :
  ofJsonList (findings.map toJson) = .ok (findings.map readBack)
  := by
  induction findings with
  | nil => rfl
  | cons finding findings ih =>
    rw [List.forall_mem_cons] at h
    rw [List.map_cons, ofJsonList, ofJson_toJson finding h.1, ih h.2]
    rfl

/-! ### Older spellings -/

/-- The wire form of the finding that a value stands for, perhaps in an older spelling. -/
def rewire (value : Json) : Except WireError Json :=
  (ofJson value).map toJson

/-- A value is written again exactly as the finding that it is read as. -/
theorem rewire_eq_ok_iff {value form : Json} :
  rewire value = .ok form ↔ ∃ finding, ofJson value = .ok finding ∧ finding.toJson = form
  := by
  rw [rewire]
  cases ofJson value with
  | error error => simp [Except.map]
  | ok finding => simp [Except.map]

/-- A finding is read back from its wire form exactly when it has an identifier, and then it is as
it was, but for an empty snippet, which is missing; without an identifier, the key that is looked
for last is reported as missing.  The wire form of any value that is accepted is accepted again and
stays as it is, as long as its identifier is not empty. -/
theorem ofJson_toJson_exact :
  (∀ finding : Finding,
      ((∃ read, ofJson finding.toJson = .ok read) ↔ finding.ruleId ≠ "")
      ∧ (finding.ruleId = "" → ofJson finding.toJson = .error (.missing "rule_id"))
      ∧ (finding.ruleId ≠ "" → ofJson finding.toJson
        = .ok { finding with location := { finding.location with
            snippet := finding.location.snippet.filter (· != "") } }))
    ∧ ∀ value form : Json, rewire value = .ok form →
      form.get? "ruleId" ≠ some (.string "") → rewire form = .ok form
  := by
  constructor
  · intro finding
    refine ⟨⟨?_, ?_⟩, ofJson_toJson_of_empty finding, ofJson_toJson finding⟩
    · rintro ⟨read, hread⟩ hempty
      rw [ofJson_toJson_of_empty finding hempty] at hread
      cases hread
    · intro hrule
      use finding.readBack
      apply ofJson_toJson finding hrule
  · intro value form hform hget
    obtain ⟨finding, -, rfl⟩ := rewire_eq_ok_iff.mp hform
    have hrule : finding.ruleId ≠ "" := by
      intro hempty
      apply hget
      rw [← hempty]
      rfl
    apply rewire_eq_ok_iff.mpr
    use finding.readBack, ofJson_toJson finding hrule
    apply toJson_readBack

/-- The identifier under an older key after an empty one, the line as a text, the column as a truth
value, a path with empty parts, an empty snippet and a key that nobody reads. -/
theorem ofJson_toJson_exact_olderSpelling :
  rewire (.object [("ruleId", .string ""), ("rule", .string "tx-origin"),
      ("severity", .string "high"), ("message", .string "m"), ("line", .string " +1_0.0 "),
      ("column", .bool true), ("path", .string "//a/./b//c/"), ("snippet", .string ""),
      ("note", .null)])
    = .ok (.object [("severity", .string "high"), ("message", .string "m"), ("line", .nat 10),
      ("column", .nat 1), ("ruleId", .string "tx-origin"), ("description", .string ""),
      ("recommendation", .string ""), ("path", .string "//a/b/c")])
    ∧ rewire (.object [("severity", .string "high"), ("message", .string "m"), ("line", .nat 10),
      ("column", .nat 1), ("ruleId", .string "tx-origin"), ("description", .string ""),
      ("recommendation", .string ""), ("path", .string "//a/b/c")])
    = .ok (.object [("severity", .string "high"), ("message", .string "m"), ("line", .nat 10),
      ("column", .nat 1), ("ruleId", .string "tx-origin"), ("description", .string ""),
      ("recommendation", .string ""), ("path", .string "//a/b/c")])
  := by
  have hform : rewire (.object [("ruleId", .string ""), ("rule", .string "tx-origin"),
      ("severity", .string "high"), ("message", .string "m"), ("line", .string " +1_0.0 "),
      ("column", .bool true), ("path", .string "//a/./b//c/"), ("snippet", .string ""),
      ("note", .null)])
    = .ok (.object [("severity", .string "high"), ("message", .string "m"), ("line", .nat 10),
      ("column", .nat 1), ("ruleId", .string "tx-origin"), ("description", .string ""),
      ("recommendation", .string ""), ("path", .string "//a/b/c")]) := rfl
  use hform
  apply ofJson_toJson_exact.2 _ _ hform
  simp [Json.get?, Json.lookup?]

end Finding

end ContractLint
