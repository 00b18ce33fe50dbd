import ContractLint.Proofs.Analysis.Catalogue

/-!
# The shape of an analysis

The analysis of a value has exactly one of five shapes: a single finding that the input is invalid,
that there is no contract, that the analysis failed or that there is nothing to report, or a list
of issues of high, medium or low severity.  Which one it is depends on the value and the settings
alone:

* the analysis fails exactly when there is no window and a function and a line both report
  reentrancy;
* there is nothing to report exactly when nothing was detected, so that this finding never stands
  beside an issue.
-/

namespace ContractLint

open Text

/-! ### Findings of the contract -/

/-- A preamble has no findings exactly when none of its lines exposes state. -/
theorem Layout.preambleFindings_eq_nil_iff {source : Source} {layout : Layout} :
  layout.preambleFindings source = []
    ↔ ∀ entry ∈ layout.preamble, ¬ Signature.exposesState entry.1 = true
  := by rw [Layout.preambleFindings, List.map_eq_nil_iff, List.filter_eq_nil_iff]

/-- The functions have no findings exactly when no check fails in any of them. -/
theorem Layout.functionFindings_eq_nil_iff {guards : List String} {source : Source}
    {layout : Layout} :
  layout.functionFindings guards source = []
    ↔ ∀ entry ∈ layout.functions, entry.1.issues guards = []
  := by simp [Layout.functionFindings, Function.findings]

theorem Function.id_ne_of_mem_unprotectedIssues {function : Function} {check : Check}
    (h : check ∈ function.unprotectedIssues) :
  check.id ≠ Rule.reentrancy.id
  := by
  rw [Function.unprotectedIssues, List.mem_append, Option.mem_toList, List.mem_ite_nil_right,
    List.mem_singleton] at h
  obtain hprivileged | ⟨-, rfl⟩ := h
  · unfold Check.privileged? at hprivileged
    split at hprivileged
    all_goals cases hprivileged
    all_goals decide
  · decide

/-- Of the checks of a function, the one with the identifier of reentrancy is failed when state is
written after a call. -/
theorem Function.exists_reentrancy_mem_issues_iff {function : Function} {guards : List String} :
  (∃ check ∈ function.issues guards, check.id = Rule.reentrancy.id)
    ↔ function.writesAfterCall = true
  := by
  constructor
  · rintro ⟨check, hcheck, hid⟩
    simp only [Function.issues, List.mem_append, List.mem_ite_nil_left, List.mem_ite_nil_right,
      List.mem_singleton] at hcheck
    obtain ((⟨-, rfl⟩ | ⟨-, rfl⟩) | ⟨hwrites, rfl⟩) | ⟨-, hunprotected⟩ := hcheck
    · apply absurd hid (by decide)
    · apply absurd hid (by decide)
    · apply hwrites
    · apply absurd hid (Function.id_ne_of_mem_unprotectedIssues hunprotected)
  · intro hwrites
    use Rule.reentrancy.toCheck
    simp [Function.issues, hwrites]

/-- The contract reports reentrancy exactly when one of its functions writes state after a call. -/
theorem exists_reentrancy_mem_reviewFindings_iff (settings : Settings) (source : Source)
    (layout : Layout) :
  (∃ finding ∈ reviewFindings settings source layout, finding.ruleId = Rule.reentrancy.id)
    ↔ ∃ entry ∈ layout.functions, entry.1.writesAfterCall = true
  := by
  constructor
  · rintro ⟨finding, hfinding, hid⟩
    obtain hpreamble | hfunction := List.mem_append.mp hfinding
    · obtain ⟨entry, -, rfl⟩ := List.mem_map.mp hpreamble
      apply absurd hid (by decide : Check.stateVisibility.id ≠ Rule.reentrancy.id)
    · obtain ⟨entry, hentry, hfinding⟩ := List.mem_flatMap.mp hfunction
      obtain ⟨check, hcheck, rfl⟩ := List.mem_map.mp hfinding
      use entry, hentry
      apply Function.exists_reentrancy_mem_issues_iff.mp
      use check, hcheck
      apply hid
  · rintro ⟨entry, hentry, hwrites⟩
    have hissue : ∃ check ∈ entry.1.issues settings.ownerGuards, check.id = Rule.reentrancy.id :=
      Function.exists_reentrancy_mem_issues_iff.mpr hwrites
    obtain ⟨check, hcheck, hid⟩ := hissue
    use check.findingAt (source.position entry.2) entry.1.snippet
    constructor
    · apply List.mem_append_right
      apply List.mem_flatMap.mpr
      use entry, hentry
      apply List.mem_map_of_mem hcheck
    · apply hid

/-! ### Findings of rules on lines -/

section
variable {settings : Settings} {text : Text}

/-- Every physical line has a number. -/
theorem exists_number_iff {p : Line → Bool} :
  (∃ number : Nat, (physicalLine? text number).any p = true)
    ↔ ∃ line ∈ physicalLines text, p line = true
  := by
  constructor
  · rintro ⟨number, h⟩
    obtain ⟨line, hline, hp⟩ := (Option.any_eq_true _ _).mp h
    cases number with
    | zero => cases hline
    | succ index => use line, List.mem_of_getElem? hline
  · rintro ⟨line, hmem, hp⟩
    obtain ⟨index, hindex⟩ := List.mem_iff_getElem?.mp hmem
    use index + 1
    rw [physicalLine?, hindex]
    apply hp

/-- A rule that is on has a finding exactly when it flags a physical line. -/
theorem exists_ruleId_mem_lineFindings_iff {rule : Rule} (hrule : rule ∈ settings.enabledRules) :
  (∃ finding ∈ lineFindings settings.enabledRules (Source.ofText text), finding.ruleId = rule.id)
    ↔ ∃ line ∈ physicalLines text, rule.flags line = true
  := by
  rw [← exists_number_iff]
  simp only [← exists_mem_lineFindings_iff hrule]
  constructor
  · rintro ⟨finding, hfinding, hid⟩
    use finding.line.number, finding, hfinding
  · rintro ⟨-, finding, hfinding, hid, -⟩
    use finding, hfinding

/-- A finding of a line is one of a rule that is on. -/
theorem exists_rule_of_mem_lineFindings {source : Source} {finding : Finding}
    (h : finding ∈ lineFindings settings.enabledRules source) :
  ∃ rule ∈ settings.enabledRules, finding.ruleId = rule.id ∧ finding.severity = rule.severity
  := by
  obtain ⟨index, line, -, hreport⟩ := mem_lineFindings_iff.mp h
  obtain ⟨-, rule, hrule, -, rfl⟩ := mem_lineReport_iff.mp hreport
  use rule, hrule
  use rfl
  rfl

/-- Lines have no findings exactly when no rule that is on flags any of them. -/
theorem lineFindings_eq_nil_iff :
  lineFindings settings.enabledRules (Source.ofText text) = []
    ↔ ∀ rule ∈ settings.enabledRules, ∀ line ∈ physicalLines text, ¬ rule.flags line = true
  := by
  rw [List.eq_nil_iff_forall_not_mem]
  constructor
  · intro h rule hrule line hline hflags
    obtain ⟨finding, hfinding, -⟩ :=
      (exists_ruleId_mem_lineFindings_iff hrule).mpr ⟨line, hline, hflags⟩
    apply h finding hfinding
  · intro h finding hfinding
    obtain ⟨rule, hrule, hid, -⟩ := exists_rule_of_mem_lineFindings hfinding
    obtain ⟨line, hline, hflags⟩ :=
      (exists_ruleId_mem_lineFindings_iff hrule).mp ⟨finding, hfinding, hid⟩
    apply h rule hrule line hline hflags

/-- The findings of rules report reentrancy exactly when its rule is on and flags a physical
line. -/
theorem exists_reentrancy_mem_lineFindings_iff :
  (∃ finding ∈ lineFindings settings.enabledRules (Source.ofText text),
      finding.ruleId = Rule.reentrancy.id)
    ↔ Rule.reentrancy ∈ settings.enabledRules
      ∧ ∃ line ∈ physicalLines text, Rule.reentrancy.flags line = true
  := by
  constructor
  · rintro ⟨finding, hfinding, hid⟩
    obtain ⟨rule, hrule, hid', -⟩ := exists_rule_of_mem_lineFindings hfinding
    have hrule' : Rule.reentrancy = rule :=
      Rule.eq_of_id_eq List.mem_cons_self (Settings.mem_catalogue hrule) (hid.symm.trans hid')
    rw [← hrule'] at hrule
    use hrule
    apply (exists_ruleId_mem_lineFindings_iff hrule).mp
    use finding, hfinding
  · rintro ⟨hrule, hflags⟩
    apply (exists_ruleId_mem_lineFindings_iff hrule).mpr hflags

end

/-! ### Merging -/

section
variable {settings : Settings} {text : Text} {layout : Layout}

/-- A function and a line both report reentrancy. -/
def ReentrancyTwice (settings : Settings) (text : Text) (layout : Layout) : Prop :=
  (∃ entry ∈ layout.functions, entry.1.writesAfterCall = true)
    ∧ Rule.reentrancy ∈ settings.enabledRules
    ∧ ∃ line ∈ physicalLines text, Rule.reentrancy.flags line = true

/-- The contract and the rules share no kind of finding but reentrancy. -/
theorem sharesKind_iff :
  sharesKind (reviewFindings settings (Source.ofText text) layout)
      (lineFindings settings.enabledRules (Source.ofText text)) = true
    ↔ ReentrancyTwice settings text layout
  := by
  rw [ReentrancyTwice, ← exists_reentrancy_mem_reviewFindings_iff settings (Source.ofText text),
    ← exists_reentrancy_mem_lineFindings_iff]
  simp only [sharesKind, List.any_eq_true, beq_iff_eq]
  constructor
  · rintro ⟨candidate, hcandidate, finding, hfinding, hid⟩
    have hreentrancy : candidate.ruleId = Rule.reentrancy.id := by
      by_contra hne
      obtain ⟨rule, hrule, hrid, -⟩ := exists_rule_of_mem_lineFindings hcandidate
      rw [hrid] at hid hne
      apply ruleId_ne_of_mem_reviewFindings hfinding (Settings.mem_catalogue hrule) hne hid
    constructor
    · use finding, hfinding, hid.trans hreentrancy
    · use candidate, hcandidate
  · rintro ⟨⟨finding, hfinding, hid⟩, ⟨candidate, hcandidate, hid'⟩⟩
    use candidate, hcandidate, finding, hfinding, hid.trans hid'.symm

/-- There is no merged list exactly when there is no window and reentrancy is reported twice. -/
theorem merge?_eq_none_iff :
  merge? settings.window (reviewFindings settings (Source.ofText text) layout)
      (lineFindings settings.enabledRules (Source.ofText text)) = none
    ↔ settings.window = none ∧ ReentrancyTwice settings text layout
  := by
  rw [← sharesKind_iff]
  cases settings.window with
  | some window => simp [merge?]
  | none => simp [merge?]

/-- A merge is empty exactly when there was nothing to merge. -/
theorem merge_eq_nil_iff {window : Int} {existing candidates : List Finding} :
  merge window existing candidates = [] ↔ existing = [] ∧ candidates = []
  := by
  rw [merge_eq_append, List.append_eq_nil_iff]
  apply and_congr_right
  rintro rfl
  simp [keptCandidates]

theorem merge?_eq_some_nil_iff {window : Option Int} {existing candidates merged : List Finding}
    (h : merge? window existing candidates = some merged) :
  merged = [] ↔ existing = [] ∧ candidates = []
  := by
  cases window with
  | some window =>
    cases h
    apply merge_eq_nil_iff
  | none =>
    rw [merge?, Option.ite_none_left_eq_some] at h
    obtain ⟨-, h⟩ := h
    cases h
    apply List.append_eq_nil_iff

/-- Merging brings no findings of its own, if it succeeds. -/
theorem mem_of_mem_merge? {window : Option Int} {existing candidates merged : List Finding}
    (h : merge? window existing candidates = some merged) {finding : Finding}
    (hfinding : finding ∈ merged) :
  finding ∈ existing ∨ finding ∈ candidates
  := by
  cases window with
  | some window =>
    cases h
    apply mem_merge hfinding
  | none =>
    rw [merge?, Option.ite_none_left_eq_some] at h
    obtain ⟨-, h⟩ := h
    cases h
    apply List.mem_append.mp hfinding

end

/-! ### Severities -/

/-- The severities of issues, as opposed to those of outcomes. -/
def Severity.ofIssues : List Severity :=
  [.high, .medium, .low]

section
variable {settings : Settings} {source : Source} {layout : Layout} {finding : Finding}

theorem severity_of_mem_reviewFindings (h : finding ∈ reviewFindings settings source layout) :
  finding.severity ∈ Severity.ofIssues
  := by
  have hseverities : ∀ check ∈ Check.reviewChecks, check.severity ∈ Severity.ofIssues := by decide
  obtain ⟨check, hcheck, position, snippet, rfl⟩ := exists_mem_reviewChecks h
  apply hseverities check hcheck

theorem severity_of_mem_lineFindings (h : finding ∈ lineFindings settings.enabledRules source) :
  finding.severity ∈ Severity.ofIssues
  := by
  have hseverities : ∀ rule ∈ Rule.catalogue, rule.severity ∈ Severity.ofIssues := by decide
  obtain ⟨rule, hrule, -, hseverity⟩ := exists_rule_of_mem_lineFindings h
  rw [hseverity]
  apply hseverities rule (Settings.mem_catalogue hrule)

/-- A finding with the severity of an issue does more than inform. -/
theorem not_isInfo_of_severity (h : finding.severity ∈ Severity.ofIssues) :
  ¬ finding.isInfo = true
  := by
  intro hinfo
  rw [eq_of_beq hinfo] at h
  revert h
  decide

@[simp]
theorem Finding.severity_inFile (path : Option Path) (finding : Finding) :
  (finding.inFile path).severity = finding.severity
  := by cases path <;> rfl

end

/-! ### Identifiers -/

/-- The identifiers of findings of a source: those of its outcomes, of the checks of the contract
and of the rules. -/
def Check.sourceIdentifiers : List String :=
  [Check.noContract, Check.internalError, Check.noIssues].map (·.id)
    ++ (Check.reviewChecks.map (·.id) ++ Rule.catalogue.map (·.id))

/-- The findings of a contract have identifiers of their own. -/
theorem ruleId_mem_of_mem_contractFindings {settings : Settings} {source : Source}
    {layout : Layout} {finding : Finding} (h : finding ∈ contractFindings settings source layout) :
  finding.ruleId ∈ Check.sourceIdentifiers
  := by
  rw [contractFindings] at h
  split at h
  · next merged hmerged =>
    obtain rfl | hmem := mem_conclude h
    · decide
    · apply List.mem_append_right
      obtain hreview | hline := mem_of_mem_merge? hmerged hmem
      · obtain ⟨check, hcheck, position, snippet, rfl⟩ := exists_mem_reviewChecks hreview
        apply List.mem_append_left
        apply List.mem_map_of_mem hcheck
      · obtain ⟨rule, hrule, hid, -⟩ := exists_rule_of_mem_lineFindings hline
        rw [hid]
        apply List.mem_append_right
        apply List.mem_map_of_mem (Settings.mem_catalogue hrule)
  · rw [List.mem_singleton.mp h]
    decide

/-- The findings of a source have identifiers of their own. -/
theorem ruleId_mem_of_mem_sourceFindings {settings : Settings} {source : Source}
    {finding : Finding} (h : finding ∈ sourceFindings settings source) :
  finding.ruleId ∈ Check.sourceIdentifiers
  := by
  rw [sourceFindings] at h
  split at h
  · apply ruleId_mem_of_mem_contractFindings h
  · rw [List.mem_singleton.mp h]
    decide

/-- Every finding has an identifier. -/
theorem ruleId_ne_empty_of_mem_textFindings {settings : Settings} {text : Text}
    {finding : Finding} (h : finding ∈ textFindings settings text) :
  finding.ruleId ≠ ""
  := by
  have hidentifiers : "" ∉ Check.sourceIdentifiers := by decide
  rw [textFindings] at h
  split at h
  · rw [List.mem_singleton.mp h]
    decide
  · intro hempty
    apply hidentifiers
    rw [← hempty]
    apply ruleId_mem_of_mem_sourceFindings h

/-- All findings of an analysis have an identifier. -/
theorem ruleId_ne_empty_of_mem_analyzeValue {settings : Settings} {path : Option Path}
    {value : Json} {finding : Finding} (h : finding ∈ analyzeValue settings path value) :
  finding.ruleId ≠ ""
  := by
  rw [analyzeValue.eq_def] at h
  split at h
  · obtain ⟨finding, hmem, rfl⟩ := exists_of_mem_analyze h
    rw [Finding.ruleId_inFile]
    apply ruleId_ne_empty_of_mem_textFindings hmem
  · rw [placeIn_eq_map, List.map_singleton, List.mem_singleton] at h
    rw [h, Finding.ruleId_inFile]
    decide

/-! ### Shapes -/

/-- The shapes of an analysis. -/
inductive Shape where
  | invalidInput
  | noContract
  | internalError
  | noIssues
  | issues
  deriving DecidableEq

namespace Shape

/-- The outcome that a shape shows, unless it shows issues. -/
def outcome? : Shape → Option Check
  | .invalidInput => some Check.invalidInput
  | .noContract => some Check.noContract
  | .internalError => some Check.internalError
  | .noIssues => some Check.noIssues
  | .issues => none

/-- Findings have a shape: they are the one finding of an outcome, or issues. -/
def Fits (path : Option Path) (findings : List Finding) (shape : Shape) : Prop :=
  match shape.outcome? with
  | some check => findings = placeIn path [check.outcome]
  | none => findings ≠ [] ∧ ∀ finding ∈ findings, finding.severity ∈ Severity.ofIssues

/-- A value is no text, or a blank one. -/
def IsInvalid (value : Json) : Prop :=
  ∀ text : String, value = .string text → ∀ c ∈ text.toList, isBlank c = true

/-- A value is a text that is not blank and of which no line, trimmed, declares a contract. -/
def LacksContract (value : Json) : Prop :=
  ∃ text : String, value = .string text ∧ (∃ c ∈ text.toList, ¬ isBlank c = true)
    ∧ ∀ line ∈ canonicalLines text.toList, ¬ Signature.isContractDeclaration line = true

/-- A value is a text with a contract, there is no window, and a function and a line both report
reentrancy. -/
def CannotMerge (settings : Settings) (value : Json) : Prop :=
  ∃ (text : String) (layout : Layout), value = .string text
    ∧ Layout.ofLines? (Source.ofText text.toList).lines = some layout
    ∧ settings.window = none ∧ ReentrancyTwice settings text.toList layout

/-- Nothing is detected in a text with a contract: no line of the preamble exposes state, no
function fails a check, and no rule that is on flags a line. -/
def IsClean (settings : Settings) (value : Json) : Prop :=
  ∀ (text : String) (layout : Layout), value = .string text →
    Layout.ofLines? (Source.ofText text.toList).lines = some layout →
    (∀ entry ∈ layout.preamble, ¬ Signature.exposesState entry.1 = true)
      ∧ (∀ entry ∈ layout.functions, entry.1.issues settings.ownerGuards = [])
      ∧ ∀ rule ∈ settings.enabledRules, ∀ line ∈ physicalLines text.toList,
        ¬ rule.flags line = true

/-- The analysis of a value with some settings must have a shape. -/
def Demanded (settings : Settings) (value : Json) : Shape → Prop
  | .invalidInput => IsInvalid value
  | .noContract => LacksContract value
  | .internalError => CannotMerge settings value
  | .noIssues => ¬ IsInvalid value ∧ ¬ LacksContract value ∧ ¬ CannotMerge settings value
    ∧ IsClean settings value
  | .issues => ¬ IsInvalid value ∧ ¬ LacksContract value ∧ ¬ CannotMerge settings value
    ∧ ¬ IsClean settings value

/-! ### Findings have one shape -/

/-- The outcome of an analysis tells its shape. -/
theorem eq_of_outcome?_id {a b : Shape}
    (h : a.outcome?.map Check.id = b.outcome?.map Check.id) :
  a = b
  := by
  revert h
  cases a
  all_goals cases b
  all_goals decide

theorem severity_of_outcome? {shape : Shape} {check : Check} (h : shape.outcome? = some check) :
  check.severity ∉ Severity.ofIssues
  := by
  cases shape
  all_goals cases h
  all_goals decide

/-- The shape of findings can be read off the first of them that is no issue. -/
theorem Fits.outcome?_id {path : Option Path} {findings : List Finding} {shape : Shape}
    (h : shape.Fits path findings) :
  shape.outcome?.map Check.id
    = (findings.find? fun finding => finding.severity ∉ Severity.ofIssues).map Finding.ruleId
  := by
  rw [Fits] at h
  cases hcheck : shape.outcome? with
  | none =>
    rw [hcheck] at h
    obtain ⟨-, hseverities⟩ := h
    rw [List.find?_eq_none.mpr]
    · rfl
    · simpa using hseverities
  | some check =>
    rw [hcheck] at h
    have hseverity : (check.outcome.inFile path).severity ∉ Severity.ofIssues := by
      rw [Finding.severity_inFile]
      apply severity_of_outcome? hcheck
    rw [h, placeIn_eq_map, List.map_singleton, List.find?_singleton,
      if_pos (by simpa using hseverity), Option.map_some, Option.map_some, Finding.ruleId_inFile]
    rfl

/-- Findings have at most one shape. -/
theorem Fits.unique {path : Option Path} {findings : List Finding} {a b : Shape}
    (ha : a.Fits path findings) (hb : b.Fits path findings) :
  a = b
  := eq_of_outcome?_id (ha.outcome?_id.trans hb.outcome?_id.symm)

/-- No analysis is empty. -/
theorem Fits.ne_nil {path : Option Path} {findings : List Finding} {shape : Shape}
    (h : shape.Fits path findings) :
  findings ≠ []
  := by
  rw [Fits] at h
  cases hcheck : shape.outcome? with
  | none =>
    rw [hcheck] at h
    apply h.1
  | some check =>
    rw [hcheck] at h
    rw [h, placeIn_eq_map]
    apply List.cons_ne_nil

/-! ### The shape that is demanded -/

/-- Some shape is demanded of every analysis. -/
theorem exists_demanded (settings : Settings) (value : Json) :
  ∃ shape : Shape, shape.Demanded settings value
  := by
  by_cases hinvalid : IsInvalid value
  · use .invalidInput
    apply hinvalid
  by_cases hlacks : LacksContract value
  · use .noContract
    apply hlacks
  by_cases hmerge : CannotMerge settings value
  · use .internalError
    apply hmerge
  by_cases hclean : IsClean settings value
  · use .noIssues
    use hinvalid, hlacks, hmerge
  · use .issues
    use hinvalid, hlacks, hmerge

/-- A blank text is no valid input. -/
theorem textFindings_of_isBlank {settings : Settings} {text : Text}
    (h : ∀ c ∈ text, isBlank c = true) :
  textFindings settings text = [Check.invalidInput.outcome]
  := by rw [textFindings, if_pos (by simp [trim_eq_nil_iff.mpr h])]

theorem analyzeValue_of_isInvalid {settings : Settings} {path : Option Path} {value : Json}
    (h : IsInvalid value) :
  analyzeValue settings path value = placeIn path [Check.invalidInput.outcome]
  := by
  cases value with
  | string text => rw [analyzeValue, analyze, textFindings_of_isBlank (h text rfl)]
  | _ => rfl

/-- A text has no layout exactly when none of its lines declares a contract. -/
theorem ofLines?_eq_none_iff_canonicalLines {text : Text} :
  Layout.ofLines? (Source.ofText text).lines = none
    ↔ ∀ line ∈ canonicalLines text, ¬ Signature.isContractDeclaration line = true
  := by
  constructor
  · intro hnone line hmem hdeclares
    obtain ⟨layout, hlayout⟩ := exists_layout_of_canonicalLines ⟨line, hmem, hdeclares⟩
    rw [hnone] at hlayout
    cases hlayout
  · intro h
    apply Layout.ofLines?_eq_none_iff.mpr
    intro line hline
    obtain ⟨index, hindex⟩ := List.mem_iff_getElem?.mp hline
    apply h
    apply List.mem_of_getElem? (Source.getElem?_canonicalLines hindex)

/-- A text without a contract is told apart from all others. -/
theorem analyzeValue_of_lacksContract {settings : Settings} {path : Option Path} {value : Json}
    (h : LacksContract value) :
  analyzeValue settings path value = placeIn path [Check.noContract.outcome]
  := by
  obtain ⟨text, rfl, ⟨c, hc, hblank⟩, hnone⟩ := h
  have htrim : trim text.toList ≠ [] := by
    intro hnil
    apply hblank (trim_eq_nil_iff.mp hnil c hc)
  rw [analyzeValue, analyze, textFindings, if_neg (by simpa using htrim), sourceFindings,
    ofLines?_eq_none_iff_canonicalLines.mpr hnone]

/-- A value that is neither invalid nor lacks a contract is a text with a layout. -/
theorem exists_layout {value : Json} (hinvalid : ¬ IsInvalid value)
    (hlacks : ¬ LacksContract value) :
  ∃ (text : String) (layout : Layout), value = .string text
    ∧ Layout.ofLines? (Source.ofText text.toList).lines = some layout
  := by
  simp only [IsInvalid, not_forall] at hinvalid
  obtain ⟨text, rfl, c, hc, hblank⟩ := hinvalid
  cases hlayout : Layout.ofLines? (Source.ofText text.toList).lines with
  | some layout => use text, layout
  | none =>
    apply absurd _ hlacks
    use text, rfl
    use ⟨c, hc, hblank⟩
    apply ofLines?_eq_none_iff_canonicalLines.mp hlayout

/-- The analysis of a text with a layout merges the findings of its lines into those of the
contract. -/
theorem analyzeValue_of_layout (settings : Settings) (path : Option Path) {text : String}
    {layout : Layout} (h : Layout.ofLines? (Source.ofText text.toList).lines = some layout) :
  analyzeValue settings path (.string text)
    = placeIn path (contractFindings settings (Source.ofText text.toList) layout)
  := by
  rw [analyzeValue, analyze, textFindings, if_neg (by simpa using trim_ne_nil_of_ofLines? h),
    sourceFindings, h]

/-- Findings that cannot be merged are an internal error. -/
theorem analyzeValue_of_cannotMerge {settings : Settings} {path : Option Path} {value : Json}
    (h : CannotMerge settings value) :
  analyzeValue settings path value = placeIn path [Check.internalError.outcome]
  := by
  obtain ⟨text, layout, rfl, hlayout, hmerge⟩ := h
  rw [analyzeValue_of_layout settings path hlayout, contractFindings, merge?_eq_none_iff.mpr hmerge]

/-- Nothing is detected exactly when there are no findings to merge. -/
theorem isClean_iff {settings : Settings} {text : String} {layout : Layout}
    (h : Layout.ofLines? (Source.ofText text.toList).lines = some layout) :
  IsClean settings (.string text)
    ↔ reviewFindings settings (Source.ofText text.toList) layout = []
      ∧ lineFindings settings.enabledRules (Source.ofText text.toList) = []
  := by
  rw [reviewFindings, List.append_eq_nil_iff, Layout.preambleFindings_eq_nil_iff,
    Layout.functionFindings_eq_nil_iff, lineFindings_eq_nil_iff, and_assoc]
  constructor
  · intro hclean
    apply hclean text layout rfl h
  · intro hnone text' layout' htext hlayout
    cases htext
    rw [h] at hlayout
    cases hlayout
    apply hnone

/-- What can be merged is merged. -/
theorem exists_merge? {settings : Settings} {text : String} {layout : Layout}
    (hlayout : Layout.ofLines? (Source.ofText text.toList).lines = some layout)
    (h : ¬ CannotMerge settings (.string text)) :
  ∃ merged, merge? settings.window (reviewFindings settings (Source.ofText text.toList) layout)
    (lineFindings settings.enabledRules (Source.ofText text.toList)) = some merged
  := by
  apply Option.ne_none_iff_exists'.mp
  intro hnone
  apply h
  use text, layout, rfl, hlayout
  apply merge?_eq_none_iff.mp hnone

/-- A contract without findings gives the outcome that there is nothing to report. -/
theorem fits_noIssues {settings : Settings} {path : Option Path} {value : Json}
    (h : Shape.noIssues.Demanded settings value) :
  analyzeValue settings path value = placeIn path [Check.noIssues.outcome]
  := by
  obtain ⟨hinvalid, hlacks, hmerge, hclean⟩ := h
  obtain ⟨text, layout, rfl, hlayout⟩ := exists_layout hinvalid hlacks
  obtain ⟨merged, hmerged⟩ := exists_merge? hlayout hmerge
  have hnil : merged = [] :=
    (merge?_eq_some_nil_iff hmerged).mpr ((isClean_iff hlayout).mp hclean)
  rw [analyzeValue_of_layout settings path hlayout, contractFindings, hmerged, hnil]
  rfl

/-- A contract with findings gives these. -/
theorem fits_issues {settings : Settings} {path : Option Path} {value : Json}
    (h : Shape.issues.Demanded settings value) :
  Shape.issues.Fits path (analyzeValue settings path value)
  := by
  obtain ⟨hinvalid, hlacks, hmerge, hclean⟩ := h
  obtain ⟨text, layout, rfl, hlayout⟩ := exists_layout hinvalid hlacks
  obtain ⟨merged, hmerged⟩ := exists_merge? hlayout hmerge
  have hne : merged ≠ [] := by
    intro hnil
    apply hclean
    apply (isClean_iff hlayout).mpr
    apply (merge?_eq_some_nil_iff hmerged).mp hnil
  have hseverities : ∀ finding ∈ merged, finding.severity ∈ Severity.ofIssues := by
    intro finding hfinding
    obtain hreview | hline := mem_of_mem_merge? hmerged hfinding
    · apply severity_of_mem_reviewFindings hreview
    · apply severity_of_mem_lineFindings hline
  have hconclude : conclude merged = merged := by
    obtain hsame | ⟨hnil, -⟩ :=
      conclude_eq_or fun finding hmem => not_isInfo_of_severity (hseverities finding hmem)
    · apply hsame
    · cases hne hnil
  have hfindings : analyzeValue settings path (.string text) = merged.map (·.inFile path) := by
    rw [analyzeValue_of_layout settings path hlayout, contractFindings, hmerged, placeIn_eq_map]
    apply congrArg (List.map (Finding.inFile path)) hconclude
  rw [hfindings]
  constructor
  · simpa using hne
  · intro finding hfinding
    obtain ⟨finding, hmem, rfl⟩ := List.mem_map.mp hfinding
    rw [Finding.severity_inFile]
    apply hseverities finding hmem

/-- The analysis has the shape that is demanded of it. -/
theorem Demanded.fits {settings : Settings} {value : Json} {shape : Shape}
    (h : shape.Demanded settings value) (path : Option Path) :
  shape.Fits path (analyzeValue settings path value)
  := by
  cases shape with
  | invalidInput => apply analyzeValue_of_isInvalid h
  | noContract => apply analyzeValue_of_lacksContract h
  | internalError => apply analyzeValue_of_cannotMerge h
  | noIssues => apply fits_noIssues h
  | issues => apply fits_issues h

end Shape

/-- The analysis of a value is never empty and has exactly one shape, which is the one that the
value and the settings demand: invalid input for a value that is no text or a blank one, no contract
for a text without a contract declaration, a failed analysis only without a window, nothing to
report if nothing is detected, and issues otherwise. -/
theorem analyzeValue_shape (settings : Settings) (path : Option Path) (value : Json) :
  analyzeValue settings path value ≠ []
    ∧ (∃! shape : Shape, shape.Fits path (analyzeValue settings path value))
    ∧ ∀ shape : Shape, shape.Fits path (analyzeValue settings path value)
      ↔ shape.Demanded settings value
  := by
  obtain ⟨shape, hdemanded⟩ := Shape.exists_demanded settings value
  have hfits := hdemanded.fits path
  refine ⟨hfits.ne_nil, ⟨shape, hfits, fun other hother => hother.unique hfits⟩, ?_⟩
  intro other
  constructor
  · intro hother
    rw [hother.unique hfits]
    apply hdemanded
  · intro hother
    apply hother.fits path

end ContractLint
