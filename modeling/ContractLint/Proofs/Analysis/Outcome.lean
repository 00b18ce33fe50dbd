import ContractLint.Analysis
import ContractLint.Proofs.Contract.Division
import ContractLint.Proofs.Source.Canonical

/-!
# The outcome of an analysis

What the analysis of a text can give when the settings have a window: one of the outcomes for the
text as a whole, or the findings of the preamble and of the functions followed by the findings of
rules that are merged into them.
-/

namespace ContractLint

open Text

/-! ### Files -/

/-- The finding with the file it came from, if there is one. -/
def Finding.inFile : Option Path → Finding → Finding
  | some path, finding => finding.withPath path
  | none, finding => finding

/-- Findings are placed in a file one by one. -/
theorem placeIn_eq_map (path : Option Path) (findings : List Finding) :
  placeIn path findings = findings.map (·.inFile path)
  := by
  cases path with
  | none =>
    symm
    apply List.map_id
  | some path => rfl

/-- Every finding of an analysis is a finding of its text. -/
theorem exists_of_mem_analyze {settings : Settings} {path : Option Path} {text : Text}
    {finding : Finding} (h : finding ∈ analyze settings path text) :
  ∃ found ∈ textFindings settings text, found.inFile path = finding
  := by
  rw [analyze, placeIn_eq_map] at h
  apply List.mem_map.mp h

section
variable (path : Option Path) (finding : Finding)

@[simp]
theorem Finding.ruleId_inFile :
  (finding.inFile path).ruleId = finding.ruleId
  := by cases path <;> rfl

@[simp]
theorem Finding.line_inFile :
  (finding.inFile path).line = finding.line
  := by cases path <;> rfl

@[simp]
theorem Finding.column_inFile :
  (finding.inFile path).location.column = finding.location.column
  := by cases path <;> rfl

@[simp]
theorem Finding.snippet_inFile :
  (finding.inFile path).location.snippet = finding.location.snippet
  := by cases path <;> rfl

end

/-! ### Rules on lines -/

/-- The findings of rules on one line at a position. -/
def lineReport (rules : List Rule) (line : Line) (position : Position) : List Finding :=
  if line.isEmpty then [] else rules.filterMap fun rule => rule.check? line position

/-- The findings of lines are the reports of the lines, one after the other. -/
theorem lineFindings_eq_flatMap (rules : List Rule) (source : Source) :
  lineFindings rules source
    = source.lines.zipIdx.flatMap fun entry => lineReport rules entry.1 (source.position entry.2)
  := rfl

/-- A line is reported by the rules that flag it, unless it is empty. -/
theorem mem_lineReport_iff {rules : List Rule} {line : Line} {position : Position}
    {finding : Finding} :
  finding ∈ lineReport rules line position
    ↔ line ≠ [] ∧ ∃ rule ∈ rules, rule.flags line = true
      ∧ rule.findingAt position (Rule.snippet line) = finding
  := by
  rw [lineReport]
  by_cases hline : line = []
  · simp [hline]
  · simp [hline, Rule.check?]

/-- The findings of rules on lines come from the rules that flag a line that is not empty. -/
theorem mem_lineFindings_iff {rules : List Rule} {source : Source} {finding : Finding} :
  finding ∈ lineFindings rules source
    ↔ ∃ (index : Nat) (line : Line), source.lines[index]? = some line
      ∧ finding ∈ lineReport rules line (source.position index)
  := by
  rw [lineFindings_eq_flatMap, List.mem_flatMap]
  constructor
  · rintro ⟨⟨line, index⟩, hmem, hfinding⟩
    use index, line, List.mk_mem_zipIdx_iff_getElem?.mp hmem
  · rintro ⟨index, line, hmem, hfinding⟩
    use (line, index), List.mk_mem_zipIdx_iff_getElem?.mpr hmem

/-! ### Checks of the contract -/

/-- The checks of the preamble and of the functions. -/
def Check.reviewChecks : List Check :=
  [Check.stateVisibility, Check.mutability, Check.payableValidation, Rule.reentrancy.toCheck,
    Check.unprotectedInit, Check.unprotectedUpgrade, Check.unprotectedWithdraw,
    Check.unprotectedSelfdestruct]

theorem Check.mem_reviewChecks_of_privileged? {name : String} {check : Check}
    (h : Check.privileged? name = some check) :
  check ∈ Check.reviewChecks
  := by
  unfold Check.privileged? at h
  split at h
  all_goals cases h
  all_goals simp [Check.reviewChecks]

/-- The checks of a function are among those that review a contract. -/
theorem Function.mem_reviewChecks {function : Function} {guards : List String} {check : Check}
    (h : check ∈ function.issues guards) :
  check ∈ Check.reviewChecks
  := by
  simp only [Function.issues, Function.unprotectedIssues, List.mem_append, List.mem_ite_nil_left,
    List.mem_ite_nil_right, List.mem_singleton, Option.mem_toList] at h
  obtain ((⟨-, rfl⟩ | ⟨-, rfl⟩) | ⟨-, rfl⟩) | ⟨-, hprivileged | ⟨-, rfl⟩⟩ := h
  · simp [Check.reviewChecks]
  · simp [Check.reviewChecks]
  · simp [Check.reviewChecks]
  · apply Check.mem_reviewChecks_of_privileged? hprivileged
  · simp [Check.reviewChecks]

/-- A finding of the contract as a whole comes from one of its checks. -/
theorem exists_mem_reviewChecks {settings : Settings} {source : Source} {layout : Layout}
    {finding : Finding} (h : finding ∈ reviewFindings settings source layout) :
  ∃ check ∈ Check.reviewChecks, ∃ (position : Position) (snippet : Option String),
    finding = check.findingAt position snippet
  := by
  obtain hpreamble | hfunction := List.mem_append.mp h
  · obtain ⟨⟨line, index⟩, -, rfl⟩ := List.mem_map.mp hpreamble
    use Check.stateVisibility
    constructor
    · simp [Check.reviewChecks]
    · use source.position index, some (String.ofList line)
  · obtain ⟨⟨function, index⟩, -, hfinding⟩ := List.mem_flatMap.mp hfunction
    obtain ⟨check, hcheck, rfl⟩ := List.mem_map.mp hfinding
    use check, Function.mem_reviewChecks hcheck, source.position index, function.snippet

/-! ### Merging -/

/-- The candidates that are near to none of the findings that are there. -/
def keptCandidates (window : Int) (existing candidates : List Finding) : List Finding :=
  candidates.filter fun candidate => !existing.any fun finding => finding.isNear window candidate

/-- The findings that are there stay, and the candidates that are kept come after them. -/
theorem merge_eq_append (window : Int) (existing candidates : List Finding) :
  merge window existing candidates = existing ++ keptCandidates window existing candidates
  := by
  -- the loop never reads what it has gathered
  have hloop (merged : List Finding) :
      candidates.foldl
          (fun merged candidate =>
            if existing.any fun finding => finding.isNear window candidate then merged
            else merged ++ [candidate])
          merged
        = merged ++ keptCandidates window existing candidates := by
    induction candidates generalizing merged with
    | nil => simp [keptCandidates]
    | cons candidate candidates ih =>
      rw [List.foldl_cons, ih, keptCandidates, keptCandidates, List.filter_cons]
      cases existing.any fun finding => finding.isNear window candidate
      · simp
      · rfl
  apply hloop

/-- Merging drops none of the findings that are there. -/
theorem mem_merge_of_mem {existing : List Finding} {finding : Finding} (h : finding ∈ existing)
    (window : Int) (candidates : List Finding) :
  finding ∈ merge window existing candidates
  := by
  rw [merge_eq_append]
  apply List.mem_append_left _ h

/-- Merging brings no findings of its own. -/
theorem mem_merge {window : Int} {existing candidates : List Finding} {finding : Finding}
    (h : finding ∈ merge window existing candidates) :
  finding ∈ existing ∨ finding ∈ candidates
  := by
  rw [merge_eq_append, List.mem_append] at h
  obtain h | h := h
  · left
    apply h
  · right
    apply List.mem_of_mem_filter h

theorem mem_conclude {findings : List Finding} {finding : Finding}
    (h : finding ∈ conclude findings) :
  finding = Check.noIssues.outcome ∨ finding ∈ findings
  := by
  rw [conclude] at h
  split at h
  · left
    apply List.mem_singleton.mp h
  · right
    apply h

/-! ### Texts -/

variable {settings : Settings} {window : Int} {text : Text} {layout : Layout}

/-- A text with a contract declaration is not blank. -/
theorem trim_ne_nil_of_ofLines? (h : Layout.ofLines? (Source.ofText text).lines = some layout) :
  trim text ≠ []
  := by
  intro hblank
  rw [Source.ofText_of_trim_eq_nil hblank] at h
  cases h

/-- The analysis of a text that is not blank is that of its source. -/
theorem analyze_of_exists (h : ∃ c ∈ text, ¬ isBlank c = true) (settings : Settings)
    (path : Option Path) :
  analyze settings path text
    = (sourceFindings settings (Source.ofText text)).map (·.inFile path)
  := by
  have htrim : ¬ (trim text).isEmpty = true := by
    rw [List.isEmpty_iff]
    apply trim_ne_nil_iff.mpr h
  rw [analyze, textFindings, if_neg htrim, placeIn_eq_map]

/-- The findings of a contract are merged from those of its review and those of its lines. -/
theorem textFindings_of_layout (hwindow : settings.window = some window)
    (h : Layout.ofLines? (Source.ofText text).lines = some layout) :
  textFindings settings text
    = conclude (merge window (reviewFindings settings (Source.ofText text) layout)
        (lineFindings settings.enabledRules (Source.ofText text)))
  := by
  rw [textFindings, if_neg (by simpa using trim_ne_nil_of_ofLines? h), sourceFindings, h]
  simp [contractFindings, hwindow, merge?]

/-- With a window, a finding of a text is the outcome for the text as a whole, or comes from the
contract or from a rule on a line. -/
theorem mem_textFindings (hwindow : settings.window = some window) {finding : Finding}
    (h : finding ∈ textFindings settings text) :
  finding ∈ [Check.invalidInput.outcome, Check.noContract.outcome, Check.noIssues.outcome]
    ∨ ∃ layout, Layout.ofLines? (Source.ofText text).lines = some layout
      ∧ (finding ∈ reviewFindings settings (Source.ofText text) layout
        ∨ finding ∈ lineFindings settings.enabledRules (Source.ofText text))
  := by
  by_cases hblank : trim text = []
  · left
    rw [textFindings, if_pos (by simp [hblank])] at h
    simp [List.mem_singleton.mp h]
  cases hlayout : Layout.ofLines? (Source.ofText text).lines with
  | none =>
    left
    rw [textFindings, if_neg (by simpa using hblank), sourceFindings, hlayout] at h
    simp [List.mem_singleton.mp h]
  | some layout =>
    rw [textFindings_of_layout hwindow hlayout] at h
    obtain rfl | hmem := mem_conclude h
    · left
      simp
    · right
      use layout, rfl
      apply mem_merge hmem

end ContractLint
