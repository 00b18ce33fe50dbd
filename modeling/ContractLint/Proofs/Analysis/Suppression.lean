import Mathlib.Algebra.Order.Ring.Int
import ContractLint.Proofs.Analysis.Shape
import ContractLint.Proofs.Report.ExitCode

/-!
# Suppressed findings

Reentrancy is the one kind of finding that both the functions and the lines of a contract report,
so it is the one kind of which the merge drops anything.

* A line that is flagged is never without a report: its finding stays, or there is one at most a
  window away.
* No finding of a line stays within a window of one of a function.
* A finding that is dropped is as severe as the one it gives way to, so that the window does not
  decide whether a run fails.
-/

namespace ContractLint

open Text

/-! ### Distances -/

theorem Position.distance_eq_abs (a b : Position) :
  (a.distance b : Int) = |(a.number : Int) - (b.number : Int)|
  := by
  rw [Position.distance, Position.number, Position.number, Int.abs_eq_natAbs]
  omega

theorem Finding.isNear_iff {window : Int} {a b : Finding} :
  a.isNear window b = true
    ↔ a.ruleId = b.ruleId ∧ |(a.line.number : Int) - (b.line.number : Int)| ≤ window
  := by rw [Finding.isNear, Bool.and_eq_true, beq_iff_eq, decide_eq_true_iff,
    Position.distance_eq_abs]

/-! ### Merging -/

theorem mem_keptCandidates_iff {window : Int} {existing candidates : List Finding}
    {candidate : Finding} :
  candidate ∈ keptCandidates window existing candidates
    ↔ candidate ∈ candidates ∧ ∀ finding ∈ existing, ¬ finding.isNear window candidate = true
  := by
  rw [keptCandidates, List.mem_filter, Bool.not_eq_true', List.any_eq_false]

/-- A candidate stays, or gives way to a finding near to it. -/
theorem mem_merge_or_isNear (window : Int) (existing : List Finding) {candidates : List Finding}
    {candidate : Finding} (h : candidate ∈ candidates) :
  candidate ∈ merge window existing candidates
    ∨ ∃ finding ∈ existing, finding.isNear window candidate = true
  := by
  by_cases hnear : ∃ finding ∈ existing, finding.isNear window candidate = true
  · right
    apply hnear
  · left
    rw [merge_eq_append]
    apply List.mem_append_right
    apply mem_keptCandidates_iff.mpr
    use h
    intro finding hfinding hisNear
    apply hnear
    use finding, hfinding

section
variable {settings : Settings} {text : Text} {layout : Layout}

/-- Findings of one kind are equally severe, whether the contract or a line reports them. -/
theorem severity_eq_of_ruleId_eq {source : Source} {finding candidate : Finding}
    (hfinding : finding ∈ reviewFindings settings source layout)
    (hcandidate : candidate ∈ lineFindings settings.enabledRules source)
    (hid : finding.ruleId = candidate.ruleId) :
  finding.severity = candidate.severity
  := by
  have hseverities : ∀ check ∈ Check.reviewChecks, ∀ rule ∈ Rule.catalogue,
      check.id = rule.id → check.severity = rule.severity := by decide
  obtain ⟨check, hcheck, position, snippet, rfl⟩ := exists_mem_reviewChecks hfinding
  obtain ⟨rule, hrule, hrid, hseverity⟩ := exists_rule_of_mem_lineFindings hcandidate
  rw [hseverity]
  apply hseverities check hcheck rule (Settings.mem_catalogue hrule)
  rw [← hrid]
  apply hid

/-- The merge drops no severity. -/
theorem exists_severity_mem_merge_iff (window : Int) (source : Source) (p : Severity → Prop) :
  (∃ finding ∈ merge window (reviewFindings settings source layout)
      (lineFindings settings.enabledRules source), p finding.severity)
    ↔ (∃ finding ∈ reviewFindings settings source layout, p finding.severity)
      ∨ ∃ finding ∈ lineFindings settings.enabledRules source, p finding.severity
  := by
  constructor
  · rintro ⟨finding, hfinding, hp⟩
    obtain hreview | hline := mem_merge hfinding
    · left
      use finding, hreview
    · right
      use finding, hline
  · rintro (⟨finding, hreview, hp⟩ | ⟨candidate, hline, hp⟩)
    · use finding
      use mem_merge_of_mem hreview window _
    · obtain hkept | ⟨finding, hreview, hnear⟩ :=
        mem_merge_or_isNear window (reviewFindings settings source layout) hline
      · use candidate
      · use finding
        use mem_merge_of_mem hreview window _
        rw [severity_eq_of_ruleId_eq hreview hline (Finding.isNear_iff.mp hnear).1]
        apply hp

theorem not_isInfo_of_mem_merge (window : Int) (settings : Settings) (source : Source)
    (layout : Layout) (finding : Finding)
    (h : finding ∈ merge window (reviewFindings settings source layout)
      (lineFindings settings.enabledRules source)) :
  ¬ finding.isInfo = true
  := by
  obtain hreview | hline := mem_merge h
  · apply not_isInfo_of_mem_reviewFindings hreview
  · apply not_isInfo_of_mem_lineFindings hline

theorem mem_textFindings_of_mem_merge {window : Int} (hwindow : settings.window = some window)
    (hlayout : Layout.ofLines? (Source.ofText text).lines = some layout) {finding : Finding}
    (h : finding ∈ merge window (reviewFindings settings (Source.ofText text) layout)
      (lineFindings settings.enabledRules (Source.ofText text))) :
  finding ∈ textFindings settings text
  := by
  obtain hfindings | ⟨hreview, hkept, -⟩ := textFindings_eq_or hwindow hlayout
  · rw [merge_eq_append] at h
    rw [hfindings]
    apply h
  · rw [merge_eq_append, hreview, List.nil_append] at h
    rw [keptLineFindings, hreview] at hkept
    rw [hkept] at h
    cases h

end

/-! ### Windows -/

/-- The settings with another window. -/
def Settings.withWindow (settings : Settings) (window : Int) : Settings :=
  { settings with window := some window }

/-- Whether a text has a finding of some severities does not depend on the window. -/
theorem exists_severity_mem_textFindings_iff (settings : Settings) (text : Text) (a b : Int)
    (p : Severity → Prop) :
  (∃ finding ∈ textFindings (settings.withWindow a) text, p finding.severity)
    ↔ ∃ finding ∈ textFindings (settings.withWindow b) text, p finding.severity
  := by
  cases hlayout : Layout.ofLines? (Source.ofText text).lines with
  | none => simp only [textFindings, sourceFindings, hlayout]
  | some layout =>
    have hfindings (window : Int) : textFindings (settings.withWindow window) text
        = conclude (merge window (reviewFindings settings (Source.ofText text) layout)
          (lineFindings settings.enabledRules (Source.ofText text))) :=
      textFindings_of_layout rfl hlayout
    rw [hfindings, hfindings]
    by_cases hnone : reviewFindings settings (Source.ofText text) layout = []
        ∧ lineFindings settings.enabledRules (Source.ofText text) = []
    · rw [merge_eq_nil_iff.mpr hnone, merge_eq_nil_iff.mpr hnone]
    · have hconclude (window : Int) :
          conclude (merge window (reviewFindings settings (Source.ofText text) layout)
              (lineFindings settings.enabledRules (Source.ofText text)))
            = merge window (reviewFindings settings (Source.ofText text) layout)
              (lineFindings settings.enabledRules (Source.ofText text)) := by
        obtain hsame | ⟨hnil, -⟩ := conclude_eq_or (not_isInfo_of_mem_merge window settings
          (Source.ofText text) layout)
        · apply hsame
        · cases hnone (merge_eq_nil_iff.mp hnil)
      rw [hconclude, hconclude, exists_severity_mem_merge_iff, exists_severity_mem_merge_iff]

section
variable (settings : Settings) (path : Option Path) (text : Text) (a b : Int)

/-- Whether a run fails does not depend on the window. -/
theorem anyFails_analyze_withWindow :
  Finding.anyFails (analyze (settings.withWindow a) path text)
    = Finding.anyFails (analyze (settings.withWindow b) path text)
  := by
  rw [Bool.eq_iff_iff]
  simp only [Finding.anyFails, analyze, placeIn_eq_map, List.any_map, List.any_eq_true,
    Function.comp_apply, Finding.severity_inFile]
  apply exists_severity_mem_textFindings_iff settings text a b (·.isFailing = true)

end

/-- The analyses of some files. -/
def fileAnalyses (settings : Settings) (sources : List (Path × Text)) : List FileAnalysis :=
  sources.map fun (path, text) => ⟨path, text, analyze settings (some path) text⟩

theorem flatMap_findings_fileAnalyses (settings : Settings) (sources : List (Path × Text)) :
  (fileAnalyses settings sources).flatMap FileAnalysis.findings
    = sources.flatMap fun source => analyze settings (some source.1) source.2
  := List.flatMap_map _ _ sources

theorem exists_fileName_mem_analyze_iff {settings : Settings} {path : Path} {text : Text}
    {p : String → Prop} :
  (∃ finding ∈ analyze settings (some path) text, ¬ finding.isInfo = true ∧ p finding.fileName)
    ↔ (∃ finding ∈ textFindings settings text, finding.severity ≠ .info) ∧ p (toString path)
  := by
  rw [analyze, placeIn_eq_map]
  simp only [List.mem_map, exists_exists_and_eq_and, Finding.isInfo, Finding.severity_inFile,
    beq_iff_eq]
  constructor
  · rintro ⟨finding, hfinding, hseverity, hp⟩
    use ⟨finding, hfinding, hseverity⟩
    apply hp
  · rintro ⟨⟨finding, hfinding, hseverity⟩, hp⟩
    use finding, hfinding, hseverity
    apply hp

/-- The exit code of a run over some files does not depend on the window. -/
theorem exitCode_report_withWindow (options : AnalyzeOptions) (columns : Nat) (files : List Path)
    (settings : Settings) (sources : List (Path × Text)) (a b : Int) :
  (options.report columns files (fileAnalyses (settings.withWindow a) sources)).exitCode
    = (options.report columns files (fileAnalyses (settings.withWindow b) sources)).exitCode
  := by
  apply AnalyzeOptions.exitCode_report_congr
  · rw [fileAnalyses, fileAnalyses, List.map_map, List.map_map]
    rfl
  · rw [flatMap_findings_fileAnalyses, flatMap_findings_fileAnalyses, Finding.anyFails,
      Finding.anyFails, List.any_flatMap, List.any_flatMap]
    congr 1
    funext source
    apply anyFails_analyze_withWindow
  · intro p
    have hexists (settings : Settings) :
        (∃ finding ∈ sources.flatMap fun source => analyze settings (some source.1) source.2,
            ¬ finding.isInfo = true ∧ p finding.fileName)
          ↔ ∃ source ∈ sources, (∃ finding ∈ textFindings settings source.2,
            finding.severity ≠ .info) ∧ p (toString source.1) := by
      constructor
      · rintro ⟨finding, hfinding, hshown⟩
        obtain ⟨source, hsource, hfinding⟩ := List.mem_flatMap.mp hfinding
        use source, hsource
        apply exists_fileName_mem_analyze_iff.mp
        use finding, hfinding
      · rintro ⟨source, hsource, hshown⟩
        obtain ⟨finding, hfinding, hshown⟩ := exists_fileName_mem_analyze_iff.mpr hshown
        use finding, List.mem_flatMap.mpr ⟨source, hsource, hfinding⟩
    rw [flatMap_findings_fileAnalyses, flatMap_findings_fileAnalyses, hexists, hexists]
    simp only [exists_severity_mem_textFindings_iff settings _ a b (· ≠ .info)]

section
variable {settings : Settings} {window : Int} {text : Text}

/-- A physical line that the rule of reentrancy flags has a report within the window. -/
theorem exists_reentrancy_near (hwindow : settings.window = some window) {layout : Layout}
    (hlayout : Layout.ofLines? (Source.ofText text).lines = some layout)
    (hrule : Rule.reentrancy ∈ settings.enabledRules) {number : Nat}
    (hflags : (physicalLine? text number).any Rule.reentrancy.flags = true) :
  ∃ finding ∈ textFindings settings text, finding.ruleId = Rule.reentrancy.id
    ∧ (finding.line.number = number ∨ |(finding.line.number : Int) - (number : Int)| ≤ window)
  := by
  obtain ⟨candidate, hcandidate, hid, rfl⟩ :=
    (exists_mem_lineFindings_iff hrule text number).mpr hflags
  obtain hkept | ⟨finding, hreview, hnear⟩ := mem_merge_or_isNear window
    (reviewFindings settings (Source.ofText text) layout) hcandidate
  · use candidate, mem_textFindings_of_mem_merge hwindow hlayout hkept, hid
    left
    rfl
  · obtain ⟨hid', hdistance⟩ := Finding.isNear_iff.mp hnear
    use finding
    constructor
    · apply mem_textFindings_of_mem_merge hwindow hlayout
      apply mem_merge_of_mem hreview
    · use hid'.trans hid
      right
      apply hdistance

/-- In a text with a contract declaration, a physical line that the rule of reentrancy flags is
reported within the window; no report of a line stays within the window of a function's report of
reentrancy; and neither whether a run fails nor the exit code of a run over some files depends on
the window. -/
theorem analyze_reentrancy_suppression (hwindow : settings.window = some window)
    (path : Option Path)
    (hcontract : ∃ line ∈ canonicalLines text, Signature.isContractDeclaration line = true) :
  (Rule.reentrancy ∈ settings.enabledRules → ∀ number : Nat,
      (physicalLine? text number).any Rule.reentrancy.flags = true →
      ∃ finding ∈ analyze settings path text, finding.ruleId = Rule.reentrancy.id
        ∧ (finding.line.number = number
          ∨ |(finding.line.number : Int) - (number : Int)| ≤ window))
    ∧ (∃ (layout : Layout) (reports : List Finding),
      Layout.ofLines? (Source.ofText text).lines = some layout
      ∧ (analyze settings path text
          = placeIn path (reviewFindings settings (Source.ofText text) layout ++ reports)
        ∨ reviewFindings settings (Source.ofText text) layout = [] ∧ reports = []
          ∧ analyze settings path text = placeIn path [Check.noIssues.outcome])
      ∧ List.Sublist reports (lineFindings settings.enabledRules (Source.ofText text))
      ∧ ∀ report ∈ reports, report.ruleId = Rule.reentrancy.id →
        ∀ finding ∈ layout.functionFindings settings.ownerGuards (Source.ofText text),
          finding.ruleId = Rule.reentrancy.id →
          window < |(finding.line.number : Int) - (report.line.number : Int)|)
    ∧ ∀ a b : Int,
      Finding.anyFails (analyze (settings.withWindow a) path text)
          = Finding.anyFails (analyze (settings.withWindow b) path text)
        ∧ ∀ (options : AnalyzeOptions) (columns : Nat) (files : List Path)
            (sources : List (Path × Text)),
          (options.report columns files (fileAnalyses (settings.withWindow a) sources)).exitCode
            = (options.report columns files
                (fileAnalyses (settings.withWindow b) sources)).exitCode
  := by
  obtain ⟨layout, hlayout⟩ := exists_layout_of_canonicalLines hcontract
  refine ⟨?_, ?_, ?_⟩
  · intro hrule number hflags
    obtain ⟨finding, hfinding, hid, hline⟩ := exists_reentrancy_near hwindow hlayout hrule hflags
    use finding.inFile path
    rw [analyze, placeIn_eq_map, Finding.ruleId_inFile, Finding.line_inFile]
    use List.mem_map_of_mem hfinding, hid
  · use layout, keptLineFindings settings window text layout, hlayout
    refine ⟨?_, keptLineFindings_sublist, ?_⟩
    · rw [analyze]
      obtain hfindings | ⟨hreview, hkept, hfindings⟩ := textFindings_eq_or hwindow hlayout
      · left
        rw [hfindings]
      · right
        use hreview, hkept
        rw [hfindings]
    · intro report hreport hid finding hfinding hid'
      have hfar := (mem_keptCandidates_iff.mp hreport).2 finding (List.mem_append_right _ hfinding)
      rw [Finding.isNear_iff, not_and, not_le] at hfar
      apply hfar (hid'.trans hid.symm)
  · intro a b
    use anyFails_analyze_withWindow settings path text a b
    intro options columns files sources
    apply exitCode_report_withWindow

end

/-- A line that calls out and writes state, right after the signature of its function: the function
is reported at the signature, and the line gives way to it. -/
theorem analyze_reentrancy_suppression_signature :
  (∃ line ∈ canonicalLines "contract C \x7b\nfunction f() \x7b\na.send(1); x -= 1;\n\x7d".toList,
      Signature.isContractDeclaration line = true)
    ∧ (physicalLine? "contract C \x7b\nfunction f() \x7b\na.send(1); x -= 1;\n\x7d".toList 3).any
      Rule.reentrancy.flags = true
    ∧ (∃ finding ∈ analyze {} none
        "contract C \x7b\nfunction f() \x7b\na.send(1); x -= 1;\n\x7d".toList,
      finding.ruleId = "reentrancy"
        ∧ (finding.line.number = 3 ∨ |(finding.line.number : Int) - (3 : Nat)| ≤ 2))
    ∧ Finding.anyFails (analyze (({} : Settings).withWindow 0) none
        "contract C \x7b\nfunction f() \x7b\na.send(1); x -= 1;\n\x7d".toList)
      = Finding.anyFails (analyze (({} : Settings).withWindow 5) none
        "contract C \x7b\nfunction f() \x7b\na.send(1); x -= 1;\n\x7d".toList)
  := by
  have hcontract : ∃ line ∈ canonicalLines
      "contract C \x7b\nfunction f() \x7b\na.send(1); x -= 1;\n\x7d".toList,
      Signature.isContractDeclaration line = true := by decide
  have hflags : (physicalLine?
      "contract C \x7b\nfunction f() \x7b\na.send(1); x -= 1;\n\x7d".toList 3).any
      Rule.reentrancy.flags = true := by decide
  have hwindow : ({} : Settings).window = some 2 := rfl
  obtain ⟨hnear, -, hwindows⟩ := analyze_reentrancy_suppression hwindow none hcontract
  have hrule : Rule.reentrancy ∈ ({} : Settings).enabledRules := by
    simp [Settings.enabledRules, Rule.catalogue]
  use hcontract, hflags, hnear hrule 3 hflags
  apply (hwindows 0 5).1

end ContractLint
