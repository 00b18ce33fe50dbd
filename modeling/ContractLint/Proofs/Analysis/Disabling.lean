import ContractLint.Proofs.Analysis.Shape

/-!
# Disabled rules

Which rules are off matters to the rules themselves only.  The findings of the contract do not
depend on it, not even those of reentrancy, whose identifier a rule of the catalogue shares.  The
findings of rules are compared with those of the contract but not with each other, so that turning
more rules off deletes exactly the findings of these rules.  No run fails because of it.
-/

namespace ContractLint

open Text

/-! ### Rules that are off -/

/-- The settings with other rules off. -/
def Settings.withDisabled (settings : Settings) (disabled : List String) : Settings :=
  { settings with disabled }

section
variable (settings : Settings)

/-- The rules that are on depend on the identifiers in the catalogue only. -/
theorem Settings.enabledRules_congr {first second : List String}
    (h : ∀ rule ∈ Rule.catalogue, rule.id ∈ first ↔ rule.id ∈ second) :
  (settings.withDisabled first).enabledRules = (settings.withDisabled second).enabledRules
  := by
  apply List.filter_congr
  intro rule hrule
  simp [Settings.withDisabled, h rule hrule]

/-- With more rules off, the rules that are on are those that were on and are none of these. -/
theorem Settings.enabledRules_union {first second both : List String}
    (h : ∀ id, id ∈ both ↔ id ∈ first ∨ id ∈ second) :
  (settings.withDisabled both).enabledRules
    = (settings.withDisabled first).enabledRules.filter fun rule => !second.contains rule.id
  := by
  rw [Settings.enabledRules, Settings.enabledRules, List.filter_filter]
  apply List.filter_congr
  intro rule _
  rw [Bool.eq_iff_iff]
  simp [Settings.withDisabled, h, and_comm]

end

/-! ### Findings of rules -/

theorem lineReport_filter (rules : List Rule) (p : String → Bool) (line : Line)
    (position : Position) :
  lineReport (rules.filter fun rule => p rule.id) line position
    = (lineReport rules line position).filter fun finding => p finding.ruleId
  := by
  rw [lineReport, lineReport]
  split
  · rfl
  · rw [List.filterMap_filter, List.filter_filterMap]
    apply List.filterMap_congr
    intro rule _
    cases hcheck : rule.check? line position with
    | none => simp
    | some finding =>
      rw [← (Rule.check?_eq_some hcheck).1, Option.filter_some]

/-- Choosing among rules by their identifiers is choosing among their findings. -/
theorem lineFindings_filter (rules : List Rule) (p : String → Bool) (source : Source) :
  lineFindings (rules.filter fun rule => p rule.id) source
    = (lineFindings rules source).filter fun finding => p finding.ruleId
  := by
  rw [lineFindings_eq_flatMap, lineFindings_eq_flatMap, List.filter_flatMap]
  simp only [lineReport_filter]

theorem keptCandidates_filter (window : Int) (existing candidates : List Finding)
    (p : Finding → Bool) :
  keptCandidates window existing (candidates.filter p)
    = (keptCandidates window existing candidates).filter p
  := by
  rw [keptCandidates, keptCandidates, List.filter_filter, List.filter_filter]
  apply List.filter_congr
  intro candidate _
  apply Bool.and_comm

/-- The rule reports the finding, placed in a file, on a line of the source of a text. -/
def Rule.Reports (rule : Rule) (path : Option Path) (text : Text) (finding : Finding) : Prop :=
  ∃ (index : Nat) (line : Line), (Source.ofText text).lines[index]? = some line
    ∧ (rule.check? line ((Source.ofText text).position index)).map (·.inFile path) = some finding

theorem exists_reports_of_mem_lineFindings {rules : List Rule} {text : Text} {finding : Finding}
    (h : finding ∈ lineFindings rules (Source.ofText text)) (path : Option Path) :
  ∃ rule ∈ rules, rule.id = finding.ruleId ∧ rule.Reports path text (finding.inFile path)
  := by
  obtain ⟨index, line, hline, hreport⟩ := mem_lineFindings_iff.mp h
  obtain ⟨-, rule, hrule, hflags, rfl⟩ := mem_lineReport_iff.mp hreport
  use rule, hrule, rfl, index, line, hline
  rw [Rule.check?, if_pos hflags]
  rfl

/-! ### Issues -/

/-- The findings of an analysis, where the outcome that there is nothing to report counts as no
finding. -/
def issuesOf (path : Option Path) (findings : List Finding) : List Finding :=
  if findings = placeIn path [Check.noIssues.outcome] then [] else findings

theorem issuesOf_eq_self (path : Option Path) {findings : List Finding}
    (h : ∀ finding ∈ findings, ¬ finding.isInfo = true) :
  issuesOf path (placeIn path findings) = placeIn path findings
  := by
  rw [issuesOf, if_neg]
  intro heq
  rw [placeIn_eq_map, placeIn_eq_map, List.map_singleton] at heq
  have hmem : Check.noIssues.outcome.inFile path ∈ findings.map (·.inFile path) := by
    rw [heq]
    apply List.mem_singleton_self
  obtain ⟨finding, hfinding, hsame⟩ := List.mem_map.mp hmem
  have hseverity := congrArg Finding.severity hsame
  rw [Finding.severity_inFile, Finding.severity_inFile] at hseverity
  apply h finding hfinding
  rw [Finding.isInfo, hseverity]
  rfl

theorem anyFails_issuesOf (path : Option Path) (findings : List Finding) :
  Finding.anyFails (issuesOf path findings) = Finding.anyFails findings
  := by
  rw [issuesOf]
  split
  · rename_i h
    rw [h]
    cases path with
    | none => rfl
    | some path => rfl
  · rfl

section
variable {settings : Settings} {window : Int} {text : Text} {layout : Layout}

/-- The issues of a text are the findings of the contract and then those of rules that are merged
into them. -/
theorem issuesOf_analyze (hwindow : settings.window = some window)
    (hlayout : Layout.ofLines? (Source.ofText text).lines = some layout) (path : Option Path) :
  issuesOf path (analyze settings path text)
    = placeIn path (reviewFindings settings (Source.ofText text) layout)
      ++ placeIn path (keptLineFindings settings window text layout)
  := by
  have hplace : placeIn path (reviewFindings settings (Source.ofText text) layout)
        ++ placeIn path (keptLineFindings settings window text layout)
      = placeIn path (reviewFindings settings (Source.ofText text) layout
        ++ keptLineFindings settings window text layout) := by
    rw [placeIn_eq_map, placeIn_eq_map, placeIn_eq_map, List.map_append]
  rw [hplace, analyze]
  obtain hfindings | ⟨hreview, hkept, hfindings⟩ := textFindings_eq_or hwindow hlayout
  · rw [hfindings]
    apply issuesOf_eq_self
    intro finding hfinding
    obtain hreview | hline := List.mem_append.mp hfinding
    · apply not_isInfo_of_mem_reviewFindings hreview
    · apply not_isInfo_of_mem_lineFindings (keptLineFindings_sublist.subset hline)
  · rw [hfindings, hreview, hkept, issuesOf, if_pos rfl, placeIn_eq_map]
    rfl

/-- Of the findings that are merged into those of the contract, turning more rules off deletes
those of these rules. -/
theorem keptLineFindings_union {first second both : List String}
    (h : ∀ id, id ∈ both ↔ id ∈ first ∨ id ∈ second) :
  keptLineFindings (settings.withDisabled both) window text layout
    = (keptLineFindings (settings.withDisabled first) window text layout).filter
      fun finding => !second.contains finding.ruleId
  := by
  rw [keptLineFindings, keptLineFindings, settings.enabledRules_union h,
    lineFindings_filter _ (fun id => !second.contains id), keptCandidates_filter]
  rfl

/-- Choosing among findings by what their file does not change can be done before or after they are
placed in it. -/
theorem placeIn_filter (path : Option Path) {p : Finding → Bool}
    (h : ∀ finding, p (finding.inFile path) = p finding) (findings : List Finding) :
  placeIn path (findings.filter p) = (placeIn path findings).filter p
  := by
  rw [placeIn_eq_map, placeIn_eq_map, List.filter_map]
  simp only [Function.comp_def, h]

theorem exists_reports_of_mem_keptLineFindings {disabled : List String} {path : Option Path}
    {report : Finding}
    (h : report ∈ placeIn path
      (keptLineFindings (settings.withDisabled disabled) window text layout)) :
  ∃ rule ∈ Rule.catalogue, rule.id ∉ disabled ∧ rule.id = report.ruleId
    ∧ rule.Reports path text report
  := by
  rw [placeIn_eq_map] at h
  obtain ⟨finding, hfinding, rfl⟩ := List.mem_map.mp h
  obtain ⟨rule, hrule, hid, hreports⟩ :=
    exists_reports_of_mem_lineFindings (keptLineFindings_sublist.subset hfinding) path
  have hon : rule.id ∉ disabled := by
    simpa [Settings.withDisabled] using (List.mem_filter.mp hrule).2
  use rule, Settings.mem_catalogue hrule, hon
  rw [Finding.ruleId_inFile]
  use hid

theorem analyze_withDisabled_congr {first second : List String}
    (h : ∀ rule ∈ Rule.catalogue, rule.id ∈ first ↔ rule.id ∈ second) (path : Option Path) :
  analyze (settings.withDisabled first) path text
    = analyze (settings.withDisabled second) path text
  := by
  simp only [analyze, textFindings, sourceFindings, contractFindings,
    settings.enabledRules_congr h]
  rfl

/-- The issues of a text with a contract declaration are those of the contract, whatever rules are
off, and then those that rules which are on report.  With more rules off, exactly the reports of
these rules are missing; identifiers that no rule has make no difference; and a run that does not
fail does not fail with more rules off. -/
theorem analyze_disabled (hwindow : settings.window = some window) (path : Option Path)
    (hcontract : ∃ line ∈ canonicalLines text, Signature.isContractDeclaration line = true) :
  ∃ (layout : Layout) (reports : List String → List Finding),
    Layout.ofLines? (Source.ofText text).lines = some layout
    ∧ (∀ disabled : List String,
      issuesOf path (analyze (settings.withDisabled disabled) path text)
        = placeIn path (reviewFindings settings (Source.ofText text) layout) ++ reports disabled)
    ∧ (∀ disabled : List String, ∀ report ∈ reports disabled, ∃ rule ∈ Rule.catalogue,
      rule.id ∉ disabled ∧ rule.id = report.ruleId ∧ rule.Reports path text report)
    ∧ (∀ first second both : List String, (∀ id, id ∈ both ↔ id ∈ first ∨ id ∈ second) →
      reports both = (reports first).filter fun report => !second.contains report.ruleId)
    ∧ (∀ first second : List String,
      (∀ rule ∈ Rule.catalogue, rule.id ∈ first ↔ rule.id ∈ second) →
      analyze (settings.withDisabled first) path text
        = analyze (settings.withDisabled second) path text)
    ∧ ∀ first second : List String, first ⊆ second →
      Finding.anyFails (analyze (settings.withDisabled second) path text) = true →
      Finding.anyFails (analyze (settings.withDisabled first) path text) = true
  := by
  obtain ⟨layout, hlayout⟩ := exists_layout_of_canonicalLines hcontract
  have hissues (disabled : List String) :
      issuesOf path (analyze (settings.withDisabled disabled) path text)
        = placeIn path (reviewFindings settings (Source.ofText text) layout)
          ++ placeIn path
            (keptLineFindings (settings.withDisabled disabled) window text layout) := by
    have hwindow' : (settings.withDisabled disabled).window = some window := hwindow
    apply issuesOf_analyze hwindow' hlayout
  have hunion {first second both : List String}
      (h : ∀ id, id ∈ both ↔ id ∈ first ∨ id ∈ second) :
      placeIn path (keptLineFindings (settings.withDisabled both) window text layout)
        = (placeIn path (keptLineFindings (settings.withDisabled first) window text layout)).filter
          fun report => !second.contains report.ruleId := by
    rw [keptLineFindings_union h, placeIn_filter]
    simp
  refine ⟨layout, fun disabled =>
    placeIn path (keptLineFindings (settings.withDisabled disabled) window text layout),
    hlayout, hissues, ?_, ?_, ?_, ?_⟩
  · intro disabled report hreport
    apply exists_reports_of_mem_keptLineFindings hreport
  · intro first second both h
    apply hunion h
  · intro first second h
    apply analyze_withDisabled_congr h
  · intro first second hsubset hfails
    -- the larger set is its own union with the smaller one
    have hboth : ∀ id, id ∈ second ↔ id ∈ first ∨ id ∈ second := by
      intro id
      rw [or_iff_right_of_imp]
      apply hsubset
    rw [← anyFails_issuesOf path, hissues, hunion hboth] at hfails
    rw [← anyFails_issuesOf path, hissues]
    obtain ⟨finding, hfinding, hfailing⟩ := List.any_eq_true.mp hfails
    apply List.any_eq_true.mpr
    use finding
    refine ⟨?_, hfailing⟩
    obtain hreview | hreport := List.mem_append.mp hfinding
    · apply List.mem_append_left _ hreview
    · apply List.mem_append_right _ (List.mem_of_mem_filter hreport)

end

/-- A function and a line report reentrancy, too far apart for the window.  With the rule off, the
function still reports it. -/
theorem analyze_disabled_reentrancy :
  (∃ line ∈ canonicalLines
      "contract C \x7b\nfunction f() \x7b\na.send(1); x -= 1;\nthrow;\n\x7d".toList,
      Signature.isContractDeclaration line = true)
    ∧ (analyze (({ window := some 0 } : Settings).withDisabled []) none
        "contract C \x7b\nfunction f() \x7b\na.send(1); x -= 1;\nthrow;\n\x7d".toList).map
        (fun finding => (finding.ruleId, finding.line.number))
      = [("reentrancy", 2), ("reentrancy", 3), ("unchecked-send", 3), ("throw-usage", 4)]
    ∧ (analyze (({ window := some 0 } : Settings).withDisabled ["reentrancy"]) none
        "contract C \x7b\nfunction f() \x7b\na.send(1); x -= 1;\nthrow;\n\x7d".toList).map
        (fun finding => (finding.ruleId, finding.line.number))
      = [("reentrancy", 2), ("unchecked-send", 3), ("throw-usage", 4)]
    ∧ ∃ review reports : List Finding,
      issuesOf none (analyze (({ window := some 0 } : Settings).withDisabled []) none
          "contract C \x7b\nfunction f() \x7b\na.send(1); x -= 1;\nthrow;\n\x7d".toList)
        = review ++ reports
      ∧ issuesOf none (analyze (({ window := some 0 } : Settings).withDisabled ["reentrancy"]) none
          "contract C \x7b\nfunction f() \x7b\na.send(1); x -= 1;\nthrow;\n\x7d".toList)
        = review ++ reports.filter fun report => !(["reentrancy"].contains report.ruleId)
  := by
  have hcontract : ∃ line ∈ canonicalLines
      "contract C \x7b\nfunction f() \x7b\na.send(1); x -= 1;\nthrow;\n\x7d".toList,
      Signature.isContractDeclaration line = true := by decide
  have hwindow : ({ window := some 0 } : Settings).window = some 0 := rfl
  obtain ⟨layout, reports, -, hissues, -, hunion, -, -⟩ := analyze_disabled hwindow none hcontract
  refine ⟨hcontract, by decide +kernel, by decide +kernel, _, reports [], hissues [], ?_⟩
  rw [← hunion [] ["reentrancy"] ["reentrancy"] (by simp)]
  apply hissues

end ContractLint
