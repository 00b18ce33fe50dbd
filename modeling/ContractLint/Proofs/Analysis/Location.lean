import ContractLint.Proofs.Analysis.Outcome

/-!
# The location of findings

Every finding that is not about the text as a whole points at a line of the text as it was given:
it has the number of a physical line, the first column, and the canonical form of that line as its
snippet.
-/

namespace ContractLint

open Text

/-! ### Findings that point into a source -/

/-- A finding points into a source: it has the position of a line that is not empty and shows that
line. -/
def Finding.PointsInto (source : Source) (finding : Finding) : Prop :=
  ∃ (index : Nat) (line : Line), source.lines[index]? = some line ∧ line ≠ []
    ∧ finding.line = source.position index ∧ finding.location.column = .first
    ∧ finding.location.snippet = some (String.ofList line)

/-- A finding at a line of a source with that line as its snippet points into the source. -/
theorem Check.pointsInto_findingAt (check : Check) {source : Source} {index : Nat} {line : Line}
    (hline : source.lines[index]? = some line) (hne : line ≠ []) :
  (check.findingAt (source.position index) (some (String.ofList line))).PointsInto source
  := by
  use index, line, hline, hne
  simp [Check.findingAt, Finding.line]

theorem exposesState_nil :
  ¬ Signature.exposesState [] = true
  := by decide

theorem opensFunction_nil :
  ¬ Signature.opensFunction [] = true
  := by decide

variable {source : Source} {layout : Layout} {finding : Finding}

/-- The findings of a preamble point into the source. -/
theorem pointsInto_of_mem_preambleFindings
    (hlayout : Layout.ofLines? source.lines = some layout)
    (h : finding ∈ layout.preambleFindings source) :
  finding.PointsInto source
  := by
  rw [Layout.preambleFindings, List.mem_map] at h
  obtain ⟨⟨line, index⟩, hmem, rfl⟩ := h
  rw [List.mem_filter] at hmem
  obtain ⟨hmem, hexposes⟩ := hmem
  apply Check.pointsInto_findingAt
  · apply Layout.getElem?_of_mem_preamble hlayout hmem
  · rintro rfl
    apply exposesState_nil hexposes

/-- The findings of functions point into the source. -/
theorem pointsInto_of_mem_functionFindings {guards : List String}
    (hlayout : Layout.ofLines? source.lines = some layout)
    (h : finding ∈ layout.functionFindings guards source) :
  finding.PointsInto source
  := by
  rw [Layout.functionFindings, List.mem_flatMap] at h
  obtain ⟨⟨function, index⟩, hmem, hfinding⟩ := h
  obtain ⟨check, -, rfl⟩ := List.mem_map.mp hfinding
  obtain ⟨-, line, hline, hopens, rfl⟩ := (Layout.mem_functions_iff hlayout).mp hmem
  have hsnippet : ((Function.ofSignature line).addLines
      (Function.ownLines (source.lines.drop (index + 1)))).snippet
      = some (String.ofList line) := by
    rw [Function.snippet, Function.addLines_eq]
    rfl
  rw [hsnippet]
  apply Check.pointsInto_findingAt _ hline
  rintro rfl
  apply opensFunction_nil hopens

theorem pointsInto_of_mem_reviewFindings {settings : Settings}
    (hlayout : Layout.ofLines? source.lines = some layout)
    (h : finding ∈ reviewFindings settings source layout) :
  finding.PointsInto source
  := by
  obtain hpreamble | hfunction := List.mem_append.mp h
  · apply pointsInto_of_mem_preambleFindings hlayout hpreamble
  · apply pointsInto_of_mem_functionFindings hlayout hfunction

/-- The snippet of a trimmed line that is not empty is the line. -/
theorem Rule.snippet_eq {line : Line} (htrim : trim line = line) (hne : line ≠ []) :
  Rule.snippet line = some (String.ofList line)
  := by
  rw [Rule.snippet, htrim]
  simp [hne]

/-- The findings of lines point into the source. -/
theorem pointsInto_of_mem_lineFindings {rules : List Rule}
    (htrim : ∀ line ∈ source.lines, trim line = line)
    (h : finding ∈ lineFindings rules source) :
  finding.PointsInto source
  := by
  obtain ⟨index, line, hline, hreport⟩ := mem_lineFindings_iff.mp h
  obtain ⟨hne, rule, -, -, rfl⟩ := mem_lineReport_iff.mp hreport
  rw [Rule.snippet_eq (htrim line (List.mem_of_getElem? hline)) hne]
  apply Check.pointsInto_findingAt _ hline hne

/-! ### Findings of texts -/

/-- A finding that points into the source of a text shows the canonical line at its place. -/
theorem getElem?_canonicalLines_of_pointsInto {text : Text}
    (h : finding.PointsInto (Source.ofText text)) :
  ∃ line : Line, line ≠ [] ∧ (canonicalLines text)[finding.line.index]? = some line
    ∧ finding.location.column = .first
    ∧ finding.location.snippet = some (String.ofList line)
  := by
  obtain ⟨index, line, hline, hne, hposition, hcolumn, hsnippet⟩ := h
  use line, hne
  rw [hposition]
  use Source.getElem?_canonicalLines hline

/-- With a window, a finding of a text is about the text as a whole or points into its source. -/
theorem outcome_or_pointsInto {settings : Settings} {window : Int}
    (hwindow : settings.window = some window) {text : Text}
    (h : finding ∈ textFindings settings text) :
  finding ∈ [Check.invalidInput.outcome, Check.noContract.outcome, Check.noIssues.outcome]
    ∨ finding.PointsInto (Source.ofText text)
  := by
  obtain houtcome | ⟨layout, hlayout, hreview | hline⟩ := mem_textFindings hwindow h
  · left
    apply houtcome
  · right
    apply pointsInto_of_mem_reviewFindings hlayout hreview
  · right
    apply pointsInto_of_mem_lineFindings _ hline
    intro line hmem
    apply Source.trim_of_mem_lines hmem

/-- With a window, no finding of a text has an empty snippet. -/
theorem snippet_ne_of_mem_textFindings {settings : Settings} {window : Int}
    (hwindow : settings.window = some window) {text : Text}
    (h : finding ∈ textFindings settings text) :
  finding.location.snippet ≠ some ""
  := by
  obtain houtcome | ⟨index, line, -, hne, -, -, hsnippet⟩ := outcome_or_pointsInto hwindow h
  · have hnone : ∀ finding ∈ [Check.invalidInput.outcome, Check.noContract.outcome,
        Check.noIssues.outcome], finding.location.snippet = none := by
      simp [Check.outcome, Check.findingAt]
    rw [hnone finding houtcome]
    rintro ⟨⟩
  · rw [hsnippet]
    simpa using hne

/-- With a window, every finding of a text that is not about the text as a whole has the number of
a physical line, the first column, and the canonical form of that line as its snippet, which is not
empty. -/
theorem mem_analyze_located {settings : Settings} {window : Int}
    (hwindow : settings.window = some window) (path : Option Path) (text : Text)
    {finding : Finding} (hmem : finding ∈ analyze settings path text)
    (hwhole : finding ∉ placeIn path
      [Check.invalidInput.outcome, Check.noContract.outcome, Check.noIssues.outcome]) :
  (1 ≤ finding.line.number ∧ finding.line.number ≤ (physicalLines text).length)
    ∧ finding.location.column.number = 1
    ∧ ∃ snippet : String, finding.location.snippet = some snippet ∧ snippet ≠ ""
      ∧ (canonicalLines text)[finding.line.number - 1]? = some snippet.toList
  := by
  rw [placeIn_eq_map] at hwhole
  rw [analyze, placeIn_eq_map] at hmem
  obtain ⟨finding, hfinding, rfl⟩ := List.mem_map.mp hmem
  obtain houtcome | hpoints := outcome_or_pointsInto hwindow hfinding
  · cases hwhole (List.mem_map_of_mem houtcome)
  obtain ⟨line, hne, hline, hcolumn, hsnippet⟩ := getElem?_canonicalLines_of_pointsInto hpoints
  simp only [Finding.line_inFile, Finding.column_inFile, Finding.snippet_inFile, hcolumn, hsnippet]
  refine ⟨⟨by simp [Position.number], ?_⟩, rfl, String.ofList line, rfl, ?_, ?_⟩
  · obtain ⟨hlt, -⟩ := List.getElem?_eq_some_iff.mp hline
    rw [canonicalLines, List.length_map] at hlt
    apply hlt
  · simpa using hne
  · rw [String.toList_ofList]
    apply hline

/-- A state variable on the third line of a text with line breaks of three styles, a blank line in
front and tabs. -/
theorem mem_analyze_located_preamble :
  Check.stateVisibility.findingAt ⟨2⟩ (some "uint public x;")
      ∈ analyze {} none "\r\n\tcontract C \x7b\r\tuint public x;\n\x7d".toList
    ∧ (canonicalLines "\r\n\tcontract C \x7b\r\tuint public x;\n\x7d".toList)[2]?
      = some "uint public x;".toList
  := by
  have hmem : Check.stateVisibility.findingAt ⟨2⟩ (some "uint public x;")
      ∈ analyze {} none "\r\n\tcontract C \x7b\r\tuint public x;\n\x7d".toList := by
    decide +kernel
  use hmem
  have hwindow : ({} : Settings).window = some 2 := rfl
  obtain ⟨-, -, snippet, hsnippet, -, hline⟩ := mem_analyze_located hwindow none _ hmem (by decide)
  cases hsnippet
  apply hline

end ContractLint
