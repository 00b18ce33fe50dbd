import ContractLint.Proofs.Analysis.Formatting
import ContractLint.Proofs.Analysis.Shape

/-!
# Displaced texts

Blanks in front of a text and after it are no part of its source, but the line feeds among those in
front count as lines before it.  So the analysis of the text with the blanks is the analysis of the
text itself with every issue moved down by that many lines:

* each producer of findings moves its findings down with the source;
* the merge compares lines by their distance only, so that it keeps the same findings;
* the outcomes, which concern the text as a whole, stay at the first line.
-/

namespace ContractLint

namespace Text

/-! ### Blanks around a text -/

/-- Blanks after a text stay blanks after it, also when the first of them completes a line break
that the text ends with. -/
theorem exists_unifyBreaks_append_right {back : Text} (h : ∀ c ∈ back, isBlank c = true)
    (text : Text) :
  ∃ blanks : Text, (∀ c ∈ blanks, isBlank c = true)
    ∧ unifyBreaks (text ++ back) = unifyBreaks text ++ blanks
  := by
  fun_induction unifyBreaks text with
  | case1 =>
    use unifyBreaks back
    use forall_isBlank_unifyBreaks.mpr h
    rfl
  | case2 rest ih =>
    obtain ⟨blanks, hblanks, heq⟩ := ih
    use blanks, hblanks
    rw [List.cons_append, List.cons_append, unifyBreaks, heq]
    rfl
  | case3 c rest hpair ih =>
    obtain ⟨blanks, hblanks, heq⟩ := ih
    rw [List.cons_append]
    by_cases hc : c = '\r'
    · subst hc
      rw [if_pos rfl]
      by_cases hhead : (rest ++ back).head? = some '\n'
      · -- the text ends with the carriage return, and the line feed is the first of the blanks
        cases rest with
        | cons d rest =>
          cases hhead
          cases hpair rest rfl rfl
        | nil =>
          cases back with
          | nil => cases hhead
          | cons d back =>
            cases hhead
            use unifyBreaks back
            use forall_isBlank_unifyBreaks.mpr (List.forall_mem_cons.mp h).2
            rfl
      · use blanks, hblanks
        rw [unifyBreaks_return hhead, heq]
        rfl
    · use blanks, hblanks
      rw [unifyBreaks_cons_of_ne hc, if_neg hc, heq]
      rfl

/-- A text that is not blank stays so with anything around it. -/
theorem exists_not_isBlank_append {text : Text} (h : ∃ c ∈ text, ¬ isBlank c = true)
    (front back : Text) :
  ∃ c ∈ front ++ text ++ back, ¬ isBlank c = true
  := by
  obtain ⟨c, hc, hblank⟩ := h
  use c
  simp [hc, hblank]

/-- The blanks at the front of a text that is not blank do not depend on what follows. -/
theorem takeWhile_append_of_exists {text : Text} (h : ∃ c ∈ text, ¬ isBlank c = true)
    (rest : Text) :
  (text ++ rest).takeWhile isBlank = text.takeWhile isBlank
  := by
  rw [List.takeWhile_append, if_neg]
  intro hlength
  obtain ⟨c, hc, hblank⟩ := h
  apply hblank
  apply List.takeWhile_eq_self_iff.mp ((List.takeWhile_prefix isBlank).eq_of_length hlength) c hc

section
variable {front text back : Text} (hfront : ∀ c ∈ front, isBlank c = true) (hreturn : '\r' ∉ front)
  (hback : ∀ c ∈ back, isBlank c = true)
include hfront hreturn hback

/-- The normal form of a text does not depend on blanks around the text. -/
theorem normalize_append :
  normalize (front ++ text ++ back) = normalize text
  := by
  obtain ⟨blanks, hblanks, heq⟩ := exists_unifyBreaks_append_right hback text
  rw [normalize, List.append_assoc, unifyBreaks_append_left hreturn, heq, expandTabs_append,
    expandTabs_append, trim_append_of_isBlank_left (forall_isBlank_expandTabs.mpr hfront),
    trim_append_of_isBlank_right (forall_isBlank_expandTabs.mpr hblanks)]
  rfl

/-- The blanks before a text and at its front are those before it and then those at its front. -/
theorem takeWhile_unifyBreaks_append (htext : ∃ c ∈ text, ¬ isBlank c = true) :
  (unifyBreaks (front ++ text ++ back)).takeWhile isBlank
    = front ++ (unifyBreaks text).takeWhile isBlank
  := by
  obtain ⟨blanks, -, heq⟩ := exists_unifyBreaks_append_right hback text
  have hunified : ∃ c ∈ unifyBreaks text, ¬ isBlank c = true := by
    rw [← trim_ne_nil_iff, Ne, trim_eq_nil_iff, forall_isBlank_unifyBreaks, ← trim_eq_nil_iff]
    apply trim_ne_nil_iff.mpr htext
  rw [List.append_assoc, unifyBreaks_append_left hreturn, heq, List.takeWhile_append_of_pos hfront,
    takeWhile_append_of_exists hunified]

end

end Text

open Text

/-! ### Moving down -/

/-- The position with `count` more things before it. -/
def Position.moveDown (count : Nat) (position : Position) : Position :=
  ⟨position.index + count⟩

/-- The finding on a line that is `count` lines further down. -/
def Finding.moveDown (count : Nat) (finding : Finding) : Finding :=
  { finding with location :=
      { finding.location with line := finding.location.line.moveDown count } }

/-- The source with `count` more lines before it. -/
def Source.moveDown (count : Nat) (source : Source) : Source :=
  { source with offset := source.offset + count }

/-- The source of a text with blanks around it is the source of the text, with as many more lines
before it as there are line feeds among the blanks in front. -/
theorem Source.ofText_append {front text back : Text} (hfront : ∀ c ∈ front, isBlank c = true)
    (hreturn : '\r' ∉ front) (hback : ∀ c ∈ back, isBlank c = true)
    (htext : ∃ c ∈ text, ¬ isBlank c = true) :
  ofText (front ++ text ++ back) = (ofText text).moveDown (front.count '\n')
  := by
  have hall := exists_not_isBlank_append htext front back
  have hoffset : (ofText (front ++ text ++ back)).offset
      = (ofText text).offset + front.count '\n' := by
    rw [offset_ofText (trim_ne_nil_iff.mpr hall), offset_ofText (trim_ne_nil_iff.mpr htext),
      count_takeWhile_expandTabs, count_takeWhile_expandTabs,
      takeWhile_unifyBreaks_append hfront hreturn hback htext, List.count_append, Nat.add_comm]
  have hlines : (ofText (front ++ text ++ back)).lines = (ofText text).lines := by
    rw [ofText, normalize_append hfront hreturn hback]
    rfl
  rw [moveDown, ← hoffset, ← hlines]

/-! ### Producers of findings -/

section
variable (count : Nat)

theorem Source.position_moveDown (source : Source) (index : Nat) :
  (source.moveDown count).position index = (source.position index).moveDown count
  := by rw [Source.position, Source.moveDown, Source.position, Position.moveDown, Nat.add_assoc]

theorem Check.findingAt_moveDown (check : Check) (position : Position) (snippet : Option String) :
  check.findingAt (position.moveDown count) snippet
    = (check.findingAt position snippet).moveDown count
  := rfl

/-- A rule reports a line that is moved down at its new place. -/
theorem Rule.check?_moveDown (rule : Rule) (line : Line) (position : Position) :
  rule.check? line (position.moveDown count)
    = (rule.check? line position).map (·.moveDown count)
  := by
  rw [Rule.check?, Rule.check?]
  split
  · rfl
  · rfl

theorem lineReport_moveDown (rules : List Rule) (line : Line) (position : Position) :
  lineReport rules line (position.moveDown count)
    = (lineReport rules line position).map (·.moveDown count)
  := by
  rw [lineReport, lineReport]
  split
  · rfl
  · simp only [Rule.check?_moveDown, List.map_filterMap]

/-- The findings of lines move down with the source. -/
theorem lineFindings_moveDown (rules : List Rule) (source : Source) :
  lineFindings rules (source.moveDown count)
    = (lineFindings rules source).map (·.moveDown count)
  := by
  rw [lineFindings_eq_flatMap, lineFindings_eq_flatMap, List.map_flatMap]
  simp only [Source.position_moveDown, lineReport_moveDown]
  rfl

/-- The findings of a function move down with its signature. -/
theorem Function.findings_moveDown (guards : List String) (position : Position)
    (function : Function) :
  function.findings guards (position.moveDown count)
    = (function.findings guards position).map (·.moveDown count)
  := by
  rw [Function.findings, Function.findings, List.map_map]
  simp only [Check.findingAt_moveDown, Function.comp_def]

/-- The findings of a review move down with the source. -/
theorem reviewFindings_moveDown (settings : Settings) (source : Source) (layout : Layout) :
  reviewFindings settings (source.moveDown count) layout
    = (reviewFindings settings source layout).map (·.moveDown count)
  := by
  rw [reviewFindings, reviewFindings, List.map_append]
  congr 1
  · rw [Layout.preambleFindings, Layout.preambleFindings, List.map_map]
    simp only [Source.position_moveDown, Check.findingAt_moveDown, Function.comp_def]
  · rw [Layout.functionFindings, Layout.functionFindings, List.map_flatMap]
    simp only [Source.position_moveDown, Function.findings_moveDown]

/-! ### Merging -/

/-- The distance of two findings does not change when both are moved down. -/
theorem Finding.isNear_moveDown (window : Int) (a b : Finding) :
  (a.moveDown count).isNear window (b.moveDown count) = a.isNear window b
  := by
  have hdistance : (a.moveDown count).line.distance (b.moveDown count).line
      = a.line.distance b.line := by
    simp only [Position.distance, Finding.line, Finding.moveDown, Position.moveDown]
    omega
  rw [Finding.isNear, Finding.isNear, hdistance]
  rfl

/-- Findings that all move down are merged in the same way. -/
theorem merge_moveDown (window : Int) (existing candidates : List Finding) :
  merge window (existing.map (·.moveDown count)) (candidates.map (·.moveDown count))
    = (merge window existing candidates).map (·.moveDown count)
  := by
  rw [merge_eq_append, merge_eq_append, List.map_append, keptCandidates, List.filter_map]
  simp only [keptCandidates, List.any_map, Function.comp_def, Finding.isNear_moveDown]

theorem sharesKind_moveDown (existing candidates : List Finding) :
  sharesKind (existing.map (·.moveDown count)) (candidates.map (·.moveDown count))
    = sharesKind existing candidates
  := by
  rw [sharesKind, sharesKind]
  simp only [List.any_map]
  rfl

/-- Findings that all move down can be merged exactly when they could be before. -/
theorem merge?_moveDown (window : Option Int) (existing candidates : List Finding) :
  merge? window (existing.map (·.moveDown count)) (candidates.map (·.moveDown count))
    = (merge? window existing candidates).map (List.map (·.moveDown count))
  := by
  cases window with
  | some window =>
    rw [merge?, merge_moveDown]
    rfl
  | none =>
    rw [merge?, merge?, sharesKind_moveDown]
    split
    · rfl
    · simp

end

/-! ### Outcomes -/

/-- The outcomes of the analysis of a text that is not blank. -/
def Check.textOutcomes : List Check :=
  [Check.noContract, Check.internalError, Check.noIssues]

/-- Whether a finding is an outcome of the analysis of a text that is not blank. -/
def Finding.isOutcome (finding : Finding) : Bool :=
  Check.textOutcomes.any (·.id == finding.ruleId)

/-- What is merged from the findings of a contract tells no outcome of the analysis. -/
theorem not_isOutcome_of_mem_merge? {settings : Settings} {source : Source} {layout : Layout}
    {merged : List Finding}
    (h : merge? settings.window (reviewFindings settings source layout)
      (lineFindings settings.enabledRules source) = some merged)
    {finding : Finding} (hfinding : finding ∈ merged) :
  ¬ finding.isOutcome = true
  := by
  have hchecks : ∀ check ∈ Check.reviewChecks,
      ¬ Check.textOutcomes.any (·.id == check.id) = true := by decide
  have hrules : ∀ rule ∈ Rule.catalogue,
      ¬ Check.textOutcomes.any (·.id == rule.id) = true := by decide
  obtain hreview | hline := mem_of_mem_merge? h hfinding
  · obtain ⟨check, hcheck, position, snippet, rfl⟩ := exists_mem_reviewChecks hreview
    apply hchecks check hcheck
  · obtain ⟨rule, hrule, hid, -⟩ := exists_rule_of_mem_lineFindings hline
    rw [Finding.isOutcome, hid]
    apply hrules rule (Settings.mem_catalogue hrule)

/-- The finding moved down, unless it is an outcome. -/
def Finding.moveIssueDown (count : Nat) (finding : Finding) : Finding :=
  if finding.isOutcome then finding else finding.moveDown count

/-- Findings that move down come to the same conclusion. -/
theorem conclude_moveDown (count : Nat) {findings : List Finding}
    (h : ∀ finding ∈ findings, ¬ finding.isOutcome = true) :
  conclude (findings.map (·.moveDown count)) = (conclude findings).map (·.moveIssueDown count)
  := by
  have hinfo : (findings.map (·.moveDown count)).all (·.isInfo) = findings.all (·.isInfo) :=
    List.all_map
  rw [conclude, conclude, hinfo]
  split
  · rfl
  · apply List.map_congr_left
    intro finding hfinding
    rw [Finding.moveIssueDown, if_neg (h finding hfinding)]

/-- The findings of a contract move down with the source, all but an outcome. -/
theorem contractFindings_moveDown (count : Nat) (settings : Settings) (source : Source)
    (layout : Layout) :
  contractFindings settings (source.moveDown count) layout
    = (contractFindings settings source layout).map (·.moveIssueDown count)
  := by
  rw [contractFindings, contractFindings, reviewFindings_moveDown, lineFindings_moveDown,
    merge?_moveDown]
  cases hmerged : merge? settings.window (reviewFindings settings source layout)
      (lineFindings settings.enabledRules source) with
  | none => rfl
  | some merged =>
    apply conclude_moveDown
    intro finding hfinding
    apply not_isOutcome_of_mem_merge? hmerged hfinding

/-- The findings of a source move down with it, all but an outcome. -/
theorem sourceFindings_moveDown (count : Nat) (settings : Settings) (source : Source) :
  sourceFindings settings (source.moveDown count)
    = (sourceFindings settings source).map (·.moveIssueDown count)
  := by
  rw [sourceFindings, sourceFindings, Source.moveDown]
  dsimp only
  cases Layout.ofLines? source.lines with
  | none => rfl
  | some layout => apply contractFindings_moveDown

/-- An outcome is the only finding, and is at the first line. -/
theorem eq_singleton_of_mem_outcome {check : Check} {finding : Finding}
    (h : finding ∈ [check.outcome]) :
  [check.outcome] = [finding] ∧ finding.line = .first
  := by
  rw [List.mem_singleton.mp h]
  use rfl
  rfl

/-- An outcome of a source is the one finding of the source, at the first line. -/
theorem sourceFindings_of_isOutcome {settings : Settings} {source : Source} {finding : Finding}
    (h : finding ∈ sourceFindings settings source) (houtcome : finding.isOutcome = true) :
  sourceFindings settings source = [finding] ∧ finding.line = .first
  := by
  rw [sourceFindings] at h ⊢
  cases hlayout : Layout.ofLines? source.lines with
  | none =>
    rw [hlayout] at h
    apply eq_singleton_of_mem_outcome h
  | some layout =>
    rw [hlayout] at h
    dsimp only [contractFindings] at h ⊢
    cases hmerged : merge? settings.window (reviewFindings settings source layout)
        (lineFindings settings.enabledRules source) with
    | none =>
      rw [hmerged] at h
      apply eq_singleton_of_mem_outcome h
    | some merged =>
      rw [hmerged] at h
      dsimp only [conclude] at h ⊢
      split at h
      · rename_i hinfo
        rw [if_pos hinfo]
        apply eq_singleton_of_mem_outcome h
      · cases not_isOutcome_of_mem_merge? hmerged h houtcome

/-! ### Texts -/

theorem Finding.isOutcome_inFile (path : Option Path) (finding : Finding) :
  (finding.inFile path).isOutcome = finding.isOutcome
  := by rw [Finding.isOutcome, Finding.isOutcome, Finding.ruleId_inFile]

theorem Finding.inFile_moveIssueDown (path : Option Path) (count : Nat) (finding : Finding) :
  (finding.moveIssueDown count).inFile path = (finding.inFile path).moveIssueDown count
  := by
  rw [Finding.moveIssueDown, Finding.moveIssueDown, Finding.isOutcome_inFile]
  split
  · rfl
  · cases path with
    | none => rfl
    | some path => rfl

/-- Blanks around a text that is not blank, without a carriage return in front, move its findings
down by the number of line feeds in front and change nothing else.  Only the outcomes stay at the
first line, where each of them is the one finding of the text. -/
theorem analyze_displaced (settings : Settings) (path : Option Path) {front text back : Text}
    (htext : ∃ c ∈ text, ¬ isBlank c = true) (hfront : ∀ c ∈ front, isBlank c = true)
    (hreturn : '\r' ∉ front) (hback : ∀ c ∈ back, isBlank c = true) :
  analyze settings path (front ++ text ++ back)
      = (analyze settings path text).map (fun finding =>
        if finding.isOutcome then finding else finding.moveDown (front.count '\n'))
    ∧ ∀ finding ∈ analyze settings path text, finding.isOutcome = true →
      analyze settings path text = [finding] ∧ finding.line = .first
  := by
  have hall := exists_not_isBlank_append htext front back
  rw [analyze_of_exists hall, analyze_of_exists htext]
  constructor
  · rw [Source.ofText_append hfront hreturn hback htext, sourceFindings_moveDown, List.map_map,
      List.map_map]
    apply List.map_congr_left
    intro finding _
    apply Finding.inFile_moveIssueDown
  · intro finding hfinding houtcome
    obtain ⟨finding, hmem, rfl⟩ := List.mem_map.mp hfinding
    rw [Finding.isOutcome_inFile] at houtcome
    obtain ⟨hsingle, hline⟩ := sourceFindings_of_isOutcome hmem houtcome
    rw [hsingle, Finding.line_inFile]
    use rfl

/-- A form feed and a line separator in front of a text are trimmed and not counted as line
breaks. -/
theorem analyze_displaced_formFeed :
  (∃ c ∈ "contract C \x7b\n\tthrow;\n\x7d".toList, ¬ isBlank c = true)
    ∧ (∀ c ∈ "\n\x0c\u2028 \n".toList, isBlank c = true)
    ∧ '\r' ∉ "\n\x0c\u2028 \n".toList
    ∧ (∀ c ∈ "\r\n\r".toList, isBlank c = true)
    ∧ (analyze {} none "contract C \x7b\n\tthrow;\n\x7d".toList).map (·.line.number) = [2]
    ∧ (analyze {} none ("\n\x0c\u2028 \n".toList ++ "contract C \x7b\n\tthrow;\n\x7d".toList
        ++ "\r\n\r".toList)).map (·.line.number) = [4]
  := by
  have htext : ∃ c ∈ "contract C \x7b\n\tthrow;\n\x7d".toList, ¬ isBlank c = true :=
    ⟨'c', by decide, by decide⟩
  have hfront : ∀ c ∈ "\n\x0c\u2028 \n".toList, isBlank c = true :=
    List.all_eq_true.mp (by decide)
  have hreturn : '\r' ∉ "\n\x0c\u2028 \n".toList := by decide
  have hback : ∀ c ∈ "\r\n\r".toList, isBlank c = true :=
    List.all_eq_true.mp (by decide)
  have hmoved := (analyze_displaced {} none htext hfront hreturn hback).1
  refine ⟨htext, hfront, hreturn, hback, by decide, ?_⟩
  rw [hmoved]
  decide

end ContractLint
