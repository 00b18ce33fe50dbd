import Mathlib.Data.List.Nodup
import ContractLint.Proofs.Analysis.Outcome
import ContractLint.Proofs.Rule.Normalization

/-!
# The findings of the catalogue

The rules of the catalogue report on the lines of a text as it was given.  Apart from reentrancy, no
rule shares its identifier with a check of the contract, so that none of its findings is near to one
that is already there: such a rule reports once on every physical line that it flags, and on no
other line.  Its findings come after those of the contract, by line and then in the order of the
catalogue.
-/

namespace ContractLint

open Text

/-! ### Lines of a text as it was given -/

theorem lineReport_nil (rules : List Rule) (position : Position) :
  lineReport rules [] position = []
  := rfl

/-- Empty lines are not reported. -/
theorem flatMap_lineReport_replicate (rules : List Rule) (count start : Nat) :
  ((List.replicate count []).zipIdx start).flatMap (fun entry => lineReport rules entry.1 ⟨entry.2⟩)
    = []
  := by
  rw [List.flatMap_eq_nil_iff]
  rintro ⟨line, index⟩ hmem
  have hline : line = [] := List.eq_of_mem_replicate (List.fst_mem_of_mem_zipIdx hmem)
  subst hline
  apply lineReport_nil

/-- The findings of rules on the source of a text are their findings on the canonical lines of the
text, each at the place of its line. -/
theorem lineFindings_ofText (rules : List Rule) (text : Text) :
  lineFindings rules (Source.ofText text)
    = (canonicalLines text).zipIdx.flatMap fun entry => lineReport rules entry.1 ⟨entry.2⟩
  := by
  obtain ⟨count, hcount⟩ := Source.canonicalLines_eq_append text
  rw [hcount, List.zipIdx_append, List.zipIdx_append, List.flatMap_append, List.flatMap_append,
    flatMap_lineReport_replicate, flatMap_lineReport_replicate, List.nil_append, List.append_nil,
    List.length_replicate, List.zipIdx_eq_map_add, List.flatMap_map, lineFindings_eq_flatMap]
  simp [Source.position, Nat.add_comm]

/-! ### The order of findings -/

/-- The place in the catalogue of the rule with an identifier. -/
def Rule.rank (id : String) : Nat :=
  Rule.catalogue.findIdx (·.id == id)

/-- One finding comes before another by its line, or on the same line by the order of the
catalogue. -/
def Finding.Precedes (a b : Finding) : Prop :=
  a.line.index < b.line.index
    ∨ a.line = b.line ∧ Rule.rank a.ruleId < Rule.rank b.ruleId

/-- No two rules of the catalogue have the same rank. -/
theorem Rule.pairwise_rank_catalogue :
  Rule.catalogue.Pairwise fun a b => Rule.rank a.id < Rule.rank b.id
  := by decide

theorem Settings.enabledRules_sublist (settings : Settings) :
  List.Sublist settings.enabledRules Rule.catalogue
  := List.filter_sublist

/-- The rules that are on are in the catalogue. -/
theorem Settings.mem_catalogue {settings : Settings} {rule : Rule}
    (h : rule ∈ settings.enabledRules) :
  rule ∈ Rule.catalogue
  := settings.enabledRules_sublist.subset h

/-- A rule reports under its own identifier, at the line it looks at. -/
theorem Rule.check?_eq_some {rule : Rule} {line : Line} {position : Position} {finding : Finding}
    (h : rule.check? line position = some finding) :
  finding.ruleId = rule.id ∧ finding.line = position
  := by
  rw [Rule.check?, Option.ite_none_right_eq_some] at h
  obtain ⟨-, h⟩ := h
  cases h
  use rfl
  rfl

/-- The findings of a line come in the order of the catalogue. -/
theorem pairwise_lineReport {rules : List Rule} (h : List.Sublist rules Rule.catalogue)
    (line : Line) (position : Position) :
  (lineReport rules line position).Pairwise Finding.Precedes
  := by
  rw [lineReport]
  split
  · apply List.Pairwise.nil
  · rw [List.pairwise_filterMap]
    apply (Rule.pairwise_rank_catalogue.sublist h).imp
    intro a b hrank finding hfinding finding' hfinding'
    obtain ⟨hid, hline⟩ := Rule.check?_eq_some hfinding
    obtain ⟨hid', hline'⟩ := Rule.check?_eq_some hfinding'
    right
    rw [hid, hid', hline, hline']
    use rfl

theorem line_of_mem_lineReport {rules : List Rule} {line : Line} {position : Position}
    {finding : Finding} (h : finding ∈ lineReport rules line position) :
  finding.line = position
  := by
  obtain ⟨-, rule, -, -, rfl⟩ := mem_lineReport_iff.mp h
  rfl

/-- The findings of all lines come by line, and for each line in the order of the catalogue. -/
theorem pairwise_lineFindings {rules : List Rule} (h : List.Sublist rules Rule.catalogue)
    (text : Text) :
  (lineFindings rules (Source.ofText text)).Pairwise Finding.Precedes
  := by
  rw [lineFindings_ofText, List.pairwise_flatMap]
  constructor
  · rintro ⟨line, index⟩ -
    apply pairwise_lineReport h
  · have hindices : ((canonicalLines text).zipIdx.map Prod.snd).Pairwise (· < ·) := by
      rw [List.zipIdx_map_snd]
      exact List.pairwise_lt_range'
    rw [List.pairwise_map] at hindices
    apply hindices.imp
    intro a b hlt finding hfinding finding' hfinding'
    left
    rw [line_of_mem_lineReport hfinding, line_of_mem_lineReport hfinding']
    apply hlt

/-! ### The flagged lines -/

/-- The identifier of a rule says which rule of the catalogue it is. -/
theorem Rule.eq_of_id_eq {a b : Rule} (ha : a ∈ Rule.catalogue) (hb : b ∈ Rule.catalogue)
    (h : a.id = b.id) :
  a = b
  := by
  have hids : (Rule.catalogue.map (·.id)).Nodup := by decide
  apply List.inj_on_of_nodup_map hids ha hb h

theorem Rule.flags_nil {rule : Rule} (h : rule ∈ Rule.catalogue) :
  rule.flags [] = false
  := by
  have hall : ∀ rule ∈ Rule.catalogue, rule.flags [] = false := by decide
  apply hall rule h

/-- A rule that is on has a finding with a line number exactly when the physical line with this
number is there and the rule flags it. -/
theorem exists_mem_lineFindings_iff {settings : Settings} {rule : Rule}
    (hrule : rule ∈ settings.enabledRules) (text : Text) (number : Nat) :
  (∃ finding ∈ lineFindings settings.enabledRules (Source.ofText text),
      finding.ruleId = rule.id ∧ finding.line.number = number)
    ↔ (physicalLine? text number).any rule.flags = true
  := by
  have hcatalogue := Settings.mem_catalogue hrule
  rw [lineFindings_ofText]
  constructor
  · rintro ⟨finding, hmem, hid, rfl⟩
    obtain ⟨⟨line, index⟩, hentry, hreport⟩ := List.mem_flatMap.mp hmem
    obtain ⟨-, other, hother, hflags, rfl⟩ := mem_lineReport_iff.mp hreport
    obtain rfl := Rule.eq_of_id_eq (Settings.mem_catalogue hother) hcatalogue hid
    rw [List.mk_mem_zipIdx_iff_getElem?, canonicalLines, List.getElem?_map,
      Option.map_eq_some_iff] at hentry
    obtain ⟨physical, hphysical, rfl⟩ := hentry
    rw [Rule.flags_canonicalLine hcatalogue] at hflags
    have hnumber : physicalLine? text (index + 1) = some physical := hphysical
    simpa [Check.findingAt, Finding.line, Position.number, hnumber] using hflags
  · intro h
    obtain ⟨physical, hphysical, hflags⟩ := (Option.any_eq_true _ _).mp h
    cases number with
    | zero => cases hphysical
    | succ index =>
      rw [← Rule.flags_canonicalLine hcatalogue] at hflags
      have hne : canonicalLine physical ≠ [] := by
        intro hnil
        rw [hnil, Rule.flags_nil hcatalogue] at hflags
        cases hflags
      use rule.findingAt ⟨index⟩ (Rule.snippet (canonicalLine physical))
      refine ⟨?_, rfl, rfl⟩
      apply List.mem_flatMap.mpr
      use (canonicalLine physical, index)
      constructor
      · rw [List.mk_mem_zipIdx_iff_getElem?, canonicalLines, List.getElem?_map]
        apply congrArg (Option.map canonicalLine) hphysical
      · apply mem_lineReport_iff.mpr
        use hne, rule

/-! ### Merging -/

/-- No rule of the catalogue but reentrancy shares its identifier with a check of the contract. -/
theorem ruleId_ne_of_mem_reviewFindings {settings : Settings} {source : Source} {layout : Layout}
    {finding : Finding} (h : finding ∈ reviewFindings settings source layout) {rule : Rule}
    (hrule : rule ∈ Rule.catalogue) (hid : rule.id ≠ Rule.reentrancy.id) :
  finding.ruleId ≠ rule.id
  := by
  have hids : ∀ rule ∈ Rule.catalogue, rule.id ≠ Rule.reentrancy.id →
      ∀ check ∈ Check.reviewChecks, check.id ≠ rule.id := by decide
  obtain ⟨check, hcheck, position, snippet, rfl⟩ := exists_mem_reviewChecks h
  apply hids rule hrule hid check hcheck

/-- A candidate is kept when no finding that is there is of its kind. -/
theorem mem_keptCandidates {window : Int} {existing candidates : List Finding}
    {candidate : Finding} (hmem : candidate ∈ candidates)
    (h : ∀ finding ∈ existing, finding.ruleId ≠ candidate.ruleId) :
  candidate ∈ keptCandidates window existing candidates
  := by
  apply List.mem_filter.mpr
  use hmem
  rw [Bool.not_eq_true', List.any_eq_false]
  intro finding hfinding
  simp [Finding.isNear, h finding hfinding]

/-- The findings of a review do more than inform. -/
theorem not_isInfo_of_mem_reviewFindings {settings : Settings} {source : Source}
    {layout : Layout} {finding : Finding}
    (h : finding ∈ reviewFindings settings source layout) :
  ¬ finding.isInfo = true
  := by
  have hseverities : ∀ check ∈ Check.reviewChecks, ¬ (check.severity == .info) = true := by decide
  obtain ⟨check, hcheck, position, snippet, rfl⟩ := exists_mem_reviewChecks h
  apply hseverities check hcheck

/-- The findings of lines do more than inform. -/
theorem not_isInfo_of_mem_lineFindings {settings : Settings} {source : Source}
    {finding : Finding} (h : finding ∈ lineFindings settings.enabledRules source) :
  ¬ finding.isInfo = true
  := by
  have hseverities : ∀ rule ∈ Rule.catalogue, ¬ (rule.severity == .info) = true := by decide
  obtain ⟨index, line, -, hreport⟩ := mem_lineFindings_iff.mp h
  obtain ⟨-, rule, hrule, -, rfl⟩ := mem_lineReport_iff.mp hreport
  apply hseverities rule (Settings.mem_catalogue hrule)

/-- Findings of which none only informs stay as they are, unless there are none. -/
theorem conclude_eq_or {findings : List Finding}
    (h : ∀ finding ∈ findings, ¬ finding.isInfo = true) :
  conclude findings = findings
    ∨ findings = [] ∧ conclude findings = [Check.noIssues.outcome]
  := by
  cases findings with
  | nil =>
    right
    use rfl
    rfl
  | cons finding findings =>
    left
    rw [conclude, if_neg]
    intro hall
    apply h finding List.mem_cons_self
    apply List.all_eq_true.mp hall finding List.mem_cons_self

/-! ### Counting -/

/-- Findings that cannot come one before the other are at most one. -/
theorem countP_le_one {findings : List Finding} (h : findings.Pairwise Finding.Precedes)
    {p : Finding → Bool} (hp : ∀ a b, p a = true → p b = true → ¬ a.Precedes b) :
  findings.countP p ≤ 1
  := by
  induction h with
  | nil => simp
  | @cons finding findings hbefore hrest ih =>
    by_cases hfinding : p finding = true
    · have hnone : findings.countP p = 0 := by
        rw [List.countP_eq_zero]
        intro other hother hp'
        apply hp finding other hfinding hp' (hbefore other hother)
      rw [List.countP_cons_of_pos hfinding, hnone]
    · rw [List.countP_cons_of_neg hfinding]
      apply ih

/-- Whether a finding comes from the check with an identifier and has a line number. -/
def Finding.isAt (id : String) (number : Nat) (finding : Finding) : Bool :=
  finding.ruleId == id && finding.line.number == number

theorem Finding.isAt_iff {id : String} {number : Nat} {finding : Finding} :
  finding.isAt id number = true ↔ finding.ruleId = id ∧ finding.line.number = number
  := by simp [Finding.isAt]

/-- Of two findings of one rule at one line, neither comes before the other. -/
theorem Finding.not_precedes_of_isAt {id : String} {number : Nat} {a b : Finding}
    (ha : a.isAt id number = true) (hb : b.isAt id number = true) :
  ¬ a.Precedes b
  := by
  rw [Finding.isAt_iff, Position.number] at ha hb
  rintro (hlt | ⟨-, hrank⟩)
  · omega
  · rw [ha.1, hb.1] at hrank
    apply Nat.lt_irrefl _ hrank

section
variable {settings : Settings} {window : Int} {text : Text} {layout : Layout}

/-- The findings of rules that are merged into those of the contract. -/
def keptLineFindings (settings : Settings) (window : Int) (text : Text) (layout : Layout) :
    List Finding :=
  keptCandidates window (reviewFindings settings (Source.ofText text) layout)
    (lineFindings settings.enabledRules (Source.ofText text))

theorem keptLineFindings_sublist :
  List.Sublist (keptLineFindings settings window text layout)
    (lineFindings settings.enabledRules (Source.ofText text))
  := List.filter_sublist

/-- The findings that are kept come in the order of the lines and of the catalogue. -/
theorem pairwise_keptLineFindings :
  (keptLineFindings settings window text layout).Pairwise Finding.Precedes
  := by
  apply List.Pairwise.sublist keptLineFindings_sublist
  apply pairwise_lineFindings settings.enabledRules_sublist

/-- The merge drops no finding of a rule other than reentrancy. -/
theorem mem_keptLineFindings {finding : Finding}
    (h : finding ∈ lineFindings settings.enabledRules (Source.ofText text))
    (hid : finding.ruleId ≠ Rule.reentrancy.id) :
  finding ∈ keptLineFindings settings window text layout
  := by
  apply mem_keptCandidates h
  obtain ⟨index, line, -, hreport⟩ := mem_lineFindings_iff.mp h
  obtain ⟨-, rule, hrule, -, rfl⟩ := mem_lineReport_iff.mp hreport
  intro other hother
  apply ruleId_ne_of_mem_reviewFindings hother (Settings.mem_catalogue hrule) hid

/-- A rule other than reentrancy has one finding among those that are merged for each physical line
that it flags, and none for another line. -/
theorem countP_keptLineFindings {rule : Rule} (hrule : rule ∈ settings.enabledRules)
    (hid : rule.id ≠ Rule.reentrancy.id) (number : Nat) :
  (keptLineFindings settings window text layout).countP (·.isAt rule.id number)
    = if (physicalLine? text number).any rule.flags then 1 else 0
  := by
  split
  · rename_i hflags
    obtain ⟨finding, hmem, hat⟩ := (exists_mem_lineFindings_iff hrule text number).mpr hflags
    apply Nat.le_antisymm
    · apply countP_le_one pairwise_keptLineFindings
      intro a b
      apply Finding.not_precedes_of_isAt
    · apply List.countP_pos_iff.mpr
      use finding
      constructor
      · apply mem_keptLineFindings hmem
        rw [hat.1]
        apply hid
      · apply Finding.isAt_iff.mpr hat
  · rename_i hflags
    rw [List.countP_eq_zero]
    intro finding hmem hat
    apply hflags
    apply (exists_mem_lineFindings_iff hrule text number).mp
    use finding, keptLineFindings_sublist.subset hmem
    apply Finding.isAt_iff.mp hat

/-- The findings of a contract are those of its review and those kept of its lines, or there is
nothing to report. -/
theorem textFindings_eq_or (hwindow : settings.window = some window)
    (h : Layout.ofLines? (Source.ofText text).lines = some layout) :
  textFindings settings text = reviewFindings settings (Source.ofText text) layout
      ++ keptLineFindings settings window text layout
    ∨ reviewFindings settings (Source.ofText text) layout = []
      ∧ keptLineFindings settings window text layout = []
      ∧ textFindings settings text = [Check.noIssues.outcome]
  := by
  rw [textFindings_of_layout hwindow h, merge_eq_append]
  rw [← and_assoc, ← List.append_eq_nil_iff]
  apply conclude_eq_or
  intro finding hfinding
  obtain hreview | hline := List.mem_append.mp hfinding
  · apply not_isInfo_of_mem_reviewFindings hreview
  · apply not_isInfo_of_mem_lineFindings (keptLineFindings_sublist.subset hline)

/-- A rule other than that of reentrancy reports each line that it flags once. -/
theorem countP_textFindings (hwindow : settings.window = some window)
    (h : Layout.ofLines? (Source.ofText text).lines = some layout) {rule : Rule}
    (hrule : rule ∈ settings.enabledRules) (hid : rule.id ≠ Rule.reentrancy.id) (number : Nat) :
  (textFindings settings text).countP (·.isAt rule.id number)
    = if (physicalLine? text number).any rule.flags then 1 else 0
  := by
  have hcatalogue := Settings.mem_catalogue hrule
  rw [← countP_keptLineFindings hrule hid number]
  obtain hfindings | ⟨-, hkept, hfindings⟩ := textFindings_eq_or hwindow h
  · have hreview : (reviewFindings settings (Source.ofText text) layout).countP
        (·.isAt rule.id number) = 0 := by
      rw [List.countP_eq_zero]
      intro finding hfinding hat
      apply ruleId_ne_of_mem_reviewFindings hfinding hcatalogue hid
      apply (Finding.isAt_iff.mp hat).1
    rw [hfindings, List.countP_append, hreview, Nat.zero_add]
  · have hids : ∀ rule ∈ Rule.catalogue, Check.noIssues.id ≠ rule.id := by decide
    rw [hfindings, hkept, List.countP_nil, List.countP_eq_zero]
    intro finding hfinding hat
    apply hids rule hcatalogue
    rw [List.mem_singleton.mp hfinding] at hat
    apply (Finding.isAt_iff.mp hat).1

theorem countP_placeIn (path : Option Path) (findings : List Finding) (id : String)
    (number : Nat) :
  (placeIn path findings).countP (·.isAt id number) = findings.countP (·.isAt id number)
  := by
  rw [placeIn_eq_map, List.countP_map]
  apply List.countP_congr
  intro finding _
  simp [Finding.isAt]

/-- A text with a contract declaration has a layout. -/
theorem exists_layout_of_canonicalLines
    (h : ∃ line ∈ canonicalLines text, Signature.isContractDeclaration line = true) :
  ∃ layout, Layout.ofLines? (Source.ofText text).lines = some layout
  := by
  obtain ⟨line, hmem, hdeclares⟩ := h
  obtain ⟨count, hcount⟩ := Source.canonicalLines_eq_append text
  have hline : line ∈ (Source.ofText text).lines := by
    rw [hcount] at hmem
    simp only [List.mem_append, List.mem_replicate] at hmem
    obtain (⟨-, rfl⟩ | hmem) | ⟨-, rfl⟩ := hmem
    · cases hdeclares
    · apply hmem
    · cases hdeclares
  apply Option.ne_none_iff_exists'.mp
  intro hnone
  apply Layout.ofLines?_eq_none_iff.mp hnone line hline hdeclares

/-- In a text with a contract declaration, a rule that is on, other than reentrancy, has exactly one
finding for each physical line that it flags, and none for another line.  The findings of rules come
after those of the contract, by line and then in the order of the catalogue; the merge drops
findings of reentrancy only. -/
theorem analyze_catalogue_exact (hwindow : settings.window = some window) (path : Option Path)
    (hcontract : ∃ line ∈ canonicalLines text, Signature.isContractDeclaration line = true) :
  (∀ rule ∈ settings.enabledRules, rule.id ≠ Rule.reentrancy.id → ∀ number : Nat,
      (analyze settings path text).countP (·.isAt rule.id number)
        = if (physicalLine? text number).any rule.flags then 1 else 0)
    ∧ ∃ (layout : Layout) (reports : List Finding),
      Layout.ofLines? (Source.ofText text).lines = some layout
      ∧ (analyze settings path text
          = placeIn path (reviewFindings settings (Source.ofText text) layout ++ reports)
        ∨ reviewFindings settings (Source.ofText text) layout = [] ∧ reports = []
          ∧ analyze settings path text = placeIn path [Check.noIssues.outcome])
      ∧ (∀ finding ∈ reviewFindings settings (Source.ofText text) layout,
        ∀ rule ∈ Rule.catalogue, rule.id ≠ Rule.reentrancy.id → finding.ruleId ≠ rule.id)
      ∧ List.Sublist reports (lineFindings settings.enabledRules (Source.ofText text))
      ∧ (∀ finding ∈ lineFindings settings.enabledRules (Source.ofText text),
        finding.ruleId ≠ Rule.reentrancy.id → finding ∈ reports)
      ∧ reports.Pairwise Finding.Precedes
  := by
  obtain ⟨layout, hlayout⟩ := exists_layout_of_canonicalLines hcontract
  constructor
  · intro rule hrule hid number
    rw [analyze, countP_placeIn]
    apply countP_textFindings hwindow hlayout hrule hid
  · use layout, keptLineFindings settings window text layout, hlayout
    refine ⟨?_, ?_, keptLineFindings_sublist, ?_, pairwise_keptLineFindings⟩
    · rw [analyze]
      obtain hfindings | ⟨hreview, hkept, hfindings⟩ := textFindings_eq_or hwindow hlayout
      · left
        rw [hfindings]
      · right
        use hreview, hkept
        rw [hfindings]
    · intro finding hfinding rule hrule hid
      apply ruleId_ne_of_mem_reviewFindings hfinding hrule hid
    · intro finding hfinding hid
      apply mem_keptLineFindings hfinding hid

end

/-- A `throw` before the contract declaration and one after it are both reported, whatever the
window. -/
theorem analyze_catalogue_exact_throw :
  (∃ line ∈ canonicalLines "throw;\ncontract C \x7b\n\tthrow;\n\x7d".toList,
      Signature.isContractDeclaration line = true)
    ∧ (analyze { window := some 100 } none
        "throw;\ncontract C \x7b\n\tthrow;\n\x7d".toList).countP (·.isAt "throw-usage" 1) = 1
    ∧ (analyze { window := some 100 } none
        "throw;\ncontract C \x7b\n\tthrow;\n\x7d".toList).countP (·.isAt "throw-usage" 3) = 1
  := by
  have hcontract : ∃ line ∈ canonicalLines "throw;\ncontract C \x7b\n\tthrow;\n\x7d".toList,
      Signature.isContractDeclaration line = true := by decide
  have hrule : Rule.throwUsage ∈ ({ window := some 100 } : Settings).enabledRules := by
    simp [Settings.enabledRules, Rule.catalogue]
  have hwindow : ({ window := some 100 } : Settings).window = some 100 := rfl
  have hreported := (analyze_catalogue_exact hwindow none hcontract).1 Rule.throwUsage hrule
    (by decide)
  refine ⟨hcontract, ?_, ?_⟩
  · apply (hreported 1).trans
    decide
  · apply (hreported 3).trans
    decide

end ContractLint
