import ContractLint.Proofs.Analysis.Disabling

/-!
# Owner modifiers

Which modifiers restrict a function to the owner matters to the checks of unprotected operations
only.  With more of them, a function may become guarded, and then exactly its findings of these
checks are missing.  No rule on lines has the identifier of such a check, so that a finding that is
missing had suppressed nothing: all other findings stay, in their order and at their lines.
-/

namespace ContractLint

open Text

/-! ### Modifiers -/

/-- The settings with other modifiers that restrict a function to the owner. -/
def Settings.withOwnerGuards (settings : Settings) (ownerGuards : List String) : Settings :=
  { settings with ownerGuards }

/-- The checks of operations that only the owner should start. -/
def Check.unprotectedChecks : List Check :=
  [Check.unprotectedInit, Check.unprotectedUpgrade, Check.unprotectedWithdraw,
    Check.unprotectedSelfdestruct]

/-- Whether a finding is about an operation that only the owner should start. -/
def Finding.isUnprotected (finding : Finding) : Bool :=
  Check.unprotectedChecks.any (·.id == finding.ruleId)

namespace Function

/-- Whether some modifier of a function is in `after` and none is in `before`. -/
def becomesGuarded (before after : List String) (function : Function) : Bool :=
  decide ((∃ modifier ∈ function.modifiers, modifier ∈ after)
    ∧ ∀ modifier ∈ function.modifiers, modifier ∉ before)

/-- A function is guarded when one of its modifiers restricts it to the owner. -/
theorem isOwnerGuarded_iff {guards : List String} {function : Function} :
  function.isOwnerGuarded guards = true ↔ ∃ modifier ∈ function.modifiers, modifier ∈ guards
  := by simp only [isOwnerGuarded, List.any_eq_true, List.contains_iff_mem]

theorem becomesGuarded_eq (before after : List String) (function : Function) :
  function.becomesGuarded before after
    = (function.isOwnerGuarded after && !function.isOwnerGuarded before)
  := by
  rw [Bool.eq_iff_iff, Bool.and_eq_true, Bool.not_eq_true', ← Bool.not_eq_true,
    isOwnerGuarded_iff, isOwnerGuarded_iff, becomesGuarded, decide_eq_true_iff]
  simp only [not_exists, not_and]

/-- More modifiers keep a function guarded. -/
theorem isOwnerGuarded_of_subset {before after : List String} (h : before ⊆ after)
    {function : Function} (hguarded : function.isOwnerGuarded before = true) :
  function.isOwnerGuarded after = true
  := by
  rw [isOwnerGuarded_iff] at hguarded ⊢
  obtain ⟨modifier, hmodifier, hmem⟩ := hguarded
  use modifier, hmodifier, h hmem

theorem isOwnerGuarded_congr {guards others : List String}
    (h : ∀ modifier, modifier ∈ guards ↔ modifier ∈ others) (function : Function) :
  function.isOwnerGuarded guards = function.isOwnerGuarded others
  := by
  rw [Bool.eq_iff_iff, isOwnerGuarded_iff, isOwnerGuarded_iff]
  simp only [h]

/-- With more modifiers a function that does not become guarded is guarded just as before. -/
theorem isOwnerGuarded_eq {before after : List String} (h : before ⊆ after) {function : Function}
    (hsame : function.becomesGuarded before after = false) :
  function.isOwnerGuarded after = function.isOwnerGuarded before
  := by
  have hmono : function.isOwnerGuarded before = true → function.isOwnerGuarded after = true :=
    isOwnerGuarded_of_subset h
  rw [becomesGuarded_eq] at hsame
  revert hsame hmono
  cases function.isOwnerGuarded before
  all_goals simp

/-! ### Checks of functions -/

/-- The checks that a function fails whatever its modifiers are. -/
def openIssues (function : Function) : List Check :=
  (if function.lacksMutability then [Check.mutability] else [])
    ++ (if function.lacksValueCheck then [Check.payableValidation] else [])
    ++ (if function.writesAfterCall then [Rule.reentrancy.toCheck] else [])

/-- The checks that fail in a function are those that modifiers do not matter to, and those of
unprotected operations unless it is guarded. -/
theorem issues_eq (guards : List String) (function : Function) :
  function.issues guards = function.openIssues
    ++ if function.isOwnerGuarded guards then [] else function.unprotectedIssues
  := rfl

/-- The findings of a function depend only on which modifiers guard it. -/
theorem findings_congr {guards others : List String}
    (h : ∀ modifier, modifier ∈ guards ↔ modifier ∈ others) (position : Position)
    (function : Function) :
  function.findings guards position = function.findings others position
  := by rw [findings, findings, issues_eq, issues_eq, isOwnerGuarded_congr h]

theorem mem_unprotectedChecks {function : Function} {check : Check}
    (h : check ∈ function.unprotectedIssues) :
  check ∈ Check.unprotectedChecks
  := by
  rw [unprotectedIssues, List.mem_append, Option.mem_toList, List.mem_ite_nil_right,
    List.mem_singleton] at h
  obtain hprivileged | ⟨-, rfl⟩ := h
  · unfold Check.privileged? at hprivileged
    split at hprivileged
    all_goals cases hprivileged
    all_goals simp [Check.unprotectedChecks]
  · simp [Check.unprotectedChecks]

section
variable {function : Function} {check : Check} (position : Position) (snippet : Option String)

theorem isUnprotected_of_mem_unprotectedIssues (h : check ∈ function.unprotectedIssues) :
  (check.findingAt position snippet).isUnprotected = true
  := by
  apply List.any_eq_true.mpr
  use check, mem_unprotectedChecks h
  apply beq_self_eq_true

theorem isUnprotected_of_mem_openIssues (h : check ∈ function.openIssues) :
  (check.findingAt position snippet).isUnprotected = false
  := by
  simp only [openIssues, List.mem_append, List.mem_ite_nil_right, List.mem_singleton] at h
  obtain (⟨-, rfl⟩ | ⟨-, rfl⟩) | ⟨-, rfl⟩ := h
  · rfl
  · rfl
  · rfl

end

/-- The findings of a function are at its signature. -/
theorem line_of_mem_findings {guards : List String} {position : Position} {function : Function}
    {finding : Finding} (h : finding ∈ function.findings guards position) :
  finding.line = position
  := by
  obtain ⟨check, -, rfl⟩ := List.mem_map.mp h
  rfl

/-- A function that becomes guarded loses its findings of unprotected operations and no other. -/
theorem findings_of_subset {before after : List String} (h : before ⊆ after)
    (position : Position) (function : Function) :
  function.findings after position = (function.findings before position).filter
    fun finding => !(finding.isUnprotected && function.becomesGuarded before after)
  := by
  cases hgains : function.becomesGuarded before after with
  | false =>
    have hissues : function.issues after = function.issues before := by
      rw [issues_eq, issues_eq, isOwnerGuarded_eq h hgains]
    simp [findings, hissues]
  | true =>
    obtain ⟨hafter, hbefore⟩ : function.isOwnerGuarded after = true
        ∧ function.isOwnerGuarded before = false := by
      simpa [becomesGuarded_eq] using hgains
    have hopen : (function.openIssues.map (·.findingAt position function.snippet)).filter
          (fun finding => !finding.isUnprotected)
        = function.openIssues.map (·.findingAt position function.snippet) := by
      rw [List.filter_eq_self, List.forall_mem_map]
      intro check hcheck
      rw [isUnprotected_of_mem_openIssues position _ hcheck]
      rfl
    have hunprotected : (function.unprotectedIssues.map
          (·.findingAt position function.snippet)).filter
          (fun finding => !finding.isUnprotected) = [] := by
      rw [List.filter_eq_nil_iff, List.forall_mem_map]
      intro check hcheck
      rw [isUnprotected_of_mem_unprotectedIssues position _ hcheck]
      simp
    simp [findings, issues_eq, hafter, hbefore, List.filter_append, hopen, hunprotected]

end Function

/-! ### Functions and their lines -/

namespace Layout

/-- Whether a function with its signature at a position of a source becomes guarded. -/
def becomesGuardedAt (before after : List String) (source : Source) (position : Position)
    (layout : Layout) : Bool :=
  layout.functions.any fun (function, index) =>
    source.position index == position && function.becomesGuarded before after

/-- There is one function at most with its signature at a position. -/
theorem becomesGuardedAt_eq {source : Source} {layout : Layout}
    (hlayout : ofLines? source.lines = some layout) {function : Function} {index : Nat}
    (hmem : (function, index) ∈ layout.functions) (before after : List String) :
  layout.becomesGuardedAt before after source (source.position index)
    = function.becomesGuarded before after
  := by
  have hunique {other : Function} {number : Nat} (hother : (other, number) ∈ layout.functions)
      (hposition : source.position number = source.position index) :
      other = function := by
    have hnumber : number = index := by simpa [Source.position] using hposition
    subst hnumber
    obtain ⟨-, line, hline, -, rfl⟩ := (mem_functions_iff hlayout).mp hmem
    obtain ⟨-, line', hline', -, rfl⟩ := (mem_functions_iff hlayout).mp hother
    rw [hline, Option.some.injEq] at hline'
    rw [hline']
  rw [Bool.eq_iff_iff, becomesGuardedAt, List.any_eq_true]
  constructor
  · rintro ⟨⟨other, number⟩, hother, hguarded⟩
    rw [Bool.and_eq_true, beq_iff_eq] at hguarded
    rw [← hunique hother hguarded.1]
    apply hguarded.2
  · intro hguarded
    use (function, index), hmem
    simp [hguarded]

/-- With more modifiers exactly the findings of unprotected operations of functions that become
guarded are missing. -/
theorem functionFindings_of_subset {before after : List String} (h : before ⊆ after)
    {source : Source} {layout : Layout} (hlayout : ofLines? source.lines = some layout) :
  layout.functionFindings after source = (layout.functionFindings before source).filter
    fun finding => !(finding.isUnprotected
      && layout.becomesGuardedAt before after source finding.line)
  := by
  rw [functionFindings, functionFindings, List.filter_flatMap]
  apply List.flatMap_congr
  rintro ⟨function, index⟩ hmem
  apply (Function.findings_of_subset h (source.position index) function).trans
  apply List.filter_congr
  intro finding hfinding
  rw [Function.line_of_mem_findings hfinding, becomesGuardedAt_eq hlayout hmem]

/-- The findings of a preamble are about no unprotected operation. -/
theorem isUnprotected_of_mem_preambleFindings {source : Source} {layout : Layout}
    {finding : Finding} (h : finding ∈ layout.preambleFindings source) :
  finding.isUnprotected = false
  := by
  obtain ⟨entry, -, rfl⟩ := List.mem_map.mp h
  rfl

end Layout

/-! ### Settings that choose the same -/

/-- Settings with the same rules off, the same owner modifiers and the same window give the same
analysis, in whatever order they list them. -/
theorem analyze_congr {settings others : Settings}
    (hdisabled : ∀ id, id ∈ settings.disabled ↔ id ∈ others.disabled)
    (hguards : ∀ modifier, modifier ∈ settings.ownerGuards ↔ modifier ∈ others.ownerGuards)
    (hwindow : settings.window = others.window) (path : Option Path) (text : Text) :
  analyze settings path text = analyze others path text
  := by
  have hrules : settings.enabledRules = others.enabledRules := by
    apply List.filter_congr
    intro rule _
    rw [Bool.eq_iff_iff, Bool.not_eq_true', Bool.not_eq_true', ← Bool.not_eq_true,
      ← Bool.not_eq_true, List.contains_iff_mem, List.contains_iff_mem, hdisabled]
  have hreview : reviewFindings settings = reviewFindings others := by
    funext source layout
    rw [reviewFindings, reviewFindings, Layout.functionFindings, Layout.functionFindings]
    congr 1
    apply List.flatMap_congr
    rintro ⟨function, index⟩ -
    apply Function.findings_congr hguards
  have hcontract : contractFindings settings = contractFindings others := by
    funext source layout
    rw [contractFindings, contractFindings, hwindow, hreview, hrules]
  rw [analyze, analyze, textFindings, textFindings, sourceFindings, sourceFindings, hcontract]

/-! ### Merging -/

theorem isUnprotected_of_mem_lineFindings {settings : Settings} {source : Source}
    {finding : Finding} (h : finding ∈ lineFindings settings.enabledRules source) :
  finding.isUnprotected = false
  := by
  have hids : ∀ rule ∈ Rule.catalogue,
      Check.unprotectedChecks.any (fun check => check.id == rule.id) = false := by decide
  obtain ⟨rule, hrule, hid, -⟩ := exists_rule_of_mem_lineFindings h
  rw [Finding.isUnprotected, hid]
  apply hids rule (Settings.mem_catalogue hrule)

/-- Findings that are of no candidate's kind suppress no candidate. -/
theorem keptCandidates_filter_existing (window : Int) {existing candidates : List Finding}
    {p : Finding → Bool}
    (h : ∀ finding ∈ existing, p finding = false →
      ∀ candidate ∈ candidates, finding.ruleId ≠ candidate.ruleId) :
  keptCandidates window (existing.filter p) candidates
    = keptCandidates window existing candidates
  := by
  apply List.filter_congr
  intro candidate hcandidate
  congr 1
  rw [Bool.eq_iff_iff, List.any_eq_true, List.any_eq_true]
  constructor
  · rintro ⟨finding, hfinding, hnear⟩
    use finding, List.mem_of_mem_filter hfinding
  · rintro ⟨finding, hfinding, hnear⟩
    use finding
    refine ⟨List.mem_filter.mpr ⟨hfinding, ?_⟩, hnear⟩
    by_contra hp
    apply h finding hfinding (by simpa using hp) candidate hcandidate
    rw [Finding.isNear, Bool.and_eq_true, beq_iff_eq] at hnear
    apply hnear.1

section
variable {settings : Settings} {window : Int} {text : Text} {layout : Layout}

/-- Of the findings of the contract, those of unprotected operations are missing in the functions
that become guarded. -/
theorem reviewFindings_of_subset {before after : List String} (h : before ⊆ after)
    {source : Source} (hlayout : Layout.ofLines? source.lines = some layout) :
  reviewFindings (settings.withOwnerGuards after) source layout
    = (reviewFindings (settings.withOwnerGuards before) source layout).filter
      fun finding => !(finding.isUnprotected
        && layout.becomesGuardedAt before after source finding.line)
  := by
  have hpreamble : (layout.preambleFindings source).filter (fun finding =>
        !(finding.isUnprotected && layout.becomesGuardedAt before after source finding.line))
      = layout.preambleFindings source := by
    rw [List.filter_eq_self]
    intro finding hfinding
    rw [Layout.isUnprotected_of_mem_preambleFindings hfinding]
    rfl
  rw [reviewFindings, reviewFindings, List.filter_append, hpreamble]
  congr 1
  apply Layout.functionFindings_of_subset h hlayout

/-- The same findings of rules are merged, whatever modifiers guard a function. -/
theorem keptLineFindings_withOwnerGuards (guards : List String)
    (hlayout : Layout.ofLines? (Source.ofText text).lines = some layout) :
  keptLineFindings (settings.withOwnerGuards guards) window text layout
    = keptLineFindings (settings.withOwnerGuards []) window text layout
  := by
  have hrules : (settings.withOwnerGuards guards).enabledRules
      = (settings.withOwnerGuards []).enabledRules := rfl
  rw [keptLineFindings, keptLineFindings, hrules,
    reviewFindings_of_subset (List.nil_subset guards) hlayout]
  apply keptCandidates_filter_existing
  intro finding _ hmissing candidate hcandidate hid
  have hcandidate' := isUnprotected_of_mem_lineFindings hcandidate
  rw [Finding.isUnprotected, ← hid, ← Finding.isUnprotected] at hcandidate'
  simp [hcandidate'] at hmissing

/-- The issues of a text with a contract declaration are those of the preamble, those of the
functions and those that rules report, and of these only the ones of functions depend on the
modifiers that restrict a function to the owner.  With more modifiers, exactly the findings of
unprotected operations are missing in those functions that have one of the new modifiers and had
none of the old ones; all others stay as they are. -/
theorem analyze_ownerGuards (hwindow : settings.window = some window) (path : Option Path)
    (hcontract : ∃ line ∈ canonicalLines text, Signature.isContractDeclaration line = true) :
  ∃ (layout : Layout) (reports : List Finding),
    Layout.ofLines? (Source.ofText text).lines = some layout
    ∧ (∀ report ∈ reports, ∃ rule ∈ Rule.catalogue,
      rule.id = report.ruleId ∧ rule.Reports path text report)
    ∧ (∀ guards : List String,
      issuesOf path (analyze (settings.withOwnerGuards guards) path text)
        = placeIn path (layout.preambleFindings (Source.ofText text))
          ++ placeIn path (layout.functionFindings guards (Source.ofText text)) ++ reports)
    ∧ ∀ before after : List String, before ⊆ after →
      issuesOf path (analyze (settings.withOwnerGuards after) path text)
        = (issuesOf path (analyze (settings.withOwnerGuards before) path text)).filter
          fun finding => !(finding.isUnprotected
            && layout.becomesGuardedAt before after (Source.ofText text) finding.line)
  := by
  obtain ⟨layout, hlayout⟩ := exists_layout_of_canonicalLines hcontract
  let kept := keptLineFindings (settings.withOwnerGuards []) window text layout
  have hkept : kept ⊆ lineFindings settings.enabledRules (Source.ofText text) :=
    keptLineFindings_sublist.subset
  have hissues (guards : List String) :
      issuesOf path (analyze (settings.withOwnerGuards guards) path text)
        = placeIn path (reviewFindings (settings.withOwnerGuards guards) (Source.ofText text) layout
          ++ kept) := by
    have hwindow' : (settings.withOwnerGuards guards).window = some window := hwindow
    rw [issuesOf_analyze hwindow' hlayout, keptLineFindings_withOwnerGuards guards hlayout,
      placeIn_eq_map, placeIn_eq_map, placeIn_eq_map, List.map_append]
  refine ⟨layout, placeIn path kept, hlayout, ?_, ?_, ?_⟩
  · intro report hreport
    rw [placeIn_eq_map] at hreport
    obtain ⟨finding, hfinding, rfl⟩ := List.mem_map.mp hreport
    obtain ⟨rule, hrule, hid, hreports⟩ :=
      exists_reports_of_mem_lineFindings (hkept hfinding) path
    use rule, Settings.mem_catalogue hrule
    rw [Finding.ruleId_inFile]
    use hid
  · intro guards
    rw [hissues]
    simp only [placeIn_eq_map, reviewFindings, List.map_append]
    rfl
  · intro before after h
    have hfilter : kept.filter (fun finding => !(finding.isUnprotected
        && layout.becomesGuardedAt before after (Source.ofText text) finding.line)) = kept := by
      rw [List.filter_eq_self]
      intro finding hfinding
      rw [isUnprotected_of_mem_lineFindings (hkept hfinding)]
      rfl
    rw [hissues, hissues, reviewFindings_of_subset h hlayout, ← placeIn_filter,
      List.filter_append, hfilter]
    intro finding
    simp [Finding.isUnprotected]

end

/-- A contract with a function that has a modifier of its own and fails three checks, and a function
without modifiers. -/
def adminWithdrawal : Text :=
  ("contract C \x7b\nfunction withdraw() onlyAdmin \x7b\na.send(1); x -= 1; selfdestruct(a);\n"
    ++ "\x7d\nfunction upgrade() \x7b\nthrow;\n\x7d").toList

/-- The modifier guards the first function, which keeps its finding of reentrancy; the line that
this one suppresses stays suppressed, and the second function stays unprotected. -/
theorem analyze_ownerGuards_withdraw :
  (∃ line ∈ canonicalLines adminWithdrawal, Signature.isContractDeclaration line = true)
    ∧ ["onlyOwner"] ⊆ ["onlyOwner", "onlyAdmin"]
    ∧ (analyze (({} : Settings).withOwnerGuards ["onlyOwner"]) none adminWithdrawal).map
        (fun finding => (finding.ruleId, finding.line.number))
      = [("reentrancy", 2), ("unprotected-withdraw", 2), ("unprotected-selfdestruct", 2),
        ("unprotected-upgrade", 5), ("unchecked-send", 3), ("selfdestruct-usage", 3),
        ("throw-usage", 6)]
    ∧ (analyze (({} : Settings).withOwnerGuards ["onlyOwner", "onlyAdmin"]) none
        adminWithdrawal).map (fun finding => (finding.ruleId, finding.line.number))
      = [("reentrancy", 2), ("unprotected-upgrade", 5), ("unchecked-send", 3),
        ("selfdestruct-usage", 3), ("throw-usage", 6)]
    ∧ ∃ layout, Layout.ofLines? (Source.ofText adminWithdrawal).lines = some layout
      ∧ issuesOf none (analyze
          (({} : Settings).withOwnerGuards ["onlyOwner", "onlyAdmin"]) none adminWithdrawal)
        = (issuesOf none (analyze
          (({} : Settings).withOwnerGuards ["onlyOwner"]) none adminWithdrawal)).filter
          fun finding => !(finding.isUnprotected && layout.becomesGuardedAt ["onlyOwner"]
            ["onlyOwner", "onlyAdmin"] (Source.ofText adminWithdrawal) finding.line)
  := by
  have hcontract : ∃ line ∈ canonicalLines adminWithdrawal,
      Signature.isContractDeclaration line = true := by decide +kernel
  have hsubset : ["onlyOwner"] ⊆ ["onlyOwner", "onlyAdmin"] := by simp
  have hwindow : ({} : Settings).window = some 2 := rfl
  obtain ⟨layout, -, hlayout, -, -, hguards⟩ := analyze_ownerGuards hwindow none hcontract
  use hcontract, hsubset, by decide +kernel, by decide +kernel, layout, hlayout
  apply hguards ["onlyOwner"] ["onlyOwner", "onlyAdmin"] hsubset

end ContractLint
