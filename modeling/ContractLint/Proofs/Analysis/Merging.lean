import ContractLint.Proofs.Analysis.Suppression

/-!
# Laws of the merge

Candidates are compared with the findings that were there before the merge and never with each
other.

* What is appended depends neither on the order of the findings that are there nor on the other
  candidates, so that candidates may be merged in one go or in portions.
* A window that is not negative covers every candidate by a finding of the merged list, so that
  merging the same candidates again appends nothing.
* A wider window covers more candidates and keeps fewer.
-/

namespace ContractLint

variable {window : Int} {existing candidates : List Finding} {candidate : Finding}

/-! ### Covered candidates -/

/-- A finding of the candidate's kind is at most `window` lines away from it. -/
def IsCovered (window : Int) (existing : List Finding) (candidate : Finding) : Prop :=
  ∃ finding ∈ existing, finding.ruleId = candidate.ruleId
    ∧ |(finding.line.number : Int) - (candidate.line.number : Int)| ≤ window

instance : Decidable (IsCovered window existing candidate) :=
  inferInstanceAs (Decidable (∃ finding ∈ existing, _))

/-- A candidate is near to something that is there exactly when it is covered. -/
theorem any_isNear_iff :
  existing.any (·.isNear window candidate) = true ↔ IsCovered window existing candidate
  := by
  rw [List.any_eq_true, IsCovered]
  simp only [Finding.isNear_iff]

/-- The order of what is there does not matter. -/
theorem isCovered_perm {reordered : List Finding} (h : reordered.Perm existing) :
  IsCovered window reordered candidate ↔ IsCovered window existing candidate
  := by simp only [IsCovered, h.mem_iff]

/-- What is covered is so in any wider window. -/
theorem IsCovered.widen {wider : Int} (hle : window ≤ wider)
    (h : IsCovered window existing candidate) :
  IsCovered wider existing candidate
  := by
  obtain ⟨finding, hfinding, hkind, hdistance⟩ := h
  use finding, hfinding, hkind
  apply hdistance.trans hle

/-- After the merge every candidate is covered: by a finding that it gave way to, or by itself. -/
theorem isCovered_merge (hwindow : 0 ≤ window) (h : candidate ∈ candidates) :
  IsCovered window (merge window existing candidates) candidate
  := by
  obtain hkept | ⟨finding, hfinding, hnear⟩ := mem_merge_or_isNear window existing h
  · use candidate, hkept, rfl
    simpa using hwindow
  · use finding, mem_merge_of_mem hfinding window candidates
    apply Finding.isNear_iff.mp hnear

/-! ### Kept candidates -/

/-- The candidates that are kept are those that are not covered. -/
theorem keptCandidates_eq_filter (window : Int) (existing candidates : List Finding) :
  keptCandidates window existing candidates
    = candidates.filter fun candidate => ¬ IsCovered window existing candidate
  := by
  apply List.filter_congr
  intro candidate _
  rw [Bool.eq_iff_iff, Bool.not_eq_true', ← Bool.not_eq_true, any_isNear_iff,
    decide_eq_true_iff]

/-- Which candidates are kept depends only on which of them are covered. -/
theorem keptCandidates_congr {other : List Finding}
    (h : ∀ candidate ∈ candidates,
      IsCovered window other candidate ↔ IsCovered window existing candidate) :
  keptCandidates window other candidates = keptCandidates window existing candidates
  := by
  rw [keptCandidates_eq_filter, keptCandidates_eq_filter]
  apply List.filter_congr
  intro candidate hcandidate
  simp only [h candidate hcandidate]

theorem keptCandidates_append (window : Int) (existing candidates more : List Finding) :
  keptCandidates window existing (candidates ++ more)
    = keptCandidates window existing candidates ++ keptCandidates window existing more
  := List.filter_append candidates more

/-- A merge covers all its candidates. -/
theorem keptCandidates_merge (hwindow : 0 ≤ window) :
  keptCandidates window (merge window existing candidates) candidates = []
  := by
  rw [keptCandidates_eq_filter, List.filter_eq_nil_iff]
  intro candidate hcandidate
  simpa using isCovered_merge hwindow hcandidate

/-- A wider window keeps no candidate that a narrower one drops. -/
theorem keptCandidates_sublist_of_le {wider : Int} (hle : window ≤ wider) :
  (keptCandidates wider existing candidates).Sublist (keptCandidates window existing candidates)
  := by
  rw [keptCandidates_eq_filter, keptCandidates_eq_filter]
  apply List.monotone_filter_right
  intro candidate hfar
  rw [decide_eq_true_iff] at hfar ⊢
  intro hcovered
  apply hfar (hcovered.widen hle)

/-! ### The merge -/

/-- What the merge puts after the findings that are there. -/
def appended (window : Int) (existing candidates : List Finding) : List Finding :=
  (merge window existing candidates).drop existing.length

theorem appended_eq (window : Int) (existing candidates : List Finding) :
  appended window existing candidates = keptCandidates window existing candidates
  := by rw [appended, merge_eq_append, List.drop_left]

/-- The merge leaves the findings that are there and appends the candidates that none of them
covers, in order and as often as they occur.  What it appends is the same for every order of the
findings that are there, and what it appends of further candidates is the same with and without the
candidates before them.  With a window that is not negative, merging the same candidates again
changes nothing, and what a wider window leaves is part of what a narrower one leaves. -/
theorem merge_laws (window : Int) (existing candidates : List Finding) :
  merge window existing candidates
      = existing ++ candidates.filter (fun candidate => ¬ IsCovered window existing candidate)
  ∧ (∀ reordered : List Finding, reordered.Perm existing →
      appended window reordered candidates = appended window existing candidates)
  ∧ (∀ more : List Finding, merge window existing (candidates ++ more)
      = merge window existing candidates ++ appended window existing more)
  ∧ (0 ≤ window → merge window (merge window existing candidates) candidates
      = merge window existing candidates)
  ∧ ∀ wider : Int, window ≤ wider →
      (merge wider existing candidates).Sublist (merge window existing candidates)
  := by
  refine ⟨?_, ?_, ?_, ?_, ?_⟩
  · rw [merge_eq_append, keptCandidates_eq_filter]
  · intro reordered hperm
    rw [appended_eq, appended_eq]
    apply keptCandidates_congr
    intro candidate _
    apply isCovered_perm hperm
  · intro more
    rw [merge_eq_append, merge_eq_append, appended_eq, keptCandidates_append, List.append_assoc]
  · intro hwindow
    rw [merge_eq_append window (merge window existing candidates), keptCandidates_merge hwindow,
      List.append_nil]
  · intro wider hle
    rw [merge_eq_append, merge_eq_append]
    apply (keptCandidates_sublist_of_le hle).append_left

/-- The report of a rule on a line, without the line itself. -/
def Rule.reportAt (rule : Rule) (index : Nat) : Finding :=
  rule.findingAt ⟨index⟩ none

/-- Findings of two kinds on one line. -/
def crowdedReview : List Finding :=
  [Rule.txOrigin.reportAt 4, Rule.reentrancy.reportAt 4]

/-- Candidates of one kind on the lines after it, the last one twice. -/
def crowdedLines : List Finding :=
  [6, 7, 8, 8].map Rule.reentrancy.reportAt

/-- Two lines from the finding that is there, a candidate gives way to it.  The next two are near to
each other only, and a repeated one stays repeated. -/
theorem merge_laws_crowdedLines :
  merge 2 crowdedReview crowdedLines
    = crowdedReview ++ [7, 8, 8].map Rule.reentrancy.reportAt
  ∧ appended 2 crowdedReview.reverse crowdedLines = appended 2 crowdedReview crowdedLines
  ∧ merge 2 (merge 2 crowdedReview crowdedLines) crowdedLines
    = merge 2 crowdedReview crowdedLines
  ∧ (merge 3 crowdedReview crowdedLines).Sublist (merge 2 crowdedReview crowdedLines)
  := by
  obtain ⟨hmerge, hreordered, -, hagain, hwider⟩ := merge_laws 2 crowdedReview crowdedLines
  refine ⟨?_, ?_, hagain (by decide), hwider 3 (by decide)⟩
  · rw [hmerge]
    decide
  · apply hreordered
    apply List.reverse_perm

end ContractLint
