import Mathlib.Data.List.Induction
import Mathlib.Data.List.Nodup
import ContractLint.Report.Basic

/-!
# What a report gathers

A pass over findings gathers values under keys.  Under a key there is what the findings with that
key add up to, one after the other, and the keys are those of the findings, each once.  So the
passes of a report, by file and by severity, are filters and counts of the findings that do more
than inform.
-/

namespace ContractLint

/-! ### Changing a value -/

section
variable {κ β : Type} [DecidableEq κ]

/-- Changing the entry of a key changes what is found there and nothing else. -/
theorem lookup_alterAt (key : κ) (change : Option β → β) (table : List (κ × β)) (k : κ) :
  (alterAt key change table).lookup k
    = if k = key then some (change (table.lookup key)) else table.lookup k
  := by
  induction table with
  | nil =>
    rw [alterAt, List.lookup_cons, List.lookup_nil, List.lookup_nil]
    grind
  | cons entry table ih =>
    obtain ⟨other, value⟩ := entry
    rw [alterAt]
    grind

/-- Changing the entry of a key keeps the keys in their order, with a new one at the end. -/
theorem map_fst_alterAt (key : κ) (change : Option β → β) (table : List (κ × β)) :
  (alterAt key change table).map Prod.fst
    = if key ∈ table.map Prod.fst then table.map Prod.fst else table.map Prod.fst ++ [key]
  := by
  induction table with
  | nil => rfl
  | cons entry table ih =>
    obtain ⟨other, value⟩ := entry
    rw [alterAt]
    grind

end

/-! ### Passes over findings -/

section
variable {κ β : Type} [DecidableEq κ] {key? : Finding → Option κ}
  {add : Option β → Finding → β} {findings : List Finding}

/-- One more finding is gathered at the end. -/
theorem gather_concat (finding : Finding) :
  gather key? add (findings ++ [finding])
    = match key? finding with
      | some key => alterAt key (add · finding) (gather key? add findings)
      | none => gather key? add findings
  := by
  rw [gather, List.foldl_append, List.foldl_cons, List.foldl_nil]
  rfl

/-- Under a key there is what the findings with that key add up to. -/
theorem lookup_gather (key : κ) :
  (gather key? add findings).lookup key
    = (findings.filter (key? · = some key)).foldl (fun held finding => some (add held finding))
        none
  := by
  induction findings using List.reverseRecOn with
  | nil => rfl
  | append_singleton findings finding ih =>
    rw [gather_concat, List.filter_append, List.foldl_append, ← ih]
    cases hkey : key? finding with
    | none => simp [hkey]
    | some other =>
      rw [lookup_alterAt]
      by_cases heq : key = other
      · subst heq
        simp [hkey]
      · simp [hkey, heq, Ne.symm heq]

/-- The keys of what was gathered are those of the findings. -/
theorem mem_keys_gather {key : κ} :
  key ∈ (gather key? add findings).map Prod.fst ↔ ∃ finding ∈ findings, key? finding = some key
  := by
  induction findings using List.reverseRecOn with
  | nil => simp [gather]
  | append_singleton findings finding ih =>
    rw [gather_concat]
    cases hkey : key? finding with
    | none =>
      rw [ih]
      grind
    | some other =>
      rw [map_fst_alterAt]
      grind

/-- No key is gathered twice. -/
theorem nodup_keys_gather :
  ((gather key? add findings).map Prod.fst).Nodup
  := by
  induction findings using List.reverseRecOn with
  | nil => exact List.nodup_nil
  | append_singleton findings finding ih =>
    rw [gather_concat]
    cases key? finding with
    | none => apply ih
    | some key =>
      rw [map_fst_alterAt]
      split
      · apply ih
      · rename_i hkey
        rw [← List.concat_eq_append]
        apply ih.concat hkey

/-- The findings themselves, gathered one after the other. -/
theorem foldl_append_getD (findings : List Finding) :
  (findings.foldl (fun held finding => some (held.getD [] ++ [finding])) none).getD [] = findings
  := by
  induction findings using List.reverseRecOn with
  | nil => rfl
  | append_singleton findings finding ih =>
    rw [List.foldl_append, List.foldl_cons, List.foldl_nil, Option.getD_some, ih]

/-- The number of findings, counted one after the other; there is none for no findings. -/
theorem foldl_count (findings : List Finding) :
  findings.foldl (fun count _ => some (count.getD 0 + 1)) none
    = if findings = [] then none else some findings.length
  := by
  induction findings using List.reverseRecOn with
  | nil => rfl
  | append_singleton findings finding ih =>
    rw [List.foldl_append, List.foldl_cons, List.foldl_nil, ih]
    cases findings <;> simp

end

/-! ### The passes of a report -/

namespace Report

variable (report : Report)

/-- The findings that do more than inform. -/
def issues : List Finding :=
  report.findings.filter (!·.isInfo)

theorem mem_issues {finding : Finding} :
  finding ∈ report.issues ↔ finding ∈ report.findings ∧ finding.isInfo = false
  := by simp [issues]

/-- The findings with a key are those issues that have it. -/
theorem filter_key_eq {κ : Type} [DecidableEq κ] (key : Finding → κ) (k : κ) :
  report.findings.filter
      (fun finding => (if finding.isInfo then none else some (key finding)) = some k)
    = report.issues.filter (key · == k)
  := by
  rw [issues, List.filter_filter]
  apply List.filter_congr
  intro finding _
  cases finding.isInfo <;> simp [beq_eq_decide]

/-- Under the name of a file are its findings that do more than inform. -/
theorem getD_lookup_byFile (file : String) :
  (report.byFile.lookup file).getD [] = report.issues.filter (·.fileName == file)
  := by rw [byFile, lookup_gather, filter_key_eq, foldl_append_getD]

theorem mem_keys_byFile {file : String} :
  file ∈ report.byFile.map (·.1) ↔ ∃ finding ∈ report.issues, finding.fileName = file
  := by
  rw [byFile, mem_keys_gather]
  simp only [mem_issues]
  grind

/-- The count under the name of a file is the number of its findings. -/
theorem getD_lookup_countsByFile (file : String) :
  (report.countsByFile.lookup file).getD 0 = report.issues.countP (·.fileName == file)
  := by
  rw [countsByFile, lookup_gather, filter_key_eq, foldl_count, List.countP_eq_length_filter]
  split
  · rename_i hnone
    rw [hnone]
    rfl
  · rfl

/-- A severity is counted when it occurs. -/
theorem lookup_countsBySeverity (severity : Severity) :
  report.countsBySeverity.lookup severity
    = if report.issues.countP (·.severity == severity) = 0 then none
      else some (report.issues.countP (·.severity == severity))
  := by
  rw [countsBySeverity, lookup_gather, filter_key_eq, foldl_count, List.countP_eq_length_filter]
  simp only [List.length_eq_zero_iff]

end Report

end ContractLint
