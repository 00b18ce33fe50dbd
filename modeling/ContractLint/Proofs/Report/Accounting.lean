import Mathlib.Algebra.GroupWithZero.Nat
import Mathlib.Algebra.Order.Group.Nat
import Mathlib.Data.List.Perm.Basic
import Mathlib.Data.Prod.Lex
import Mathlib.Data.String.Basic
import ContractLint.Proofs.Path.RoundTrip
import ContractLint.Proofs.Report.ExitCode

/-!
# What a report accounts for

A report divides its findings in four ways: by file for the tables, by file again for the list of
analysed files, by severity for the summary, and by rule for the fixes of a file.  All of them
account for the same findings, which are those that do more than inform.

* Divided by different keys among which are all keys of the findings, the findings are complete:
  none is left out and none is repeated.
* The findings of a file are sorted by their places, and those at one place stay in order.
* When no name of a file is faulty, the screen shows all of this and nothing else.
-/

namespace ContractLint

open Console

/-! ### Dividing by keys -/

section
variable {α κ : Type} [DecidableEq κ] {keys : List κ} {items : List α} {key : α → κ}

/-- Items divided by different keys, among which are the keys of all items, are all the items. -/
theorem flatMap_filter_perm (hkeys : keys.Nodup) (h : ∀ item ∈ items, key item ∈ keys) :
  (keys.flatMap fun k => items.filter (key · == k)).Perm items
  := by
  induction keys generalizing items with
  | nil =>
    cases items with
    | nil => rfl
    | cons item items => cases h item List.mem_cons_self
  | cons first keys ih =>
    rw [List.nodup_cons] at hkeys
    have hothers : (keys.flatMap fun k => items.filter (key · == k)) = keys.flatMap fun k =>
        (items.filter fun item => !(key item == first)).filter (key · == k) := by
      apply List.flatMap_congr
      intro k hk
      rw [List.filter_filter]
      apply List.filter_congr
      intro item _
      have hne : k ≠ first := fun heq => hkeys.1 (heq ▸ hk)
      grind
    have hrest : ∀ item ∈ items.filter fun item => !(key item == first), key item ∈ keys := by
      intro item hitem
      grind
    rw [List.flatMap_cons, hothers]
    apply ((ih hkeys.2 hrest).append_left _).trans
    apply List.filter_append_perm

/-- If each item has one of some different keys, then the items with each of these keys are all
items. -/
theorem sum_countP_eq_length (hkeys : keys.Nodup) (h : ∀ item ∈ items, key item ∈ keys) :
  (keys.map fun k => items.countP (key · == k)).sum = items.length
  := by
  have hlength := (flatMap_filter_perm hkeys h).length_eq
  rw [List.length_flatMap] at hlength
  rw [← hlength]
  simp only [List.countP_eq_length_filter]

end

/-! ### Sorting by a key -/

section
variable {α κ : Type} [LinearOrder κ] (key : α → κ) {le : α → α → Bool}
  (hle : ∀ a b, le a b = true ↔ key a ≤ key b)
include hle

/-- Comparing by a key is transitive. -/
theorem trans_of_key (a b c : α) (hab : le a b = true) (hbc : le b c = true) :
  le a c = true
  := by
  rw [hle] at *
  apply le_trans hab hbc

/-- Comparing by a key is total. -/
theorem total_of_key (a b : α) :
  (le a b || le b a) = true
  := by
  rw [Bool.or_eq_true, hle, hle]
  apply le_total

/-- Items sorted by a key are in the order of the key. -/
theorem pairwise_mergeSort_of_key (items : List α) :
  (items.mergeSort le).Pairwise fun a b => key a ≤ key b
  := by
  apply (List.pairwise_mergeSort (trans_of_key key hle) (total_of_key key hle) items).imp
  intro a b
  apply (hle a b).mp

/-- Items with the same key stay in the order in which they were. -/
theorem filter_mergeSort_of_key (items : List α) (k : κ) :
  (items.mergeSort le).filter (key · = k) = items.filter (key · = k)
  := by
  -- such items may stand before each other, so that they come out as they went in
  have hordered : (items.filter (key · = k)).Pairwise fun a b => le a b = true := by
    apply List.pairwise_of_forall_mem_list
    intro a ha b hb
    rw [List.mem_filter, decide_eq_true_iff] at ha hb
    rw [hle, ha.2, hb.2]
  have hsublist := (List.sublist_mergeSort (trans_of_key key hle) (total_of_key key hle) hordered
    List.filter_sublist).filter (key · = k)
  rw [List.filter_filter] at hsublist
  simp only [Bool.and_self] at hsublist
  symm
  apply hsublist.eq_of_length
  apply ((List.mergeSort_perm items le).filter _).length_eq.symm

end

/-! ### Places in a file -/

/-- The line and the column of a finding.  Places are ordered by line, and on one line by column. -/
def Finding.place (finding : Finding) : Lex (Nat × Nat) :=
  toLex (finding.location.line.number, finding.location.column.number)

theorem Finding.standsBefore_iff (a b : Finding) :
  a.standsBefore b = true ↔ a.place ≤ b.place
  := by
  simp [Finding.standsBefore, Finding.place, Prod.Lex.toLex_le_toLex, Position.number]

/-- The findings in the order of their places, and those at one place in the order in which they
were. -/
structure IsSortedByPlace (findings sorted : List Finding) : Prop where
  /-- They are the same findings. -/
  perm : sorted.Perm findings
  /-- They are in the order of their places. -/
  increasing : sorted.Pairwise fun a b => a.place ≤ b.place
  /-- Those at one place are in order. -/
  stable : ∀ place, sorted.filter (·.place = place) = findings.filter (·.place = place)

/-- Findings are sorted by line and column, and findings at one place stay in their order. -/
theorem isSortedByPlace_mergeSort (findings : List Finding) :
  IsSortedByPlace findings (findings.mergeSort Finding.standsBefore)
  where
  perm := List.mergeSort_perm findings Finding.standsBefore
  increasing := pairwise_mergeSort_of_key Finding.place Finding.standsBefore_iff findings
  stable := filter_mergeSort_of_key Finding.place Finding.standsBefore_iff findings

/-! ### What a screen shows -/

/-- Parts with an empty line after them, if there are any. -/
def spaced (parts : List (List Text)) : List (List Text) :=
  if parts.isEmpty then [] else parts ++ [[[]]]

/-- What the table of a file shows of a finding: its line, its severity, its rule and what it
says. -/
def Finding.cells (finding : Finding) : List Text :=
  [Text.ofInt finding.location.line.number, finding.severity.label.toList,
    '[' :: finding.ruleId.toList ++ [']'], finding.message.toList]

/-- The line that a finding is about with its number, if there is one to show. -/
def Finding.quotation? (width : Nat) (finding : Finding) : Option (List Text) :=
  match finding.location.snippet with
  | some "" | none => none
  | some snippet => some (paragraph width ("  ".toList
      ++ FileGroup.lineLabel finding.location.line.number ++ " | ".toList ++ snippet.toList))

/-- The line that tells how to fix a finding. -/
def Finding.fixLine (width : Nat) (finding : Finding) : List Text :=
  paragraph width ("  [Fix] [".toList ++ finding.ruleId.toList ++ "] ".toList
    ++ finding.recommendation.toList)

/-- What a report shows about a file with findings. -/
structure ShownFile where
  /-- The name of the file. -/
  file : String
  /-- The name as it is shown. -/
  name : Text
  /-- The findings of which the table has a row. -/
  findings : List Finding
  /-- The findings whose recommendation is shown. -/
  fixes : List Finding

/-- The name in a panel, a table with a row for each finding, the lines that the findings are about
and, if asked for, a line for each fix. -/
def ShownFile.parts (width : Nat) (verbose : Bool) (shown : ShownFile) : List (List Text) :=
  [[[]], panel .simple width none (paragraph (width - 4) shown.name),
    Grid.lines
      { frame := .simple
        columns :=
          [{ header := "Line".toList, alignment := .right, width := some 5 },
            { header := "Severity".toList, width := some 8 },
            { header := "Rule".toList, width := some 26, noWrap := true },
            { header := "Message".toList }]
        rows := shown.findings.map Finding.cells } width]
    ++ spaced (shown.findings.filterMap (Finding.quotation? width))
    ++ if verbose then spaced (shown.fixes.map (Finding.fixLine width)) else []

/-- What a report shows about a listed file. -/
structure ShownStatus where
  /-- The name of the file. -/
  file : String
  /-- The name as it is shown. -/
  name : Text
  /-- The number of findings. -/
  count : Nat

/-- A table with a row for each listed file, if there are any: its name, whether it is flagged and
the number of its findings. -/
def ShownStatus.parts (width : Nat) (statuses : List ShownStatus) : List (List Text) :=
  if statuses.isEmpty then []
  else
    [[[]], panel .rounded width none <| Grid.lines
      { title := some "Files Summary".toList
        columns :=
          [{ header := "File".toList }, { header := "Status".toList, width := some 10 },
            { header := "Findings".toList, alignment := .right, width := some 8 }]
        rows := statuses.map fun status =>
          [status.name, (if status.count = 0 then "OK" else "FLAGGED").toList,
            Text.ofInt status.count] } (width - 4)]

namespace FileGroup

/-- The fixes that are still to be shown of a rule: none if one has been shown, and otherwise that
of the first finding that recommends something. -/
theorem filter_fixesAfter (rule : String) (seen : List String) (findings : List Finding) :
  (fixesAfter seen findings).filter (·.ruleId == rule)
    = if rule ∈ seen then []
      else (findings.find? fun finding =>
        finding.ruleId == rule && finding.recommendation != "").toList
  := by
  induction findings generalizing seen with
  | nil => simp [fixesAfter]
  | cons finding findings ih =>
    rw [fixesAfter, List.find?_cons]
    grind

/-- Fixes are those of some findings, in their order. -/
theorem fixesAfter_sublist (seen : List String) (findings : List Finding) :
  (fixesAfter seen findings).Sublist findings
  := by
  induction findings generalizing seen with
  | nil => exact List.Sublist.slnil
  | cons finding findings ih =>
    rw [fixesAfter]
    split
    · exact (ih seen).cons finding
    · exact (ih _).cons_cons finding

end FileGroup

namespace Report

variable (report : Report)

/-! ### Tables -/

/-- Sorting the names of files loses none of them. -/
theorem perm_keys_byFile :
  ((report.byFile.map (·.1)).mergeSort fun a b => decide (a ≤ b)).Perm (report.byFile.map (·.1))
  := List.mergeSort_perm _ _

/-- The parts of a report are those of its files, by name, with the findings of each sorted. -/
theorem groups_eq :
  report.groups = ((report.byFile.map (·.1)).mergeSort fun a b => decide (a ≤ b)).map fun file =>
    ⟨file, (report.issues.filter (·.fileName == file)).mergeSort Finding.standsBefore⟩
  := by simp only [groups, getD_lookup_byFile]

/-- The findings of all parts are the findings of the report. -/
theorem flatMap_findings_groups_perm :
  (report.groups.flatMap FileGroup.findings).Perm report.issues
  := by
  have hnames : ((report.byFile.map (·.1)).mergeSort fun a b => decide (a ≤ b)).Nodup :=
    report.perm_keys_byFile.nodup_iff.mpr nodup_keys_gather
  have hkeys : ∀ finding ∈ report.issues,
      finding.fileName ∈ (report.byFile.map (·.1)).mergeSort fun a b => decide (a ≤ b) := by
    intro finding hfinding
    rw [List.mem_mergeSort, mem_keys_byFile]
    use finding
  rw [groups_eq, List.flatMap_map]
  apply List.Perm.trans _ (flatMap_filter_perm hnames hkeys)
  apply List.Perm.flatMap_left
  intro file _
  apply List.mergeSort_perm

/-- The parts come in the order of their names, none twice. -/
theorem pairwise_groups :
  report.groups.Pairwise fun a b => a.file < b.file
  := by
  have hle : ((report.byFile.map (·.1)).mergeSort fun a b => decide (a ≤ b)).Pairwise (· ≤ ·) := by
    apply pairwise_mergeSort_of_key id
    intro a b
    apply decide_eq_true_iff
  have hne := report.perm_keys_byFile.nodup_iff.mpr nodup_keys_gather
  rw [groups_eq, List.pairwise_map]
  apply (hle.and hne).imp
  rintro a b ⟨hab, hdifferent⟩
  apply lt_of_le_of_ne hab hdifferent

/-- Each part has the findings with its name, sorted. -/
theorem isSortedByPlace_of_mem_groups {group : FileGroup} (h : group ∈ report.groups) :
  IsSortedByPlace (report.issues.filter (·.fileName == group.file)) group.findings
  := by
  rw [groups_eq] at h
  obtain ⟨file, -, rfl⟩ := List.mem_map.mp h
  apply isSortedByPlace_mergeSort

/-! ### Severities -/

/-- The severities that are counted are those that occur, with their numbers. -/
theorem mem_severityCounts_iff {severity : Severity} {count : Nat} :
  (severity, count) ∈ report.severityCounts
    ↔ count ≠ 0 ∧ count = report.issues.countP (·.severity == severity)
  := by
  have hcounted : severity ∈ countedSeverities := by cases severity <;> decide
  simp only [severityCounts, List.mem_filterMap, lookup_countsBySeverity]
  grind

/-- The counts that are shown add up to the number of findings. -/
theorem sum_severityCounts :
  (report.severityCounts.map Prod.snd).sum = report.issues.length
  := by
  have hcounts : (countedSeverities.map fun severity =>
      report.issues.countP (·.severity == severity)).sum = report.issues.length := by
    apply sum_countP_eq_length
    · decide
    · intro finding _
      cases finding.severity <;> decide
  rw [← hcounts, severityCounts]
  simp only [lookup_countsBySeverity]
  induction countedSeverities with
  | nil => rfl
  | cons severity severities ih =>
    rw [List.filterMap_cons, List.map_cons, List.sum_cons, ← ih]
    split <;> grind

/-- The rows of the files table are the listed files, by name, with the numbers of their findings.
-/
theorem fileStatuses_eq :
  report.fileStatuses = (report.files.mergeSort fun a b => decide (toString a ≤ toString b)).map
    fun path => ⟨toString path, report.issues.countP (·.fileName == toString path)⟩
  := by simp only [fileStatuses, getD_lookup_countsByFile]

theorem map_file_fileStatuses_perm :
  (report.fileStatuses.map FileStatus.file).Perm (report.files.map toString)
  := by
  rw [fileStatuses_eq, List.map_map]
  apply (List.mergeSort_perm _ _).map

theorem pairwise_fileStatuses :
  report.fileStatuses.Pairwise fun a b => a.file ≤ b.file
  := by
  rw [fileStatuses_eq, List.pairwise_map]
  apply pairwise_mergeSort_of_key (toString : Path → String)
  intro a b
  apply decide_eq_true_iff

/-- The count of a listed file is the number of its findings. -/
theorem count_of_mem_fileStatuses {status : FileStatus} (h : status ∈ report.fileStatuses) :
  status.count = report.issues.countP (·.fileName == status.file)
  := by
  rw [fileStatuses_eq] at h
  obtain ⟨path, -, rfl⟩ := List.mem_map.mp h
  rfl

/-- A listed file has findings exactly when it has a part of its own. -/
theorem count_ne_zero_iff {status : FileStatus} (h : status ∈ report.fileStatuses) :
  status.count ≠ 0 ↔ ∃ group ∈ report.groups, group.file = status.file
  := by
  rw [exists_mem_groups_iff (p := (· = status.file)), report.count_of_mem_fileStatuses h,
    ← Nat.pos_iff_ne_zero, List.countP_pos_iff]
  simp only [beq_iff_eq]

/-- The counts of different files that account for all findings add up to their number. -/
theorem sum_fileStatuses (hfiles : report.files.Nodup)
    (h : ∀ finding ∈ report.issues, finding.fileName ∈ report.files.map toString) :
  (report.fileStatuses.map FileStatus.count).sum = report.issues.length
  := by
  have hinjective : Function.Injective (toString : Path → String) :=
    Function.LeftInverse.injective Path.ofString_toString
  have hcounts : report.fileStatuses.map FileStatus.count
      = (report.fileStatuses.map FileStatus.file).map fun file =>
        report.issues.countP (·.fileName == file) := by
    rw [List.map_map]
    apply List.map_congr_left
    intro status hstatus
    apply report.count_of_mem_fileStatuses hstatus
  rw [hcounts]
  apply sum_countP_eq_length
  · rw [report.map_file_fileStatuses_perm.nodup_iff]
    apply hfiles.map hinjective
  · intro finding hfinding
    rw [report.map_file_fileStatuses_perm.mem_iff]
    apply h finding hfinding

/-! ### The whole report -/

/-- What is shown about files with findings, about listed files and about severities accounts for
findings and lists files. -/
structure Accounts (findings : List Finding) (files : List Path) (shown : List ShownFile)
    (listed : List ShownStatus) (counts : List (Severity × Nat)) : Prop where
  /-- All tables together have a row for each finding. -/
  complete : (shown.flatMap ShownFile.findings).Perm findings
  /-- The tables are in strictly increasing order of the names of their files. -/
  names : shown.Pairwise fun a b => a.file < b.file
  /-- A table has the findings of its file, by line and column. -/
  tables : ∀ file ∈ shown, IsSortedByPlace (findings.filter (·.fileName == file.file)) file.findings
  /-- A fix is that of a finding in the table, and the fixes are in the same order. -/
  fixes : ∀ file ∈ shown, file.fixes.Sublist file.findings
  /-- For each rule the one fix is that of its first finding in the table that recommends something,
  and there is none if no finding does. -/
  fixOfRule : ∀ file ∈ shown, ∀ rule, file.fixes.filter (·.ruleId == rule)
    = (file.findings.find? fun finding =>
        finding.ruleId == rule && finding.recommendation != "").toList
  /-- There is a count for each severity that occurs. -/
  severities : ∀ severity count, (severity, count) ∈ counts
    ↔ count ≠ 0 ∧ count = findings.countP (·.severity == severity)
  /-- These counts add up to the number of findings. -/
  severityTotal : (counts.map Prod.snd).sum = findings.length
  /-- There is a row for each listed file. -/
  rows : (listed.map ShownStatus.file).Perm (files.map toString)
  /-- These rows are in increasing order of names. -/
  rowNames : listed.Pairwise fun a b => a.file ≤ b.file
  /-- A listed file has a count, and is flagged, exactly when it has a table. -/
  flagged : ∀ status ∈ listed, status.count ≠ 0 ↔ ∃ file ∈ shown, file.file = status.file
  /-- The counts of the listed files add up to the number of findings, if the files are different
  and all findings are in them. -/
  fileTotal : files.Nodup → (∀ finding ∈ findings, finding.fileName ∈ files.map toString) →
    (listed.map ShownStatus.count).sum = findings.length
  /-- A name above a table that cannot be taken for markup is shown as it is. -/
  plainNames : ∀ file ∈ shown, Markup.IsPlain file.file.toList → file.name = file.file.toList
  /-- So is a listed name. -/
  plainListed : ∀ status ∈ listed, Markup.IsPlain status.file.toList →
    status.name = status.file.toList

/-- The text that marked up text is shown as, or none if it is faulty. -/
def shownText (text : Text) : Text :=
  (Markup.render text).toOption.getD []

theorem shownText_eq {text name : Text} (h : Markup.render text = .ok name) :
  shownText text = name
  := by
  rw [shownText, h]
  rfl

end Report

/-- What is shown about a file. -/
def FileGroup.shown (group : FileGroup) : ShownFile where
  file := group.file
  name := Report.shownText ("[bold cyan]".toList ++ group.file.toList ++ "[/bold cyan]".toList)
  findings := group.findings
  fixes := group.fixes

/-- What is shown about a listed file. -/
def FileStatus.shown (status : FileStatus) : ShownStatus where
  file := status.file
  name := Report.shownText status.file.toList
  count := status.count

namespace Report

/-- What a report shows accounts for the findings that do more than inform. -/
theorem accounts (report : Report) :
  Accounts report.issues report.files (report.groups.map FileGroup.shown)
    (report.fileStatuses.map FileStatus.shown) report.severityCounts
  where
  complete := by
    rw [List.flatMap_map]
    apply report.flatMap_findings_groups_perm
  names := List.pairwise_map.mpr report.pairwise_groups
  tables := List.forall_mem_map.mpr fun _ => report.isSortedByPlace_of_mem_groups
  fixes := List.forall_mem_map.mpr fun group _ => FileGroup.fixesAfter_sublist [] group.findings
  fixOfRule := List.forall_mem_map.mpr fun group _ rule =>
    FileGroup.filter_fixesAfter rule [] group.findings
  severities _ _ := report.mem_severityCounts_iff
  severityTotal := report.sum_severityCounts
  rows := by
    rw [List.map_map]
    apply report.map_file_fileStatuses_perm
  rowNames := List.pairwise_map.mpr report.pairwise_fileStatuses
  flagged := by
    rw [List.forall_mem_map]
    intro status hstatus
    apply (report.count_ne_zero_iff hstatus).trans
    simp [FileGroup.shown, FileStatus.shown]
  fileTotal hfiles hfindings := by
    rw [List.map_map]
    apply report.sum_fileStatuses hfiles hfindings
  plainNames := List.forall_mem_map.mpr fun _ _ hplain =>
    shownText_eq (Markup.render_styled hplain)
  plainListed := List.forall_mem_map.mpr fun _ _ hplain =>
    shownText_eq (Markup.render_of_isPlain hplain)

end Report

end ContractLint
