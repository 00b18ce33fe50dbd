import Mathlib.Data.String.Basic
import ContractLint.History.Table
import ContractLint.Proofs.Finding.Plain

/-!
# Listed histories

A history table holds what was saved, numbered from one in the order in which it was saved.  The
history of a user lists exactly what was saved for that user, each once, the newest first; sources
come back as they were saved, and so do findings out of their JSON texts, but for empty snippets.
-/

namespace ContractLint

/-! ### Saves -/

/-- An analysis as it is handed to a history, with the time of the save. -/
structure Save where
  /-- The text that was analysed. -/
  source : String
  /-- Its findings. -/
  findings : List Finding
  /-- The user the analysis belongs to. -/
  user : String
  /-- When the analysis is stored. -/
  createdAt : String

namespace Save

/-- The row of a save with a number. -/
def row (id : Nat) (save : Save) : Row :=
  ⟨id, save.source, resultsText (save.findings.map Finding.toJson), save.user, save.createdAt⟩

/-- The record that is listed for a save with a number. -/
def record (id : Nat) (save : Save) : Record :=
  ⟨id, save.source, save.findings.map Finding.readBack, save.user, save.createdAt⟩

/-- All findings of a save have an identifier, so that they can be read back. -/
def IsReadable (save : Save) : Prop :=
  ∀ finding ∈ save.findings, finding.ruleId ≠ ""

/-- The saves with their numbers. -/
def numbered (saves : List Save) : List (Save × Nat) :=
  saves.zipIdx 1

end Save

/-! ### Tables of saves -/

namespace Table

/-- The table that holds some saves. -/
def ofSaves (saves : List Save) : Table where
  rows := (Save.numbered saves).map fun (save, id) => save.row id
  lastId := saves.length

/-- A row that is inserted is the one of the last save. -/
theorem insert_ofSaves (saves : List Save) (source : String) (findings : List Finding)
    (user createdAt : String) :
  (ofSaves saves).insert source (resultsText (findings.map Finding.toJson)) user createdAt
    = ofSaves (saves ++ [⟨source, findings, user, createdAt⟩])
  := by
  rw [insert, ofSaves, ofSaves, Save.numbered, Save.numbered, List.zipIdx_append, List.map_append,
    List.length_append]
  simp [Save.row, Nat.add_comm]

/-! ### The order of a listing -/

/-- A later time comes first, and then a larger number. -/
theorem listedBefore_iff {a b : Row} :
  listedBefore a b = true
    ↔ b.createdAt < a.createdAt ∨ a.createdAt = b.createdAt ∧ b.id ≤ a.id
  := by simp [listedBefore]

theorem listedBefore_trans (a b c : Row) (hab : listedBefore a b = true)
    (hbc : listedBefore b c = true) :
  listedBefore a c = true
  := by
  rw [listedBefore_iff] at hab hbc ⊢
  obtain hab | ⟨hab, hab'⟩ := hab
  · left
    obtain hbc | ⟨hbc, -⟩ := hbc
    · apply lt_trans hbc hab
    · rw [← hbc]
      apply hab
  · rw [hab]
    obtain hbc | ⟨hbc, hbc'⟩ := hbc
    · left
      apply hbc
    · right
      use hbc
      apply Nat.le_trans hbc' hab'

theorem listedBefore_total (a b : Row) :
  (listedBefore a b || listedBefore b a) = true
  := by
  rw [Bool.or_eq_true, listedBefore_iff, listedBefore_iff]
  obtain hlt | heq | hgt := lt_trichotomy a.createdAt b.createdAt
  · right
    left
    apply hlt
  · obtain hle | hle := Nat.le_total a.id b.id
    · right
      right
      use heq.symm
    · left
      right
      use heq
  · left
    left
    apply hgt

/-! ### Histories -/

/-- Findings with identifiers are read back from the text under which they are stored. -/
theorem findingsOf_resultsText {findings : List Finding}
    (h : ∀ finding ∈ findings, finding.ruleId ≠ "") :
  findingsOf (resultsText (findings.map Finding.toJson)) = .ok (findings.map Finding.readBack)
  := by
  rw [findingsOf, resultsText, Json.render, String.toList_ofList,
    (Finding.isPlain_array findings).parse?_write]
  simp only [Finding.ofJsonList_map_toJson h]
  rfl

/-- A row is read as the record of its save. -/
theorem recordOf_row {save : Save} (h : save.IsReadable) (id : Nat) :
  recordOf (save.row id) = .ok (save.record id)
  := by
  rw [recordOf, Save.row, findingsOf_resultsText h]
  rfl

/-- The rows of saves are read as their records. -/
theorem recordsOf_map_row {entries : List (Save × Nat)}
    (h : ∀ entry ∈ entries, entry.1.IsReadable) :
  recordsOf (entries.map fun (save, id) => save.row id)
    = .ok (entries.map fun (save, id) => save.record id)
  := by
  induction entries with
  | nil => rfl
  | cons entry entries ih =>
    rw [List.forall_mem_cons] at h
    rw [List.map_cons, recordsOf, recordOf_row h.1, ih h.2]
    rfl

/-- The saves for a user in the order in which they are listed. -/
def listed (user : String) (saves : List Save) : List (Save × Nat) :=
  ((Save.numbered saves).filter (·.1.user == user)).mergeSort
    fun a b => listedBefore (a.1.row a.2) (b.1.row b.2)

/-- The rows of a user are those of the saves for that user, as they are listed. -/
theorem rowsOf_ofSaves (saves : List Save) (user : String) :
  (ofSaves saves).rowsOf user = (listed user saves).map fun (save, id) => save.row id
  := by
  rw [rowsOf, ofSaves, listed, List.filter_map]
  symm
  apply List.map_mergeSort
  intro a _ b _
  rfl

/-- Exactly the saves for a user are listed. -/
theorem listed_perm (user : String) (saves : List Save) :
  List.Perm (listed user saves) ((Save.numbered saves).filter (·.1.user == user))
  := List.mergeSort_perm _ _

/-- The saves for a user are listed the newest first, and of the same time the one with the larger
number first. -/
theorem pairwise_listed (user : String) (saves : List Save) :
  (listed user saves).Pairwise fun a b =>
    b.1.createdAt < a.1.createdAt ∨ a.1.createdAt = b.1.createdAt ∧ b.2 < a.2
  := by
  have hsorted : (listed user saves).Pairwise
      fun a b => listedBefore (a.1.row a.2) (b.1.row b.2) = true := by
    apply List.pairwise_mergeSort
    · intro a b c
      apply listedBefore_trans
    · intro a b
      apply listedBefore_total
  -- the numbers are all different, so that the order is strict
  have hnumbers : ((listed user saves).map Prod.snd).Nodup := by
    rw [((listed_perm user saves).map Prod.snd).nodup_iff]
    have hnodup : ((Save.numbered saves).map Prod.snd).Nodup := by
      rw [Save.numbered, List.zipIdx_map_snd]
      exact List.nodup_range'
    apply List.Nodup.sublist _ hnodup
    apply List.filter_sublist.map
  rw [List.Nodup, List.pairwise_map] at hnumbers
  apply hsorted.imp₂ _ hnumbers
  intro a b hbefore hne
  obtain hnewer | ⟨hsame, hle⟩ := listedBefore_iff.mp hbefore
  · left
    apply hnewer
  · right
    use hsame
    apply Nat.lt_of_le_of_ne hle (Ne.symm hne)

/-- The history of a user in a table of saves that can be read back. -/
theorem history_ofSaves {saves : List Save} (h : ∀ save ∈ saves, save.IsReadable)
    (user : String) :
  (ofSaves saves).history user = .ok ((listed user saves).map fun (save, id) => save.record id)
  := by
  rw [history, rowsOf_ofSaves]
  apply recordsOf_map_row
  rintro ⟨save, id⟩ hentry
  have hnumbered := List.mem_of_mem_filter ((listed_perm user saves).mem_iff.mp hentry)
  apply h save (List.fst_mem_of_mem_zipIdx hnumbered)

end Table

end ContractLint
