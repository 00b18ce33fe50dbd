import Mathlib.Tactic.Use
import ContractLint.History.Files
import ContractLint.Proofs.Tree.Frame

/-!
# Database files

Opening a database adds directories and at most one empty file to a tree, which changes no database
that is there.  Writing a database to its file changes that database and no other.
-/

namespace ContractLint.FileTree

/-! ### Trees that keep what is there -/

/-- Another tree has the same links and databases and all the files of a tree. -/
structure Keeps (before after : FileTree) : Prop where
  /-- The links are the same. -/
  links : after.SameLinks before
  /-- The databases are the same. -/
  databases : ∀ place, after.databaseAt place = before.databaseAt place
  /-- The files are still there. -/
  files : ∀ place content, before.get? place = some (.file content) →
    after.get? place = some (.file content)

theorem get?_eq_file_iff {tree : FileTree} {place : Place} {content : FileContent} :
  tree.get? place = some (.file content) ↔ tree.leaf? place = some (.file content)
  := by simp [Tree.leaf?_eq_some_iff, Tree.isDirectory]

theorem get?_eq_link_iff {tree : FileTree} {place : Place} {target : String} :
  tree.get? place = some (.link target) ↔ tree.leaf? place = some (.link target)
  := by simp [Tree.leaf?_eq_some_iff, Tree.isDirectory]

/-- The database at a place is that of the leaf there. -/
theorem databaseAt_some (tree : FileTree) (place : Place) :
  tree.databaseAt (some place) = match tree.leaf? place with
    | some (.file content) => content.asDatabase
    | _ => .empty
  := by
  rw [databaseAt]
  cases hget : tree.get? place with
  | none => simp [Tree.leaf?, hget]
  | some found =>
    cases found with
    | file content => rw [get?_eq_file_iff.mp hget]
    | link target => rw [get?_eq_link_iff.mp hget]
    | directory entries => simp [Tree.leaf?, hget, Tree.isDirectory]

theorem databaseAt_congr {a b : FileTree} {place : Place} (h : a.leaf? place = b.leaf? place) :
  a.databaseAt (some place) = b.databaseAt (some place)
  := by rw [databaseAt_some, databaseAt_some, h]

/-- The database at a place is that of the file there. -/
theorem databaseAt_of_get? {tree : FileTree} {place : Place} {content : FileContent}
    (h : tree.get? place = some (.file content)) :
  tree.databaseAt (some place) = content.asDatabase
  := by rw [databaseAt_some, get?_eq_file_iff.mp h]

/-- A table is there only if a file holds it. -/
theorem get?_of_databaseAt_eq_table {tree : FileTree} {place : Place} {table : Table}
    (h : tree.databaseAt (some place) = .table table) :
  tree.get? place = some (.file (.database table))
  := by
  rw [databaseAt] at h
  split at h
  · next content hfile =>
    rw [hfile]
    rw [FileContent.asDatabase.eq_def] at h
    split at h <;> cases h
    rfl
  · cases h

/-- Trees with the same leaves have the same links, databases and files. -/
theorem Keeps.of_leaf? {before after : FileTree}
    (h : ∀ place, after.leaf? place = before.leaf? place) :
  Keeps before after
  where
  links := by
    intro place target
    rw [get?_eq_link_iff, get?_eq_link_iff, h]
  databases := by
    rintro (_ | place)
    · rfl
    · apply databaseAt_congr (h place)
  files := by
    intro place content
    rw [get?_eq_file_iff, get?_eq_file_iff, h]
    exact id

theorem Keeps.refl (tree : FileTree) : Keeps tree tree :=
  .of_leaf? fun _ => rfl

theorem Keeps.trans {a b c : FileTree} (hab : Keeps a b) (hbc : Keeps b c) :
  Keeps a c
  where
  links place target := (hbc.links place target).trans (hab.links place target)
  databases place := (hbc.databases place).trans (hab.databases place)
  files place content h := hbc.files place content (hab.files place content h)

/-! ### Putting files -/

section
variable {tree : FileTree} {place : Place} {content : FileContent}

/-- Nothing but a file is at a place. -/
def OnlyFileAt (tree : FileTree) (place : Place) : Prop :=
  ∀ found, tree.get? place = some found → ∃ content, found = .file content

theorem OnlyFileAt.hasDirectory (h : tree.OnlyFileAt place) :
  tree.hasDirectory place = false
  := by
  rw [Tree.hasDirectory, Option.any_eq_false]
  intro found hfound
  obtain ⟨content, rfl⟩ := h found hfound
  rfl

/-- Putting a file in the place of a file changes no other leaf. -/
theorem leaf?_put_file_of_ne (h : tree.OnlyFileAt place) {other : Place} (hne : other ≠ place) :
  (Tree.put (.file content) place tree).leaf? other = tree.leaf? other
  := Tree.leaf?_put_leaf_of_ne rfl h.hasDirectory hne

/-- Putting a file in the place of a file changes no link. -/
theorem sameLinks_put_file (h : tree.OnlyFileAt place)
    (hput : (Tree.put (.file content) place tree).get? place = some (.file content)) :
  (Tree.put (.file content) place tree).SameLinks tree
  := by
  intro other target
  by_cases hother : other = place
  · subst hother
    constructor
    · intro hlink
      rw [hput] at hlink
      cases hlink
    · intro hlink
      obtain ⟨content, hcontent⟩ := h _ hlink
      cases hcontent
  · rw [get?_eq_link_iff, get?_eq_link_iff, leaf?_put_file_of_ne h hother]

end

/-! ### Opening -/

/-- Making the directories before a database changes no database. -/
theorem Keeps.makeParent {tree parents : FileTree} {current : Place} {limit : Nat}
    {database : String} (h : tree.makeParent current limit database = .ok parents) :
  Keeps tree parents
  := by
  rw [FileTree.makeParent] at h
  split at h
  · cases h
    apply Keeps.refl
  · simp only at h
    split at h
    · cases h
    · split at h
      · cases h
      · split at h
        · next hmade =>
          cases h
          apply Keeps.of_leaf?
          apply Tree.leaf?_makeDirectories hmade
        · cases h

/-- A new empty file stands for a database that was not there. -/
theorem Keeps.put_empty {tree : FileTree} {place : Place} (hmissing : tree.get? place = none)
    (hput : (Tree.put (.file (.octets [])) place tree).get? place = some (.file (.octets []))) :
  Keeps tree (Tree.put (.file (.octets [])) place tree)
  := by
  have honly : tree.OnlyFileAt place := by
    intro found hfound
    rw [hmissing] at hfound
    cases hfound
  exact {
    links := sameLinks_put_file honly hput
    databases := by
      rintro (_ | other)
      · rfl
      · by_cases hother : other = place
        · rw [hother, databaseAt_of_get? hput, databaseAt, hmissing]
          rfl
        · apply databaseAt_congr (leaf?_put_file_of_ne honly hother)
    files := by
      intro other content hfile
      have hother : other ≠ place := by
        rintro rfl
        rw [hmissing] at hfile
        cases hfile
      rw [get?_eq_file_iff, leaf?_put_file_of_ne honly hother, ← get?_eq_file_iff]
      apply hfile }

/-- A database without a name or in memory needs no file; any other one is the file at the place
that its path names. -/
theorem openDatabase_spec {tree opened : FileTree} {current : Place} {database : String}
    {place : Option Place} (h : tree.openDatabase current database = .ok (opened, place)) :
  Keeps tree opened
  ∧ if database = ":memory:" ∨ database = "" then place = none
    else place = some (Tree.canonical tree current database).place
      ∧ ∃ content, opened.get? (Tree.canonical tree current database).place = some (.file content)
  := by
  rw [openDatabase] at h
  by_cases hmemory : database = ":memory:" ∨ database = ""
  · rw [if_pos (by simpa using hmemory)] at h
    cases h
    rw [if_pos hmemory]
    use Keeps.refl tree
  · rw [if_neg (by simpa using hmemory)] at h
    rw [if_neg hmemory]
    split at h
    · cases h
    · simp only at h
      split at h
      · cases h
      · split at h
        · next content hfile =>
          cases h
          use Keeps.refl tree, rfl, content
        · cases h
        · next hmissing =>
          split at h
          · next hparent =>
            cases h
            have hplace : (Tree.canonical tree current database).place ≠ [] := by
              intro hroot
              rw [hroot] at hmissing
              cases hmissing
            have hput := Tree.get?_put_of_hasDirectory hplace hparent
              (.file (FileContent.octets []))
            use Keeps.put_empty hmissing hput, rfl, .octets []
          · cases h

/-! ### Writing -/

/-- Writing what a database holds already changes nothing. -/
theorem writeDatabase_databaseAt (tree : FileTree) (place : Option Place) :
  tree.writeDatabase place (tree.databaseAt place) = tree
  := by
  cases place with
  | none => rfl
  | some place =>
    cases hdatabase : tree.databaseAt (some place) with
    | table table => apply Tree.put_eq_self (get?_of_databaseAt_eq_table hdatabase)
    | empty => rfl
    | foreign => rfl

section
variable {tree : FileTree} {place : Place} {content : FileContent} {database : Database}

/-- A database that is written to its file is there, and nothing else changes. -/
theorem writeDatabase_spec (hfile : tree.get? place = some (.file content))
    (hdatabase : (∃ table, database = .table table)
      ∨ database = tree.databaseAt (some place)) :
  (tree.writeDatabase (some place) database).SameLinks tree
  ∧ (∀ there found, tree.get? there = some (.file found) →
    ∃ content', (tree.writeDatabase (some place) database).get? there = some (.file content'))
  ∧ (tree.writeDatabase (some place) database).databaseAt (some place) = database
  ∧ ∀ other ≠ place, (tree.writeDatabase (some place) database).databaseAt (some other)
    = tree.databaseAt (some other)
  := by
  by_cases htable : ∃ table, database = .table table
  · obtain ⟨table, rfl⟩ := htable
    have honly : tree.OnlyFileAt place := by
      intro found hfound
      rw [hfile] at hfound
      cases hfound
      use content
    have hput := Tree.get?_put_of_get? hfile (.file (FileContent.database table))
    refine ⟨sameLinks_put_file honly hput, ?_, databaseAt_of_get? hput, ?_⟩
    · intro there found hfound
      by_cases hthere : there = place
      · rw [hthere]
        exact ⟨.database table, hput⟩
      · use found
        rw [get?_eq_file_iff] at hfound ⊢
        rw [← hfound]
        apply leaf?_put_file_of_ne honly hthere
    · intro other hother
      apply databaseAt_congr (leaf?_put_file_of_ne honly hother)
  · obtain rfl := hdatabase.resolve_left htable
    rw [writeDatabase_databaseAt]
    refine ⟨(Keeps.refl tree).links, ?_, rfl, fun _ _ => rfl⟩
    intro there found hfound
    exact ⟨found, hfound⟩

end

end ContractLint.FileTree
