import Mathlib.Data.List.Nodup
import ContractLint.Proofs.Tree.Lookup

/-!
# The order of entries

A directory lists its entries in some order.  Listing them in another order, in any number of
directories of a proper tree, gives a proper tree with the same files, links and directories at the
same places.
-/

namespace ContractLint.Tree

variable {α : Type}

/-! ### Entries by name -/

theorem child?_eq_none_iff {entries : List (String × Tree α)} {name : String} :
  child? name entries = none ↔ name ∉ entries.map Prod.fst
  := by
  induction entries with
  | nil => simp [child?]
  | cons entry entries ih =>
    obtain ⟨other, tree⟩ := entry
    by_cases h : other = name
    · simp [child?, h]
    · simp [child?, h, ih, Ne.symm h]

/-- Entries are proper if each of them is and their names are different. -/
theorem areProper_iff {entries : List (String × Tree α)} :
  areProper entries = true
    ↔ (∀ entry ∈ entries, isEntryName entry.1 = true ∧ entry.2.isProper = true)
      ∧ (entries.map Prod.fst).Nodup
  := by
  induction entries with
  | nil => simp [areProper]
  | cons entry rest ih =>
    obtain ⟨name, tree⟩ := entry
    simp only [areProper_cons, ih, child?_eq_none_iff, List.forall_mem_cons, List.map_cons,
      List.nodup_cons]
    tauto

/-- Among proper entries, looking up a name is finding the entry. -/
theorem child?_eq_some_iff {entries : List (String × Tree α)} (h : areProper entries = true)
    {name : String} {tree : Tree α} :
  child? name entries = some tree ↔ (name, tree) ∈ entries
  := by
  induction entries with
  | nil => simp [child?]
  | cons entry rest ih =>
    obtain ⟨other, first⟩ := entry
    obtain ⟨-, hnew, -, hrest⟩ := areProper_cons.mp h
    rw [child?]
    split
    · next hsame =>
      subst hsame
      have hother : (other, tree) ∉ rest := by
        intro hmem
        apply child?_eq_none_iff.mp hnew
        apply List.mem_map_of_mem hmem
      simp [hother, eq_comm]
    · next hne => simp [ih hrest, Ne.symm hne]

theorem child?_append (name : String) (before after : List (String × Tree α)) :
  child? name (before ++ after) = (child? name before).or (child? name after)
  := by
  induction before with
  | nil => rfl
  | cons entry before ih =>
    obtain ⟨other, tree⟩ := entry
    by_cases h : other = name
    · simp [child?, h]
    · simp [child?, h, ih]

section
variable {entries others : List (String × Tree α)}

theorem areProper_perm (hperm : entries.Perm others) (h : areProper entries = true) :
  areProper others = true
  := by
  obtain ⟨hentries, hnames⟩ := areProper_iff.mp h
  refine areProper_iff.mpr ⟨?_, (hperm.map Prod.fst).nodup_iff.mp hnames⟩
  intro entry hentry
  apply hentries entry (hperm.mem_iff.mpr hentry)

/-- The order of proper entries does not matter for looking up a name. -/
theorem child?_perm (hperm : entries.Perm others) (h : areProper entries = true)
    (name : String) :
  child? name entries = child? name others
  := by
  ext tree
  rw [child?_eq_some_iff h, child?_eq_some_iff (areProper_perm hperm h), hperm.mem_iff]

end

/-! ### Other orders -/

/-- A tree is another one with the entries of some directories in another order. -/
inductive Rearranged : Tree α → Tree α → Prop where
  /-- A tree as it stands. -/
  | refl (tree : Tree α) : Rearranged tree tree
  /-- The entries of the outermost directory in another order. -/
  | permute {entries others : List (String × Tree α)} (h : entries.Perm others) :
    Rearranged (.directory entries) (.directory others)
  /-- Another order somewhere within an entry. -/
  | within (before : List (String × Tree α)) (name : String) {child other : Tree α}
    (h : Rearranged child other) (after : List (String × Tree α)) :
    Rearranged (.directory (before ++ (name, child) :: after))
      (.directory (before ++ (name, other) :: after))
  /-- One change of the order after another. -/
  | trans {a b c : Tree α} (hab : Rearranged a b) (hbc : Rearranged b c) : Rearranged a c

/-- What a tree is, leaving out the entries of a directory. -/
def withoutEntries : Tree α → Tree α
  | .file content => .file content
  | .link target => .link target
  | .directory _ => .directory []

theorem isDirectory_withoutEntries (tree : Tree α) :
  tree.withoutEntries.isDirectory = tree.isDirectory
  := by cases tree <;> rfl

theorem withoutEntries_eq_iff {tree leaf : Tree α} (h : leaf.isDirectory = false) :
  tree.withoutEntries = leaf ↔ tree = leaf
  := by
  cases leaf with
  | file content => cases tree <;> simp [withoutEntries]
  | link target => cases tree <;> simp [withoutEntries]
  | directory entries => cases h

namespace Rearranged

theorem isProper_eq_true {a b : Tree α} (h : Rearranged a b) (hproper : a.isProper = true) :
  b.isProper = true
  := by
  induction h with
  | refl tree => apply hproper
  | permute hperm =>
    rw [isProper] at hproper ⊢
    apply areProper_perm hperm hproper
  | within before name h after ih =>
    simp only [isProper, areProper_iff, List.forall_mem_append, List.forall_mem_cons,
      List.map_append, List.map_cons] at hproper ⊢
    obtain ⟨⟨hbefore, ⟨hname, hchild⟩, hafter⟩, hnames⟩ := hproper
    exact ⟨⟨hbefore, ⟨hname, ih hchild⟩, hafter⟩, hnames⟩
  | trans hab hbc iha ihb => apply ihb (iha hproper)

/-- What is at a place stays there, up to the entries of a directory. -/
theorem withoutEntries_get? {a b : Tree α} (h : Rearranged a b) (hproper : a.isProper = true)
    (place : Place) :
  (a.get? place).map withoutEntries = (b.get? place).map withoutEntries
  := by
  induction h generalizing place with
  | refl tree => rfl
  | permute hperm =>
    cases place with
    | nil => rfl
    | cons wanted place =>
      rw [isProper] at hproper
      rw [get?, get?, child?_perm hperm hproper]
  | within before name h after ih =>
    cases place with
    | nil => rfl
    | cons wanted place =>
      have hchild :=
        (areProper_iff.mp hproper).1 _ (List.mem_append_right before List.mem_cons_self)
      rw [get?, get?, child?_append, child?_append]
      cases child? wanted before with
      | some tree => rfl
      | none =>
        rw [Option.none_or, Option.none_or, child?, child?]
        split
        · apply ih hchild.2
        · rfl
  | trans hab hbc iha ihb => rw [iha hproper, ihb (hab.isProper_eq_true hproper)]

variable {a b : Tree α}

/-- The files and links of a tree stay where they are. -/
theorem get?_eq_some_iff (h : Rearranged a b) (hproper : a.isProper = true) {leaf : Tree α}
    (hleaf : leaf.isDirectory = false) (place : Place) :
  a.get? place = some leaf ↔ b.get? place = some leaf
  := by
  have hsame (found : Option (Tree α)) :
      found.map withoutEntries = some leaf ↔ found = some leaf := by
    simp [Option.map_eq_some_iff, withoutEntries_eq_iff hleaf]
  rw [← hsame, h.withoutEntries_get? hproper, hsame]

/-- The directories of a tree stay where they are. -/
theorem hasDirectory_eq (h : Rearranged a b) (hproper : a.isProper = true) (place : Place) :
  a.hasDirectory place = b.hasDirectory place
  := by
  have hsame (found : Option (Tree α)) :
      (found.map withoutEntries).any isDirectory = found.any isDirectory := by
    cases found with
    | none => rfl
    | some tree => apply isDirectory_withoutEntries
  rw [hasDirectory, hasDirectory, ← hsame, h.withoutEntries_get? hproper, hsame]

/-- Paths lead to the same places. -/
theorem canonical_eq (h : Rearranged a b) (hproper : a.isProper = true) (current : Place)
    (text : String) :
  a.canonical current text = b.canonical current text
  := by
  apply SameLinks.canonical_eq
  intro place target
  apply h.get?_eq_some_iff hproper rfl

end Rearranged

end ContractLint.Tree
