import Mathlib.Logic.Basic
import ContractLint.Proofs.Path.RoundTrip
import ContractLint.Proofs.Tree.Frame

/-!
# Places and their paths

In a proper tree the entries of a directory have different names, each of which can stand in a path.
The path of a place where something is then leads back to that place: its text has the names of the
place, and no link is met on the way.
-/

namespace ContractLint.Tree

variable {α : Type}

/-! ### Proper trees -/

/-- Whether a name can be given to an entry of a directory. -/
def isEntryName (name : String) : Bool :=
  isPathPart name && name != ".."

mutual

/-- Whether all directories in a tree have entries with different names that can be given. -/
def isProper : Tree α → Bool
  | .directory entries => areProper entries
  | _ => true

/-- Whether entries have different names that can be given, and so on below them. -/
def areProper : List (String × Tree α) → Bool
  | [] => true
  | (name, tree) :: rest =>
    isEntryName name && (child? name rest).isNone && tree.isProper && areProper rest

end

theorem areProper_cons {name : String} {tree : Tree α} {rest : List (String × Tree α)} :
  areProper ((name, tree) :: rest) = true
    ↔ isEntryName name = true ∧ child? name rest = none ∧ tree.isProper = true
      ∧ areProper rest = true
  := by simp [areProper, and_assoc]

/-- An entry of a proper directory has a proper name and is proper. -/
theorem proper_of_child? {entries : List (String × Tree α)} (h : areProper entries = true)
    {name : String} {child : Tree α} (hchild : child? name entries = some child) :
  isEntryName name = true ∧ child.isProper = true
  := by
  induction entries with
  | nil => cases hchild
  | cons entry entries ih =>
    obtain ⟨other, tree⟩ := entry
    obtain ⟨hname, -, htree, hrest⟩ := areProper_cons.mp h
    rw [child?] at hchild
    split at hchild
    · next hsame =>
      cases hchild
      rw [← hsame]
      exact ⟨hname, htree⟩
    · apply ih hrest hchild

/-- The names that lead to something in a proper tree can be given to entries, and what they lead to
is proper. -/
theorem proper_of_get? {tree found : Tree α} (h : tree.isProper = true) {place : Place}
    (hget : tree.get? place = some found) :
  (∀ name ∈ place, isEntryName name = true) ∧ found.isProper = true
  := by
  induction place generalizing tree with
  | nil =>
    cases hget
    exact ⟨List.forall_mem_nil _, h⟩
  | cons name place ih =>
    cases tree with
    | file content => cases hget
    | link target => cases hget
    | directory entries =>
      obtain ⟨child, hchild, hbelow⟩ := Option.bind_eq_some_iff.mp hget
      rw [isProper] at h
      obtain ⟨hname, hproper⟩ := proper_of_child? h hchild
      obtain ⟨hnames, hfound⟩ := ih hproper hbelow
      rw [List.forall_mem_cons]
      exact ⟨⟨hname, hnames⟩, hfound⟩

/-! ### Walking along names -/

/-- On the way to something that is no link there is a directory, and no link follows. -/
theorem exists_child_of_get? {root found : Tree α} {here : Place} {name : String}
    {rest : List String} (hget : root.get? (here ++ name :: rest) = some found)
    (hlink : ∀ target, found ≠ .link target) :
  ∃ entries child, root.get? here = some (.directory entries) ∧ child? name entries = some child
    ∧ root.get? (here ++ [name]) = some child ∧ ∀ target, child ≠ .link target
  := by
  rw [get?_append] at hget
  obtain ⟨tree, hhere, hget⟩ := Option.bind_eq_some_iff.mp hget
  cases tree with
  | file content => cases hget
  | link target => cases hget
  | directory entries =>
    obtain ⟨child, hchild, hbelow⟩ := Option.bind_eq_some_iff.mp hget
    refine ⟨entries, child, hhere, hchild, ?_, ?_⟩
    · rw [get?_append, hhere, Option.bind_some, get?, hchild, Option.bind_some, get?]
    · rintro target rfl
      cases rest with
      | nil =>
        cases hbelow
        apply hlink target rfl
      | cons next rest => cases hbelow

section
variable {root found : Tree α} {here : Place} {names : List String}

theorem walk_of_get? (hnames : ∀ name ∈ names, name ≠ "..")
    (hget : root.get? (here ++ names) = some found) (hlink : ∀ target, found ≠ .link target)
    (links : Nat) (jump : Place → List String → Except AccessError (Place × Nat)) :
  walk root links jump here names = .ok (here ++ names, links)
  := by
  induction names generalizing here with
  | nil => rw [walk, List.append_nil]
  | cons name names ih =>
    rw [List.forall_mem_cons] at hnames
    obtain ⟨entries, child, hhere, hchild, -, hkind⟩ := exists_child_of_get? hget hlink
    have hrest : walk root links jump (here ++ [name]) names
        = .ok (here ++ name :: names, links) := by
      rw [ih hnames.2]
      · rw [List.append_assoc, List.singleton_append]
      · rw [List.append_assoc, List.singleton_append]
        apply hget
    rw [walk, hhere]
    simp only [if_neg hnames.1, hchild, hrest]

/-- Names that lead to something are followed to it, unless it is a link. -/
theorem follow_of_get? (hnames : ∀ name ∈ names, name ≠ "..")
    (hget : root.get? (here ++ names) = some found) (hlink : ∀ target, found ≠ .link target)
    (links : Nat) :
  follow root links here names = .ok (here ++ names, links)
  := by
  cases links <;> apply walk_of_get? hnames hget hlink

theorem canonicalWalk_of_get? (hnames : ∀ name ∈ names, name ≠ "..")
    (hget : root.get? (here ++ names) = some found) (hlink : ∀ target, found ≠ .link target)
    (jump : Place → String → List Pending → Canonical) :
  canonicalWalk root jump here (names.map .visit) = ⟨here ++ names, true⟩
  := by
  induction names generalizing here with
  | nil => rw [List.map_nil, canonicalWalk, List.append_nil]
  | cons name names ih =>
    rw [List.forall_mem_cons] at hnames
    obtain ⟨-, child, -, -, hnext, hkind⟩ := exists_child_of_get? hget hlink
    have hrest : canonicalWalk root jump (here ++ [name]) (names.map .visit)
        = ⟨here ++ name :: names, true⟩ := by
      rw [ih hnames.2]
      · rw [List.append_assoc, List.singleton_append]
      · rw [List.append_assoc, List.singleton_append]
        apply hget
    rw [List.map_cons, canonicalWalk]
    simp only [if_neg hnames.1, hnext, hrest]
    cases child with
    | link target => cases hkind target rfl
    | file content => rfl
    | directory below => rfl

/-- A path that leads to something is canonical, unless it is a link. -/
theorem canonicalFrom_of_get? (hnames : ∀ name ∈ names, name ≠ "..")
    (hget : root.get? (here ++ names) = some found) (hlink : ∀ target, found ≠ .link target)
    (links : Nat) :
  canonicalFrom root links here (names.map .visit) = ⟨here ++ names, true⟩
  := by
  cases links <;> apply canonicalWalk_of_get? hnames hget hlink

end

/-! ### Paths of places -/

section
variable {place : Place}

theorem isEntryName_iff {name : String} :
  isEntryName name = true ↔ isPathPart name = true ∧ name ≠ ".."
  := by simp [isEntryName]

/-- The parts of the path of a place are its names. -/
theorem parts_pathOf (h : ∀ name ∈ place, isEntryName name = true) :
  (pathOf place).parts = place
  := by
  rw [pathOf, Path.ofNames, List.filter_eq_self]
  intro name hname
  apply (isEntryName_iff.mp (h name hname)).1

/-- Different places have different paths. -/
theorem eq_of_pathOf_eq {other : Place} (h : ∀ name ∈ place, isEntryName name = true)
    (hother : ∀ name ∈ other, isEntryName name = true) (hpath : pathOf place = pathOf other) :
  place = other
  := by rw [← parts_pathOf h, ← parts_pathOf hother, hpath]

theorem toList_pathOf (h : ∀ name ∈ place, isEntryName name = true) :
  (toString (pathOf place)).toList = '/' :: List.intercalate ['/'] (place.map String.toList)
  := by
  rw [toString, Path.instToString, String.toList_ofList]
  nth_rewrite 2 [← parts_pathOf h]
  rfl

theorem startOf_pathOf (h : ∀ name ∈ place, isEntryName name = true) (current : Place) :
  startOf current (toString (pathOf place)) = []
  := by
  rw [startOf, toList_pathOf h]
  rfl

/-- The names in the path of a place are those of the place. -/
theorem namesOf_pathOf (h : ∀ name ∈ place, isEntryName name = true) :
  namesOf (toString (pathOf place)) = place
  := by
  rw [namesOf, toList_pathOf h, List.splitOn_cons_eq_if_modifyHead, if_pos (by decide)]
  by_cases hplace : place = []
  · subst hplace
    decide
  · have hparts : ∀ name ∈ place, name ≠ "" ∧ name ≠ "." ∧ '/' ∉ name.toList := by
      intro name hname
      apply Path.isPathPart_iff.mp (isEntryName_iff.mp (h name hname)).1
    have hsplit : (List.intercalate ['/'] (place.map String.toList)).splitOn '/'
        = place.map String.toList := by
      apply List.splitOn_intercalate
      · intro piece hpiece
        obtain ⟨name, hname, rfl⟩ := List.mem_map.mp hpiece
        apply (hparts name hname).2.2
      · simpa using hplace
    have hnames : (place.map String.toList).map String.ofList = place := by simp
    rw [hsplit, List.map_cons, hnames, List.filter_cons_of_neg (by decide), List.filter_eq_self]
    intro name hname
    simp [hparts name hname]

/-- The path of a place that is no link leads there. -/
theorem canonical_pathOf {root found : Tree α} (h : root.isProper = true)
    (hget : root.get? place = some found) (hlink : ∀ target, found ≠ .link target)
    (current : Place) :
  canonical root current (toString (pathOf place)) = ⟨place, true⟩
  := by
  have hentries := (proper_of_get? h hget).1
  rw [canonical, startOf_pathOf hentries, namesOf_pathOf hentries]
  apply canonicalFrom_of_get? _ hget hlink
  intro name hname
  apply (isEntryName_iff.mp (hentries name hname)).2

/-- The path of a file is read as that file. -/
theorem read_pathOf {root : Tree α} (h : root.isProper = true) {content : α}
    (hget : root.get? place = some (.file content)) (current : Place) :
  read root current (toString (pathOf place)) = .ok content
  := by
  have hentries := (proper_of_get? h hget).1
  have hfollow : follow root linkLimit [] place = .ok (place, linkLimit) := by
    apply follow_of_get? _ hget
    · rintro target ⟨⟩
    · intro name hname
      apply (isEntryName_iff.mp (hentries name hname)).2
  rw [read, access, startOf_pathOf hentries, namesOf_pathOf hentries, hfollow]
  simp only [bind, Except.bind, hget]

end

end ContractLint.Tree
