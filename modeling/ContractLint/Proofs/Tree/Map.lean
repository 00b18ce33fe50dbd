import Mathlib.Logic.Basic
import ContractLint.Proofs.Tree.Frame

/-!
# Trees with other contents

Changing what the files of a tree hold keeps its shape.  Looking at a place, putting a tree there,
following links and making directories look at the shape only, so that they can be done before or
after the contents are changed.
-/

namespace ContractLint.Tree

variable {α β : Type}

mutual

/-- The tree with other contents in its files. -/
def map (f : α → β) : Tree α → Tree β
  | .file content => .file (f content)
  | .link target => .link target
  | .directory entries => .directory (mapEntries f entries)

/-- The entries of a directory with other contents in their files. -/
def mapEntries (f : α → β) : List (String × Tree α) → List (String × Tree β)
  | [] => []
  | (name, tree) :: rest => (name, tree.map f) :: mapEntries f rest

end

variable (f : α → β)

/-! ### Looking -/

/-- Entries of mapped trees have the same names. -/
@[simp]
theorem child?_mapEntries (name : String) (entries : List (String × Tree α)) :
  child? name (mapEntries f entries) = (child? name entries).map (map f)
  := by
  induction entries with
  | nil => rfl
  | cons entry entries ih =>
    obtain ⟨other, tree⟩ := entry
    rw [mapEntries, child?, child?, ih]
    by_cases h : other = name
    · simp [h]
    · simp [h]

/-- What stands at a place is mapped along with the tree. -/
@[simp]
theorem get?_map (tree : Tree α) (place : Place) :
  (tree.map f).get? place = (tree.get? place).map (map f)
  := by
  induction place generalizing tree with
  | nil => rfl
  | cons name place ih =>
    cases tree with
    | file content => rfl
    | link target => rfl
    | directory entries =>
      rw [map, get?, get?, child?_mapEntries, Option.bind_map, Option.map_bind]
      congr 1
      funext tree
      apply ih

@[simp]
theorem isDirectory_map (tree : Tree α) :
  (tree.map f).isDirectory = tree.isDirectory
  := by cases tree <;> rfl

/-- Mapping keeps which places are directories. -/
@[simp]
theorem hasDirectory_map (tree : Tree α) (place : Place) :
  (tree.map f).hasDirectory place = tree.hasDirectory place
  := by
  rw [hasDirectory, hasDirectory, get?_map, Option.any_map]
  congr 1
  funext tree
  apply isDirectory_map

/-! ### Putting -/

/-- Changing an entry and then mapping is mapping and then changing it. -/
theorem mapEntries_change (name : String) {g : Option (Tree α) → Tree α}
    {h : Option (Tree β) → Tree β} (hmap : ∀ old, (g old).map f = h (old.map (map f)))
    (entries : List (String × Tree α)) :
  mapEntries f (change name g entries) = change name h (mapEntries f entries)
  := by
  induction entries with
  | nil => rw [change, mapEntries, mapEntries, mapEntries, change, hmap, Option.map_none]
  | cons entry entries ih =>
    obtain ⟨other, tree⟩ := entry
    rw [change, mapEntries, change]
    split
    · rw [mapEntries, hmap, Option.map_some]
    · rw [mapEntries, ih]

/-- Putting a tree at a place and then mapping is mapping both first. -/
theorem map_put (new : Tree α) (place : Place) (tree : Tree α) :
  (put new place tree).map f = put (new.map f) place (tree.map f)
  := by
  induction place generalizing tree with
  | nil => rfl
  | cons name place ih =>
    cases tree with
    | file content => rfl
    | link target => rfl
    | directory entries =>
      rw [put, map, map, put]
      congr 1
      apply mapEntries_change
      intro old
      rw [ih]
      cases old <;> rfl

/-! ### Following paths -/

/-- Mapping keeps the links of a tree. -/
theorem sameLinks_map (f : α → α) (tree : Tree α) :
  (tree.map f).SameLinks tree
  := by
  intro place target
  rw [get?_map, Option.map_eq_some_iff]
  constructor
  · rintro ⟨found, hfound, hlink⟩
    cases found with
    | link other =>
      cases hlink
      apply hfound
    | _ => cases hlink
  · intro hfound
    exact ⟨.link target, hfound, rfl⟩

@[simp]
theorem canonical_map (f : α → α) (tree : Tree α) (current : Place) (text : String) :
  canonical (tree.map f) current text = canonical tree current text
  := (sameLinks_map f tree).canonical_eq current text

theorem walk_map (root : Tree α) (links : Nat)
    (jump : Place → List String → Except AccessError (Place × Nat)) (here : Place)
    (names : List String) :
  walk (root.map f) links jump here names = walk root links jump here names
  := by
  fun_induction walk root links jump here names with
  | case1 here => rw [walk]
  | case2 here rest entries hget ih =>
    rw [walk, get?_map, hget]
    simp [map, ih]
  | case3 here name rest entries hget hname hchild =>
    rw [walk, get?_map, hget]
    simp [map, hname, hchild]
  | case4 here name rest entries hget hname target hchild =>
    rw [walk, get?_map, hget]
    simp [map, hname, hchild]
  | case5 here name rest entries hget hname child hlink hchild ih =>
    rw [walk, get?_map, hget]
    cases hkind : child with
    | link target => cases hlink target hkind
    | file content => simp [map, hname, hchild, hkind, ih]
    | directory below => simp [map, hname, hchild, hkind, ih]
  | case6 here name rest hget =>
    rw [walk, get?_map]
    cases hkind : root.get? here with
    | none => rfl
    | some tree =>
      cases tree with
      | file content => rfl
      | link target => rfl
      | directory entries => cases hget entries hkind

/-- Names are followed in the same way in a mapped tree. -/
theorem follow_map (root : Tree α) (links : Nat) (here : Place) (names : List String) :
  follow (root.map f) links here names = follow root links here names
  := by
  induction links generalizing here names with
  | zero => apply walk_map
  | succ links ih =>
    have hjump : follow (root.map f) links = follow root links := by
      funext here names
      apply ih
    rw [follow, follow, walk_map, hjump]

/-- The same directories are missing in a tree with other contents. -/
@[simp]
theorem missingNames_map (root : Tree α) (here : Place) (names : List String) :
  missingNames (root.map f) here names = missingNames root here names
  := by
  induction names generalizing here with
  | nil => rfl
  | cons name names ih =>
    rw [missingNames, missingNames, get?_map, follow_map, ih]
    cases root.get? (here ++ [name]) with
    | none => rfl
    | some tree =>
      cases follow root linkLimit here [name] with
      | error error => rfl
      | ok reached => simp only [Option.map_some, ih]

/-- Directories are made in the same way in a tree with other contents. -/
theorem makeDirectories_map (root : Tree α) (here : Place) (names : List String) :
  makeDirectories (root.map f) here names
    = (makeDirectories root here names).map fun (tree, there) => (tree.map f, there)
  := by
  induction names generalizing root here with
  | nil =>
    rw [makeDirectories, makeDirectories, hasDirectory_map]
    split <;> rfl
  | cons name names ih =>
    rw [makeDirectories, makeDirectories]
    split
    · apply ih
    · rw [get?_map, follow_map]
      cases hget : root.get? (here ++ [name]) with
      | none =>
        rw [Option.map_none]
        apply Eq.trans _ (ih _ _)
        rw [map_put, map, mapEntries]
      | some tree =>
        rw [Option.map_some]
        cases hfollow : follow root linkLimit here [name] with
        | error error => rfl
        | ok reached =>
          obtain ⟨place, links⟩ := reached
          simp only [hasDirectory_map]
          split
          · apply ih
          · rfl

end ContractLint.Tree
