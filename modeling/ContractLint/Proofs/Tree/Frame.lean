import Mathlib.Logic.Basic
import ContractLint.Tree.Access

/-!
# What a change of a tree leaves in place

The leaves of a tree are its files and links.  Putting a tree at a place keeps every leaf at another
place, and making directories keeps all leaves.  Where a path leads depends on the links of a tree
only, so that it stays the same when files and directories are added.
-/

namespace ContractLint.Tree

variable {α : Type}

/-! ### Leaves -/

/-- The file or link at a place. -/
def leaf? (tree : Tree α) (place : Place) : Option (Tree α) :=
  (tree.get? place).filter fun tree => !tree.isDirectory

theorem leaf?_eq_some_iff {tree leaf : Tree α} {place : Place} :
  tree.leaf? place = some leaf ↔ tree.get? place = some leaf ∧ leaf.isDirectory = false
  := by simp [leaf?, Option.filter_eq_some_iff]

theorem leaf?_of_get?_eq_none {tree : Tree α} {place : Place} (h : tree.get? place = none) :
  tree.leaf? place = none
  := by simp [leaf?, h]

theorem get?_append (tree : Tree α) (place rest : Place) :
  tree.get? (place ++ rest) = (tree.get? place).bind fun tree => tree.get? rest
  := by
  induction place generalizing tree with
  | nil => rfl
  | cons name place ih =>
    cases tree with
    | file content => rfl
    | link target => rfl
    | directory entries =>
      rw [List.cons_append, get?, get?, Option.bind_assoc]
      congr 1
      funext tree
      apply ih

/-- There are no leaves below a leaf. -/
theorem leaf?_cons_of_not_isDirectory {tree : Tree α} (h : tree.isDirectory = false)
    (name : String) (rest : Place) :
  tree.leaf? (name :: rest) = none
  := by
  cases tree with
  | file content => rfl
  | link target => rfl
  | directory entries => cases h

/-- A missing entry of a directory is as good as an empty directory. -/
theorem leaf?_directory_cons (entries : List (String × Tree α)) (name : String) (rest : Place) :
  (directory entries).leaf? (name :: rest)
    = ((child? name entries).getD (.directory [])).leaf? rest
  := by
  cases hchild : child? name entries with
  | some tree => rw [leaf?, get?, hchild, Option.bind_some, Option.getD_some, leaf?]
  | none =>
    rw [leaf?, get?, hchild, Option.bind_none, Option.getD_none]
    cases rest <;> rfl

theorem leaf?_empty (place : Place) :
  (directory (α := α) []).leaf? place = none
  := by cases place <;> rfl

/-- There is no leaf on the way to a tree. -/
theorem leaf?_of_get?_append {tree below : Tree α} {place : Place} {name : String} {rest : Place}
    (h : tree.get? (place ++ name :: rest) = some below) :
  tree.leaf? place = none
  := by
  apply Option.eq_none_iff_forall_ne_some.mpr
  intro leaf hleaf
  obtain ⟨hget, hisDirectory⟩ := leaf?_eq_some_iff.mp hleaf
  rw [get?_append, hget, Option.bind_some] at h
  cases leaf with
  | file content => cases h
  | link target => cases h
  | directory entries => cases hisDirectory

/-! ### Putting trees -/

theorem child?_change_self (name : String) (f : Option (Tree α) → Tree α)
    (entries : List (String × Tree α)) :
  child? name (change name f entries) = some (f (child? name entries))
  := by
  induction entries with
  | nil => simp [change, child?]
  | cons entry entries ih =>
    obtain ⟨other, tree⟩ := entry
    by_cases h : other = name
    · simp [change, child?, h]
    · simp [change, child?, h, ih]

theorem child?_change_of_ne {name other : String} (h : other ≠ name)
    (f : Option (Tree α) → Tree α) (entries : List (String × Tree α)) :
  child? other (change name f entries) = child? other entries
  := by
  induction entries with
  | nil => simp [change, child?, Ne.symm h]
  | cons entry entries ih =>
    obtain ⟨first, tree⟩ := entry
    by_cases hfirst : first = name
    · simp [change, child?, hfirst, Ne.symm h]
    · simp [change, child?, hfirst, ih]

/-- Putting a tree somewhere keeps a leaf, or its absence, unless the new tree differs there. -/
theorem leaf?_put {new tree : Tree α} {place other : Place}
    (h : ∀ rest, other = place ++ rest → new.leaf? rest = tree.leaf? other) :
  (put new place tree).leaf? other = tree.leaf? other
  := by
  induction place generalizing tree other with
  | nil => apply h other rfl
  | cons name place ih =>
    cases tree with
    | file content => rfl
    | link target => rfl
    | directory entries =>
      cases other with
      | nil => rfl
      | cons first other =>
        rw [put, leaf?_directory_cons, leaf?_directory_cons]
        by_cases hfirst : first = name
        · subst hfirst
          rw [child?_change_self, Option.getD_some]
          apply ih
          rintro rest rfl
          rw [← leaf?_directory_cons]
          apply h rest rfl
        · rw [child?_change_of_ne hfirst]

/-- A tree that is put at a place is there, when no leaf is on the way. -/
theorem get?_put_self {new tree : Tree α} {place : Place}
    (h : ∀ before name rest, place = before ++ name :: rest → tree.leaf? before = none) :
  (put new place tree).get? place = some new
  := by
  induction place generalizing tree with
  | nil => rfl
  | cons name place ih =>
    have hroot : tree.leaf? [] = none := h [] name place rfl
    cases tree with
    | file content => cases hroot
    | link target => cases hroot
    | directory entries =>
      rw [put, get?, child?_change_self, Option.bind_some]
      apply ih
      rintro before first rest rfl
      rw [← leaf?_directory_cons]
      apply h (name :: before) first rest rfl

theorem change_eq_self {name : String} {f : Option (Tree α) → Tree α}
    {entries : List (String × Tree α)} {tree : Tree α} (hchild : child? name entries = some tree)
    (hsame : f (some tree) = tree) :
  change name f entries = entries
  := by
  induction entries with
  | nil => cases hchild
  | cons entry entries ih =>
    obtain ⟨other, first⟩ := entry
    rw [child?] at hchild
    rw [change]
    split at hchild
    · next hother =>
      cases hchild
      rw [if_pos hother, hsame]
    · next hother => rw [if_neg hother, ih hchild]

/-- Putting a tree where it is changes nothing. -/
theorem put_eq_self {tree found : Tree α} {place : Place} (h : tree.get? place = some found) :
  put found place tree = tree
  := by
  induction place generalizing tree with
  | nil =>
    cases h
    rfl
  | cons name place ih =>
    cases tree with
    | file content => rfl
    | link target => rfl
    | directory entries =>
      obtain ⟨child, hchild, hbelow⟩ := Option.bind_eq_some_iff.mp h
      rw [put, change_eq_self hchild]
      rw [Option.getD_some, ih hbelow]

/-- A file in a tree where a file was put is that file, or was there before. -/
theorem get?_of_get?_put_file {content other : α} {place there : Place} {tree : Tree α}
    (h : (put (.file content) place tree).get? there = some (.file other)) :
  other = content ∨ tree.get? there = some (.file other)
  := by
  induction place generalizing tree there with
  | nil =>
    left
    cases there with
    | nil =>
      cases h
      rfl
    | cons first there => cases h
  | cons name place ih =>
    cases tree with
    | file old =>
      right
      apply h
    | link target =>
      right
      apply h
    | directory entries =>
      cases there with
      | nil => cases h
      | cons first there =>
        rw [put, get?] at h
        rw [get?]
        by_cases hfirst : first = name
        · rw [hfirst, child?_change_self, Option.bind_some] at h
          apply (ih h).imp_right
          intro hbelow
          rw [hfirst]
          cases hchild : child? name entries with
          | some child =>
            rw [hchild] at hbelow
            apply hbelow
          | none =>
            rw [hchild] at hbelow
            cases there <;> cases hbelow
        · right
          rw [child?_change_of_ne hfirst] at h
          apply h

section
variable {leaf tree : Tree α} {place : Place}

/-- A leaf that is put where no directory is keeps the leaves at other places. -/
theorem leaf?_put_leaf_of_ne (hleaf : leaf.isDirectory = false)
    (htree : tree.hasDirectory place = false) {other : Place} (h : other ≠ place) :
  (put leaf place tree).leaf? other = tree.leaf? other
  := by
  apply leaf?_put
  intro rest hother
  cases rest with
  | nil =>
    rw [List.append_nil] at hother
    cases h hother
  | cons name rest =>
    rw [leaf?_cons_of_not_isDirectory hleaf, hother]
    symm
    apply leaf?_of_get?_eq_none
    rw [get?_append]
    cases hget : tree.get? place with
    | none => rfl
    | some old =>
      cases old with
      | file content => rfl
      | link target => rfl
      | directory entries => simp [hasDirectory, hget, isDirectory] at htree

/-- A tree that replaces another one is there. -/
theorem get?_put_of_get? {old : Tree α} (h : tree.get? place = some old) (new : Tree α) :
  (put new place tree).get? place = some new
  := by
  apply get?_put_self
  rintro before name rest rfl
  apply leaf?_of_get?_append h

/-- A tree that is put into a directory is there. -/
theorem get?_put_of_hasDirectory (hplace : place ≠ [])
    (h : tree.hasDirectory place.dropLast = true) (new : Tree α) :
  (put new place tree).get? place = some new
  := by
  obtain ⟨parent, hparent, hisDirectory⟩ := (Option.any_eq_true _ _).mp h
  apply get?_put_self
  rintro before name rest rfl
  rw [List.dropLast_append_of_ne_nil (List.cons_ne_nil name rest)] at hparent
  cases rest with
  | nil =>
    rw [List.dropLast_singleton, List.append_nil] at hparent
    simp [leaf?, hparent, hisDirectory]
  | cons next rest => apply leaf?_of_get?_append hparent

end

/-- An empty directory that is put where nothing was keeps all leaves. -/
theorem leaf?_put_empty {tree : Tree α} {place : Place} (h : tree.get? place = none)
    (other : Place) :
  (put (.directory []) place tree).leaf? other = tree.leaf? other
  := by
  apply leaf?_put
  rintro rest rfl
  rw [leaf?_empty]
  symm
  apply leaf?_of_get?_eq_none
  rw [get?_append, h, Option.bind_none]

theorem leaf?_makeDirectories {root tree : Tree α} {here there : Place} {names : List String}
    (h : makeDirectories root here names = .ok (tree, there)) (place : Place) :
  tree.leaf? place = root.leaf? place
  := by
  induction names generalizing root here with
  | nil =>
    rw [makeDirectories] at h
    split at h <;> cases h
    rfl
  | cons name names ih =>
    rw [makeDirectories] at h
    split at h
    · apply ih h
    · split at h
      · next hmissing =>
        rw [ih h, leaf?_put_empty hmissing]
      · split at h
        · cases h
        · split at h
          · apply ih h
          · cases h

/-! ### Where paths lead -/

/-- Two trees have the same links. -/
def SameLinks (a b : Tree α) : Prop :=
  ∀ place target, a.get? place = some (.link target) ↔ b.get? place = some (.link target)

theorem canonicalWalk_congr {a b : Tree α} (h : a.SameLinks b)
    (jump : Place → String → List Pending → Canonical) (here : Place) (pending : List Pending) :
  canonicalWalk a jump here pending = canonicalWalk b jump here pending
  := by
  fun_induction canonicalWalk a jump here pending with
  | case1 here => rw [canonicalWalk]
  | case2 here _ rest ih => rw [canonicalWalk, ih]
  | case3 here rest ih => rw [canonicalWalk, if_pos rfl, ih]
  | case4 here name rest hname target hlink =>
    rw [canonicalWalk, if_neg hname, (h _ target).mp hlink]
  | case5 here name rest hname hlink ih =>
    rw [ih, canonicalWalk, if_neg hname]
    split
    · next target htarget => cases hlink target ((h _ target).mpr htarget)
    · rfl

theorem canonicalFrom_congr {a b : Tree α} (h : a.SameLinks b) (links : Nat) (here : Place)
    (pending : List Pending) :
  canonicalFrom a links here pending = canonicalFrom b links here pending
  := by
  induction links generalizing here pending with
  | zero => apply canonicalWalk_congr h
  | succ links ih =>
    rw [canonicalFrom, canonicalFrom, canonicalWalk_congr h]
    simp only [ih]

/-- The canonical place of a path is the same in trees with the same links. -/
theorem SameLinks.canonical_eq {a b : Tree α} (h : a.SameLinks b) (current : Place)
    (text : String) :
  canonical a current text = canonical b current text
  := canonicalFrom_congr h _ _ _

end ContractLint.Tree
