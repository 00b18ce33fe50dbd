import Mathlib.Data.List.Nodup
import Mathlib.Tactic.Use
import ContractLint.Proofs.Tree.Lookup
import ContractLint.Tree.Search

/-!
# What a search finds

A search comes to everything below a directory that lies in no ignored directory.  It lists the
Solidity files that it comes to, and for a link what a visit to the link lists.  In a proper tree
nothing is listed twice, if no visit lists anything twice.
-/

namespace ContractLint.Tree

variable {α : Type}

/-! ### Solidity files -/

/-- There is a file with the name of a Solidity file at a place. -/
structure HasSolidityFile (tree : Tree α) (place : Place) : Prop where
  /-- There is a file. -/
  isFile : ∃ content, tree.get? place = some (.file content)
  /-- Its name is that of a Solidity file. -/
  isNamed : ∃ before last, place = before ++ [last] ∧ Path.isSolidityName last = true

/-! ### Where a search comes to -/

/-- A search among the entries of a directory comes to a tree: the tree has a name in a directory
that is reached through the names `before`, and none of these is ignored. -/
structure Reaches (ignored : List String) (entries : List (String × Tree α)) (before : Place)
    (name : String) (tree : Tree α) : Prop where
  /-- The tree is there. -/
  isThere : (directory entries).get? (before ++ [name]) = some tree
  /-- No directory on the way is ignored. -/
  notIgnored : ∀ passed ∈ before, passed ∉ ignored

section
variable {ignored : List String} {first : String} {child : Tree α}
  {entries rest : List (String × Tree α)} {before : Place} {name : String} {tree : Tree α}

theorem not_reaches_nil :
  ¬ Reaches ignored [] before name tree
  := by
  rintro ⟨hget, -⟩
  cases before <;> cases hget

/-- The place that a search comes to lies at or below one of the entries. -/
theorem Reaches.child?_ne_none (h : Reaches ignored entries before name tree) {first : String}
    {below : Place} (hplace : before ++ [name] = first :: below) :
  child? first entries ≠ none
  := by
  intro hnone
  have hget := h.isThere
  rw [hplace, get?, hnone] at hget
  cases hget

theorem get?_cons_self (place : Place) :
  (directory ((first, child) :: rest)).get? (first :: place) = child.get? place
  := by rw [get?, child?, if_pos rfl, Option.bind_some]

theorem get?_cons_of_ne {other : String} (h : first ≠ other) (place : Place) :
  (directory ((first, child) :: rest)).get? (other :: place)
    = (directory rest).get? (other :: place)
  := by rw [get?, child?, if_neg h, get?]

/-- A search comes to the first entry. -/
theorem reaches_first :
  Reaches ignored ((first, child) :: rest) [] first child
  where
  isThere := get?_cons_self []
  notIgnored := List.forall_mem_nil _

/-- A search comes to what lies below the first entry, if that is not ignored. -/
theorem Reaches.below_first (h : Reaches ignored entries before name tree)
    (hfirst : first ∉ ignored) :
  Reaches ignored ((first, .directory entries) :: rest) (first :: before) name tree
  where
  isThere := by
    rw [List.cons_append, get?_cons_self]
    apply h.isThere
  notIgnored := List.forall_mem_cons.mpr ⟨hfirst, h.notIgnored⟩

/-- A search comes to what it comes to through other entries than the first one, which does not hide
them when it has a name of its own. -/
theorem Reaches.after_first (h : Reaches ignored rest before name tree)
    (hnew : child? first rest = none) :
  Reaches ignored ((first, child) :: rest) before name tree
  where
  isThere := by
    obtain ⟨other, below, hplace⟩ : ∃ other below, before ++ [name] = other :: below :=
      List.exists_cons_of_ne_nil (by simp)
    have hother : first ≠ other := by
      rintro rfl
      apply h.child?_ne_none hplace hnew
    rw [hplace, get?_cons_of_ne hother, ← hplace]
    apply h.isThere
  notIgnored := h.notIgnored

/-- A search comes to nothing else. -/
theorem Reaches.cases_first (h : Reaches ignored ((first, child) :: rest) before name tree) :
  (before = [] ∧ name = first ∧ tree = child)
  ∨ (∃ inner below, child = .directory inner ∧ first ∉ ignored ∧ before = first :: below
    ∧ Reaches ignored inner below name tree)
  ∨ Reaches ignored rest before name tree
  := by
  obtain ⟨hget, hpassed⟩ := h
  cases before with
  | nil =>
    rw [List.nil_append] at hget
    by_cases hname : first = name
    · left
      subst hname
      rw [get?_cons_self] at hget
      cases hget
      exact ⟨rfl, rfl, rfl⟩
    · right
      right
      rw [get?_cons_of_ne hname] at hget
      exact ⟨hget, hpassed⟩
  | cons other below =>
    right
    rw [List.cons_append] at hget
    by_cases hother : first = other
    · left
      subst hother
      rw [List.forall_mem_cons] at hpassed
      rw [get?_cons_self] at hget
      -- There is something below the first entry, so that it is a directory.
      cases child with
      | file content => cases below <;> cases hget
      | link target => cases below <;> cases hget
      | directory inner => exact ⟨inner, below, rfl, hpassed.1, rfl, hget, hpassed.2⟩
    · right
      rw [get?_cons_of_ne hother] at hget
      exact ⟨hget, hpassed⟩

/-- What a search comes to with a property is the first entry, lies below it, or is reached through
the other entries. -/
theorem exists_reaches_cons_iff (hnew : child? first rest = none)
    {p : Place → String → Tree α → Prop} :
  (∃ before name tree, Reaches ignored ((first, child) :: rest) before name tree
      ∧ p before name tree)
    ↔ p [] first child
      ∨ (∃ inner, child = .directory inner ∧ first ∉ ignored
        ∧ ∃ below name tree, Reaches ignored inner below name tree ∧ p (first :: below) name tree)
      ∨ ∃ before name tree, Reaches ignored rest before name tree ∧ p before name tree
  := by
  constructor
  · rintro ⟨before, name, tree, hreaches, hp⟩
    obtain ⟨rfl, rfl, rfl⟩ | ⟨inner, below, hchild, hfirst, rfl, hbelow⟩ | hrest :=
      hreaches.cases_first
    · left
      apply hp
    · right
      left
      exact ⟨inner, hchild, hfirst, below, name, tree, hbelow, hp⟩
    · right
      right
      exact ⟨before, name, tree, hrest, hp⟩
  · rintro (hp | ⟨inner, rfl, hfirst, below, name, tree, hbelow, hp⟩
      | ⟨before, name, tree, hrest, hp⟩)
    · exact ⟨[], first, child, reaches_first, hp⟩
    · exact ⟨first :: below, name, tree, hbelow.below_first hfirst, hp⟩
    · exact ⟨before, name, tree, hrest.after_first hnew, hp⟩

end

/-! ### What a search lists -/

/-- What a search lists for a tree that it comes to, in the directory at the place `here` and under
a name after the names `shown`. -/
def listed (visit : Place → List String → String → List (List String)) (here : Place)
    (shown : List String) (name : String) : Tree α → List (List String)
  | .file _ => if Path.isSolidityName name then [shown ++ [name]] else []
  | .link _ => visit here shown name
  | .directory _ => []

/-- A visit lists names that begin with those shown so far and the name of the link, and lists none
of them twice. -/
structure VisitsBelow (visit : Place → List String → String → List (List String)) : Prop where
  /-- The names begin as they should. -/
  fronts : ∀ here shown name, ∀ names ∈ visit here shown name, shown ++ [name] <+: names
  /-- There are no duplicates. -/
  nodup : ∀ here shown name, (visit here shown name).Nodup

/-- A visit that lists nothing. -/
theorem visitsBelow_nothing :
  VisitsBelow fun _ _ _ => []
  where
  fronts _ _ _ _ hnames := by cases hnames
  nodup _ _ _ := List.nodup_nil

section
variable {ignored : List String} {visit : Place → List String → String → List (List String)}
  {here : Place} {shown names : List String} {entries : List (String × Tree α)}

/-- A search lists what is listed for all that it comes to. -/
theorem mem_solidityAmong_iff (h : areProper entries = true) :
  names ∈ solidityAmong ignored visit here shown entries
    ↔ ∃ before name tree, Reaches ignored entries before name tree
      ∧ names ∈ listed visit (here ++ before) (shown ++ before) name tree
  := by
  fun_induction solidityAmong ignored visit here shown entries with
  | case1 here shown => simp [not_reaches_nil]
  | case2 here shown name content rest ih =>
    obtain ⟨-, hnew, -, hrest⟩ := areProper_cons.mp h
    rw [List.mem_append, exists_reaches_cons_iff hnew, ih hrest]
    simp [listed]
  | case3 here shown name target rest ih =>
    obtain ⟨-, hnew, -, hrest⟩ := areProper_cons.mp h
    rw [List.mem_append, exists_reaches_cons_iff hnew, ih hrest]
    simp [listed]
  | case4 here shown name inner rest ihinner ih =>
    obtain ⟨-, hnew, hinner, hrest⟩ := areProper_cons.mp h
    rw [isProper] at hinner
    rw [List.mem_append, List.mem_ite_nil_left, exists_reaches_cons_iff hnew, ih hrest,
      ihinner hinner]
    simp [listed]

theorem front_of_mem_listed (hvisit : VisitsBelow visit) {name : String} {tree : Tree α}
    (h : names ∈ listed visit here shown name tree) :
  shown ++ [name] <+: names
  := by
  cases tree with
  | file content =>
    rw [listed, List.mem_ite_nil_right, List.mem_singleton] at h
    obtain ⟨-, rfl⟩ := h
    apply List.prefix_rfl
  | link target => apply hvisit.fronts here shown name names h
  | directory inner => cases h

/-- The names that a search lists begin with those shown so far and the name of an entry. -/
theorem exists_child_of_mem_solidityAmong (hvisit : VisitsBelow visit)
    (h : areProper entries = true)
    (hnames : names ∈ solidityAmong ignored visit here shown entries) :
  ∃ first below, names = shown ++ first :: below ∧ child? first entries ≠ none
  := by
  obtain ⟨before, name, tree, hreaches, hlisted⟩ := (mem_solidityAmong_iff h).mp hnames
  obtain ⟨deeper, rfl⟩ := front_of_mem_listed hvisit hlisted
  obtain ⟨first, below, hplace⟩ : ∃ first below, before ++ [name] = first :: below :=
    List.exists_cons_of_ne_nil (by simp)
  refine ⟨first, below ++ deeper, ?_, hreaches.child?_ne_none hplace⟩
  rw [List.append_assoc shown, hplace, List.append_assoc, List.cons_append]

/-- What a search lists through an entry it does not list through other entries. -/
theorem disjoint_solidityAmong (hvisit : VisitsBelow visit) (h : areProper entries = true)
    {name : String} (hname : child? name entries = none) {found : List (List String)}
    (hfound : ∀ names ∈ found, shown ++ [name] <+: names) :
  found.Disjoint (solidityAmong ignored visit here shown entries)
  := by
  intro names hmem hother
  obtain ⟨first, below, rfl, hfirst⟩ := exists_child_of_mem_solidityAmong hvisit h hother
  have hfront := hfound _ hmem
  rw [List.prefix_append_right_inj, List.cons_prefix_cons] at hfront
  apply hfirst
  rw [← hfront.1, hname]

theorem nodup_solidityAmong (hvisit : VisitsBelow visit) (h : areProper entries = true) :
  (solidityAmong ignored visit here shown entries).Nodup
  := by
  fun_induction solidityAmong ignored visit here shown entries with
  | case1 => apply List.nodup_nil
  | case2 here shown name content rest ih =>
    obtain ⟨-, hnew, -, hrest⟩ := areProper_cons.mp h
    apply List.Nodup.append _ (ih hrest)
    · apply disjoint_solidityAmong hvisit hrest hnew
      intro names hnames
      rw [List.mem_ite_nil_right, List.mem_singleton] at hnames
      obtain ⟨-, rfl⟩ := hnames
      apply List.prefix_rfl
    · split
      · apply List.nodup_singleton
      · apply List.nodup_nil
  | case3 here shown name target rest ih =>
    obtain ⟨-, hnew, -, hrest⟩ := areProper_cons.mp h
    apply (hvisit.nodup here shown name).append (ih hrest)
    apply disjoint_solidityAmong hvisit hrest hnew
    apply hvisit.fronts
  | case4 here shown name inner rest ihinner ih =>
    obtain ⟨-, hnew, hinner, hrest⟩ := areProper_cons.mp h
    rw [isProper] at hinner
    apply List.Nodup.append _ (ih hrest)
    · apply disjoint_solidityAmong hvisit hrest hnew
      intro names hnames
      rw [List.mem_ite_nil_left] at hnames
      obtain ⟨first, below, rfl, -⟩ := exists_child_of_mem_solidityAmong hvisit hinner hnames.2
      apply List.prefix_append
    · split
      · apply List.nodup_nil
      · apply ihinner hinner

end

/-! ### Following links -/

/-- What a search lists for a link that it follows, where at most `links` links are followed. -/
def visitFollowing (root : Tree α) (ignored : List String) (links : Nat) (here : Place)
    (shown : List String) (name : String) : List (List String) :=
  match follow root links here [name] with
  | .error _ => []
  | .ok (place, left) =>
    if left < links then
      match root.get? place with
      | some (.directory entries) =>
        if ignored.contains name then []
        else solidityFollowing root ignored left place (shown ++ [name]) (.directory entries)
      | some (.file _) => if Path.isSolidityName name then [shown ++ [name]] else []
      | _ => []
    else []

theorem solidityFollowing_directory (root : Tree α) (ignored : List String) (links : Nat)
    (here : Place) (shown : List String) (entries : List (String × Tree α)) :
  solidityFollowing root ignored links here shown (.directory entries)
    = solidityAmong ignored (root.visitFollowing ignored links) here shown entries
  := by
  rw [solidityFollowing, solidityBelow]
  rfl

/-- A link leads to nothing that is listed, to a file, or to a directory that is searched in its
turn with fewer links to follow. -/
theorem visitFollowing_cases (root : Tree α) (ignored : List String) (links : Nat) (here : Place)
    (shown : List String) (name : String) :
  root.visitFollowing ignored links here shown name = []
  ∨ root.visitFollowing ignored links here shown name = [shown ++ [name]]
  ∨ ∃ place left entries, left < links ∧ root.get? place = some (.directory entries)
    ∧ root.visitFollowing ignored links here shown name
      = solidityAmong ignored (root.visitFollowing ignored left) place (shown ++ [name]) entries
  := by
  rw [visitFollowing]
  split
  · simp
  · next place left hfollow =>
    split
    · next hleft =>
      split
      · next entries hget =>
        split
        · simp
        · right
          right
          exact ⟨place, left, entries, hleft, hget, solidityFollowing_directory ..⟩
      · split <;> simp
      · simp
    · simp

theorem visitsBelow_following {root : Tree α} (h : root.isProper = true) (ignored : List String)
    (links : Nat) :
  VisitsBelow (root.visitFollowing ignored links)
  := by
  -- Behind a link fewer links are left, and the search there visits links with that number.
  induction links using Nat.strong_induction_on with
  | h links ih =>
    constructor
    · intro here shown name names hnames
      obtain hnone | hfile | ⟨place, left, entries, hleft, hget, hbelow⟩ :=
        root.visitFollowing_cases ignored links here shown name
      · rw [hnone] at hnames
        cases hnames
      · rw [hfile, List.mem_singleton] at hnames
        subst hnames
        apply List.prefix_rfl
      · rw [hbelow] at hnames
        obtain ⟨first, below, rfl, -⟩ := exists_child_of_mem_solidityAmong (ih left hleft)
          (proper_of_get? h hget).2 hnames
        apply List.prefix_append
    · intro here shown name
      obtain hnone | hfile | ⟨place, left, entries, hleft, hget, hbelow⟩ :=
        root.visitFollowing_cases ignored links here shown name
      · rw [hnone]
        apply List.nodup_nil
      · rw [hfile]
        apply List.nodup_singleton
      · rw [hbelow]
        apply nodup_solidityAmong (ih left hleft) (proper_of_get? h hget).2

/-! ### In a tree -/

/-- What a search lists for a link, whether or not links are followed. -/
def visitLinks (root : Tree α) (ignored : List String) (followLinks : Bool) :
    Place → List String → String → List (List String) :=
  if followLinks then root.visitFollowing ignored linkLimit else fun _ _ _ => []

theorem visitsBelow_links {root : Tree α} (h : root.isProper = true) (ignored : List String)
    (followLinks : Bool) :
  VisitsBelow (root.visitLinks ignored followLinks)
  := by
  cases followLinks with
  | false => apply visitsBelow_nothing
  | true => apply visitsBelow_following h

theorem findBelow_directory (root : Tree α) (ignored : List String) (followLinks : Bool)
    (here : Place) (entries : List (String × Tree α)) :
  root.findBelow ignored followLinks here (.directory entries)
    = ((solidityAmong ignored (root.visitLinks ignored followLinks) here [] entries).map
      (here ++ ·)).mergeSort comesBefore
  := by
  cases followLinks with
  | false => rfl
  | true =>
    rw [findBelow, if_pos rfl, solidityFollowing_directory]
    rfl

section
variable {root : Tree α} {here : Place} {entries : List (String × Tree α)}

/-- A search by a path is one below the directory to which the path leads. -/
theorem find_of_canonical {current : Place} {text : String}
    (hcanonical : root.canonical current text = ⟨here, true⟩)
    (hget : root.get? here = some (.directory entries)) (ignored : List String)
    (followLinks : Bool) :
  root.find current ignored followLinks text
    = .ok (root.findBelow ignored followLinks here (.directory entries))
  := by
  rw [find, hcanonical]
  simp [hget, isDirectory]

/-- A search finds what is listed for all that it comes to. -/
theorem mem_findBelow_iff (h : root.isProper = true)
    (hget : root.get? here = some (.directory entries)) {ignored : List String}
    {followLinks : Bool} {place : Place} :
  place ∈ root.findBelow ignored followLinks here (.directory entries)
    ↔ ∃ before name tree, Reaches ignored entries before name tree
      ∧ ∃ names ∈ listed (root.visitLinks ignored followLinks) (here ++ before) before name tree,
        here ++ names = place
  := by
  simp only [findBelow_directory, List.mem_mergeSort, List.mem_map,
    mem_solidityAmong_iff (proper_of_get? h hget).2, List.nil_append]
  constructor
  · rintro ⟨names, ⟨before, name, tree, hreaches, hnames⟩, hplace⟩
    exact ⟨before, name, tree, hreaches, names, hnames, hplace⟩
  · rintro ⟨before, name, tree, hreaches, names, hnames, hplace⟩
    exact ⟨names, ⟨before, name, tree, hreaches, hnames⟩, hplace⟩

theorem nodup_findBelow (h : root.isProper = true)
    (hget : root.get? here = some (.directory entries)) (ignored : List String)
    (followLinks : Bool) :
  (root.findBelow ignored followLinks here (.directory entries)).Nodup
  := by
  rw [findBelow_directory]
  apply (List.mergeSort_perm _ _).nodup_iff.mpr
  apply (nodup_solidityAmong (visitsBelow_links h ignored followLinks)
    (proper_of_get? h hget).2).map
  apply List.append_right_injective

/-- The tree that a search comes to stands at its place in the whole tree. -/
theorem Reaches.get?_eq (hget : root.get? here = some (.directory entries))
    {ignored : List String} {before : Place} {name : String} {tree : Tree α}
    (hreaches : Reaches ignored entries before name tree) :
  root.get? (here ++ (before ++ [name])) = some tree
  := by rw [get?_append, hget, Option.bind_some, hreaches.isThere]

/-- A search that follows no links finds exactly the Solidity files below a directory that lie in no
ignored directory. -/
theorem mem_findBelow_false_iff (h : root.isProper = true)
    (hget : root.get? here = some (.directory entries)) {ignored : List String} {place : Place} :
  place ∈ root.findBelow ignored false here (.directory entries)
    ↔ ∃ before name content, place = here ++ (before ++ [name])
      ∧ root.get? place = some (.file content) ∧ Path.isSolidityName name = true
      ∧ ∀ passed ∈ before, passed ∉ ignored
  := by
  rw [mem_findBelow_iff h hget]
  constructor
  · rintro ⟨before, name, tree, hreaches, names, hnames, rfl⟩
    cases tree with
    | file content =>
      rw [listed, List.mem_ite_nil_right, List.mem_singleton] at hnames
      obtain ⟨hname, rfl⟩ := hnames
      exact ⟨before, name, content, rfl, hreaches.get?_eq hget, hname, hreaches.notIgnored⟩
    | link target => cases hnames
    | directory inner => cases hnames
  · rintro ⟨before, name, content, rfl, hfile, hname, hpassed⟩
    rw [get?_append, hget, Option.bind_some] at hfile
    refine ⟨before, name, .file content, ⟨hfile, hpassed⟩, before ++ [name], ?_, rfl⟩
    rw [listed, if_pos hname]
    apply List.mem_cons_self

end

/-- A search in a proper tree finds places of Solidity files, each of them once. -/
theorem findBelow_spec {root : Tree α} (h : root.isProper = true) {here : Place}
    {entries : List (String × Tree α)} (hget : root.get? here = some (.directory entries))
    (ignored : List String) :
  (∀ place ∈ root.findBelow ignored false here (.directory entries), root.HasSolidityFile place)
  ∧ (root.findBelow ignored false here (.directory entries)).Nodup
  := by
  refine ⟨?_, nodup_findBelow h hget ignored false⟩
  intro place hplace
  obtain ⟨before, name, content, rfl, hfile, hname, -⟩ :=
    (mem_findBelow_false_iff h hget).mp hplace
  exact ⟨⟨content, hfile⟩, here ++ before, name, (List.append_assoc _ _ _).symm, hname⟩

end ContractLint.Tree
