import Mathlib.Data.List.Lex
import Mathlib.Data.List.Sort
import Mathlib.Data.String.Basic
import ContractLint.Proofs.Tree.Reordering
import ContractLint.Proofs.Tree.Search

/-!
# Exact searches

A search that follows no links finds the Solidity files below a directory whose path there goes
through no link and no ignored directory (`IsContractBelow`).  It finds each of them once, in
increasing order, and in whatever order directories list their entries.  A search that follows links
finds these files too, and otherwise only paths that go through a link.
-/

namespace ContractLint.Tree

variable {α : Type}

/-! ### The order of places -/

theorem comesBefore_iff {a b : Place} :
  comesBefore a b = true ↔ a = b ∨ a < b
  := by
  fun_induction comesBefore a b with
  | case1 b => cases b <;> simp
  | case2 a as => simp
  | case3 as b bs ih => simp [ih]
  | case4 a as b bs hne =>
    rw [decide_eq_true_iff, List.cons_lt_cons_iff]
    simp only [List.cons.injEq, hne, false_and, or_false, false_or]

/-- A search finds places in strictly increasing order. -/
theorem pairwise_findBelow {root : Tree α} (h : root.isProper = true) {here : Place}
    {entries : List (String × Tree α)} (hget : root.get? here = some (.directory entries))
    (ignored : List String) (followLinks : Bool) :
  (root.findBelow ignored followLinks here (.directory entries)).Pairwise (· < ·)
  := by
  have htrans (a b c : Place) (hab : comesBefore a b = true) (hbc : comesBefore b c = true) :
      comesBefore a c = true := by
    rw [comesBefore_iff] at *
    obtain rfl | hab := hab
    · apply hbc
    · obtain rfl | hbc := hbc
      · exact .inr hab
      · exact .inr (lt_trans hab hbc)
  have htotal (a b : Place) : (comesBefore a b || comesBefore b a) = true := by
    rw [Bool.or_eq_true, comesBefore_iff, comesBefore_iff]
    obtain hlt | rfl | hgt := lt_trichotomy a b
    · exact .inl (.inr hlt)
    · exact .inl (.inl rfl)
    · exact .inr (.inr hgt)
  have hsorted : (root.findBelow ignored followLinks here (.directory entries)).Pairwise
      fun a b => comesBefore a b = true := List.pairwise_mergeSort htrans htotal _
  apply List.Pairwise.imp₂ _ hsorted (nodup_findBelow h hget ignored followLinks)
  intro a b hab hne
  apply (comesBefore_iff.mp hab).resolve_left hne

/-! ### What is to be found -/

/-- The names lead from a directory to a file, be it through links. -/
def LeadsToFile (root : Tree α) (here : Place) (names : List String) : Prop :=
  ∃ there left content, follow root linkLimit here names = .ok (there, left)
    ∧ root.get? there = some (.file content)

/-- The names lead from a directory to a link, or through one. -/
def MeetsLink (root : Tree α) (here : Place) (names : List String) : Prop :=
  ∃ front target, front <+: names ∧ root.get? (here ++ front) = some (.link target)

/-- A Solidity file below a directory that a search is to find: with the names `before` of the
directories in between and its own name. -/
structure IsContractBelow (root : Tree α) (ignored : List String) (here before : Place)
    (name : String) : Prop where
  /-- The names do not lead out of the directory. -/
  isBelow : ".." ∉ before ++ [name]
  /-- They lead to a file. -/
  leadsToFile : root.LeadsToFile here (before ++ [name])
  /-- The file has the suffix of Solidity files, in letters of either case. -/
  isSolidity : (Path.suffixOf name.toList).map Char.toLower = ".sol".toList
  /-- There is no link on the way, and the file is none. -/
  meetsNoLink : ¬ root.MeetsLink here (before ++ [name])
  /-- No directory in between has an ignored name. -/
  notIgnored : ∀ passed ∈ before, passed ∉ ignored

section
variable {root : Tree α} {here : Place} {names : List String}

theorem meetsLink_cons {name : String} (h : root.MeetsLink (here ++ [name]) names) :
  root.MeetsLink here (name :: names)
  := by
  obtain ⟨front, target, hfront, hget⟩ := h
  refine ⟨name :: front, target, List.cons_prefix_cons.mpr ⟨rfl, hfront⟩, ?_⟩
  rwa [List.append_assoc, List.singleton_append] at hget

/-- There is no link on the way to a file. -/
theorem not_meetsLink_of_get? {content : α}
    (h : root.get? (here ++ names) = some (.file content)) :
  ¬ root.MeetsLink here names
  := by
  rintro ⟨front, target, ⟨rest, rfl⟩, hget⟩
  rw [← List.append_assoc, get?_append, hget, Option.bind_some] at h
  cases rest <;> cases h

theorem eq_of_walk {links left : Nat}
    {jump : Place → List String → Except AccessError (Place × Nat)} {there : Place}
    (h : walk root links jump here names = .ok (there, left)) (hbelow : ".." ∉ names)
    (hlink : ¬ root.MeetsLink here names) :
  there = here ++ names
  := by
  induction names generalizing here with
  | nil =>
    rw [walk] at h
    cases h
    rw [List.append_nil]
  | cons name names ih =>
    rw [List.mem_cons, not_or] at hbelow
    rw [walk] at h
    split at h
    · next entries hhere =>
      rw [if_neg (Ne.symm hbelow.1)] at h
      have hnext {child : Tree α} (hchild : child? name entries = some child) :
          root.get? (here ++ [name]) = some child := by
        rw [get?_append, hhere, Option.bind_some, get?, hchild, Option.bind_some, get?]
      split at h
      · cases h
      · next target hchild =>
        cases hlink ⟨[name], target, by simp, hnext hchild⟩
      · rw [ih h hbelow.2 (fun hmeets => hlink (meetsLink_cons hmeets)), List.append_assoc,
          List.singleton_append]
    · cases h

/-- Names that meet no link lead to the place that they spell. -/
theorem eq_of_follow {links left : Nat} {there : Place}
    (h : follow root links here names = .ok (there, left)) (hbelow : ".." ∉ names)
    (hlink : ¬ root.MeetsLink here names) :
  there = here ++ names
  := by
  cases links <;> apply eq_of_walk h hbelow hlink

end

/-- A file is to be found if it is in the tree at the place of its names. -/
theorem isContractBelow_iff {root : Tree α} (h : root.isProper = true) {ignored : List String}
    {here before : Place} {name : String} :
  root.IsContractBelow ignored here before name
    ↔ ∃ content, root.get? (here ++ (before ++ [name])) = some (.file content)
      ∧ Path.isSolidityName name = true ∧ ∀ passed ∈ before, passed ∉ ignored
  := by
  rw [Path.isSolidityName, beq_iff_eq]
  constructor
  · rintro ⟨hbelow, ⟨there, left, content, hfollow, hfile⟩, hsolidity, hlink, hpassed⟩
    rw [eq_of_follow hfollow hbelow hlink] at hfile
    exact ⟨content, hfile, hsolidity, hpassed⟩
  · rintro ⟨content, hfile, hsolidity, hpassed⟩
    have hnames : ∀ passed ∈ before ++ [name], passed ≠ ".." := by
      intro passed hmem
      apply (isEntryName_iff.mp ((proper_of_get? h hfile).1 passed ?_)).2
      apply List.mem_append_right here hmem
    refine ⟨fun hmem => hnames _ hmem rfl, ⟨_, linkLimit, content, ?_, hfile⟩, hsolidity,
      not_meetsLink_of_get? hfile, hpassed⟩
    apply follow_of_get? hnames hfile
    rintro target ⟨⟩

/-! ### What is found -/

section
variable {root : Tree α} {here : Place} {entries : List (String × Tree α)}

theorem mem_findBelow_iff_isContractBelow (h : root.isProper = true)
    (hget : root.get? here = some (.directory entries)) {ignored : List String} {place : Place} :
  place ∈ root.findBelow ignored false here (.directory entries)
    ↔ ∃ before name, place = here ++ (before ++ [name])
      ∧ root.IsContractBelow ignored here before name
  := by
  rw [mem_findBelow_false_iff h hget]
  constructor
  · rintro ⟨before, name, content, rfl, hfile⟩
    exact ⟨before, name, rfl, (isContractBelow_iff h).mpr ⟨content, hfile⟩⟩
  · rintro ⟨before, name, rfl, hcontract⟩
    obtain ⟨content, hfile⟩ := (isContractBelow_iff h).mp hcontract
    exact ⟨before, name, content, rfl, hfile⟩

/-- What is found without following links is found when they are followed. -/
theorem findBelow_subset (h : root.isProper = true)
    (hget : root.get? here = some (.directory entries)) (ignored : List String) :
  root.findBelow ignored false here (.directory entries)
    ⊆ root.findBelow ignored true here (.directory entries)
  := by
  intro place hplace
  obtain ⟨before, name, tree, hreaches, names, hnames, rfl⟩ := (mem_findBelow_iff h hget).mp hplace
  apply (mem_findBelow_iff h hget).mpr
  refine ⟨before, name, tree, hreaches, names, ?_, rfl⟩
  cases tree with
  | file content => apply hnames
  | link target => cases hnames
  | directory inner => cases hnames

theorem findBelow_sublist (h : root.isProper = true)
    (hget : root.get? here = some (.directory entries)) (ignored : List String) :
  (root.findBelow ignored false here (.directory entries)).Sublist
    (root.findBelow ignored true here (.directory entries))
  := by
  have hsubperm := List.subperm_of_subset (nodup_findBelow h hget ignored false)
    (findBelow_subset h hget ignored)
  apply List.sublist_of_subperm_of_pairwise hsubperm (pairwise_findBelow h hget ignored false)
  apply pairwise_findBelow h hget ignored true

/-- What is found only when links are followed goes through a link. -/
theorem meetsLink_of_mem_findBelow (h : root.isProper = true)
    (hget : root.get? here = some (.directory entries)) {ignored : List String} {place : Place}
    (hplace : place ∈ root.findBelow ignored true here (.directory entries))
    (hextra : place ∉ root.findBelow ignored false here (.directory entries)) :
  ∃ names, place = here ++ names ∧ root.MeetsLink here names
  := by
  obtain ⟨before, name, tree, hreaches, names, hnames, rfl⟩ := (mem_findBelow_iff h hget).mp hplace
  refine ⟨names, rfl, ?_⟩
  cases tree with
  | file content =>
    cases hextra ((mem_findBelow_iff h hget).mpr ⟨before, name, _, hreaches, names, hnames, rfl⟩)
  | link target =>
    exact ⟨before ++ [name], target, front_of_mem_listed (visitsBelow_links h ignored true) hnames,
      hreaches.get?_eq hget⟩
  | directory inner => cases hnames

/-- The order in which directories list their entries does not matter. -/
theorem findBelow_rearranged {other : Tree α} (h : root.isProper = true)
    (hother : root.Rearranged other) (hget : root.get? here = some (.directory entries))
    {others : List (String × Tree α)} (hgetOther : other.get? here = some (.directory others))
    (ignored : List String) :
  other.findBelow ignored false here (.directory others)
    = root.findBelow ignored false here (.directory entries)
  := by
  have hproper := hother.isProper_eq_true h
  apply (pairwise_findBelow hproper hgetOther ignored false).eq_of_mem_iff
    (pairwise_findBelow h hget ignored false)
  intro place
  have hfile (content : α) := hother.get?_eq_some_iff h (rfl : (file content).isDirectory = false)
  simp only [mem_findBelow_false_iff hproper hgetOther, mem_findBelow_false_iff h hget, hfile]

end

/-! ### Searches by path -/

section
variable {root : Tree α} {current here : Place} {text : String}

theorem exists_entries_of_hasDirectory (h : root.hasDirectory here = true) :
  ∃ entries, root.get? here = some (.directory entries)
  := by
  obtain ⟨tree, hget, hdirectory⟩ := (Option.any_eq_true _ _).mp h
  cases tree with
  | directory entries => exact ⟨entries, hget⟩
  | file content => cases hdirectory
  | link target => cases hdirectory

/-- A search from any directory finds, without following links, the Solidity files that are to be
found below it, in strictly increasing order and independently of the order of entries.  Following
links, it finds them in the same order, and besides them only paths that go through a link. -/
theorem find_exact (h : root.isProper = true)
    (hcanonical : root.canonical current text = ⟨here, true⟩)
    (hdirectory : root.hasDirectory here = true) (ignored : List String) :
  ∃ found followed, root.find current ignored false text = .ok found
    ∧ root.find current ignored true text = .ok followed
    ∧ found.Pairwise (· < ·)
    ∧ (∀ place, place ∈ found ↔ ∃ before name, place = here ++ (before ++ [name])
      ∧ root.IsContractBelow ignored here before name)
    ∧ (∀ other, root.Rearranged other → other.find current ignored false text = .ok found)
    ∧ found.Sublist followed
    ∧ ∀ place ∈ followed, place ∉ found
      → ∃ names, place = here ++ names ∧ root.MeetsLink here names
  := by
  obtain ⟨entries, hget⟩ := exists_entries_of_hasDirectory hdirectory
  refine ⟨_, _, find_of_canonical hcanonical hget ignored false,
    find_of_canonical hcanonical hget ignored true, pairwise_findBelow h hget ignored false,
    ?_, ?_, findBelow_sublist h hget ignored, ?_⟩
  · intro place
    apply mem_findBelow_iff_isContractBelow h hget
  · -- The path leads to a directory of the other tree too, whose entries may be listed otherwise.
    intro other hother
    rw [hother.hasDirectory_eq h] at hdirectory
    rw [hother.canonical_eq h] at hcanonical
    obtain ⟨others, hgetOther⟩ := exists_entries_of_hasDirectory hdirectory
    rw [find_of_canonical hcanonical hgetOther, findBelow_rearranged h hother hget hgetOther]
  · intro place
    apply meetsLink_of_mem_findBelow h hget

end

/-- A project that is reached through a link, with links back up and into a library, and with a
directory that is named like a file. -/
def linkedProject : Tree Text :=
  .directory [("here", .link "work"),
    ("work", .directory [("up", .link ".."),
      ("Vault.sol", .directory [("Inner.SOL", .file [])]),
      ("lib", .directory [("Owned.sol", .file [])]),
      ("Owned.sol", .link "lib/Owned.sol"),
      ("Token.sol", .file [])])]

/-- The name of the directory itself is not looked at when it is searched. -/
theorem find_exact_linkedProject :
  linkedProject.isProper = true
  ∧ linkedProject.canonical [] "/here" = ⟨["work"], true⟩
  ∧ linkedProject.hasDirectory ["work"] = true
  ∧ linkedProject.find [] ["lib", "work"] false "/here"
    = .ok [["work", "Token.sol"], ["work", "Vault.sol", "Inner.SOL"]]
  ∧ (∀ place, place ∈ [["work", "Token.sol"], ["work", "Vault.sol", "Inner.SOL"]]
    ↔ ∃ before name, place = ["work"] ++ (before ++ [name])
      ∧ linkedProject.IsContractBelow ["lib", "work"] ["work"] before name)
  ∧ ∃ followed, linkedProject.find [] ["lib", "work"] true "/here" = .ok followed
    ∧ List.Sublist [["work", "Token.sol"], ["work", "Vault.sol", "Inner.SOL"]] followed
  := by
  have hproper : linkedProject.isProper = true := by decide
  have hcanonical : linkedProject.canonical [] "/here" = ⟨["work"], true⟩ := rfl
  have hdirectory : linkedProject.hasDirectory ["work"] = true := by decide
  have hfiles : linkedProject.find [] ["lib", "work"] false "/here"
      = .ok [["work", "Token.sol"], ["work", "Vault.sol", "Inner.SOL"]] := by
    have hinner : Path.isSolidityName "Inner.SOL" = true := by decide
    have htoken : Path.isSolidityName "Token.sol" = true := by decide
    have hlast : comesBefore ["work", "Vault.sol", "Inner.SOL"] ["work", "Token.sol"] = false := by
      decide
    rw [find_of_canonical hcanonical rfl, findBelow_directory]
    simp [visitLinks, solidityAmong, hinner, htoken, List.mergeSort,
      List.MergeSort.Internal.splitInTwo, hlast]
  obtain ⟨found, followed, hfound, hfollowed, -, hexact, -, hsublist, -⟩ :=
    find_exact hproper hcanonical hdirectory ["lib", "work"]
  rw [hfiles] at hfound
  cases hfound
  exact ⟨hproper, hcanonical, hdirectory, hfiles, hexact, followed, hfollowed, hsublist⟩

end ContractLint.Tree
