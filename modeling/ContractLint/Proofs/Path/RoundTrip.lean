import ContractLint.Path
import ContractLint.Proofs.Text.Lines

/-!
# Paths and their texts

The text of a path is read as that path, so that different paths have different texts.
-/

namespace ContractLint

namespace Path

open Text

/-! ### Anchors -/

/-- The anchor of a path is read from the front of its text. -/
theorem anchorOf_append (anchor : Anchor) {text : Text} (h : text.head? ≠ some '/') :
  anchorOf (anchorText anchor ++ text) = anchor
  := by
  cases text with
  | nil => cases anchor <;> rfl
  | cons c text =>
    have hc : c ≠ '/' := by simpa using h
    cases anchor <;> simp [anchorText, anchorOf, hc]

/-- The slashes of an anchor add no names to a path. -/
theorem filter_splitOn_anchorText_append (anchor : Anchor) (text : Text) :
  (((anchorText anchor ++ text).splitOn '/').map String.ofList).filter isPathPart
    = ((text.splitOn '/').map String.ofList).filter isPathPart
  := by
  have hempty : isPathPart (String.ofList []) = false := by decide
  cases anchor with
  | current => rfl
  | root => simp [anchorText, List.splitOn_cons_eq_if_modifyHead, hempty]
  | doubleRoot => simp [anchorText, List.splitOn_cons_eq_if_modifyHead, hempty]

/-! ### Parts -/

/-- A part of a path is not empty, not a dot and has no slash. -/
theorem isPathPart_iff {name : String} :
  isPathPart name = true ↔ name ≠ "" ∧ name ≠ "." ∧ '/' ∉ name.toList
  := by simp [isPathPart, and_assoc]

theorem mem_parts {path : Path} {name : String} (h : name ∈ path.parts) :
  name ≠ "" ∧ name ≠ "." ∧ '/' ∉ name.toList
  := isPathPart_iff.mp (List.all_eq_true.mp path.clean name h)

/-- The parts of a path are read back from its text. -/
theorem filter_splitOn_intercalate_parts (path : Path) :
  (((List.intercalate ['/'] (path.parts.map String.toList)).splitOn '/').map
      String.ofList).filter isPathPart
    = path.parts
  := by
  by_cases hparts : path.parts = []
  · rw [hparts]
    decide
  · have hsplit : (List.intercalate ['/'] (path.parts.map String.toList)).splitOn '/'
        = path.parts.map String.toList := by
      apply List.splitOn_intercalate
      · intro piece hpiece
        obtain ⟨name, hname, rfl⟩ := List.mem_map.mp hpiece
        apply (mem_parts hname).2.2
      · simpa using hparts
    have hnames : (path.parts.map String.toList).map String.ofList = path.parts := by simp
    rw [hsplit, hnames]
    apply List.filter_eq_self.mpr
    apply List.all_eq_true.mp path.clean

/-- The parts of a path do not start with a slash. -/
theorem head?_intercalate_parts (path : Path) :
  (List.intercalate ['/'] (path.parts.map String.toList)).head? ≠ some '/'
  := by
  cases hparts : path.parts with
  | nil => simp
  | cons name names =>
    have hmem : name ∈ path.parts := by simp [hparts]
    have hname := mem_parts hmem
    have hne : name.toList ≠ [] := by simpa using hname.1
    obtain ⟨c, rest, hcons⟩ := List.exists_cons_of_ne_nil hne
    have hc : c ≠ '/' := by
      rintro rfl
      apply hname.2.2
      rw [hcons]
      apply List.mem_cons_self
    simpa [hcons, List.intercalate_cons_cons_left] using hc

/-- The text of a path is read as that path. -/
theorem ofText_toText (path : Path) :
  ofText path.toText = path
  := by
  obtain ⟨anchor, parts, hclean⟩ := path
  rw [toText]
  split
  · rename_i hcurrent
    rw [Bool.and_eq_true, decide_eq_true_iff, List.isEmpty_iff] at hcurrent
    obtain ⟨rfl, rfl⟩ := hcurrent
    rfl
  · rw [ofText, ofNames, Path.mk.injEq]
    constructor
    · apply anchorOf_append
      apply head?_intercalate_parts
    · rw [filter_splitOn_anchorText_append]
      apply filter_splitOn_intercalate_parts ⟨anchor, parts, hclean⟩

@[simp]
theorem ofString_toString (path : Path) :
  ofString (toString path) = path
  := by
  rw [ofString, toString, instToString, String.toList_ofList]
  apply ofText_toText

end Path

end ContractLint
