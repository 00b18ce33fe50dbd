import ContractLint.Proofs.Text.Trim
import ContractLint.Source

/-!
# Lines of a text

How a text is cut at its line feeds when a character is added at its front or at its end.  From this
follows what trimming a text does to its trimmed lines: it drops empty lines at the front, as many
as there are line feeds among the blanks there, and empty lines at the end, and leaves all the other
lines as they are.
-/

namespace ContractLint.Text

/-! ### Lines -/

theorem lines_ne_nil (text : Text) :
  lines text ≠ []
  := List.splitOn_ne_nil '\n' text

theorem lines_cons_newline (text : Text) :
  lines ('\n' :: text) = [] :: lines text
  := by
  rw [lines, List.splitOn_cons_eq_if_modifyHead]
  rfl

theorem lines_cons_of_ne {c : Char} (h : c ≠ '\n') (text : Text) :
  lines (c :: text) = (lines text).modifyHead (c :: ·)
  := by
  rw [lines, List.splitOn_cons_eq_if_modifyHead, if_neg (by simpa using h)]
  rfl

theorem lines_concat_newline (text : Text) :
  lines (text ++ ['\n']) = lines text ++ [[]]
  := List.splitOn_append_cons_self text []

/-- A character at the end of a text that is no line feed goes to the end of the last line. -/
theorem lines_concat_of_ne {c : Char} (h : c ≠ '\n') (text : Text) :
  ∃ (front : List Text) (last : Text), lines text = front ++ [last]
    ∧ lines (text ++ [c]) = front ++ [last ++ [c]]
  := by
  induction text with
  | nil =>
    use [], [], rfl
    apply lines_cons_of_ne h
  | cons d text ih =>
    obtain ⟨front, last, hleft, hright⟩ := ih
    by_cases hd : d = '\n'
    · subst hd
      use [] :: front, last
      simp [lines_cons_newline, hleft, hright]
    · rw [List.cons_append, lines_cons_of_ne hd, lines_cons_of_ne hd, hleft, hright]
      cases front with
      | nil =>
        use [], d :: last
        simp
      | cons first front =>
        use (d :: first) :: front, last
        simp

/-! ### Trimmed lines -/

theorem isBlank_newline :
  isBlank '\n' = true
  := rfl

/-- A blank that is no line feed changes no trimmed line at the front of a text. -/
theorem trimmedLines_cons_of_isBlank {c : Char} (hblank : isBlank c = true) (hc : c ≠ '\n')
    (text : Text) :
  trimmedLines (c :: text) = trimmedLines text
  := by
  obtain ⟨first, rest, hlines⟩ := List.exists_cons_of_ne_nil (lines_ne_nil text)
  rw [trimmedLines, trimmedLines, lines_cons_of_ne hc, hlines]
  simp [trim_cons_of_isBlank hblank]

/-- A blank that is no line feed changes no trimmed line at the end of a text. -/
theorem trimmedLines_concat_of_isBlank {c : Char} (hblank : isBlank c = true) (hc : c ≠ '\n')
    (text : Text) :
  trimmedLines (text ++ [c]) = trimmedLines text
  := by
  obtain ⟨front, last, hleft, hright⟩ := lines_concat_of_ne hc text
  rw [trimmedLines, trimmedLines, hleft, hright]
  simp [trim_concat_of_isBlank hblank]

/-- Trimming the front of a text drops as many empty lines as there are line feeds among the blanks
at the front. -/
theorem trimmedLines_eq_replicate_append (text : Text) :
  trimmedLines text
    = List.replicate ((text.takeWhile isBlank).count '\n') [] ++ trimmedLines (trimStart text)
  := by
  induction text with
  | nil => rfl
  | cons c text ih =>
    by_cases hblank : isBlank c = true
    · rw [trimStart_cons_of_isBlank hblank, List.takeWhile_cons_of_pos hblank]
      by_cases hc : c = '\n'
      · subst hc
        rw [List.count_cons_self, List.replicate_succ, List.cons_append, ← ih]
        rw [trimmedLines, lines_cons_newline]
        rfl
      · rw [List.count_cons_of_ne hc, ← ih]
        apply trimmedLines_cons_of_isBlank hblank hc
    · rw [trimStart_cons_of_not_isBlank hblank, List.takeWhile_cons_of_neg hblank]
      rfl

/-- Trimming the end of a text drops empty lines only. -/
theorem trimmedLines_eq_append_replicate (text : Text) :
  ∃ count : Nat, trimmedLines text = trimmedLines (trimEnd text) ++ List.replicate count []
  := by
  induction text using List.reverseRecOn with
  | nil =>
    use 0
    rfl
  | append_singleton text c ih =>
    by_cases hblank : isBlank c = true
    · obtain ⟨count, hcount⟩ := ih
      rw [trimEnd_concat_of_isBlank hblank]
      by_cases hc : c = '\n'
      · subst hc
        use count + 1
        rw [List.replicate_succ', ← List.append_assoc, ← hcount]
        rw [trimmedLines, lines_concat_newline, List.map_append]
        rfl
      · use count
        rw [← hcount]
        apply trimmedLines_concat_of_isBlank hblank hc
    · use 0
      rw [trimEnd_concat_of_not_isBlank hblank, List.replicate_zero, List.append_nil]

theorem trim_of_mem_trimmedLines {text : Text} {line : Line} (h : line ∈ trimmedLines text) :
  trim line = line
  := by
  obtain ⟨piece, -, rfl⟩ := List.mem_map.mp h
  apply trim_trim

/-- The first of the trimmed lines of a text that begins with no blank is not empty. -/
theorem trimmedLines_eq_cons {text : Text} (h : text ≠ [])
    (hhead : ¬ isBlank (text.head h) = true) :
  ∃ (line : Line) (rest : List Line), trimmedLines text = line :: rest ∧ line ≠ []
  := by
  cases text with
  | nil => cases h rfl
  | cons c text =>
    have hc : c ≠ '\n' := by
      rintro rfl
      apply hhead isBlank_newline
    obtain ⟨first, rest, hlines⟩ := List.exists_cons_of_ne_nil (lines_ne_nil text)
    use trim (c :: first), rest.map trim
    constructor
    · rw [trimmedLines, lines_cons_of_ne hc, hlines]
      rfl
    · intro hnil
      apply hhead
      apply trim_eq_nil_iff.mp hnil c List.mem_cons_self

/-- The last of the trimmed lines of a text that ends with no blank is not empty. -/
theorem trimmedLines_eq_concat {text : Text} (h : text ≠ [])
    (hlast : ¬ isBlank (text.getLast h) = true) :
  ∃ (rest : List Line) (line : Line), trimmedLines text = rest ++ [line] ∧ line ≠ []
  := by
  obtain rfl | ⟨text, c, rfl⟩ := List.eq_nil_or_concat' text
  · cases h rfl
  rw [List.getLast_concat] at hlast
  have hc : c ≠ '\n' := by
    rintro rfl
    apply hlast isBlank_newline
  obtain ⟨front, last, -, hlines⟩ := lines_concat_of_ne hc text
  use front.map trim, trim (last ++ [c])
  constructor
  · rw [trimmedLines, hlines, List.map_append]
    rfl
  · intro hnil
    apply hlast
    apply trim_eq_nil_iff.mp hnil c
    apply List.mem_append_right last List.mem_cons_self

end ContractLint.Text
