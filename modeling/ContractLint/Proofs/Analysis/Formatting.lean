import ContractLint.Analysis
import ContractLint.Proofs.Source.Canonical

/-!
# Formatting

The findings of a text depend on its canonical lines only.  Hence nothing that leaves the canonical
lines as they are changes a finding: writing all line breaks in one style, changing the blanks at
the margins of lines, or writing some tabs as four blanks.
-/

namespace ContractLint

namespace Text

/-! ### Line breaks -/

/-- The ways to break a line. -/
def lineBreaks : List Text :=
  [['\n'], ['\r'], ['\r', '\n']]

/-- A text that holds no line break. -/
def IsUnbroken (text : Text) : Prop :=
  '\r' ∉ text ∧ '\n' ∉ text

theorem physicalLines_ne_nil (text : Text) :
  physicalLines text ≠ []
  := by
  rw [physicalLines_eq_lines]
  apply lines_ne_nil

theorem physicalLines_cons_of_ne {c : Char} (hreturn : c ≠ '\r') (hfeed : c ≠ '\n')
    (text : Text) :
  physicalLines (c :: text) = (physicalLines text).modifyHead (c :: ·)
  := by
  rw [physicalLines]
  · rw [if_neg (by simp [hreturn, hfeed])]
  · intro _ h
    cases hreturn h

/-- Text without line breaks goes to the front of the first line. -/
theorem physicalLines_append {line : Line} (h : IsUnbroken line) (text : Text) :
  physicalLines (line ++ text) = (physicalLines text).modifyHead (line ++ ·)
  := by
  obtain ⟨first, rest, hlines⟩ := List.exists_cons_of_ne_nil (physicalLines_ne_nil text)
  induction line with
  | nil =>
    rw [hlines]
    exact hlines
  | cons c line ih =>
    simp only [IsUnbroken, List.mem_cons, not_or] at h
    rw [List.cons_append, physicalLines_cons_of_ne (Ne.symm h.1.1) (Ne.symm h.2.1),
      ih ⟨h.1.2, h.2.2⟩, hlines]
    rfl

theorem physicalLines_of_isUnbroken {line : Line} (h : IsUnbroken line) :
  physicalLines line = [line]
  := by
  have happend := physicalLines_append h []
  rw [List.append_nil] at happend
  apply happend.trans
  simp [physicalLines]

/-- A carriage return ends a line by itself, unless a line feed follows it. -/
theorem physicalLines_return {text : Text} (h : text.head? ≠ some '\n') :
  physicalLines ('\r' :: text) = [] :: physicalLines text
  := by
  cases text with
  | nil => rfl
  | cons c text =>
    rw [physicalLines]
    · rfl
    · rintro rest - hrest
      injection hrest with hc
      apply h
      rw [hc]
      rfl

theorem isUnbroken_of_mem_physicalLines {text : Text} {line : Line}
    (h : line ∈ physicalLines text) :
  IsUnbroken line
  := by
  fun_induction physicalLines text generalizing line with
  | case1 =>
    rw [List.mem_singleton.mp h]
    simp [IsUnbroken]
  | case2 rest ih =>
    obtain rfl | hrest := List.mem_cons.mp h
    · simp [IsUnbroken]
    · apply ih hrest
  | case3 c rest hpair hbreak ih =>
    obtain rfl | hrest := List.mem_cons.mp h
    · simp [IsUnbroken]
    · apply ih hrest
  | case4 c rest hpair hbreak ih =>
    obtain ⟨first, lines, hlines⟩ := List.exists_cons_of_ne_nil (physicalLines_ne_nil rest)
    rw [hlines] at h ih
    obtain rfl | hline := List.mem_cons.mp h
    · have hfirst := ih List.mem_cons_self
      simp only [IsUnbroken, List.mem_cons, not_or] at hfirst ⊢
      grind
    · apply ih (List.mem_cons_of_mem first hline)

/-- Unbroken lines joined by carriage returns do not begin with a line feed. -/
theorem head?_intercalate_ne {lines : List Line} (h : ∀ line ∈ lines, IsUnbroken line) :
  (List.intercalate ['\r'] lines).head? ≠ some '\n'
  := by
  cases lines with
  | nil => simp
  | cons line rest =>
    cases line with
    | nil => cases rest <;> simp
    | cons c line =>
      rw [List.intercalate_cons_cons_left, List.head?_cons]
      rintro ⟨⟩
      apply (h _ List.mem_cons_self).2 List.mem_cons_self

/-- Unbroken lines joined by line breaks of one style are the lines of the text so made. -/
theorem physicalLines_intercalate {lineBreak : Text} (hbreak : lineBreak ∈ lineBreaks)
    {lines : List Line} (hne : lines ≠ []) (h : ∀ line ∈ lines, IsUnbroken line) :
  physicalLines (List.intercalate lineBreak lines) = lines
  := by
  induction lines with
  | nil => cases hne rfl
  | cons line rest ih =>
    have hline := h line List.mem_cons_self
    have hrest : ∀ line ∈ rest, IsUnbroken line := fun line hmem =>
      h line (List.mem_cons_of_mem _ hmem)
    cases rest with
    | nil =>
      rw [List.intercalate_singleton]
      apply physicalLines_of_isUnbroken hline
    | cons next rest =>
      have hbroken : physicalLines (lineBreak ++ List.intercalate lineBreak (next :: rest))
          = [] :: physicalLines (List.intercalate lineBreak (next :: rest)) := by
        simp only [lineBreaks, List.mem_cons, List.not_mem_nil, or_false] at hbreak
        obtain rfl | rfl | rfl := hbreak
        · rfl
        · apply physicalLines_return
          apply head?_intercalate_ne hrest
        · rfl
      rw [List.intercalate_cons_cons, List.append_assoc, physicalLines_append hline, hbroken,
        ih (List.cons_ne_nil next rest) hrest]
      simp

/-! ### Tabs -/

/-- `Retabbed text text'`: the text `text'` is `text` with some of its tabs written as four
blanks. -/
inductive Retabbed : Text → Text → Prop where
  | nil : Retabbed [] []
  | keep (c : Char) {text text' : Text} :
      Retabbed text text' → Retabbed (c :: text) (c :: text')
  | expand {text text' : Text} :
      Retabbed text text' → Retabbed ('\t' :: text) (' ' :: ' ' :: ' ' :: ' ' :: text')

theorem Retabbed.expandTabs_eq {text text' : Text} (h : Retabbed text text') :
  expandTabs text = expandTabs text'
  := by
  induction h with
  | nil => rfl
  | keep c _ ih => rw [expandTabs_cons, expandTabs_cons, ih]
  | expand _ ih =>
    rw [expandTabs_cons_tab, ih]
    rfl

/-- It makes no difference whether line breaks are unified or tabs are expanded first. -/
theorem unifyBreaks_expandTabs (text : Text) :
  unifyBreaks (expandTabs text) = expandTabs (unifyBreaks text)
  := by
  fun_induction unifyBreaks text with
  | case1 => rfl
  | case2 rest ih =>
    rw [expandTabs_cons_of_ne (by decide), expandTabs_cons_of_ne (by decide), unifyBreaks, ih,
      expandTabs_cons_of_ne (by decide)]
  | case3 c rest hpair ih =>
    by_cases htab : c = '\t'
    · subst htab
      rw [expandTabs_cons_tab, if_neg (by decide), expandTabs_cons_tab, ← ih]
      simp [unifyBreaks_cons_of_ne]
    · rw [expandTabs_cons_of_ne htab]
      by_cases hc : c = '\r'
      · subst hc
        rw [if_pos rfl, expandTabs_cons_of_ne (by decide), ← ih]
        apply unifyBreaks_return
        cases rest with
        | nil => simp [expandTabs]
        | cons d rest =>
          by_cases hd : d = '\t'
          · subst hd
            simp [expandTabs_cons_tab]
          · rw [expandTabs_cons_of_ne hd]
            rintro ⟨⟩
            apply hpair rest rfl rfl
      · rw [if_neg hc, unifyBreaks_cons_of_ne hc, ih, expandTabs_cons_of_ne htab]

theorem canonicalLines_of_retabbed {text text' : Text} (h : Retabbed text text') :
  canonicalLines text = canonicalLines text'
  := by
  rw [canonicalLines_eq_trimmedLines, canonicalLines_eq_trimmedLines, ← unifyBreaks_expandTabs,
    ← unifyBreaks_expandTabs, h.expandTabs_eq]

/-! ### Margins -/

/-- The blanks at the margins of a line do not matter to its canonical line. -/
theorem canonicalLine_trim (line : Line) :
  canonicalLine (trim line) = canonicalLine line
  := by
  obtain ⟨front, back, hline, hfront, hback⟩ := exists_eq_append_trim_append line
  have heq : canonicalLine line = canonicalLine (front ++ trim line ++ back) :=
    congrArg canonicalLine hline
  rw [heq, canonicalLine, canonicalLine, expandTabs_append, expandTabs_append,
    trim_append_of_isBlank_right (forall_isBlank_expandTabs.mpr hback),
    trim_append_of_isBlank_left (forall_isBlank_expandTabs.mpr hfront)]

theorem canonicalLines_of_map_trim {text text' : Text}
    (h : (physicalLines text).map trim = (physicalLines text').map trim) :
  canonicalLines text = canonicalLines text'
  := by
  have hmap := congrArg (List.map canonicalLine) h
  simp only [List.map_map, Function.comp_def, canonicalLine_trim] at hmap
  apply hmap

end Text

/-! ### The analysis of a text -/

open Text

/-- The findings of a text in terms of its canonical lines. -/
theorem textFindings_eq (settings : Settings) (text : Text) :
  textFindings settings text
    = if (canonicalLines text).all List.isEmpty then [Check.invalidInput.outcome]
      else sourceFindings settings (Source.ofCanonicalLines (canonicalLines text))
  := by
  rw [textFindings]
  by_cases h : trim text = []
  · have hempty := Source.trim_eq_nil_iff_canonicalLines.mp h
    rw [if_pos (by simp [h]), if_pos (by simpa using hempty)]
  · have hempty := Source.trim_eq_nil_iff_canonicalLines.not.mp h
    rw [if_neg (by simpa using h), if_neg (by simpa using hempty),
      Source.ofText_eq_ofCanonicalLines h]

theorem analyze_eq_of_canonicalLines {text text' : Text}
    (h : canonicalLines text = canonicalLines text') (settings : Settings)
    (path : Option Path) :
  analyze settings path text = analyze settings path text'
  := by
  rw [analyze, analyze, textFindings_eq, textFindings_eq, h]

/-- Texts with the same canonical lines have the same findings.  In particular the findings stay
the same when all line breaks are written in one style, when the margins of lines change, and when
some tabs are written as blanks. -/
theorem analyze_formatting_irrelevant (settings : Settings) (path : Option Path)
    (text text' : Text) :
  (canonicalLines text = canonicalLines text' →
      analyze settings path text = analyze settings path text')
    ∧ (∀ lineBreak ∈ lineBreaks,
      analyze settings path (List.intercalate lineBreak (physicalLines text))
        = analyze settings path text)
    ∧ ((physicalLines text).map trim = (physicalLines text').map trim →
      analyze settings path text = analyze settings path text')
    ∧ (Retabbed text text' → analyze settings path text = analyze settings path text')
  := by
  refine ⟨?_, ?_, ?_, ?_⟩
  · intro h
    apply analyze_eq_of_canonicalLines h
  · intro lineBreak hbreak
    apply analyze_eq_of_canonicalLines
    rw [canonicalLines, physicalLines_intercalate hbreak (physicalLines_ne_nil text)]
    · rfl
    · intro line hline
      apply isUnbroken_of_mem_physicalLines hline
  · intro h
    apply analyze_eq_of_canonicalLines
    apply canonicalLines_of_map_trim h
  · intro h
    apply analyze_eq_of_canonicalLines
    apply canonicalLines_of_retabbed h

/-- A tab at the margin of a line and four blanks in its place. -/
theorem analyze_formatting_irrelevant_tab :
  Retabbed "contract C \x7b\n\tthrow;\x7d".toList "contract C \x7b\n    throw;\x7d".toList
    ∧ canonicalLines "contract C \x7b\n\tthrow;\x7d".toList
      = canonicalLines "contract C \x7b\n    throw;\x7d".toList
    ∧ (physicalLines "contract C \x7b\n\tthrow;\x7d".toList).map trim
      = (physicalLines "contract C \x7b\n    throw;\x7d".toList).map trim
    ∧ analyze {} none "contract C \x7b\n\tthrow;\x7d".toList
      = analyze {} none "contract C \x7b\n    throw;\x7d".toList
  := by
  have hretabbed : Retabbed "contract C \x7b\n\tthrow;\x7d".toList
      "contract C \x7b\n    throw;\x7d".toList := by
    repeat constructor
  obtain ⟨-, -, -, htabs⟩ := analyze_formatting_irrelevant {} none
    "contract C \x7b\n\tthrow;\x7d".toList "contract C \x7b\n    throw;\x7d".toList
  use hretabbed, by decide, by decide
  apply htabs hretabbed

end ContractLint
