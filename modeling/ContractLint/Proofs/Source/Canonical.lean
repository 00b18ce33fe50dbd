import ContractLint.Proofs.Text.Lines

/-!
# Canonical lines

The physical lines of a text end at a line feed, at a carriage return, or at the two together.  The
canonical line of a physical line has its tabs expanded and its ends trimmed.

* The canonical lines of a text are the lines of its source, with as many empty lines before them
  as the offset of the source, and empty lines after them.
* The source of a text that is not blank is determined by its canonical lines.
-/

namespace ContractLint

namespace Text

/-! ### Physical lines -/

/-- The lines of a text as it is given, which end at a carriage return and a line feed, at a
carriage return alone, or at a line feed. -/
def physicalLines : Text → List Line
  | [] => [[]]
  | '\r' :: '\n' :: rest => [] :: physicalLines rest
  | c :: rest =>
    if c = '\r' ∨ c = '\n' then [] :: physicalLines rest
    else (physicalLines rest).modifyHead (c :: ·)

/-- The line of a text as it is given with a number, counted from one. -/
def physicalLine? (text : Text) : Nat → Option Line
  | 0 => none
  | index + 1 => (physicalLines text)[index]?

/-- The line with its tabs expanded and its ends trimmed. -/
def canonicalLine (line : Line) : Line :=
  trim (expandTabs line)

/-- The canonical lines of a text. -/
def canonicalLines (text : Text) : List Line :=
  (physicalLines text).map canonicalLine

/-- The physical lines of a text are the lines of the text with its line breaks unified. -/
theorem physicalLines_eq_lines (text : Text) :
  physicalLines text = lines (unifyBreaks text)
  := by
  fun_induction physicalLines text with
  | case1 => rfl
  | case2 rest ih =>
    rw [unifyBreaks, lines_cons_newline, ih]
  | case3 c rest hpair hbreak ih =>
    rw [unifyBreaks, ih]
    · obtain rfl | rfl := hbreak
      · rw [if_pos rfl, lines_cons_newline]
      · rw [if_neg (by decide), lines_cons_newline]
    · apply hpair
  | case4 c rest hpair hbreak ih =>
    rw [not_or] at hbreak
    rw [unifyBreaks, if_neg hbreak.1, ih, lines_cons_of_ne hbreak.2]
    apply hpair

/-! ### Line breaks -/

theorem unifyBreaks_cons_of_ne {c : Char} (h : c ≠ '\r') (text : Text) :
  unifyBreaks (c :: text) = c :: unifyBreaks text
  := by
  rw [unifyBreaks, if_neg h]
  intro _ hc
  cases h hc

/-- A carriage return without a line feed is a line break of its own. -/
theorem unifyBreaks_return {text : Text} (h : text.head? ≠ some '\n') :
  unifyBreaks ('\r' :: text) = '\n' :: unifyBreaks text
  := by
  rw [unifyBreaks, if_pos rfl]
  rintro rest - rfl
  apply h rfl

/-- A front without carriage returns is left as it is. -/
theorem unifyBreaks_append_left {front : Text} (h : '\r' ∉ front) (text : Text) :
  unifyBreaks (front ++ text) = front ++ unifyBreaks text
  := by
  induction front with
  | nil => rfl
  | cons c front ih =>
    rw [List.mem_cons, not_or] at h
    rw [List.cons_append, unifyBreaks_cons_of_ne (Ne.symm h.1), ih h.2]
    rfl

/-! ### Tabs -/

theorem expandTabs_cons (c : Char) (text : Text) :
  expandTabs (c :: text) = (if c = '\t' then [' ', ' ', ' ', ' '] else [c]) ++ expandTabs text
  := rfl

theorem expandTabs_cons_tab (text : Text) :
  expandTabs ('\t' :: text) = ' ' :: ' ' :: ' ' :: ' ' :: expandTabs text
  := rfl

theorem expandTabs_cons_of_ne {c : Char} (h : c ≠ '\t') (text : Text) :
  expandTabs (c :: text) = c :: expandTabs text
  := by
  rw [expandTabs_cons, if_neg h]
  rfl

/-- Tabs are expanded one by one. -/
theorem expandTabs_append (left right : Text) :
  expandTabs (left ++ right) = expandTabs left ++ expandTabs right
  := List.flatMap_append

theorem expandTabs_eq_self {text : Text} (h : '\t' ∉ text) :
  expandTabs text = text
  := by
  induction text with
  | nil => rfl
  | cons c text ih =>
    rw [List.mem_cons, not_or] at h
    rw [expandTabs_cons_of_ne (Ne.symm h.1), ih h.2]

/-- Expanding the tabs of a text expands the tabs of each of its lines. -/
theorem lines_expandTabs (text : Text) :
  lines (expandTabs text) = (lines text).map expandTabs
  := by
  induction text with
  | nil => rfl
  | cons c text ih =>
    obtain ⟨first, rest, hlines⟩ := List.exists_cons_of_ne_nil (lines_ne_nil text)
    rw [hlines, List.map_cons] at ih
    by_cases htab : c = '\t'
    · subst htab
      rw [expandTabs_cons_tab, lines_cons_of_ne (c := '\t') (by decide), hlines]
      simp [lines_cons_of_ne, ih, expandTabs_cons_tab]
    · rw [expandTabs_cons_of_ne htab]
      by_cases hc : c = '\n'
      · subst hc
        rw [lines_cons_newline, lines_cons_newline, ih, hlines]
        rfl
      · rw [lines_cons_of_ne hc, lines_cons_of_ne hc, ih, hlines]
        simp [expandTabs_cons_of_ne htab]

/-- Canonical lines are the trimmed lines of a text with unified breaks and expanded tabs. -/
theorem canonicalLines_eq_trimmedLines (text : Text) :
  canonicalLines text = trimmedLines (expandTabs (unifyBreaks text))
  := by
  rw [canonicalLines, physicalLines_eq_lines, trimmedLines, lines_expandTabs, List.map_map]
  rfl

/-! ### Blank texts -/

/-- Unifying breaks makes no text blank or not blank. -/
theorem forall_isBlank_unifyBreaks {text : Text} :
  (∀ c ∈ unifyBreaks text, isBlank c = true) ↔ ∀ c ∈ text, isBlank c = true
  := by
  have hfeed : isBlank '\n' = true := rfl
  have hreturn : isBlank '\r' = true := rfl
  fun_induction unifyBreaks text with
  | case1 => simp
  | case2 rest ih => simp [ih, hfeed, hreturn]
  | case3 c rest hpair ih => grind

/-- Expanding tabs makes no text blank or not blank. -/
theorem forall_isBlank_expandTabs {text : Text} :
  (∀ c ∈ expandTabs text, isBlank c = true) ↔ ∀ c ∈ text, isBlank c = true
  := by
  have hspace : isBlank ' ' = true := rfl
  have htab : isBlank '\t' = true := rfl
  induction text with
  | nil => simp [expandTabs]
  | cons c text ih =>
    by_cases hc : c = '\t'
    · subst hc
      simp [expandTabs_cons_tab, ih, hspace, htab]
    · simp [expandTabs_cons_of_ne hc, ih]

/-- Expanding tabs keeps the number of line feeds among the blanks at the front. -/
theorem count_takeWhile_expandTabs (text : Text) :
  ((expandTabs text).takeWhile isBlank).count '\n' = (text.takeWhile isBlank).count '\n'
  := by
  have hspace : isBlank ' ' = true := rfl
  have htab : isBlank '\t' = true := rfl
  induction text with
  | nil => rfl
  | cons c text ih =>
    by_cases hc : c = '\t'
    · subst hc
      simp [expandTabs_cons_tab, hspace, htab, ih]
    · rw [expandTabs_cons_of_ne hc, List.takeWhile_cons, List.takeWhile_cons]
      by_cases hblank : isBlank c = true
      · simp [hblank, List.count_cons, ih]
      · simp [hblank]

/-- The normal form of a text is empty exactly when the text is blank. -/
theorem normalize_eq_nil_iff {text : Text} :
  normalize text = [] ↔ trim text = []
  := by
  rw [normalize, trim_eq_nil_iff, forall_isBlank_expandTabs, forall_isBlank_unifyBreaks,
    trim_eq_nil_iff]

end Text

/-! ### Sources -/

namespace Source

open Text

/-- The offset of a source is the number of line breaks before it. -/
theorem offset_ofText {text : Text} (h : trim text ≠ []) :
  (ofText text).offset = ((expandTabs (unifyBreaks text)).takeWhile isBlank).count '\n'
  := by
  have hstart : trimStart (unifyBreaks text) ≠ [] := by
    intro hnil
    apply h
    rw [trim_eq_nil_iff, ← forall_isBlank_unifyBreaks]
    apply trimStart_eq_nil_iff.mp hnil
  rw [count_takeWhile_expandTabs]
  simp [ofText, leadingLines, hstart]

theorem ofText_of_trim_eq_nil {text : Text} (h : trim text = []) :
  ofText text = ⟨[[]], 0⟩
  := by
  have hstart : trimStart (unifyBreaks text) = [] := by
    rw [trimStart_eq_nil_iff, forall_isBlank_unifyBreaks]
    apply trim_eq_nil_iff.mp h
  rw [ofText, normalize_eq_nil_iff.mpr h, leadingLines, hstart]
  rfl

/-- The canonical lines of a text are the lines of its source between empty lines, and those in
front are counted by the offset. -/
theorem canonicalLines_eq_append (text : Text) :
  ∃ count : Nat, canonicalLines text
    = List.replicate (ofText text).offset [] ++ (ofText text).lines ++ List.replicate count []
  := by
  rw [canonicalLines_eq_trimmedLines, trimmedLines_eq_replicate_append]
  by_cases h : trim text = []
  · -- all lines are empty, and the one line of the source may be taken to be the first of them
    have hstart : trimStart (expandTabs (unifyBreaks text)) = [] := by
      rw [trimStart_eq_nil_iff, forall_isBlank_expandTabs, forall_isBlank_unifyBreaks]
      apply trim_eq_nil_iff.mp h
    use ((expandTabs (unifyBreaks text)).takeWhile isBlank).count '\n'
    rw [hstart, ofText_of_trim_eq_nil h]
    apply List.replicate_succ'.symm
  · obtain ⟨count, hcount⟩ :=
      trimmedLines_eq_append_replicate (trimStart (expandTabs (unifyBreaks text)))
    use count
    rw [offset_ofText h, hcount, List.append_assoc]
    rfl

/-- A line of the source of a text is the canonical line that many places after the offset. -/
theorem getElem?_canonicalLines {text : Text} {index : Nat} {line : Line}
    (h : (ofText text).lines[index]? = some line) :
  (canonicalLines text)[index + (ofText text).offset]? = some line
  := by
  obtain ⟨count, hcount⟩ := canonicalLines_eq_append text
  have hlt : index < (ofText text).lines.length := (List.getElem?_eq_some_iff.mp h).1
  rw [hcount, List.append_assoc, List.getElem?_append_right (by simp), List.length_replicate,
    Nat.add_sub_cancel, List.getElem?_append_left hlt, h]

/-- The source with some canonical lines: the empty lines at both ends are dropped, and those in
front are counted. -/
def ofCanonicalLines (lines : List Line) : Source where
  lines := (lines.dropWhile List.isEmpty).rdropWhile List.isEmpty
  offset := (lines.takeWhile List.isEmpty).length

/-- Lines between empty lines, of which the first and the last are not empty, are the lines of the
source with all of them. -/
theorem ofCanonicalLines_append (before after : Nat) {lines : List Line}
    (hfirst : ∃ line rest, lines = line :: rest ∧ line ≠ [])
    (hlast : ∃ rest line, lines = rest ++ [line] ∧ line ≠ []) :
  ofCanonicalLines (List.replicate before [] ++ lines ++ List.replicate after [])
    = ⟨lines, before⟩
  := by
  have hempty (count : Nat) : ∀ line ∈ List.replicate count ([] : Line), line.isEmpty = true := by
    intro line hline
    rw [List.eq_of_mem_replicate hline]
    rfl
  have hfront : (lines ++ List.replicate after []).dropWhile List.isEmpty
        = lines ++ List.replicate after []
      ∧ (lines ++ List.replicate after []).takeWhile List.isEmpty = [] := by
    obtain ⟨line, rest, rfl, hline⟩ := hfirst
    simp [hline]
  have hback : (lines ++ List.replicate after []).rdropWhile List.isEmpty = lines := by
    obtain ⟨rest, line, rfl, hline⟩ := hlast
    rw [List.rdropWhile, List.reverse_append, List.reverse_replicate,
      List.dropWhile_append_of_pos (hempty after)]
    apply List.rdropWhile_concat_neg
    simpa using hline
  rw [ofCanonicalLines, List.append_assoc, List.dropWhile_append_of_pos (hempty before),
    List.takeWhile_append_of_pos (hempty before), hfront.1, hfront.2, hback]
  simp

/-- The source of a text that is not blank is determined by the canonical lines of the text. -/
theorem ofText_eq_ofCanonicalLines {text : Text} (h : trim text ≠ []) :
  ofText text = ofCanonicalLines (canonicalLines text)
  := by
  have hnormal : normalize text ≠ [] := normalize_eq_nil_iff.not.mpr h
  obtain ⟨count, hcount⟩ := canonicalLines_eq_append text
  rw [hcount, ofCanonicalLines_append]
  · apply trimmedLines_eq_cons hnormal
    apply not_isBlank_head_trim
  · apply trimmedLines_eq_concat hnormal
    apply not_isBlank_getLast_trim

/-- A text is blank exactly when all its canonical lines are empty. -/
theorem trim_eq_nil_iff_canonicalLines {text : Text} :
  trim text = [] ↔ ∀ line ∈ canonicalLines text, line = []
  := by
  obtain ⟨count, hcount⟩ := canonicalLines_eq_append text
  constructor
  · intro h
    rw [hcount, ofText_of_trim_eq_nil h]
    simp
  · intro h
    by_contra hblank
    have hnormal : normalize text ≠ [] := normalize_eq_nil_iff.not.mpr hblank
    obtain ⟨line, rest, hlines, hline⟩ :=
      trimmedLines_eq_cons hnormal (not_isBlank_head_trim hnormal)
    apply hline
    apply h
    rw [hcount, ofText, hlines]
    simp

theorem trim_of_mem_lines {text : Text} {line : Line} (h : line ∈ (ofText text).lines) :
  trim line = line
  := trim_of_mem_trimmedLines h

end Source

end ContractLint
