import ContractLint.Proofs.Analysis.Formatting
import ContractLint.Rule.Catalogue

/-!
# Rules and the form of a line

Whether a rule flags a line does not depend on the form in which the line is written: a line and
its canonical form hold the same needles.  This is so because a needle neither begins nor ends with
a blank, and holds no tab and no two blanks in a row, so that it can neither reach into the margins
of a line nor into an expanded tab.  So a test of single lines says the same of the lines of a
source and of the lines of the text as it is given.
-/

namespace ContractLint

namespace Text

/-! ### Occurrences -/

/-- A text occurs in another exactly when it is a part of it. -/
theorem occursIn_iff {needle text : Text} :
  occursIn needle text = true ↔ needle <:+: text
  := by
  induction text with
  | nil => simp [occursIn]
  | cons c text ih =>
    rw [occursIn, Bool.or_eq_true, ih, List.isPrefixOf_iff_prefix]
    apply List.infix_cons_iff.symm

/-- A text that neither begins nor ends with a blank, and in which no tab and no two blanks in a row
stand. -/
structure IsCompact (needle : Text) : Prop where
  /-- The first character is there and is not blank. -/
  head : needle.head?.any (!isBlank ·) = true
  /-- The last character is there and is not blank. -/
  last : needle.getLast?.any (!isBlank ·) = true
  /-- There is no tab. -/
  tab : '\t' ∉ needle
  /-- There are no two blanks in a row. -/
  single : occursIn [' ', ' '] needle = false

instance (needle : Text) : Decidable (IsCompact needle) :=
  decidable_of_iff (needle.head?.any (!isBlank ·) = true ∧ needle.getLast?.any (!isBlank ·) = true
      ∧ '\t' ∉ needle ∧ occursIn [' ', ' '] needle = false)
    ⟨fun ⟨head, last, tab, single⟩ => ⟨head, last, tab, single⟩,
      fun ⟨head, last, tab, single⟩ => ⟨head, last, tab, single⟩⟩

/-! ### Margins -/

/-- What does not begin with a blank is no front of a text that does. -/
theorem not_front_of_isBlank {needle : Text} (h : needle.head?.any (!isBlank ·) = true) {c : Char}
    (hc : isBlank c = true) (text : Text) :
  ¬ needle <+: c :: text
  := by
  cases needle with
  | nil => cases h
  | cons d needle =>
    intro hfront
    obtain ⟨rfl, -⟩ := List.cons_prefix_cons.mp hfront
    simp [hc] at h

/-- Trimming the start loses no occurrence of a text that does not start with a blank. -/
theorem infix_trimStart_iff {needle : Text} (h : needle.head?.any (!isBlank ·) = true)
    (text : Text) :
  needle <:+: trimStart text ↔ needle <:+: text
  := by
  induction text with
  | nil => rfl
  | cons c text ih =>
    by_cases hc : isBlank c = true
    · rw [trimStart_cons_of_isBlank hc, ih, List.infix_cons_iff,
        or_iff_right (not_front_of_isBlank h hc text)]
    · rw [trimStart_cons_of_not_isBlank hc]

/-- Trimming the end loses no occurrence of a text that does not end with a blank. -/
theorem infix_trimEnd_iff {needle : Text} (h : needle.getLast?.any (!isBlank ·) = true)
    (text : Text) :
  needle <:+: trimEnd text ↔ needle <:+: text
  := by
  have hhead : needle.reverse.head?.any (!isBlank ·) = true := by rwa [List.head?_reverse]
  have hreverse := infix_trimStart_iff hhead text.reverse
  rw [List.reverse_infix] at hreverse
  rw [← hreverse, ← List.reverse_infix, trimEnd, List.reverse_reverse]
  rfl

/-- Trimming neither loses nor makes an occurrence of a compact text. -/
theorem infix_trim_iff {needle : Text} (h : IsCompact needle) (text : Text) :
  needle <:+: trim text ↔ needle <:+: text
  := by rw [trim, infix_trimEnd_iff h.last, infix_trimStart_iff h.head]

/-! ### Tabs -/

/-- What ends with no blank and holds no two blanks in a row is a front of a text when it is a front
of the text with its tabs expanded. -/
theorem front_of_front_expandTabs {needle text : Text}
    (hlast : ∀ c ∈ needle.getLast?, ¬ isBlank c = true) (hsingle : ¬ [' ', ' '] <:+: needle)
    (h : needle <+: expandTabs text) :
  needle <+: text
  := by
  induction text generalizing needle with
  | nil => apply h
  | cons c text ih =>
    cases needle with
    | nil => apply List.nil_prefix
    | cons d needle =>
      by_cases hc : c = '\t'
      · -- the needle would have to reach into the four blanks of the tab
        subst hc
        rw [expandTabs_cons_tab, List.cons_prefix_cons] at h
        obtain ⟨rfl, hneedle⟩ := h
        cases needle with
        | nil => cases hlast ' ' rfl rfl
        | cons e needle =>
          obtain ⟨rfl, -⟩ := List.cons_prefix_cons.mp hneedle
          apply absurd _ hsingle
          use [], needle
          rfl
      · rw [expandTabs_cons_of_ne hc, List.cons_prefix_cons] at h
        rw [List.cons_prefix_cons]
        use h.1
        apply ih _ _ h.2
        · intro e he
          apply hlast
          cases needle with
          | nil => cases he
          | cons f needle =>
            rw [List.getLast?_cons_cons]
            apply he
        · intro hoccurs
          apply hsingle
          apply List.infix_cons hoccurs

/-- Expanding tabs neither loses nor makes an occurrence of a compact text. -/
theorem infix_expandTabs_iff {needle : Text} (h : IsCompact needle) (text : Text) :
  needle <:+: expandTabs text ↔ needle <:+: text
  := by
  constructor
  · intro hoccurs
    have hlast : ∀ c ∈ needle.getLast?, ¬ isBlank c = true := by
      intro c hc
      have hlast := h.last
      rw [hc] at hlast
      simpa using hlast
    have hsingle : ¬ [' ', ' '] <:+: needle := by
      rw [← occursIn_iff, h.single]
      apply Bool.false_ne_true
    induction text with
    | nil => apply hoccurs
    | cons c text ih =>
      by_cases hc : c = '\t'
      · -- no needle begins with one of the four blanks of the tab
        subst hc
        have hfront (rest : Text) := not_front_of_isBlank h.head (c := ' ') rfl rest
        simp only [expandTabs_cons_tab, List.infix_cons_iff, hfront, false_or] at hoccurs
        apply List.infix_cons (ih hoccurs)
      · rw [expandTabs_cons_of_ne hc, List.infix_cons_iff] at hoccurs
        obtain hfront | hrest := hoccurs
        · apply List.IsPrefix.isInfix
          apply front_of_front_expandTabs hlast hsingle
          rw [expandTabs_cons_of_ne hc]
          apply hfront
        · apply List.infix_cons (ih hrest)
  · rintro ⟨front, back, rfl⟩
    use expandTabs front, expandTabs back
    rw [expandTabs_append, expandTabs_append, expandTabs_eq_self h.tab]

/-- A line and its canonical form hold the same compact needles. -/
theorem occursIn_canonicalLine {needle : Text} (h : IsCompact needle) (line : Line) :
  occursIn needle (canonicalLine line) = occursIn needle line
  := by
  rw [Bool.eq_iff_iff, occursIn_iff, occursIn_iff, canonicalLine, infix_trim_iff h,
    infix_expandTabs_iff h]

/-- A line and its canonical form have the same compact texts in them. -/
theorem anyOccursIn_canonicalLine {needles : List Text} (h : ∀ needle ∈ needles, IsCompact needle)
    (line : Line) :
  anyOccursIn needles (canonicalLine line) = anyOccursIn needles line
  := by
  rw [anyOccursIn, anyOccursIn, Bool.eq_iff_iff, List.any_eq_true, List.any_eq_true]
  apply exists_congr
  intro needle
  apply and_congr_right
  intro hneedle
  rw [occursIn_canonicalLine (h needle hneedle)]

end Text

open Text

/-! ### Patterns -/

namespace Pattern

theorem callsOut_canonicalLine (line : Line) :
  callsOut (canonicalLine line) = callsOut line
  := by
  apply anyOccursIn_canonicalLine
  decide

theorem writesState_canonicalLine (line : Line) :
  writesState (canonicalLine line) = writesState line
  := by
  apply anyOccursIn_canonicalLine
  decide

theorem isGuarded_canonicalLine (line : Line) :
  isGuarded (canonicalLine line) = isGuarded line
  := by
  apply anyOccursIn_canonicalLine
  decide

/-- The text of an address with some hexadecimal digits. -/
def address (digits : Text) : Text :=
  '0' :: 'x' :: digits

/-- An address is at the front when its digits follow the mark. -/
theorem addressAtFront_iff {text : Text} :
  addressAtFront text = true
    ↔ ∃ digits : Text, digits.length = 40 ∧ (∀ c ∈ digits, isHexDigit c = true)
      ∧ address digits <+: text
  := by
  have hfront : "0x".toList = ['0', 'x'] := by decide
  rw [addressAtFront, Bool.and_eq_true, hfront, List.isPrefixOf_iff_prefix, decide_eq_true_iff]
  constructor
  · rintro ⟨⟨rest, rfl⟩, hlength⟩
    use (rest.takeWhile isHexDigit).take 40
    refine ⟨?_, ?_, ?_⟩
    · apply List.length_take_of_le hlength
    · intro c hc
      apply List.mem_takeWhile_imp (List.mem_of_mem_take hc)
    · simp only [address, List.cons_append, List.nil_append, List.cons_prefix_cons, true_and]
      apply List.IsPrefix.trans (List.take_prefix 40 _) (List.takeWhile_prefix isHexDigit)
  · rintro ⟨digits, hlength, hdigits, rest, rfl⟩
    constructor
    · use digits ++ rest
      rfl
    · simp [address, List.takeWhile_append_of_pos hdigits, hlength]

/-- A text has an address exactly when one is a part of it. -/
theorem hasAddress_iff {text : Text} :
  hasAddress text = true
    ↔ ∃ digits : Text, digits.length = 40 ∧ (∀ c ∈ digits, isHexDigit c = true)
      ∧ address digits <:+: text
  := by
  induction text with
  | nil => simp [hasAddress, address]
  | cons c text ih =>
    rw [hasAddress, Bool.or_eq_true, addressAtFront_iff, ih, ← exists_or]
    simp only [← and_or_left, List.infix_cons_iff]

theorem not_isBlank_of_isHexDigit {c : Char} (h : isHexDigit c = true) :
  ¬ isBlank c = true
  := by
  simp only [isHexDigit, Char.isDigit, Char.le_def, Bool.or_eq_true, Bool.and_eq_true,
    decide_eq_true_iff, ge_iff_le, UInt32.le_iff_toNat_le] at h
  simp [isBlank] at h ⊢
  omega

/-- An address is compact. -/
theorem isCompact_address {digits : Text} (h : ∀ c ∈ digits, isHexDigit c = true) :
  IsCompact (address digits)
  := by
  have hblank : ∀ c ∈ address digits, ¬ isBlank c = true := by
    intro c hc
    simp only [address, List.mem_cons] at hc
    obtain rfl | rfl | hdigit := hc
    · decide
    · decide
    · apply not_isBlank_of_isHexDigit (h c hdigit)
  constructor
  · rfl
  · cases hlast : (address digits).getLast? with
    | none => cases List.getLast?_eq_none_iff.mp hlast
    | some c => simp [hblank c (List.mem_of_getLast? hlast)]
  · intro htab
    apply hblank '\t' htab rfl
  · rw [Bool.eq_false_iff, ne_eq, occursIn_iff]
    intro hoccurs
    apply hblank ' ' (hoccurs.subset List.mem_cons_self) rfl

theorem hasAddress_canonicalLine (line : Line) :
  hasAddress (canonicalLine line) = hasAddress line
  := by
  rw [Bool.eq_iff_iff, hasAddress_iff, hasAddress_iff]
  apply exists_congr
  intro digits
  apply and_congr_right
  intro hlength
  apply and_congr_right
  intro hdigits
  have hcompact := isCompact_address hdigits
  rw [canonicalLine, infix_trim_iff hcompact, infix_expandTabs_iff hcompact]

end Pattern

/-! ### Rules -/

/-- A rule that looks for compact texts flags a line exactly when it flags the canonical line. -/
theorem Rule.flags_ofNeedles_canonicalLine (name : String) (check : Check) {needles : List Text}
    (h : ∀ needle ∈ needles, IsCompact needle) (line : Line) :
  (Rule.ofNeedles name check needles).flags (canonicalLine line)
    = (Rule.ofNeedles name check needles).flags line
  := anyOccursIn_canonicalLine h line

/-- A rule of the catalogue flags a line exactly when it flags the canonical form of the line. -/
theorem Rule.flags_canonicalLine {rule : Rule} (h : rule ∈ Rule.catalogue) (line : Line) :
  rule.flags (canonicalLine line) = rule.flags line
  := by
  have hsends : anyOccursIn Pattern.sends (canonicalLine line) = anyOccursIn Pattern.sends line :=
    anyOccursIn_canonicalLine (by decide) line
  have hloops : anyOccursIn Pattern.loops (canonicalLine line) = anyOccursIn Pattern.loops line :=
    anyOccursIn_canonicalLine (by decide) line
  simp only [Rule.catalogue, List.mem_cons, List.not_mem_nil, or_false] at h
  obtain rfl | rfl | rfl | rfl | rfl | rfl | rfl | rfl | rfl | rfl := h
  · simp [Rule.reentrancy, Pattern.callsOut_canonicalLine, Pattern.writesState_canonicalLine]
  · apply Rule.flags_ofNeedles_canonicalLine
    decide
  · apply Rule.flags_ofNeedles_canonicalLine
    decide
  · apply Pattern.hasAddress_canonicalLine
  · simp [Rule.uncheckedSend, hsends, Pattern.isGuarded_canonicalLine]
  · apply Rule.flags_ofNeedles_canonicalLine
    decide
  · apply Rule.flags_ofNeedles_canonicalLine
    decide
  · apply Rule.flags_ofNeedles_canonicalLine
    decide
  · apply Rule.flags_ofNeedles_canonicalLine
    decide
  · simp [Rule.gasLimit, hloops, Pattern.isGuarded_canonicalLine]

/-! ### Lines as they are given -/

/-- The tests of single lines: those of the rules, and those that the rules share with the review of
functions. -/
def lineTests : List (Line → Bool) :=
  Rule.catalogue.map Rule.flags ++ [Pattern.callsOut, Pattern.writesState, Pattern.isGuarded]

/-- All tests of lines give the same answer on the canonical line. -/
theorem lineTests_canonicalLine {test : Line → Bool} (h : test ∈ lineTests) (line : Line) :
  test (canonicalLine line) = test line
  := by
  rw [lineTests, List.mem_append, List.mem_map] at h
  obtain ⟨rule, hrule, rfl⟩ | hpattern := h
  · apply Rule.flags_canonicalLine hrule
  · simp only [List.mem_cons, List.not_mem_nil, or_false] at hpattern
    obtain rfl | rfl | rfl := hpattern
    · apply Pattern.callsOut_canonicalLine
    · apply Pattern.writesState_canonicalLine
    · apply Pattern.isGuarded_canonicalLine

/-- The source of a single line has the canonical form of the line as its only line. -/
theorem Source.lines_ofText_of_isUnbroken {line : Line} (h : IsUnbroken line) :
  (Source.ofText line).lines = [canonicalLine line]
  := by
  obtain ⟨count, hcount⟩ := Source.canonicalLines_eq_append line
  rw [canonicalLines, physicalLines_of_isUnbroken h, List.map_singleton] at hcount
  have hne : (Source.ofText line).lines ≠ [] := by
    intro hnil
    apply lines_ne_nil (normalize line)
    apply List.map_eq_nil_iff.mp hnil
  -- there is no room for empty lines before or after it
  have hpos : 0 < (Source.ofText line).lines.length := List.length_pos_iff.mpr hne
  have hlength := congrArg List.length hcount
  simp only [List.length_append, List.length_replicate, List.length_singleton] at hlength
  obtain ⟨hoffset, rfl⟩ : (Source.ofText line).offset = 0 ∧ count = 0 := by omega
  rw [hoffset] at hcount
  simpa using hcount.symm

/-- A test of single lines says the same of a line as it is given and of the line with its tabs
expanded and its ends trimmed, which is the one line of its source.  It says of each line of the
source of a text what it says of the line of the text with that number. -/
theorem lineTests_normalized {test : Line → Bool} (htest : test ∈ lineTests) :
  (∀ line, IsUnbroken line →
      test (trim (expandTabs line)) = test line
      ∧ (Source.ofText line).lines.map test = [test line])
    ∧ ∀ text line index, (Source.ofText text).lines[index]? = some line →
      (physicalLine? text ((Source.ofText text).position index).number).map test
        = some (test line)
  := by
  constructor
  · intro line hline
    use lineTests_canonicalLine htest line
    rw [Source.lines_ofText_of_isUnbroken hline, List.map_singleton, lineTests_canonicalLine htest]
  · intro text line index hindex
    have hcanonical := Source.getElem?_canonicalLines hindex
    rw [canonicalLines, List.getElem?_map, Option.map_eq_some_iff] at hcanonical
    obtain ⟨given, hgiven, rfl⟩ := hcanonical
    have hnumber : physicalLine? text ((Source.ofText text).position index).number = some given :=
      hgiven
    rw [hnumber, Option.map_some, lineTests_canonicalLine htest]

/-- The head of a loop between blanks, with a tab in what would be a condition without it. -/
def tabbedLoop : Line :=
  "\tfor (;;) if\t(done)\u2003".toList

/-- Neither of the two forms of the line holds a condition, so that both are flagged, also on the
second line of a text. -/
theorem lineTests_normalized_tabbedLoop :
  Rule.gasLimit.flags ∈ lineTests ∧ IsUnbroken tabbedLoop
    ∧ Rule.gasLimit.flags (trim (expandTabs tabbedLoop)) = true
    ∧ (Source.ofText tabbedLoop).lines.map Rule.gasLimit.flags = [true]
    ∧ (Source.ofText ('\r' :: '\n' :: tabbedLoop)).lines[0]?
      = some "for (;;) if    (done)".toList
    ∧ (physicalLine? ('\r' :: '\n' :: tabbedLoop) 2).map Rule.gasLimit.flags = some true
  := by
  have htest : Rule.gasLimit.flags ∈ lineTests := by
    apply List.mem_append_left
    apply List.mem_map_of_mem
    simp [Rule.catalogue]
  have hline : IsUnbroken tabbedLoop := ⟨by decide, by decide⟩
  have hfirst : (Source.ofText ('\r' :: '\n' :: tabbedLoop)).lines[0]?
      = some "for (;;) if    (done)".toList := by decide
  have hflags : Rule.gasLimit.flags tabbedLoop = true := by decide
  have hgiven := (lineTests_normalized htest).1 tabbedLoop hline
  rw [hflags] at hgiven
  exact ⟨htest, hline, hgiven.1, hgiven.2, hfirst, (lineTests_normalized htest).2 _ _ 0 hfirst⟩

end ContractLint
