import ContractLint.Json.Reader
import ContractLint.Proofs.Json.Raw

/-!
# Strings and integers in JSON

A string is read back from its escapes.  The escape of a character is read as parts that give the
character again when they are joined, whatever parts follow: short escapes and plain characters are
one part, and other characters have one or two UTF-16 units.

An integer is read back from its digits, unless they go on in what follows.

Both are written in ASCII.
-/

namespace ContractLint.Json

open RawText (ofText)

/-! ### Hexadecimal digits -/

/-- A digit is read as its value. -/
theorem hexValue?_digitChar {digit : Nat} (h : digit < 16) :
  hexValue? (.char (Nat.digitChar digit)) = some digit
  := by
  have hdigits : ∀ digit < 16, hexValue? (.char (Nat.digitChar digit)) = some digit := by decide
  apply hdigits digit h

theorem hexDigits_four (unit : Nat) :
  Text.hexDigits 4 unit
    = [Nat.digitChar (unit / 16 / 16 / 16 % 16), Nat.digitChar (unit / 16 / 16 % 16),
      Nat.digitChar (unit / 16 % 16), Nat.digitChar (unit % 16)]
  := rfl

/-! ### Parts of a string -/

/-- A text inside a string is read as some parts, whatever follows. -/
def ReadsAs (text : Text) (parts : List StringPart) : Prop :=
  ∀ rest : RawText, readParts (ofText text ++ rest)
    = (readParts rest).map fun read => (parts ++ read.1, read.2)

/-- Texts that are read as parts of a string are read one after the other. -/
theorem ReadsAs.append {text more : Text} {parts others : List StringPart}
    (h : ReadsAs text parts) (hmore : ReadsAs more others) :
  ReadsAs (text ++ more) (parts ++ others)
  := by
  intro rest
  rw [RawText.ofText_append, List.append_assoc, h, hmore, Option.map_map]
  cases readParts rest with
  | none => rfl
  | some read => simp

/-- The escape of a unit is read as this unit. -/
theorem readsAs_unitEscape {unit : Nat} (h : unit < 0x10000) :
  ReadsAs (unitEscape unit) [.unit unit]
  := by
  intro rest
  have hmod (n : Nat) : hexValue? (.char (Nat.digitChar (n % 16))) = some (n % 16) :=
    hexValue?_digitChar (Nat.mod_lt n (by decide))
  have hunit : hexUnit? (.char (Nat.digitChar (unit / 16 / 16 / 16 % 16)))
      (.char (Nat.digitChar (unit / 16 / 16 % 16))) (.char (Nat.digitChar (unit / 16 % 16)))
      (.char (Nat.digitChar (unit % 16))) = some unit := by
    rw [hexUnit?, hmod, hmod, hmod, hmod]
    apply congrArg some
    omega
  rw [unitEscape, hexDigits_four]
  simp only [RawText.ofText_cons, RawText.ofText_nil, List.cons_append, List.nil_append]
  rw [readParts, hunit]
  cases readParts rest with
  | none => rfl
  | some read => rfl

/-- A short escape is read as its character. -/
theorem readsAs_shortEscape {letter c : Char} (h : shortEscape? letter = some c) :
  ReadsAs ['\\', letter] [.glyph (.char c)]
  := by
  intro rest
  simp only [RawText.ofText_cons, RawText.ofText_nil, List.cons_append, List.nil_append]
  rw [readParts, h]
  · cases readParts rest with
    | none => rfl
    | some read => rfl
  · rintro _ _ _ _ _ _ rfl
    cases h

/-- A character that needs no escape is read as itself. -/
theorem readsAs_plain {c : Char} (hcontrol : 0x20 ≤ c.toNat) (hquote : c ≠ '"')
    (hslash : c ≠ '\\') :
  ReadsAs [c] [.glyph (.char c)]
  := by
  intro rest
  simp only [RawText.ofText_cons, RawText.ofText_nil, List.cons_append, List.nil_append]
  rw [readParts]
  · rw [if_neg (by simp [hslash]; omega)]
    cases readParts rest with
    | none => rfl
    | some read => rfl
  · apply hquote
  · rintro _ _ _ _ _ _ rfl
    contradiction
  · rintro _ _ _ rfl
    contradiction

/-! ### Units of a character -/

/-- The UTF-16 units of a character. -/
def charUnits (c : Char) : List Nat :=
  if c.toNat < 0x10000 then [c.toNat]
  else [0xD800 + (c.toNat - 0x10000) / 0x400, 0xDC00 + (c.toNat - 0x10000) % 0x400]

theorem charUnits_of_lt {c : Char} (h : c.toNat < 0x10000) :
  charUnits c = [c.toNat]
  := if_pos h

/-- The number of a character is no surrogate. -/
theorem toNat_cases (c : Char) :
  c.toNat < 0xD800 ∨ 0xDFFF < c.toNat ∧ c.toNat < 0x110000
  := c.valid

/-- The units of a character have sixteen bits. -/
theorem lt_of_mem_charUnits {c : Char} {unit : Nat} (h : unit ∈ charUnits c) :
  unit < 0x10000
  := by
  have hvalid := toNat_cases c
  rw [charUnits] at h
  split at h
  · rw [List.mem_singleton] at h
    omega
  · rw [List.mem_cons, List.mem_singleton] at h
    omega

/-- Escaped units are read as these units. -/
theorem readsAs_flatMap_unitEscape {units : List Nat} (h : ∀ unit ∈ units, unit < 0x10000) :
  ReadsAs (units.flatMap unitEscape) (units.map .unit)
  := by
  induction units with
  | nil =>
    intro rest
    simp
  | cons unit units ih =>
    rw [List.forall_mem_cons] at h
    rw [List.flatMap_cons, List.map_cons, ← List.singleton_append]
    apply (readsAs_unitEscape h.1).append (ih h.2)

/-- A character is joined from the escapes of its units. -/
theorem joinParts_charUnits_append (c : Char) (more : List StringPart) :
  joinParts ((charUnits c).map .unit ++ more) = .char c :: joinParts more
  := by
  have hvalid := toNat_cases c
  by_cases hone : c.toNat < 0x10000
  · -- no character is a surrogate, so that its unit makes no pair with the next one
    have hglyph : Glyph.ofCode c.toNat = .char c := by
      rw [Glyph.ofCode, dif_neg (by omega), Char.ofNat_toNat]
    rw [charUnits_of_lt hone, List.map_singleton, List.singleton_append]
    cases more with
    | nil => simp only [joinParts, hglyph]
    | cons part more =>
      cases part with
      | glyph glyph => simp only [joinParts, hglyph]
      | unit unit => rw [joinParts, if_neg (by simp; omega), hglyph]
  · have hpair : 0x10000 + (0xD800 + (c.toNat - 0x10000) / 0x400 - 0xD800) * 0x400
        + (0xDC00 + (c.toNat - 0x10000) % 0x400 - 0xDC00) = c.toNat := by omega
    rw [charUnits, if_neg hone, List.map_cons, List.map_singleton, List.cons_append,
      List.singleton_append, joinParts, if_pos (by simp; omega), hpair, Char.ofNat_toNat]

/-! ### Escapes of a character -/

/-- A character has a short escape, or it is printed and stands for itself, or its units are
escaped. -/
theorem escapeChar_cases (c : Char) :
  (∃ letter, escapeChar c = ['\\', letter] ∧ shortEscape? letter = some c)
  ∨ escapeChar c = [c] ∧ (0x20 ≤ c.toNat ∧ c.toNat < 0x7F) ∧ c ≠ '"' ∧ c ≠ '\\'
  ∨ escapeChar c = (charUnits c).flatMap unitEscape
  := by
  rw [escapeChar]
  split
  · next hquoted =>
    rw [Bool.or_eq_true, decide_eq_true_eq, decide_eq_true_eq] at hquoted
    left
    obtain rfl | rfl := hquoted
    · exact ⟨_, rfl, rfl⟩
    · exact ⟨_, rfl, rfl⟩
  split
  · next h => exact .inl ⟨_, rfl, congrArg some h.symm⟩
  split
  · next h => exact .inl ⟨_, rfl, congrArg some h.symm⟩
  split
  · next h => exact .inl ⟨_, rfl, congrArg some h.symm⟩
  split
  · next h => exact .inl ⟨_, rfl, congrArg some (Char.toNat_inj.mp h).symm⟩
  split
  · next h => exact .inl ⟨_, rfl, congrArg some (Char.toNat_inj.mp h).symm⟩
  split
  · next hquoted _ _ _ _ _ h =>
    rw [Bool.or_eq_true, decide_eq_true_eq, decide_eq_true_eq, not_or] at hquoted
    rw [Bool.and_eq_true, decide_eq_true_eq, decide_eq_true_eq] at h
    exact .inr (.inl ⟨rfl, h, hquoted⟩)
  right; right
  split
  · next h => rw [charUnits_of_lt h, List.flatMap_singleton]
  · next h => rw [charUnits, if_neg h, List.flatMap_cons, List.flatMap_singleton]

example : "\x7f\n𝄞".toList.flatMap escapeChar = "\\u007f\\n\\ud834\\udd1e".toList := by decide

theorem shortEscape?_lt {letter c : Char} (h : shortEscape? letter = some c) :
  letter.toNat < 0x80 ∧ c.toNat < 0x80
  := by
  unfold shortEscape? at h
  split at h
  case h_9 => cases h
  all_goals
    cases h
    decide

/-- The escape of a character is read as parts from which the character is joined. -/
theorem exists_readsAs_escapeChar (c : Char) :
  ∃ parts, ReadsAs (escapeChar c) parts
    ∧ ∀ more, joinParts (parts ++ more) = .char c :: joinParts more
  := by
  obtain ⟨letter, hescape, hshort⟩ | ⟨hescape, hprinted, hquote, hslash⟩ | hescape :=
    escapeChar_cases c
  · refine ⟨[.glyph (.char c)], ?_, fun _ => by rw [List.singleton_append, joinParts]⟩
    rw [hescape]
    apply readsAs_shortEscape hshort
  · refine ⟨[.glyph (.char c)], ?_, fun _ => by rw [List.singleton_append, joinParts]⟩
    rw [hescape]
    apply readsAs_plain hprinted.1 hquote hslash
  · refine ⟨(charUnits c).map .unit, ?_, joinParts_charUnits_append c⟩
    rw [hescape]
    apply readsAs_flatMap_unitEscape fun unit => lt_of_mem_charUnits

/-! ### Strings -/

/-- An escaped text is read as parts that are joined to the text. -/
theorem exists_readsAs_flatMap_escapeChar (text : Text) :
  ∃ parts, ReadsAs (text.flatMap escapeChar) parts ∧ joinParts parts = ofText text
  := by
  induction text with
  | nil => exact ⟨[], fun rest => by simp, rfl⟩
  | cons c text ih =>
    obtain ⟨first, hfirst, hjoin⟩ := exists_readsAs_escapeChar c
    obtain ⟨parts, hparts, htext⟩ := ih
    refine ⟨first ++ parts, ?_, by rw [hjoin, htext, RawText.ofText_cons]⟩
    rw [List.flatMap_cons]
    apply hfirst.append hparts

/-- A string is read back from the text after its opening quote. -/
theorem readString_flatMap_escapeChar (text : Text) (rest : RawText) :
  readString (ofText (text.flatMap escapeChar) ++ .char '"' :: rest) = some (ofText text, rest)
  := by
  obtain ⟨parts, hparts, htext⟩ := exists_readsAs_flatMap_escapeChar text
  rw [readString, hparts, readParts, Option.map_some, Option.map_some, List.append_nil, ← htext]

/-! ### Integers -/

/-- The characters that can follow a number: blanks, commas and closing brackets. -/
def tokenEnds : List Char :=
  [' ', '\t', '\n', '\r', ',', ']', '\x7d']

/-- No number goes on in a raw text. -/
def EndsToken (rest : RawText) : Prop :=
  ∀ glyph ∈ rest.head?, ∃ c ∈ tokenEnds, glyph = .char c

theorem endsToken_nil :
  EndsToken []
  := nofun

theorem endsToken_cons {c : Char} (h : c ∈ tokenEnds) (rest : RawText) :
  EndsToken (.char c :: rest)
  := by
  rintro _ ⟨⟩
  exact ⟨c, h, rfl⟩

/-- A token ends before a character that no number goes on with. -/
theorem EndsToken.front {glyph : Glyph} {rest : RawText} (h : EndsToken (glyph :: rest)) :
  ∃ c, glyph = .char c ∧ c.isDigit = false ∧ c ≠ '.' ∧ c ≠ 'e' ∧ c ≠ 'E'
  := by
  have hends : tokenEnds.all (fun c => !c.isDigit && c != '.' && c != 'e' && c != 'E') = true := rfl
  obtain ⟨c, hc, hglyph⟩ := h glyph rfl
  exact ⟨c, hglyph, by simpa [and_assoc] using List.all_eq_true.mp hends c hc⟩

theorem EndsToken.readFraction_eq_none {rest : RawText} (h : EndsToken rest) :
  readFraction rest = none
  := by
  cases rest with
  | nil => rfl
  | cons glyph rest =>
    obtain ⟨c, rfl, -, hpoint, -⟩ := h.front
    rw [readFraction]
    rintro _ ⟨⟩
    apply hpoint rfl

theorem EndsToken.readExponent_eq_none {rest : RawText} (h : EndsToken rest) :
  readExponent rest = none
  := by
  cases rest with
  | nil => rfl
  | cons glyph rest =>
    obtain ⟨c, rfl, -, -, hletters⟩ := h.front
    simp [readExponent.eq_def, hletters]

/-- Digits before the end of a token are all read. -/
theorem EndsToken.readDigits_append {rest : RawText} (h : EndsToken rest) {digits : Text}
    (hne : digits ≠ []) (hdigits : ∀ c ∈ digits, c.isDigit = true) :
  readDigits (ofText digits ++ rest) = some (digits, rest)
  := by
  have hglyphs : ∀ glyph ∈ ofText digits, isDigit glyph = true := by
    intro glyph hglyph
    obtain ⟨c, hc, rfl⟩ := List.mem_map.mp hglyph
    apply hdigits c hc
  have htake : rest.takeWhile isDigit = [] ∧ rest.dropWhile isDigit = rest := by
    cases rest with
    | nil => exact ⟨rfl, rfl⟩
    | cons glyph rest =>
      obtain ⟨c, rfl, hc, -⟩ := h.front
      simp [isDigit, hc]
  have hfull : (ofText digits).isEmpty = false := by simpa [ofText] using hne
  simp only [readDigits, List.takeWhile_append_of_pos hglyphs,
    List.dropWhile_append_of_pos hglyphs, htake.1, htake.2, List.append_nil, hfull,
    RawText.face_ofText]
  rfl

theorem ne_of_isDigit {digit c : Char} (h : digit.isDigit = true) (hc : c.isDigit = false) :
  digit ≠ c
  := by
  rintro rfl
  rw [h] at hc
  contradiction

/-- A number is written in digits. -/
theorem isDigit_of_mem_toDigits {n : Nat} {c : Char} (h : c ∈ Nat.toDigits 10 n) :
  c.isDigit = true
  := Nat.isDigit_of_mem_toDigits (by decide) (by decide) h

/-- The digits of a number start with a digit, which is zero for the number zero only. -/
theorem exists_front_toDigits (n : Nat) :
  ∃ front digits, Nat.toDigits 10 n = front :: digits ∧ front.isDigit = true
    ∧ (n ≠ 0 → front ≠ '0')
  := by
  induction n using Nat.strongRecOn with
  | ind n ih =>
    by_cases hlt : n < 10
    · have hdigits : ∀ n < 10, (Nat.digitChar n).isDigit = true
          ∧ (n ≠ 0 → Nat.digitChar n ≠ '0') := by decide
      exact ⟨_, [], Nat.toDigits_of_lt_base hlt, hdigits n hlt⟩
    · obtain ⟨front, digits, heq, hdigit, hzero⟩ := ih (n / 10) (by omega)
      rw [Nat.toDigits_of_base_le (by decide) (by omega), heq]
      exact ⟨front, _, List.cons_append, hdigit, fun _ => hzero (by omega)⟩

/-- A written number is read as a whole number. -/
theorem EndsToken.readWhole_toDigits_append {rest : RawText} (h : EndsToken rest) (n : Nat) :
  readWhole (ofText (Nat.toDigits 10 n) ++ rest) = some (Nat.toDigits 10 n, rest)
  := by
  by_cases hn : n = 0
  · subst hn
    rfl
  · obtain ⟨front, digits, heq, -, hzero⟩ := exists_front_toDigits n
    rw [readWhole]
    · apply h.readDigits_append
      · rw [heq]
        apply List.cons_ne_nil
      · apply isDigit_of_mem_toDigits
    · intro more hmore
      rw [heq, RawText.ofText_cons, List.cons_append, List.cons.injEq, Glyph.char.injEq] at hmore
      apply hzero hn hmore.1

/-- A number is read back from its digits, if there may be so many. -/
theorem EndsToken.readUnsigned_toDigits_append {rest : RawText} (h : EndsToken rest)
    (limits : Limits) (n : Nat) (negative : Bool) :
  readUnsigned limits negative (ofText (Nat.toDigits 10 n) ++ rest)
    = if limits.admits (Nat.toDigits 10 n) then
        some (.integer (if negative then -n else n), rest)
      else none
  := by
  have hvalue : digitsValue (Nat.toDigits 10 n) = n :=
    Nat.ofDigitChars_toDigits (by decide) (by decide)
  simp [readUnsigned, h.readWhole_toDigits_append, h.readFraction_eq_none,
    h.readExponent_eq_none, hvalue]

/-- No word that is a value starts with a digit or with a minus sign and a digit. -/
theorem find?_words_eq_none {digit : Char} (h : digit.isDigit = true) (rest : RawText) :
  (words.find? fun (word, _) => (ofText word).isPrefixOf (.char digit :: rest)) = none
    ∧ (words.find? fun (word, _) =>
      (ofText word).isPrefixOf (.char '-' :: .char digit :: rest)) = none
  := by
  have hne {c : Char} (hc : c.isDigit = false) : c ≠ digit := (ne_of_isDigit h hc).symm
  simp [words, hne]

/-- An integer is read back from its digits, if there may be so many. -/
theorem EndsToken.readAtom_ofInt_append {rest : RawText} (h : EndsToken rest) (limits : Limits)
    (n : Int) :
  readAtom limits (ofText (Text.ofInt n) ++ rest)
    = if limits.admits (Nat.toDigits 10 n.natAbs) then some (.int n, rest) else none
  := by
  obtain ⟨front, digits, heq, hdigit, -⟩ := exists_front_toDigits n.natAbs
  have hwords := find?_words_eq_none hdigit (ofText digits ++ rest)
  rw [← List.cons_append, ← RawText.ofText_cons, ← heq] at hwords
  rw [Text.ofInt, Json.int]
  split
  · next hneg =>
    have hvalue : -(n.natAbs : Int) = n := by omega
    simp only [readAtom, RawText.ofText_cons, List.cons_append, hwords.2,
      h.readUnsigned_toDigits_append, apply_ite (Option.map _), Option.map_some, Option.map_none,
      if_true, hvalue]
  · next hneg =>
    have hvalue : (n.natAbs : Int) = n := by omega
    have hminus (more : RawText) :
        ofText (Nat.toDigits 10 n.natAbs) ++ rest ≠ .char '-' :: more := by
      rw [heq]
      rintro ⟨⟩
      contradiction
    simp only [readAtom, hwords.1, h.readUnsigned_toDigits_append, apply_ite (Option.map _),
      Option.map_some, Option.map_none, Bool.false_eq_true, if_false, hvalue]

/-! ### ASCII -/

/-- All characters of a text are ASCII. -/
def IsAscii (text : Text) : Prop :=
  ∀ c ∈ text, c.toNat < 0x80

@[simp] theorem isAscii_nil :
  IsAscii []
  := nofun

@[simp] theorem isAscii_cons {c : Char} {text : Text} :
  IsAscii (c :: text) ↔ c.toNat < 0x80 ∧ IsAscii text
  := List.forall_mem_cons

@[simp] theorem isAscii_append {text more : Text} :
  IsAscii (text ++ more) ↔ IsAscii text ∧ IsAscii more
  := List.forall_mem_append

/-- A text is ASCII if all its pieces are. -/
theorem isAscii_flatMap {α : Type} {items : List α} {f : α → Text}
    (h : ∀ item ∈ items, IsAscii (f item)) :
  IsAscii (items.flatMap f)
  := by
  intro c hc
  obtain ⟨item, hitem, hc⟩ := List.mem_flatMap.mp hc
  apply h item hitem c hc

theorem isAscii_unitEscape (unit : Nat) :
  IsAscii (unitEscape unit)
  := by
  have hdigits : ∀ digit < 16, (Nat.digitChar digit).toNat < 0x80 := by decide
  have hmod (n : Nat) : (Nat.digitChar (n % 16)).toNat < 0x80 :=
    hdigits _ (Nat.mod_lt n (by decide))
  simp [unitEscape, hexDigits_four, hmod]

/-- Every character is escaped to ASCII. -/
theorem isAscii_escapeChar (c : Char) :
  IsAscii (escapeChar c)
  := by
  obtain ⟨letter, hescape, hshort⟩ | ⟨hescape, hprinted, -⟩ | hescape := escapeChar_cases c
  · simp [hescape, (shortEscape?_lt hshort).1]
  · have hlt : c.toNat < 0x80 := by omega
    simp [hescape, hlt]
  · rw [hescape]
    apply isAscii_flatMap fun unit _ => isAscii_unitEscape unit

theorem isAscii_escapeGlyph (glyph : Glyph) :
  IsAscii (escapeGlyph glyph)
  := by
  cases glyph with
  | char c => apply isAscii_escapeChar
  | surrogate half => apply isAscii_unitEscape

/-- Every string is written in ASCII. -/
theorem isAscii_writeString (text : RawText) :
  IsAscii (writeString text)
  := by
  have hescapes : IsAscii (text.flatMap escapeGlyph) :=
    isAscii_flatMap fun glyph _ => isAscii_escapeGlyph glyph
  simp [writeString, hescapes]

theorem isAscii_ofInt (n : Int) :
  IsAscii (Text.ofInt n)
  := by
  have hdigits : IsAscii (Nat.toDigits 10 n.natAbs) := by
    intro c hc
    have hdigit : c.toNat ≤ '9'.toNat :=
      (Char.isDigit_iff_toNat.mp (isDigit_of_mem_toDigits hc)).2
    apply Nat.lt_of_le_of_lt hdigit (by decide)
  rw [Text.ofInt]
  split
  · simp [hdigits]
  · apply hdigits

end ContractLint.Json
