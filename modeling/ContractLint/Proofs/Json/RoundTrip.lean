import ContractLint.Proofs.Json.Limits
import ContractLint.Proofs.Json.Tokens

/-!
# Values and their texts

A value whose numbers are integers and whose objects hold each key once is read back from its text,
in every style and with its fields in order.  The styles differ only in the blanks after brackets
and commas, which reading passes over.  The text is ASCII.
-/

namespace ContractLint.Json

open RawText (ofText)

/-! ### Blanks -/

/-- A text that consists of blanks. -/
def IsBlank (text : Text) : Prop :=
  ∀ c ∈ text, isSpace (.char c) = true

/-- Reading passes over blanks. -/
theorem IsBlank.skipSpace_append {blanks : Text} (h : IsBlank blanks) (text : RawText) :
  skipSpace (ofText blanks ++ text) = skipSpace text
  := by
  apply List.dropWhile_append_of_pos
  intro glyph hglyph
  obtain ⟨c, hc, rfl⟩ := List.mem_map.mp hglyph
  apply h c hc

theorem skipSpace_cons {c : Char} (h : isSpace (.char c) = false) (text : RawText) :
  skipSpace (.char c :: text) = .char c :: text
  := List.dropWhile_cons_of_neg (by simp [h])

section
variable (style : Style) (depth : Nat)

theorem isBlank_lineBreak :
  IsBlank (style.lineBreak depth)
  := by
  intro c h
  cases style with
  | line => cases h
  | indented width =>
    rw [Style.lineBreak, List.mem_cons, List.mem_replicate] at h
    obtain rfl | ⟨-, rfl⟩ := h
    · rfl
    · rfl

/-- A separator is a comma and blanks. -/
theorem exists_separator :
  ∃ blanks, style.separator depth = ',' :: blanks ∧ IsBlank blanks
  := by
  cases style with
  | line => exact ⟨[' '], rfl, by simp [IsBlank, isSpace]⟩
  | indented width => exact ⟨_, rfl, isBlank_lineBreak _ _⟩

/-- The break of a line is passed over. -/
theorem skipSpace_lineBreak_append {c : Char} (h : isSpace (.char c) = false) (text : RawText) :
  skipSpace (ofText (style.lineBreak depth) ++ .char c :: text) = .char c :: text
  := by
  rw [(isBlank_lineBreak style depth).skipSpace_append, skipSpace_cons h]

/-- No number goes on in what follows an item: a separator and further items, or the end. -/
theorem endsToken_flatMap_append {α : Type} (items : List α) (text : α → Text) (outer : Nat)
    {c : Char} (h : c ∈ tokenEnds) (after : RawText) :
  EndsToken (ofText (items.flatMap fun item => style.separator depth ++ text item)
    ++ (ofText (style.lineBreak outer) ++ .char c :: after))
  := by
  cases items with
  | nil =>
    cases style with
    | line => apply endsToken_cons h
    | indented width => apply endsToken_cons (by decide)
  | cons item items =>
    obtain ⟨blanks, hseparator, -⟩ := exists_separator style depth
    rw [List.flatMap_cons, hseparator]
    apply endsToken_cons (by decide)

end

/-! ### Values that are read back -/

/-- In every style a value is read back from its text, whatever follows.  One step of reading for
each character is enough. -/
structure ReadsBack (value : Json) : Prop where
  /-- The text starts with no blank and does not look like the end of an array. -/
  front (style : Style) (depth : Nat) :
    ∃ c text, write style depth value = c :: text ∧ isSpace (.char c) = false ∧ c ≠ ']'
  /-- The value is read back. -/
  read (style : Style) (depth : Nat) {fuel : Nat} {rest : RawText}
    (hfuel : (write style depth value).length ≤ fuel) (hrest : EndsToken rest) :
    readValue fuel {} (ofText (write style depth value) ++ rest) = .ok (value.raw, rest)

/-- Blanks before a value are passed over, and none of the value itself. -/
theorem ReadsBack.skipSpace_append {value : Json} (h : ReadsBack value) (style : Style)
    (depth : Nat) {blanks : Text} (hblanks : IsBlank blanks) (rest : RawText) :
  skipSpace (ofText blanks ++ (ofText (write style depth value) ++ rest))
    = ofText (write style depth value) ++ rest
  := by
  obtain ⟨c, text, htext, hspace, -⟩ := h.front style depth
  rw [hblanks.skipSpace_append, htext, RawText.ofText_cons, List.cons_append,
    skipSpace_cons hspace]

/-! ### Words and numbers -/

/-- A value that is no string, array or object is read back if its word or number is. -/
theorem readsBack_of_readAtom {value : Json} {front : Char} {text : Text}
    (hwrite : ∀ style depth, write style depth value = front :: text)
    (hspace : isSpace (.char front) = false) (hfront : front ∉ ['"', '[', ']', '\x7b'])
    (hread : ∀ rest, EndsToken rest →
      readAtom {} (.char front :: ofText text ++ rest) = some (value.raw, rest)) :
  ReadsBack value
  where
  front style depth := by
    refine ⟨front, text, hwrite style depth, hspace, ?_⟩
    rintro rfl
    apply hfront
    decide
  read style depth fuel rest hfuel hrest := by
    rw [hwrite, List.length_cons] at hfuel
    obtain ⟨fuel, rfl⟩ := Nat.exists_eq_succ_of_ne_zero (Nat.ne_zero_of_lt hfuel)
    rw [hwrite, RawText.ofText_cons, List.cons_append, readValue, ← List.cons_append,
      hread rest hrest]
    · rfl
    all_goals
      rintro _ ⟨⟩
      apply hfront
      decide

theorem readsBack_null :
  ReadsBack .null
  := by
  apply readsBack_of_readAtom (fun _ _ => rfl) rfl (by decide)
  intro rest _
  rfl

theorem readsBack_bool (value : Bool) :
  ReadsBack (.bool value)
  := by
  cases value with
  | true =>
    apply readsBack_of_readAtom (fun _ _ => rfl) rfl (by decide)
    intro rest _
    rfl
  | false =>
    apply readsBack_of_readAtom (fun _ _ => rfl) rfl (by decide)
    intro rest _
    rfl

/-- A written number starts with a minus or a digit. -/
theorem exists_front_ofInt (n : Int) :
  ∃ front text, Text.ofInt n = front :: text ∧ (front = '-' ∨ front.isDigit = true)
  := by
  rw [Text.ofInt]
  split
  · exact ⟨'-', _, rfl, .inl rfl⟩
  · obtain ⟨front, digits, heq, hdigit, -⟩ := exists_front_toDigits n.natAbs
    exact ⟨front, digits, heq, .inr hdigit⟩

/-- Every integer is read back. -/
theorem readsBack_int (n : Int) :
  ReadsBack (.int n)
  := by
  obtain ⟨front, text, heq, hfront⟩ := exists_front_ofInt n
  have hfree : isSpace (.char front) = false ∧ front ∉ ['"', '[', ']', '\x7b'] := by
    obtain rfl | hdigit := hfront
    · decide
    · simp [isSpace, ne_of_isDigit hdigit]
  have hwrite (style : Style) (depth : Nat) :
      write style depth (.int n : Json) = front :: text := heq
  apply readsBack_of_readAtom hwrite hfree.1 hfree.2
  intro rest hrest
  rw [← RawText.ofText_cons, ← heq]
  apply hrest.readAtom_ofInt_append

/-! ### Strings -/

theorem writeString_ofString (text : String) :
  writeString (RawText.ofString text) = '"' :: (text.toList.flatMap escapeChar ++ ['"'])
  := by
  rw [writeString, RawText.ofString, ofText, List.flatMap_map]
  rfl

theorem ofText_writeString_append (text : String) (rest : RawText) :
  ofText (writeString (RawText.ofString text)) ++ rest
    = .char '"' :: (ofText (text.toList.flatMap escapeChar) ++ .char '"' :: rest)
  := by simp [writeString_ofString]

/-- Blanks before a string are passed over. -/
theorem skipSpace_writeString_append {blanks : Text} (h : IsBlank blanks) (text : String)
    (rest : RawText) :
  skipSpace (ofText blanks ++ (ofText (writeString (RawText.ofString text)) ++ rest))
    = ofText (writeString (RawText.ofString text)) ++ rest
  := by
  rw [h.skipSpace_append, ofText_writeString_append, skipSpace_cons rfl]

/-- A string is read back from its text between quotes. -/
theorem readString_writeString (text : String) (rest : RawText) :
  readString (ofText (text.toList.flatMap escapeChar) ++ .char '"' :: rest)
    = some (RawText.ofString text, rest)
  := readString_flatMap_escapeChar text.toList rest

/-- Every string is read back. -/
theorem readsBack_string (text : String) :
  ReadsBack (.string text)
  where
  front style depth := ⟨'"', _, rfl, rfl, by decide⟩
  read style depth fuel rest hfuel hrest := by
    rw [write, writeString, List.cons_append, List.length_cons] at hfuel
    obtain ⟨fuel, rfl⟩ := Nat.exists_eq_succ_of_ne_zero (Nat.ne_zero_of_lt hfuel)
    change readValue (fuel + 1) {} (ofText (writeString (RawText.ofString text)) ++ rest) = _
    rw [ofText_writeString_append, readValue, readString_writeString]
    rfl

/-! ### Arrays -/

/-- The items after the first are written one after the other. -/
theorem writeItems_eq_flatMap (style : Style) (depth : Nat) (items : List Json) :
  writeItems style depth items
    = items.flatMap fun item => style.separator depth ++ write style depth item
  := by
  induction items with
  | nil => rw [writeItems, List.flatMap_nil]
  | cons item items ih => rw [writeItems, List.flatMap_cons, ih]

section
variable {fuel : Nat} {text rest : RawText} {item : Json RawText}

/-- The last item of an array is read. -/
theorem readItems_last (h : readValue fuel {} text = .ok (item, rest)) {after : RawText}
    (hrest : skipSpace rest = .char ']' :: after) :
  readItems (fuel + 1) {} text = .ok ([item], after)
  := by
  rw [readItems, h]
  simp only [hrest]

/-- An item is read, and then those after its comma. -/
theorem readItems_next (h : readValue fuel {} text = .ok (item, rest)) {more : RawText}
    (hrest : skipSpace rest = .char ',' :: more) :
  readItems (fuel + 1) {} text
    = (readItems fuel {} (skipSpace more)).map fun read => (item :: read.1, read.2)
  := by
  rw [readItems, h]
  simp only [hrest]

end

/-- The items of an array are read back one after the other. -/
theorem readItems_append {items : List Json} (h : ∀ item ∈ items, ReadsBack item) {first : Json}
    (hfirst : ReadsBack first) (style : Style) (depth outer : Nat) {fuel : Nat} (after : RawText)
    (hfuel : (write style depth first).length + (writeItems style depth items).length < fuel) :
  readItems fuel {} (ofText (write style depth first) ++ (ofText (writeItems style depth items)
      ++ (ofText (style.lineBreak outer) ++ .char ']' :: after)))
    = .ok (rawItems (first :: items), after)
  := by
  have hends (items : List Json) : EndsToken (ofText (writeItems style depth items)
      ++ (ofText (style.lineBreak outer) ++ .char ']' :: after)) := by
    rw [writeItems_eq_flatMap]
    apply endsToken_flatMap_append style depth items _ outer (by decide)
  induction items generalizing first fuel with
  | nil =>
    obtain ⟨fuel, rfl⟩ := Nat.exists_eq_succ_of_ne_zero (Nat.ne_zero_of_lt hfuel)
    apply readItems_last (hfirst.read style depth (by omega) (hends []))
    apply skipSpace_lineBreak_append style outer rfl
  | cons item items ih =>
    obtain ⟨fuel, rfl⟩ := Nat.exists_eq_succ_of_ne_zero (Nat.ne_zero_of_lt hfuel)
    obtain ⟨blanks, hseparator, hblanks⟩ := exists_separator style depth
    have hwrite : writeItems style depth (item :: items)
        = ',' :: (blanks ++ (write style depth item ++ writeItems style depth items)) := by
      rw [writeItems, hseparator, List.cons_append, List.cons_append, List.append_assoc]
    have hlength := congrArg List.length hwrite
    simp only [List.length_cons, List.length_append] at hlength
    rw [List.forall_mem_cons] at h
    rw [readItems_next (hfirst.read style depth (by omega) (hends _))
        (by rw [hwrite, RawText.ofText_cons, List.cons_append, skipSpace_cons rfl]),
      RawText.ofText_append, RawText.ofText_append, List.append_assoc, List.append_assoc,
      h.1.skipSpace_append style depth hblanks, ih h.2 h.1 (by omega)]
    rfl

/-- An array is read from its bracket to its first item. -/
theorem ReadsBack.readValue_bracket {first : Json} (h : ReadsBack first) (style : Style)
    (depth : Nat) {blanks : Text} (hblanks : IsBlank blanks) (fuel : Nat) (more : RawText) :
  readValue (fuel + 1) {}
      (.char '[' :: (ofText blanks ++ (ofText (write style depth first) ++ more)))
    = (readItems fuel {} (ofText (write style depth first) ++ more)).map
      fun read => (.array read.1, read.2)
  := by
  obtain ⟨front, text, htext, -, hfront⟩ := h.front style depth
  rw [readValue, h.skipSpace_append style depth hblanks, htext]
  simp [hfront, Limits.enter?]

theorem write_array_append (style : Style) (depth : Nat) (first : Json) (items : List Json)
    (rest : Text) :
  write style depth (.array (first :: items)) ++ rest
    = '[' :: (style.lineBreak (depth + 1) ++ (write style (depth + 1) first
      ++ (writeItems style (depth + 1) items ++ (style.lineBreak depth ++ ']' :: rest))))
  := by simp [write]

/-- An array is read back if all its items are. -/
theorem readsBack_array {items : List Json} (h : ∀ item ∈ items, ReadsBack item) :
  ReadsBack (.array items)
  where
  front style depth := by
    cases items with
    | nil => exact ⟨'[', _, rfl, rfl, by decide⟩
    | cons first items => exact ⟨'[', _, rfl, rfl, by decide⟩
  read style depth fuel rest hfuel _ := by
    cases items with
    | nil =>
      obtain ⟨fuel, rfl⟩ := Nat.exists_eq_succ_of_ne_zero (Nat.ne_zero_of_lt hfuel)
      rfl
    | cons first items =>
      rw [List.forall_mem_cons] at h
      have hwrite := write_array_append style depth first items []
      rw [List.append_nil] at hwrite
      rw [hwrite] at hfuel ⊢
      simp only [List.length_cons, List.length_append] at hfuel
      obtain ⟨fuel, rfl⟩ := Nat.exists_eq_succ_of_ne_zero (Nat.ne_zero_of_lt hfuel)
      simp only [RawText.ofText_cons, RawText.ofText_append, RawText.ofText_nil,
        List.cons_append, List.append_assoc, List.nil_append]
      rw [h.1.readValue_bracket _ _ (isBlank_lineBreak _ _),
        readItems_append h.2 h.1 style (depth + 1) depth rest (by omega)]
      rfl

/-! ### Objects -/

/-- The fields after the first are written one after the other. -/
theorem writeFields_eq_flatMap (style : Style) (depth : Nat) (fields : List (String × Json)) :
  writeFields style depth fields
    = fields.flatMap fun field => style.separator depth
      ++ (writeString (RawText.ofString field.1) ++ ':' :: ' ' :: write style depth field.2)
  := by
  induction fields with
  | nil => rw [writeFields, List.flatMap_nil]
  | cons field fields ih =>
    rw [writeFields, List.flatMap_cons, ih]
    simp only [List.append_assoc, List.cons_append, List.nil_append]
    rfl

/-- A key that no field has yet comes last. -/
theorem setField_of_fresh {key : RawText} {fields : List (RawText × Json RawText)}
    (h : key ∉ fields.map Prod.fst) (value : Json RawText) :
  setField key value fields = fields ++ [(key, value)]
  := by
  induction fields with
  | nil => rfl
  | cons field fields ih =>
    rw [List.map_cons, List.mem_cons, not_or] at h
    rw [setField, if_neg (Ne.symm h.1), ih h.2, List.cons_append]

/-- A field with a new key goes to the end of an object. -/
theorem setField_rawFields {before fields : List (String × Json)} {key : String} {value : Json}
    (h : ((before ++ (key, value) :: fields).map Prod.fst).Nodup) :
  setField (.ofString key) value.raw (rawFields before) = rawFields (before ++ [(key, value)])
  := by
  rw [List.map_append, List.map_cons, List.nodup_append] at h
  rw [setField_of_fresh, rawFields_eq_map, rawFields_eq_map, List.map_append, List.map_singleton]
  intro hkey
  rw [rawFields_eq_map, List.map_map, List.mem_map] at hkey
  obtain ⟨field, hfield, heq⟩ := hkey
  obtain rfl : field.1 = key := RawText.ofString_injective heq
  apply h.2.2 field.1 (List.mem_map_of_mem hfield) field.1 List.mem_cons_self rfl

section
variable {fuel : Nat} {key : String} {value : Json RawText} {rest : RawText}
  (before : List (RawText × Json RawText))

/-- The last field of an object is read. -/
theorem readFields_last {more : RawText}
    (h : readValue fuel {} (skipSpace more) = .ok (value, rest)) {after : RawText}
    (hrest : skipSpace rest = .char '\x7d' :: after) :
  readFields (fuel + 1) {} before
      (ofText (writeString (RawText.ofString key)) ++ .char ':' :: more)
    = .ok (setField (.ofString key) value before, after)
  := by
  rw [ofText_writeString_append, readFields, readString_writeString]
  simp only [skipSpace_cons (c := ':') rfl, h, hrest]

/-- A field is read, and then those after its comma. -/
theorem readFields_next {more : RawText}
    (h : readValue fuel {} (skipSpace more) = .ok (value, rest)) {others : RawText}
    (hrest : skipSpace rest = .char ',' :: others) :
  readFields (fuel + 1) {} before
      (ofText (writeString (RawText.ofString key)) ++ .char ':' :: more)
    = readFields fuel {} (setField (.ofString key) value before) (skipSpace others)
  := by
  rw [ofText_writeString_append, readFields, readString_writeString]
  simp only [skipSpace_cons (c := ':') rfl, h, hrest]

end

/-- A value is read back from behind a blank. -/
theorem ReadsBack.read_blank {value : Json} (h : ReadsBack value) (style : Style) (depth : Nat)
    {fuel : Nat} {rest : RawText} (hfuel : (write style depth value).length ≤ fuel)
    (hrest : EndsToken rest) :
  readValue fuel {} (skipSpace (.char ' ' :: (ofText (write style depth value) ++ rest)))
    = .ok (value.raw, rest)
  := by
  have hblank : IsBlank [' '] := by simp [IsBlank, isSpace]
  have hskip := h.skipSpace_append style depth hblank rest
  rw [RawText.ofText_cons, RawText.ofText_nil, List.singleton_append] at hskip
  rw [hskip, h.read style depth hfuel hrest]

/-- The fields of an object with different keys are read back one after the other. -/
theorem readFields_append {fields : List (String × Json)} (h : ∀ field ∈ fields, ReadsBack field.2)
    {key : String} {value : Json} (hvalue : ReadsBack value) (before : List (String × Json))
    (hkeys : ((before ++ (key, value) :: fields).map Prod.fst).Nodup) (style : Style)
    (depth outer : Nat) {fuel : Nat} (after : RawText)
    (hfuel : (write style depth value).length + (writeFields style depth fields).length < fuel) :
  readFields fuel {} (rawFields before) (ofText (writeString (RawText.ofString key))
      ++ .char ':' :: .char ' ' :: (ofText (write style depth value)
      ++ (ofText (writeFields style depth fields)
      ++ (ofText (style.lineBreak outer) ++ .char '\x7d' :: after))))
    = .ok (rawFields (before ++ (key, value) :: fields), after)
  := by
  have hends (fields : List (String × Json)) : EndsToken (ofText (writeFields style depth fields)
      ++ (ofText (style.lineBreak outer) ++ .char '\x7d' :: after)) := by
    rw [writeFields_eq_flatMap]
    apply endsToken_flatMap_append style depth fields _ outer (by decide)
  induction fields generalizing before key value fuel with
  | nil =>
    obtain ⟨fuel, rfl⟩ := Nat.exists_eq_succ_of_ne_zero (Nat.ne_zero_of_lt hfuel)
    rw [← setField_rawFields hkeys]
    apply readFields_last _ (hvalue.read_blank style depth (by omega) (hends []))
    apply skipSpace_lineBreak_append style outer rfl
  | cons field fields ih =>
    obtain ⟨fuel, rfl⟩ := Nat.exists_eq_succ_of_ne_zero (Nat.ne_zero_of_lt hfuel)
    obtain ⟨name, other⟩ := field
    obtain ⟨blanks, hseparator, hblanks⟩ := exists_separator style depth
    have hwrite : writeFields style depth ((name, other) :: fields)
        = ',' :: (blanks ++ (writeString (RawText.ofString name)
          ++ ':' :: ' ' :: (write style depth other ++ writeFields style depth fields))) := by
      simp [writeFields, hseparator]
      rfl
    have hlength := congrArg List.length hwrite
    simp only [List.length_cons, List.length_append] at hlength
    obtain ⟨hother : ReadsBack other, hothers⟩ := List.forall_mem_cons.mp h
    rw [readFields_next _ (hvalue.read_blank style depth (by omega) (hends _))
        (by rw [hwrite, RawText.ofText_cons, List.cons_append, skipSpace_cons rfl]),
      setField_rawFields hkeys]
    simp only [RawText.ofText_cons, RawText.ofText_append, List.append_assoc, List.cons_append]
    rw [skipSpace_writeString_append hblanks,
      ih hothers hother _ (by rwa [← List.append_cons]) (by omega), ← List.append_cons]

theorem write_object_append (style : Style) (depth : Nat) (key : String) (value : Json)
    (fields : List (String × Json)) (rest : Text) :
  write style depth (.object ((key, value) :: fields)) ++ rest
    = '\x7b' :: (style.lineBreak (depth + 1) ++ (writeString (RawText.ofString key)
      ++ ':' :: ' ' :: (write style (depth + 1) value
      ++ (writeFields style (depth + 1) fields ++ (style.lineBreak depth ++ '\x7d' :: rest)))))
  := by
  simp [write]
  rfl

/-- An object is read from its brace to its first key. -/
theorem readValue_brace {limits inner : Limits} (hlimits : limits.enter? = some inner)
    {blanks : Text} (hblanks : IsBlank blanks) (fuel : Nat) (key : String) (more : RawText) :
  readValue (fuel + 1) limits (.char '\x7b' :: (ofText blanks
      ++ (ofText (writeString (RawText.ofString key)) ++ more)))
    = (readFields fuel inner [] (ofText (writeString (RawText.ofString key)) ++ more)).map
      fun read => (.object read.1, read.2)
  := by
  rw [readValue, hlimits, skipSpace_writeString_append hblanks, ofText_writeString_append]
  rfl

/-- An object that holds each key once is read back if all its values are. -/
theorem readsBack_object {fields : List (String × Json)} (hkeys : (fields.map Prod.fst).Nodup)
    (h : ∀ field ∈ fields, ReadsBack field.2) :
  ReadsBack (.object fields)
  where
  front style depth := by
    cases fields with
    | nil => exact ⟨'\x7b', _, rfl, rfl, by decide⟩
    | cons field fields => exact ⟨'\x7b', _, rfl, rfl, by decide⟩
  read style depth fuel rest hfuel _ := by
    cases fields with
    | nil =>
      obtain ⟨fuel, rfl⟩ := Nat.exists_eq_succ_of_ne_zero (Nat.ne_zero_of_lt hfuel)
      rfl
    | cons field fields =>
      obtain ⟨key, value⟩ := field
      obtain ⟨hvalue : ReadsBack value, hvalues⟩ := List.forall_mem_cons.mp h
      have hwrite := write_object_append style depth key value fields []
      rw [List.append_nil] at hwrite
      rw [hwrite] at hfuel ⊢
      simp only [List.length_cons, List.length_append] at hfuel
      obtain ⟨fuel, rfl⟩ := Nat.exists_eq_succ_of_ne_zero (Nat.ne_zero_of_lt hfuel)
      simp only [RawText.ofText_cons, RawText.ofText_append, RawText.ofText_nil,
        List.cons_append, List.append_assoc, List.nil_append]
      rw [readValue_brace rfl (isBlank_lineBreak _ _)]
      have hfields := readFields_append hvalues hvalue [] hkeys style (depth + 1) depth rest
        (by omega : _ < fuel)
      rw [rawFields] at hfields
      rw [hfields]
      rfl

/-! ### Plain values -/

/-- A value whose numbers are integers and whose objects hold each key once. -/
inductive IsPlain : Json → Prop where
  | null : IsPlain .null
  | bool (value : Bool) : IsPlain (.bool value)
  | int (n : Int) : IsPlain (.int n)
  | string (text : String) : IsPlain (.string text)
  | array {items : List Json} (h : ∀ item ∈ items, IsPlain item) : IsPlain (.array items)
  | object {fields : List (String × Json)} (hkeys : (fields.map Prod.fst).Nodup)
      (h : ∀ field ∈ fields, IsPlain field.2) : IsPlain (.object fields)

/-- Every plain value is read back. -/
theorem IsPlain.readsBack {value : Json} (h : IsPlain value) :
  ReadsBack value
  := by
  induction h with
  | null => apply readsBack_null
  | bool value => apply readsBack_bool
  | int n => apply readsBack_int
  | string text => apply readsBack_string
  | array h ih => apply readsBack_array ih
  | object hkeys h ih => apply readsBack_object hkeys ih

/-- A plain value is read from its text, in every style. -/
theorem IsPlain.read_write {value : Json} (h : IsPlain value) (style : Style) :
  Json.read {} (ofText (write style 0 value)) = .ok value.raw
  := by
  have hfuel : (write style 0 value).length
      ≤ 2 * (ofText (write style 0 value)).length + 2 := by
    rw [ofText, List.length_map]
    omega
  have hskip := h.readsBack.skipSpace_append style 0 (List.forall_mem_nil _) []
  have hread := h.readsBack.read style 0 hfuel endsToken_nil
  rw [RawText.ofText_nil, List.nil_append, List.append_nil] at hskip
  rw [List.append_nil] at hread
  rw [Json.read, hskip, hread]
  rfl

/-- A plain value is what its text holds, in every style. -/
theorem IsPlain.parse?_write {value : Json} (h : IsPlain value) (style : Style) :
  parse? (write style 0 value) = some value
  := by
  rw [parse?, h.read_write]
  apply plain?_raw

/-! ### Integers with too many digits -/

section
variable {n : Int} {limits inner : Limits}

end

/-! ### ASCII -/

theorem IsBlank.isAscii {blanks : Text} (h : IsBlank blanks) :
  IsAscii blanks
  := by
  intro c hc
  have hspace := h c hc
  simp only [isSpace, Bool.or_eq_true, beq_iff_eq] at hspace
  obtain ((rfl | rfl) | rfl) | rfl := hspace
  all_goals decide

theorem isAscii_separator (style : Style) (depth : Nat) :
  IsAscii (style.separator depth)
  := by
  obtain ⟨blanks, hseparator, hblanks⟩ := exists_separator style depth
  simp [hseparator, hblanks.isAscii]

/-- The text of a plain value is ASCII. -/
theorem IsPlain.isAscii_write {value : Json} (h : IsPlain value) (style : Style) (depth : Nat) :
  IsAscii (write style depth value)
  := by
  have hbreak (depth : Nat) : IsAscii (style.lineBreak depth) :=
    (isBlank_lineBreak style depth).isAscii
  induction h generalizing depth with
  | null => simp [write]
  | bool value => cases value <;> simp [write]
  | int n => apply isAscii_ofInt
  | string text => apply isAscii_writeString
  | @array items h ih =>
    cases items with
    | nil => simp [write]
    | cons first items =>
      have hitems : IsAscii (writeItems style (depth + 1) items) := by
        rw [writeItems_eq_flatMap]
        apply isAscii_flatMap
        intro item hitem
        exact isAscii_append.mpr ⟨isAscii_separator _ _, ih item (.tail _ hitem) _⟩
      rw [← List.append_nil (write _ _ _), write_array_append]
      simp [hbreak, hitems, ih first (.head _)]
  | @object fields hkeys h ih =>
    cases fields with
    | nil => simp [write]
    | cons field fields =>
      have hfields : IsAscii (writeFields style (depth + 1) fields) := by
        rw [writeFields_eq_flatMap]
        apply isAscii_flatMap
        intro field hfield
        simp [isAscii_separator, isAscii_writeString, ih field (.tail _ hfield)]
      rw [← List.append_nil (write _ _ _), write_object_append]
      simp [hbreak, hfields, isAscii_writeString, ih field (.head _)]

end ContractLint.Json
