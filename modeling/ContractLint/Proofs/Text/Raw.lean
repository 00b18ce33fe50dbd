import ContractLint.Text.Raw

/-!
# Raw texts without surrogates

A raw text has an encoding if and only if it is the raw form of a text, which is then the only one.
-/

namespace ContractLint.RawText

/-! ### Raw forms of texts -/

@[simp] theorem ofText_nil :
  ofText [] = []
  := rfl

@[simp] theorem ofText_cons (c : Char) (text : Text) :
  ofText (c :: text) = .char c :: ofText text
  := rfl

@[simp] theorem ofText_append (text more : Text) :
  ofText (text ++ more) = ofText text ++ ofText more
  := List.map_append

@[simp] theorem face_ofText (text : Text) :
  face (ofText text) = text
  := by
  rw [face, ofText, List.map_map]
  apply List.map_id

@[simp] theorem text?_ofText (text : Text) :
  text? (ofText text) = some text
  := by
  induction text with
  | nil => rfl
  | cons c text ih => rw [ofText_cons, text?, ih, Option.map_some]

/-- A raw text has a text only if it is its raw form. -/
theorem text?_eq_some_iff {raw : RawText} {text : Text} :
  raw.text? = some text ↔ raw = ofText text
  := by
  constructor
  · intro h
    induction raw generalizing text with
    | nil =>
      cases h
      rfl
    | cons glyph raw ih =>
      cases glyph with
      | char c =>
        obtain ⟨rest, hrest, rfl⟩ := Option.map_eq_some_iff.mp h
        rw [ih hrest, ofText_cons]
      | surrogate half => cases h
  · rintro rfl
    apply text?_ofText

/-- A text can be recovered from its code points. -/
theorem ofText_injective {text other : Text} (h : ofText text = ofText other) :
  text = other
  := by
  rw [← face_ofText text, h, face_ofText]

/-! ### Raw forms of strings -/

@[simp] theorem ofString_ofList (text : Text) :
  ofString (String.ofList text) = ofText text
  := by
  rw [ofString, String.toList_ofList]

@[simp] theorem string?_ofString (text : String) :
  string? (ofString text) = some text
  := by
  rw [string?, ofString, text?_ofText, Option.map_some, String.ofList_toList]

/-- A raw text has a string only if it is its raw form. -/
theorem string?_eq_some_iff {raw : RawText} {text : String} :
  raw.string? = some text ↔ raw = ofString text
  := by
  constructor
  · intro h
    obtain ⟨chars, hchars, rfl⟩ := Option.map_eq_some_iff.mp h
    rw [ofString, String.toList_ofList]
    apply text?_eq_some_iff.mp hchars
  · rintro rfl
    apply string?_ofString

@[simp] theorem face_ofString (text : String) :
  face (ofString text) = text.toList
  := face_ofText text.toList

/-- A string can be recovered from its code points. -/
theorem ofString_injective {text other : String} (h : ofString text = ofString other) :
  text = other
  := String.toList_injective (ofText_injective h)

/-- A raw text without surrogates is the raw form of a string. -/
theorem any_isSurrogate_eq_false_iff {raw : RawText} :
  raw.any Glyph.isSurrogate = false ↔ ∃ text : String, raw = ofString text
  := by
  constructor
  · intro h
    induction raw with
    | nil => exact ⟨"", rfl⟩
    | cons glyph raw ih =>
      rw [List.any_cons, Bool.or_eq_false_iff] at h
      obtain ⟨text, rfl⟩ := ih h.2
      cases glyph with
      | char c =>
        refine ⟨String.ofList (c :: text.toList), ?_⟩
        rw [ofString, ofString, String.toList_ofList, ofText_cons]
      | surrogate half => cases h.1
  · rintro ⟨text, rfl⟩
    rw [ofString, ofText, List.any_map]
    apply List.any_eq_false.mpr
    intro c _
    apply Bool.false_ne_true

/-! ### Encodings -/

/-- A string has an encoding, which is itself. -/
@[simp] theorem encode_ofString (text : String) :
  encode (ofString text) = .ok text
  := by rw [encode, string?_ofString]

/-- What is encoded is a text without surrogates. -/
theorem encode_eq_ok_iff {raw : RawText} {text : String} :
  raw.encode = .ok text ↔ raw = ofString text
  := by
  constructor
  · intro h
    rw [encode] at h
    split at h
    · next hstring =>
      cases h
      apply string?_eq_some_iff.mp hstring
    · cases h
  · rintro rfl
    apply encode_ofString

/-- A raw text with a surrogate cannot be encoded. -/
theorem encode_cases (raw : RawText) :
  (∃ text, raw = ofString text) ∨ raw.encode = .error raw.encodeFault ∧ ∀ text, raw ≠ ofString text
  := by
  cases hstring : raw.string? with
  | some text => exact .inl ⟨text, string?_eq_some_iff.mp hstring⟩
  | none =>
    right
    constructor
    · rw [encode, hstring]
    · rintro text rfl
      rw [string?_ofString] at hstring
      cases hstring

/-- Half of a character, for which there is no encoding. -/
def loneSurrogate : RawText :=
  [.ofCode 0xD800]

/-- A lone surrogate is in no string. -/
theorem loneSurrogate_ne_ofString (text : String) :
  loneSurrogate ≠ ofString text
  := by
  intro h
  have hstring := string?_ofString text
  rw [← h] at hstring
  cases hstring

/-! ### Faces -/

/-- Where nothing is hidden, putting back what looks like U+FFFD changes nothing. -/
theorem unmask_of_char {glyphs : List Glyph} (h : ∀ glyph ∈ glyphs, glyph = .char '�')
    (text : Text) :
  unmask glyphs text = ofText text
  := by
  induction text generalizing glyphs with
  | nil => cases glyphs <;> rfl
  | cons c text ih =>
    cases glyphs with
    | nil => rw [unmask, ih h, ofText_cons]
    | cons glyph glyphs =>
      rw [unmask, ofText_cons]
      split
      · next hc =>
        rw [List.forall_mem_cons] at h
        rw [ih h.2, h.1, hc]
      · rw [ih h]

/-- Nothing but the replacement character is masked in a text. -/
theorem masked_ofText (text : Text) {glyph : Glyph} (h : glyph ∈ masked (ofText text)) :
  glyph = .char '�'
  := by
  obtain ⟨hglyph, hface⟩ := List.mem_filter.mp h
  obtain ⟨c, -, rfl⟩ := List.mem_map.mp hglyph
  rw [Glyph.face, beq_iff_eq] at hface
  rw [hface]

end ContractLint.RawText
