import ContractLint.Proofs.Source.Canonical

/-!
# Normal forms

The normal form of a text holds no tab and no carriage return, and no blank stands at its ends.
These properties tell the normal forms from all other texts: a text has them exactly when it is its
own normal form.  So no step of the normalization undoes what an earlier one has done, and no lines
are lost in front of a text that is already normal.
-/

namespace ContractLint.Text

variable {c : Char} {text : Text}

/-- A text without tabs and carriage returns that neither begins nor ends with a blank. -/
structure IsNormal (text : Text) : Prop where
  /-- There is no tab. -/
  tab : '\t' ∉ text
  /-- There is no carriage return. -/
  carriageReturn : '\r' ∉ text
  /-- The first character is no blank. -/
  front : ∀ h : text ≠ [], ¬ isBlank (text.head h) = true
  /-- The last character is no blank. -/
  back : ∀ h : text ≠ [], ¬ isBlank (text.getLast h) = true

/-! ### The steps of the normalization -/

theorem mem_of_mem_trim (h : c ∈ trim text) :
  c ∈ text
  := by
  obtain ⟨front, back, htext, -, -⟩ := exists_eq_append_trim_append text
  rw [htext]
  apply List.mem_append_left back
  apply List.mem_append_right front h

/-- No carriage return is left when line breaks are unified. -/
theorem return_not_mem_unifyBreaks (text : Text) :
  '\r' ∉ unifyBreaks text
  := by
  fun_induction unifyBreaks text with
  | case1 => simp
  | case2 rest ih => simpa using ih
  | case3 c rest hpair ih =>
    -- a return that is left by the pairs of return and feed stands alone
    by_cases hc : c = '\r'
    · simpa [hc] using ih
    · simpa [hc, Ne.symm hc] using ih

/-- No tab is left when tabs are expanded. -/
theorem tab_not_mem_expandTabs (text : Text) :
  '\t' ∉ expandTabs text
  := by
  induction text with
  | nil => simp [expandTabs]
  | cons c text ih =>
    by_cases hc : c = '\t'
    · subst hc
      simpa [expandTabs_cons_tab] using ih
    · simpa [expandTabs_cons_of_ne hc, Ne.symm hc] using ih

/-- Expanding tabs brings in no character but blanks. -/
theorem mem_of_mem_expandTabs (hc : c ≠ ' ') (h : c ∈ expandTabs text) :
  c ∈ text
  := by
  obtain ⟨d, hd, hmem⟩ := List.mem_flatMap.mp h
  by_cases htab : d = '\t'
  · simp [htab, hc] at hmem
  · rw [if_neg htab, List.mem_singleton] at hmem
    rw [hmem]
    apply hd

theorem unifyBreaks_eq_self (h : '\r' ∉ text) :
  unifyBreaks text = text
  := by simpa [unifyBreaks] using unifyBreaks_append_left h []

/-! ### Normal forms -/

/-- A normalised text is normal. -/
theorem isNormal_normalize (text : Text) :
  IsNormal (normalize text)
  where
  tab h := tab_not_mem_expandTabs _ (mem_of_mem_trim h)
  carriageReturn h :=
    return_not_mem_unifyBreaks text (mem_of_mem_expandTabs (by decide) (mem_of_mem_trim h))
  front h := not_isBlank_head_trim h
  back h := not_isBlank_getLast_trim h

/-- A normal text is left as it is. -/
theorem IsNormal.normalize_eq (h : IsNormal text) :
  normalize text = text
  := by
  rw [normalize, unifyBreaks_eq_self h.carriageReturn, expandTabs_eq_self h.tab]
  apply trim_eq_self h.front h.back

theorem IsNormal.leadingLines_eq (h : IsNormal text) :
  leadingLines text = 0
  := by
  rw [leadingLines, unifyBreaks_eq_self h.carriageReturn]
  cases text with
  | nil => rfl
  | cons c text =>
    have hc : ¬ isBlank c = true := h.front (List.cons_ne_nil c text)
    rw [List.takeWhile_cons_of_neg hc, List.count_nil, ite_self]

/-- The normal form of a text holds no tab and no carriage return and neither begins nor ends with a
blank, and no lines are counted in front of it.  The texts with these properties are those that are
their own normal forms, and those that are the normal form of some text; in particular the normal
form of a text is its own normal form. -/
theorem normalize_normalForm (text : Text) :
  IsNormal (normalize text)
  ∧ (normalize text = text ↔ IsNormal text)
  ∧ ((∃ given, normalize given = text) ↔ IsNormal text)
  ∧ normalize (normalize text) = normalize text
  ∧ leadingLines (normalize text) = 0
  := by
  have hnormal := isNormal_normalize text
  refine ⟨hnormal, ⟨?_, IsNormal.normalize_eq⟩, ⟨?_, ?_⟩, hnormal.normalize_eq,
    hnormal.leadingLines_eq⟩
  · intro h
    rw [← h]
    apply hnormal
  · rintro ⟨given, rfl⟩
    apply isNormal_normalize
  · intro h
    use text
    apply h.normalize_eq

example : normalize "\r\r\n\t a\r\r\n\tb\x0c\r".toList = "a\n\n    b".toList := by decide

end ContractLint.Text
