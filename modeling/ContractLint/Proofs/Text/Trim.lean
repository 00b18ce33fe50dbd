import Mathlib.Data.List.DropRight
import Mathlib.Tactic.Use
import ContractLint.Text.Basic

/-!
# Trimming

A text is its trimmed part with blanks around it, and the trimmed part neither begins nor ends with
a blank.  Blanks added at either end are trimmed away again, so that trimming depends on the part
between the blanks only.
-/

namespace ContractLint.Text

/-! ### The front of a text -/

theorem trimStart_cons_of_isBlank {c : Char} (h : isBlank c = true) (text : Text) :
  trimStart (c :: text) = trimStart text
  := List.dropWhile_cons_of_pos h

theorem trimStart_cons_of_not_isBlank {c : Char} (h : ¬ isBlank c = true) (text : Text) :
  trimStart (c :: text) = c :: text
  := List.dropWhile_cons_of_neg h

/-- Blanks at the start are trimmed. -/
theorem trimStart_append_of_isBlank {blanks : Text} (h : ∀ c ∈ blanks, isBlank c = true)
    (text : Text) :
  trimStart (blanks ++ text) = trimStart text
  := List.dropWhile_append_of_pos h

/-- A blank at the end of a text stays at the end of the text from its first character that is not
blank, unless there is no such character. -/
theorem trimStart_concat_of_isBlank {c : Char} (h : isBlank c = true) (text : Text) :
  trimStart (text ++ [c]) = trimStart text ++ [c]
    ∨ trimStart (text ++ [c]) = [] ∧ trimStart text = []
  := by
  induction text with
  | nil =>
    right
    simp [trimStart, h]
  | cons d text ih =>
    by_cases hd : isBlank d = true
    · rw [List.cons_append, trimStart_cons_of_isBlank hd, trimStart_cons_of_isBlank hd]
      apply ih
    · left
      rw [List.cons_append, trimStart_cons_of_not_isBlank hd, trimStart_cons_of_not_isBlank hd]
      rfl

/-- Exactly the blank texts are trimmed at the start to nothing. -/
theorem trimStart_eq_nil_iff {text : Text} :
  trimStart text = [] ↔ ∀ c ∈ text, isBlank c = true
  := List.dropWhile_eq_nil_iff

/-! ### The end of a text -/

theorem trimEnd_concat_of_isBlank {c : Char} (h : isBlank c = true) (text : Text) :
  trimEnd (text ++ [c]) = trimEnd text
  := List.rdropWhile_concat_pos isBlank text c h

theorem trimEnd_concat_of_not_isBlank {c : Char} (h : ¬ isBlank c = true) (text : Text) :
  trimEnd (text ++ [c]) = text ++ [c]
  := List.rdropWhile_concat_neg isBlank text c h

/-! ### Both ends -/

theorem trim_cons_of_isBlank {c : Char} (h : isBlank c = true) (text : Text) :
  trim (c :: text) = trim text
  := by
  rw [trim, trimStart_cons_of_isBlank h]
  rfl

theorem trim_concat_of_isBlank {c : Char} (h : isBlank c = true) (text : Text) :
  trim (text ++ [c]) = trim text
  := by
  obtain hkept | ⟨hleft, hright⟩ := trimStart_concat_of_isBlank h text
  · rw [trim, hkept, trimEnd_concat_of_isBlank h]
    rfl
  · rw [trim, trim, hleft, hright]

/-- Blanks before a text do not matter when it is trimmed. -/
theorem trim_append_of_isBlank_left {blanks : Text} (h : ∀ c ∈ blanks, isBlank c = true)
    (text : Text) :
  trim (blanks ++ text) = trim text
  := by
  rw [trim, trimStart_append_of_isBlank h]
  rfl

/-- Blanks after a text do not matter when it is trimmed. -/
theorem trim_append_of_isBlank_right {blanks : Text} (h : ∀ c ∈ blanks, isBlank c = true)
    (text : Text) :
  trim (text ++ blanks) = trim text
  := by
  induction blanks generalizing text with
  | nil => rw [List.append_nil]
  | cons c blanks ih =>
    rw [← List.singleton_append, ← List.append_assoc, ih (by grind)]
    apply trim_concat_of_isBlank
    apply h c List.mem_cons_self

/-- Every text is its trimmed part between blanks. -/
theorem exists_eq_append_trim_append (text : Text) :
  ∃ front back : Text, text = front ++ trim text ++ back
    ∧ (∀ c ∈ front, isBlank c = true) ∧ ∀ c ∈ back, isBlank c = true
  := by
  use text.takeWhile isBlank, (trimStart text).rtakeWhile isBlank
  refine ⟨?_, fun c => List.mem_takeWhile_imp, fun c => List.mem_rtakeWhile_imp⟩
  rw [List.append_assoc]
  apply Eq.trans List.takeWhile_append_dropWhile.symm
  congr 1
  symm
  apply List.rdropWhile_append_rtakeWhile

/-- Exactly the blank texts are trimmed to nothing. -/
theorem trim_eq_nil_iff {text : Text} :
  trim text = [] ↔ ∀ c ∈ text, isBlank c = true
  := by
  constructor
  · intro h
    obtain ⟨front, back, heq, hfront, hback⟩ := exists_eq_append_trim_append text
    rw [heq, h]
    grind
  · intro h
    rw [trim, trimStart_eq_nil_iff.mpr h]
    rfl

theorem trim_ne_nil_iff {text : Text} :
  trim text ≠ [] ↔ ∃ c ∈ text, ¬ isBlank c = true
  := by
  rw [Ne, trim_eq_nil_iff]
  simp

/-- The trimmed part of a text does not begin with a blank. -/
theorem not_isBlank_head_trim {text : Text} (h : trim text ≠ []) :
  ¬ isBlank ((trim text).head h) = true
  := by
  have hfront : trim text <+: trimStart text := List.rdropWhile_prefix isBlank _
  rw [hfront.head h]
  have hstart := List.head_dropWhile_not isBlank (hfront.ne_nil h)
  apply Bool.eq_false_iff.mp hstart

/-- The trimmed part of a text does not end with a blank. -/
theorem not_isBlank_getLast_trim {text : Text} (h : trim text ≠ []) :
  ¬ isBlank ((trim text).getLast h) = true
  := List.rdropWhile_last_not isBlank (trimStart text) h

/-- A text that neither begins nor ends with a blank is its own trimmed part. -/
theorem trim_eq_self {text : Text} (hhead : ∀ h : text ≠ [], ¬ isBlank (text.head h) = true)
    (hlast : ∀ h : text ≠ [], ¬ isBlank (text.getLast h) = true) :
  trim text = text
  := by
  cases text with
  | nil => rfl
  | cons c text =>
    have hc : ¬ isBlank c = true := hhead (List.cons_ne_nil c text)
    rw [trim, trimStart_cons_of_not_isBlank hc]
    apply List.rdropWhile_eq_self_iff.mpr hlast

/-- A trimmed text is trimmed. -/
@[simp]
theorem trim_trim (text : Text) :
  trim (trim text) = trim text
  := by
  apply trim_eq_self
  · intro h
    apply not_isBlank_head_trim h
  · intro h
    apply not_isBlank_getLast_trim h

end ContractLint.Text
