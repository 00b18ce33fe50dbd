import Mathlib.Data.List.Infix
import Mathlib.Tactic.Use
import ContractLint.Text.Word

/-!
# Words that stand alone

A word stands alone in a text where no word character touches it on either side.  The search for its
first such occurrence does not see across a character that is no word character:
`beforeWord?_append` lets it run over a text piece by piece.
-/

namespace ContractLint.Text

/-! ### Characters -/

/-- The code points of the blanks. -/
def blankCodes : List Nat :=
  [0x09, 0x0A, 0x0B, 0x0C, 0x0D, 0x1C, 0x1D, 0x1E, 0x1F, 0x20, 0x85, 0xA0, 0x1680, 0x2000, 0x2001,
    0x2002, 0x2003, 0x2004, 0x2005, 0x2006, 0x2007, 0x2008, 0x2009, 0x200A, 0x2028, 0x2029, 0x202F,
    0x205F, 0x3000]

/-- What holds of the characters with these code points holds of all blanks. -/
theorem eq_of_isBlank {α : Type} {f : Char → α} {value : α}
    (h : ∀ code ∈ blankCodes, f (Char.ofNat code) = value) {c : Char} (hc : isBlank c = true) :
  f c = value
  := by
  have hcode : c.toNat ∈ blankCodes := by
    simp [isBlank, blankCodes] at hc ⊢
    omega
  rw [← Char.ofNat_toNat c]
  apply h c.toNat hcode

theorem isWord_of_isBlank {c : Char} (h : isBlank c = true) :
  isWord c = false
  := eq_of_isBlank (by decide +kernel) h

/-! ### Standing alone -/

/-- Whether a text ends with a word character; an empty text ends as what comes before it. -/
def endsInWordAfter (touched : Bool) (text : Text) : Bool :=
  (text.getLast?.map isWord).getD touched

@[simp]
theorem endsInWordAfter_nil (touched : Bool) :
  endsInWordAfter touched [] = touched
  := rfl

@[simp]
theorem endsInWordAfter_cons (touched : Bool) (c : Char) (text : Text) :
  endsInWordAfter touched (c :: text) = endsInWordAfter (isWord c) text
  := by
  rw [endsInWordAfter, endsInWordAfter, List.getLast?_cons]
  cases text.getLast? <;> rfl

/-- Somewhere in a text stands the word, and no word character touches it. -/
def StandsAlone (word text : Text) : Prop :=
  ∃ front back, text = front ++ word ++ back ∧ endsInWordAfter false front = false
    ∧ startsInWord back = false

/-- A word ends at the front of a text when it stands there and no word goes on behind it. -/
theorem endsWordAtFront_iff {word text : Text} :
  endsWordAtFront word text = true ↔ ∃ back, text = word ++ back ∧ startsInWord back = false
  := by
  rw [endsWordAtFront, Bool.and_eq_true, List.isPrefixOf_iff_prefix, Bool.not_eq_true']
  constructor
  · rintro ⟨⟨back, rfl⟩, hback⟩
    rw [List.drop_left] at hback
    exact ⟨back, rfl, hback⟩
  · rintro ⟨back, rfl, hback⟩
    rw [List.drop_left]
    exact ⟨List.prefix_append word back, hback⟩

section
variable {word : Text}

/-- A word is found exactly when it stands somewhere with no word touching it. -/
theorem isSome_beforeWordFrom?_iff (hword : word ≠ []) (touched : Bool) (text : Text) :
  (beforeWordFrom? word touched text).isSome = true
    ↔ ∃ front back, text = front ++ word ++ back ∧ endsInWordAfter touched front = false
      ∧ startsInWord back = false
  := by
  induction text generalizing touched with
  | nil => simp [beforeWordFrom?, hword]
  | cons c text ih =>
    rw [beforeWordFrom?]
    -- the word stands at the front of the text, or further on
    by_cases hfront : (!touched && endsWordAtFront word (c :: text)) = true
    · rw [if_pos hfront, Option.isSome_some, eq_self, true_iff]
      rw [Bool.and_eq_true, Bool.not_eq_true'] at hfront
      obtain ⟨back, hback, hend⟩ := endsWordAtFront_iff.mp hfront.2
      exact ⟨[], back, hback, hfront.1, hend⟩
    · rw [if_neg hfront, Option.isSome_map, ih]
      constructor
      · rintro ⟨front, back, rfl, hbefore, hend⟩
        exact ⟨c :: front, back, rfl, by rwa [endsInWordAfter_cons], hend⟩
      · rintro ⟨front, back, htext, hbefore, hend⟩
        cases front with
        | nil =>
          apply absurd _ hfront
          rw [Bool.and_eq_true, Bool.not_eq_true']
          exact ⟨hbefore, endsWordAtFront_iff.mpr ⟨back, htext, hend⟩⟩
        | cons d front =>
          rw [List.cons_append, List.cons_append, List.cons.injEq] at htext
          obtain ⟨rfl, htext⟩ := htext
          rw [endsInWordAfter_cons] at hbefore
          exact ⟨front, back, htext, hbefore, hend⟩

/-- A text has a word exactly when the word stands alone in it. -/
theorem hasWord_iff (hword : word ≠ []) (text : Text) :
  hasWord word text = true ↔ StandsAlone word text
  := isSome_beforeWordFrom?_iff hword false text

/-- Nothing stands before a word at the front. -/
theorem beforeWord?_word_append (hword : word ≠ []) {back : Text}
    (hback : startsInWord back = false) :
  beforeWord? word (word ++ back) = some []
  := by
  have hfront : endsWordAtFront word (word ++ back) = true :=
    endsWordAtFront_iff.mpr ⟨back, rfl, hback⟩
  obtain ⟨c, rest, rfl⟩ := List.exists_cons_of_ne_nil hword
  rw [beforeWord?, List.cons_append, beforeWordFrom?, ← List.cons_append, hfront]
  rfl

/-! ### Searching piece by piece -/

/-- What holds no `c` is a front of a text up to a `c` or not at all. -/
theorem prefix_append_cons_iff {c : Char} (h : c ∉ word) (text rest : Text) :
  word <+: text ++ c :: rest ↔ word <+: text
  := by
  constructor
  · intro hfront
    obtain hshort | ⟨more, rfl⟩ := List.prefix_or_prefix_of_prefix hfront
      (List.prefix_append text (c :: rest))
    · apply hshort
    · rw [List.prefix_append_right_inj] at hfront
      cases more with
      | nil => rw [List.append_nil]
      | cons d more =>
        obtain ⟨rfl, -⟩ := List.cons_prefix_cons.mp hfront
        simp at h
  · intro hfront
    apply hfront.trans (List.prefix_append text _)

variable (hword : ∀ c ∈ word, isWord c = true) {c : Char} (hc : isWord c = false)
include hword hc

/-- Whether a word ends at the front of a text does not depend on what follows a character outside
of it. -/
theorem endsWordAtFront_append (text rest : Text) :
  endsWordAtFront word (text ++ c :: rest) = endsWordAtFront word text
  := by
  have hmem : c ∉ word := by
    intro hmem
    rw [hword c hmem] at hc
    cases hc
  rw [endsWordAtFront, endsWordAtFront, Bool.eq_iff_iff, Bool.and_eq_true, Bool.and_eq_true,
    List.isPrefixOf_iff_prefix, List.isPrefixOf_iff_prefix, prefix_append_cons_iff hmem]
  apply and_congr_right
  rintro ⟨back, rfl⟩
  rw [List.append_assoc, List.drop_left, List.drop_left]
  cases back with
  | nil => simp [startsInWord, hc]
  | cons d back => rfl

/-- A word that is not in the front of a text is looked for behind it. -/
theorem beforeWordFrom?_append (hne : word ≠ []) {touched : Bool} {text : Text}
    (h : beforeWordFrom? word touched text = none) (rest : Text) :
  beforeWordFrom? word touched (text ++ c :: rest)
    = (beforeWordFrom? word false rest).map (text ++ c :: ·)
  := by
  induction text generalizing touched with
  | nil =>
    have hfront : endsWordAtFront word (c :: rest) = false := by
      rw [← List.nil_append (c :: rest), endsWordAtFront_append hword hc]
      simp [endsWordAtFront, hne]
    rw [List.nil_append, beforeWordFrom?, hfront, Bool.and_false, if_neg Bool.false_ne_true, hc]
    rfl
  | cons d text ih =>
    rw [beforeWordFrom?] at h
    split at h
    · cases h
    · next hfront =>
      rw [Option.map_eq_none_iff] at h
      rw [List.cons_append, beforeWordFrom?, ← List.cons_append, endsWordAtFront_append hword hc,
        if_neg hfront, ih h, Option.map_map]
      rfl

/-- The search for a word goes on after a piece in which it does not stand alone. -/
theorem beforeWord?_append (hne : word ≠ []) {text : Text} (h : ¬ StandsAlone word text)
    (rest : Text) :
  beforeWord? word (text ++ c :: rest) = (beforeWord? word rest).map (text ++ c :: ·)
  := by
  rw [← hasWord_iff hne, hasWord, Option.not_isSome_iff_eq_none] at h
  apply beforeWordFrom?_append hword hc hne h

theorem standsAlone_cons_iff (hne : word ≠ []) (rest : Text) :
  StandsAlone word (c :: rest) ↔ StandsAlone word rest
  := by
  have hnil : ¬ StandsAlone word [] := by
    rw [← hasWord_iff hne]
    exact Bool.false_ne_true
  rw [← hasWord_iff hne, ← hasWord_iff hne, hasWord, hasWord, ← List.nil_append (c :: rest),
    beforeWord?_append hword hc hne hnil, Option.isSome_map]

omit hc in
/-- A word that stands alone in neither of two texts does not stand alone where they meet, if the
second one does not begin inside a word. -/
theorem not_standsAlone_append (hne : word ≠ []) {text rest : Text} (h : ¬ StandsAlone word text)
    (hrest : ¬ StandsAlone word rest) (hstart : startsInWord rest = false) :
  ¬ StandsAlone word (text ++ rest)
  := by
  cases rest with
  | nil => rwa [List.append_nil]
  | cons c rest =>
    rw [standsAlone_cons_iff hword hstart hne] at hrest
    rw [← hasWord_iff hne, hasWord, Option.not_isSome_iff_eq_none] at hrest ⊢
    rw [beforeWord?_append hword hstart hne h, hrest, Option.map_none]

end

end ContractLint.Text
