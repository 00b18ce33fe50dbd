import Mathlib.Data.List.Infix
import Mathlib.Tactic.Use
import ContractLint.Contract.Signature
import ContractLint.Proofs.Text.Trim
import ContractLint.Proofs.Text.Word

/-!
# Parentheses in signatures

A text is balanced when its parentheses come in pairs, one inside or beside the other.  The scan for
the end of a parameter list passes over balanced texts.  The names that are read from a text can be
read piece by piece: a closing parenthesis divides them, as long as no parenthesis before it is left
open.
-/

namespace ContractLint.Signature

open Text

/-! ### Balanced texts -/

/-- The parentheses of a text come in pairs. -/
structure IsBalanced (text : Text) : Prop where
  /-- As many are opened as are closed. -/
  total : text.count '(' = text.count ')'
  /-- None is closed before it is opened. -/
  fronts : ∀ front, front <+: text → front.count ')' ≤ front.count '('

instance (text : Text) : Decidable (IsBalanced text) :=
  decidable_of_iff (text.count '(' = text.count ')'
      ∧ ∀ front ∈ text.inits, front.count ')' ≤ front.count '(')
    ⟨fun ⟨total, fronts⟩ =>
        ⟨total, fun front h => fronts front ((List.mem_inits front text).mpr h)⟩,
      fun h =>
        ⟨h.total, fun front hfront => h.fronts front ((List.mem_inits front text).mp hfront)⟩⟩

/-- Every parenthesis that is opened in a text is closed in it. -/
def IsClosed (text : Text) : Prop :=
  ∀ back, back <:+ text → back.count '(' ≤ back.count ')'

/-- What is balanced closes no parenthesis of its surroundings. -/
theorem IsBalanced.isClosed {text : Text} (h : IsBalanced text) :
  IsClosed text
  := by
  rintro back ⟨front, rfl⟩
  have htotal := h.total
  have hfront := h.fronts front (List.prefix_append front back)
  rw [List.count_append, List.count_append] at htotal
  omega

/-- There are no parentheses in a text. -/
def IsFlat (text : Text) : Prop :=
  '(' ∉ text ∧ ')' ∉ text

instance (text : Text) : Decidable (IsFlat text) :=
  inferInstanceAs (Decidable (_ ∧ _))

/-- The back of a closed text is closed. -/
theorem IsClosed.of_suffix {text back : Text} (h : IsClosed text) (hback : back <:+ text) :
  IsClosed back
  := by
  intro rest hrest
  apply h rest (hrest.trans hback)

/-! ### Parameter lists -/

theorem afterClose?_cons_open (depth : Nat) (rest : Text) :
  afterClose? depth ('(' :: rest) = afterClose? (depth + 1) rest
  := by cases depth <;> rw [afterClose?, if_pos rfl]

theorem afterClose?_cons_close (depth : Nat) (rest : Text) :
  afterClose? (depth + 1) (')' :: rest) = afterClose? depth rest
  := by
  rw [afterClose?, if_neg (by decide)]
  rfl

/-- A character that is no parenthesis is passed over. -/
theorem afterClose?_cons_of_ne {c : Char} (h : c ≠ '(' ∧ c ≠ ')') (depth : Nat) (rest : Text) :
  afterClose? depth (c :: rest) = afterClose? depth rest
  := by cases depth <;> rw [afterClose?, if_neg h.1, if_neg h.2]

/-- The scan for a closing parenthesis passes over a text that closes no parenthesis before it. -/
theorem afterClose?_append {text : Text} {depth : Nat}
    (h : ∀ front, front <+: text → front.count ')' ≤ depth + front.count '(') (rest : Text) :
  afterClose? depth (text ++ rest)
    = afterClose? (depth + text.count '(' - text.count ')') rest
  := by
  induction text generalizing depth with
  | nil => simp
  | cons c text ih =>
    have hfronts (front : Text) (hfront : front <+: text) :
        (c :: front).count ')' ≤ depth + (c :: front).count '(' :=
      h (c :: front) (List.cons_prefix_cons.mpr ⟨rfl, hfront⟩)
    rw [List.cons_append]
    by_cases hplain : c ≠ '(' ∧ c ≠ ')'
    · have hcount (d : Char) (hd : d = '(' ∨ d = ')') (text : Text) :
          (c :: text).count d = text.count d := by
        apply List.count_cons_of_ne
        grind
      simp only [hcount _ (.inl rfl), hcount _ (.inr rfl)] at hfronts ⊢
      rw [afterClose?_cons_of_ne hplain, ih hfronts]
    · obtain rfl | rfl : c = '(' ∨ c = ')' := by grind
      · have hclose (text : Text) : ('(' :: text).count ')' = text.count ')' :=
          List.count_cons_of_ne (by decide)
        simp only [hclose, List.count_cons_self] at hfronts ⊢
        rw [afterClose?_cons_open, ih fun front hfront => by have := hfronts front hfront; omega]
        congr 1
        omega
      · have hopen (text : Text) : (')' :: text).count '(' = text.count '(' :=
          List.count_cons_of_ne (by decide)
        simp only [hopen, List.count_cons_self] at hfronts ⊢
        cases depth with
        | zero =>
          have hnone := hfronts [] List.nil_prefix
          simp at hnone
        | succ depth =>
          rw [afterClose?_cons_close,
            ih fun front hfront => by have := hfronts front hfront; omega]
          congr 1
          omega

/-- The scan for a closing parenthesis passes over a balanced text. -/
theorem IsBalanced.afterClose?_eq {text : Text} (h : IsBalanced text) (rest : Text) :
  afterClose? 0 (text ++ ')' :: rest) = some rest
  := by
  rw [afterClose?_append (by simpa using h.fronts), h.total, Nat.add_sub_cancel]
  rfl

/-- The parameters start at the first parenthesis. -/
theorem afterParameters?_append {front : Text} (h : '(' ∉ front) (rest : Text) :
  afterParameters? (front ++ '(' :: rest) = afterClose? 0 rest
  := by
  induction front with
  | nil => rfl
  | cons c front ih =>
    rw [List.mem_cons, not_or] at h
    rw [List.cons_append, afterParameters?, if_neg (Ne.symm h.1), ih h.2]

/-! ### Names in a text -/

section
variable {p : Char → Bool} {c : Char} (h : p c = false)
include h

/-- A scan that stops within a text takes as much of a longer one. -/
theorem takeWhile_append_cons (text rest : Text) :
  (text ++ c :: rest).takeWhile p = text.takeWhile p
  := by
  induction text with
  | nil => simp [h]
  | cons d text ih => rw [List.cons_append, List.takeWhile_cons, List.takeWhile_cons, ih]

/-- A scan that stops within a text drops as much of a longer one. -/
theorem dropWhile_append_cons (text rest : Text) :
  (text ++ c :: rest).dropWhile p = text.dropWhile p ++ c :: rest
  := by
  induction text with
  | nil => simp [h]
  | cons d text ih =>
    rw [List.cons_append, List.dropWhile_cons, List.dropWhile_cons, ih]
    split
    · rfl
    · rfl

end

theorem isNameStart_of_isBlank {c : Char} (h : isBlank c = true) :
  isNameStart c = false
  := eq_of_isBlank (by decide) h

theorem isNamePart_of_isBlank {c : Char} (h : isBlank c = true) :
  isNamePart c = false
  := by
  have hdollar : (c == '$') = false := eq_of_isBlank (f := (· == '$')) (by decide) h
  rw [isNamePart, isWord_of_isBlank h, hdollar]
  rfl

theorem attachments_cons_of_not_isNameStart {c : Char} (h : isNameStart c = false) (rest : Text) :
  attachments (c :: rest) = attachments rest
  := by rw [attachments, if_neg (by simp [h])]

/-- Blanks before attachments are passed over. -/
theorem attachments_append_of_isBlank {blanks : Text} (h : ∀ c ∈ blanks, isBlank c = true)
    (rest : Text) :
  attachments (blanks ++ rest) = attachments rest
  := by
  induction blanks with
  | nil => rfl
  | cons c blanks ih =>
    rw [List.forall_mem_cons] at h
    rw [List.cons_append, attachments_cons_of_not_isNameStart (isNameStart_of_isBlank h.1), ih h.2]

theorem attachments_trimStart (text : Text) :
  attachments (trimStart text) = attachments text
  := by
  nth_rewrite 2 [← List.takeWhile_append_dropWhile (p := isBlank) (l := text)]
  rw [attachments_append_of_isBlank]
  · rfl
  · intro c
    apply List.mem_takeWhile_imp

/-! ### Argument lists -/

/-- Only an opening parenthesis starts arguments. -/
theorem dropArguments_of_head?_ne {text : Text} (h : text.head? ≠ some '(') :
  dropArguments text = text
  := by
  unfold dropArguments
  split
  · next rest => cases h rfl
  · rfl

theorem dropArguments_suffix (text : Text) :
  dropArguments text <:+ text
  := by
  unfold dropArguments
  split
  · next rest =>
    split
    · next after hafter =>
      have hrest : ')' :: after <:+ rest := by
        rw [← hafter]
        apply List.dropWhile_suffix
      apply ((List.suffix_cons ')' after).trans hrest).trans (List.suffix_cons '(' rest)
    · apply List.suffix_rfl
  · apply List.suffix_rfl

section
variable {front : Text} (h : IsFlat front) (rest : Text)
include h

/-- A scan for parentheses passes over what has none. -/
theorem dropWhile_append_of_isFlat {c : Char} (hc : c = '(' ∨ c = ')') :
  (front ++ c :: rest).dropWhile (fun c => c != '(' && c != ')') = c :: rest
  := by
  rw [List.dropWhile_append_of_pos]
  · apply List.dropWhile_cons_of_neg
    obtain rfl | rfl := hc <;> decide
  · intro d hd
    have hopen : d ≠ '(' := fun heq => h.1 (heq ▸ hd)
    have hclose : d ≠ ')' := fun heq => h.2 (heq ▸ hd)
    simp [hopen, hclose]

/-- Arguments without inner parentheses are dropped. -/
theorem dropArguments_of_isFlat :
  dropArguments ('(' :: (front ++ ')' :: rest)) = rest
  := by
  rw [dropArguments, dropWhile_append_of_isFlat h rest (.inr rfl)]
  rfl

/-- Arguments whose first inner parenthesis is an opening one are left in place. -/
theorem dropArguments_of_nested :
  dropArguments ('(' :: (front ++ '(' :: rest)) = '(' :: (front ++ '(' :: rest)
  := by
  rw [dropArguments, dropWhile_append_of_isFlat h rest (.inl rfl)]
  rfl

end

/-- The first parenthesis in a text. -/
theorem exists_eq_append_of_not_isFlat {text : Text} (h : ¬ IsFlat text) :
  ∃ front c back, text = front ++ c :: back ∧ (c = '(' ∨ c = ')') ∧ IsFlat front
  := by
  induction text with
  | nil => simp [IsFlat] at h
  | cons c text ih =>
    by_cases hc : c = '(' ∨ c = ')'
    · exact ⟨[], c, text, rfl, hc, List.not_mem_nil, List.not_mem_nil⟩
    · have hrest : ¬ IsFlat text := by
        intro hflat
        apply h
        grind [IsFlat]
      obtain ⟨front, d, back, rfl, hd, hfront⟩ := ih hrest
      refine ⟨c :: front, d, back, rfl, hd, ?_⟩
      grind [IsFlat]

/-- The arguments of a closed text are dropped within it. -/
theorem dropArguments_append {text : Text} (h : IsClosed text) (rest : Text) :
  dropArguments (text ++ ')' :: rest) = dropArguments text ++ ')' :: rest
  := by
  cases text with
  | nil => rfl
  | cons c text =>
    by_cases hc : c = '('
    · subst hc
      have hflat : ¬ IsFlat text := by
        -- the first parenthesis would be left open
        intro hflat
        have hcount := h ('(' :: text) List.suffix_rfl
        simp [List.count_eq_zero.mpr hflat.1, List.count_eq_zero.mpr hflat.2] at hcount
      obtain ⟨front, d, back, rfl, rfl | rfl, hfront⟩ := exists_eq_append_of_not_isFlat hflat
      · rw [List.cons_append, List.append_assoc, List.cons_append,
          dropArguments_of_nested hfront, dropArguments_of_nested hfront]
        simp
      · rw [List.cons_append, List.append_assoc, List.cons_append, dropArguments_of_isFlat hfront,
          dropArguments_of_isFlat hfront]
    · rw [dropArguments_of_head?_ne (by simpa using hc),
        dropArguments_of_head?_ne (by simpa using hc)]

/-- What is read after a closing parenthesis does not depend on what is read before it, if nothing
is left open there. -/
theorem attachments_append_close {text : Text} (h : IsClosed text) (rest : Text) :
  attachments (text ++ ')' :: rest) = attachments text ++ attachments rest
  := by
  have hskip : attachments (')' :: rest) = attachments rest :=
    attachments_cons_of_not_isNameStart (by decide) rest
  fun_induction attachments text with
  | case1 => apply hskip
  | case2 c text hc ih =>
    have hpart : isNamePart ')' = false := by decide
    have hblank : isBlank ')' = false := by decide
    have hnext : dropArguments (trimStart (text.dropWhile isNamePart)) <:+ c :: text :=
      (((dropArguments_suffix _).trans (List.dropWhile_suffix _)).trans
        (List.dropWhile_suffix _)).trans (List.suffix_cons c text)
    have hclosed : IsClosed (trimStart (text.dropWhile isNamePart)) := h.of_suffix
      (((List.dropWhile_suffix _).trans (List.dropWhile_suffix _)).trans (List.suffix_cons c text))
    rw [List.cons_append, attachments, if_pos hc, takeWhile_append_cons hpart,
      dropWhile_append_cons hpart, trimStart, dropWhile_append_cons hblank, ← trimStart,
      dropArguments_append hclosed, ih (h.of_suffix hnext), List.cons_append]
  | case3 c text hc ih =>
    rw [List.cons_append, attachments_cons_of_not_isNameStart (by simpa using hc),
      ih (h.of_suffix (List.suffix_cons c text))]

end ContractLint.Signature
