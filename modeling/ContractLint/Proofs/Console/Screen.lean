import Mathlib.Logic.Basic
import ContractLint.Console.Screen

/-!
# Blocks on a screen

A screen is complete exactly when none of its blocks is faulty, and then it shows the lines of all
of them.  A text without brackets and backslashes is shown as it is.
-/

namespace ContractLint

/-! ### Results that may be faulty -/

section
variable {α β ε : Type}

theorem map_eq_error_iff {f : α → β} {result : Except ε α} {error : ε} :
  result.map f = .error error ↔ result = .error error
  := by cases result <;> simp [Except.map]

/-- Results are faulty together exactly when one of them is. -/
theorem exists_mapM_eq_error_iff {f : α → Except ε β} {items : List α} :
  (∃ error, items.mapM f = .error error) ↔ ∃ item ∈ items, ∃ error, f item = .error error
  := by
  induction items with
  | nil => simp [pure, Except.pure]
  | cons item items ih =>
    rw [List.mapM_cons]
    cases hitem : f item with
    | error error => simp [hitem, bind, Except.bind]
    | ok value =>
      simp only [List.mem_cons, exists_eq_or_imp, hitem, reduceCtorEq, exists_false, false_or, ← ih]
      cases hitems : items.mapM f with
      | error error => simp [bind, Except.bind]
      | ok values => simp [bind, Except.bind, pure, Except.pure]

end

namespace Console

/-! ### Screens -/

namespace Screen

/-- A screen breaks off exactly when one of its blocks is faulty. -/
theorem error_ofBlocks_ne_none_iff {blocks : List Block} :
  (ofBlocks blocks).error ≠ none ↔ ∃ error, .error error ∈ blocks
  := by
  induction blocks with
  | nil => simp [ofBlocks]
  | cons block blocks ih =>
    cases block with
    | ok lines => simp [ofBlocks, ih]
    | error error => simp [ofBlocks]

end Screen

/-! ### Plain texts -/

namespace Markup

/-- A text that cannot be taken for markup. -/
def IsPlain (text : Text) : Prop :=
  '[' ∉ text ∧ '\\' ∉ text

instance (text : Text) : Decidable (IsPlain text) :=
  inferInstanceAs (Decidable (_ ∧ _))

theorem unescape_of_isPlain {text : Text} (h : IsPlain text) :
  unescape text = text
  := by
  induction text with
  | nil => rfl
  | cons c text ih =>
    obtain ⟨hbracket, hslash⟩ := h
    rw [List.mem_cons, not_or] at hbracket hslash
    rw [unescape, ih ⟨hbracket.2, hslash.2⟩]
    intro rest hc
    cases hslash.1 hc.symm

/-- Plain text is gathered up to the next tag. -/
theorem piecesFrom_append {text : Text} (h : IsPlain text) (plain : Text) (offset : Nat)
    (rest : Text) :
  piecesFrom plain offset 0 (text ++ rest)
    = piecesFrom (text.reverse ++ plain) (offset + text.length) 0 rest
  := by
  induction text generalizing plain offset with
  | nil => rfl
  | cons c text ih =>
    obtain ⟨hbracket, hslash⟩ := h
    rw [List.mem_cons, not_or] at hbracket hslash
    rw [List.cons_append, piecesFrom, if_neg (Ne.symm hbracket.1),
      ih ⟨hbracket.2, hslash.2⟩]
    simp [Nat.add_assoc, Nat.add_comm 1]

/-- Plain text is shown as it is. -/
theorem render_of_isPlain {text : Text} (h : IsPlain text) :
  render text = .ok text
  := by
  have hpieces := piecesFrom_append h [] 0 []
  rw [List.append_nil] at hpieces
  rw [render, pieces, hpieces]
  simp [piecesFrom, renderPieces, unescape_of_isPlain h, bind, Except.bind, pure, Except.pure]

/-- Plain text inside a tag is shown without the tag. -/
theorem render_styled {text : Text} (h : IsPlain text) :
  render ("[bold cyan]".toList ++ text ++ "[/bold cyan]".toList) = .ok text
  := by
  have hopen (rest : Text) : piecesFrom [] 0 0 ("[bold cyan]".toList ++ rest)
      = .plain [] :: .plain [] :: .tag "bold cyan".toList 0 :: piecesFrom [] 11 0 rest := rfl
  have hslashes : text.reverse.takeWhile (· == '\\') = [] := by
    cases hreverse : text.reverse with
    | nil => rfl
    | cons c rest =>
      have hmem : c ∈ text := List.mem_reverse.mp (by simp [hreverse])
      have hc : c ≠ '\\' := ne_of_mem_of_not_mem hmem h.2
      simp [hc]
  have hclose (plain : Text) (offset : Nat) (hplain : plain.takeWhile (· == '\\') = []) :
      piecesFrom plain offset 0 "[/bold cyan]".toList
        = [.plain plain.reverse, .plain [], .tag "/bold cyan".toList offset, .plain []] := by
    have hstep : piecesFrom plain offset 0 "[/bold cyan]".toList
        = .plain (plain.drop (plain.takeWhile (· == '\\')).length).reverse
          :: .plain (escapes (plain.takeWhile (· == '\\')).length).1
          :: (if (escapes (plain.takeWhile (· == '\\')).length).2
            then .plain "[/bold cyan]".toList else .tag "/bold cyan".toList offset)
          :: [.plain []] := rfl
    rw [hstep, hplain]
    rfl
  have hrender (offset : Nat) : renderPieces [] [.plain [], .plain [],
      .tag "bold cyan".toList 0, .plain text, .plain [], .tag "/bold cyan".toList offset, .plain []]
        = .ok (unescape text ++ []) := rfl
  rw [render, pieces, List.append_assoc, hopen, piecesFrom_append h, List.append_nil,
    hclose _ _ hslashes, List.reverse_reverse, hrender, unescape_of_isPlain h, List.append_nil]

end Markup

end Console

end ContractLint
