import Mathlib.Order.Bounds.Basic
import ContractLint.Proofs.Contract.Written

/-!
# The end of a parameter list

The parameter list of a signature goes from the first parenthesis to the place where as many are
closed as were opened.  What is attached to the function is read from the text after it, up to the
first place where the body begins, the declaration ends or results are declared.  The text is cut
for one kind of place after the other.  A cut moves no place before it and is itself no word
character, so that all cuts together are one cut at the first place of any kind.
-/

namespace ContractLint

namespace Text

/-! ### First places -/

/-- The first of some places, if there are any. -/
def IsFirst (stops : Nat → Prop) : Option Nat → Prop
  | some place => IsLeast {place | stops place} place
  | none => ∀ place, ¬ stops place

/-- A text up to the first of some places, or all of it if there are none. -/
def IsCut (stops : Nat → Prop) (text cut : Text) : Prop :=
  ∃ first, IsFirst stops first ∧ cut = first.elim text text.take

section
variable {stops : Nat → Prop}

/-- A place before which nothing stops is the least that stops. -/
theorem isLeast_of_forall_lt {place : Nat} (h : stops place)
    (hbefore : ∀ earlier < place, ¬ stops earlier) :
  IsLeast {place | stops place} place
  := by
  use h
  intro other hother
  by_contra hlt
  apply hbefore other (not_le.mp hlt) hother

theorem isFirst_zero (h : stops 0) :
  IsFirst stops (some 0)
  := ⟨h, fun place _ => Nat.zero_le place⟩

/-- Every place moves on when a character is put in front of a text. -/
theorem IsFirst.next {first : Option Nat} (h : IsFirst stops first) {moved : Nat → Prop}
    (hzero : ¬ moved 0) (hsucc : ∀ place, moved (place + 1) ↔ stops place) :
  IsFirst moved (first.map (· + 1))
  := by
  cases first with
  | none =>
    intro place hplace
    cases place with
    | zero => apply hzero hplace
    | succ place => apply h place ((hsucc place).mp hplace)
  | some first =>
    constructor
    · apply (hsucc first).mpr h.1
    · intro place hplace
      cases place with
      | zero => cases hzero hplace
      | succ place => apply Nat.succ_le_succ (h.2 ((hsucc place).mp hplace))

/-- There is only one first place. -/
theorem IsFirst.unique {first other : Option Nat} (h : IsFirst stops first)
    (hother : IsFirst stops other) :
  first = other
  := by
  cases first with
  | none =>
    cases other with
    | none => rfl
    | some other => cases h other hother.1
  | some first =>
    cases other with
    | none => cases hother first h.1
    | some other => rw [IsLeast.unique h hother]

/-- A cut behind a character at which nothing stops is a cut of the text. -/
theorem IsCut.cons {text cut : Text} (h : IsCut stops text cut) (c : Char) {moved : Nat → Prop}
    (hzero : ¬ moved 0) (hsucc : ∀ place, moved (place + 1) ↔ stops place) :
  IsCut moved (c :: text) (c :: cut)
  := by
  obtain ⟨first, hfirst, rfl⟩ := h
  use first.map (· + 1), hfirst.next hzero hsucc
  cases first <;> rfl

theorem IsCut.append_drop {text cut : Text} (h : IsCut stops text cut) :
  cut ++ text.drop cut.length = text
  := by
  apply List.prefix_iff_eq_append.mp
  obtain ⟨first, -, rfl⟩ := h
  cases first with
  | none => apply List.prefix_refl
  | some first => apply List.take_prefix

/-- What a cut leaves away begins at the first place. -/
theorem IsCut.stops_length {text cut : Text} (h : IsCut stops text cut)
    (hlt : cut.length < text.length) :
  stops cut.length
  := by
  obtain ⟨first, hfirst, rfl⟩ := h
  cases first with
  | none => cases lt_irrefl _ hlt
  | some first =>
    rw [Option.elim_some, List.length_take] at hlt
    rw [Option.elim_some, List.length_take_of_le (by omega)]
    apply hfirst.1

/-- A cut for some places after a cut for others is one cut for all of them, if the second one finds
the places that the first one has left. -/
theorem IsCut.or {more found : Nat → Prop} {text middle cut : Text} (h : IsCut stops text middle)
    (hfound : IsCut found middle cut) (hinside : ∀ place, stops place → place < text.length)
    (hmore : ∀ place, more place → place < text.length)
    (hleft : ∀ place, found place ↔ place < middle.length ∧ more place) :
  IsCut (fun place => stops place ∨ more place) text cut
  := by
  obtain ⟨first, hfirst, rfl⟩ := h
  obtain ⟨second, hsecond, rfl⟩ := hfound
  cases first with
  | none =>
    use second
    have hsame : (fun place => stops place ∨ more place) = found := by
      funext place
      rw [hleft, or_iff_right (hfirst place), Option.elim_none, and_iff_right_of_imp (hmore place)]
    rw [hsame]
    exact ⟨hsecond, rfl⟩
  | some first =>
    have hlength : (text.take first).length = first :=
      List.length_take_of_le (hinside first hfirst.1).le
    simp only [Option.elim_some, hlength] at hleft ⊢
    cases second with
    | none =>
      use some first
      refine ⟨⟨.inl hfirst.1, ?_⟩, rfl⟩
      rintro place (hplace | hplace)
      · apply hfirst.2 hplace
      · by_contra hlt
        apply hsecond place
        rw [hleft]
        exact ⟨not_le.mp hlt, hplace⟩
    | some second =>
      have hlt : second < first := ((hleft second).mp hsecond.1).1
      use some second
      refine ⟨⟨.inr ((hleft second).mp hsecond.1).2, ?_⟩, ?_⟩
      · rintro place (hplace | hplace)
        · apply hlt.le.trans (hfirst.2 hplace)
        · by_cases hbefore : place < first
          · apply hsecond.2 ((hleft place).mpr ⟨hbefore, hplace⟩)
          · apply hlt.le.trans (not_lt.mp hbefore)
      · rw [Option.elim_some, Option.elim_some, List.take_take, min_eq_left hlt.le]

end

/-! ### Characters and words as places -/

/-- A text is cut before the first occurrence of a character. -/
theorem isCut_before (stop : Char) (text : Text) :
  IsCut (fun place => text[place]? = some stop) text (before stop text)
  := by
  induction text with
  | nil =>
    use none
    simp [IsFirst, before]
  | cons c text ih =>
    by_cases hc : c = stop
    · use some 0, isFirst_zero (by simp [hc])
      simp [before, hc]
    · have hbefore : before stop (c :: text) = c :: before stop text := by simp [before, hc]
      rw [hbefore]
      apply ih.cons
      · simpa using hc
      · intro place
        rw [List.getElem?_cons_succ]

/-- A word is at a place of a text, and no word character touches it there. -/
structure StandsAloneAt (word text : Text) (place : Nat) : Prop where
  /-- The word is there. -/
  here : word <+: text.drop place
  /-- No word character comes right before it. -/
  left : ∀ c ∈ (text.take place).getLast?, isWord c = false
  /-- No word character comes right after it. -/
  right : ∀ c ∈ text[place + word.length]?, isWord c = false

/-- No word goes on at a place when there is no word character. -/
theorem startsInWord_drop_iff {text : Text} {place : Nat} :
  startsInWord (text.drop place) = false ↔ ∀ c ∈ text[place]?, isWord c = false
  := by
  rw [← List.head?_drop]
  cases text.drop place with
  | nil => simp [startsInWord]
  | cons c rest => simp [startsInWord]

/-- A text ends in a word when its last character is a word character. -/
theorem endsInWordAfter_iff {text : Text} :
  endsInWordAfter false text = false ↔ ∀ c ∈ text.getLast?, isWord c = false
  := by
  rw [endsInWordAfter]
  cases text.getLast? with
  | none => simp
  | some c => simp

section
variable {word text : Text}

/-- A word stands alone at a place when no word touches it there on either side. -/
theorem standsAloneAt_iff {place : Nat} :
  StandsAloneAt word text place
    ↔ endsInWordAfter false (text.take place) = false
      ∧ endsWordAtFront word (text.drop place) = true
  := by
  rw [endsWordAtFront, Bool.and_eq_true, List.isPrefixOf_iff_prefix, Bool.not_eq_true',
    List.drop_drop, startsInWord_drop_iff, endsInWordAfter_iff]
  constructor
  · rintro ⟨hhere, hleft, hright⟩
    exact ⟨hleft, hhere, hright⟩
  · rintro ⟨hleft, hhere, hright⟩
    exact ⟨hhere, hleft, hright⟩

instance {place : Nat} : Decidable (StandsAloneAt word text place) :=
  decidable_of_iff _ standsAloneAt_iff.symm

variable (hword : word ≠ [])
include hword

theorem StandsAloneAt.lt_length {place : Nat} (h : StandsAloneAt word text place) :
  place < text.length
  := by
  by_contra hle
  apply h.here.ne_nil hword
  apply List.drop_eq_nil_of_le (not_lt.mp hle)

/-- A scan for a word cuts a text where the word first stands alone. -/
theorem isCut_beforeWordFrom? (touched : Bool) (text : Text) :
  IsCut (fun place => endsInWordAfter touched (text.take place) = false
      ∧ endsWordAtFront word (text.drop place) = true)
    text ((beforeWordFrom? word touched text).getD text)
  := by
  induction text generalizing touched with
  | nil =>
    use none
    simp [IsFirst, beforeWordFrom?, endsWordAtFront, hword]
  | cons c text ih =>
    rw [beforeWordFrom?]
    by_cases hfront : (!touched && endsWordAtFront word (c :: text)) = true
    · rw [if_pos hfront]
      rw [Bool.and_eq_true, Bool.not_eq_true'] at hfront
      use some 0, isFirst_zero hfront
      rfl
    · have hcut : ((beforeWordFrom? word (isWord c) text).map (c :: ·)).getD (c :: text)
          = c :: (beforeWordFrom? word (isWord c) text).getD text := by
        cases beforeWordFrom? word (isWord c) text <;> rfl
      rw [if_neg hfront, hcut]
      apply (ih (isWord c)).cons
      · rwa [Bool.and_eq_true, Bool.not_eq_true'] at hfront
      · intro place
        rw [List.take_succ_cons, List.drop_succ_cons, endsInWordAfter_cons]

/-- A text is cut at the first place where a word stands alone. -/
theorem isCut_upToWord (text : Text) :
  IsCut (StandsAloneAt word text) text (upToWord word text)
  := by
  have hstops : StandsAloneAt word text = fun place =>
      endsInWordAfter false (text.take place) = false
        ∧ endsWordAtFront word (text.drop place) = true := by
    funext place
    rw [standsAloneAt_iff]
  rw [hstops]
  apply isCut_beforeWordFrom? hword

/-- A cut at a character that is no word character neither adds nor removes a word before it. -/
theorem standsAloneAt_append_iff (hchars : ∀ c ∈ word, isWord c = true) {rest : Text}
    (hrest : startsInWord rest = false) {place : Nat} :
  StandsAloneAt word text place
    ↔ place < text.length ∧ StandsAloneAt word (text ++ rest) place
  := by
  have hfront (front : Text) :
      endsWordAtFront word (front ++ rest) = endsWordAtFront word front := by
    cases rest with
    | nil => rw [List.append_nil]
    | cons c rest => apply endsWordAtFront_append hchars hrest
  constructor
  · intro h
    have hlt := h.lt_length hword
    rw [standsAloneAt_iff] at h
    rw [standsAloneAt_iff, List.take_append_of_le_length hlt.le,
      List.drop_append_of_le_length hlt.le, hfront]
    exact ⟨hlt, h⟩
  · rintro ⟨hlt, h⟩
    rwa [standsAloneAt_iff, List.take_append_of_le_length hlt.le,
      List.drop_append_of_le_length hlt.le, hfront, ← standsAloneAt_iff] at h

end

end Text

namespace Signature

open Text

/-! ### The parameter list -/

/-- A text that is not empty and in which as many parentheses are closed as are opened. -/
def IsLevel (text : Text) : Prop :=
  text ≠ [] ∧ text.count '(' = text.count ')'

instance (text : Text) : Decidable (IsLevel text) :=
  inferInstanceAs (Decidable (_ ∧ _))

/-- A line from its first parenthesis on. -/
def fromParameters (line : Line) : Text :=
  line.dropWhile (· != '(')

/-- Up to a place of a text, all parentheses that it opens, the `depth` that were open before it and
one more are closed. -/
def ClosesAfter (depth : Nat) (text : Text) (place : Nat) : Prop :=
  (text.take place).count ')' = (text.take place).count '(' + depth + 1

theorem not_closesAfter_zero (depth : Nat) (text : Text) :
  ¬ ClosesAfter depth text 0
  := by simp [ClosesAfter]

/-- The scan for a closing parenthesis ends at the first place where one more is closed than was
opened. -/
theorem exists_isFirst_afterClose? (depth : Nat) (text : Text) :
  ∃ first, IsFirst (ClosesAfter depth text) first ∧ afterClose? depth text = first.map text.drop
  := by
  induction text generalizing depth with
  | nil =>
    use none
    simp [IsFirst, ClosesAfter, afterClose?]
  | cons c text ih =>
    -- the rest is scanned at the depth that the character leads to
    have hnext {inner : Nat} (hafter : afterClose? depth (c :: text) = afterClose? inner text)
        (hcount : ∀ place, ClosesAfter depth (c :: text) (place + 1)
          ↔ ClosesAfter inner text place) :
        ∃ first, IsFirst (ClosesAfter depth (c :: text)) first
          ∧ afterClose? depth (c :: text) = first.map (c :: text).drop := by
      obtain ⟨first, hfirst, hrest⟩ := ih inner
      use first.map (· + 1), hfirst.next (not_closesAfter_zero depth (c :: text)) hcount
      rw [hafter, hrest, Option.map_map]
      rfl
    by_cases hplain : c ≠ '(' ∧ c ≠ ')'
    · apply hnext (afterClose?_cons_of_ne hplain depth text)
      intro place
      rw [ClosesAfter, List.take_succ_cons, List.count_cons_of_ne hplain.1,
        List.count_cons_of_ne hplain.2]
      rfl
    · obtain rfl | rfl : c = '(' ∨ c = ')' := by grind
      · apply hnext (afterClose?_cons_open depth text)
        intro place
        rw [ClosesAfter, ClosesAfter, List.take_succ_cons, List.count_cons_self,
          List.count_cons_of_ne (by decide)]
        omega
      · cases depth with
        | zero =>
          use some 1
          refine ⟨⟨by simp [ClosesAfter], ?_⟩, rfl⟩
          intro place hplace
          by_contra hlt
          obtain rfl : place = 0 := by omega
          apply not_closesAfter_zero 0 (')' :: text) hplace
        | succ depth =>
          apply hnext (afterClose?_cons_close depth text)
          intro place
          rw [ClosesAfter, ClosesAfter, List.take_succ_cons, List.count_cons_self,
            List.count_cons_of_ne (by decide)]
          omega

/-- An opening parenthesis is level when one more is closed behind it than opened. -/
theorem isLevel_cons_iff {text : Text} :
  IsLevel ('(' :: text) ↔ text.count ')' = text.count '(' + 1
  := by
  rw [IsLevel, List.count_cons_self, List.count_cons_of_ne (by decide), eq_comm]
  apply and_iff_right
  apply List.cons_ne_nil

/-- The text after a parameter list is what follows the first place where from the first parenthesis
on as many are closed as are opened. -/
theorem exists_isFirst_afterParameters? (line : Line) :
  ∃ first, IsFirst (fun length => IsLevel ((fromParameters line).take length)) first
    ∧ afterParameters? line = first.map (fromParameters line).drop
  := by
  induction line with
  | nil =>
    use none
    simp [IsFirst, IsLevel, fromParameters, afterParameters?]
  | cons c line ih =>
    rw [afterParameters?]
    by_cases hc : c = '('
    · subst hc
      have hfrom : fromParameters ('(' :: line) = '(' :: line := by simp [fromParameters]
      obtain ⟨first, hfirst, hrest⟩ := exists_isFirst_afterClose? 0 line
      use first.map (· + 1)
      constructor
      · apply hfirst.next
        · simp [IsLevel]
        · intro length
          rw [hfrom, List.take_succ_cons, isLevel_cons_iff]
          rfl
      · rw [if_pos rfl, hrest, hfrom, Option.map_map]
        rfl
    · have hfrom : fromParameters (c :: line) = fromParameters line := by simp [fromParameters, hc]
      rw [if_neg hc, hfrom]
      apply ih

/-- Nothing is level in a line without parentheses. -/
theorem not_isLevel_of_not_mem {line : Line} (h : '(' ∉ line) (length : Nat) :
  ¬ IsLevel ((fromParameters line).take length)
  := by
  have hnil : fromParameters line = [] := by
    rw [fromParameters, List.dropWhile_eq_nil_iff]
    intro c hc
    rw [bne_iff_ne]
    rintro rfl
    apply h hc
  simp [hnil, IsLevel]

/-! ### What follows the parameter list -/

/-- What is attached to a function ends at a place: there the body begins, the declaration ends, or
it is said what is returned. -/
def StopsAt (text : Text) (place : Nat) : Prop :=
  text[place]? = some '\x7b' ∨ text[place]? = some ';' ∨ StandsAloneAt returnsWord text place

instance (text : Text) (place : Nat) : Decidable (StopsAt text place) :=
  inferInstanceAs (Decidable (_ ∨ _ ∨ _))

theorem getElem?_eq_some_append_iff {text rest : Text} {c : Char} {place : Nat} :
  text[place]? = some c ↔ place < text.length ∧ (text ++ rest)[place]? = some c
  := by
  constructor
  · intro h
    have hlt : place < text.length := (List.getElem?_eq_some_iff.mp h).1
    rw [List.getElem?_append_left hlt]
    exact ⟨hlt, h⟩
  · rintro ⟨hlt, h⟩
    rwa [List.getElem?_append_left hlt] at h

/-- A text is cut at the first brace or semicolon. -/
theorem isCut_marks (text : Text) :
  IsCut (fun place => text[place]? = some '\x7b' ∨ text[place]? = some ';') text
    (before ';' (before '\x7b' text))
  := by
  have hinside (stop : Char) (place : Nat) (h : text[place]? = some stop) : place < text.length :=
    (List.getElem?_eq_some_iff.mp h).1
  have hbody := isCut_before '\x7b' text
  apply hbody.or (isCut_before ';' _) (hinside '\x7b') (hinside ';')
  intro place
  nth_rewrite 3 [← hbody.append_drop]
  apply getElem?_eq_some_append_iff

/-- What is read after a parameter list goes up to the first place where it stops. -/
theorem isCut_attachments (text : Text) :
  IsCut (StopsAt text) text (upToWord returnsWord (before ';' (before '\x7b' text)))
  := by
  have hinside (place : Nat) (h : text[place]? = some '\x7b' ∨ text[place]? = some ';') :
      place < text.length := by
    obtain h | h := h <;> apply (List.getElem?_eq_some_iff.mp h).1
  have hmarks := isCut_marks text
  have hstart : startsInWord (text.drop (before ';' (before '\x7b' text)).length) = false := by
    rw [startsInWord_drop_iff]
    intro c hc
    obtain hmark | hmark := hmarks.stops_length (List.getElem?_eq_some_iff.mp hc).1
    · cases hmark.symm.trans hc
      decide
    · cases hmark.symm.trans hc
      decide
  have hstops : StopsAt text = fun place => (text[place]? = some '\x7b' ∨ text[place]? = some ';')
      ∨ StandsAloneAt returnsWord text place := by
    funext place
    rw [StopsAt, or_assoc]
  rw [hstops]
  apply hmarks.or (isCut_upToWord returnsWord_ne_nil _) hinside
  · intro place h
    apply h.lt_length returnsWord_ne_nil
  · intro place
    nth_rewrite 3 [← hmarks.append_drop]
    apply standsAloneAt_append_iff returnsWord_ne_nil isWord_of_mem_returnsWord hstart

/-- A line without a parenthesis, or whose first parenthesis is never closed, has nothing attached.
Any other line has attached what follows the first place where from the first parenthesis on as many
are closed as are opened: up to the first brace, semicolon or `returns` that stands alone, or all of
it. -/
theorem attachmentText_exact (line : Line) :
  ('(' ∉ line ∨ (∀ length, ¬ IsLevel ((fromParameters line).take length)) →
      attachmentText line = [])
  ∧ ∀ length, IsLeast {length | IsLevel ((fromParameters line).take length)} length →
      (∀ place, IsLeast {place | StopsAt ((fromParameters line).drop length) place} place →
        attachmentText line = ((fromParameters line).drop length).take place)
      ∧ ((∀ place, ¬ StopsAt ((fromParameters line).drop length) place) →
        attachmentText line = (fromParameters line).drop length)
  := by
  obtain ⟨close, hclose, hafter⟩ := exists_isFirst_afterParameters? line
  constructor
  · intro hopen
    have hnever : ∀ length, ¬ IsLevel ((fromParameters line).take length) :=
      hopen.elim not_isLevel_of_not_mem id
    obtain rfl : close = none := hclose.unique hnever
    rw [attachmentText, hafter]
    rfl
  · intro length hlength
    obtain rfl : close = some length := hclose.unique hlength
    obtain ⟨stop, hstop, hcut⟩ := isCut_attachments ((fromParameters line).drop length)
    rw [attachmentText, hafter]
    constructor
    · intro place hplace
      obtain rfl : stop = some place := hstop.unique hplace
      apply hcut
    · intro hnone
      obtain rfl : stop = none := hstop.unique hnone
      apply hcut

/-- A signature with parentheses inside the parameter list, and in which `returns` is first the end
of another word and then stands right before the body. -/
def callbackSignature : Line :=
  "function f(function(int) g) external éreturns returns\x7b;".toList

/-- The inner parentheses do not end the parameter list, and only the word of its own ends what is
attached. -/
theorem attachmentText_exact_callback :
  IsLeast {length | IsLevel ((fromParameters callbackSignature).take length)} 17
    ∧ IsLeast {place | StopsAt ((fromParameters callbackSignature).drop 17) place} 19
    ∧ attachmentText callbackSignature = " external éreturns ".toList
  := by
  have hlength : IsLeast {length | IsLevel ((fromParameters callbackSignature).take length)} 17 :=
    isLeast_of_forall_lt (by decide) (by decide)
  have hplace : IsLeast {place | StopsAt ((fromParameters callbackSignature).drop 17) place} 19 :=
    isLeast_of_forall_lt (by decide) (by decide)
  use hlength, hplace
  apply (((attachmentText_exact callbackSignature).2 17 hlength).1 19 hplace).trans
  decide

end Signature

end ContractLint
