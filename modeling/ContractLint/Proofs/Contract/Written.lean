import Mathlib.Data.List.Chain
import Mathlib.Tactic.Use
import ContractLint.Proofs.Contract.Parentheses

/-!
# Written signatures

A signature line is written from its parts: the name and the parameters of a function, the
attachments with their arguments, what the function returns, and its body.  Reading the line gives
the name back.  It also gives the names of the attachments back, and nothing else unless an argument
list has parentheses of its own, in which case its inside is read as well.
-/

namespace ContractLint.Signature

open Text

/-! ### Pieces -/

/-- Whether a text is a name. -/
def isName : Text → Bool
  | [] => false
  | c :: rest => isNameStart c && rest.all isNamePart

/-- The names that can be written. -/
abbrev Name := { text : Text // isName text = true }

/-- The texts of blanks. -/
abbrev Blanks := { text : Text // text.all isBlank = true }

/-- The word before what a function returns. -/
def returnsWord : Text := "returns".toList

/-- A text in which an attachment part goes on: it opens no body, ends no declaration and does not
say what is returned. -/
structure IsPlain (text : Text) : Prop where
  /-- No body is opened. -/
  noBody : '\x7b' ∉ text
  /-- No declaration is ended. -/
  noEnd : ';' ∉ text
  /-- What is returned is not said. -/
  noReturns : ¬ StandsAlone returnsWord text

theorem returnsWord_ne_nil :
  returnsWord ≠ []
  := by decide

theorem isWord_of_mem_returnsWord :
  ∀ c ∈ returnsWord, isWord c = true
  := List.all_eq_true.mp (by decide)

instance (text : Text) : Decidable (StandsAlone returnsWord text) :=
  decidable_of_iff _ (hasWord_iff returnsWord_ne_nil text)

instance (text : Text) : Decidable (IsPlain text) :=
  decidable_of_iff ('\x7b' ∉ text ∧ ';' ∉ text ∧ ¬ StandsAlone returnsWord text)
    ⟨fun ⟨noBody, noEnd, noReturns⟩ => ⟨noBody, noEnd, noReturns⟩,
      fun ⟨noBody, noEnd, noReturns⟩ => ⟨noBody, noEnd, noReturns⟩⟩

theorem isPlain_nil :
  IsPlain []
  where
  noBody := List.not_mem_nil
  noEnd := List.not_mem_nil
  noReturns := by
    rw [← hasWord_iff returnsWord_ne_nil]
    exact Bool.false_ne_true

/-- A plain text with another one behind it is plain, if no word is made between them. -/
theorem IsPlain.append {text rest : Text} (h : IsPlain text) (hrest : IsPlain rest)
    (hstart : startsInWord rest = false) :
  IsPlain (text ++ rest)
  where
  noBody := by simp [h.noBody, hrest.noBody]
  noEnd := by simp [h.noEnd, hrest.noEnd]
  noReturns :=
    not_standsAlone_append isWord_of_mem_returnsWord returnsWord_ne_nil h.noReturns
      hrest.noReturns hstart

/-- A plain text stays so behind a character that is no word and ends nothing. -/
theorem IsPlain.cons {text : Text} (h : IsPlain text) {c : Char} (hc : isWord c = false)
    (hbody : c ≠ '\x7b') (hend : c ≠ ';') :
  IsPlain (c :: text)
  where
  noBody := by simp [h.noBody, Ne.symm hbody]
  noEnd := by simp [h.noEnd, Ne.symm hend]
  noReturns := by
    rw [standsAlone_cons_iff isWord_of_mem_returnsWord hc returnsWord_ne_nil]
    apply h.noReturns

theorem isBlank_of_mem (blanks : Blanks) :
  ∀ c ∈ blanks.val, isBlank c = true
  := List.all_eq_true.mp blanks.property

/-- A plain text stays so behind blanks. -/
theorem IsPlain.blanks_append {text : Text} (h : IsPlain text) (blanks : Blanks) :
  IsPlain (blanks.val ++ text)
  := by
  obtain ⟨blanks, hblanks⟩ := blanks
  induction blanks with
  | nil => apply h
  | cons c blanks ih =>
    rw [List.all_cons, Bool.and_eq_true] at hblanks
    apply (ih hblanks.2).cons (isWord_of_isBlank hblanks.1)
    · rintro rfl
      cases hblanks.1
    · rintro rfl
      cases hblanks.1

/-- Blanks do not go on a name. -/
theorem head?_blanks_append {rest : Text} (h : ∀ c ∈ rest.head?, isNamePart c = false)
    (blanks : Blanks) :
  ∀ c ∈ (blanks.val ++ rest).head?, isNamePart c = false
  := by
  obtain ⟨blanks, hblanks⟩ := blanks
  cases blanks with
  | nil => apply h
  | cons blank blanks =>
    rintro c ⟨⟩
    rw [List.all_cons, Bool.and_eq_true] at hblanks
    apply isNamePart_of_isBlank hblanks.1

/-- A text that does not go on a name does not begin inside a word. -/
theorem startsInWord_of_head? {text : Text} (h : ∀ c ∈ text.head?, isNamePart c = false) :
  startsInWord text = false
  := by
  cases text with
  | nil => rfl
  | cons c text => apply (Bool.or_eq_false_iff.mp (h c rfl)).1

/-! ### Names -/

namespace Name

variable (name : Name)

/-- A name is a first character and the characters that go on with it. -/
theorem exists_eq_cons :
  ∃ c rest, name.val = c :: rest ∧ isNameStart c = true ∧ ∀ d ∈ rest, isNamePart d = true
  := by
  obtain ⟨text, h⟩ := name
  cases text with
  | nil => cases h
  | cons c rest =>
    rw [isName, Bool.and_eq_true, List.all_eq_true] at h
    exact ⟨c, rest, rfl, h⟩

/-- A name is made of characters that start or continue a name. -/
theorem isNamePart_or_isNameStart {c : Char} (h : c ∈ name.val) :
  isNameStart c = true ∨ isNamePart c = true
  := by
  obtain ⟨first, rest, hname, hfirst, hrest⟩ := name.exists_eq_cons
  rw [hname, List.mem_cons] at h
  obtain rfl | hmem := h
  · left
    apply hfirst
  · right
    apply hrest c hmem

theorem not_mem {c : Char} (hstart : isNameStart c = false) (hpart : isNamePart c = false) :
  c ∉ name.val
  := by
  intro hmem
  obtain h | h := name.isNamePart_or_isNameStart hmem
  · rw [hstart] at h
    cases h
  · rw [hpart] at h
    cases h

/-- No blank starts a name. -/
theorem trimStart_append (rest : Text) :
  trimStart (name.val ++ rest) = name.val ++ rest
  := by
  obtain ⟨c, text, hname, hc, -⟩ := name.exists_eq_cons
  rw [hname, List.cons_append, trimStart_cons_of_not_isBlank]
  intro hblank
  rw [isNameStart_of_isBlank hblank] at hc
  cases hc

variable {rest : Text} (hrest : ∀ c ∈ rest.head?, isNamePart c = false)
include hrest

/-- A scan over a name stops at its end. -/
theorem takeWhile_append {text : Text} (h : ∀ c ∈ text, isNamePart c = true) :
  (text ++ rest).takeWhile isNamePart = text ∧ (text ++ rest).dropWhile isNamePart = rest
  := by
  rw [List.takeWhile_append_of_pos h, List.dropWhile_append_of_pos h]
  cases rest with
  | nil => simp
  | cons c rest => simp [hrest c rfl]

/-- A name is read from the front. -/
theorem nameAtFront_append :
  nameAtFront (name.val ++ rest) = name.val
  := by
  obtain ⟨c, text, hname, hc, htext⟩ := name.exists_eq_cons
  rw [hname, List.cons_append, nameAtFront, if_pos hc, (takeWhile_append hrest htext).1]

/-- A name is read whole, and then what comes after it and its argument list. -/
theorem attachments_append :
  attachments (name.val ++ rest) = name.val :: attachments (dropArguments (trimStart rest))
  := by
  obtain ⟨c, text, hname, hc, htext⟩ := name.exists_eq_cons
  obtain ⟨htake, hdrop⟩ := takeWhile_append hrest htext
  rw [hname, List.cons_append, attachments, if_pos hc, htake, hdrop]

end Name

/-! ### Attachments -/

/-- An argument list as it is written. -/
structure Arguments where
  /-- The blanks before it. -/
  gap : Blanks
  /-- The text between its parentheses. -/
  inside : Text
  /-- The inner parentheses come in pairs. -/
  isBalanced : IsBalanced inside
  /-- The attachments go on after it. -/
  isPlain : IsPlain inside

namespace Arguments

variable (arguments : Arguments)

/-- The text of an argument list. -/
def text : Text :=
  arguments.gap.val ++ '(' :: (arguments.inside ++ [')'])

/-- The names that are read from an argument list: none, unless it has inner parentheses. -/
def names : List Text :=
  if IsFlat arguments.inside then [] else attachments arguments.inside

/-- An argument list without inner parentheses is passed over, any other one is read as well. -/
theorem attachments_dropArguments (rest : Text) :
  attachments (dropArguments ('(' :: (arguments.inside ++ ')' :: rest)))
    = arguments.names ++ attachments rest
  := by
  rw [names]
  split
  · next hflat => rw [dropArguments_of_isFlat hflat, List.nil_append]
  · next hflat =>
    obtain ⟨front, c, back, hinside, hc, hfront⟩ := exists_eq_append_of_not_isFlat hflat
    obtain rfl : c = '(' := by
      -- a closing parenthesis would come before an opening one
      obtain rfl | rfl := hc
      · rfl
      · have hcount := arguments.isBalanced.fronts (front ++ [')'])
          ⟨back, by rw [hinside, List.append_assoc, List.singleton_append]⟩
        simp [List.count_eq_zero.mpr hfront.1] at hcount
    have hkept : dropArguments ('(' :: (arguments.inside ++ ')' :: rest))
        = '(' :: (arguments.inside ++ ')' :: rest) := by
      rw [hinside, List.append_assoc, List.cons_append, dropArguments_of_nested hfront]
    rw [hkept, attachments_cons_of_not_isNameStart (by decide),
      attachments_append_close arguments.isBalanced.isClosed]

/-- Arguments before a plain text leave it plain. -/
theorem isPlain_text_append {rest : Text} (h : IsPlain rest) :
  IsPlain (arguments.text ++ rest)
  := by
  have hrest : IsPlain (')' :: rest) := h.cons (by decide) (by decide) (by decide)
  have hinside := arguments.isPlain.append hrest rfl
  have hopen : IsPlain ('(' :: (arguments.inside ++ ')' :: rest)) :=
    hinside.cons (by decide) (by decide) (by decide)
  rw [text, List.append_assoc, List.cons_append, List.append_assoc, List.singleton_append]
  apply hopen.blanks_append

/-- No name goes on with arguments. -/
theorem head?_text_append (rest : Text) :
  ∀ c ∈ (arguments.text ++ rest).head?, isNamePart c = false
  := by
  rw [text, List.append_assoc]
  apply head?_blanks_append
  rintro c ⟨⟩
  decide

end Arguments

/-- An attachment of a function as it is written. -/
structure Attachment where
  /-- The blanks before it. -/
  gap : Blanks
  /-- Its name. -/
  name : Name
  /-- Its argument list, if it has one. -/
  arguments : Option Arguments
  /-- The name does not say what is returned. -/
  noReturns : ¬ StandsAlone returnsWord name.val

namespace Attachment

/-- A name is plain. -/
theorem isPlain_name (attachment : Attachment) :
  IsPlain attachment.name.val
  where
  noBody := attachment.name.not_mem (by decide) (by decide)
  noEnd := attachment.name.not_mem (by decide) (by decide)
  noReturns := attachment.noReturns

/-- The text of an attachment. -/
def text (attachment : Attachment) : Text :=
  attachment.gap.val ++ (attachment.name.val
    ++ (attachment.arguments.map Arguments.text).getD [])

/-- The names that are read from an attachment. -/
def names (attachment : Attachment) : List Text :=
  attachment.name.val :: (attachment.arguments.map Arguments.names).getD []

/-- Two attachments do not run together: the first one ends with a parenthesis, or blanks come
before the second one. -/
def IsApart (first second : Attachment) : Prop :=
  first.arguments.isSome = true ∨ second.gap.val ≠ []

/-- The text of a list of attachments. -/
def textOf (list : List Attachment) : Text :=
  list.flatMap text

/-- The text of attachments is that of the first and then that of the others. -/
theorem textOf_cons_append (attachment : Attachment) (list : List Attachment) (rest : Text) :
  textOf (attachment :: list) ++ rest
    = attachment.gap.val ++ (attachment.name.val
      ++ ((attachment.arguments.map Arguments.text).getD [] ++ (textOf list ++ rest)))
  := by simp [textOf, text]

/-- What comes after the name of an attachment does not go on that name. -/
theorem head?_afterName {attachment : Attachment} {list : List Attachment}
    (h : (attachment :: list).IsChain IsApart) (trail : Blanks) :
  ∀ c ∈ ((attachment.arguments.map Arguments.text).getD [] ++ (textOf list ++ trail.val)).head?,
    isNamePart c = false
  := by
  intro c hc
  cases harguments : attachment.arguments with
  | some arguments =>
    rw [harguments] at hc
    apply arguments.head?_text_append _ c hc
  | none =>
    rw [harguments, Option.map_none, Option.getD_none, List.nil_append] at hc
    apply isNamePart_of_isBlank
    cases list with
    | nil => apply isBlank_of_mem trail c (List.mem_of_mem_head? hc)
    | cons next list =>
      rw [List.isChain_cons_cons, IsApart, harguments] at h
      obtain ⟨blank, blanks, hblanks⟩ :=
        List.exists_cons_of_ne_nil (h.1.resolve_left Bool.false_ne_true)
      rw [textOf_cons_append, hblanks] at hc
      cases hc
      apply isBlank_of_mem next.gap
      rw [hblanks]
      apply List.mem_cons_self

section
variable {list : List Attachment} (h : list.IsChain IsApart) (trail : Blanks)
include h

/-- The text of attachments is plain. -/
theorem isPlain_textOf_append :
  IsPlain (textOf list ++ trail.val)
  := by
  induction list with
  | nil => simpa [textOf] using isPlain_nil.blanks_append trail
  | cons attachment list ih =>
    have htail := ih h.tail
    have hafter : IsPlain ((attachment.arguments.map Arguments.text).getD []
        ++ (textOf list ++ trail.val)) := by
      cases attachment.arguments with
      | none => apply htail
      | some arguments => apply arguments.isPlain_text_append htail
    rw [textOf_cons_append]
    apply IsPlain.blanks_append
    apply attachment.isPlain_name.append hafter (startsInWord_of_head? (head?_afterName h trail))

omit h in
/-- The text of attachments starts with no parenthesis. -/
theorem head?_trimStart_textOf (list : List Attachment) :
  (trimStart (textOf list ++ trail.val)).head? ≠ some '('
  := by
  cases list with
  | nil => simp [textOf, trimStart_eq_nil_iff.mpr (isBlank_of_mem trail)]
  | cons next list =>
    obtain ⟨c, rest, hname, hc, -⟩ := next.name.exists_eq_cons
    rw [textOf_cons_append, trimStart_append_of_isBlank (isBlank_of_mem next.gap),
      next.name.trimStart_append, hname]
    rintro ⟨⟩
    cases hc

/-- The names that are read from attachments are those of each of them, in order. -/
theorem attachments_textOf :
  attachments (textOf list ++ trail.val) = list.flatMap names
  := by
  induction list with
  | nil =>
    have htrail := attachments_append_of_isBlank (isBlank_of_mem trail) []
    rw [List.append_nil] at htrail
    rw [textOf, List.flatMap_nil, List.flatMap_nil, List.nil_append, htrail, attachments]
  | cons attachment list ih =>
    have htail := ih h.tail
    rw [textOf_cons_append, attachments_append_of_isBlank (isBlank_of_mem attachment.gap),
      attachment.name.attachments_append (head?_afterName h trail), List.flatMap_cons, names,
      List.cons_append, ← htail]
    cases attachment.arguments with
    | none =>
      rw [Option.map_none, Option.map_none, Option.getD_none, Option.getD_none, List.nil_append,
        List.nil_append, dropArguments_of_head?_ne (head?_trimStart_textOf trail list),
        attachments_trimStart]
    | some arguments =>
      rw [Option.map_some, Option.map_some, Option.getD_some, Option.getD_some, Arguments.text,
        List.append_assoc, trimStart_append_of_isBlank (isBlank_of_mem arguments.gap),
        List.cons_append, trimStart_cons_of_not_isBlank (by decide), List.append_assoc,
        List.singleton_append, arguments.attachments_dropArguments]

end

end Attachment

/-! ### Signature lines -/

theorem afterFront?_append (front rest : Text) :
  afterFront? front (front ++ rest) = some rest
  := by
  rw [afterFront?, if_pos (List.isPrefixOf_iff_prefix.mpr (List.prefix_append front rest)),
    List.drop_left]

/-- Blanks are passed over together. -/
theorem afterBlanks?_append {blanks : Blanks} (h : blanks.val ≠ []) (rest : Text) :
  afterBlanks? (blanks.val ++ rest) = some (trimStart rest)
  := by
  obtain ⟨blanks, hblanks⟩ := blanks
  cases blanks with
  | nil => cases h rfl
  | cons blank blanks =>
    rw [List.all_cons, Bool.and_eq_true, List.all_eq_true] at hblanks
    rw [List.cons_append, afterBlanks?, if_pos hblanks.1, trimStart_append_of_isBlank hblanks.2]

section
variable {stop : Char} {front : Text}

/-- What stands before a character stands there with any front in which it does not occur. -/
theorem before_append (h : stop ∉ front) (rest : Text) :
  before stop (front ++ rest) = front ++ before stop rest
  := by
  apply List.takeWhile_append_of_pos
  intro c hc
  rw [bne_iff_ne]
  rintro rfl
  apply h hc

theorem before_cons_self (stop : Char) (rest : Text) :
  before stop (stop :: rest) = []
  := List.takeWhile_cons_of_neg (by simp)

theorem before_eq_self (h : stop ∉ front) :
  before stop front = front
  := by
  have happend := before_append h []
  rw [List.append_nil] at happend
  rw [happend]
  apply List.append_nil

end

/-- A text in which a word does not stand alone is not cut at it. -/
theorem upToWord_of_not_standsAlone {text : Text} (h : ¬ StandsAlone returnsWord text) :
  upToWord returnsWord text = text
  := by
  rw [← hasWord_iff returnsWord_ne_nil, hasWord, Option.not_isSome_iff_eq_none] at h
  rw [upToWord, h, Option.getD_none]

/-- Where what is returned is said, the attachments end. -/
theorem upToWord_returns {front : Text} (h : IsPlain front) (rest : Text) :
  upToWord returnsWord (before ';' (before '\x7b' (front ++ ' ' :: (returnsWord ++ ' ' :: rest))))
    = front ++ [' ']
  := by
  have hbefore {stop : Char} (hfront : stop ∉ front) (hword : stop ∉ ' ' :: (returnsWord ++ [' ']))
      (rest : Text) : before stop (front ++ ' ' :: (returnsWord ++ ' ' :: rest))
        = front ++ ' ' :: (returnsWord ++ ' ' :: before stop rest) := by
    have happend : stop ∉ front ++ ' ' :: (returnsWord ++ [' ']) := by
      rw [List.mem_append, not_or]
      exact ⟨hfront, hword⟩
    simpa using before_append happend rest
  rw [hbefore h.noBody (by decide), hbefore h.noEnd (by decide), upToWord,
    beforeWord?_append isWord_of_mem_returnsWord (by decide) returnsWord_ne_nil h.noReturns,
    beforeWord?_word_append returnsWord_ne_nil rfl]
  rfl

/-- A signature line as it is written. -/
structure Written where
  /-- The blanks before the name. -/
  beforeName : Blanks
  /-- There are blanks before the name. -/
  isApart_name : beforeName.val ≠ []
  /-- The name of the function. -/
  name : Name
  /-- The blanks before the parameter list. -/
  beforeParameters : Blanks
  /-- The text between the parentheses of the parameter list. -/
  parameters : Text
  /-- The parentheses in the parameter list come in pairs. -/
  isBalanced : IsBalanced parameters
  /-- The attachments. -/
  attachments : List Attachment
  /-- The attachments do not run together. -/
  isApart_attachments : attachments.IsChain Attachment.IsApart
  /-- What is returned, if it is said. -/
  results : Option Text
  /-- The blanks before the body. -/
  beforeBody : Blanks
  /-- The text after the brace that opens the body. -/
  body : Text

namespace Written

variable (written : Written)

/-- The text between the attachments and the body. -/
def resultsText : Text :=
  (written.results.map fun results => " returns (".toList ++ results ++ [')']).getD []

/-- The text of a signature line. -/
def line : Line :=
  "function".toList ++ (written.beforeName.val ++ (written.name.val ++ (written.beforeParameters.val
    ++ '(' :: (written.parameters ++ ')' :: (Attachment.textOf written.attachments
      ++ (written.resultsText ++ (written.beforeBody.val ++ '\x7b' :: written.body)))))))

/-- The name of the function is read from its line. -/
theorem functionName_line :
  functionName written.line = String.ofList written.name.val
  := by
  unfold line
  generalize written.parameters ++ ')' :: _ = rest
  have hafter : ∀ c ∈ (written.beforeParameters.val ++ '(' :: rest).head?,
      isNamePart c = false := by
    apply head?_blanks_append
    rintro c ⟨⟩
    decide
  rw [functionName, afterFront?_append, Option.bind_some,
    afterBlanks?_append written.isApart_name, written.name.trimStart_append]
  simp only [written.name.nameAtFront_append hafter]

/-- The scan for the parameter list stops right before the attachments. -/
theorem afterParameters?_line :
  afterParameters? written.line = some (Attachment.textOf written.attachments
    ++ (written.resultsText ++ (written.beforeBody.val ++ '\x7b' :: written.body)))
  := by
  unfold line
  generalize Attachment.textOf written.attachments ++ _ = rest
  have hblanks (blanks : Blanks) : '(' ∉ blanks.val := by
    intro hmem
    cases isBlank_of_mem blanks '(' hmem
  have hfront : '(' ∉ "function".toList ++ (written.beforeName.val ++ (written.name.val
      ++ written.beforeParameters.val)) := by
    simp only [List.mem_append, not_or]
    exact ⟨by decide, hblanks _, written.name.not_mem (by decide) (by decide), hblanks _⟩
  rw [← written.isBalanced.afterClose?_eq, ← afterParameters?_append hfront]
  simp only [List.append_assoc]

/-- The text that the attachments are read from ends with the blanks behind them. -/
theorem attachmentText_line :
  ∃ trail : Blanks, attachmentText written.line
    = Attachment.textOf written.attachments ++ trail.val
  := by
  have hplain := Attachment.isPlain_textOf_append written.isApart_attachments
  rw [attachmentText, afterParameters?_line, resultsText]
  cases written.results with
  | none =>
    use written.beforeBody
    have hpart := hplain written.beforeBody
    have hbody : before '\x7b' (Attachment.textOf written.attachments
        ++ (written.beforeBody.val ++ '\x7b' :: written.body))
        = Attachment.textOf written.attachments ++ written.beforeBody.val := by
      rw [← List.append_assoc, before_append hpart.noBody, before_cons_self, List.append_nil]
    simp only [Option.map_none, Option.getD_none, List.nil_append, hbody]
    rw [before_eq_self hpart.noEnd]
    apply upToWord_of_not_standsAlone hpart.noReturns
  | some results =>
    use ⟨[' '], rfl⟩
    have hpart := hplain ⟨[], rfl⟩
    rw [List.append_nil] at hpart
    apply upToWord_returns hpart

/-- The modifiers that are read from a signature line. -/
theorem modifiers_line :
  modifiers written.line = sortedNames (((written.attachments.flatMap Attachment.names).map
    String.ofList).filter fun name => !(keywords.contains name))
  := by
  obtain ⟨trail, htrail⟩ := written.attachmentText_line
  rw [modifiers, htrail, Attachment.attachments_textOf written.isApart_attachments]

end Written

end ContractLint.Signature
