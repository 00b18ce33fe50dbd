import Mathlib.Tactic.ByContra
import Mathlib.Tactic.Use
import ContractLint.Text.Utf8

/-!
# What decoding does

A decoded text is put together from the characters whose octets are found one after the other.
Where no character is found, the longest run of octets with which some character begins is replaced,
or one octet if there is no such run.  `Decoded` says this without the machine that reads octet by
octet, and `decode_eq_iff` says that the machine does it.

The link between the two is `Begun`: once the machine is inside a character, the octets read so far
are the front of a character, and the next octet fits exactly when they still are with it.
-/

namespace ContractLint.Utf8

/-! ### Steps of the machine -/

section
variable {owed low high value octet : Nat}

/-- An octet that does not fit gives a replacement and starts anew. -/
theorem step_of_not_fits (h : ¬ (low ≤ octet ∧ octet ≤ high)) :
  step (.inside owed low high value) octet
    = (replacement :: (start octet).1, (start octet).2)
  := if_neg h

/-- The last octet of a character completes it. -/
theorem step_last (hlow : low ≤ octet) (hhigh : octet ≤ high) :
  step (.inside 0 low high value) octet = ([Char.ofNat (64 * value + octet % 64)], .ready)
  := if_pos ⟨hlow, hhigh⟩

/-- An octet that fits brings a character one octet nearer to its end. -/
theorem step_next (hlow : low ≤ octet) (hhigh : octet ≤ high) :
  step (.inside (owed + 1) low high value) octet
    = ([], .inside owed 0x80 0xBF (64 * value + octet % 64))
  := if_pos ⟨hlow, hhigh⟩

theorem decodeFrom_cons (state : State) (octet : Nat) (rest : List Nat) :
  decodeFrom state (octet :: rest)
    = (step state octet).1 ++ decodeFrom (step state octet).2 rest
  := by cases state <;> rfl

theorem decode_cons (octet : Nat) (rest : List Nat) :
  decode (octet :: rest) = (start octet).1 ++ decodeFrom (start octet).2 rest
  := rfl

/-! ### First octets -/

/-- An octet below 128 is a character of its own. -/
theorem start_one (h : octet < 0x80) :
  start octet = ([Char.ofNat octet], .ready)
  := if_pos h

/-- The first octet of a character of two octets. -/
theorem start_two (hlow : 0xC2 ≤ octet) (hhigh : octet < 0xE0) :
  start octet = ([], .inside 0 0x80 0xBF (octet % 32))
  := by rw [start, if_neg (by omega), if_neg (by omega), if_pos hhigh]

/-- The first octet of a character of three octets, after which some second octets do not fit. -/
theorem start_three (hlow : 0xE0 ≤ octet) (hhigh : octet < 0xF0) :
  start octet = ([], .inside 1 (if octet = 0xE0 then 0xA0 else 0x80)
    (if octet = 0xED then 0x9F else 0xBF) (octet % 16))
  := by
  rw [start, if_neg (by omega), if_neg (by omega), if_neg (by omega)]
  grind

/-- The first octet of a character of four octets, after which some second octets do not fit. -/
theorem start_four (hlow : 0xF0 ≤ octet) (hhigh : octet ≤ 0xF4) :
  start octet = ([], .inside 2 (if octet = 0xF0 then 0x90 else 0x80)
    (if octet = 0xF4 then 0x8F else 0xBF) (octet % 8))
  := by
  rw [start, if_neg (by omega), if_neg (by omega), if_neg (by omega)]
  grind

/-- No character starts with any other octet. -/
theorem start_other (h : 0x80 ≤ octet ∧ octet < 0xC2 ∨ 0xF4 < octet) :
  start octet = ([replacement], .ready)
  := by grind [start]

end

/-! ### Completing a character -/

/-- Octets with which the machine goes from inside a character to its end, and the number of that
character. -/
inductive CompletedBy : State → List Nat → Nat → Prop where
  | last {low high value octet number : Nat} (hlow : low ≤ octet) (hhigh : octet ≤ high)
      (hnumber : 64 * value + octet % 64 = number) :
      CompletedBy (.inside 0 low high value) [octet] number
  | next {owed low high value octet number : Nat} {octets : List Nat} (hlow : low ≤ octet)
      (hhigh : octet ≤ high)
      (h : CompletedBy (.inside owed 0x80 0xBF (64 * value + octet % 64)) octets number) :
      CompletedBy (.inside (owed + 1) low high value) (octet :: octets) number

/-- Octets that complete a character are decoded to it, and what follows is decoded on its own. -/
theorem decodeFrom_of_completedBy {state : State} {octets : List Nat} {number : Nat}
    (h : CompletedBy state octets number) (rest : List Nat) :
  decodeFrom state (octets ++ rest) = Char.ofNat number :: decode rest
  := by
  induction h with
  | last hlow hhigh hnumber =>
    rw [List.singleton_append, decodeFrom_cons, step_last hlow hhigh, hnumber]
    rfl
  | next hlow hhigh _ ih =>
    rw [List.cons_append, decodeFrom_cons, step_next hlow hhigh]
    apply ih

/-- Every octet that fits can be followed by others that complete the character. -/
theorem exists_completedBy {low high octet : Nat} (hlow : low ≤ octet) (hhigh : octet ≤ high)
    (owed value : Nat) :
  ∃ octets number, CompletedBy (.inside owed low high value) (octet :: octets) number
  := by
  induction owed generalizing low high octet value with
  | zero => exact ⟨[], _, .last hlow hhigh rfl⟩
  | succ owed ih =>
    obtain ⟨octets, number, h⟩ :=
      ih (Nat.le_refl 0x80) (by decide : 0x80 ≤ 0xBF) (64 * value + octet % 64)
    exact ⟨0x80 :: octets, number, .next hlow hhigh h⟩

/-- A character has one octet, or its first octet leads into a state that the others complete. -/
theorem encodeChar_cases (c : Char) :
  c.toNat < 0x80 ∧ encodeChar c = [c.toNat]
  ∨ ∃ first octets, encodeChar c = first :: octets ∧ (start first).1 = []
      ∧ CompletedBy (start first).2 octets c.toNat
  := by
  have hvalid : c.toNat < 0xD800 ∨ 0xDFFF < c.toNat ∧ c.toNat < 0x110000 := c.valid
  rw [encodeChar]
  by_cases hone : c.toNat < 0x80
  · left
    use hone, if_pos hone
  right
  rw [if_neg hone]
  by_cases htwo : c.toNat < 0x800
  · use 0xC0 + c.toNat / 64, [0x80 + c.toNat % 64], if_pos htwo
    rw [start_two (by omega) (by omega)]
    use rfl
    apply CompletedBy.last (by omega) (by omega) (by omega)
  rw [if_neg htwo]
  by_cases hthree : c.toNat < 0x10000
  · use 0xE0 + c.toNat / 4096, [0x80 + c.toNat / 64 % 64, 0x80 + c.toNat % 64], if_pos hthree
    rw [start_three (by omega) (by omega)]
    use rfl
    apply CompletedBy.next (by split <;> omega) (by split <;> omega)
    apply CompletedBy.last (by omega) (by omega) (by omega)
  · use 0xF0 + c.toNat / 262144,
      [0x80 + c.toNat / 4096 % 64, 0x80 + c.toNat / 64 % 64, 0x80 + c.toNat % 64], if_neg hthree
    rw [start_four (by omega) (by omega)]
    use rfl
    apply CompletedBy.next (by split <;> omega) (by split <;> omega)
    apply CompletedBy.next (by omega) (by omega)
    apply CompletedBy.last (by omega) (by omega) (by omega)

theorem encodeChar_ne_nil (c : Char) :
  encodeChar c ≠ []
  := by
  obtain ⟨-, h⟩ | ⟨first, octets, h, -⟩ := encodeChar_cases c
  · simp [h]
  · simp [h]

/-- The octets of a character are decoded to the character. -/
theorem decode_encodeChar_append (c : Char) (rest : List Nat) :
  decode (encodeChar c ++ rest) = c :: decode rest
  := by
  obtain ⟨hone, hencoded⟩ | ⟨first, octets, hencoded, hstart, hcompleted⟩ := encodeChar_cases c
  · rw [hencoded, List.singleton_append, decode_cons, start_one hone, Char.ofNat_toNat]
    rfl
  · rw [hencoded, List.cons_append, decode_cons, hstart, decodeFrom_of_completedBy hcompleted,
      Char.ofNat_toNat]
    rfl

/-- A text is what its encoding is decoded to. -/
theorem decode_encode (text : Text) :
  decode (encode text) = text
  := by
  induction text with
  | nil => rfl
  | cons c text ih =>
    rw [encode, List.flatMap_cons, decode_encodeChar_append]
    apply congrArg (c :: ·) ih

/-! ### Begun characters -/

/-- The machine has read the octets `front`, which are the front of a character, and those that
complete the state are the rest of one. -/
structure Begun (front : List Nat) (state : State) : Prop where
  /-- Something has been read. -/
  ne_nil : front ≠ []
  /-- The machine has come to the state. -/
  reached : ∀ rest, decode (front ++ rest) = decodeFrom state rest
  /-- The state can be completed. -/
  completable : ∃ octets number, CompletedBy state octets number
  /-- Whatever completes the state completes a character. -/
  completed : ∀ octets number, CompletedBy state octets number →
    ∃ c, encodeChar c = front ++ octets ∧ c.toNat = number

/-- Every number outside of the surrogates is that of a character. -/
theorem exists_char {number : Nat}
    (h : number < 0xD800 ∨ 0xDFFF < number ∧ number < 0x110000) :
  ∃ c : Char, c.toNat = number
  := ⟨Char.ofNatAux number h, rfl⟩

theorem encodeChar_of_lt {octet : Nat} (h : octet < 0x80) :
  encodeChar (Char.ofNat octet) = [octet]
  := by
  obtain ⟨c, rfl⟩ := exists_char (.inl (Nat.lt_trans h (by decide : 0x80 < 0xD800)))
  rw [Char.ofNat_toNat, encodeChar, if_pos h]

section
variable {octet : Nat}

/-- An octet begins characters if what completes it belongs to characters that start with it. -/
theorem begun_of_start {owed low high value : Nat}
    (hstart : start octet = ([], .inside owed low high value)) (hle : low ≤ high)
    (h : ∀ octets number, CompletedBy (.inside owed low high value) octets number →
      ∃ c, encodeChar c = octet :: octets ∧ c.toNat = number) :
  Begun [octet] (start octet).2
  := by
  rw [hstart]
  refine ⟨List.cons_ne_nil octet [], ?_, ?_, h⟩
  · intro rest
    rw [List.singleton_append, decode_cons, hstart]
    rfl
  · obtain ⟨octets, number, hcompleted⟩ := exists_completedBy (Nat.le_refl low) hle owed value
    exact ⟨low :: octets, number, hcompleted⟩

theorem begun_two (hlow : 0xC2 ≤ octet) (hhigh : octet < 0xE0) :
  Begun [octet] (start octet).2
  := by
  apply begun_of_start (start_two hlow hhigh) (by decide)
  intro octets number h
  cases h with
  | last hlow' hhigh' hnumber =>
    obtain ⟨c, rfl⟩ := exists_char (by omega : number < 0xD800 ∨ _)
    use c
    rw [encodeChar, if_neg (by omega), if_pos (by omega)]
    simp only [List.cons.injEq, and_true]
    omega

-- The bounds on the second octet leave out the numbers that two octets can write, and surrogates.
theorem begun_three (hlow : 0xE0 ≤ octet) (hhigh : octet < 0xF0) :
  Begun [octet] (start octet).2
  := by
  apply begun_of_start (start_three hlow hhigh) (by split <;> split <;> omega)
  intro octets number h
  cases h with
  | @next _ _ _ _ second _ _ hlow' hhigh' h =>
    have hsecond : 0x80 ≤ second ∧ second ≤ 0xBF ∧ (octet = 0xE0 → 0xA0 ≤ second)
      ∧ (octet = 0xED → second ≤ 0x9F) := by grind
    cases h with
    | last hlow'' hhigh'' hnumber =>
      obtain ⟨c, rfl⟩ := exists_char (by omega : number < 0xD800 ∨ _)
      use c
      rw [encodeChar, if_neg (by omega), if_neg (by omega), if_pos (by omega)]
      simp only [List.cons.injEq, and_true]
      omega

-- Here they leave out the numbers that three octets can write, and those above the last character.
theorem begun_four (hlow : 0xF0 ≤ octet) (hhigh : octet ≤ 0xF4) :
  Begun [octet] (start octet).2
  := by
  apply begun_of_start (start_four hlow hhigh) (by split <;> split <;> omega)
  intro octets number h
  cases h with
  | @next _ _ _ _ second _ _ hlow' hhigh' h =>
    have hsecond : 0x80 ≤ second ∧ second ≤ 0xBF ∧ (octet = 0xF0 → 0x90 ≤ second)
      ∧ (octet = 0xF4 → second ≤ 0x8F) := by grind
    cases h with
    | next hlow'' hhigh'' h =>
      cases h with
      | last hlow''' hhigh''' hnumber =>
        obtain ⟨c, rfl⟩ := exists_char (by omega : number < 0xD800 ∨ _)
        use c
        rw [encodeChar, if_neg (by omega), if_neg (by omega), if_neg (by omega)]
        simp only [List.cons.injEq, and_true]
        omega

end

/-- Octets with which some character begins. -/
def Begins (octets : List Nat) : Prop :=
  ∃ c, octets <+: encodeChar c

/-- What begins at the front of a beginning is a beginning. -/
theorem Begins.of_prefix {octets more : List Nat} (h : Begins more) (hfront : octets <+: more) :
  Begins octets
  := by
  obtain ⟨c, hc⟩ := h
  use c
  apply hfront.trans hc

/-- An octet is a character by itself, begins none and is replaced, or begins a longer one. -/
theorem start_cases (octet : Nat) :
  octet < 0x80
  ∨ start octet = ([replacement], .ready) ∧ ¬ Begins [octet]
  ∨ Begun [octet] (start octet).2
  := by
  obtain hone | hother | htwo | hthree | hfour : octet < 0x80
      ∨ (0x80 ≤ octet ∧ octet < 0xC2 ∨ 0xF4 < octet) ∨ (0xC2 ≤ octet ∧ octet < 0xE0)
      ∨ (0xE0 ≤ octet ∧ octet < 0xF0) ∨ (0xF0 ≤ octet ∧ octet ≤ 0xF4) := by omega
  · left
    apply hone
  · right
    left
    use start_other hother
    rintro ⟨c, more, hbegins⟩
    obtain ⟨hone, hencoded⟩ | ⟨first, octets, hencoded, hstart, -⟩ := encodeChar_cases c
    · rw [hencoded, List.singleton_append, List.cons.injEq] at hbegins
      omega
    · rw [hencoded, List.singleton_append, List.cons.injEq] at hbegins
      rw [← hbegins.1, start_other hother] at hstart
      cases hstart
  · right
    right
    apply begun_two htwo.1 htwo.2
  · right
    right
    apply begun_three hthree.1 hthree.2
  · right
    right
    apply begun_four hfour.1 hfour.2

theorem Begun.exists_inside {front : List Nat} {state : State} (h : Begun front state) :
  ∃ owed low high value, state = .inside owed low high value
  := by
  obtain ⟨octets, number, hcompleted⟩ := h.completable
  cases hcompleted with
  | last => exact ⟨_, _, _, _, rfl⟩
  | next => exact ⟨_, _, _, _, rfl⟩

/-! ### No octet is lost -/

/-- Inside a character, something always comes out. -/
theorem decodeFrom_inside_ne_nil (owed low high value : Nat) (octets : List Nat) :
  decodeFrom (.inside owed low high value) octets ≠ []
  := by
  induction octets generalizing owed low high value with
  | nil => simp [decodeFrom]
  | cons octet octets ih =>
    rw [decodeFrom_cons]
    by_cases hfits : low ≤ octet ∧ octet ≤ high
    · cases owed with
      | zero => simp [step_last hfits.1 hfits.2]
      | succ owed =>
        rw [step_next hfits.1 hfits.2]
        apply ih
    · simp [step_of_not_fits hfits]

theorem decode_ne_nil {octets : List Nat} (h : octets ≠ []) :
  decode octets ≠ []
  := by
  obtain ⟨octet, rest, rfl⟩ := List.exists_cons_of_ne_nil h
  obtain hone | ⟨hother, -⟩ | hbegun := start_cases octet
  · simp [decode_cons, start_one hone]
  · simp [decode_cons, hother]
  · obtain ⟨owed, low, high, value, hinside⟩ := hbegun.exists_inside
    rw [hinside] at hbegun
    rw [← List.singleton_append, hbegun.reached]
    apply decodeFrom_inside_ne_nil

/-- The octets of a character do not begin with those of another one. -/
theorem eq_nil_of_encodeChar_append {c d : Char} {more : List Nat}
    (h : encodeChar d = encodeChar c ++ more) :
  more = []
  := by
  have hdecoded : d :: decode [] = c :: decode more := by
    rw [← decode_encodeChar_append, List.append_nil, h, decode_encodeChar_append]
  by_contra hne
  apply decode_ne_nil hne
  apply (List.cons.inj hdecoded).2.symm

namespace Begun

variable {front : List Nat} {state : State} {owed low high value octet : Nat}

/-- Octets that have begun a character are the beginning of one. -/
theorem begins (h : Begun front state) :
  Begins front
  := by
  obtain ⟨octets, number, hcompleted⟩ := h.completable
  obtain ⟨c, hencoded, -⟩ := h.completed octets number hcompleted
  use c, octets, hencoded.symm

/-- No whole character stands at the front of one that was only begun. -/
theorem not_encodeChar_front (h : Begun front state) (c : Char) :
  ¬ encodeChar c <+: front
  := by
  rintro ⟨more, rfl⟩
  obtain ⟨octets, number, hcompleted⟩ := h.completable
  obtain ⟨d, hencoded, -⟩ := h.completed octets number hcompleted
  rw [List.append_assoc] at hencoded
  obtain rfl := (List.append_eq_nil_iff.mp (eq_nil_of_encodeChar_append hencoded)).2
  cases hcompleted

/-- One more octet that fits keeps a character begun. -/
theorem next (h : Begun front (.inside (owed + 1) low high value)) (hlow : low ≤ octet)
    (hhigh : octet ≤ high) :
  Begun (front ++ [octet]) (.inside owed 0x80 0xBF (64 * value + octet % 64))
  where
  ne_nil := by simp
  reached rest := by
    rw [List.append_assoc, h.reached, List.singleton_append, decodeFrom_cons,
      step_next hlow hhigh]
    rfl
  completable := by
    obtain ⟨octets, number, hcompleted⟩ := exists_completedBy (Nat.le_refl 0x80)
      (by decide : 0x80 ≤ 0xBF) owed (64 * value + octet % 64)
    exact ⟨_, number, hcompleted⟩
  completed octets number hcompleted := by
    rw [List.append_assoc]
    apply h.completed
    apply CompletedBy.next hlow hhigh hcompleted

section
variable (h : Begun front (.inside owed low high value))
include h

/-- An octet fits exactly when a character begins with what is read so far and with it. -/
theorem begins_concat_iff :
  Begins (front ++ [octet]) ↔ low ≤ octet ∧ octet ≤ high
  := by
  constructor
  · rintro ⟨c, more, hencoded⟩
    by_contra hfits
    -- the machine would give a replacement and then read the octet again, two characters in all
    have hdecoded : decode (front ++ octet :: more) = c :: decode [] := by
      rw [← decode_encodeChar_append, List.append_nil, ← hencoded, List.append_assoc]
      rfl
    rw [h.reached, decodeFrom_cons, step_of_not_fits hfits, List.cons_append] at hdecoded
    apply decode_ne_nil (List.cons_ne_nil octet more)
    apply (List.cons.inj hdecoded).2
  · rintro ⟨hlow, hhigh⟩
    obtain ⟨octets, number, hcompleted⟩ := exists_completedBy hlow hhigh owed value
    obtain ⟨c, hencoded, -⟩ := h.completed _ number hcompleted
    use c, octets
    rw [hencoded, List.append_assoc]
    rfl

/-- An octet that does not go on with a character gives a replacement for what was begun. -/
theorem decode_append_of_not_begins (hoctet : ¬ Begins (front ++ [octet])) (rest : List Nat) :
  decode (front ++ octet :: rest) = replacement :: decode (octet :: rest)
  := by
  rw [h.begins_concat_iff] at hoctet
  rw [h.reached, decodeFrom_cons, step_of_not_fits hoctet]
  rfl

end

end Begun

/-! ### Replaced octets -/

/-- The octets at the front of others that are replaced by one character.  There no octets are those
of a character, and so the longest run is taken with which some character begins; one octet is taken
at any rate. -/
structure IsMaximalSubpart (part rest : List Nat) : Prop where
  /-- Something is taken. -/
  ne_nil : part ≠ []
  /-- At the front there is no character. -/
  unconvertible : ∀ c, ¬ encodeChar c <+: part ++ rest
  /-- A character begins with what is taken, or it is one octet. -/
  initial : Begins part ∨ part.length = 1
  /-- Nothing longer is of this kind. -/
  longest : ∀ longer, longer <+: part ++ rest → Begins longer ∨ longer.length = 1 →
    longer.length ≤ part.length

namespace IsMaximalSubpart

variable {part rest : List Nat}

/-- It is enough to look one octet ahead. -/
theorem of_not_begins (hne : part ≠ []) (hpart : Begins part ∨ part.length = 1)
    (hencoded : ∀ c, ¬ encodeChar c <+: part)
    (h : ∀ octet more, rest = octet :: more → ¬ Begins (part ++ [octet])) :
  IsMaximalSubpart part rest
  := by
  have hlongest : ∀ longer, longer <+: part ++ rest → Begins longer →
      longer.length ≤ part.length := by
    intro longer hlonger hbegins
    by_contra hlt
    obtain ⟨more, rfl⟩ : part <+: longer :=
      List.prefix_of_prefix_length_le (List.prefix_append part rest) hlonger (by omega)
    rw [List.prefix_append_right_inj] at hlonger
    cases more with
    | nil => simp at hlt
    | cons octet more =>
      obtain ⟨after, rfl⟩ := hlonger
      apply h octet (more ++ after) rfl
      apply hbegins.of_prefix
      rw [List.prefix_append_right_inj]
      apply List.prefix_append [octet] more
  refine ⟨hne, ?_, hpart, ?_⟩
  · intro c hc
    apply hencoded c
    apply List.prefix_of_prefix_length_le hc (List.prefix_append part rest)
    apply hlongest _ hc ⟨c, List.prefix_rfl⟩
  · rintro longer hlonger (hbegins | hone)
    · apply hlongest longer hlonger hbegins
    · rw [hone]
      apply List.length_pos_iff.mpr hne

/-- The octets that are replaced are the same when some of those after them are missing. -/
theorem of_prefix (h : IsMaximalSubpart part rest) {less : List Nat} (hless : less <+: rest) :
  IsMaximalSubpart part less
  := by
  have hfront : part ++ less <+: part ++ rest := (List.prefix_append_right_inj part).mpr hless
  refine ⟨h.ne_nil, ?_, h.initial, ?_⟩
  · intro c hc
    apply h.unconvertible c (hc.trans hfront)
  · intro longer hlonger
    apply h.longest longer (hlonger.trans hfront)

/-- The part that is replaced is determined by the octets. -/
theorem append_inj {part' rest' : List Nat} (h : IsMaximalSubpart part rest)
    (h' : IsMaximalSubpart part' rest') (heq : part ++ rest = part' ++ rest') :
  part = part' ∧ rest = rest'
  := by
  apply List.append_inj heq
  apply Nat.le_antisymm
  · apply h'.longest part _ h.initial
    rw [← heq]
    apply List.prefix_append
  · apply h.longest part' _ h'.initial
    rw [heq]
    apply List.prefix_append

end IsMaximalSubpart

/-- At the front of octets that are not all read there is a character or a part that is replaced. -/
theorem Begun.front_cases {front : List Nat} {state : State} (h : Begun front state)
    (rest : List Nat) :
  (∃ c more, front ++ rest = encodeChar c ++ more)
  ∨ ∃ part more, front ++ rest = part ++ more ∧ IsMaximalSubpart part more
      ∧ decode (front ++ rest) = replacement :: decode more
  := by
  induction rest generalizing front state with
  | nil =>
    right
    use front, [], rfl
    obtain ⟨owed, low, high, value, rfl⟩ := h.exists_inside
    constructor
    · apply IsMaximalSubpart.of_not_begins h.ne_nil (.inl h.begins) h.not_encodeChar_front
      simp
    · rw [h.reached]
      rfl
  | cons octet rest ih =>
    obtain ⟨owed, low, high, value, rfl⟩ := h.exists_inside
    by_cases hfits : low ≤ octet ∧ octet ≤ high
    · cases owed with
      | zero =>
        left
        obtain ⟨c, hencoded, -⟩ := h.completed [octet] _ (.last hfits.1 hfits.2 rfl)
        use c, rest
        rw [hencoded, List.append_assoc]
        rfl
      | succ owed =>
        have hnext := ih (h.next hfits.1 hfits.2)
        rw [List.append_assoc, List.singleton_append] at hnext
        apply hnext
    · rw [← h.begins_concat_iff] at hfits
      right
      use front, octet :: rest, rfl
      constructor
      · apply IsMaximalSubpart.of_not_begins h.ne_nil (.inl h.begins) h.not_encodeChar_front
        rintro _ _ ⟨⟩
        apply hfits
      · apply h.decode_append_of_not_begins hfits

/-- At the front of octets stands a character, or a part that is replaced. -/
theorem front_cases {octets : List Nat} (h : octets ≠ []) :
  (∃ c rest, octets = encodeChar c ++ rest)
  ∨ ∃ part rest, octets = part ++ rest ∧ IsMaximalSubpart part rest
      ∧ decode octets = replacement :: decode rest
  := by
  obtain ⟨octet, rest, rfl⟩ := List.exists_cons_of_ne_nil h
  obtain hone | ⟨hother, hbegins⟩ | hbegun := start_cases octet
  · left
    use Char.ofNat octet, rest
    rw [encodeChar_of_lt hone]
    rfl
  · right
    use [octet], rest, rfl
    constructor
    · apply IsMaximalSubpart.of_not_begins (List.cons_ne_nil octet []) (.inr rfl)
      · intro c hc
        have hencoded : encodeChar c = [octet] :=
          hc.eq_of_length_le (List.length_pos_iff.mpr (encodeChar_ne_nil c))
        apply hbegins
        use c, []
        rw [List.append_nil, hencoded]
      · intro next more _ hnext
        apply hbegins
        apply hnext.of_prefix
        apply List.prefix_append
    · rw [decode_cons, hother]
      rfl
  · apply hbegun.front_cases rest

/-! ### The decoded text -/

/-- The text of octets: one character after the other, and a replacement for every maximal part
where there is none. -/
inductive Decoded : List Nat → Text → Prop where
  | nil : Decoded [] []
  | char (c : Char) {rest : List Nat} {text : Text} :
      Decoded rest text → Decoded (encodeChar c ++ rest) (c :: text)
  | replaced {part rest : List Nat} {text : Text} :
      IsMaximalSubpart part rest → Decoded rest text →
        Decoded (part ++ rest) (replacement :: text)

/-- A part that is replaced gives one replacement. -/
theorem decode_of_isMaximalSubpart {part rest : List Nat} (h : IsMaximalSubpart part rest) :
  decode (part ++ rest) = replacement :: decode rest
  := by
  obtain ⟨c, more, heq⟩ | ⟨part', rest', heq, h', hdecode⟩ :=
    front_cases (List.append_ne_nil_of_left_ne_nil h.ne_nil rest)
  · cases h.unconvertible c ⟨more, heq.symm⟩
  · rw [hdecode, (h.append_inj h' heq).2]

/-- The decoder gives a text that the octets stand for. -/
theorem decoded_decode (octets : List Nat) :
  Decoded octets (decode octets)
  := by
  induction hlength : octets.length using Nat.strongRecOn generalizing octets with
  | ind length ih =>
    by_cases hnil : octets = []
    · subst hnil
      apply Decoded.nil
    obtain ⟨c, rest, rfl⟩ | ⟨part, rest, rfl, hpart, hdecode⟩ := front_cases hnil
    · have hpos := List.length_pos_iff.mpr (encodeChar_ne_nil c)
      rw [List.length_append] at hlength
      rw [decode_encodeChar_append]
      apply Decoded.char c
      apply ih rest.length (by omega) rest rfl
    · have hpos := List.length_pos_iff.mpr hpart.ne_nil
      rw [List.length_append] at hlength
      rw [hdecode]
      apply Decoded.replaced hpart
      apply ih rest.length (by omega) rest rfl

theorem decode_eq_iff {octets : List Nat} {text : Text} :
  decode octets = text ↔ Decoded octets text
  := by
  constructor
  · rintro rfl
    apply decoded_decode
  · intro h
    induction h with
    | nil => rfl
    | char c _ ih => rw [decode_encodeChar_append, ih]
    | replaced hpart _ ih => rw [decode_of_isMaximalSubpart hpart, ih]

end ContractLint.Utf8
