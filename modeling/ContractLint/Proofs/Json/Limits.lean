import ContractLint.Json.Encoding

/-!
# Reading within limits

A limit on how deep arrays and objects may be nested never changes what is read: a text is read as
it is without the limit, or it is nested too deep.  This holds for octets as well, and those of an
ASCII text are read as the text itself.
-/

namespace ContractLint.Json

/-! ### Limits -/

namespace Limits

/-- The limits without one on nesting. -/
def unnested (limits : Limits) : Limits :=
  { limits with depth := none }

@[simp] theorem enter?_unnested (limits : Limits) :
  limits.unnested.enter? = some limits.unnested
  := rfl

/-- Inside an array or an object there are the same limits, but for the one on nesting. -/
theorem unnested_of_enter? {limits inner : Limits} (h : limits.enter? = some inner) :
  inner.unnested = limits.unnested
  := by
  rw [enter?] at h
  split at h
  · cases h
    rfl
  · cases h
  · cases h
    rfl

end Limits

/-- What is not nested is read in the same way without a limit on the depth. -/
theorem readAtom_unnested (limits : Limits) (text : RawText) :
  readAtom limits.unnested text = readAtom limits text
  := rfl

/-! ### Readers -/

/-- Something is read as it is without a limit on nesting, or it is nested too deep. -/
def AgreesUnlessDeep {α : Type} (limited unlimited : Except ReadFault α) : Prop :=
  limited = .error .tooDeep ∨ limited = unlimited

namespace AgreesUnlessDeep

variable {α β : Type}

theorem refl (result : Except ReadFault α) :
  AgreesUnlessDeep result result
  := .inr rfl

theorem map {limited unlimited : Except ReadFault α} (h : AgreesUnlessDeep limited unlimited)
    (f : α → β) :
  AgreesUnlessDeep (limited.map f) (unlimited.map f)
  := by
  obtain h | h := h
  · left
    rw [h]
    rfl
  · right
    rw [h]

end AgreesUnlessDeep

/-- With so many steps inside each other, a limit on nesting shows in nothing but that something is
nested too deep. -/
structure ReadersAgree (fuel : Nat) : Prop where
  /-- Values are read as without the limit. -/
  value : ∀ limits text,
    AgreesUnlessDeep (readValue fuel limits text) (readValue fuel limits.unnested text)
  /-- The items of arrays are read as without the limit. -/
  items : ∀ limits text,
    AgreesUnlessDeep (readItems fuel limits text) (readItems fuel limits.unnested text)
  /-- The fields of objects are read as without the limit. -/
  fields : ∀ limits fields text,
    AgreesUnlessDeep (readFields fuel limits fields text)
      (readFields fuel limits.unnested fields text)

namespace ReadersAgree

variable {fuel : Nat} (h : ReadersAgree fuel) (limits : Limits) (text : RawText)

include h

/-- A value is read in the same way without a limit on the depth, if the readers with less fuel
agree. -/
theorem value_succ :
  AgreesUnlessDeep (readValue (fuel + 1) limits text) (readValue (fuel + 1) limits.unnested text)
  := by
  generalize hsteps : fuel + 1 = steps
  fun_cases readValue steps limits text with
  | case1 => cases hsteps
  | case2 => exact .refl _
  | case3 | case6 => exact .inl rfl
  | case4 _ _ _ _ _ _ hclosed | case7 _ _ _ _ _ _ hclosed =>
    right
    simp only [readValue, Limits.enter?_unnested, hclosed]
  | case5 _ _ _ inner henter =>
    cases hsteps
    rw [readValue, Limits.enter?_unnested, ← Limits.unnested_of_enter? henter]
    simp only
    apply (h.items inner _).map
  | case8 _ _ _ inner henter =>
    cases hsteps
    rw [readValue, Limits.enter?_unnested, ← Limits.unnested_of_enter? henter]
    simp only
    apply (h.fields inner _ _).map
  | case9 _ _ _ hstring harray hobject =>
    rw [readValue, readAtom_unnested]
    · exact .refl _
    · exact hstring
    · exact harray
    · exact hobject

/-- The items of an array are read in the same way, if the readers with less fuel agree. -/
theorem items_succ :
  AgreesUnlessDeep (readItems (fuel + 1) limits text) (readItems (fuel + 1) limits.unnested text)
  := by
  obtain hdeep | hread := h.value limits text
  · left
    rw [readItems, hdeep]
  · rw [readItems, readItems, ← hread]
    split
    · exact .refl _
    · split
      · apply (h.items limits _).map
      · exact .refl _
      · exact .refl _

/-- The fields of an object are read in the same way, if the readers with less fuel agree. -/
theorem fields_succ (fields : List (RawText × Json RawText)) :
  AgreesUnlessDeep (readFields (fuel + 1) limits fields text)
    (readFields (fuel + 1) limits.unnested fields text)
  := by
  by_cases hquote : ∃ rest, text = .char '"' :: rest
  · obtain ⟨rest, rfl⟩ := hquote
    rw [readFields, readFields]
    split
    · exact .refl _
    · split
      · next more _ =>
        obtain hdeep | hread := h.value limits (skipSpace more)
        · left
          rw [hdeep]
        · rw [← hread]
          split
          · exact .refl _
          · split
            · apply h.fields
            · exact .refl _
            · exact .refl _
      · exact .refl _
  · have hother : ∀ rest, text = .char '"' :: rest → False := by
      intro rest hrest
      apply hquote ⟨rest, hrest⟩
    right
    rw [readFields, readFields]
    · exact hother
    · exact hother

end ReadersAgree

/-- All readers agree with those that have no limit on the depth, whatever the fuel. -/
theorem readersAgree (fuel : Nat) :
  ReadersAgree fuel
  := by
  induction fuel with
  | zero => exact ⟨fun _ _ => .refl _, fun _ _ => .refl _, fun _ _ _ => .refl _⟩
  | succ fuel ih =>
    exact ⟨ih.value_succ, ih.items_succ,
      fun limits fields text => ih.fields_succ limits text fields⟩

/-! ### Texts and octets -/

/-- A text that is not nested too deep is read in the same way without a limit on the depth. -/
theorem agrees_read (limits : Limits) (text : RawText) :
  AgreesUnlessDeep (read limits text) (read limits.unnested text)
  := by
  rw [read, read]
  obtain hdeep | hread := (readersAgree (2 * text.length + 2)).value limits (skipSpace text)
  · left
    rw [hdeep]
  · right
    rw [hread]

/-- Octets are read as they are without a limit on nesting, unless the value is nested too deep. -/
theorem agrees_readOctets (limits : Limits) (octets : List Nat) :
  AgreesUnlessDeep (readOctets limits octets) (readOctets limits.unnested octets)
  := by
  rw [readOctets, readOctets]
  split
  split
  · apply agrees_read
  · exact .refl _

end ContractLint.Json
