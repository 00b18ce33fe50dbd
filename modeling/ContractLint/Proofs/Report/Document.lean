import ContractLint.Proofs.Finding.Plain
import ContractLint.Report.Basic

/-!
# Findings as a JSON text

The JSON text of findings holds their wire forms, whatever they say and however the text is laid
out.  So the indentation carries no meaning, and findings with different wire forms have different
texts.
-/

namespace ContractLint

/-- The value that the JSON text of findings holds. -/
def resultsOf (findings : List Finding) : Json :=
  .object [("results", .array (findings.map Finding.toJson))]

/-- The value of findings can be written and read back. -/
theorem isPlain_resultsOf (findings : List Finding) :
  (resultsOf findings).IsPlain
  := by
  apply Json.IsPlain.object (by simp)
  rw [List.forall_mem_singleton]
  apply Finding.isPlain_array

/-- Findings with the same value have the same wire forms. -/
theorem resultsOf_inj {findings others : List Finding} (h : resultsOf findings = resultsOf others) :
  findings.map Finding.toJson = others.map Finding.toJson
  := by simpa [resultsOf] using h

theorem toList_findingsToJson (style : Json.Style) (findings : List Finding) :
  (findingsToJson style findings).toList = Json.write style 0 (resultsOf findings)
  := String.toList_ofList

/-- The JSON text of findings is ASCII and holds an object with their wire forms under its only key,
for every indentation.  All indentations write the same value, and findings with different wire
forms never have the same text, not even in two indentations. -/
theorem findingsToJson_faithful :
  (∀ (findings : List Finding) (indent : Option Int),
      Json.parse? (findingsToJson (.ofIndent indent) findings).toList
        = some (.object [("results", .array (findings.map Finding.toJson))])
      ∧ ∀ c ∈ (findingsToJson (.ofIndent indent) findings).toList, c.toNat < 0x80)
  ∧ (∀ (findings : List Finding) (indent otherIndent : Option Int),
      Json.parse? (findingsToJson (.ofIndent indent) findings).toList
        = Json.parse? (findingsToJson (.ofIndent otherIndent) findings).toList)
  ∧ ∀ (findings others : List Finding) (indent otherIndent : Option Int),
      findings.map Finding.toJson ≠ others.map Finding.toJson →
      findingsToJson (.ofIndent indent) findings ≠ findingsToJson (.ofIndent otherIndent) others
  := by
  have hparse (findings : List Finding) (style : Json.Style) :
      Json.parse? (findingsToJson style findings).toList = some (resultsOf findings) := by
    rw [toList_findingsToJson]
    apply (isPlain_resultsOf findings).parse?_write
  refine ⟨?_, ?_, ?_⟩
  · intro findings indent
    use hparse findings _
    rw [toList_findingsToJson]
    apply (isPlain_resultsOf findings).isAscii_write
  · intro findings indent otherIndent
    rw [hparse, hparse]
  · intro findings others indent otherIndent hforms htext
    have hread := hparse findings (.ofIndent indent)
    rw [htext, hparse others] at hread
    apply hforms
    apply resultsOf_inj (Option.some.inj hread).symm

/-- A finding whose message holds everything that is escaped. -/
def Finding.escaped : Finding where
  ruleId := "tx-origin"
  severity := .high
  message := "\"\\/\x08\x0c\n\r\t\x00\x7fé\ufeff𝄞"
  location := { line := .first, path := some (Path.ofString "/a\"b.sol"), snippet := some "" }

theorem findingsToJson_faithful_escaped :
  [Finding.escaped].map Finding.toJson ≠ [{ Finding.escaped with message := "" }].map Finding.toJson
  ∧ findingsToJson (.ofIndent none) [Finding.escaped]
    ≠ findingsToJson (.ofIndent (some (-1))) [{ Finding.escaped with message := "" }]
  := by
  have hforms : [Finding.escaped].map Finding.toJson
      ≠ [{ Finding.escaped with message := "" }].map Finding.toJson := by
    simp [Finding.toJson, Finding.wireFields, Finding.escaped]
  exact ⟨hforms, findingsToJson_faithful.2.2 _ _ _ _ hforms⟩

end ContractLint
