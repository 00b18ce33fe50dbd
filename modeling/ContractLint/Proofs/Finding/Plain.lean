import ContractLint.Proofs.Finding.RoundTrip
import ContractLint.Proofs.Json.RoundTrip

/-!
# Wire forms are plain

The wire form of a finding holds texts and integers under different keys, so that it is read back
from its JSON text whatever the finding says.
-/

namespace ContractLint

namespace Finding

variable (finding : Finding)

/-- The keys of a wire form are in order, and none occurs twice. -/
theorem keys_wireFields_sublist :
  List.Sublist (finding.wireFields.map Prod.fst) wireKeys
  := by
  have hoptional {α : Type} (value : Option α) (key : String) (form : α → Json) :
      List.Sublist ((value.map fun value => (key, form value)).toList.map Prod.fst) [key] := by
    cases value with
    | none => apply List.nil_sublist
    | some value => apply List.Sublist.refl
  have hkeys : wireKeys = finding.requiredFields.map Prod.fst ++ ["path"] ++ ["snippet"] := rfl
  rw [wireFields_eq, List.map_append, List.map_append, hkeys]
  apply List.Sublist.append
  · apply List.Sublist.append (List.Sublist.refl _)
    apply hoptional
  · apply hoptional

theorem isPlain_of_mem_wireFields {field : String × Json} (h : field ∈ finding.wireFields) :
  field.2.IsPlain
  := by
  rw [wireFields_eq, List.mem_append, List.mem_append, Option.mem_toList, Option.mem_toList,
    Option.map_eq_some_iff, Option.map_eq_some_iff] at h
  obtain (hrequired | ⟨path, -, rfl⟩) | ⟨snippet, -, rfl⟩ := h
  · have hplain : ∀ field ∈ finding.requiredFields, field.2.IsPlain := by
      simp only [requiredFields, List.forall_mem_cons]
      exact ⟨.string _, .string _, .int _, .int _, .string _, .string _, .string _,
        List.forall_mem_nil _⟩
    apply hplain field hrequired
  · apply Json.IsPlain.string
  · apply Json.IsPlain.string

theorem isPlain_toJson :
  finding.toJson.IsPlain
  := by
  apply Json.IsPlain.object
  · apply finding.keys_wireFields_sublist.nodup
    decide
  · intro field
    apply finding.isPlain_of_mem_wireFields

/-- Wire forms of findings in a row are plain. -/
theorem isPlain_array (findings : List Finding) :
  (Json.array (findings.map toJson)).IsPlain
  := by
  apply Json.IsPlain.array
  intro item hitem
  obtain ⟨finding, -, rfl⟩ := List.mem_map.mp hitem
  apply finding.isPlain_toJson

end Finding

end ContractLint
