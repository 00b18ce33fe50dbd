import ContractLint.Proofs.Analysis.Guarding
import ContractLint.Proofs.Contract.Written

/-!
# The modifiers of a function

The modifiers that are read from a written signature are the names of its attachments without the
keywords, as long as no argument list has parentheses of its own.  The names in such a list are
taken for modifiers as well: a function then counts as guarded by a modifier that is not attached
to it.
-/

namespace ContractLint

namespace Signature

namespace Written

variable (written : Written)

/-! ### Names -/

/-- A name is the name of an attachment. -/
def Attaches (name : String) : Prop :=
  ∃ attachment ∈ written.attachments, String.ofList attachment.name.val = name

/-- A name is read from an argument list with inner parentheses. -/
def Nests (name : String) : Prop :=
  ∃ attachment ∈ written.attachments, ∃ arguments ∈ attachment.arguments,
    ∃ text ∈ arguments.names, String.ofList text = name

/-- No argument list has inner parentheses. -/
def IsFlat : Prop :=
  ∀ attachment ∈ written.attachments, ∀ arguments ∈ attachment.arguments,
    Signature.IsFlat arguments.inside

theorem IsFlat.not_nests {written : Written} (h : written.IsFlat) (name : String) :
  ¬ written.Nests name
  := by
  rintro ⟨attachment, hattachment, arguments, harguments, text, htext, -⟩
  rw [Arguments.names, if_pos (h attachment hattachment arguments harguments)] at htext
  cases htext

theorem mem_modifiers_line {modifier : String} :
  modifier ∈ modifiers written.line
    ↔ (written.Attaches modifier ∨ written.Nests modifier) ∧ modifier ∉ keywords
  := by
  have hnames (attachment : Attachment) (text : Text) : text ∈ attachment.names
      ↔ text = attachment.name.val
        ∨ ∃ arguments ∈ attachment.arguments, text ∈ arguments.names := by
    rw [Attachment.names, List.mem_cons]
    cases attachment.arguments <;> simp
  rw [modifiers_line, mem_sortedNames, List.mem_filter, List.mem_map]
  apply and_congr
  · constructor
    · rintro ⟨text, htext, rfl⟩
      obtain ⟨attachment, hattachment, htext⟩ := List.mem_flatMap.mp htext
      obtain rfl | ⟨arguments, harguments, htext⟩ := (hnames attachment text).mp htext
      · left
        use attachment, hattachment
      · right
        exact ⟨attachment, hattachment, arguments, harguments, text, htext, rfl⟩
    · rintro (⟨attachment, hattachment, rfl⟩
        | ⟨attachment, hattachment, arguments, harguments, text, htext, rfl⟩)
      · use attachment.name.val
        refine ⟨List.mem_flatMap.mpr ⟨attachment, hattachment, ?_⟩, rfl⟩
        apply (hnames attachment _).mpr (.inl rfl)
      · use text
        refine ⟨List.mem_flatMap.mpr ⟨attachment, hattachment, ?_⟩, rfl⟩
        apply (hnames attachment text).mpr (.inr ⟨arguments, harguments, htext⟩)
  · simp

/-- From the line of a written signature, the name of the function is read as it was written.  If no
argument list has inner parentheses, the modifiers that are read are exactly the names of the
attachments that are no keywords: none of them is missing, and nothing is taken from the parameters,
the arguments, what is returned or the body. -/
theorem line_recovered (h : written.IsFlat) :
  functionName written.line = String.ofList written.name.val
  ∧ ∀ modifier, modifier ∈ modifiers written.line
    ↔ (∃ attachment ∈ written.attachments, String.ofList attachment.name.val = modifier)
      ∧ modifier ∉ keywords
  := by
  use written.functionName_line
  intro modifier
  rw [mem_modifiers_line, or_iff_left (h.not_nests modifier)]
  rfl

/-- A signature with a parameter that is a function, a keyword, a modifier with arguments and a gap
before them, and a returned value in which the characters occur that end the attachments. -/
def feeSetter : Written where
  beforeName := ⟨[' '], rfl⟩
  isApart_name := by decide
  name := ⟨"$setFee".toList, by decide⟩
  beforeParameters := ⟨[], rfl⟩
  parameters := "function(uint) returns (uint) f".toList
  isBalanced := by decide
  attachments :=
    [⟨⟨[' '], rfl⟩, ⟨"external".toList, by decide⟩, none, by decide⟩,
      ⟨⟨['\t', ' '], rfl⟩, ⟨"onlyRole".toList, by decide⟩,
        some ⟨⟨[' '], rfl⟩, "ADMIN, onlyOwner".toList, by decide, by decide⟩, by decide⟩,
      ⟨⟨[' '], rfl⟩, ⟨"returns2".toList, by decide⟩, none, by decide⟩]
  isApart_attachments := by
    simp [Attachment.IsApart]
  results := some "uint; \x7b onlyOwner".toList
  beforeBody := ⟨[' '], rfl⟩
  body := "onlyOwner();".toList

theorem line_recovered_feeSetter :
  feeSetter.line = ("function $setFee(function(uint) returns (uint) f) external\t onlyRole "
    ++ "(ADMIN, onlyOwner) returns2 returns (uint; \x7b onlyOwner) \x7bonlyOwner();").toList
  ∧ feeSetter.IsFlat
  ∧ functionName feeSetter.line = "$setFee"
  ∧ ∀ modifier, modifier ∈ modifiers feeSetter.line
    ↔ modifier = "onlyRole" ∨ modifier = "returns2"
  := by
  have hflat : feeSetter.IsFlat := by
    simp [IsFlat, feeSetter, Signature.IsFlat]
  have hattached (modifier : String) :
      (∃ attachment ∈ feeSetter.attachments, String.ofList attachment.name.val = modifier)
        ↔ modifier ∈ ["external", "onlyRole", "returns2"] := by
    simp [feeSetter, eq_comm]
  obtain ⟨hname, hmodifiers⟩ := feeSetter.line_recovered hflat
  refine ⟨by decide +kernel, hflat, hname, ?_⟩
  intro modifier
  rw [hmodifiers, hattached]
  constructor
  · rintro ⟨hmem, hkeyword⟩
    simp only [List.mem_cons, List.not_mem_nil, or_false] at hmem
    obtain rfl | hmem := hmem
    · cases hkeyword (by decide)
    · apply hmem
  · rintro (rfl | rfl)
    · decide
    · decide

end Written

end Signature

/-! ### Guards -/

namespace Function

/-- A privileged function is reported exactly when it is not guarded. -/
theorem mem_issues_iff_of_privileged? {guards : List String} {function : Function} {check : Check}
    (h : Check.privileged? function.name = some check) :
  check ∈ function.issues guards ↔ ¬ function.isOwnerGuarded guards = true
  := by
  have hmem : check ∈ function.unprotectedIssues := by
    rw [unprotectedIssues, List.mem_append, h]
    left
    apply Option.mem_toList.mpr rfl
  have hopen : check ∉ function.openIssues := by
    intro hopen
    have hunprotected := isUnprotected_of_mem_unprotectedIssues ⟨0⟩ none hmem
    rw [isUnprotected_of_mem_openIssues ⟨0⟩ none hopen] at hunprotected
    cases hunprotected
  rw [issues_eq, List.mem_append, or_iff_right hopen]
  cases function.isOwnerGuarded guards with
  | false => simp [hmem]
  | true => simp

end Function

namespace Signature.Written

variable (written : Written)

/-- A written signature is read as if the arguments in a list with inner parentheses stood outside
of it.  So only the names of attachments are read as modifiers if and only if the names in such
lists are keywords or names of attachments themselves, and this is so if there are no such lists.
A function is guarded by the names in such lists just as by the attached ones, and a privileged
function is reported exactly when neither of them are guards. -/
theorem modifiers_exact :
  (∀ modifier, modifier ∈ modifiers written.line
    ↔ (written.Attaches modifier ∨ written.Nests modifier) ∧ modifier ∉ keywords)
  ∧ ((∀ modifier ∈ modifiers written.line, written.Attaches modifier)
    ↔ ∀ name, written.Nests name → name ∉ keywords → written.Attaches name)
  ∧ (written.IsFlat → ∀ name, ¬ written.Nests name)
  ∧ ∀ (guards : List String) (lines : List Line),
    (((Function.ofSignature written.line).addLines lines).isOwnerGuarded guards = true
      ↔ ∃ guard ∈ guards, (written.Attaches guard ∨ written.Nests guard) ∧ guard ∉ keywords)
    ∧ ∀ check, Check.privileged? (String.ofList written.name.val) = some check →
      (check ∈ ((Function.ofSignature written.line).addLines lines).issues guards
        ↔ ∀ guard ∈ guards, (written.Attaches guard ∨ written.Nests guard) → guard ∈ keywords)
  := by
  have hguarded (guards : List String) (lines : List Line) :
      ((Function.ofSignature written.line).addLines lines).isOwnerGuarded guards = true
        ↔ ∃ guard ∈ guards, (written.Attaches guard ∨ written.Nests guard) ∧ guard ∉ keywords := by
    rw [Function.isOwnerGuarded_iff, Function.addLines_eq]
    simp only [Function.ofSignature, written.mem_modifiers_line]
    grind
  refine ⟨fun modifier => written.mem_modifiers_line, ?_, IsFlat.not_nests, ?_⟩
  · constructor
    · intro hattached name hnests hkeyword
      apply hattached name
      exact written.mem_modifiers_line.mpr ⟨.inr hnests, hkeyword⟩
    · intro hnested modifier hmodifier
      obtain ⟨hattached | hnests, hkeyword⟩ := written.mem_modifiers_line.mp hmodifier
      · apply hattached
      · apply hnested modifier hnests hkeyword
  · intro guards lines
    use hguarded guards lines
    intro check hcheck
    have hname : ((Function.ofSignature written.line).addLines lines).name
        = String.ofList written.name.val := by
      rw [Function.addLines_eq]
      apply written.functionName_line
    rw [Function.mem_issues_iff_of_privileged? (by rwa [hname]), hguarded]
    grind

/-- A withdrawal that is restricted to a role, with a call and the name of a guard among the
arguments. -/
def roleWithdrawal : Written where
  beforeName := ⟨[' '], rfl⟩
  isApart_name := by decide
  name := ⟨"withdraw".toList, by decide⟩
  beforeParameters := ⟨[], rfl⟩
  parameters := []
  isBalanced := by decide
  attachments :=
    [⟨⟨[' '], rfl⟩, ⟨"external".toList, by decide⟩, none, by decide⟩,
      ⟨⟨[' '], rfl⟩, ⟨"onlyRole".toList, by decide⟩,
        some ⟨⟨[], rfl⟩, "hash(x), onlyOwner".toList, by decide, by decide⟩, by decide⟩]
  isApart_attachments := by simp [Attachment.IsApart]
  results := none
  beforeBody := ⟨[' '], rfl⟩
  body := []

/-- An argument of a modifier is taken for a modifier: it is not attached to the function, and yet
the function counts as guarded by it and is not reported. -/
theorem modifiers_nestedArgument :
  roleWithdrawal.line = "function withdraw() external onlyRole(hash(x), onlyOwner) \x7b".toList
  ∧ "onlyOwner" ∈ modifiers roleWithdrawal.line ∧ ¬ roleWithdrawal.Attaches "onlyOwner"
  ∧ (Function.ofSignature roleWithdrawal.line).isOwnerGuarded ["onlyOwner"] = true
  ∧ (Function.ofSignature roleWithdrawal.line).issues ["onlyOwner"] = []
  := by
  have hnests : roleWithdrawal.Nests "onlyOwner" := by
    refine ⟨_, List.mem_cons_of_mem _ List.mem_cons_self, _, rfl, "onlyOwner".toList, ?_, rfl⟩
    decide +kernel
  have hmodifier : "onlyOwner" ∈ modifiers roleWithdrawal.line :=
    roleWithdrawal.mem_modifiers_line.mpr ⟨.inr hnests, by decide⟩
  have hguarded : (Function.ofSignature roleWithdrawal.line).isOwnerGuarded ["onlyOwner"] = true :=
    Function.isOwnerGuarded_iff.mpr ⟨"onlyOwner", hmodifier, List.mem_cons_self⟩
  refine ⟨by decide +kernel, hmodifier, by simp [Attaches, roleWithdrawal], hguarded, ?_⟩
  rw [Function.issues_eq, if_pos hguarded, List.append_nil]
  decide +kernel

end Signature.Written

end ContractLint
