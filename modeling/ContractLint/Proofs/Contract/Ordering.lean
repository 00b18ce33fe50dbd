import Mathlib.Tactic.Use
import ContractLint.Contract.Review
import ContractLint.Proofs.Contract.Division
import ContractLint.Proofs.Rule.Normalization

/-!
# The order of calls and writes

A function is suspected of reentrancy when it calls out before it has written state.  The flags of a
function look at the lines after its signature only, while the search for the first call and the
first write begins at the signature.  Still the verdict can be read off the lines, and it is final
once a line that calls out and a line that writes state have been added.
-/

namespace ContractLint

/-! ### Patterns -/

/-- One of some texts occurs in another exactly when one is a part of it. -/
theorem Text.anyOccursIn_iff {needles : List Text} {text : Text} :
  anyOccursIn needles text = true ↔ ∃ needle ∈ needles, needle <:+: text
  := by simp only [anyOccursIn, List.any_eq_true, occursIn_iff]

namespace Function

variable {function : Function}

/-! ### Flags -/

@[simp]
theorem body_addLine (function : Function) (line : Line) :
  (function.addLine line).body = function.body ++ [line]
  := rfl

@[simp]
theorem callsOut_addLine (function : Function) (line : Line) :
  (function.addLine line).callsOut = (function.callsOut || Pattern.callsOut line)
  := rfl

@[simp]
theorem writesState_addLine (function : Function) (line : Line) :
  (function.addLine line).writesState = (function.writesState || Pattern.writesState line)
  := rfl

/-- The flags of a function are set by lines that it has. -/
structure IsRecorded (function : Function) : Prop where
  /-- A line calls out if the flag says so. -/
  call : function.callsOut = true → ∃ line ∈ function.body, Pattern.callsOut line = true
  /-- A line writes state if the flag says so. -/
  write : function.writesState = true → ∃ line ∈ function.body, Pattern.writesState line = true

/-- A signature alone is recorded. -/
theorem isRecorded_ofSignature (signature : Line) :
  (ofSignature signature).IsRecorded
  where
  call h := by cases h
  write h := by cases h

/-- One more line keeps a function recorded. -/
theorem IsRecorded.addLine (h : function.IsRecorded) (line : Line) :
  (function.addLine line).IsRecorded
  where
  call hflag := by
    obtain hflag | hline := Bool.or_eq_true_iff.mp hflag
    · obtain ⟨earlier, hearlier, hcall⟩ := h.call hflag
      use earlier, List.mem_append_left _ hearlier
    · use line, List.mem_append_right _ List.mem_cons_self
  write hflag := by
    obtain hflag | hline := Bool.or_eq_true_iff.mp hflag
    · obtain ⟨earlier, hearlier, hwrite⟩ := h.write hflag
      use earlier, List.mem_append_left _ hearlier
    · use line, List.mem_append_right _ List.mem_cons_self

/-- More lines keep a function recorded. -/
theorem IsRecorded.addLines (h : function.IsRecorded) (lines : List Line) :
  (function.addLines lines).IsRecorded
  := by
  induction lines generalizing function with
  | nil => apply h
  | cons line lines ih => apply ih (h.addLine line)

/-! ### The verdict -/

/-- Some line calls out, and no line before it writes state. -/
def CallsBeforeWriting (body : List Line) : Prop :=
  ∃ earlier line later, body = earlier ++ line :: later ∧ Pattern.callsOut line = true
    ∧ ∀ other ∈ earlier, ¬ Pattern.writesState other = true

/-- In terms of the first write and the first call. -/
theorem callsBeforeWriting_iff {body : List Line} {write call : Nat}
    (hwrite : body.findIdx? Pattern.writesState = some write)
    (hcall : body.findIdx? Pattern.callsOut = some call) :
  CallsBeforeWriting body ↔ call ≤ write
  := by
  obtain ⟨hwriteLt, hwrites, hnoWrite⟩ := List.findIdx?_eq_some_iff_getElem.mp hwrite
  obtain ⟨hcallLt, hcalls, hnoCall⟩ := List.findIdx?_eq_some_iff_getElem.mp hcall
  constructor
  · rintro ⟨earlier, line, later, rfl, hline, hearlier⟩
    have hcallLe : call ≤ earlier.length := by
      by_contra hlt
      apply hnoCall earlier.length (by omega)
      simpa using hline
    have hleWrite : earlier.length ≤ write := by
      by_contra hlt
      apply hearlier _ (List.getElem_mem (by omega : write < earlier.length))
      rwa [List.getElem_append_left (by omega)] at hwrites
    omega
  · intro hle
    use body.take call, body[call], body.drop (call + 1)
    refine ⟨?_, hcalls, ?_⟩
    · rw [List.getElem_cons_drop, List.take_append_drop]
    · intro other hother
      obtain ⟨index, hindex, rfl⟩ := List.mem_take_iff_getElem.mp hother
      apply hnoWrite index (by omega)

section
variable (h : function.IsRecorded) (hcall : function.callsOut = true)
  (hwrite : function.writesState = true)
include h hcall hwrite

/-- With both flags set there is a first write and a first call. -/
theorem IsRecorded.exists_findIdx? :
  ∃ write call, function.body.findIdx? Pattern.writesState = some write
    ∧ function.body.findIdx? Pattern.callsOut = some call
  := ⟨_, _, List.findIdx?_eq_some_of_exists (h.write hwrite),
    List.findIdx?_eq_some_of_exists (h.call hcall)⟩

/-- A function writes after a call exactly when its body calls before it writes. -/
theorem IsRecorded.writesAfterCall_iff :
  function.writesAfterCall = true ↔ CallsBeforeWriting function.body
  := by
  obtain ⟨write, call, hfirstWrite, hfirstCall⟩ := h.exists_findIdx? hcall hwrite
  rw [callsBeforeWriting_iff hfirstWrite hfirstCall]
  simp [writesAfterCall, hcall, hwrite, hfirstWrite, hfirstCall]

/-- A further line changes neither the first write nor the first call. -/
theorem IsRecorded.writesAfterCall_addLine (line : Line) :
  (function.addLine line).writesAfterCall = function.writesAfterCall
  := by
  obtain ⟨write, call, hfirstWrite, hfirstCall⟩ := h.exists_findIdx? hcall hwrite
  simp [writesAfterCall, hcall, hwrite, List.findIdx?_append, hfirstWrite, hfirstCall]

/-- More lines do not change the order of the first call and the first write. -/
theorem IsRecorded.writesAfterCall_addLines (lines : List Line) :
  (function.addLines lines).writesAfterCall = function.writesAfterCall
  := by
  induction lines generalizing function with
  | nil => rfl
  | cons line lines ih =>
    have hcall' : (function.addLine line).callsOut = true := by simp [hcall]
    have hwrite' : (function.addLine line).writesState = true := by simp [hwrite]
    apply (ih (h.addLine line) hcall' hwrite').trans
    apply h.writesAfterCall_addLine hcall hwrite

end

/-- What is said of the function that a signature opens after some lines have been added to it.  Its
flags tell which patterns occur in the added lines.  It is found to write state after a call exactly
when both flags are set and one of its lines, the signature included, calls out with no write before
it; so it never is before both flags are set.  Then there are a first write and a first call to
compare, and no further lines change the verdict. -/
theorem writesAfterCall_exact {signature : Line} {lines : List Line}
    (h : (ofSignature signature).addLines lines = function) :
  (function.callsOut = true
    ↔ ∃ line ∈ lines, ∃ pattern ∈ Pattern.externalCalls, pattern <:+: line)
  ∧ (function.writesState = true
    ↔ ∃ line ∈ lines, ∃ pattern ∈ Pattern.stateChanges, pattern <:+: line)
  ∧ (function.writesAfterCall = true
    ↔ function.callsOut = true ∧ function.writesState = true
      ∧ CallsBeforeWriting (signature :: lines))
  ∧ (function.callsOut = true → function.writesState = true →
    (∃ write call, function.body.findIdx? Pattern.writesState = some write
      ∧ function.body.findIdx? Pattern.callsOut = some call)
    ∧ ∀ further, (function.addLines further).writesAfterCall = function.writesAfterCall)
  ∧ (¬ (function.callsOut = true ∧ function.writesState = true) →
    function.writesAfterCall = false)
  := by
  have hbody : function.body = signature :: lines := by simp [← h, addLines_eq]
  have hcalls : function.callsOut = lines.any Pattern.callsOut := by
    rw [← h, addLines_eq]
    rfl
  have hwrites : function.writesState = lines.any Pattern.writesState := by
    rw [← h, addLines_eq]
    rfl
  have hrecorded : function.IsRecorded := by
    rw [← h]
    apply (isRecorded_ofSignature signature).addLines lines
  have hunset : ¬ (function.callsOut = true ∧ function.writesState = true) →
      function.writesAfterCall = false := by
    intro hflags
    rw [← Bool.and_eq_true, Bool.not_eq_true] at hflags
    rw [writesAfterCall, hflags, Bool.false_and]
  refine ⟨?_, ?_, ?_, ?_, hunset⟩
  · rw [hcalls, List.any_eq_true]
    simp only [Pattern.callsOut, Text.anyOccursIn_iff]
  · rw [hwrites, List.any_eq_true]
    simp only [Pattern.writesState, Text.anyOccursIn_iff]
  · rw [← hbody, ← and_assoc]
    by_cases hflags : function.callsOut = true ∧ function.writesState = true
    · rw [hrecorded.writesAfterCall_iff hflags.1 hflags.2, and_iff_right hflags]
    · rw [hunset hflags, iff_false_left Bool.false_ne_true]
      intro hboth
      apply hflags hboth.1
  · intro hcall hwrite
    use hrecorded.exists_findIdx? hcall hwrite
    apply hrecorded.writesAfterCall_addLines hcall hwrite

/-- A function that sends value on its signature line, and again after a write. -/
def sendingTwice : Function :=
  (ofSignature "function f() \x7b a.send(1);".toList).addLines
    ["x += 1;".toList, "a.send(2);".toList]

/-- The call on the signature line sets no flag, but it is the first one. -/
theorem writesAfterCall_exact_sendingTwice :
  sendingTwice.callsOut = true ∧ sendingTwice.writesState = true
  ∧ CallsBeforeWriting sendingTwice.body
  ∧ ∀ further, (sendingTwice.addLines further).writesAfterCall = true
  := by
  have hcall : sendingTwice.callsOut = true := by decide
  have hwrite : sendingTwice.writesState = true := by decide
  have hverdict : sendingTwice.writesAfterCall = true := by decide
  obtain ⟨-, -, hexact, hfinal, -⟩ := writesAfterCall_exact
    (rfl : (ofSignature "function f() \x7b a.send(1);".toList).addLines
      ["x += 1;".toList, "a.send(2);".toList] = sendingTwice)
  use hcall, hwrite, (hexact.mp hverdict).2.2
  intro further
  apply ((hfinal hcall hwrite).2 further).trans hverdict

end Function

end ContractLint
