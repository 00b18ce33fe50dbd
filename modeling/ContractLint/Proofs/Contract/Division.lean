import Mathlib.Tactic.Use
import ContractLint.Contract.Layout

/-!
# The division of a contract

The layout of a contract divides the lines after the first contract declaration: each of them is
either a line of the preamble or a line of exactly one function, all are there in their order, and
the functions begin at the signatures.
-/

namespace ContractLint

/-! ### Functions -/

namespace Function

@[simp]
theorem body_ofSignature (line : Line) :
  (ofSignature line).body = [line]
  := rfl

/-- Adding lines to a function changes its body and the two flags, and nothing else. -/
theorem addLines_eq (function : Function) (lines : List Line) :
  function.addLines lines = { function with
    body := function.body ++ lines
    callsOut := function.callsOut || lines.any Pattern.callsOut
    writesState := function.writesState || lines.any Pattern.writesState }
  := by
  induction lines generalizing function with
  | nil => simp [addLines]
  | cons line lines ih =>
    apply (ih (function.addLine line)).trans
    simp [addLine, Bool.or_assoc]

/-- The lines that belong to the function whose signature comes right before the lines. -/
def ownLines (lines : List Line) : List Line :=
  lines.takeWhile fun line => !Signature.opensFunction line

theorem takeWhile_zipIdx (lines : List Line) (start : Nat) :
  (lines.zipIdx start).takeWhile (fun (line, _) => !Signature.opensFunction line)
    = (ownLines lines).zipIdx start
  := by
  induction lines generalizing start with
  | nil => rfl
  | cons line lines ih =>
    rw [ownLines, List.zipIdx_cons, List.takeWhile_cons, List.takeWhile_cons, ih (start + 1)]
    by_cases h : Signature.opensFunction line = true
    · simp [h]
    · simp [h, ownLines]

/-- The own lines of a function stand at the front of all lines. -/
theorem getElem?_of_ownLines {lines : List Line} {index : Nat} {line : Line}
    (h : (ownLines lines)[index]? = some line) :
  lines[index]? = some line
  := by
  have hfront : ownLines lines <+: lines := List.takeWhile_prefix _
  obtain ⟨hlt, rfl⟩ := List.getElem?_eq_some_iff.mp h
  apply List.prefix_iff_getElem?.mp hfront index hlt

variable {ι : Type}

/-- A signature starts a function with the lines up to the next one. -/
theorem split_cons_of_opensFunction {line : Line} (h : Signature.opensFunction line = true)
    (number : ι) (rest : List (Line × ι)) :
  split ((line, number) :: rest)
    = ((ofSignature line).addLines (ownLines (rest.map Prod.fst)), number) :: split rest
  := by
  rw [split, if_pos h, ownLines, List.takeWhile_map]
  rfl

/-- A line that is no signature starts no function. -/
theorem split_cons_of_not_opensFunction {line : Line}
    (h : ¬ Signature.opensFunction line = true) (number : ι) (rest : List (Line × ι)) :
  split ((line, number) :: rest) = split rest
  := by rw [split, if_neg h]

/-- The lines of the functions are all lines from the first signature on. -/
theorem flatMap_body_split (entries : List (Line × ι)) :
  (split entries).flatMap (·.1.body)
    = (entries.map Prod.fst).dropWhile fun line => !Signature.opensFunction line
  := by
  induction entries with
  | nil => rfl
  | cons entry rest ih =>
    obtain ⟨line, number⟩ := entry
    by_cases h : Signature.opensFunction line = true
    · rw [split_cons_of_opensFunction h, List.flatMap_cons, ih, addLines_eq, body_ofSignature,
        List.append_assoc, ownLines, List.takeWhile_append_dropWhile, List.map_cons,
        List.dropWhile_cons_of_neg (by simp [h])]
      rfl
    · rw [split_cons_of_not_opensFunction h, ih, List.map_cons,
        List.dropWhile_cons_of_pos (by simp [h])]

/-- The functions among numbered lines are those that the signatures open, each with the lines up
to the next signature. -/
theorem mem_split_zipIdx {lines : List Line} {start index : Nat} {function : Function} :
  (function, index) ∈ split (lines.zipIdx start)
    ↔ ∃ (offset : Nat) (line : Line), index = start + offset ∧ lines[offset]? = some line
      ∧ Signature.opensFunction line = true
      ∧ function = (ofSignature line).addLines (ownLines (lines.drop (offset + 1)))
  := by
  induction lines generalizing start with
  | nil => simp [split]
  | cons first rest ih =>
    -- the function at the first line, and those at the lines after it
    rw [List.zipIdx_cons, ← Nat.or_exists_add_one]
    simp only [List.getElem?_cons_zero, List.getElem?_cons_succ, List.drop_succ_cons,
      Nat.add_zero, Option.some.injEq]
    by_cases h : Signature.opensFunction first = true
    · rw [split_cons_of_opensFunction h, List.mem_cons, ih, List.zipIdx_map_fst]
      apply or_congr
      · simp [h, and_comm]
      · simp [Nat.add_assoc, Nat.add_comm 1]
    · rw [split_cons_of_not_opensFunction h, ih]
      simp [h, Nat.add_assoc, Nat.add_comm 1]

end Function

/-! ### Layouts -/

namespace Layout

open Signature

/-- A layout divides lines: it accounts for every line after the first contract declaration, and
for no other line. -/
structure Divides (lines : List Line) (layout : Layout) : Prop where
  /-- The contract line declares a contract, and no line before it does. -/
  isLeast_contractLine : (∃ line, lines[layout.contractLine]? = some line
      ∧ isContractDeclaration line = true)
    ∧ ∀ index < layout.contractLine, ∀ line, lines[index]? = some line →
      ¬ isContractDeclaration line = true
  /-- The indices of the preamble are consecutive and begin after the contract line. -/
  preamble_indices : layout.preamble.map Prod.snd
    = List.range' (layout.contractLine + 1) layout.preamble.length
  /-- The texts of the preamble are the lines at their indices. -/
  preamble_lines : ∀ line index, (line, index) ∈ layout.preamble → lines[index]? = some line
  /-- No line after the contract line is lost, repeated or moved. -/
  append_bodies : layout.preamble.map Prod.fst ++ layout.functions.flatMap (·.1.body)
    = lines.drop (layout.contractLine + 1)
  /-- The lines of a function are the lines from its index on. -/
  body_lines : ∀ function index, (function, index) ∈ layout.functions →
    ∀ offset < function.body.length, function.body[offset]? = lines[index + offset]?
  /-- The signatures are the first lines of the functions. -/
  signatures : ∀ index line, layout.contractLine < index → lines[index]? = some line →
    (opensFunction line = true
      ↔ ∃ function, (function, index) ∈ layout.functions ∧ function.body.head? = some line)

variable {lines : List Line} {layout : Layout}

theorem findIdx?_eq_contractLine (h : ofLines? lines = some layout) :
  lines.findIdx? isContractDeclaration = some layout.contractLine
  := by
  obtain ⟨contractLine, hfind, rfl⟩ := Option.map_eq_some_iff.mp h
  apply hfind

/-- The preamble is made of the lines between the contract and the first signature. -/
theorem preamble_eq (h : ofLines? lines = some layout) :
  layout.preamble
    = (Function.ownLines (lines.drop (layout.contractLine + 1))).zipIdx (layout.contractLine + 1)
  := by
  obtain ⟨contractLine, -, rfl⟩ := Option.map_eq_some_iff.mp h
  apply Function.takeWhile_zipIdx

theorem functions_eq (h : ofLines? lines = some layout) :
  layout.functions
    = Function.split ((lines.drop (layout.contractLine + 1)).zipIdx (layout.contractLine + 1))
  := by
  obtain ⟨contractLine, -, rfl⟩ := Option.map_eq_some_iff.mp h
  rfl

/-- A line of the preamble is there under its number. -/
theorem getElem?_of_mem_preamble (h : ofLines? lines = some layout) {line : Line} {index : Nat}
    (hmem : (line, index) ∈ layout.preamble) :
  lines[index]? = some line
  := by
  rw [preamble_eq h, List.mk_mem_zipIdx_iff_le_and_getElem?_sub] at hmem
  obtain ⟨hle, hline⟩ := hmem
  have hdrop := Function.getElem?_of_ownLines hline
  rw [List.getElem?_drop, Nat.add_sub_cancel' hle] at hdrop
  apply hdrop

/-- The functions are those that the signatures after the contract line open, each with the lines
up to the next signature. -/
theorem mem_functions_iff (h : ofLines? lines = some layout) {function : Function}
    {index : Nat} :
  (function, index) ∈ layout.functions
    ↔ layout.contractLine < index ∧ ∃ line, lines[index]? = some line
      ∧ opensFunction line = true
      ∧ function
        = (Function.ofSignature line).addLines (Function.ownLines (lines.drop (index + 1)))
  := by
  rw [functions_eq h, Function.mem_split_zipIdx]
  simp only [List.getElem?_drop, List.drop_drop]
  constructor
  · rintro ⟨offset, line, rfl, hline⟩
    refine ⟨by omega, line, hline⟩
  · rintro ⟨hlt, line, hline⟩
    obtain ⟨offset, rfl⟩ := Nat.exists_eq_add_of_le hlt
    exact ⟨offset, line, rfl, hline⟩

/-- The lines of a function are the lines from its index on. -/
theorem getElem?_body (h : ofLines? lines = some layout) {function : Function} {index : Nat}
    (hmem : (function, index) ∈ layout.functions) {offset : Nat}
    (hlt : offset < function.body.length) :
  function.body[offset]? = lines[index + offset]?
  := by
  obtain ⟨-, line, hline, -, rfl⟩ := (mem_functions_iff h).mp hmem
  rw [Function.addLines_eq, Function.body_ofSignature, List.singleton_append] at hlt ⊢
  cases offset with
  | zero => apply hline.symm
  | succ offset =>
    rw [List.length_cons, Nat.succ_lt_succ_iff] at hlt
    have hown := Function.getElem?_of_ownLines (List.getElem?_eq_getElem hlt)
    rw [List.getElem?_cons_succ, List.getElem?_eq_getElem hlt, ← hown, List.getElem?_drop]
    congr 1
    omega

/-- After the contract, the signatures are those of the functions. -/
theorem opensFunction_iff (h : ofLines? lines = some layout) {index : Nat} {line : Line}
    (hlt : layout.contractLine < index) (hline : lines[index]? = some line) :
  opensFunction line = true
    ↔ ∃ function, (function, index) ∈ layout.functions ∧ function.body.head? = some line
  := by
  constructor
  · intro hopens
    use (Function.ofSignature line).addLines (Function.ownLines (lines.drop (index + 1)))
    constructor
    · apply (mem_functions_iff h).mpr
      use hlt, line
    · rw [Function.addLines_eq]
      rfl
  · rintro ⟨function, hmem, -⟩
    obtain ⟨-, signature, hsignature, hopens, -⟩ := (mem_functions_iff h).mp hmem
    rw [hline, Option.some.injEq] at hsignature
    rw [hsignature]
    apply hopens

/-- The layout that is found divides the lines. -/
theorem divides_of_ofLines? (h : ofLines? lines = some layout) :
  layout.Divides lines
  where
  isLeast_contractLine := by
    obtain ⟨hlt, hdeclares, hbefore⟩ :=
      List.findIdx?_eq_some_iff_getElem.mp (findIdx?_eq_contractLine h)
    constructor
    · use lines[layout.contractLine]
      use List.getElem?_eq_getElem hlt
    · intro index hindex line hline
      obtain ⟨hlength, rfl⟩ := List.getElem?_eq_some_iff.mp hline
      apply hbefore index hindex
  preamble_indices := by
    rw [preamble_eq h, List.zipIdx_map_snd, List.length_zipIdx]
  preamble_lines _ _ hmem := getElem?_of_mem_preamble h hmem
  append_bodies := by
    rw [preamble_eq h, functions_eq h, Function.flatMap_body_split, List.zipIdx_map_fst,
      List.zipIdx_map_fst]
    apply List.takeWhile_append_dropWhile
  body_lines _ _ hmem _ hlt := getElem?_body h hmem hlt
  signatures _ _ hlt hline := opensFunction_iff h hlt hline

theorem ofLines?_eq_none_iff :
  ofLines? lines = none ↔ ∀ line ∈ lines, ¬ isContractDeclaration line = true
  := by
  rw [ofLines?, Option.map_eq_none_iff, List.findIdx?_eq_none_iff]
  simp

/-- Lines with a contract declaration have a layout, which divides them; other lines have none. -/
theorem ofLines?_lossless (lines : List Line) :
  ((∃ line ∈ lines, isContractDeclaration line = true) →
      ∃ layout, ofLines? lines = some layout ∧ layout.Divides lines)
    ∧ (ofLines? lines = none ↔ ∀ line ∈ lines, ¬ isContractDeclaration line = true)
  := by
  refine ⟨?_, ofLines?_eq_none_iff⟩
  rintro ⟨line, hmem, hdeclares⟩
  have hsome : ofLines? lines ≠ none := by
    intro hnone
    apply ofLines?_eq_none_iff.mp hnone line hmem hdeclares
  obtain ⟨layout, hlayout⟩ := Option.ne_none_iff_exists'.mp hsome
  use layout, hlayout
  apply divides_of_ofLines? hlayout

/-- Lines with text before the declaration, a preamble and two functions. -/
theorem ofLines?_lossless_functions :
  (∃ line ∈ ["// C", "contract C \x7b", "uint x;", "function f() \x7b", "x += 1; \x7d",
      "function g() \x7b \x7d", "\x7d"].map String.toList, isContractDeclaration line = true)
    ∧ ∃ layout, ofLines? (["// C", "contract C \x7b", "uint x;", "function f() \x7b",
        "x += 1; \x7d", "function g() \x7b \x7d", "\x7d"].map String.toList) = some layout
      ∧ layout.Divides (["// C", "contract C \x7b", "uint x;", "function f() \x7b",
        "x += 1; \x7d", "function g() \x7b \x7d", "\x7d"].map String.toList)
  := ⟨by decide, (ofLines?_lossless _).1 (by decide)⟩

end Layout

end ContractLint
