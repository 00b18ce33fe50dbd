import Mathlib.Data.List.Forall2
import ContractLint.Contract.Review
import ContractLint.Proofs.Contract.Division

/-!
# The locality of functions

A signature closes the function before it and opens the next one, so the functions of a contract
can be read piece by piece: those before a signature, the one that the signature opens, and those
from the next signature on.  Hence an edit of the lines after one signature is seen by its function
only; the functions after it are the same at other indices, and so are their findings.
-/

namespace ContractLint

open Signature

/-! ### Functions piece by piece -/

namespace Function

/-- Lines that a signature follows end with that signature. -/
theorem ownLines_append_signature {signature : Line} (h : opensFunction signature = true)
    (front rest : List Line) :
  ownLines (front ++ signature :: rest) = ownLines front
  := by
  induction front with
  | nil =>
    apply List.takeWhile_cons_of_neg
    simp [h]
  | cons line front ih =>
    rw [ownLines] at ih
    rw [List.cons_append, ownLines, ownLines, List.takeWhile_cons, List.takeWhile_cons, ih]
    rfl

/-- Lines without a signature, up to the next signature or to the end. -/
theorem ownLines_append {own after : List Line} (hown : ∀ line ∈ own, ¬ opensFunction line = true)
    (hafter : ∀ line ∈ after.head?, opensFunction line = true) :
  ownLines (own ++ after) = own
  := by
  have hend : ownLines after = [] := by
    cases after with
    | nil => rfl
    | cons signature rest =>
      apply ownLines_append_signature (hafter signature rfl) [] rest
  rw [ownLines] at hend
  rw [ownLines, List.takeWhile_append_of_pos (by simpa using hown), hend, List.append_nil]

variable {ι : Type}

/-- A signature divides the functions: none of them has lines on both sides of it. -/
theorem split_append_signature {signature : Line} (h : opensFunction signature = true) (number : ι)
    (front rest : List (Line × ι)) :
  split (front ++ (signature, number) :: rest)
    = split front ++ split ((signature, number) :: rest)
  := by
  induction front with
  | nil => rfl
  | cons entry front ih =>
    obtain ⟨line, first⟩ := entry
    by_cases hline : opensFunction line = true
    · rw [List.cons_append, split_cons_of_opensFunction hline, split_cons_of_opensFunction hline,
        ih, List.map_append, List.map_cons, ownLines_append_signature h]
      rfl
    · rw [List.cons_append, split_cons_of_not_opensFunction hline,
        split_cons_of_not_opensFunction hline, ih]

theorem split_append_of_not_opensFunction {own : List (Line × ι)}
    (h : ∀ entry ∈ own, ¬ opensFunction entry.1 = true) (rest : List (Line × ι)) :
  split (own ++ rest) = split rest
  := by
  induction own with
  | nil => rfl
  | cons entry own ih =>
    rw [List.forall_mem_cons] at h
    rw [List.cons_append, split_cons_of_not_opensFunction h.1, ih h.2]

/-- A signature and the lines without one after it are one function, and the functions after them
are those of the lines that follow. -/
theorem split_signature_append {signature : Line} (h : opensFunction signature = true)
    {own after : List Line} (hown : ∀ line ∈ own, ¬ opensFunction line = true)
    (hafter : ∀ line ∈ after.head?, opensFunction line = true) (start : Nat) :
  split ((signature :: (own ++ after)).zipIdx start)
    = ((ofSignature signature).addLines own, start)
      :: split (after.zipIdx (start + 1 + own.length))
  := by
  rw [List.zipIdx_cons, split_cons_of_opensFunction h, List.zipIdx_map_fst,
    ownLines_append hown hafter, List.zipIdx_append, split_append_of_not_opensFunction]
  rintro ⟨line, index⟩ hentry
  apply hown line (List.fst_mem_of_mem_zipIdx hentry)

/-- A function with its index, and the same function at an index that is `shift` lines further
on. -/
def MovedBy (shift : Int) (entry entry' : Function × Nat) : Prop :=
  entry'.1 = entry.1 ∧ (entry'.2 : Int) = entry.2 + shift

/-- The functions among lines are the same wherever the lines are numbered from. -/
theorem forall₂_movedBy_split (lines : List Line) (start start' : Nat) :
  List.Forall₂ (MovedBy (start' - start)) (split (lines.zipIdx start))
    (split (lines.zipIdx start'))
  := by
  induction lines generalizing start start' with
  | nil => apply List.Forall₂.nil
  | cons line lines ih =>
    have hshift : ((start' + 1 : Nat) : Int) - ((start + 1 : Nat) : Int) = start' - start := by
      omega
    have hrest := ih (start + 1) (start' + 1)
    rw [hshift] at hrest
    rw [List.zipIdx_cons, List.zipIdx_cons]
    by_cases hline : opensFunction line = true
    · rw [split_cons_of_opensFunction hline, split_cons_of_opensFunction hline]
      apply List.Forall₂.cons
      · constructor
        · rw [List.zipIdx_map_fst, List.zipIdx_map_fst]
        · dsimp only
          omega
      · apply hrest
    · rw [split_cons_of_not_opensFunction hline, split_cons_of_not_opensFunction hline]
      apply hrest

theorem le_of_mem_split_zipIdx {lines : List Line} {start : Nat} {entry : Function × Nat}
    (h : entry ∈ split (lines.zipIdx start)) :
  start ≤ entry.2 ∧ entry.2 < start + lines.length
  := by
  obtain ⟨offset, line, hindex, hline, -, -⟩ := mem_split_zipIdx.mp h
  have hlt := (List.getElem?_eq_some_iff.mp hline).1
  omega

end Function

/-! ### Layouts piece by piece -/

namespace Layout

theorem exists_ofLines? {lines : List Line}
    (h : ∃ line ∈ lines, isContractDeclaration line = true) :
  ∃ layout, ofLines? lines = some layout
  := by
  obtain ⟨line, hmem, hdeclares⟩ := h
  apply Option.ne_none_iff_exists'.mp
  intro hnone
  apply ofLines?_eq_none_iff.mp hnone line hmem hdeclares

/-- The layout of lines up to a signature is kept when the function of the signature and further
functions come after them. -/
theorem ofLines?_append_function {before : List Line} {layout : Layout}
    (h : ofLines? before = some layout) {signature : Line}
    (hsignature : opensFunction signature = true) {own after : List Line}
    (hown : ∀ line ∈ own, ¬ opensFunction line = true)
    (hafter : ∀ line ∈ after.head?, opensFunction line = true) :
  ofLines? (before ++ signature :: (own ++ after))
    = some { layout with functions := layout.functions
      ++ ((Function.ofSignature signature).addLines own, before.length)
        :: Function.split (after.zipIdx (before.length + 1 + own.length)) }
  := by
  obtain ⟨contractLine, hfind, rfl⟩ := Option.map_eq_some_iff.mp h
  have hlt : contractLine < before.length := (List.findIdx?_eq_some_iff_getElem.mp hfind).1
  have hlength : contractLine + 1 + (before.drop (contractLine + 1)).length = before.length := by
    rw [List.length_drop]
    omega
  rw [ofLines?, List.findIdx?_append, hfind]
  simp only [Option.some_or, Option.map_some, Option.some.injEq, mk.injEq, true_and,
    List.drop_append_of_le_length (Nat.succ_le_of_lt hlt)]
  constructor
  · rw [Function.takeWhile_zipIdx, Function.takeWhile_zipIdx,
      Function.ownLines_append_signature hsignature]
  · rw [List.zipIdx_append, hlength, List.zipIdx_cons,
      Function.split_append_signature hsignature, ← List.zipIdx_cons,
      Function.split_signature_append hsignature hown hafter]

end Layout

/-! ### Findings -/

/-- A finding, and the same finding `shift` lines further on. -/
def Finding.MovedBy (shift : Int) (finding finding' : Finding) : Prop :=
  (finding'.line.number : Int) = finding.line.number + shift
    ∧ finding' = { finding with location := { finding.location with line := finding'.line } }

section
variable {source source' : Source} (hoffset : source'.offset = source.offset)
include hoffset

theorem Source.position_congr (index : Nat) :
  source'.position index = source.position index
  := by rw [Source.position, Source.position, hoffset]

theorem Layout.preambleFindings_congr {layout layout' : Layout}
    (h : layout'.preamble = layout.preamble) :
  layout'.preambleFindings source' = layout.preambleFindings source
  := by
  rw [Layout.preambleFindings, Layout.preambleFindings, h]
  simp only [Source.position_congr hoffset]

/-- The findings of a function move with the function. -/
theorem Function.MovedBy.findings {shift : Int} {entry entry' : Function × Nat}
    (h : Function.MovedBy shift entry entry') (guards : List String) :
  List.Forall₂ (Finding.MovedBy shift) (entry.1.findings guards (source.position entry.2))
    (entry'.1.findings guards (source'.position entry'.2))
  := by
  rw [h.1, Source.position_congr hoffset, Function.findings, Function.findings,
    List.forall₂_map_left_iff, List.forall₂_map_right_iff, List.forall₂_same]
  intro check _
  constructor
  · have hindex := h.2
    simp only [Check.findingAt, Finding.line, Position.number, Source.position]
    omega
  · rfl

end

namespace Layout

/-- In lines with a contract declaration, the lines after a signature, up to the next one, are
replaced by others without a signature.  Then the contract line and the preamble stay, the functions
before the signature stay, and the functions after it stay but for their indices, which are moved
by the difference of the lengths.  So the findings of the preamble and of all functions but the one
that the signature opens stay, with their lines moved in the same way, whatever the modifiers that
restrict a function to the owner. -/
theorem ofLines?_function_locality {before own own' after : List Line} {signature : Line}
    (hcontract : ∃ line ∈ before, isContractDeclaration line = true)
    (hsignature : opensFunction signature = true)
    (hown : ∀ line ∈ own, ¬ opensFunction line = true)
    (hown' : ∀ line ∈ own', ¬ opensFunction line = true)
    (hafter : ∀ line ∈ after.head?, opensFunction line = true) :
  ∃ (layout layout' : Layout) (earlier later later' : List (Function × Nat)),
    ofLines? (before ++ [signature] ++ own ++ after) = some layout
    ∧ ofLines? (before ++ [signature] ++ own' ++ after) = some layout'
    ∧ layout'.contractLine = layout.contractLine
    ∧ layout'.preamble = layout.preamble
    ∧ layout.functions = earlier
      ++ ((Function.ofSignature signature).addLines own, before.length) :: later
    ∧ layout'.functions = earlier
      ++ ((Function.ofSignature signature).addLines own', before.length) :: later'
    ∧ (∀ entry ∈ earlier, entry.2 < before.length)
    ∧ (∀ entry ∈ later, before.length + own.length < entry.2)
    ∧ List.Forall₂ (Function.MovedBy (own'.length - own.length)) later later'
    ∧ ∀ source source' : Source, source'.offset = source.offset →
      layout'.preambleFindings source' = layout.preambleFindings source
      ∧ ∀ guards : List String,
        (∀ entry ∈ earlier, entry.1.findings guards (source'.position entry.2)
          = entry.1.findings guards (source.position entry.2))
        ∧ List.Forall₂ (fun entry entry' =>
            List.Forall₂ (Finding.MovedBy (own'.length - own.length))
              (entry.1.findings guards (source.position entry.2))
              (entry'.1.findings guards (source'.position entry'.2)))
          later later'
  := by
  obtain ⟨layout, hlayout⟩ := exists_ofLines? hcontract
  have hmoved := Function.forall₂_movedBy_split after (before.length + 1 + own.length)
    (before.length + 1 + own'.length)
  have hshift : ((before.length + 1 + own'.length : Nat) : Int)
      - ((before.length + 1 + own.length : Nat) : Int) = own'.length - own.length := by
    omega
  rw [hshift] at hmoved
  have hlines (own : List Line) : before ++ [signature] ++ own ++ after
      = before ++ signature :: (own ++ after) := by simp
  rw [hlines, hlines]
  refine ⟨_, _, layout.functions, _, _,
    ofLines?_append_function hlayout hsignature hown hafter,
    ofLines?_append_function hlayout hsignature hown' hafter,
    rfl, rfl, rfl, rfl, ?_, ?_, hmoved, ?_⟩
  · intro entry hentry
    rw [functions_eq hlayout] at hentry
    have hlt := (Function.le_of_mem_split_zipIdx hentry).2
    rw [List.length_drop] at hlt
    have hcontractLine :=
      (List.findIdx?_eq_some_iff_getElem.mp (findIdx?_eq_contractLine hlayout)).1
    omega
  · intro entry hentry
    have hle := (Function.le_of_mem_split_zipIdx hentry).1
    omega
  · intro source source' hoffset
    constructor
    · apply preambleFindings_congr hoffset rfl
    · intro guards
      constructor
      · intro entry _
        rw [Source.position_congr hoffset]
      · apply hmoved.imp
        intro entry entry' h
        apply h.findings hoffset

/-- The body of the second of three functions grows by two lines. -/
theorem ofLines?_function_locality_growth :
  (∃ line ∈ ["contract C \x7b", "uint public x;", "function f() public \x7b", "\x7d"].map
      String.toList, isContractDeclaration line = true)
    ∧ opensFunction "function g() payable \x7b".toList = true
    ∧ ∃ (layout layout' : Layout) (earlier later later' : List (Function × Nat)),
      ofLines? (["contract C \x7b", "uint public x;", "function f() public \x7b", "\x7d",
        "function g() payable \x7b", "x += 1; \x7d", "function h() public \x7b", "\x7d"].map
          String.toList) = some layout
      ∧ ofLines? (["contract C \x7b", "uint public x;", "function f() public \x7b", "\x7d",
        "function g() payable \x7b", "a.send(1);", "x -= 1;", "\x7d", "function h() public \x7b",
        "\x7d"].map String.toList) = some layout'
      ∧ layout'.preamble = layout.preamble
      ∧ layout.functions = earlier ++ ((Function.ofSignature "function g() payable \x7b".toList
        ).addLines ["x += 1; \x7d".toList], 4) :: later
      ∧ layout'.functions = earlier ++ ((Function.ofSignature "function g() payable \x7b".toList
        ).addLines (["a.send(1);", "x -= 1;", "\x7d"].map String.toList), 4) :: later'
      ∧ List.Forall₂ (Function.MovedBy 2) later later'
  := by
  have hcontract : ∃ line ∈ ["contract C \x7b", "uint public x;", "function f() public \x7b",
      "\x7d"].map String.toList, isContractDeclaration line = true := by decide
  have hsignature : opensFunction "function g() payable \x7b".toList = true := by decide
  have hown : ∀ line ∈ ["x += 1; \x7d".toList], ¬ opensFunction line = true := by decide
  have hown' : ∀ line ∈ ["a.send(1);", "x -= 1;", "\x7d"].map String.toList,
      ¬ opensFunction line = true := by decide
  have hafter : ∀ line ∈ (["function h() public \x7b", "\x7d"].map String.toList).head?,
      opensFunction line = true := by decide
  obtain ⟨layout, layout', earlier, later, later', hlayout, hlayout', -, hpreamble, hfunctions,
    hfunctions', -, -, hmoved, -⟩ :=
    ofLines?_function_locality hcontract hsignature hown hown' hafter
  use hcontract, hsignature, layout, layout', earlier, later, later', hlayout, hlayout', hpreamble,
    hfunctions, hfunctions'
  apply hmoved

end Layout

end ContractLint
