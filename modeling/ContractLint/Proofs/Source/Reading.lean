import Mathlib.Data.List.Forall2
import ContractLint.History.Files
import ContractLint.Proofs.Text.Lines
import ContractLint.Proofs.Text.Utf8
import ContractLint.Proofs.Tree.Lookup

/-!
# Reading contract files

A contract file is read by decoding what it holds after a byte order mark.

* A text is read back from its octets, with or without a mark in front of them.
* The lines of the text are decoded one by one: the octets between two line feeds are decoded as if
  there were nothing before and after them.  A line feed is never part of octets that are replaced,
  and octets that are replaced before it are the same as at the end of the file.
-/

namespace ContractLint

namespace Utf8

/-! ### Octets of a text -/

/-- The octets of a character are the bytes of its standard encoding. -/
theorem encodeChar_eq_map (c : Char) :
  encodeChar c = (String.utf8EncodeChar c).map UInt8.toNat
  := by
  have hlt : c.toNat < 0x110000 := by
    have hvalid : c.toNat < 0xD800 ∨ 0xDFFF < c.toNat ∧ c.toNat < 0x110000 := c.valid
    omega
  rw [encodeChar, String.utf8EncodeChar, Char.toNat_val]
  simp only [apply_ite (List.map UInt8.toNat), List.map_cons, List.map_nil, UInt8.toNat_ofNat']
  grind

/-- The octets of a string. -/
def octetsOf (text : String) : List Nat :=
  text.toUTF8.data.toList.map UInt8.toNat

/-- The octets of a string are the encoding of its characters. -/
theorem octetsOf_eq_encode (text : String) :
  octetsOf text = encode text.toList
  := by
  have hencode : text.toUTF8 = (text.toList.flatMap String.utf8EncodeChar).toByteArray := by
    rw [← List.utf8Encode, ← String.toByteArray_ofList, String.ofList_toList]
    rfl
  rw [octetsOf, hencode, List.toList_data_toByteArray, List.map_flatMap, encode]
  apply congrArg text.toList.flatMap
  funext c
  rw [encodeChar_eq_map]

/-- An octet below 0x80 occurs in no other character than the one it is. -/
theorem encodeChar_eq_singleton {c : Char} {octet : Nat} (h : octet ∈ encodeChar c)
    (hlt : octet < 0x80) :
  encodeChar c = [octet]
  := by
  by_cases hone : c.toNat < 0x80
  · rw [encodeChar, if_pos hone, List.mem_singleton] at h
    rw [encodeChar, if_pos hone, h]
  · rw [encodeChar, if_neg hone] at h
    grind

/-! ### Byte order marks -/

/-- The octets of a byte order mark. -/
def byteOrderMark : List Nat :=
  [0xEF, 0xBB, 0xBF]

theorem encodeChar_byteOrderMark :
  encodeChar '\uFEFF' = byteOrderMark
  := rfl

/-- What comes after a byte order mark, if there is one, and all octets if there is none. -/
def IsBody (octets body : List Nat) : Prop :=
  octets = byteOrderMark ++ body ∨ octets = body ∧ ¬ byteOrderMark <+: octets

/-- Every file has a body: its octets without one mark in front. -/
theorem exists_isBody (octets : List Nat) :
  ∃ body, IsBody octets body
  := by
  by_cases hmark : byteOrderMark <+: octets
  · obtain ⟨body, rfl⟩ := hmark
    exact ⟨body, .inl rfl⟩
  · exact ⟨octets, .inr ⟨rfl, hmark⟩⟩

/-- What a file says is the decoding of its body. -/
theorem IsBody.decodeFile_eq {octets body : List Nat} (h : IsBody octets body) :
  decodeFile octets = decode body
  := by
  obtain rfl | ⟨rfl, hmark⟩ := h
  · rfl
  · rw [decodeFile, dropMark]
    rintro rest rfl
    apply hmark
    apply List.prefix_append byteOrderMark rest

/-- The encoding of a text that does not start with a mark is its own body. -/
theorem isBody_encode {text : Text} (h : text.head? ≠ some '\uFEFF') :
  IsBody (encode text) (encode text)
  := by
  right
  use rfl
  rintro ⟨rest, hrest⟩
  have htext : text = '\uFEFF' :: decode rest := by
    rw [← decode_encodeChar_append, encodeChar_byteOrderMark, hrest, decode_encode]
  apply h
  rw [htext]
  rfl

/-! ### Lines -/

theorem splitOn_append_of_not_mem {sep : Nat} {front : List Nat} (h : sep ∉ front)
    (rest : List Nat) :
  (front ++ rest).splitOn sep = (rest.splitOn sep).modifyHead (front ++ ·)
  := by
  obtain ⟨piece, pieces, hsplit⟩ := List.exists_cons_of_ne_nil (List.splitOn_ne_nil sep rest)
  induction front with
  | nil => simp [hsplit]
  | cons octet front ih =>
    rw [List.mem_cons, not_or] at h
    rw [List.cons_append, List.splitOn_cons_eq_if_modifyHead, if_neg (by simpa using Ne.symm h.1),
      ih h.2, hsplit]
    rfl

/-- The first piece of a list stands at its front. -/
theorem prefix_of_splitOn {sep : Nat} {octets piece : List Nat} {pieces : List (List Nat)}
    (h : octets.splitOn sep = piece :: pieces) :
  piece <+: octets
  := by
  induction octets generalizing piece pieces with
  | nil =>
    rw [List.splitOn_nil, List.cons.injEq] at h
    obtain ⟨rfl, -⟩ := h
    apply List.nil_prefix
  | cons octet octets ih =>
    obtain ⟨first, others, hsplit⟩ := List.exists_cons_of_ne_nil (List.splitOn_ne_nil sep octets)
    rw [List.splitOn_cons_eq_if_modifyHead, hsplit] at h
    by_cases hsep : (octet == sep) = true
    · rw [if_pos hsep, List.cons.injEq] at h
      rw [← h.1]
      apply List.nil_prefix
    · rw [if_neg hsep, List.modifyHead_cons, List.cons.injEq] at h
      rw [← h.1, List.cons_prefix_cons]
      use rfl
      apply ih hsplit

/-- A line feed is no octet of any other character. -/
theorem feed_not_mem_encodeChar {c : Char} (h : c ≠ '\n') :
  0x0A ∉ encodeChar c
  := by
  intro hmem
  have hencoded : encodeChar c = encodeChar '\n' := encodeChar_eq_singleton hmem (by decide)
  have hdecoded : c :: decode [] = '\n' :: decode [] := by
    rw [← decode_encodeChar_append, ← decode_encodeChar_append, hencoded]
  apply h (List.cons.inj hdecoded).1

/-- A line feed is in no part of octets that is replaced. -/
theorem IsMaximalSubpart.feed_not_mem {part rest : List Nat} (h : IsMaximalSubpart part rest) :
  0x0A ∉ part
  := by
  intro hmem
  have hfeed : encodeChar '\n' = [0x0A] := rfl
  -- octets with a line feed among them are a line feed, which is a character
  have hpart : part = [0x0A] := by
    obtain ⟨c, hc⟩ | hone := h.initial
    · rw [encodeChar_eq_singleton (hc.subset hmem) (by decide)] at hc
      apply hc.eq_of_length_le
      apply List.length_pos_iff.mpr h.ne_nil
    · obtain ⟨octet, rfl⟩ := List.length_eq_one_iff.mp hone
      rw [List.mem_singleton.mp hmem]
  apply h.unconvertible '\n'
  rw [hfeed, hpart]
  apply List.prefix_append

/-- Pieces that are decoded to lines are still so when the first of each changes together. -/
theorem forall₂_modifyHead {pieces : List (List Nat)} {lines : List Text}
    (h : List.Forall₂ Decoded pieces lines) {f : List Nat → List Nat} {g : Text → Text}
    (hfirst : ∀ piece others line, pieces = piece :: others → Decoded piece line →
      Decoded (f piece) (g line)) :
  List.Forall₂ Decoded (pieces.modifyHead f) (lines.modifyHead g)
  := by
  cases h with
  | nil => exact .nil
  | cons hpiece hothers => exact .cons (hfirst _ _ _ rfl hpiece) hothers

/-- Between two line feeds, octets are decoded by themselves. -/
theorem Decoded.lines {octets : List Nat} {text : Text} (h : Decoded octets text) :
  List.Forall₂ Decoded (octets.splitOn 0x0A) (Text.lines text)
  := by
  induction h with
  | nil => exact .cons .nil .nil
  | @char c rest text _ ih =>
    by_cases hc : c = '\n'
    · subst hc
      rw [Text.lines_cons_newline]
      exact .cons .nil ih
    · rw [splitOn_append_of_not_mem (feed_not_mem_encodeChar hc), Text.lines_cons_of_ne hc]
      apply forall₂_modifyHead ih
      intro piece others line _ hpiece
      exact .char c hpiece
  | @replaced part rest text hpart _ ih =>
    rw [splitOn_append_of_not_mem hpart.feed_not_mem, Text.lines_cons_of_ne (by decide)]
    apply forall₂_modifyHead ih
    intro piece others line hsplit hpiece
    exact .replaced (hpart.of_prefix (prefix_of_splitOn hsplit)) hpiece

/-- The lines of a decoding are the decodings of the pieces between line feeds. -/
theorem lines_decode (octets : List Nat) :
  Text.lines (decode octets) = (octets.splitOn 0x0A).map decode
  := by
  have hlines : List.Forall₂ (fun piece line => decode piece = line) (octets.splitOn 0x0A)
      (Text.lines (decode octets)) :=
    List.Forall₂.imp (fun _ _ => decode_eq_iff.mpr) (decoded_decode octets).lines
  rw [← List.forall₂_map_left_iff, List.forall₂_eq_eq_eq] at hlines
  apply hlines.symm

end Utf8

/-! ### Files -/

namespace FileTree

/-- The file at a path holds some octets. -/
def Holds (tree : FileTree) (current : Place) (path : Path) (octets : List Nat) : Prop :=
  Tree.read tree current (toString path) = .ok (.octets octets)

section
variable {tree : FileTree} {current : Place} {path : Path} {octets body : List Nat}

/-- A file is read as the decoding of its body. -/
theorem Holds.readSource_eq (h : tree.Holds current path octets)
    (hbody : Utf8.IsBody octets body) :
  tree.readSource current path = .ok (Utf8.decode body)
  := by
  rw [readSource, h, ← hbody.decodeFile_eq]
  rfl

end

/-- A file that holds the octets of a text is read as that text, with or without a byte order mark,
unless the text itself begins with one.  Every file of octets can be read, and the lines of its text
are the decoded pieces between the line feeds of what it holds after a mark.  So whatever octets
stand on one line, they change neither the number nor the text of the lines before and after it.
Decoding means that characters are read one after the other and that every maximal ill-formed part
is replaced. -/
theorem readSource_faithful :
  (∀ (tree : FileTree) (current : Place) (path : Path) (text : String),
      text.toList.head? ≠ some '\uFEFF' →
      tree.Holds current path (Utf8.octetsOf text)
        ∨ tree.Holds current path (Utf8.byteOrderMark ++ Utf8.octetsOf text) →
      tree.readSource current path = .ok text.toList)
  ∧ (∀ (tree : FileTree) (current : Place) (path : Path) (octets : List Nat),
      tree.Holds current path octets →
      ∃ body text, Utf8.IsBody octets body ∧ tree.readSource current path = .ok text
        ∧ Text.lines text = (body.splitOn 0x0A).map Utf8.decode)
  ∧ (∀ before after : List (List Nat), ∃ linesBefore linesAfter : List Line,
      linesBefore.length = before.length ∧ linesAfter.length = after.length
      ∧ ∀ (tree : FileTree) (current : Place) (path : Path) (octets body line : List Nat),
        tree.Holds current path octets → Utf8.IsBody octets body →
        body.splitOn 0x0A = before ++ line :: after →
        ∃ text, tree.readSource current path = .ok text
          ∧ Text.lines text = linesBefore ++ Utf8.decode line :: linesAfter)
  ∧ ∀ (octets : List Nat) (text : Text),
      Utf8.decode octets = text ↔ Utf8.Decoded octets text
  := by
  refine ⟨?_, ?_, ?_, fun _ _ => Utf8.decode_eq_iff⟩
  · intro tree current path text hmark hholds
    rw [Utf8.octetsOf_eq_encode] at hholds
    have hread : tree.readSource current path = .ok (Utf8.decode (Utf8.encode text.toList)) := by
      obtain hholds | hholds := hholds
      · apply hholds.readSource_eq (Utf8.isBody_encode hmark)
      · apply hholds.readSource_eq (.inl rfl)
    rw [hread, Utf8.decode_encode]
  · intro tree current path octets hholds
    obtain ⟨body, hbody⟩ := Utf8.exists_isBody octets
    use body, Utf8.decode body, hbody, hholds.readSource_eq hbody
    apply Utf8.lines_decode
  · intro before after
    use before.map Utf8.decode, after.map Utf8.decode, List.length_map _, List.length_map _
    intro tree current path octets body line hholds hbody hsplit
    use Utf8.decode body, hholds.readSource_eq hbody
    rw [Utf8.lines_decode, hsplit, List.map_append, List.map_cons]

/-- A file whose euro sign is cut off by a line feed and whose last line begins no character, and a
file with a clef after a byte order mark. -/
def brokenAndMarked : FileTree :=
  .directory
    [("Broken.sol", .file (.octets [0x61, 0xE2, 0x82, 0x0A, 0xC3, 0xA9, 0x0A, 0xFF])),
      ("Marked.sol", .file (.octets [0xEF, 0xBB, 0xBF, 0xF0, 0x9D, 0x84, 0x9E]))]

theorem readSource_faithful_brokenAndMarked :
  brokenAndMarked.readSource [] (Tree.pathOf ["Marked.sol"]) = .ok ['𝄞']
  ∧ (∃ body text, Utf8.IsBody [0x61, 0xE2, 0x82, 0x0A, 0xC3, 0xA9, 0x0A, 0xFF] body
    ∧ brokenAndMarked.readSource [] (Tree.pathOf ["Broken.sol"]) = .ok text
    ∧ Text.lines text = (body.splitOn 0x0A).map Utf8.decode)
  ∧ ∃ linesBefore linesAfter : List Line, linesBefore.length = 1 ∧ linesAfter.length = 1
    ∧ ∃ text, brokenAndMarked.readSource [] (Tree.pathOf ["Broken.sol"]) = .ok text
      ∧ Text.lines text = linesBefore ++ Utf8.decode [0xC3, 0xA9] :: linesAfter
  := by
  have hproper : Tree.isProper brokenAndMarked = true := by decide
  have hmarked : brokenAndMarked.Holds [] (Tree.pathOf ["Marked.sol"])
      [0xEF, 0xBB, 0xBF, 0xF0, 0x9D, 0x84, 0x9E] :=
    Tree.read_pathOf hproper rfl []
  have hbroken : brokenAndMarked.Holds [] (Tree.pathOf ["Broken.sol"])
      [0x61, 0xE2, 0x82, 0x0A, 0xC3, 0xA9, 0x0A, 0xFF] :=
    Tree.read_pathOf hproper rfl []
  obtain ⟨hback, hlines, hlocal, -⟩ := readSource_faithful
  refine ⟨hback _ _ _ "𝄞" (by decide) (.inr hmarked), hlines _ _ _ _ hbroken, ?_⟩
  obtain ⟨linesBefore, linesAfter, hbefore, hafter, hread⟩ :=
    hlocal [[0x61, 0xE2, 0x82]] [[0xFF]]
  exact ⟨linesBefore, linesAfter, hbefore, hafter,
    hread _ _ _ _ _ _ hbroken (.inr ⟨rfl, by decide⟩) (by decide)⟩

end FileTree

end ContractLint
