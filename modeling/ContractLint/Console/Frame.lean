import ContractLint.Console.Wrap

/-!
# Frames and panels

A frame gives the characters of the lines around and between the cells of a grid.  A panel is a
frame around some lines over the full width, perhaps with a title in its upper edge.
-/

namespace ContractLint.Console

/-- The characters of one horizontal line of a frame. -/
structure Rail where
  /-- The left end. -/
  left : Char
  /-- Along the cells. -/
  fill : Char
  /-- Between two columns. -/
  cross : Char
  /-- The right end. -/
  right : Char

/-- The characters of a frame. -/
structure Frame where
  /-- The upper edge. -/
  top : Rail
  /-- The line under the header. -/
  head : Rail
  /-- The lower edge. -/
  bottom : Rail
  /-- The vertical lines at the left, between cells and at the right. -/
  side : Rail

/-- Thin lines with round corners. -/
def Frame.rounded : Frame where
  top := ⟨'╭', '─', '┬', '╮'⟩
  head := ⟨'├', '─', '┼', '┤'⟩
  bottom := ⟨'╰', '─', '┴', '╯'⟩
  side := ⟨'│', ' ', '│', '│'⟩

/-- A single line under the header. -/
def Frame.simple : Frame where
  top := ⟨' ', ' ', ' ', ' '⟩
  head := ⟨' ', '─', '─', ' '⟩
  bottom := ⟨' ', ' ', ' ', ' '⟩
  side := ⟨' ', ' ', ' ', ' '⟩

/-- A horizontal line over columns of some widths. -/
def Rail.draw (rail : Rail) (widths : List Nat) : Text :=
  rail.left
    :: List.intercalate [rail.cross] (widths.map fun width => List.replicate width rail.fill)
    ++ [rail.right]

/-- The lines with a vertical line at both sides, a blank inside each and padding up to the width of
the panel. -/
def panelBody (frame : Frame) (width : Nat) (lines : List Text) : List Text :=
  lines.map fun line =>
    [frame.side.left, ' '] ++ fit (width - 4) line ++ [' ', frame.side.right]

/-- The upper edge of a panel with a title in its middle. -/
def titleRail (frame : Frame) (width : Nat) (title : Text) : Text :=
  let title := ' ' :: title ++ [' ']
  let room := width - 4
  let shown := if cells title ≤ room then title else crop room title
  let excess := room - cells shown
  [frame.top.left, frame.top.fill] ++ List.replicate (excess / 2) frame.top.fill ++ shown
    ++ List.replicate (excess - excess / 2) frame.top.fill ++ [frame.top.fill, frame.top.right]

/-- A panel of the full width around some lines. -/
def panel (frame : Frame) (width : Nat) (title : Option Text) (lines : List Text) : List Text :=
  let top :=
    match title with
    | some title => if width ≤ 4 then frame.top.draw [width - 2] else titleRail frame width title
    | none => frame.top.draw [width - 2]
  top :: panelBody frame width lines ++ [frame.bottom.draw [width - 2]]

end ContractLint.Console
