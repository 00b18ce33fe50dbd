import ContractLint.Console.Frame
import ContractLint.Number.Rounding

/-!
# Grids

A grid is a table with a header row.  Every column is as wide as its widest cell, or as wide as it
asks to be; when the grid is wider than the console, its widest columns shrink first, and a grid of
columns that may not shrink loses the same from all of them.
-/

namespace ContractLint.Console

/-- A column of a grid. -/
structure Column where
  /-- The header. -/
  header : Text
  /-- Where the cells stand. -/
  alignment : Align := .left
  /-- The width, without the blanks at both sides; the widest cell gives it otherwise. -/
  width : Option Nat := none
  /-- Whether cells stay on one line. -/
  noWrap : Bool := false

/-- A grid of texts. -/
structure Grid where
  /-- The title above the grid. -/
  title : Option Text := none
  /-- The lines around and between cells. -/
  frame : Frame := .rounded
  /-- The columns. -/
  columns : List Column
  /-- The rows, with a cell for every column. -/
  rows : List (List Text)

/-! ### Widths -/

/-- The characters that end a line when a cell is measured. -/
def endsMeasuredLine (c : Char) : Bool :=
  c == '\n' || (0x1C ≤ c.toNat && c.toNat ≤ 0x1E) || c.toNat == 0x85 || c.toNat == 0x2028
    || c.toNat == 0x2029

/-- The columns of the longest line of a text. -/
def longestLineFrom : Nat → Text → Nat
  | used, [] => used
  | used, c :: rest =>
    if endsMeasuredLine c then max used (longestLineFrom 0 rest)
    else longestLineFrom (used + charCells c) rest

/-- The columns of the longest line of a text. -/
def longestLine (text : Text) : Nat :=
  longestLineFrom 0 (printable text)

/-- The width of a cell with a blank at both sides, within a limit. -/
def cellWidth (limit : Nat) (text : Text) : Nat :=
  if limit < 3 then limit else min limit (longestLine text + 2)

/-- The width of a column with a blank at both sides, within a limit. -/
def columnWidth (limit : Nat) (column : Column) (cells : List Text) : Nat :=
  if limit = 0 then 0
  else
    match column.width with
    | some width => min limit (width + 2)
    | none => ((column.header :: cells).map (cellWidth limit)).foldl max 0

/-- The values less an amount, shared in proportion to ratios; no value loses more than its
maximum. -/
def reduceByRatio : Nat → Nat → List (Nat × Nat × Nat) → List Nat
  | _, _, [] => []
  | remaining, ratios, (ratio, maximum, value) :: rest =>
    if ratio = 0 || ratios = 0 then value :: reduceByRatio remaining ratios rest
    else
      let share := min maximum (roundQuotient (ratio * remaining) ratios)
      (value - share) :: reduceByRatio (remaining - share) (ratios - ratio) rest

/-- Values with ratios and maxima, less a given amount. -/
def reduce (amount : Nat) (items : List (Nat × Nat × Nat)) : List Nat :=
  let items := items.map fun (ratio, maximum, value) =>
    (if maximum = 0 then 0 else ratio, maximum, value)
  reduceByRatio amount (total (items.map (·.1))) items

/-- The widths after the widest of the columns that may shrink were brought down, step by step, to
the next widest, until all columns fit or nothing more can be gained. -/
def shrinkWidest (limit : Nat) (mayShrink : List Bool) : Nat → List Nat → List Nat
  | 0, widths => widths
  | steps + 1, widths =>
    let excess := total widths - limit
    if excess = 0 then widths
    else
      let shrinking := (widths.zip mayShrink).map fun (width, may) => if may then width else 0
      let widest := shrinking.foldl max 0
      let next := (shrinking.filter (· != widest)).foldl max 0
      if widest = next then widths
      else
        let most := min excess (widest - next)
        shrinkWidest limit mayShrink steps <| reduce excess <|
          (widths.zip mayShrink).map fun (width, may) =>
            (if may && width == widest then 1 else 0, most, width)

/-- The widths of the columns of a grid within a limit. -/
def Grid.widths (grid : Grid) (limit : Nat) : List Nat :=
  let measure (limits : List Nat) : List Nat :=
    (grid.columns.zipIdx.zip limits).map fun ((column, index), limit) =>
      columnWidth limit column (grid.rows.map fun row => row.getD index [])
  let natural := (measure (grid.columns.map fun _ => limit)).map (max 1)
  if total natural ≤ limit then natural
  else
    let mayShrink := grid.columns.map fun column => column.width.isNone && !column.noWrap
    let shrunk :=
      if mayShrink.any id then shrinkWidest limit mayShrink (total natural + 1) natural else natural
    let reduced :=
      if total shrunk ≤ limit then shrunk
      else reduce (total shrunk - limit) (shrunk.map fun width => (1, width, width))
    measure reduced

/-! ### Rows -/

/-- The lines of a cell in a column of some width, with a blank at both sides. -/
def cellLines (column : Column) (width : Nat) (text : Text) : List Text :=
  (layText .ellipsis column.alignment column.noWrap (width - 2) text).map fun line =>
    fit width (' ' :: fit (width - 2) line ++ [' '])

/-- The lines of a row, at least one. -/
def rowLines (frame : Frame) (columns : List Column) (widths : List Nat) (row : List Text) :
    List Text :=
  let laid := (columns.zip (widths.zip row)).map fun (column, width, text) =>
    (width, cellLines column width text)
  let height := laid.foldl (fun height (_, lines) => max height lines.length) 1
  (List.range height).map fun index =>
    frame.side.left :: List.intercalate [frame.side.cross]
      (laid.map fun (width, lines) => lines.getD index (blanks width)) ++ [frame.side.right]

/-- The lines of a grid whose columns have some widths. -/
def Grid.linesWith (grid : Grid) (widths : List Nat) : List Text :=
  let row := rowLines grid.frame grid.columns widths
  let title :=
    match grid.title with
    | some title =>
      layText .fold .center false (total widths + grid.columns.length + 1) title
    | none => []
  title ++ [grid.frame.top.draw widths] ++ row (grid.columns.map (·.header))
    ++ [grid.frame.head.draw widths] ++ grid.rows.flatMap row ++ [grid.frame.bottom.draw widths]

/-- The lines of a grid within a number of columns; what does not fit at all is cut off. -/
def Grid.lines (grid : Grid) (limit : Nat) : List Text :=
  (grid.linesWith (grid.widths (limit - (grid.columns.length + 1)))).map (truncate .fold limit)

end ContractLint.Console
