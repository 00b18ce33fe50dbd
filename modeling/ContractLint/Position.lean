/-!
# Positions

Lines of a text and columns of a line are counted from one.  A position is kept as the number of
things before it, so that there is none before the first.
-/

namespace ContractLint

/-- A position counted from one. -/
structure Position where
  /-- The number of things before this one. -/
  index : Nat
  deriving DecidableEq, Repr

namespace Position

/-- The first position. -/
def first : Position := ⟨0⟩

/-- The number of a position, at least one. -/
def number (position : Position) : Nat :=
  position.index + 1

/-- The position with a number, if the number is at least one. -/
def ofInt? : Int → Option Position
  | .ofNat (index + 1) => some ⟨index⟩
  | _ => none

/-- How far two positions are apart. -/
def distance (a b : Position) : Nat :=
  (a.index - b.index) + (b.index - a.index)

theorem ofInt?_number (position : Position) :
  ofInt? position.number = some position
  := rfl

end Position

end ContractLint
