import PanelPuzzle.Element
import PanelPuzzle.Number.Decimal
import PanelPuzzle.Text.Integer
import PanelPuzzle.Text.Pieces
/-!
# The words of an element

What a single word means: an id, a pair of numbers, a position, a color, an integer.  Each reading
answers nothing for a word of another kind.
-/

namespace PanelPuzzle

open Text

/-- Whether a word is the id of an element: the code letter of a shape and decimal digits. -/
def isElementId (word : String) : Bool :=
  match word.toList with
  | [] => false
  | letter :: digits => (Shape.ofCode? letter).isSome && digits ≠ [] && digits.all Char.isDigit

/-- Two finite numbers with an `x` between them. -/
def readPair? (word : List Char) : Option (Number × Number) := do
  let (before, after) ← cut? 'x' word
  let a ← Number.readFinite? before
  let b ← Number.readFinite? after
  pure (a, b)

/-- A size: a pair, or one number for both sides. -/
def readSize? (word : String) : Option (Number × Number) :=
  if 'x' ∈ word.toList then readPair? word.toList
  else (Number.readFinite? word.toList).map fun side => (side, side)

/-- A vector, in steps of two decimals. -/
def readVector? (word : String) : Option (Number × Number) :=
  (readPair? word.toList).map fun (dx, dy) => (dx.roundTwo, dy.roundTwo)

/-- The elevations that a mark after a position stands for. -/
def readMark? : Char → Option (Elevation × Option Elevation)
  | '+' => some (.raised, none)
  | '-' => some (.sunken, none)
  | '^' => some (.flat, some .raised)
  | '_' => some (.flat, some .sunken)
  | _ => none

/-- What a position says. -/
structure Position where
  x : Number
  y : Number
  elevation : Elevation
  elevationTarget : Option Elevation
  deriving DecidableEq

/-- A position: a pair with an optional mark for the elevation. -/
def readPosition? (word : String) : Option Position := do
  let text := word.toList
  let last ← text.getLast?
  let (coordinates, elevation, elevationTarget) := match readMark? last with
    | some (elevation, elevationTarget) => (text.dropLast, elevation, elevationTarget)
    | none => (text, .flat, none)
  let (x, y) ← readPair? coordinates
  pure { x := x.roundTwo, y := y.roundTwo, elevation, elevationTarget }

/-- The number of a color. -/
def readColorNumber? (word : List Char) : Option UInt8 :=
  (readNatural? 255 (String.ofList word)).map UInt8.ofNat

/-- A color: numbers with hyphens between them, where an `x` instead of the first of three stands
for the colors of the theme. -/
def readColor? (word : String) : Option Color :=
  match pieces (· = '-') word.toList with
  | [color] => (readColorNumber? color).map Color.plain
  | [unsatisfied, satisfied] => do
    pure (.switch (← readColorNumber? unsatisfied) (← readColorNumber? satisfied) none)
  | [first, second, ball] =>
    if first = ['x'] then do
      pure (.themeCycle (← readColorNumber? second) (← readColorNumber? ball))
    else do
      pure (.switch (← readColorNumber? first) (← readColorNumber? second)
        (some (← readColorNumber? ball)))
  | _ => none

/-- An integer of 32 bits. -/
def readInt32? (word : String) : Option Int32 :=
  (readInteger? (-2147483648) 2147483647 word).map Int32.ofInt

end PanelPuzzle
