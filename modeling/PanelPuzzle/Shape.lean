import PanelPuzzle.Number.Basic
/-!
# Shapes

The thirteen shapes of panel elements, with the letter that starts their ids, the factor between
their size and the room they take, and the cells that they cover.
-/

namespace PanelPuzzle

/-- The tolerance between sizes that count as equal. -/
def tolerance : Number := 1e-6

/-- The number of cells on each side of a panel. -/
def gridSize : Nat := 8

/-- The shape of an element. -/
inductive Shape where
  | circle
  | rectangle
  | triangle
  | screw
  | switch
  | plus
  | diamond
  | tumbler
  | key
  | semicircleLeft
  | semicircleRight
  | semicircleTop
  | semicircleBottom
  deriving DecidableEq, Inhabited

namespace Shape

/-- Every shape, in the order of the tables. -/
def all : List Shape :=
  [circle, rectangle, triangle, screw, switch, plus, diamond, tumbler, key, semicircleLeft,
    semicircleRight, semicircleTop, semicircleBottom]

theorem mem_all (s : Shape) : s ∈ all := by cases s <;> decide

/-- The name of a shape in exported data. -/
def name : Shape → String
  | circle => "Circle"
  | rectangle => "Rectangle"
  | triangle => "Triangle"
  | screw => "Screw"
  | switch => "Switch"
  | plus => "Plus"
  | diamond => "Diamond"
  | tumbler => "Tumbler"
  | key => "Key"
  | semicircleLeft => "SemicircleLeft"
  | semicircleRight => "SemicircleRight"
  | semicircleTop => "SemicircleTop"
  | semicircleBottom => "SemicircleBottom"

/-- The letter that starts the ids of elements of a shape. -/
def code : Shape → Char
  | circle => 'c'
  | rectangle => 'r'
  | triangle => 't'
  | screw => 's'
  | switch => 'w'
  | plus => 'p'
  | diamond => 'd'
  | tumbler => 'u'
  | key => 'k'
  | semicircleLeft => 'l'
  | semicircleRight => 'g'
  | semicircleTop => 'm'
  | semicircleBottom => 'v'

/-- The shape with a given code letter. -/
def ofCode? (letter : Char) : Option Shape := all.find? (·.code = letter)

/-- The shape with a given name. -/
def ofName? (name : String) : Option Shape := all.find? (·.name = name)

theorem ofCode?_code (s : Shape) : ofCode? s.code = some s := by cases s <;> rfl

theorem ofCode?_eq_some_iff {letter : Char} {s : Shape} :
    ofCode? letter = some s ↔ letter = s.code := by
  constructor
  · intro h
    have := List.find?_some h
    simp_all
  · rintro rfl
    exact ofCode?_code s

/-- **The scale of a shape:** the room along a side for a size of one. -/
def scale : Shape → Number
  | screw => .finite (5 / 4)
  | tumbler => .finite (3 / 2)
  | key => .finite (3 / 4)
  | _ => .finite 1

/-- Whether elements of a shape can be dragged into a socket. -/
def draggable : Shape → Bool
  | screw | switch | tumbler => false
  | _ => true

/-- Whether a shape is one of the halves of a circle. -/
def isHalf : Shape → Bool
  | semicircleLeft | semicircleRight | semicircleTop | semicircleBottom => true
  | _ => false

/-- Whether a socket of this shape takes plugs of another: its own shape, and a tumbler takes
keys. -/
def accepts (socket plug : Shape) : Bool :=
  socket = plug || (socket = tumbler && plug = key)

/-- The cells that a side of a given size takes at a given scale, at least one. -/
def cellsAlong (scale size : Number) : Nat :=
  max (size * scale - tolerance).ceilNat 1

/-- **The cells, across and down, that an element covers.**  A switch has one more column, for the
ball of its slider. -/
def footprint (s : Shape) (width height : Number) : Nat × Nat :=
  (cellsAlong s.scale width + (if s = switch then 1 else 0), cellsAlong s.scale height)

end Shape

end PanelPuzzle
