import PanelPuzzle.Shape
/-!
# Elements

An element is a shape with a size and a place on a panel, what the player can do to it, and what
it does to others.

* `Color`, `Elevation` — how it looks.
* `Method`, `Change` — how the player acts on it and what that changes.
* `Comparison` — which plugs a socket takes; an element with a comparison is a socket.
* `Action` — what an element does to another one, named by its id.
* `Element.isGoal` — whether the player has something to achieve with it.
-/

namespace PanelPuzzle

/-! ## Parts of an element -/

/-- The height of an element over its panel. -/
inductive Elevation where
  | flat
  | raised
  | sunken
  deriving DecidableEq, Inhabited

namespace Elevation

/-- Every elevation. -/
def all : List Elevation := [flat, raised, sunken]

/-- The name of an elevation in exported data. -/
def name : Elevation → String
  | flat => "Flat"
  | raised => "Raised"
  | sunken => "Sunken"

end Elevation

/-- The colors of an element, by number. -/
inductive Color where
  /-- One color. -/
  | plain (color : UInt8)
  /-- The colors of a switch before and after it is satisfied, and of the ball of its slider. -/
  | switch (unsatisfied satisfied : UInt8) (ball : Option UInt8)
  /-- A color that runs through the theme up to its target, and the ball of the slider. -/
  | themeCycle (target ball : UInt8)
  deriving DecidableEq

instance : Inhabited Color := ⟨.plain 0⟩

/-- The color that is matched against a socket. -/
def Color.primary : Color → UInt8
  | plain color => color
  | switch _ satisfied _ => satisfied
  | themeCycle target _ => target

/-- How the player acts on an element. -/
inductive Method where
  | none
  | tap
  | hold
  | drag
  deriving DecidableEq, Inhabited

namespace Method

/-- Every method. -/
def all : List Method := [none, tap, hold, drag]

/-- The name of a method in exported data. -/
def name : Method → String
  | none => "None"
  | tap => "Tap"
  | hold => "Hold"
  | drag => "Drag"

/-- The word for a method in a puzzle. -/
def keyword : Method → String
  | none => "none"
  | tap => "tap"
  | hold => "hold"
  | drag => "drag"

/-- The method with a given word. -/
def ofKeyword? (word : String) : Option Method := all.find? (·.keyword = word)

theorem ofKeyword?_keyword (m : Method) : ofKeyword? m.keyword = some m := by cases m <;> decide

end Method

/-- What an act of the player changes about an element. -/
inductive Change where
  | none
  | color
  | rotate
  | state
  | size
  | move
  deriving DecidableEq, Inhabited

namespace Change

/-- Every change. -/
def all : List Change := [none, color, rotate, state, size, move]

/-- The name of a change in exported data. -/
def name : Change → String
  | none => "None"
  | color => "Color"
  | rotate => "Rotate"
  | state => "State"
  | size => "Size"
  | move => "Move"

/-- The word for a change in a puzzle. -/
def keyword : Change → String
  | none => "none"
  | color => "color"
  | rotate => "rotate"
  | state => "state"
  | size => "size"
  | move => "move"

/-- The change with a given word.  The absence of a change is told by leaving the word out, so the
word for it is not read. -/
def ofKeyword? (word : String) : Option Change :=
  (all.filter (· ≠ none)).find? (·.keyword = word)

theorem ofKeyword?_keyword {c : Change} (h : c ≠ none) : ofKeyword? c.keyword = some c := by
  cases c <;> first | contradiction | decide

/-- The target that goes with a change: a move has one target only, and no change has none. -/
def settle (change : Change) (target : Int32) : Int32 :=
  match change with
  | none => 0
  | move => 1
  | _ => target

end Change

/-- Which plugs a socket takes. -/
inductive Comparison where
  /-- The same shape and size. -/
  | equal
  /-- The same shape, size and color. -/
  | strict
  /-- A plug that is at least as large as the socket. -/
  | greaterOrEqual
  /-- A plug that is at most as large as the socket. -/
  | lessOrEqual
  deriving DecidableEq, Inhabited

namespace Comparison

/-- Every comparison. -/
def all : List Comparison := [equal, strict, greaterOrEqual, lessOrEqual]

/-- The name of a comparison in exported data. -/
def name : Comparison → String
  | equal => "Equal"
  | strict => "Strict"
  | greaterOrEqual => "GreaterOrEqual"
  | lessOrEqual => "LessOrEqual"

/-- The symbol of a comparison in a puzzle. -/
def symbol : Comparison → String
  | equal => "="
  | strict => "=="
  | greaterOrEqual => ">="
  | lessOrEqual => "<="

/-- The comparison with a given symbol. -/
def ofSymbol? (symbol : String) : Option Comparison := all.find? (·.symbol = symbol)

theorem ofSymbol?_symbol (c : Comparison) : ofSymbol? c.symbol = some c := by cases c <;> decide

end Comparison

/-- **What an element does to another one** when the player has brought it to its target. -/
inductive Action where
  /-- Moves the other element by a vector. -/
  | moveStep (targetId : String) (dx dy : Number)
  /-- Changes how the other element can be acted on. -/
  | configure (targetId : String) (method : Method) (change : Change) (target : Int32)
  /-- Brings the other element, and what fills it, back to the start. -/
  | reset (targetId : String)
  /-- Brings the other element to its next size. -/
  | size (targetId : String)
  /-- Brings the other element to the next color of the theme. -/
  | cycle (targetId : String)
  /-- Lets this element be satisfied only after the other one. -/
  | link (targetId : String)
  deriving DecidableEq, Inhabited

namespace Action

/-- The id of the element that is acted on. -/
def targetId : Action → String
  | moveStep id .. | configure id .. | reset id | size id | cycle id | link id => id

/-- The action that lets the player drag an element. -/
def release (targetId : String) : Action := configure targetId .drag .none 0

/-- Whether an action moves the element with a given id. -/
def moves (id : String) : Action → Bool
  | moveStep targetId .. => targetId = id
  | _ => false

/-- Whether two actions agree, their vectors by value. -/
def same : Action → Action → Bool
  | moveStep id dx dy, moveStep id' dx' dy' => id = id' && dx.same dx' && dy.same dy'
  | a, b => a = b

end Action

/-! ## Elements -/

/-- An element of a panel. -/
structure Element where
  /-- The code letter of the shape and a number. -/
  id : String
  shape : Shape
  /-- The size, before the scale of the shape. -/
  width : Number
  height : Number
  /-- The distance from the left edge of the panel. -/
  x : Number := 0
  /-- The distance from the upper edge of the panel. -/
  y : Number := 0
  elevation : Elevation := .flat
  /-- The elevation that the element takes once the player has acted on it. -/
  elevationTarget : Option Elevation := none
  color : Color := .plain 0
  /-- The rotation in eighths of a turn. -/
  rotation : Int32 := 0
  method : Method := .none
  change : Change := .none
  /-- The state that the player has to reach. -/
  target : Int32 := 0
  /-- Which plugs the element takes, if it is a socket. -/
  comparison : Option Comparison := none
  actions : List Action := []
  deriving DecidableEq, Inhabited

namespace Element

/-- The cells, across and down, that an element covers. -/
def footprint (e : Element) : Nat × Nat := e.shape.footprint e.width e.height

/-- The element at a position, which is rounded to two decimals. -/
def moveTo (e : Element) (x y : Number) : Element := { e with x := x.roundTwo, y := y.roundTwo }

/-- The element with another way to act on it. -/
def interact (e : Element) (method : Method) (change : Change) (target : Int32) : Element :=
  { e with method, change, target := change.settle target }

/-- The element with one more action, after those it has. -/
def addAction (e : Element) (action : Action) : Element :=
  { e with actions := e.actions ++ [action] }

/-- Whether the element is a socket. -/
def isSocket (e : Element) : Bool := e.comparison.isSome

/-- **Whether the player has something to achieve with the element:** to fill it, to move it, or
to bring it to a target above zero. -/
def isGoal (e : Element) : Bool :=
  e.isSocket || e.change = .move || (e.change ≠ .none && 0 < e.target)

/-- Whether two elements agree, their numbers by value. -/
def same (a b : Element) : Bool :=
  a.width.same b.width && a.height.same b.height && a.x.same b.x && a.y.same b.y &&
    a.actions.length = b.actions.length &&
    (a.actions.zip b.actions).all (fun (p, q) => p.same q) &&
    a = { b with width := a.width, height := a.height, x := a.x, y := a.y, actions := a.actions }

end Element

end PanelPuzzle
