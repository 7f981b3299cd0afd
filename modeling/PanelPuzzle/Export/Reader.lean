import PanelPuzzle.Json.Record
import PanelPuzzle.Json.Variant
import PanelPuzzle.Puzzle
/-!
# Importing puzzles

The puzzle that an exported JSON text describes.

* `Puzzle.ofJson` — reads a whole text.
* `Puzzle.reader`, `Element.reader` — the readers it is made of, one for each type.
-/

namespace PanelPuzzle

open JsonReader

/-! ## Small values -/

/-- A small number. -/
def byteReader : JsonReader UInt8 := do
  let n ← integer 0 255
  pure (UInt8.ofNat n.toNat)

/-- An integer field. -/
def intReader : JsonReader Int32 := do
  let n ← integer (-2147483648) 2147483647
  pure (Int32.ofInt n)

/-- A shape. -/
def Shape.reader : JsonReader Shape := choice all name

/-- An elevation. -/
def Elevation.reader : JsonReader Elevation := choice all name

/-- A method. -/
def Method.reader : JsonReader Method := choice all name

/-- A change. -/
def Change.reader : JsonReader Change := choice all name

/-- A comparison. -/
def Comparison.reader : JsonReader Comparison := choice all name

/-! ## Colors -/

/-- The two or three colors of a switch. -/
structure SwitchColors where
  unsatisfied : UInt8 := 0
  satisfied : UInt8 := 0
  ball : Option UInt8 := none

/-- The fields of the colors of a switch. -/
def SwitchColors.fields : List (Field SwitchColors) :=
  [.required "unsatisfied" byteReader fun unsatisfied c => { c with unsatisfied },
    .required "satisfied" byteReader fun satisfied c => { c with satisfied },
    .optional "ball" byteReader fun ball c => { c with ball }]

/-- The fields of a color that runs through the theme: its target and the ball. -/
def cycleFields : List (Field (UInt8 × UInt8)) :=
  [.required "target" byteReader fun target c => (target, c.2),
    .required "ball" byteReader fun ball c => (c.1, ball)]

/-- Colors. -/
def Color.reader : JsonReader Color :=
  variant
    [("Plain", .holding do
        let color ← byteReader
        pure (.plain color)),
      ("Switch", .holding do
        let c ← record SwitchColors.fields {}
        pure (.switch c.unsatisfied c.satisfied c.ball)),
      ("ThemeCycle", .holding do
        let c ← record cycleFields (0, 0)
        pure (.themeCycle c.1 c.2))]

/-! ## Actions -/

/-- What the kinds of actions hold, all together. -/
structure ActionParts where
  targetId : String := ""
  dx : Number := 0
  dy : Number := 0
  method : Method := .none
  change : Change := .none
  target : Int32 := 0

namespace ActionParts

/-- The field for the id of the element that is acted on. -/
def targetField : Field ActionParts :=
  .required "target_id" text fun targetId a => { a with targetId }

/-- The fields of a step. -/
def stepFields : List (Field ActionParts) :=
  [targetField,
    .required "dx" number fun dx a => { a with dx },
    .required "dy" number fun dy a => { a with dy }]

/-- The fields of a configuration. -/
def configureFields : List (Field ActionParts) :=
  [targetField,
    .required "method" Method.reader fun method a => { a with method },
    .required "change" Change.reader fun change a => { a with change },
    .required "target" intReader fun target a => { a with target }]

end ActionParts

/-- A kind of action: the fields it has, and the action they make. -/
def actionVariant (fields : List (Field ActionParts)) (make : ActionParts → Action) :
    Variant Action :=
  .holding do
    let parts ← record fields {}
    pure (make parts)

/-- An action. -/
def Action.reader : JsonReader Action :=
  variant
    [("MoveStep", actionVariant ActionParts.stepFields fun a => .moveStep a.targetId a.dx a.dy),
      ("Configure", actionVariant ActionParts.configureFields
        fun a => .configure a.targetId a.method a.change a.target),
      ("Reset", actionVariant [ActionParts.targetField] fun a => .reset a.targetId),
      ("Size", actionVariant [ActionParts.targetField] fun a => .size a.targetId),
      ("Cycle", actionVariant [ActionParts.targetField] fun a => .cycle a.targetId),
      ("Link", actionVariant [ActionParts.targetField] fun a => .link a.targetId)]

/-! ## Elements, panels and puzzles -/

/-- The fields of an element. -/
def Element.fields : List (Field Element) :=
  [.required "id" text fun id e => { e with id },
    .required "shape" Shape.reader fun shape e => { e with shape },
    .required "width" number fun width e => { e with width },
    .required "height" number fun height e => { e with height },
    .required "x" number fun x e => { e with x },
    .required "y" number fun y e => { e with y },
    .required "elevation" Elevation.reader fun elevation e => { e with elevation },
    .optional "elevation_target" Elevation.reader
      fun elevationTarget e => { e with elevationTarget },
    .required "color" Color.reader fun color e => { e with color },
    .required "rotation" intReader fun rotation e => { e with rotation },
    .required "method" Method.reader fun method e => { e with method },
    .required "change" Change.reader fun change e => { e with change },
    .required "target" intReader fun target e => { e with target },
    .optional "comparison" Comparison.reader fun comparison e => { e with comparison },
    .required "remote_actions" Action.reader.each fun actions e => { e with actions }]

/-- An element. -/
def Element.reader : JsonReader Element := record Element.fields default

/-- The fields of a panel. -/
def Panel.fields : List (Field Panel) :=
  [.required "color_theme" text fun theme p => { p with theme },
    .required "elements" Element.reader.each fun elements p => { p with elements }]

/-- A panel. -/
def Panel.reader : JsonReader Panel := record Panel.fields default

/-- The fields of a puzzle. -/
def Puzzle.fields : List (Field Puzzle) :=
  [.required "message" text fun message p => { p with message },
    .optional "reward" text fun reward p => { p with reward },
    .required "panels" Panel.reader.each fun panels p => { p with panels }]

/-- A puzzle. -/
def Puzzle.reader : JsonReader Puzzle := record Puzzle.fields default

/-- **The puzzle that an exported text describes.** -/
def Puzzle.ofJson (text : String) : Except JsonError Puzzle := readJson Puzzle.reader text

end PanelPuzzle
