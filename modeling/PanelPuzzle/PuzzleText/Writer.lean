import PanelPuzzle.Puzzle
import PanelPuzzle.Number.Decimal
/-!
# Writing a puzzle

The text of a puzzle is its message followed by its panels, each after a slash.  A panel is its
theme, a colon and its elements, with commas between them.  An element is a row of words:

    id size position rotation color [comparison] [method [change [target]]] [id clause]...

* `Element.words` — the words of an element; the interaction is written out, even if there is
  none, as soon as an action follows it.
* `Element.shown` — the size and position that are written, moved into the panel.
* `Puzzle.text` — the whole text.
-/

namespace PanelPuzzle

/-! ## Words -/

/-- Two numbers with an `x` between them. -/
def pairWord (a b : Number) : String := a.twoDecimals ++ "x" ++ b.twoDecimals

/-- The word for a color. -/
def Color.word : Color → String
  | plain color => toString color.toNat
  | switch unsatisfied satisfied none => s!"{unsatisfied.toNat}-{satisfied.toNat}"
  | switch unsatisfied satisfied (some ball) =>
    s!"{unsatisfied.toNat}-{satisfied.toNat}-{ball.toNat}"
  | themeCycle target ball => s!"x-{target.toNat}-{ball.toNat}"

/-- The mark after a position that tells the elevation, and for a flat element the elevation that
it will take. -/
def elevationMark : Elevation → Option Elevation → String
  | .raised, _ => "+"
  | .sunken, _ => "-"
  | .flat, some .raised => "^"
  | .flat, some .sunken => "_"
  | .flat, _ => ""

/-- The word for an integer. -/
def integerWord (n : Int32) : String := toString n.toInt

/-- The words of an interaction.  A move has only one target, so its target is left out, and so is
a change that is none. -/
def interactionWords (method : Method) (change : Change) (target : Int32) : List String :=
  method.keyword :: match change with
    | .none => []
    | .move => [change.keyword]
    | _ => [change.keyword, integerWord target]

/-- The words of an action: the id of the element that is acted on, and a clause. -/
def Action.words : Action → List String
  | moveStep id dx dy => [id, pairWord dx dy]
  | configure id method change target => id :: interactionWords method change target
  | reset id => [id, "reset"]
  | size id => [id, "size"]
  | cycle id => [id, "cycle"]
  | link id => [id, "link"]

/-! ## Elements inside the panel -/

/-- The size and the position of an element. -/
structure Geometry where
  width : Number
  height : Number
  x : Number
  y : Number
  deriving DecidableEq

namespace Element

/-- **What is written of the geometry of an element.**  A size is between a hundredth and what
fills the panel at the scale of the shape, and a position leaves room for that size.  A switch
takes one more column than its size. -/
def shown (e : Element) : Geometry :=
  let side := Number.ofNat gridSize
  let scale := e.shape.scale
  let width := e.width.clamp 0.01 (side / scale)
  let height := e.height.clamp 0.01 (side / scale)
  let across := if e.shape = .switch then width * scale + 1 else width * scale
  { width
    height
    x := e.x.clamp 0 ((side - across).larger 0)
    y := e.y.clamp 0 ((side - height * scale).larger 0) }

/-- Whether the interaction of an element has to be written. -/
def showsInteraction (e : Element) : Bool :=
  e.method ≠ .none || e.change ≠ .none || e.actions ≠ []

/-- The words of an element. -/
def words (e : Element) : List String :=
  let shown := e.shown
  [e.id, pairWord shown.width shown.height,
    pairWord shown.x shown.y ++ elevationMark e.elevation e.elevationTarget,
    integerWord e.rotation, e.color.word] ++
  (e.comparison.map Comparison.symbol).toList ++
  (if e.showsInteraction then interactionWords e.method e.change e.target else []) ++
  e.actions.flatMap Action.words

/-- The text of an element. -/
def text (e : Element) : String := " ".intercalate e.words

end Element

/-! ## Panels and puzzles -/

/-- The text of a panel. -/
def Panel.text (panel : Panel) : String :=
  panel.theme ++ ":" ++ ",".intercalate (panel.elements.map Element.text)

/-- The message of a puzzle with its reward in brackets. -/
def Puzzle.heading (puzzle : Puzzle) : String :=
  match puzzle.reward with
  | none => puzzle.message
  | some reward => puzzle.message ++ " [" ++ reward ++ "]"

/-- The text of a puzzle. -/
def Puzzle.text (puzzle : Puzzle) : String :=
  "/".intercalate (puzzle.heading :: puzzle.panels.map Panel.text)

end PanelPuzzle
