import PanelPuzzle.Element
/-!
# Panels and puzzles

A puzzle is a stack of panels over a message, the innermost panel first.  Later elements of a
panel lie on top of earlier ones.
-/

namespace PanelPuzzle

/-- One layer of a puzzle. -/
structure Panel where
  /-- The name of the color theme. -/
  theme : String
  /-- The elements, from the bottom to the top. -/
  elements : List Element := []
  deriving DecidableEq, Inhabited

namespace Panel

/-- The first element with a given id. -/
def find? (panel : Panel) (id : String) : Option Element := panel.elements.find? (·.id = id)

/-- Whether the panel has something to solve. -/
def hasGoal (panel : Panel) : Bool := panel.elements.any Element.isGoal

/-- Whether an element of the panel moves the element with a given id. -/
def movesRemotely (panel : Panel) (id : String) : Bool :=
  panel.elements.any fun e => e.actions.any (·.moves id)

/-- Whether two panels agree, their numbers by value. -/
def same (a b : Panel) : Bool :=
  a.theme = b.theme && a.elements.length = b.elements.length &&
    (a.elements.zip b.elements).all fun (p, q) => p.same q

end Panel

/-- A complete puzzle. -/
structure Puzzle where
  /-- What the player reads at the end. -/
  message : String
  /-- The name of the reward that goes with the message. -/
  reward : Option String
  /-- The panels, from the innermost to the outermost. -/
  panels : List Panel
  deriving DecidableEq, Inhabited

namespace Puzzle

/-- The first element with a given id, and the place of its panel. -/
def find? (puzzle : Puzzle) (id : String) : Option (Nat × Element) :=
  puzzle.panels.zipIdx.findSome? fun (panel, i) => (panel.find? id).map fun e => (i, e)

/-- The number of elements of all panels. -/
def elementCount (puzzle : Puzzle) : Nat :=
  (puzzle.panels.map (·.elements.length)).foldl (· + ·) 0

/-- Whether two puzzles agree, their numbers by value. -/
def same (a b : Puzzle) : Bool :=
  a.message = b.message && a.reward = b.reward && a.panels.length = b.panels.length &&
    (a.panels.zip b.panels).all fun (p, q) => p.same q

end Puzzle

end PanelPuzzle
