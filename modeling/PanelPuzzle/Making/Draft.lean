import PanelPuzzle.Grid
import PanelPuzzle.Puzzle
/-!
# Panels in the making

While a panel is made, more is known of it than its elements: which cells are taken, what can be
covered, which mechanisms move what.  A `Draft` holds all of this; the panel is what remains of it.
-/

namespace PanelPuzzle

/-- What a coverable thing is to the player. -/
inductive CoverRole where
  /-- A plug that has to be carried to a socket. -/
  | plug
  /-- A socket that waits for a plug. -/
  | socket
  /-- A switch. -/
  | switch
  /-- Another element that the player acts on. -/
  | mechanism
  /-- A place that is no element, such as the corridor of a maze. -/
  | virtualArea
  deriving DecidableEq, Inhabited

namespace CoverRole

/-- Every role. -/
def all : List CoverRole := [plug, socket, switch, mechanism, virtualArea]

/-- The name of a role. -/
def name : CoverRole → String
  | plug => "Plug"
  | socket => "Socket"
  | switch => "Switch"
  | mechanism => "Mechanism"
  | virtualArea => "Virtual"

end CoverRole

/-- Something on a panel that can be covered. -/
structure Coverable where
  /-- The id of the element, or of the element that goes through the place. -/
  id : String
  /-- The cells that it takes. -/
  footprint : Rect
  elevation : Elevation := .flat
  /-- Whether a remote mechanism already controls it. -/
  hasRemote : Bool := false
  /-- The place of the element on the panel; a place that is no element has none. -/
  source : Option Nat := none
  role : CoverRole
  /-- Whether its size at the start was changed. -/
  sizeObscured : Bool := false
  deriving DecidableEq, Inhabited

/-- A panel in the making. -/
structure Draft where
  /-- The place of the panel in the puzzle.  The panel at zero is made first and seen last. -/
  index : Nat
  panel : Panel
  grid : Grid := {}
  /-- The number of remote mechanisms on the panel. -/
  remoteSets : Nat := 0
  coverables : List Coverable := []
  /-- The ids of the sockets that have a reset trap, the oldest first. -/
  resetTargets : List String := []
  /-- The ids of the sockets that are filled at the start. -/
  filledSockets : List String := []
  deriving DecidableEq

/-- The greatest number of remote mechanisms on a panel. -/
def maxRemoteSets : Nat := 2

namespace Draft

/-- An empty draft. -/
def new (index : Nat) (theme : String) : Draft := { index, panel := { theme } }

/-- The elements of the panel. -/
def elements (d : Draft) : List Element := d.panel.elements

/-- The draft with other elements. -/
def withElements (d : Draft) (elements : List Element) : Draft :=
  { d with panel := { d.panel with elements } }

/-- The draft with one more element, on top of the others. -/
def push (d : Draft) (e : Element) : Draft := d.withElements (d.elements ++ [e])

/-- The draft with the element at a place changed. -/
def modifyElement (d : Draft) (place : Nat) (change : Element → Element) : Draft :=
  d.withElements (d.elements.modify place change)

/-- The draft with the coverable at a place changed. -/
def modifyCoverable (d : Draft) (place : Nat) (change : Coverable → Coverable) : Draft :=
  { d with coverables := d.coverables.modify place change }

/-- The draft with one more coverable. -/
def addCoverable (d : Draft) (c : Coverable) : Draft :=
  { d with coverables := d.coverables ++ [c] }

/-- The coverable record of the element at a place. -/
def coverableOf (e : Element) (place : Nat) (role : CoverRole) : Coverable :=
  { id := e.id
    footprint := ⟨e.x.floorNat, e.y.floorNat, e.footprint.1, e.footprint.2⟩
    elevation := e.elevation
    source := some place
    role }

/-- The draft with the element at a place as coverable. -/
def coverElement (d : Draft) (place : Nat) (role : CoverRole) : Draft :=
  match d.elements[place]? with
  | some e => d.addCoverable (coverableOf e place role)
  | none => d

/-- The draft with a rectangle claimed. -/
def claim (d : Draft) (r : Rect) : Draft := { d with grid := d.grid.claim r }

/-- Whether there is room for one more remote mechanism. -/
def hasRemoteSlot (d : Draft) : Bool := d.remoteSets < maxRemoteSets

/-- The place of the first element with a given id. -/
def positionOf? (d : Draft) (id : String) : Option Nat := d.elements.findIdx? (·.id = id)

/-- The element of the coverable at a place, and its own place on the panel. -/
def sourceOf? (d : Draft) (target : Nat) : Option (Nat × Element) := do
  let c ← d.coverables[target]?
  let source ← c.source
  let e ← d.elements[source]?
  pure (source, e)

end Draft

end PanelPuzzle
