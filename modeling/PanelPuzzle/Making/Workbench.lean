import PanelPuzzle.Making.Session
/-!
# The workbench

A panel is made on a workbench: the draft in front, the session behind it.  Techniques, covers and
the placing of plugs are computations in `Making`, put together from the operations of this file.

* `Making.allocate` — room on the panel for an element.
* `Making.push`, `Making.cover`, `Making.modifyElement` — the elements of the panel.
* `Element.centered` — an element in the middle of its cells.
-/

namespace PanelPuzzle

/-- A draft and the session that it belongs to. -/
structure Workbench where
  draft : Draft
  session : Session

/-- A computation that makes a part of a panel. -/
abbrev Making := StateM Workbench

instance : MonadLift (StateM Session) Making where
  monadLift act := fun b =>
    let (a, session) := act b.session
    (a, { b with session })

/-- An element in the middle of a rectangle, or in its corner if the rectangle is too small. -/
def Element.centered (e : Element) (r : Rect) : Element :=
  let scale := e.shape.scale
  let across := e.width * scale + (if e.shape = .switch then 1 else 0)
  let down := e.height * scale
  e.moveTo (.ofNat r.x + ((.ofNat r.w - across) / 2).larger 0)
    (.ofNat r.y + ((.ofNat r.h - down) / 2).larger 0)

/-- An element in the corner of a rectangle. -/
def Element.cornered (e : Element) (r : Rect) : Element := e.moveTo (.ofNat r.x) (.ofNat r.y)

namespace Making

/-- The draft on the workbench. -/
def draft : Making Draft := do pure (← get).draft

/-- The session of the workbench. -/
def session : Making Session := do pure (← get).session

/-- Changes the draft. -/
def modifyDraft (change : Draft → Draft) : Making Unit :=
  modify fun b => { b with draft := change b.draft }

/-- Records that something happened. -/
def note (event : Event) : Making Unit := Session.note event

/-! ## Room -/

/-- Finds room for a rectangle and claims it. -/
def allocateCells (w h : Nat) : Making (Option Rect) := do
  let (found, grid) ← Grid.allocate w h (← draft).grid
  modifyDraft fun d => { d with grid }
  if found = none ∧ Grid.fitsGrid w h then note (.noCells w h)
  pure found

/-- Finds room for an element of a shape and a size, and claims it. -/
def allocate (shape : Shape) (width height : Number) : Making (Option Rect) :=
  let (w, h) := shape.footprint width height
  allocateCells w h

/-! ## Elements -/

/-- Puts an element on top of the others and answers its place. -/
def push (e : Element) : Making Nat := do
  let place := (← draft).elements.length
  modifyDraft (·.push e)
  pure place

/-- Makes the element at a place coverable. -/
def cover (place : Nat) (role : CoverRole) : Making Unit :=
  modifyDraft (·.coverElement place role)

/-- Puts an element on top of the others and makes it coverable. -/
def pushCoverable (e : Element) (role : CoverRole) : Making Unit := do
  let place ← push e
  cover place role

/-- Changes the element at a place. -/
def modifyElement (place : Nat) (change : Element → Element) : Making Unit :=
  modifyDraft (·.modifyElement place change)

/-- A new sunken socket in the middle of a rectangle. -/
def newSocket (shape : Shape) (width height : Number) (color : UInt8) (r : Rect) :
    Making Element := do
  let plain ← Session.newElement shape width height
  pure { plain.centered r with elevation := .sunken, color := .plain color }

/-- Makes a plug for a socket of this panel and adds it to the pool. -/
def depositPlug (shape : Shape) (width height : Number) (color : UInt8) : Making Unit := do
  Session.depositPlug (← draft).index shape width height color

/-- Repeats a placing up to a number of times, as long as it succeeds; the argument tells whether
it is the first one.  The answer is whether any succeeded. -/
def repeatPlacing (place : Bool → Making Bool) : Nat → Bool → Making Bool
  | 0, first => pure !first
  | count + 1, first => do
    if ← place first then repeatPlacing place count false else pure !first

end Making

end PanelPuzzle
