import PanelPuzzle.Making.Workbench
/-!
# Holes

Up to three sunken sockets of random shapes, each of which waits for a plug of its shape and size
on a later panel.
-/

namespace PanelPuzzle.Technique

/-- The shapes and sizes of holes. -/
def holeKinds : List (Shape × Number × Number) :=
  [(.circle, 1, 1), (.circle, 1.5, 1.5), (.circle, 2, 2), (.rectangle, 1, 1), (.rectangle, 1, 2),
    (.rectangle, 2, 1), (.triangle, 1, 1), (.plus, 1.5, 1.5), (.diamond, 1, 1)]

/-- Places one hole and leaves its plug to the pool. -/
def placeHole : Making Bool := do
  match ← Draws.choose holeKinds with
  | none => pure false
  | some (shape, width, height) =>
    match ← Making.allocate shape width height with
    | none => pure false
    | some r =>
      let color ← Session.randomColor
      let socket ← Making.newSocket shape width height color r
      Making.note (.holePlaced socket.id width height socket.x socket.y)
      Making.pushCoverable { socket with comparison := some .equal } .socket
      Making.depositPlug shape width height color
      pure true

/-- Places one to three holes, as long as there is room. -/
def hole : Making Bool := do
  let count ← Draws.inRange 1 3
  Making.repeatPlacing (fun _ => placeHole) count true

end PanelPuzzle.Technique
