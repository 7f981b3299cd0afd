import PanelPuzzle.Making.Workbench
/-!
# Round sockets for two halves

A round socket that only two half circles fill, both from later panels.  A strict one asks for two
halves of its color; to any other one their colors do not matter.
-/

namespace PanelPuzzle.Technique

/-- The diameters of the sockets. -/
def semicircleSizes : List Number := [1.5, 2]

/-- Makes the plugs of the two halves. -/
def depositHalves (color : Option UInt8) : List (Shape × Number × Number) → Making Unit
  | [] => pure ()
  | (shape, width, height) :: others => do
    let chosen ← match color with
      | some color => pure color
      | none => (Session.randomColor : StateM Session UInt8)
    Making.depositPlug shape width height chosen
    depositHalves color others

/-- Places a round socket and leaves its halves to the pool. -/
def semicircle : Making Bool := do
  let size := (← Draws.choose semicircleSizes).getD 1.5
  match ← Making.allocate .circle size size with
  | none =>
    Making.note .noRoomForSemicircle
    pure false
  | some r =>
    let color ← Session.randomColor
    let strict ← Session.chance 0.5
    let socket ← Making.newSocket .circle size size color r
    Making.note (.semicirclePlaced socket.id size)
    Making.pushCoverable
      { socket with comparison := some (if strict then .strict else .equal) } .socket
    let half := size / 2
    let sideways ← Session.chance 0.5
    depositHalves (if strict then some color else none) <|
      if sideways then [(.semicircleLeft, half, size), (.semicircleRight, half, size)]
      else [(.semicircleTop, size, half), (.semicircleBottom, size, half)]
    pure true

end PanelPuzzle.Technique
