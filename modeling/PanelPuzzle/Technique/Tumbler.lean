import PanelPuzzle.Making.Workbench
/-!
# Tumblers

A tumbler is a sunken lock for a key of its color, which is on a later panel.  With the key in it
the player holds the tumbler until it has made half a turn.
-/

namespace PanelPuzzle.Technique

/-- The size of a tumbler and of its key. -/
def tumblerSize : Number := 2

/-- The eighths of a turn that open a tumbler. -/
def tumblerTurns : Int32 := 4

/-- Places a tumbler and leaves its key to the pool. -/
def tumbler : Making Bool := do
  match ← Making.allocate .tumbler tumblerSize tumblerSize with
  | none =>
    Making.note .noRoomForTumbler
    pure false
  | some r =>
    let color ← Session.randomColor
    let socket ← Making.newSocket .tumbler tumblerSize tumblerSize color r
    Making.note (.tumblerPlaced socket.id socket.x socket.y)
    Making.pushCoverable
      ({ socket with comparison := some .strict }.interact .hold .rotate tumblerTurns) .socket
    Making.depositPlug .key tumblerSize tumblerSize color
    pure true

end PanelPuzzle.Technique
