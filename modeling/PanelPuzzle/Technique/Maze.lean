import PanelPuzzle.Making.Workbench
import PanelPuzzle.Maze.Carving
/-!
# Mazes

A carved maze with a ball at its entrance and a socket at its exit.  Its walls are raised bars, and
the row under it stays free, so that the entrance can be reached.
-/

namespace PanelPuzzle.Technique

/-- The sizes of mazes, the largest first. -/
def mazeSizes : List (Nat × Nat) := [(7, 7), (7, 5), (5, 7), (5, 5)]

/-- The size of the ball and of its socket. -/
def ballSize : Number := 0.8

/-- The distance of the ball from the edges of its cell. -/
def ballOffset : Number := (1 - ballSize) / 2

/-- Finds room for the first of several mazes that fits, with a row under it. -/
def allocateMaze : List (Nat × Nat) → Making (Option (Nat × Nat × Rect))
  | [] => pure none
  | (width, height) :: others => do
    match ← Making.allocateCells width (height + 1) with
    | some r => pure (some (width, height, r))
    | none => allocateMaze others

/-- Puts the walls of a maze on the panel. -/
def pushWalls (r : Rect) (color : UInt8) : List MazeLayout.WallRun → Making Unit
  | [] => pure ()
  | run :: others => do
    let plain ← Session.newElement .rectangle (.ofNat run.length) 1
    let _ ← Making.push
      { plain.moveTo (.ofNat (r.x + run.x)) (.ofNat (r.y + run.y)) with
        elevation := .raised, color := .plain color }
    pushWalls r color others

/-- A round element on a cell of a maze. -/
def onCell (plain : Element) (r : Rect) (c : Cell) : Element :=
  plain.moveTo (.ofNat (r.x + c.1) + ballOffset) (.ofNat (r.y + c.2) + ballOffset)

/-- Shows the rows of a drawing as events. -/
def noteRows : List String → StateM Session Unit
  | [] => pure ()
  | row :: rows => do
    Session.note (.drawingRow row)
    noteRows rows

/-- Places a maze.  A cell between entrance and exit can be covered. -/
def maze : Making Bool := do
  let first ← Draws.below mazeSizes.length
  match ← allocateMaze (mazeSizes.drop first) with
  | none =>
    Making.note .noRoomForMaze
    pure false
  | some (width, height, r) =>
    let layout ← carveMaze width height
    Making.note (.mazePlaced width height r.x r.y layout.entrance layout.exit)
    noteRows layout.drawing
    let wallColor ← Session.randomColor
    pushWalls r wallColor layout.wallRuns
    let color ← Session.randomColor
    let plainSocket ← Session.newElement .circle ballSize ballSize
    let _ ← Making.push
      { onCell plainSocket r layout.exit with
        elevation := .sunken, color := .plain color, comparison := some .equal }
    let plainBall ← Session.newElement .circle ballSize ballSize
    let _ ← Making.push
      ({ onCell plainBall r layout.entrance with
        elevation := .raised, color := .plain color }.interact .drag .move 1)
    match ← Draws.choose layout.corridors with
    | some (x, y) =>
      Making.modifyDraft (·.addCoverable
        { id := plainBall.id, footprint := ⟨r.x + x, r.y + y, 1, 1⟩, role := .virtualArea })
    | none => pure ()
    pure true

end PanelPuzzle.Technique
