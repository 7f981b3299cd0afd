import PanelPuzzle.Draws.Basic
import PanelPuzzle.Maze.Layout
/-!
# Carving a maze

The rooms of a maze are the cells with odd coordinates.  Carving walks from room to room at random,
opening the cell between them, and goes back when all rooms around are open.  The entrance is cut
into the bottom wall, and the exit is the cell farthest from it.
-/

namespace PanelPuzzle

namespace Carving

/-- The rooms next to a room, above, right, below and left, as far as there are any. -/
def nextRooms (width height : Nat) (room : Cell) : List Cell :=
  let (x, y) := room
  (if 3 ≤ y then [(x, y - 2)] else []) ++ (if x + 3 < width then [(x + 2, y)] else []) ++
    (if y + 3 < height then [(x, y + 2)] else []) ++ (if 3 ≤ x then [(x - 2, y)] else [])

/-- The cell between two rooms. -/
def between (a b : Cell) : Cell := ((a.1 + b.1) / 2, (a.2 + b.2) / 2)

/-- The walk through the rooms.  The path back to the first room is a stack; `opened` holds the
open cells. -/
def walk (width height : Nat) : Nat → List Cell → List Cell → StateM Draws (List Cell)
  | 0, _, opened => pure opened
  | _ + 1, [], opened => pure opened
  | fuel + 1, room :: path, opened => do
    let closed := (nextRooms width height room).filter fun next => !opened.contains next
    match ← Draws.choose closed with
    | some next =>
      walk width height fuel (next :: room :: path) (opened ++ [between room next, next])
    | none => walk width height fuel path opened

/-- The closed cells of the first column of rooms from a row upward, up to the first open one. -/
def tunnel (opened : List Cell) : Nat → List Cell
  | 0 => []
  | y + 1 => if opened.contains (1, y + 1) then [] else (1, y + 1) :: tunnel opened y

/-- The places for an entrance: the cells of the bottom row under open cells of the columns of
rooms. -/
def entrances (width height : Nat) (opened : List Cell) : List Nat :=
  (List.range (width - 1)).filter fun x => x % 2 = 1 && opened.contains (x, height - 2)

/-- The first of the farthest cells in a list, or the entrance if no cell is farther. -/
def farthest (found : List (Cell × Nat)) (cells : List Cell) (entrance : Cell) : Cell :=
  (cells.foldl (fun (best : Cell × Nat) c =>
    match found.lookup c with
    | some d => if best.2 < d then (c, d) else best
    | none => best) (entrance, 0)).1

end Carving

open Carving

/-- **A random maze.**  Width and height are at least three. -/
def carveMaze (width height : Nat) : StateM Draws MazeLayout := do
  let column ← Draws.below ((width - 1) / 2)
  let row ← Draws.below ((height - 1) / 2)
  let start : Cell := (1 + 2 * column, 1 + 2 * row)
  -- Every step enters a room for the first time or leaves it for the last time.
  let opened ← walk width height (2 * width * height) [start] [start]
  let bottom := height - 1
  let chosen ← Draws.choose (entrances width height opened)
  let opened := match chosen with
    | some _ => opened
    | none => opened ++ tunnel opened (bottom - 1)
  let entrance : Cell := (chosen.getD 1, bottom)
  let layout : MazeLayout :=
    { width, height, openCells := opened ++ [entrance], entrance, exit := entrance }
  pure { layout with exit := farthest (layout.reachable entrance) layout.cells entrance }

end PanelPuzzle
