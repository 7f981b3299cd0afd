/-!
# Maze layouts

A maze is a rectangle of cells, some of them open.  A ball rolls over open cells from the entrance
to the exit.

* `MazeLayout.distances` — the least number of steps to each cell, found in rounds: each round
  reaches the open neighbours of the last round that were not reached before.
* `MazeLayout.wallRuns` — the closed cells as horizontal runs, as long as possible.
* `MazeLayout.corridors` — the open cells between entrance and exit.
-/

namespace PanelPuzzle

/-- A cell of a maze: its column and its row. -/
abbrev Cell := Nat × Nat

/-- A maze with its entrance and its exit. -/
structure MazeLayout where
  width : Nat
  height : Nat
  /-- The cells that are no walls. -/
  openCells : List Cell
  /-- Where the ball starts. -/
  entrance : Cell
  /-- Where the ball has to go. -/
  exit : Cell
  deriving DecidableEq

namespace MazeLayout

/-- Whether a cell is open. -/
def isOpen (m : MazeLayout) (c : Cell) : Bool := m.openCells.contains c

/-- Every cell, row by row. -/
def cells (m : MazeLayout) : List Cell :=
  (List.range m.height).flatMap fun y => (List.range m.width).map fun x => (x, y)

/-! ## Distances -/

/-- The cells beside a cell, inside the maze. -/
def neighbours (m : MazeLayout) (c : Cell) : List Cell :=
  let (x, y) := c
  ((if 0 < y then [(x, y - 1)] else []) ++ [(x + 1, y), (x, y + 1)] ++
    (if 0 < x then [(x - 1, y)] else [])).filter fun (x, y) => x < m.width && y < m.height

/-- The rounds of the search: `frontier` was reached in the last one, at `distance`, and `found`
holds all cells reached so far. -/
def spread (m : MazeLayout) :
    Nat → Nat → List Cell → List (Cell × Nat) → List (Cell × Nat)
  | 0, _, _, found => found
  | rounds + 1, distance, frontier, found =>
    let reached := (frontier.flatMap m.neighbours).filter fun c =>
      m.isOpen c && (found.lookup c).isNone
    let fresh := reached.eraseDups
    if fresh = [] then found
    else spread m rounds (distance + 1) fresh (found ++ fresh.map fun c => (c, distance + 1))

/-- The cells that can be reached from a cell, each with its distance.  No path is longer than the
number of cells. -/
def reachable (m : MazeLayout) (start : Cell) : List (Cell × Nat) :=
  m.spread (m.width * m.height) 0 [start] [(start, 0)]

/-- **The distance of every cell from a cell,** row by row; closed and separate cells have none. -/
def distances (m : MazeLayout) (start : Cell) : List (List (Option Nat)) :=
  let found := m.reachable start
  (List.range m.height).map fun y => (List.range m.width).map fun x => found.lookup (x, y)

/-- Whether the ball can roll from the entrance to the exit. -/
def isConnected (m : MazeLayout) : Bool := ((m.reachable m.entrance).lookup m.exit).isSome

/-! ## Walls and corridors -/

/-- A horizontal run of walls: its first cell and its length. -/
structure WallRun where
  x : Nat
  y : Nat
  length : Nat
  deriving DecidableEq

/-- The runs of closed cells in a row that starts at a column, each by its column and length. -/
def closedRuns : Nat → List Bool → List (Nat × Nat)
  | _, [] => []
  | x, true :: row => closedRuns (x + 1) row
  | x, false :: row =>
    match closedRuns (x + 1) row with
    | (start, length) :: others =>
      if start = x + 1 then (x, length + 1) :: others else (x, 1) :: (start, length) :: others
    | [] => [(x, 1)]

/-- The open cells of a row. -/
def row (m : MazeLayout) (y : Nat) : List Bool :=
  (List.range m.width).map fun x => m.isOpen (x, y)

/-- **The walls as runs,** row by row and from left to right. -/
def wallRuns (m : MazeLayout) : List WallRun :=
  (List.range m.height).flatMap fun y =>
    (closedRuns 0 (m.row y)).map fun (x, length) => ⟨x, y, length⟩

/-- The open cells other than the entrance and the exit, row by row. -/
def corridors (m : MazeLayout) : List Cell :=
  m.cells.filter fun c => m.isOpen c && c ≠ m.entrance && c ≠ m.exit

/-- A drawing of the maze, row by row. -/
def drawing (m : MazeLayout) : List String :=
  (List.range m.height).map fun y => String.ofList <| (List.range m.width).map fun x =>
    if (x, y) = m.entrance then 'E'
    else if (x, y) = m.exit then 'X'
    else if m.isOpen (x, y) then '.'
    else '#'

end MazeLayout

end PanelPuzzle
