import PanelPuzzle.Draws.Basic
import PanelPuzzle.Element
/-!
# The grid of a panel

A panel has eight by eight cells.  The grid knows which of them are occupied, and the rectangles
that were claimed on it, in order.

* `Rect.covers` — the cells of a rectangle; `Rect.overlaps` and `Rect.inBounds` are about them.
* `signedCells` — coordinates left of the grid and above it.
* `Grid.reserveRect` — occupies the cells of a rectangle, which may lie partly outside.
* `Grid.isFree` — whether a rectangle lies inside and all its cells are free.
* `Grid.findFree` — room for a rectangle: a few random places first, then all of them in rows.
* `Grid.allocate` — finds room and claims it.
-/

namespace PanelPuzzle

/-! ## Rectangles -/

/-- A rectangle of cells: its upper left cell and how many cells it has across and down. -/
structure Rect where
  x : Nat
  y : Nat
  w : Nat
  h : Nat
  deriving DecidableEq, Inhabited

namespace Rect

/-- Whether a cell belongs to a rectangle. -/
def covers (r : Rect) (x y : Nat) : Bool :=
  r.x ≤ x && x < r.x + r.w && r.y ≤ y && y < r.y + r.h

/-- Whether two rectangles meet in a cell, provided that both have cells. -/
def overlaps (r s : Rect) : Bool :=
  r.x < s.x + s.w && s.x < r.x + r.w && r.y < s.y + s.h && s.y < r.y + r.h

/-- Whether a rectangle lies inside the grid. -/
def inBounds (r : Rect) : Bool := r.x + r.w ≤ gridSize && r.y + r.h ≤ gridSize

end Rect

/-! ## Coordinates

Coordinates and sizes are words of 64 bits.  Where a place left of the grid or above it can be
meant, the greater half of the words stands for the negative numbers.
-/

/-- A coordinate or a size as a signed number of 64 bits. -/
def signedCells (n : Nat) : Int :=
  if n < 9223372036854775808 then n else n - 18446744073709551616

/-- The smaller half of the words stand for themselves. -/
theorem signedCells_of_lt {n : Nat} (h : n < 9223372036854775808) : signedCells n = n := if_pos h

/-! ## Cells -/

/-- The occupied cells of a panel, row by row, and its claims. -/
structure Grid where
  cells : Vector Bool 64 := Vector.replicate 64 false
  /-- The claimed rectangles, the first one first. -/
  claims : List Rect := []
  deriving DecidableEq

namespace Grid

/-- The grid with no cell occupied. -/
def empty : Grid := {}

/-- Whether a cell is occupied.  All cells outside the grid are. -/
def isOccupied (g : Grid) (x y : Nat) : Bool :=
  if h : x < 8 ∧ y < 8 then g.cells[8 * y + x] else true

/-- Occupies the cells of a rectangle that lie in the grid.  Its corner may be outside, and a
rectangle of negative size has no cells. -/
def reserveRect (g : Grid) (x y : Int) (w h : Nat) : Grid :=
  let right := x + signedCells w
  let bottom := y + signedCells h
  { g with cells := Vector.ofFn fun i : Fin 64 =>
      let column : Int := i.val % 8
      let row : Int := i.val / 8
      g.cells[i] || (x ≤ column && column < right && y ≤ row && row < bottom) }

/-- Occupies the cells that an element covers, from the cell that holds its corner. -/
def reserve (g : Grid) (e : Element) : Grid :=
  g.reserveRect e.x.floorInt e.y.floorInt e.footprint.1 e.footprint.2

/-- Occupies the cells of a rectangle and records it. -/
def claim (g : Grid) (r : Rect) : Grid :=
  { g.reserveRect (signedCells r.x) (signedCells r.y) r.w r.h with claims := g.claims ++ [r] }

/-- Whether a rectangle lies inside the grid and has only free cells. -/
def isFree (g : Grid) (r : Rect) : Bool :=
  r.inBounds && (List.range r.h).all fun dy => (List.range r.w).all fun dx =>
    !g.isOccupied (r.x + dx) (r.y + dy)

/-- The number of free cells. -/
def freeCells (g : Grid) : Nat := g.cells.toList.countP (! ·)

/-! ## Room -/

/-- Whether a size is that of a rectangle that has cells and fits an empty grid. -/
def fitsGrid (w h : Nat) : Bool := 0 < w && 0 < h && w ≤ gridSize && h ≤ gridSize

/-- Tries a number of random places for a rectangle. -/
def tryRandom (g : Grid) (w h : Nat) : Nat → StateM Draws (Option Rect)
  | 0 => pure none
  | tries + 1 => do
    let x ← Draws.below (gridSize - w + 1)
    let y ← Draws.below (gridSize - h + 1)
    let r : Rect := ⟨x, y, w, h⟩
    if g.isFree r then pure (some r) else tryRandom g w h tries

/-- Every place of a rectangle in the grid, row by row. -/
def places (w h : Nat) : List Rect :=
  (List.range (gridSize - h + 1)).flatMap fun y =>
    (List.range (gridSize - w + 1)).map fun x => ⟨x, y, w, h⟩

/-- The number of random places that are tried. -/
def randomTries : Nat := 20

/-- **Room for a rectangle of a given size.**  After the random places every place is looked at,
so chance decides where the rectangle goes and not whether it does. -/
def findFree (g : Grid) (w h : Nat) : StateM Draws (Option Rect) :=
  if fitsGrid w h then do
    match ← g.tryRandom w h randomTries with
    | some r => pure (some r)
    | none => pure ((places w h).find? g.isFree)
  else pure none

/-- Finds room for a rectangle and claims it. -/
def allocate (w h : Nat) (g : Grid) : StateM Draws (Option Rect × Grid) := do
  match ← g.findFree w h with
  | some r => pure (some r, g.claim r)
  | none => pure (none, g)

/-- The rows of the grid, with the occupied cells marked. -/
def rows (g : Grid) : List String :=
  (List.range gridSize).map fun y => String.ofList <|
    (List.range gridSize).map fun x => if g.isOccupied x y then '#' else '.'

end Grid

end PanelPuzzle
