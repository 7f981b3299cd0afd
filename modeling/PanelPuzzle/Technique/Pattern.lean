import PanelPuzzle.Draws.Basic
/-!
# Patterns

Two choices that make a mechanism look regular: which cells of a block of tiles are filled, and
which targets a row of linked switches has.
-/

namespace PanelPuzzle

/-! ## Tiles -/

/-- Which cells of a block get a tile. -/
inductive TilePattern where
  | all
  | checkerboard
  | sparse
  deriving DecidableEq, Inhabited

namespace TilePattern

/-- Every pattern. -/
def values : List TilePattern := [all, checkerboard, sparse]

/-- The name of a pattern. -/
def name : TilePattern → String
  | all => "All"
  | checkerboard => "Checkerboard"
  | sparse => "Sparse"

/-- The cells of a block by row and column, row by row. -/
def block (rows columns : Nat) : List (Nat × Nat) :=
  (List.range rows).flatMap fun r => (List.range columns).map fun c => (r, c)

/-- The items of a list for which a chance comes true. -/
def keepByChance {α : Type} (probability : Number) : List α → StateM Draws (List α)
  | [] => pure []
  | a :: rest => do
    let kept ← Draws.chance probability
    let others ← keepByChance probability rest
    pure (if kept then a :: others else others)

/-- The cells that a pattern fills before there are enough of them. -/
def pick (pattern : TilePattern) (rows columns : Nat) : StateM Draws (List (Nat × Nat)) :=
  match pattern with
  | all => pure (block rows columns)
  | checkerboard => pure ((block rows columns).filter fun (r, c) => (r + c) % 2 = 0)
  | sparse => keepByChance 0.3 (block rows columns)

/-- **The cells that get a tile,** row by row.  There are at least three if the block has as many;
the first free cells make up for those that are missing. -/
def cells (pattern : TilePattern) (rows columns : Nat) : StateM Draws (List (Nat × Nat)) := do
  let picked ← pattern.pick rows columns
  let missing := ((block rows columns).filter (!picked.contains ·)).take (3 - picked.length)
  pure ((block rows columns).filter (picked ++ missing).contains)

end TilePattern

/-! ## Targets of switches -/

/-- The number of states of a switch. -/
def switchStates : Nat := 4

/-- How the targets of linked switches are chosen. -/
inductive TargetPattern where
  /-- All targets are the same. -/
  | identical
  /-- The targets go up. -/
  | increasing
  /-- The targets go down. -/
  | decreasing
  /-- Each switch shows its state by a color of the theme and is driven by a button. -/
  | themeColored
  deriving DecidableEq, Inhabited

namespace TargetPattern

/-- Every pattern. -/
def values : List TargetPattern := [identical, increasing, decreasing, themeColored]

/-- The name of a pattern. -/
def name : TargetPattern → String
  | identical => "Identical"
  | increasing => "Increasing"
  | decreasing => "Decreasing"
  | themeColored => "ThemeColored"

/-- Random targets above zero. -/
def randomTargets : Nat → StateM Draws (List Nat)
  | 0 => pure []
  | count + 1 => do
    let target ← Draws.inRange 1 (switchStates - 1)
    let others ← randomTargets count
    pure (target :: others)

/-- **The targets of `count` switches.**  A pattern that goes up or down uses each target above
zero at most once, so it may have fewer. -/
def targets (pattern : TargetPattern) (count : Nat) : StateM Draws (List Nat) :=
  let top := switchStates - 1
  let ordered := min count top
  match pattern with
  | identical => do
    let target ← Draws.inRange 1 top
    pure (List.replicate count target)
  | increasing => pure ((List.range ordered).map (· + 1))
  | decreasing => pure ((List.range ordered).map (top - ·))
  | themeColored => randomTargets count

end TargetPattern

end PanelPuzzle
