import PanelPuzzle.Making.Workbench
/-!
# Groups of identical tiles

One or two plugs of the pool are hidden in a block of flat gray tiles.  A tap on such a key shows
the color of the plug and lets the player drag it away; the other tiles do nothing.
-/

namespace PanelPuzzle.Technique

/-- A plug as a flat gray tile that a tap turns into the plug. -/
def disguise (plug : Element) : Element :=
  ({ plug with
    color := .plain Palette.neutral
    elevation := .flat
    elevationTarget := some .raised }.interact .tap .color
      (Int32.ofNat plug.color.primary.toNat)).addAction (.release plug.id)

/-- Finds room for the first of several blocks that fits, by rows and columns of tiles. -/
def allocateBlock (tile : Nat × Nat) : List (Nat × Nat) → Making (Option (Nat × Nat × Rect))
  | [] => pure none
  | (rows, columns) :: others => do
    match ← Making.allocateCells (columns * tile.1) (rows * tile.2) with
    | some r => pure (some (rows, columns, r))
    | none => allocateBlock tile others

/-- The second key of a group, if there is one: a plug of the same shape and size. -/
def secondKey (panel : Nat) (first : Element) (cellCount : Nat) : StateM Session (List Plug) := do
  if 3 < cellCount then
    if ← Session.chance 0.5 then
      let second ← Session.withdrawWhere panel fun p =>
        p.element.shape = first.shape && p.element.width.same first.width &&
          p.element.height.same first.height
      pure second.toList
    else pure []
  else pure []

/-- Puts a tile on each cell of a group.  `keys` are the plugs with their cells. -/
def placeTiles (panel : Nat) (model : Element) (r : Rect) (tile : Nat × Nat)
    (keys : List ((Nat × Nat) × Plug)) : List (Nat × Nat) → Making Unit
  | [] => pure ()
  | (row, column) :: cells => do
    let place : Rect := ⟨r.x + column * tile.1, r.y + row * tile.2, tile.1, tile.2⟩
    match keys.lookup (row, column) with
    | some plug =>
      Session.recordPlacement plug panel
      let _ ← Making.push ((disguise plug.element).centered place)
    | none =>
      let plain ← Session.newElement model.shape model.width model.height
      let decoy := { plain with color := .plain Palette.neutral }.interact .tap .none 0
      let _ ← Making.push (decoy.centered place)
    placeTiles panel model r tile keys cells

/-- Places a group around a plug of the pool.  The more plugs are waiting the smaller it is.
Without room the plug goes back to the pool. -/
def group : Making Bool := do
  let panel := (← Making.draft).index
  let backlog := (← Making.session).pool.eligible panel
  match ← Session.withdraw panel with
  | none =>
    Making.note .noPlugToHide
    pure false
  | some plug =>
    let tile := plug.element.footprint
    let rows ← Draws.inRange 2 (max (4 - backlog / 3) 2)
    let columns ← Draws.inRange 3 (max (5 - backlog / 4) 3)
    match ← allocateBlock tile [(rows, columns), (2, 3)] with
    | none =>
      Making.note (.noRoomForGroup plug.element.id)
      Session.deposit plug
      pure false
    | some (rows, columns, r) =>
      let number ← Draws.below TilePattern.values.length
      let pattern := TilePattern.values.getD number .all
      let cells ← pattern.cells rows columns
      let second ← secondKey panel plug.element cells.length
      let keys := plug :: second
      let shuffled ← Draws.shuffle cells
      Making.note (.groupPlaced rows columns pattern r.x r.y keys.length)
      placeTiles panel plug.element r tile (shuffled.zip keys) cells
      pure true

end PanelPuzzle.Technique
