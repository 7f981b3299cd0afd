import PanelPuzzle.Making.Remote
/-!
# Lids and tiles

Two covers hide something under a rectangle of its size: a single lid with one of several ways to
remove it, and a ring of identical tiles, so that the player does not know which one to remove.
Instead of the ring a switch gets a lid that is too large for it.
-/

namespace PanelPuzzle.Cover

/-! ## A single lid -/

/-- How a lid is removed. -/
inductive Gate where
  /-- Remote controls move it. -/
  | remote
  /-- The player drags it. -/
  | drag
  /-- A tap loosens it, then it can be dragged. -/
  | tap
  /-- It turns while the player holds it, then it can be dragged. -/
  | rotate
  deriving DecidableEq

/-- The gates that need no remote controls. -/
def plainGates : List Gate := [.drag, .tap, .rotate]

/-- A lid with its gate.  A lid for remote controls has no way to act on it. -/
def Gate.fit (gate : Gate) (lid : Element) : Element :=
  match gate with
  | remote => lid
  | drag => lid.interact .drag .none 0
  | tap => (lid.interact .tap .state 1).addAction (.release lid.id)
  | rotate => (lid.interact .hold .rotate 2).addAction (.release lid.id)

/-- A gate by chance: on a panel that may have one more remote mechanism every second lid is for
remote controls. -/
def chooseGate : Making Gate := do
  let remote ←
    if (← Making.draft).hasRemoteSlot then (Session.chance 0.5 : StateM Session Bool)
    else pure false
  if remote then pure .remote
  else
    let number ← Draws.below plainGates.length
    pure (plainGates.getD number .drag)

/-- A new raised rectangle over the cells of another one. -/
def newTile (r : Rect) : StateM Session Element := do
  let plain ← Session.newElement .rectangle (.ofNat r.w) (.ofNat r.h)
  pure { plain.cornered r with elevation := .raised }

/-- Puts a lid over the cells of a coverable.  A lid whose remote controls find no room can be
dragged instead. -/
def physical (target : Nat) : Making Bool := do
  match (← Making.draft).coverables[target]? with
  | none => pure false
  | some c =>
    let plain ← newTile c.footprint
    let color ← Session.randomColor
    let gate ← chooseGate
    let lid := gate.fit { plain with color := .plain color }
    let place ← Making.push lid
    if gate = .remote then
      if !(← Remote.addControllers lid.id) then
        Making.modifyElement place (·.interact .drag .none 0)
    pure true

/-! ## Identical tiles -/

/-- The least number of tiles around a coverable. -/
def leastRing : Nat := 2

/-- The rectangles of the same size around a rectangle, row by row, as far as they do not leave
the grid on the left or above. -/
def around (r : Rect) : List Rect :=
  let steps : List (Int × Int) :=
    [(-1, -1), (0, -1), (1, -1), (-1, 0), (1, 0), (-1, 1), (0, 1), (1, 1)]
  steps.filterMap fun (across, down) =>
    let x := signedCells r.x + across * signedCells r.w
    let y := signedCells r.y + down * signedCells r.h
    if 0 ≤ x ∧ 0 ≤ y then some ⟨x.toNat, y.toNat, r.w, r.h⟩ else none

/-- The free rectangles of the same size around a rectangle. -/
def ringAround (g : Grid) (r : Rect) : List Rect := (around r).filter g.isFree

/-- The strips along the sides of a rectangle, each with the rectangle that it makes larger. -/
def strips (r : Rect) : List (Rect × Rect) :=
  [(⟨r.x + r.w, r.y, 1, r.h⟩, ⟨r.x, r.y, r.w + 1, r.h⟩),
    (⟨r.x, r.y + r.h, r.w, 1⟩, ⟨r.x, r.y, r.w, r.h + 1⟩)] ++
  (if 0 < r.x then [(⟨r.x - 1, r.y, 1, r.h⟩, ⟨r.x - 1, r.y, r.w + 1, r.h⟩)] else []) ++
  (if 0 < r.y then [(⟨r.x, r.y - 1, r.w, 1⟩, ⟨r.x, r.y - 1, r.w, r.h + 1⟩)] else [])

/-- A tile of a color that can be dragged. -/
def newDraggable (r : Rect) (color : UInt8) : StateM Session Element := do
  let plain ← newTile r
  pure ({ plain with color := .plain color }.interact .drag .none 0)

/-- Claims the rectangles of a ring and puts a tile on each. -/
def placeRing (color : UInt8) : List Rect → Making Unit
  | [] => pure ()
  | r :: others => do
    Making.modifyDraft (·.claim r)
    let tile ← newDraggable r color
    let _ ← Making.push tile
    placeRing color others

/-- The rectangle of the lid over a switch: its cells and a free strip beside them, which is
claimed. -/
def enlarge (r : Rect) : Making Rect := do
  let grid := (← Making.draft).grid
  match (strips r).find? fun (strip, _) => grid.isFree strip with
  | none => pure r
  | some (strip, enlarged) =>
    Making.note (.lidEnlarged strip.x strip.y)
    Making.modifyDraft (·.claim strip)
    pure enlarged

/-- Hides a coverable under one of several identical tiles, or a switch under a lid. -/
def groupObscure (target : Nat) : Making Bool := do
  match (← Making.draft).coverables[target]? with
  | none => pure false
  | some c =>
    let color ← Session.randomColor
    if c.role = .switch then
      let r ← enlarge c.footprint
      let lid ← newDraggable r color
      let _ ← Making.push lid
      pure true
    else
      let ring := ringAround (← Making.draft).grid c.footprint
      if ring.length < leastRing then pure false
      else
        placeRing color ring
        let lid ← newDraggable c.footprint color
        let _ ← Making.push lid
        pure true

end PanelPuzzle.Cover
