import PanelPuzzle.Making.Workbench
/-!
# Remote controls

Buttons that act on other elements: a block of four triangles that move an element in the four
directions, and a single round button for one action.
-/

namespace PanelPuzzle

namespace Remote

/-- The size of a button. -/
def buttonSize : Number := 0.8

/-- The distance of a button from the edges of its cell. -/
def buttonOffset : Number := 0.1

/-- A button of a quartet: its column and row in the block, the step that it makes its target
take, and the rotation of its triangle towards that step. -/
structure QuartetButton where
  column : Nat
  row : Nat
  dx : Number
  dy : Number
  rotation : Int32

/-- The four buttons of a quartet: up, right, left and down. -/
def quartet : List QuartetButton :=
  [⟨0, 0, 0, -1, 0⟩, ⟨1, 0, 1, 0, 2⟩, ⟨0, 1, -1, 0, 6⟩, ⟨1, 1, 0, 1, 4⟩]

/-- The button of a quartet in the block at a rectangle. -/
def QuartetButton.element (b : QuartetButton) (plain : Element) (r : Rect) (color : UInt8)
    (targetId : String) : Element :=
  let placed := plain.moveTo (.ofNat (r.x + b.column) + buttonOffset)
    (.ofNat (r.y + b.row) + buttonOffset)
  ({ placed with elevation := .raised, color := .plain color, rotation := b.rotation }.interact
    .tap .none 0).addAction (.moveStep targetId b.dx b.dy)

/-- Puts the buttons of a quartet on the panel. -/
def pushQuartet (r : Rect) (color : UInt8) (targetId : String) :
    List QuartetButton → Making Unit
  | [] => pure ()
  | b :: others => do
    let plain ← Session.newElement .triangle buttonSize buttonSize
    let _ ← Making.push (b.element plain r color targetId)
    pushQuartet r color targetId others

/-- **Adds the four buttons that move an element,** if the panel may have one more remote
mechanism and has room for it. -/
def addControllers (targetId : String) : Making Bool := do
  if !(← Making.draft).hasRemoteSlot then
    Making.note (.noRemoteSlot targetId)
    pure false
  else
    match ← Making.allocateCells 2 2 with
    | none =>
      Making.note (.noRoomForRemote targetId)
      pure false
    | some r =>
      let color ← Session.randomColor
      pushQuartet r color targetId quartet
      Making.modifyDraft fun d => { d with remoteSets := d.remoteSets + 1 }
      Making.note (.remotePlaced targetId r.x r.y)
      pure true

/-- **Adds a button for one action,** if there is room for it, and answers its place. -/
def addButton (action : Action) : Making (Option Nat) := do
  match ← Making.allocate .circle buttonSize buttonSize with
  | none => pure none
  | some r =>
    let plain ← Session.newElement .circle buttonSize buttonSize
    let placed := plain.moveTo (.ofNat r.x + buttonOffset) (.ofNat r.y + buttonOffset)
    let color ← Session.randomColor
    let button := ({ placed with elevation := .raised, color := .plain color }.interact
      .tap .none 0).addAction action
    let place ← Making.push button
    pure (some place)

end Remote

end PanelPuzzle
