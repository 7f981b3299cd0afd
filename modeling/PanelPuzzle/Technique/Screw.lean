import PanelPuzzle.Making.Workbench
/-!
# Screws

A screw covers a small hole.  The player holds it while it turns and can then drag it away.  The
hole is empty, or a socket whose plug is on a later panel.
-/

namespace PanelPuzzle.Technique

/-- The diameter of a screw. -/
def screwSize : Number := 1.6

/-- The diameter of the hole under a screw. -/
def screwHoleSize : Number := screwSize / 2

/-- Makes a hole into a socket, with its plug in the pool; the socket counts as filled. -/
def fillHole (hole : Element) (color : UInt8) : Making Element := do
  let strict ← Session.chance (← Making.session).profile.strictProbability
  Making.depositPlug .circle screwHoleSize screwHoleSize color
  Making.modifyDraft fun d => { d with filledSockets := d.filledSockets ++ [hole.id] }
  pure { hole with comparison := some (if strict then .strict else .equal) }

/-- Places a screw over its hole.  On a panel that has to leave a plug the first hole is always a
socket. -/
def placeScrew (first : Bool) : Making Bool := do
  match ← Making.allocate .screw screwSize screwSize with
  | none => pure false
  | some r =>
    let offset := (.ofNat r.w - screwHoleSize) / 2
    let color ← Session.randomColor
    let plainHole ← Session.newElement .circle screwHoleSize screwHoleSize
    let placedHole := plainHole.moveTo (.ofNat r.x + offset) (.ofNat r.y + offset)
    let bare := { placedHole with elevation := .sunken, color := .plain color }
    let waits ←
      if (← Making.session).requirePlug && first then pure true
      else (Session.chance 0.5 : StateM Session Bool)
    let hole ← if waits then fillHole bare color else pure bare
    let _ ← Making.push hole
    let plain ← Session.newElement .screw screwSize screwSize
    let screwColor ← Session.randomColor
    let rotation ← Draws.below 8
    let turns ← Draws.inRange 2 4
    let screw := (({ plain.cornered r with
      elevation := .raised
      color := .plain screwColor
      rotation := Int32.ofNat rotation }).interact .hold .rotate (Int32.ofNat turns)).addAction
        (.release plain.id)
    Making.note (.screwPlaced screw.id hole.id r.x r.y)
    Making.pushCoverable screw .mechanism
    pure true

/-- Places one to three screws, as long as there is room. -/
def screw : Making Bool := do
  let count ← Draws.inRange 1 3
  Making.repeatPlacing placeScrew count true

end PanelPuzzle.Technique
