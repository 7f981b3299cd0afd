import PanelPuzzle.Making.Workbench
/-!
# Switches

A switch goes through four states as the player taps it.  One whose target is the first state is
satisfied from the start; the first switch of a panel never is.
-/

namespace PanelPuzzle.Technique

/-- A new switch in the corner of a rectangle, with two different colors. -/
def newSwitch (r : Rect) (target : Nat) : Making Element := do
  let plain ← Session.newElement .switch 1 1
  let unsatisfied ← Session.randomColor
  let satisfied ← Session.randomOtherColor unsatisfied
  let ball ← Session.randomColor
  pure ({ plain.cornered r with color := .switch unsatisfied satisfied (some ball) }.interact
    .tap .state (Int32.ofNat target))

/-- Places a switch. -/
def placeSwitch (first : Bool) : Making Bool := do
  match ← Making.allocate .switch 1 1 with
  | none => pure false
  | some r =>
    let target ← Draws.inRange (if first then 1 else 0) (switchStates - 1)
    let switch ← newSwitch r target
    Making.note (.switchPlaced switch.id target)
    Making.pushCoverable switch .switch
    pure true

/-- Places one to four switches, as long as there is room. -/
def switch : Making Bool := do
  let count ← Draws.inRange 1 4
  Making.repeatPlacing placeSwitch count true

end PanelPuzzle.Technique
