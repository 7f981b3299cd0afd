import PanelPuzzle.Making.Remote
import PanelPuzzle.Technique.Switch
/-!
# Linked switches

A master switch can be satisfied only after all switches that are linked to it.  Their targets
follow a pattern that the player has to find.
-/

namespace PanelPuzzle.Technique

/-- The color that a theme-colored switch shows in a state. -/
def themeStateColor (state : Nat) : UInt8 := UInt8.ofNat (state + 1)

/-- Places a switch of a pattern and answers its id.  A theme-colored switch is driven by a button,
if there is room for one, and then no longer by taps. -/
def placeLinked (pattern : TargetPattern) (target : Nat) : Making (Option String) := do
  match ← Making.allocate .switch 1 1 with
  | none => pure none
  | some r =>
    let plain ← newSwitch r target
    if pattern = .themeColored then
      let ball ← Session.randomColor
      let place ← Making.push { plain with color := .themeCycle (themeStateColor target) ball }
      let button ← Remote.addButton (.cycle plain.id)
      if button.isSome then
        Making.modifyElement place (·.interact .none .state (Int32.ofNat target))
      Making.cover place .switch
    else
      Making.pushCoverable plain .switch
    pure (some plain.id)

/-- Places the switches of a pattern, as long as there is room, and answers their ids. -/
def placeAllLinked (pattern : TargetPattern) : List Nat → Making (List String)
  | [] => pure []
  | target :: targets => do
    match ← placeLinked pattern target with
    | none => pure []
    | some id =>
      let others ← placeAllLinked pattern targets
      pure (id :: others)

/-- Places the master of linked switches, if there is room. -/
def placeMaster (linked : List String) : Making Unit := do
  match ← Making.allocate .switch 1 1 with
  | none => Making.note .noRoomForMaster
  | some r =>
    let plain ← newSwitch r 1
    Making.pushCoverable { plain with actions := plain.actions ++ linked.map Action.link } .switch

/-- Places two to four linked switches and their master. -/
def switchPattern : Making Bool := do
  let number ← Draws.below TargetPattern.values.length
  let pattern := TargetPattern.values.getD number .identical
  let count ← Draws.inRange 2 4
  let targets ← pattern.targets count
  Making.note (.switchPattern pattern targets)
  let linked ← placeAllLinked pattern targets
  if linked = [] then pure false
  else
    placeMaster linked
    pure true

end PanelPuzzle.Technique
