import PanelPuzzle.Making.Remote
/-!
# Placing plugs

A panel takes plugs from the pool that earlier panels left there.  What finds no room goes back to
the pool.
-/

namespace PanelPuzzle.Generation

/-- **Places a plug on the panel,** if there is room for it.  A remote plug is moved by remote
controls; without room for them it can be dragged like any other. -/
def placePlug (plug : Plug) : Making Bool := do
  let e := plug.element
  match ← Making.allocate e.shape e.width e.height with
  | none =>
    Making.note (.noRoomForPlug e.id)
    pure false
  | some r =>
    let centered := e.centered r
    let place ← Making.push (if plug.remote then { centered with method := .none } else centered)
    let controlled ← if plug.remote then Remote.addControllers e.id else pure false
    if plug.remote && !controlled then
      Making.note (.plugDraggable e.id)
      Making.modifyElement place fun e => { e with method := .drag }
    let count := (← Making.draft).coverables.length
    Making.cover place .plug
    Making.modifyDraft (·.modifyCoverable count fun c => { c with hasRemote := controlled })
    Making.note (.plugPlaced e.id plug.origin r.x r.y)
    pure true

/-- Puts plugs back into the pool. -/
def depositAll : List Plug → StateM Session Unit
  | [] => pure ()
  | plug :: plugs => do
    Session.deposit plug
    depositAll plugs

/-- Takes up to a number of plugs from the pool and answers how many were placed, and those that
were not. -/
def takePlugs : Nat → Making (Nat × List Plug)
  | 0 => pure (0, [])
  | quota + 1 => do
    let panel := (← Making.draft).index
    match ← Session.withdraw panel with
    | none => pure (0, [])
    | some plug =>
      if ← placePlug plug then
        Session.recordPlacement plug panel
        let (placed, rejected) ← takePlugs quota
        pure (placed + 1, rejected)
      else
        let (placed, rejected) ← takePlugs quota
        pure (placed, plug :: rejected)

/-- **Places up to a number of plugs of the pool** and answers how many. -/
def distributePlugs (quota : Nat) : Making Nat := do
  let (placed, rejected) ← takePlugs quota
  depositAll rejected
  pure placed

end PanelPuzzle.Generation
