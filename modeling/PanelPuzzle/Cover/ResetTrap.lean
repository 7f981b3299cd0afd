import PanelPuzzle.Making.Remote
/-!
# Reset traps

A button that brings a socket, and what fills it, back to the start.  Pressed at the wrong time it
undoes what the player has reached.
-/

namespace PanelPuzzle.Cover

/-- Whether a socket is worth a trap: it has none yet, and the player acts on it or it is filled at
the start. -/
def isTrappable (d : Draft) (e : Element) : Bool :=
  e.isSocket && !d.resetTargets.contains e.id &&
    (e.method ≠ .none || d.filledSockets.contains e.id)

/-- The ids of the sockets that may get a trap. -/
def trapCandidates (d : Draft) : List String := (d.elements.filter (isTrappable d)).map (·.id)

/-- Adds a trap for a random socket, if there is one and room for the button. -/
def resetTrap : Making Bool := do
  match ← Draws.choose (trapCandidates (← Making.draft)) with
  | none => pure false
  | some id =>
    match ← Remote.addButton (.reset id) with
    | none => pure false
    | some _ =>
      Making.note (.resetTrap id)
      Making.modifyDraft fun d => { d with resetTargets := d.resetTargets ++ [id] }
      pure true

end PanelPuzzle.Cover
