import PanelPuzzle.Technique.Apply
/-!
# Populating a panel

A panel receives a few random techniques, those with a high priority first.  The innermost panel
has to leave a plug for the others, so it gets at least one technique that makes plugs, and a few
more holes if that has failed.  A panel without a goal gets a switch.
-/

namespace PanelPuzzle.Generation

/-- Inserts a technique before the first one that has no higher priority. -/
def insertByPriority (kind : TechniqueKind) : List TechniqueKind → List TechniqueKind
  | [] => [kind]
  | other :: others =>
    if other.priority ≤ kind.priority then kind :: other :: others
    else other :: insertByPriority kind others

/-- Techniques in the order of their priority, the highest first. -/
def byPriority (kinds : List TechniqueKind) : List TechniqueKind :=
  kinds.foldr insertByPriority []

/-- Replaces the first of some techniques by one that makes plugs, if none of them does. -/
def requirePlugs (available selected : List TechniqueKind) :
    StateM Draws (List TechniqueKind) := do
  if selected.any (·.makesPlugs) then pure selected
  else
    match ← Draws.choose (available.filter (·.makesPlugs)) with
    | some kind => pure (selected.drop 1 ++ [kind])
    | none => pure selected

/-- The techniques of a panel, in the order in which they are applied. -/
def chooseTechniques (profile : Profile) (innermost : Bool) :
    StateM Draws (List TechniqueKind) := do
  let shuffled ← Draws.shuffle profile.techniques
  let count ← Draws.inRange profile.fewestTechniques profile.mostTechniques
  let selected := shuffled.take count
  let selected ← if innermost then requirePlugs profile.techniques selected else pure selected
  pure (byPriority selected)

/-- Applies techniques in order. -/
def applyAll : List TechniqueKind → Making Unit
  | [] => pure ()
  | kind :: kinds => do
    let applied ← kind.apply
    Making.note (.technique kind applied)
    applyAll kinds

/-- Adds holes until the pool has a plug, up to a number of times. -/
def addHoles : Nat → Making Unit
  | 0 => pure ()
  | attempts + 1 => do
    if (← Making.session).pool.isEmpty then
      let _ ← TechniqueKind.hole.apply
      addHoles attempts

/-- The greatest number of times that holes are added to the innermost panel. -/
def plugAttempts : Nat := 3

/-- Sets whether the panel has to leave a plug. -/
def setRequirePlug (required : Bool) : StateM Session Unit :=
  modify fun s => { s with requirePlug := required }

/-- **Applies random techniques to the panel.** -/
def populate : Making Unit := do
  let innermost := (← Making.draft).index = 0
  let techniques ← chooseTechniques (← Making.session).profile innermost
  setRequirePlug innermost
  applyAll techniques
  if innermost then addHoles plugAttempts
  setRequirePlug false

/-- **Adds a switch to a panel without a goal,** which would be open from the start. -/
def ensureGoal : Making Unit := do
  if !(← Making.draft).panel.hasGoal then
    Making.note .noGoal
    let _ ← TechniqueKind.switch.apply

end PanelPuzzle.Generation
