import PanelPuzzle.Making.Remote
import PanelPuzzle.Technique.Switch
/-!
# Plugs that are not dragged

Two covers take a plug out of the hands of the player: one has it moved by remote controls, the
other locks it until a switch releases it.  Both count as remote mechanisms of the panel.
-/

namespace PanelPuzzle.Cover

/-- Whether a coverable is a raised plug that nothing controls yet, on a panel that may have one
more remote mechanism. -/
def canTakeOver (d : Draft) (target : Coverable) : Bool :=
  target.role = .plug && target.source.isSome && target.elevation = .raised &&
    !target.hasRemote && d.hasRemoteSlot

/-- Takes the way to act on an element away, and records that something else controls it. -/
def takeOver (target source : Nat) : Making Unit := do
  Making.modifyElement source fun e => { e with method := .none }
  Making.modifyDraft (·.modifyCoverable target fun c => { c with hasRemote := true })

/-- Adds remote controls for an element, which then can be moved only by them. -/
def remoteOnly (target : Nat) : Making Bool := do
  match (← Making.draft).sourceOf? target with
  | none => pure false
  | some (source, e) =>
    if ← Remote.addControllers e.id then
      takeOver target source
      pure true
    else pure false

/-- Adds a switch that releases an element, which is locked until then. -/
def switchRelease (target : Nat) : Making Bool := do
  match (← Making.draft).sourceOf? target with
  | none => pure false
  | some (source, e) =>
    match ← Making.allocate .switch 1 1 with
    | none => pure false
    | some r =>
      let plain ← Technique.newSwitch r 1
      let switch := plain.addAction (.release e.id)
      Making.note (.switchReleases switch.id e.id)
      let _ ← Making.push switch
      Making.modifyDraft fun d => { d with remoteSets := d.remoteSets + 1 }
      takeOver target source
      pure true

end PanelPuzzle.Cover
