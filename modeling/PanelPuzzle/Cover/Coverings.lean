import PanelPuzzle.Cover.Lid
import PanelPuzzle.Cover.ResetTrap
import PanelPuzzle.Cover.SizeObscure
import PanelPuzzle.Cover.TakeOver
/-!
# Covering a panel

Every coverable of a panel is covered with some chance, by a few covers of random styles that may
lie over one another.  At the end the panel may get a reset trap.
-/

namespace PanelPuzzle

/-- Whether a style can be applied to a coverable.  A lid and a ring can go over anything. -/
def CoverStyle.isLegal (style : CoverStyle) (d : Draft) (target : Coverable) : Bool :=
  match style with
  | physical | groupObscure => true
  | remoteOnly | switchRelease => Cover.canTakeOver d target
  | sizeObscure => Cover.canObscureSize d target

/-- **Covers the coverable at a place,** if the cover finds room. -/
def CoverStyle.apply (style : CoverStyle) (target : Nat) : Making Bool :=
  match style with
  | physical => Cover.physical target
  | groupObscure => Cover.groupObscure target
  | remoteOnly => Cover.remoteOnly target
  | switchRelease => Cover.switchRelease target
  | sizeObscure => Cover.sizeObscure target

namespace Cover

/-- The styles that can be applied to the coverable at a place. -/
def legalStyles (d : Draft) (target : Nat) : List CoverStyle :=
  match d.coverables[target]? with
  | some c => CoverStyle.all.filter (·.isLegal d c)
  | none => []

/-- Applies a cover and records what became of it. -/
def applyNoted (style : CoverStyle) (target : Nat) : Making Bool := do
  let applied ← style.apply target
  match (← Making.draft).coverables[target]? with
  | some c =>
    Making.note (if applied then .covered style c.id c.role else .coverImpossible style c.id)
  | none => pure ()
  pure applied

/-- Applies up to a number of covers to the coverable at a place and answers how many there are. -/
def stack (target : Nat) : Nat → Making Nat
  | 0 => pure 0
  | count + 1 => do
    match ← Draws.choose (legalStyles (← Making.draft) target) with
    | none => pure 0
    | some style =>
      let applied ← applyNoted style target
      let others ← stack target count
      pure (if applied then others + 1 else others)

/-- Covers a coverable if chance, or the session, wants it. -/
def coverByChance (probability : Number) (target : Nat) : Making Nat := do
  let wanted ←
    if (← Making.session).forceCovers then pure true
    else (Session.chance probability : StateM Session Bool)
  if wanted then
    let count ← Draws.inRange 1 (max (← Making.session).profile.stackLimit 1)
    stack target count
  else pure 0

/-- Covers the coverables at several places. -/
def coverEach (probability : Number) : List Nat → Making Nat
  | [] => pure 0
  | target :: targets => do
    let count ← coverByChance probability target
    let others ← coverEach probability targets
    pure (count + others)

/-- **Covers a panel** and answers the number of covers.  Covers are not coverable themselves. -/
def addCoverings (probability : Number) : Making Nat := do
  let count ← coverEach probability (List.range (← Making.draft).coverables.length)
  if ← Session.chance (← Making.session).profile.resetProbability then
    let _ ← resetTrap
  pure count

end Cover

end PanelPuzzle
