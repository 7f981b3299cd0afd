/-!
# Styles of covers

The ways in which a mechanism can be made harder to find or to reach.
-/

namespace PanelPuzzle

/-- A way of covering something on a panel. -/
inductive CoverStyle where
  /-- A lid over it. -/
  | physical
  /-- A ring of identical tiles, one of them over it. -/
  | groupObscure
  /-- It can be moved only by remote controls. -/
  | remoteOnly
  /-- It is locked until a switch releases it. -/
  | switchRelease
  /-- It starts with a wrong size. -/
  | sizeObscure
  deriving DecidableEq, Inhabited

namespace CoverStyle

/-- Every style. -/
def all : List CoverStyle := [physical, groupObscure, remoteOnly, switchRelease, sizeObscure]

/-- The name of a style. -/
def name : CoverStyle → String
  | physical => "Physical"
  | groupObscure => "GroupObscure"
  | remoteOnly => "RemoteOnly"
  | switchRelease => "SwitchRelease"
  | sizeObscure => "SizeObscure"

end CoverStyle

end PanelPuzzle
