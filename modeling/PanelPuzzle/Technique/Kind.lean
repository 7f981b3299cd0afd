/-!
# Kinds of mechanisms

The mechanisms that a panel can receive, by name, with the order in which they are applied.
-/

namespace PanelPuzzle

/-- A kind of mechanism that a panel can receive. -/
inductive TechniqueKind where
  | group
  | hole
  | maze
  | screw
  | semicircle
  | switch
  | switchPattern
  | tumbler
  deriving DecidableEq, Inhabited

namespace TechniqueKind

/-- Every kind, in alphabetical order. -/
def all : List TechniqueKind :=
  [group, hole, maze, screw, semicircle, switch, switchPattern, tumbler]

/-- The name of a kind. -/
def name : TechniqueKind → String
  | group => "group"
  | hole => "hole"
  | maze => "maze"
  | screw => "screw"
  | semicircle => "semicircle"
  | switch => "switch"
  | switchPattern => "switch_pattern"
  | tumbler => "tumbler"

/-- The kind with a given name. -/
def ofName? (name : String) : Option TechniqueKind := all.find? (·.name = name)

/-- How early a kind is applied: the higher the earlier, while there is still room. -/
def priority : TechniqueKind → Nat
  | maze => 10
  | group => 8
  | tumbler => 6
  | semicircle => 5
  | screw => 4
  | hole => 3
  | switchPattern => 2
  | switch => 1

/-- Whether a kind makes sockets and leaves their plugs to later panels. -/
def makesPlugs : TechniqueKind → Bool
  | hole | screw | semicircle | tumbler => true
  | group | maze | switch | switchPattern => false

end TechniqueKind

end PanelPuzzle
