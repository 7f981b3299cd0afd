import PanelPuzzle.Technique.Group
import PanelPuzzle.Technique.Hole
import PanelPuzzle.Technique.Maze
import PanelPuzzle.Technique.Screw
import PanelPuzzle.Technique.Semicircle
import PanelPuzzle.Technique.SwitchPattern
import PanelPuzzle.Technique.Tumbler
/-!
# Applying a technique

Each kind of mechanism is placed by its own computation, which answers whether anything was placed.
-/

namespace PanelPuzzle

/-- **Places a mechanism of a kind on the panel.** -/
def TechniqueKind.apply : TechniqueKind → Making Bool
  | group => Technique.group
  | hole => Technique.hole
  | maze => Technique.maze
  | screw => Technique.screw
  | semicircle => Technique.semicircle
  | switch => Technique.switch
  | switchPattern => Technique.switchPattern
  | tumbler => Technique.tumbler

end PanelPuzzle
