import PanelPuzzle.Cover.Style
import PanelPuzzle.Difficulty
import PanelPuzzle.Making.Draft
import PanelPuzzle.Maze.Layout
import PanelPuzzle.Number.Decimal
import PanelPuzzle.Technique.Pattern
/-!
# Events of the making

What happens while a puzzle is made, for those who want to follow it.  An event is data; its
wording is one function, and nothing that is made depends on it.
-/

namespace PanelPuzzle

/-- Something that happened. -/
inductive Event where
  | generating (panels : Nat) (difficulty : Difficulty)
  | panel (index : Nat) (theme : String)
  | extraPanel (index : Nat) (theme : String) (left : Nat)
  | plugsPlaced (placed quota left : Nat)
  | technique (kind : TechniqueKind) (applied : Bool)
  | noGoal
  | plugDropped (id : String) (origin : Nat)
  | uselessPanel (index : Nat)
  | noCells (w h : Nat)
  | drawingRow (text : String)
  | plugDeposited (id : String) (origin : Nat)
  | noRoomForPlug (id : String)
  | plugDraggable (id : String)
  | plugPlaced (id : String) (origin x y : Nat)
  | noRemoteSlot (id : String)
  | noRoomForRemote (id : String)
  | remotePlaced (id : String) (x y : Nat)
  | switchReleases (switchId id : String)
  | resetTrap (id : String)
  | lidEnlarged (x y : Nat)
  | covered (style : CoverStyle) (id : String) (role : CoverRole)
  | coverImpossible (style : CoverStyle) (id : String)
  | screwPlaced (id holeId : String) (x y : Nat)
  | noRoomForTumbler
  | tumblerPlaced (id : String) (x y : Number)
  | switchPlaced (id : String) (target : Nat)
  | noRoomForMaze
  | mazePlaced (width height x y : Nat) (entrance exit : Cell)
  | noRoomForSemicircle
  | semicirclePlaced (id : String) (size : Number)
  | noPlugToHide
  | noRoomForGroup (id : String)
  | groupPlaced (rows columns : Nat) (pattern : TilePattern) (x y keys : Nat)
  | switchPattern (pattern : TargetPattern) (targets : List Nat)
  | noRoomForMaster
  | holePlaced (id : String) (width height x y : Number)

namespace Event

/-- The layout of numbers in events: always written out, whole numbers without a point. -/
def layout : Number.DigitLayout := ⟨-400, 400, false⟩

/-- A number in an event. -/
def number (a : Number) : String := (a.write? layout).getD a.twoDecimals

/-- Whether an event tells of something that went wrong. -/
def isWarning : Event → Bool
  | plugDropped .. | uselessPanel .. => true
  | _ => false

/-- The wording of an event. -/
def message : Event → String
  | generating panels difficulty => s!"Generating {panels} panels, difficulty {difficulty.keyword}"
  | panel index theme => s!"Panel {index}, theme {theme}"
  | extraPanel index theme left => s!"Extra panel {index}, theme {theme}, {left} plug(s) left"
  | plugsPlaced placed quota left => s!"  {placed}/{quota} plug(s) placed, {left} in the pool"
  | technique kind true => s!"  Technique {kind.name}: applied"
  | technique kind false => s!"  Technique {kind.name}: skipped"
  | noGoal => "  No goal, adding a switch"
  | plugDropped id origin => s!"Plug {id} from panel {origin} dropped: no panel can hold it"
  | uselessPanel index => s!"Extra panel {index} cannot hold any of the leftover plugs"
  | noCells w h => s!"No room for {w}x{h} cells"
  | drawingRow text => s!"    {text}"
  | plugDeposited id origin => s!"    Plug {id} deposited by panel {origin}"
  | noRoomForPlug id => s!"    No room for plug {id}"
  | plugDraggable id => s!"    Plug {id} is draggable: no room for its remote controls"
  | plugPlaced id origin x y => s!"    Plug {id} from panel {origin} at {x},{y}"
  | noRemoteSlot id => s!"    No remote slot left for {id}"
  | noRoomForRemote id => s!"    No room for the remote controls of {id}"
  | remotePlaced id x y => s!"    Remote controls for {id} at {x},{y}"
  | switchReleases switchId id => s!"    Switch {switchId} releases {id}"
  | resetTrap id => s!"    Reset trap on {id}"
  | lidEnlarged x y => s!"    Lid enlarged over {x},{y}"
  | covered style id role => s!"    Cover {style.name} on {id} ({role.name})"
  | coverImpossible style id => s!"    Cover {style.name} on {id} not possible"
  | screwPlaced id holeId x y => s!"    Screw {id} over hole {holeId} at {x},{y}"
  | noRoomForTumbler => "    No room for a tumbler"
  | tumblerPlaced id x y => s!"    Tumbler {id} at {number x},{number y}"
  | switchPlaced id target => s!"    Switch {id} with target {target}"
  | noRoomForMaze => "    No room for a maze"
  | mazePlaced width height x y entrance exit =>
    s!"    Maze {width}x{height} at {x},{y} entrance ({entrance.1}, {entrance.2}) " ++
      s!"exit ({exit.1}, {exit.2})"
  | noRoomForSemicircle => "    No room for a semicircle socket"
  | semicirclePlaced id size => s!"    Semicircle socket {id} {number size}x{number size}"
  | noPlugToHide => "    No plug to hide in a group"
  | noRoomForGroup id => s!"    No room for a group of {id}"
  | groupPlaced rows columns pattern x y keys =>
    s!"    Group {rows}x{columns} {pattern.name} at {x},{y} with {keys} key(s)"
  | switchPattern pattern targets =>
    s!"    Switch pattern {pattern.name} [" ++ ", ".intercalate (targets.map toString) ++ "]"
  | noRoomForMaster => "    No room for the master switch"
  | holePlaced id width height x y =>
    s!"    Hole {id} {number width}x{number height} at {number x},{number y}"

end Event

end PanelPuzzle
