import PanelPuzzle.Json.Value
import PanelPuzzle.Puzzle
/-!
# Exporting puzzles

A puzzle as a JSON value.  Finite numbers are not rounded and no field is left out, so an export
holds more than the text of a puzzle does.

* `Puzzle.toJson` — the value of a puzzle; the fields come in a fixed order.
-/

namespace PanelPuzzle

open JsonValue

/-- The value of a small number. -/
def byteToJson (n : UInt8) : JsonValue := integer n.toNat

/-- The value of an integer field. -/
def intToJson (n : Int32) : JsonValue := integer n.toInt

/-- The value of colors: a record with the kind of the colors as its only field. -/
def Color.toJson : Color → JsonValue
  | plain color => record [("Plain", byteToJson color)]
  | switch unsatisfied satisfied ball =>
    record [("Switch", record
      [("unsatisfied", byteToJson unsatisfied), ("satisfied", byteToJson satisfied),
        ("ball", optional byteToJson ball)])]
  | themeCycle target ball =>
    record [("ThemeCycle", record [("target", byteToJson target), ("ball", byteToJson ball)])]

/-- The value of an action: a record with the kind of the action as its only field. -/
def Action.toJson : Action → JsonValue
  | moveStep id dx dy =>
    record [("MoveStep", record [("target_id", text id), ("dx", number dx), ("dy", number dy)])]
  | configure id method change target =>
    record [("Configure", record
      [("target_id", text id), ("method", text method.name), ("change", text change.name),
        ("target", intToJson target)])]
  | reset id => record [("Reset", record [("target_id", text id)])]
  | size id => record [("Size", record [("target_id", text id)])]
  | cycle id => record [("Cycle", record [("target_id", text id)])]
  | link id => record [("Link", record [("target_id", text id)])]

/-- The value of an element. -/
def Element.toJson (e : Element) : JsonValue :=
  record
    [("id", text e.id), ("shape", text e.shape.name), ("width", number e.width),
      ("height", number e.height), ("x", number e.x), ("y", number e.y),
      ("elevation", text e.elevation.name),
      ("elevation_target", optional (fun v => text v.name) e.elevationTarget),
      ("color", e.color.toJson), ("rotation", intToJson e.rotation),
      ("method", text e.method.name), ("change", text e.change.name),
      ("target", intToJson e.target),
      ("comparison", optional (fun c => text c.name) e.comparison),
      ("remote_actions", each Action.toJson e.actions)]

/-- The value of a panel. -/
def Panel.toJson (p : Panel) : JsonValue :=
  record [("color_theme", text p.theme), ("elements", each Element.toJson p.elements)]

/-- **The value of a puzzle.** -/
def Puzzle.toJson (p : Puzzle) : JsonValue :=
  record
    [("message", text p.message), ("reward", optional text p.reward),
      ("panels", each Panel.toJson p.panels)]

end PanelPuzzle
