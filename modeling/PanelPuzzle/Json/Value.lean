import PanelPuzzle.Json.Quoted
import PanelPuzzle.Number.Decimal
/-!
# JSON values and their text

What puzzles and batches are exported as.  A value has a text on one line and a text with each part
on a line of its own; the two differ in white space only.

* `JsonValue` — a value; the fields of a record are written in the order in which they are given.
* `JsonValue.oneLine`, `JsonValue.lines` — its texts.
-/

namespace PanelPuzzle

/-- A JSON value, its numbers kept apart by whether they are integers. -/
inductive JsonValue where
  | null
  | integer (n : Int)
  | number (a : Number)
  | text (s : String)
  | list (items : List JsonValue)
  | record (fields : List (String × JsonValue))

/-- How the parts of a value are set. -/
inductive JsonLayout where
  /-- All on one line. -/
  | oneLine
  /-- Each on a line of its own, two blanks further in than the value at this depth. -/
  | lines (depth : Nat)

namespace JsonLayout

/-- The layout of the parts of a value in this layout. -/
def deeper : JsonLayout → JsonLayout
  | oneLine => oneLine
  | lines depth => lines (depth + 1)

/-- What goes before a part. -/
def lineBreak : JsonLayout → String
  | oneLine => ""
  | lines depth => String.ofList ('\n' :: List.replicate (2 * depth) ' ')

/-- What goes between the name of a field and its value. -/
def colon : JsonLayout → String
  | oneLine => ":"
  | lines _ => ": "

end JsonLayout

namespace JsonValue

/-! ## Numbers -/

/-- Numbers are written without an exponent from a hundred thousandth up to sixteen digits. -/
def numberLayout : Number.DigitLayout := ⟨-5, 15, true⟩

/-- The text of a number; there is none for the infinities and for what has no value. -/
def numberText (a : Number) : String := (a.write? numberLayout).getD "null"

/-! ## Whole values -/

mutual

/-- The text of a value in a layout. -/
def write (layout : JsonLayout) : JsonValue → String
  | null => "null"
  | integer n => toString n
  | number a => numberText a
  | text s => Quoted.write s
  | list [] => "[]"
  | list (item :: items) =>
    "[" ++ layout.deeper.lineBreak ++ write layout.deeper item ++ writeItems layout.deeper items ++
      layout.lineBreak ++ "]"
  | record [] => "\x7b\x7d"
  | record ((name, value) :: fields) =>
    "\x7b" ++ layout.deeper.lineBreak ++ Quoted.write name ++ layout.deeper.colon ++
      write layout.deeper value ++ writeFields layout.deeper fields ++ layout.lineBreak ++ "\x7d"

/-- The items of a list after the first. -/
def writeItems (layout : JsonLayout) : List JsonValue → String
  | [] => ""
  | item :: items => "," ++ layout.lineBreak ++ write layout item ++ writeItems layout items

/-- The fields of a record after the first. -/
def writeFields (layout : JsonLayout) : List (String × JsonValue) → String
  | [] => ""
  | (name, value) :: fields =>
    "," ++ layout.lineBreak ++ Quoted.write name ++ layout.colon ++ write layout value ++
      writeFields layout fields

end

/-- The text of a value on one line. -/
def oneLine (v : JsonValue) : String := v.write .oneLine

/-- The text of a value with each part on a line of its own. -/
def lines (v : JsonValue) : String := v.write (.lines 0)

/-- A value that may be missing. -/
def optional {α : Type} (write : α → JsonValue) (a : Option α) : JsonValue :=
  match a with
  | some a => write a
  | none => null

/-- A list of values. -/
def each {α : Type} (write : α → JsonValue) (items : List α) : JsonValue := list (items.map write)

end JsonValue

end PanelPuzzle
