import PanelPuzzle.Puzzle
import PanelPuzzle.PuzzleText.Reading
import PanelPuzzle.PuzzleText.Tail
/-!
# Reading a puzzle

The inverse of writing, for any text.  Only three problems make a text unreadable: no panel, a
panel without a theme, and an element without a position.  Every other word that is not understood
leaves a warning and a default.

* `Element.read` — one element, or none if the text is blank.
* `Panel.read` — a theme, a colon and the elements between commas.
* `Puzzle.read` — a message, with a reward in brackets at its end, and the panels between slashes.
* `PuzzleReader` — readings in sequence that share one list of warnings.
-/

namespace PanelPuzzle

open Text

/-! ## Elements -/

/-- An element from its id and its other words. -/
def Element.ofWords (id : String) (rest : List String) : Reading Element := do
  let shape ← Reading.recognize id id (id.toList.head?.bind Shape.ofCode?) .rectangle
  let (width, height) ← Reading.optional id rest[0]?
    (fun word => (readSize? word).map fun (w, h) => (w.roundTwo, h.roundTwo)) (1, 1)
  let place := rest[1]?.getD ""
  match readPosition? place with
  | none => Reading.fail (.badPosition id place)
  | some position =>
    let rotation ← Reading.optional id rest[2]? readInt32? 0
    let color ← Reading.optional id rest[3]? readColor? (.plain 0)
    let (tail, unknown) := TailMachine.read (rest.drop 4)
    Reading.warn (unknown.map fun word => ⟨id, word⟩)
    pure
      { id, shape, width, height, x := position.x, y := position.y
        elevation := position.elevation, elevationTarget := position.elevationTarget
        color, rotation, method := tail.method, change := tail.change, target := tail.target
        comparison := tail.comparison, actions := tail.actions }

/-- The element that a text describes; a blank text describes none. -/
def Element.read (text : String) : Reading (Option Element) :=
  match wordsOf text with
  | [] => pure none
  | id :: rest => do
    let element ← Element.ofWords id rest
    pure (some element)

/-! ## Panels and puzzles -/

/-- The panel that a section describes.  Sections are numbered from one. -/
def Panel.read (section_ : List Char) (number : Nat) : Reading Panel :=
  match cut? ':' section_ with
  | none => Reading.fail (.noColorTheme number)
  | some (theme, elements) => do
    let read ← Reading.each (fun text => Element.read (String.ofList text))
      (pieces (· = ',') elements)
    pure { theme := String.ofList (trim theme), elements := read.filterMap id }

/-- The message and the reward of a section.  The reward is what stands between the last opening
bracket and a closing one at the very end. -/
def readHeading (section_ : List Char) : String × Option String :=
  let text := trim section_
  let reward := do
    let last ← text.getLast?
    guard (last = ']')
    cutLast? '[' text.dropLast
  match reward with
  | some (message, reward) =>
    (String.ofList (trimEnd message), some (String.ofList (trim reward)))
  | none => (String.ofList text, none)

/-- **The puzzle that a text describes.** -/
def Puzzle.read (text : String) : Reading Puzzle :=
  match pieces (· = '/') text.toList with
  | heading :: first :: others => do
    let panels ← Reading.each (fun (section_, i) => Panel.read section_ (i + 1))
      (first :: others).zipIdx
    let (message, reward) := readHeading heading
    pure { message, reward, panels }
  | _ => Reading.fail .noPanels

/-! ## A reader with a memory -/

/-- A reader of one text, which can also be asked for single elements and remembers the
warnings. -/
structure PuzzleReader where
  source : String
  warnings : List Unrecognized := []

namespace PuzzleReader

/-- Reads one element; its warnings are added to those that the reader remembers. -/
def element (reader : PuzzleReader) (text : String) :
    Except ReadError (Option Element) × PuzzleReader :=
  let reading := Element.read text
  (reading.result, { reader with warnings := reader.warnings ++ reading.warnings })

/-- Reads the whole text; the reader forgets all earlier warnings. -/
def puzzle (reader : PuzzleReader) : Except ReadError Puzzle × PuzzleReader :=
  let reading := Puzzle.read reader.source
  (reading.result, { reader with warnings := reading.warnings })

end PuzzleReader

end PanelPuzzle
