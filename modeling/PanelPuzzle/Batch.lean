import PanelPuzzle.Difficulty
import PanelPuzzle.Export.Reader
import PanelPuzzle.Export.Writer
import PanelPuzzle.PuzzleText.Reader
import PanelPuzzle.PuzzleText.Writer
/-!
# Batches

Puzzles that were generated together, as they are kept in a file: when, how difficult, from which
seed, and the text of each.

* `Batch.toText`, `Batch.ofText` — the content of the file.
* `Batch.puzzles` — the puzzles that the texts describe.
-/

namespace PanelPuzzle

/-- Puzzles that were generated together. -/
structure Batch where
  /-- The date and the time of the generation. -/
  created : String
  difficulty : Difficulty
  /-- The seed of the first puzzle; the others have the seeds that follow it. -/
  seed : Option UInt64
  /-- The text of each puzzle. -/
  texts : List String
  deriving DecidableEq

instance : Inhabited Batch := ⟨"", .easy, none, []⟩

namespace Batch

/-- A batch of puzzles. -/
def new (created : String) (difficulty : Difficulty) (seed : Option UInt64)
    (puzzles : List Puzzle) : Batch :=
  { created, difficulty, seed, texts := puzzles.map Puzzle.text }

/-- The puzzles of a batch, or the first problem of its texts. -/
def puzzles (batch : Batch) : Except ReadError (List Puzzle) :=
  (Reading.each Puzzle.read batch.texts).result

/-- The value of a batch. -/
def toJson (batch : Batch) : JsonValue :=
  .record
    [("created", .text batch.created), ("difficulty", .text batch.difficulty.name),
      ("seed", .optional (fun seed => .integer seed.toNat) batch.seed),
      ("puzzles", .each .text batch.texts)]

/-- The content of the file of a batch. -/
def toText (batch : Batch) : String := batch.toJson.lines

/-- A seed. -/
def seedReader : JsonReader UInt64 := do
  let n ← JsonReader.integer 0 18446744073709551615
  pure (UInt64.ofNat n.toNat)

/-- The fields of a batch. -/
def fields : List (Field Batch) :=
  [.required "created" JsonReader.text fun created b => { b with created },
    .required "difficulty" (JsonReader.choice Difficulty.all Difficulty.name)
      fun difficulty b => { b with difficulty },
    .optional "seed" seedReader fun seed b => { b with seed },
    .required "puzzles" JsonReader.text.each fun texts b => { b with texts }]

/-- The batch that the content of a file describes. -/
def ofText (text : String) : Except JsonError Batch :=
  readJson (JsonReader.record fields default) text

end Batch

end PanelPuzzle
