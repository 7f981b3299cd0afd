import PanelPuzzle.Batch
import PanelPuzzle.CommandLine.Arguments
import PanelPuzzle.CommandLine.Host
import PanelPuzzle.Generation.Generator
/-!
# A run of the program

A run either checks the text of a puzzle, prints the puzzles of a saved batch, or generates
puzzles, prints them and may save them.  It ends with an exit code: zero when all went well, one
when something could not be done, and two when something was not understood.

* `run` — a run with given arguments on a given host.
-/

namespace PanelPuzzle.CommandLine

variable {m : Type → Type} [Monad m]

/-! ## Texts -/

/-- The name of the program. -/
def programName : String := "puzzlebox"

/-- The short version notice. -/
def shortVersion : String := "0.1.0"

/-- The full version notice, as the program prints it. -/
def fullVersion : String :=
  "\n".intercalate
    [shortVersion, "Copyright 2025 Hervé Quatremain",
      "License GPLv3+: GNU GPL version 3 or later <https://gnu.org/licenses/gpl.html>"]

/-- The line of the help text for an option. -/
def helpLine (name : OptionName) : String :=
  let letter := match name.letter? with
    | some c => String.ofList ['-', c, ',']
    | none => "   "
  let value := if name.takesValue then s!" <{name.long.toUpper}>" else ""
  s!"  {letter} --{name.long}{value}  {name.purpose}\n"

/-- The line that shows how the program is called. -/
def usageLine : String := s!"Usage: {programName} [OPTIONS]\n"

/-- The help text. -/
def helpText : String :=
  "Generate random puzzle boxes\n\n" ++ usageLine ++ "\nOptions:\n" ++
    String.join (OptionName.all.map helpLine)

/-- What is wrong with a file that holds no batch. -/
def problemText : JsonError → String
  | .malformed => "not a JSON text"
  | .mismatch => "not the content of a batch"
  | .truncated => "unexpected end of the file"

/-- A puzzle as it is printed. -/
def puzzleText (json : Bool) (p : Puzzle) : String :=
  (if json then p.toJson.lines else p.text) ++ "\n"

/-- The totals over generated puzzles. -/
def summaryText (outcomes : List Generation.Outcome) : String :=
  let total (count : Generation.Outcome → Nat) := (outcomes.map count).foldl (· + ·) 0
  let panels := total fun o => o.puzzle.panels.length
  let extra := total fun o => o.report.lastResortPanels
  let elements := total fun o => o.puzzle.elementCount
  let dropped := total fun o => o.report.droppedPlugs.length
  s!"\n      puzzle boxes = {outcomes.length}\n            panels = {panels}\n" ++
    s!"      extra panels = {extra}\n          elements = {elements}\n" ++
    s!"     dropped plugs = {dropped}\n"

/-- A line for an event of the making. -/
def eventLine (e : Event) : String :=
  (if e.isWarning then "WARN " else "DEBUG ") ++ e.message ++ "\n"

/-! ## The three kinds of runs -/

/-- Prints puzzles. -/
def printPuzzles (host : Host m) (json : Bool) : List Puzzle → m Unit
  | [] => pure ()
  | p :: rest => do
    host.print (puzzleText json p)
    printPuzzles host json rest

/-- **Checks the text of a puzzle** and prints it the way it would be written.  Warnings make the
check fail too. -/
def runCheck (host : Host m) (o : Options) (source : String) : m UInt32 := do
  let reading := Puzzle.read source
  match reading.result with
  | .error e =>
    host.printAside (e.message ++ "\n")
    pure 1
  | .ok p =>
    host.printAside (String.join (reading.warnings.map fun w => s!"Warning: {w.message}\n"))
    host.print (puzzleText o.json p)
    pure (if reading.warnings.isEmpty then 0 else 2)

/-- **Prints the puzzles of a saved batch,** all of them or none. -/
def runBatch (host : Host m) (o : Options) (path : String) : m UInt32 := do
  match ← host.load path with
  | .missing =>
    host.printAside s!"{path}: no such file\n"
    pure 1
  | .unreadable why =>
    host.printAside s!"Cannot read {path}: {why}\n"
    pure 1
  | .content text =>
    match Batch.ofText text with
    | .error e =>
      host.printAside s!"Cannot read {path}: {problemText e}\n"
      pure 1
    | .ok batch =>
      match batch.puzzles with
      | .error e =>
        host.printAside s!"Invalid puzzle in {path}: {e.message}\n"
        pure 1
      | .ok puzzles =>
        printPuzzles host o.json puzzles
        pure 0

/-- The configuration of the generation. -/
def Options.config (o : Options) : Generation.Config :=
  { difficulty := o.difficulty, panels := o.panels, forceCovers := o.forceCovers
    message := o.message, reward := o.reward }

/-- Generates and prints a number of puzzles with consecutive seeds. -/
def generateFrom (host : Host m) (o : Options) :
    Nat → UInt64 → m (List Generation.Outcome)
  | 0, _ => pure []
  | count + 1, seed => do
    let outcome := Generation.generateFromSeed o.config seed
    if o.debug then host.printAside (String.join (outcome.events.map eventLine))
    host.print (puzzleText o.json outcome.puzzle)
    let others ← generateFrom host o count (seed + 1)
    pure (outcome :: others)

/-- Saves puzzles, if that is wanted, and answers whether it went well. -/
def save (host : Host m) (o : Options) (puzzles : List Puzzle) : m Bool := do
  match o.output with
  | none => pure true
  | some path =>
    let created ← host.now
    match ← host.store path (Batch.new created o.difficulty o.seed puzzles).toText with
    | none => pure true
    | some why =>
      host.printAside s!"Cannot save the puzzle boxes to {path}: {why}\n"
      pure false

/-- **Generates puzzles,** prints them, and saves them if that is wanted. -/
def runGeneration (host : Host m) (o : Options) : m UInt32 := do
  let seed ← match o.seed with
    | some seed => pure seed
    | none => host.freshSeed
  let outcomes ← generateFrom host o o.count seed
  if ← save host o (outcomes.map (·.puzzle)) then
    if o.summary then host.printAside (summaryText outcomes)
    pure 0
  else pure 1

/-! ## All runs -/

/-- A run that ends with the reading of its arguments. -/
def runStopped (host : Host m) : Stop → m UInt32
  | .help => do
    host.print helpText
    pure 0
  | .version full => do
    let notice := if full then fullVersion else shortVersion
    host.print s!"{programName} {notice}\n"
    pure 0
  | .refused why => do
    host.printAside s!"error: {why.message}\n\n{usageLine}\nFor more information, try '--help'.\n"
    pure 2

/-- **A run of the program with given arguments,** ending with its exit code. -/
def run (host : Host m) (arguments : List String) : m UInt32 :=
  match Options.ofArguments arguments with
  | .error stop => runStopped host stop
  | .ok o =>
    match o.check, o.batch with
    | some source, _ => runCheck host o source
    | none, some path => runBatch host o path
    | none, none => runGeneration host o

end PanelPuzzle.CommandLine
