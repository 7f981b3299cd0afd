import PanelPuzzle.Difficulty
import PanelPuzzle.Text.Integer
/-!
# Command-line options

What a run is asked to do, and the options by which it is asked.

* `Options` — what is asked for.
* `OptionName` — the options with their names and letters.
* `Options.set?` — an option set to a value that it takes.
-/

namespace PanelPuzzle.CommandLine

/-- What a run is asked to do. -/
structure Options where
  /-- The number of puzzles to generate. -/
  count : Nat := 1
  difficulty : Difficulty := .medium
  /-- The number of panels without the extra ones, if the difficulty does not decide it. -/
  panels : Option Nat := none
  /-- The seed of the first puzzle. -/
  seed : Option UInt64 := none
  forceCovers : Bool := false
  message : String := "Well done!"
  reward : Option String := none
  /-- Whether puzzles are printed as JSON. -/
  json : Bool := false
  /-- The text of a puzzle to be checked instead of generating any. -/
  check : Option String := none
  /-- The file of a batch to be printed instead of generating any. -/
  batch : Option String := none
  /-- The file that the generated puzzles are saved to. -/
  output : Option String := none
  /-- Whether a summary is printed. -/
  summary : Bool := false
  /-- Whether the events of the making are printed. -/
  debug : Bool := false

/-- An option, or a question about the program. -/
inductive OptionName where
  | count
  | difficulty
  | panels
  | seed
  | forceCovers
  | message
  | reward
  | json
  | check
  | batch
  | output
  | summary
  | debug
  | help
  | version
  deriving DecidableEq

namespace OptionName

/-- Every option, in the order of the help text. -/
def all : List OptionName :=
  [count, difficulty, panels, seed, forceCovers, message, reward, json, check, batch, output,
    summary, debug, help, version]

/-- The name of an option. -/
def long : OptionName → String
  | count => "count"
  | difficulty => "difficulty"
  | panels => "panels"
  | seed => "seed"
  | forceCovers => "force-covers"
  | message => "message"
  | reward => "reward"
  | json => "json"
  | check => "check"
  | batch => "batch"
  | output => "output"
  | summary => "summary"
  | debug => "debug"
  | help => "help"
  | version => "version"

/-- The letter of an option, if it has one. -/
def letter? : OptionName → Option Char
  | count => some 'c'
  | difficulty => some 'f'
  | panels => some 'p'
  | message => some 'm'
  | reward => some 'r'
  | json => some 'j'
  | batch => some 'b'
  | output => some 'o'
  | summary => some 's'
  | debug => some 'd'
  | help => some 'h'
  | version => some 'V'
  | seed | forceCovers | check => none

/-- Whether an option has a value. -/
def takesValue : OptionName → Bool
  | forceCovers | json | summary | debug | help | version => false
  | _ => true

/-- What an option is for. -/
def purpose : OptionName → String
  | count => "Number of puzzle boxes to generate"
  | difficulty => "Difficulty level for the puzzle boxes: easy, medium or hard"
  | panels => "Number of panels, not counting the extra panels for the leftover plugs"
  | seed => "Seed for the first puzzle box. The following boxes use the next seeds"
  | forceCovers => "Cover every element that can be covered"
  | message => "Victory message"
  | reward => "Reward revealed with the victory message"
  | json => "Print the puzzle boxes in JSON instead of puzzle strings"
  | check => "Parse a puzzle string and print it back"
  | batch => "Read the puzzle boxes back from a file saved with --output, and print them"
  | output => "Save the puzzle strings in a JSON file"
  | summary => "Print some statistics after generating the puzzle boxes"
  | debug => "Enable debug messages"
  | help => "Print help"
  | version => "Print version"

/-- The option with a given name. -/
def ofLong? (name : String) : Option OptionName := all.find? (·.long = name)

/-- The option with a given letter. -/
def ofLetter? (letter : Char) : Option OptionName := all.find? (·.letter? = some letter)

end OptionName

/-! ## Values -/

/-- The greatest number that an option takes. -/
def greatestNumber : Nat := 18446744073709551615

/-- The options with one of them set.  A number needs decimal digits, a difficulty is given by its
word, and a file by a name that is not empty. -/
def Options.set? (o : Options) (name : OptionName) (value : String) : Option Options :=
  let number := Text.readNatural? greatestNumber value
  let file := if value = "" then none else some value
  match name with
  | .count => number.map fun count => { o with count }
  | .difficulty =>
    (Difficulty.all.find? (·.keyword = value)).map fun difficulty => { o with difficulty }
  | .panels => number.map fun panels => { o with panels := some panels }
  | .seed => number.map fun seed => { o with seed := some (UInt64.ofNat seed) }
  | .forceCovers => some { o with forceCovers := true }
  | .message => some { o with message := value }
  | .reward => some { o with reward := some value }
  | .json => some { o with json := true }
  | .check => some { o with check := some value }
  | .batch => file.map fun batch => { o with batch := some batch }
  | .output => file.map fun output => { o with output := some output }
  | .summary => some { o with summary := true }
  | .debug => some { o with debug := true }
  | .help | .version => some o

end PanelPuzzle.CommandLine
