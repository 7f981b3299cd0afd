/-!
# The host of a run

What a run of the program needs from outside.  The program is a computation in any monad that
offers these operations, so that it can be run on a model of the outside as well.
-/

namespace PanelPuzzle.CommandLine

/-- What becomes of reading a file. -/
inductive FileContent where
  | content (text : String)
  /-- There is no such file. -/
  | missing
  /-- There is something, but it cannot be read. -/
  | unreadable (why : String)

/-- The operations that a run needs. -/
structure Host (m : Type → Type) where
  /-- Reads the file with a given path. -/
  load : String → m FileContent
  /-- Writes the file with a given path and content, or answers why it cannot be written. -/
  store : String → String → m (Option String)
  /-- Prints a text, which is the answer of the run. -/
  print : String → m Unit
  /-- Prints a text that goes beside the answer. -/
  printAside : String → m Unit
  /-- The date and the time. -/
  now : m String
  /-- A seed for runs that ask for none. -/
  freshSeed : m UInt64

end PanelPuzzle.CommandLine
