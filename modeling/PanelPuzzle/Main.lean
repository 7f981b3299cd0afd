import PanelPuzzle.CommandLine.Run
import Std.Time
/-!
# The program

The host of a run on a real machine.
-/

namespace PanelPuzzle.CommandLine

/-- Reads a file. -/
def loadFile (path : String) : IO FileContent := do
  try
    let text ← IO.FS.readFile path
    pure (.content text)
  catch
    | .noFileOrDirectory .. => pure .missing
    | e => pure (.unreadable (toString e))

/-- Writes a file. -/
def storeFile (path content : String) : IO (Option String) := do
  try
    IO.FS.writeFile path content
    pure none
  catch e => pure (some (toString e))

/-- The local date and time. -/
def localTime : IO String := do
  let time ← Std.Time.DateTime.now
  pure (time.format "uuuu-MM-dd'T'HH:mm:ss.SSSSSSSSSxxx")

/-- A seed from the random numbers of the machine. -/
def machineSeed : IO UInt64 := do
  let bytes ← IO.getRandomBytes 8
  pure bytes.toUInt64LE!

/-- The machine that the program runs on. -/
def machine : Host IO where
  load := loadFile
  store := storeFile
  print := IO.print
  printAside := IO.eprint
  now := localTime
  freshSeed := machineSeed

end PanelPuzzle.CommandLine

/-- Runs the program. -/
def main (arguments : List String) : IO UInt32 :=
  PanelPuzzle.CommandLine.run PanelPuzzle.CommandLine.machine arguments
