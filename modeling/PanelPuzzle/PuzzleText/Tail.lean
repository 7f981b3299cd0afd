import PanelPuzzle.PuzzleText.Token
/-!
# The words after the color

After its color an element may have a comparison, an interaction and any number of clauses, each
of which starts with the id of another element.  Which words belong together is decided by a
machine that reads from left to right.

* `Expecting` — what the machine looks for next; inside a clause it holds what was read of it.
* `TailMachine.step` — one look at the next word.  Many steps only change what is expected and
  leave the word to the next step.
* `TailMachine.run` — the steps until no word is left; two for each word are enough, and one more
  for the first.
* `TailMachine.finish` — what becomes of a clause that the end of the words interrupts.
-/

namespace PanelPuzzle

/-- What a machine looks for next. -/
inductive Expecting where
  /-- A comparison or what may follow it. -/
  | comparison
  /-- A method or a clause. -/
  | method
  /-- A change after the method, or a clause. -/
  | change
  /-- A target after the change, or a clause. -/
  | target
  /-- The id that starts a clause. -/
  | clause
  /-- What is done to the element with this id. -/
  | action (id : String)
  /-- A change after the method that the element with this id takes. -/
  | actionChange (id : String) (method : Method)
  /-- A target after that change. -/
  | actionTarget (id : String) (method : Method) (change : Change)
  deriving DecidableEq

/-- What the words after the color say. -/
structure Tail where
  comparison : Option Comparison := none
  method : Method := .none
  change : Change := .none
  target : Int32 := 0
  actions : List Action := []
  deriving DecidableEq

/-- One more action, after the others. -/
def Tail.addAction (tail : Tail) (action : Action) : Tail :=
  { tail with actions := tail.actions ++ [action] }

/-- A machine that reads the words after the color. -/
structure TailMachine where
  expecting : Expecting := .comparison
  /-- The words that are left. -/
  words : List String
  tail : Tail := {}
  /-- The words without a meaning, in the order in which they were found. -/
  unknown : List String := []
  deriving DecidableEq

namespace TailMachine

/-- The action that a single word after an id stands for. -/
def keywordAction? (id word : String) : Option Action :=
  match word with
  | "reset" => some (.reset id)
  | "size" => some (.size id)
  | "cycle" => some (.cycle id)
  | "link" => some (.link id)
  | _ => none

/-- **One look at the next word.**  A machine without words stays as it is. -/
def step (m : TailMachine) : TailMachine :=
  match m.words with
  | [] => m
  | word :: rest =>
    match m.expecting with
    | .comparison =>
      match Comparison.ofSymbol? word with
      | some c =>
        { m with expecting := .method, words := rest, tail := { m.tail with comparison := some c } }
      | none => { m with expecting := .method }
    | .method =>
      match Method.ofKeyword? word with
      | some method =>
        { m with expecting := .change, words := rest, tail := { m.tail with method } }
      | none => { m with expecting := .clause }
    | .change =>
      match Change.ofKeyword? word with
      | some .move =>
        { m with expecting := .clause, words := rest
                 tail := { m.tail with change := .move, target := 1 } }
      | some change =>
        { m with expecting := .target, words := rest, tail := { m.tail with change } }
      | none => { m with expecting := .clause }
    | .target =>
      match readInt32? word with
      | some target =>
        { m with expecting := .clause, words := rest, tail := { m.tail with target } }
      | none => { m with expecting := .clause }
    | .clause =>
      if isElementId word then { m with expecting := .action word, words := rest }
      else { m with words := rest, unknown := m.unknown ++ [word] }
    | .action id =>
      match readVector? word with
      | some (dx, dy) =>
        { m with expecting := .clause, words := rest
                 tail := m.tail.addAction (.moveStep id dx dy) }
      | none =>
        match Method.ofKeyword? word with
        | some method => { m with expecting := .actionChange id method, words := rest }
        | none =>
          match keywordAction? id word with
          | some action =>
            { m with expecting := .clause, words := rest, tail := m.tail.addAction action }
          -- The id has no clause, and the word may be the start of one.
          | none => { m with expecting := .clause, unknown := m.unknown ++ [id] }
    | .actionChange id method =>
      match Change.ofKeyword? word with
      | some .move =>
        { m with expecting := .clause, words := rest
                 tail := m.tail.addAction (.configure id method .move 1) }
      | some change => { m with expecting := .actionTarget id method change, words := rest }
      | none =>
        { m with expecting := .clause, tail := m.tail.addAction (.configure id method .none 0) }
    | .actionTarget id method change =>
      match readInt32? word with
      | some target =>
        { m with expecting := .clause, words := rest
                 tail := m.tail.addAction (.configure id method change target) }
      | none =>
        { m with expecting := .clause, tail := m.tail.addAction (.configure id method change 0) }

/-- A number of steps, as long as there are words. -/
def runFor : Nat → TailMachine → TailMachine
  | 0, m => m
  | n + 1, m => if m.words = [] then m else runFor n m.step

/-- The steps of a machine until no word is left. -/
def run (m : TailMachine) : TailMachine := m.runFor (2 * m.words.length + 2)

/-- What the end of the words does to a clause that has begun: an id alone has no meaning, and a
clause with a method is complete. -/
def finish (m : TailMachine) : TailMachine :=
  match m.expecting with
  | .action id => { m with expecting := .clause, unknown := m.unknown ++ [id] }
  | .actionChange id method =>
    { m with expecting := .clause, tail := m.tail.addAction (.configure id method .none 0) }
  | .actionTarget id method change =>
    { m with expecting := .clause, tail := m.tail.addAction (.configure id method change 0) }
  | _ => m

/-- What the words after the color say, and which of them have no meaning. -/
def read (words : List String) : Tail × List String :=
  let done := (run { words }).finish
  (done.tail, done.unknown)

end TailMachine

end PanelPuzzle
