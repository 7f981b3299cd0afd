/-!
# Reading JSON texts

A text is read once, from left to right, and refused at its first problem.  `JsonError` tells the
kind of that problem: the text is no JSON, or is JSON that does not describe what is wanted, or
ends too early.

* `JsonReader` — a computation that reads from the front of a text.
* `JsonReader.bind_apply` — readings in sequence.
* `JsonReader.token` — the next character that matters.
* `readJson` — the reading of a whole text.
-/

namespace PanelPuzzle

/-- Why a text is refused. -/
inductive JsonError where
  /-- It is no JSON. -/
  | malformed
  /-- It is JSON up to the problem, but not of what is wanted. -/
  | mismatch
  /-- It ends too early. -/
  | truncated
  deriving DecidableEq

/-- **A computation that reads from the front of a text,** and refuses it or answers something
and what is left.  The number that it is given bounds the repetitions of every loop in it; the
length of the whole text is enough. -/
abbrev JsonReader := ReaderT Nat (StateT (List Char) (Except JsonError))

namespace JsonReader

/-! ## Sequences -/

theorem pure_apply {α : Type} (a : α) (bound : Nat) (text : List Char) :
    (pure a : JsonReader α) bound text = .ok (a, text) := rfl

/-- What comes second starts where the first one ends. -/
theorem bind_apply {α β : Type} (first : JsonReader α) (second : α → JsonReader β) (bound : Nat)
    (text : List Char) :
    (first >>= second) bound text = (first bound text).bind fun (a, rest) => second a bound rest :=
  rfl

theorem read_apply (bound : Nat) (text : List Char) :
    (read : JsonReader Nat) bound text = .ok (bound, text) := rfl

/-! ## Characters -/

/-- Refuses the text. -/
def refuse {α : Type} (e : JsonError) : JsonReader α := fun _ _ => .error e

/-- Whether a character may stand between the parts of a value. -/
def isBlank (c : Char) : Bool := c = ' ' || c = '\t' || c = '\n' || c = '\r'

/-- The next character that is not blank, which is left in place. -/
def token : JsonReader Char := fun _ text =>
  match text.dropWhile isBlank with
  | [] => .error .truncated
  | c :: rest => .ok (c, c :: rest)

/-- The next character, which is left in place. -/
def look : JsonReader (Option Char) := fun _ text => .ok (text.head?, text)

/-- Takes the next character. -/
def take : JsonReader Char := fun _ text =>
  match text with
  | [] => .error .truncated
  | c :: rest => .ok (c, rest)

/-- Passes over the next character. -/
def advance : JsonReader Unit := fun _ text => .ok ((), text.tail)

/-- Passes over a character that has to come next, apart from blanks. -/
def expect (c : Char) : JsonReader Unit := do
  if (← token) = c then advance else refuse .malformed

/-- Passes over given characters. -/
def word : List Char → JsonReader Unit
  | [] => pure ()
  | c :: rest => do
    if (← take) = c then word rest else refuse .malformed

/-- Takes the digits that come next. -/
def digits : JsonReader (List Char) := fun _ text =>
  .ok (text.takeWhile Char.isDigit, text.dropWhile Char.isDigit)

end JsonReader

/-- **What a whole text describes.**  Nothing but blanks may follow the value. -/
def readJson {α : Type} (reader : JsonReader α) (text : String) : Except JsonError α :=
  match reader text.toList.length text.toList with
  | .error e => .error e
  | .ok (a, rest) => if rest.all JsonReader.isBlank then .ok a else .error .malformed

end PanelPuzzle
