import PanelPuzzle.Json.Numeral
import PanelPuzzle.Json.Quoted
/-!
# Passing over JSON

The values of unknown fields are read and forgotten.  They can be nested to any depth, so what is
still open is kept in a list, and the whole is a machine that makes one step after the other.

* `Skipping` — where the machine is.
* `JsonReader.skip` — passes over one value.
-/

namespace PanelPuzzle

/-- What is open around a value. -/
inductive Bracket where
  | list
  | record
  deriving DecidableEq

/-- The character that closes a bracket. -/
def Bracket.close : Bracket → Char
  | list => ']'
  | record => '\x7d'

/-- Where the passing over of a value is, the brackets that are open from the innermost one. -/
inductive Skipping where
  /-- Before a value. -/
  | value (around : List Bracket)
  /-- Inside a bracket, before its first item or after another one. -/
  | item (bracket : Bracket) (around : List Bracket) (isFirst : Bool)
  /-- After the last value. -/
  | done

namespace Skipping

/-- After a value. -/
def after : List Bracket → Skipping
  | [] => done
  | bracket :: around => item bracket around false

end Skipping

namespace JsonReader

/-- Passes over a numeral after its sign.  A numeral that is cut off is malformed here. -/
def skipNumeral : JsonReader Unit := do
  let _ ← numeralParts .malformed

/-- Passes over a quoted text after its opening quote. -/
def skipQuoted : JsonReader Unit := do
  let _ ← quoted false

/-- One step before a value: passes over all of it, or over the bracket that opens it. -/
def skipValue (around : List Bracket) : JsonReader Skipping := do
  let c ← token
  if c.isDigit then
    skipNumeral
    pure (.after around)
  else
    advance
    match c with
    | 'n' =>
      word ['u', 'l', 'l']
      pure (.after around)
    | 't' =>
      word ['r', 'u', 'e']
      pure (.after around)
    | 'f' =>
      word ['a', 'l', 's', 'e']
      pure (.after around)
    | '-' =>
      skipNumeral
      pure (.after around)
    | '"' =>
      skipQuoted
      pure (.after around)
    | '[' => pure (.item .list around true)
    | '\x7b' => pure (.item .record around true)
    | _ => refuse .malformed

/-- Passes over what stands before the value of an item. -/
def skipLead : Bracket → JsonReader Unit
  | .list => pure ()
  | .record => do
    expect '"'
    skipQuoted
    expect ':'

/-- One step inside a bracket. -/
def skipItem (bracket : Bracket) (around : List Bracket) (isFirst : Bool) :
    JsonReader Skipping := do
  let c ← token
  if c = bracket.close then
    advance
    pure (.after around)
  else
    if !isFirst then expect ','
    skipLead bracket
    pure (.value (bracket :: around))

/-- One step. -/
def skipStep : Skipping → JsonReader Skipping
  | .value around => skipValue around
  | .item bracket around isFirst => skipItem bracket around isFirst
  | .done => pure .done

/-- As many steps as are needed, up to a number. -/
def skipSteps : Nat → Skipping → JsonReader Unit
  | _, .done => pure ()
  | 0, _ => refuse .truncated
  | steps + 1, s => do
    let s ← skipStep s
    skipSteps steps s

/-- **Passes over one value.**  At least one of two neighbouring steps takes a character. -/
def skip : JsonReader Unit := do
  let bound ← read
  skipSteps (2 * bound + 2) (.value [])

end JsonReader

end PanelPuzzle
