import PanelPuzzle.Json.Numeral
import PanelPuzzle.Json.Quoted
/-!
# Typed contents of JSON

A reader for each kind of simple content, and for lists.  A value of another kind is a mismatch,
but only if it is a value at all.

* `JsonReader.text`, `JsonReader.number`, `JsonReader.integer` — simple contents.
* `JsonReader.optional` — a content that may be empty.
* `JsonReader.each` — a list.
-/

namespace PanelPuzzle

namespace JsonReader

/-! ## Simple contents -/

/-- Passes over the word for an empty value, after its first letter. -/
def restOfNull : JsonReader Unit := word ['u', 'l', 'l']

/-- **Refuses a value of the wrong kind.**  It is looked at first, as it may be no value at all. -/
def wrongKind {α : Type} : JsonReader α := do
  let c ← token
  if c.isDigit then
    let _ ← numeral false
    refuse .mismatch
  else
    match c with
    | 'n' =>
      advance
      restOfNull
      refuse .mismatch
    | 't' =>
      advance
      word ['r', 'u', 'e']
      refuse .mismatch
    | 'f' =>
      advance
      word ['a', 'l', 's', 'e']
      refuse .mismatch
    | '-' =>
      advance
      let _ ← numeral true
      refuse .mismatch
    | '"' =>
      advance
      let _ ← quoted true
      refuse .mismatch
    | '[' => refuse .mismatch
    | '\x7b' => refuse .mismatch
    | _ => refuse .malformed

/-- An empty value. -/
def null : JsonReader Unit := do
  if (← token) = 'n' then
    advance
    restOfNull
  else wrongKind

/-- A text. -/
def text : JsonReader String := do
  if (← token) = '"' then
    advance
    quoted true
  else wrongKind

/-- A number of any kind. -/
def anyNumeral : JsonReader Numeral := do
  let c ← token
  if c = '-' then
    advance
    numeral true
  else if c.isDigit then numeral false
  else wrongKind

/-- A number; integers are numbers too. -/
def number : JsonReader Number := do
  match ← anyNumeral with
  | .integer n => pure (.ofInt n)
  | .real a => pure a

/-- An integer within bounds.  A number with a point or an exponent is no integer, whatever its
value. -/
def integer (low high : Int) : JsonReader Int := do
  match ← anyNumeral with
  | .integer n => if low ≤ n ∧ n ≤ high then pure n else refuse .mismatch
  | .real _ => refuse .mismatch

/-- A value that may be empty. -/
def optional {α : Type} (reader : JsonReader α) : JsonReader (Option α) := do
  if (← token) = 'n' then
    advance
    restOfNull
    pure none
  else
    let a ← reader
    pure (some a)

/-! ## Lists -/

/-- Whether another item follows in a list.  The comma before it is passed over, the closing bracket
is left in place. -/
def moreItems (isFirst : Bool) : JsonReader Bool := do
  let c ← token
  if c = ']' then pure false
  else if isFirst then pure true
  else
    expect ','
    if (← token) = ']' then refuse .malformed else pure true

/-- The items of a list and its closing bracket. -/
def items {α : Type} (reader : JsonReader α) : Nat → Bool → JsonReader (List α)
  | 0, _ => refuse .truncated
  | steps + 1, isFirst => do
    if ← moreItems isFirst then
      let a ← reader
      let rest ← items reader steps false
      pure (a :: rest)
    else
      advance
      pure []

/-- A list. -/
def each {α : Type} (reader : JsonReader α) : JsonReader (List α) := do
  if (← token) = '[' then
    advance
    items reader ((← read) + 1) true
  else wrongKind

end JsonReader

end PanelPuzzle
