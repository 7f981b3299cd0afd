/-!
# Decimal text of integers

Whole numbers are written in decimal digits.  A reading accepts one leading sign and any number of
leading zeros, and refuses what lies outside the range of the field that it is for.
-/

namespace PanelPuzzle.Text

/-- The natural number that a non-empty text of digits denotes. -/
def readDigits? (text : List Char) : Option Nat :=
  if text ≠ [] ∧ text.all Char.isDigit then some (Nat.ofDigitChars 10 text 0) else none

/-- The integer from `low` to `high` that a text denotes, after an optional sign. -/
def readInteger? (low high : Int) (text : String) : Option Int :=
  let value := match text.toList with
    | '-' :: digits => (readDigits? digits).map fun n => -(n : Int)
    | '+' :: digits => (readDigits? digits).map fun n => (n : Int)
    | digits => (readDigits? digits).map fun n => (n : Int)
  value.filter fun n => low ≤ n ∧ n ≤ high

/-- The natural number up to `high` that a text denotes, after an optional plus sign. -/
def readNatural? (high : Nat) (text : String) : Option Nat :=
  let value := match text.toList with
    | '+' :: digits => readDigits? digits
    | digits => readDigits? digits
  value.filter (· ≤ high)

end PanelPuzzle.Text
