import PanelPuzzle.Json.Reading
import PanelPuzzle.Number.Decimal
/-!
# Numbers in JSON

A numeral without a point and an exponent is an integer, as long as it has room in 64 bits; every
other one is a binary64 number.

The value of such a number is found in a few steps of binary64 arithmetic, each of which rounds: the
first digits that have room in 64 bits, as a number, are multiplied with or divided by a power of
ten.  Up to fifteen digits and an exponent of twenty-two, no more than one step rounds, and the value
is the nearest one.  Beyond that it can be a neighbour of the nearest.

* `Numeral` — what a numeral stands for.
* `scaled?` — a significand times a power of ten.
* `JsonReader.numeral` — a numeral after its sign.
-/

namespace PanelPuzzle

/-- The parts of a numeral. -/
structure NumeralParts where
  /-- The digits before the point. -/
  whole : List Char
  /-- The digits after the point, if there is one. -/
  places : Option (List Char)
  /-- The exponent, if there is one. -/
  exponent : Option Int

/-- What a numeral stands for. -/
inductive Numeral where
  | integer (n : Int)
  | real (a : Number)
  deriving DecidableEq

namespace Numeral

/-! ## Values -/

/-- The greatest significand. -/
def greatestSignificand : Nat := 18446744073709551615

/-- Puts digits at the end of a significand as long as there is room, and answers the significand
and the number of digits that found no room. -/
def absorb : Nat → List Char → Nat × Nat
  | significand, [] => (significand, 0)
  | significand, c :: rest =>
    let longer := significand * 10 + (c.toNat - '0'.toNat)
    if greatestSignificand < longer then (significand, rest.length + 1) else absorb longer rest

/-- The greatest exponent of a power of ten that has a value. -/
def greatestPower : Nat := 308

/-- The power of ten with a given exponent. -/
def tenTo (exponent : Nat) : Number := .ofDecimal false 1 exponent

/-- **A significand times a power of ten,** if that has a value.  A divisor beyond the greatest power
is divided by in two steps, and beyond twice that exponent nothing is left of any significand. -/
def scaled? (significand : Nat) (exponent : Int) : Option Number :=
  let start := Number.ofNat significand
  let size := exponent.natAbs
  if 0 ≤ exponent then
    if size ≤ greatestPower then
      let product := start * tenTo size
      if product.isFinite then some product else none
    else if significand = 0 then some 0
    else none
  else if size ≤ greatestPower then some (start / tenTo size)
  else if size ≤ 2 * greatestPower then
    some (start / tenTo greatestPower / tenTo (size - greatestPower))
  else some 0

/-- A number with a sign. -/
def signed (negative : Bool) (a : Number) : Number := if negative then -a else a

/-- The number of given parts. -/
def real? (negative : Bool) (parts : NumeralParts) : Option Number :=
  let (start, left) := absorb 0 parts.whole
  let places := parts.places.getD []
  let (significand, dropped) := absorb start places
  let exponent : Int := parts.exponent.getD 0 + left - (places.length - dropped : Nat)
  (scaled? significand exponent).map (signed negative)

/-- **What a numeral of given parts stands for.**  The negative zero is no integer. -/
def ofParts? (negative : Bool) (parts : NumeralParts) : Option Numeral :=
  let (n, left) := absorb 0 parts.whole
  if parts.places.isNone ∧ parts.exponent.isNone ∧ left = 0 then
    if !negative then some (integer n)
    else if 0 < n ∧ n ≤ 9223372036854775808 then some (integer (-n))
    else some (real (-(Number.ofNat n)))
  else (real? negative parts).map real

end Numeral

namespace JsonReader

/-! ## Texts -/

/-- Takes a digit that has to come next.  The argument is the problem of a text without any
further character. -/
def digit (atEnd : JsonError) : JsonReader Char := do
  match ← look with
  | none => refuse atEnd
  | some c =>
    if c.isDigit then
      advance
      pure c
    else refuse .malformed

/-- Takes one digit or more. -/
def someDigits (atEnd : JsonError) : JsonReader (List Char) := do
  let first ← digit atEnd
  let rest ← digits
  pure (first :: rest)

/-- The digits before the point: a zero, or a number that does not start with one. -/
def wholeDigits (atEnd : JsonError) : JsonReader (List Char) := do
  let all ← someDigits atEnd
  if all.head? = some '0' ∧ all ≠ ['0'] then refuse .malformed else pure all

/-- The point and the digits after it, if there is a point. -/
def places (atEnd : JsonError) : JsonReader (Option (List Char)) := do
  if (← look) = some '.' then
    advance
    let all ← someDigits atEnd
    pure (some all)
  else pure none

/-- An exponent with its sign, after its letter. -/
def signedExponent (atEnd : JsonError) : JsonReader Int := do
  let sign ← look
  if sign = some '+' ∨ sign = some '-' then advance
  let all ← someDigits atEnd
  let size : Int := Nat.ofDigitChars 10 all 0
  pure (if sign = some '-' then -size else size)

/-- The exponent, if there is one. -/
def exponent (atEnd : JsonError) : JsonReader (Option Int) := do
  let letter ← look
  if letter = some 'e' ∨ letter = some 'E' then
    advance
    let e ← signedExponent atEnd
    pure (some e)
  else pure none

/-- The parts of a numeral, after its sign. -/
def numeralParts (atEnd : JsonError) : JsonReader NumeralParts := do
  let whole ← wholeDigits atEnd
  let places ← places atEnd
  let exponent ← exponent atEnd
  pure { whole, places, exponent }

/-- **A numeral,** after its sign.  A number that is too large is no number. -/
def numeral (negative : Bool) : JsonReader Numeral := do
  match Numeral.ofParts? negative (← numeralParts .truncated) with
  | some value => pure value
  | none => refuse .malformed

end JsonReader

end PanelPuzzle
