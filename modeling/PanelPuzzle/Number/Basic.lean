/-!
# Numbers of a panel

Sizes, positions and steps are binary64 numbers.  This file holds them as exact rational values,
so that every computation is a rational computation followed by one rounding, and a statement
about numbers is a statement about `Rat`.

* `Number` — a rational, or one of the values that are no rational: the infinities, the negative
  zero and the result of an operation without a value.
* `Number.ofRat` — the nearest binary64 value; a half goes to the even neighbour, what is too
  large becomes an infinity, and what is too small becomes a zero that keeps its sign.
* arithmetic, comparison and conversion to whole numbers, each by way of `toRat?`.
* `Number.roundTwo` — rounding to two decimals, the precision of a written puzzle.
-/

namespace PanelPuzzle

/-- **A binary64 number, held by its exact value.**  Equality of `Number` is equality of
representations, so the two zeros differ; `Number.same` is the comparison of values. -/
inductive Number where
  /-- The result of an operation without a value. -/
  | nan
  /-- An infinity of either sign. -/
  | infinite (negative : Bool)
  /-- The zero that is reached from below. -/
  | negativeZero
  /-- Every other value. -/
  | finite (value : Rat)
  deriving DecidableEq, Inhabited

namespace Number

/-! ## Views -/

/-- The exact value of a number, if it is finite. -/
def toRat? : Number → Option Rat
  | finite q => some q
  | negativeZero => some 0
  | nan | infinite _ => none

/-- Whether a number has a value. -/
def isFinite (a : Number) : Bool := a.toRat?.isSome

/-- Whether a number carries the minus sign. -/
def isNegative : Number → Bool
  | infinite negative => negative
  | negativeZero => true
  | finite q => q < 0
  | nan => false

/-- The zero of the given sign. -/
def zero (negative : Bool) : Number := if negative then negativeZero else finite 0

/-! ## Rounding

The binary64 values near a positive `q` are the multiples of `2 ^ unitExponent q`: 53 binary
digits counted from the leading one, but no digit below the one of weight `2 ^ (-1074)`.
-/

/-- The integer nearest to `q`; a half goes to the even neighbour. -/
def nearestEven (q : Rat) : Int :=
  let below := q.floor
  let rest := q - below
  if rest < 1 / 2 then below
  else if 1 / 2 < rest then below + 1
  else if below % 2 = 0 then below
  else below + 1

/-- The exponent of the leading binary digit of a positive `q`. -/
def binade (q : Rat) : Int :=
  let guess := (q.num.natAbs.log2 : Int) - (q.den.log2 : Int)
  if (2 : Rat) ^ guess ≤ q then guess else guess - 1

/-- The exponent of the last binary digit kept of a positive `q`. -/
def unitExponent (q : Rat) : Int := max (binade q - 52) (-1074)

/-- A non-negative `q` rounded to the digits that a binary64 number keeps, whatever its size. -/
def roundMagnitude (q : Rat) : Rat :=
  let unit := (2 : Rat) ^ unitExponent q
  nearestEven (q / unit) * unit

/-- The number with the given sign nearest to the given magnitude. -/
def signed (negative : Bool) (magnitude : Rat) : Number :=
  let rounded := if magnitude = 0 then 0 else roundMagnitude magnitude
  if rounded = 0 then zero negative
  else if (2 : Rat) ^ (1024 : Int) ≤ rounded then infinite negative
  else finite (if negative then -rounded else rounded)

/-- The number nearest to an exact value. -/
def ofRat (q : Rat) : Number := signed (q < 0) q.abs

/-- The number nearest to an integer. -/
def ofInt (n : Int) : Number := ofRat n

/-- The number nearest to a natural number. -/
def ofNat (n : Nat) : Number := ofRat n

instance (n : Nat) : OfNat Number n := ⟨ofNat n⟩

instance : OfScientific Number := ⟨fun m s e => ofRat (Rat.ofScientific m s e)⟩

/-! ## Arithmetic -/

/-- The number with its sign exchanged. -/
def neg : Number → Number
  | nan => nan
  | infinite negative => infinite !negative
  | negativeZero => finite 0
  | finite q => if q = 0 then negativeZero else finite (-q)

/-- The number without its sign. -/
def abs (a : Number) : Number := if a.isNegative then a.neg else a

/-- The sum.  Two zeros add up to the negative zero only when both are negative, and opposite
infinities have no sum. -/
def add : Number → Number → Number
  | nan, _ | _, nan => nan
  | infinite a, infinite b => if a = b then infinite a else nan
  | infinite a, _ | _, infinite a => infinite a
  | negativeZero, negativeZero => negativeZero
  | negativeZero, finite q | finite q, negativeZero => finite q
  | finite p, finite q => ofRat (p + q)

/-- The difference. -/
def sub (a b : Number) : Number := a.add b.neg

/-- The product, with the sign of its factors; a zero times an infinity has no value. -/
def mul (a b : Number) : Number :=
  let negative := a.isNegative != b.isNegative
  match a.toRat?, b.toRat? with
  | some p, some q => signed negative (p * q).abs
  | some p, none => if b = nan ∨ p = 0 then nan else infinite negative
  | none, some q => if a = nan ∨ q = 0 then nan else infinite negative
  | none, none => if a = nan ∨ b = nan then nan else infinite negative

/-- The quotient.  What is divided by a zero becomes an infinity, unless it is a zero too. -/
def div (a b : Number) : Number :=
  let negative := a.isNegative != b.isNegative
  match a.toRat?, b.toRat? with
  | some p, some q =>
    if q = 0 then (if p = 0 then nan else infinite negative) else signed negative (p / q).abs
  | some _, none => if b = nan then nan else zero negative
  | none, some _ => if a = nan then nan else infinite negative
  | none, none => nan

instance : Neg Number := ⟨neg⟩

instance : Add Number := ⟨add⟩

instance : Sub Number := ⟨sub⟩

instance : Mul Number := ⟨mul⟩

instance : Div Number := ⟨div⟩

/-! ## Comparison

No comparison holds of `nan`, and the two zeros compare as equal.
-/

/-- Whether `a` is less than `b`. -/
def lt (a b : Number) : Bool :=
  match a.toRat?, b.toRat? with
  | some p, some q => p < q
  | some _, none => b = infinite false
  | none, some _ => a = infinite true
  | none, none => a = infinite true && b = infinite false

/-- Whether `a` and `b` have the same value. -/
def same (a b : Number) : Bool :=
  match a.toRat?, b.toRat? with
  | some p, some q => p = q
  | none, none => a = b && a ≠ nan
  | _, _ => false

/-- Whether `a` is less than `b` or has the same value. -/
def le (a b : Number) : Bool := a.lt b || a.same b

/-- The larger of two numbers; `nan` counts as absent. -/
def larger (a b : Number) : Number :=
  if a = nan then b else if b = nan then a else if a.lt b then b else a

/-- The number moved into the interval from `low` to `high`.  It stays `nan` if it is. -/
def clamp (a low high : Number) : Number :=
  if a.lt low then low else if high.lt a then high else a

/-! ## Whole numbers -/

/-- The nearest whole number; a half goes away from zero. -/
def round (a : Number) : Number :=
  match a with
  | finite q => signed (q < 0) ((q.abs + 1 / 2).floor)
  | _ => a

/-- The largest integer that is at most `a`, within the signed 64-bit range. -/
def floorInt (a : Number) : Int :=
  match a with
  | finite q => max (-9223372036854775808) (min 9223372036854775807 q.floor)
  | infinite true => -9223372036854775808
  | infinite false => 9223372036854775807
  | negativeZero | nan => 0

/-- An integer cut to the unsigned 64-bit range. -/
def unsigned (n : Int) : Nat := min 18446744073709551615 n.toNat

/-- The largest natural number that is at most `a`, within the unsigned 64-bit range. -/
def floorNat (a : Number) : Nat :=
  match a with
  | finite q => unsigned q.floor
  | infinite false => 18446744073709551615
  | infinite true | negativeZero | nan => 0

/-- The smallest natural number that is at least `a`, within the unsigned 64-bit range. -/
def ceilNat (a : Number) : Nat :=
  match a with
  | finite q => unsigned q.ceil
  | infinite false => 18446744073709551615
  | infinite true | negativeZero | nan => 0

/-! ## Two decimals -/

/-- **The precision of a written puzzle.**  The number rounded to two decimals, with one zero. -/
def roundTwo (a : Number) : Number :=
  let rounded := (a * 100).round / 100
  if rounded.same 0 then 0 else rounded

/-! ## The bit pattern -/

/-- The binary64 word of a number: sign, biased exponent and fraction, from the top. -/
def toBits (a : Number) : Nat :=
  let sign := if a.isNegative then 0x8000000000000000 else 0
  match a with
  | nan => 0x7ff8000000000000
  | infinite _ => sign + 0x7ff0000000000000
  | negativeZero => sign
  | finite q =>
    if q = 0 then 0 else
      let exponent := unitExponent q.abs
      let digits := (q.abs / (2 : Rat) ^ exponent).floor.toNat
      -- The leading digit of a normal number carries one into the exponent field.
      sign + (exponent + 1074).toNat * 0x10000000000000 + digits

end Number

end PanelPuzzle
