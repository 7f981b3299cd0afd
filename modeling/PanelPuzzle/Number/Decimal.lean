import PanelPuzzle.Number.Basic
/-!
# Decimal text of numbers

Three readings and writings of a number, each on the exact value.

* `Number.read?` — a decimal text, rounded once: digits with at most one point, an optional sign
  and exponent, or one of the words `inf`, `infinity` and `nan` in any letter case.
* `Number.twoDecimals` — a number as a puzzle shows it, with at most two decimals.
* `Number.shortest` — the fewest decimal digits that round back to a value, and of those the
  nearest to it.  A `DigitLayout` says how such digits are laid out.
-/

namespace PanelPuzzle

namespace Number

/-! ## Reading -/

/-- The number nearest to `± coefficient · 10 ^ exponent`.  Exponents far outside the range of
binary64 are answered without computing the power. -/
def ofDecimal (negative : Bool) (coefficient : Nat) (exponent : Int) : Number :=
  if coefficient = 0 then zero negative
  else if 400 < exponent then infinite negative
  -- A coefficient of `k` binary digits is less than `10 ^ (k / 3 + 1)`.
  else if exponent + (coefficient.log2 / 3 + 1 : Nat) < -400 then zero negative
  else signed negative (coefficient * (10 : Rat) ^ exponent)

/-- A sign, if there is one, and what follows it. -/
def takeSign : List Char → Bool × List Char
  | '-' :: rest => (true, rest)
  | '+' :: rest => (false, rest)
  | rest => (false, rest)

/-- An exponent part: nothing at all, or the letter, a sign and digits up to the end. -/
def readExponent? : List Char → Option Int
  | [] => some 0
  | letter :: rest =>
    let (negative, digits) := takeSign rest
    if (letter = 'e' ∨ letter = 'E') ∧ digits ≠ [] ∧ digits.all Char.isDigit then
      let magnitude : Int := Nat.ofDigitChars 10 digits 0
      some (if negative then -magnitude else magnitude)
    else none

/-- A decimal without its sign, with a digit before or after the point. -/
def readUnsigned? (negative : Bool) (text : List Char) : Option Number :=
  let whole := text.takeWhile Char.isDigit
  let rest := text.dropWhile Char.isDigit
  let (places, rest) := match rest with
    | '.' :: rest => (rest.takeWhile Char.isDigit, rest.dropWhile Char.isDigit)
    | rest => ([], rest)
  if whole = [] ∧ places = [] then none
  else (readExponent? rest).map fun exponent =>
    ofDecimal negative (Nat.ofDigitChars 10 (whole ++ places) 0) (exponent - places.length)

/-- The number that a text denotes, if it is the text of a number. -/
def read? (text : List Char) : Option Number :=
  let (negative, rest) := takeSign text
  let word := String.ofList (rest.map Char.toLower)
  if word = "inf" ∨ word = "infinity" then some (infinite negative)
  else if word = "nan" then some nan
  else readUnsigned? negative rest

/-- The finite number that a text denotes. -/
def readFinite? (text : List Char) : Option Number :=
  (read? text).filter isFinite

/-! ## Two decimals -/

/-- The digits after the point of a number of hundredths, without zeros at the end. -/
def hundredths (n : Nat) : List Char :=
  let tens := n % 100 / 10
  let ones := n % 10
  if ones ≠ 0 then ['.', tens.digitChar, ones.digitChar]
  else if tens ≠ 0 then ['.', tens.digitChar]
  else []

/-- A rational with at most two decimals, rounded to the nearest. -/
def decimalsOf (q : Rat) : List Char :=
  let n := (nearestEven (q.abs * 100)).toNat
  (if q < 0 then ['-'] else []) ++ Nat.toDigits 10 (n / 100) ++ hundredths n

/-- **A number as a puzzle shows it:** rounded to two decimals, without zeros at the end and
without a point when no decimal is left. -/
def twoDecimals (a : Number) : String :=
  match a.roundTwo with
  | nan => "NaN"
  | infinite true => "-inf"
  | infinite false => "inf"
  | negativeZero => "0"
  | finite q => String.ofList (decimalsOf q)

/-! ## The fewest digits that read back -/

/-- The exponent of the leading decimal digit of a positive `q`. -/
def decade (q : Rat) : Int :=
  -- The logarithm of two is a little above 1233 / 4096.
  let guess := binade q * 1233 / 4096
  if (10 : Rat) ^ (guess + 1) ≤ q then guess + 1
  else if q < (10 : Rat) ^ guess then guess - 1
  else guess

/-- The nearer of the two neighbours of `q` among the multiples of `10 ^ exponent` that round to
`q`, as a multiple. -/
def nearestOnGrid? (q : Rat) (exponent : Int) : Option Nat :=
  let step := (10 : Rat) ^ exponent
  let below := (q / step).floor.toNat
  let readsBack (c : Nat) : Bool := ofRat (c * step) = finite q
  match readsBack below, readsBack (below + 1) with
  | false, false => none
  | true, false => some below
  | false, true => some (below + 1)
  | true, true =>
    let rest := q / step - below
    if rest < 1 / 2 then some below
    else if 1 / 2 < rest then some (below + 1)
    else if below % 2 = 0 then some below
    else some (below + 1)

/-- The digits of a coefficient without zeros at the end, and the exponent that makes up for
them. -/
def dropZeros (coefficient : Nat) (exponent : Int) : List Char × Int :=
  let digits := Nat.toDigits 10 coefficient
  let kept := (digits.reverse.dropWhile (· = '0')).reverse
  (kept, exponent + (digits.length - kept.length : Nat))

/-- **The fewest decimal digits that round to a positive binary64 value `q`,** as digits and the
exponent of the last one.  Seventeen digits are always enough. -/
def shortest (q : Rat) : List Char × Int :=
  let leading := decade q
  let found := (List.range' 1 17).findSome? fun (count : Nat) =>
    let exponent := leading + 1 - (count : Int)
    (nearestOnGrid? q exponent).map fun coefficient => dropZeros coefficient exponent
  found.getD (['0'], 0)

/-- How the digits of a number are laid out. -/
structure DigitLayout where
  /-- The least exponent of the leading digit that is written without an exponent. -/
  least : Int
  /-- The greatest exponent of the leading digit that is written without an exponent. -/
  greatest : Int
  /-- Whether a whole number keeps a point and a zero. -/
  keepsPoint : Bool

/-- Digits written out around the point, which stands after `places` of them. -/
def positional (keepsPoint : Bool) (digits : List Char) (places : Int) : List Char :=
  if places ≤ 0 then
    ['0', '.'] ++ List.replicate (-places).toNat '0' ++ digits
  else
    let whole := digits.take places.toNat
    let rest := digits.drop places.toNat
    let padding := List.replicate (places.toNat - digits.length) '0'
    let point := if rest ≠ [] then '.' :: rest else if keepsPoint then ['.', '0'] else []
    whole ++ padding ++ point

/-- Digits with the point after the first one and an exponent that always has a sign. -/
def scientific (digits : List Char) (exponent : Int) : List Char :=
  let rest := digits.drop 1
  digits.take 1 ++ (if rest = [] then [] else '.' :: rest) ++ ['e'] ++
    (if exponent < 0 then ['-'] else ['+']) ++ Nat.toDigits 10 exponent.natAbs

/-- The shortest digits of a finite number in a layout. -/
def write? (layout : DigitLayout) (a : Number) : Option String :=
  a.toRat?.map fun (q : Rat) =>
    let sign := if a.isNegative then ['-'] else []
    if q = 0 then
      String.ofList (sign ++ positional layout.keepsPoint ['0'] 1)
    else
      let (digits, last) := shortest q.abs
      let leading := last + digits.length - 1
      String.ofList <| sign ++
        if layout.least ≤ leading ∧ leading ≤ layout.greatest then
          positional layout.keepsPoint digits (leading + 1)
        else scientific digits leading

end Number

end PanelPuzzle
