import PanelPuzzle.Json.Reading
/-!
# Quoted texts

A text in quotes.  Quotes, backslashes and control characters are escaped in it; every other
character stands for itself, and any character may be given by its code.

* `Quoted.write` — a text in quotes.
* `JsonReader.quoted` — the text after an opening quote.
* `JsonReader.quoted_write` — a text that was written in quotes is read back.
-/

namespace PanelPuzzle

/-! ## Writing -/

namespace Quoted

/-- A character inside quotes. -/
def escape (c : Char) : List Char :=
  match c with
  | '"' => ['\\', '"']
  | '\\' => ['\\', '\\']
  | '\x08' => ['\\', 'b']
  | '\t' => ['\\', 't']
  | '\n' => ['\\', 'n']
  | '\x0c' => ['\\', 'f']
  | '\r' => ['\\', 'r']
  | c =>
    if c.toNat < 0x20 then
      ['\\', 'u', '0', '0', (c.toNat / 16).digitChar, (c.toNat % 16).digitChar]
    else [c]

/-- A text in quotes. -/
def write (s : String) : String := String.ofList ('"' :: s.toList.flatMap escape ++ ['"'])

end Quoted

namespace JsonReader

/-! ## Characters by their codes -/

/-- The value of a hexadecimal digit. -/
def hexDigit? (c : Char) : Option Nat :=
  if '0' ≤ c ∧ c ≤ '9' then some (c.toNat - '0'.toNat)
  else if 'a' ≤ c ∧ c ≤ 'f' then some (c.toNat - 'a'.toNat + 10)
  else if 'A' ≤ c ∧ c ≤ 'F' then some (c.toNat - 'A'.toNat + 10)
  else none

/-- Four hexadecimal digits.  A text with fewer than four bytes left ends too early, whatever they
are. -/
def codeUnit : JsonReader Nat := fun _ text =>
  let next := text.take 4
  if (next.map Char.utf8Size).foldl (· + ·) 0 < 4 then .error .truncated
  else match next.mapM hexDigit? with
    | some [a, b, c, d] => .ok (((a * 16 + b) * 16 + c) * 16 + d, text.drop 4)
    | _ => .error .malformed

/-- Whether a code unit is the first of a pair. -/
def isLeading (unit : Nat) : Bool := 0xd800 ≤ unit && unit ≤ 0xdbff

/-- Whether a code unit is the second of a pair. -/
def isTrailing (unit : Nat) : Bool := 0xdc00 ≤ unit && unit ≤ 0xdfff

/-- A character that is given by its code, in two escapes if it needs a pair of units. -/
def codePoint : JsonReader Char := do
  let unit ← codeUnit
  if isTrailing unit then refuse .malformed
  else if isLeading unit then
    word ['\\', 'u']
    let second ← codeUnit
    if isTrailing second then
      pure (Char.ofNat (0x10000 + (unit - 0xd800) * 0x400 + (second - 0xdc00)))
    else refuse .malformed
  else pure (Char.ofNat unit)

/-! ## Quoted texts -/

/-- What an escape stands for, after its backslash.  In a text whose content does not matter,
units need no partner. -/
def escaped (matters : Bool) : JsonReader Char := do
  match ← take with
  | '"' => pure '"'
  | '\\' => pure '\\'
  | '/' => pure '/'
  | 'b' => pure '\x08'
  | 'f' => pure '\x0c'
  | 'n' => pure '\n'
  | 'r' => pure '\r'
  | 't' => pure '\t'
  | 'u' =>
    if matters then codePoint
    else
      let _ ← codeUnit
      pure 'u'
  | _ => refuse .malformed

/-- The characters up to the closing quote. -/
def characters (matters : Bool) : Nat → JsonReader (List Char)
  | 0 => refuse .truncated
  | steps + 1 => do
    let c ← take
    if c = '"' then pure []
    else if c.toNat < 0x20 then refuse .malformed
    else
      let d ← if c = '\\' then escaped matters else pure c
      let rest ← characters matters steps
      pure (d :: rest)

/-- **A quoted text,** after its opening quote. -/
def quoted (matters : Bool) : JsonReader String := do
  let rest ← characters matters ((← read) + 1)
  pure (String.ofList rest)

/-! ## Reading what was written -/

theorem hexDigit?_digitChar : ∀ n < 16, hexDigit? n.digitChar = some n := by decide

theorem utf8Size_digitChar : ∀ n < 16, n.digitChar.utf8Size = 1 := by decide

/-- Four digits that are written for a small number give it back. -/
theorem codeUnit_digits {n bound : Nat} (h : n < 256) (rest : List Char) :
    codeUnit bound ('0' :: '0' :: (n / 16).digitChar :: (n % 16).digitChar :: rest) =
      .ok (n, rest) := by
  have high := hexDigit?_digitChar (n / 16) (by omega)
  have low := hexDigit?_digitChar (n % 16) (by omega)
  have zero : hexDigit? '0' = some 0 := rfl
  have sizes : '0'.utf8Size = 1 := rfl
  simp [codeUnit, high, low, zero, sizes, utf8Size_digitChar, Nat.mod_lt, Nat.div_lt_of_lt_mul, h,
    List.mapM_cons]
  omega

theorem characters_of_plain {c : Char} {matters : Bool} {steps bound : Nat} {text : List Char}
    (quote : c ≠ '"') (backslash : c ≠ '\\') (printable : 0x20 ≤ c.toNat) :
    characters matters (steps + 1) bound (c :: text) =
      (characters matters steps bound text).map fun (s, rest) => (c :: s, rest) := by
  have h : ¬ c.toNat < 0x20 := by omega
  simp only [characters, take, bind_apply, pure_apply, Except.bind, quote, backslash, h, if_false]
  cases characters matters steps bound text <;> rfl

theorem characters_of_escaped {d : Char} {matters : Bool} {steps bound : Nat}
    {text text' : List Char} (h : escaped matters bound text = .ok (d, text')) :
    characters matters (steps + 1) bound ('\\' :: text) =
      (characters matters steps bound text').map fun (s, rest) => (d :: s, rest) := by
  have h1 : ¬ ('\\' = '"') := by decide
  have h2 : ¬ ('\\'.toNat < 0x20) := by decide
  simp only [characters, take, bind_apply, pure_apply, Except.bind, h1, h2, h, if_false, if_true]
  cases characters matters steps bound text' <;> rfl

/-- An escaped character is read as one character, whatever follows. -/
theorem characters_escape_cons {c : Char} {steps bound : Nat} {text : List Char} :
    characters true (steps + 1) bound (Quoted.escape c ++ text) =
      (characters true steps bound text).map fun (s, rest) => (c :: s, rest) := by
  unfold Quoted.escape
  split
  all_goals try exact characters_of_escaped rfl
  -- What is left are control characters without a letter, and characters that stand for themselves.
  split
  · rename_i _ _ _ _ _ _ _ _ control
    refine characters_of_escaped ?_
    have unit := @codeUnit_digits c.toNat bound (by omega) text
    have trailing : isTrailing c.toNat = false := by simp [isTrailing]; omega
    have leading : isLeading c.toNat = false := by simp [isLeading]; omega
    simp [escaped, take, codePoint, bind_apply, pure_apply, Except.bind, unit, trailing, leading]
  · rename_i _ quote backslash _ _ _ _ _ printable
    exact characters_of_plain quote backslash (by omega)

theorem characters_escape {s rest : List Char} {steps bound : Nat} (h : s.length < steps) :
    characters true steps bound (s.flatMap Quoted.escape ++ '"' :: rest) = .ok (s, rest) := by
  induction s generalizing steps with
  | nil =>
    obtain ⟨steps, rfl⟩ : ∃ k, steps = k + 1 := ⟨steps - 1, by omega⟩
    rfl
  | cons c s ih =>
    obtain ⟨steps, rfl⟩ : ∃ k, steps = k + 1 := ⟨steps - 1, by omega⟩
    have := @ih steps (by simp at h; omega)
    rw [List.flatMap_cons, List.append_assoc, characters_escape_cons, this]
    rfl

/-- **A text that was written in quotes is read back,** whatever follows. -/
theorem quoted_write {s : String} {rest : List Char} {bound : Nat} (h : s.toList.length ≤ bound) :
    quoted true bound ((Quoted.write s).toList.tail ++ rest) = .ok (s, rest) := by
  have text : (Quoted.write s).toList.tail ++ rest =
      s.toList.flatMap Quoted.escape ++ '"' :: rest := by
    simp [Quoted.write]
  have whole := @characters_escape s.toList rest (bound + 1) bound (by omega)
  simp only [text, quoted, bind_apply, read_apply, pure_apply, Except.bind, whole,
    String.ofList_toList]

end JsonReader

end PanelPuzzle
