import PanelPuzzle.Proofs.Number.TwoDecimals
import PanelPuzzle.Proofs.PuzzleText.Words
/-!
# Written numbers are read back

A rounded number is written with its hundredths, and the number of hundredths is rounded to the
same number when it is read: `Number.readFinite?_twoDecimals`.  So writing and reading a number, in
steps of two decimals, is to round it twice, and it fails only for what is too large to be rounded:
`Number.reread?_eq`.
-/

namespace PanelPuzzle.Number

open Text

/-! ## Digits and a point -/

/-- Digits end where something else follows. -/
lemma takeWhile_digits {digits : List Char} (h : ∀ c ∈ digits, c.isDigit = true)
    (rest : List Char) (hrest : ∀ c ∈ rest.head?, c.isDigit = false) :
    (digits ++ rest).takeWhile Char.isDigit = digits ∧
      (digits ++ rest).dropWhile Char.isDigit = rest := by
  rw [List.takeWhile_append_of_pos h, List.dropWhile_append_of_pos h]
  cases rest with
  | nil => simp
  | cons c rest => simp [hrest c rfl]

/-- A decimal with few places has no extreme exponent. -/
lemma ofDecimal_of_le (negative : Bool) (coefficient places : Nat) (h : places ≤ 400) :
    ofDecimal negative coefficient (-(places : Int))
      = signed negative (coefficient * (10 : Rat) ^ (-(places : Int))) := by
  unfold ofDecimal
  split_ifs with hzero hlarge hsmall
  · simp [hzero, signed]
  · omega
  · omega
  · rfl

/-- Digits, and digits after a point if there are any. -/
lemma readUnsigned?_toDigits (negative : Bool) (n : Nat) :
    readUnsigned? negative (Nat.toDigits 10 n) = some (signed negative n) := by
  have hne : Nat.toDigits 10 n ≠ [] := List.ne_nil_of_length_pos Nat.length_toDigits_pos
  obtain ⟨htake, hdrop⟩ := takeWhile_digits
    (fun c => isDigit_of_mem_toDigits (n := n)) [] (by simp)
  rw [List.append_nil] at htake hdrop
  have hread := ofDecimal_of_le negative n 0 (by omega)
  simp only [readUnsigned?, htake, hdrop]
  rw [if_neg (by simp [hne])]
  simpa [readExponent?] using hread

lemma readUnsigned?_point (negative : Bool) (n : Nat) {places : List Char} (hne : places ≠ [])
    (hdigits : ∀ c ∈ places, c.isDigit = true) (hlength : places.length ≤ 400) :
    readUnsigned? negative (Nat.toDigits 10 n ++ '.' :: places)
      = some (signed negative (Nat.ofDigitChars 10 places n * (10 : Rat) ^ (-(places.length : Int)))) := by
  obtain ⟨htake, hdrop⟩ := takeWhile_digits
    (fun c => isDigit_of_mem_toDigits (n := n)) ('.' :: places) (by simp)
  obtain ⟨htake', hdrop'⟩ := takeWhile_digits hdigits [] (by simp)
  rw [List.append_nil] at htake' hdrop'
  have hvalue : Nat.ofDigitChars 10 (Nat.toDigits 10 n ++ places) 0 = Nat.ofDigitChars 10 places n := by
    rw [Nat.ofDigitChars_append, Nat.ofDigitChars_ten_toDigits]
  have hread := ofDecimal_of_le negative (Nat.ofDigitChars 10 places n) _ hlength
  simp only [readUnsigned?, htake, hdrop, htake', hdrop', hvalue]
  rw [if_neg (by simp [hne])]
  simpa [readExponent?] using hread

/-- **A number of hundredths is read from its digits.** -/
lemma readUnsigned?_hundredths (negative : Bool) (n : Nat) :
    readUnsigned? negative (Nat.toDigits 10 (n / 100) ++ hundredths n)
      = some (signed negative (n / 100)) := by
  have hdigit : ∀ d, d < 10 → d.digitChar.isDigit = true := by decide
  have htens : n % 100 / 10 < 10 := by omega
  have hones : n % 10 < 10 := by omega
  have hcast : ∀ a b : Nat, a * 100 = n * b → b ≠ 0 → (a : Rat) / b = n / 100 := by
    intro a b h hb
    have hb' : (b : Rat) ≠ 0 := by exact_mod_cast hb
    have h' : (a : Rat) * 100 = n * b := by exact_mod_cast h
    rw [div_eq_div_iff hb' (by norm_num), h']
  rw [hundredths]
  split_ifs with hone hten
  · rw [readUnsigned?_point _ _ (by simp) (by simp [hdigit _ htens, hdigit _ hones]) (by simp)]
    have hvalue := hcast (10 * (10 * (n / 100) + n % 100 / 10) + n % 10) 100 (by omega) (by omega)
    simp only [Nat.ofDigitChars_cons_digitChar_of_lt_ten htens,
      Nat.ofDigitChars_cons_digitChar_of_lt_ten hones, Nat.ofDigitChars_nil]
    rw [← hvalue]
    simp [zpow_neg, div_eq_mul_inv]
    norm_num
  · rw [readUnsigned?_point _ _ (by simp) (by simp [hdigit _ htens]) (by simp)]
    have hvalue := hcast (10 * (n / 100) + n % 100 / 10) 10 (by omega) (by omega)
    simp only [Nat.ofDigitChars_cons_digitChar_of_lt_ten htens, Nat.ofDigitChars_nil]
    rw [← hvalue]
    simp [zpow_neg, div_eq_mul_inv]
  · rw [List.append_nil, readUnsigned?_toDigits]
    have hvalue := hcast (n / 100) 1 (by omega) (by omega)
    rw [← hvalue]
    simp

/-! ## Whole words -/

/-- A word that starts with a digit is no word for an infinity and the like. -/
lemma read?_of_digit {text : List Char} (h : ∃ c rest, text = c :: rest ∧ c.isDigit = true)
    (negative : Bool) :
    read? ((if negative then ['-'] else []) ++ text) = readUnsigned? negative text := by
  obtain ⟨c, rest, rfl, hc⟩ := h
  have hsign : takeSign ((if negative then ['-'] else []) ++ c :: rest) = (negative, c :: rest) := by
    cases negative with
    | true => rfl
    | false =>
      simp only [Bool.false_eq_true, if_false, List.nil_append]
      unfold takeSign
      split
      · simp_all [Char.isDigit]
      · simp_all [Char.isDigit]
      · rfl
  have hlower : c.toLower ∉ ['i', 'n'] := by
    have hupper : ¬ (c.val ≥ 'A'.val ∧ c.val ≤ 'Z'.val) := by
      rw [Char.isDigit_iff_toNat] at hc
      have h9 : '9'.toNat = 57 := rfl
      rintro ⟨hA, -⟩
      have : (65 : Nat) ≤ c.toNat := hA
      omega
    have hsame : c.toLower = c := dif_neg hupper
    rw [hsame]
    intro hmem
    simp only [List.mem_cons, List.not_mem_nil, or_false] at hmem
    rcases hmem with rfl | rfl
    all_goals exact absurd hc (by decide)
  have hword : ∀ word : String, (∃ d ∈ word.toList.head?, d ∈ ['i', 'n']) →
      String.ofList ((c :: rest).map Char.toLower) ≠ word := by
    rintro word ⟨d, hd, hmem⟩ rfl
    rw [String.toList_ofList, List.map_cons, List.head?_cons, Option.mem_some_iff] at hd
    exact hlower (hd ▸ hmem)
  simp only [read?, hsign]
  rw [if_neg, if_neg (hword "nan" ⟨'n', by simp, by simp⟩)]
  rintro (hinf | hinf)
  · exact hword "inf" ⟨'i', by simp, by simp⟩ hinf
  · exact hword "infinity" ⟨'i', by simp, by simp⟩ hinf

/-- What is read from a written value. -/
lemma read?_decimalsOf (q : Rat) :
    read? (decimalsOf q)
      = some (signed (q < 0) ((nearestEven (|q| * 100)).toNat / 100)) := by
  have hdigit : ∃ c rest, Nat.toDigits 10 ((nearestEven (|q| * 100)).toNat / 100)
      ++ hundredths (nearestEven (|q| * 100)).toNat = c :: rest ∧ c.isDigit = true := by
    obtain ⟨c, digits, hdigits, hc⟩ := toDigits_eq_cons ((nearestEven (|q| * 100)).toNat / 100)
    exact ⟨c, _, by rw [hdigits, List.cons_append], hc⟩
  rw [← readUnsigned?_hundredths, ← read?_of_digit hdigit]
  simp only [decimalsOf, abs_eq, decide_eq_true_eq, List.append_assoc]

/-! ## Rounded numbers -/

/-- A rounded magnitude is read back from its hundredths. -/
lemma read?_withSign (negative : Bool) {v : Rat} (hv : 0 ≤ v)
    (h : roundMagnitude (v * 100) < 2 ^ (1024 : Int)) :
    read? (decimalsOf (if negative then -twoPlaces v else twoPlaces v))
      = some (withSign negative (twoPlaces v)) := by
  have hplaces := twoPlaces_nonneg hv
  have hnat : ((nearestEven (twoPlaces v * 100)).toNat : Rat) = (nearestEven (twoPlaces v * 100) : Rat) := by
    have hle : (0 : Int) ≤ nearestEven (twoPlaces v * 100) := by
      refine le_nearestEven ?_
      push_cast
      positivity
    rw [← Int.cast_natCast, Int.toNat_of_nonneg hle]
  rw [read?_decimalsOf, abs_sign negative hplaces, signed_eq, hnat, twoPlaces,
    roundMagnitude_nearestEven (hundredth_nonneg hv), ← twoPlaces, ofMagnitude]
  rw [if_neg (not_le.mpr (twoPlaces_lt hv h))]
  by_cases hzero : twoPlaces v = 0
  · rw [hzero, withSign_zero]
    cases negative <;> decide
  · have hpos := lt_of_le_of_ne hplaces (Ne.symm hzero)
    rw [if_neg hzero, withSign]
    cases negative with
    | true => simp [hpos]
    | false => simp [not_lt.mpr hplaces]

/-- **What is written of a number is read as the rounded number,** unless that has no value. -/
theorem readFinite?_twoDecimals (a : Number) :
    readFinite? a.twoDecimals.toList = if a.roundTwo.isFinite then some a.roundTwo else none := by
  have hinfinite : ∀ negative, a.roundTwo = infinite negative →
      readFinite? a.twoDecimals.toList = none := by
    intro negative h
    rw [twoDecimals, h]
    cases negative <;> decide
  cases ha : a.isFinite with
  | false =>
    rw [roundTwo_of_not_isFinite ha, ha]
    cases a with
    | nan =>
      rw [twoDecimals, roundTwo_of_not_isFinite rfl]
      decide
    | infinite negative => exact hinfinite negative (roundTwo_of_not_isFinite rfl)
    | negativeZero | finite => cases ha
  | true =>
    rcases roundTwo_of_isFinite ha with ⟨negative, h⟩ | ⟨negative, v, hv, hlt, h⟩
    · rw [hinfinite negative h, h]
      rfl
    · have htext : a.twoDecimals.toList
          = decimalsOf (if negative then -twoPlaces v else twoPlaces v) := by
        rw [twoDecimals, h, withSign]
        exact String.toList_ofList
      rw [readFinite?, htext, read?_withSign negative hv hlt, h]
      rfl

/-- **To write and to read a number is to round it twice.** -/
theorem reread?_eq (a : Number) :
    a.reread? = if a.roundTwo.isFinite then some a.roundTwo.roundTwo else none := by
  rw [reread?, readFinite?_twoDecimals]
  split <;> rfl

end PanelPuzzle.Number
