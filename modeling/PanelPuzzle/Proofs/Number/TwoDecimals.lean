import PanelPuzzle.Number.Decimal
import PanelPuzzle.Proofs.Number.Hundredths
/-!
# Rounding a number to two decimals

`Number.roundTwo` on magnitudes is `Number.twoPlaces`; this file adds signs, zeros and infinities.

* `Number.roundTwo_finite` — the rounding of a finite number, which may be too large for it.
* `Number.roundTwo_roundTwo` — **two roundings are as many as three.**  One is not as many as two:
  see `Number.hundredth_stable`.
* `Number.isFinite_roundTwo_roundTwo` — only the first rounding can be too large.
-/

namespace PanelPuzzle.Number

/-! ## Numbers by sign and magnitude -/

/-- The number with a sign and a rounded magnitude. -/
def ofMagnitude (negative : Bool) (magnitude : Rat) : Number :=
  if magnitude = 0 then zero negative
  else if (2 : Rat) ^ (1024 : Int) ≤ magnitude then infinite negative
  else finite (if negative then -magnitude else magnitude)

lemma signed_eq (negative : Bool) (q : Rat) :
    signed negative q = ofMagnitude negative (roundMagnitude q) := by
  rw [signed, ofMagnitude]
  split_ifs with hq
  all_goals simp_all [roundMagnitude_zero]

lemma hundred_eq : (100 : Number) = finite 100 := by decide +kernel

lemma zero_eq : (0 : Number) = finite 0 := by decide +kernel

lemma isNegative_ofMagnitude (negative : Bool) {r : Rat} (hr : 0 ≤ r) :
    (ofMagnitude negative r).isNegative = negative := by
  unfold ofMagnitude
  split_ifs with hzero hlarge hneg
  · cases negative <;> simp [zero, isNegative]
  · rfl
  · have hpos : 0 < r := lt_of_le_of_ne hr (Ne.symm hzero)
    simp [isNegative, hpos, hneg]
  · simp only [isNegative]
    simp [hneg, hr]

lemma ofMagnitude_of_le (negative : Bool) {r : Rat} (h : (2 : Rat) ^ (1024 : Int) ≤ r) :
    ofMagnitude negative r = infinite negative := by
  rw [ofMagnitude, if_neg ((zpow_two_pos _).trans_le h).ne', if_pos h]

lemma toRat?_ofMagnitude (negative : Bool) {r : Rat} (h : r < 2 ^ (1024 : Int)) :
    (ofMagnitude negative r).toRat? = some (if negative then -r else r) := by
  rw [ofMagnitude, if_neg (not_le.mpr h)]
  by_cases hzero : r = 0
  · rw [if_pos hzero, hzero]
    cases negative <;> rfl
  · rw [if_neg hzero]
    rfl

/-! ## The three steps -/

lemma abs_eq (q : Rat) : q.abs = |q| := by
  rcases le_total 0 q with h | h
  · rw [Rat.abs_of_nonneg h, abs_of_nonneg h]
  · rw [Rat.abs_of_nonpos h, abs_of_nonpos h]

lemma abs_sign (negative : Bool) {r : Rat} (hr : 0 ≤ r) :
    |if negative then -r else r| = r := by
  cases negative <;> simp [abs_of_nonneg hr]

lemma mul_hundred (q : Rat) :
    finite q * 100 = ofMagnitude (q < 0) (roundMagnitude (|q| * 100)) := by
  have hsign : ((finite q).isNegative != (finite 100).isNegative) = decide (q < 0) := by
    have hpos : (finite 100).isNegative = false := by decide
    rw [hpos, Bool.bne_false]
    rfl
  rw [hundred_eq]
  change signed ((finite q).isNegative != (finite 100).isNegative) (q * 100).abs = _
  rw [hsign, signed_eq, abs_eq, abs_mul, abs_of_pos (by norm_num : (0 : Rat) < 100)]

lemma round_ofMagnitude (negative : Bool) {r : Rat} (hr : 0 ≤ r) (h : r < 2 ^ (1024 : Int)) :
    (ofMagnitude negative r).round
      = ofMagnitude negative (roundMagnitude ((r + 1 / 2).floor : Rat)) := by
  have hsign := isNegative_ofMagnitude negative hr
  have hvalue := toRat?_ofMagnitude negative h
  rcases hr.eq_or_lt with rfl | hpos
  · cases negative <;> decide +kernel
  · have hfinite : ofMagnitude negative r = finite (if negative then -r else r) := by
      rw [ofMagnitude, if_neg hpos.ne', if_neg (not_le.mpr h)]
    rw [hfinite] at hsign ⊢
    simp only [isNegative] at hsign
    simp only [round, hsign, signed_eq, abs_eq, abs_sign negative hr]

lemma div_hundred (negative : Bool) {r : Rat} (hr : 0 ≤ r) (h : r < 2 ^ (1024 : Int)) :
    ofMagnitude negative r / 100 = ofMagnitude negative (roundMagnitude (r / 100)) := by
  have hsign : ((ofMagnitude negative r).isNegative != (finite 100).isNegative) = negative := by
    have hpos : (finite 100).isNegative = false := by decide
    rw [isNegative_ofMagnitude negative hr, hpos, Bool.bne_false]
  rw [hundred_eq]
  change div (ofMagnitude negative r) (finite 100) = _
  rw [div, hsign, toRat?_ofMagnitude negative h]
  simp only [toRat?]
  rw [if_neg (by norm_num), signed_eq, abs_eq, abs_div, abs_sign negative hr,
    abs_of_pos (by norm_num : (0 : Rat) < 100)]

/-! ## The whole rounding -/

lemma hundredth_lt {v : Rat} (hv : 0 ≤ v) (h : roundMagnitude (v * 100) < 2 ^ (1024 : Int)) :
    (hundredth v : Rat) < 2 ^ (1024 : Int) := by
  by_cases hbig : (2 : Rat) ^ (52 : Int) ≤ v * 100
  · rwa [hundredth_of_le hbig]
  · have hround := roundMagnitude_le_zpow (by linarith) (not_le.mp hbig).le (by norm_num)
    have hfloor : (hundredth v : Rat) ≤ roundMagnitude (v * 100) + 1 / 2 := Rat.floor_le _
    have hpow : (2 : Rat) ^ (53 : Int) < 2 ^ (1024 : Int) :=
      zpow_lt_zpow_right₀ (by norm_num) (by norm_num)
    rw [show (2 : Rat) ^ (53 : Int) = 9007199254740992 by norm_num] at hpow
    norm_num at hround
    refine lt_trans ?_ hpow
    linarith

lemma twoPlaces_lt {v : Rat} (hv : 0 ≤ v) (h : roundMagnitude (v * 100) < 2 ^ (1024 : Int)) :
    twoPlaces v < 2 ^ (1024 : Int) := by
  have hn : (0 : Rat) ≤ hundredth v := by exact_mod_cast hundredth_nonneg hv
  have hle : twoPlaces v ≤ roundMagnitude (hundredth v) :=
    roundMagnitude_mono (by positivity) (by linarith)
  rw [roundMagnitude_hundredth hv] at hle
  exact hle.trans_lt (hundredth_lt hv h)

lemma twoPlaces_nonneg {v : Rat} (hv : 0 ≤ v) : 0 ≤ twoPlaces v := by
  have hn : (0 : Rat) ≤ hundredth v := by exact_mod_cast hundredth_nonneg hv
  exact roundMagnitude_nonneg (by positivity)

/-- A number that is as large as a magnitude, with one zero. -/
def withSign (negative : Bool) (magnitude : Rat) : Number :=
  finite (if negative then -magnitude else magnitude)

/-- The two zeros become one. -/
lemma collapse_zero (negative : Bool) {r : Rat} (h : r < 2 ^ (1024 : Int)) :
    (if (ofMagnitude negative r).same 0 then 0 else ofMagnitude negative r)
      = withSign negative r := by
  have hvalue := toRat?_ofMagnitude negative h
  have hsame : (ofMagnitude negative r).same 0 = decide (r = 0) := by
    rw [zero_eq, same, hvalue]
    simp only [toRat?]
    cases negative <;> simp
  rw [hsame]
  by_cases hzero : r = 0
  · subst hzero
    rw [if_pos (by simp), zero_eq, withSign]
    cases negative <;> simp
  · rw [if_neg (by simp [hzero]), ofMagnitude, if_neg hzero, if_neg (not_le.mpr h), withSign]

/-- An infinity stays as it is. -/
lemma roundTwo_infinite (negative : Bool) : (infinite negative).roundTwo = infinite negative := by
  rw [roundTwo, hundred_eq, zero_eq]
  cases negative <;> rfl

/-- **The rounding of a finite number** has its sign and two places of its magnitude, unless the
product with a hundred is too large. -/
theorem roundTwo_finite (q : Rat) :
    (finite q).roundTwo =
      if (2 : Rat) ^ (1024 : Int) ≤ roundMagnitude (|q| * 100) then infinite (q < 0)
      else withSign (q < 0) (twoPlaces |q|) := by
  have hv := abs_nonneg q
  have hp := roundMagnitude_nonneg (q := |q| * 100) (by positivity)
  unfold roundTwo
  dsimp only
  rw [mul_hundred]
  by_cases hlarge : (2 : Rat) ^ (1024 : Int) ≤ roundMagnitude (|q| * 100)
  · rw [if_pos hlarge, ofMagnitude_of_le _ hlarge, hundred_eq, zero_eq]
    cases decide (q < 0) <;> rfl
  · have hlt := not_le.mp hlarge
    have hn : (0 : Rat) ≤ hundredth |q| := by exact_mod_cast hundredth_nonneg hv
    have hround : (ofMagnitude (q < 0) (roundMagnitude (|q| * 100))).round
        = ofMagnitude (q < 0) (hundredth |q|) := by
      rw [round_ofMagnitude _ hp hlt]
      exact congrArg _ (roundMagnitude_hundredth hv)
    rw [if_neg hlarge, hround, div_hundred _ hn (hundredth_lt hv hlt),
      ← collapse_zero _ (twoPlaces_lt hv hlt)]
    rfl

/-! ## Rounding again -/

/-- The greatest binary number can be multiplied by a hundred again after it was divided. -/
lemma roundMagnitude_greatest :
    roundMagnitude (roundMagnitude ((2 ^ 53 - 1) * 2 ^ ((1023 : Int) - 52) / 100) * 100)
      < 2 ^ (1024 : Int) := by
  decide +kernel

/-- **Only the first product can be too large.** -/
lemma twoPlaces_mul_lt {v : Rat} (hv : 0 ≤ v)
    (h : roundMagnitude (v * 100) < 2 ^ (1024 : Int)) :
    roundMagnitude (twoPlaces v * 100) < 2 ^ (1024 : Int) := by
  have hn : (0 : Rat) ≤ hundredth v := by exact_mod_cast hundredth_nonneg hv
  have hle := le_greatest (k := 1023) (by norm_num) (roundMagnitude_hundredth hv) (hundredth_lt hv h)
  have hplaces : twoPlaces v ≤ roundMagnitude ((2 ^ 53 - 1) * 2 ^ ((1023 : Int) - 52) / 100) :=
    roundMagnitude_mono (by positivity) (div_le_div_of_nonneg_right hle (by norm_num))
  refine lt_of_le_of_lt (roundMagnitude_mono ?_ ?_) roundMagnitude_greatest
  · have := twoPlaces_nonneg hv
    positivity
  · exact mul_le_mul_of_nonneg_right hplaces (by norm_num)

lemma twoPlaces_zero : twoPlaces 0 = 0 := by
  have hhundredth : hundredth 0 = 0 := hundredth_eq
    (by rw [zero_mul, roundMagnitude_zero]; norm_num)
    (by rw [zero_mul, roundMagnitude_zero]; norm_num)
  rw [twoPlaces, hhundredth, Int.cast_zero, zero_div, roundMagnitude_zero]

lemma withSign_zero (negative : Bool) : withSign negative 0 = finite 0 := by
  cases negative <;> simp [withSign]

lemma withSign_false (magnitude : Rat) : withSign false magnitude = finite magnitude := rfl

/-- A sign and a magnitude are rounded apart. -/
lemma roundTwo_withSign (negative : Bool) {r : Rat} (hr : 0 ≤ r)
    (h : roundMagnitude (r * 100) < 2 ^ (1024 : Int)) :
    (withSign negative r).roundTwo = withSign negative (twoPlaces r) := by
  have habs := abs_sign negative hr
  rw [withSign, roundTwo_finite, habs, if_neg (not_le.mpr h)]
  rcases hr.eq_or_lt with rfl | hpos
  · rw [twoPlaces_zero, withSign_zero, withSign_zero]
  · cases negative with
    | false => simp [not_lt.mpr hr]
    | true => simp [hpos]

lemma roundTwo_negativeZero : negativeZero.roundTwo = finite 0 := by decide +kernel

/-- What is no value stays as it is. -/
lemma roundTwo_of_not_isFinite {a : Number} (h : a.isFinite = false) : a.roundTwo = a := by
  cases a with
  | nan =>
    rw [roundTwo, hundred_eq, zero_eq]
    rfl
  | infinite negative => exact roundTwo_infinite negative
  | negativeZero | finite => cases h

/-- A value becomes an infinity or two places of a magnitude. -/
lemma roundTwo_of_isFinite {a : Number} (h : a.isFinite = true) :
    (∃ negative, a.roundTwo = infinite negative) ∨
      ∃ (negative : Bool) (v : Rat), 0 ≤ v ∧ roundMagnitude (v * 100) < 2 ^ (1024 : Int) ∧
        a.roundTwo = withSign negative (twoPlaces v) := by
  cases a with
  | nan | infinite => cases h
  | negativeZero =>
    refine .inr ⟨false, 0, le_refl 0, ?_, ?_⟩
    · rw [zero_mul, roundMagnitude_zero]
      exact zpow_two_pos _
    · rw [roundTwo_negativeZero, twoPlaces_zero, withSign_false]
  | finite q =>
    rw [roundTwo_finite]
    by_cases hlarge : (2 : Rat) ^ (1024 : Int) ≤ roundMagnitude (|q| * 100)
    · exact .inl ⟨_, if_pos hlarge⟩
    · exact .inr ⟨_, _, abs_nonneg q, not_le.mp hlarge, if_neg hlarge⟩

/-- **Two roundings are as many as three.** -/
theorem roundTwo_roundTwo (a : Number) : a.roundTwo.roundTwo.roundTwo = a.roundTwo.roundTwo := by
  cases ha : a.isFinite with
  | false => simp only [roundTwo_of_not_isFinite ha]
  | true =>
    rcases roundTwo_of_isFinite ha with ⟨negative, h⟩ | ⟨negative, v, hv, hlt, h⟩
    · simp only [h, roundTwo_of_not_isFinite (a := infinite negative) rfl]
    · have hlt' := twoPlaces_mul_lt hv hlt
      have hlt'' := twoPlaces_mul_lt (twoPlaces_nonneg hv) hlt'
      rw [h, roundTwo_withSign _ (twoPlaces_nonneg hv) hlt',
        roundTwo_withSign _ (twoPlaces_nonneg (twoPlaces_nonneg hv)) hlt'', twoPlaces_twoPlaces hv]

/-- **Only the first rounding can be too large.** -/
theorem isFinite_roundTwo_roundTwo (a : Number) :
    a.roundTwo.roundTwo.isFinite = a.roundTwo.isFinite := by
  cases ha : a.isFinite with
  | false => simp only [roundTwo_of_not_isFinite ha]
  | true =>
    rcases roundTwo_of_isFinite ha with ⟨negative, h⟩ | ⟨negative, v, hv, hlt, h⟩
    · simp only [h, roundTwo_of_not_isFinite (a := infinite negative) rfl]
    · rw [h, roundTwo_withSign _ (twoPlaces_nonneg hv) (twoPlaces_mul_lt hv hlt)]
      rfl

end PanelPuzzle.Number
