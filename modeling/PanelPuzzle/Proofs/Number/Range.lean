import PanelPuzzle.Proofs.Number.TwoDecimals
/-!
# Numbers of a moderate size

Sizes and positions inside a panel are far from everything that binary64 cannot hold.

**Ranges.**  `Number.InRange k` says that a number has a value of at most `2 ^ k`.  Every operation
leads from ranges to a range, so no step of a computation with few steps is too large.

**Rounding.**  The rounding to two decimals keeps the order, and up to `2 ^ 44` one rounding is as
many as two.  A magnitude that is moved into an interval and rounded, and again,
comes to the same: `Number.twoPlaces_clamp`.
-/

namespace PanelPuzzle.Number

/-! ## Values -/

lemma toRat?_neg {a : Number} {q : Rat} (h : a.toRat? = some q) : a.neg.toRat? = some (-q) := by
  cases a with
  | nan | infinite => cases h
  | negativeZero =>
    obtain rfl : 0 = q := Option.some.inj h
    rfl
  | finite p =>
    obtain rfl : p = q := Option.some.inj h
    by_cases hp : p = 0
    · simp [neg, hp, toRat?]
    · simp [neg, hp, toRat?]

lemma toRat?_larger_zero {a : Number} {q : Rat} (h : a.toRat? = some q) :
    (a.larger 0).toRat? = some (max q 0) := by
  have hnan : a ≠ nan := by
    rintro rfl
    cases h
  have hzero : (finite 0).toRat? = some 0 := rfl
  rw [zero_eq, larger, if_neg hnan, if_neg (by decide), lt, h, hzero]
  simp only [decide_eq_true_eq]
  split_ifs with hlt
  · rw [max_eq_right hlt.le, hzero]
  · rw [max_eq_left (not_lt.mp hlt), h]

/-- **A value is moved into an interval.** -/
lemma toRat?_clamp {a low high : Number} {q l u : Rat} (h : a.toRat? = some q)
    (hlow : low.toRat? = some l) (hhigh : high.toRat? = some u) (hle : l ≤ u) :
    (a.clamp low high).toRat? = some (max l (min q u)) := by
  rw [clamp, lt, lt, h, hlow, hhigh]
  simp only [decide_eq_true_eq]
  split_ifs with hbelow habove
  · rw [hlow, min_eq_left (hbelow.le.trans hle), max_eq_left hbelow.le]
  · rw [hhigh, min_eq_right habove.le, max_eq_right hle]
  · rw [h, min_eq_left (not_lt.mp habove), max_eq_right (not_lt.mp hbelow)]

/-- An infinity is moved to an end of the interval. -/
lemma clamp_infinite {low high : Number} {l u : Rat} (negative : Bool)
    (hlow : low.toRat? = some l) (hhigh : high.toRat? = some u) :
    (infinite negative).clamp low high = if negative then low else high := by
  rw [clamp, lt, lt, hlow, hhigh]
  cases negative <;> simp [toRat?]

/-! ## Ranges -/

/-- A number with a value of at most `2 ^ k`. -/
def InRange (k : Nat) (a : Number) : Prop := ∃ q, a.toRat? = some q ∧ |q| ≤ 2 ^ (k : Int)

lemma InRange.mono {k l : Nat} {a : Number} (h : a.InRange k) (hle : k ≤ l) : a.InRange l := by
  obtain ⟨q, hq, hk⟩ := h
  exact ⟨q, hq, hk.trans (zpow_le_zpow_right₀ (by norm_num) (by omega))⟩

/-- The number nearest to a value stays in the range of the value. -/
lemma inRange_signed (negative : Bool) {k : Nat} {q : Rat} (hk : k < 1024) (hq : 0 ≤ q)
    (h : q ≤ 2 ^ (k : Int)) : (signed negative q).InRange k := by
  have hr := roundMagnitude_nonneg hq
  have hle := roundMagnitude_le_zpow hq h (by omega)
  have hlt : roundMagnitude q < 2 ^ (1024 : Int) :=
    hle.trans_lt (zpow_lt_zpow_right₀ (by norm_num) (by omega))
  rw [signed_eq]
  exact ⟨_, toRat?_ofMagnitude negative hlt, by rwa [abs_sign negative hr]⟩

lemma inRange_mul {k l : Nat} {a b : Number} (ha : a.InRange k) (hb : b.InRange l)
    (h : k + l < 1024) : (a * b).InRange (k + l) := by
  obtain ⟨p, hp, hpk⟩ := ha
  obtain ⟨q, hq, hql⟩ := hb
  have hle : (p * q).abs ≤ 2 ^ ((k + l : Nat) : Int) := by
    rw [abs_eq, abs_mul, Nat.cast_add, zpow_add₀ (by norm_num)]
    exact mul_le_mul hpk hql (abs_nonneg q) (zpow_two_pos _).le
  change (mul a b).InRange (k + l)
  simp only [mul, hp, hq]
  exact inRange_signed _ h (by rw [abs_eq]; exact abs_nonneg _) hle

lemma inRange_add {k : Nat} {a b : Number} (ha : a.InRange k) (hb : b.InRange k)
    (h : k + 1 < 1024) : (a + b).InRange (k + 1) := by
  change (add a b).InRange (k + 1)
  cases a with
  | nan | infinite => exact absurd ha (by rintro ⟨q, hq, -⟩; cases hq)
  | negativeZero =>
    cases b with
    | nan | infinite => exact absurd hb (by rintro ⟨q, hq, -⟩; cases hq)
    | negativeZero => exact ha.mono k.le_succ
    | finite q => exact hb.mono k.le_succ
  | finite p =>
    cases b with
    | nan | infinite => exact absurd hb (by rintro ⟨q, hq, -⟩; cases hq)
    | negativeZero => exact ha.mono k.le_succ
    | finite q =>
      obtain ⟨p', hp', hp⟩ := ha
      obtain ⟨q', hq', hq⟩ := hb
      obtain rfl : p = p' := Option.some.inj hp'
      obtain rfl : q = q' := Option.some.inj hq'
      have hle : (p + q).abs ≤ 2 ^ ((k + 1 : Nat) : Int) := by
        rw [abs_eq, Nat.cast_add, Nat.cast_one, zpow_add₀ (by norm_num), zpow_one]
        have := abs_add_le p q
        linarith
      exact inRange_signed _ h (by rw [abs_eq]; exact abs_nonneg _) hle

lemma inRange_sub {k : Nat} {a b : Number} (ha : a.InRange k) (hb : b.InRange k)
    (h : k + 1 < 1024) : (a - b).InRange (k + 1) := by
  obtain ⟨q, hq, hk⟩ := hb
  exact inRange_add ha ⟨-q, toRat?_neg hq, by rwa [abs_neg]⟩ h

/-! ## Rounding -/

/-- What is no larger than `2 ^ 44` is rounded to a value. -/
lemma ofRat_eq {q : Rat} (hzero : 0 ≤ q) (h : q ≤ 2 ^ (44 : Int)) :
    ofRat q = finite (roundMagnitude q) := by
  have hle := roundMagnitude_le_zpow hzero h (by norm_num)
  have hlt : roundMagnitude q < 2 ^ (1024 : Int) :=
    hle.trans_lt (zpow_lt_zpow_right₀ (by norm_num) (by norm_num))
  rw [ofRat, signed_eq, abs_eq, abs_of_nonneg hzero, decide_eq_false (not_lt.mpr hzero),
    ofMagnitude, if_neg (not_le.mpr hlt), zero, if_neg Bool.false_ne_true,
    if_neg Bool.false_ne_true, ite_eq_right_iff]
  exact fun hround => congrArg finite hround.symm

lemma hundredth_mono {p q : Rat} (hp : 0 ≤ p) (h : p ≤ q) : hundredth p ≤ hundredth q := by
  have hround := roundMagnitude_mono (by linarith : 0 ≤ p * 100) (by linarith : p * 100 ≤ q * 100)
  refine Rat.le_floor_iff.mpr ((Rat.floor_le _).trans ?_)
  linarith

lemma twoPlaces_mono {p q : Rat} (hp : 0 ≤ p) (h : p ≤ q) : twoPlaces p ≤ twoPlaces q := by
  have hn : (0 : Rat) ≤ hundredth p := by exact_mod_cast hundredth_nonneg hp
  have hle : (hundredth p : Rat) ≤ hundredth q := by exact_mod_cast hundredth_mono hp h
  exact roundMagnitude_mono (by positivity) (by linarith)

/-- **One rounding is as many as two,** if it leads to a moderate magnitude. -/
lemma twoPlaces_twoPlaces_of_le {v : Rat} (hv : 0 ≤ v) (h : twoPlaces v ≤ 2 ^ (44 : Int)) :
    twoPlaces (twoPlaces v) = twoPlaces v := by
  refine twoPlaces_of_lt (hundredth_nonneg hv) (not_le.mp fun hlarge => ?_)
  have hle := (zpow_le_roundMagnitude hlarge (by norm_num)).trans h
  norm_num at hle

lemma roundMagnitude_mul_le {v : Rat} (hv : 0 ≤ v) (h : v ≤ 2 ^ (43 : Int)) :
    roundMagnitude (v * 100) ≤ 2 ^ (50 : Int) := by
  refine roundMagnitude_le_zpow (by linarith) ?_ (by norm_num)
  norm_num at h ⊢
  linarith

lemma twoPlaces_le {v : Rat} (hv : 0 ≤ v) (h : v ≤ 2 ^ (43 : Int)) :
    twoPlaces v ≤ 2 ^ (44 : Int) := by
  have hround := roundMagnitude_mul_le hv h
  have hfloor : (hundredth v : Rat) ≤ roundMagnitude (v * 100) + 1 / 2 := Rat.floor_le _
  have hn : (0 : Rat) ≤ hundredth v := by exact_mod_cast hundredth_nonneg hv
  refine roundMagnitude_le_zpow (by positivity) ?_ (by norm_num)
  norm_num at hround ⊢
  linarith

/-- **Two decimals of a small value** exceed it by a hundredth at most. -/
lemma twoPlaces_roundMagnitude_le {v : Rat} (hv : 0 ≤ v) (h : v ≤ 2 ^ (4 : Int)) :
    twoPlaces (roundMagnitude v) ≤ v + 1 / 100 := by
  have herror := abs_roundMagnitude_sub_le_of_le hv h (by norm_num)
  have hpos := roundMagnitude_nonneg hv
  have hle := roundMagnitude_le_zpow hv h (by norm_num)
  generalize roundMagnitude v = u at *
  have hn : (0 : Rat) ≤ hundredth u := by exact_mod_cast hundredth_nonneg hpos
  have hfloor : (hundredth u : Rat) ≤ roundMagnitude (u * 100) + 1 / 2 := Rat.floor_le _
  have hlarge : u * 100 ≤ 2 ^ (11 : Int) := by
    norm_num at hle ⊢
    linarith
  have hmul := abs_roundMagnitude_sub_le_of_le (by linarith : 0 ≤ u * 100) hlarge (by norm_num)
  norm_num at h herror hmul
  rw [abs_le] at herror hmul
  have hsmall : (hundredth u : Rat) / 100 ≤ 2 ^ (5 : Int) := by
    norm_num
    linarith
  have hdiv := abs_roundMagnitude_sub_le_of_le (by positivity) hsmall (by norm_num)
  norm_num at hdiv
  rw [abs_le] at hdiv
  rw [twoPlaces]
  linarith

/-- A rounded number of a moderate size is not changed by rounding. -/
lemma roundTwo_eq_self {a : Number} {q : Rat} (ha : a.roundTwo.toRat? = some q)
    (hq : |q| ≤ 2 ^ (44 : Int)) : a.roundTwo.roundTwo = a.roundTwo := by
  cases hfinite : a.isFinite with
  | false => simp only [roundTwo_of_not_isFinite hfinite]
  | true =>
    rcases roundTwo_of_isFinite hfinite with ⟨negative, h⟩ | ⟨negative, v, hv, hlt, h⟩
    · rw [h] at ha
      cases ha
    · have hplaces := twoPlaces_nonneg hv
      have hvalue : twoPlaces v ≤ 2 ^ (44 : Int) := by
        rw [h, withSign, toRat?, Option.some_inj] at ha
        rwa [← ha, abs_sign negative hplaces] at hq
      rw [h, roundTwo_withSign _ hplaces (twoPlaces_mul_lt hv hlt),
        twoPlaces_twoPlaces_of_le hv hvalue]

lemma roundTwo_of_toRat? {a : Number} {q : Rat} (ha : a.toRat? = some q) (hq : 0 ≤ q)
    (h : q ≤ 2 ^ (43 : Int)) : a.roundTwo = finite (twoPlaces q) := by
  have hlt : roundMagnitude (q * 100) < 2 ^ (1024 : Int) :=
    (roundMagnitude_mul_le hq h).trans_lt (zpow_lt_zpow_right₀ (by norm_num) (by norm_num))
  cases a with
  | nan | infinite => cases ha
  | negativeZero =>
    obtain rfl : 0 = q := Option.some.inj ha
    rw [roundTwo_negativeZero, twoPlaces_zero]
  | finite p =>
    obtain rfl : p = q := Option.some.inj ha
    rw [← withSign_false, roundTwo_withSign false hq hlt, withSign_false]

/-- **Moved into an interval and rounded** once more, a magnitude stays the same. -/
lemma twoPlaces_clamp {l v u : Rat} (hl : 0 ≤ l) (hlow : twoPlaces l = l) (hlv : l ≤ v)
    (hvu : v ≤ u) (hu : u ≤ 2 ^ (43 : Int)) :
    twoPlaces (max l (min (twoPlaces v) u)) = twoPlaces v := by
  have hv := hl.trans hlv
  have hidem := twoPlaces_twoPlaces_of_le hv (twoPlaces_le hv (hvu.trans hu))
  have hle : l ≤ twoPlaces v := hlow ▸ twoPlaces_mono hl hlv
  rcases le_total (twoPlaces v) u with hin | hout
  · rw [min_eq_left hin, max_eq_right hle, hidem]
  · -- the interval ends between the magnitude and its rounding
    rw [min_eq_right hout, max_eq_right (hlv.trans hvu)]
    refine le_antisymm ?_ (twoPlaces_mono hv hvu)
    calc twoPlaces u ≤ twoPlaces (twoPlaces v) := twoPlaces_mono (hv.trans hvu) hout
      _ = twoPlaces v := hidem

end PanelPuzzle.Number
