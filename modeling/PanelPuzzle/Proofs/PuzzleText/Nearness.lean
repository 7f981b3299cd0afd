import PanelPuzzle.Proofs.PuzzleText.Exact
/-!
# Numbers that are near to each other

Sizes are compared by their distance, and with a tolerance.

**Order.**  For values of binary64 a distance is one rounding of the exact distance, so it is the same
from either side: `Number.distance_comm`.  A sum is the same in either order anyway.

**Two decimals.**  Numbers of two decimals are a hundredth apart if they differ at all, which is much more
than the tolerance: `Number.eq_of_near`.  So it is with the sizes that are written as they are,
`Side.SizeHolds.eq_of_near`.
-/

namespace PanelPuzzle

namespace Number

/-! ## Values of binary64 -/

/-- **A value that binary64 holds:** it is rounded to itself. -/
def Binary : Number → Prop
  | finite q => ofRat q = finite q
  | nan | infinite _ | negativeZero => True

instance : DecidablePred Binary
  | finite q => inferInstanceAs (Decidable (ofRat q = finite q))
  | nan | infinite _ | negativeZero => isTrue trivial

lemma ofRat_zero : ofRat 0 = finite 0 := by decide +kernel

lemma abs_finite (q : Rat) : (finite q).abs = finite |q| := by
  rw [abs, isNegative]
  split_ifs with h
  · have hq : q < 0 := of_decide_eq_true h
    rw [neg, if_neg hq.ne, abs_of_neg hq]
  · have hq : 0 ≤ q := not_lt.mp fun hlt => h (decide_eq_true hlt)
    rw [abs_of_nonneg hq]

lemma abs_infinite (negative : Bool) : (infinite negative).abs = infinite false := by
  cases negative <;> rfl

/-- The sign does not count. -/
lemma abs_negated (a : Number) : a.neg.abs = a.abs := by
  cases a with
  | nan | negativeZero => rfl
  | infinite negative => rw [neg, abs_infinite, abs_infinite]
  | finite q =>
    rw [neg]
    split_ifs with h
    · rw [h]
      rfl
    · rw [abs_finite, abs_finite, abs_neg]

/-- The sign of a number can be taken away before it is rounded. -/
lemma abs_ofRat (q : Rat) : (ofRat q).abs = ofRat |q| := by
  have hmagnitude : ∀ negative, (ofMagnitude negative (roundMagnitude |q|)).abs =
      ofMagnitude false (roundMagnitude |q|) := by
    intro negative
    unfold ofMagnitude
    by_cases hzero : roundMagnitude |q| = 0
    · rw [if_pos hzero, if_pos hzero]
      cases negative <;> rfl
    by_cases hlarge : (2 : Rat) ^ (1024 : Int) ≤ roundMagnitude |q|
    · rw [if_neg hzero, if_pos hlarge, if_neg hzero, if_pos hlarge, abs_infinite]
    · rw [if_neg hzero, if_neg hlarge, if_neg hzero, if_neg hlarge, abs_finite,
        abs_sign negative (roundMagnitude_nonneg (abs_nonneg q)), if_neg Bool.false_ne_true]
  rw [ofRat, signed_eq, abs_eq, hmagnitude, ofRat, signed_eq, abs_eq, abs_abs,
    decide_eq_false (not_lt.mpr (abs_nonneg q))]

lemma Binary.abs_eq {a : Number} {p : Rat} (ha : a.Binary) (hp : a.toRat? = some p) :
    a.abs = ofRat |p| := by
  cases a with
  | nan | infinite => cases hp
  | negativeZero =>
    obtain rfl : 0 = p := Option.some.inj hp
    rw [abs_zero, ofRat_zero]
    rfl
  | finite p' =>
    obtain rfl : p' = p := Option.some.inj hp
    have hround : ofRat p' = finite p' := ha
    rw [← abs_ofRat, hround]

/-! ## Distances -/

lemma negativeZero_add {a : Number} (ha : a.isFinite = true) : add negativeZero a = a := by
  cases a with
  | nan | infinite => cases ha
  | negativeZero | finite => rfl

/-- **A distance is rounded once.** -/
lemma abs_sub_eq {a b : Number} {p q : Rat} (ha : a.Binary) (hb : b.Binary) (hp : a.toRat? = some p)
    (hq : b.toRat? = some q) : (a - b).abs = ofRat |p - q| := by
  change (add a b.neg).abs = _
  cases a with
  | nan | infinite => cases hp
  | negativeZero =>
    obtain rfl : 0 = p := Option.some.inj hp
    have hneg : b.neg.isFinite = true := by rw [isFinite, toRat?_neg hq, Option.isSome_some]
    rw [negativeZero_add hneg, abs_negated, hb.abs_eq hq, zero_sub, abs_neg]
  | finite p' =>
    obtain rfl : p' = p := Option.some.inj hp
    cases b with
    | nan | infinite => cases hq
    | negativeZero =>
      obtain rfl : 0 = q := Option.some.inj hq
      rw [neg, add, abs_ofRat, add_zero, sub_zero]
    | finite q' =>
      obtain rfl : q' = q := Option.some.inj hq
      rw [neg]
      split_ifs with hzero
      · rw [hzero, sub_zero, ← ha.abs_eq hp]
        rfl
      · rw [add, abs_ofRat, sub_eq_add_neg]

/-- A value is infinitely far from an infinity. -/
lemma distance_infinite (negative : Bool) {a : Number} {p : Rat} (hp : a.toRat? = some p) :
    (a - infinite negative).abs = infinite false ∧ (infinite negative - a).abs = infinite false := by
  have hadd : ∀ {b : Number} {q : Rat}, b.toRat? = some q → ∀ negative,
      add b (infinite negative) = infinite negative ∧ add (infinite negative) b = infinite negative := by
    intro b q hq negative
    cases b with
    | nan | infinite => cases hq
    | negativeZero | finite => exact ⟨rfl, rfl⟩
  constructor
  · change (add a (infinite !negative)).abs = _
    rw [(hadd hp _).1, abs_infinite]
  · change (add (infinite negative) a.neg).abs = _
    rw [(hadd (toRat?_neg hp) _).2, abs_infinite]

/-- **A distance is the same from either side.** -/
lemma distance_comm {a b : Number} (ha : a.Binary) (hb : b.Binary) : (a - b).abs = (b - a).abs := by
  cases hp : a.toRat? with
  | some p =>
    cases hq : b.toRat? with
    | some q => rw [abs_sub_eq ha hb hp hq, abs_sub_eq hb ha hq hp, abs_sub_comm]
    | none =>
      cases b with
      | negativeZero | finite => cases hq
      | nan => cases a <;> rfl
      | infinite n => rw [(distance_infinite n hp).1, (distance_infinite n hp).2]
  | none =>
    cases a with
    | negativeZero | finite => cases hp
    | nan => cases b <;> rfl
    | infinite m =>
      cases hq : b.toRat? with
      | some q => rw [(distance_infinite m hq).1, (distance_infinite m hq).2]
      | none =>
        cases b with
        | negativeZero | finite => cases hq
        | nan => rfl
        | infinite n => cases m <;> cases n <;> rfl

/-- A sum is the same in either order. -/
lemma sum_comm (a b : Number) : a + b = b + a := by
  change add a b = add b a
  cases a with
  | nan => cases b <;> rfl
  | negativeZero => cases b <;> rfl
  | infinite m =>
    cases b with
    | nan | negativeZero | finite => rfl
    | infinite n => cases m <;> cases n <;> rfl
  | finite p =>
    cases b with
    | nan | negativeZero | infinite => rfl
    | finite q => exact congrArg ofRat (add_comm p q)

/-! ## Two decimals -/

lemma toRat?_tolerance : ∃ t, tolerance.toRat? = some t ∧ t < 1 / 128 :=
  ⟨tolerance.toRat?.getD 0, by decide +kernel, by decide +kernel⟩

/-- A number of two decimals is the nearest to a number of hundredths. -/
lemma exists_hundredths {a : Number} {p : Rat} (ha : a.roundTwo = a) (hp : a.toRat? = some p)
    (hzero : 0 ≤ p) (h : p ≤ 2 ^ (43 : Int)) :
    a = finite p ∧ a.Binary ∧ ∃ n : Int, p = roundMagnitude (n / 100) ∧ |p - n / 100| ≤ 1 / 1024 := by
  have hplaces : a = finite (twoPlaces p) := ha.symm.trans (roundTwo_of_toRat? hp hzero h)
  have hvalue : twoPlaces p = p := by
    rw [hplaces] at hp
    exact Option.some.inj hp
  have hfinite : a = finite p := hplaces.trans (congrArg finite hvalue)
  have hn : (0 : Rat) ≤ hundredth p / 100 := by
    have := hundredth_nonneg hzero
    positivity
  have hsmall : (hundredth p : Rat) / 100 ≤ 2 ^ (44 : Int) := by
    by_contra hlarge
    have hle := zpow_le_roundMagnitude (not_le.mp hlarge).le (by norm_num)
    have htoo := hle.trans (hvalue.le.trans h)
    norm_num at htoo
  refine ⟨hfinite, ?_, hundredth p, hvalue.symm, ?_⟩
  · have hround : roundMagnitude p = p := by
      rw [← hvalue, twoPlaces, roundMagnitude_idem hn]
    rw [hfinite]
    change ofRat p = finite p
    rw [ofRat_eq hzero (h.trans (zpow_le_zpow_right₀ (by norm_num) (by norm_num))), hround]
  · have herror := abs_roundMagnitude_sub_le_of_le hn hsmall (by norm_num)
    rw [← twoPlaces, hvalue] at herror
    norm_num at herror ⊢
    exact herror

/-- **Two decimals tell numbers apart.**  Two numbers of two decimals and of a moderate size that are not
further from each other than the tolerance are the same. -/
lemma eq_of_near {a b : Number} {p q : Rat} (ha : a.roundTwo = a) (hb : b.roundTwo = b)
    (hp : a.toRat? = some p) (hq : b.toRat? = some q) (hpos : 0 ≤ p ∧ 0 ≤ q)
    (hmoderate : p ≤ 2 ^ (43 : Int) ∧ q ≤ 2 ^ (43 : Int))
    (hnear : tolerance.lt (a - b).abs = false) : a = b := by
  obtain ⟨ha', habinary, n, hn, hnerror⟩ := exists_hundredths ha hp hpos.1 hmoderate.1
  obtain ⟨hb', hbbinary, m, hm, hmerror⟩ := exists_hundredths hb hq hpos.2 hmoderate.2
  by_cases heq : n = m
  · rw [ha', hb', hn, hm, heq]
  -- otherwise they are further apart than both errors and the tolerance together
  have hstep : (1 : Rat) ≤ |(n : Rat) - m| := by
    exact_mod_cast Int.one_le_abs (sub_ne_zero.mpr heq)
  have hfar : (2 : Rat) ^ (-7 : Int) ≤ |p - q| := by
    rw [abs_le] at hnerror hmerror
    norm_num
    rcases le_abs.mp hstep with hless | hmore
    · exact le_abs.mpr (.inl (by linarith))
    · exact le_abs.mpr (.inr (by linarith))
  have hclose : |p - q| ≤ 2 ^ (44 : Int) := by
    have hgrow : (2 : Rat) ^ (43 : Int) ≤ 2 ^ (44 : Int) := by norm_num
    exact abs_le.mpr ⟨by linarith [hpos.1, hmoderate.2], by linarith [hpos.2, hmoderate.1]⟩
  obtain ⟨t, ht, hlt⟩ := toRat?_tolerance
  have hround := zpow_le_roundMagnitude hfar (by norm_num)
  norm_num at hround
  rw [abs_sub_eq habinary hbbinary hp hq, ofRat_eq (abs_nonneg _) hclose, lt, ht] at hnear
  simp only [toRat?, decide_eq_false_iff_not, not_lt] at hnear
  linarith

end Number

/-! ## Sizes -/

namespace Side

variable {s t : Shape} {m n : Number}

/-- A size that is written as it is has a moderate value. -/
lemma SizeHolds.exists_value (h : SizeHolds s.scale m) :
    ∃ q : Rat, m.toRat? = some q ∧ 0 ≤ q ∧ q ≤ 2 ^ (43 : Int) := by
  obtain ⟨l, v, u, -, hl, -, hv, hlv, hvu, -, hu⟩ := Shape.toRat?_clamp_size (s := s) ⟨m, h.1⟩
  have hkept : m.clamp 0.01 s.greatest = m := h.2
  rw [hkept] at hv
  exact ⟨v, hv, hl.trans hlv, (hvu.trans hu).trans (by norm_num)⟩

lemma SizeHolds.binary (h : SizeHolds s.scale m) : m.Binary := by
  obtain ⟨q, hq, hzero, hle⟩ := h.exists_value
  exact (Number.exists_hundredths h.1.2 hq hzero hle).2.1

/-- **Sizes of a puzzle that are near to each other are the same.** -/
lemma SizeHolds.eq_of_near (hm : SizeHolds s.scale m) (hn : SizeHolds t.scale n)
    (h : tolerance.lt (m - n).abs = false) : m = n := by
  obtain ⟨p, hp, hp0, hp'⟩ := hm.exists_value
  obtain ⟨q, hq, hq0, hq'⟩ := hn.exists_value
  exact Number.eq_of_near hm.1.2 hn.1.2 hp hq ⟨hp0, hq0⟩ ⟨hp', hq'⟩ h

end Side

end PanelPuzzle
