import PanelPuzzle.Shape
import PanelPuzzle.Proofs.Number.Range
/-!
# Numbers along a side

A number along a side of the panel is compared with another, moved into an interval, or put together from a
number of cells and a value.  Here are these steps for values, each as an exact step and perhaps one rounding.
-/

namespace PanelPuzzle.Number

/-! ## Order -/

lemma lt_eq_false_of_le {a b : Number} (h : a.le b = true) : b.lt a = false := by
  rw [le, lt, same] at h
  rw [lt]
  cases ha : a.toRat? with
  | none =>
    cases hb : b.toRat? with
    | none =>
      rw [ha, hb] at h
      rcases Bool.or_eq_true_iff.mp h with h | h
      all_goals simp only [Bool.and_eq_true, decide_eq_true_eq] at h
      · simp [h.1]
      · obtain ⟨rfl, -⟩ := h
        cases a <;> simp
    | some q => simp_all
  | some p =>
    cases hb : b.toRat? with
    | none => simp_all
    | some q =>
      rw [ha, hb] at h
      simp only [Bool.or_eq_true, decide_eq_true_eq] at h
      exact decide_eq_false (not_lt.mpr (h.elim le_of_lt le_of_eq))

/-- A number in an interval is not moved. -/
lemma clamp_eq_self {a low high : Number} (hlow : low.le a = true) (hhigh : a.le high = true) :
    a.clamp low high = a := by
  rw [clamp, lt_eq_false_of_le hlow, lt_eq_false_of_le hhigh]
  rfl

lemma finite_le {p q : Rat} (h : p ≤ q) {b : Number} (hb : (finite q).le b = true) :
    (finite p).le b = true := by
  have hp : (finite p).toRat? = some p := rfl
  have hq : (finite q).toRat? = some q := rfl
  rw [le, lt, same, hq] at hb
  rw [le, lt, same, hp]
  cases hvalue : b.toRat? with
  | none => simpa [hvalue] using hb
  | some r =>
    rw [hvalue] at hb
    simp only [Bool.or_eq_true, decide_eq_true_eq] at hb ⊢
    exact lt_or_eq_of_le (h.trans (hb.elim le_of_lt le_of_eq))

lemma zero_le_finite {q : Rat} (h : 0 ≤ q) : (0 : Number).le (finite q) = true := by
  rw [zero_eq, le, lt, same]
  simp only [toRat?, Bool.or_eq_true, decide_eq_true_eq]
  exact lt_or_eq_of_le h

lemma floorNat_mono {p q : Rat} (h : p ≤ q) : (finite p).floorNat ≤ (finite q).floorNat := by
  have hfloor : p.floor ≤ q.floor := Int.floor_mono h
  simp only [floorNat, unsigned]
  omega

/-- A positive value is held by itself. -/
lemma eq_finite_of_pos {a : Number} {q : Rat} (h : a.toRat? = some q) (hpos : 0 < q) :
    a = finite q := by
  cases a with
  | nan | infinite => cases h
  | negativeZero =>
    obtain rfl : 0 = q := Option.some.inj h
    exact absurd hpos (lt_irrefl 0)
  | finite p => exact congrArg finite (Option.some.inj h)

/-- The values of the numbers of cells. -/
lemma ofNat_eq {n : Nat} (h : n ≤ gridSize) : ofNat n = finite n := by
  have hvalues : ∀ n < 9, ofNat n = finite n := by decide +kernel
  exact hvalues n (Nat.lt_succ_of_le h)

/-! ## Arithmetic -/

lemma ofNat_add {n : Nat} (hn : n ≤ gridSize) (q : Rat) : ofNat n + finite q = ofRat (n + q) := by
  rw [ofNat_eq hn]
  rfl

lemma ofNat_add_zero {n : Nat} (hn : n ≤ gridSize) : ofNat n + 0 = ofNat n := by
  rw [zero_eq, ofNat_add hn, add_zero, ofNat]

lemma ofNat_sub {n : Nat} (hn : n ≤ gridSize) {q : Rat} (hq : 0 < q) :
    ofNat n - finite q = ofRat (n - q) := by
  rw [ofNat_eq hn, sub_eq_add_neg (n : Rat)]
  change add (finite n) (neg (finite q)) = _
  rw [neg, if_neg hq.ne', add]

lemma div_two {q : Rat} (hzero : 0 ≤ q) : finite q / 2 = ofRat (q / 2) := by
  have htwo : (2 : Number) = finite 2 := ofNat_eq (by decide : 2 ≤ gridSize)
  have hpos : (finite 2).isNegative = false := by decide
  rw [htwo]
  change div (finite q) (finite 2) = _
  rw [div, hpos, Bool.bne_false]
  simp only [toRat?]
  rw [if_neg (by norm_num), ofRat, isNegative, decide_eq_false (not_lt.mpr hzero),
    decide_eq_false (not_lt.mpr (by positivity))]

lemma larger_zero {q : Rat} (hzero : 0 ≤ q) : (finite q).larger 0 = finite q := by
  rw [zero_eq, larger, if_neg Number.noConfusion, if_neg Number.noConfusion, lt]
  exact if_neg (by simpa [toRat?] using hzero)

end PanelPuzzle.Number
