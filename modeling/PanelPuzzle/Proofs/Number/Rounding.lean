import Mathlib.Tactic
import Mathlib.Algebra.Order.Field.Power
import PanelPuzzle.Number.Basic
/-!
# Rounding to binary digits

What is to be known of `Number.roundMagnitude`, which keeps 53 binary digits of a rational number.

* `Number.abs_nearestEven_sub_le`, `Number.nearestEven_mono` — the nearest integer.
* `Number.zpow_binade_le`, `Number.lt_zpow_binade` — the binade of a number.
* `Number.abs_roundMagnitude_sub_le` — the error is at most half a unit.
* `Number.roundMagnitude_eq_self` — what has few digits is kept.
* `Number.roundMagnitude_mono` — rounding keeps the order.
-/

namespace PanelPuzzle.Number

/-! ## The nearest integer -/

lemma abs_nearestEven_sub_le (q : Rat) : |(nearestEven q : Rat) - q| ≤ 1 / 2 := by
  have hlow := Rat.floor_le q
  have hhigh := Rat.lt_floor_add_one q
  push_cast at hhigh
  unfold nearestEven
  dsimp only
  split_ifs with h₁ h₂ h₃
  all_goals
    push_cast
    rw [abs_le]
    constructor <;> linarith

/-- An integer that is nearer than a half is the nearest one. -/
lemma nearestEven_eq_of_abs_lt {q : Rat} {n : Int} (h : |q - n| < 1 / 2) : nearestEven q = n := by
  have hnear := abs_nearestEven_sub_le q
  rw [abs_lt] at h
  rw [abs_le] at hnear
  have hlow : (nearestEven q : Rat) < n + 1 := by linarith
  have hhigh : (n : Rat) < nearestEven q + 1 := by linarith
  have hlow' : nearestEven q < n + 1 := by exact_mod_cast hlow
  have hhigh' : n < nearestEven q + 1 := by exact_mod_cast hhigh
  omega

lemma nearestEven_intCast (n : Int) : nearestEven n = n :=
  nearestEven_eq_of_abs_lt (by norm_num)

/-- **The nearest integer keeps the order.**  Two numbers whose nearest integers are in the wrong
order would be a half away from both, and so equal. -/
lemma nearestEven_mono {p q : Rat} (h : p ≤ q) : nearestEven p ≤ nearestEven q := by
  by_contra hlt
  have hp := abs_nearestEven_sub_le p
  have hq := abs_nearestEven_sub_le q
  rw [abs_le] at hp hq
  have hstep : (nearestEven q : Rat) + 1 ≤ nearestEven p := by exact_mod_cast not_le.mp hlt
  have heq : p = q := by linarith
  exact hlt (by rw [heq])

lemma le_nearestEven {q : Rat} {n : Int} (h : (n : Rat) ≤ q) : n ≤ nearestEven q := by
  rw [← nearestEven_intCast n]
  exact nearestEven_mono h

lemma nearestEven_le {q : Rat} {n : Int} (h : q ≤ n) : nearestEven q ≤ n := by
  rw [← nearestEven_intCast n]
  exact nearestEven_mono h

/-! ## The binade -/

lemma zpow_two_pos (e : Int) : (0 : Rat) < 2 ^ e := zpow_pos (by norm_num) e

lemma zpow_add_natCast (e : Int) (i : Nat) : (2 : Rat) ^ (e + i) = 2 ^ i * 2 ^ e := by
  rw [zpow_add₀ (by norm_num), zpow_natCast, mul_comm]

lemma log2_spec {n : Nat} (h : n ≠ 0) :
    (2 : Rat) ^ (n.log2 : Int) ≤ n ∧ (n : Rat) < 2 ^ ((n.log2 : Int) + 1) := by
  have hlow : 2 ^ n.log2 ≤ n := Nat.log2_self_le h
  have hhigh : n < 2 ^ (n.log2 + 1) := Nat.lt_log2_self
  constructor
  · rw [zpow_natCast]
    exact_mod_cast hlow
  · have hcast : ((n.log2 : Int) + 1) = ((n.log2 + 1 : Nat) : Int) := by push_cast; ring
    rw [hcast, zpow_natCast]
    exact_mod_cast hhigh

/-- A positive number lies between the powers of two that its numerator and its denominator
suggest. -/
lemma guess_spec {q : Rat} (h : 0 < q) :
    (2 : Rat) ^ ((q.num.natAbs.log2 : Int) - q.den.log2 - 1) < q ∧
      q < 2 ^ ((q.num.natAbs.log2 : Int) - q.den.log2 + 1) := by
  have hnum : 0 < q.num := Rat.num_pos.mpr h
  have hden : (0 : Rat) < q.den := by exact_mod_cast q.den_pos
  obtain ⟨hn, hn'⟩ := log2_spec (n := q.num.natAbs) (by omega)
  obtain ⟨hd, hd'⟩ := log2_spec (n := q.den) q.den_nz
  have hcast : ((q.num.natAbs : Nat) : Rat) = q.num := by
    rw [← Int.cast_natCast, Int.natAbs_of_nonneg hnum.le]
  rw [hcast] at hn hn'
  have hq : q = q.num / q.den := (Rat.num_div_den q).symm
  constructor
  · calc (2 : Rat) ^ ((q.num.natAbs.log2 : Int) - q.den.log2 - 1)
        = 2 ^ (q.num.natAbs.log2 : Int) / 2 ^ ((q.den.log2 : Int) + 1) := by
          rw [← zpow_sub₀ (by norm_num)]; congr 1; ring
      _ < q.num / q.den := by
          rw [div_lt_div_iff₀ (zpow_two_pos _) hden]
          exact mul_lt_mul' hn hd' hden.le (by exact_mod_cast hnum)
      _ = q := hq.symm
  · calc q = q.num / q.den := hq
      _ < 2 ^ ((q.num.natAbs.log2 : Int) + 1) / 2 ^ (q.den.log2 : Int) := by
          rw [div_lt_div_iff₀ hden (zpow_two_pos _)]
          exact mul_lt_mul hn' hd (zpow_two_pos _) (zpow_two_pos _).le
      _ = 2 ^ ((q.num.natAbs.log2 : Int) - q.den.log2 + 1) := by
          rw [← zpow_sub₀ (by norm_num)]; congr 1; ring

lemma zpow_binade_le {q : Rat} (h : 0 < q) : (2 : Rat) ^ binade q ≤ q := by
  unfold binade
  dsimp only
  split_ifs with hguess
  · exact hguess
  · exact (guess_spec h).1.le

lemma lt_zpow_binade {q : Rat} (h : 0 < q) : q < 2 ^ (binade q + 1) := by
  unfold binade
  dsimp only
  split_ifs with hguess
  · exact (guess_spec h).2
  · rw [sub_add_cancel]
    exact not_le.mp hguess

/-- **The binade is told by two powers of two.** -/
lemma binade_eq {q : Rat} {k : Int} (hlow : (2 : Rat) ^ k ≤ q) (hhigh : q < 2 ^ (k + 1)) :
    binade q = k := by
  have hq : 0 < q := (zpow_two_pos k).trans_le hlow
  have h₁ : (2 : Rat) ^ binade q < 2 ^ (k + 1) := (zpow_binade_le hq).trans_lt hhigh
  have h₂ : (2 : Rat) ^ k < 2 ^ (binade q + 1) := hlow.trans_lt (lt_zpow_binade hq)
  have h₁' := (zpow_lt_zpow_iff_right₀ (by norm_num)).mp h₁
  have h₂' := (zpow_lt_zpow_iff_right₀ (by norm_num)).mp h₂
  omega

lemma binade_lt {q : Rat} {k : Int} (h : 0 < q) (hk : q < 2 ^ k) : binade q < k :=
  (zpow_lt_zpow_iff_right₀ (by norm_num)).mp ((zpow_binade_le h).trans_lt hk)

lemma binade_mono {p q : Rat} (hp : 0 < p) (h : p ≤ q) : binade p ≤ binade q := by
  have hlt := ((zpow_binade_le hp).trans h).trans_lt (lt_zpow_binade (hp.trans_le h))
  have := (zpow_lt_zpow_iff_right₀ (by norm_num : (1 : Rat) < 2)).mp hlt
  omega

/-! ## Rounding -/

/-- The unit of the last digit that is kept. -/
def unit (q : Rat) : Rat := 2 ^ unitExponent q

lemma unit_pos (q : Rat) : 0 < unit q := zpow_two_pos _

lemma roundMagnitude_eq (q : Rat) : roundMagnitude q = nearestEven (q / unit q) * unit q := rfl

/-- **The error is at most half a unit.** -/
lemma abs_roundMagnitude_sub_le (q : Rat) : |roundMagnitude q - q| ≤ unit q / 2 := by
  have hu := unit_pos q
  have hnear := abs_nearestEven_sub_le (q / unit q)
  have hscale : roundMagnitude q - q = ((nearestEven (q / unit q) : Rat) - q / unit q) * unit q := by
    rw [roundMagnitude_eq, sub_mul, div_mul_cancel₀ _ hu.ne']
  rw [hscale, abs_mul, abs_of_pos hu]
  nlinarith

/-- A multiple of the unit that is nearer than half a unit is the rounded number. -/
lemma roundMagnitude_eq_of_abs_lt {q : Rat} (n : Int) (h : |q - n * unit q| < unit q / 2) :
    roundMagnitude q = n * unit q := by
  have hu := unit_pos q
  have hnear : nearestEven (q / unit q) = n := by
    refine nearestEven_eq_of_abs_lt ?_
    have hdiv : q / unit q - n = (q - n * unit q) / unit q := by
      rw [sub_div, mul_div_cancel_right₀ _ hu.ne']
    rw [hdiv, abs_div, abs_of_pos hu, div_lt_iff₀ hu]
    linarith
  rw [roundMagnitude_eq, hnear]

lemma le_roundMagnitude {q : Rat} (n : Int) (h : n * unit q ≤ q) :
    n * unit q ≤ roundMagnitude q := by
  have hu := unit_pos q
  rw [roundMagnitude_eq]
  have hn : n ≤ nearestEven (q / unit q) := le_nearestEven ((le_div_iff₀ hu).mpr h)
  exact mul_le_mul_of_nonneg_right (by exact_mod_cast hn) hu.le

lemma roundMagnitude_le {q : Rat} (n : Int) (h : q ≤ n * unit q) :
    roundMagnitude q ≤ n * unit q := by
  have hu := unit_pos q
  rw [roundMagnitude_eq]
  have hn : nearestEven (q / unit q) ≤ n := nearestEven_le ((div_le_iff₀ hu).mpr h)
  exact mul_le_mul_of_nonneg_right (by exact_mod_cast hn) hu.le

/-- A power of two above the unit is a multiple of it. -/
lemma exists_mul_unit {q : Rat} (n : Int) {e : Int} (h : unitExponent q ≤ e) :
    ∃ m : Int, (n : Rat) * 2 ^ e = m * unit q := by
  refine ⟨n * 2 ^ (e - unitExponent q).toNat, ?_⟩
  have hsplit : (2 : Rat) ^ e = 2 ^ (e - unitExponent q).toNat * 2 ^ unitExponent q := by
    rw [← zpow_natCast, Int.toNat_of_nonneg (by omega), ← zpow_add₀ (by norm_num)]
    congr 1
    ring
  rw [unit, hsplit]
  push_cast
  ring

/-- **What has few digits is kept:** a multiple of a power of two that is not below the unit. -/
lemma roundMagnitude_eq_self {q : Rat} (n : Int) {e : Int} (hq : q = n * 2 ^ e)
    (he : unitExponent q ≤ e) : roundMagnitude q = q := by
  obtain ⟨m, hm⟩ := exists_mul_unit n he
  rw [← hq] at hm
  rw [roundMagnitude_eq_of_abs_lt m, ← hm]
  rw [← hm, sub_self, abs_zero]
  linarith [unit_pos q]

lemma unitExponent_mono {p q : Rat} (hp : 0 < p) (h : p ≤ q) : unitExponent p ≤ unitExponent q :=
  max_le_max (sub_le_sub_right (binade_mono hp h) 52) le_rfl

lemma roundMagnitude_zero : roundMagnitude 0 = 0 := by
  rw [roundMagnitude_eq, zero_div, show (0 : Rat) = ((0 : Int) : Rat) from rfl,
    nearestEven_intCast, Int.cast_zero, zero_mul]

lemma roundMagnitude_nonneg {q : Rat} (h : 0 ≤ q) : 0 ≤ roundMagnitude q := by
  have := le_roundMagnitude (q := q) 0 (by simpa using h)
  simpa using this

/-- **Rounding keeps the order.**  Numbers with different units have a power of two between them,
which both roundings respect. -/
lemma roundMagnitude_mono {p q : Rat} (hp : 0 ≤ p) (h : p ≤ q) :
    roundMagnitude p ≤ roundMagnitude q := by
  rcases hp.eq_or_lt with rfl | hp
  · rw [roundMagnitude_zero]
    exact roundMagnitude_nonneg h
  have hq : 0 < q := hp.trans_le h
  rcases (unitExponent_mono hp h).eq_or_lt with heq | hlt
  · have hunit : unit p = unit q := by rw [unit, unit, heq]
    rw [roundMagnitude_eq, roundMagnitude_eq, hunit]
    have hu := unit_pos q
    have hn := nearestEven_mono (div_le_div_of_nonneg_right h hu.le)
    exact mul_le_mul_of_nonneg_right (by exact_mod_cast hn) hu.le
  · have hexp : unitExponent q = binade q - 52 ∧ binade p < binade q := by
      simp only [unitExponent] at hlt ⊢
      omega
    have hple : unitExponent p ≤ binade q := by omega
    have hqle : unitExponent q ≤ binade q := by omega
    obtain ⟨i, hi⟩ := exists_mul_unit (q := p) 1 hple
    obtain ⟨j, hj⟩ := exists_mul_unit (q := q) 1 hqle
    have hpow : p ≤ 2 ^ binade q := by
      refine (lt_zpow_binade hp).le.trans ?_
      exact zpow_le_zpow_right₀ (by norm_num) (by omega)
    calc roundMagnitude p ≤ i * unit p := roundMagnitude_le i (by rwa [← hi, Int.cast_one, one_mul])
      _ = j * unit q := by rw [← hi, ← hj]
      _ ≤ roundMagnitude q :=
        le_roundMagnitude j (by rw [← hj, Int.cast_one, one_mul]; exact zpow_binade_le hq)

/-- **A rounded number is kept.**  It has the unit of the number that was rounded, unless it is the
next power of two. -/
lemma roundMagnitude_idem {q : Rat} (h : 0 ≤ q) :
    roundMagnitude (roundMagnitude q) = roundMagnitude q := by
  rcases h.eq_or_lt with rfl | hq
  · rw [roundMagnitude_zero, roundMagnitude_zero]
  rcases (roundMagnitude_nonneg h).eq_or_lt with hzero | hpos
  · rw [← hzero, roundMagnitude_zero]
  -- the next power of two, or the unit of the smallest numbers
  set e := max (binade q + 1) (unitExponent q) with he
  obtain ⟨i, hi⟩ := exists_mul_unit (q := q) 1 (le_max_right (binade q + 1) (unitExponent q))
  rw [Int.cast_one, one_mul, ← he] at hi
  have hle : roundMagnitude q ≤ 2 ^ e := by
    rw [hi]
    refine roundMagnitude_le i ?_
    rw [← hi]
    exact (lt_zpow_binade hq).le.trans (zpow_le_zpow_right₀ (by norm_num) (le_max_left _ _))
  have hlow : -1074 ≤ unitExponent q := le_max_right _ _
  rcases hle.eq_or_lt with heq | hlt
  · refine roundMagnitude_eq_self 1 (e := e) (by rw [heq, Int.cast_one, one_mul]) ?_
    have hbinade : binade (roundMagnitude q) = e := by
      refine binade_eq heq.ge ?_
      rw [heq]
      exact zpow_lt_zpow_right₀ (by norm_num) (by omega)
    rw [unitExponent, hbinade]
    omega
  · have hbinade := binade_lt hpos hlt
    refine roundMagnitude_eq_self _ (roundMagnitude_eq q) ?_
    rw [unitExponent]
    simp only [unitExponent] at he ⊢
    omega

/-- A rounded number is a multiple of its own unit. -/
lemma exists_roundMagnitude_eq {q : Rat} (h : 0 ≤ q) :
    ∃ n : Int, roundMagnitude q = n * unit (roundMagnitude q) :=
  ⟨_, (roundMagnitude_idem h).symm.trans (roundMagnitude_eq _)⟩

/-- Integers of 53 binary digits are kept. -/
lemma roundMagnitude_intCast {n : Int} (hpos : 0 ≤ n) (h : n < 2 ^ 53) :
    roundMagnitude n = n := by
  rcases hpos.eq_or_lt with rfl | hpos
  · exact_mod_cast roundMagnitude_zero
  have hq : (0 : Rat) < n := by exact_mod_cast hpos
  have hlt : (n : Rat) < 2 ^ (53 : Int) := by exact_mod_cast h
  have hbinade := binade_lt hq hlt
  refine roundMagnitude_eq_self n (e := 0) (by simp) ?_
  rw [unitExponent]
  omega

/-- Powers of two are kept. -/
lemma roundMagnitude_zpow {k : Int} (hk : -1022 ≤ k) : roundMagnitude (2 ^ k) = (2 : Rat) ^ k := by
  refine roundMagnitude_eq_self 1 (by rw [Int.cast_one, one_mul]) ?_
  rw [unitExponent, binade_eq le_rfl (zpow_lt_zpow_right₀ (by norm_num) (by omega))]
  omega

lemma roundMagnitude_le_zpow {q : Rat} {k : Int} (hq : 0 ≤ q) (h : q ≤ 2 ^ k) (hk : -1022 ≤ k) :
    roundMagnitude q ≤ 2 ^ k := by
  rw [← roundMagnitude_zpow hk]
  exact roundMagnitude_mono hq h

lemma zpow_le_roundMagnitude {q : Rat} {k : Int} (h : (2 : Rat) ^ k ≤ q) (hk : -1022 ≤ k) :
    2 ^ k ≤ roundMagnitude q := by
  rw [← roundMagnitude_zpow hk]
  exact roundMagnitude_mono (zpow_two_pos k).le h

lemma unit_le_of_lt {q : Rat} {k : Int} (hq : 0 < q) (h : q < 2 ^ k) (hk : -1021 ≤ k) :
    unit q ≤ 2 ^ (k - 53) := by
  have hbinade := binade_lt hq h
  refine zpow_le_zpow_right₀ (by norm_num) ?_
  rw [unitExponent]
  omega

lemma unit_eq_of_binade {q : Rat} {k : Int} (hlow : (2 : Rat) ^ k ≤ q) (hhigh : q < 2 ^ (k + 1))
    (hk : -1022 ≤ k) : unit q = 2 ^ (k - 52) := by
  rw [unit, unitExponent, binade_eq hlow hhigh]
  congr 1
  omega

/-- The error below a power of two. -/
lemma abs_roundMagnitude_sub_le_of_le {q : Rat} {k : Int} (hq : 0 ≤ q) (h : q ≤ 2 ^ k)
    (hk : -1021 ≤ k) : |roundMagnitude q - q| ≤ 2 ^ (k - 54) := by
  rcases hq.eq_or_lt with rfl | hpos
  · rw [roundMagnitude_zero, sub_zero, abs_zero]
    exact (zpow_two_pos _).le
  rcases h.eq_or_lt with rfl | hlt
  · rw [roundMagnitude_zpow (by omega), sub_self, abs_zero]
    exact (zpow_two_pos _).le
  · have hunit := unit_le_of_lt hpos hlt hk
    have hhalf : (2 : Rat) ^ (k - 53) = 2 ^ (k - 54) * 2 := by
      rw [← zpow_add_one₀ (by norm_num)]
      congr 1
      ring
    have herror := abs_roundMagnitude_sub_le q
    linarith

/-- **What is near to a rounded number is rounded to it,** unless that is a power of two, below
which the numbers are closer together. -/
lemma roundMagnitude_eq_of_near {q v : Rat} {k : Int} (hk : -1022 ≤ k) (hlow : (2 : Rat) ^ k < v)
    (hhigh : v < 2 ^ (k + 1)) (hv : ∃ j : Int, v = j * 2 ^ (k - 52))
    (h : |q - v| < 2 ^ (k - 52) / 2) : roundMagnitude q = v := by
  obtain ⟨j, rfl⟩ := hv
  have hu := zpow_two_pos (k - 52)
  have hpow : (2 : Rat) ^ k = 2 ^ 52 * 2 ^ (k - 52) := by
    rw [← zpow_add_natCast]
    congr 1
    push_cast
    ring
  have hpow' : (2 : Rat) ^ (k + 1) = 2 ^ 53 * 2 ^ (k - 52) := by
    rw [← zpow_add_natCast]
    congr 1
    push_cast
    ring
  rw [hpow, mul_lt_mul_iff_left₀ hu] at hlow
  rw [hpow', mul_lt_mul_iff_left₀ hu] at hhigh
  have hj : (2 ^ 52 + 1 : Rat) ≤ j := by
    have : (2 ^ 52 : Int) < j := by exact_mod_cast hlow
    exact_mod_cast (by omega : (2 ^ 52 + 1 : Int) ≤ j)
  have hj' : (j : Rat) ≤ 2 ^ 53 - 1 := by
    have : j < (2 ^ 53 : Int) := by exact_mod_cast hhigh
    have hle : j ≤ (2 ^ 53 - 1 : Int) := by omega
    exact_mod_cast hle
  rw [abs_lt] at h
  have hunit : unit q = 2 ^ (k - 52) := by
    refine unit_eq_of_binade ?_ ?_ hk
    · rw [hpow]
      nlinarith
    · rw [hpow']
      nlinarith
  rw [← hunit]
  refine roundMagnitude_eq_of_abs_lt j ?_
  rw [hunit, abs_lt]
  constructor <;> linarith

/-- Below a power of two a rounded number has at most as many units as digits allow. -/
lemma le_greatest {q : Rat} {k : Int} (hk : -1022 ≤ k) (hq : roundMagnitude q = q)
    (h : q < 2 ^ (k + 1)) : q ≤ (2 ^ 53 - 1) * 2 ^ (k - 52) := by
  have hu := zpow_two_pos (k - 52)
  have hpow : (2 : Rat) ^ k = 2 ^ 52 * 2 ^ (k - 52) := by
    rw [← zpow_add_natCast]
    congr 1
    push_cast
    ring
  have hpow' : (2 : Rat) ^ (k + 1) = 2 ^ 53 * 2 ^ (k - 52) := by
    rw [← zpow_add_natCast]
    congr 1
    push_cast
    ring
  by_cases hlow : (2 : Rat) ^ k ≤ q
  · obtain ⟨j, hj⟩ : ∃ j : Int, q = j * unit q := ⟨_, hq.symm.trans (roundMagnitude_eq q)⟩
    rw [unit_eq_of_binade hlow h hk] at hj
    rw [hpow', hj, mul_lt_mul_iff_left₀ hu] at h
    have hlt : j < (2 ^ 53 : Int) := by exact_mod_cast h
    have hle : (j : Rat) ≤ 2 ^ 53 - 1 := by
      have hle' : j ≤ (2 ^ 53 - 1 : Int) := by omega
      exact_mod_cast hle'
    rw [hj]
    exact mul_le_mul_of_nonneg_right hle hu.le
  · rw [not_le, hpow] at hlow
    nlinarith

end PanelPuzzle.Number
