import PanelPuzzle.Proofs.Number.Rounding
/-!
# Rounding to hundredths

`Number.roundTwo` multiplies by a hundred, rounds to an integer and divides by a hundred, and each of
the three steps rounds to binary digits.  For a magnitude this is `twoPlaces`: the nearest binary
number to some number of hundredths.

**Small numbers.**  Below `2 ^ 45` the errors of both roundings stay below half a hundredth, so the
number of hundredths is found again: `hundredth_of_lt`.

**The gap.**  From `2 ^ 45` on the units are a hundred and twenty-eighth, little less than a
hundredth, and the rounding of the product can lead to the next hundredth.  It does so at most
once: `hundredth_stable`.

**Large numbers.**  From `2 ^ 46` on there are more hundredths than binary numbers.  Which of them is
found does not matter, as it leads back to the same binary number: `twoPlaces_of_le`.

Together, two roundings are as many as three: `twoPlaces_twoPlaces`.
-/

namespace PanelPuzzle.Number

/-- The number of hundredths that a magnitude is rounded to; a half goes up. -/
def hundredth (v : Rat) : Int := (roundMagnitude (v * 100) + 1 / 2).floor

/-- A magnitude rounded to two decimals. -/
def twoPlaces (v : Rat) : Rat := roundMagnitude (hundredth v / 100)

lemma hundredth_eq {v : Rat} {n : Int} (hlow : n - 1 / 2 ≤ roundMagnitude (v * 100))
    (hhigh : roundMagnitude (v * 100) < n + 1 / 2) : hundredth v = n := by
  refine le_antisymm ?_ ?_
  · refine Int.lt_add_one_iff.mp (Rat.floor_lt_iff.mpr ?_)
    push_cast
    linarith
  · refine Rat.le_floor_iff.mpr ?_
    linarith

lemma hundredth_nonneg {v : Rat} (h : 0 ≤ v) : 0 ≤ hundredth v := by
  have := roundMagnitude_nonneg (q := v * 100) (by linarith)
  refine Rat.le_floor_iff.mpr ?_
  push_cast
  linarith

/-! ## Small numbers -/

/-- **Below `2 ^ 45` the number of hundredths is found again.** -/
lemma hundredth_of_lt {n : Int} (hn : 0 ≤ n) (h : (n : Rat) / 100 < 2 ^ (45 : Int)) :
    hundredth (roundMagnitude (n / 100)) = n := by
  have hn' : (0 : Rat) ≤ n := by exact_mod_cast hn
  have hq : (0 : Rat) ≤ n / 100 := by positivity
  have herror := abs_roundMagnitude_sub_le_of_le hq h.le (by norm_num)
  have hv := roundMagnitude_nonneg hq
  have hle := roundMagnitude_le_zpow hq h.le (by norm_num)
  generalize roundMagnitude (n / 100) = v at *
  have hp : v * 100 ≤ 2 ^ (52 : Int) := by norm_num at hle ⊢; linarith
  have herror' := abs_roundMagnitude_sub_le_of_le (by linarith : 0 ≤ v * 100) hp (by norm_num)
  norm_num at herror herror'
  rw [abs_le] at herror herror'
  exact hundredth_eq (by linarith) (by linarith)

lemma twoPlaces_of_lt {n : Int} (hn : 0 ≤ n) (h : (n : Rat) / 100 < 2 ^ (45 : Int)) :
    twoPlaces (roundMagnitude (n / 100)) = roundMagnitude (n / 100) := by
  rw [twoPlaces, hundredth_of_lt hn h]

/-! ## The gap -/

/-- A product is rounded to the integer that it is near to. -/
lemma hundredth_of_near {v : Rat} {m : Int} (hlow : (2 : Rat) ^ (51 : Int) ≤ v * 100)
    (hhigh : v * 100 < 2 ^ (53 : Int)) (h : |v * 100 - m| < 1 / 4) : hundredth v = m := by
  have hp : roundMagnitude (v * 100) = m := by
    by_cases hbig : (2 : Rat) ^ (52 : Int) ≤ v * 100
    · have hu := unit_eq_of_binade hbig hhigh (by norm_num)
      norm_num at hu
      have hround := roundMagnitude_eq_of_abs_lt (q := v * 100) m (by rw [hu, mul_one]; linarith)
      rwa [hu, mul_one] at hround
    · have hu := unit_eq_of_binade hlow (not_le.mp hbig) (by norm_num)
      norm_num at hu
      have hhalf : ((2 * m : Int) : Rat) * (1 / 2) = m := by push_cast; ring
      have hround := roundMagnitude_eq_of_abs_lt (q := v * 100) (2 * m) (by
        rw [hu, hhalf]
        linarith)
      rwa [hu, hhalf] at hround
  exact hundredth_eq (by rw [hp]; linarith) (by rw [hp]; linarith)

/-- **In the gap** the number of hundredths is found again, or it is the next one from then on. -/
lemma hundredth_stable {n : Int} (hlow : (2 : Rat) ^ (45 : Int) ≤ n / 100)
    (hhigh : (n : Rat) / 100 < 2 ^ (46 : Int)) :
    hundredth (roundMagnitude (n / 100)) = n ∨
      (hundredth (roundMagnitude (n / 100)) = n + 1 ∧
        hundredth (roundMagnitude (((n + 1 : Int) : Rat) / 100)) = n + 1) := by
  have hunit : unit ((n : Rat) / 100) = 1 / 128 := by
    rw [unit_eq_of_binade hlow hhigh (by norm_num)]
    norm_num
  have herror := abs_roundMagnitude_sub_le ((n : Rat) / 100)
  have hvlow := zpow_le_roundMagnitude hlow (by norm_num)
  obtain ⟨k, hk⟩ : ∃ k : Int, roundMagnitude (n / 100) = k * (1 / 128) := by
    rw [← hunit]
    exact ⟨_, roundMagnitude_eq _⟩
  generalize roundMagnitude ((n : Rat) / 100) = v at *
  rw [hunit, abs_le] at herror
  norm_num at hvlow hhigh hlow
  by_cases hbig : (2 : Rat) ^ (52 : Int) ≤ v * 100
  · -- the units of the product are the integers
    left
    have hu := unit_eq_of_binade hbig (by norm_num; linarith) (by norm_num)
    norm_num at hu
    have hround := roundMagnitude_eq_of_abs_lt (q := v * 100) n (by
      rw [hu, abs_lt]
      constructor <;> linarith)
    rw [hu, mul_one] at hround
    exact hundredth_eq (by rw [hround]; linarith) (by rw [hround]; linarith)
  · -- the units of the product are the halves
    have hu := unit_eq_of_binade (q := v * 100) (k := 51) (by norm_num; linarith) (not_le.mp hbig)
      (by norm_num)
    norm_num at hu hbig
    have herror' := abs_roundMagnitude_sub_le (v * 100)
    rw [hu, abs_le] at herror'
    by_cases hnext : roundMagnitude (v * 100) < n + 1 / 2
    · left
      refine hundredth_eq ?_ hnext
      obtain ⟨j, hj⟩ : ∃ j : Int, roundMagnitude (v * 100) = j * (1 / 2) := by
        rw [← hu]
        exact ⟨_, roundMagnitude_eq _⟩
      have hjlow : (2 * n - 2 : Rat) < j := by linarith
      have hjlow' : 2 * n - 2 < j := by exact_mod_cast hjlow
      have hjlow'' : (2 * n - 1 : Rat) ≤ j := by exact_mod_cast (by omega : 2 * n - 1 ≤ j)
      linarith
    · right
      rw [not_lt] at hnext
      refine ⟨hundredth_eq (by push_cast; linarith) (by push_cast; linarith), ?_⟩
      -- the next binary number is nearest to the next hundredth, and close to it
      have hunit' : unit (((n + 1 : Int) : Rat) / 100) = 1 / 128 := by
        rw [unit_eq_of_binade (k := 45) (by push_cast; linarith) (by push_cast; linarith)
          (by norm_num)]
        norm_num
      have hround := roundMagnitude_eq_of_abs_lt (q := ((n + 1 : Int) : Rat) / 100) (k + 1) (by
        rw [hunit', abs_lt]
        push_cast
        constructor <;> linarith)
      rw [hunit'] at hround
      rw [hround]
      refine hundredth_of_near ?_ ?_ ?_
      · push_cast
        norm_num
        linarith
      · push_cast
        norm_num
        linarith
      · push_cast
        rw [abs_lt]
        constructor <;> linarith

/-! ## Large numbers -/

/-- From `2 ^ 52` on a product is an integer. -/
lemma hundredth_of_le {v : Rat} (h : (2 : Rat) ^ (52 : Int) ≤ v * 100) :
    (hundredth v : Rat) = roundMagnitude (v * 100) := by
  obtain ⟨m, hm⟩ : ∃ m : Int, roundMagnitude (v * 100) = m := by
    have hlt := h.trans_lt (lt_zpow_binade ((zpow_two_pos _).trans_le h))
    have := (zpow_lt_zpow_iff_right₀ (by norm_num : (1 : Rat) < 2)).mp hlt
    have hexp : 0 ≤ unitExponent (v * 100) := by
      rw [unitExponent]
      omega
    refine ⟨nearestEven (v * 100 / unit (v * 100)) * 2 ^ (unitExponent (v * 100)).toNat, ?_⟩
    rw [roundMagnitude_eq]
    push_cast
    rw [unit, ← zpow_natCast, Int.toNat_of_nonneg hexp]
  rw [hundredth_eq (n := m), hm]
  all_goals rw [hm]; linarith

/-- **From `2 ^ 46` on any number of hundredths leads back to the same binary number.** -/
lemma twoPlaces_of_le {n : Int} (hlow : (2 : Rat) ^ (46 : Int) ≤ n / 100)
    (hn : roundMagnitude n = n) :
    twoPlaces (roundMagnitude (n / 100)) = roundMagnitude (n / 100) := by
  have hq : (0 : Rat) < n / 100 := (zpow_two_pos _).trans_le hlow
  have hvlow := zpow_le_roundMagnitude hlow (by norm_num)
  have hidem := roundMagnitude_idem hq.le
  have herror := abs_roundMagnitude_sub_le ((n : Rat) / 100)
  have hvq : roundMagnitude ((n : Rat) / 100) < 2 ^ (binade (roundMagnitude ((n : Rat) / 100)) + 1) :=
    lt_zpow_binade ((zpow_two_pos _).trans_le hvlow)
  obtain ⟨j, hj⟩ := exists_roundMagnitude_eq hq.le
  generalize hv : roundMagnitude ((n : Rat) / 100) = v at *
  have hvpos : 0 < v := (zpow_two_pos _).trans_le hvlow
  set k := binade v with hk
  have hk46 : 46 ≤ k := by
    have := (zpow_lt_zpow_iff_right₀ (by norm_num : (1 : Rat) < 2)).mp (hvlow.trans_lt hvq)
    omega
  have hklow : (2 : Rat) ^ k ≤ v := zpow_binade_le hvpos
  have hp52 : (2 : Rat) ^ (52 : Int) ≤ v * 100 := by
    norm_num at hvlow ⊢
    linarith
  rw [twoPlaces, hundredth_of_le hp52]
  have hscale : v * 100 / 100 = v := by ring
  -- all powers of two that occur, in units of `v`
  obtain ⟨u, hu, hpow⟩ : ∃ u : Rat, 0 < u ∧ ∀ i : Nat, (2 : Rat) ^ (k - 52 + i) = 2 ^ i * u :=
    ⟨2 ^ (k - 52), zpow_two_pos _, zpow_add_natCast _⟩
  have hpow0 : (2 : Rat) ^ (k - 52) = u := by simpa using hpow 0
  have hpowk : (2 : Rat) ^ k = 2 ^ 52 * u := by rw [← hpow 52]; congr 1; push_cast; ring
  have hpowk' : (2 : Rat) ^ (k + 1) = 2 ^ 53 * u := by rw [← hpow 53]; congr 1; push_cast; ring
  have hpow7 : (2 : Rat) ^ (k + 7) = 2 ^ 59 * u := by rw [← hpow 59]; congr 1; push_cast; ring
  have hpow8 : (2 : Rat) ^ (k + 8) = 2 ^ 60 * u := by rw [← hpow 60]; congr 1; push_cast; ring
  rcases hklow.eq_or_lt with heq | hlt
  · have hkept : roundMagnitude (v * 100) = v * 100 := by
      refine roundMagnitude_eq_self 25 (e := k + 2) ?_ ?_
      · rw [← heq, zpow_add₀ (by norm_num)]
        norm_num
        ring
      · have hlt : v * 100 < 2 ^ (k + 7) := by rw [hpow7, ← heq, hpowk]; nlinarith
        have hbinade := binade_lt (by linarith) hlt
        rw [unitExponent]
        omega
    rw [hkept, hscale, hidem]
  have hmul : ∃ i : Int, v = i * 2 ^ (k - 52) :=
    ⟨j, by rw [← unit_eq_of_binade hklow hvq (by omega)]; exact hj⟩
  rw [hpowk] at hklow
  rw [hpowk'] at hvq
  by_cases hsmall : v * 100 < 2 ^ (k + 7)
  · -- the product has a unit of 64, and a hundredth of half of it is less than half of one
    have hunit : unit (v * 100) = 2 ^ 6 * u := by
      rw [unit_eq_of_binade (k := k + 6) ?_ (by rwa [add_assoc]) (by omega), ← hpow 6]
      · congr 1
        push_cast
        ring
      · rw [show k + 6 = k - 52 + (58 : Nat) by push_cast; ring, hpow]
        linarith
    have herror' := abs_roundMagnitude_sub_le (v * 100)
    rw [hunit, abs_le] at herror'
    refine roundMagnitude_eq_of_near (by omega) hlt (by rwa [hpowk']) hmul ?_
    rw [hpow0, abs_lt]
    constructor <;> linarith
  · -- the product has a unit of 128, and the number of hundredths is among its multiples
    rw [not_lt] at hsmall
    have hunit : unit (v * 100) = 2 ^ 7 * u := by
      rw [unit_eq_of_binade (k := k + 7) hsmall ?_ (by omega), ← hpow 7]
      · congr 1
        push_cast
        ring
      · rw [add_assoc, show (7 + 1 : Int) = 8 by norm_num, hpow8]
        linarith
    have hnlt : (n : Rat) / 100 < 2 ^ (k + 1) := by
      by_contra hge
      have := zpow_le_roundMagnitude (not_lt.mp hge) (by omega)
      rw [hv, hpowk'] at this
      linarith
    have hunit' := unit_le_of_lt hq hnlt (by omega)
    rw [show k + 1 - 53 = k - 52 by ring, hpow0] at hunit'
    rw [abs_le] at herror
    rw [hpowk'] at hnlt
    rw [hpow7] at hsmall
    by_cases hbelow : (2 : Rat) ^ (k + 7) ≤ n
    · have hunitn : unit n = 2 ^ 7 * u := by
        rw [unit_eq_of_binade (k := k + 7) hbelow ?_ (by omega), ← hpow 7]
        · congr 1
          push_cast
          ring
        · rw [add_assoc, show (7 + 1 : Int) = 8 by norm_num, hpow8]
          linarith
      obtain ⟨i, hi⟩ : ∃ i : Int, (n : Rat) = i * unit n :=
        ⟨_, hn.symm.trans (roundMagnitude_eq _)⟩
      rw [hunitn] at hi
      have hround := roundMagnitude_eq_of_abs_lt (q := v * 100) i (by
        rw [hunit, ← hi, abs_lt]
        constructor <;> linarith)
      rw [hround, hunit, ← hi, hv]
    · rw [not_le, hpow7] at hbelow
      have hi : ((2 ^ 52 : Int) : Rat) * (2 ^ 7 * u) = 2 ^ 59 * u := by push_cast; ring
      have hround := roundMagnitude_eq_of_abs_lt (q := v * 100) (2 ^ 52) (by
        rw [hunit, hi, abs_lt]
        constructor <;> linarith)
      rw [hround, hunit, hi]
      refine le_antisymm ?_ ?_
      · refine (roundMagnitude_mono (by positivity) ?_).trans hidem.le
        linarith
      · rw [← hv]
        exact roundMagnitude_mono hq.le (by linarith)

/-! ## Rounding again -/

/-- A number of hundredths has few binary digits. -/
lemma roundMagnitude_hundredth {v : Rat} (hv : 0 ≤ v) :
    roundMagnitude (hundredth v) = hundredth v := by
  have hp : 0 ≤ v * 100 := by linarith
  by_cases hbig : (2 : Rat) ^ (52 : Int) ≤ v * 100
  · rw [hundredth_of_le hbig, roundMagnitude_idem hp]
  · have hround := roundMagnitude_le_zpow hp (not_le.mp hbig).le (by norm_num)
    have hle : hundredth v ≤ 2 ^ 52 := by
      refine Int.lt_add_one_iff.mp (Rat.floor_lt_iff.mpr ?_)
      push_cast
      norm_num at hround ⊢
      linarith
    exact roundMagnitude_intCast (hundredth_nonneg hv) (by omega)

/-- **Two roundings are as many as three.** -/
theorem twoPlaces_twoPlaces {v : Rat} (hv : 0 ≤ v) :
    twoPlaces (twoPlaces (twoPlaces v)) = twoPlaces (twoPlaces v) := by
  have hn := hundredth_nonneg hv
  rw [twoPlaces.eq_def v]
  by_cases hsmall : (hundredth v : Rat) / 100 < 2 ^ (45 : Int)
  · rw [twoPlaces_of_lt hn hsmall, twoPlaces_of_lt hn hsmall]
  by_cases hgap : (hundredth v : Rat) / 100 < 2 ^ (46 : Int)
  · rcases hundredth_stable (not_lt.mp hsmall) hgap with h | ⟨h, h'⟩
    · rw [twoPlaces.eq_def (roundMagnitude _), h, twoPlaces, h]
    · rw [twoPlaces.eq_def (roundMagnitude _), h, twoPlaces, h']
  · have hlarge := twoPlaces_of_le (not_lt.mp hgap) (roundMagnitude_hundredth hv)
    rw [hlarge, hlarge]

/-- **The nearest number of hundredths leads back to a rounded number.**  This is what is written
and read. -/
theorem roundMagnitude_nearestEven {n : Int} (hn : 0 ≤ n) :
    roundMagnitude (nearestEven (roundMagnitude (n / 100) * 100) / 100)
      = roundMagnitude (n / 100) := by
  have hq : (0 : Rat) ≤ n / 100 := by
    have : (0 : Rat) ≤ n := by exact_mod_cast hn
    positivity
  by_cases hlarge : (n : Rat) / 100 ≤ 2 ^ (46 : Int)
  · have herror := abs_roundMagnitude_sub_le_of_le hq hlarge (by norm_num)
    norm_num at herror
    rw [nearestEven_eq_of_abs_lt (n := n)]
    rw [abs_le] at herror
    rw [abs_lt]
    constructor <;> linarith
  have hvlow := zpow_le_roundMagnitude (not_le.mp hlarge).le (by norm_num)
  have hidem := roundMagnitude_idem hq
  obtain ⟨j, hj⟩ := exists_roundMagnitude_eq hq
  generalize roundMagnitude ((n : Rat) / 100) = v at *
  have hvpos : 0 < v := (zpow_two_pos _).trans_le hvlow
  have hvhigh := lt_zpow_binade hvpos
  have hk46 : 46 ≤ binade v := by
    have := (zpow_lt_zpow_iff_right₀ (by norm_num : (1 : Rat) < 2)).mp (hvlow.trans_lt hvhigh)
    omega
  rcases (zpow_binade_le hvpos).eq_or_lt with heq | hlt
  · -- a power of two has an integer number of hundredths
    have hint : v * 100 = ((2 ^ (binade v).toNat * 100 : Int) : Rat) := by
      push_cast
      rw [← zpow_natCast, Int.toNat_of_nonneg (by omega), heq]
    rw [hint, nearestEven_intCast, ← hint, show v * 100 / 100 = v by ring, hidem]
  · refine roundMagnitude_eq_of_near (by omega) hlt hvhigh ⟨j, ?_⟩ ?_
    · rw [← unit_eq_of_binade hlt.le hvhigh (by omega)]
      exact hj
    · have hnear := abs_nearestEven_sub_le (v * 100)
      have hu : (2 : Rat) ^ (-6 : Int) ≤ 2 ^ (binade v - 52) :=
        zpow_le_zpow_right₀ (by norm_num) (by omega)
      norm_num at hu
      rw [abs_le] at hnear
      rw [abs_lt]
      constructor <;> linarith

end PanelPuzzle.Number
