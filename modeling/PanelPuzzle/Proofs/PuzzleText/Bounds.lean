import PanelPuzzle.Proofs.Number.Order
import PanelPuzzle.Proofs.PuzzleText.Exact
/-!
# Bounds of what is written

The size of an element is moved into an interval, and then its position into the room that the size leaves.
Each step is rounded to binary digits, and what is written to two decimals.  The errors are small.

* `Side.left_near` — the room that a size leaves, up to the errors of its computation.
* `Side.Told`, `Side.told_across` — one side: where there is any room, the size and the position that are
  written end inside the panel.
* `Element.Tells`, `Element.told_inside` — **an element is written inside the panel,** except for a
  switch that is so wide that no room is left for its ball.
-/

namespace PanelPuzzle

open Number

/-! ## Errors -/

namespace Number

/-- One rounding of a magnitude. -/
lemma abs_roundMagnitude_sub_le_small {q : Rat} (hzero : 0 ≤ q) (h : q ≤ 2 ^ (11 : Int)) :
    |roundMagnitude q - q| ≤ 1 / 100000 := by
  refine (abs_roundMagnitude_sub_le_of_le hzero h (by norm_num)).trans ?_
  norm_num

/-- **A rounding to two decimals** changes a size by little more than half a hundredth. -/
lemma abs_twoPlaces_sub_le {v : Rat} (hzero : 0 ≤ v) (h : v ≤ 2 ^ (4 : Int)) :
    |twoPlaces v - v| ≤ 51 / 10000 := by
  have hmul : v * 100 ≤ 2 ^ (11 : Int) := by norm_num at h ⊢; linarith
  have hproduct := abs_roundMagnitude_sub_le_small (by positivity) hmul
  have hbelow : (hundredth v : Rat) ≤ roundMagnitude (v * 100) + 1 / 2 := Rat.floor_le _
  have habove : roundMagnitude (v * 100) + 1 / 2 < hundredth v + 1 := by
    have hlt := Rat.lt_floor_add_one (roundMagnitude (v * 100) + 1 / 2)
    rwa [Rat.intCast_add, Rat.intCast_one] at hlt
  have hn : (0 : Rat) ≤ hundredth v := by exact_mod_cast hundredth_nonneg hzero
  rw [abs_le] at hproduct
  have hsmall : (hundredth v : Rat) / 100 ≤ 2 ^ (11 : Int) := by norm_num at hmul ⊢; linarith
  have hquotient := abs_roundMagnitude_sub_le_small (by positivity) hsmall
  rw [← twoPlaces, abs_le] at hquotient
  exact abs_le.mpr ⟨by linarith, by linarith⟩

/-- A value below zero is rounded to none above it. -/
lemma toRat?_ofRat_nonpos {q : Rat} (hzero : q ≤ 0) (h : -q ≤ 2 ^ (44 : Int)) :
    ∃ v, (ofRat q).toRat? = some v ∧ v ≤ 0 := by
  rcases hzero.eq_or_lt with rfl | hneg
  · exact ⟨0, by decide +kernel, le_rfl⟩
  have hpos : 0 ≤ -q := by linarith
  have hlt : roundMagnitude (-q) < 2 ^ (1024 : Int) :=
    (roundMagnitude_le_zpow hpos h (by norm_num)).trans_lt (zpow_lt_zpow_right₀ (by norm_num) (by norm_num))
  refine ⟨-roundMagnitude (-q), ?_, neg_nonpos.mpr (roundMagnitude_nonneg hpos)⟩
  rw [ofRat, signed_eq, abs_eq, abs_of_nonpos hzero, decide_eq_true hneg, toRat?_ofMagnitude _ hlt, if_pos rfl]

lemma finite_mul {p q : Rat} (hp : 0 ≤ p) (hq : 0 ≤ q) : finite p * finite q = ofRat (p * q) := by
  change mul (finite p) (finite q) = _
  rw [mul, isNegative, isNegative, decide_eq_false (not_lt.mpr hp), decide_eq_false (not_lt.mpr hq), ofRat,
    decide_eq_false (not_lt.mpr (mul_nonneg hp hq))]
  rfl

end Number

/-! ## One side -/

namespace Side

/-- The column for the ball of a slider. -/
def ball (slider : Bool) : Rat := if slider then 1 else 0

variable {scale size place : Number} (slider : Bool) {s w p : Rat}

/-- **What a size takes of a side,** up to two roundings. -/
lemma taken_near (hscale : scale = finite s) (hsize : size = finite w) (hs : 0 ≤ s) (hw : 0 ≤ w)
    (hsmall : 1 / 1000 ≤ w * s) (hle : w * s ≤ 2 ^ (4 : Int)) :
    ∃ t, taken scale slider size = finite t ∧ 0 < t ∧ t ≤ 2 ^ (5 : Int) ∧
      |t - (w * s + ball slider)| ≤ 2 / 100000 := by
  have hzero : 0 ≤ w * s := mul_nonneg hw hs
  have hround := abs_roundMagnitude_sub_le_small hzero (hle.trans (by norm_num))
  have hproduct : size * scale = finite (roundMagnitude (w * s)) := by
    rw [hscale, hsize, finite_mul hw hs, ofRat_eq hzero (hle.trans (by norm_num))]
  rw [taken, hproduct]
  norm_num at hle
  cases slider with
  | false =>
    refine ⟨_, if_neg Bool.false_ne_true, ?_⟩
    rw [ball, if_neg Bool.false_ne_true]
    rw [abs_le] at hround ⊢
    norm_num
    exact ⟨by linarith, by linarith, by linarith, by linarith⟩
  | true =>
    have hsum : 0 ≤ roundMagnitude (w * s) + 1 := add_nonneg (roundMagnitude_nonneg hzero) zero_le_one
    rw [abs_le] at hround
    have hsmall' : roundMagnitude (w * s) + 1 ≤ 2 ^ (11 : Int) := by norm_num; linarith
    have hround' := abs_roundMagnitude_sub_le_small hsum hsmall'
    have hone : (1 : Number) = finite 1 := by decide +kernel
    have hadd : finite (roundMagnitude (w * s)) + 1 = finite (roundMagnitude (roundMagnitude (w * s) + 1)) := by
      rw [hone, ← ofRat_eq hsum (hsmall'.trans (by norm_num))]
      rfl
    refine ⟨_, (if_pos rfl).trans hadd, ?_⟩
    rw [ball, if_pos rfl]
    rw [abs_le] at hround' ⊢
    norm_num
    exact ⟨by linarith, by linarith, by linarith, by linarith⟩

/-- **The room that is left** of a side. -/
lemma left_near {t : Rat} (hpos : 0 < t) (hle : t ≤ 2 ^ (5 : Int)) :
    ∃ u, (Shape.left (finite t)).toRat? = some u ∧ 0 ≤ u ∧ (8 ≤ t → u = 0) ∧
      (t ≤ 8 → u ≤ 8 - t + 1 / 100000) := by
  have hsub : Number.ofNat gridSize - finite t = ofRat (8 - t) := by
    rw [ofNat_sub le_rfl hpos]
    norm_num [gridSize]
  norm_num at hle
  rcases le_total 8 t with hover | hunder
  · obtain ⟨v, hv, hnonpos⟩ := toRat?_ofRat_nonpos (q := 8 - t) (by linarith) (by norm_num; linarith)
    refine ⟨max v 0, ?_, le_max_right _ _, fun _ => max_eq_right hnonpos, fun heq => ?_⟩
    · rw [Shape.left, hsub]
      exact toRat?_larger_zero hv
    · rw [max_eq_right hnonpos]
      linarith
  · have hzero : 0 ≤ 8 - t := by linarith
    have hsmall : 8 - t ≤ 2 ^ (11 : Int) := by norm_num; linarith
    have hround := abs_roundMagnitude_sub_le_small hzero hsmall
    have hnonneg := roundMagnitude_nonneg hzero
    refine ⟨roundMagnitude (8 - t), ?_, hnonneg, fun hge => ?_, fun _ => ?_⟩
    · rw [Shape.left, hsub, ofRat_eq hzero (hsmall.trans (by norm_num)), larger_zero hnonneg]
      rfl
    · rw [le_antisymm (by linarith) hzero, roundMagnitude_zero]
    · rw [abs_le] at hround
      linarith

/-- A position is moved into the room that is left. -/
lemma place_near (hscale : scale = finite s) (hsize : size = finite w) (hs : 0 ≤ s) (hw : 0 ≤ w)
    (hsmall : 1 / 1000 ≤ w * s) (hle : w * s ≤ 2 ^ (4 : Int)) (hplace : place.toRat? = some p) :
    ∃ x, (place.clamp 0 (Shape.left (taken scale slider size))).toRat? = some x ∧ 0 ≤ x ∧
      (8 + 1 / 1000 < w * s + ball slider → x = 0) ∧
      (w * s + ball slider ≤ 8 + 1 / 1000 → x + w * s + ball slider ≤ 8 + 2 / 1000) := by
  obtain ⟨t, ht, hpos, hlarge, herror⟩ := taken_near slider hscale hsize hs hw hsmall hle
  obtain ⟨u, hu, hzero, hfull, hroom⟩ := left_near hpos hlarge
  have hx := toRat?_clamp hplace (congrArg toRat? zero_eq) hu hzero
  have hxu : max 0 (min p u) ≤ u := max_le hzero (min_le_right _ _)
  rw [abs_le] at herror
  refine ⟨_, ht ▸ hx, le_max_left _ _, fun hover => ?_, fun hunder => ?_⟩
  · have hnone := hfull (by linarith)
    exact le_antisymm (hnone ▸ hxu) (le_max_left _ _)
  · rcases le_total 8 t with hge | hlt
    · have hnone := hfull hge
      linarith
    · have hsome := hroom hlt
      linarith

/-- **One side of what is written.**  Where a size leaves any room, the size and the position that are written
end inside the panel.  Otherwise the position is zero. -/
lemma told_across (hscale : scale = finite s) (hsize : size = finite w) (hs : 0 ≤ s) (hs' : s ≤ 3 / 2)
    (hw : 0 ≤ w) (hw' : w ≤ 2 ^ (4 : Int)) (hsmall : 1 / 1000 ≤ w * s) (hle : w * s ≤ 2 ^ (4 : Int))
    (hplace : place.toRat? = some p) :
    ∃ x, (place.clamp 0 (Shape.left (taken scale slider size))).roundTwo = finite x ∧ 0 ≤ x ∧
      (8 + 1 / 1000 < w * s + ball slider → x = 0) ∧
      (w * s + ball slider ≤ 8 + 1 / 1000 → x + twoPlaces w * s + ball slider ≤ 8 + 1 / 50) := by
  obtain ⟨x, hx, hzero, hfull, hroom⟩ := place_near slider hscale hsize hs hw hsmall hle hplace
  have hball : 0 ≤ ball slider := by
    rw [ball]
    split <;> norm_num
  have hx16 : x ≤ 2 ^ (4 : Int) := by
    norm_num
    rcases lt_or_ge (8 + 1 / 1000) (w * s + ball slider) with hover | hunder
    · rw [hfull hover]
      norm_num
    · linarith [hroom hunder]
  refine ⟨twoPlaces x, roundTwo_of_toRat? hx hzero (hx16.trans (by norm_num)), twoPlaces_nonneg hzero,
    fun hover => ?_, fun hunder => ?_⟩
  · rw [hfull hover, twoPlaces_zero]
  · have hxerror := (abs_le.mp (abs_twoPlaces_sub_le hzero hx16)).2
    have hwerror := (abs_le.mp (abs_twoPlaces_sub_le hw hw')).2
    have hscaled : twoPlaces w * s ≤ w * s + 51 / 10000 * s := by
      have hmul := mul_le_mul_of_nonneg_right hwerror hs
      linarith
    linarith [hroom hunder]

end Side

/-! ## Elements -/

/-- **The numbers that the text of an element tells:** a size, and a position before the mark of the
elevation. -/
structure Element.Tells (e : Element) (w h x y : Rat) : Prop where
  size : ∃ word, e.words[1]? = some word ∧ readPair? word.toList = some (finite w, finite h)
  place : ∃ word, e.words[2]? = some (word ++ elevationMark e.elevation e.elevationTarget) ∧
    readPair? word.toList = some (finite x, finite y)

lemma readPair?_of_roundTwo {a b : Number} {p q : Rat} (ha : a.roundTwo = finite p)
    (hb : b.roundTwo = finite q) : readPair? (pairWord a b).toList = some (finite p, finite q) := by
  rw [readPair?, cut?_pairWord]
  simp only [Option.bind_eq_bind, Option.bind_some, readFinite?_twoDecimals, ha, hb]
  rfl

namespace Element

/-- The size with which a shape fills the panel fills it almost exactly. -/
lemma scale_spec (shape : Shape) : ∃ s u : Rat, shape.scale = finite s ∧ shape.greatest.toRat? = some u ∧
    3 / 4 ≤ s ∧ s ≤ 3 / 2 ∧ 1 ≤ u ∧ u ≤ 2 ^ (4 : Int) ∧ u * s ≤ 8 + 1 / 1000 ∧ (shape = .switch → s = 1) := by
  have hvalues : ∀ shape ∈ Shape.all, ∃ s ∈ shape.scale.toRat?, ∃ u ∈ shape.greatest.toRat?, 3 / 4 ≤ s ∧
      s ≤ 3 / 2 ∧ 1 ≤ u ∧ u ≤ 2 ^ (4 : Int) ∧ u * s ≤ 8 + 1 / 1000 ∧ (shape = .switch → s = 1) := by
    decide +kernel
  obtain ⟨s, hs, u, hu, hlow, hrest⟩ := hvalues shape (Shape.mem_all shape)
  exact ⟨s, u, eq_finite_of_pos hs (by linarith), hu, hlow, hrest⟩

lemma least_value : ∃ l : Rat, (0.01 : Number).toRat? = some l ∧ 1 / 500 ≤ l ∧ l ≤ 1 := by
  have hvalue : ∃ l ∈ (0.01 : Number).toRat?, 1 / 500 ≤ l ∧ l ≤ 1 := by decide +kernel
  exact hvalue

/-- **What is written of a side** of an element. -/
lemma told_side (shape : Shape) {size place : Number} (slider : Bool) (hsize : size.isFinite = true)
    (hplace : place.isFinite = true) :
    ∃ s w x, shape.scale = finite s ∧ (shape = .switch → s = 1) ∧
      (size.clamp 0.01 shape.greatest).roundTwo = finite w ∧
      (place.clamp 0 (Shape.left
        (Side.taken shape.scale slider (size.clamp 0.01 shape.greatest)))).roundTwo = finite x ∧
      0 ≤ x ∧ (slider = false → x + w * s ≤ 8 + 1 / 50) ∧
      (slider = true → s = 1 → (x + w * s + 1 ≤ 8 + 1 / 50 ↔ w ≤ 7 + 1 / 50)) := by
  obtain ⟨s, u, hs, hu, hlow, hhigh, hone, hsixteen, hfills, hswitch⟩ := scale_spec shape
  obtain ⟨l, hl, hleast, hl1⟩ := least_value
  obtain ⟨q, hq⟩ := Option.isSome_iff_exists.mp hsize
  obtain ⟨p, hp⟩ := Option.isSome_iff_exists.mp hplace
  -- the size that is written, before it is rounded
  have hclamp := toRat?_clamp hq hl hu (hl1.trans hone)
  have hlw : l ≤ max l (min q u) := le_max_left _ _
  have hwu : max l (min q u) ≤ u := max_le (hl1.trans hone) (min_le_right _ _)
  generalize max l (min q u) = w at hclamp hlw hwu
  have hw : 0 ≤ w := by linarith
  have hw16 := hwu.trans hsixteen
  have hsmall : 1 / 1000 ≤ w * s := by
    have hmul := mul_le_mul (hleast.trans hlw) hlow (by norm_num) hw
    linarith
  have hle : w * s ≤ 8 + 1 / 1000 := by
    have hmul := mul_le_mul_of_nonneg_right hwu (by linarith : 0 ≤ s)
    linarith
  obtain ⟨x, hx, hzero, hfull, hroom⟩ := Side.told_across slider hs
    (eq_finite_of_pos hclamp (by linarith)) (by linarith) hhigh hw hw16 hsmall
    (hle.trans (by norm_num)) hp
  refine ⟨s, twoPlaces w, x, hs, hswitch, roundTwo_of_toRat? hclamp hw (hw16.trans (by norm_num)), hx, hzero,
    ?_, ?_⟩
  · rintro rfl
    rw [Side.ball, if_neg Bool.false_ne_true, add_zero] at hroom
    simpa using hroom hle
  · rintro rfl rfl
    rw [Side.ball, if_pos rfl] at hfull hroom
    simp only [mul_one] at hfull hroom ⊢
    constructor
    · intro hinside
      linarith
    · intro hnarrow
      rcases lt_or_ge (8 + 1 / 1000) (w + 1) with hover | hunder
      · rw [hfull hover]
        linarith
      · exact hroom hunder

/-- **What is written lies inside the panel,** up to the rounding to two decimals, but for one kind of
elements.  For finite sizes and positions the text tells numbers.  They begin inside the panel, and they end
inside it below and, with the ball of a switch, on the right.  Only a switch for whose ball there is no
column left, because its size is more than seven, ends outside. -/
theorem told_inside (e : Element) (hwidth : e.width.isFinite = true) (hheight : e.height.isFinite = true)
    (hx : e.x.isFinite = true) (hy : e.y.isFinite = true) :
    ∃ s w h x y : Rat, e.shape.scale.toRat? = some s ∧ e.Tells w h x y ∧ 0 ≤ x ∧ 0 ≤ y ∧
      y + h * s ≤ 8 + 1 / 50 ∧
      (x + w * s + (if e.shape = .switch then 1 else 0) ≤ 8 + 1 / 50 ↔
        ¬ (e.shape = .switch ∧ 7 + 1 / 50 < w)) := by
  obtain ⟨s, w, x, hs, hone, hw, hx', hx0, hplain, hslider⟩ :=
    told_side e.shape (e.shape = .switch) hwidth hx
  obtain ⟨s', h, y, hs', -, hh, hy', hy0, hdown, -⟩ := told_side e.shape false hheight hy
  obtain rfl : s = s' := Number.finite.inj (hs.symm.trans hs')
  have htells : e.Tells w h x y := by
    refine ⟨⟨_, by rw [words_eq]; rfl, readPair?_of_roundTwo hw hh⟩,
      ⟨_, by rw [words_eq]; rfl, readPair?_of_roundTwo ?_ hy'⟩⟩
    rw [shown_x, shown_width, Shape.across]
    simpa only [Side.taken, decide_eq_true_eq] using hx'
  refine ⟨s, w, h, x, y, congrArg toRat? hs, htells, hx0, hy0, hdown rfl, ?_⟩
  by_cases hswitch : e.shape = .switch
  · rw [if_pos hswitch, hslider (decide_eq_true hswitch) (hone hswitch)]
    simp [hswitch]
  · rw [if_neg hswitch, add_zero]
    exact iff_of_true (hplain (decide_eq_false hswitch)) fun h => hswitch h.1

/-- The text of a switch of size eight tells a size that leaves no column for its ball. -/
theorem told_inside_wide : ∃ (e : Element) (w h x y : Rat), e.shape = .switch ∧ e.width.isFinite = true ∧
    e.Tells w h x y ∧ 8 + 1 / 50 < x + w + 1 := by
  obtain ⟨s, w, h, x, y, hs, htells, hx, hy, -, hinside⟩ :=
    told_inside { id := "w1", shape := .switch, width := 8, height := 1 } (by decide +kernel)
      (by decide +kernel) (by decide +kernel) (by decide +kernel)
  refine ⟨_, w, h, x, y, rfl, by decide +kernel, htells, ?_⟩
  obtain ⟨word, hword, hpair⟩ := htells.size
  have hwide : readPair? "8x1".toList = some (finite 8, finite 1) := by decide +kernel
  have hsame : some word = some "8x1" := hword.symm.trans (by decide +kernel)
  obtain rfl := Option.some.inj hsame
  obtain ⟨rfl, rfl⟩ : 8 = w ∧ 1 = h := by simpa using hwide.symm.trans hpair
  linarith

end Element

end PanelPuzzle
