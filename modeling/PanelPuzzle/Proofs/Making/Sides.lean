import PanelPuzzle.Making.Remote
import PanelPuzzle.Proofs.Grid.Tiling
import PanelPuzzle.Proofs.Number.Order
import PanelPuzzle.Proofs.PuzzleText.Exact
/-!
# Places along a side

Every place of the making is a whole number of cells and a small offset, rounded.  The offset is
that of the middle of the cells, of a corner, or of a button.

**The last place is enough.**  Places grow with the cell that they start from.  So what is inside
the panel at the end of its side is inside everywhere: `Side.Fits.holds`.  In the middle of more
cells than it needs it is further from the end: `Side.fits_margin`.  That leaves one place for each
size, and those are computed.
-/

namespace PanelPuzzle

namespace Side

/-! ## Offsets -/

/-- A distance that can be added to a number of cells. -/
def Offset (o : Number) : Prop := o.isNegative = false ∧ ∃ q ∈ o.toRat?, q ≤ 8

instance (o : Number) : Decidable (Offset o) :=
  inferInstanceAs (Decidable (o.isNegative = false ∧ ∃ q ∈ o.toRat?, q ≤ 8))

lemma Offset.exists_finite {o : Number} (h : Offset o) :
    ∃ q : Rat, o = .finite q ∧ 0 ≤ q ∧ q ≤ 8 := by
  obtain ⟨hsign, q, hq, hle⟩ := h
  cases o with
  | nan | infinite => cases hq
  | negativeZero => cases hsign
  | finite p =>
    obtain rfl : p = q := Option.some.inj hq
    exact ⟨p, rfl, not_lt.mp (of_decide_eq_false hsign), hle⟩

/-- **Places keep the order** of the cells and offsets that they come from. -/
lemma roundTwo_mono {m n : Nat} {r s : Rat} (hm : m ≤ gridSize) (hn : n ≤ gridSize) (hr : 0 ≤ r)
    (hs : s ≤ 8) (hle : (m + r : Rat) ≤ n + s) :
    ∃ p q : Rat, (Number.ofNat m + .finite r).roundTwo = .finite p ∧
      (Number.ofNat n + .finite s).roundTwo = .finite q ∧ 0 ≤ p ∧ p ≤ q ∧ p ≤ 2 ^ (44 : Int) := by
  have hzero : 0 ≤ (m + r : Rat) := add_nonneg (Nat.cast_nonneg m) hr
  have hend : (n + s : Rat) ≤ 2 ^ (4 : Int) := by
    have hn8 : (n : Rat) ≤ 8 := by exact_mod_cast hn
    norm_num
    linarith
  have hround := Number.roundMagnitude_mono hzero hle
  have hpos := Number.roundMagnitude_nonneg hzero
  have hsmall : Number.roundMagnitude (n + s) ≤ 2 ^ (43 : Int) :=
    (Number.roundMagnitude_le_zpow (hzero.trans hle) hend (by norm_num)).trans
      (zpow_le_zpow_right₀ (by norm_num) (by norm_num))
  have hpow : (2 : Rat) ^ (4 : Int) ≤ 2 ^ (44 : Int) := by norm_num
  rw [Number.ofNat_add hm, Number.ofNat_add hn, Number.ofRat_eq hzero ((hle.trans hend).trans hpow),
    Number.ofRat_eq (hzero.trans hle) (hend.trans hpow)]
  exact ⟨_, _, Number.roundTwo_of_toRat? rfl hpos (hround.trans hsmall),
    Number.roundTwo_of_toRat? rfl (hpos.trans hround) hsmall, Number.twoPlaces_nonneg hpos,
    Number.twoPlaces_mono hpos hround, Number.twoPlaces_le hpos (hround.trans hsmall)⟩

/-! ## Cells at the end of a side -/

/-- **A size fits a number of cells at an offset:** at the end of the side it is inside. -/
structure Fits (scale : Number) (slider : Bool) (size : Number) (n : Nat) (o : Number) : Prop where
  size_holds : SizeHolds scale size
  offset : Offset o
  room : (Number.ofNat (gridSize - n) + o).roundTwo.le (Shape.left (taken scale slider size)) = true
  inside : (Number.ofNat (gridSize - n) + o).roundTwo.floorNat + cells scale slider size ≤ gridSize

instance (scale : Number) (slider : Bool) (size : Number) (n : Nat) (o : Number) :
    Decidable (Fits scale slider size n o) :=
  decidable_of_iff (SizeHolds scale size ∧ Offset o ∧
      (Number.ofNat (gridSize - n) + o).roundTwo.le (Shape.left (taken scale slider size)) = true ∧
      (Number.ofNat (gridSize - n) + o).roundTwo.floorNat + cells scale slider size ≤ gridSize)
    ⟨fun h => ⟨h.1, h.2.1, h.2.2.1, h.2.2.2⟩, fun h => ⟨h.1, h.2, h.3, h.4⟩⟩

section Fits

variable {scale size o : Number} {slider : Bool} {start m n : Nat}

/-- **What fits at the end of the side fits everywhere.** -/
theorem Fits.holds (h : Fits scale slider size n o) (hn : start + n ≤ gridSize) :
    Holds scale slider size (Number.ofNat start + o).roundTwo := by
  obtain ⟨r, rfl, hr, hr8⟩ := h.offset.exists_finite
  have hstart : (start : Rat) ≤ (gridSize - n : Nat) := by
    exact_mod_cast (by omega : start ≤ gridSize - n)
  obtain ⟨p, q, hp, hq, hzero, hle, hsmall⟩ := roundTwo_mono (n := gridSize - n)
    (Nat.le_of_add_right_le hn) (Nat.sub_le _ _) hr hr8 (add_le_add_left hstart r)
  have hvalue : (Number.ofNat start + .finite r).roundTwo.toRat? = some p := by
    rw [hp, Number.toRat?]
  have hroom := h.room
  have hinside := h.inside
  rw [hq] at hroom hinside
  have hfloor := Number.floorNat_mono hle
  constructor
  · exact h.size_holds
  · refine ⟨by rw [hp]; rfl, Number.roundTwo_eq_self hvalue ?_⟩
    rwa [abs_of_nonneg hzero]
  · rw [hp]
    exact Number.clamp_eq_self (Number.zero_le_finite hzero) (Number.finite_le hle hroom)
  · rw [hp]
    omega

/-- **What fits at the end of the side fits before it,** with more cells and another offset. -/
lemma Fits.of_le {r r' : Rat} (h : Fits scale slider size m (.finite r)) (hzero : 0 ≤ r')
    (hle8 : r' ≤ 8) (hle : ((gridSize - n : Nat) + r' : Rat) ≤ (gridSize - m : Nat) + r) :
    Fits scale slider size n (.finite r') := by
  obtain ⟨_, hr, hr8⟩ := h.offset.2
  obtain rfl := Option.some.inj hr
  obtain ⟨p, q, hp, hq, -, hpq, -⟩ := roundTwo_mono (n := gridSize - m) (Nat.sub_le _ n)
    (Nat.sub_le _ _) hzero hr8 hle
  have hroom := h.room
  have hinside := h.inside
  rw [hq] at hroom hinside
  have hfloor := Number.floorNat_mono hpq
  exact
    { size_holds := h.size_holds
      offset := ⟨decide_eq_false (not_lt.mpr hzero), r', rfl, hle8⟩
      room := hp ▸ Number.finite_le hpq hroom
      inside := by rw [hp]; omega }

end Fits

/-! ## The middle of the cells -/

/-- The scales of the shapes, each with and without a slider as far as there are such sides. -/
def kinds : List (Number × Bool) :=
  [(.finite 1, false), (.finite 1, true), (.finite (5 / 4), false), (.finite (3 / 2), false),
    (.finite (3 / 4), false)]

lemma mem_kinds (s : Shape) :
    (s.scale, decide (s = .switch)) ∈ kinds ∧ (s.scale, false) ∈ kinds := by
  cases s <;> simp [Shape.scale, kinds]

/-- The sizes of what is put in the middle of its cells. -/
def sizes : List Number := [0.75, 0.8, 1, 1.25, 1.5, 1.75, 2]

/-- Half of what a size leaves of a number of cells. -/
def margin (scale : Number) (slider : Bool) (size : Number) (n : Nat) : Number :=
  ((Number.ofNat n - taken scale slider size) / 2).larger 0

lemma mul_add_zero (s : Shape) {size : Number} (h : size ∈ sizes) :
    size * s.scale + 0 = size * s.scale := by
  have hvalues : ∀ kind ∈ kinds, ∀ size ∈ sizes, size * kind.1 + 0 = size * kind.1 := by
    decide +kernel
  exact hvalues _ (mem_kinds s).2 size h

/-- The middle is found up to an error that is far smaller than a cell. -/
lemma margin_spec {scale size : Number} {slider : Bool} {t : Rat} {n : Nat}
    (ht : taken scale slider size = .finite t) (hpos : 0 < t) (hle : t ≤ n) (hn : n ≤ gridSize) :
    ∃ q : Rat, margin scale slider size n = .finite q ∧ 0 ≤ q ∧ q ≤ 8 ∧
      |q - (n - t) / 2| ≤ 1 / 8 := by
  have hn8 : (n : Rat) ≤ 8 := by exact_mod_cast hn
  have hrest : (0 : Rat) ≤ n - t := by linarith
  have hrest8 : (n - t : Rat) ≤ 2 ^ (3 : Int) := by norm_num; linarith
  have herror := Number.abs_roundMagnitude_sub_le_of_le hrest hrest8 (by norm_num)
  have hround := Number.roundMagnitude_nonneg hrest
  have hround8 := Number.roundMagnitude_le_zpow hrest hrest8 (by norm_num)
  have hpow : (2 : Rat) ^ (3 : Int) ≤ 2 ^ (44 : Int) := by norm_num
  rw [margin, ht, Number.ofNat_sub hn hpos, Number.ofRat_eq hrest (hrest8.trans hpow)]
  generalize Number.roundMagnitude (n - t) = r at *
  have hhalf : r / 2 ≤ 2 ^ (3 : Int) := by linarith
  have herror' := Number.abs_roundMagnitude_sub_le_of_le (div_nonneg hround two_pos.le) hhalf
    (by norm_num)
  have hzero := Number.roundMagnitude_nonneg (div_nonneg hround two_pos.le)
  have hround8' := Number.roundMagnitude_le_zpow (div_nonneg hround two_pos.le) hhalf (by norm_num)
  rw [Number.div_two hround, Number.ofRat_eq (div_nonneg hround two_pos.le) (hhalf.trans hpow),
    Number.larger_zero hzero]
  refine ⟨_, rfl, hzero, by norm_num at hround8'; exact hround8', ?_⟩
  norm_num at herror herror'
  rw [abs_le] at herror herror' ⊢
  constructor <;> linarith

/-- A size fits in the middle of the fewest cells that it needs. -/
lemma fits_cells : ∀ kind ∈ kinds, ∀ size ∈ sizes, cells kind.1 kind.2 size ≤ gridSize ∧
    (∃ t ∈ (taken kind.1 kind.2 size).toRat?, 0 < t ∧ t ≤ cells kind.1 kind.2 size) ∧
    Fits kind.1 kind.2 size (cells kind.1 kind.2 size)
      (margin kind.1 kind.2 size (cells kind.1 kind.2 size)) := by decide +kernel

/-- **A size fits in the middle of its cells,** and of more cells than it needs.  Each further cell
moves the middle back by half a cell. -/
lemma fits_margin {kind : Number × Bool} (hkind : kind ∈ kinds) {size : Number}
    (hsize : size ∈ sizes) {n : Nat} (hn : n ≤ gridSize) (hle : cells kind.1 kind.2 size ≤ n) :
    Fits kind.1 kind.2 size n (margin kind.1 kind.2 size n) := by
  obtain ⟨hcells, ⟨t, ht, hpos, htaken⟩, hfits⟩ := fits_cells kind hkind size hsize
  generalize cells kind.1 kind.2 size = m at *
  rcases hle.eq_or_lt with rfl | hlt
  · exact hfits
  have hmn : (m + 1 : Rat) ≤ n := by exact_mod_cast hlt
  have hfinite := Number.eq_finite_of_pos ht hpos
  obtain ⟨q, hq, -, -, herror⟩ := margin_spec hfinite hpos htaken hcells
  obtain ⟨q', hq', hzero, hle8, herror'⟩ := margin_spec hfinite hpos (by linarith) hn
  rw [hq] at hfits
  rw [hq']
  refine hfits.of_le hzero hle8 ?_
  rw [Nat.cast_sub hcells, Nat.cast_sub hn]
  rw [abs_le] at herror herror'
  linarith

/-- A whole number of cells fits itself. -/
lemma fits_whole : ∀ n < 9, 1 ≤ n → Fits (.finite 1) false (.ofNat n) n 0 := by decide +kernel

end Side

namespace Element

variable {e : Element} {r : Rect}

/-- **An element at offsets that fit** is inside. -/
lemma inside_moveTo {m n x y : Nat} {o o' : Number}
    (hacross : Side.Fits e.shape.scale (e.shape = .switch) e.width m o)
    (hdown : Side.Fits e.shape.scale false e.height n o')
    (hx : x + m ≤ gridSize) (hy : y + n ≤ gridSize) :
    (e.moveTo (.ofNat x + o) (.ofNat y + o')).Inside :=
  ⟨hacross.holds hx, hdown.holds hy⟩

/-- The middle of cells as a place with a margin. -/
lemma centered_eq (r : Rect) (hwidth : e.width ∈ Side.sizes) : e.centered r =
    e.moveTo (.ofNat r.x + Side.margin e.shape.scale (e.shape = .switch) e.width r.w)
      (.ofNat r.y + Side.margin e.shape.scale false e.height r.h) := by
  have htaken : e.width * e.shape.scale + (if e.shape = .switch then 1 else 0)
      = Side.taken e.shape.scale (e.shape = .switch) e.width := by
    unfold Side.taken
    by_cases h : e.shape = .switch
    · simp [h]
    · simp [h, Side.mul_add_zero e.shape hwidth]
  rw [centered, htaken]
  rfl

/-- **An element in the middle of enough cells** is inside. -/
lemma inside_centered (hr : r.inBounds = true) (hwidth : e.width ∈ Side.sizes)
    (hheight : e.height ∈ Side.sizes) (hw : e.footprint.1 ≤ r.w) (hh : e.footprint.2 ≤ r.h) :
    (e.centered r).Inside := by
  obtain ⟨hx, hy⟩ := Rect.inBounds_iff.mp hr
  obtain ⟨hslider, hplain⟩ := Side.mem_kinds e.shape
  have hacross := Side.fits_margin hslider hwidth (Nat.le_of_add_left_le hx)
    (by rwa [← footprint_fst])
  have hdown := Side.fits_margin hplain hheight (Nat.le_of_add_left_le hy) hh
  rw [centered_eq r hwidth]
  exact inside_moveTo hacross hdown hx hy

/-- **An element in the corner of cells that it fits** is inside. -/
lemma inside_cornered (hr : r.inBounds = true)
    (hacross : Side.Fits e.shape.scale (e.shape = .switch) e.width r.w 0)
    (hdown : Side.Fits e.shape.scale false e.height r.h 0) : (e.cornered r).Inside := by
  obtain ⟨hx, hy⟩ := Rect.inBounds_iff.mp hr
  have hinside := inside_moveTo hacross hdown hx hy
  rwa [Number.ofNat_add_zero (Nat.le_of_add_right_le hx),
    Number.ofNat_add_zero (Nat.le_of_add_right_le hy)] at hinside

end Element

end PanelPuzzle
