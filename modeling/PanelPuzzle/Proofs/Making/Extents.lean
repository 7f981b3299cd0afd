import PanelPuzzle.Proofs.Making.Exact
/-!
# What elements take of a panel

Where an element lies is a matter of exact numbers: those that the numbers of the element stand for.  A
size is granted the error with which sizes are compared, since the cells of an element are counted with
it: a screw takes a little more than the two cells by two that are its own.

* `Element.extent?` — the part of the panel that an element takes.
* `Element.LiesIn` — an element lies in a rectangle of cells.
* `Element.Sits` — it lies there, and two decimals hold its numbers.
* `sits_centered`, `sits_cornered`, `sits_onCell`, `IsTile.sits` — **where elements are put.**
-/

namespace PanelPuzzle

/-! ## Extents -/

/-- A part of a panel, by its sides. -/
structure Extent where
  left : Rat
  right : Rat
  top : Rat
  bottom : Rat
  deriving DecidableEq

namespace Extent

/-- A part of a panel lies in another one, up to an error. -/
structure Within (error : Rat) (s t : Extent) : Prop where
  left : t.left ≤ s.left + error
  right : s.right ≤ t.right + error
  top : t.top ≤ s.top + error
  bottom : s.bottom ≤ t.bottom + error

/-- The error with which sizes are compared. -/
def slack : Rat := tolerance.toRat?.getD 0

variable {error : Rat} {s t u : Extent}

lemma Within.refl (h : 0 ≤ error) (s : Extent) : s.Within error s :=
  ⟨le_add_of_nonneg_right h, le_add_of_nonneg_right h, le_add_of_nonneg_right h,
    le_add_of_nonneg_right h⟩

lemma Within.trans (h : s.Within error t) (h' : t.Within 0 u) : s.Within error u where
  left := (h'.left.trans_eq (add_zero _)).trans h.left
  right := h.right.trans (add_le_add_left (h'.right.trans_eq (add_zero _)) error)
  top := (h'.top.trans_eq (add_zero _)).trans h.top
  bottom := h.bottom.trans (add_le_add_left (h'.bottom.trans_eq (add_zero _)) error)

end Extent

/-- The part of a panel that the cells of a rectangle take. -/
def Rect.extent (r : Rect) : Extent := ⟨r.x, r.x + r.w, r.y, r.y + r.h⟩

/-- Cells inside other cells. -/
lemma Rect.extent_within {r s : Rect} (hx : s.x ≤ r.x) (hright : r.x + r.w ≤ s.x + s.w)
    (hy : s.y ≤ r.y) (hbottom : r.y + r.h ≤ s.y + s.h) : r.extent.Within 0 s.extent where
  left := (Nat.cast_le.mpr hx).trans_eq (add_zero _).symm
  right := (by exact_mod_cast hright : (r.x + r.w : Rat) ≤ s.x + s.w).trans_eq (add_zero _).symm
  top := (Nat.cast_le.mpr hy).trans_eq (add_zero _).symm
  bottom := (by exact_mod_cast hbottom : (r.y + r.h : Rat) ≤ s.y + s.h).trans_eq (add_zero _).symm

namespace Element

/-- **The part of the panel that an element takes,** if its numbers have values.  A switch takes one cell
more across, for the ball of its slider. -/
def extent? (e : Element) : Option Extent := do
  let scale ← e.shape.scale.toRat?
  let width ← e.width.toRat?
  let height ← e.height.toRat?
  let x ← e.x.toRat?
  let y ← e.y.toRat?
  pure
    { left := x
      right := x + width * scale + (if e.shape = .switch then 1 else 0)
      top := y
      bottom := y + height * scale }

/-- **An element lies in a rectangle,** as exactly as sizes are compared. -/
def LiesIn (e : Element) (r : Rect) : Prop := ∃ s ∈ e.extent?, s.Within Extent.slack r.extent

end Element

/-! ## Sides -/

namespace Side

open Extent

/-- A size stays in its cells, wherever these start. -/
def Stays (scale : Number) (slider : Bool) (size : Number) (n : Nat) (o : Number) : Prop :=
  ∃ s ∈ scale.toRat?, ∃ t ∈ size.toRat?, ∀ start < 9, start + n ≤ gridSize →
    ∃ p ∈ (Number.ofNat start + o).roundTwo.toRat?, (start : Rat) ≤ p + slack ∧
      p + t * s + (if slider then 1 else 0) ≤ start + n + slack

instance (scale : Number) (slider : Bool) (size : Number) (n : Nat) (o : Number) :
    Decidable (Stays scale slider size n o) :=
  inferInstanceAs (Decidable (∃ s ∈ scale.toRat?, ∃ t ∈ size.toRat?, ∀ start < 9,
    start + n ≤ gridSize → ∃ p ∈ (Number.ofNat start + o).roundTwo.toRat?,
      (start : Rat) ≤ p + slack ∧ p + t * s + (if slider then 1 else 0) ≤ start + n + slack))

/-- **A size sits at an offset in a number of cells:** there it is inside the panel and stays in the
cells. -/
structure Sits (scale : Number) (slider : Bool) (size : Number) (n : Nat) (o : Number) : Prop where
  fits : Fits scale slider size n o
  stays : Stays scale slider size n o

instance (scale : Number) (slider : Bool) (size : Number) (n : Nat) (o : Number) :
    Decidable (Sits scale slider size n o) :=
  decidable_of_iff (Fits scale slider size n o ∧ Stays scale slider size n o)
    ⟨fun h => ⟨h.1, h.2⟩, fun h => ⟨h.1, h.2⟩⟩

/-- A size stays in the fewest cells that it needs. -/
lemma stays_cells : ∀ kind ∈ kinds, ∀ size ∈ sizes,
    Stays kind.1 kind.2 size (cells kind.1 kind.2 size)
      (margin kind.1 kind.2 size (cells kind.1 kind.2 size)) := by decide +kernel

/-- **A size sits in the middle of the fewest cells that it needs.** -/
lemma sits_cells {kind : Number × Bool} (hkind : kind ∈ kinds) {size : Number} (hsize : size ∈ sizes)
    {n : Nat} (hn : n = cells kind.1 kind.2 size) :
    Sits kind.1 kind.2 size n (margin kind.1 kind.2 size n) :=
  hn ▸ ⟨(fits_cells kind hkind size hsize).2.2, stays_cells kind hkind size hsize⟩

end Side

/-! ## Elements in their places -/

namespace Element

variable {e : Element} {r s : Rect}

/-- **An element sits in a rectangle:** it lies there, and two decimals hold its numbers. -/
structure Sits (e : Element) (r : Rect) : Prop where
  lies : e.LiesIn r
  inside : e.Inside

lemma Sits.mono (h : e.Sits r) (hr : r.extent.Within 0 s.extent) : e.Sits s := by
  obtain ⟨extent, hextent, hwithin⟩ := h.lies
  exact ⟨⟨extent, hextent, hwithin.trans hr⟩, h.inside⟩

/-- Only the shape and the numbers of an element matter. -/
lemma Sits.alike {e' : Element} (h : e.Sits r) (hshape : e'.shape = e.shape) (hwidth : e'.width = e.width)
    (hheight : e'.height = e.height) (hx : e'.x = e.x) (hy : e'.y = e.y) : e'.Sits r := by
  obtain ⟨⟨extent, hextent, hwithin⟩, hacross, hdown⟩ := h
  refine ⟨⟨extent, ?_, hwithin⟩, ?_, ?_⟩
  · rwa [extent?, hshape, hwidth, hheight, hx, hy]
  · rwa [hshape, hwidth, hx]
  · rwa [hshape, hheight, hy]

/-- What an element takes that is put at a place. -/
lemma extent?_moveTo {x y : Number} {scale width height p q : Rat} (hscale : e.shape.scale.toRat? = some scale)
    (hwidth : e.width.toRat? = some width) (hheight : e.height.toRat? = some height)
    (hp : x.roundTwo.toRat? = some p) (hq : y.roundTwo.toRat? = some q) :
    (e.moveTo x y).extent? = some
      ⟨p, p + width * scale + (if e.shape = .switch then 1 else 0), q, q + height * scale⟩ := by
  simp only [extent?, moveTo, hscale, hwidth, hheight, hp, hq, Option.bind_eq_bind, Option.bind_some,
    Option.pure_def]
  rfl

/-- **An element at offsets** sits in the cells that it starts from. -/
lemma sits_moveTo {m n x y : Nat} {o o' : Number}
    (hacross : Side.Sits e.shape.scale (e.shape = .switch) e.width m o)
    (hdown : Side.Sits e.shape.scale false e.height n o')
    (hx : x + m ≤ gridSize) (hy : y + n ≤ gridSize) :
    (e.moveTo (.ofNat x + o) (.ofNat y + o')).Sits ⟨x, y, m, n⟩ := by
  refine ⟨?_, inside_moveTo hacross.fits hdown.fits hx hy⟩
  obtain ⟨scale, hscale, width, hwidth, hplaces⟩ := hacross.stays
  obtain ⟨scale', hscale', height, hheight, hplaces'⟩ := hdown.stays
  obtain rfl := Option.some.inj (hscale.symm.trans hscale')
  obtain ⟨p, hp, hleft, hright⟩ :=
    hplaces x (Nat.lt_succ_of_le (Nat.le_of_add_right_le hx)) hx
  obtain ⟨q, hq, htop, hbottom⟩ :=
    hplaces' y (Nat.lt_succ_of_le (Nat.le_of_add_right_le hy)) hy
  simp only [decide_eq_true_eq, Bool.false_eq_true, if_false, add_zero] at hright hbottom
  exact ⟨_, extent?_moveTo hscale hwidth hheight hp hq, hleft, hright, htop, hbottom⟩

/-- **An element in the middle of the cells that it covers** sits there. -/
lemma sits_centered (hr : r.inBounds = true) (hwidth : e.width ∈ Side.sizes)
    (hheight : e.height ∈ Side.sizes) (hw : r.w = e.footprint.1) (hh : r.h = e.footprint.2) :
    (e.centered r).Sits r := by
  obtain ⟨hx, hy⟩ := Rect.inBounds_iff.mp hr
  obtain ⟨hslider, hplain⟩ := Side.mem_kinds e.shape
  rw [centered_eq r hwidth]
  refine sits_moveTo (Side.sits_cells hslider hwidth ?_) (Side.sits_cells hplain hheight hh) hx hy
  rw [hw, footprint_fst]

/-- **An element in the corner of cells where it sits.** -/
lemma sits_cornered (hr : r.inBounds = true)
    (hacross : Side.Sits e.shape.scale (e.shape = .switch) e.width r.w 0)
    (hdown : Side.Sits e.shape.scale false e.height r.h 0) : (e.cornered r).Sits r := by
  obtain ⟨hx, hy⟩ := Rect.inBounds_iff.mp hr
  have hsits := sits_moveTo hacross hdown hx hy
  rwa [Number.ofNat_add_zero (Nat.le_of_add_right_le hx),
    Number.ofNat_add_zero (Nat.le_of_add_right_le hy)] at hsits

/-- **A small element on a cell of a rectangle.** -/
lemma sits_onCell (dx dy : Nat) {size o : Number} (hside : Side.Sits (.finite 1) false size 1 o)
    (hr : r.inBounds = true) (hdx : dx < r.w) (hdy : dy < r.h)
    (hshape : e.shape.scale = .finite 1 ∧ e.shape ≠ .switch) (hwidth : e.width = size)
    (hheight : e.height = size) (hx : e.x = (Number.ofNat (r.x + dx) + o).roundTwo)
    (hy : e.y = (Number.ofNat (r.y + dy) + o).roundTwo) : e.Sits r := by
  obtain ⟨hright, hbottom⟩ := Rect.inBounds_iff.mp hr
  obtain ⟨hscale, hswitch⟩ := hshape
  have hcell : (e.moveTo (.ofNat (r.x + dx) + o) (.ofNat (r.y + dy) + o)).Sits
      ⟨r.x + dx, r.y + dy, 1, 1⟩ := by
    refine sits_moveTo ?_ ?_ (by omega : r.x + dx + 1 ≤ 8) (by omega : r.y + dy + 1 ≤ 8)
    · rwa [hscale, hwidth, decide_eq_false hswitch]
    · rwa [hscale, hheight]
  have hplaced := hcell.mono (Rect.extent_within (s := r) (Nat.le_add_right _ _) (by dsimp only; omega)
    (Nat.le_add_right _ _) (by dsimp only; omega))
  exact hplaced.alike rfl rfl rfl hx hy

/-! ## Tiles -/

/-- An element is a tile over the cells of a rectangle. -/
structure IsTile (e : Element) (r : Rect) : Prop where
  shape_eq : e.shape = .rectangle
  width_eq : e.width = .ofNat r.w
  height_eq : e.height = .ofNat r.h
  x_eq : e.x = (Number.ofNat r.x).roundTwo
  y_eq : e.y = (Number.ofNat r.y).roundTwo

lemma toRat?_roundTwo_ofNat : ∀ n < 9, (Number.ofNat n).roundTwo.toRat? = some (n : Rat) := by
  decide +kernel

/-- A whole number of cells. -/
lemma sits_whole : ∀ n < 9, 1 ≤ n → Side.Sits (.finite 1) false (.ofNat n) n 0 := by decide +kernel

namespace IsTile

/-- **A tile takes just its cells.** -/
lemma extent?_eq (h : e.IsTile r) (hr : r.inBounds = true) : e.extent? = some r.extent := by
  obtain ⟨hx, hy⟩ := Rect.inBounds_iff.mp hr
  have hsize : ∀ {n}, n ≤ 8 → (Number.ofNat n).toRat? = some (n : Rat) := fun hn => by
    rw [Number.ofNat_eq hn, Number.toRat?]
  simp only [extent?, h.shape_eq, h.width_eq, h.height_eq, h.x_eq, h.y_eq, Shape.scale,
    toRat?_roundTwo_ofNat r.x (by omega), toRat?_roundTwo_ofNat r.y (by omega),
    hsize (by omega : r.w ≤ 8), hsize (by omega : r.h ≤ 8), Option.bind_eq_bind, Option.pure_def]
  simp [Number.toRat?, Rect.extent]

lemma sits (h : e.IsTile r) (hr : r.Proper) : e.Sits r := by
  obtain ⟨hx, hy⟩ := Rect.inBounds_iff.mp hr.inBounds
  have hcorner : (e.cornered r).Sits r := by
    refine sits_cornered hr.inBounds ?_ ?_
    · rw [h.shape_eq, h.width_eq]
      exact sits_whole r.w (by omega) hr.width_pos
    · rw [h.shape_eq, h.height_eq]
      exact sits_whole r.h (by omega) hr.height_pos
  exact hcorner.alike rfl rfl rfl h.x_eq h.y_eq

end IsTile

end Element

lemma Remote.sits_button : Side.Sits (.finite 1) false buttonSize 1 buttonOffset := by decide +kernel

end PanelPuzzle
