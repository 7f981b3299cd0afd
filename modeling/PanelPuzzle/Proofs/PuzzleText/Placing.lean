import PanelPuzzle.Proofs.Number.Range
import PanelPuzzle.Proofs.Number.Reading
import PanelPuzzle.Proofs.PuzzleText.Rereading
/-!
# Sizes and positions are written alike

An element is moved into the panel before it is written, and what is read of it is moved again when
it is written for the second time.  Nothing comes of that: `Element.Placed.shown_reread`.

**Sizes.**  A rounded size stays as it is, unless it is the greatest one of the shape, which may have
more than two decimals.

**Positions.**  An element of the greatest size has only one position, whatever becomes of its size.
All other elements keep their size, and with it the room that is left for their position.
-/

namespace PanelPuzzle

open Number

namespace Number

/-- A number that comes from rounding a value. -/
def Rounded (a : Number) : Prop := ∃ b : Number, b.isFinite = true ∧ b.roundTwo = a

lemma Rounded.cases {a : Number} (h : a.Rounded) :
    (∃ negative, a = infinite negative) ∨ ∃ q, a.toRat? = some q := by
  obtain ⟨b, hb, rfl⟩ := h
  rcases roundTwo_of_isFinite hb with ⟨negative, h⟩ | ⟨negative, v, -, -, h⟩
  · exact .inl ⟨negative, h⟩
  · exact .inr ⟨_, by rw [h, withSign, toRat?]⟩

/-- Whatever was rounded, an interval has a place for it. -/
lemma Rounded.toRat?_clamp {a low high : Number} {l u : Rat} (ha : a.Rounded)
    (hlow : low.toRat? = some l) (hhigh : high.toRat? = some u) (hle : l ≤ u) :
    ∃ v, (a.clamp low high).toRat? = some v ∧ l ≤ v ∧ v ≤ u := by
  rcases ha.cases with ⟨negative, rfl⟩ | ⟨q, hq⟩
  · rw [clamp_infinite negative hlow hhigh]
    cases negative with
    | true => exact ⟨l, hlow, le_refl l, hle⟩
    | false => exact ⟨u, hhigh, hle, le_refl u⟩
  · exact ⟨_, Number.toRat?_clamp hq hlow hhigh hle, le_max_left _ _,
      max_le hle (min_le_right _ _)⟩

/-- A rounded number is moved to an end of the interval, or stays and is not changed by rounding. -/
lemma Rounded.clamp_cases {a low high : Number} {l u : Rat} (ha : a.Rounded) (hl : 0 ≤ l)
    (hu : u ≤ 2 ^ (44 : Int)) (hlow : low.toRat? = some l) (hhigh : high.toRat? = some u) :
    a.clamp low high = low ∨ a.clamp low high = high ∨
      (a.clamp low high = a ∧ a.roundTwo = a) := by
  rcases ha.cases with ⟨negative, rfl⟩ | ⟨q, hq⟩
  · rw [clamp_infinite negative hlow hhigh]
    cases negative <;> simp
  · rw [clamp, lt, lt, hq, hlow, hhigh]
    simp only [decide_eq_true_eq]
    split_ifs with hbelow habove
    · exact .inl rfl
    · exact .inr (.inl rfl)
    · refine .inr (.inr ⟨rfl, ?_⟩)
      obtain ⟨b, -, rfl⟩ := ha
      refine roundTwo_eq_self hq (abs_le.mpr ?_)
      have hpow := zpow_two_pos (44 : Int)
      constructor <;> linarith

/-- A value between zero and a moderate bound is written and read as its rounding. -/
lemma reread_of_toRat? {a : Number} {q : Rat} (ha : a.toRat? = some q) (hq : 0 ≤ q)
    (h : q ≤ 2 ^ (43 : Int)) : a.Readable ∧ a.reread = finite (twoPlaces q) := by
  have hround := roundTwo_of_toRat? ha hq h
  have hle := twoPlaces_le hq h
  have hvalue : (a.roundTwo).toRat? = some (twoPlaces q) := by rw [hround, toRat?]
  have hself := roundTwo_eq_self hvalue (by rwa [abs_of_nonneg (twoPlaces_nonneg hq)])
  have hread : a.reread? = some (finite (twoPlaces q)) := by
    rw [reread?_eq, hself, hround]
    rfl
  rw [Readable, reread, hread]
  exact ⟨rfl, rfl⟩

/-- A number that rounding does not change is read as it was written. -/
lemma reread_eq_self {a : Number} (ha : a.isFinite = true) (h : a.roundTwo = a) :
    a.reread = a := by
  have hread : a.reread? = some a := by rw [reread?_eq, h, h, ha, if_pos rfl]
  rw [reread, hread, Option.getD_some]

lemma twoDecimals_congr {a b : Number} (h : a.roundTwo = b.roundTwo) :
    a.twoDecimals = b.twoDecimals := by rw [twoDecimals, twoDecimals, h]

/-- **A value in an interval is written alike** when it was read and moved into the interval. -/
lemma twoDecimals_clamp_reread {a low high : Number} {l v u : Rat} (ha : a.toRat? = some v)
    (hlow : low.toRat? = some l) (hhigh : high.toRat? = some u) (hl : 0 ≤ l)
    (hplaces : twoPlaces l = l) (hlv : l ≤ v) (hvu : v ≤ u) (hu : u ≤ 2 ^ (43 : Int)) :
    (a.reread.clamp low high).twoDecimals = a.twoDecimals := by
  have hv := hl.trans hlv
  have hread := (reread_of_toRat? ha hv (hvu.trans hu)).2
  have hvalue : a.reread.toRat? = some (twoPlaces v) := by rw [hread, toRat?]
  have hclamp := toRat?_clamp hvalue hlow hhigh (hlv.trans hvu)
  have hle : max l (min (twoPlaces v) u) ≤ u := max_le (hlv.trans hvu) (min_le_right _ _)
  refine twoDecimals_congr ?_
  rw [roundTwo_of_toRat? hclamp (hl.trans (le_max_left _ _)) (hle.trans hu),
    roundTwo_of_toRat? ha hv (hvu.trans hu), twoPlaces_clamp hl hplaces hlv hvu hu]

end Number

/-! ## The room of a shape -/

namespace Shape

/-- The size with which a shape fills the panel. -/
def greatest (s : Shape) : Number := Number.ofNat gridSize / s.scale

/-- What is left of a side of the panel. -/
def left (taken : Number) : Number := (Number.ofNat gridSize - taken).larger 0

/-- What an element of a width takes of the side of the panel. -/
def across (s : Shape) (width : Number) : Number :=
  if s = .switch then width * s.scale + 1 else width * s.scale

/-- The least size that is written. -/
lemma least_spec :
    ∃ l : Rat, (0.01 : Number).toRat? = some l ∧ 0 ≤ l ∧ twoPlaces l = l ∧ l ≤ 1 := by
  have hvalue : ∃ l ∈ (0.01 : Number).toRat?, 0 ≤ l ∧ twoPlaces l = l ∧ l ≤ 1 := by decide +kernel
  exact hvalue

lemma roundTwo_least : (0.01 : Number).roundTwo = 0.01 := by decide +kernel

lemma greatest_spec (s : Shape) : ∃ u : Rat, s.greatest.toRat? = some u ∧ 1 ≤ u ∧ u ≤ 16 := by
  have hvalue : ∀ s ∈ all, ∃ u ∈ s.greatest.toRat?, 1 ≤ u ∧ u ≤ 16 := by decide +kernel
  exact hvalue s (mem_all s)

/-- The greatest size leaves no room. -/
lemma left_greatest (s : Shape) : (left (s.across s.greatest)).toRat? = some 0 ∧
    (left (s.greatest * s.scale)).toRat? = some 0 := by
  cases s <;> decide +kernel

lemma inRange_scale (s : Shape) : s.scale.InRange 1 := by
  have hvalue : ∀ s ∈ all, ∃ q ∈ s.scale.toRat?, |q| ≤ 2 ^ ((1 : Nat) : Int) := by decide +kernel
  exact hvalue s (mem_all s)

lemma inRange_across (s : Shape) {width : Number} (h : width.InRange 4) :
    (s.across width).InRange 6 := by
  have hmul := inRange_mul h s.inRange_scale (by omega)
  have hone : (1 : Number).InRange 5 := ⟨1, by decide +kernel, by norm_num⟩
  unfold across
  split_ifs
  · exact inRange_add hmul hone (by omega)
  · exact hmul.mono (by omega)

lemma inRange_down {s : Shape} {height : Number} (h : height.InRange 4) :
    (height * s.scale).InRange 6 := (inRange_mul h s.inRange_scale (by omega)).mono (by omega)

lemma left_spec {taken : Number} (h : taken.InRange 6) :
    ∃ u : Rat, (left taken).toRat? = some u ∧ 0 ≤ u ∧ u ≤ 2 ^ (43 : Int) := by
  have hside : (Number.ofNat gridSize).InRange 6 := ⟨8, by decide +kernel, by norm_num⟩
  obtain ⟨q, hq, hle⟩ := inRange_sub hside h (by omega)
  refine ⟨max q 0, toRat?_larger_zero hq, le_max_right _ _, max_le ?_ (by norm_num)⟩
  exact (le_abs_self q).trans (hle.trans (zpow_le_zpow_right₀ (by norm_num) (by norm_num)))

end Shape

/-! ## Elements -/

namespace Element

lemma shown_width (e : Element) : e.shown.width = e.width.clamp 0.01 e.shape.greatest := rfl

lemma shown_height (e : Element) : e.shown.height = e.height.clamp 0.01 e.shape.greatest := rfl

lemma shown_x (e : Element) :
    e.shown.x = e.x.clamp 0 (Shape.left (e.shape.across e.shown.width)) := rfl

lemma shown_y (e : Element) :
    e.shown.y = e.y.clamp 0 (Shape.left (e.shown.height * e.shape.scale)) := rfl

lemma reread_shape (e : Element) : e.reread.shape = e.shape := by simp only [reread]

lemma reread_width (e : Element) : e.reread.width = e.shown.width.reread := by simp only [reread]

lemma reread_height (e : Element) : e.reread.height = e.shown.height.reread := by
  simp only [reread]

lemma reread_x (e : Element) : e.reread.x = e.shown.x.reread := by simp only [reread]

lemma reread_y (e : Element) : e.reread.y = e.shown.y.reread := by simp only [reread]

/-- The numbers of an element are rounded. -/
structure Placed (e : Element) : Prop where
  width : e.width.Rounded
  height : e.height.Rounded
  x : e.x.Rounded
  y : e.y.Rounded

end Element

namespace Shape

variable {s : Shape} {size : Number}

lemma toRat?_clamp_size (h : size.Rounded) :
    ∃ l v u : Rat, (0.01 : Number).toRat? = some l ∧ 0 ≤ l ∧ twoPlaces l = l ∧
      (size.clamp 0.01 s.greatest).toRat? = some v ∧ l ≤ v ∧ v ≤ u ∧
      s.greatest.toRat? = some u ∧ u ≤ 16 := by
  obtain ⟨l, hl, hzero, hplaces, hone⟩ := least_spec
  obtain ⟨u, hu, hle, hlt⟩ := s.greatest_spec
  obtain ⟨v, hv, hlv, hvu⟩ := h.toRat?_clamp hl hu (hone.trans hle)
  exact ⟨l, v, u, hl, hzero, hplaces, hv, hlv, hvu, hu, hlt⟩

lemma inRange_clamp_size (h : size.Rounded) : (size.clamp 0.01 s.greatest).InRange 4 := by
  obtain ⟨l, v, u, -, hl, -, hv, hlv, hvu, -, hu⟩ := toRat?_clamp_size (s := s) h
  refine ⟨v, hv, abs_le.mpr ?_⟩
  norm_num
  constructor <;> linarith

/-- **A size is read as it was written,** or it was the greatest one. -/
lemma clamp_reread_size (h : size.Rounded) :
    (size.clamp 0.01 s.greatest).reread.clamp 0.01 s.greatest = size.clamp 0.01 s.greatest ∨
      size.clamp 0.01 s.greatest = s.greatest := by
  obtain ⟨l, v, u, hlow, hl, -, hv, -, -, hhigh, hu⟩ := toRat?_clamp_size (s := s) h
  have hfinite : (size.clamp 0.01 s.greatest).isFinite = true := by rw [isFinite, hv]; rfl
  have hu' : u ≤ 2 ^ (44 : Int) := hu.trans (by norm_num)
  rcases h.clamp_cases hl hu' hlow hhigh with heq | heq | ⟨heq, hround⟩
  · left
    rw [heq] at hfinite ⊢
    rw [reread_eq_self hfinite roundTwo_least]
    cases s <;> decide +kernel
  · exact .inr heq
  · left
    rw [heq] at hfinite
    rw [heq, reread_eq_self hfinite hround, heq]

lemma twoDecimals_reread_size (h : size.Rounded) :
    (size.clamp 0.01 s.greatest).Readable ∧
      ((size.clamp 0.01 s.greatest).reread.clamp 0.01 s.greatest).twoDecimals
        = (size.clamp 0.01 s.greatest).twoDecimals := by
  obtain ⟨l, v, u, hlow, hl, hplaces, hv, hlv, hvu, hhigh, hu⟩ := toRat?_clamp_size (s := s) h
  have hu' : u ≤ 2 ^ (43 : Int) := hu.trans (by norm_num)
  exact ⟨(reread_of_toRat? hv (hl.trans hlv) (hvu.trans hu')).1,
    twoDecimals_clamp_reread hv hlow hhigh hl hplaces hlv hvu hu'⟩

/-- **A position is read as it was written,** if the room is the same or there was none. -/
lemma twoDecimals_reread_place {place taken taken' : Number} (h : place.Rounded)
    (htaken : taken.InRange 6) (htaken' : taken'.InRange 6)
    (hroom : taken' = taken ∨ (left taken).toRat? = some 0) :
    (place.clamp 0 (left taken)).Readable ∧
      ((place.clamp 0 (left taken)).reread.clamp 0 (left taken')).twoDecimals
        = (place.clamp 0 (left taken)).twoDecimals := by
  have hzero : (0 : Number).toRat? = some 0 := congrArg toRat? zero_eq
  obtain ⟨u, hu, hle, hlt⟩ := left_spec htaken
  obtain ⟨v, hv, hlv, hvu⟩ := h.toRat?_clamp hzero hu hle
  have hread := reread_of_toRat? hv hlv (hvu.trans hlt)
  refine ⟨hread.1, ?_⟩
  rcases hroom with rfl | hroom
  · exact twoDecimals_clamp_reread hv hzero hu (le_refl 0) twoPlaces_zero hlv hvu hlt
  · obtain rfl : u = 0 := by rwa [hu, Option.some_inj] at hroom
    obtain rfl : v = 0 := le_antisymm hvu hlv
    obtain ⟨u', hu', hle', -⟩ := left_spec htaken'
    have hvalue : (place.clamp 0 (left taken)).reread.toRat? = some 0 := by
      rw [hread.2, twoPlaces_zero, toRat?]
    have hclamp := toRat?_clamp hvalue hzero hu' hle'
    rw [min_eq_left hle', max_self] at hclamp
    refine twoDecimals_congr ?_
    rw [roundTwo_of_toRat? hclamp hlv hlt, roundTwo_of_toRat? hv hlv hlt]

end Shape

namespace Element

lemma Placed.inRange_across {e : Element} (h : e.Placed) :
    (e.shape.across e.shown.width).InRange 6 := by
  rw [shown_width]
  exact e.shape.inRange_across (Shape.inRange_clamp_size h.width)

lemma Placed.inRange_down {e : Element} (h : e.Placed) :
    (e.shown.height * e.shape.scale).InRange 6 := by
  rw [shown_height]
  exact Shape.inRange_down (Shape.inRange_clamp_size h.height)

/-- **Every number of a placed element can be read back.** -/
theorem Placed.readable {e : Element} (h : e.Placed) : e.shown.Readable where
  width := by
    rw [shown_width]
    exact (Shape.twoDecimals_reread_size h.width).1
  height := by
    rw [shown_height]
    exact (Shape.twoDecimals_reread_size h.height).1
  x := by
    rw [shown_x]
    exact (Shape.twoDecimals_reread_place h.x h.inRange_across h.inRange_across (.inl rfl)).1
  y := by
    rw [shown_y]
    exact (Shape.twoDecimals_reread_place h.y h.inRange_down h.inRange_down (.inl rfl)).1

/-- What is read of a placed element is placed. -/
lemma Placed.reread {e : Element} (h : e.Placed) : e.reread.Placed := by
  have hrounded : ∀ {a : Number}, a.Readable → a.reread.Rounded := by
    intro a ha
    have hread := ha.reread?_eq
    rw [reread?_eq] at hread
    split_ifs at hread with hfinite
    exact ⟨a.roundTwo, hfinite, Option.some.inj hread⟩
  have hreadable := h.readable
  constructor
  · rw [reread_width]
    exact hrounded hreadable.width
  · rw [reread_height]
    exact hrounded hreadable.height
  · rw [reread_x]
    exact hrounded hreadable.x
  · rw [reread_y]
    exact hrounded hreadable.y

/-- The room for a position stays, or there was none. -/
lemma Placed.room_across {e : Element} (h : e.Placed) :
    e.reread.shape.across e.reread.shown.width = e.shape.across e.shown.width ∨
      (Shape.left (e.shape.across e.shown.width)).toRat? = some 0 := by
  rw [reread_shape, shown_width, reread_shape, reread_width, shown_width]
  rcases Shape.clamp_reread_size (s := e.shape) h.width with heq | heq
  · exact .inl (congrArg e.shape.across heq)
  · rw [heq]
    exact .inr e.shape.left_greatest.1

lemma Placed.room_down {e : Element} (h : e.Placed) :
    e.reread.shown.height * e.reread.shape.scale = e.shown.height * e.shape.scale ∨
      (Shape.left (e.shown.height * e.shape.scale)).toRat? = some 0 := by
  rw [reread_shape, shown_height, reread_shape, reread_height, shown_height]
  rcases Shape.clamp_reread_size (s := e.shape) h.height with heq | heq
  · exact .inl (congrArg (· * e.shape.scale) heq)
  · rw [heq]
    exact .inr e.shape.left_greatest.2

/-- **The geometry of a placed element is written alike** when it was written and read. -/
theorem Placed.shown_reread {e : Element} (h : e.Placed) :
    pairWord e.reread.shown.width e.reread.shown.height = pairWord e.shown.width e.shown.height ∧
      pairWord e.reread.shown.x e.reread.shown.y = pairWord e.shown.x e.shown.y := by
  have hwidth : e.reread.shown.width.twoDecimals = e.shown.width.twoDecimals := by
    rw [shown_width, reread_shape, reread_width, shown_width]
    exact (Shape.twoDecimals_reread_size h.width).2
  have hheight : e.reread.shown.height.twoDecimals = e.shown.height.twoDecimals := by
    rw [shown_height, reread_shape, reread_height, shown_height]
    exact (Shape.twoDecimals_reread_size h.height).2
  have hx : e.reread.shown.x.twoDecimals = e.shown.x.twoDecimals := by
    rw [shown_x, reread_x, shown_x]
    exact (Shape.twoDecimals_reread_place h.x h.inRange_across h.reread.inRange_across
      h.room_across).2
  have hy : e.reread.shown.y.twoDecimals = e.shown.y.twoDecimals := by
    rw [shown_y, reread_y, shown_y]
    exact (Shape.twoDecimals_reread_place h.y h.inRange_down h.reread.inRange_down h.room_down).2
  rw [pairWord, pairWord, pairWord, pairWord, hwidth, hheight, hx, hy]
  exact ⟨rfl, rfl⟩

end Element

end PanelPuzzle
