import PanelPuzzle.Fit
import PanelPuzzle.Proofs.PuzzleText.Nearness
/-!
# Two halves in either order

Two halves of a circle are compared along the cut between them, where they are equally long up to the
tolerance, and together they are compared with the socket, again with the tolerance.  The circle takes its
length along the cut from the first half.

* `Comparison.Mates` — what is asked of two halves apart from that length; it is the same in either order.
* `Comparison.fitsPair_comm_iff` — **when the order matters:** only for such halves, and just if one of the
  two fits the socket along the cut and the other does not.
* `Comparison.fitsPair_comm_of_exact` — it never matters for elements with sizes of two decimals.
-/

namespace PanelPuzzle

/-! ## Halves -/

namespace Shape

/-- The half that a half needs to make a circle. -/
def otherHalf? : Shape → Option Shape
  | semicircleLeft => some semicircleRight
  | semicircleRight => some semicircleLeft
  | semicircleTop => some semicircleBottom
  | semicircleBottom => some semicircleTop
  | _ => none

/-- The size of an element along the cut that a half comes from. -/
def alongCut (half : Shape) (e : Element) : Number :=
  match half with
  | semicircleLeft | semicircleRight => e.height
  | _ => e.width

/-- The size of an element across that cut. -/
def acrossCut (half : Shape) (e : Element) : Number :=
  match half with
  | semicircleLeft | semicircleRight => e.width
  | _ => e.height

variable {s t : Shape}

lemma otherHalf?_symm (h : s.otherHalf? = some t) : t.otherHalf? = some s := by
  cases s <;> cases t <;> simp_all [otherHalf?]

/-- Both halves come from the same cut. -/
lemma cut_eq (h : s.otherHalf? = some t) : t.alongCut = s.alongCut ∧ t.acrossCut = s.acrossCut := by
  cases s <;> cases h <;> exact ⟨rfl, rfl⟩

end Shape

/-- The sizes of an element are numbers of binary64. -/
structure Element.BinarySize (e : Element) : Prop where
  width : e.width.Binary
  height : e.height.Binary

lemma Element.BinarySize.alongCut {e : Element} (h : e.BinarySize) (half : Shape) :
    (half.alongCut e).Binary := by
  cases half
  case semicircleLeft | semicircleRight => exact h.height
  all_goals exact h.width

lemma Element.Exact.binarySize {e : Element} (h : e.Exact) : e.BinarySize :=
  ⟨h.inside.across.size_holds.binary, h.inside.down.size_holds.binary⟩

lemma Element.Exact.alongCut {e : Element} (h : e.Exact) (half : Shape) :
    Side.SizeHolds e.shape.scale (half.alongCut e) := by
  cases half
  case semicircleLeft | semicircleRight => exact h.inside.down.size_holds
  all_goals exact h.inside.across.size_holds

namespace Comparison

variable {c : Comparison} {socket a b : Element}

/-! ## One side -/

/-- Whether a side of a plug fits that of a socket. -/
def fitsSide (c : Comparison) (socketSide side : Number) : Bool :=
  match c with
  | equal | strict => (socketSide - side).abs.lt tolerance
  | greaterOrEqual => (socketSide - tolerance).lt side
  | lessOrEqual => side.lt (socketSide + tolerance)

lemma fitsSize_eq (socketWidth socketHeight width height : Number) :
    c.fitsSize socketWidth socketHeight width height =
      (c.fitsSide socketWidth width && c.fitsSide socketHeight height) := by
  cases c <;> rfl

/-! ## Two halves -/

/-- **Two halves make a circle for a socket,** whatever its size along their cut is. -/
structure Mates (c : Comparison) (socket a b : Element) : Prop where
  round : socket.shape = .circle
  other : a.shape.otherHalf? = some b.shape
  near : tolerance.lt (a.shape.alongCut a - a.shape.alongCut b).abs = false
  across : c.fitsSide (a.shape.acrossCut socket) (a.shape.acrossCut a + a.shape.acrossCut b) = true
  colors : c = strict →
    a.color.primary = socket.color.primary ∧ b.color.primary = socket.color.primary

lemma joined?_eq_none (h : a.shape.otherHalf? ≠ some b.shape) : joined? a b = none := by
  unfold joined?
  split <;> simp_all [Shape.otherHalf?]

/-- The circle of two halves, and whether it fits, by the cut between them. -/
lemma joined?_of_other (h : a.shape.otherHalf? = some b.shape) :
    (∃ size, joined? a b = some size ∧
      c.fitsSize socket.width socket.height size.1 size.2 = true) ↔
    tolerance.lt (a.shape.alongCut a - a.shape.alongCut b).abs = false ∧
      c.fitsSide (a.shape.acrossCut socket) (a.shape.acrossCut a + a.shape.acrossCut b) = true ∧
      c.fitsSide (a.shape.alongCut socket) (a.shape.alongCut a) = true := by
  cases ha : a.shape <;> cases hb : b.shape <;> rw [ha, hb] at h <;> cases h
  all_goals
    simp only [joined?, ha, hb, fitsSize_eq, Shape.alongCut, Shape.acrossCut]
    split <;> simp_all [and_comm]

/-- **What is asked of a pair:** the halves are mates, and the first one is as long as the socket. -/
lemma fitsPair_iff : c.fitsPair socket a b = true ↔
    c.Mates socket a b ∧ c.fitsSide (a.shape.alongCut socket) (a.shape.alongCut a) = true := by
  have hasked : c.fitsPair socket a b = true ↔ socket.shape = .circle ∧
      (∃ size, joined? a b = some size ∧
        c.fitsSize socket.width socket.height size.1 size.2 = true) ∧
      (c = strict → a.color.primary = socket.color.primary ∧
        b.color.primary = socket.color.primary) := by
    rw [fitsPair]
    cases joined? a b with
    | none => simp
    | some size => simp [imp_iff_not_or]
  rw [hasked]
  by_cases hother : a.shape.otherHalf? = some b.shape
  · rw [joined?_of_other hother]
    constructor
    · rintro ⟨hround, ⟨hnear, hacross, halong⟩, hcolors⟩
      exact ⟨⟨hround, hother, hnear, hacross, hcolors⟩, halong⟩
    · rintro ⟨hmates, halong⟩
      exact ⟨hmates.round, ⟨hmates.near, hmates.across, halong⟩, hmates.colors⟩
  · refine iff_of_false ?_ fun h => hother h.1.other
    rintro ⟨-, ⟨size, hjoined, -⟩, -⟩
    rw [joined?_eq_none hother] at hjoined
    cases hjoined

/-- Mates are mates in either order. -/
lemma Mates.symm (ha : a.BinarySize) (hb : b.BinarySize) (h : c.Mates socket a b) :
    c.Mates socket b a := by
  obtain ⟨halong, hacross⟩ := Shape.cut_eq h.other
  refine ⟨h.round, Shape.otherHalf?_symm h.other, ?_, ?_, fun hc => (h.colors hc).symm⟩
  · rw [halong, Number.distance_comm (hb.alongCut _) (ha.alongCut _)]
    exact h.near
  · rw [hacross, Number.sum_comm]
    exact h.across

/-- **When the order of two halves matters.**  It matters for mates of which one fits the socket along the
cut and the other does not, and for no others. -/
theorem fitsPair_comm_iff (ha : a.BinarySize) (hb : b.BinarySize) :
    c.fitsPair socket a b = c.fitsPair socket b a ↔
      (c.Mates socket a b → c.fitsSide (a.shape.alongCut socket) (a.shape.alongCut a) =
        c.fitsSide (a.shape.alongCut socket) (a.shape.alongCut b)) := by
  have hmates : c.Mates socket b a ↔ c.Mates socket a b := ⟨.symm hb ha, .symm ha hb⟩
  rw [Bool.eq_iff_iff, fitsPair_iff, fitsPair_iff, hmates]
  constructor
  · intro h hab
    have hcut := (Shape.cut_eq hab.other).1
    rw [hcut] at h
    rw [Bool.eq_iff_iff]
    simpa only [hab, true_and] using h
  · intro h
    refine and_congr_right fun hab => ?_
    rw [(Shape.cut_eq hab.other).1, h hab]

/-- The order of two halves matters where the tolerance of the socket ends between their lengths. -/
theorem fitsPair_comm_iff_uneven : ∃ socket a b : Element, a.BinarySize ∧ b.BinarySize ∧
    equal.fitsPair socket a b ≠ equal.fitsPair socket b a := by
  refine ⟨{ id := "c1", shape := .circle, width := 2, height := 2 },
    { id := "l2", shape := .semicircleLeft, width := 1, height := 2.0000005 },
    { id := "g3", shape := .semicircleRight, width := 1, height := 2.0000014 },
    ⟨by decide +kernel, by decide +kernel⟩, ⟨by decide +kernel, by decide +kernel⟩, fun h => ?_⟩
  have hsides := (fitsPair_comm_iff ⟨by decide +kernel, by decide +kernel⟩
    ⟨by decide +kernel, by decide +kernel⟩).mp h ⟨rfl, rfl, by decide +kernel, by decide +kernel, nofun⟩
  revert hsides
  decide +kernel

/-! ## Sizes of two decimals -/

/-- **In a puzzle the order of two halves does not matter:** halves with sizes of two decimals that are
equally long up to the tolerance are equally long. -/
theorem fitsPair_comm_of_exact (ha : a.Exact) (hb : b.Exact) :
    c.fitsPair socket a b = c.fitsPair socket b a := by
  refine (fitsPair_comm_iff ha.binarySize hb.binarySize).mpr fun hmates => ?_
  rw [(ha.alongCut _).eq_of_near (hb.alongCut _) hmates.near]

end Comparison

end PanelPuzzle
