import PanelPuzzle.Proofs.PuzzleText.Placing
/-!
# Elements that their text tells exactly

An element inside the panel whose numbers have two decimals is read back as it is, and not only up
to its numbers.

**Sides.**  What is across and what is down is treated alike: `Side.Holds` says of a size and a
place that they are written as they are, and that the cells of the side lie in the grid.

**Elements.**  `Element.Regular` is about everything but the geometry and `Element.Inside` about the
geometry.  Together they are `Element.Exact`, and `Puzzle.read_text_of_exact` is the result.
-/

namespace PanelPuzzle

/-! ## Numbers and actions -/

/-- Two decimals hold a number exactly. -/
def Number.Exact (a : Number) : Prop := a.isFinite = true ∧ a.roundTwo = a

instance (a : Number) : Decidable a.Exact :=
  inferInstanceAs (Decidable (a.isFinite = true ∧ a.roundTwo = a))

lemma Number.Exact.reread?_eq {a : Number} (h : a.Exact) : a.reread? = some a := by
  rw [Number.reread?_eq, h.2, h.2, h.1, if_pos rfl]

lemma Number.Exact.reread_eq {a : Number} (h : a.Exact) : a.reread = a :=
  reread_eq_self h.1 h.2

lemma Number.Exact.readable {a : Number} (h : a.Exact) : a.Readable := by
  rw [Readable, h.reread?_eq, Option.isSome_some]

/-- An action that the format has words for, and that is read back as it is. -/
structure Action.Exact (a : Action) : Prop where
  legible : a.Legible
  reread : a.reread? = some a

lemma Action.exact_moveStep {id : String} {dx dy : Number} (hid : isElementId id = true)
    (hdx : dx.Exact) (hdy : dy.Exact) : (moveStep id dx dy).Exact := by
  refine ⟨hid, ?_⟩
  rw [reread?, readVector?_pairWord, hdx.reread?_eq, hdy.reread?_eq]
  rfl

lemma Action.exact_release {id : String} (hid : isElementId id = true) : (release id).Exact :=
  ⟨⟨hid, rfl⟩, rfl⟩

/-! ## Sides -/

namespace Side

/-- What a size takes of a side of the panel at the scale of a shape.  The ball of a slider takes
one more. -/
def taken (scale : Number) (slider : Bool) (size : Number) : Number :=
  if slider then size * scale + 1 else size * scale

/-- The cells that a size takes. -/
def cells (scale : Number) (slider : Bool) (size : Number) : Nat :=
  Shape.cellsAlong scale size + (if slider then 1 else 0)

/-- A size that is written as it is. -/
def SizeHolds (scale size : Number) : Prop :=
  size.Exact ∧ size.clamp 0.01 (Number.ofNat gridSize / scale) = size

instance (scale size : Number) : Decidable (SizeHolds scale size) :=
  inferInstanceAs (Decidable (size.Exact ∧ size.clamp 0.01 (Number.ofNat gridSize / scale) = size))

/-- **A size and a place that are written as they are,** and whose cells lie in the grid. -/
structure Holds (scale : Number) (slider : Bool) (size place : Number) : Prop where
  size_holds : SizeHolds scale size
  place_exact : place.Exact
  place_kept : place.clamp 0 (Shape.left (taken scale slider size)) = place
  inside : place.floorNat + cells scale slider size ≤ gridSize

lemma cells_pos (scale : Number) (slider : Bool) (size : Number) : 1 ≤ cells scale slider size := by
  have hone : 1 ≤ Shape.cellsAlong scale size := le_max_right _ _
  unfold cells
  omega

end Side

/-! ## Elements -/

namespace Element

/-- **Everything about an element but its geometry** can be told. -/
structure Regular (e : Element) : Prop where
  isElementId : isElementId e.id = true
  code : e.id.toList.head? = some e.shape.code
  flat : e.elevation ≠ .flat → e.elevationTarget = none
  target_ne : e.elevationTarget ≠ some .flat
  settled : e.change.settle e.target = e.target
  actions : ∀ a ∈ e.actions, a.Exact

/-- **An element lies inside the panel,** and two decimals hold its numbers. -/
structure Inside (e : Element) : Prop where
  across : Side.Holds e.shape.scale (e.shape = .switch) e.width e.x
  down : Side.Holds e.shape.scale false e.height e.y

/-- An element that its text tells exactly. -/
structure Exact (e : Element) : Prop where
  regular : e.Regular
  inside : e.Inside

lemma Inside.shown_eq {e : Element} (h : e.Inside) :
    e.shown = ⟨e.width, e.height, e.x, e.y⟩ := by
  have hwidth : e.shown.width = e.width := h.across.size_holds.2
  have hheight : e.shown.height = e.height := h.down.size_holds.2
  have hx : e.shown.x = e.x := by
    have hkept := h.across.place_kept
    rw [shown_x, hwidth, Shape.across]
    simpa only [Side.taken, decide_eq_true_eq] using hkept
  have hy : e.shown.y = e.y := by
    have hkept := h.down.place_kept
    rw [shown_y, hheight]
    exact hkept
  rw [← hwidth, ← hheight, ← hx, ← hy]

lemma Regular.legible {e : Element} (h : e.Regular) : e.Legible := by
  have hid := isWord_of_isElementId h.isElementId
  exact
    { id_ne := hid.1
      id_clean := hid.2
      shape := by rw [h.code, Option.bind_some, Shape.ofCode?_code, Option.getD_some]
      flat := h.flat
      target_ne := h.target_ne
      settled := h.settled
      actions := fun a ha => (h.actions a ha).legible }

lemma Exact.readable {e : Element} (h : e.Exact) : e.shown.Readable := by
  rw [h.inside.shown_eq]
  exact
    { width := h.inside.across.size_holds.1.readable
      height := h.inside.down.size_holds.1.readable
      x := h.inside.across.place_exact.readable
      y := h.inside.down.place_exact.readable }

/-- **An exact element is read back as it is.** -/
lemma Exact.reread_eq {e : Element} (h : e.Exact) : e.reread = e := by
  have hactions : e.actions.filterMap Action.reread? = e.actions := by
    rw [List.filterMap_congr fun a ha => (h.regular.actions a ha).reread, List.filterMap_some]
  simp only [reread, h.inside.shown_eq, hactions, h.inside.across.size_holds.1.reread_eq,
    h.inside.down.size_holds.1.reread_eq, h.inside.across.place_exact.reread_eq,
    h.inside.down.place_exact.reread_eq]

/-- An exact element leaves no warning. -/
lemma Regular.lost_eq_nil {e : Element} (h : e.Regular) : e.lost = [] := by
  have hactions : e.actions.flatMap Action.lost = [] := by
    refine List.flatMap_eq_nil_iff.mpr fun a ha => ?_
    rw [Action.lost, (h.actions a ha).reread]
  rw [lost, hactions, h.code, Option.bind_some, Shape.ofCode?_code]
  rfl

lemma footprint_fst (e : Element) :
    e.footprint.1 = Side.cells e.shape.scale (e.shape = .switch) e.width := by
  simp only [footprint, Shape.footprint, Side.cells, decide_eq_true_eq]

lemma footprint_snd (e : Element) : e.footprint.2 = Side.cells e.shape.scale false e.height := rfl

/-- An element inside the panel covers cells of the grid. -/
lemma Inside.footprint_le {e : Element} (h : e.Inside) :
    e.x.floorNat + e.footprint.1 ≤ gridSize ∧ e.y.floorNat + e.footprint.2 ≤ gridSize := by
  rw [footprint_fst, footprint_snd]
  exact ⟨h.across.inside, h.down.inside⟩

end Element

/-! ## Puzzles -/

/-- **A puzzle of exact elements** is read back from its text as it is. -/
theorem Puzzle.read_text_of_exact {p : Puzzle} (h : p.Legible)
    (helements : ∀ panel ∈ p.panels, ∀ e ∈ panel.elements, e.Exact) :
    read p.text = ⟨.ok p, []⟩ := by
  have hpanels : p.panels.map Panel.reread = p.panels := by
    have hpanel : ∀ panel ∈ p.panels, panel.reread = panel := by
      intro panel hpanel
      have hread := List.map_congr_left fun e he => (helements panel hpanel e he).reread_eq
      rw [Panel.reread, hread, List.map_id']
    rw [List.map_congr_left hpanel, List.map_id']
  have hlost : p.lost = [] :=
    List.flatMap_eq_nil_iff.mpr fun panel hpanel =>
      List.flatMap_eq_nil_iff.mpr fun e he => (helements panel hpanel e he).regular.lost_eq_nil
  rw [read_text h, hlost, reread, hpanels]

end PanelPuzzle
