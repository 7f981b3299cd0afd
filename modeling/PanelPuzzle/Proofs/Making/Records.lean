import PanelPuzzle.Proofs.Making.Laying
import PanelPuzzle.Proofs.Making.Wiring
import PanelPuzzle.Technique.Maze
/-!
# Records of what can be covered

The record of a coverable repeats something of the panel: where its element is, which cells this takes,
whether something controls it or changes its size.  It is written once, and whatever is done to the panel
later has to be done to the record too.

* `Coverable.TrueTo`, `Draft.Truthful` — **what is said of records.**
* `Draft.Records` — the invariant.  The flags of one coverable may be out of date meanwhile, and cells may
  be claimed for what is not recorded yet.
* `Draft.Records.truthful` — it gives what is said.
* `Element.Fills` — an element is placed so that its record gives the cells that were claimed for it.
-/

namespace PanelPuzzle

/-! ## What records say -/

namespace Element

/-- **An element controls another one:** it moves it by steps, or is a switch that lets the player drag
it. -/
def Controls (e : Element) (id : String) : Prop :=
  e.id ≠ id ∧ ((∃ dx dy, Action.moveStep id dx dy ∈ e.actions) ∨
    e.shape = .switch ∧ ∃ change target, Action.configure id .drag change target ∈ e.actions)

/-- An element changes the size of another one. -/
def Resizes (e : Element) (id : String) : Prop := e.id ≠ id ∧ Action.size id ∈ e.actions

end Element

namespace Draft

/-- **A rectangle is claimed for a maze:** it has the size of one with a row under it, and the ball with an
id lies in it. -/
structure IsMaze (d : Draft) (id : String) (r : Rect) : Prop where
  claimed : r ∈ d.grid.claims
  size : ∃ maze ∈ Technique.mazeSizes, r.w = maze.1 ∧ r.h = maze.2 + 1
  ball : ∃ e ∈ d.elements, e.id = id ∧ e.change = .move ∧ e.LiesIn r

end Draft

namespace Coverable

/-- A coverable is one cell of a maze. -/
structure InMaze (c : Coverable) (d : Draft) : Prop where
  cell : c.footprint.w = 1 ∧ c.footprint.h = 1
  maze : ∃ r, d.IsMaze c.id r ∧ ∀ x y, c.footprint.covers x y = true → r.covers x y = true

/-- **A record is true to the panel.** -/
structure TrueTo (c : Coverable) (d : Draft) : Prop where
  sourced : ∀ place ∈ c.source, ∃ e, d.elements[place]? = some e ∧ e.id = c.id ∧
    e.elevation = c.elevation ∧ c.footprint ∈ d.grid.claims
  virtual_iff : c.role = .virtualArea ↔ c.source = none
  virtual : c.source = none → c.InMaze d
  remote_iff : c.hasRemote = true ↔ ∃ e ∈ d.elements, e.Controls c.id
  size_iff : c.sizeObscured = true ↔ ∃ e ∈ d.elements, e.Resizes c.id

end Coverable

/-- **All records are true to the panel,** no element has two of them, and the cells of two elements do not
meet. -/
structure Draft.Truthful (d : Draft) : Prop where
  records : ∀ c ∈ d.coverables, c.TrueTo d
  sources : d.coverables.Pairwise fun c c' => c.source.isSome = true → c.source ≠ c'.source
  apart : d.coverables.Pairwise fun c c' =>
    c.source.isSome = true → c'.source.isSome = true → c.footprint.Apart c'.footprint

/-! ## What is kept -/

namespace Element

variable {e e' : Element} {id : String}

/-- **What is kept of an element** that may be covered; all of it, if the element is a ball. -/
structure Kept (e e' : Element) : Prop where
  id_eq : e'.id = e.id
  shape_eq : e'.shape = e.shape
  elevation_eq : e'.elevation = e.elevation
  actions_eq : e'.actions = e.actions
  moves : e'.change = .move → e.change = .move
  ball : e.change = .move → e' = e

lemma Kept.refl (e : Element) : e.Kept e := ⟨rfl, rfl, rfl, rfl, fun h => h, fun _ => rfl⟩

/-- An element that stays where it is high, and is no ball, is kept. -/
lemma Kept.of_stays (h : e.Stays e') (helevation : e'.elevation = e.elevation) (hmove : e.change ≠ .move) :
    e.Kept e' :=
  ⟨h.id_eq, h.shape_eq, helevation, h.actions_eq, fun hmove' => h.change_eq ▸ hmove',
    fun hmove' => absurd hmove' hmove⟩

lemma Kept.controls_iff (h : e.Kept e') : e'.Controls id ↔ e.Controls id := by
  rw [Controls, Controls, h.id_eq, h.shape_eq, h.actions_eq]

lemma Kept.resizes_iff (h : e.Kept e') : e'.Resizes id ↔ e.Resizes id := by
  rw [Resizes, Resizes, h.id_eq, h.actions_eq]

/-- An element that neither controls others nor changes their size. -/
def Quiet (e : Element) : Prop := ∀ id, ¬ (e.Controls id ∨ e.Resizes id)

/-- An element that has no part in a remote mechanism is quiet. -/
lemma Inert.quiet (h : e.Inert) : e.Quiet := by
  rintro id (⟨hid, ⟨dx, dy, hmoves⟩ | ⟨-, change, target, hconfigures⟩⟩ | ⟨-, hsizes⟩)
  · exact h _ hmoves
  · exact hid (h _ hconfigures).symm
  · exact h _ hsizes

lemma quiet_of_actions_eq_nil (h : e.actions = []) : e.Quiet := (inert_of_actions_eq_nil h).quiet

/-- So is an element that lets itself be dragged. -/
lemma quiet_of_release (h : e.actions = [.release e.id]) : e.Quiet :=
  (inert_of_actions_eq_singleton h rfl).quiet

/-- So is a button that brings an element back to the start. -/
lemma quiet_of_reset (h : e.actions = [.reset id]) : e.Quiet := by
  rintro other (⟨-, ⟨dx, dy, hmoves⟩ | ⟨-, change, target, hconfigures⟩⟩ | ⟨-, hsizes⟩)
  · cases List.mem_singleton.mp (h ▸ hmoves)
  · cases List.mem_singleton.mp (h ▸ hconfigures)
  · cases List.mem_singleton.mp (h ▸ hsizes)

/-- A button that changes a size controls nothing. -/
lemma not_controls_of_size {other : String} (h : e.actions = [.size id]) : ¬ e.Controls other := by
  rintro ⟨-, ⟨dx, dy, hmoves⟩ | ⟨-, change, target, hconfigures⟩⟩
  · cases List.mem_singleton.mp (h ▸ hmoves)
  · cases List.mem_singleton.mp (h ▸ hconfigures)

end Element

namespace Draft

variable {d d' : Draft}

/-- A draft keeps what can be covered of an earlier one. -/
structure Keeps (d d' : Draft) : Prop where
  elements : ∀ (place : Nat) (e : Element), d.elements[place]? = some e →
    ∃ e', d'.elements[place]? = some e' ∧ e.Kept e'
  claims : d.grid.claims ⊆ d'.grid.claims

/-- The cells of the elements that can be covered. -/
def footprints (d : Draft) : List Rect :=
  (d.coverables.filter (·.source.isSome)).map (·.footprint)

end Draft

namespace Coverable

variable {c : Coverable} {d d' : Draft}

/-- What is known of a coverable but for its flags. -/
structure Placed (c : Coverable) (d : Draft) : Prop where
  sourced : ∀ place ∈ c.source, ∃ e, d.elements[place]? = some e ∧ e.id = c.id ∧
    e.elevation = c.elevation ∧ e.change ≠ .move
  virtual_iff : c.role = .virtualArea ↔ c.source = none
  virtual : c.source = none → c.InMaze d

/-- The flags of a coverable are up to date among some elements. -/
structure Flagged (c : Coverable) (es : List Element) : Prop where
  remote_iff : c.hasRemote = true ↔ ∃ e ∈ es, e.Controls c.id
  size_iff : c.sizeObscured = true ↔ ∃ e ∈ es, e.Resizes c.id

lemma Placed.keep (h : c.Placed d) (hkeeps : d.Keeps d') : c.Placed d' where
  sourced place hplace := by
    obtain ⟨e, he, hid, helevation, hmove⟩ := h.sourced place hplace
    obtain ⟨e', he', hkept⟩ := hkeeps.elements place e he
    exact ⟨e', he', hkept.id_eq.trans hid, hkept.elevation_eq.trans helevation, mt hkept.moves hmove⟩
  virtual_iff := h.virtual_iff
  virtual hsource := by
    obtain ⟨hcell, r, ⟨hclaimed, hsize, e, he, hid, hmove, hlies⟩, hinside⟩ := h.virtual hsource
    obtain ⟨place, hplace⟩ := List.mem_iff_getElem?.mp he
    obtain ⟨e', he', hkept⟩ := hkeeps.elements place e hplace
    obtain rfl := hkept.ball hmove
    exact ⟨hcell, r, ⟨hkeeps.claims hclaimed, hsize, e', List.mem_of_getElem? he', hid, hmove, hlies⟩,
      hinside⟩

end Coverable

namespace Draft

variable {d d' : Draft} {room : List Rect} {but : Option String}

/-- **What is kept of the records of a draft.**  The rectangles in `room` are claimed for what is not
recorded yet; the flags of the coverable whose id is in `but` may be out of date. -/
structure Records (room : List Rect) (but : Option String) (d : Draft) : Prop where
  tiled : d.grid.Tiled
  /-- What is controlled or resized is on the panel. -/
  reaches : ∀ e ∈ d.elements, ∀ id, e.Controls id ∨ e.Resizes id → id ∈ d.elements.map (·.id)
  nodup : (d.coverables.map (·.id)).Nodup
  placed : ∀ c ∈ d.coverables, c.Placed d
  flagged : ∀ c ∈ d.coverables, c.id ∉ but → c.Flagged d.elements
  /-- Each element that can be covered has a claim of its own. -/
  own : (room ++ d.footprints).Subperm d.grid.claims

/-- **The invariant gives what is said of records.** -/
lemma Records.truthful (h : d.Records room none) : d.Truthful := by
  have hown := (List.sublist_append_right room _).subperm.trans h.own
  have hsourced : ∀ c ∈ d.coverables, c.source.isSome = true → c.footprint ∈ d.footprints :=
    fun c hc hsome => List.mem_map_of_mem (List.mem_filter.mpr ⟨hc, hsome⟩)
  refine ⟨fun c hc => ?_, ?_, ?_⟩
  · obtain ⟨hplaces, hvirtual, hmaze⟩ := h.placed c hc
    obtain ⟨hremote, hsize⟩ := h.flagged c hc (Option.not_mem_none _)
    refine ⟨fun place hplace => ?_, hvirtual, hmaze, hremote, hsize⟩
    obtain ⟨e, he, hid, helevation, -⟩ := hplaces place hplace
    exact ⟨e, he, hid, helevation, hown.subset (hsourced c hc (Option.isSome_of_mem hplace))⟩
  · refine (List.pairwise_map.mp h.nodup).imp_of_mem fun {c c'} hc hc' hne hsome hsame => ?_
    obtain ⟨place, hplace⟩ := Option.isSome_iff_exists.mp hsome
    obtain ⟨e, he, hid, -⟩ := (h.placed c hc).sourced place hplace
    obtain ⟨e', he', hid', -⟩ := (h.placed c' hc').sourced place (hsame ▸ hplace)
    obtain rfl := Option.some.inj (he.symm.trans he')
    exact hne (hid.symm.trans hid')
  · obtain ⟨claims, hperm, hsub⟩ := hown
    have hapart := hperm.pairwise (h.tiled.apart.sublist hsub) fun hrs => hrs.symm
    exact List.pairwise_filter.mp (List.pairwise_map.mp hapart)

/-- Of one coverable the flags need not be up to date. -/
lemma Records.spare (h : d.Records room none) (but : Option String) : d.Records room but :=
  { h with flagged := fun c hc _ => h.flagged c hc (Option.not_mem_none _) }

end Draft

/-! ## Cells -/

namespace Side

lemma floorNat_ends : ∀ start < 9, (Number.ofNat start + .finite 0).roundTwo.floorNat = start ∧
    (Number.ofNat start + .finite (3 / 4)).roundTwo.floorNat = start := by
  decide +kernel

/-- **A place in a cell is counted as the cell,** if it is not at the very end of it. -/
lemma floorNat_place {start : Nat} (hstart : start ≤ gridSize) {q : Rat} (hzero : 0 ≤ q) (hle : q ≤ 3 / 4) :
    (Number.ofNat start + .finite q).roundTwo.floorNat = start := by
  obtain ⟨hfirst, hlast⟩ := floorNat_ends start (Nat.lt_succ_of_le hstart)
  obtain ⟨p₀, p, hp₀, hp, -, hlow, -⟩ := roundTwo_mono (s := q) hstart hstart le_rfl
    (hle.trans (by norm_num)) (add_le_add_right hzero _)
  obtain ⟨p', p₁, hp', hp₁, -, hhigh, -⟩ := roundTwo_mono hstart hstart hzero
    (by norm_num : (3 / 4 : Rat) ≤ 8) (add_le_add_right hle _)
  obtain rfl : p = p' := Number.finite.inj (hp.symm.trans hp')
  rw [hp₀] at hfirst
  rw [hp₁] at hlast
  rw [hp]
  exact le_antisymm (hlast ▸ Number.floorNat_mono hhigh) (hfirst.symm.trans_le (Number.floorNat_mono hlow))

/-- The fewest cells that a size needs have little room beside it. -/
lemma margin_cells : ∀ kind ∈ kinds, ∀ size ∈ sizes,
    ∃ q ∈ (margin kind.1 kind.2 size (cells kind.1 kind.2 size)).toRat?, q ≤ 3 / 4 := by
  decide +kernel

/-- **The middle of the fewest cells** that a size needs starts in the first of them. -/
lemma floorNat_middle {kind : Number × Bool} (hkind : kind ∈ kinds) {size : Number} (hsize : size ∈ sizes)
    {n : Nat} (hn : n = cells kind.1 kind.2 size) {start : Nat} (hstart : start ≤ gridSize) :
    (Number.ofNat start + margin kind.1 kind.2 size n).roundTwo.floorNat = start := by
  obtain ⟨q, hq, hzero, -⟩ := (fits_cells kind hkind size hsize).2.2.offset.exists_finite
  obtain ⟨q', hq', hle⟩ := margin_cells kind hkind size hsize
  rw [hn, hq] at *
  obtain rfl := Option.some.inj hq'
  exact floorNat_place hstart hzero hle

end Side

namespace Element

variable {e e' : Element} {r : Rect}

/-- **An element fills a rectangle,** as far as a record tells. -/
structure Fills (e : Element) (r : Rect) : Prop where
  x_eq : e.x.floorNat = r.x
  y_eq : e.y.floorNat = r.y
  footprint_eq : e.footprint = (r.w, r.h)

lemma Fills.footprint_coverableOf (h : e.Fills r) (place : Nat) (role : CoverRole) :
    (Draft.coverableOf e place role).footprint = r := by
  rw [Draft.coverableOf, h.x_eq, h.y_eq, h.footprint_eq]

/-- Only the shape and the numbers of an element matter. -/
lemma Fills.alike (h : e.Fills r) (hshape : e'.shape = e.shape) (hwidth : e'.width = e.width)
    (hheight : e'.height = e.height) (hx : e'.x = e.x) (hy : e'.y = e.y) : e'.Fills r := by
  refine ⟨hx ▸ h.x_eq, hy ▸ h.y_eq, ?_⟩
  rw [footprint, hshape, hwidth, hheight]
  exact h.footprint_eq

/-- **An element in the middle of the cells that it covers** fills them. -/
lemma fills_centered (hr : r.inBounds = true) (hwidth : e.width ∈ Side.sizes)
    (hheight : e.height ∈ Side.sizes) (hw : r.w = e.footprint.1) (hh : r.h = e.footprint.2) :
    (e.centered r).Fills r := by
  obtain ⟨hx, hy⟩ := Rect.inBounds_iff.mp hr
  obtain ⟨hslider, hplain⟩ := Side.mem_kinds e.shape
  rw [footprint_fst] at hw
  rw [footprint_snd] at hh
  rw [centered_eq r hwidth]
  refine ⟨Side.floorNat_middle hslider hwidth hw (Nat.le_of_add_right_le hx),
    Side.floorNat_middle hplain hheight hh (Nat.le_of_add_right_le hy), Prod.ext ?_ ?_⟩
  · exact (footprint_fst _).trans hw.symm
  · exact (footprint_snd _).trans hh.symm

/-- So does an element in their corner. -/
lemma fills_cornered (hr : r.inBounds = true) (hfootprint : e.footprint = (r.w, r.h)) :
    (e.cornered r).Fills r := by
  obtain ⟨hx, hy⟩ := Rect.inBounds_iff.mp hr
  have hcorner : ∀ {n}, n ≤ gridSize → (Number.ofNat n).roundTwo.floorNat = n := fun hn => by
    rw [← Number.ofNat_add_zero hn, Number.zero_eq]
    exact Side.floorNat_place hn le_rfl (by norm_num)
  exact ⟨hcorner (Nat.le_of_add_right_le hx), hcorner (Nat.le_of_add_right_le hy), hfootprint⟩

end Element

end PanelPuzzle
