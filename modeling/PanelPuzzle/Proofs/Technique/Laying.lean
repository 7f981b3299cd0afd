import PanelPuzzle.Proofs.Making.Laying
import PanelPuzzle.Proofs.Technique.Exact
import PanelPuzzle.Proofs.Technique.Turns
/-!
# Techniques put elements on cells of their own

Each technique claims cells and puts its elements on them in its own way: in the middle, in a corner, at
an offset, or one in each cell of a block.  One lemma for each step of a technique, in the order of the
modules that define them; `Keeping.technique` is about all of them.

A size sits in its cells at a certain offset.  These are finitely many, and they are computed.
-/

namespace PanelPuzzle

namespace Making.Keeping

open Desk Technique

variable {d₀ : Draft} {r : Rect}

/-! ## Controls -/

lemma addControllers (targetId : String) : Keeping (Laid d₀) (Remote.addControllers targetId) :=
  fun _ hd => .last (.addControllers (.pure hd) fun _ _ color _ hclaims hw hh =>
    .pure (hd.control hclaims hw hh color targetId))

lemma addButton (action : Action) : Keeping (Laid d₀) (Remote.addButton action) :=
  fun _ hd => .last (.addButton (fun _ => .pure hd) fun _ _ _ hclaims _ _ hsits =>
    .pure ((hd.on hclaims).add hsits).toLaid)

/-! ## Holes and screws -/

lemma placeHole : Keeping (Laid d₀) Technique.placeHole := by
  refine fun d hd => .skip (.choose _) fun chosen hchosen => ?_
  rcases chosen with _ | ⟨shape, width, height⟩
  · exact .pure hd
  obtain ⟨hwidth, hheight⟩ := KeepsExact.sizes_holeKinds _ (hchosen _ rfl)
  refine .allocate (fun _ => .pure hd) fun r grid hclaims hw hh => ?_
  have hon := hd.on hclaims
  have hsits := Element.sits_centered (e := (d.withGrid grid).fresh shape width height) hon.inBounds hwidth
    hheight hw hh
  refine .skip .randomColor fun color _ => .newSocket (.skip (.note _) fun _ _ => .pushCoverable ?_)
  refine .bind (depositPlug shape color hwidth hheight _ (hon.addCovered ?_ _)) fun _ _ hd' => .pure hd'
  exact hsits.alike rfl rfl rfl rfl rfl

lemma hole : Keeping (Laid d₀) Technique.hole :=
  .bind (.still (.drawn _)) fun count => repeatPlacing (fun _ => placeHole) count true

/-- A screw takes a little more than its four cells, and its hole is in the middle of them. -/
lemma sits_screw : Side.Sits (.finite (5 / 4)) false screwSize 2 0 ∧
    Side.Sits (.finite 1) false screwHoleSize 2 ((Number.ofNat 2 - screwHoleSize) / 2) := by
  decide +kernel

/-- A hole stays where it is. -/
lemma laid_fillHole {d : Desk} (hd : LaidOn d₀ r d) (hole : Element) (color : UInt8) :
    Works d (Technique.fillHole hole color) fun filled d' =>
      LaidOn d₀ r d' ∧ ∃ c, filled = { hole with comparison := c } := by
  refine .readSession fun s _ => .skip (.sessionDrawn _) fun strict _ => ?_
  refine .bind (on (fun _ => depositPlug .circle color KeepsExact.screwHoleSize_mem
    KeepsExact.screwHoleSize_mem) d hd) fun _ d' hd' => ?_
  refine .modifyDraft (.pure ⟨⟨?_, hd'.gained⟩, _, rfl⟩)
  exact hd'.congr rfl rfl rfl fun _ hp => hp

/-- **A screw and its hole** sit in the same cells. -/
lemma placeScrew (first : Bool) : Keeping (Laid d₀) (Technique.placeScrew first) := by
  refine fun d hd => .allocate (fun _ => .pure hd) fun r grid hclaims hw hh => ?_
  rw [KeepsExact.fits_screw.1] at hw hh
  have hon := hd.on hclaims
  obtain ⟨hx, hy⟩ := Rect.inBounds_iff.mp hon.inBounds
  refine .skip .randomColor fun color _ => .newElement ?_
  have hmiddle := Element.sits_moveTo
    (e := (d.withGrid grid).fresh .circle screwHoleSize screwHoleSize) sits_screw.2 sits_screw.2
    (hw ▸ hx) (hh ▸ hy)
  have hhole := hmiddle.mono (Rect.extent_within (s := r) le_rfl (by rw [hw]) le_rfl (by rw [hh]))
  rw [hw]
  refine .readSession fun s _ => ?_
  extract_lets screwed settled
  have hscrewed : ∀ hole d₁, LaidOn d₀ r d₁ → hole.Sits r →
      Works d₁ (screwed hole) fun _ d' => Laid d₀ d' := by
    intro hole d₁ hd₁ hhole
    refine .push (.newElement (.skip .randomColor fun screwColor _ => ?_))
    refine .skip (.drawn _) fun rotation _ => .skip (.drawn _) fun turns _ => ?_
    refine .skip (.note _) fun _ _ => .pushCoverable (.pure ?_)
    refine (hd₁.push hhole).addCovered ?_ _
    have hcorner := Element.sits_cornered (e := (d₁.push hole).fresh .screw screwSize screwSize)
      hon.inBounds (hw ▸ sits_screw.1) (hh ▸ sits_screw.1)
    exact hcorner.alike rfl rfl rfl rfl rfl
  clear_value screwed
  have hsettled : ∀ waits, Works (d.withGrid grid).tick (settled waits) fun _ d' => Laid d₀ d' := by
    intro waits
    unfold settled
    split
    · refine .bind (laid_fillHole ⟨hon.tick, hon.gained⟩ _ color) fun filled d₁ hfilled => ?_
      obtain ⟨hd₁, c, rfl⟩ := hfilled
      exact hscrewed _ _ hd₁ (hhole.alike rfl rfl rfl rfl rfl)
    · exact .answer (hscrewed _ _ ⟨hon.tick, hon.gained⟩ (hhole.alike rfl rfl rfl rfl rfl))
  split
  · exact hsettled true
  · exact .skip (.sessionDrawn _) fun waits _ => hsettled waits

lemma screw : Keeping (Laid d₀) Technique.screw :=
  .bind (.still (.drawn _)) fun count => repeatPlacing placeScrew count true

/-! ## Round sockets and tumblers -/

lemma depositHalves (color : Option UInt8) : ∀ {halves : List (Shape × Number × Number)},
    (∀ half ∈ halves, half.2.1 ∈ Side.sizes ∧ half.2.2 ∈ Side.sizes) →
      Keeping (Laid d₀) (Technique.depositHalves color halves)
  | [], _ => .pure _
  | (shape, width, height) :: others, hsizes => by
    obtain ⟨⟨hwidth, hheight⟩, hothers⟩ := List.forall_mem_cons.mp hsizes
    have rest : ∀ chosen, Keeping (Laid d₀) (do
        Making.depositPlug shape width height chosen
        Technique.depositHalves color others) := fun chosen =>
      .bind (depositPlug shape chosen hwidth hheight) fun _ => depositHalves color hothers
    cases color with
    | none => exact .bind (.still .randomColor) rest
    | some color => exact .bind (.pure color) rest

lemma semicircle : Keeping (Laid d₀) Technique.semicircle := by
  refine fun d hd => .skip (.choose _) fun chosen hchosen => ?_
  have hsize : chosen.getD 1.5 ∈ semicircleSizes := by
    cases chosen with
    | none => exact List.mem_cons_self
    | some size => exact hchosen size rfl
  obtain ⟨hwhole, hhalf⟩ := KeepsExact.sizes_semicircle _ hsize
  generalize chosen.getD 1.5 = size at *
  refine .allocate (fun _ => .skip (.note _) fun _ _ => .pure hd) fun r grid hclaims hw hh => ?_
  have hon := hd.on hclaims
  have hsits := Element.sits_centered (e := (d.withGrid grid).fresh .circle size size) hon.inBounds hwhole
    hwhole hw hh
  refine .skip .randomColor fun color _ => .skip (.sessionDrawn _) fun strict _ => .newSocket ?_
  refine .skip (.note _) fun _ _ => .pushCoverable (.skip (.sessionDrawn _) fun sideways _ => ?_)
  refine .bind (depositHalves _ ?_ _ (hon.addCovered ?_ _)) fun _ _ hd' => .pure hd'
  · cases sideways <;> simp [hwhole, hhalf]
  · exact hsits.alike rfl rfl rfl rfl rfl

lemma tumbler : Keeping (Laid d₀) Technique.tumbler := by
  have hmem := KeepsExact.tumblerSize_mem
  refine fun d hd => .allocate (fun _ => .skip (.note _) fun _ _ => .pure hd) fun r grid hclaims hw hh => ?_
  have hon := hd.on hclaims
  have hsits := Element.sits_centered (e := (d.withGrid grid).fresh .tumbler tumblerSize tumblerSize)
    hon.inBounds hmem hmem hw hh
  refine .skip .randomColor fun color _ => .newSocket (.skip (.note _) fun _ _ => .pushCoverable ?_)
  refine .bind (depositPlug .key color hmem hmem _ (hon.addCovered ?_ _)) fun _ _ hd' => .pure hd'
  exact hsits.alike rfl rfl rfl rfl rfl

/-! ## Switches -/

/-- The ball of a slider takes a cell more. -/
lemma sits_slider : Side.Sits (.finite 1) true 1 2 0 ∧ Side.Sits (.finite 1) false 1 1 0 := by
  decide +kernel

/-- **A new switch** sits in the corner of its cells. -/
lemma sits_newSwitch {d : Desk} (hr : r.inBounds = true) (hw : r.w = (Shape.switch.footprint 1 1).1)
    (hh : r.h = (Shape.switch.footprint 1 1).2) (target : Nat) (color : Color) :
    Element.Sits (({ (d.fresh .switch 1 1).cornered r with color }).interact .tap .state
      (Int32.ofNat target)) r := by
  rw [KeepsExact.fits_switch.1] at hw hh
  have hcorner := Element.sits_cornered (e := d.fresh .switch 1 1) hr (hw ▸ sits_slider.1)
    (hh ▸ sits_slider.2)
  exact hcorner.alike rfl rfl rfl rfl rfl

lemma placeSwitch (first : Bool) : Keeping (Laid d₀) (Technique.placeSwitch first) := by
  refine fun d hd => .allocate (fun _ => .pure hd) fun r grid hclaims hw hh => ?_
  have hon := hd.on hclaims
  refine .skip (.drawn _) fun target _ => .newSwitch fun color => .skip (.note _) fun _ _ => ?_
  exact .pushCoverable (.pure (hon.addCovered (sits_newSwitch hon.inBounds hw hh target color) _))

lemma switch : Keeping (Laid d₀) Technique.switch :=
  .bind (.still (.drawn _)) fun count => repeatPlacing placeSwitch count true

/-- **A linked switch** and its button have cells each. -/
lemma placeLinked (pattern : TargetPattern) (target : Nat) :
    Keeping (Laid d₀) (Technique.placeLinked pattern target) := by
  refine fun d hd => .allocate (fun _ => .pure hd) fun r grid hclaims hw hh => .newSwitch fun color => ?_
  have hon := hd.on hclaims
  have hsits := sits_newSwitch (d := d.withGrid grid) hon.inBounds hw hh target color
  extract_lets plain answered
  have hanswered : ∀ u, Keeping (Laid d₀) (answered u) := fun _ => .pure _
  clear_value answered
  split
  · refine .skip .randomColor fun ball _ => .push ?_
    refine .bind (addButton (.cycle plain.id) _ ((hon.add ?_).toLaid)) fun button d₁ hd₁ => ?_
    · exact hsits.alike rfl rfl rfl rfl rfl
    have hcovered : Keeping (Laid d₀) (Making.cover d.elements.length .switch >>= answered) :=
      .bind (cover hd.length_le _) hanswered
    split
    · refine .bind (modifyMethod _ (·.interact .none .state (Int32.ofNat target)) (fun _ => rfl)
        (fun e r h => ?_) d₁ hd₁) fun _ d₂ => hcovered d₂
      exact h.alike rfl rfl rfl rfl rfl
    · exact hcovered d₁ hd₁
  · exact .pushCoverable (hanswered _ _ (hon.addCovered hsits _))

lemma placeAllLinked (pattern : TargetPattern) :
    ∀ targets, Keeping (Laid d₀) (Technique.placeAllLinked pattern targets)
  | [] => .pure _
  | target :: targets => by
    refine .bind (placeLinked pattern target) fun placed => ?_
    cases placed with
    | none => exact .pure _
    | some id => exact .bind (placeAllLinked pattern targets) fun _ => .pure _

lemma placeMaster (linked : List String) : Keeping (Laid d₀) (Technique.placeMaster linked) := by
  refine fun d hd => .allocate (fun _ => .last (.skip (.note _) fun _ _ => .pure hd))
    fun r grid hclaims hw hh => .newSwitch fun color => .last (.pushCoverable (.pure ?_))
  have hon := hd.on hclaims
  refine hon.addCovered ?_ _
  exact (sits_newSwitch (d := d.withGrid grid) hon.inBounds hw hh 1 color).alike rfl rfl rfl rfl rfl

lemma switchPattern : Keeping (Laid d₀) Technique.switchPattern := by
  refine .bind (.still (.drawn _)) fun number => .bind (.still (.drawn _)) fun count => ?_
  refine .bind (.still (.drawn _)) fun targets => .bind (.still (.note _)) fun _ => ?_
  refine .bind (placeAllLinked _ targets) fun linked => ?_
  split
  · exact .pure _
  · exact .bind (placeMaster linked) fun _ => .pure _

/-! ## Mazes -/

lemma laid_allocateMaze : ∀ (sizes : List (Nat × Nat)) {d : Desk}, Laid d₀ d →
    Works d (Technique.allocateMaze sizes) fun found d' => Laid d₀ d' ∧ ∀ maze ∈ found,
      (maze.1, maze.2.1) ∈ sizes ∧ LaidOn d₀ maze.2.2 d' ∧ maze.2.2.w = maze.1 ∧
        maze.2.2.h = maze.2.1 + 1
  | [], _, hd => .pure ⟨hd, fun maze hmaze => absurd hmaze (Option.not_mem_none maze)⟩
  | (width, height) :: others, d, hd => by
    refine .allocateCells (fun _ => ?_) fun r grid hclaims hw hh => .pure ⟨hd.claim hclaims, ?_⟩
    · refine (laid_allocateMaze others hd).weaken fun found d' h => ⟨h.1, fun maze hmaze => ?_⟩
      obtain ⟨hmem, hrest⟩ := h.2 maze hmaze
      exact ⟨List.mem_cons_of_mem _ hmem, hrest⟩
    · intro maze hmaze
      obtain rfl := Option.mem_some_iff.mp hmaze
      exact ⟨List.mem_cons_self, hd.on hclaims, hw, hh⟩

/-- **The walls of a maze** sit in its rectangle. -/
lemma pushWalls (color : UInt8) : ∀ {runs : List MazeLayout.WallRun},
    (∀ run ∈ runs, 1 ≤ run.length ∧ run.x + run.length ≤ r.w ∧ run.y < r.h) →
      Keeping (LaidOn d₀ r) (Technique.pushWalls r color runs)
  | [], _ => .pure _
  | run :: others, hruns => by
    obtain ⟨⟨hpos, hx, hy⟩, hothers⟩ := List.forall_mem_cons.mp hruns
    refine fun d hd => .newElement (.push (pushWalls color hothers _ (hd.add ?_)))
    obtain ⟨hright, hbottom⟩ := Rect.inBounds_iff.mp hd.inBounds
    have hcells : Rect.Proper ⟨r.x + run.x, r.y + run.y, run.length, 1⟩ :=
      ⟨Rect.inBounds_iff.mpr ⟨by dsimp only; omega, by dsimp only; omega⟩, hpos, le_rfl⟩
    refine (Element.IsTile.sits ⟨rfl, rfl, rfl, rfl, rfl⟩ hcells).mono ?_
    exact Rect.extent_within (Nat.le_add_right _ _) (by dsimp only; omega) (Nat.le_add_right _ _)
      (by dsimp only; omega)

/-- **The ball and its socket** sit on cells of the maze. -/
lemma sits_ball {e : Element} {c : Cell} (hr : r.inBounds = true) (hc : c.1 < r.w ∧ c.2 < r.h)
    (hshape : e.shape = .circle) (hwidth : e.width = ballSize) (hheight : e.height = ballSize)
    (hx : e.x = (Number.ofNat (r.x + c.1) + ballOffset).roundTwo)
    (hy : e.y = (Number.ofNat (r.y + c.2) + ballOffset).roundTwo) : e.Sits r := by
  refine Element.sits_onCell c.1 c.2 (by decide +kernel) hr hc.1 hc.2 ?_ hwidth hheight hx hy
  rw [hshape]
  exact ⟨rfl, Shape.noConfusion⟩

/-- **A maze** and its row of free cells. -/
lemma maze : Keeping (Laid d₀) Technique.maze := by
  refine fun d hd => .skip (.drawn _) fun first _ => ?_
  refine .bind (laid_allocateMaze _ hd) fun found d₁ hfound => ?_
  rcases found with _ | ⟨width, height, r⟩
  · exact .skip (.note _) fun _ _ => .pure hfound.1
  obtain ⟨hsize, hon, hw, hh⟩ := hfound.2 _ rfl
  obtain ⟨hwidth, hheight⟩ := KeepsExact.mazeSizes_pos _ (List.mem_of_mem_drop hsize)
  dsimp only at hon hw hh hwidth hheight
  refine .skip (.session (keeps_carveMaze hwidth hheight)) fun layout hm => .skip (.note _) fun _ _ => ?_
  refine .skip (.noteRows _) fun _ _ => .skip .randomColor fun wallColor _ => ?_
  refine .bind (pushWalls wallColor ?_ d₁ hon) fun _ d₂ hd₂ => .skip .randomColor fun color _ => ?_
  · intro run hrun
    obtain ⟨hpos, hx, hy⟩ := MazeLayout.mem_wallRuns hrun
    rw [hm.width_eq] at hx
    rw [hm.height_eq] at hy
    omega
  refine .newElement (.push (.newElement (.push ?_)))
  have hexit : layout.exit.1 < r.w ∧ layout.exit.2 < r.h :=
    ⟨hw ▸ hm.exit.1, hh ▸ Nat.lt_succ_of_lt hm.exit.2⟩
  have hentrance : layout.entrance.1 < r.w ∧ layout.entrance.2 < r.h :=
    ⟨hw ▸ hm.entrance.1, hh ▸ Nat.lt_succ_of_lt hm.entrance.2⟩
  have hr := hon.inBounds
  have hballs : ∀ {exit ball : Element}, exit.Sits r → ball.Sits r →
      Laid d₀ ((d₂.tick.push exit).tick.push ball) := fun h h' => ((hd₂.add h).add h').toLaid
  refine .skip (.choose _) fun corridor hcorridor => ?_
  cases corridor with
  | none =>
    exact .pure (hballs (sits_ball hr hexit rfl rfl rfl rfl rfl)
      (sits_ball hr hentrance rfl rfl rfl rfl rfl))
  | some c =>
    refine .modifyDraft (.pure (Laid.addCoverable (hballs (sits_ball hr hexit rfl rfl rfl rfl rfl)
      (sits_ball hr hentrance rfl rfl rfl rfl rfl)) ⟨?_, le_rfl, le_rfl⟩))
    obtain ⟨hx, hy⟩ := MazeLayout.mem_corridors (hcorridor c rfl)
    obtain ⟨hright, hbottom⟩ := Rect.inBounds_iff.mp hr
    rw [hm.width_eq] at hx
    rw [hm.height_eq] at hy
    exact Rect.inBounds_iff.mpr ⟨by dsimp only; omega, by dsimp only; omega⟩

/-! ## Groups -/

/-- A plug that fits the tiles of a model. -/
structure Fitting (model e : Element) : Prop where
  shape_eq : e.shape = model.shape
  width_eq : e.width = model.width
  height_eq : e.height = model.height

/-- **A tile** sits in the cells of its place. -/
lemma sits_place {model e : Element} (hr : r.inBounds = true) (hwidth : model.width ∈ Side.sizes)
    (hheight : model.height ∈ Side.sizes) {rows columns : Nat} (hw : r.w = columns * model.footprint.1)
    (hh : r.h = rows * model.footprint.2) {row column : Nat} (hrow : row < rows)
    (hcolumn : column < columns) (he : Fitting model e) :
    (e.centered ⟨r.x + column * model.footprint.1, r.y + row * model.footprint.2, model.footprint.1,
      model.footprint.2⟩).Sits ⟨r.x + column * model.footprint.1, r.y + row * model.footprint.2,
        model.footprint.1, model.footprint.2⟩ := by
  have hfootprint : e.footprint = model.footprint := by
    rw [Element.footprint, he.shape_eq, he.width_eq, he.height_eq, Element.footprint]
  exact Element.sits_centered (KeepsExact.inBounds_tile hr hw hh hrow hcolumn) (he.width_eq ▸ hwidth)
    (he.height_eq ▸ hheight) (by rw [hfootprint]) (by rw [hfootprint])

/-- So it sits in the block. -/
lemma sits_tile {model e : Element} (hr : r.inBounds = true) (hwidth : model.width ∈ Side.sizes)
    (hheight : model.height ∈ Side.sizes) {rows columns : Nat} (hw : r.w = columns * model.footprint.1)
    (hh : r.h = rows * model.footprint.2) {row column : Nat} (hrow : row < rows)
    (hcolumn : column < columns) (he : Fitting model e) :
    (e.centered ⟨r.x + column * model.footprint.1, r.y + row * model.footprint.2, model.footprint.1,
      model.footprint.2⟩).Sits r := by
  have hacross := Nat.mul_le_mul_right model.footprint.1 hcolumn
  have hdown := Nat.mul_le_mul_right model.footprint.2 hrow
  rw [Nat.succ_mul] at hacross hdown
  exact (sits_place hr hwidth hheight hw hh hrow hcolumn he).mono (Rect.extent_within
    (Nat.le_add_right _ _) (by dsimp only; omega) (Nat.le_add_right _ _) (by dsimp only; omega))

/-- **The tiles of a group** sit in its block. -/
lemma placeTiles (panel : Nat) {model : Element} (hwidth : model.width ∈ Side.sizes)
    (hheight : model.height ∈ Side.sizes) {rows columns : Nat} (hw : r.w = columns * model.footprint.1)
    (hh : r.h = rows * model.footprint.2) {keys : List ((Nat × Nat) × Plug)}
    (hkeys : ∀ key ∈ keys, Fitting model key.2.element) : ∀ {cells : List (Nat × Nat)},
      (∀ c ∈ cells, c.1 < rows ∧ c.2 < columns) →
      Keeping (LaidOn d₀ r) (Technique.placeTiles panel model r model.footprint keys cells)
  | [], _ => .pure _
  | (row, column) :: cells, hcells => by
    obtain ⟨⟨hrow, hcolumn⟩, hothers⟩ := List.forall_mem_cons.mp hcells
    have hrest := placeTiles panel hwidth hheight hw hh hkeys hothers
    unfold Technique.placeTiles
    cases hkey : keys.lookup (row, column) with
    | some plug =>
      obtain ⟨before, after, heq, -⟩ := List.lookup_eq_some_iff.mp hkey
      have hfitting : Fitting model plug.element := hkeys ((row, column), plug) (by simp [heq])
      refine .bind (on fun _ => recordPlacement plug panel) fun _ d hd => .push (hrest _ (hd.push ?_))
      exact sits_tile hd.inBounds hwidth hheight hw hh hrow hcolumn
        ⟨hfitting.shape_eq, hfitting.width_eq, hfitting.height_eq⟩
    | none =>
      refine fun d hd => .newElement (.push (hrest _ (hd.add ?_)))
      exact sits_tile hd.inBounds hwidth hheight hw hh hrow hcolumn ⟨rfl, rfl, rfl⟩

/-- **A group** has a block of cells.  Without it the plug goes back. -/
lemma group : Keeping (Laid d₀) Technique.group := by
  refine fun d hd => .draft (.readSession fun s _ => .withdrawWhere (fun _ => ?_)
    fun plug rest hpool _ _ => ?_)
  · exact .skip (.note _) fun _ _ => .pure hd
  obtain ⟨hwidth, hheight⟩ := hd.orderly.sized plug (hpool ▸ Multiset.mem_cons_self plug rest)
  have hrest : Laid d₀ (d.withPool rest) :=
    hd.congr rfl rfl rfl fun p hp => hpool ▸ Multiset.mem_cons_of_mem hp
  refine .skip (.drawn _) fun rows _ => .skip (.drawn _) fun columns _ => ?_
  refine .bind (works_allocateBlock _ _ _) fun found d₁ hfound => ?_
  rcases found with _ | ⟨rows', columns', r⟩
  · obtain rfl := hfound.1 rfl
    exact .skip (.note _) fun _ _ => .deposit (.pure (hrest.deposit hwidth hheight))
  obtain ⟨-, ⟨hw, hh⟩, grid, hclaims, rfl⟩ := hfound.2 _ rfl
  have hon := hrest.on hclaims
  refine .skip (.drawn _) fun number _ => .skip (.draws (KeepsExact.keeps_cells_block _ _ _)) ?_
  intro cells hcells
  -- whichever keys there are, they fit the tiles
  have hkeys : ∀ (keys : List Plug) (d₁ : Desk), LaidOn d₀ r d₁ →
      (∀ key ∈ keys, Fitting plug.element key.element) → Works d₁ (do
        let shuffled ← Draws.shuffle cells
        Making.note (.groupPlaced rows' columns' (TilePattern.values.getD number .all) r.x r.y
          keys.length)
        Technique.placeTiles d.draft.index plug.element r plug.element.footprint
          (shuffled.zip keys) cells
        Pure.pure true) fun _ d' => Laid d₀ d' := by
    intro keys d₁ hd₁ hfitting
    refine .skip (.drawn _) fun shuffled _ => .skip (.note _) fun _ _ => ?_
    refine .bind (placeTiles _ hwidth hheight hw hh (fun key hkey => ?_) hcells d₁ hd₁)
      fun _ _ hd' => .pure hd'.toLaid
    exact hfitting _ (List.of_mem_zip hkey).2
  refine .secondKey (hkeys [plug] _ hon ?_) fun second rest' _ hpool' _ hlike =>
    hkeys [plug, second] _ ⟨hon.congr rfl rfl rfl fun p hp => ?_, hon.gained⟩ ?_
  · exact List.forall_mem_singleton.mpr ⟨rfl, rfl, rfl⟩
  · exact hpool' ▸ Multiset.mem_cons_of_mem hp
  · obtain ⟨hwidth', hheight'⟩ :=
      hon.orderly.sized second (hpool' ▸ Multiset.mem_cons_self second rest')
    simp only [Bool.and_eq_true, decide_eq_true_eq] at hlike
    refine List.forall_mem_cons.mpr ⟨⟨rfl, rfl, rfl⟩, List.forall_mem_singleton.mpr ?_⟩
    refine ⟨hlike.1.1, ?_, ?_⟩
    · exact KeepsExact.eq_of_same _ hwidth' _ hwidth hlike.1.2
    · exact KeepsExact.eq_of_same _ hheight' _ hheight hlike.2

/-- **Every technique** puts its elements on cells of their own. -/
lemma technique : ∀ kind : TechniqueKind, Keeping (Laid d₀) kind.apply
  | .group => group
  | .hole => hole
  | .maze => maze
  | .screw => screw
  | .semicircle => semicircle
  | .switch => switch
  | .switchPattern => switchPattern
  | .tumbler => tumbler

end Making.Keeping

end PanelPuzzle
