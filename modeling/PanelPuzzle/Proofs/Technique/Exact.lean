import PanelPuzzle.Proofs.Making.Exact
import PanelPuzzle.Proofs.Maze.Bounds
import PanelPuzzle.Technique.Apply
/-!
# Techniques keep everything exact

Every element that a technique makes lies inside the panel, at a place that two decimals hold, and
names only elements: `Making.KeepsExact.technique`.  One lemma for each step of a technique, in the
order of the modules that define them.
-/

namespace PanelPuzzle.Making.KeepsExact

open Technique

/-! ## Holes and screws -/

lemma sizes_holeKinds : ∀ kind ∈ holeKinds, kind.2.1 ∈ Side.sizes ∧ kind.2.2 ∈ Side.sizes := by
  simp [holeKinds, Side.sizes]

lemma placeHole : KeepsExact Technique.placeHole := by
  refine bind (choose _) fun kind hkind => ?_
  rcases kind with _ | ⟨shape, width, height⟩
  · exact done _
  obtain ⟨hwidth, hheight⟩ := sizes_holeKinds _ (hkind _ rfl)
  refine bind (allocate _ _ _) fun found hfound => ?_
  cases found with
  | none => exact done _
  | some r =>
    refine bind (sessionDraws _) fun color _ => ?_
    refine bind (newSocket shape color hwidth hheight (hfound r rfl)) fun socket hsocket => ?_
    refine bind (note _) fun _ _ => bind (pushCoverable (hsocket.look _ _ _ _) _) fun _ _ => ?_
    exact bind (depositPlug shape color hwidth hheight) fun _ _ => done _

lemma hole : KeepsExact Technique.hole :=
  bind (draws _) fun _ _ => repeatPlacing (fun _ => placeHole) _ _

lemma screwHoleSize_mem : screwHoleSize ∈ Side.sizes := by decide +kernel

/-- A screw takes two cells by two, and its hole is in the middle of them. -/
lemma fits_screw : Shape.screw.footprint screwSize screwSize = (2, 2) ∧
    Side.Fits (.finite (5 / 4)) false screwSize 2 0 ∧
    Side.Fits (.finite 1) false screwHoleSize 2 ((Number.ofNat 2 - screwHoleSize) / 2) := by
  decide +kernel

lemma fillHole {e : Element} (h : e.Exact) (color : UInt8) :
    KeepsExact (Technique.fillHole e color) Element.Exact := by
  refine bind readSession fun s _ => bind (sessionDraws _) fun strict _ => ?_
  refine bind (depositPlug _ color screwHoleSize_mem screwHoleSize_mem) fun _ _ => ?_
  refine bind (modifyDraft fun d hd => ⟨hd.theme, hd.elements, hd.footprints⟩) fun _ _ => ?_
  exact pure (h.look _ _ _ _)

lemma placeScrew (first : Bool) : KeepsExact (Technique.placeScrew first) := by
  refine bind (allocate _ _ _) fun found hfound => ?_
  cases found with
  | none => exact done _
  | some r =>
    obtain ⟨hcells, hscrew, hmiddle⟩ := fits_screw
    obtain ⟨hr, hw, hh⟩ := hfound r rfl
    rw [hcells] at hw hh
    obtain ⟨hx, hy⟩ := Rect.inBounds_iff.mp hr
    rw [hw] at hx
    rw [hh] at hy
    refine bind (sessionDraws _) fun color _ => bind (newElement _ _ _) fun plain hplain => ?_
    rw [hw]
    have hplaced := hplain.exact_moveTo hmiddle hmiddle hx hy
    have hsunken := hplaced.elevate hplain.target_none .sunken
    refine bind readSession fun s _ => ?_
    extract_lets screwed settled
    have hscrewed : ∀ hole : Element, hole.Exact → KeepsExact (screwed hole) := by
      intro hole hhole
      refine bind (push hhole) fun _ _ => bind (newElement _ _ _) fun plain hplain => ?_
      refine bind (sessionDraws _) fun screwColor _ => bind (draws _) fun rotation _ => ?_
      refine bind (draws _) fun turns _ => ?_
      have hcornered := hplain.exact_cornered hr (hw ▸ hscrew) (hh ▸ hscrew)
      have hraised := hcornered.elevate hplain.target_none .raised
      refine bind (note _) fun _ _ => bind (pushCoverable ?_ _) fun _ _ => done _
      exact ((hraised.look (.plain screwColor) (Int32.ofNat rotation) _ _).interact .hold .rotate
        (Int32.ofNat turns)).release
    have hsettled : ∀ waits, KeepsExact (settled waits) := by
      intro waits
      unfold settled
      split
      · exact bind (fillHole (hsunken.look _ _ _ _) color) hscrewed
      · exact bind (pure (hsunken.look _ _ _ _)) hscrewed
    split
    · exact bind (done _) fun waits _ => hsettled waits
    · exact bind (sessionDraws _) fun waits _ => hsettled waits

lemma screw : KeepsExact Technique.screw :=
  bind (draws _) fun _ _ => repeatPlacing placeScrew _ _

/-! ## Round sockets and tumblers -/

lemma sizes_semicircle : ∀ size ∈ semicircleSizes, size ∈ Side.sizes ∧ size / 2 ∈ Side.sizes := by
  decide +kernel

lemma depositHalves (color : Option UInt8) : ∀ {halves : List (Shape × Number × Number)},
    (∀ half ∈ halves, half.2.1 ∈ Side.sizes ∧ half.2.2 ∈ Side.sizes) →
    KeepsExact (Technique.depositHalves color halves)
  | [], _ => done _
  | (shape, width, height) :: others, hsizes => by
    obtain ⟨⟨hwidth, hheight⟩, hothers⟩ := List.forall_mem_cons.mp hsizes
    have rest : ∀ chosen, KeepsExact (do
        Making.depositPlug shape width height chosen
        Technique.depositHalves color others) := fun chosen =>
      bind (depositPlug shape chosen hwidth hheight) fun _ _ => depositHalves color hothers
    cases color with
    | none => exact bind (sessionDraws _) fun chosen _ => rest chosen
    | some color => exact bind (done color) fun chosen _ => rest chosen

lemma semicircle : KeepsExact Technique.semicircle := by
  refine bind (choose _) fun chosen hchosen => ?_
  have hsize : chosen.getD 1.5 ∈ semicircleSizes := by
    cases chosen with
    | none => exact List.mem_cons_self
    | some size => exact hchosen size rfl
  obtain ⟨hwhole, hhalf⟩ := sizes_semicircle _ hsize
  refine bind (allocate _ _ _) fun found hfound => ?_
  cases found with
  | none => exact bind (note _) fun _ _ => done _
  | some r =>
    refine bind (sessionDraws _) fun color _ => bind (sessionDraws _) fun strict _ => ?_
    refine bind (newSocket _ color hwhole hwhole (hfound r rfl)) fun socket hsocket => ?_
    refine bind (note _) fun _ _ => bind (pushCoverable (hsocket.look _ _ _ _) _) fun _ _ => ?_
    refine bind (sessionDraws _) fun sideways _ => ?_
    refine bind (depositHalves _ ?_) fun _ _ => done _
    cases sideways with
    | false => simp [hwhole, hhalf]
    | true => simp [hwhole, hhalf]

lemma tumblerSize_mem : tumblerSize ∈ Side.sizes := by simp [tumblerSize, Side.sizes]

lemma tumbler : KeepsExact Technique.tumbler := by
  refine bind (allocate _ _ _) fun found hfound => ?_
  cases found with
  | none => exact bind (note _) fun _ _ => done _
  | some r =>
    refine bind (sessionDraws _) fun color _ => ?_
    refine bind (newSocket _ color tumblerSize_mem tumblerSize_mem (hfound r rfl))
      fun socket hsocket => ?_
    refine bind (note _) fun _ _ => ?_
    refine bind (pushCoverable ((hsocket.look _ _ _ _).interact _ _ _) _) fun _ _ => ?_
    exact bind (depositPlug _ color tumblerSize_mem tumblerSize_mem) fun _ _ => done _

/-! ## Switches -/

lemma fits_row : Side.Fits (.finite 1) false 1 1 0 := Side.fits_whole 1 (by decide) le_rfl

/-- A switch takes two cells, and one row of them. -/
lemma fits_switch : Shape.switch.footprint 1 1 = (2, 1) ∧ Side.Fits (.finite 1) true 1 2 0 := by
  decide +kernel

/-- What is known of the cells of a switch. -/
lemma allocateSwitch : KeepsExact (Making.allocate .switch 1 1) fun found =>
    ∀ r ∈ found, r.inBounds = true ∧ r.w = 2 ∧ r.h = 1 := by
  rw [Making.allocate, fits_switch.1]
  exact allocateCells 2 1

lemma newSwitch {r : Rect} (hr : r.inBounds = true ∧ r.w = 2 ∧ r.h = 1) (target : Nat) :
    KeepsExact (Technique.newSwitch r target) Element.Exact := by
  obtain ⟨hbounds, hw, hh⟩ := hr
  refine bind (newElement _ _ _) fun plain hplain => bind (sessionDraws _) fun unsatisfied _ => ?_
  refine bind (sessionDraws _) fun satisfied _ => bind (sessionDraws _) fun ball _ => ?_
  have hcornered := hplain.exact_cornered hbounds (hw ▸ fits_switch.2) (hh ▸ fits_row)
  exact pure ((hcornered.look _ _ _ _).interact _ _ _)

lemma placeSwitch (first : Bool) : KeepsExact (Technique.placeSwitch first) := by
  refine bind allocateSwitch fun found hfound => ?_
  cases found with
  | none => exact done _
  | some r =>
    refine bind (draws _) fun target _ => ?_
    refine bind (newSwitch (hfound r rfl) _) fun switch hswitch => bind (note _) fun _ _ => ?_
    exact bind (pushCoverable hswitch _) fun _ _ => done _

lemma switch : KeepsExact Technique.switch :=
  bind (draws _) fun _ _ => repeatPlacing placeSwitch _ _

lemma placeLinked (pattern : TargetPattern) (target : Nat) :
    KeepsExact (Technique.placeLinked pattern target) fun id =>
      ∀ id' ∈ id, isElementId id' = true := by
  refine bind allocateSwitch fun found hfound => ?_
  cases found with
  | none => exact pure fun id hid => absurd hid (Option.not_mem_none id)
  | some r =>
    refine bind (newSwitch (hfound r rfl) target) fun plain hplain => ?_
    have hid : isElementId plain.id = true := hplain.regular.isElementId
    have hanswer : ∀ id ∈ some plain.id, isElementId id = true := fun id hmem => by
      rwa [← Option.mem_some_iff.mp hmem]
    extract_lets linked
    split
    · refine bind (sessionDraws _) fun ball _ => bind (push (hplain.look _ _ _ _)) fun place _ => ?_
      refine bind (addButton ⟨hid, rfl⟩) fun button _ => ?_
      split
      · refine bind (modifyElement place fun e he => he.interact _ _ _) fun _ _ => ?_
        exact bind (cover _ _) fun _ _ => pure hanswer
      · exact bind (cover _ _) fun _ _ => pure hanswer
    · exact bind (pushCoverable hplain _) fun _ _ => pure hanswer

lemma placeAllLinked (pattern : TargetPattern) (targets : List Nat) :
    KeepsExact (Technique.placeAllLinked pattern targets) fun ids =>
      ∀ id ∈ ids, isElementId id = true := by
  induction targets with
  | nil => exact pure fun id hid => absurd hid List.not_mem_nil
  | cons target targets ih =>
    refine bind (placeLinked pattern target) fun placed hplaced => ?_
    cases placed with
    | none => exact pure fun id hid => absurd hid List.not_mem_nil
    | some id =>
      exact bind ih fun others hothers => pure (List.forall_mem_cons.mpr ⟨hplaced id rfl, hothers⟩)

lemma placeMaster {linked : List String} (hlinked : ∀ id ∈ linked, isElementId id = true) :
    KeepsExact (Technique.placeMaster linked) := by
  refine bind allocateSwitch fun found hfound => ?_
  cases found with
  | none => exact note _
  | some r =>
    refine bind (newSwitch (hfound r rfl) 1) fun plain hplain => pushCoverable ?_ _
    refine hplain.addActions fun action haction => ?_
    obtain ⟨id, hid, rfl⟩ := List.mem_map.mp haction
    exact ⟨hlinked id hid, rfl⟩

lemma switchPattern : KeepsExact Technique.switchPattern := by
  refine bind (draws _) fun number _ => bind (draws _) fun count _ => ?_
  refine bind (draws _) fun targets _ => bind (note _) fun _ _ => ?_
  refine bind (placeAllLinked _ targets) fun linked hlinked => ?_
  split
  · exact done _
  · exact bind (placeMaster hlinked) fun _ _ => done _

/-! ## Mazes -/

lemma allocateMaze (sizes : List (Nat × Nat)) :
    KeepsExact (Technique.allocateMaze sizes) fun found => ∀ maze ∈ found,
      (maze.1, maze.2.1) ∈ sizes ∧ maze.2.2.inBounds = true ∧ maze.2.2.w = maze.1 ∧
        maze.2.2.h = maze.2.1 + 1 := by
  induction sizes with
  | nil => exact pure fun maze hmaze => absurd hmaze (Option.not_mem_none maze)
  | cons size others ih =>
    obtain ⟨width, height⟩ := size
    refine bind (allocateCells width (height + 1)) fun found hfound => ?_
    cases found with
    | none =>
      refine Keeps.weaken ih fun found hfound maze hmaze => ?_
      obtain ⟨hmem, hrest⟩ := hfound maze hmaze
      exact ⟨List.mem_cons_of_mem _ hmem, hrest⟩
    | some r =>
      refine pure fun maze hmaze => ?_
      rw [← Option.mem_some_iff.mp hmaze]
      exact ⟨List.mem_cons_self, hfound r rfl⟩

lemma noteRows (rows : List String) : Keeps Session.Exact (Technique.noteRows rows) fun _ => True := by
  induction rows with
  | nil => exact .pure trivial
  | cons row rows ih => exact .bind (Session.keeps_note _) fun _ _ => ih

lemma fits_ball : Side.Fits (.finite 1) false ballSize 1 ballOffset := by decide +kernel

/-- **The walls of a maze** are exact if they lie in its rectangle. -/
lemma pushWalls {r : Rect} (hr : r.inBounds = true) (color : UInt8) :
    ∀ {runs : List MazeLayout.WallRun},
      (∀ run ∈ runs, 1 ≤ run.length ∧ run.x + run.length ≤ r.w ∧ run.y < r.h) →
      KeepsExact (Technique.pushWalls r color runs)
  | [], _ => done _
  | run :: others, hruns => by
    obtain ⟨⟨hpos, hx, hy⟩, hothers⟩ := List.forall_mem_cons.mp hruns
    obtain ⟨hright, hbottom⟩ := Rect.inBounds_iff.mp hr
    refine bind (newElement _ _ _) fun plain hplain => bind (push ?_) fun _ _ =>
      pushWalls hr color hothers
    have hcells : Rect.inBounds ⟨r.x + run.x, r.y + run.y, run.length, 1⟩ = true :=
      Rect.inBounds_iff.mpr ⟨by dsimp only; omega, by dsimp only; omega⟩
    have hwall := hplain.exact_cornered hcells (Side.fits_whole run.length (by omega) hpos) fits_row
    exact (hwall.elevate hplain.target_none .raised).look (.plain color) _ _ _

/-- A round element on a cell of the maze. -/
lemma exact_onCell {plain : Element} (hplain : plain.Fresh .circle ballSize ballSize) {r : Rect}
    (hr : r.inBounds = true) {c : Cell} (hx : c.1 < r.w) (hy : c.2 < r.h) :
    (onCell plain r c).Exact := by
  obtain ⟨hright, hbottom⟩ := Rect.inBounds_iff.mp hr
  exact hplain.exact_moveTo fits_ball fits_ball (by omega : r.x + c.1 + 1 ≤ 8)
    (by omega : r.y + c.2 + 1 ≤ 8)

lemma mazeSizes_pos : ∀ size ∈ mazeSizes, 2 ≤ size.1 ∧ 1 ≤ size.2 := by decide

lemma maze : KeepsExact Technique.maze := by
  refine bind (draws _) fun first _ => bind (allocateMaze _) fun found hfound => ?_
  rcases found with _ | ⟨width, height, r⟩
  · exact bind (note _) fun _ _ => done _
  obtain ⟨hsize, hr, hw, hh⟩ := hfound _ rfl
  obtain ⟨hwidth, hheight⟩ := mazeSizes_pos _ (List.mem_of_mem_drop hsize)
  dsimp only at hr hw hh hwidth hheight
  refine bind (session (Session.keeps_draws (keeps_carveMaze hwidth hheight))) fun layout hm => ?_
  refine bind (note _) fun _ _ => bind (session (noteRows _)) fun _ _ => ?_
  refine bind (sessionDraws _) fun wallColor _ => bind (pushWalls hr wallColor ?_) fun _ _ => ?_
  · intro run hrun
    obtain ⟨hpos, hx, hy⟩ := MazeLayout.mem_wallRuns hrun
    rw [hm.width_eq] at hx
    rw [hm.height_eq] at hy
    omega
  refine bind (sessionDraws _) fun color _ => bind (newElement _ _ _) fun plainSocket hsocket => ?_
  have hexit := exact_onCell hsocket hr (hw ▸ hm.exit.1) (hh ▸ Nat.lt_succ_of_lt hm.exit.2)
  have hsunken := hexit.elevate hsocket.target_none .sunken
  refine bind (push (hsunken.look (.plain color) _ _ _)) fun _ _ => ?_
  refine bind (newElement _ _ _) fun plainBall hball => ?_
  have hentrance := exact_onCell hball hr (hw ▸ hm.entrance.1) (hh ▸ Nat.lt_succ_of_lt hm.entrance.2)
  have hraised := hentrance.elevate hball.target_none .raised
  refine bind (push ((hraised.look (.plain color) _ _ _).interact .drag .move 1)) fun _ _ => ?_
  refine bind (choose _) fun corridor hcorridor => ?_
  cases corridor with
  | none => exact bind (done _) fun _ _ => done _
  | some c =>
    obtain ⟨hx, hy⟩ := MazeLayout.mem_corridors (hcorridor c rfl)
    obtain ⟨hright, hbottom⟩ := Rect.inBounds_iff.mp hr
    rw [hm.width_eq] at hx
    rw [hm.height_eq] at hy
    refine bind (modifyDraft fun d hd => hd.addCoverable ⟨?_, le_rfl, le_rfl⟩) fun _ _ => done _
    exact Rect.inBounds_iff.mpr ⟨by dsimp only; omega, by dsimp only; omega⟩

/-! ## Groups -/

/-- A plug that can take the place of another one. -/
structure Twin (model e : Element) : Prop where
  ready : e.Ready
  shape_eq : e.shape = model.shape
  width_eq : e.width = model.width
  height_eq : e.height = model.height

lemma Twin.footprint_eq {model e : Element} (h : Twin model e) : e.footprint = model.footprint := by
  rw [Element.footprint, h.shape_eq, h.width_eq, h.height_eq, Element.footprint]

lemma eq_of_same : ∀ a ∈ Side.sizes, ∀ b ∈ Side.sizes, a.same b = true → a = b := by
  decide +kernel

/-- A disguised plug is ready to be placed like the plug. -/
lemma ready_disguise {plug : Element} (h : plug.Ready) : (disguise plug).Ready := by
  have hflat : Element.Regular { plug with
      color := .plain Palette.neutral, elevation := .flat, elevationTarget := some .raised } :=
    ⟨h.regular.isElementId, h.regular.code, fun hne => absurd rfl hne, by simp, h.regular.settled,
      h.regular.actions⟩
  refine ⟨(hflat.interact .tap .color _).addActions ?_, h.width_mem, h.height_mem⟩
  exact List.forall_mem_singleton.mpr (Action.exact_release h.regular.isElementId)

lemma allocateBlock (tile : Nat × Nat) (blocks : List (Nat × Nat)) :
    KeepsExact (Technique.allocateBlock tile blocks) fun found => ∀ block ∈ found,
      block.2.2.inBounds = true ∧ block.2.2.w = block.2.1 * tile.1 ∧
        block.2.2.h = block.1 * tile.2 := by
  induction blocks with
  | nil => exact pure fun block hblock => absurd hblock (Option.not_mem_none block)
  | cons block others ih =>
    obtain ⟨rows, columns⟩ := block
    refine bind (allocateCells _ _) fun found hfound => ?_
    cases found with
    | none => exact ih
    | some r =>
      refine pure fun block hblock => ?_
      rw [← Option.mem_some_iff.mp hblock]
      exact hfound r rfl

lemma mem_block {rows columns : Nat} {c : Nat × Nat} (h : c ∈ TilePattern.block rows columns) :
    c.1 < rows ∧ c.2 < columns := by
  obtain ⟨row, hrow, hc⟩ := List.mem_flatMap.mp h
  obtain ⟨column, hcolumn, rfl⟩ := List.mem_map.mp hc
  exact ⟨List.mem_range.mp hrow, List.mem_range.mp hcolumn⟩

/-- The cells of a pattern are cells of its block. -/
lemma keeps_cells_block (pattern : TilePattern) (rows columns : Nat) :
    Keeps (fun _ => True) (pattern.cells rows columns) fun cells =>
      ∀ c ∈ cells, c.1 < rows ∧ c.2 < columns :=
  .bind (.always _) fun _ _ => .pure fun _ hc => mem_block (List.mem_filter.mp hc).1

lemma patternCells (pattern : TilePattern) (rows columns : Nat) :
    KeepsExact (liftM (pattern.cells rows columns) : Making (List (Nat × Nat))) fun cells =>
      ∀ c ∈ cells, c.1 < rows ∧ c.2 < columns :=
  session (Session.keeps_draws (keeps_cells_block pattern rows columns))

lemma secondKey (panel cellCount : Nat) {first : Element} (h : first.Ready) :
    Keeps Session.Exact (Technique.secondKey panel first cellCount) fun seconds =>
      ∀ plug ∈ seconds, Twin first plug.element := by
  unfold Technique.secondKey
  split
  · refine .bind (Session.keeps_draws (.always _)) fun wanted _ => ?_
    split
    · refine .bind (Session.keeps_withdrawWhere panel _) fun second hsecond => .pure ?_
      intro plug hplug
      obtain ⟨hready, hlike⟩ := hsecond plug (Option.mem_toList.mp hplug)
      simp only [Bool.and_eq_true, decide_eq_true_eq] at hlike
      exact
        { ready := hready
          shape_eq := hlike.1.1
          width_eq := eq_of_same _ hready.width_mem _ h.width_mem hlike.1.2
          height_eq := eq_of_same _ hready.height_mem _ h.height_mem hlike.2 }
    · exact .pure fun plug hplug => absurd hplug List.not_mem_nil
  · exact .pure fun plug hplug => absurd hplug List.not_mem_nil

/-- The place of a tile lies in the rectangle of its group. -/
lemma inBounds_tile {r : Rect} (hr : r.inBounds = true) {tile : Nat × Nat} {rows columns : Nat}
    (hw : r.w = columns * tile.1) (hh : r.h = rows * tile.2) {row column : Nat}
    (hrow : row < rows) (hcolumn : column < columns) :
    Rect.inBounds ⟨r.x + column * tile.1, r.y + row * tile.2, tile.1, tile.2⟩ = true := by
  obtain ⟨hright, hbottom⟩ := Rect.inBounds_iff.mp hr
  have hacross : (column + 1) * tile.1 ≤ columns * tile.1 := Nat.mul_le_mul_right _ hcolumn
  have hdown : (row + 1) * tile.2 ≤ rows * tile.2 := Nat.mul_le_mul_right _ hrow
  rw [Nat.add_one_mul] at hacross hdown
  exact Rect.inBounds_iff.mpr ⟨by dsimp only; omega, by dsimp only; omega⟩

/-- **The tiles of a group** are exact if all keys are like the model. -/
lemma placeTiles (panel : Nat) {model : Element} (hmodel : model.Ready) {r : Rect}
    (hr : r.inBounds = true) {rows columns : Nat} (hw : r.w = columns * model.footprint.1)
    (hh : r.h = rows * model.footprint.2) {keys : List ((Nat × Nat) × Plug)}
    (hkeys : ∀ key ∈ keys, Twin model key.2.element) : ∀ {cells : List (Nat × Nat)},
      (∀ c ∈ cells, c.1 < rows ∧ c.2 < columns) →
      KeepsExact (Technique.placeTiles panel model r model.footprint keys cells)
  | [], _ => done _
  | (row, column) :: cells, hcells => by
    obtain ⟨⟨hrow, hcolumn⟩, hothers⟩ := List.forall_mem_cons.mp hcells
    have rest := placeTiles panel hmodel hr hw hh hkeys hothers
    have hplace := inBounds_tile hr hw hh hrow hcolumn
    unfold Technique.placeTiles
    cases hkey : keys.lookup (row, column) with
    | some plug =>
      obtain ⟨before, after, heq, -⟩ := List.lookup_eq_some_iff.mp hkey
      have htwin : Twin model plug.element := hkeys ((row, column), plug) (by simp [heq])
      refine bind (session (Session.keeps_recordPlacement plug panel)) fun _ _ => ?_
      refine bind (push ?_) fun _ _ => rest
      exact (ready_disguise htwin.ready).exact_centered hplace (htwin.footprint_eq ▸ le_rfl)
        (htwin.footprint_eq ▸ le_rfl)
    | none =>
      refine bind (newElement _ _ _) fun plain hplain => bind (push ?_) fun _ _ => rest
      have hready := hplain.ready hmodel.width_mem hmodel.height_mem
      have hdecoy : Element.Ready
          ({ plain with color := .plain Palette.neutral }.interact .tap .none 0) :=
        ⟨(hready.regular.look _ _ _ _).interact _ _ _, hready.width_mem, hready.height_mem⟩
      exact hdecoy.exact_centered hplace (hplain.footprint_eq ▸ le_rfl) (hplain.footprint_eq ▸ le_rfl)

lemma group : KeepsExact Technique.group := by
  refine bind draft fun d _ => bind readSession fun s _ => ?_
  refine bind (session (Session.keeps_withdrawWhere _ _)) fun plug hplug => ?_
  cases plug with
  | none => exact bind (note _) fun _ _ => done _
  | some plug =>
    obtain ⟨hready, -⟩ := hplug plug rfl
    refine bind (draws _) fun rows _ => bind (draws _) fun columns _ => ?_
    refine bind (allocateBlock _ _) fun found hfound => ?_
    rcases found with _ | ⟨rows, columns, r⟩
    · refine bind (note _) fun _ _ => bind (session (Session.keeps_deposit hready)) fun _ _ => ?_
      exact done _
    obtain ⟨hr, hw, hh⟩ := hfound _ rfl
    refine bind (draws _) fun number _ => bind (patternCells _ rows columns) fun cells hcells => ?_
    refine bind (session (secondKey _ _ hready)) fun second hsecond => ?_
    refine bind (draws _) fun shuffled _ => bind (note _) fun _ _ => ?_
    refine bind (placeTiles _ hready hr hw hh ?_ hcells) fun _ _ => done _
    intro key hkey
    have hmem := (List.of_mem_zip hkey).2
    rcases List.mem_cons.mp hmem with heq | hmem
    · rw [heq]
      exact ⟨hready, rfl, rfl, rfl⟩
    · exact hsecond _ hmem

/-- **Every technique keeps everything exact.** -/
lemma technique : ∀ kind : TechniqueKind, KeepsExact kind.apply
  | .group => group
  | .hole => hole
  | .maze => maze
  | .screw => screw
  | .semicircle => semicircle
  | .switch => switch
  | .switchPattern => switchPattern
  | .tumbler => tumbler

end PanelPuzzle.Making.KeepsExact
