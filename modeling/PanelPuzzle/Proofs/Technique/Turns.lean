import PanelPuzzle.Proofs.Technique.Pieces
/-!
# What techniques do to a desk

A technique that is refused changes nothing, and all but the group are refused only when something that
fits an empty panel finds no room on this one.  A technique that is applied leaves a goal, and one that
makes plugs leaves a plug.

* `works_maze` — a maze leaves a ball, to be moved to its socket.
* `works_group` — a group hides a plug of an earlier panel among keys that look like it.
* `Making.Applied`, `works_technique` — **what each technique leaves.**
-/

namespace PanelPuzzle

variable {α β : Type} {d d' : Desk}

namespace Making

open Technique Desk

/-! ## Mazes -/

lemma fits_maze : ∀ size ∈ mazeSizes, Grid.fitsGrid size.1 (size.2 + 1) = true := by
  decide

/-- **A maze finds no room** only if no size does. -/
lemma works_allocateMaze : ∀ (sizes : List (Nat × Nat)) (d : Desk),
    (∀ size ∈ sizes, Grid.fitsGrid size.1 (size.2 + 1) = true) →
      Works d (Technique.allocateMaze sizes) fun found d' =>
        (found = none → d' = d ∧ (sizes ≠ [] → d.Crowded)) ∧ (found ≠ none → d.Turns d')
  | [], _, _ => .pure ⟨fun _ => ⟨rfl, absurd rfl⟩, absurd rfl⟩
  | (width, height) :: others, d, hfits => by
    obtain ⟨hfirst, hothers⟩ := List.forall_mem_cons.mp hfits
    refine .allocateCells (fun hfull => ?_) fun r grid hclaims _ _ => ?_
    · refine (works_allocateMaze others d hothers).weaken fun found d' h => ⟨fun hnone => ?_, h.2⟩
      exact ⟨(h.1 hnone).1, fun _ => ⟨width, height + 1, hfirst, hfull hfirst⟩⟩
    · exact .pure ⟨nofun, fun _ => .claim .refl hclaims⟩

lemma works_pushWalls (r : Rect) (color : UInt8) : ∀ (runs : List MazeLayout.WallRun) (d : Desk),
    Works d (Technique.pushWalls r color runs) fun _ d' => d.Turns d'
  | [], _ => .pure .refl
  | run :: others, d => by
    refine .newElement (.push ((works_pushWalls r color others _).weaken fun _ d' hturns => ?_))
    exact .trans (.add .refl rfl rfl) hturns

/-- **A maze** has a ball, which is to be moved. -/
lemma works_maze (d : Desk) : Works d Technique.maze fun applied d' =>
    d.Placed False applied d' ∧ (applied = true → d'.HasBall) := by
  refine .skip (.draws (Draws.keeps_below (by decide))) fun first hfirst => ?_
  have hsizes : mazeSizes.drop first ≠ [] := fun hnil =>
    absurd (List.drop_eq_nil_iff.mp hnil) (Nat.not_le.mpr hfirst)
  refine .bind (works_allocateMaze _ d fun size hsize => fits_maze size (List.mem_of_mem_drop hsize))
    fun found d₁ hfound => ?_
  rcases found with _ | ⟨width, height, r⟩
  · obtain ⟨rfl, hcrowded⟩ := hfound.1 rfl
    exact .skip (.note _) fun _ _ => .pure ⟨⟨.refl, fun _ => ⟨rfl, hcrowded hsizes⟩, nofun, nofun⟩, nofun⟩
  refine .skip (.sessionDrawn _) fun layout _ => .skip (.note _) fun _ _ => ?_
  refine .skip (.noteRows _) fun _ _ => .skip .randomColor fun wallColor _ => ?_
  refine .bind (works_pushWalls r wallColor _ d₁) fun _ d₂ hwalls => .skip .randomColor fun color _ => ?_
  have hturns := (hfound.2 nofun).trans hwalls
  refine .newElement (.push (.newElement (.push (.skip (.choose _) fun corridor _ => ?_))))
  -- a corridor may be coverable, and that is all that comes after the ball
  have hdone : ∀ {exit ball : Element} {d' : Desk}, ((d₂.tick.push exit).tick.push ball).Turns d' →
      exit.id = d₂.nextId exit.shape → exit.actions = [] → exit.isGoal = true →
      ball.id = (d₂.tick.push exit).nextId ball.shape → ball.actions = [] → ball.change = .move →
      d.Placed False true d' ∧ (true = true → d'.HasBall) := by
    intro exit ball d' hrest hexit hactions hgoal hball hactions' hmove
    have hadd : (d₂.tick.push exit).Turns d' := .trans (.add .refl hball hactions') hrest
    refine ⟨.apply ((hturns.add hexit hactions).trans hadd) ((hasGoal_push hgoal).turns hadd)
      False.elim, fun _ => HasBall.turns ⟨ball, ?_, hmove⟩ hrest⟩
    exact List.mem_append_right _ (List.mem_singleton.mpr rfl)
  cases corridor with
  | none => exact .pure (hdone .refl rfl rfl (Element.isGoal_of_comparison rfl) rfl rfl rfl)
  | some c =>
    exact .modifyDraft (.pure (hdone (.cover .refl CoverRole.noConfusion) rfl rfl
      (Element.isGoal_of_comparison rfl) rfl rfl rfl))

/-! ## Groups -/

/-- A second key is a plug that waits and looks like the first one, and there are cells enough for it. -/
lemma Works.secondKey {first : Element} {cellCount : Nat} {next : List Plug → Making β}
    {Q : β → Desk → Prop} (hnone : Works d (next []) Q)
    (hsome : ∀ plug rest, 3 < cellCount → d.pool = plug ::ₘ rest → plug.origin ≠ d.draft.index →
      (plug.element.shape = first.shape && plug.element.width.same first.width &&
        plug.element.height.same first.height) = true → Works (d.withPool rest) (next [plug]) Q) :
    Works d (liftM (Technique.secondKey d.draft.index first cellCount) >>= next) Q := by
  unfold Technique.secondKey
  split
  · rename_i hcells
    refine .lift (.skip (.sessionDrawn _) fun wanted _ => ?_)
    split
    · exact .lift (.withdrawWhere (fun _ => hnone) fun plug rest hpool horigin hlike =>
        hsome plug rest hcells hpool horigin hlike)
    · exact hnone
  · exact hnone

/-- A disguised plug is put on a desk where the plug waits. -/
lemma turn_disguise {plug : Plug} {rest : Multiset Plug} (hpool : d.pool = plug ::ₘ rest)
    (hplain : plug.Plain) (horigin : plug.origin ≠ d.draft.index) (r : Rect) :
    d.Turn (((d.withPool rest).push ((disguise plug.element).centered r)).record plug) := by
  have hactions : ((disguise plug.element).centered r).actions = [.release plug.element.id] :=
    congrArg (· ++ [Action.release plug.element.id]) hplain.lockable.actions
  exact .key ⟨hpool, horigin, rfl, rfl⟩ (Element.inert_of_actions_eq_singleton hactions rfl)

/-- A tap on a disguised plug is a goal. -/
lemma isGoal_disguise {plug : Plug} (h : plug.Colored) (r : Rect) :
    ((disguise plug.element).centered r).isGoal = true := by
  refine Element.isGoal_of_target Change.noConfusion (int32_ofNat_pos ?_ ?_)
  · exact Nat.pos_of_ne_zero fun hzero => h (UInt8.toNat_inj.mp hzero)
  · exact UInt8.toNat_lt _

/-- **The tiles of a group** place the plugs whose cells are among theirs. -/
lemma works_placeTiles {panel : Nat} (model : Element) (r : Rect) (tile : Nat × Nat)
    (keys : List ((Nat × Nat) × Plug)) :
    ∀ (cells : List (Nat × Nat)) {d : Desk}, d.draft.index = panel →
      (∀ plug ∈ cells.filterMap (keys.lookup ·), plug.Plain ∧ plug.Colored ∧ plug.origin ≠ panel) →
      Works d (Technique.placeTiles panel model r tile keys cells) fun _ d' =>
        (d.hold (cells.filterMap (keys.lookup ·))).Turns d' ∧
          (cells.filterMap (keys.lookup ·) ≠ [] → d'.HasGoal)
  | [], d, _, _ => .pure ⟨by rw [List.filterMap_nil, Multiset.coe_nil, Desk.hold_zero]; exact .refl,
      absurd rfl⟩
  | (row, column) :: cells, d, hpanel, hplugs => by
    unfold Technique.placeTiles
    cases hkey : keys.lookup (row, column) with
    | some plug =>
      rw [List.filterMap_cons_some (by exact hkey)] at hplugs ⊢
      obtain ⟨⟨hplain, hcolored, horigin⟩, hothers⟩ := List.forall_mem_cons.mp hplugs
      refine .recordPlacement hpanel (.push ?_)
      refine .weaken (works_placeTiles model r tile keys cells hpanel hothers) fun _ d' h => ?_
      have hpool : (d.hold (plug :: cells.filterMap (keys.lookup ·))).pool = _ :=
        Multiset.add_cons plug d.pool (cells.filterMap (keys.lookup ·))
      refine ⟨.head (turn_disguise hpool hplain (hpanel ▸ horigin) _) h.1, fun _ => .turns ?_ h.1⟩
      obtain ⟨e, he, hgoal⟩ := hasGoal_push (d := d.record plug) (isGoal_disguise hcolored _)
      exact ⟨e, he, hgoal⟩
    | none =>
      rw [List.filterMap_cons_none (by exact hkey)] at hplugs ⊢
      refine .newElement (.push (.weaken (works_placeTiles model r tile keys cells hpanel hplugs) ?_))
      exact fun _ d' h => ⟨.trans (.add .refl rfl rfl) h.1, h.2⟩

/-- A block for a group takes cells or does not. -/
lemma works_allocateBlock (tile : Nat × Nat) : ∀ (blocks : List (Nat × Nat)) (d : Desk),
    Works d (Technique.allocateBlock tile blocks) fun found d' => (found = none → d' = d) ∧
      ∀ block ∈ found, (block.1, block.2.1) ∈ blocks ∧
        (block.2.2.w = block.2.1 * tile.1 ∧ block.2.2.h = block.1 * tile.2) ∧
          ∃ grid, d.Claims block.2.2 grid ∧ d' = d.withGrid grid
  | [], _ => .pure ⟨fun _ => rfl, fun block hblock => absurd hblock (Option.not_mem_none block)⟩
  | (rows, columns) :: others, d => by
    refine .allocateCells (fun _ => ?_) fun r grid hclaims hw hh => .pure ⟨nofun, fun block hblock => ?_⟩
    · exact (works_allocateBlock tile others d).weaken fun found d' h => ⟨h.1, fun block hblock =>
        ⟨List.mem_cons_of_mem _ (h.2 block hblock).1, (h.2 block hblock).2⟩⟩
    · obtain rfl := Option.mem_some_iff.mp hblock
      exact ⟨List.mem_cons_self, ⟨hw, hh⟩, grid, hclaims, rfl⟩

/-- The plugs of a group are in hand until all tiles are placed. -/
lemma works_keys (hd : d.Sound) (model : Element) (r : Rect) (tile : Nat × Nat) {grid : Grid}
    (hclaims : d.Claims r grid) {plugs : List Plug} {rest : Multiset Plug} (hplugs : plugs ≠ [])
    (hpool : d.pool = rest + plugs) (horigin : ∀ plug ∈ plugs, plug.origin ≠ d.draft.index)
    {cells shuffled : List (Nat × Nat)} (hperm : shuffled.Perm cells) (hnodup : cells.Nodup)
    (hlength : plugs.length ≤ cells.length) :
    Works ((d.withPool rest).withGrid grid)
      (Technique.placeTiles d.draft.index model r tile (shuffled.zip plugs) cells) fun _ d' =>
        d.Turns d' ∧ d'.HasGoal := by
  have hkeys : (cells.filterMap ((shuffled.zip plugs).lookup ·)).Perm plugs := by
    refine (hperm.symm.filterMap _).trans (.of_eq (filterMap_lookup_zip ?_ ?_))
    · exact hperm.nodup_iff.mpr hnodup
    · rwa [hperm.length_eq]
  refine .weaken (works_placeTiles model r tile _ cells rfl fun plug hplug => ?_) fun _ d' h => ?_
  · have hmem := hkeys.mem_iff.mp hplug
    have hwaits : plug ∈ d.pool := by
      rw [hpool]
      exact Multiset.mem_add.mpr (.inr hmem)
    exact ⟨hd.plain plug hwaits, hd.colored plug hwaits, horigin plug hmem⟩
  · obtain ⟨hturns, hgoal⟩ := h
    rw [Multiset.coe_eq_coe.mpr hkeys] at hturns
    have hheld : ((d.withPool rest).withGrid grid).hold plugs = d.withGrid grid :=
      Desk.hold_withPool (d := d.withGrid grid) hpool
    refine ⟨.head (.claim hclaims) (hheld ▸ hturns), hgoal fun hnil => hplugs ?_⟩
    exact (hnil ▸ hkeys).symm.eq_nil

/-- **A group places the plugs that it takes,** or gives them back. -/
lemma works_group (d : Desk) (hd : d.Sound) : Works d Technique.group fun applied d' =>
    d.Turns d' ∧ (applied = false → d' = d) ∧ (applied = true → d.Serves ∧ d'.HasGoal) := by
  refine .draft (.readSession fun s _ => .withdrawWhere (fun _ => ?_) fun plug rest hpool horigin _ => ?_)
  · exact .skip (.note _) fun _ _ => .pure ⟨.refl, fun _ => rfl, Bool.noConfusion⟩
  refine .skip (.draws (Draws.keeps_inRange _ _)) fun rows hrows => ?_
  refine .skip (.draws (Draws.keeps_inRange _ _)) fun columns hcolumns => ?_
  refine .bind (works_allocateBlock _ _ _) fun found d₁ hfound => ?_
  rcases found with _ | ⟨rows', columns', r⟩
  · obtain rfl := hfound.1 rfl
    have hback : (d.withPool rest).deposit plug = d := by
      rw [Desk.deposit, Desk.withPool, Desk.withPool, ← hpool]
    refine .skip (.note _) fun _ _ => .deposit (.pure ?_)
    rw [hback]
    exact ⟨.refl, fun _ => rfl, Bool.noConfusion⟩
  obtain ⟨hsize, -, grid, hclaims, rfl⟩ := hfound.2 _ rfl
  have hblock : TilePattern.block rows' columns' ≠ [] := by
    simp only [List.mem_cons, List.not_mem_nil, or_false, Prod.mk.injEq] at hsize
    exact TilePattern.block_ne_nil (by omega) (by omega)
  refine .skip (.drawn _) fun number _ => .skip (.draws (TilePattern.keeps_cells _ hblock)) ?_
  rintro cells ⟨hcells, hnodup⟩
  have hserves : d.Serves := ⟨plug, hpool ▸ Multiset.mem_cons_self plug rest, horigin⟩
  -- whichever keys there are, they are all of what was taken
  have hkeys : ∀ keys rest', keys ≠ [] → keys.length ≤ cells.length →
      d.pool = rest' + (keys : List Plug) → (∀ key ∈ keys, key.origin ≠ d.draft.index) →
      Works ((d.withPool rest').withGrid grid) (do
        let shuffled ← Draws.shuffle cells
        Making.note (.groupPlaced rows' columns' (TilePattern.values.getD number .all) r.x r.y
          keys.length)
        Technique.placeTiles d.draft.index plug.element r plug.element.footprint
          (shuffled.zip keys) cells
        Pure.pure true) fun applied d' =>
        d.Turns d' ∧ (applied = false → d' = d) ∧ (applied = true → d.Serves ∧ d'.HasGoal) := by
    intro keys rest' hsome hlength hpool' horigins
    refine .skip (.draws (Draws.keeps_shuffle cells)) fun shuffled hperm => ?_
    refine .skip (.note _) fun _ _ => ?_
    refine .bind (works_keys hd plug.element r _ ⟨hclaims.free, hclaims.grid_eq⟩ hsome hpool' horigins
      hperm hnodup hlength) ?_
    exact fun _ d' h => .pure ⟨h.1, Bool.noConfusion, fun _ => ⟨hserves, h.2⟩⟩
  have hfirst : 1 ≤ cells.length := List.length_pos_iff.mpr hcells
  refine .secondKey (hkeys [plug] rest (List.cons_ne_nil _ _) hfirst ?_ ?_)
    fun second rest' hmany hrest hsecond _ =>
      hkeys [plug, second] rest' (List.cons_ne_nil _ _) (by simp; omega) ?_ ?_
  · rw [hpool, Multiset.coe_singleton, add_comm, Multiset.singleton_add]
  · exact List.forall_mem_singleton.mpr horigin
  · have hboth : d.pool = plug ::ₘ second ::ₘ rest' := hpool.trans (congrArg _ hrest)
    rw [hboth, add_comm, ← Multiset.cons_coe, ← Multiset.cons_coe, Multiset.coe_nil,
      Multiset.cons_add, Multiset.cons_add, zero_add]
  · exact List.forall_mem_cons.mpr ⟨horigin, List.forall_mem_singleton.mpr hsecond⟩

/-- **What becomes of a desk** when a technique is applied to it. -/
structure Applied (kind : TechniqueKind) (d : Desk) (applied : Bool) (d' : Desk) : Prop where
  turns : d.Turns d'
  refused : applied = false → d' = d
  crowded : applied = false → kind ≠ .group → d.Crowded
  goal : applied = true → d'.HasGoal
  leaves : applied = true → kind.makesPlugs = true → d.requirePlug = true → d'.Leaves
  ball : applied = true → kind = .maze → d'.HasBall
  serves : applied = true → kind = .group → d.Serves

lemma Applied.of_placed {kind : TechniqueKind} {due : Prop} {applied : Bool}
    (h : d.Placed due applied d') (hdue : kind.makesPlugs = true → d.requirePlug = true → due)
    (hmaze : applied = true → kind = .maze → d'.HasBall) (hkind : kind ≠ .group := by decide) :
    Applied kind d applied d' where
  turns := h.turns
  refused hrefused := (h.refused hrefused).1
  crowded hrefused _ := (h.refused hrefused).2
  goal := h.goal
  leaves happlied hplugs hrequire := h.leaves happlied (hdue hplugs hrequire)
  ball := hmaze
  serves _ hgroup := absurd hgroup hkind

/-- **Every technique** on a sound desk. -/
lemma works_technique (hd : d.Sound) : ∀ kind : TechniqueKind, Works d kind.apply (Applied kind d)
  | .group => (works_group d hd).weaken fun _ _ h =>
      ⟨h.1, h.2.1, fun _ hne => absurd rfl hne, fun happlied => (h.2.2 happlied).2, nofun, nofun,
        fun happlied _ => (h.2.2 happlied).1⟩
  | .hole => (works_hole d).weaken fun _ _ h => .of_placed h (fun _ _ => trivial) nofun
  | .maze => (works_maze d).weaken fun _ _ h =>
      .of_placed h.1 nofun fun happlied _ => h.2 happlied
  | .screw => (works_screw d).weaken fun _ _ h => .of_placed h (fun _ h => h) nofun
  | .semicircle => (works_semicircle d).weaken fun _ _ h =>
      .of_placed h (fun _ _ => trivial) nofun
  | .switch => (works_switch d).weaken fun _ _ h => .of_placed h nofun nofun
  | .switchPattern => (works_switchPattern d).weaken fun _ _ h => .of_placed h nofun nofun
  | .tumbler => (works_tumbler d).weaken fun _ _ h =>
      .of_placed h (fun _ _ => trivial) nofun

end Making

end PanelPuzzle