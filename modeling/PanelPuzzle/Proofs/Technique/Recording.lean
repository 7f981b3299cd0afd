import PanelPuzzle.Proofs.Making.Recording
import PanelPuzzle.Proofs.Technique.Laying
/-!
# Techniques keep records

A technique claims cells, puts an element on them that fills them, and makes it coverable.  What else it
puts on the panel is quiet: it controls nothing and resizes nothing.

* `Making.KeepsRecords` — a computation keeps the records of a desk, whatever is held meanwhile.
* `works_placeLinked` — a switch that may get a button before its record is written.
* `KeepsRecords.technique` — **every technique keeps records.**
-/

namespace PanelPuzzle

variable {α β : Type}

namespace Making

open Desk Technique

variable {d : Desk} {held : Multiset String} {room : List Rect} {r : Rect}

/-- **A computation keeps records.** -/
def KeepsRecords (act : Making α) : Prop := ∀ held room, Keeping (Desk.Records held room none) act

/-- A button that is quiet. -/
lemma works_quietButton {action : Action} (hd : d.Records held room none)
    (hquiet : ∀ b : Element, b.actions = [action] → b.Quiet) :
    Works d (Remote.addButton action) fun _ d' => d'.Records held room none :=
  .last (.addButton (fun _ => .pure hd) fun _ _ b hclaims hid hactions _ =>
    .pure ((hd.claim hclaims).of_cons.add hid (hquiet b hactions)))

namespace KeepsRecords

lemma pure (a : α) : KeepsRecords (Pure.pure a) := fun _ _ => .pure a

lemma bind {act : Making α} {next : α → Making β} (h : KeepsRecords act)
    (hnext : ∀ a, KeepsRecords (next a)) : KeepsRecords (act >>= next) :=
  fun held room => .bind (h held room) fun a => hnext a held room

lemma still {act : Making α} {R : α → Prop} (h : Still act R) : KeepsRecords act := fun _ _ => .still h

lemma repeatPlacing {place : Bool → Making Bool} (h : ∀ first, KeepsRecords (place first))
    (count : Nat) (first : Bool) : KeepsRecords (Making.repeatPlacing place count first) :=
  fun held room => .repeatPlacing (fun first => h first held room) count first

/-- **A plug is made,** and waits. -/
lemma depositPlug (shape : Shape) {width height : Number} (color : UInt8) (hwidth : width ∈ Side.sizes)
    (hheight : height ∈ Side.sizes) : KeepsRecords (Making.depositPlug shape width height color) :=
  fun _ _ d hd => .last (.depositPlug fun remote => .pure
    (Records.deposit (p := d.freshPlug shape width height color remote) (hd.tick shape)
      ⟨rfl, Change.noConfusion, hwidth, hheight⟩))

/-- It is recorded where a plug is. -/
lemma recordPlacement (plug : Plug) (panel : Nat) :
    KeepsRecords (liftM (Session.recordPlacement plug panel) : Making Unit) := by
  rintro held room _ hd b rfl
  exact hd.congr rfl rfl rfl rfl rfl

/-! ## Holes and screws -/

lemma placeHole : KeepsRecords Technique.placeHole := by
  refine fun held room d hd => .skip (.choose _) fun chosen hchosen => ?_
  rcases chosen with _ | ⟨shape, width, height⟩
  · exact .pure hd
  obtain ⟨hwidth, hheight⟩ := KeepsExact.sizes_holeKinds _ (hchosen _ rfl)
  refine .allocate (fun _ => .pure hd) fun r grid hclaims hw hh => ?_
  have hfills := Element.fills_centered (e := (d.withGrid grid).fresh shape width height)
    (Grid.inBounds_of_isFree hclaims.free) hwidth hheight hw hh
  refine .skip .randomColor fun color _ => .newSocket (.skip (.note _) fun _ _ => .pushCoverable ?_)
  refine .bind (depositPlug shape color hwidth hheight held room _ ?_) fun _ _ hd' => .pure hd'
  exact (hd.claim hclaims).addCovered rfl (Element.quiet_of_actions_eq_nil rfl) Change.noConfusion
    (hfills.alike rfl rfl rfl rfl rfl) CoverRole.noConfusion

lemma hole : KeepsRecords Technique.hole :=
  .bind (.still (.drawn _)) fun count => repeatPlacing (fun _ => placeHole) count true

/-- **A screw goes over its hole.**  The id of the hole is held until the hole is on the panel. -/
lemma placeScrew (first : Bool) : KeepsRecords (Technique.placeScrew first) := by
  refine fun held room d hd => .allocate (fun _ => .pure hd) fun r grid hclaims hw hh => ?_
  have hinside := Grid.inBounds_of_isFree hclaims.free
  refine .skip .randomColor fun color _ => .newElement (.readSession fun s _ => ?_)
  have htick : (d.withGrid grid).tick.Records ((d.withGrid grid).nextId .circle ::ₘ held) (r :: room)
      none := (hd.claim hclaims).tick .circle
  extract_lets screwed settled
  have hscrewed : ∀ hole d₁, d₁.Records (hole.id ::ₘ held) (r :: room) none → hole.actions = [] →
      Works d₁ (screwed hole) fun _ d' => d'.Records held room none := by
    intro hole d₁ hd₁ hactions
    refine .push (.newElement (.skip .randomColor fun screwColor _ => ?_))
    refine .skip (.drawn _) fun rotation _ => .skip (.drawn _) fun turns _ => ?_
    refine .skip (.note _) fun _ _ => .pushCoverable (.pure ?_)
    have hfills := Element.fills_cornered (e := (d₁.push hole).fresh .screw screwSize screwSize) hinside
      (Prod.ext hw.symm hh.symm)
    exact (hd₁.pushQuiet (Element.quiet_of_actions_eq_nil hactions)).addCovered rfl
      (Element.quiet_of_release rfl) Change.noConfusion
      (hfills.alike rfl rfl rfl rfl rfl) CoverRole.noConfusion
  clear_value screwed
  have hsettled : ∀ waits, Works (d.withGrid grid).tick (settled waits) fun _ d' =>
      d'.Records held room none := by
    intro waits
    unfold settled
    split
    · refine .assoc (.readSession fun s _ => .assoc (.skip (.sessionDrawn _) fun strict _ => .assoc ?_))
      refine .bind (depositPlug .circle color KeepsExact.screwHoleSize_mem KeepsExact.screwHoleSize_mem
        _ _ _ htick) fun _ d₁ hd₁ => ?_
      exact .assoc (.modifyDraft (hscrewed _ _ (hd₁.congr rfl rfl rfl rfl rfl) rfl))
    · exact .answer (hscrewed _ _ htick rfl)
  split
  · exact hsettled true
  · exact .skip (.sessionDrawn _) fun waits _ => hsettled waits

lemma screw : KeepsRecords Technique.screw :=
  .bind (.still (.drawn _)) fun count => repeatPlacing placeScrew count true

/-! ## Round sockets and tumblers -/

lemma depositHalves (color : Option UInt8) : ∀ {halves : List (Shape × Number × Number)},
    (∀ half ∈ halves, half.2.1 ∈ Side.sizes ∧ half.2.2 ∈ Side.sizes) →
      KeepsRecords (Technique.depositHalves color halves)
  | [], _ => .pure _
  | (shape, width, height) :: others, hsizes => by
    obtain ⟨⟨hwidth, hheight⟩, hothers⟩ := List.forall_mem_cons.mp hsizes
    have rest : ∀ chosen, KeepsRecords (do
        Making.depositPlug shape width height chosen
        Technique.depositHalves color others) := fun chosen =>
      .bind (depositPlug shape chosen hwidth hheight) fun _ => depositHalves color hothers
    cases color with
    | none => exact .bind (.still .randomColor) rest
    | some color => exact .bind (.pure color) rest

lemma semicircle : KeepsRecords Technique.semicircle := by
  refine fun held room d hd => .skip (.choose _) fun chosen hchosen => ?_
  have hsize : chosen.getD 1.5 ∈ semicircleSizes := by
    cases chosen with
    | none => exact List.mem_cons_self
    | some size => exact hchosen size rfl
  obtain ⟨hwhole, hhalf⟩ := KeepsExact.sizes_semicircle _ hsize
  generalize chosen.getD 1.5 = size at *
  refine .allocate (fun _ => .skip (.note _) fun _ _ => .pure hd) fun r grid hclaims hw hh => ?_
  have hfills := Element.fills_centered (e := (d.withGrid grid).fresh .circle size size)
    (Grid.inBounds_of_isFree hclaims.free) hwhole hwhole hw hh
  refine .skip .randomColor fun color _ => .skip (.sessionDrawn _) fun strict _ => .newSocket ?_
  refine .skip (.note _) fun _ _ => .pushCoverable (.skip (.sessionDrawn _) fun sideways _ => ?_)
  refine .bind (depositHalves _ ?_ held room _ ?_) fun _ _ hd' => .pure hd'
  · cases sideways <;> simp [hwhole, hhalf]
  · exact (hd.claim hclaims).addCovered rfl (Element.quiet_of_actions_eq_nil rfl) Change.noConfusion
      (hfills.alike rfl rfl rfl rfl rfl) CoverRole.noConfusion

lemma tumbler : KeepsRecords Technique.tumbler := by
  have hmem := KeepsExact.tumblerSize_mem
  refine fun held room d hd => .allocate (fun _ => .skip (.note _) fun _ _ => .pure hd)
    fun r grid hclaims hw hh => ?_
  have hfills := Element.fills_centered (e := (d.withGrid grid).fresh .tumbler tumblerSize tumblerSize)
    (Grid.inBounds_of_isFree hclaims.free) hmem hmem hw hh
  refine .skip .randomColor fun color _ => .newSocket (.skip (.note _) fun _ _ => .pushCoverable ?_)
  refine .bind (depositPlug .key color hmem hmem held room _ ?_) fun _ _ hd' => .pure hd'
  exact (hd.claim hclaims).addCovered rfl (Element.quiet_of_actions_eq_nil rfl) Change.noConfusion
    (hfills.alike rfl rfl rfl rfl rfl) CoverRole.noConfusion

/-! ## Switches -/

/-- **A new switch** fills its cells from the corner. -/
lemma fills_newSwitch {d : Desk} (hr : r.inBounds = true) (hw : r.w = (Shape.switch.footprint 1 1).1)
    (hh : r.h = (Shape.switch.footprint 1 1).2) (target : Nat) (color : Color) :
    Element.Fills (({ (d.fresh .switch 1 1).cornered r with color }).interact .tap .state
      (Int32.ofNat target)) r :=
  (Element.fills_cornered (e := d.fresh .switch 1 1) hr (Prod.ext hw.symm hh.symm)).alike rfl rfl rfl rfl
    rfl

lemma placeSwitch (first : Bool) : KeepsRecords (Technique.placeSwitch first) := by
  refine fun held room d hd => .allocate (fun _ => .pure hd) fun r grid hclaims hw hh => ?_
  refine .skip (.drawn _) fun target _ => .newSwitch fun color => .skip (.note _) fun _ _ => ?_
  refine .pushCoverable (.pure ?_)
  exact (hd.claim hclaims).addCovered rfl (Element.quiet_of_actions_eq_nil rfl) Change.noConfusion
    (fills_newSwitch (Grid.inBounds_of_isFree hclaims.free) hw hh target color) CoverRole.noConfusion

lemma switch : KeepsRecords Technique.switch :=
  .bind (.still (.drawn _)) fun count => repeatPlacing placeSwitch count true

/-! ## Linked switches -/

/-- **An element waits for a button,** by which it is changed, and is recorded then. -/
lemma works_coverAfterButton {e : Element} {action : Action} {change : Element → Element}
    {role : CoverRole} {next : Unit → Making β} (hd : d.Records (e.id ::ₘ held) (r :: room) none)
    (hquiet : e.Quiet) (hmove : e.change ≠ .move) (hfills : e.Fills r) (hkept : e.Kept (change e))
    (hfills' : (change e).Fills r) (hbutton : ∀ b : Element, b.actions = [action] → b.Quiet)
    (hrole : role ≠ .virtualArea) (hnext : ∀ u, KeepsRecords (next u)) :
    Works (d.push e) (do
        let button ← Remote.addButton action
        if button.isSome then
          Making.modifyElement d.elements.length change
        Making.cover d.elements.length role >>= next) fun _ d' => d'.Records held room none := by
  have hcovered : ∀ {d₁ : Desk} {e : Element}, d₁.Records held (r :: room) none →
      d₁.Pending d.elements.length e false → e.change ≠ .move → e.Fills r →
      Works d₁ (Making.cover d.elements.length role >>= next) fun _ d' => d'.Records held room none :=
    fun hd₁ hpending hmove hfills =>
      .cover hpending.element (hnext _ _ _ _ (hd₁.cover hpending hmove hfills hrole))
  have hd₁ := hd.pushQuiet hquiet
  have hpending := Pending.of_push hd hquiet
  refine .addButton (fun _ => hcovered hd₁ hpending hmove hfills)
    fun r' grid b hclaims hid hactions _ => .modifyDraft ?_
  have hquiet' := hbutton b hactions
  have hd₂ := (hd₁.claim hclaims).of_cons.add hid hquiet'
  have hpending' : ((((d.push e).withGrid grid).tick).push b).Pending d.elements.length e false :=
    Pending.pushQuiet ⟨hpending.element, hpending.uncovered, hpending.remote_iff, hpending.plain⟩ hquiet'
  refine hcovered (hd₂.modify fun e' he' => ?_) (hpending'.modify hkept) (mt hkept.moves hmove) hfills'
  obtain rfl := Option.some.inj (hpending'.element.symm.trans he')
  exact hkept

lemma placeLinked (pattern : TargetPattern) (target : Nat) :
    KeepsRecords (Technique.placeLinked pattern target) := by
  refine fun held room d hd => .allocate (fun _ => .pure hd)
    fun r grid hclaims hw hh => .newSwitch fun color => ?_
  have hfills := fills_newSwitch (d := d.withGrid grid) (Grid.inBounds_of_isFree hclaims.free) hw hh target
    color
  extract_lets plain answered
  have hanswered : ∀ u, KeepsRecords (answered u) := fun _ => .pure _
  clear_value answered
  split
  · refine .skip .randomColor fun ball _ => .push ?_
    refine works_coverAfterButton ((hd.claim hclaims).tick .switch) (Element.quiet_of_actions_eq_nil rfl)
      Change.noConfusion (hfills.alike rfl rfl rfl rfl rfl) (.of_stays ⟨rfl, rfl, rfl, rfl, rfl, rfl⟩ rfl
      Change.noConfusion) (hfills.alike rfl rfl rfl rfl rfl) (fun b hactions => ?_) CoverRole.noConfusion
      hanswered
    exact (Element.inert_of_actions_eq_singleton hactions trivial).quiet
  · refine .pushCoverable (hanswered _ _ _ _ ?_)
    exact (hd.claim hclaims).addCovered rfl (Element.quiet_of_actions_eq_nil rfl) Change.noConfusion hfills
      CoverRole.noConfusion

lemma placeAllLinked (pattern : TargetPattern) :
    ∀ targets, KeepsRecords (Technique.placeAllLinked pattern targets)
  | [] => .pure _
  | target :: targets => by
    refine .bind (placeLinked pattern target) fun placed => ?_
    cases placed with
    | none => exact .pure _
    | some id => exact .bind (placeAllLinked pattern targets) fun _ => .pure _

/-- A master is linked to others, and that is all that it does. -/
lemma placeMaster (linked : List String) : KeepsRecords (Technique.placeMaster linked) := by
  refine fun held room d hd => .allocate (fun _ => .last (.skip (.note _) fun _ _ => .pure hd))
    fun r grid hclaims hw hh => .newSwitch fun color => .last (.pushCoverable (.pure ?_))
  have hfills := fills_newSwitch (d := d.withGrid grid) (Grid.inBounds_of_isFree hclaims.free) hw hh 1 color
  have hlinks : ∀ {e : Element}, e.actions = linked.map Action.link → e.Quiet := fun hactions =>
    Element.Inert.quiet fun a ha => by
      obtain ⟨id, -, rfl⟩ := List.mem_map.mp (hactions ▸ ha)
      trivial
  exact (hd.claim hclaims).addCovered rfl (hlinks rfl) Change.noConfusion
    (hfills.alike rfl rfl rfl rfl rfl) CoverRole.noConfusion

lemma switchPattern : KeepsRecords Technique.switchPattern := by
  refine .bind (.still (.drawn _)) fun number => .bind (.still (.drawn _)) fun count => ?_
  refine .bind (.still (.drawn _)) fun targets => .bind (.still (.note _)) fun _ => ?_
  refine .bind (placeAllLinked _ targets) fun linked => ?_
  split
  · exact .pure _
  · exact .bind (placeMaster linked) fun _ => .pure _

/-! ## Mazes -/

lemma works_recordedMaze : ∀ (sizes : List (Nat × Nat)) {d : Desk}, d.Records held room none →
    Works d (Technique.allocateMaze sizes) fun found d' => (found = none → d'.Records held room none) ∧
      ∀ maze ∈ found, (maze.1, maze.2.1) ∈ sizes ∧ d'.Records held (maze.2.2 :: room) none ∧
        maze.2.2.inBounds = true ∧ maze.2.2.w = maze.1 ∧ maze.2.2.h = maze.2.1 + 1
  | [], _, hd => .pure ⟨fun _ => hd, fun maze hmaze => absurd hmaze (Option.not_mem_none maze)⟩
  | (width, height) :: others, d, hd => by
    refine .allocateCells (fun _ => ?_) fun r grid hclaims hw hh => .pure ⟨nofun, fun maze hmaze => ?_⟩
    · refine (works_recordedMaze others hd).weaken fun found d' h => ⟨h.1, fun maze hmaze => ?_⟩
      obtain ⟨hmem, hrest⟩ := h.2 maze hmaze
      exact ⟨List.mem_cons_of_mem _ hmem, hrest⟩
    · obtain rfl := Option.mem_some_iff.mp hmaze
      exact ⟨List.mem_cons_self, hd.claim hclaims, Grid.inBounds_of_isFree hclaims.free, hw, hh⟩

lemma pushWalls (r : Rect) (color : UInt8) : ∀ runs, KeepsRecords (Technique.pushWalls r color runs)
  | [] => .pure _
  | _ :: others => fun held room _ hd => .newElement (.push (pushWalls r color others held room _
      (hd.add rfl (Element.quiet_of_actions_eq_nil rfl))))

/-- **The corridor of a maze** is a cell of it, and goes with the ball. -/
lemma maze : KeepsRecords Technique.maze := by
  refine fun held room d hd => .skip (.drawn _) fun first _ => ?_
  refine .bind (works_recordedMaze _ hd) fun found d₁ hfound => ?_
  rcases found with _ | ⟨width, height, r⟩
  · exact .skip (.note _) fun _ _ => .pure (hfound.1 rfl)
  obtain ⟨hsize, hd₁, hr, hw, hh⟩ := hfound.2 _ rfl
  have hmaze := List.mem_of_mem_drop hsize
  obtain ⟨hwidth, hheight⟩ := KeepsExact.mazeSizes_pos _ hmaze
  dsimp only at hd₁ hr hw hh hwidth hheight
  refine .skip (.session (keeps_carveMaze hwidth hheight)) fun layout hm => .skip (.note _) fun _ _ => ?_
  refine .skip (.noteRows _) fun _ _ => .skip .randomColor fun wallColor _ => ?_
  refine .bind (pushWalls r wallColor _ _ _ d₁ hd₁) fun _ d₂ hd₂ => .skip .randomColor fun color _ => ?_
  refine .newElement (.push (.newElement (.push ?_)))
  have hquiet : ∀ {e : Element}, e.actions = [] → e.Quiet := Element.quiet_of_actions_eq_nil
  have hentrance : layout.entrance.1 < r.w ∧ layout.entrance.2 < r.h :=
    ⟨hw ▸ hm.entrance.1, hh ▸ Nat.lt_succ_of_lt hm.entrance.2⟩
  have hinside : ∀ c ∈ layout.corridors, ∀ x y,
      Rect.covers ⟨r.x + c.1, r.y + c.2, 1, 1⟩ x y = true → r.covers x y = true := by
    intro c hc x y hxy
    obtain ⟨hx, hy⟩ := MazeLayout.mem_corridors hc
    rw [hm.width_eq] at hx
    rw [hm.height_eq] at hy
    rw [Rect.covers_iff] at hxy ⊢
    dsimp only at hxy
    omega
  -- the socket at the exit is put on the panel first, and then the ball
  have hheld : ∀ {exit ball : Element}, exit.id = d₂.nextId exit.shape → exit.actions = [] →
      ball.id = (d₂.tick.push exit).nextId ball.shape →
      (d₂.tick.push exit).tick.Records (ball.id ::ₘ held) (r :: room) none :=
    fun {exit ball} hexit hactions hball => hball ▸ (hd₂.add hexit (hquiet hactions)).tick ball.shape
  refine .skip (.choose _) fun corridor hcorridor => ?_
  cases corridor with
  | none => exact .pure (Records.of_cons (Records.pushQuiet (hheld rfl rfl rfl) (hquiet rfl)))
  | some c =>
    refine .modifyDraft (.pure ?_)
    refine Records.addVirtual (.of_cons (Records.pushQuiet (hheld rfl rfl rfl) (hquiet rfl)))
      (.of_push (hheld rfl rfl rfl) (hquiet rfl)) ⟨⟨rfl, rfl⟩, r, ⟨hd₂.mem_claims, ⟨_, hmaze, hw, hh⟩, ?_⟩, ?_⟩
    · refine ⟨_, List.mem_append_right _ (List.mem_singleton.mpr rfl), rfl, rfl, ?_⟩
      exact (Keeping.sits_ball hr hentrance rfl rfl rfl rfl rfl).lies
    · exact hinside c (hcorridor c rfl)

/-! ## Groups -/

/-- **The tiles of a group:** the ids of the plugs that are among them are held until they are placed. -/
lemma works_recordedTiles (panel : Nat) (model : Element) (r : Rect) (tile : Nat × Nat)
    (keys : List ((Nat × Nat) × Plug)) : ∀ (cells : List (Nat × Nat)) {d : Desk},
      d.Records (((cells.filterMap (keys.lookup ·)).map (·.element.id) : List String) + held) room none →
      (∀ plug ∈ cells.filterMap (keys.lookup ·), plug.Waits) →
      Works d (Technique.placeTiles panel model r tile keys cells) fun _ d' => d'.Records held room none
  | [], _, hd, _ => .pure hd.of_add
  | (row, column) :: cells, d, hd, hplugs => by
    unfold Technique.placeTiles
    cases hkey : keys.lookup (row, column) with
    | some plug =>
      rw [List.filterMap_cons_some (by exact hkey)] at hd hplugs
      obtain ⟨hplug, hothers⟩ := List.forall_mem_cons.mp hplugs
      have hactions : (disguise plug.element).actions = [.release plug.element.id] :=
        congrArg (· ++ [Action.release plug.element.id]) hplug.actions_eq
      rw [List.map_cons, ← Multiset.cons_coe, Multiset.cons_add] at hd
      refine .bind (recordPlacement plug panel _ room d hd) fun _ d₁ hd₁ => .push ?_
      refine works_recordedTiles panel model r tile keys cells ?_ hothers
      exact Records.pushQuiet hd₁ (Element.quiet_of_release hactions)
    | none =>
      rw [List.filterMap_cons_none (by exact hkey)] at hd hplugs
      refine .newElement (.push (works_recordedTiles panel model r tile keys cells ?_ hplugs))
      exact hd.add rfl (Element.quiet_of_actions_eq_nil rfl)

/-- Plugs in hand, in any order of the cells. -/
lemma works_recordedKeys (panel : Nat) (model : Element) (r : Rect) (tile : Nat × Nat)
    {plugs : List Plug} (hd : d.Records ((plugs.map (·.element.id) : List String) + held) room none)
    (hplugs : ∀ plug ∈ plugs, plug.Waits) {cells shuffled : List (Nat × Nat)}
    (hperm : shuffled.Perm cells) (hnodup : cells.Nodup) (hlength : plugs.length ≤ cells.length) :
    Works d (Technique.placeTiles panel model r tile (shuffled.zip plugs) cells) fun _ d' =>
      d'.Records held room none := by
  have hkeys : (cells.filterMap ((shuffled.zip plugs).lookup ·)).Perm plugs := by
    refine (hperm.symm.filterMap _).trans (.of_eq (filterMap_lookup_zip ?_ ?_))
    · exact hperm.nodup_iff.mpr hnodup
    · rwa [hperm.length_eq]
  refine works_recordedTiles panel model r tile _ cells ?_ fun plug hplug => hplugs plug (hkeys.subset hplug)
  rw [Multiset.coe_eq_coe.mpr (hkeys.map _)]
  exact hd

/-- **A group holds the plugs that it hides** until there is room for it. -/
lemma group : KeepsRecords Technique.group := by
  refine fun held room d hd => .draft (.readSession fun s _ => .withdrawWhere (fun _ => ?_)
    fun plug rest hpool _ _ => ?_)
  · exact .skip (.note _) fun _ _ => .pure hd
  have hplug := hd.waits plug (hpool ▸ Multiset.mem_cons_self plug rest)
  have hheld := hd.withdraw hpool
  refine .skip (.draws (Draws.keeps_inRange _ _)) fun rows hrows => ?_
  refine .skip (.draws (Draws.keeps_inRange _ _)) fun columns hcolumns => ?_
  refine .bind (works_allocateBlock _ _ _) fun found d₁ hfound => ?_
  rcases found with _ | ⟨rows', columns', r⟩
  · obtain rfl := hfound.1 rfl
    exact .skip (.note _) fun _ _ => .deposit (.pure (hheld.deposit hplug))
  obtain ⟨hsize, -, grid, hclaims, rfl⟩ := hfound.2 _ rfl
  have hblock : TilePattern.block rows' columns' ≠ [] := by
    simp only [List.mem_cons, List.not_mem_nil, or_false, Prod.mk.injEq] at hsize
    exact TilePattern.block_ne_nil (by omega) (by omega)
  have hd₁ := (hheld.claim hclaims).of_cons
  refine .skip (.drawn _) fun number _ => .skip (.draws (TilePattern.keeps_cells _ hblock)) ?_
  rintro cells ⟨hcells, hnodup⟩
  -- whichever keys there are, their ids are held
  have hkeys : ∀ (keys : List Plug) (d₁ : Desk),
      d₁.Records ((keys.map (·.element.id) : List String) + held) room none →
      (∀ key ∈ keys, key.Waits) → keys.length ≤ cells.length → Works d₁ (do
        let shuffled ← Draws.shuffle cells
        Making.note (.groupPlaced rows' columns' (TilePattern.values.getD number .all) r.x r.y
          keys.length)
        Technique.placeTiles d.draft.index plug.element r plug.element.footprint
          (shuffled.zip keys) cells
        Pure.pure true) fun _ d' => d'.Records held room none := by
    intro keys d₁ hd₁ hwaits hlength
    refine .skip (.draws (Draws.keeps_shuffle cells)) fun shuffled hperm => .skip (.note _) fun _ _ => ?_
    exact .bind (works_recordedKeys _ plug.element r _ hd₁ hwaits hperm hnodup hlength)
      fun _ _ hd' => .pure hd'
  have hfirst : 1 ≤ cells.length := List.length_pos_iff.mpr hcells
  refine .secondKey (hkeys [plug] _ ?_ (List.forall_mem_singleton.mpr hplug) hfirst)
    fun second rest' hmany hpool' _ _ => hkeys [plug, second] _ ?_ ?_ (by simp; omega)
  · rw [List.map_singleton, Multiset.coe_singleton, Multiset.singleton_add]
    exact hd₁
  · have hsecond := hd₁.withdraw hpool'
    rw [Multiset.cons_swap] at hsecond
    rw [List.map_cons, List.map_singleton, ← Multiset.cons_coe, Multiset.coe_singleton, Multiset.cons_add,
      Multiset.singleton_add]
    exact hsecond
  · exact List.forall_mem_cons.mpr ⟨hplug, List.forall_mem_singleton.mpr
      (hd₁.waits second (hpool' ▸ Multiset.mem_cons_self second rest'))⟩

/-- **Every technique keeps records.** -/
lemma technique : ∀ kind : TechniqueKind, KeepsRecords kind.apply
  | .group => group
  | .hole => hole
  | .maze => maze
  | .screw => screw
  | .semicircle => semicircle
  | .switch => switch
  | .switchPattern => switchPattern
  | .tumbler => tumbler

end KeepsRecords

end Making

end PanelPuzzle
