import PanelPuzzle.Proofs.Generation.Populating
import PanelPuzzle.Proofs.Maze.Walls
import PanelPuzzle.Proofs.Technique.Laying
/-!
# The walls of a maze on a panel

A maze is put on a claimed rectangle with one row more than the maze has.  Each run of walls becomes one tile,
so what is said of the runs of a layout holds of the panel, moved by the corner of the rectangle.

* `Element.Takes`, `Element.Meets` — an element takes a whole cell, or reaches into it.  A tile takes the
  cells that it reaches into.
* `MazeLayout.WalledIn` — walls stand on the closed cells of a layout and nowhere else.
* `Technique.mazeGround` — the rectangle of a maze, and the layout carved for it.
* `wallRuns_exact` — **the walls of every maze that is put on a panel.**
-/

namespace PanelPuzzle

open Making Technique Desk

/-! ## Elements and cells -/

namespace Element

/-- **An element takes a whole cell.** -/
def Takes (e : Element) (x y : Nat) : Prop := ∃ s ∈ e.extent?, (Rect.extent ⟨x, y, 1, 1⟩).Within 0 s

/-- **An element reaches into a cell,** beyond its edges. -/
def Meets (e : Element) (x y : Nat) : Prop :=
  ∃ s ∈ e.extent?, s.left < x + 1 ∧ x < s.right ∧ s.top < y + 1 ∧ y < s.bottom

namespace IsTile

variable {e : Element} {r : Rect} {x y : Nat}

/-- **A tile takes its cells.** -/
lemma takes (h : e.IsTile r) (hr : r.inBounds = true) (hc : r.covers x y = true) : e.Takes x y := by
  have hcell := Rect.covers_iff.mp hc
  refine ⟨r.extent, h.extent?_eq hr, Rect.extent_within ?_ ?_ ?_ ?_⟩ <;> dsimp only <;> omega

/-- A tile reaches into no other cell. -/
lemma covers_of_meets (h : e.IsTile r) (hr : r.inBounds = true) (hc : e.Meets x y) :
    r.covers x y = true := by
  obtain ⟨s, hs, hcell⟩ := hc
  obtain rfl := Option.some.inj ((h.extent?_eq hr).symm.trans hs)
  obtain ⟨hleft, hright, htop, hbottom⟩ := hcell
  dsimp only [Rect.extent] at hleft hright htop hbottom
  norm_cast at hleft hright htop hbottom
  exact Rect.covers_iff.mpr (by omega)

end IsTile

end Element

/-! ## Layouts on a panel -/

namespace MazeLayout

/-- The cells of a run on a panel. -/
def WallRun.rect (run : WallRun) (r : Rect) : Rect := ⟨r.x + run.x, r.y + run.y, run.length, 1⟩

/-- **The walls of a layout stand in a rectangle,** on its closed cells and nowhere else. -/
structure WalledIn (m : MazeLayout) (r : Rect) (walls : List Element) : Prop where
  /-- There is one wall for each run. -/
  tiles : List.Forall₂ (fun run wall => wall.IsTile (run.rect r)) m.wallRuns walls
  closedCells : ∀ c, m.Inside c → m.isOpen c = false → ∃ wall ∈ walls, wall.Takes (r.x + c.1) (r.y + c.2)
  openCells : ∀ c, m.isOpen c = true → ∀ wall ∈ walls, ¬ wall.Meets (r.x + c.1) (r.y + c.2)
  /-- The row under the layout stays free. -/
  buffer : ∀ x, ∀ wall ∈ walls, ¬ wall.Meets x (r.y + m.height)
  elsewhere : ∀ wall ∈ walls, ∀ x y, wall.Meets x y → ∃ c, m.Inside c ∧ x = r.x + c.1 ∧ y = r.y + c.2

variable {m : MazeLayout} {r : Rect} {run : WallRun} {walls : List Element}

lemma WallRun.covers_rect_iff {x y : Nat} : (run.rect r).covers x y = true ↔
    ∃ c, run.Covers c ∧ x = r.x + c.1 ∧ y = r.y + c.2 := by
  rw [Rect.covers_iff, rect]
  constructor
  · intro h
    dsimp only at h
    exact ⟨(x - r.x, y - r.y), ⟨by dsimp only; omega, by dsimp only; omega, by dsimp only; omega⟩,
      by dsimp only; omega, by dsimp only; omega⟩
  · rintro ⟨c, ⟨hy, hx⟩, rfl, rfl⟩
    dsimp only
    omega

lemma WallRun.inBounds_rect (hr : r.inBounds = true) (hw : r.w = m.width) (hh : m.height ≤ r.h)
    (hrun : run ∈ m.wallRuns) : (run.rect r).inBounds = true := by
  obtain ⟨hx, hy⟩ := Rect.inBounds_iff.mp hr
  obtain ⟨-, hright, hbottom⟩ := mem_wallRuns hrun
  exact Rect.inBounds_iff.mpr ⟨by rw [rect]; dsimp only; omega, by rw [rect]; dsimp only; omega⟩

section Tiles

variable (hr : r.inBounds = true) (hw : r.w = m.width) (hh : m.height ≤ r.h)
  (htiles : List.Forall₂ (fun run wall => wall.IsTile (run.rect r)) m.wallRuns walls)

include hr hw hh htiles

/-- **A closed cell is taken** by the wall of its run. -/
lemma exists_takes {c : Cell} (hinside : m.Inside c) (hclosed : m.isOpen c = false) :
    ∃ wall ∈ walls, wall.Takes (r.x + c.1) (r.y + c.2) := by
  obtain ⟨run, ⟨hrun, hc⟩, -⟩ := m.exactRuns_wallRuns.existsUnique_run c hinside hclosed
  obtain ⟨i, hi, rfl⟩ := List.getElem_of_mem hrun
  have hlt : i < walls.length := htiles.length_eq ▸ hi
  refine ⟨walls[i], List.getElem_mem hlt, (htiles.get hi hlt).takes ?_ ?_⟩
  · exact WallRun.inBounds_rect hr hw hh hrun
  · exact WallRun.covers_rect_iff.mpr ⟨c, hc, rfl, rfl⟩

/-- **What a wall reaches into is a closed cell** of its run. -/
lemma closed_of_meets {wall : Element} (hwall : wall ∈ walls) {x y : Nat} (hmeets : wall.Meets x y) :
    ∃ c, (m.Inside c ∧ m.isOpen c = false) ∧ x = r.x + c.1 ∧ y = r.y + c.2 := by
  obtain ⟨i, hi, rfl⟩ := List.getElem_of_mem hwall
  have hlt : i < m.wallRuns.length := htiles.length_eq ▸ hi
  have hrun := List.getElem_mem hlt
  have hcovers := (htiles.get hlt hi).covers_of_meets (WallRun.inBounds_rect hr hw hh hrun) hmeets
  obtain ⟨c, hc, hx, hy⟩ := WallRun.covers_rect_iff.mp hcovers
  exact ⟨c, m.exactRuns_wallRuns.closed _ hrun c hc, hx, hy⟩

/-- **A tile for each run walls a layout in.** -/
lemma WalledIn.of_tiles : m.WalledIn r walls := by
  refine ⟨htiles, fun c hinside hclosed => exists_takes hr hw hh htiles hinside hclosed,
    fun c hopen wall hwall hmeet => ?_, fun x wall hwall hmeet => ?_, fun wall hwall x y hmeet => ?_⟩
  · obtain ⟨c', ⟨-, hclosed⟩, hx, hy⟩ := closed_of_meets hr hw hh htiles hwall hmeet
    obtain rfl : c = c' := Prod.ext (by omega) (by omega)
    exact Bool.false_ne_true (hclosed.symm.trans hopen)
  · obtain ⟨c, ⟨⟨-, hbottom⟩, -⟩, -, hy⟩ := closed_of_meets hr hw hh htiles hwall hmeet
    omega
  · obtain ⟨c, ⟨hinside, -⟩, hx, hy⟩ := closed_of_meets hr hw hh htiles hwall hmeet
    exact ⟨c, hinside, hx, hy⟩

end Tiles

end MazeLayout

/-! ## Techniques -/

namespace Technique

/-- **The ground of a maze:** the rectangle that is claimed for it, and its layout. -/
def mazeGround : Making (Option (Rect × MazeLayout)) := do
  let first ← Draws.below mazeSizes.length
  match ← allocateMaze (mazeSizes.drop first) with
  | none => pure none
  | some (width, height, r) =>
    let layout ← carveMaze width height
    pure (some (r, layout))

/-- **A maze is put on a panel:** walls, then the socket and the ball. -/
structure MazeLaid (before after : Draft) (r : Rect) (m : MazeLayout) : Prop where
  size_mem : (m.width, m.height) ∈ mazeSizes
  carved : ∃ draws, m = (carveMaze m.width m.height draws).1
  free : before.grid.isFree r = true
  grid_eq : after.grid = before.grid.claim r
  /-- The rectangle has one row more than the maze. -/
  rect_eq : r.w = m.width ∧ r.h = m.height + 1
  elements_eq : ∃ walls socket ball, after.elements = before.elements ++ walls ++ [socket, ball] ∧
    socket.shape = .circle ∧ ball.shape = .circle ∧ m.WalledIn r walls

end Technique

namespace Making

variable {d : Desk} {r : Rect}

/-- **Room for a maze** is claimed, or nothing happens. -/
lemma works_mazeRoom : ∀ (sizes : List (Nat × Nat)) (d : Desk),
    Works d (Technique.allocateMaze sizes) fun found d' =>
      (found = none → d' = d) ∧ ∀ width height r, found = some (width, height, r) →
        (width, height) ∈ sizes ∧ r.w = width ∧ r.h = height + 1 ∧
          ∃ grid, d.Claims r grid ∧ d' = d.withGrid grid
  | [], _ => .pure ⟨fun _ => rfl, nofun⟩
  | (width, height) :: others, d => by
    refine .allocateCells (fun _ => ?_) fun r grid hclaims hw hh => ?_
    · refine (works_mazeRoom others d).weaken fun found d' h => ⟨h.1, fun _ _ _ hsome => ?_⟩
      exact (h.2 _ _ _ hsome).imp_left (List.mem_cons_of_mem _)
    · refine .pure ⟨nofun, fun _ _ _ hsome => ?_⟩
      cases hsome
      exact ⟨List.mem_cons_self, hw, hh, grid, hclaims, rfl⟩

/-- **The walls of a maze** are one tile for each run. -/
lemma works_walls (r : Rect) (color : UInt8) : ∀ (runs : List MazeLayout.WallRun) (d : Desk),
    Works d (Technique.pushWalls r color runs) fun _ d' => d'.draft.grid = d.draft.grid ∧
      ∃ walls, d'.elements = d.elements ++ walls ∧
        List.Forall₂ (fun run wall => wall.IsTile (run.rect r)) runs walls
  | [], d => .pure ⟨rfl, [], (List.append_nil _).symm, .nil⟩
  | run :: others, d => by
    refine .newElement (.push ((works_walls r color others _).weaken fun _ d' h => ?_))
    obtain ⟨hgrid, walls, helements, htiles⟩ := h
    refine ⟨hgrid, _ :: walls, helements.trans (List.append_assoc _ _ _), .cons ?_ htiles⟩
    exact ⟨rfl, rfl, rfl, rfl, rfl⟩

/-- A carved layout has the size that was asked for. -/
lemma keeps_carved {width height : Nat} (hw : 2 ≤ width) (hh : 1 ≤ height) :
    Keeps (fun _ => True) (carveMaze width height) fun m =>
      m.width = width ∧ m.height = height ∧ ∃ draws, m = (carveMaze width height draws).1 :=
  fun draws _ =>
    have hm := (keeps_carveMaze hw hh draws trivial).1
    ⟨⟨hm.width_eq, hm.height_eq, draws, rfl⟩, trivial⟩

/-- **Two computations from the same workbench,** one of which is followed to its desk while the other one
tells something of it. -/
def Alongside {α β : Type} (d : Desk) (act : Making α) (told : Making β) (R : α → β → Desk → Prop) :
    Prop :=
  ∀ b : Workbench, b.desk = d → R (act b).1 (told b).1 (act b).2.desk

namespace Alongside

variable {α β γ : Type} {act : Making α} {next : α → Making β} {told : α → Making γ}
  {R : β → γ → Desk → Prop}

/-- They begin in the same way. -/
lemma bind {T : α → Desk → Prop} (h : Works d act T)
    (hnext : ∀ a d', T a d' → Alongside d' (next a) (told a) R) :
    Alongside d (act >>= next) (act >>= told) R := fun b hb => hnext _ _ (h b hb) _ rfl

lemma skip {T : α → Prop} (h : Still act T) (hnext : ∀ a, T a → Alongside d (next a) (told a) R) :
    Alongside d (act >>= next) (act >>= told) R := fun b hb => hnext _ (h b).1 _ ((h b).2.trans hb)

/-- There is nothing more to tell. -/
lemma pure {act : Making β} {c : γ} (h : Works d act fun a d' => R a c d') :
    Alongside d act (Pure.pure c) R := h

end Alongside

/-- **A maze** stands on its ground.  Without ground there is none. -/
lemma alongside_maze (d : Desk) : Alongside d Technique.maze mazeGround fun applied ground d' =>
    (ground = none → applied = false ∧ d' = d) ∧ ∀ r m, ground = some (r, m) →
      applied = true ∧ MazeLaid d.draft d'.draft r m := by
  refine .skip (.drawn _) fun first _ => .bind (works_mazeRoom _ d) fun found d₁ hfound => ?_
  rcases found with _ | ⟨width, height, r⟩
  · obtain rfl := hfound.1 rfl
    exact .pure (.skip (.note _) fun _ _ => .pure ⟨fun _ => ⟨rfl, rfl⟩, nofun⟩)
  obtain ⟨hsize, hw, hh, grid, hclaims, rfl⟩ := hfound.2 _ _ _ rfl
  have hsizes := List.mem_of_mem_drop hsize
  obtain ⟨hwidth, hheight⟩ := KeepsExact.mazeSizes_pos _ hsizes
  refine .skip (.session (keeps_carved hwidth hheight)) fun m hm => .pure ?_
  obtain ⟨rfl, rfl, hcarved⟩ := hm
  refine .skip (.note _) fun _ _ => .skip (.noteRows _) fun _ _ => .skip .randomColor fun wallColor _ => ?_
  refine .bind (works_walls r wallColor _ _) fun _ d₂ hwalls => .skip .randomColor fun color _ => ?_
  obtain ⟨hgrid, walls, helements, htiles⟩ := hwalls
  have hr := Grid.inBounds_of_isFree hclaims.free
  have hwalled : m.WalledIn r walls := .of_tiles hr hw (hh ▸ Nat.le_succ _) htiles
  refine .newElement (.push (.newElement (.push (.skip (.choose _) fun corridor _ => ?_))))
  -- a corridor may be coverable, and this is all that comes after the ball
  have hdone : ∀ {socket ball : Element} {d' : Desk}, socket.shape = .circle → ball.shape = .circle →
      d'.draft.grid = d₂.draft.grid → d'.elements = d₂.elements ++ [socket] ++ [ball] →
      (some (r, m) = none → true = false ∧ d' = d) ∧ ∀ r' m', some (r, m) = some (r', m') →
        true = true ∧ MazeLaid d.draft d'.draft r' m' := by
    intro socket ball d' hsocket hball hgrid' helements'
    refine ⟨nofun, fun r' m' heq => ⟨rfl, ?_⟩⟩
    cases heq
    refine ⟨hsizes, hcarved, hclaims.free, ?_, ⟨hw, hh⟩, walls, socket, ball, ?_, hsocket, hball, hwalled⟩
    · exact hgrid'.trans (hgrid.trans hclaims.grid_eq)
    · exact helements'.trans ((congrArg (· ++ [socket] ++ [ball]) helements).trans (List.append_assoc _ _ _))
  cases corridor with
  | none => exact .pure (hdone rfl rfl rfl rfl)
  | some c => exact .modifyDraft (.pure (hdone rfl rfl rfl rfl))

end Making

/-- **The runs of walls are exact,** for every layout, and so are the walls of every maze on a panel: they
stand on the closed cells of the layout that was carved, moved by the claimed rectangle, and neither on an
open cell nor in the row under the maze.  Where no maze is put, nothing changes. -/
theorem wallRuns_exact :
    (∀ m : MazeLayout, m.ExactRuns m.wallRuns) ∧ ∀ b : Workbench,
      ((mazeGround b).1 = none → (maze b).1 = false ∧ (maze b).2.draft = b.draft) ∧
      ∀ r m, (mazeGround b).1 = some (r, m) →
        (maze b).1 = true ∧ MazeLaid b.draft (maze b).2.draft r m := by
  refine ⟨MazeLayout.exactRuns_wallRuns, fun b => ?_⟩
  obtain ⟨hnone, hsome⟩ := alongside_maze b.desk b rfl
  exact ⟨fun h => (hnone h).imp_right (congrArg Desk.draft), hsome⟩

/-- An empty panel has ground for a maze. -/
theorem wallRuns_exact_new : ∃ m : MazeLayout,
    m.drawing = ["#######", "#X....#", "#####.#", "#...#.#", "#.#.#.#", "#.#...#", "#E#####"] ∧
      m.ExactRuns m.wallRuns ∧ m.wallRuns.length = 17 ∧
      (maze ⟨.new 1 "teal", Generation.Config.session {} (.ofWords fun _ => 0)⟩).1 = true ∧
      MazeLaid (.new 1 "teal")
        (maze ⟨.new 1 "teal", Generation.Config.session {} (.ofWords fun _ => 0)⟩).2.draft
        ⟨0, 0, 7, 8⟩ m := by
  have hground : (mazeGround ⟨.new 1 "teal", Generation.Config.session {} (.ofWords fun _ => 0)⟩).1.map
      (fun ground => (ground.1, ground.2.drawing, ground.2.wallRuns.length)) = some (⟨0, 0, 7, 8⟩,
        ["#######", "#X....#", "#####.#", "#...#.#", "#.#.#.#", "#.#...#", "#E#####"], 17) := by
    decide +kernel
  obtain ⟨⟨r, m⟩, hground, heq⟩ := Option.map_eq_some_iff.mp hground
  obtain ⟨rfl, hdrawing, hlength⟩ : r = _ ∧ m.drawing = _ ∧ m.wallRuns.length = _ := by simpa using heq
  obtain ⟨happlied, hlaid⟩ := (wallRuns_exact.2 _).2 _ m hground
  exact ⟨m, hdrawing, wallRuns_exact.1 m, hlength, happlied, hlaid⟩

end PanelPuzzle
