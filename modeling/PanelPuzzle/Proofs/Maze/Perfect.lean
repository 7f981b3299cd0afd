import PanelPuzzle.Proofs.Maze.Carving
/-!
# A carved maze is a tree

When carving has ended, an entrance is cut below a room and the exit is the cell that is farthest from it.
The entrance is one more leaf of the tree, and the exit was found on the way from there.

* `MazeLayout.Perfect` — all rooms, the passages between them and the entrance form a tree.
* `carveMaze_perfect` — **a carved maze is perfect.**
-/

namespace PanelPuzzle

variable {width height : Nat}

/-! ## What is found from the entrance -/

namespace MazeLayout

/-- A search only adds to what it has found. -/
lemma exists_spread_eq (m : MazeLayout) : ∀ (rounds distance : Nat) (frontier : List Cell)
    (found : List (Cell × Nat)), ∃ more, m.spread rounds distance frontier found = found ++ more
  | 0, _, _, found => ⟨[], (List.append_nil found).symm⟩
  | rounds + 1, distance, frontier, found => by
    unfold spread
    extract_lets reached fresh
    split
    · exact ⟨[], (List.append_nil found).symm⟩
    · obtain ⟨more, hmore⟩ := exists_spread_eq m rounds (distance + 1) fresh
        (found ++ fresh.map fun c => (c, distance + 1))
      exact ⟨_, hmore.trans (List.append_assoc _ _ _)⟩

/-- A search finds the cell from which it starts. -/
lemma lookup_reachable_self (m : MazeLayout) (c : Cell) : (m.reachable c).lookup c = some 0 := by
  obtain ⟨more, hmore⟩ := exists_spread_eq m (m.width * m.height) 0 [c] [(c, 0)]
  rw [reachable, hmore]
  simp

/-- A search does not look at the exit. -/
lemma spread_withExit (m : MazeLayout) (c : Cell) : ∀ (rounds distance : Nat) (frontier : List Cell)
    (found : List (Cell × Nat)),
    spread { m with exit := c } rounds distance frontier found = m.spread rounds distance frontier found
  | 0, _, _, _ => rfl
  | rounds + 1, distance, frontier, found => by
    unfold spread
    simp only [spread_withExit m c rounds]
    rfl

lemma reachable_withExit (m : MazeLayout) (c start : Cell) :
    reachable { m with exit := c } start = m.reachable start :=
  spread_withExit m c _ _ _ _

end MazeLayout

namespace Carving

/-- **The farthest cell was found,** if the entrance was. -/
lemma lookup_farthest {found : List (Cell × Nat)} {cells : List Cell} {entrance : Cell}
    (h : (found.lookup entrance).isSome) : (found.lookup (farthest found cells entrance)).isSome := by
  unfold farthest
  refine List.foldlRecOn (motive := fun best : Cell × Nat => (found.lookup best.1).isSome) cells _ h
    fun best hbest c _ => ?_
  split
  · rename_i d hd
    split
    · rw [hd]
      rfl
    · exact hbest
  · exact hbest

/-- **A maze is connected if its exit is the farthest cell.** -/
lemma isConnected_farthest (m : MazeLayout) :
    MazeLayout.isConnected
      { m with exit := farthest (m.reachable m.entrance) m.cells m.entrance } = true := by
  unfold MazeLayout.isConnected
  dsimp only
  rw [MazeLayout.reachable_withExit m (farthest (m.reachable m.entrance) m.cells m.entrance)]
  refine lookup_farthest ?_
  rw [MazeLayout.lookup_reachable_self]
  rfl

/-! ## The whole maze -/

/-- The maze of some open cells, with the entrance cut into the bottom wall. -/
def cut (width height : Nat) (opened : List Cell) : StateM Draws MazeLayout := do
  let bottom := height - 1
  let chosen ← Draws.choose (entrances width height opened)
  let opened := match chosen with
    | some _ => opened
    | none => opened ++ tunnel opened (bottom - 1)
  let entrance : Cell := (chosen.getD 1, bottom)
  let layout : MazeLayout :=
    { width, height, openCells := opened ++ [entrance], entrance, exit := entrance }
  pure { layout with exit := farthest (layout.reachable entrance) layout.cells entrance }

lemma carveMaze_eq : carveMaze width height = (do
    let s ← carving width height (2 * width * height)
    cut width height s.opened) := by
  unfold carveMaze
  simp only [walk_eq]
  rfl

/-- **With a place for an entrance no tunnel is dug,** and the exit is a cell that was found. -/
lemma keeps_cut {opened : List Cell} (h : entrances width height opened ≠ []) :
    Keeps (fun _ => True) (cut width height opened) fun m => ∃ x ∈ entrances width height opened,
      m.width = width ∧ m.height = height ∧ m.entrance = (x, height - 1) ∧
        m.openCells = opened ++ [m.entrance] ∧ m.isConnected = true := by
  refine .bind (Draws.keeps_choose_of_ne_nil h) fun chosen hchosen => ?_
  obtain ⟨x, hx, rfl⟩ := hchosen
  exact .pure ⟨x, hx, rfl, rfl, rfl, rfl, isConnected_farthest _⟩

/-- What is a place for an entrance. -/
lemma mem_entrances {opened : List Cell} {x : Nat} : x ∈ entrances width height opened ↔
    x + 1 < width ∧ x % 2 = 1 ∧ (x, height - 2) ∈ opened := by
  simp only [entrances, List.mem_filter, List.mem_range, Bool.and_eq_true, decide_eq_true_eq,
    List.contains_iff_mem]
  constructor
  · rintro ⟨hx, hodd, hopen⟩
    exact ⟨by omega, hodd, hopen⟩
  · rintro ⟨hx, hodd, hopen⟩
    exact ⟨by omega, hodd, hopen⟩

end Carving

open Carving MazeLayout

/-- **A perfect maze:** all of its rooms, one cell less between them, and an entrance below a room are open
and form a tree.  Everything else is a wall. -/
structure MazeLayout.Perfect (width height : Nat) (m : MazeLayout) : Prop where
  width_eq : m.width = width
  height_eq : m.height = height
  /-- The open cells are the rooms, the passages between rooms and the entrance. -/
  openCells : ∃ passages : List Cell,
    passages.length + 1 = (width - 1) / 2 * ((height - 1) / 2) ∧
    (∀ c ∈ passages, ∃ a b, Joined width height a b ∧ c = between a b) ∧
    m.openCells.Perm (rooms width height ++ passages ++ [m.entrance])
  /-- No cell is opened twice. -/
  nodup : m.openCells.Nodup
  entrance : m.entrance.2 + 1 = height ∧ (m.entrance.1, height - 2) ∈ rooms width height
  /-- The border is closed but for the entrance. -/
  border : ∀ c, m.isOpen c = true → c ≠ m.entrance →
    0 < c.1 ∧ c.1 + 1 < width ∧ 0 < c.2 ∧ c.2 + 1 < height
  /-- One simple path of open cells joins any two of them. -/
  existsUnique_path : ∀ a b, m.isOpen a = true → m.isOpen b = true →
    ∃! p : m.graph.Walk a b, p.IsPath
  isConnected : m.isConnected = true

/-- **The cells that carving has opened at its end and an entrance below a room** make a perfect maze. -/
lemma Carving.Sound.perfect {s : Walk} (h : Sound width height s) (hpath : s.path = []) {m : MazeLayout}
    {x : Nat} (hx : x ∈ entrances width height s.opened) (hodd : Odd height) (hwidth : m.width = width)
    (hheight : m.height = height) (hentrance : m.entrance = (x, height - 1))
    (hcells : m.openCells = s.opened ++ [m.entrance]) (hconnected : m.isConnected = true) :
    m.Perfect width height := by
  obtain ⟨hlt, hxodd, habove⟩ := mem_entrances.mp hx
  obtain ⟨k, rfl⟩ := hodd
  have hinner := h.inner habove
  dsimp only at hinner
  have hroom : (x, 2 * k + 1 - 2) ∈ rooms width (2 * k + 1) := by
    rw [mem_rooms]
    dsimp only
    omega
  have hnew : m.entrance ∉ s.opened := by
    intro hmem
    have := h.inner hmem
    rw [hentrance] at this
    dsimp only at this
    omega
  have htree : IsTree m.openCells := by
    rw [hcells]
    refine h.isTree.append habove hnew ?_ fun b hb hbeside => ?_
    · rw [hentrance]
      unfold Beside
      dsimp only
      omega
    · have := h.inner hb
      rw [hentrance] at hbeside
      unfold Beside at hbeside
      dsimp only at hbeside
      exact Prod.ext (by dsimp only; omega) (by dsimp only; omega)
  have hopen : ∀ {c : Cell}, m.isOpen c = true ↔ c ∈ m.openCells := List.contains_iff_mem
  have hcount := (h.perm_rooms hpath).length_eq
  have hsplit := List.filter_append_perm (isRoom width (2 * k + 1)) s.opened
  refine
    { width_eq := hwidth, height_eq := hheight, openCells := ?_, nodup := ?_, entrance := ?_
      border := ?_, existsUnique_path := ?_, isConnected := hconnected }
  · refine ⟨s.opened.filter fun c => !isRoom width (2 * k + 1) c, ?_, fun c hc => ?_, ?_⟩
    · have hlength := hsplit.length_eq
      have hopened := h.length_opened
      rw [List.length_append] at hlength
      rw [length_rooms] at hcount
      rw [roomsIn] at hcount hopened
      omega
    · obtain ⟨hmem, hno⟩ := List.mem_filter.mp hc
      rcases h.passage c hmem with hyes | ⟨a, b, hab, -, -, heq⟩
      · rw [isRoom_iff.mpr hyes] at hno
        cases hno
      · exact ⟨a, b, hab, heq⟩
    · rw [hcells]
      exact (hsplit.symm.trans ((h.perm_rooms hpath).append_right _)).append_right _
  · rw [hcells]
    have hnodup := h.nodup.concat hnew
    rwa [List.concat_eq_append] at hnodup
  · rw [hentrance]
    exact ⟨by dsimp only; omega, hroom⟩
  · intro c hc hne
    rw [hopen, hcells] at hc
    rcases List.mem_append.mp hc with hc | hc
    · exact h.inner hc
    · exact absurd (List.mem_singleton.mp hc) hne
  · intro a b ha hb
    exact htree.existsUnique_path (hopen.mp ha) (hopen.mp hb)

/-- **A carved maze is perfect.**  Carving ends after twice the number of rooms less one turns, the entrance
is cut below a room that is open then, so that no tunnel is needed, and the maze is a tree of all rooms. -/
theorem carveMaze_perfect {width height : Nat} (hw : 3 ≤ width) (hh : 3 ≤ height) (hodd : Odd height)
    (draws : Draws) :
    (∀ n, (carving width height n draws).1.path = [] ↔
      2 * ((width - 1) / 2 * ((height - 1) / 2)) - 1 ≤ n) ∧
    (∃ x ∈ entrances width height (carving width height (turnCount width height) draws).1.opened,
      (carveMaze width height draws).1.openCells =
        (carving width height (turnCount width height) draws).1.opened ++ [(x, height - 1)]) ∧
    (carveMaze width height draws).1.Perfect width height := by
  have henough : turnCount width height ≤ 2 * width * height := by
    have hrooms := Nat.mul_le_mul (show (width - 1) / 2 ≤ width by omega)
      (show (height - 1) / 2 ≤ height by omega)
    rw [turnCount, Nat.mul_assoc]
    omega
  have hpath := (carving_ends hw hh _ draws).mpr (Nat.le_refl (turnCount width height))
  obtain ⟨hwalked, -⟩ := keeps_carving hw hh (turnCount width height) draws trivial
  have hmaze : carveMaze width height draws =
      cut width height (carving width height (turnCount width height) draws).1.opened
        (carving width height (turnCount width height) draws).2 := by
    rw [carveMaze_eq, ← carving_eq hw hh henough]
    rfl
  rw [hmaze]
  generalize carving width height (turnCount width height) draws = carved at *
  obtain ⟨k, rfl⟩ := id hodd
  have hplace : 1 ∈ entrances width (2 * k + 1) carved.1.opened := by
    refine mem_entrances.mpr ⟨by omega, rfl, hwalked.sound.rooms_subset hpath (mem_rooms.mpr ?_)⟩
    dsimp only
    omega
  obtain ⟨⟨x, hx, hwidth, hheight, hentrance, hcells, hconnected⟩, -⟩ :=
    keeps_cut (List.ne_nil_of_mem hplace) carved.2 trivial
  refine ⟨fun n => carving_ends hw hh n draws, ⟨x, hx, hentrance ▸ hcells⟩, ?_⟩
  exact hwalked.sound.perfect hpath hx hodd hwidth hheight hentrance hcells hconnected

/-- A maze of three by three rooms. -/
theorem carveMaze_perfect_seven : 3 ≤ 7 ∧ Odd 7 ∧
    (carveMaze 7 7 (.ofWords fun _ => 0)).1.Perfect 7 7 ∧
    (carving 7 7 17 (.ofWords fun _ => 0)).1.path = [] := by
  obtain ⟨hends, -, hperfect⟩ :=
    carveMaze_perfect (by decide : 3 ≤ 7) (by decide : 3 ≤ 7) (by decide) (.ofWords fun _ => 0)
  exact ⟨by decide, by decide, hperfect, (hends 17).mpr (by decide)⟩

end PanelPuzzle
