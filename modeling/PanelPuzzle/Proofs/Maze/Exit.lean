import PanelPuzzle.Proofs.Maze.Distances
import PanelPuzzle.Proofs.Maze.Perfect
/-!
# The exit of a carved maze

The exit is the first of the cells that are farthest from the entrance.

In a tree such a cell is a dead end.  A shortest way to a cell beside it cannot lead through it, or the cell
beside it would be farther; so this way and the last step make a simple path to the exit, and of these there
is only one.

* `Carving.farthest_cases` — what the scan for the farthest cell has found.
* `Way.exists_walk`, `way_of_walk` — ways are walks in the graph of the open cells.
* `carveMaze_exit` — **the exit is the first of the farthest cells, and a dead end.**
-/

namespace PanelPuzzle

variable {width height : Nat}

/-! ## Rows -/

namespace MazeLayout

/-- A cell comes before another one, row by row. -/
def Before (a b : Cell) : Prop := a.2 < b.2 ∨ a.2 = b.2 ∧ a.1 < b.1

lemma pairwise_cells (m : MazeLayout) : m.cells.Pairwise Before := by
  refine List.pairwise_flatMap.mpr ⟨fun y _ => ?_, ?_⟩
  · exact List.pairwise_map.mpr (List.pairwise_lt_range.imp fun hlt => .inr ⟨rfl, hlt⟩)
  · refine List.pairwise_lt_range.imp fun hlt a ha b hb => ?_
    obtain ⟨x, -, rfl⟩ := List.mem_map.mp ha
    obtain ⟨x', -, rfl⟩ := List.mem_map.mp hb
    exact .inl hlt

end MazeLayout

/-! ## The scan -/

namespace Carving

/-- A cell is the first of the farthest ones in a list, at a distance. -/
def IsFarthest (found : List (Cell × Nat)) (cells : List Cell) (best : Cell × Nat) : Prop :=
  ∃ before after, cells = before ++ best.1 :: after ∧ found.lookup best.1 = some best.2 ∧
    (∀ c ∈ before, ∀ d ∈ found.lookup c, d < best.2) ∧ ∀ c ∈ after, ∀ d ∈ found.lookup c, d ≤ best.2

/-- **What the scan knows of some cells:** none of them has a distance above zero, or the best cell is the
first of the farthest ones. -/
def Scanned (found : List (Cell × Nat)) (cells : List Cell) (best : Cell × Nat) : Prop :=
  (best.2 = 0 ∧ ∀ c ∈ cells, ∀ d ∈ found.lookup c, d = 0) ∨ (0 < best.2 ∧ IsFarthest found cells best)

namespace Scanned

variable {found : List (Cell × Nat)} {cells : List Cell} {best : Cell × Nat} {c : Cell} {d : Nat}

lemma le (h : Scanned found cells best) : ∀ b ∈ cells, ∀ e ∈ found.lookup b, e ≤ best.2 := by
  intro b hb e he
  rcases h with ⟨-, hzero⟩ | ⟨-, before, after, rfl, hbest, hbefore, hafter⟩
  · rw [hzero b hb e he]
    exact Nat.zero_le _
  rcases List.mem_append.mp hb with hb | hb
  · exact (hbefore b hb e he).le
  rcases List.mem_cons.mp hb with rfl | hb
  · rw [Option.mem_def, hbest] at he
    exact (Option.some.inj he).ge
  · exact hafter b hb e he

/-- One more cell that is not farther. -/
lemma keep (h : Scanned found cells best) (hc : ∀ d ∈ found.lookup c, d ≤ best.2) :
    Scanned found (cells ++ [c]) best := by
  rcases h with ⟨hbest, hzero⟩ | ⟨hpos, before, after, rfl, hbest, hbefore, hafter⟩
  · refine .inl ⟨hbest, List.forall_mem_append.mpr ⟨hzero, List.forall_mem_singleton.mpr fun d hd => ?_⟩⟩
    exact Nat.le_zero.mp ((hc d hd).trans_eq hbest)
  · refine .inr ⟨hpos, before, after ++ [c], List.append_assoc _ _ _, hbest, hbefore, ?_⟩
    exact List.forall_mem_append.mpr ⟨hafter, List.forall_mem_singleton.mpr hc⟩

/-- One more cell that is farther. -/
lemma replace (h : Scanned found cells best) (hc : found.lookup c = some d) (hlt : best.2 < d) :
    Scanned found (cells ++ [c]) (c, d) :=
  .inr ⟨Nat.zero_lt_of_lt hlt, cells, [], rfl, hc, fun b hb e he => (h.le b hb e he).trans_lt hlt, nofun⟩

end Scanned

/-- A step of the scan: the distance of the best cell is kept beside it. -/
structure Scans (found : List (Cell × Nat)) (next : Cell × Nat → Cell → Cell × Nat) : Prop where
  absent : ∀ best c, found.lookup c = none → next best c = best
  present : ∀ best c d, found.lookup c = some d → next best c = if best.2 < d then (c, d) else best

lemma exists_scans (found : List (Cell × Nat)) (cells : List Cell) (entrance : Cell) :
    ∃ next, Scans found next ∧ farthest found cells entrance = (cells.foldl next (entrance, 0)).1 := by
  refine ⟨_, ⟨fun best c hc => ?_, fun best c d hc => ?_⟩, rfl⟩
  · rw [hc]
  · rw [hc]

/-- **The scan** starts with the distance zero, so that a cell has to be farther than that. -/
lemma Scans.scanned {found : List (Cell × Nat)} {next : Cell × Nat → Cell → Cell × Nat}
    (hnext : Scans found next) (entrance : Cell) (cells : List Cell) :
    Scanned found cells (cells.foldl next (entrance, 0)) := by
  induction cells using List.reverseRecOn with
  | nil => exact .inl ⟨rfl, nofun⟩
  | append_singleton cells c ih =>
    rw [List.foldl_concat]
    cases hc : found.lookup c with
    | none =>
      rw [hnext.absent _ c hc]
      exact ih.keep fun d hd => by simp [hc] at hd
    | some d =>
      rw [hnext.present _ c d hc]
      split
      · rename_i hlt
        exact ih.replace hc hlt
      · rename_i hle
        refine ih.keep fun e he => ?_
        obtain rfl := Option.some.inj (hc.symm.trans he)
        exact Nat.le_of_not_lt hle

/-- **What the scan has found:** the first of the farthest cells, unless no cell has a distance above
zero. -/
lemma farthest_cases (found : List (Cell × Nat)) (cells : List Cell) (entrance : Cell) :
    (∀ c ∈ cells, ∀ d ∈ found.lookup c, d = 0) ∨
      ∃ d, 0 < d ∧ IsFarthest found cells (farthest found cells entrance, d) := by
  obtain ⟨next, hnext, heq⟩ := exists_scans found cells entrance
  rw [heq]
  exact (hnext.scanned entrance cells).imp And.right fun hbest => ⟨_, hbest⟩

end Carving

/-! ## Walks -/

namespace MazeLayout

variable {m : MazeLayout} {start c : Cell} {n d : Nat}

lemma isOpen_iff : m.isOpen c = true ↔ c ∈ m.openCells := List.contains_iff_mem

lemma Way.isOpen (h : m.Way start n c) (hstart : m.isOpen start = true) : m.isOpen c = true := by
  cases h with
  | here => exact hstart
  | step _ hstep => exact hstep.isOpen

/-- **A way from an open cell** is a walk in the graph. -/
lemma Way.exists_walk (h : m.Way start n c) (hstart : m.isOpen start = true) :
    ∃ p : m.graph.Walk start c, p.length = n := by
  induction h with
  | here => exact ⟨.nil, rfl⟩
  | step hway hstep ih =>
    obtain ⟨p, rfl⟩ := ih
    have hadj : m.graph.Adj _ _ :=
      ⟨isOpen_iff.mp (hway.isOpen hstart), isOpen_iff.mp hstep.isOpen, hstep.beside⟩
    exact ⟨p.concat hadj, p.length_concat hadj⟩

/-- **A walk in the graph is a way,** if all open cells are cells of the maze. -/
lemma way_of_walk (hinside : ∀ c, m.isOpen c = true → m.Inside c) (p : m.graph.Walk start c) :
    m.Way start p.length c := by
  induction p using SimpleGraph.Walk.concatRec with
  | Hnil => exact .here
  | Hconcat p hadj ih =>
    rw [SimpleGraph.Walk.length_concat]
    have hopen := isOpen_iff.mpr hadj.2.1
    exact .step ih ⟨hadj.2.2, hinside _ hopen, hopen⟩

section DeadEnd

variable (hinside : ∀ c, m.isOpen c = true → m.Inside c) (hstart : m.isOpen start = true)
  (hpath : ∀ a b, m.isOpen a = true → m.isOpen b = true → ∃! p : m.graph.Walk a b, p.IsPath)
  (hfar : m.Shortest start (d + 1) c)
  (hmost : ∀ b n, m.isOpen b = true → m.Shortest start n b → n ≤ d + 1)

include hinside hstart hpath hfar hmost

/-- A shortest way to a cell beside a farthest one does not lead through it, and can be continued to it. -/
lemma exists_isPath_concat {b : Cell} (hb : m.isOpen b = true) (hbeside : Beside c b) :
    ∃ (p : m.graph.Walk start b) (hadj : m.graph.Adj b c), (p.concat hadj).IsPath := by
  obtain ⟨q, -, -⟩ := hpath start b hstart hb
  obtain ⟨n, -, hshort⟩ := (way_of_walk hinside q).exists_shortest
  obtain ⟨p, rfl⟩ := hshort.way.exists_walk hstart
  have hnot : c ∉ p.support := by
    intro hmem
    have hne : c ≠ b := by
      rintro rfl
      exact not_beside_self c hbeside
    have hlt := SimpleGraph.Walk.length_takeUntil_lt_length hmem hne
    have hle := hfar.le _ (way_of_walk hinside (p.takeUntil c hmem))
    have := hmost b _ hb hshort
    omega
  have hopen := hfar.way.isOpen hstart
  have hadj : m.graph.Adj b c := ⟨isOpen_iff.mp hb, isOpen_iff.mp hopen, hbeside.symm⟩
  refine ⟨p.bypass, hadj, (p.bypass_isPath).concat (fun hmem => hnot ?_) hadj⟩
  exact p.support_bypass_subset_support hmem

/-- **A farthest cell of a tree is a dead end.** -/
lemma existsUnique_beside : ∃! b, m.isOpen b = true ∧ Beside c b := by
  obtain ⟨before, hbefore, hlast⟩ := hfar.exists_step
  have hopen := hbefore.way.isOpen hstart
  refine ⟨before, ⟨hopen, hlast.beside.symm⟩, fun b hb => ?_⟩
  -- both ways are simple paths to the farthest cell, and there is only one
  obtain ⟨p, hadj, hp⟩ := exists_isPath_concat hinside hstart hpath hfar hmost hb.1 hb.2
  obtain ⟨q, hadj', hq⟩ := exists_isPath_concat hinside hstart hpath hfar hmost hopen hlast.beside.symm
  obtain ⟨heq, -⟩ :=
    SimpleGraph.Walk.concat_inj ((hpath start c hstart (hfar.way.isOpen hstart)).unique hp hq)
  exact heq

end DeadEnd

/-! ## The exit of a perfect maze -/

namespace Perfect

open Carving

lemma inside (h : m.Perfect width height) (hc : m.isOpen c = true) : m.Inside c := by
  rw [Inside, h.width_eq, h.height_eq]
  rcases eq_or_ne c m.entrance with rfl | hne
  · obtain ⟨hbottom, habove⟩ := h.entrance
    have hroom := mem_rooms.mp habove
    dsimp only at hroom
    omega
  · have := h.border c hc hne
    omega

/-- **Every open cell is reached from the entrance.** -/
lemma exists_shortest (h : m.Perfect width height) (hentrance : m.isOpen m.entrance = true)
    (hc : m.isOpen c = true) : ∃ d, m.Shortest m.entrance d c := by
  obtain ⟨p, -, -⟩ := h.existsUnique_path m.entrance c hentrance hc
  obtain ⟨d, -, hshort⟩ := (way_of_walk (fun _ => h.inside) p).exists_shortest
  exact ⟨d, hshort⟩

/-- The room above the entrance is one step away. -/
lemma exists_shortest_one (h : m.Perfect width height) :
    ∃ c, m.isOpen c = true ∧ m.Shortest m.entrance 1 c := by
  obtain ⟨hbottom, habove⟩ := h.entrance
  obtain ⟨passages, -, -, hperm⟩ := h.openCells
  have hopen : m.isOpen (m.entrance.1, height - 2) = true :=
    isOpen_iff.mpr (hperm.mem_iff.mpr (List.mem_append_left _ (List.mem_append_left _ habove)))
  have hroom := mem_rooms.mp habove
  dsimp only at hroom
  refine ⟨_, hopen, shortest_succ_iff.mpr ⟨⟨m.entrance, shortest_zero_iff.mpr rfl, ?_, h.inside hopen,
    hopen⟩, fun k hk hshort => ?_⟩⟩
  · unfold Beside
    dsimp only
    omega
  · have hsame := congrArg Prod.snd (shortest_zero_iff.mp (Nat.le_zero.mp hk ▸ hshort))
    dsimp only at hsame
    omega

/-- **An exit that is the first of the farthest cells** is farther than the entrance, and no open cell is
farther than the exit. -/
lemma exit_farthest (h : m.Perfect width height) (hentrance : m.isOpen m.entrance = true)
    (hexit : m.exit = farthest (m.reachable m.entrance) m.cells m.entrance) :
    ∃ d, m.Shortest m.entrance (d + 1) m.exit ∧ ∀ c, m.isOpen c = true → ∃ e ≤ d + 1,
      m.Shortest m.entrance e c ∧ (e = d + 1 → c = m.exit ∨ Before m.exit c) := by
  obtain ⟨-, -, hexact⟩ := search_eq_reachable (h.inside hentrance)
  have hmem : ∀ c, m.isOpen c = true → c ∈ m.cells := fun c hc => mem_cells_iff.mpr (h.inside hc)
  rcases farthest_cases (m.reachable m.entrance) m.cells m.entrance with hnone | ⟨d, hpos, hfar⟩
  · obtain ⟨c, hc, hone⟩ := h.exists_shortest_one
    exact absurd (hnone c (hmem c hc) 1 ((hexact c 1).mpr hone)) Nat.one_ne_zero
  rw [← hexit] at hfar
  obtain ⟨before, after, hcells, hbest, hbefore, hafter⟩ := hfar
  obtain ⟨d, rfl⟩ := Nat.exists_eq_add_one_of_ne_zero hpos.ne'
  refine ⟨d, (hexact _ _).mp hbest, fun c hc => ?_⟩
  obtain ⟨e, hshort⟩ := h.exists_shortest hentrance hc
  have hlookup := (hexact c e).mpr hshort
  have hplace := hmem c hc
  rw [hcells] at hplace
  rcases List.mem_append.mp hplace with hc | hc
  · have hlt := hbefore c hc e hlookup
    exact ⟨e, hlt.le, hshort, fun heq => absurd heq hlt.ne⟩
  rcases List.mem_cons.mp hc with rfl | hc
  · exact ⟨e, (hshort.unique ((hexact _ _).mp hbest)).le, hshort, fun _ => .inl rfl⟩
  · have hpairwise := m.pairwise_cells
    rw [hcells, List.pairwise_append, List.pairwise_cons] at hpairwise
    exact ⟨e, hafter c hc e hlookup, hshort, fun _ => .inr (hpairwise.2.1.1 c hc)⟩

end Perfect

end MazeLayout

/-! ## Carved mazes -/

open Carving MazeLayout

/-- The exit is what the scan finds. -/
lemma exit_carveMaze (draws : Draws) : (carveMaze width height draws).1.exit =
    farthest ((carveMaze width height draws).1.reachable (carveMaze width height draws).1.entrance)
      (carveMaze width height draws).1.cells (carveMaze width height draws).1.entrance := by
  refine (show Keeps (fun _ => True) (carveMaze width height) fun m =>
    m.exit = farthest (m.reachable m.entrance) m.cells m.entrance from ?_) draws trivial |>.1
  refine .bind (.always _) fun column _ => .bind (.always _) fun row _ => ?_
  refine .bind (.always _) fun opened _ => .bind (.always _) fun chosen _ => .pure ?_
  rw [reachable_withExit]
  rfl

/-- **A carved maze is a perfect one:** its entrance is cut into a walk through the rooms that has ended. -/
lemma exists_perfect (hw : 3 ≤ width) (hh : 3 ≤ height) (hodd : Odd height) (draws : Draws) :
    (carveMaze width height draws).1.Perfect width height ∧
      (carveMaze width height draws).1.isOpen (carveMaze width height draws).1.entrance = true := by
  have henough : turnCount width height ≤ 2 * width * height := by
    have hrooms := Nat.mul_le_mul (Nat.div_le_self (width - 1) 2) (Nat.div_le_self (height - 1) 2)
    have hsizes := Nat.mul_le_mul (Nat.sub_le width 1) (Nat.sub_le height 1)
    rw [turnCount, Nat.mul_assoc]
    omega
  have hpath := (carving_ends hw hh _ draws).mpr (Nat.le_refl (turnCount width height))
  have hsound := (keeps_carving hw hh (turnCount width height) draws trivial).1.sound
  have hcorner : (1, height - 2) ∈ rooms width height := by
    obtain ⟨k, rfl⟩ := id hodd
    exact mem_rooms.mpr ⟨rfl, by dsimp only; omega, by dsimp only; omega, by dsimp only; omega⟩
  have hmaze : carveMaze width height draws =
      cut width height (carving width height (turnCount width height) draws).1.opened
        (carving width height (turnCount width height) draws).2 := by
    rw [carveMaze_eq, ← carving_eq hw hh henough]
    rfl
  rw [hmaze]
  generalize carving width height (turnCount width height) draws = carved at *
  have hplace : 1 ∈ entrances width height carved.1.opened :=
    mem_entrances.mpr ⟨by omega, rfl, hsound.rooms_subset hpath hcorner⟩
  obtain ⟨⟨x, hx, hwidth, hheight, hentrance, hcells, hconnected⟩, -⟩ :=
    keeps_cut (List.ne_nil_of_mem hplace) carved.2 trivial
  refine ⟨hsound.perfect hpath hx hodd hwidth hheight hentrance hcells hconnected, ?_⟩
  rw [isOpen_iff]
  exact hcells ▸ List.mem_append_right _ (List.mem_singleton_self _)

/-- **The exit of a carved maze** is not the entrance.  It is reached from there, and no open cell is farther;
of the cells that are as far it comes first, row by row.  It is a dead end: one open cell is beside it. -/
theorem carveMaze_exit {width height : Nat} (hw : 3 ≤ width) (hh : 3 ≤ height) (hodd : Odd height)
    (draws : Draws) :
    let m := (carveMaze width height draws).1
    m.exit ≠ m.entrance ∧ m.isOpen m.exit = true ∧
    (∃ d, m.Shortest m.entrance d m.exit ∧ ∀ c, m.isOpen c = true → ∃ e ≤ d,
      m.Shortest m.entrance e c ∧ (e = d → c = m.exit ∨ Before m.exit c)) ∧
    ∃! c, m.isOpen c = true ∧ Beside m.exit c := by
  intro m
  obtain ⟨hperfect, hentrance⟩ := exists_perfect hw hh hodd draws
  obtain ⟨d, hfar, hmost⟩ := hperfect.exit_farthest hentrance (exit_carveMaze draws)
  refine ⟨fun heq => ?_, hfar.way.isOpen hentrance, ⟨d + 1, hfar, hmost⟩, ?_⟩
  · exact absurd (hfar.unique (shortest_zero_iff.mpr heq)) (Nat.succ_ne_zero d)
  · refine existsUnique_beside (fun _ => hperfect.inside) hentrance hperfect.existsUnique_path hfar ?_
    intro b n hb hshort
    obtain ⟨e, hle, hshort', -⟩ := hmost b hb
    exact (hshort.unique hshort').trans_le hle

/-- The exit of a maze of three by three rooms, above the entrance and seventeen steps from it. -/
theorem carveMaze_exit_seven : 3 ≤ 7 ∧ Odd 7 ∧
    let m := (carveMaze 7 7 (.ofWords fun _ => 0)).1
    m.entrance = (1, 6) ∧ m.exit = (1, 1) ∧ m.Shortest m.entrance 17 m.exit ∧
      (∀ c, m.isOpen c = true → ∃ e ≤ 17, m.Shortest m.entrance e c) ∧
      ∃! c, m.isOpen c = true ∧ Beside m.exit c := by
  refine ⟨by decide, by decide, ?_⟩
  intro m
  obtain ⟨-, -, ⟨d, hfar, hmost⟩, hdeadEnd⟩ :=
    carveMaze_exit (by decide : 3 ≤ 7) (by decide : 3 ≤ 7) (by decide) (.ofWords fun _ => 0)
  have hends : m.entrance = (1, 6) ∧ m.exit = (1, 1) := by decide +kernel
  have hlookup : (m.reachable m.entrance).lookup m.exit = some 17 := by decide +kernel
  have hinside : m.Inside m.entrance := by decide +kernel
  obtain ⟨-, -, hexact⟩ := search_eq_reachable hinside
  have hsteps := (hexact _ 17).mp hlookup
  obtain rfl := hfar.unique hsteps
  refine ⟨hends.1, hends.2, hsteps, fun c hc => ?_, hdeadEnd⟩
  obtain ⟨e, hle, hshort, -⟩ := hmost c hc
  exact ⟨e, hle, hshort⟩

end PanelPuzzle
