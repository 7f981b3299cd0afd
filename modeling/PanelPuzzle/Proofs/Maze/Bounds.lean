import PanelPuzzle.Maze.Carving
import PanelPuzzle.Proofs.Making.Keeping
/-!
# A maze lies inside its rectangle

The entrance, the exit, the corridors and the walls of a carved maze.
-/

namespace PanelPuzzle

namespace MazeLayout

/-- A maze of a size whose entrance and exit are cells of it. -/
structure Bounded (width height : Nat) (m : MazeLayout) : Prop where
  width_eq : m.width = width
  height_eq : m.height = height
  entrance : m.entrance.1 < width ∧ m.entrance.2 < height
  exit : m.exit.1 < width ∧ m.exit.2 < height

lemma mem_cells {m : MazeLayout} {c : Cell} (h : c ∈ m.cells) : c.1 < m.width ∧ c.2 < m.height := by
  obtain ⟨y, hy, hc⟩ := List.mem_flatMap.mp h
  obtain ⟨x, hx, rfl⟩ := List.mem_map.mp hc
  exact ⟨List.mem_range.mp hx, List.mem_range.mp hy⟩

lemma mem_corridors {m : MazeLayout} {c : Cell} (h : c ∈ m.corridors) :
    c.1 < m.width ∧ c.2 < m.height := mem_cells (List.mem_filter.mp h).1

/-- **A run of walls lies in its row.** -/
lemma mem_closedRuns {x : Nat} {row : List Bool} {run : Nat × Nat} (h : run ∈ closedRuns x row) :
    x ≤ run.1 ∧ 1 ≤ run.2 ∧ run.1 + run.2 ≤ x + row.length := by
  induction row generalizing x run with
  | nil => cases h
  | cons isOpen row ih =>
    rw [List.length_cons]
    cases isOpen with
    | true =>
      rw [closedRuns] at h
      have := ih h
      omega
    | false =>
      rw [closedRuns] at h
      split at h
      · rename_i start length others hruns
        have hfirst : x + 1 ≤ start ∧ 1 ≤ length ∧ start + length ≤ x + 1 + row.length :=
          @ih (x + 1) (start, length) (hruns ▸ List.mem_cons_self)
        have hothers : ∀ run ∈ others, x + 1 ≤ run.1 ∧ 1 ≤ run.2 ∧
            run.1 + run.2 ≤ x + 1 + row.length := fun run hrun =>
          ih (hruns ▸ List.mem_cons_of_mem _ hrun)
        split at h
        · rcases List.mem_cons.mp h with rfl | hrun
          · dsimp only
            omega
          · have := hothers run hrun
            omega
        · rcases List.mem_cons.mp h with rfl | hrun
          · dsimp only
            omega
          rcases List.mem_cons.mp hrun with rfl | hrun
          · dsimp only
            omega
          · have := hothers run hrun
            omega
      · rw [List.mem_singleton] at h
        subst h
        dsimp only
        omega

lemma mem_wallRuns {m : MazeLayout} {run : WallRun} (h : run ∈ m.wallRuns) :
    1 ≤ run.length ∧ run.x + run.length ≤ m.width ∧ run.y < m.height := by
  obtain ⟨y, hy, hrun⟩ := List.mem_flatMap.mp h
  obtain ⟨found, hfound, rfl⟩ := List.mem_map.mp hrun
  have hbounds := mem_closedRuns hfound
  rw [row, List.length_map, List.length_range] at hbounds
  exact ⟨hbounds.2.1, by simpa using hbounds.2.2, List.mem_range.mp hy⟩

end MazeLayout

namespace Carving

/-- The farthest cell is one of the cells, or the entrance. -/
lemma farthest_mem (found : List (Cell × Nat)) (cells : List Cell) (entrance : Cell) :
    farthest found cells entrance = entrance ∨ farthest found cells entrance ∈ cells := by
  unfold farthest
  refine List.foldlRecOn (motive := fun best : Cell × Nat => best.1 = entrance ∨ best.1 ∈ cells)
    cells _ (.inl rfl) fun best hbest c hc => ?_
  split
  · split
    · exact .inr hc
    · exact hbest
  · exact hbest

end Carving

open Carving

/-- **A carved maze has its entrance and its exit inside.** -/
lemma keeps_carveMaze {width height : Nat} (hw : 2 ≤ width) (hh : 1 ≤ height) :
    Keeps (fun _ => True) (carveMaze width height) (MazeLayout.Bounded width height) := by
  refine .bind (.always _) fun column _ => .bind (.always _) fun row _ => ?_
  refine .bind (.always _) fun opened _ => .bind (Draws.keeps_choose _) fun chosen hchosen => ?_
  have hentrance : chosen.getD 1 < width := by
    cases chosen with
    | none => exact hw
    | some x =>
      have hx := List.mem_range.mp (List.mem_filter.mp (hchosen x rfl)).1
      exact Nat.lt_of_lt_of_le hx (Nat.sub_le width 1)
  have hbottom : height - 1 < height := Nat.sub_one_lt (by omega)
  refine .pure ⟨rfl, rfl, ⟨hentrance, hbottom⟩, ?_⟩
  dsimp only
  rcases farthest_mem _ _ _ with hexit | hexit
  · rw [hexit]
    exact ⟨hentrance, hbottom⟩
  · exact MazeLayout.mem_cells hexit

end PanelPuzzle
