import PanelPuzzle.Proofs.Maze.Tree
/-!
# Ways through a maze

The ball rolls from a cell to an open one beside it.  The cell from which it starts need not be open, and
this is the only cell of a way of which nothing is asked.

* `MazeLayout.Way` — a cell is reached in a number of steps.
* `MazeLayout.Shortest` — and in no fewer.
* `shortest_succ_iff` — **shortest ways grow step by step:** a cell is one step farther than another one if
  it is beside it and was not reached before.  This is what a search in rounds makes use of.
-/

namespace PanelPuzzle.MazeLayout

variable {m : MazeLayout} {start a b c : Cell} {n k : Nat}

/-- A cell lies in the maze. -/
def Inside (m : MazeLayout) (c : Cell) : Prop := c.1 < m.width ∧ c.2 < m.height

instance (m : MazeLayout) (c : Cell) : Decidable (m.Inside c) :=
  inferInstanceAs (Decidable (c.1 < m.width ∧ c.2 < m.height))

/-- **A step of the ball:** from a cell to an open one beside it. -/
structure Step (m : MazeLayout) (a b : Cell) : Prop where
  beside : Beside a b
  inside : m.Inside b
  isOpen : m.isOpen b = true

/-- **A cell is reached in a number of steps.** -/
inductive Way (m : MazeLayout) (start : Cell) : Nat → Cell → Prop where
  | here : Way m start 0 start
  | step {n : Nat} {b c : Cell} (way : Way m start n b) (step : m.Step b c) : Way m start (n + 1) c

/-- **A shortest way has this number of steps.** -/
structure Shortest (m : MazeLayout) (start : Cell) (n : Nat) (c : Cell) : Prop where
  way : m.Way start n c
  le : ∀ k, m.Way start k c → n ≤ k

lemma mem_cells_iff : c ∈ m.cells ↔ m.Inside c := by
  obtain ⟨x, y⟩ := c
  simp [cells, Inside, and_comm]

lemma mem_neighbours : c ∈ m.neighbours b ↔ Beside b c ∧ m.Inside c := by
  obtain ⟨x, y⟩ := b
  obtain ⟨x', y'⟩ := c
  simp only [neighbours, List.mem_filter, List.mem_append, List.mem_ite_nil_right, List.mem_cons,
    List.not_mem_nil, or_false, Prod.mk.injEq, Bool.and_eq_true, decide_eq_true_eq, Inside, Beside]
  omega

lemma Shortest.unique (h : m.Shortest start n c) (h' : m.Shortest start k c) : n = k :=
  Nat.le_antisymm (h.le k h'.way) (h'.le n h.way)

/-- **Where there is a way, there is a shortest one.** -/
lemma Way.exists_shortest (h : m.Way start n c) : ∃ k ≤ n, m.Shortest start k c := by
  classical
  have hex : ∃ k, m.Way start k c := ⟨n, h⟩
  exact ⟨Nat.find hex, Nat.find_min' hex h, Nat.find_spec hex, fun k hk => Nat.find_min' hex hk⟩

lemma shortest_zero_iff : m.Shortest start 0 c ↔ c = start := by
  constructor
  · rintro ⟨⟨⟩, -⟩
    rfl
  · rintro rfl
    exact ⟨.here, fun k _ => Nat.zero_le k⟩

/-- A shortest way is one step longer than a shortest way to the cell before. -/
lemma Shortest.exists_step (h : m.Shortest start (n + 1) c) :
    ∃ b, m.Shortest start n b ∧ m.Step b c := by
  obtain ⟨_ | ⟨hway, hstep⟩, hle⟩ := h
  refine ⟨_, ⟨hway, fun k hk => ?_⟩, hstep⟩
  exact Nat.le_of_succ_le_succ (hle (k + 1) (.step hk hstep))

/-- **Shortest ways grow step by step.** -/
lemma shortest_succ_iff : m.Shortest start (n + 1) c ↔
    (∃ b, m.Shortest start n b ∧ m.Step b c) ∧ ∀ k ≤ n, ¬ m.Shortest start k c := by
  constructor
  · intro h
    refine ⟨h.exists_step, fun k hk hshort => ?_⟩
    exact absurd (h.unique hshort) (Nat.ne_of_gt (Nat.lt_succ_of_le hk))
  · rintro ⟨⟨b, hb, hstep⟩, hnot⟩
    refine ⟨.step hb.way hstep, fun k hk => ?_⟩
    obtain ⟨j, hj, hshort⟩ := hk.exists_shortest
    have hlt : n < j := Nat.lt_of_not_le fun hle => hnot j hle hshort
    exact Nat.le_trans hlt hj

/-- A shortest way passes through all distances. -/
lemma Shortest.exists_of_le (h : m.Shortest start n c) (hk : k ≤ n) : ∃ b, m.Shortest start k b := by
  induction n generalizing c with
  | zero => exact ⟨c, Nat.le_zero.mp hk ▸ h⟩
  | succ n ih =>
    rcases Nat.lt_or_eq_of_le hk with hlt | rfl
    · obtain ⟨b, hb, -⟩ := h.exists_step
      exact ih hb (Nat.le_of_lt_succ hlt)
    · exact ⟨c, h⟩

end PanelPuzzle.MazeLayout
