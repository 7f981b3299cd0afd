import PanelPuzzle.Maze.Carving
import PanelPuzzle.Proofs.Maze.Tree
/-!
# The rooms of a maze

Both coordinates of a room are odd.  Two rooms may have one cell between them, of which one coordinate is
even, so that it is no room.

* `Joined` — rooms with one cell between them.
* `Joined.eq_or_eq` — **of all rooms only these two touch that cell.**
* `mem_iff_corner` — from any room a way leads to the one in the corner.
-/

namespace PanelPuzzle

variable {width height : Nat}

namespace Carving

open MazeLayout

/-- The rooms of a maze, row by row. -/
def rooms (width height : Nat) : List Cell :=
  (List.range ((height - 1) / 2)).flatMap fun j =>
    (List.range ((width - 1) / 2)).map fun i => (2 * i + 1, 2 * j + 1)

lemma mem_rooms {c : Cell} : c ∈ rooms width height ↔
    c.1 % 2 = 1 ∧ c.2 % 2 = 1 ∧ c.1 + 1 < width ∧ c.2 + 1 < height := by
  simp only [rooms, List.mem_flatMap, List.mem_map, List.mem_range]
  constructor
  · rintro ⟨j, hj, i, hi, rfl⟩
    dsimp only
    omega
  · rintro ⟨hx, hy, hw, hh⟩
    exact ⟨c.2 / 2, by omega, c.1 / 2, by omega, Prod.ext (by omega) (by omega)⟩

lemma length_rooms : (rooms width height).length = (width - 1) / 2 * ((height - 1) / 2) := by
  simp [rooms, Nat.mul_comm]

lemma nodup_rooms : (rooms width height).Nodup := by
  refine List.nodup_flatMap.mpr ⟨fun j _ => ?_, ?_⟩
  · refine List.nodup_range.map fun i i' h => ?_
    have := (Prod.mk.inj h).1
    omega
  · refine List.nodup_range.pairwise_of_forall_ne fun j _ j' _ hne => ?_
    intro c hc hc'
    obtain ⟨i, -, rfl⟩ := List.mem_map.mp hc
    obtain ⟨i', -, h⟩ := List.mem_map.mp hc'
    have := (Prod.mk.inj h).2
    omega

lemma mem_nextRooms {a b : Cell} : b ∈ nextRooms width height a ↔
    (3 ≤ a.2 ∧ b = (a.1, a.2 - 2)) ∨ (a.1 + 3 < width ∧ b = (a.1 + 2, a.2)) ∨
      (a.2 + 3 < height ∧ b = (a.1, a.2 + 2)) ∨ (3 ≤ a.1 ∧ b = (a.1 - 2, a.2)) := by
  simp only [nextRooms, List.mem_append, List.mem_ite_nil_right, List.mem_singleton, or_assoc]

/-- Two rooms with one cell between them. -/
structure Joined (width height : Nat) (a b : Cell) : Prop where
  left : a ∈ rooms width height
  right : b ∈ rooms width height
  next : b ∈ nextRooms width height a

lemma joined_of_next {a b : Cell} (ha : a ∈ rooms width height) (h : b ∈ nextRooms width height a) :
    Joined width height a b := by
  refine ⟨ha, ?_, h⟩
  rw [mem_rooms] at ha ⊢
  rcases mem_nextRooms.mp h with ⟨_, rfl⟩ | ⟨_, rfl⟩ | ⟨_, rfl⟩ | ⟨_, rfl⟩ <;>
    dsimp only <;> omega

/-- **Rooms are joined both ways.** -/
lemma Joined.symm {a b : Cell} (h : Joined width height a b) : Joined width height b a := by
  refine ⟨h.right, h.left, mem_nextRooms.mpr ?_⟩
  obtain ⟨ha, -, hnext⟩ := h
  rw [mem_rooms] at ha
  rcases mem_nextRooms.mp hnext with ⟨_, rfl⟩ | ⟨_, rfl⟩ | ⟨_, rfl⟩ | ⟨_, rfl⟩
  · exact Or.inr (Or.inr (Or.inl ⟨by dsimp only; omega, Prod.ext rfl (by dsimp only; omega)⟩))
  · exact Or.inr (Or.inr (Or.inr ⟨by dsimp only; omega, Prod.ext (by dsimp only; omega) rfl⟩))
  · exact Or.inl ⟨by dsimp only; omega, Prod.ext rfl (by dsimp only; omega)⟩
  · exact Or.inr (Or.inl ⟨by dsimp only; omega, Prod.ext (by dsimp only; omega) rfl⟩)

/-- **Where the cell between two rooms is:** one step from the first, one step from the second. -/
lemma Joined.between_cases {a b : Cell} (h : Joined width height a b) :
    (between a b = (a.1, a.2 - 1) ∧ 3 ≤ a.2 ∧ b = (a.1, a.2 - 2)) ∨
      (between a b = (a.1 + 1, a.2) ∧ b = (a.1 + 2, a.2)) ∨
      (between a b = (a.1, a.2 + 1) ∧ b = (a.1, a.2 + 2)) ∨
      (between a b = (a.1 - 1, a.2) ∧ 3 ≤ a.1 ∧ b = (a.1 - 2, a.2)) := by
  have ha := mem_rooms.mp h.left
  rcases mem_nextRooms.mp h.next with ⟨_, rfl⟩ | ⟨_, rfl⟩ | ⟨_, rfl⟩ | ⟨_, rfl⟩
  · refine Or.inl ⟨Prod.ext ?_ ?_, by omega, rfl⟩ <;> simp only [between] <;> omega
  · refine Or.inr (Or.inl ⟨Prod.ext ?_ ?_, rfl⟩) <;> simp only [between] <;> omega
  · refine Or.inr (Or.inr (Or.inl ⟨Prod.ext ?_ ?_, rfl⟩)) <;> simp only [between] <;> omega
  · refine Or.inr (Or.inr (Or.inr ⟨Prod.ext ?_ ?_, by omega, rfl⟩)) <;> simp only [between] <;> omega

/-- Of the cell between two rooms one coordinate is even, and only one. -/
lemma Joined.odd_between {a b : Cell} (h : Joined width height a b) :
    ((between a b).1 + (between a b).2) % 2 = 1 := by
  have ha := mem_rooms.mp h.left
  rcases h.between_cases with ⟨heq, _⟩ | ⟨heq, _⟩ | ⟨heq, _⟩ | ⟨heq, _⟩ <;>
    rw [heq] <;> dsimp only <;> omega

lemma Joined.between_not_mem {a b : Cell} (h : Joined width height a b) :
    between a b ∉ rooms width height := by
  intro hroom
  have hodd := h.odd_between
  obtain ⟨hx, hy, -⟩ := mem_rooms.mp hroom
  omega

lemma Joined.beside {a b : Cell} (h : Joined width height a b) :
    Beside a (between a b) ∧ Beside (between a b) b := by
  rcases h.between_cases with ⟨heq, _, rfl⟩ | ⟨heq, rfl⟩ | ⟨heq, rfl⟩ | ⟨heq, _, rfl⟩ <;>
    rw [heq] <;> unfold Beside <;> dsimp only <;> omega

/-- **A room beside the cell between two rooms** is one of the two. -/
lemma Joined.eq_or_eq {a b c : Cell} (h : Joined width height a b) (hc : c ∈ rooms width height)
    (hbeside : Beside c (between a b)) : c = a ∨ c = b := by
  have ha := mem_rooms.mp h.left
  rw [mem_rooms] at hc
  rw [Prod.ext_iff, Prod.ext_iff]
  unfold Beside at hbeside
  rcases h.between_cases with ⟨heq, _, rfl⟩ | ⟨heq, rfl⟩ | ⟨heq, rfl⟩ | ⟨heq, _, rfl⟩ <;>
    rw [heq] at hbeside <;> dsimp only at hbeside ⊢ <;> omega

/-- **Some open rooms from which no way leads to a closed one** are all rooms, as all of them are joined
with the one in the corner. -/
lemma mem_iff_corner {opened : List Cell}
    (hclosed : ∀ a b, Joined width height a b → a ∈ opened → b ∈ opened) {c : Cell}
    (hc : c ∈ rooms width height) : c ∈ opened ↔ (1, 1) ∈ opened := by
  obtain ⟨x, y⟩ := c
  induction hn : x + y using Nat.strong_induction_on generalizing x y with
  | _ n ih =>
    have hroom := mem_rooms.mp hc
    dsimp only at hroom
    have hstep : ∀ {b : Cell}, Joined width height (x, y) b → b.1 + b.2 < n →
        ((x, y) ∈ opened ↔ (1, 1) ∈ opened) := by
      intro b hjoined hlt
      rw [← ih _ hlt b.1 b.2 hjoined.right rfl]
      exact ⟨hclosed _ _ hjoined, hclosed _ _ hjoined.symm⟩
    by_cases hx : 3 ≤ x
    · exact hstep (joined_of_next hc (mem_nextRooms.mpr (Or.inr (Or.inr (Or.inr ⟨hx, rfl⟩)))))
        (by dsimp only; omega)
    by_cases hy : 3 ≤ y
    · exact hstep (joined_of_next hc (mem_nextRooms.mpr (Or.inl ⟨hy, rfl⟩))) (by dsimp only; omega)
    have : (x, y) = (1, 1) := Prod.ext (by dsimp only; omega) (by dsimp only; omega)
    rw [this]

end Carving

end PanelPuzzle
