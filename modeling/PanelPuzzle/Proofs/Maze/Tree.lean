import Mathlib.Combinatorics.SimpleGraph.Acyclic
import PanelPuzzle.Maze.Layout
/-!
# Open cells that form a tree

The open cells of a maze are the points of a graph, in which cells with a side in common are joined.

A maze is carved one cell at a time.  A new cell that touches only one of the open ones is a leaf: it
closes no way around, and it is reached by way of the cell that it touches.  So `IsTree` grows with every
leaf, `IsTree.append`, and in a tree any two cells are joined by exactly one path,
`IsTree.existsUnique_path`.
-/

namespace PanelPuzzle

namespace MazeLayout

/-! ## Cells that touch -/

/-- **Two cells have a side in common.** -/
def Beside (a b : Cell) : Prop :=
  (a.1 = b.1 ∧ (a.2 + 1 = b.2 ∨ b.2 + 1 = a.2)) ∨ (a.2 = b.2 ∧ (a.1 + 1 = b.1 ∨ b.1 + 1 = a.1))

lemma Beside.symm {a b : Cell} (h : Beside a b) : Beside b a := by
  unfold Beside at *
  omega

lemma not_beside_self (a : Cell) : ¬ Beside a a := by
  intro h
  unfold Beside at h
  omega

/-- Cells that touch are of different color on a checkerboard. -/
lemma Beside.parity {a b : Cell} (h : Beside a b) : (a.1 + a.2) % 2 ≠ (b.1 + b.2) % 2 := by
  unfold Beside at h
  omega

/-- The graph of some cells: those are joined that touch. -/
def graphOf (cells : List Cell) : SimpleGraph Cell where
  Adj a b := a ∈ cells ∧ b ∈ cells ∧ Beside a b
  symm := ⟨fun _ _ h => ⟨h.2.1, h.1, h.2.2.symm⟩⟩
  loopless := ⟨fun a h => not_beside_self a h.2.2⟩

/-- The graph of the open cells. -/
def graph (m : MazeLayout) : SimpleGraph Cell := graphOf m.openCells

/-! ## Trees -/

/-- **Cells that form a tree:** there is no way around, and a way between any two of them. -/
structure IsTree (cells : List Cell) : Prop where
  isAcyclic : (graphOf cells).IsAcyclic
  reachable : ∀ a ∈ cells, ∀ b ∈ cells, (graphOf cells).Reachable a b

/-- A cell on its own is a tree. -/
lemma isTree_singleton (a : Cell) : IsTree [a] := by
  have hbot : graphOf [a] = ⊥ := by
    refine SimpleGraph.ext (funext fun b => funext fun c => eq_false ?_)
    rintro ⟨hb, hc, hbc⟩
    rw [List.mem_singleton.mp hb, List.mem_singleton.mp hc] at hbc
    exact not_beside_self a hbc
  refine ⟨hbot ▸ SimpleGraph.isAcyclic_bot, fun b hb c hc => ?_⟩
  rw [List.mem_singleton.mp hb, List.mem_singleton.mp hc]

variable {cells : List Cell} {a b c : Cell}

/-- A leaf adds one edge to the graph. -/
lemma graphOf_append (ha : a ∈ cells) (hac : Beside a c)
    (honly : ∀ b ∈ cells, Beside b c → b = a) :
    graphOf (cells ++ [c]) = graphOf cells ⊔ SimpleGraph.edge a c := by
  have hne : a ≠ c := by
    rintro rfl
    exact not_beside_self a hac
  ext u v
  simp only [graphOf, List.mem_append, List.mem_singleton, SimpleGraph.sup_adj,
    SimpleGraph.edge_adj]
  constructor
  · rintro ⟨hu | rfl, hv | rfl, huv⟩
    · exact Or.inl ⟨hu, hv, huv⟩
    · have hua := honly u hu huv
      subst hua
      exact Or.inr ⟨Or.inl ⟨rfl, rfl⟩, hne⟩
    · have hva := honly v hv huv.symm
      subst hva
      exact Or.inr ⟨Or.inr ⟨rfl, rfl⟩, hne.symm⟩
    · exact absurd huv (not_beside_self _)
  · rintro (⟨hu, hv, huv⟩ | ⟨⟨rfl, rfl⟩ | ⟨rfl, rfl⟩, -⟩)
    · exact ⟨Or.inl hu, Or.inl hv, huv⟩
    · exact ⟨Or.inl ha, Or.inr rfl, hac⟩
    · exact ⟨Or.inr rfl, Or.inl ha, hac.symm⟩

/-- What is no cell of a graph is not reached in it. -/
lemma not_reachable_of_not_mem (ha : a ∈ cells) (hc : c ∉ cells) :
    ¬ (graphOf cells).Reachable a c := by
  rintro ⟨p⟩
  cases p.reverse with
  | nil => exact hc ha
  | cons hadj _ => exact hc hadj.1

/-- **A leaf makes a tree larger.** -/
theorem IsTree.append (h : IsTree cells) (ha : a ∈ cells) (hc : c ∉ cells) (hac : Beside a c)
    (honly : ∀ b ∈ cells, Beside b c → b = a) : IsTree (cells ++ [c]) := by
  have hgraph := graphOf_append ha hac honly
  have hle : graphOf cells ≤ graphOf (cells ++ [c]) := hgraph ▸ le_sup_left
  have hold : ∀ b ∈ cells, (graphOf (cells ++ [c])).Reachable a b := fun b hb =>
    (h.reachable a ha b hb).mono hle
  have hall : ∀ b ∈ cells ++ [c], (graphOf (cells ++ [c])).Reachable a b := by
    intro b hb
    rcases List.mem_append.mp hb with hb | hb
    · exact hold b hb
    · rw [List.mem_singleton.mp hb]
      exact SimpleGraph.Adj.reachable ⟨List.mem_append_left _ ha, by simp, hac⟩
  refine ⟨?_, fun b hb d hd => (hall b hb).symm.trans (hall d hd)⟩
  rw [hgraph]
  exact h.isAcyclic.sup_edge_of_not_reachable (not_reachable_of_not_mem ha hc)

/-- **Any two cells of a tree are joined by exactly one path.** -/
theorem IsTree.existsUnique_path (h : IsTree cells) (ha : a ∈ cells) (hb : b ∈ cells) :
    ∃! p : (graphOf cells).Walk a b, p.IsPath := by
  obtain ⟨p, hp⟩ := (h.reachable a ha b hb).exists_isPath
  refine ⟨p, hp, fun q hq => ?_⟩
  have hsame := (h.isAcyclic.subsingleton_path a b).elim ⟨q, hq⟩ ⟨p, hp⟩
  exact congrArg Subtype.val hsame

end MazeLayout

end PanelPuzzle
