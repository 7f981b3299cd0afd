import PanelPuzzle.Proofs.Grid.Tiling
/-!
# The search for room is complete

After some random places all places are looked at.  So the search finds no room only when there is none,
`Grid.blocked_of_findFree`, and chance has no part in whether a rectangle finds room.

* `Grid.Blocked` — no rectangle of a size is free.
* `Grid.allocate_cases` — what becomes of a grid on which room was looked for.
* `Grid.exists_isFree_square` — a few narrow claims leave a free square.
-/

namespace PanelPuzzle

namespace Grid

/-- No rectangle of a size is free. -/
def Blocked (g : Grid) (w h : Nat) : Prop := ∀ r : Rect, r.w = w → r.h = h → g.isFree r = false

lemma fitsGrid_iff {w h : Nat} : fitsGrid w h = true ↔ 0 < w ∧ 0 < h ∧ w ≤ 8 ∧ h ≤ 8 := by
  simp only [fitsGrid, Bool.and_eq_true, decide_eq_true_eq, and_assoc]
  rfl

/-- Every rectangle inside the grid is among the places of its size. -/
lemma mem_places {r : Rect} (h : r.inBounds = true) : r ∈ places r.w r.h := by
  obtain ⟨hx, hy⟩ := Rect.inBounds_iff.mp h
  refine List.mem_flatMap.mpr
    ⟨r.y, List.mem_range.mpr ?_, List.mem_map.mpr ⟨r.x, List.mem_range.mpr ?_, rfl⟩⟩
  · change r.y < 8 - r.h + 1
    omega
  · change r.x < 8 - r.w + 1
    omega

/-- **Where nothing is found, there is nothing to find.** -/
lemma blocked_of_findFree {g : Grid} {w h : Nat} {d : Draws} (hfits : fitsGrid w h = true)
    (hnone : (g.findFree w h d).1 = none) : g.Blocked w h := by
  rintro r rfl rfl
  rw [findFree, if_pos hfits] at hnone
  simp only [bind, StateT.bind, pure] at hnone
  split at hnone
  rename_i found d₁ _
  cases found with
  | some s => cases hnone
  | none =>
    have hall := List.find?_eq_none.mp (show (places r.w r.h).find? g.isFree = none from hnone)
    by_contra hfree
    rw [Bool.not_eq_false] at hfree
    exact hall r (mem_places (inBounds_of_isFree hfree)) hfree

/-- **What becomes of a grid on which room is looked for:** it stays, and there is none, or a free
rectangle of the size is claimed. -/
lemma allocate_cases (g : Grid) (w h : Nat) (d : Draws) :
    (allocate w h g d).1 = (none, g) ∧ (fitsGrid w h = true → g.Blocked w h) ∨
      ∃ r, (allocate w h g d).1 = (some r, g.claim r) ∧ g.isFree r = true ∧ r.w = w ∧ r.h = h := by
  have hblocked : fitsGrid w h = true → (g.findFree w h d).1 = none → g.Blocked w h :=
    blocked_of_findFree
  have hfree : ∀ r, (g.findFree w h d).1 = some r → g.isFree r = true ∧ r.w = w ∧ r.h = h :=
    fun r => findFree_isFree
  simp only [allocate, bind, StateT.bind, pure]
  split
  rename_i found d₁ hfound
  rw [hfound] at hblocked hfree
  cases found with
  | none => exact .inl ⟨rfl, fun hfits => hblocked hfits rfl⟩
  | some r => exact .inr ⟨r, rfl, hfree r rfl⟩

/-- An empty grid has room for whatever fits it. -/
lemma not_blocked_empty {w h : Nat} (hfits : fitsGrid w h = true) : ¬ empty.Blocked w h := by
  obtain ⟨-, -, hw, hh⟩ := fitsGrid_iff.mp hfits
  intro hblocked
  have hbounds : (⟨0, 0, w, h⟩ : Rect).inBounds = true :=
    Rect.inBounds_iff.mpr ⟨(Nat.zero_add w).trans_le hw, (Nat.zero_add h).trans_le hh⟩
  have hfree : empty.isFree ⟨0, 0, w, h⟩ = true := isFree_of_forall hbounds fun x y hxy => by
    have hc := Rect.covers_iff.mp hxy
    dsimp only at hc
    exact isOccupied_empty (by omega) (by omega)
  exact Bool.false_ne_true ((hblocked _ rfl rfl).symm.trans hfree)

/-! ## Room between narrow claims

The twelve squares at the columns 0, 3 and 6 and the even rows do not touch sideways.  A claim that is
one cell high and at most two wide meets only one of them.
-/

/-- The column and row, among the twelve squares, of the only one that a narrow claim can meet. -/
def nearSquare (r : Rect) : Nat × Nat := ((r.x + 1) / 3, r.y / 2)

/-- One of the twelve squares. -/
def squareAt (i : Nat × Nat) : Rect := ⟨3 * i.1, 2 * i.2, 2, 2⟩

lemma apart_squareAt {r : Rect} (hw : r.w ≤ 2) (hh : r.h ≤ 1) {i : Nat × Nat}
    (hi : nearSquare r ≠ i) : r.Apart (squareAt i) := by
  rintro x y ⟨hr, hs⟩
  have hr := Rect.covers_iff.mp hr
  have hs := Rect.covers_iff.mp hs
  simp only [squareAt] at hs
  exact hi (Prod.ext (by simp only [nearSquare]; omega) (by simp only [nearSquare]; omega))

/-- **Fewer than twelve narrow claims leave a free square.** -/
lemma exists_isFree_square {g : Grid} (hg : g.Tiled) (hcount : g.claims.length < 12)
    (hnarrow : ∀ r ∈ g.claims, r.w ≤ 2 ∧ r.h ≤ 1) : ∃ i : Nat × Nat, g.isFree (squareAt i) = true := by
  have hcard : (g.claims.map nearSquare).toFinset.card < (Finset.range 3 ×ˢ Finset.range 4).card :=
    calc (g.claims.map nearSquare).toFinset.card
        ≤ (g.claims.map nearSquare).length := List.toFinset_card_le _
      _ < 12 := by rwa [List.length_map]
      _ = (Finset.range 3 ×ˢ Finset.range 4).card := rfl
  obtain ⟨i, hi, hfar⟩ := Finset.exists_mem_notMem_of_card_lt_card hcard
  rw [List.mem_toFinset] at hfar
  simp only [Finset.mem_product, Finset.mem_range] at hi
  have hbounds : (squareAt i).inBounds = true :=
    Rect.inBounds_iff.mpr (by simp only [squareAt]; omega)
  refine ⟨i, isFree_of_forall hbounds fun x y hxy => ?_⟩
  obtain ⟨hx, hy⟩ := Rect.inBounds_iff.mp hbounds
  have hc := Rect.covers_iff.mp hxy
  by_contra hoccupied
  rw [Bool.not_eq_false, hg.occupied x y (by omega) (by omega)] at hoccupied
  obtain ⟨r, hr, hcovers⟩ := hoccupied
  have hnear : nearSquare r ≠ i := fun h => hfar (h ▸ List.mem_map_of_mem hr)
  exact apart_squareAt (hnarrow r hr).1 (hnarrow r hr).2 hnear x y ⟨hcovers, hxy⟩

/-- A part of a free rectangle is free. -/
lemma isFree_part {g : Grid} {r : Rect} (h : g.isFree r = true) {w' h' : Nat} (hw : w' ≤ r.w)
    (hh : h' ≤ r.h) : g.isFree ⟨r.x, r.y, w', h'⟩ = true := by
  obtain ⟨hx, hy⟩ := Rect.inBounds_iff.mp (inBounds_of_isFree h)
  refine isFree_of_forall (Rect.inBounds_iff.mpr (by dsimp only; omega)) fun x y hxy => ?_
  have hc := Rect.covers_iff.mp hxy
  exact isOccupied_of_isFree h (Rect.covers_iff.mpr (by dsimp only at hc; omega))

end Grid

end PanelPuzzle
