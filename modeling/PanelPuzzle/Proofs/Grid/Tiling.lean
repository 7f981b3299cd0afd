import Mathlib
import PanelPuzzle.Grid
/-!
# Grids that are tiled by their claims

A grid that is only ever occupied by claiming free rectangles carries no more and no less than its
list of claims: they lie inside, they do not meet, and together they are the occupied cells.

* `Grid.Tiled` — the invariant.
* `Grid.tiled_empty`, `Grid.Tiled.claim` — it holds of the empty grid, and a claim of a free
  rectangle keeps it.
* `Grid.Tiled.freeCells_add` — the free cells and the areas of the claims add up to the grid.
* `Grid.findFree_isFree` — every rectangle that the search for room answers is free.
-/

namespace PanelPuzzle

/-! ## Rectangles as sets of cells -/

/-- Two rectangles have no cell in common. -/
def Rect.Apart (r s : Rect) : Prop := ∀ x y, ¬ (r.covers x y = true ∧ s.covers x y = true)

/-- The number of cells of a rectangle. -/
def Rect.area (r : Rect) : Nat := r.w * r.h

lemma Rect.covers_iff {r : Rect} {x y : Nat} :
    r.covers x y = true ↔ r.x ≤ x ∧ x < r.x + r.w ∧ r.y ≤ y ∧ y < r.y + r.h := by
  simp only [Rect.covers, Bool.and_eq_true, decide_eq_true_eq, and_assoc]

lemma Rect.inBounds_iff {r : Rect} :
    r.inBounds = true ↔ r.x + r.w ≤ 8 ∧ r.y + r.h ≤ 8 := by
  rw [Rect.inBounds, Bool.and_eq_true, decide_eq_true_eq, decide_eq_true_eq]
  rfl

lemma Rect.Apart.symm {r s : Rect} (h : r.Apart s) : s.Apart r :=
  fun x y hxy => h x y hxy.symm

/-- The places of a rectangle in the rows of the grid, counted from the first cell. -/
def Rect.places (r : Rect) : Finset (Fin 64) :=
  Finset.univ.filter fun i => r.covers (i.val % 8) (i.val / 8) = true

/-- **A rectangle inside the grid has as many cells as its area.** -/
lemma Rect.card_places {r : Rect} (h : r.inBounds = true) : r.places.card = r.area := by
  obtain ⟨hx, hy⟩ := Rect.inBounds_iff.mp h
  rw [Rect.area, ← Finset.card_range r.w, ← Finset.card_range r.h, ← Finset.card_product]
  refine Finset.card_bij (fun i _ => (i.val % 8 - r.x, i.val / 8 - r.y)) ?_ ?_ ?_
  · intro i hi
    simp only [Rect.places, Finset.mem_filter, Finset.mem_univ, true_and, Rect.covers_iff] at hi
    simp only [Finset.mem_product, Finset.mem_range]
    omega
  · intro i hi j hj hij
    simp only [Rect.places, Finset.mem_filter, Finset.mem_univ, true_and, Rect.covers_iff] at hi hj
    simp only [Prod.mk.injEq] at hij
    exact Fin.ext (by omega)
  · rintro ⟨dx, dy⟩ hd
    simp only [Finset.mem_product, Finset.mem_range] at hd
    refine ⟨⟨8 * (r.y + dy) + (r.x + dx), by omega⟩, ?_, ?_⟩
    · simp only [Rect.places, Finset.mem_filter, Finset.mem_univ, true_and, Rect.covers_iff]
      omega
    · simp only [Prod.mk.injEq]
      omega

namespace Grid

/-! ## Cells after a claim -/

lemma isOccupied_empty {x y : Nat} (hx : x < 8) (hy : y < 8) :
    empty.isOccupied x y = false := by
  rw [isOccupied, dif_pos ⟨hx, hy⟩]
  simp [empty]

lemma getElem_reserveRect (g : Grid) (x y : Int) (w h i : Nat) (hi : i < 64) :
    (g.reserveRect x y w h).cells[i] = (g.cells[i] ||
      (x ≤ (i % 8 : Int) && (i % 8 : Int) < x + signedCells w &&
        y ≤ (i / 8 : Int) && (i / 8 : Int) < y + signedCells h)) := by
  rw [reserveRect, Vector.getElem_ofFn]
  rfl

/-- A claim inside the grid occupies the cells of its rectangle and no others. -/
lemma getElem_claim {g : Grid} {r : Rect} (h : r.inBounds = true) (i : Nat) (hi : i < 64) :
    (g.claim r).cells[i] = (g.cells[i] || r.covers (i % 8) (i / 8)) := by
  obtain ⟨hx, hy⟩ := Rect.inBounds_iff.mp h
  refine (getElem_reserveRect g _ _ _ _ i hi).trans ?_
  -- inside the grid no coordinate comes near the words that stand for negative numbers
  rw [signedCells_of_lt (n := r.x) (by omega), signedCells_of_lt (n := r.y) (by omega),
    signedCells_of_lt (n := r.w) (by omega), signedCells_of_lt (n := r.h) (by omega)]
  congr 1
  rw [Rect.covers, Bool.eq_iff_iff]
  simp only [Bool.and_eq_true, decide_eq_true_eq]
  omega

lemma isOccupied_claim {g : Grid} {r : Rect} (h : r.inBounds = true) {x y : Nat}
    (hx : x < 8) (hy : y < 8) :
    (g.claim r).isOccupied x y = (g.isOccupied x y || r.covers x y) := by
  rw [isOccupied, isOccupied, dif_pos ⟨hx, hy⟩, dif_pos ⟨hx, hy⟩, getElem_claim h,
    show (8 * y + x) % 8 = x by omega, show (8 * y + x) / 8 = y by omega]

/-! ## Free rectangles -/

lemma inBounds_of_isFree {g : Grid} {r : Rect} (h : g.isFree r = true) : r.inBounds = true := by
  simp only [isFree, Bool.and_eq_true] at h
  exact h.1

/-- No cell of a free rectangle is occupied. -/
lemma isOccupied_of_isFree {g : Grid} {r : Rect} (h : g.isFree r = true) {x y : Nat}
    (hxy : r.covers x y = true) : g.isOccupied x y = false := by
  obtain ⟨hx, hx', hy, hy'⟩ := Rect.covers_iff.mp hxy
  simp only [isFree, Bool.and_eq_true, List.all_eq_true, List.mem_range, Bool.not_eq_true'] at h
  have hcell := h.2 (y - r.y) (by omega) (x - r.x) (by omega)
  rwa [show r.x + (x - r.x) = x by omega, show r.y + (y - r.y) = y by omega] at hcell

/-- A rectangle inside the grid without occupied cells is free. -/
lemma isFree_of_forall {g : Grid} {r : Rect} (hb : r.inBounds = true)
    (h : ∀ x y, r.covers x y = true → g.isOccupied x y = false) : g.isFree r = true := by
  simp only [isFree, Bool.and_eq_true, List.all_eq_true, List.mem_range, Bool.not_eq_true']
  exact ⟨hb, fun dy hdy dx hdx => h _ _ (Rect.covers_iff.mpr (by omega))⟩

/-- **A claim leaves free what does not meet it.** -/
lemma isFree_claim {g : Grid} {r s : Rect} (hr : r.inBounds = true) (hs : g.isFree s = true)
    (hrs : r.Apart s) : (g.claim r).isFree s = true := by
  have hb := inBounds_of_isFree hs
  refine isFree_of_forall hb fun x y hxy => ?_
  obtain ⟨hx, hy⟩ := Rect.inBounds_iff.mp hb
  have hc := Rect.covers_iff.mp hxy
  rw [isOccupied_claim hr (by omega) (by omega), isOccupied_of_isFree hs hxy, Bool.false_or]
  exact Bool.eq_false_iff.mpr fun h => hrs x y ⟨h, hxy⟩

/-! ## The number of free cells -/

lemma freeCells_eq_card (g : Grid) :
    g.freeCells = (Finset.univ.filter fun i : Fin 64 => g.cells.get i = false).card := by
  have hlist : g.cells.toList = (List.finRange 64).map fun i => g.cells.get i := by
    refine List.ext_getElem (by simp) fun i hi _ => ?_
    simp only [Vector.getElem_toList, List.getElem_map, List.getElem_finRange, Vector.get_eq_getElem]
    rfl
  rw [freeCells, hlist, List.countP_map, List.countP_eq_length_filter,
    ← List.toFinset_card_of_nodup ((List.nodup_finRange 64).filter _)]
  congr 1
  ext i
  simp

/-- Claiming a free rectangle takes its area away from the free cells. -/
lemma freeCells_claim {g : Grid} {r : Rect} (h : g.isFree r = true) :
    (g.claim r).freeCells + r.area = g.freeCells := by
  have hb := inBounds_of_isFree h
  have hsub : r.places ⊆ Finset.univ.filter fun i : Fin 64 => g.cells.get i = false := by
    intro i hi
    simp only [Rect.places, Finset.mem_filter, Finset.mem_univ, true_and, Vector.get_eq_getElem]
      at hi ⊢
    have hfree := isOccupied_of_isFree h hi
    rw [isOccupied, dif_pos ⟨by omega, by omega⟩] at hfree
    simpa [Nat.div_add_mod] using hfree
  have hclaim : (Finset.univ.filter fun i : Fin 64 => (g.claim r).cells.get i = false)
      = (Finset.univ.filter fun i : Fin 64 => g.cells.get i = false) \ r.places := by
    ext i
    simp only [Rect.places, Finset.mem_filter, Finset.mem_univ, true_and, Finset.mem_sdiff,
      Vector.get_eq_getElem, getElem_claim hb, Bool.or_eq_false_iff, Bool.not_eq_true]
  rw [freeCells_eq_card, freeCells_eq_card, hclaim, ← Rect.card_places hb,
    Finset.card_sdiff_add_card_eq_card hsub]

/-! ## The invariant -/

/-- **The claims of a grid tile its occupied cells.** -/
structure Tiled (g : Grid) : Prop where
  /-- The claims lie inside the grid. -/
  inBounds : ∀ r ∈ g.claims, r.inBounds = true
  /-- No two claims share a cell. -/
  apart : g.claims.Pairwise Rect.Apart
  /-- A cell is occupied just when it belongs to a claim. -/
  occupied : ∀ x y, x < 8 → y < 8 →
    (g.isOccupied x y = true ↔ ∃ r ∈ g.claims, r.covers x y = true)
  /-- What is not claimed is free. -/
  freeCells_add : g.freeCells + (g.claims.map Rect.area).sum = 64

theorem tiled_empty : empty.Tiled where
  inBounds := by simp [empty]
  apart := by simp [empty]
  occupied x y hx hy := by
    rw [isOccupied_empty hx hy]
    simp [empty]
  freeCells_add := by decide

/-- **Claiming a free rectangle keeps a grid tiled.**  It meets no earlier claim, as the cells of
those are occupied. -/
theorem Tiled.claim {g : Grid} {r : Rect} (h : g.Tiled) (hr : g.isFree r = true) :
    (g.claim r).Tiled where
  inBounds := by
    intro s hs
    rcases List.mem_append.mp hs with hs | hs
    · exact h.inBounds s hs
    · rw [List.mem_singleton.mp hs]
      exact inBounds_of_isFree hr
  apart := by
    refine List.pairwise_append.mpr ⟨h.apart, List.pairwise_singleton _ _, ?_⟩
    intro s hs t ht x y hxy
    rw [List.mem_singleton.mp ht] at hxy
    obtain ⟨hx, hy⟩ := Rect.inBounds_iff.mp (h.inBounds s hs)
    have hc := Rect.covers_iff.mp hxy.1
    have hocc := (h.occupied x y (by omega) (by omega)).mpr ⟨s, hs, hxy.1⟩
    rw [isOccupied_of_isFree hr hxy.2] at hocc
    exact Bool.false_ne_true hocc
  occupied x y hx hy := by
    rw [isOccupied_claim (inBounds_of_isFree hr) hx hy, Bool.or_eq_true, h.occupied x y hx hy]
    simp only [Grid.claim, List.mem_append, List.mem_singleton, or_and_right, exists_or,
      exists_eq_left]
  freeCells_add := by
    have hfree := freeCells_claim hr
    have hsum := h.freeCells_add
    simp only [Grid.claim, List.map_append, List.map_cons, List.map_nil, List.sum_append,
      List.sum_cons, List.sum_nil] at hfree ⊢
    omega

/-! ## Room -/

/-- A random place is only answered if it is free, and it has the size asked for. -/
lemma tryRandom_isFree {g : Grid} {w h : Nat} : ∀ {tries : Nat} {d : Draws} {r : Rect},
    (g.tryRandom w h tries d).1 = some r → g.isFree r = true ∧ r.w = w ∧ r.h = h
  | 0, d, r, hr => by cases hr
  | tries + 1, d, r, hr => by
      simp only [tryRandom, bind, StateT.bind, pure] at hr
      split at hr
      rename_i x d₁ _
      split at hr
      rename_i y d₂ _
      split at hr
      · rename_i hfree
        cases hr
        exact ⟨hfree, rfl, rfl⟩
      · exact tryRandom_isFree hr

/-- **What the search for room answers is free** and has the size asked for. -/
lemma findFree_isFree {g : Grid} {w h : Nat} {d : Draws} {r : Rect}
    (hr : (g.findFree w h d).1 = some r) : g.isFree r = true ∧ r.w = w ∧ r.h = h := by
  unfold findFree at hr
  split at hr
  · simp only [bind, StateT.bind, pure] at hr
    split at hr
    rename_i found d₁ hfound
    cases found with
    | some s =>
      cases hr
      exact tryRandom_isFree (congrArg Prod.fst hfound)
    | none =>
      have hr : (places w h).find? g.isFree = some r := hr
      refine ⟨List.find?_some hr, ?_⟩
      have hmem := List.mem_of_find?_eq_some hr
      simp only [places, List.mem_flatMap, List.mem_map] at hmem
      obtain ⟨y, -, x, -, rfl⟩ := hmem
      exact ⟨rfl, rfl⟩
  · cases hr

end Grid

end PanelPuzzle
