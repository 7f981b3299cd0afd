import PanelPuzzle.Proofs.Grid.Search
/-!
# A grid is the union of what was reserved

Reserved rectangles may overlap, and they may lie partly or wholly outside the grid.  However they were
reserved, the cells of the grid that are occupied are those that belong to one of them.

**Words.**  The size of a rectangle is a word that is read as a signed number, and so is the corner of a
claim.  A size in the greater half of the words would be negative, and a claim whose far edges are no
words could reach around to the first cells.  `Reserved` asks for neither.

* `Area` — a rectangle whose corner may lie outside the grid.
* `Grid.Reserved` — a grid on which areas were reserved, claimed and allocated, in any order.
* `Grid.IsUnion` — the occupied cells are those of some areas; `IsUnion.reserveRect` and `IsUnion.claim`
  add one, and `Reserved.isUnion` follows.
* `Grid.Reserved.cells_eq_union` — **what such a grid says about its cells, about room and about its claims.**
-/

namespace PanelPuzzle

/-! ## Areas -/

/-- A rectangle of cells that may lie partly or wholly outside the grid. -/
structure Area where
  x : Int
  y : Int
  w : Nat
  h : Nat

/-- A cell belongs to an area. -/
def Area.Covers (a : Area) (x y : Nat) : Prop :=
  (a.x ≤ x ∧ x < a.x + a.w) ∧ a.y ≤ y ∧ y < a.y + a.h

instance (a : Area) (x y : Nat) : Decidable (a.Covers x y) := inferInstanceAs (Decidable (_ ∧ _))

/-- An area and a rectangle have a cell in common. -/
def Area.Meets (a : Area) (r : Rect) : Prop := ∃ x y, a.Covers x y ∧ r.covers x y = true

/-- The area of a rectangle. -/
def Rect.toArea (r : Rect) : Area := ⟨r.x, r.y, r.w, r.h⟩

/-- The area of an element: its cells, from the one that holds its corner. -/
def Element.toArea (e : Element) : Area := ⟨e.x.floorInt, e.y.floorInt, e.footprint.1, e.footprint.2⟩

/-- The sizes of an area are positive as signed words. -/
def Area.Sized (a : Area) : Prop := a.w < 9223372036854775808 ∧ a.h < 9223372036854775808

instance (a : Area) : Decidable a.Sized := inferInstanceAs (Decidable (_ ∧ _))

/-- The far edges of a rectangle are words, or one more than the last word. -/
def Rect.Edged (r : Rect) : Prop := r.x + r.w ≤ 18446744073709551616 ∧ r.y + r.h ≤ 18446744073709551616

instance (r : Rect) : Decidable r.Edged := inferInstanceAs (Decidable (_ ∧ _))

lemma Rect.toArea_covers {r : Rect} {x y : Nat} : r.toArea.Covers x y ↔ r.covers x y = true := by
  rw [Rect.covers_iff]
  simp only [Area.Covers, Rect.toArea]
  omega

namespace Grid

/-! ## Histories -/

/-- **A grid on which areas were reserved and rectangles claimed,** in this order, from the empty one. -/
inductive Reserved : List Area → List Rect → Grid → Prop
  | empty : Reserved [] [] Grid.empty
  | reserveRect {areas claims g} (a : Area) (ha : a.Sized) :
      Reserved areas claims g → Reserved (areas ++ [a]) claims (g.reserveRect a.x a.y a.w a.h)
  | reserve {areas claims g} (e : Element) (he : e.toArea.Sized) :
      Reserved areas claims g → Reserved (areas ++ [e.toArea]) claims (g.reserve e)
  | claim {areas claims g} (r : Rect) (hsized : r.toArea.Sized) (hedged : r.Edged) :
      Reserved areas claims g → Reserved (areas ++ [r.toArea]) (claims ++ [r]) (g.claim r)
  | allocate {areas claims g} (w h : Nat) (draws : Draws) : Reserved areas claims g →
      Reserved (areas ++ ((allocate w h g draws).1.1.map Rect.toArea).toList)
        (claims ++ (allocate w h g draws).1.1.toList) (allocate w h g draws).1.2

variable {g : Grid} {areas : List Area} {claims : List Rect}

/-! ## Unions -/

/-- **The occupied cells are those of some areas.** -/
def IsUnion (g : Grid) (areas : List Area) : Prop :=
  ∀ i (hi : i < 64), g.cells[i] = true ↔ ∃ a ∈ areas, a.Covers (i % 8) (i / 8)

lemma isUnion_empty : empty.IsUnion [] := fun i hi => by simp [empty]

/-- An area is added by whatever occupies its cells and no others. -/
lemma IsUnion.add {g' : Grid} {a : Area} (h : g.IsUnion areas)
    (hcells : ∀ i (hi : i < 64), g'.cells[i] = true ↔ g.cells[i] = true ∨ a.Covers (i % 8) (i / 8)) :
    g'.IsUnion (areas ++ [a]) := fun i hi => by
  rw [hcells i hi, h i hi]
  simp only [List.mem_append, List.mem_singleton, or_and_right, exists_or, exists_eq_left]

/-- **A reserved rectangle is added,** wherever its corner is. -/
lemma IsUnion.reserveRect {a : Area} (ha : a.Sized) (h : g.IsUnion areas) :
    (g.reserveRect a.x a.y a.w a.h).IsUnion (areas ++ [a]) := by
  refine h.add fun i hi => ?_
  rw [getElem_reserveRect, signedCells_of_lt ha.1, signedCells_of_lt ha.2]
  simp only [Bool.or_eq_true, Bool.and_eq_true, decide_eq_true_eq, Area.Covers, and_assoc, Int.natCast_mod,
    Int.natCast_ediv, Nat.cast_ofNat]

lemma signedCells_cases (n : Nat) : n < 9223372036854775808 ∧ signedCells n = n ∨
    9223372036854775808 ≤ n ∧ signedCells n = n - 18446744073709551616 := by
  by_cases hn : n < 9223372036854775808
  · exact .inl ⟨hn, if_pos hn⟩
  · exact .inr ⟨Nat.le_of_not_lt hn, if_neg hn⟩

/-- **A claim adds its rectangle.**  Its corner is read as a signed number, but a corner that would be
negative is too far away for the rectangle to reach the grid. -/
lemma IsUnion.claim {r : Rect} (hsized : r.toArea.Sized) (hedged : r.Edged) (h : g.IsUnion areas) :
    (g.claim r).IsUnion (areas ++ [r.toArea]) := by
  obtain ⟨hw, hh⟩ := hsized
  obtain ⟨hright, hbottom⟩ := hedged
  refine h.add fun i hi => ?_
  refine (iff_of_eq (congrArg (· = true) (getElem_reserveRect g _ _ _ _ i hi))).trans ?_
  rw [signedCells_of_lt (n := r.w) hw, signedCells_of_lt (n := r.h) hh, Rect.toArea_covers, Rect.covers_iff]
  simp only [Bool.or_eq_true, Bool.and_eq_true, decide_eq_true_eq]
  refine or_congr_right ?_
  have hx := signedCells_cases r.x
  have hy := signedCells_cases r.y
  omega

/-! ## Every history makes a union -/

lemma reserve_eq (e : Element) :
    g.reserve e = g.reserveRect e.toArea.x e.toArea.y e.toArea.w e.toArea.h := rfl

lemma claims_reserveRect (x y : Int) (w h : Nat) : (g.reserveRect x y w h).claims = g.claims := by
  simp only [reserveRect]

/-- Whatever was reserved, a grid is the union of it, and its claims are in order. -/
lemma Reserved.isUnion (h : Reserved areas claims g) : g.IsUnion areas ∧ g.claims = claims := by
  induction h with
  | empty => exact ⟨isUnion_empty, rfl⟩
  | reserveRect a ha _ ih => exact ⟨ih.1.reserveRect ha, (claims_reserveRect ..).trans ih.2⟩
  | reserve e he _ ih =>
    rw [reserve_eq]
    exact ⟨ih.1.reserveRect he, (claims_reserveRect ..).trans ih.2⟩
  | claim r hsized hedged _ ih =>
    exact ⟨ih.1.claim hsized hedged, congrArg (· ++ [r]) ih.2⟩
  | @allocate areas claims g w h draws _ ih =>
    rcases allocate_cases g w h draws with ⟨hnone, -⟩ | ⟨r, hsome, hfree, -, -⟩
    · simpa only [hnone, Option.map_none, Option.toList_none, List.append_nil] using ih
    · obtain ⟨hright, hbottom⟩ := Rect.inBounds_iff.mp (inBounds_of_isFree hfree)
      have hsized : r.toArea.Sized := ⟨by simp only [Rect.toArea]; omega, by simp only [Rect.toArea]; omega⟩
      have hedged : r.Edged := ⟨by omega, by omega⟩
      rw [hsome]
      exact ⟨ih.1.claim hsized hedged, congrArg (· ++ [r]) ih.2⟩

/-! ## What a union says -/

lemma IsUnion.isOccupied_iff (h : g.IsUnion areas) {x y : Nat} (hx : x < 8) (hy : y < 8) :
    g.isOccupied x y = true ↔ ∃ a ∈ areas, a.Covers x y := by
  rw [isOccupied, dif_pos ⟨hx, hy⟩, h, show (8 * y + x) % 8 = x by omega, show (8 * y + x) / 8 = y by omega]

/-- A rectangle is free if it lies inside and meets no area. -/
lemma IsUnion.isFree_iff (h : g.IsUnion areas) {r : Rect} : g.isFree r = true ↔
    (r.x + r.w ≤ gridSize ∧ r.y + r.h ≤ gridSize) ∧ ∀ a ∈ areas, ¬ a.Meets r := by
  rw [isFree_iff_vacant]
  constructor
  · rintro ⟨hright, hbottom, hfree⟩
    refine ⟨⟨hright, hbottom⟩, ?_⟩
    rintro a ha ⟨x, y, hcovers, hr⟩
    have hin := Rect.covers_iff.mp hr
    have hcell :=
      (h.isOccupied_iff (hin.2.1.trans_le hright) (hin.2.2.2.trans_le hbottom)).mpr ⟨a, ha, hcovers⟩
    exact Bool.false_ne_true ((hfree x y hr).symm.trans hcell)
  · rintro ⟨⟨hright, hbottom⟩, hapart⟩
    refine ⟨hright, hbottom, fun x y hr => Bool.eq_false_of_not_eq_true fun hcell => ?_⟩
    have hin := Rect.covers_iff.mp hr
    obtain ⟨a, ha, hcovers⟩ :=
      (h.isOccupied_iff (hin.2.1.trans_le hright) (hin.2.2.2.trans_le hbottom)).mp hcell
    exact hapart a ha ⟨x, y, hcovers, hr⟩

/-- The cells of the grid, as column and row, that belong to an area. -/
def covered (areas : List Area) : Finset (Fin 8 × Fin 8) :=
  Finset.univ.filter fun c => ∃ a ∈ areas, a.Covers c.1 c.2

/-- The occupied cells, counted as they are stored, are as many as those that belong to an area. -/
lemma IsUnion.card_covered (h : g.IsUnion areas) :
    (Finset.univ.filter fun i : Fin 64 => ¬ g.cells.get i = false).card = (covered areas).card := by
  refine Finset.card_bij (fun i _ => (⟨i.val % 8, by omega⟩, ⟨i.val / 8, by omega⟩)) ?_ ?_ ?_
  · intro i hi
    rw [Finset.mem_filter, Bool.not_eq_false] at hi
    exact Finset.mem_filter.mpr ⟨Finset.mem_univ _, (h i i.isLt).mp hi.2⟩
  · intro i _ j _ hij
    simp only [Prod.mk.injEq, Fin.mk.injEq] at hij
    exact Fin.ext (by omega)
  · rintro ⟨x, y⟩ hc
    have hcell : 8 * y.val + x.val < 64 := by omega
    refine ⟨⟨8 * y.val + x.val, hcell⟩, ?_, ?_⟩
    · rw [Finset.mem_filter, Bool.not_eq_false]
      refine ⟨Finset.mem_univ _, (h _ hcell).mpr ?_⟩
      rw [show (8 * y.val + x.val) % 8 = x by omega, show (8 * y.val + x.val) / 8 = y by omega]
      exact (Finset.mem_filter.mp hc).2
    · simp only [Prod.mk.injEq, Fin.ext_iff]
      omega

/-- **The free cells are those that belong to no area.** -/
lemma IsUnion.freeCells_eq (h : g.IsUnion areas) : g.freeCells = 64 - (covered areas).card := by
  have hall := Finset.card_filter_add_card_filter_not (s := (Finset.univ : Finset (Fin 64)))
    (fun i => g.cells.get i = false)
  rw [← freeCells_eq_card, h.card_covered, Finset.card_univ, Fintype.card_fin] at hall
  omega

/-! ## The result -/

/-- **A grid is the set of the cells that were reserved.**  Whatever was reserved, claimed and allocated,
in whatever order: a cell of the grid is occupied just if it belongs to an area, and all others count as
occupied; a rectangle is free just if it lies inside the grid and meets no area; the free cells are those
of no area; and the claims are the claimed and allocated rectangles in order. -/
theorem Reserved.cells_eq_union (h : Reserved areas claims g) :
    (∀ x y, x < 8 → y < 8 → (g.isOccupied x y = true ↔ ∃ a ∈ areas, a.Covers x y)) ∧
    (∀ x y, ¬ (x < 8 ∧ y < 8) → g.isOccupied x y = true) ∧
    (∀ r : Rect, g.isFree r = true ↔
      (r.x + r.w ≤ gridSize ∧ r.y + r.h ≤ gridSize) ∧ ∀ a ∈ areas, ¬ a.Meets r) ∧
    g.freeCells = 64 - (covered areas).card ∧
    g.claims = claims := by
  obtain ⟨hunion, hclaims⟩ := h.isUnion
  exact ⟨fun _ _ => hunion.isOccupied_iff, fun _ _ => isOccupied_outside, fun _ => hunion.isFree_iff,
    hunion.freeCells_eq, hclaims⟩

/-- A rectangle that lies partly above the grid and right of it, and a claim that meets it in one cell. -/
theorem Reserved.cells_eq_union_clipped :
    let g := (Grid.empty.reserveRect 6 (-1) 4 3).claim ⟨5, 1, 2, 1⟩
    Reserved [⟨6, -1, 4, 3⟩, ⟨5, 1, 2, 1⟩] [⟨5, 1, 2, 1⟩] g ∧ g.freeCells = 59 ∧
      g.isFree ⟨0, 0, 8, 2⟩ = false ∧ g.isFree ⟨0, 2, 8, 6⟩ = true := by
  have hreserved := Reserved.claim ⟨5, 1, 2, 1⟩ (by decide) (by decide)
    (Reserved.reserveRect ⟨6, -1, 4, 3⟩ (by decide) Reserved.empty)
  obtain ⟨-, -, hfree, hcount, -⟩ := Reserved.cells_eq_union hreserved
  refine ⟨hreserved, hcount.trans (by decide), ?_, (hfree _).mpr ⟨by decide, ?_⟩⟩
  · refine Bool.eq_false_of_not_eq_true fun h => ((hfree _).mp h).2 _ List.mem_cons_self ⟨6, 0, ?_⟩
    exact ⟨by decide, by decide⟩
  · rintro a ha ⟨x, y, hcovers, hr⟩
    have hin := Rect.covers_iff.mp hr
    rcases List.mem_pair.mp ha with rfl | rfl
    all_goals
      obtain ⟨-, hcell⟩ := hcovers
      dsimp only [Rect.toArea] at hcell hin
      omega

end Grid

end PanelPuzzle
