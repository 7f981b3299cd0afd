import PanelPuzzle.Proofs.Grid.Room
/-!
# The search for room is exact

Chance decides where a rectangle goes and not whether it finds room.  What the search answers is a
vacant rectangle, and it answers nothing only if there is none, or nothing to place.

* `Grid.Vacant` — a rectangle lies inside the grid, and its cells are free.
* `Grid.blocked_one_iff` — a single cell finds room as long as a cell is free.
* `Grid.Takes` — one more rectangle is taken, with its cells and no others.
* `Grid.search_sound_complete` — **the search and the claim that follows it,** on every grid.
-/

namespace PanelPuzzle

namespace Grid

variable {g g' : Grid} {r : Rect} {w h : Nat}

/-- **A rectangle is vacant:** it lies inside the grid, and none of its cells is occupied. -/
structure Vacant (g : Grid) (r : Rect) : Prop where
  right : r.x + r.w ≤ gridSize
  bottom : r.y + r.h ≤ gridSize
  free : ∀ x y, r.covers x y = true → g.isOccupied x y = false

lemma isFree_iff_vacant : g.isFree r = true ↔ g.Vacant r := by
  constructor
  · intro hfree
    obtain ⟨hright, hbottom⟩ := Rect.inBounds_iff.mp (inBounds_of_isFree hfree)
    exact ⟨hright, hbottom, fun _ _ => isOccupied_of_isFree hfree⟩
  · exact fun hr => isFree_of_forall (Rect.inBounds_iff.mpr ⟨hr.right, hr.bottom⟩) hr.free

/-! ## The answer of the search -/

lemma vacant_of_findFree {draws : Draws} (hfound : (g.findFree w h draws).1 = some r) :
    r.w = w ∧ r.h = h ∧ g.Vacant r := by
  obtain ⟨hfree, hw, hh⟩ := findFree_isFree hfound
  exact ⟨hw, hh, isFree_iff_vacant.mp hfree⟩

/-- Nothing is looked for if the size has no cells, or is too large for an empty grid. -/
lemma findFree_of_not_fits (hfits : ¬ fitsGrid w h = true) (draws : Draws) :
    (g.findFree w h draws).1 = none := by
  rw [findFree, if_neg hfits]
  rfl

/-- **Nothing is found only if there is nothing to find,** or nothing to place. -/
lemma findFree_eq_none_iff (draws : Draws) : (g.findFree w h draws).1 = none ↔
    w = 0 ∨ h = 0 ∨ ∀ r : Rect, r.w = w → r.h = h → ¬ g.Vacant r := by
  by_cases hfits : fitsGrid w h = true
  · obtain ⟨hw, hh, -, -⟩ := fitsGrid_iff.mp hfits
    refine ⟨fun hnone => .inr (.inr fun r hrw hrh hr => ?_), fun hno => ?_⟩
    · have hblocked := blocked_of_findFree hfits hnone r hrw hrh
      exact Bool.false_ne_true (hblocked.symm.trans (isFree_iff_vacant.mpr hr))
    · have hnone := (hno.resolve_left (Nat.ne_of_gt hw)).resolve_left (Nat.ne_of_gt hh)
      refine Option.eq_none_iff_forall_not_mem.mpr fun r hfound => ?_
      obtain ⟨hrw, hrh, hr⟩ := vacant_of_findFree hfound
      exact hnone r hrw hrh hr
  · refine iff_of_true (findFree_of_not_fits hfits draws) ?_
    rw [fitsGrid_iff] at hfits
    by_cases hcells : 0 < w ∧ 0 < h
    · -- the size has cells, so it is too large for the grid
      refine .inr (.inr fun r hrw hrh hr => ?_)
      have hright : r.x + r.w ≤ 8 := hr.right
      have hbottom : r.y + r.h ≤ 8 := hr.bottom
      omega
    · omega

/-- **A single cell finds room** just if a cell is free. -/
lemma blocked_one_iff : g.Blocked 1 1 ↔ ¬ 0 < g.freeCells := by
  rw [freeCells_eq_card, Finset.card_pos, Finset.not_nonempty_iff_eq_empty, Finset.filter_eq_empty_iff]
  constructor
  · intro hblocked i _ hcell
    have hfree : g.isFree ⟨i.val % 8, i.val / 8, 1, 1⟩ = true := by
      refine isFree_of_forall (Rect.inBounds_iff.mpr (by dsimp only; omega)) fun x y hxy => ?_
      have hc := Rect.covers_iff.mp hxy
      dsimp only at hc
      obtain ⟨rfl, rfl⟩ : x = i.val % 8 ∧ y = i.val / 8 := by omega
      rw [isOccupied, dif_pos (by omega)]
      simpa only [Vector.get_eq_getElem, Nat.div_add_mod] using hcell
    exact Bool.false_ne_true ((hblocked _ rfl rfl).symm.trans hfree)
  · intro hfull r hw hh
    refine Bool.eq_false_of_not_eq_true fun hfree => ?_
    obtain ⟨hx, hy⟩ := Rect.inBounds_iff.mp (inBounds_of_isFree hfree)
    have hcell := isOccupied_of_isFree hfree (Rect.covers_iff.mpr (by omega) : r.covers r.x r.y = true)
    rw [isOccupied, dif_pos (by omega)] at hcell
    exact hfull (Finset.mem_univ ⟨8 * r.y + r.x, by omega⟩) hcell

/-! ## The claim -/

/-- **One more rectangle is taken.**  It is the last claim, its cells are just those that become
occupied, and no cell becomes free. -/
structure Takes (g : Grid) (r : Rect) (g' : Grid) : Prop where
  claims : g'.claims = g.claims ++ [r]
  taken : ∀ x y, (g.isOccupied x y = false ∧ g'.isOccupied x y = true) ↔ r.covers x y = true
  kept : ∀ x y, g.isOccupied x y = true → g'.isOccupied x y = true

lemma isOccupied_outside {x y : Nat} (hxy : ¬ (x < 8 ∧ y < 8)) : g.isOccupied x y = true := by
  rw [isOccupied, dif_neg hxy]

lemma Vacant.takes (hr : g.Vacant r) : g.Takes r (g.claim r) := by
  have hbounds : r.inBounds = true := Rect.inBounds_iff.mpr ⟨hr.right, hr.bottom⟩
  refine ⟨rfl, fun x y => ?_, fun x y hxy => ?_⟩
  · by_cases hin : x < 8 ∧ y < 8
    · rw [isOccupied_claim hbounds hin.1 hin.2]
      refine ⟨fun hnew => ?_, fun hcovers => ⟨hr.free x y hcovers, ?_⟩⟩
      · have hcell := hnew.2
        rwa [hnew.1, Bool.false_or] at hcell
      · rw [hcovers, Bool.or_true]
    · refine iff_of_false (fun hnew => ?_) fun hcovers => ?_
      · exact Bool.false_ne_true (hnew.1.symm.trans (isOccupied_outside hin))
      · exact Bool.false_ne_true ((hr.free x y hcovers).symm.trans (isOccupied_outside hin))
  · by_cases hin : x < 8 ∧ y < 8
    · rw [isOccupied_claim hbounds hin.1 hin.2, hxy, Bool.true_or]
    · exact isOccupied_outside hin

/-- What is found is claimed. -/
lemma allocate_eq (draws : Draws) : (allocate w h g draws).1 =
    match (g.findFree w h draws).1 with
    | some r => (some r, g.claim r)
    | none => (none, g) := by
  simp only [allocate, bind, StateT.bind, pure]
  split
  rename_i found rest hfound
  rw [hfound]
  cases found <;> rfl

/-- **The search for room is sound and complete, whatever is drawn.**  What it finds is vacant, and it
finds nothing just if the size has no cells or no rectangle of the size is vacant.  So chance has no part
in whether room is found, and what is found is taken: its cells become occupied and no others, and it is
the one claim that is added. -/
theorem search_sound_complete (g : Grid) (w h : Nat) :
    (∀ draws r, (g.findFree w h draws).1 = some r → r.w = w ∧ r.h = h ∧ g.Vacant r) ∧
    (∀ draws, (g.findFree w h draws).1 = none ↔
      w = 0 ∨ h = 0 ∨ ∀ r : Rect, r.w = w → r.h = h → ¬ g.Vacant r) ∧
    (∀ draws draws', (allocate w h g draws).1.1.isSome = (allocate w h g draws').1.1.isSome) ∧
    ∀ draws, (allocate w h g draws).1.1 = (g.findFree w h draws).1 ∧
      ((allocate w h g draws).1 = (none, g) ∨
        ∃ r g', (allocate w h g draws).1 = (some r, g') ∧ g.Takes r g') := by
  have hanswer : ∀ draws, (allocate w h g draws).1.1 = (g.findFree w h draws).1 := fun draws => by
    rw [allocate_eq]
    cases (g.findFree w h draws).1 <;> rfl
  refine ⟨fun _ _ => vacant_of_findFree, findFree_eq_none_iff, fun draws draws' => ?_,
    fun draws => ⟨hanswer draws, ?_⟩⟩
  · rw [hanswer, hanswer, Bool.eq_iff_iff, Option.isSome_iff_ne_none, Option.isSome_iff_ne_none]
    exact not_congr ((findFree_eq_none_iff draws).trans (findFree_eq_none_iff draws').symm)
  · rw [allocate_eq]
    cases hfound : (g.findFree w h draws).1 with
    | none => exact .inl rfl
    | some r => exact .inr ⟨r, _, rfl, (vacant_of_findFree hfound).2.2.takes⟩

end Grid

end PanelPuzzle
