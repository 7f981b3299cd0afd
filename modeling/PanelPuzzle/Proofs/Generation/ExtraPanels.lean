import PanelPuzzle.Proofs.Generation.Populating
/-!
# Extra panels hold a plug

An extra panel gets up to four switches, and then as many of the plugs that are left as find room.
Switches are one cell high and two wide, so four of them leave a square of two by two cells free,
`Grid.Narrow.exists_isFree_square`.  No plug takes more than that: the first one finds room.
-/

namespace PanelPuzzle

/-- Up to a number of rectangles are claimed on a grid, all of them one cell high and at most two wide. -/
structure Grid.Narrow (n : Nat) (g : Grid) : Prop where
  tiled : g.Tiled
  few : g.claims.length ≤ n
  narrow : ∀ r ∈ g.claims, r.w ≤ 2 ∧ r.h ≤ 1

namespace Grid.Narrow

variable {n : Nat} {g : Grid} {r : Rect}

lemma empty : Grid.empty.Narrow 0 := ⟨tiled_empty, le_rfl, fun _ hr => absurd hr List.not_mem_nil⟩

lemma claim (h : g.Narrow n) (hfree : g.isFree r = true) (hw : r.w ≤ 2) (hh : r.h ≤ 1) :
    (g.claim r).Narrow (n + 1) where
  tiled := h.tiled.claim hfree
  few := by
    rw [Grid.claim, List.length_append]
    exact Nat.succ_le_succ h.few
  narrow := List.forall_mem_append.mpr ⟨h.narrow, List.forall_mem_singleton.mpr ⟨hw, hh⟩⟩

/-- **There is room beside them** for what fits a small square. -/
lemma not_blocked (h : g.Narrow n) (hn : n < 12) {shape : Shape} {width height : Number}
    (hsmall : shape.FitsSquare width height) :
    ¬ g.Blocked (shape.footprint width height).1 (shape.footprint width height).2 := by
  obtain ⟨-, hw, -, hh⟩ := hsmall
  obtain ⟨i, hfree⟩ := exists_isFree_square h.tiled (h.few.trans_lt hn) h.narrow
  intro hblocked
  exact Bool.false_ne_true ((hblocked _ rfl rfl).symm.trans (isFree_part hfree hw hh))

end Grid.Narrow

namespace Making

open Generation Desk

variable {d d' : Desk}

/-- **Switches** are narrow, and leave the pool. -/
lemma works_placeSwitch_narrow (first : Bool) {n : Nat} (hgrid : d.draft.grid.Narrow n) :
    Works d (Technique.placeSwitch first) fun _ d' =>
      d'.pool = d.pool ∧ d'.draft.grid.Narrow (n + 1) := by
  have hcells : Shape.switch.footprint 1 1 = (2, 1) := by decide +kernel
  refine .allocate (fun _ => .pure ⟨rfl, hgrid.tiled, Nat.le_succ_of_le hgrid.few, hgrid.narrow⟩)
    fun r grid hclaims hw hh => ?_
  have hclaimed : grid.Narrow (n + 1) := by
    rw [hclaims.grid_eq]
    rw [hcells] at hw hh
    exact hgrid.claim hclaims.free hw.le hh.le
  refine .skip (.drawn _) fun target _ => .newSwitch fun color => .skip (.note _) fun _ _ => ?_
  exact .pushCoverable (.pure ⟨rfl, hclaimed⟩)

lemma works_repeatPlacing_narrow : ∀ (count : Nat) (first : Bool) {d : Desk} {n : Nat},
    d.draft.grid.Narrow n → Works d (repeatPlacing Technique.placeSwitch count first) fun _ d' =>
      d'.pool = d.pool ∧ d'.draft.grid.Narrow (n + count)
  | 0, _, _, _, hgrid => .pure ⟨rfl, hgrid⟩
  | count + 1, first, d, n, hgrid => by
    refine .bind (works_placeSwitch_narrow first hgrid) fun placed d₁ h => ?_
    obtain ⟨hpool, hnarrow⟩ := h
    split
    · refine (works_repeatPlacing_narrow count false hnarrow).weaken fun _ d' h => ?_
      rw [Nat.add_assoc, Nat.add_comm 1] at h
      exact ⟨h.1.trans hpool, h.2⟩
    · refine .pure ⟨hpool, hnarrow.tiled, ?_, hnarrow.narrow⟩
      exact hnarrow.few.trans (by omega)

/-- **An extra panel has a goal, and holds a plug.** -/
lemma works_makeExtra (hd : d.Sound) (hempty : d.draft.grid = Grid.empty) (hpool : d.pool ≠ 0)
    (horigin : ∀ p ∈ d.pool, p.origin ≠ d.draft.index) :
    Works d makeExtra fun placed d' => d.Turns d' ∧ d'.HasGoal ∧ 0 < placed ∧
      ∃ q ∈ d'.placements, q.panel = d.draft.index := by
  have hswitch : Works d TechniqueKind.switch.apply fun applied d' =>
      Applied .switch d applied d' ∧ d'.pool = d.pool ∧ d'.draft.grid.Narrow 4 := by
    refine .and (works_technique hd .switch) ?_
    refine .skip (.draws (Draws.keeps_inRange_of_le (by decide))) fun count hcount => ?_
    have hnarrow : d.draft.grid.Narrow 0 := by
      rw [hempty]
      exact .empty
    refine (works_repeatPlacing_narrow count true hnarrow).weaken fun _ d' h => ⟨h.1, ?_⟩
    exact ⟨h.2.tiled, h.2.few.trans (by omega), h.2.narrow⟩
  refine .bind hswitch fun applied d₁ h => .readSession fun s hs => ?_
  obtain ⟨happlied, hpool', hnarrow⟩ := h
  have hyes : applied = true := by
    by_contra hrefused
    exact not_crowded hempty (happlied.crowded (Bool.eq_false_iff.mpr hrefused) nofun)
  have hindex := happlied.turns.index_eq
  have hsound := happlied.turns.sound hd
  obtain ⟨plug, hplug⟩ := Multiset.exists_mem_of_ne_zero hpool
  have hquota : 0 < s.pool.size := by
    have hmem : plug ∈ (s.pool.plugs : Multiset Plug) := by
      rw [show (s.pool.plugs : Multiset Plug) = d₁.pool from congrArg Desk.pool hs, hpool']
      exact hplug
    exact List.length_pos_of_mem (Multiset.mem_coe.mp hmem)
  have hserves : d₁.Serves := ⟨plug, hpool' ▸ hplug, hindex ▸ horigin plug hplug⟩
  have hroomy : d₁.Roomy := fun p hp _ => hnarrow.not_blocked (by decide) (hsound.small p hp)
  refine (works_distributePlugs _ hsound).weaken fun placed d' h => ?_
  obtain ⟨hplaced, q, hq, hpanel⟩ := h.2 hquota hserves hroomy
  exact ⟨happlied.turns.trans h.1, (happlied.goal hyes).turns h.1, hplaced, q, hq, hpanel.trans hindex⟩

end Making

end PanelPuzzle
