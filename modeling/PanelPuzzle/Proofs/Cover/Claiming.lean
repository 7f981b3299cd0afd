import PanelPuzzle.Cover.Coverings
import PanelPuzzle.Proofs.Technique.Claiming
/-!
# Covers only claim

Two covers claim rectangles that they have not from the search for room: a ring of tiles, and the
strip that makes the lid of a switch larger.

**The ring.**  All its rectangles are chosen before the first of them is claimed.
`Cover.around_pairwise` says that they do not meet, so each is still free when its turn comes:
`Making.OnlyClaims.placeRing_grows`.

**The strip.**  It is claimed alone, right after it was found free.
-/

namespace PanelPuzzle

/-! ## Rings -/

namespace Cover

/-- **Two rectangles of a ring do not meet.**  They have the size of the one in the middle and lie
whole sizes away from it. -/
lemma around_pairwise {r : Rect} (hw : r.w ≤ 8) (hh : r.h ≤ 8) :
    (around r).Pairwise Rect.Apart := by
  unfold around
  rw [signedCells_of_lt (n := r.w) (by omega), signedCells_of_lt (n := r.h) (by omega),
    List.pairwise_filterMap]
  refine List.Pairwise.imp (R := (· ≠ ·)) ?_ (by decide)
  rintro ⟨a, b⟩ ⟨a', b'⟩ hne s hs s' hs' x y ⟨hx, hx'⟩
  simp only [Option.ite_none_right_eq_some, Option.some.injEq] at hs hs'
  obtain ⟨hpos, rfl⟩ := hs
  obtain ⟨hpos', rfl⟩ := hs'
  rw [Rect.covers_iff] at hx hx'
  simp only at hx hx'
  -- two different steps differ across or down, by one size at least
  have hsteps : a < a' ∨ a' < a ∨ b < b' ∨ b' < b := by
    by_contra h
    exact hne (Prod.ext (by omega) (by omega))
  have hapart : ∀ i j n : Int, 0 ≤ n → i < j → i * n + n ≤ j * n := fun i j n hn hij => by
    nlinarith
  rcases hsteps with h | h | h | h
  · have := hapart a a' r.w (by omega) h
    omega
  · have := hapart a' a r.w (by omega) h
    omega
  · have := hapart b b' r.h (by omega) h
    omega
  · have := hapart b' b r.h (by omega) h
    omega

/-- The free rectangles around a rectangle do not meet. -/
lemma ringAround_pairwise (g : Grid) (r : Rect) : (ringAround g r).Pairwise Rect.Apart := by
  cases hring : ringAround g r with
  | nil => exact List.Pairwise.nil
  | cons s others =>
    rw [← hring]
    -- a member lies inside the grid and has the size of the rectangle in the middle
    have hs : s ∈ ringAround g r := hring ▸ List.mem_cons_self
    obtain ⟨hmem, hfree⟩ := List.mem_filter.mp hs
    have hb := Rect.inBounds_iff.mp (Grid.inBounds_of_isFree hfree)
    obtain ⟨step, -, hstep⟩ := List.mem_filterMap.mp hmem
    simp only [Option.ite_none_right_eq_some, Option.some.injEq] at hstep
    obtain ⟨-, rfl⟩ := hstep
    dsimp only at hb
    exact (around_pairwise (by omega) (by omega)).filter _

end Cover

namespace Making.OnlyClaims

/-! ## Covers -/

open Cover

lemma chooseGate : OnlyClaims Cover.chooseGate := by
  refine .bind .draft fun d => ?_
  have gated : ∀ remote : Bool, OnlyClaims (do
      if remote then Pure.pure .remote
      else
        let number ← Draws.below plainGates.length
        Pure.pure (plainGates.getD number .drag) : Making Gate) := fun remote => by
    cases remote with
    | false => exact .bind (.draws _) fun _ => .pure _
    | true => exact .pure _
  dsimp only
  split
  · exact .bind (.session _) gated
  · exact .bind (.pure _) gated

lemma physical (target : Nat) : OnlyClaims (Cover.physical target) := by
  refine .bind .draft fun d => ?_
  cases d.coverables[target]? with
  | none => exact .pure _
  | some c =>
    refine .bind (.session _) fun plain => .bind (.session _) fun color => ?_
    refine .bind .chooseGate fun gate => .bind (.push _) fun place => ?_
    dsimp only
    split
    · refine .bind (.addControllers _) fun controlled => ?_
      split
      · exact .bind (.modifyElement _ _) fun _ => .pure _
      · exact .pure _
    · exact .pure _

lemma takeOver (target source : Nat) : OnlyClaims (Cover.takeOver target source) :=
  .bind (.modifyElement _ _) fun _ => .modifyDraft fun _ => rfl

lemma remoteOnly (target : Nat) : OnlyClaims (Cover.remoteOnly target) := by
  refine .bind .draft fun d => ?_
  rcases d.sourceOf? target with _ | ⟨source, e⟩
  · exact .pure _
  refine .bind (.addControllers _) fun controlled => ?_
  split
  · exact .bind (.takeOver _ _) fun _ => .pure _
  · exact .pure _

lemma switchRelease (target : Nat) : OnlyClaims (Cover.switchRelease target) := by
  refine .bind .draft fun d => ?_
  rcases d.sourceOf? target with _ | ⟨source, e⟩
  · exact .pure _
  refine .bind (.allocate _ _ _) fun found => ?_
  cases found with
  | none => exact .pure _
  | some r =>
    refine .bind (.newSwitch _ _) fun plain => .bind (.note _) fun _ => ?_
    refine .bind (.push _) fun _ => .bind (.modifyDraft fun _ => rfl) fun _ => ?_
    exact .bind (.takeOver _ _) fun _ => .pure _

lemma sizeObscure (target : Nat) : OnlyClaims (Cover.sizeObscure target) := by
  refine .bind .draft fun d => ?_
  split
  · refine .bind (.draws _) fun size => ?_
    cases size with
    | none => exact .pure _
    | some size =>
      refine .bind (.addButton _) fun button => ?_
      cases button with
      | none => exact .pure _
      | some place =>
        exact .bind (.modifyElement _ _) fun _ => .bind (.modifyDraft fun _ => rfl) fun _ =>
          .pure _
  · exact .pure _

lemma resetTrap : OnlyClaims Cover.resetTrap := by
  refine .bind .draft fun d => .bind (.draws _) fun id => ?_
  cases id with
  | none => exact .pure _
  | some id =>
    refine .bind (.addButton _) fun button => ?_
    cases button with
    | none => exact .pure _
    | some place => exact .bind (.note _) fun _ => .bind (.modifyDraft fun _ => rfl) fun _ => .pure _

/-- The strip beside a switch is claimed only if it is free. -/
lemma enlarge (r : Rect) : OnlyClaims (Cover.enlarge r) := by
  intro b
  unfold Cover.enlarge
  dsimp only [Bind.bind, StateT.bind, Making.draft, MonadState.get, getThe, MonadStateOf.get,
    StateT.get, Pure.pure, StateT.pure]
  cases hfound : (strips r).find? fun pair => b.draft.grid.isFree pair.1 with
  | none => exact .refl
  | some found =>
    have hfree : b.draft.grid.isFree found.1 = true := by simpa using List.find?_some hfound
    exact .claim .refl hfree

/-- **A ring of free tiles that do not meet:** each is still free when its turn comes. -/
lemma placeRing_grows (color : UInt8) (ring : List Rect) (b : Workbench)
    (hfree : ∀ r ∈ ring, b.draft.grid.isFree r = true) (hapart : ring.Pairwise Rect.Apart) :
    b.draft.grid.Grows (placeRing color ring b).2.draft.grid := by
  induction ring generalizing b with
  | nil => exact .refl
  | cons r others ih =>
      obtain ⟨hr, hothers⟩ := List.pairwise_cons.mp hapart
      have hr' := hfree r List.mem_cons_self
      obtain ⟨b', hstep, hb'⟩ : ∃ b', placeRing color (r :: others) b = placeRing color others b'
          ∧ b'.draft.grid = b.draft.grid.claim r := ⟨_, rfl, rfl⟩
      rw [hstep]
      refine (Grid.Grows.claim .refl hr').trans ?_
      rw [← hb']
      refine ih b' (fun s hs => ?_) hothers
      rw [hb']
      exact Grid.isFree_claim (Grid.inBounds_of_isFree hr')
        (hfree s (List.mem_cons_of_mem r hs)) (hr s hs)

lemma groupObscure (target : Nat) : OnlyClaims (Cover.groupObscure target) := by
  refine .bind .draft fun d => ?_
  cases d.coverables[target]? with
  | none => exact .pure _
  | some c =>
    refine .bind (.session _) fun color => ?_
    dsimp only
    split
    · refine .bind (.enlarge _) fun r => .bind (.session _) fun lid => ?_
      exact .bind (.push _) fun _ => .pure _
    · intro b
      change b.draft.grid.Grows ((if (ringAround b.draft.grid c.footprint).length < leastRing then
        Pure.pure false
        else do
          placeRing color (ringAround b.draft.grid c.footprint)
          let lid ← newDraggable c.footprint color
          let _ ← Making.push lid
          Pure.pure true : Making Bool) b).2.draft.grid
      split
      · exact .refl
      · exact placeRing_grows color _ _ (fun r hr => (List.mem_filter.mp hr).2)
          (ringAround_pairwise _ _)

/-- **Every cover only claims.** -/
lemma style (target : Nat) : ∀ style : CoverStyle, OnlyClaims (style.apply target)
  | .physical => physical target
  | .groupObscure => groupObscure target
  | .remoteOnly => remoteOnly target
  | .switchRelease => switchRelease target
  | .sizeObscure => sizeObscure target

end Making.OnlyClaims

end PanelPuzzle
