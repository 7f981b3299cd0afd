import PanelPuzzle.Making.Remote
import PanelPuzzle.Proofs.Grid.Tiling
/-!
# What the making of a panel does to its grid

Everything that makes a part of a panel changes the grid in one way only: it claims rectangles,
each of them free at that moment.

* `Grid.Grows` — one grid comes from another by such claims, and keeps what they keep.
* `Making.OnlyClaims` — a computation on the workbench makes the grid grow.

`Making.allocateCells` claims what the search found, and that is free; nothing else of the workbench
touches the grid.  `OnlyClaims.bind` chains computations, so techniques, covers and panels are read
off line by line.
-/

namespace PanelPuzzle

/-! ## Growing grids -/

/-- **One grid comes from another by claims,** each of a rectangle that is free at that moment. -/
inductive Grid.Grows (g : Grid) : Grid → Prop
  | refl : Grows g g
  | claim {h : Grid} {r : Rect} : Grows g h → h.isFree r = true → Grows g (h.claim r)

namespace Grid

lemma Grows.trans {g h k : Grid} (hgh : g.Grows h) (hhk : h.Grows k) : g.Grows k := by
  induction hhk with
  | refl => exact hgh
  | claim _ hfree ih => exact ih.claim hfree

/-- What holds of a grid and is kept by claims of free rectangles holds of every grid that comes
from it. -/
lemma Grows.keeps {S : Grid → Prop} (hS : ∀ g r, S g → g.isFree r = true → S (g.claim r))
    {g h : Grid} (hgh : g.Grows h) (hg : S g) : S h := by
  induction hgh with
  | refl => exact hg
  | claim _ hfree ih => exact hS _ _ ih hfree

end Grid

/-! ## Operations of the workbench -/

namespace Making

variable {α β : Type}

/-- A computation changes the grid of the draft only by claims of free rectangles. -/
def OnlyClaims (act : Making α) : Prop :=
  ∀ b : Workbench, b.draft.grid.Grows (act b).2.draft.grid

/-- The outcome of a search for room: the search touches the grid, and a failure is recorded. -/
lemma allocateCells_eq (w h : Nat) (b : Workbench) :
    ∃ events, allocateCells w h b = ((Grid.allocate w h b.draft.grid b.session.draws).1.1,
      ⟨{ b.draft with grid := (Grid.allocate w h b.draft.grid b.session.draws).1.2 },
        { b.session with draws := (Grid.allocate w h b.draft.grid b.session.draws).2, events }⟩) := by
  have hstep : allocateCells w h b
      = (do
          if (Grid.allocate w h b.draft.grid b.session.draws).1.1 = none ∧ Grid.fitsGrid w h then
            note (.noCells w h)
          pure (Grid.allocate w h b.draft.grid b.session.draws).1.1 : Making (Option Rect))
        ⟨{ b.draft with grid := (Grid.allocate w h b.draft.grid b.session.draws).1.2 },
          { b.session with draws := (Grid.allocate w h b.draft.grid b.session.draws).2 }⟩ := rfl
  rw [hstep]
  dsimp only
  split
  · exact ⟨_, rfl⟩
  · exact ⟨_, rfl⟩

namespace OnlyClaims

lemma pure (a : α) : OnlyClaims (Pure.pure a : Making α) := fun _ => .refl

lemma bind {act : Making α} {next : α → Making β} (h : OnlyClaims act)
    (hnext : ∀ a, OnlyClaims (next a)) : OnlyClaims (act >>= next) :=
  fun b => (h b).trans (hnext _ _)

/-- What happens in the session leaves the draft alone. -/
lemma session (act : StateM Session α) : OnlyClaims (liftM act : Making α) := fun _ => .refl

lemma draws (draw : StateM Draws α) : OnlyClaims (liftM draw : Making α) := fun _ => .refl

lemma draft : OnlyClaims Making.draft := fun _ => .refl

lemma readSession : OnlyClaims Making.session := fun _ => .refl

lemma note (event : Event) : OnlyClaims (Making.note event) := fun _ => .refl

lemma modifyDraft {change : Draft → Draft} (h : ∀ d, (change d).grid = d.grid) :
    OnlyClaims (Making.modifyDraft change) := fun b => by
  change b.draft.grid.Grows (change b.draft).grid
  rw [h]
  exact .refl

lemma push (e : Element) : OnlyClaims (Making.push e) := fun _ => .refl

lemma cover (place : Nat) (role : CoverRole) : OnlyClaims (Making.cover place role) := by
  refine modifyDraft fun d => ?_
  unfold Draft.coverElement
  split <;> rfl

lemma pushCoverable (e : Element) (role : CoverRole) :
    OnlyClaims (Making.pushCoverable e role) := .bind (.push e) fun place => .cover place role

lemma modifyElement (place : Nat) (change : Element → Element) :
    OnlyClaims (Making.modifyElement place change) := modifyDraft fun _ => rfl

lemma newSocket (shape : Shape) (width height : Number) (color : UInt8) (r : Rect) :
    OnlyClaims (Making.newSocket shape width height color r) :=
  .bind (.session _) fun _ => .pure _

lemma depositPlug (shape : Shape) (width height : Number) (color : UInt8) :
    OnlyClaims (Making.depositPlug shape width height color) := .bind .draft fun _ => .session _

/-- **The search for room claims what it finds,** and what it finds is free. -/
lemma allocateCells (w h : Nat) : OnlyClaims (Making.allocateCells w h) := by
  intro b
  obtain ⟨events, hstep⟩ := allocateCells_eq w h b
  rw [hstep]
  simp only [Grid.allocate, Bind.bind, StateT.bind, Pure.pure]
  split
  rename_i found d hfound
  cases found with
  | none => exact .refl
  | some r => exact .claim .refl (Grid.findFree_isFree (congrArg Prod.fst hfound)).1

lemma allocate (shape : Shape) (width height : Number) :
    OnlyClaims (Making.allocate shape width height) := allocateCells _ _

lemma repeatPlacing {place : Bool → Making Bool} (h : ∀ first, OnlyClaims (place first)) :
    ∀ count first, OnlyClaims (Making.repeatPlacing place count first)
  | 0, _ => .pure _
  | count + 1, first => by
      refine .bind (h first) fun placed => ?_
      split
      · exact repeatPlacing h count false
      · exact .pure _

/-! ## Remote controls -/

lemma pushQuartet (r : Rect) (color : UInt8) (targetId : String) :
    ∀ buttons, OnlyClaims (Remote.pushQuartet r color targetId buttons)
  | [] => .pure _
  | _ :: others =>
      .bind (.session _) fun _ => .bind (.push _) fun _ => pushQuartet r color targetId others

lemma addControllers (targetId : String) : OnlyClaims (Remote.addControllers targetId) := by
  refine .bind .draft fun d => ?_
  split
  · exact .bind (.note _) fun _ => .pure _
  refine .bind (.allocateCells _ _) fun found => ?_
  cases found with
  | none => exact .bind (.note _) fun _ => .pure _
  | some r =>
    refine .bind (.session _) fun color => .bind (.pushQuartet _ _ _ _) fun _ => ?_
    exact .bind (.modifyDraft fun _ => rfl) fun _ => .bind (.note _) fun _ => .pure _

lemma addButton (action : Action) : OnlyClaims (Remote.addButton action) := by
  refine .bind (.allocate _ _ _) fun found => ?_
  cases found with
  | none => exact .pure _
  | some r =>
    refine .bind (.session _) fun plain => .bind (.session _) fun color => ?_
    exact .bind (.push _) fun _ => .pure _

end OnlyClaims

end Making

end PanelPuzzle
