import PanelPuzzle.Proofs.Making.Extents
import PanelPuzzle.Proofs.Making.Turns
import PanelPuzzle.Proofs.Technique.Group
/-!
# What a placing does to a desk

A technique places one or more mechanisms.  `Desk.Placed` says what one of them leaves: if it is refused
nothing is changed, and something that fits an empty panel finds no room on this one.  The rules of
`Making.Works` for what techniques have in common come after it.

* `Desk.Crowded`, `Desk.Placed` — what is left.
* `Works.repeatPlaced` — several placings of one kind.
* `Works.fillHole`, `Works.addControllers`, `Works.addButton` — parts of techniques and covers.
-/

namespace PanelPuzzle

variable {α β : Type} {d d' : Desk}

/-! ## What a placing leaves -/

namespace Desk

/-- Something that would fit an empty panel finds no room. -/
def Crowded (d : Desk) : Prop :=
  ∃ w h, Grid.fitsGrid w h = true ∧ d.draft.grid.Blocked w h

lemma not_crowded (h : d.draft.grid = Grid.empty) : ¬ d.Crowded := by
  rintro ⟨w, h', hfits, hblocked⟩
  exact Grid.not_blocked_empty hfits (h ▸ hblocked)

/-- **What the placing of a mechanism leaves.**  A plug waits afterwards if one is `due`. -/
structure Placed (due : Prop) (d : Desk) (applied : Bool) (d' : Desk) : Prop where
  turns : d.Turns d'
  refused : applied = false → d' = d ∧ d.Crowded
  goal : applied = true → d'.HasGoal
  leaves : applied = true → due → d'.Leaves

namespace Placed

variable {due : Prop}

lemma refuse {w h : Nat} (hfits : Grid.fitsGrid w h = true)
    (hblocked : Grid.fitsGrid w h = true → d.draft.grid.Blocked w h) : Placed due d false d :=
  ⟨.refl, fun _ => ⟨rfl, w, h, hfits, hblocked hfits⟩, nofun, nofun⟩

/-- A mechanism that is placed. -/
lemma apply (hturns : d.Turns d') (hgoal : d'.HasGoal) (hdue : due → d'.Leaves) :
    Placed due d true d' := ⟨hturns, nofun, fun _ => hgoal, fun _ => hdue⟩

/-- **A socket** on free cells, which can be covered, and the plugs that fill it. -/
lemma socket {r : Rect} {grid : Grid} {e : Element} {c : Comparison} (hclaims : d.Claims r grid)
    (hid : e.id = d.nextId e.shape) (hactions : e.actions = []) (hcomparison : e.comparison = some c)
    (hturns : ((d.withGrid grid).tick.pushCoverable e .socket).Turns d') (hleaves : d'.Leaves) :
    Placed True d true d' := by
  have hcover : ((d.withGrid grid).tick.push e).Turns d' :=
    .trans (.cover .refl CoverRole.noConfusion) hturns
  refine apply (((Turns.claim .refl hclaims).add hid hactions).trans hcover) ?_ fun _ => hleaves
  exact (hasGoal_push (Element.isGoal_of_comparison hcomparison)).turns hcover

end Placed

end Desk

/-! ## Parts of techniques -/

namespace Making

lemma Still.noteRows : ∀ rows, Still (liftM (Technique.noteRows rows) : Making Unit)
  | [] => .pure trivial
  | _ :: rows => .bind (.noteSession _) fun _ _ => noteRows rows

namespace Works

open Technique

variable {Q : β → Desk → Prop}

/-- **Something is placed several times:** the first time counts, and whatever comes after. -/
lemma repeatPlacing {place : Bool → Making Bool} {R : Bool → Desk → Prop}
    (hfirst : Works d (place true) R)
    (hmore : ∀ d', Works d' (place false) fun _ d'' => d'.Turns d'') {count : Nat} (hcount : 0 < count) :
    Works d (Making.repeatPlacing place count true) fun applied d' =>
      ∃ d₁, R applied d₁ ∧ d₁.Turns d' ∧ (applied = false → d' = d₁) := by
  have hrest : ∀ count d', Works d' (Making.repeatPlacing place count false) fun applied d'' =>
      d'.Turns d'' ∧ applied = true := by
    intro count
    induction count with
    | zero => exact fun d' => .pure ⟨.refl, rfl⟩
    | succ count ih =>
      refine fun d' => .bind (hmore d') fun placed d'' hturns => ?_
      split
      · exact (ih d'').weaken fun _ _ h => ⟨hturns.trans h.1, h.2⟩
      · exact .pure ⟨hturns, rfl⟩
  obtain ⟨count, rfl⟩ := Nat.exists_eq_succ_of_ne_zero (Nat.ne_of_gt hcount)
  refine .bind hfirst fun placed d₁ hplaced => ?_
  cases placed with
  | false => exact .pure ⟨d₁, hplaced, .refl, fun _ => rfl⟩
  | true =>
    refine (hrest count d₁).weaken fun applied d' h => ?_
    obtain ⟨hturns, rfl⟩ := h
    exact ⟨d₁, hplaced, hturns, nofun⟩

/-- What is placed several times is placed. -/
lemma repeatPlaced {due : Prop} {place : Bool → Making Bool}
    (hfirst : Works d (place true) (d.Placed due))
    (hmore : ∀ d', Works d' (place false) fun _ d'' => d'.Turns d'') {count : Nat} (hcount : 0 < count) :
    Works d (Making.repeatPlacing place count true) (d.Placed due) := by
  refine (repeatPlacing hfirst hmore hcount).weaken fun applied d' h => ?_
  obtain ⟨d₁, hplaced, hturns, hsame⟩ := h
  refine ⟨hplaced.turns.trans hturns, fun hrefused => ?_, fun happlied => ?_, fun happlied hdue => ?_⟩
  · obtain ⟨rfl, hcrowded⟩ := hplaced.refused hrefused
    exact ⟨hsame hrefused, hcrowded⟩
  · exact (hplaced.goal happlied).turns hturns
  · exact (hplaced.leaves happlied hdue).turns hturns

lemma newSocket {shape : Shape} {width height : Number} {color : UInt8} {r : Rect}
    {next : Element → Making β}
    (h : Works d.tick (next { (d.fresh shape width height).centered r with
      elevation := .sunken, color := .plain color }) Q) :
    Works d (Making.newSocket shape width height color r >>= next) Q :=
  assoc (newElement (answer h))

/-- A new switch, whatever its colors are. -/
lemma newSwitch {r : Rect} {target : Nat} {next : Element → Making β}
    (h : ∀ color, Works d.tick (next (({ (d.fresh .switch 1 1).cornered r with color }).interact
      .tap .state (Int32.ofNat target))) Q) :
    Works d (Technique.newSwitch r target >>= next) Q := by
  refine .assoc (.newElement (.assoc (.skip .randomColor fun unsatisfied _ => ?_)))
  refine .assoc (.skip (.sessionDrawn _) fun satisfied _ => .assoc (.skip .randomColor fun ball _ => ?_))
  exact h _

lemma newPlug_freshPlug (d : Desk) {shape : Shape} (hshape : shape.draggable = true)
    {color : UInt8} (hcolor : color ≠ Palette.neutral) {width height : Number}
    (hsmall : shape.FitsSquare width height) (remote : Bool) :
    d.NewPlug (d.freshPlug shape width height color remote) :=
  ⟨rfl, rfl, ⟨rfl, ⟨⟨rfl, Change.noConfusion⟩, rfl⟩, hshape⟩, hcolor, hsmall⟩

/-- **A plug is made** for a socket of this panel. -/
lemma depositTurn {shape : Shape} (hshape : shape.draggable = true) {color : UInt8}
    (hcolor : color ≠ Palette.neutral) {width height : Number}
    (hsmall : shape.FitsSquare width height) {next : Unit → Making β}
    (h : ∀ d', d.Turn d' → d'.Leaves → Works d' (next ()) Q) :
    Works d (Making.depositPlug shape width height color >>= next) Q :=
  .depositPlug fun remote => h _ (.deposit (newPlug_freshPlug d hshape hcolor hsmall remote))
    (Desk.leaves_deposit rfl)

/-- **A hole that is filled** becomes a socket, and its plug waits. -/
lemma fillHole {hole : Element} {color : UInt8} (hcolor : color ≠ Palette.neutral)
    {next : Element → Making β} (h : ∀ c p, d.NewPlug p →
      Works ((d.tick.deposit p).alter fun draft =>
        { draft with filledSockets := draft.filledSockets ++ [hole.id] })
        (next { hole with comparison := some c }) Q) :
    Works d (Technique.fillHole hole color >>= next) Q := by
  refine .assoc (.readSession fun s _ => .assoc (.skip (.sessionDrawn _) fun strict _ => ?_))
  refine .assoc (.depositPlug fun remote => .assoc (.modifyDraft ?_))
  exact h _ _ (newPlug_freshPlug d rfl hcolor (by decide +kernel) remote)

/-- The buttons of a quartet are put on the panel. -/
lemma pushQuartet (r : Rect) (color : UInt8) (targetId : String) {next : Unit → Making β} :
    ∀ (buttons : List Remote.QuartetButton) {d : Desk},
      Works (d.build (Scene.quartet r color targetId d.lastId buttons)) (next ()) Q →
        Works d (Remote.pushQuartet r color targetId buttons >>= next) Q
  | [], d, h => by rwa [Scene.quartet, Desk.build_nil] at h
  | b :: others, d, h => by
    rw [Scene.quartet, Desk.build_cons] at h
    exact assoc (newElement (assoc (push (pushQuartet r color targetId others h))))

/-- **Remote controls** need a slot and room.  Without them nothing changes. -/
lemma addControllers {targetId : String} {next : Bool → Making β} (hno : Works d (next false) Q)
    (hyes : ∀ r grid color, d.draft.hasRemoteSlot = true → d.Claims r grid → r.w = 2 → r.h = 2 →
      Works (d.control r grid color targetId) (next true) Q) :
    Works d (Remote.addControllers targetId >>= next) Q := by
  refine assoc (draft ?_)
  cases hslot : d.draft.hasRemoteSlot with
  | false => exact assoc (skip (.note _) fun _ _ => hno)
  | true =>
    refine assoc (allocateCells (fun _ => assoc (skip (.note _) fun _ _ => hno))
      fun r grid hclaims hw hh => ?_)
    refine assoc (skip .randomColor fun color _ => assoc (pushQuartet r color targetId _ ?_))
    exact assoc (modifyDraft (assoc (skip (.note _) fun _ _ =>
      hyes r grid color hslot hclaims hw hh)))

/-- **A button for an action** needs room.  Without it nothing changes. -/
lemma addButton {action : Action} {next : Option Nat → Making β}
    (hno : d.draft.grid.Blocked 1 1 → Works d (next none) Q)
    (hyes : ∀ r grid b, d.Claims r grid → b.id = d.nextId b.shape → b.actions = [action] →
      b.Sits r → Works ((d.withGrid grid).tick.push b) (next (some d.elements.length)) Q) :
    Works d (Remote.addButton action >>= next) Q := by
  have hcells : Shape.circle.footprint Remote.buttonSize Remote.buttonSize = (1, 1) := by
    decide +kernel
  refine assoc (allocate (fun hfull => ?_) fun r grid hclaims hw hh => ?_)
  · rw [hcells] at hfull
    exact hno (hfull rfl)
  · rw [hcells] at hw hh
    refine assoc (newElement (assoc (skip .randomColor fun color _ => assoc (push ?_))))
    refine hyes r grid _ hclaims rfl rfl ?_
    exact Element.sits_onCell 0 0 Remote.sits_button (Grid.inBounds_of_isFree hclaims.free)
      (hw ▸ Nat.zero_lt_one) (hh ▸ Nat.zero_lt_one) ⟨rfl, Shape.noConfusion⟩ rfl rfl rfl rfl

end Works

end Making

end PanelPuzzle
