import PanelPuzzle.Proofs.Draws.Advancing
import PanelPuzzle.Proofs.Making.Desk
/-!
# What a refusal leaves behind

A computation that finds no room has drawn words to find that out, and it may have held a plug in hand.
Nothing else is to be seen of it: the workbench is spared.

* `Workbench.Spared` — what may be different after a refusal.
* `Workbench.Becomes` — the same, with a change of the desk that is still to be undone.
* `Making.Refuses` — if a computation answers `no`, the workbench has become so.
* `Making.Accepts` — a computation never answers `no`, so nothing is asked of what it does.

A refusal is decided by one step of a computation.  What comes before that step is harmless, what comes
after it is either nothing or never a refusal: `Refuses.bind`.
-/

namespace PanelPuzzle

variable {α β : Type}

/-! ## Workbenches -/

/-- **A workbench after a refusal.**  The draft is as before.  Of the session only the draws have gone on,
the pool may be in another order, and events may have been recorded. -/
structure Workbench.Spared (b b' : Workbench) : Prop where
  draft : b'.draft = b.draft
  plugs : b'.session.pool.plugs.Perm b.session.pool.plugs
  draws : b.session.draws.LeadsTo b'.session.draws
  rest : b'.session = { b.session with
    pool := b'.session.pool, draws := b'.session.draws, events := b'.session.events }

/-- **A workbench whose desk has changed,** after some more draws. -/
structure Workbench.Becomes (change : Desk → Desk) (b b' : Workbench) : Prop where
  desk : b'.desk = change b.desk
  forceCovers : b'.session.forceCovers = b.session.forceCovers
  draws : b.session.draws.LeadsTo b'.session.draws

namespace Workbench.Becomes

variable {change change' : Desk → Desk} {b b' b'' : Workbench}

lemma refl (b : Workbench) : b.Becomes id b := ⟨rfl, rfl, .refl _⟩

lemma trans (h : b.Becomes change b') (h' : b'.Becomes change' b'') :
    b.Becomes (change' ∘ change) b'' where
  desk := by rw [h'.desk, h.desk, Function.comp_apply]
  forceCovers := h'.forceCovers.trans h.forceCovers
  draws := h.draws.trans h'.draws

/-- A workbench whose desk is as before is spared. -/
lemma spared (h : b.Becomes id b') : b.Spared b' where
  draft := congrArg Desk.draft h.desk
  plugs := Multiset.coe_eq_coe.mp (congrArg Desk.pool h.desk)
  draws := h.draws
  rest := by
    have hprofile : b'.session.profile = b.session.profile := congrArg Desk.profile h.desk
    have hrequire : b'.session.requirePlug = b.session.requirePlug := congrArg Desk.requirePlug h.desk
    have hplacements : b'.session.placements = b.session.placements := congrArg Desk.placements h.desk
    have hlast : b'.session.lastId = b.session.lastId := congrArg Desk.lastId h.desk
    dsimp only
    rw [← hprofile, ← h.forceCovers, ← hrequire, ← hplacements, ← hlast]

end Workbench.Becomes

namespace Making

/-! ## Refusals -/

/-- **If a computation answers `no`,** the desk has changed as given, and by default not at all. -/
def Refuses (no : α → Prop) (act : Making α) (change : Desk → Desk := id) : Prop :=
  ∀ b : Workbench, no (act b).1 → b.Becomes change (act b).2

/-- A computation that is never seen on the desk. -/
abbrev Harmless (act : Making α) : Prop := Refuses (fun _ => True) act

/-- A computation never answers `no`. -/
def Accepts (no : α → Prop) (act : Making α) : Prop := ∀ b : Workbench, ¬ no (act b).1

namespace Accepts

variable {no : α → Prop}

lemma bind {act : Making β} {next : β → Making α} (h : ∀ a, Accepts no (next a)) :
    Accepts no (act >>= next) := fun _ => h _ _

lemma pure {a : α} (h : ¬ no a) : Accepts no (Pure.pure a : Making α) := fun _ => h

/-- What is placed after another one does not take back the answer. -/
lemma repeatPlacing (place : Bool → Making Bool) :
    ∀ count, Accepts (· = false) (Making.repeatPlacing place count false)
  | 0 => .pure Bool.noConfusion
  | count + 1 => by
      refine .bind fun placed => ?_
      split
      · exact repeatPlacing place count
      · exact .pure Bool.noConfusion

end Accepts

namespace Refuses

variable {no : α → Prop} {change : Desk → Desk}

lemma pure (a : α) : Refuses no (Pure.pure a : Making α) := fun b _ => .refl b

/-- Where nothing is refused there is nothing to show. -/
lemma of_accepts {act : Making α} (h : Accepts no act) : Refuses no act change :=
  fun b hanswer => absurd hanswer (h b)

/-- **A refusal comes from one step:** if that step answers with `P` the rest may still refuse, and else it
does not. -/
lemma bind {P : β → Prop} {act : Making β} {next : β → Making α} (h : Refuses P act)
    (hno : ∀ a, P a → Refuses no (next a) change) (hyes : ∀ a, ¬ P a → Accepts no (next a)) :
    Refuses no (act >>= next) change := by
  intro b hanswer
  by_cases hP : P (act b).1
  · exact (h b hP).trans (hno _ hP _ hanswer)
  · exact absurd hanswer (hyes _ hP _)

/-- A harmless step comes before. -/
lemma skip {act : Making β} {next : β → Making α} (h : Harmless act)
    (hnext : ∀ a, Refuses no (next a) change) : Refuses no (act >>= next) change :=
  h.bind (fun a _ => hnext a) fun _ ha => absurd trivial ha

/-- What is looked for is not found. -/
lemma search {act : Making (Option β)} {next : Option β → Making α} (h : Refuses (· = none) act)
    (hnone : Refuses no (next none) change) (hsome : ∀ a, Accepts no (next (some a))) :
    Refuses no (act >>= next) change := by
  refine h.bind ?_ fun found hfound => ?_
  · rintro _ rfl
    exact hnone
  · obtain ⟨a, rfl⟩ := Option.ne_none_iff_exists'.mp hfound
    exact hsome a

/-! ## Harmless steps -/

lemma draws {draw : StateM Draws α} (h : Draws.Advances draw) : Harmless (liftM draw : Making α) :=
  fun b _ => ⟨rfl, rfl, h b.session.draws⟩

lemma randomColor : Harmless (liftM Session.randomColor : Making UInt8) :=
  fun b _ => ⟨rfl, rfl, Draws.Advances.drawColor Session.colorTries b.session.draws⟩

lemma draft : Harmless Making.draft := fun b _ => .refl b

lemma session : Harmless Making.session := fun b _ => .refl b

lemma note (event : Event) : Harmless (Making.note event) := fun _ _ => ⟨rfl, rfl, .refl _⟩

/-! ## Room -/

/-- **Without room nothing is claimed.** -/
lemma allocateCells (w h : Nat) : Refuses (· = none) (Making.allocateCells w h) := by
  intro b hnone
  obtain ⟨events, hstep⟩ := allocateCells_eq w h b
  rw [hstep] at hnone ⊢
  have hadvances := Draws.Advances.allocate w h b.draft.grid b.session.draws
  obtain ⟨hanswer, -⟩ | ⟨r, hanswer, -⟩ := Grid.allocate_cases b.draft.grid w h b.session.draws
  · rw [hanswer]
    exact ⟨rfl, rfl, hadvances⟩
  · rw [hanswer] at hnone
    cases hnone

lemma allocate (shape : Shape) (width height : Number) :
    Refuses (· = none) (Making.allocate shape width height) := allocateCells _ _

/-- Nothing is placed if the first placing fails. -/
lemma repeatPlacing {place : Bool → Making Bool} (h : Refuses (· = false) (place true)) :
    ∀ count, Refuses (· = false) (Making.repeatPlacing place count true)
  | 0 => .pure _
  | count + 1 => by
      refine h.bind (fun placed hplaced => ?_) fun placed hplaced => ?_
      · subst hplaced
        exact .pure _
      · rw [Bool.not_eq_false] at hplaced
        subst hplaced
        exact .repeatPlacing place count

/-! ## Remote controls -/

/-- **Four buttons are placed together or not at all.** -/
lemma addControllers (targetId : String) : Refuses (· = false) (Remote.addControllers targetId) := by
  refine .skip .draft fun d => ?_
  split
  · exact .skip (.note _) fun _ => .pure _
  · refine .search (.allocateCells _ _) (.skip (.note _) fun _ => .pure _) fun r => ?_
    exact .bind fun color => .bind fun _ => .bind fun _ => .bind fun _ => .pure Bool.noConfusion

lemma addButton (action : Action) : Refuses (· = none) (Remote.addButton action) := by
  refine .search (.allocate _ _ _) (.pure _) fun r => ?_
  exact .bind fun plain => .bind fun color => .bind fun place => .pure nofun

end Refuses

end Making

end PanelPuzzle
