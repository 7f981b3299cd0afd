import PanelPuzzle.Proofs.Generation.Moves
import PanelPuzzle.Proofs.Technique.Turns
/-!
# What panels are made by

A panel is made by a handful of operations: techniques, the placing of some plugs, covers that are legal
and traps.  `Making.Closed` says of a property of desks that each of them keeps it.  So does then whatever
is put together from them, however it is drawn which of them are applied.

* `Closed.populate`, `Closed.finish` — a planned panel.
* `Closed.makeExtra` — an extra one.
-/

namespace PanelPuzzle

variable {α β : Type}

namespace Making

open Cover Generation

/-- It is settled whether the panel has to leave a plug. -/
lemma Works.setRequirePlug {d : Desk} {required : Bool} {next : Unit → Making β} {Q : β → Desk → Prop}
    (h : Works (d.require required) (next ()) Q) :
    Works d (liftM (Generation.setRequirePlug required) >>= next) Q := by
  rintro b rfl
  exact h ⟨b.draft, { b.session with requirePlug := required }⟩ rfl

variable {I : Desk → Prop}

/-- **A property that all operations keep.**  A cover is applied only while it is legal. -/
structure Closed (I : Desk → Prop) : Prop where
  require : ∀ {d : Desk} (required : Bool), I d → I (d.require required)
  technique : ∀ kind : TechniqueKind, Keeping I kind.apply
  plugs : ∀ quota, Keeping I (distributePlugs quota)
  cover : ∀ {d : Desk} {style : CoverStyle} {target : Nat}, style ∈ legalStyles d.draft target → I d →
    Works d (style.apply target) fun _ d' => I d'
  trap : Keeping I resetTrap

namespace Closed

lemma setRequirePlug (h : Closed I) (required : Bool) :
    Keeping I (liftM (Generation.setRequirePlug required) : Making Unit) := fun _ hd =>
  .last (.setRequirePlug (.pure (h.require required hd)))

/-! ## Covers -/

lemma covering (h : Closed I) : Covering fun b => I b.desk where
  drawn _ hb := hb
  noted _ _ _ hb := hb
  cover hlegal hb := h.cover (d := Workbench.desk _) hlegal hb _ rfl
  trap hb := h.trap _ hb _ rfl

/-- **The covering of a panel.** -/
lemma addCoverings (h : Closed I) (probability : Number) :
    Keeping I (Cover.addCoverings probability) := by
  rintro _ hd b rfl
  exact (h.covering.keeps_addCoverings probability b hd).2

/-! ## Panels -/

lemma applyAll (h : Closed I) : ∀ kinds, Keeping I (Generation.applyAll kinds)
  | [] => .pure _
  | kind :: kinds => .bind (h.technique kind) fun _ => .bind (.still (.note _)) fun _ => h.applyAll kinds

lemma addHoles (h : Closed I) : ∀ attempts, Keeping I (Generation.addHoles attempts)
  | 0 => .pure _
  | attempts + 1 => by
    refine .bind (.still .readSession) fun s => ?_
    split
    · exact .bind (h.technique .hole) fun _ => h.addHoles attempts
    · exact .pure _

/-- **The populating of a panel.** -/
lemma populate (h : Closed I) : Keeping I Generation.populate := by
  refine .bind (.still .readDraft) fun d => .bind (.still .readSession) fun s => ?_
  refine .bind (.still (.drawn _)) fun techniques => .bind (h.setRequirePlug _) fun _ => ?_
  refine .bind (h.applyAll techniques) fun _ => ?_
  split
  · exact .bind (h.addHoles _) fun _ => h.setRequirePlug _
  · exact h.setRequirePlug _

lemma ensureGoal (h : Closed I) : Keeping I Generation.ensureGoal := by
  refine .bind (.still .readDraft) fun d => ?_
  split
  · exact .bind (.still (.note _)) fun _ => .bind (h.technique .switch) fun _ => .pure _
  · exact .pure _

/-- **The finishing of a panel.** -/
lemma finish (h : Closed I) (planned : Nat) : Keeping I (Generation.finish planned) := by
  refine .bind (.still .readDraft) fun d => .bind (.still .readSession) fun s => ?_
  refine .bind (h.plugs _) fun placed => ?_
  refine .bind (.still .readSession) fun s => .bind (.still (.note _)) fun _ => ?_
  refine .bind h.ensureGoal fun _ => .bind (.still .readSession) fun s => ?_
  refine .bind (h.addCoverings _) fun _ => .bind (.still .readDraft) fun d => ?_
  exact .still (.noteRows _)

lemma makePanel (h : Closed I) (planned : Nat) : Keeping I (Generation.makePanel planned) :=
  .bind h.populate fun _ => h.finish planned

/-- **An extra panel.** -/
lemma makeExtra (h : Closed I) : Keeping I Generation.makeExtra :=
  .bind (h.technique .switch) fun _ => .bind (.still .readSession) fun _ => h.plugs _

end Closed

end Making

end PanelPuzzle
