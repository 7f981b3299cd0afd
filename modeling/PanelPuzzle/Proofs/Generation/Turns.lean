import PanelPuzzle.Proofs.Cover.Turns
import PanelPuzzle.Proofs.Generation.Operations
/-!
# What the making of a panel does to a desk

Plugs that find no room are in hand until all that are wanted were tried.  `Desk.hold` puts them back, so
that what happens is turns of a desk that lacks nothing.

* `Desk.Seats` — what the placing of one plug comes to.
* `Making.works_distributePlugs` — a plug is placed if there is one, and room for all of them.
* `Making.closed_turns` — **all operations are turns,** and so is the making of a panel.
-/

namespace PanelPuzzle

variable {α β : Type} {d d' : Desk}

namespace Desk

/-- A plug that is placed leaves the hand, whatever else is in it; one that is not finds no room. -/
def Seats (d : Desk) (plug : Plug) (placed : Bool) (d' : Desk) : Prop :=
  if placed then ∀ hand, (d.hold (plug ::ₘ hand)).Turns ((d'.record plug).hold hand)
  else d' = d ∧ d.draft.grid.Blocked
    (plug.element.shape.footprint plug.element.width plug.element.height).1
    (plug.element.shape.footprint plug.element.width plug.element.height).2

/-- There is room for every plug that the panel may take. -/
def Roomy (d : Desk) : Prop := ∀ p ∈ d.pool, p.origin ≠ d.draft.index →
  ¬ d.draft.grid.Blocked (p.element.shape.footprint p.element.width p.element.height).1
    (p.element.shape.footprint p.element.width p.element.height).2

/-- A plug in hand may be put on the panel. -/
lemma takenAs_hold {plug : Plug} {e : Element} (horigin : plug.origin ≠ d.draft.index)
    (hid : e.id = plug.element.id) (hshape : e.shape = plug.element.shape) (hand : Multiset Plug) :
    (d.hold (plug ::ₘ hand)).TakenAs plug (d.pool + hand) e :=
  ⟨Multiset.add_cons plug d.pool hand, horigin, hid, hshape⟩

/-- A coverable is changed before anything else happens. -/
lemma alter_modifyCoverable_add (c : Coverable) (change : Coverable → Coverable) :
    (d.addCoverable c).alter (·.modifyCoverable d.draft.coverables.length change)
      = d.addCoverable (change c) := by
  have hcoverables : (d.draft.coverables ++ [c]).modify d.draft.coverables.length change
      = d.draft.coverables ++ [change c] := by
    rw [List.modify_eq_take_drop, List.take_left, List.drop_left, List.modifyHead_cons]
  exact congrArg (fun coverables => d.alter fun draft => { draft with coverables }) hcoverables

end Desk

namespace Making

open Generation Desk

/-! ## Plugs -/

/-- **The placing of a plug.** -/
lemma works_placePlug {plug : Plug} (hplain : plug.Plain) (horigin : plug.origin ≠ d.draft.index)
    (hsmall : plug.element.shape.FitsSquare plug.element.width plug.element.height) :
    Works d (placePlug plug) (d.Seats plug) := by
  refine .allocate (fun hfull => ?_) fun r grid hclaims _ _ => .push ?_
  · exact .skip (.note _) fun _ _ => .pure ⟨rfl, hfull hsmall.fitsGrid⟩
  extract_lets controls
  have hlockable : ∀ method, Element.Lockable { plug.element.centered r with method } := fun _ =>
    ⟨⟨hplain.lockable.comparison, hplain.lockable.change⟩, hplain.lockable.actions⟩
  -- however it is moved, the plug becomes coverable at the end
  have hcontrols : ∀ (controlled : Bool) {d₁ d₂ : Desk} {e : Element},
      d.Seats plug true (d₂.addCoverable
        { Draft.coverableOf e d.elements.length .plug with hasRemote := controlled }) →
      d₂.elements[d.elements.length]? = some e →
      (if plug.remote && !controlled then
        d₁.alter (·.modifyElement d.elements.length fun e => { e with method := .drag }) else d₁) = d₂ →
      Works d₁ (controls controlled) (d.Seats plug) := by
    intro controlled d₁ d₂ e hseats he hd₂
    unfold controls
    extract_lets noted
    have hnoted : Works d₂ (noted ()) (d.Seats plug) := by
      refine .draft (.cover he (.modifyDraft (.skip (.note _) fun _ _ => .pure ?_)))
      rwa [alter_modifyCoverable_add]
    clear_value noted
    split at hd₂
    · rw [if_pos ‹_›]
      exact .skip (.note _) fun _ _ => .modifyDraft (hd₂ ▸ hnoted)
    · rw [if_neg ‹_›]
      exact hd₂ ▸ hnoted
  clear_value controls
  have hclaim : ∀ hand, (d.hold (plug ::ₘ hand)).Turns ((d.withGrid grid).hold (plug ::ₘ hand)) :=
    fun hand => .claim .refl ⟨hclaims.free, hclaims.grid_eq⟩
  have hdragged : ∀ (e : Element), e.id = plug.element.id → e.shape = plug.element.shape →
      e.Lockable → d.Seats plug true (((d.withGrid grid).push e).addCoverable
        { Draft.coverableOf e d.elements.length .plug with hasRemote := false }) :=
    fun e hid hshape hlockable hand => (hclaim hand).tail
      (.place (takenAs_hold (d := d.withGrid grid) horigin hid hshape hand) hlockable)
  by_cases hremote : plug.remote = true
  · rw [if_pos hremote, if_pos hremote]
    refine .addControllers ?_ fun r' grid' color hslot hclaims' _ _ => ?_
    · refine hcontrols false (hdragged { plug.element.centered r with method := .drag } rfl rfl
        (hlockable .drag)) List.getElem?_concat_length ?_
      rw [hremote, if_pos (by decide)]
      exact alter_modifyElement_push (d := d.withGrid grid) (plug.element.centered r).locked
        fun e => { e with method := .drag }
    · have hsteered : d.Seats plug true
          ((((d.withGrid grid).push (plug.element.centered r).locked).control r' grid' color
            plug.element.id).addCoverable { Draft.coverableOf (plug.element.centered r).locked
              d.elements.length .plug with hasRemote := true }) := fun hand => (hclaim hand).tail
        (.placeSteered (takenAs_hold (d := d.withGrid grid) (e := (plug.element.centered r).locked)
          horigin rfl rfl hand) (hlockable .none) hslot
          ⟨hclaims'.free, hclaims'.grid_eq⟩)
      refine hcontrols true hsteered (getElem?_append List.getElem?_concat_length _) ?_
      rw [hremote, if_neg (by decide)]
      rfl
  · rw [if_neg hremote, if_neg hremote]
    refine .answer (hcontrols false (hdragged (plug.element.centered r) rfl rfl (hlockable _))
      List.getElem?_concat_length ?_)
    rw [Bool.eq_false_iff.mpr hremote, if_neg (by decide)]

/-- **The plugs that are taken** leave the pool; those that find no room are in hand in the end. -/
lemma works_takePlugs : ∀ (quota : Nat) {d : Desk}, d.Sound →
    Works d (takePlugs quota) fun taken d' =>
      (∀ hand, (d.hold hand).Turns (d'.hold (taken.2 + hand))) ∧
        (0 < quota → d.Serves → d.Roomy → 0 < taken.1 ∧ ∃ q ∈ d'.placements, q.panel = d.draft.index)
  | 0, d, _ => .pure ⟨fun hand => by rw [Multiset.coe_nil, zero_add]; exact .refl, nofun⟩
  | quota + 1, d, hd => by
    refine .draft (.withdrawWhere (fun hnone => .pure ⟨fun hand => ?_, fun _ hserves => ?_⟩)
      fun plug rest hpool horigin _ => ?_)
    · rw [Multiset.coe_nil, zero_add]
      exact .refl
    · obtain ⟨plug, hplug, horigin⟩ := hserves
      exact absurd (hnone plug hplug horigin).symm Bool.false_ne_true
    have hplug : plug ∈ d.pool := hpool ▸ Multiset.mem_cons_self plug rest
    have htaken : ∀ hand, d.hold hand = (d.withPool rest).hold (plug ::ₘ hand) := by
      intro hand
      rw [Desk.hold, hpool, Multiset.cons_add, ← Multiset.add_cons]
      rfl
    refine .bind (works_placePlug (d := d.withPool rest) (hd.plain plug hplug) horigin
      (hd.small plug hplug)) fun placed d₁ hplaced => ?_
    cases placed with
    | true =>
      have hturns : ∀ hand, (d.hold hand).Turns ((d₁.record plug).hold hand) := fun hand =>
        htaken hand ▸ hplaced hand
      have hindex : d₁.draft.index = d.draft.index := (hturns 0).index_eq
      have hsound : (d₁.record plug).Sound := by
        have hsound := (hturns 0).sound (d.hold_zero.symm ▸ hd)
        rwa [Desk.hold_zero] at hsound
      refine .recordPlacement hindex (.bind (works_takePlugs quota hsound) fun taken d' h =>
        .pure ⟨fun hand => (hturns hand).trans (h.1 hand), fun _ _ _ => ⟨Nat.succ_pos _, ?_⟩⟩)
      refine ⟨⟨plug.element.id, plug.origin, d₁.draft.index⟩, ?_, hindex⟩
      exact (h.1 0).placements_isPrefix.subset (List.mem_append_right _ (List.mem_singleton.mpr rfl))
    | false =>
      obtain ⟨rfl, hblocked⟩ := hplaced
      have hsound : (d.withPool rest).Sound :=
        hd.of_subset fun q hq => hpool ▸ Multiset.mem_cons_of_mem hq
      refine .bind (works_takePlugs quota hsound) fun taken d' h => .pure ⟨fun hand => ?_, ?_⟩
      · rw [htaken, ← Multiset.cons_coe, Multiset.cons_add, ← Multiset.add_cons]
        exact h.1 _
      · exact fun _ _ hroomy => absurd hblocked (hroomy plug hplug horigin)

/-- Plugs that go back are in hand no longer. -/
lemma works_depositAll : ∀ (plugs : List Plug) (d : Desk),
    Works d (liftM (depositAll plugs) : Making Unit) fun _ d' => d' = d.hold plugs
  | [], d => .pure (by rw [Multiset.coe_nil, Desk.hold_zero])
  | plug :: plugs, d => by
    refine .last (.lift (.deposit (.last ((works_depositAll plugs _).weaken fun _ d' h => h.trans ?_))))
    have hpool : plug ::ₘ d.pool + plugs = d.pool + (plug :: plugs : List Plug) := by
      rw [← Multiset.cons_coe, Multiset.add_cons, Multiset.cons_add]
    exact congrArg d.withPool hpool

/-- **The placing of plugs.**  Where there is room for every plug, one is placed if there is one. -/
lemma works_distributePlugs (quota : Nat) (hd : d.Sound) :
    Works d (distributePlugs quota) fun placed d' => d.Turns d' ∧
      (0 < quota → d.Serves → d.Roomy → 0 < placed ∧ ∃ q ∈ d'.placements, q.panel = d.draft.index) := by
  refine .bind (works_takePlugs quota hd) fun taken d₁ htaken => ?_
  refine .bind (works_depositAll taken.2 d₁) fun _ d' hback => .pure ⟨?_, ?_⟩
  · have hturns := htaken.1 0
    rw [Desk.hold_zero, add_zero] at hturns
    exact hback ▸ hturns
  · rw [hback]
    exact htaken.2

/-! ## Panels -/

namespace Turning

lemma technique (kind : TechniqueKind) : Turning kind.apply := fun _ hd =>
  (works_technique hd kind).weaken fun _ _ h => h.turns

/-- Turns keep that a desk is sound and comes from another one. -/
lemma keeping {act : Making α} (h : Turning act) (d₀ : Desk) :
    Keeping (fun d => d.Sound ∧ d₀.Turns d) act := fun d hd =>
  (h d hd.1).weaken fun _ _ hturns => ⟨hturns.sound hd.1, hd.2.trans hturns⟩

lemma of_keeping {act : Making α} (h : ∀ d₀ : Desk, Keeping (fun d => d.Sound ∧ d₀.Turns d) act) :
    Turning act := fun d hd => (h d d ⟨hd, .refl⟩).weaken fun _ _ h => h.2

end Turning

/-- **All operations are turns.** -/
lemma closed_turns (d₀ : Desk) : Closed fun d => d.Sound ∧ d₀.Turns d where
  require _ hd := ⟨⟨hd.1.plain, hd.1.colored, hd.1.small⟩, hd.2.tail .require⟩
  technique kind := (Turning.technique kind).keeping d₀
  plugs quota := Turning.keeping (fun _ hd => (works_distributePlugs quota hd).weaken fun _ _ h => h.1) d₀
  cover hlegal hd :=
    (works_style hd.1 hlegal).weaken fun _ _ hturns => ⟨hturns.sound hd.1, hd.2.trans hturns⟩
  trap := Turning.resetTrap.keeping d₀

namespace Turning

lemma applyAll (kinds : List TechniqueKind) : Turning (Generation.applyAll kinds) :=
  .of_keeping fun d₀ => (closed_turns d₀).applyAll kinds

lemma addHoles (attempts : Nat) : Turning (Generation.addHoles attempts) :=
  .of_keeping fun d₀ => (closed_turns d₀).addHoles attempts

lemma setRequirePlug (required : Bool) :
    Turning (liftM (Generation.setRequirePlug required) : Making Unit) :=
  .of_keeping fun d₀ => (closed_turns d₀).setRequirePlug required

/-- **The finishing of a panel** is turns. -/
lemma finish (planned : Nat) : Turning (Generation.finish planned) :=
  .of_keeping fun d₀ => (closed_turns d₀).finish planned

/-- **The making of a planned panel** is turns. -/
lemma makePanel (planned : Nat) : Turning (Generation.makePanel planned) :=
  .of_keeping fun d₀ => (closed_turns d₀).makePanel planned

end Turning

end Making

end PanelPuzzle
