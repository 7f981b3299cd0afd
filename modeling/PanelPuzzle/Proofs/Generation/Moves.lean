import PanelPuzzle.Generation.Generator
import PanelPuzzle.Proofs.Cover.Moves
import PanelPuzzle.Proofs.Technique.Group
/-!
# The making of a panel makes moves

Plugs are taken out of the pool one by one, and those that find no room are in hand until the end.
`Scene.hold` puts what is in hand back, so that the moves are those of a scene that lacks nothing.

* `Making.Moves.populate` — mechanisms are made.
* `Making.Moves.finish` — plugs are placed, and all is covered.
* `Making.leads_makeExtra` — an extra panel is a switch and plugs.
-/

namespace PanelPuzzle

variable {v : Scene}

namespace Scene

lemma Sound.withPool {rest hand : Multiset Plug} (hv : v.Sound) (h : v.pool = rest + hand) :
    (v.withPool rest).Sound :=
  ⟨fun p hp => hv.plain p (h ▸ Multiset.mem_add.mpr (.inl hp)), hv.locks⟩

/-- A plug is placed from the hand. -/
lemma move_place {plug : Plug} (hplain : plug.Plain) (horigin : plug.origin ≠ v.index) (r : Rect)
    (hand : Multiset Plug) : (v.hold (plug ::ₘ hand)).Move .finishing
      (((v.push (plug.element.centered r)).record plug).hold hand) := by
  have hpool : (v.hold (plug ::ₘ hand)).pool = plug ::ₘ (v.pool + hand) :=
    Multiset.add_cons plug v.pool hand
  refine .place hpool horigin rfl rfl
    ⟨hplain.lockable.comparison, hplain.lockable.change⟩ ?_ (.inl hplain.method)
  have hactions : (plug.element.centered r).actions = [] := hplain.lockable.actions
  rw [Reaches, hactions]
  exact List.forall_mem_nil _

/-- A plug that is placed leaves the hand, whatever else is in it; one that is not changes nothing. -/
def Places (v : Scene) (plug : Plug) (placed : Bool) (v' : Scene) : Prop :=
  if placed then ∀ hand, (v.hold (plug ::ₘ hand)).Leads .finishing ((v'.record plug).hold hand)
  else v' = v

end Scene

/-- What is done to a panel once it is populated. -/
def Generation.finish (planned : Nat) : Making Unit := do
  let index := (← Making.draft).index
  let s ← Making.session
  let quota := s.profile.plugQuota index planned (s.pool.eligible index)
  let placed ← Generation.distributePlugs quota
  Making.note (.plugsPlaced placed quota (← Making.session).pool.size)
  Generation.ensureGoal
  let _ ← Cover.addCoverings (← Making.session).profile.coverProbability
  Technique.noteRows (← Making.draft).grid.rows

lemma Generation.makePanel_eq (planned : Nat) :
    makePanel planned = populate >>= fun _ => finish planned := rfl

namespace Making

open Generation

/-- **The placing of a plug makes moves.** -/
lemma leads_placePlug {plug : Plug} (hplain : plug.Plain) (horigin : plug.origin ≠ v.index) :
    Shows v (placePlug plug) (v.Places plug) := by
  refine .skip (.allocate _ _ _) fun found _ => ?_
  cases found with
  | none => exact .skip (.note ⟨rfl, rfl⟩) fun _ _ => .pure rfl
  | some r =>
    refine .push ?_
    extract_lets controls
    have hlockable : (plug.element.centered r).Lockable :=
      ⟨⟨hplain.lockable.comparison, hplain.lockable.change⟩, hplain.lockable.actions⟩
    have hcentered : v.Places plug true (v.push (plug.element.centered r)) := fun hand =>
      .single (Scene.move_place hplain horigin r hand)
    have hloosened : ({ (plug.element.centered r).locked with method := .drag } : Element)
        = plug.element.centered r := by
      rw [Element.locked, ← hplain.method]
      rfl
    -- however it is moved, the plug becomes coverable at the end
    have hcontrols : ∀ (controlled : Bool) {w w' : Scene} {e : Element},
        w' = (if plug.remote && !controlled then w.modifyElement v.elements.length
          fun e => { e with method := .drag } else w) →
        v.Places plug true w' →
        w'.elements[v.elements.length]? = some e → e.Lockable →
        Shows w (controls controlled) (v.Places plug) := by
      intro controlled w w' e hw hleads he hlockable
      unfold controls
      extract_lets noted
      have hnoted : Shows w' (noted ()) (v.Places plug) := by
        refine .draft fun d _ _ _ => .coverElement he (.modifyCoverable ?_)
        refine .skip (.note ⟨rfl, rfl⟩) fun _ _ => .pure fun hand => ?_
        exact ((hleads hand).tail (.cover fun _ => ⟨v.elements.length, e, rfl, he, hlockable⟩)).tail
          (.mark fun c => ⟨rfl, rfl⟩)
      clear_value noted
      split at hw
      · rw [if_pos ‹_›]
        exact .skip (.note ⟨rfl, rfl⟩) fun _ _ => .modifyElement (hw ▸ hnoted)
      · rw [if_neg ‹_›]
        exact hw ▸ hnoted
    clear_value controls
    by_cases hremote : plug.remote = true
    · rw [if_pos hremote, if_pos hremote]
      refine .addControllers ?_ fun r' color => ?_
      · refine hcontrols false ?_ hcentered (v.getElem?_concat_push _) hlockable
        rw [hremote, if_pos (by decide)]
        exact ((Scene.modifyElement_push v _ _).trans (congrArg v.push hloosened)).symm
      · refine hcontrols true (e := (plug.element.centered r).locked) ?_ (fun hand => ?_)
          (Scene.getElem?_build (v.getElem?_concat_push _)
            (Scene.quartet r' color plug.element.id v.lastId Remote.quartet)) ?_
        · rw [hremote, if_neg (by decide)]
          rfl
        · have hpushed : (v.hold (plug ::ₘ hand)).Leads .finishing
              (((v.record plug).hold hand).push (plug.element.centered r)) := hcentered hand
          exact Scene.leads_steered hpushed hlockable r' color
        · exact ⟨⟨hlockable.comparison, hlockable.change⟩, hlockable.actions⟩
    · rw [if_neg hremote, if_neg hremote]
      refine .answer (hcontrols false ?_ hcentered (v.getElem?_concat_push _) hlockable)
      rw [Bool.eq_false_iff.mpr hremote, if_neg (by decide)]

/-- The plugs that are taken leave the pool; those that find no room are in hand in the end. -/
lemma leads_takePlugs : ∀ (quota : Nat) {v : Scene}, v.Sound →
    Shows v (takePlugs quota) fun taken v' =>
      (∀ hand, (v.hold hand).Leads .finishing (v'.hold (taken.2 + hand))) ∧
        (taken.1 = 0 → v'.placements = v.placements)
  | 0, v, _ => .pure ⟨fun hand => by rw [Multiset.coe_nil, zero_add]; exact .refl, fun _ => rfl⟩
  | quota + 1, v, hv => by
    refine .draft fun d hindex _ _ => ?_
    rw [hindex]
    refine .withdrawWhere (.pure ⟨fun hand => ?_, fun _ => rfl⟩) fun plug rest hpool horigin _ => ?_
    · rw [Multiset.coe_nil, zero_add]
      exact .refl
    have htaken : ∀ hand, v.hold hand = (v.withPool rest).hold (plug ::ₘ hand) := by
      intro hand
      rw [Scene.hold, hpool, Multiset.cons_add, ← Multiset.add_cons]
      rfl
    have hplain := hv.plain plug (hpool ▸ Multiset.mem_cons_self plug rest)
    refine .bind (leads_placePlug hplain horigin) fun placed v' hplaced => ?_
    cases placed with
    | true =>
      have hleads : ∀ hand, (v.hold hand).Leads .finishing ((v'.record plug).hold hand) := fun hand =>
        htaken hand ▸ hplaced hand
      refine .recordPlacement (hleads 0).index_eq (.bind (leads_takePlugs quota ?_) ?_)
      · have hsound := (hleads 0).sound (v.hold_zero.symm ▸ hv)
        rwa [Scene.hold_zero] at hsound
      · exact fun taken v'' htaken => .pure
          ⟨fun hand => (hleads hand).trans (htaken.1 hand), fun h => absurd h (Nat.succ_ne_zero _)⟩
    | false =>
      obtain rfl := hplaced
      have hsplit : v.pool = rest + {plug} := by rw [hpool, add_comm, Multiset.singleton_add]
      refine .bind (leads_takePlugs quota (hv.withPool hsplit)) ?_
      rintro taken v'' ⟨hleads, hplacements⟩
      refine .pure ⟨fun hand => ?_, hplacements⟩
      rw [htaken, ← Multiset.cons_coe, Multiset.cons_add, ← Multiset.add_cons]
      exact hleads _

/-- Plugs that go back are in hand no longer. -/
lemma leads_depositAll : ∀ (plugs : List Plug) {v : Scene},
    Shows v (liftM (depositAll plugs) : Making Unit) fun _ v' =>
      (v.hold plugs).Leads .finishing v' ∧ v'.placements = v.placements
  | [], v => .pure ⟨by rw [Multiset.coe_nil, Scene.hold_zero]; exact .refl, rfl⟩
  | plug :: plugs, v => by
    refine .last (.lift (.deposit ?_))
    refine .last (.weaken (leads_depositAll plugs) fun _ v' h => ⟨?_, h.2⟩)
    have hpool : v.pool + (plug :: plugs : List Plug) = plug ::ₘ v.pool + plugs := by
      rw [← Multiset.cons_coe, Multiset.cons_add, Multiset.add_cons]
    have hnoted : (v.hold (plug :: plugs)).noteDeposit plug = (v.deposit plug).hold plugs := by
      rw [Scene.hold, hpool]
      rfl
    refine .head (.noted (p := plug) ?_) (hnoted ▸ h.1)
    exact Multiset.mem_add.mpr (.inr List.mem_cons_self)

/-- **The placing of plugs makes moves,** and if none is placed no placement is recorded. -/
lemma leads_distributePlugs (quota : Nat) (hv : v.Sound) :
    Shows v (distributePlugs quota) fun placed v' =>
      v.Leads .finishing v' ∧ (placed = 0 → v'.placements = v.placements) := by
  refine .bind (leads_takePlugs quota hv) fun taken v' htaken => ?_
  refine .bind (leads_depositAll taken.2) fun _ v'' hback => .pure ⟨?_, fun h => ?_⟩
  · have hleads := htaken.1 0
    rw [Scene.hold_zero, add_zero] at hleads
    exact hleads.trans hback.1
  · exact hback.2.trans (htaken.2 h)

namespace Moves

/-! ## Populating -/

lemma applyAll : ∀ kinds, Moves .populating (Generation.applyAll kinds)
  | [] => .pure _
  | kind :: kinds => .bind (technique kind) fun _ => .bind (.quiet (.note ⟨rfl, rfl⟩)) fun _ =>
      applyAll kinds

lemma addHoles : ∀ attempts, Moves .populating (Generation.addHoles attempts)
  | 0 => .pure _
  | attempts + 1 => by
    refine .bind (.quiet .readSession) fun s => ?_
    split
    · exact .bind (technique .hole) fun _ => addHoles attempts
    · exact .pure _

lemma setRequirePlug (required : Bool) :
    Moves phase (liftM (Generation.setRequirePlug required) : Making Unit) :=
  .quiet (R := fun _ => True) fun _ => ⟨trivial, rfl⟩

/-- **The populating of a panel makes moves.** -/
lemma populate : Moves .populating Generation.populate := by
  refine .bind (.quiet .readDraft) fun d => .bind (.quiet .readSession) fun s => ?_
  refine .bind (.quiet (.drawn _)) fun techniques => .bind (setRequirePlug _) fun _ => ?_
  refine .bind (applyAll techniques) fun _ => ?_
  split
  · exact .bind (addHoles _) fun _ => setRequirePlug _
  · exact setRequirePlug _

/-! ## Finishing -/

lemma ensureGoal : Moves .finishing Generation.ensureGoal := by
  refine .bind (.quiet .readDraft) fun d => ?_
  split
  · exact .bind (.quiet (.note ⟨rfl, rfl⟩)) fun _ => .bind switch fun _ => .pure _
  · exact .pure _

end Moves

/-- **The finishing of a panel makes moves.** -/
lemma Moves.finish (planned : Nat) : Moves .finishing (Generation.finish planned) := by
  refine .bind (.quiet .readDraft) fun d => .bind (.quiet .readSession) fun s => ?_
  refine .bind (fun v hv => (leads_distributePlugs _ hv).weaken fun _ _ h => h.1) fun placed => ?_
  refine .bind (.quiet .readSession) fun s => .bind (.quiet (.note ⟨rfl, rfl⟩)) fun _ => ?_
  refine .bind .ensureGoal fun _ => .bind (.quiet .readSession) fun s => ?_
  refine .bind (.addCoverings _) fun _ => .bind (.quiet .readDraft) fun d => ?_
  exact .quiet (Moves.quiet_noteRows _)

/-! ## Extra panels -/

/-- A switch records no placement. -/
lemma shows_placeSwitch (first : Bool) (v : Scene) :
    Shows v (Technique.placeSwitch first) fun _ v' => v'.placements = v.placements := by
  refine .skip (.allocate _ _ _) fun found _ => ?_
  cases found with
  | none => exact .pure rfl
  | some r =>
    refine .skip (.drawn _) fun target _ => .newSwitch fun switch _ => ?_
    exact .skip (.note ⟨rfl, rfl⟩) fun _ _ => .pushCoverable (.pure rfl)

lemma shows_repeatPlacing_switch : ∀ (count : Nat) (first : Bool) (v : Scene),
    Shows v (repeatPlacing Technique.placeSwitch count first) fun _ v' =>
      v'.placements = v.placements
  | 0, _, _ => .pure rfl
  | count + 1, first, v => by
    refine .bind (shows_placeSwitch first v) fun placed v' hsame => ?_
    split
    · exact (shows_repeatPlacing_switch count false v').weaken fun _ _ => hsame.symm ▸ id
    · exact .pure hsame

/-- **An extra panel is made by moves,** and if it holds no plug no placement is recorded. -/
lemma leads_makeExtra (hv : v.Sound) : Shows v makeExtra fun placed v' =>
    v.Leads .finishing v' ∧ (placed = 0 → v'.placements = v.placements) := by
  have hswitch : Shows v Technique.switch fun _ v' =>
      v.Leads .finishing v' ∧ v'.placements = v.placements :=
    .and (Moves.switch v hv) (.skip (.drawn _) fun count _ => shows_repeatPlacing_switch _ _ v)
  refine .bind hswitch fun _ v' hswitch => .skip .readSession fun s _ => ?_
  refine (leads_distributePlugs _ (hswitch.1.sound hv)).weaken fun placed v'' h => ?_
  exact ⟨hswitch.1.trans h.1, fun hnone => (h.2 hnone).trans hswitch.2⟩

end Making

end PanelPuzzle
