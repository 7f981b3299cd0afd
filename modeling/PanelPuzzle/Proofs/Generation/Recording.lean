import PanelPuzzle.Proofs.Cover.Recording
import PanelPuzzle.Proofs.Generation.Laying
import PanelPuzzle.Proofs.Generation.Turns
/-!
# Records of coverables stay true to the panel

Several drafts are made with one session, which gives the ids and keeps the plugs that wait.  `Workshop`
says which drafts and which session are reached, in whatever order the drafts are worked on and whatever is
drawn.  For one of them the ids on the others are held, so that each step is one of a desk.

* `KeepsRecords.distributePlugs` — the placing of plugs keeps records.
* `Workshop.orderly` — what is kept of all drafts together.
* `records_stay_true` — **the records of every draft are true to its panel.**
-/

namespace PanelPuzzle

variable {α β : Type}

namespace Making

open Desk Generation

variable {d : Desk} {held : Multiset String} {room : List Rect}

namespace KeepsRecords

/-! ## Plugs -/

/-- **A plug in hand** is put on the panel and recorded, with what controls it, or stays in hand. -/
lemma works_recordedPlug {plug : Plug} (hd : d.Records (plug.element.id ::ₘ held) room none)
    (hplug : plug.Waits) : Works d (placePlug plug) fun placed d' =>
      d'.Records (if placed then held else plug.element.id ::ₘ held) room none := by
  refine .allocate (fun _ => .skip (.note _) fun _ _ => .pure hd) fun r grid hclaims hw hh => .push ?_
  have hfills := Element.fills_centered (Grid.inBounds_of_isFree hclaims.free) hplug.width hplug.height hw hh
  extract_lets controls
  -- however it is moved, the plug becomes coverable at the end
  have hcontrols : ∀ (controlled : Bool) {d₁ d₂ : Desk} {e : Element}, d₂.Records held (r :: room) none →
      d₂.Pending d.elements.length e controlled → e.change ≠ .move → e.Fills r →
      (if plug.remote && !controlled then
        d₁.alter (·.modifyElement d.elements.length fun e => { e with method := .drag }) else d₁) = d₂ →
      Works d₁ (controls controlled) fun placed d' =>
        d'.Records (if placed then held else plug.element.id ::ₘ held) room none := by
    intro controlled d₁ d₂ e hd₂ hpending hmove hfills heq
    unfold controls
    extract_lets noted
    have hnoted : Works d₂ (noted ()) fun placed d' =>
        d'.Records (if placed then held else plug.element.id ::ₘ held) room none := by
      refine .draft (.cover hpending.element (.modifyDraft (.skip (.note _) fun _ _ => .pure ?_)))
      rw [alter_modifyCoverable_add]
      exact hd₂.cover hpending hmove hfills CoverRole.noConfusion
    clear_value noted
    split at heq
    · rw [if_pos ‹_›]
      exact .skip (.note _) fun _ _ => .modifyDraft (heq ▸ hnoted)
    · rw [if_neg ‹_›]
      exact heq ▸ hnoted
  clear_value controls
  have hpushed : ∀ e : Element, e.id = plug.element.id → e.actions = [] →
      ((d.withGrid grid).push e).Records held (r :: room) none ∧
        ((d.withGrid grid).push e).Pending d.elements.length e false := by
    intro e hid hactions
    have hheld : (d.withGrid grid).Records (e.id ::ₘ held) (r :: room) none := hid ▸ hd.claim hclaims
    have hquiet := Element.quiet_of_actions_eq_nil hactions
    exact ⟨hheld.pushQuiet hquiet, .of_push hheld hquiet⟩
  by_cases hremote : plug.remote = true
  · rw [if_pos hremote, if_pos hremote]
    refine .addControllers ?_ fun r' grid' color _ hclaims' _ _ => ?_
    · obtain ⟨hd₁, hpending⟩ :=
        hpushed { plug.element.centered r with method := .drag } rfl hplug.actions_eq
      refine hcontrols false hd₁ hpending hplug.change_ne (hfills.alike rfl rfl rfl rfl rfl) ?_
      rw [hremote, if_pos (by decide)]
      exact alter_modifyElement_push (d := d.withGrid grid) (plug.element.centered r).locked
        fun e => { e with method := .drag }
    · obtain ⟨hd₁, hpending⟩ := hpushed (plug.element.centered r).locked rfl hplug.actions_eq
      refine hcontrols true (hd₁.control hclaims' hpending.mem_ids
        (fun hmem => absurd hmem hpending.uncovered) color) (hpending.control hd₁ r' grid' color)
        hplug.change_ne (hfills.alike rfl rfl rfl rfl rfl) ?_
      rw [hremote, if_neg (by decide)]
      rfl
  · rw [if_neg hremote, if_neg hremote]
    obtain ⟨hd₁, hpending⟩ := hpushed (plug.element.centered r) rfl hplug.actions_eq
    refine .answer (hcontrols false hd₁ hpending hplug.change_ne hfills ?_)
    rw [Bool.eq_false_iff.mpr hremote, if_neg (by decide)]

/-- **The plugs that are taken** are in hand in the end, if they were not placed. -/
lemma works_recordedPlugs : ∀ (quota : Nat) {d : Desk} {held : Multiset String},
    d.Records held room none → Works d (takePlugs quota) fun taken d' =>
      d'.Records ((taken.2.map (·.element.id) : List String) + held) room none ∧ ∀ p ∈ taken.2, p.Waits
  | 0, d, held, hd => .pure ⟨by rwa [List.map_nil, Multiset.coe_nil, zero_add],
      fun p hp => absurd hp List.not_mem_nil⟩
  | quota + 1, d, held, hd => by
    refine .draft (.withdrawWhere (fun _ => .pure ⟨?_, fun p hp => absurd hp List.not_mem_nil⟩)
      fun plug rest hpool _ _ => ?_)
    · rwa [List.map_nil, Multiset.coe_nil, zero_add]
    have hplug := hd.waits plug (hpool ▸ Multiset.mem_cons_self plug rest)
    refine .bind (works_recordedPlug (hd.withdraw hpool) hplug) fun placed d₁ hd₁ => ?_
    cases placed with
    | true =>
      refine .bind (recordPlacement plug _ _ _ _ hd₁) fun _ d₂ hd₂ => ?_
      exact .bind (works_recordedPlugs quota hd₂) fun taken _ h => .pure h
    | false =>
      refine .bind (works_recordedPlugs quota hd₁) fun taken d₂ h => .pure ⟨?_, ?_⟩
      · rw [List.map_cons, ← Multiset.cons_coe, Multiset.cons_add, ← Multiset.add_cons]
        exact h.1
      · exact List.forall_mem_cons.mpr ⟨hplug, h.2⟩

/-- What is in hand is put back. -/
lemma works_recordedReturn : ∀ {plugs : List Plug} {d : Desk},
    d.Records ((plugs.map (·.element.id) : List String) + held) room none → (∀ p ∈ plugs, p.Waits) →
      Works d (liftM (depositAll plugs) : Making Unit) fun _ d' => d'.Records held room none
  | [], _, hd, _ => .pure hd.of_add
  | plug :: plugs, d, hd, hwaits => by
    obtain ⟨hplug, hothers⟩ := List.forall_mem_cons.mp hwaits
    rw [List.map_cons, ← Multiset.cons_coe, Multiset.cons_add] at hd
    exact .last (.lift (.deposit (.last (works_recordedReturn (Records.deposit hd hplug) hothers))))

/-- **The placing of plugs keeps records.** -/
lemma distributePlugs (quota : Nat) : KeepsRecords (Generation.distributePlugs quota) :=
  fun _ _ _ hd => .bind (works_recordedPlugs quota hd) fun _ _ h =>
    .bind (works_recordedReturn h.1 h.2) fun _ _ hd' => .pure hd'

/-- **Every operation keeps records.** -/
lemma operation : ∀ op : Operation, KeepsRecords op.run
  | .technique kind => .bind (technique kind) fun _ => .pure _
  | .plugs quota => .bind (distributePlugs quota) fun _ => .pure _
  | .cover _ target => .bind (style target _) fun _ => .pure _
  | .trap => .bind resetTrap fun _ => .pure _

end KeepsRecords

end Making

/-! ## Workshops -/

/-- **Drafts and the session that they are made with,** from new drafts on, while no plug waits. -/
inductive Workshop : List Draft → Session → Prop
  | start {s : Session} : s.pool = {} → Workshop [] s
  | new {drafts : List Draft} {s : Session} (index : Nat) (theme : String) : Workshop drafts s →
    Workshop (.new index theme :: drafts) s
  /-- An operation is applied to one of the drafts. -/
  | run {before after : List Draft} {d : Draft} {s : Session} (op : Operation) :
    Workshop (before ++ d :: after) s →
    Workshop (before ++ (op.run ⟨d, s⟩).2.draft :: after) (op.run ⟨d, s⟩).2.session
  /-- One of the drafts is covered. -/
  | cover {before after : List Draft} {d : Draft} {s : Session} (probability : Number) :
    Workshop (before ++ d :: after) s →
    Workshop (before ++ (Cover.addCoverings probability ⟨d, s⟩).2.draft :: after)
      (Cover.addCoverings probability ⟨d, s⟩).2.session
  /-- What else is in the session may be anything. -/
  | resume {drafts : List Draft} {s s' : Session} : Workshop drafts s → s'.pool = s.pool →
    s'.lastId = s.lastId → Workshop drafts s'

namespace Workshop

/-- The ids on some drafts. -/
def ids (drafts : List Draft) : Multiset String :=
  (drafts.map fun d => ((d.elements.map (·.id) : List String) : Multiset String)).sum

/-- **What is kept of drafts** that are made with one session. -/
structure Orderly (drafts : List Draft) (s : Session) : Prop where
  records : ∀ d ∈ drafts, d.Records [] none
  waits : ∀ p ∈ s.pool.plugs, p.Waits
  given : Given s.lastId (ids drafts + (s.pool.plugs : Multiset Plug).map (·.element.id))

variable {drafts before after : List Draft} {d : Draft} {s : Session}

lemma ids_append_cons : ids (before ++ d :: after) =
    ids (before ++ after) + (d.elements.map (·.id) : List String) := by
  rw [ids, ids, List.map_append, List.map_cons, List.sum_append, List.sum_cons, List.map_append,
    List.sum_append, add_assoc]
  exact congrArg _ (add_comm _ _)

/-- **A step on one draft:** the ids on the others are held. -/
lemma Orderly.step (h : Orderly (before ++ d :: after) s) {act : Making α}
    (hact : Making.KeepsRecords act) :
    Orderly (before ++ (act ⟨d, s⟩).2.draft :: after) (act ⟨d, s⟩).2.session := by
  have hdesk : (Workbench.desk ⟨d, s⟩).Records (ids (before ++ after)) [] none := by
    refine ⟨h.records d (List.mem_append_right _ List.mem_cons_self), h.waits, ?_⟩
    have hgiven := h.given
    rw [ids_append_cons, add_assoc] at hgiven
    exact hgiven
  have hdone := hact _ _ _ hdesk ⟨d, s⟩ rfl
  refine ⟨fun d' hd' => ?_, hdone.waits, ?_⟩
  · rcases List.mem_append.mp hd' with hbefore | hrest
    · exact h.records d' (List.mem_append_left _ hbefore)
    · rcases List.mem_cons.mp hrest with rfl | hafter
      · exact hdone.toRecords
      · exact h.records d' (List.mem_append_right _ (List.mem_cons_of_mem _ hafter))
  · rw [ids_append_cons, add_assoc]
    exact hdone.given

lemma records_new (index : Nat) (theme : String) : (Draft.new index theme).Records [] none where
  tiled := Grid.tiled_empty
  reaches _ he := absurd he List.not_mem_nil
  nodup := List.nodup_nil
  placed _ hc := absurd hc List.not_mem_nil
  flagged _ hc := absurd hc List.not_mem_nil
  own := List.Subperm.refl _

/-- **What is kept of everything that is reached.** -/
lemma orderly (h : Workshop drafts s) : Orderly drafts s := by
  induction h with
  | start hpool =>
    refine ⟨fun d hd => absurd hd List.not_mem_nil, fun p hp => ?_, ?_⟩
    · rw [hpool] at hp
      exact absurd hp List.not_mem_nil
    · rw [hpool]
      exact ⟨Multiset.nodup_zero, fun id hid => absurd hid (Multiset.notMem_zero id)⟩
  | new index theme _ ih =>
    refine ⟨List.forall_mem_cons.mpr ⟨records_new index theme, ih.records⟩, ih.waits, ?_⟩
    rw [← List.nil_append (_ :: _), ids_append_cons]
    exact (add_zero (ids _)).symm ▸ ih.given
  | run op _ ih => exact ih.step (Making.KeepsRecords.operation op)
  | cover probability _ ih => exact ih.step (Making.KeepsRecords.addCoverings probability)
  | resume _ hpool hlast ih => exact ⟨ih.records, hpool ▸ ih.waits, hpool ▸ hlast ▸ ih.given⟩

end Workshop

namespace Generation

/-- **The records of coverables stay true to the panel,** whatever is done to the drafts of a session. -/
theorem records_stay_true {drafts : List Draft} {s : Session} (h : Workshop drafts s) :
    ∀ d ∈ drafts, d.Truthful := fun d hd => (h.orderly.records d hd).truthful

/-- A key whose lock is on another panel: it gets remote controls and then a wrong size. -/
theorem records_stay_true_key : ∃ (lock key : Draft) (s : Session), Workshop [key, lock] s ∧
    key.coverables.map (fun c => (c.id, c.hasRemote, c.sizeObscured)) = [("k2", true, true)] ∧
    key.Truthful ∧ lock.Truthful := by
  have hnew : Workshop [.new 0 "blue"] (Config.session {} (.ofWords fun _ => 0)) := .new 0 _ (.start rfl)
  have hlock : Workshop ([] ++ _ :: []) _ := .run (.technique .tumbler) hnew
  have hplaced : Workshop ([] ++ _ :: _) _ := .run (.plugs 1) (hlock.new 1 "blue")
  have hsized : Workshop ([] ++ _ :: _) _ := .run (.cover .sizeObscure 0) hplaced
  refine ⟨_, _, _, hsized, by decide +kernel, ?_, ?_⟩
  · exact records_stay_true hsized _ List.mem_cons_self
  · exact records_stay_true hsized _ (List.mem_cons_of_mem _ List.mem_cons_self)

end Generation

end PanelPuzzle
