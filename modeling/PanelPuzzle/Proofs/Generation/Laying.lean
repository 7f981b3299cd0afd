import PanelPuzzle.Proofs.Cover.Laying
import PanelPuzzle.Proofs.Generation.Mechanisms
/-!
# No element is placed over another by accident

`Operation` is what a generation puts elements on a panel by, and `Workbench.Reached` says which workbenches
such operations lead to, in whatever order they are applied and whatever is drawn.

* `Making.laid_run` — what each operation leaves.
* `exists_reached` — every panel of a puzzle is made by such operations.
* `elements_have_own_cells` — **each new element lies on cells that were free and are claimed for it.**  The
  only other one is the lid of a cover.
-/

namespace PanelPuzzle

namespace Making

open Cover Desk Generation

variable {d₀ : Draft} {d : Desk}

/-! ## Plugs -/

namespace Keeping

/-- **A plug** has cells of its own, and so have its remote controls. -/
lemma placePlug {plug : Plug} (hwidth : plug.element.width ∈ Side.sizes)
    (hheight : plug.element.height ∈ Side.sizes) : Keeping (Laid d₀) (Generation.placePlug plug) := by
  refine fun d hd => .allocate (fun _ => .skip (.note _) fun _ _ => .pure hd)
    fun r grid hclaims hw hh => .push ?_
  have hon := hd.on hclaims
  have hsits := Element.sits_centered hon.inBounds hwidth hheight hw hh
  extract_lets controls
  have hcontrols : ∀ controlled, Keeping (Laid d₀) (controls controlled) := by
    intro controlled
    unfold controls
    extract_lets noted
    have hnoted : ∀ u, Keeping (Laid d₀) (noted u) := fun _ => by
      refine .bind (.still .readDraft) fun draft => .bind (cover hd.length_le _) fun _ => ?_
      refine .bind (modifyDraft fun _ hd => hd.modifyCoverable _ fun _ => rfl) fun _ => ?_
      exact .bind (.still (.note _)) fun _ => .pure _
    clear_value noted
    split
    · refine .bind (.still (.note _)) fun _ => .bind (modifyMethod _ _ (fun _ => rfl) ?_) hnoted
      exact fun _ _ h => h.alike rfl rfl rfl rfl rfl
    · exact hnoted _
  clear_value controls
  by_cases hremote : plug.remote = true
  · rw [if_pos hremote, if_pos hremote]
    refine Keeping.bind (addControllers _) hcontrols _ (hon.push ?_).toLaid
    exact hsits.alike rfl rfl rfl rfl rfl
  · rw [if_neg hremote, if_neg hremote]
    exact .answer (hcontrols _ _ (hon.push hsits).toLaid)

/-- What waits is put back. -/
lemma depositAll : ∀ {plugs : List Plug},
    (∀ p ∈ plugs, p.element.width ∈ Side.sizes ∧ p.element.height ∈ Side.sizes) →
      Keeping (Laid d₀) (liftM (Generation.depositAll plugs) : Making Unit)
  | [], _ => .pure _
  | plug :: plugs, hplugs => by
    obtain ⟨⟨hwidth, hheight⟩, hothers⟩ := List.forall_mem_cons.mp hplugs
    refine fun d hd => .last (.lift (.deposit (.last ?_)))
    exact depositAll hothers _ (hd.deposit hwidth hheight)

end Keeping

/-- **The plugs that are taken** come from the pool, and those that find no room are as they were there. -/
lemma laid_takePlugs : ∀ (quota : Nat) {d : Desk}, Laid d₀ d →
    Works d (takePlugs quota) fun taken d' => Laid d₀ d' ∧
      ∀ p ∈ taken.2, p.element.width ∈ Side.sizes ∧ p.element.height ∈ Side.sizes
  | 0, _, hd => .pure ⟨hd, fun p hp => absurd hp List.not_mem_nil⟩
  | quota + 1, d, hd => by
    refine .draft (.withdrawWhere (fun _ => .pure ⟨hd, fun p hp => absurd hp List.not_mem_nil⟩)
      fun plug rest hpool _ _ => ?_)
    obtain ⟨hwidth, hheight⟩ := hd.orderly.sized plug (hpool ▸ Multiset.mem_cons_self plug rest)
    have hrest : Laid d₀ (d.withPool rest) :=
      hd.congr rfl rfl rfl fun p hp => hpool ▸ Multiset.mem_cons_of_mem hp
    refine .bind (Keeping.placePlug hwidth hheight _ hrest) fun placed d₁ hd₁ => ?_
    split
    · refine .bind (Keeping.recordPlacement plug _ _ hd₁) fun _ d₂ hd₂ => ?_
      exact .bind (laid_takePlugs quota hd₂) fun taken _ h => .pure h
    · refine .bind (laid_takePlugs quota hd₁) fun taken _ h => .pure ⟨h.1, ?_⟩
      exact List.forall_mem_cons.mpr ⟨⟨hwidth, hheight⟩, h.2⟩

lemma Keeping.distributePlugs (quota : Nat) : Keeping (Laid d₀) (Generation.distributePlugs quota) :=
  fun _ hd => .bind (laid_takePlugs quota hd) fun _ d' h =>
    .bind (Keeping.depositAll h.2 d' h.1) fun _ _ hd' => .pure hd'

end Making

/-! ## Operations -/

/-- **An operation** that puts elements on a panel: a technique, the placing of some plugs, a cover for the
coverable at a place, or a trap. -/
inductive Operation where
  | technique (kind : TechniqueKind)
  | plugs (quota : Nat)
  | cover (style : CoverStyle) (target : Nat)
  | trap

/-- The computation of an operation. -/
def Operation.run : Operation → Making Unit
  | technique kind => do let _ ← kind.apply
  | plugs quota => do let _ ← Generation.distributePlugs quota
  | cover style target => do let _ ← style.apply target
  | trap => do let _ ← Cover.resetTrap

/-- Whether an operation puts a lid over a coverable. -/
def Operation.Lids (op : Operation) (target : Nat) : Prop :=
  op = .cover .physical target ∨ op = .cover .groupObscure target

/-- **A workbench that is reached** from a new draft, while no plug waits, by operations in whatever
order. -/
inductive Workbench.Reached : Workbench → Prop
  | start (index : Nat) (theme : String) {s : Session} : s.pool = {} → Reached ⟨.new index theme, s⟩
  | run {b : Workbench} (op : Operation) : Reached b → Reached (op.run b).2
  /-- A draft goes on with any session in which the plugs of the same or another one wait. -/
  | resume {b b' : Workbench} {s : Session} : Reached b → Reached b' →
    s.pool.plugs.Perm b'.session.pool.plugs → Reached ⟨b.draft, s⟩

namespace Making

open Desk

lemma laid_run {d : Desk} (hd : d.Orderly) : ∀ op : Operation, Works d op.run fun _ d' =>
    Laid d.draft d' ∨ ∃ target, op.Lids target ∧ ∃ c ∈ d.draft.coverables[target]?,
      Lidded d.draft c.footprint d'
  | .technique kind => .bind (Keeping.technique kind d (.refl hd)) fun _ _ h => .pure (.inl h)
  | .plugs quota => .bind (Keeping.distributePlugs quota d (.refl hd)) fun _ _ h => .pure (.inl h)
  | .trap => .bind (Keeping.resetTrap d (.refl hd)) fun _ _ h => .pure (.inl h)
  | .cover style target => .bind (laid_style hd target style) fun _ _ h => .pure <| by
      refine h.imp_right fun ⟨hstyle, hlid⟩ => ⟨target, ?_, hlid⟩
      rcases hstyle with rfl | rfl
      · exact .inl rfl
      · exact .inr rfl

end Making

namespace Workbench.Reached

/-- **What is known of a workbench that is reached.** -/
lemma orderly {b : Workbench} (h : b.Reached) : b.desk.Orderly := by
  induction h with
  | @start index theme s hpool =>
    refine ⟨fun p hp => ?_, fun c hc => absurd hc List.not_mem_nil⟩
    change p ∈ (s.pool.plugs : Multiset Plug) at hp
    rw [hpool] at hp
    exact absurd hp (Multiset.notMem_zero p)
  | @run b op _ ih =>
    rcases Making.laid_run ih op b rfl with hlaid | ⟨_, _, _, _, hlidded⟩
    · exact hlaid.orderly
    · exact hlidded.orderly
  | @resume b b' s _ _ hperm ih ih' =>
    refine ⟨fun p hp => ih'.sized p ?_, ih.footprints⟩
    change p ∈ (s.pool.plugs : Multiset Plug) at hp
    rwa [Multiset.coe_eq_coe.mpr hperm] at hp

/-- Only the draft and the plugs that wait matter. -/
lemma alike {b b' : Workbench} (h : b.Reached) (hdraft : b'.draft = b.draft)
    (hpool : b'.desk.pool = b.desk.pool) : b'.Reached := by
  obtain ⟨draft, s⟩ := b'
  obtain rfl : draft = b.draft := hdraft
  exact .resume h h (Multiset.coe_eq_coe.mp hpool)

/-- **The operations of a generation** are among those that are considered here. -/
lemma of_desk {config : Generation.Config} {d : Desk} (h : d.Reached config) :
    (∃ b : Workbench, b.desk = d) ∧ ∀ b : Workbench, b.desk = d → b.Reached := by
  -- it is all the same which of the workbenches with that desk is meant
  have hrun : ∀ {b : Workbench} (op : Operation),
      (∀ b' : Workbench, b'.desk = b.desk → b'.Reached) →
      (∃ b' : Workbench, b'.desk = (op.run b).2.desk) ∧
        ∀ b' : Workbench, b'.desk = (op.run b).2.desk → b'.Reached := by
    intro b op ih
    refine ⟨⟨_, rfl⟩, fun b' hb' => ?_⟩
    exact (run op (ih b rfl)).alike (congrArg Desk.draft hb') (congrArg Desk.pool hb')
  induction h with
  | start draws theme =>
    refine ⟨⟨_, rfl⟩, fun b hb => ?_⟩
    exact (start 0 theme (s := config.session draws) rfl).alike (congrArg Desk.draft hb)
      (congrArg Desk.pool hb)
  | @require d required _ ih =>
    obtain ⟨⟨b, rfl⟩, hreached⟩ := ih
    refine ⟨⟨⟨b.draft, { b.session with requirePlug := required }⟩, rfl⟩, fun b' hb' => ?_⟩
    have hpool := congrArg Desk.pool hb'
    exact (hreached b rfl).alike (congrArg Desk.draft hb') hpool
  | technique kind _ ih => exact hrun (.technique kind) ih.2
  | plugs quota _ ih => exact hrun (.plugs quota) ih.2
  | cover _ _ ih => exact hrun (.cover _ _) ih.2
  | trap _ ih => exact hrun .trap ih.2
  | @next d theme _ ih =>
    obtain ⟨⟨b, rfl⟩, hreached⟩ := ih
    refine ⟨⟨⟨.new (b.draft.index + 1) theme, b.session⟩, rfl⟩, fun b' hb' => ?_⟩
    have hnew : Reached ⟨.new (b.draft.index + 1) theme, { b.session with pool := {} }⟩ :=
      start _ theme rfl
    have hnext := resume hnew (hreached b rfl) (List.Perm.refl _)
    exact hnext.alike (congrArg Desk.draft hb') (congrArg Desk.pool hb')

end Workbench.Reached

/-! ## The result -/

namespace Draft

/-- An element is new at a place of a draft. -/
def Adds (d d' : Draft) (place : Nat) (e : Element) : Prop :=
  d.elements.length ≤ place ∧ d'.elements[place]? = some e

/-- One draft comes from another one by claims and new elements: what was there keeps its place. -/
structure Extends (d d' : Draft) : Prop where
  ids : d.elements.map (·.id) <+: d'.elements.map (·.id)
  claims : d.grid.claims <+: d'.grid.claims

end Draft

namespace Generation

/-- **Every panel of a puzzle** is that of a workbench that is reached. -/
theorem exists_reached (config : Config) (draws : Draws) :
    ∀ panel ∈ (generate config draws).puzzle.panels,
      ∃ b : Workbench, b.Reached ∧ b.draft.panel = panel := by
  intro panel hpanel
  rw [panels_generate] at hpanel
  obtain ⟨draft, hdraft, rfl⟩ := List.mem_map.mp hpanel
  obtain ⟨d, hd, rfl⟩ := ((carries_reached config).ended draws).1.drafts draft hdraft
  obtain ⟨⟨b, rfl⟩, hreached⟩ := Workbench.Reached.of_desk hd
  exact ⟨b, hreached b rfl, rfl⟩

/-- **Each new element lies on cells of its own,** which were free and are claimed by the same operation.
Only a lid does not: it goes over what it hides, and beyond it at most over a strip that is claimed with it.
There is one lid at most. -/
theorem elements_have_own_cells {b : Workbench} (hb : b.Reached) (op : Operation) :
    b.draft.Extends (op.run b).2.draft ∧
    ((∀ place e, b.draft.Adds (op.run b).2.draft place e →
        e.HasOwnCells b.draft.grid (op.run b).2.draft.grid) ∨
      ∃ target c, op.Lids target ∧ b.draft.coverables[target]? = some c ∧
        ∃ place lid, b.draft.Adds (op.run b).2.draft place lid ∧
          lid.IsLid c.footprint b.draft.grid (op.run b).2.draft.grid ∧
          ∀ place' e, b.draft.Adds (op.run b).2.draft place' e → place' ≠ place →
            e.HasOwnCells b.draft.grid (op.run b).2.draft.grid) := by
  rcases Making.laid_run hb.orderly op b rfl with hlaid | ⟨target, hop, c, hc, hlidded⟩
  · refine ⟨⟨hlaid.ids, hlaid.grows.claims_isPrefix⟩, .inl fun place e he => ?_⟩
    obtain ⟨r, hr, hsits⟩ := hlaid.sits place e he.1 he.2
    exact ⟨r, hr, hsits.lies⟩
  · obtain ⟨place, lid, hplace, hat, hlid, hothers⟩ := hlidded.lid
    refine ⟨⟨hlidded.ids, hlidded.grows.claims_isPrefix⟩, .inr ⟨target, c, hop, hc, place, lid,
      ⟨hplace, hat⟩, hlid, fun place' e he hne => ?_⟩⟩
    obtain ⟨r, hr, hsits⟩ := hothers place' e he.1 hne he.2
    exact ⟨r, hr, hsits.lies⟩

/-- A screw beside a tumbler. -/
theorem elements_have_own_cells_screw : ∃ b : Workbench, b.Reached ∧
    b.draft.elements.map (·.shape) = [.tumbler] ∧
    (((Operation.technique .screw).run b).2.draft.elements.drop 1).map (·.shape) = [.circle, .screw] ∧
    ∀ place e, b.draft.Adds ((Operation.technique .screw).run b).2.draft place e →
      e.HasOwnCells b.draft.grid ((Operation.technique .screw).run b).2.draft.grid := by
  have hreached : Workbench.Reached ((Operation.technique .tumbler).run
      ⟨.new 0 "blue", Config.session {} (.ofWords fun _ => 0)⟩).2 := .run _ (.start _ _ rfl)
  refine ⟨_, hreached, by decide +kernel, by decide +kernel, ?_⟩
  refine (elements_have_own_cells hreached (.technique .screw)).2.resolve_right ?_
  rintro ⟨target, c, hlids | hlids, -⟩
  · cases hlids
  · cases hlids

end Generation

end PanelPuzzle
