import PanelPuzzle.Proofs.Cover.Stacking
import PanelPuzzle.Proofs.Cover.Turns
import PanelPuzzle.Proofs.Making.OnTop
/-!
# Covers only add on top

Lids, tiles, buttons and switches are new elements.  The two covers that take a plug over are legal only
while nothing controls the plug, and a wrong size is given only once, so whatever they change of an element
is told by a mark that was not there before.

**The pool.**  A desk tells which plugs wait, but not in which order.  That no cover touches the pool is
shown beside it, `Making.Plugless`.

* `Making.topped_style` — what a legal cover does to a draft.
* `Cover.addCoverings_topped` — **the covering of a panel only adds on top.**
-/

namespace PanelPuzzle

variable {α β : Type}

namespace Making

open Cover Desk

/-! ## Drafts -/

section Topped

variable {d₀ : Draft} {d : Desk}

/-- A computation that only adds on top, whatever it finds. -/
abbrev Tops (d₀ : Draft) (act : Making α) : Prop := Keeping (fun d => d₀.Topped d.draft) act

namespace Tops

lemma claim (r : Rect) : Tops d₀ (Making.modifyDraft (·.claim r)) :=
  fun _ hd => .last (.modifyDraft (.pure (hd.withGrid (List.prefix_append _ _))))

lemma physical (target : Nat) : Tops d₀ (Cover.physical target) := by
  refine fun d hd => .draft ?_
  cases d.draft.coverables[target]? with
  | none => exact .pure hd
  | some c =>
    refine .newTile fun plain _ _ _ => .skip .randomColor fun color _ => ?_
    refine .skip still_chooseGate fun gate _ => .push ?_
    cases gate with
    | remote =>
      refine .addControllers (.modifyDraft (.pure ?_)) fun r grid color _ hclaims _ _ => .pure ?_
      · rw [alter_modifyElement_push]
        exact hd.append [_]
      · exact Draft.Topped.control (hd.append [_]) hclaims color _
    | drag => exact .pure (hd.append [_])
    | tap => exact .pure (hd.append [_])
    | rotate => exact .pure (hd.append [_])

lemma enlarge (r : Rect) : Tops d₀ (Cover.enlarge r) := by
  refine fun d hd => .draft ?_
  dsimp only
  split
  · exact .pure hd
  · exact .skip (.note _) fun _ _ => .bind (Tops.claim _ d hd) fun _ _ hd' => .pure hd'

lemma placeRing (color : UInt8) : ∀ ring, Tops d₀ (Cover.placeRing color ring)
  | [] => .pure _
  | r :: others => fun d hd => .bind (Tops.claim r d hd) fun _ _ hd' =>
      .newDraggable fun _ _ _ _ => .push (placeRing color others _ (hd'.append [_]))

lemma groupObscure (target : Nat) : Tops d₀ (Cover.groupObscure target) := by
  refine fun d hd => .draft ?_
  cases d.draft.coverables[target]? with
  | none => exact .pure hd
  | some c =>
    refine .skip .randomColor fun color _ => ?_
    dsimp only
    split
    · refine .bind (Tops.enlarge _ d hd) fun r d' hd' => .newDraggable fun lid _ _ _ => ?_
      exact .push (.pure (hd'.append [_]))
    · refine .draft ?_
      split
      · exact .pure hd
      · refine .bind (Tops.placeRing color _ d hd) fun _ d' hd' => .newDraggable fun lid _ _ _ => ?_
        exact .push (.pure (hd'.append [_]))

lemma resetTrap : Tops d₀ Cover.resetTrap := by
  refine fun d hd => .draft (.skip (.choose _) fun chosen _ => ?_)
  cases chosen with
  | none => exact .pure hd
  | some id =>
    refine .addButton (fun _ => .pure hd) fun r grid button hclaims _ _ _ => ?_
    refine .skip (.note _) fun _ _ => .modifyDraft (.pure ?_)
    exact ((hd.claim hclaims).append [_]).trap id

end Tops

lemma topped_remoteOnly (hd : d₀.Topped d.draft) {target : Nat} {c : Coverable}
    (hc : d.draft.coverables[target]? = some c) (hlegal : canTakeOver d.draft c = true) :
    Works d (Cover.remoteOnly target) fun _ d' => d₀.Topped d'.draft := by
  obtain ⟨hrole, hremote, -⟩ := canTakeOver_iff hlegal
  refine .draft ?_
  cases hfound : d.draft.sourceOf? target with
  | none => exact .pure hd
  | some found =>
    have hsource := (sourceAt_of_sourceOf? hc hfound).source_eq
    refine .addControllers (.pure hd) fun r grid color _ hclaims _ _ => .takeOver (.pure ?_)
    exact (hd.control hclaims color _).takeOver hc hsource hrole hremote

lemma topped_switchRelease (hd : d₀.Topped d.draft) {target : Nat} {c : Coverable}
    (hc : d.draft.coverables[target]? = some c) (hlegal : canTakeOver d.draft c = true) :
    Works d (Cover.switchRelease target) fun _ d' => d₀.Topped d'.draft := by
  obtain ⟨hrole, hremote, -⟩ := canTakeOver_iff hlegal
  refine .draft ?_
  cases hfound : d.draft.sourceOf? target with
  | none => exact .pure hd
  | some found =>
    have hsource := (sourceAt_of_sourceOf? hc hfound).source_eq
    refine .allocate (fun _ => .pure hd) fun r grid hclaims _ _ => .newSwitch fun colors => ?_
    refine .skip (.note _) fun _ _ => .push (.modifyDraft (.takeOver (.pure ?_)))
    exact ((hd.claim hclaims).append [_]).addRemote.takeOver hc hsource hrole hremote

lemma topped_sizeObscure (hd : d₀.Topped d.draft) {target : Nat} {c : Coverable}
    (hc : d.draft.coverables[target]? = some c) (hlegal : canObscureSize d.draft c = true) :
    Works d (Cover.sizeObscure target) fun _ d' => d₀.Topped d'.draft := by
  have hnot : c.sizeObscured = false := by
    simp only [canObscureSize, Bool.and_eq_true, Bool.not_eq_true'] at hlegal
    exact hlegal.1.1
  refine .draft ?_
  rw [hc]
  cases hfound : d.draft.sourceOf? target with
  | none => exact .pure hd
  | some found =>
    have hsource := (sourceAt_of_sourceOf? hc hfound).source_eq
    refine .skip (.choose _) fun size _ => ?_
    cases size with
    | none => exact .pure hd
    | some size =>
      refine .addButton (fun _ => .pure hd) fun r grid button hclaims _ _ _ => ?_
      refine .modifyDraft (.modifyDraft (.pure ?_))
      exact ((hd.claim hclaims).append [_]).obscure hc hsource hnot size c.footprint

/-- **A legal cover only adds on top.** -/
lemma topped_style (hd : d₀.Topped d.draft) {style : CoverStyle} {target : Nat}
    (hlegal : style ∈ legalStyles d.draft target) :
    Works d (style.apply target) fun _ d' => d₀.Topped d'.draft := by
  obtain ⟨c, hc, hlegal⟩ := isLegal_of_mem_legalStyles hlegal
  cases style with
  | physical => exact Tops.physical target d hd
  | groupObscure => exact Tops.groupObscure target d hd
  | remoteOnly => exact topped_remoteOnly hd hc hlegal
  | switchRelease => exact topped_switchRelease hd hc hlegal
  | sizeObscure => exact topped_sizeObscure hd hc hlegal

end Topped

/-! ## Pools -/

/-- A computation neither takes nor places plugs. -/
def Plugless (act : Making α) : Prop := ∀ b : Workbench,
  (act b).2.session.pool = b.session.pool ∧ (act b).2.session.placements = b.session.placements

namespace Plugless

lemma pure (a : α) : Plugless (Pure.pure a : Making α) := fun _ => ⟨rfl, rfl⟩

lemma bind {act : Making α} {next : α → Making β} (h : Plugless act) (hnext : ∀ a, Plugless (next a)) :
    Plugless (act >>= next) :=
  fun b => ⟨(hnext _ _).1.trans (h b).1, (hnext _ _).2.trans (h b).2⟩

lemma draws (draw : StateM Draws α) : Plugless (liftM draw : Making α) := fun _ => ⟨rfl, rfl⟩

lemma sessionDraws (draw : StateM Draws α) :
    Plugless (liftM (liftM draw : StateM Session α) : Making α) := fun _ => ⟨rfl, rfl⟩

lemma newElement (shape : Shape) (width height : Number) :
    Plugless (liftM (Session.newElement shape width height) : Making Element) := fun _ => ⟨rfl, rfl⟩

lemma newTile (r : Rect) : Plugless (liftM (Cover.newTile r) : Making Element) := fun _ => ⟨rfl, rfl⟩

lemma newDraggable (r : Rect) (color : UInt8) :
    Plugless (liftM (Cover.newDraggable r color) : Making Element) := fun _ => ⟨rfl, rfl⟩

lemma note (event : Event) : Plugless (Making.note event) := fun _ => ⟨rfl, rfl⟩

lemma readDraft : Plugless Making.draft := fun _ => ⟨rfl, rfl⟩

lemma modifyDraft (change : Draft → Draft) : Plugless (Making.modifyDraft change) := fun _ => ⟨rfl, rfl⟩

lemma push (e : Element) : Plugless (Making.push e) := fun _ => ⟨rfl, rfl⟩

lemma allocateCells (w h : Nat) : Plugless (Making.allocateCells w h) := by
  intro b
  obtain ⟨events, hstep⟩ := allocateCells_eq w h b
  rw [hstep]
  exact ⟨rfl, rfl⟩

lemma newSwitch (r : Rect) (target : Nat) : Plugless (Technique.newSwitch r target) :=
  .bind (.newElement _ _ _) fun _ => .bind (.sessionDraws _) fun _ => .bind (.sessionDraws _) fun _ =>
    .bind (.sessionDraws _) fun _ => .pure _

lemma pushQuartet (r : Rect) (color : UInt8) (targetId : String) :
    ∀ buttons, Plugless (Remote.pushQuartet r color targetId buttons)
  | [] => .pure _
  | _ :: others => .bind (.newElement _ _ _) fun _ => .bind (.push _) fun _ =>
      pushQuartet r color targetId others

lemma addControllers (targetId : String) : Plugless (Remote.addControllers targetId) := by
  refine .bind .readDraft fun d => ?_
  split
  · exact .bind (.note _) fun _ => .pure _
  refine .bind (.allocateCells _ _) fun found => ?_
  cases found with
  | none => exact .bind (.note _) fun _ => .pure _
  | some r =>
    refine .bind (.sessionDraws _) fun color => .bind (.pushQuartet _ _ _ _) fun _ => ?_
    exact .bind (.modifyDraft _) fun _ => .bind (.note _) fun _ => .pure _

lemma addButton (action : Action) : Plugless (Remote.addButton action) := by
  refine .bind (.allocateCells _ _) fun found => ?_
  cases found with
  | none => exact .pure _
  | some r =>
    refine .bind (.newElement _ _ _) fun plain => .bind (.sessionDraws _) fun color => ?_
    exact .bind (.push _) fun _ => .pure _

lemma chooseGate : Plugless Cover.chooseGate := by
  refine .bind .readDraft fun d => ?_
  extract_lets gated
  have hgated : ∀ remote, Plugless (gated remote) := by
    intro remote
    unfold gated
    split
    · exact .pure _
    · exact .bind (.draws _) fun _ => .pure _
  split
  · exact .bind (.sessionDraws _) hgated
  · exact .bind (.pure _) hgated

lemma physical (target : Nat) : Plugless (Cover.physical target) := by
  refine .bind .readDraft fun d => ?_
  split
  · exact .pure _
  refine .bind (.newTile _) fun plain => .bind (.sessionDraws _) fun color => ?_
  refine .bind .chooseGate fun gate => .bind (.push _) fun place => ?_
  dsimp only
  split
  · refine .bind (.addControllers _) fun controlled => ?_
    split
    · exact .bind (.modifyDraft _) fun _ => .pure _
    · exact .pure _
  · exact .pure _

lemma enlarge (r : Rect) : Plugless (Cover.enlarge r) := by
  refine .bind .readDraft fun d => ?_
  dsimp only
  split
  · exact .pure _
  · exact .bind (.note _) fun _ => .bind (.modifyDraft _) fun _ => .pure _

lemma placeRing (color : UInt8) : ∀ ring, Plugless (Cover.placeRing color ring)
  | [] => .pure _
  | _ :: others => .bind (.modifyDraft _) fun _ => .bind (.newDraggable _ _) fun _ =>
      .bind (.push _) fun _ => placeRing color others

lemma groupObscure (target : Nat) : Plugless (Cover.groupObscure target) := by
  refine .bind .readDraft fun d => ?_
  split
  · exact .pure _
  refine .bind (.sessionDraws _) fun color => ?_
  split
  · refine .bind (.enlarge _) fun r => .bind (.newDraggable _ _) fun lid => ?_
    exact .bind (.push _) fun _ => .pure _
  refine .bind .readDraft fun d => ?_
  dsimp only
  split
  · exact .pure _
  · refine .bind (.placeRing _ _) fun _ => .bind (.newDraggable _ _) fun lid => ?_
    exact .bind (.push _) fun _ => .pure _

lemma takeOver (target source : Nat) : Plugless (Cover.takeOver target source) :=
  .bind (.modifyDraft _) fun _ => .modifyDraft _

lemma remoteOnly (target : Nat) : Plugless (Cover.remoteOnly target) := by
  refine .bind .readDraft fun d => ?_
  split
  · exact .pure _
  refine .bind (.addControllers _) fun controlled => ?_
  split
  · exact .bind (.takeOver _ _) fun _ => .pure _
  · exact .pure _

lemma switchRelease (target : Nat) : Plugless (Cover.switchRelease target) := by
  refine .bind .readDraft fun d => ?_
  split
  · exact .pure _
  refine .bind (.allocateCells _ _) fun found => ?_
  cases found with
  | none => exact .pure _
  | some r =>
    refine .bind (.newSwitch _ _) fun plain => .bind (.note _) fun _ => .bind (.push _) fun _ => ?_
    exact .bind (.modifyDraft _) fun _ => .bind (.takeOver _ _) fun _ => .pure _

lemma sizeObscure (target : Nat) : Plugless (Cover.sizeObscure target) := by
  refine .bind .readDraft fun d => ?_
  split
  · refine .bind (.draws _) fun size => ?_
    cases size with
    | none => exact .pure _
    | some size =>
      refine .bind (.addButton _) fun button => ?_
      cases button with
      | none => exact .pure _
      | some place => exact .bind (.modifyDraft _) fun _ => .bind (.modifyDraft _) fun _ => .pure _
  · exact .pure _

lemma resetTrap : Plugless Cover.resetTrap := by
  refine .bind .readDraft fun d => .bind (.draws _) fun id => ?_
  cases id with
  | none => exact .pure _
  | some id =>
    refine .bind (.addButton _) fun button => ?_
    cases button with
    | none => exact .pure _
    | some place => exact .bind (.note _) fun _ => .bind (.modifyDraft _) fun _ => .pure _

lemma style (target : Nat) : ∀ style : CoverStyle, Plugless (style.apply target)
  | .physical => physical target
  | .groupObscure => groupObscure target
  | .remoteOnly => remoteOnly target
  | .switchRelease => switchRelease target
  | .sizeObscure => sizeObscure target

end Plugless

end Making

/-! ## The covering of a panel -/

/-- **Something is added on top of a panel in the making,** and plugs are left alone. -/
structure Workbench.Topped (b b' : Workbench) : Prop where
  draft : b.draft.Topped b'.draft
  pool : b'.session.pool = b.session.pool
  placements : b'.session.placements = b.session.placements

namespace Workbench.Topped

variable {b₀ : Workbench}

/-- What is done without plugs keeps plugs. -/
lemma plugless {act : Making α} (hact : Making.Plugless act) {b : Workbench} (h : b₀.Topped b)
    (hdraft : b₀.draft.Topped (act b).2.draft) : b₀.Topped (act b).2 :=
  ⟨hdraft, (hact b).1.trans h.pool, (hact b).2.trans h.placements⟩

lemma covering (b₀ : Workbench) : Making.Covering b₀.Topped where
  drawn _ h := ⟨h.draft, h.pool, h.placements⟩
  noted _ _ _ h := ⟨h.draft, h.pool, h.placements⟩
  cover hlegal h := h.plugless (.style _ _) (Making.topped_style (d := Workbench.desk _) h.draft hlegal _ rfl)
  trap h := h.plugless .resetTrap (Making.Tops.resetTrap (Workbench.desk _) h.draft _ rfl)

end Workbench.Topped

namespace Cover

/-- **The covering of a panel only adds on top,** whatever the panel is and whatever is drawn. -/
theorem addCoverings_topped (probability : Number) (b : Workbench) :
    b.Topped (addCoverings probability b).2 :=
  ((Workbench.Topped.covering b).keeps_addCoverings probability b ⟨.refl b.draft, rfl, rfl⟩).2

end Cover

end PanelPuzzle
