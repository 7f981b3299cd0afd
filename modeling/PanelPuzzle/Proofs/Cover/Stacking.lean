import PanelPuzzle.Cover.Coverings
import PanelPuzzle.Proofs.Making.Keeping
/-!
# How covers are stacked

A panel is covered by many covers in a row, of styles that are chosen one by one.  A style is chosen among
those that are legal, and it is applied before anything else happens to the panel; so whoever follows the
covering of a panel need only look at covers that are legal.

`Covering.keeps_addCoverings` — a property that legal covers and traps keep is kept by the covering of a
panel, however it is drawn which covers are applied.
-/

namespace PanelPuzzle

/-- A legal style is one for a coverable that is there. -/
lemma Cover.isLegal_of_mem_legalStyles {d : Draft} {style : CoverStyle} {target : Nat}
    (h : style ∈ legalStyles d target) :
    ∃ c, d.coverables[target]? = some c ∧ style.isLegal d c = true := by
  unfold legalStyles at h
  split at h
  · exact ⟨_, ‹_›, (List.mem_filter.mp h).2⟩
  · exact absurd h List.not_mem_nil

namespace Making

open Cover

variable {α β : Type} {I : Workbench → Prop}

/-- **A property that covers keep,** as long as they are legal, and traps. -/
structure Covering (I : Workbench → Prop) : Prop where
  /-- How far the stream is read does not matter. -/
  drawn : ∀ {b : Workbench} (draws : Draws), I b → I ⟨b.draft, { b.session with draws }⟩
  /-- Nor does it matter that a cover is recorded. -/
  noted : ∀ {b : Workbench} (style : CoverStyle) (c : Coverable) (applied : Bool), I b →
    I (Making.note (if applied then .covered style c.id c.role else .coverImpossible style c.id) b).2
  cover : ∀ {b : Workbench} {style : CoverStyle} {target : Nat}, style ∈ legalStyles b.draft target →
    I b → I (style.apply target b).2
  trap : ∀ {b : Workbench}, I b → I (resetTrap b).2

namespace Covering

lemma keeps_draws (h : Covering I) (draw : StateM Draws α) :
    Keeps I (liftM draw : Making α) fun _ => True :=
  fun b hb => ⟨trivial, h.drawn (draw b.session.draws).2 hb⟩

lemma keeps_sessionDraws (h : Covering I) (draw : StateM Draws α) :
    Keeps I (liftM (liftM draw : StateM Session α) : Making α) fun _ => True := h.keeps_draws draw

lemma keeps_draft : Keeps I Making.draft fun _ => True := fun _ hb => ⟨trivial, hb⟩

lemma keeps_session : Keeps I Making.session fun _ => True := fun _ hb => ⟨trivial, hb⟩

/-- **The style that is chosen is legal** on the draft that it is applied to. -/
lemma keeps_chooseLegal (h : Covering I) {target : Nat} {next : Option CoverStyle → Making α}
    (hnext : ∀ chosen b, (∀ style ∈ chosen, style ∈ legalStyles b.draft target) → I b →
      I (next chosen b).2) :
    Keeps I (Making.draft >>= fun d => liftM (Draws.choose (legalStyles d target)) >>= next)
      fun _ => True :=
  fun b hb => ⟨trivial, hnext _ ⟨b.draft, { b.session with draws := _ }⟩
    (Draws.keeps_choose _ b.session.draws trivial).1 (h.drawn _ hb)⟩

/-- What comes after a step need only be looked at where the step leads. -/
lemma of_bind {act : Making β} {next : β → Making α} {b : Workbench} (hact : I (act b).2)
    (hnext : ∀ a, Keeps I (next a) fun _ => True) : I ((act >>= next) b).2 := (hnext _ _ hact).2

lemma applyNoted (h : Covering I) {b : Workbench} {style : CoverStyle} {target : Nat}
    (hlegal : style ∈ legalStyles b.draft target) (hb : I b) : I (Cover.applyNoted style target b).2 := by
  refine of_bind (h.cover hlegal hb) fun applied => .bind keeps_draft fun d _ => ?_
  split
  · rename_i c _
    have hnote : Keeps I (Making.note (if applied then .covered style c.id c.role
        else .coverImpossible style c.id)) fun _ => True := fun b hb => ⟨trivial, h.noted style c applied hb⟩
    exact .bind hnote fun _ _ => .pure trivial
  · exact .bind (R := fun _ => True) (.pure trivial) fun _ _ => .pure trivial

lemma keeps_stack (h : Covering I) (target : Nat) :
    ∀ count, Keeps I (Cover.stack target count) fun _ => True
  | 0 => .pure trivial
  | count + 1 => by
    refine h.keeps_chooseLegal fun chosen b hchosen hb => ?_
    cases chosen with
    | none => exact hb
    | some style => exact (h.keeps_stack target count _ (h.applyNoted (hchosen style rfl) hb)).2

lemma keeps_coverByChance (h : Covering I) (probability : Number) (target : Nat) :
    Keeps I (Cover.coverByChance probability target) fun _ => True := by
  refine .bind keeps_session fun s _ => ?_
  extract_lets covered
  have hcovered : ∀ wanted, Keeps I (covered wanted) fun _ => True := by
    intro wanted
    unfold covered
    split
    · refine .bind keeps_session fun s _ => .bind (h.keeps_draws _) fun count _ => ?_
      exact h.keeps_stack target count
    · exact .pure trivial
  split
  · exact .bind (R := fun _ => True) (.pure trivial) fun wanted _ => hcovered wanted
  · exact .bind (h.keeps_sessionDraws _) fun wanted _ => hcovered wanted

lemma keeps_coverEach (h : Covering I) (probability : Number) :
    ∀ targets, Keeps I (Cover.coverEach probability targets) fun _ => True
  | [] => .pure trivial
  | target :: targets => .bind (h.keeps_coverByChance probability target) fun _ _ =>
      .bind (h.keeps_coverEach probability targets) fun _ _ => .pure trivial

/-- **The covering of a panel.** -/
lemma keeps_addCoverings (h : Covering I) (probability : Number) :
    Keeps I (Cover.addCoverings probability) fun _ => True := by
  refine .bind keeps_draft fun d _ => .bind (h.keeps_coverEach probability _) fun count _ => ?_
  refine .bind keeps_session fun s _ => .bind (h.keeps_sessionDraws _) fun trapped _ => ?_
  have htrap : Keeps I Cover.resetTrap fun _ => True := fun b hb => ⟨trivial, h.trap hb⟩
  split
  · exact .bind htrap fun _ _ => .pure trivial
  · exact .pure trivial

end Covering

end Making

end PanelPuzzle
