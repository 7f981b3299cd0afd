import PanelPuzzle.Proofs.Making.Claiming
import PanelPuzzle.Proofs.Making.Plugs
/-!
# The workbench keeps its elements exact

All elements of a draft are told exactly by their text, and all cells that can be covered lie in the
grid.  `Workbench.Exact` says so, together with what the session promises of waiting plugs.

`Making.KeepsExact` is about one computation, and what it answers.  There is one lemma for each
operation of the workbench, and for remote controls and buttons.
-/

namespace PanelPuzzle

variable {α β : Type}

/-! ## Drafts -/

/-- A rectangle of the grid that has cells. -/
structure Rect.Proper (r : Rect) : Prop where
  inBounds : r.inBounds = true
  width_pos : 1 ≤ r.w
  height_pos : 1 ≤ r.h

/-- All elements of a draft are exact, and all its coverables lie in the grid. -/
structure Draft.Exact (d : Draft) : Prop where
  theme : d.panel.theme ∈ Palette.themes
  elements : ∀ e ∈ d.elements, e.Exact
  footprints : ∀ c ∈ d.coverables, c.footprint.Proper

/-- What is known of a draft and its session at every moment of the making. -/
structure Workbench.Exact (b : Workbench) : Prop where
  draft : b.draft.Exact
  session : b.session.Exact

/-- The cells that an element inside the panel covers. -/
lemma Element.Inside.proper {e : Element} (h : e.Inside) :
    Rect.Proper ⟨e.x.floorNat, e.y.floorNat, e.footprint.1, e.footprint.2⟩ := by
  refine ⟨Rect.inBounds_iff.mpr h.footprint_le, ?_, ?_⟩
  · rw [footprint_fst]
    exact Side.cells_pos _ _ _
  · rw [footprint_snd]
    exact Side.cells_pos _ _ _

namespace Draft.Exact

variable {d : Draft}

lemma new (index : Nat) {theme : String} (h : theme ∈ Palette.themes) : (new index theme).Exact :=
  ⟨h, fun _ he => absurd he List.not_mem_nil, fun _ hc => absurd hc List.not_mem_nil⟩

lemma push (h : d.Exact) {e : Element} (he : e.Exact) : (d.push e).Exact :=
  ⟨h.theme, List.forall_mem_append.mpr ⟨h.elements, List.forall_mem_singleton.mpr he⟩, h.footprints⟩

lemma addCoverable (h : d.Exact) {c : Coverable} (hc : c.footprint.Proper) :
    (d.addCoverable c).Exact :=
  ⟨h.theme, h.elements,
    List.forall_mem_append.mpr ⟨h.footprints, List.forall_mem_singleton.mpr hc⟩⟩

lemma coverElement (h : d.Exact) (place : Nat) (role : CoverRole) :
    (d.coverElement place role).Exact := by
  unfold Draft.coverElement
  split
  · rename_i e he
    exact h.addCoverable (h.elements e (List.mem_of_getElem? he)).inside.proper
  · exact h

lemma withGrid (h : d.Exact) (grid : Grid) : Exact { d with grid } :=
  ⟨h.theme, h.elements, h.footprints⟩

/-- The items of a list after a change at one place. -/
lemma forall_mem_modify {γ : Type} {P : γ → Prop} {items : List γ} {place : Nat} {change : γ → γ}
    (h : ∀ a ∈ items, P a) (hchange : ∀ a, items[place]? = some a → P (change a)) :
    ∀ a ∈ items.modify place change, P a := by
  intro a ha
  obtain ⟨i, hi⟩ := List.mem_iff_getElem?.mp ha
  rw [List.getElem?_modify] at hi
  obtain ⟨b, hb, rfl⟩ := Option.map_eq_some_iff.mp hi
  split
  · rename_i heq
    exact hchange b (heq ▸ hb)
  · exact h b (List.mem_of_getElem? hb)

/-- **A changed element** has to be exact again. -/
lemma modifyElement (h : d.Exact) {place : Nat} {change : Element → Element}
    (hchange : ∀ e, d.elements[place]? = some e → (change e).Exact) :
    (d.modifyElement place change).Exact :=
  ⟨h.theme, forall_mem_modify h.elements hchange, h.footprints⟩

lemma modifyCoverable (h : d.Exact) (place : Nat) {change : Coverable → Coverable}
    (hchange : ∀ c, (change c).footprint = c.footprint) : (d.modifyCoverable place change).Exact := by
  refine ⟨h.theme, h.elements, forall_mem_modify h.footprints fun c hc => ?_⟩
  rw [hchange]
  exact h.footprints c (List.mem_of_getElem? hc)

end Draft.Exact

/-! ## Operations of the workbench -/

namespace Making

/-- **A computation keeps everything exact,** and its answer satisfies `R`. -/
def KeepsExact (act : Making α) (R : α → Prop := fun _ => True) : Prop :=
  Keeps Workbench.Exact act R

namespace KeepsExact

lemma pure {R : α → Prop} {a : α} (h : R a) : KeepsExact (Pure.pure a : Making α) R := Keeps.pure h

/-- Nothing is promised of an answer. -/
lemma done (a : α) : KeepsExact (Pure.pure a : Making α) := pure trivial

lemma bind {R : α → Prop} {Q : β → Prop} {act : Making α} {next : α → Making β}
    (h : KeepsExact act R) (hnext : ∀ a, R a → KeepsExact (next a) Q) :
    KeepsExact (act >>= next) Q := Keeps.bind h hnext

lemma session {R : α → Prop} {act : StateM Session α} (h : Keeps Session.Exact act R) :
    KeepsExact (liftM act : Making α) R :=
  fun b hb => ⟨(h b.session hb.session).1, hb.draft, (h b.session hb.session).2⟩

lemma draws (draw : StateM Draws α) : KeepsExact (liftM draw : Making α) :=
  session (Session.keeps_draws (.always draw))

/-- Draws on behalf of the session. -/
lemma sessionDraws (draw : StateM Draws α) :
    KeepsExact (liftM (liftM draw : StateM Session α) : Making α) :=
  session (Session.keeps_draws (.always draw))

lemma choose (items : List α) :
    KeepsExact (liftM (Draws.choose items) : Making (Option α)) fun found => ∀ a ∈ found, a ∈ items :=
  session (Session.keeps_draws (Draws.keeps_choose items))

lemma draft : KeepsExact Making.draft Draft.Exact := fun _ hb => ⟨hb.draft, hb⟩

/-- The draft that is read is that of the state. -/
lemma withDraft {Q : β → Prop} {next : Draft → Making β}
    (h : ∀ b : Workbench, b.Exact → Q (next b.draft b).1 ∧ (next b.draft b).2.Exact) :
    KeepsExact (Making.draft >>= next) Q := h

lemma readSession : KeepsExact Making.session := fun _ hb => ⟨trivial, hb⟩

lemma note (event : Event) : KeepsExact (Making.note event) :=
  session (Session.keeps_note event)

lemma newElement (shape : Shape) (width height : Number) :
    KeepsExact (liftM (Session.newElement shape width height) : Making Element)
      (Element.Fresh shape width height) :=
  session (Session.keeps_newElement shape width height)

lemma modifyDraft {change : Draft → Draft} (h : ∀ d : Draft, d.Exact → (change d).Exact) :
    KeepsExact (Making.modifyDraft change) :=
  fun b hb => ⟨trivial, h b.draft hb.draft, hb.session⟩

lemma push {e : Element} (h : e.Exact) : KeepsExact (Making.push e) :=
  bind draft fun _ _ => bind (modifyDraft fun _ hd => hd.push h) fun _ _ => done _

lemma cover (place : Nat) (role : CoverRole) : KeepsExact (Making.cover place role) :=
  modifyDraft fun _ hd => hd.coverElement place role

lemma pushCoverable {e : Element} (h : e.Exact) (role : CoverRole) :
    KeepsExact (Making.pushCoverable e role) :=
  bind (push h) fun place _ => cover place role

lemma modifyElement (place : Nat) {change : Element → Element}
    (h : ∀ e : Element, e.Exact → (change e).Exact) :
    KeepsExact (Making.modifyElement place change) :=
  modifyDraft fun _ hd => hd.modifyElement fun e he => h e (hd.elements e (List.mem_of_getElem? he))

lemma modifyCoverable (place : Nat) {change : Coverable → Coverable}
    (h : ∀ c, (change c).footprint = c.footprint) :
    KeepsExact (Making.modifyDraft (·.modifyCoverable place change)) :=
  modifyDraft fun _ hd => hd.modifyCoverable place h

/-- **What is found lies in the grid** and has the size that was looked for. -/
lemma allocateCells (w h : Nat) : KeepsExact (Making.allocateCells w h) fun found =>
    ∀ r ∈ found, r.inBounds = true ∧ r.w = w ∧ r.h = h := by
  intro b hb
  obtain ⟨events, hstep⟩ := allocateCells_eq w h b
  rw [hstep]
  refine ⟨?_, ⟨hb.draft.theme, hb.draft.elements, hb.draft.footprints⟩, hb.session⟩
  simp only [Grid.allocate, Bind.bind, StateT.bind, Pure.pure]
  split
  rename_i found d hfound
  cases found with
  | none => exact fun r hr => absurd hr (Option.not_mem_none r)
  | some s =>
    intro r hr
    obtain rfl : s = r := Option.mem_some_iff.mp hr
    obtain ⟨hfree, hsize⟩ := Grid.findFree_isFree (congrArg Prod.fst hfound)
    exact ⟨Grid.inBounds_of_isFree hfree, hsize⟩

lemma allocate (shape : Shape) (width height : Number) :
    KeepsExact (Making.allocate shape width height) fun found => ∀ r ∈ found,
      r.inBounds = true ∧ r.w = (shape.footprint width height).1 ∧
        r.h = (shape.footprint width height).2 := allocateCells _ _

/-- A socket in the middle of its cells. -/
lemma newSocket (shape : Shape) {width height : Number} (color : UInt8) {r : Rect}
    (hwidth : width ∈ Side.sizes) (hheight : height ∈ Side.sizes)
    (hr : r.inBounds = true ∧ r.w = (shape.footprint width height).1 ∧
      r.h = (shape.footprint width height).2) :
    KeepsExact (Making.newSocket shape width height color r) Element.Exact := by
  refine bind (newElement shape width height) fun plain hplain => pure ?_
  obtain ⟨hbounds, hw, hh⟩ := hr
  rw [← hplain.footprint_eq] at hw hh
  have hcentered := (hplain.ready hwidth hheight).exact_centered hbounds hw.ge hh.ge
  exact (hcentered.elevate hplain.target_none .sunken).look (.plain color) _ _ _

lemma depositPlug (shape : Shape) {width height : Number} (color : UInt8)
    (hwidth : width ∈ Side.sizes) (hheight : height ∈ Side.sizes) :
    KeepsExact (Making.depositPlug shape width height color) :=
  bind draft fun _ _ => session (Session.keeps_depositPlug _ shape color hwidth hheight)

lemma repeatPlacing {place : Bool → Making Bool}
    (h : ∀ first, KeepsExact (place first)) (count : Nat) (first : Bool) :
    KeepsExact (Making.repeatPlacing place count first) := by
  induction count generalizing first with
  | zero => exact done _
  | succ count ih =>
    refine bind (h first) fun placed _ => ?_
    split
    · exact ih false
    · exact done _

/-! ## Remote controls -/

lemma fits_button : Side.Fits (.finite 1) false Remote.buttonSize 1 Remote.buttonOffset := by
  decide +kernel

lemma exact_quartet : ∀ b ∈ Remote.quartet,
    b.column < 2 ∧ b.row < 2 ∧ b.dx.Exact ∧ b.dy.Exact := by
  have hall : Remote.quartet.all
      (fun b => b.column < 2 && b.row < 2 && decide b.dx.Exact && decide b.dy.Exact) = true := by
    decide +kernel
  intro b hb
  simpa [and_assoc] using List.all_eq_true.mp hall b hb

lemma pushQuartet {r : Rect} (hr : r.inBounds = true ∧ r.w = 2 ∧ r.h = 2) (color : UInt8)
    {targetId : String} (hid : isElementId targetId = true) :
    ∀ {buttons : List Remote.QuartetButton}, (∀ b ∈ buttons, b ∈ Remote.quartet) →
      KeepsExact (Remote.pushQuartet r color targetId buttons)
  | [], _ => done _
  | b :: others, hbuttons => by
    obtain ⟨hb, hothers⟩ := List.forall_mem_cons.mp hbuttons
    obtain ⟨hcolumn, hrow, hdx, hdy⟩ := exact_quartet b hb
    obtain ⟨hx, hy⟩ := Rect.inBounds_iff.mp hr.1
    refine bind (newElement _ _ _) fun plain hplain => bind (push ?_) fun _ _ =>
      pushQuartet hr color hid hothers
    have hplaced := hplain.exact_moveTo fits_button fits_button
      (by omega : r.x + b.column + 1 ≤ 8) (by omega : r.y + b.row + 1 ≤ 8)
    have hraised := hplaced.elevate hplain.target_none .raised
    exact ((hraised.look (.plain color) b.rotation _ _).interact .tap .none 0).addAction
      (Action.exact_moveStep hid hdx hdy)

/-- **Remote controls for an element with an id** are exact. -/
lemma addControllers {targetId : String} (hid : isElementId targetId = true) :
    KeepsExact (Remote.addControllers targetId) := by
  refine bind draft fun d _ => ?_
  split
  · exact bind (note _) fun _ _ => done _
  refine bind (allocateCells 2 2) fun found hfound => ?_
  cases found with
  | none => exact bind (note _) fun _ _ => done _
  | some r =>
    refine bind (sessionDraws _) fun color _ => ?_
    refine bind (pushQuartet (hfound r rfl) color hid fun _ hb => hb) fun _ _ => ?_
    refine bind (modifyDraft fun d hd => ⟨hd.theme, hd.elements, hd.footprints⟩) fun _ _ => ?_
    exact bind (note _) fun _ _ => done _

/-- **A button for an exact action** is exact. -/
lemma addButton {action : Action} (haction : action.Exact) :
    KeepsExact (Remote.addButton action) := by
  refine bind (allocate _ _ _) fun found hfound => ?_
  cases found with
  | none => exact done _
  | some r =>
    obtain ⟨hbounds, hw, hh⟩ := hfound r rfl
    have hcells : Shape.circle.footprint Remote.buttonSize Remote.buttonSize = (1, 1) := by
      decide +kernel
    rw [hcells] at hw hh
    obtain ⟨hx, hy⟩ := Rect.inBounds_iff.mp hbounds
    rw [hw] at hx
    rw [hh] at hy
    refine bind (newElement _ _ _) fun plain hplain => ?_
    refine bind (sessionDraws _) fun color _ => ?_
    refine bind (push ?_) fun place _ => done _
    have hplaced := hplain.exact_moveTo fits_button fits_button hx hy
    have hraised := hplaced.elevate hplain.target_none .raised
    exact ((hraised.look (.plain color) _ _ _).interact .tap .none 0).addAction haction

end KeepsExact

end Making

end PanelPuzzle
