import PanelPuzzle.Proofs.Cover.Claiming
import PanelPuzzle.Proofs.Cover.Stacking
import PanelPuzzle.Proofs.Technique.Turns
/-!
# What covers do to a desk

A cover that takes a plug over is applied only while it is legal: the plug is controlled by nothing yet,
and there is a slot for one more remote mechanism.  Nothing happens between the choice of a style and
its application, so what was checked by the one still holds for the other.

* `Making.works_style` — **a legal cover is turns.**
* `Making.Turning.resetTrap` — so is a trap.
-/

namespace PanelPuzzle

variable {α β : Type} {d d' : Desk}

namespace Making

open Cover Desk

/-! ## Lids and tiles -/

namespace Works

variable {Q : β → Desk → Prop}

/-- A free rectangle is claimed without a search. -/
lemma claim {r : Rect} (hfree : d.draft.grid.isFree r = true) {next : Unit → Making β}
    (h : ∀ grid, d.Claims r grid → Works (d.withGrid grid) (next ()) Q) :
    Works d (Making.modifyDraft (·.claim r) >>= next) Q := by
  obtain ⟨grid, hgrid⟩ : ∃ grid, grid = d.draft.grid.claim r := ⟨_, rfl⟩
  have hclaim : d.draft.claim r = { d.draft with grid } := by
    rw [Draft.claim, hgrid]
  have halter : d.alter (·.claim r) = d.withGrid grid :=
    congrArg (fun draft => d.alter fun _ => draft) hclaim
  refine .modifyDraft ?_
  rw [halter]
  exact h grid ⟨hfree, hgrid⟩

/-- A new tile over the cells of a rectangle. -/
lemma newTile {r : Rect} {next : Element → Making β}
    (h : ∀ e, e.id = d.nextId e.shape → e.actions = [] → e.IsTile r → Works d.tick (next e) Q) :
    Works d (liftM (Cover.newTile r) >>= next) Q :=
  .lift (.newElement (h _ rfl rfl ⟨rfl, rfl, rfl, rfl, rfl⟩))

lemma newDraggable {r : Rect} {color : UInt8} {next : Element → Making β}
    (h : ∀ e, e.id = d.nextId e.shape → e.actions = [] → e.IsTile r → Works d.tick (next e) Q) :
    Works d (liftM (Cover.newDraggable r color) >>= next) Q :=
  .lift (.newTile fun _ hid hactions htile => h _ hid hactions
    ⟨htile.shape_eq, htile.width_eq, htile.height_eq, htile.x_eq, htile.y_eq⟩)

end Works

lemma still_chooseGate : Still Cover.chooseGate := by
  have gated : ∀ remote : Bool, Still (do
      if remote then Pure.pure .remote
      else
        let number ← Draws.below plainGates.length
        Pure.pure (plainGates.getD number .drag) : Making Gate) := fun remote => by
    cases remote with
    | false => exact .bind (.drawn _) fun _ _ => .pure trivial
    | true => exact .pure trivial
  refine .bind .readDraft fun d _ => ?_
  dsimp only
  split
  · exact .bind (.sessionDrawn _) fun remote _ => gated remote
  · exact .bind (R := fun _ => True) (.pure trivial) fun remote _ => gated remote

/-- **A lid** that finds no room for remote controls is a lid that can be dragged. -/
lemma Turning.physical (target : Nat) : Turning (Cover.physical target) := by
  refine fun d _ => .draft ?_
  cases d.draft.coverables[target]? with
  | none => exact .pure .refl
  | some c =>
    refine .newTile fun plain hid hactions _ => .skip .randomColor fun color _ => ?_
    refine .skip still_chooseGate fun gate _ => .push ?_
    have hlid : ∀ {lid : Element} {a : Action}, lid.id = d.nextId lid.shape →
        lid.actions = plain.actions ++ [a] → a.Local lid.id → d.Turns (d.tick.push lid) :=
      fun hid' hactions' ha => .addActing .refl hid' (hactions'.trans (congrArg (· ++ [_]) hactions)) ha
    cases gate with
    | remote =>
      refine .addControllers ?_ fun r grid color hslot hclaims _ _ => .pure (.single ?_)
      · refine .modifyDraft (.pure ?_)
        rw [alter_modifyElement_push]
        exact .add .refl hid hactions
      · exact .lid hid hactions hslot ⟨hclaims.free, hclaims.grid_eq⟩
    | drag => exact .pure (.add .refl hid hactions)
    | tap => exact .pure (hlid hid rfl rfl)
    | rotate => exact .pure (hlid hid rfl rfl)

/-- **A ring of tiles:** each rectangle is still free when its turn comes. -/
lemma works_placeRing (color : UInt8) : ∀ (ring : List Rect) (d : Desk),
    (∀ r ∈ ring, d.draft.grid.isFree r = true) → ring.Pairwise Rect.Apart →
      Works d (Cover.placeRing color ring) fun _ d' => d.Turns d'
  | [], _, _, _ => .pure .refl
  | r :: others, d, hfree, hapart => by
    obtain ⟨hr, hothers⟩ := List.forall_mem_cons.mp hfree
    obtain ⟨haway, hrest⟩ := List.pairwise_cons.mp hapart
    refine .claim hr fun grid hclaims => .newDraggable fun tile hid hactions _ => .push ?_
    refine .weaken (works_placeRing color others _ (fun s hs => ?_) hrest) fun _ _ hturns => ?_
    · change grid.isFree s = true
      rw [hclaims.grid_eq]
      exact Grid.isFree_claim (Grid.inBounds_of_isFree hr) (hothers s hs) (haway s hs)
    · exact .trans (.add (.claim .refl hclaims) hid hactions) hturns

lemma Turning.enlarge (r : Rect) : Turning (Cover.enlarge r) := by
  refine fun d _ => .draft ?_
  dsimp only
  split
  · exact .pure .refl
  · rename_i strip enlarged hfound
    refine .skip (.note _) fun _ _ => .claim ?_ fun grid hclaims => .pure (.claim .refl hclaims)
    simpa using List.find?_some hfound

lemma Turning.groupObscure (target : Nat) : Turning (Cover.groupObscure target) := by
  refine fun d hd => .draft ?_
  cases d.draft.coverables[target]? with
  | none => exact .pure .refl
  | some c =>
    refine .skip .randomColor fun color _ => ?_
    dsimp only
    split
    · refine .bind (Turning.enlarge _ d hd) fun r d' hturns =>
        .newDraggable fun lid hid hactions _ => ?_
      exact .push (.pure (hturns.add hid hactions))
    · refine .draft ?_
      split
      · exact .pure .refl
      · refine .bind (works_placeRing color _ d (fun r hr => (List.mem_filter.mp hr).2)
          (ringAround_pairwise _ _)) fun _ d' hturns => .newDraggable fun lid hid hactions _ => ?_
        exact .push (.pure (hturns.add hid hactions))

/-! ## Plugs that are taken over -/

/-- The element of a coverable is on the desk. -/
lemma sourceAt_of_sourceOf? {target source : Nat} {c : Coverable} {e : Element}
    (hc : d.draft.coverables[target]? = some c) (h : d.draft.sourceOf? target = some (source, e)) :
    d.SourceAt target c source e := by
  simp only [Draft.sourceOf?, hc, Option.bind_eq_bind, Option.bind_eq_some_iff, Option.pure_def,
    Option.some.injEq, Prod.mk.injEq] at h
  obtain ⟨_, rfl, source, hsource, e, he, rfl, rfl⟩ := h
  exact ⟨hc, hsource, he⟩

/-- An element that is taken over is locked, and this is recorded. -/
lemma Works.takeOver {target source : Nat} {next : Unit → Making β} {Q : β → Desk → Prop}
    (h : Works (d.takeOver target source) (next ()) Q) :
    Works d (Cover.takeOver target source >>= next) Q :=
  .assoc (.modifyDraft (.modifyDraft h))

/-- What is known when a plug may be taken over. -/
lemma canTakeOver_iff {draft : Draft} {c : Coverable} (h : canTakeOver draft c = true) :
    c.role = .plug ∧ c.hasRemote = false ∧ draft.hasRemoteSlot = true := by
  simp only [canTakeOver, Bool.and_eq_true, decide_eq_true_eq, Bool.not_eq_true'] at h
  exact ⟨h.1.1.1.1, h.1.2, h.2⟩

lemma works_remoteOnly {target : Nat} {c : Coverable} (hc : d.draft.coverables[target]? = some c)
    (hlegal : canTakeOver d.draft c = true) :
    Works d (Cover.remoteOnly target) fun _ d' => d.Turns d' := by
  obtain ⟨hrole, hremote, -⟩ := canTakeOver_iff hlegal
  refine .draft ?_
  cases hfound : d.draft.sourceOf? target with
  | none => exact .pure .refl
  | some found =>
    have hsource := sourceAt_of_sourceOf? hc hfound
    refine .addControllers (.pure .refl) fun r grid color hslot hclaims _ _ => ?_
    exact .takeOver (.pure (.single (.steer hsource hrole hremote hslot hclaims)))

lemma works_switchRelease {target : Nat} {c : Coverable} (hc : d.draft.coverables[target]? = some c)
    (hlegal : canTakeOver d.draft c = true) :
    Works d (Cover.switchRelease target) fun _ d' => d.Turns d' := by
  obtain ⟨hrole, hremote, hslot⟩ := canTakeOver_iff hlegal
  refine .draft ?_
  cases hfound : d.draft.sourceOf? target with
  | none => exact .pure .refl
  | some found =>
    obtain ⟨hcoverable, hsource, helement⟩ := sourceAt_of_sourceOf? hc hfound
    refine .allocate (fun _ => .pure .refl) fun r grid hclaims _ _ => .newSwitch fun colors => ?_
    refine .skip (.note _) fun _ _ => .push (.modifyDraft (.takeOver (.pure ?_)))
    exact .tail (.claim .refl hclaims) (.release ⟨hcoverable, hsource, helement⟩ hrole hremote hslot
      rfl rfl rfl rfl)

/-! ## Wrong sizes and traps -/

lemma works_sizeObscure {target : Nat} {c : Coverable} (hc : d.draft.coverables[target]? = some c)
    (hlegal : canObscureSize d.draft c = true) :
    Works d (Cover.sizeObscure target) fun _ d' => d.Turns d' := by
  have hsize : c.sizeObscured = false := by
    simp only [canObscureSize, Bool.and_eq_true, Bool.not_eq_true'] at hlegal
    exact hlegal.1.1
  refine .draft ?_
  rw [hc]
  cases hfound : d.draft.sourceOf? target with
  | none => exact .pure .refl
  | some found =>
    obtain ⟨hcoverable, hsource, helement⟩ := sourceAt_of_sourceOf? hc hfound
    refine .skip (.choose _) fun size _ => ?_
    cases size with
    | none => exact .pure .refl
    | some size =>
      refine .addButton (fun _ => .pure .refl) fun r grid button hclaims hid hactions _ => ?_
      refine .modifyDraft (.modifyDraft (.pure ?_))
      exact .tail (.claim .refl hclaims)
        (.obscure ⟨hcoverable, hsource, helement⟩ hsize hid hactions)

lemma Turning.resetTrap : Turning Cover.resetTrap := by
  refine fun d _ => .draft (.skip (.choose _) fun chosen hchosen => ?_)
  cases chosen with
  | none => exact .pure .refl
  | some id =>
    refine .addButton (fun _ => .pure .refl) fun r grid button hclaims hid hactions _ => ?_
    refine .skip (.note _) fun _ _ => .modifyDraft (.pure ?_)
    exact .tail (.claim .refl hclaims) (.trap (hchosen id rfl) hid hactions)

/-! ## All covers -/

/-- **A style that is legal** is turns. -/
lemma works_style (hd : d.Sound) {style : CoverStyle} {target : Nat}
    (hlegal : style ∈ legalStyles d.draft target) :
    Works d (style.apply target) fun _ d' => d.Turns d' := by
  obtain ⟨c, hc, hlegal'⟩ := isLegal_of_mem_legalStyles hlegal
  cases style with
  | physical => exact Turning.physical target d hd
  | groupObscure => exact Turning.groupObscure target d hd
  | remoteOnly => exact works_remoteOnly hc hlegal'
  | switchRelease => exact works_switchRelease hc hlegal'
  | sizeObscure => exact works_sizeObscure hc hlegal'

end Making

end PanelPuzzle
