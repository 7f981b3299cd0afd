import PanelPuzzle.Proofs.Cover.Stacking
import PanelPuzzle.Proofs.Technique.Moves
/-!
# Covers make moves

A cover may lock an element only with controls for it on the panel.  A lid for remote controls is
made without a way to act on it; that is the same as locking a lid that could be dragged.  Only plugs
are taken over, and a plug on the panel can be locked.
-/

namespace PanelPuzzle

variable {α β : Type} {v : Scene}

/-! ## Lids and tiles -/

/-- The next element of a scene, which is a rectangle that nobody acts on yet. -/
structure Scene.NewTile (v : Scene) (e : Element) : Prop where
  id_eq : e.id = v.nextId e.shape
  method : e.method = .none
  lockable : e.Lockable

namespace Scene.NewTile

variable {e : Element}

lemma look (he : v.NewTile e) (color : Color) : v.NewTile { e with color } :=
  ⟨he.id_eq, he.method, ⟨⟨he.lockable.comparison, he.lockable.change⟩, he.lockable.actions⟩⟩

/-- A lid that can be dragged. -/
lemma drag (he : v.NewTile e) : (e.interact .drag .none 0).Lockable :=
  ⟨⟨he.lockable.comparison, Change.noConfusion⟩, he.lockable.actions⟩

lemma move_drag (he : v.NewTile e) : v.Move .finishing (v.tick.push (e.interact .drag .none 0)) := by
  refine .add he.id_eq he.drag.toAside ?_ fun _ => .inl rfl
  rw [Scene.Reaches, he.drag.actions]
  exact List.forall_mem_nil _

/-- A lid that lets itself be dragged once the player has acted on it. -/
lemma move_release (he : v.NewTile e) {method : Method} (hmethod : method = .tap ∨ method = .hold)
    {change : Change} (hchange : change ≠ .move) (target : Int32) :
    v.Move .finishing
      (v.tick.push ((e.interact method change target).addAction (.release e.id))) := by
  refine .add he.id_eq ⟨he.lockable.comparison, hchange⟩ ?_ fun _ => .inr ⟨hmethod, .inr ?_⟩
  · change ∀ a ∈ e.actions ++ [Action.release e.id], _
    rw [he.lockable.actions]
    exact List.forall_mem_singleton.mpr (.inl rfl)
  · exact List.mem_append_right _ (List.mem_singleton.mpr rfl)

/-- **A lid with its remote controls** is locked. -/
lemma leads_remote (he : v.NewTile e) (r : Rect) (color : UInt8) :
    v.Leads .finishing
      ((v.tick.push e).build (Scene.quartet r color e.id v.tick.lastId Remote.quartet)) := by
  have hadd : v.Move .finishing (v.tick.push { e with method := .drag }) := by
    refine .add he.id_eq ⟨he.lockable.comparison, he.lockable.change⟩ ?_ fun _ => .inl rfl
    rw [Scene.Reaches, he.lockable.actions]
    exact List.forall_mem_nil _
  have hlocked : ({ e with method := .drag } : Element).locked = e := by
    rw [Element.locked, ← he.method]
  have hsteered := Scene.leads_steered (.single hadd)
    ⟨⟨he.lockable.comparison, he.lockable.change⟩, he.lockable.actions⟩ r color
  rwa [hlocked] at hsteered

end Scene.NewTile

namespace Making

open Cover

namespace Shows

variable {Q : β → Scene → Prop}

lemma newTile {r : Rect} {next : Element → Making β}
    (h : ∀ e, v.NewTile e → Shows v.tick (next e) Q) :
    Shows v (liftM (Cover.newTile r) >>= next) Q :=
  .lift (.newElement (h _ ⟨rfl, rfl, ⟨⟨rfl, Change.noConfusion⟩, rfl⟩⟩))

lemma newDraggable {r : Rect} {color : UInt8} {next : Element → Making β}
    (h : ∀ e, v.Move .finishing (v.tick.push e) → Shows v.tick (next e) Q) :
    Shows v (liftM (Cover.newDraggable r color) >>= next) Q :=
  .lift (.newTile fun _ he => h _ (he.look (.plain color)).move_drag)

end Shows

lemma quiet_chooseGate : Quiet Cover.chooseGate := by
  have gated : ∀ remote : Bool, Quiet (do
      if remote then Pure.pure .remote
      else
        let number ← Draws.below plainGates.length
        Pure.pure (plainGates.getD number .drag) : Making Gate) := fun remote => by
    cases remote with
    | false => exact .bind (.drawn _) fun _ _ => .pure trivial
    | true => exact .pure trivial
  refine .bind .readDraft fun d _ => ?_
  dsimp only
  split
  · exact .bind (.session _) fun remote _ => gated remote
  · exact .bind (R := fun _ => True) (.pure trivial) fun remote _ => gated remote

/-- Looking for a strip beside a switch leaves the scene. -/
lemma quiet_enlarge (r : Rect) : Quiet (Cover.enlarge r) := by
  refine .bind .readDraft fun d _ => ?_
  dsimp only
  split
  · exact .pure trivial
  · refine .bind (.note ⟨rfl, rfl⟩) fun _ _ => .bind (.claim _) fun _ _ => .pure trivial

/-- The element of a coverable is on the scene. -/
lemma mem_of_sourceOf? {d : Draft} (helements : d.elements = v.elements)
    (hcoverables : d.coverables = v.coverables) {target source : Nat} {e : Element}
    (h : d.sourceOf? target = some (source, e)) : ∃ c, v.coverables[target]? = some c ∧
      c.source = some source ∧ v.elements[source]? = some e := by
  simp only [Draft.sourceOf?, hcoverables, helements, Option.bind_eq_bind, Option.bind_eq_some_iff,
    Option.pure_def, Option.some.injEq, Prod.mk.injEq] at h
  obtain ⟨c, hc, source, hsource, e, he, rfl, rfl⟩ := h
  exact ⟨c, hc, hsource, he⟩

namespace Moves

lemma physical (target : Nat) : Moves .finishing (Cover.physical target) := by
  intro v hv
  refine .draft fun d _ _ _ => ?_
  cases d.coverables[target]? with
  | none => exact .pure .refl
  | some c =>
    refine .newTile fun plain hplain => .skip (.session _) fun color _ => ?_
    have hcolored := hplain.look (.plain color)
    generalize ({ plain with color := .plain color } : Element) = lid at *
    refine .skip quiet_chooseGate fun gate _ => .push ?_
    cases gate with
    | remote =>
      refine .addControllers ?_ fun r color => ?_
      · refine .modifyElement (.pure ?_)
        rw [show Gate.remote.fit lid = lid from rfl, Scene.modifyElement_push]
        exact .single hcolored.move_drag
      · exact .pure (hcolored.leads_remote r color)
    | drag => exact .pure (.single hcolored.move_drag)
    | tap => exact .pure (.single (hcolored.move_release (.inl rfl) Change.noConfusion 1))
    | rotate => exact .pure (.single (hcolored.move_release (.inr rfl) Change.noConfusion 2))

lemma placeRing (color : UInt8) : ∀ ring, Moves .finishing (Cover.placeRing color ring)
  | [] => .pure _
  | r :: others => fun v hv => by
    refine .skip (.claim r) fun _ _ => .newDraggable fun tile htile => ?_
    exact .push (.moves (placeRing color others) (.single htile) hv)

lemma groupObscure (target : Nat) : Moves .finishing (Cover.groupObscure target) := by
  intro v hv
  refine .draft fun d _ _ _ => ?_
  cases d.coverables[target]? with
  | none => exact .pure .refl
  | some c =>
    refine .skip (.session _) fun color _ => ?_
    dsimp only
    split
    · refine .skip (quiet_enlarge _) fun r _ => .newDraggable fun lid hlid => ?_
      exact .push (.pure (.single hlid))
    · refine .draft fun d _ _ _ => ?_
      split
      · exact .pure .refl
      · refine .bind (placeRing color _ v hv) fun _ v' hleads => .newDraggable fun lid hlid => ?_
        exact .push (.pure (hleads.tail hlid))

/-! ## Plugs that are taken over -/

/-- An element with controls is locked, and it is recorded that it has them. -/
lemma leads_takeOver {v v' : Scene} (h : v.Leads .finishing v') {source : Nat} {e : Element}
    (he : v'.elements[source]? = some e) (hlockable : e.Lockable)
    (hcontrolled : e.ControlledIn v'.elements) (target : Nat) :
    Shows v' (Cover.takeOver target source) fun _ v'' => v.Leads .finishing v'' := by
  refine .modifyElement (.last (.modifyCoverable (.pure ?_)))
  exact (h.tail (.lock he hlockable hcontrolled)).tail (.mark fun c => ⟨rfl, rfl⟩)

/-- What is known of the element of a coverable that is a plug. -/
lemma lockable_of_source (hv : v.Sound) {target source : Nat} {c : Coverable} {e : Element}
    (hc : v.coverables[target]? = some c) (hrole : c.role = .plug) (hsource : c.source = some source)
    (he : v.elements[source]? = some e) : e.Lockable := by
  obtain ⟨place, e', hplace, he', hlockable⟩ := hv.locks c (List.mem_of_getElem? hc) hrole
  obtain rfl := Option.some.inj (hsource.symm.trans hplace)
  exact Option.some.inj (he.symm.trans he') ▸ hlockable

lemma remoteOnly (hv : v.Sound) {target : Nat}
    (hrole : ∀ c, v.coverables[target]? = some c → c.role = .plug) :
    Shows v (Cover.remoteOnly target) fun _ v' => v.Leads .finishing v' := by
  refine .draft fun d _ helements hcoverables => ?_
  cases hfound : d.sourceOf? target with
  | none => exact .pure .refl
  | some found =>
    obtain ⟨source, e⟩ := found
    obtain ⟨c, hc, hsource, he⟩ := mem_of_sourceOf? helements hcoverables hfound
    refine .addControllers (.pure .refl) fun r color => ?_
    have hid : e.id ∈ v.ids := List.mem_map_of_mem (List.mem_of_getElem? he)
    refine .bind (leads_takeOver (Scene.leads_quartet r color _ hid) (Scene.getElem?_build he _)
      (lockable_of_source hv hc (hrole c hc) hsource he) (.inl ?_) target) fun _ _ hleads => .pure hleads
    exact Scene.steeredIn_build v r color e _

lemma switchRelease (hv : v.Sound) {target : Nat}
    (hrole : ∀ c, v.coverables[target]? = some c → c.role = .plug) :
    Shows v (Cover.switchRelease target) fun _ v' => v.Leads .finishing v' := by
  refine .draft fun d _ helements hcoverables => ?_
  cases hfound : d.sourceOf? target with
  | none => exact .pure .refl
  | some found =>
    obtain ⟨source, e⟩ := found
    obtain ⟨c, hc, hsource, he⟩ := mem_of_sourceOf? helements hcoverables hfound
    refine .skip (.allocate _ _ _) fun found _ => ?_
    cases found with
    | none => exact .pure .refl
    | some r =>
      refine .newSwitch fun plain hplain => .skip (.note ⟨rfl, rfl⟩) fun _ _ => .push ?_
      refine .skip (.modifyDraft fun d => ⟨rfl, rfl, rfl⟩) fun _ _ => ?_
      have hactions : (plain.addAction (.release e.id)).actions = [.release e.id] :=
        congrArg (· ++ [Action.release e.id]) hplain.actions
      have hadd : v.Move .finishing (v.tick.push (plain.addAction (.release e.id))) := by
        refine .add hplain.id_eq ⟨hplain.comparison, hplain.lockable.change⟩ ?_ fun _ =>
          .inr ⟨.inl hplain.method, .inl hplain.shape_eq⟩
        rw [Scene.Reaches, hactions]
        exact List.forall_mem_singleton.mpr
          (.inr (List.mem_map_of_mem (List.mem_of_getElem? he)))
      refine .bind (leads_takeOver (.single hadd) (Scene.getElem?_push he _)
        (lockable_of_source hv hc (hrole c hc) hsource he) (.inr (.inl ?_)) target)
        fun _ _ hleads => .pure hleads
      refine ⟨plain.addAction (.release e.id), ?_, hplain.shape_eq, hplain.method, hplain.change, ?_⟩
      · exact List.mem_append_right _ (List.mem_singleton.mpr rfl)
      · rw [hactions]
        exact List.mem_singleton.mpr rfl

/-! ## Wrong sizes and traps -/

lemma sizeObscure (target : Nat) : Moves .finishing (Cover.sizeObscure target) := by
  intro v hv
  refine .draft fun d _ helements hcoverables => ?_
  split
  · rename_i c source e _ hfound
    obtain ⟨_, -, -, he⟩ := mem_of_sourceOf? helements hcoverables hfound
    refine .skip (.choose _) fun size _ => ?_
    cases size with
    | none => exact .pure .refl
    | some size =>
      refine .addButton (.pure .refl) fun button hbutton => .modifyElement ?_
      refine .modifyCoverable (.pure ?_)
      have hid : e.id ∈ v.ids := List.mem_map_of_mem (List.mem_of_getElem? he)
      exact ((Relation.ReflTransGen.single (hbutton.move hid)).tail (.resize rfl)).tail
        (.mark fun c => ⟨rfl, rfl⟩)
  · exact .pure .refl

lemma resetTrap : Moves .finishing Cover.resetTrap := by
  intro v hv
  refine .draft fun d _ helements _ => .skip (.choose _) fun chosen hchosen => ?_
  cases chosen with
  | none => exact .pure .refl
  | some id =>
    refine .addButton (.pure .refl) fun button hbutton => .skip (.note ⟨rfl, rfl⟩) fun _ _ => ?_
    refine .skip (.modifyDraft fun d => ⟨rfl, rfl, rfl⟩) fun _ _ => .pure (.single (hbutton.move ?_))
    obtain ⟨e, he, rfl⟩ := List.mem_map.mp (hchosen id rfl)
    exact List.mem_map_of_mem (helements ▸ (List.mem_filter.mp he).1)

/-! ## All covers -/

lemma role_of_canTakeOver {d : Draft} {c : Coverable} (h : canTakeOver d c = true) :
    c.role = .plug := by
  simp only [canTakeOver, Bool.and_eq_true, decide_eq_true_eq] at h
  exact h.1.1.1.1

/-- **A style that is legal makes moves.** -/
lemma style (hv : v.Sound) {style : CoverStyle} {target : Nat} {d : Draft}
    (hcoverables : d.coverables = v.coverables) (hlegal : style ∈ legalStyles d target) :
    Shows v (style.apply target) fun _ v' => v.Leads .finishing v' := by
  have hlegal' : ∀ c, v.coverables[target]? = some c → style.isLegal d c = true := by
    intro c hc
    rw [legalStyles, hcoverables, hc] at hlegal
    exact (List.mem_filter.mp hlegal).2
  cases style with
  | physical => exact physical target v hv
  | groupObscure => exact groupObscure target v hv
  | remoteOnly => exact remoteOnly hv fun c hc => role_of_canTakeOver (hlegal' c hc)
  | switchRelease => exact switchRelease hv fun c hc => role_of_canTakeOver (hlegal' c hc)
  | sizeObscure => exact sizeObscure target v hv

lemma covering (hv : v.Sound) : Covering fun b => v.Leads .finishing b.scene where
  drawn _ h := h
  noted style c applied h := by
    cases applied <;> exact h
  cover hlegal h := h.trans (Moves.style (h.sound hv) rfl hlegal _ rfl)
  trap h := h.trans (resetTrap _ (h.sound hv) _ rfl)

/-- **The covering of a panel makes moves.** -/
lemma addCoverings (probability : Number) : Moves .finishing (Cover.addCoverings probability) := by
  rintro _ hv b rfl
  exact ((covering hv).keeps_addCoverings probability b .refl).2

end Moves

end Making

end PanelPuzzle
