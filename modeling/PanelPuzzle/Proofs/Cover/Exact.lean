import PanelPuzzle.Cover.Coverings
import PanelPuzzle.Proofs.Technique.Exact
/-!
# Covers keep everything exact

Lids and tiles lie over whole cells.  A cover that gives an element another size leaves it in the
middle of its cells, which have room for it: `Making.KeepsExact.sizeObscure`.  That the element is
still the same after a button was added is the only thing here that the invariant does not say.
-/

namespace PanelPuzzle

/-- The source of a coverable is an element of the draft. -/
lemma Draft.mem_of_sourceOf? {d : Draft} {target source : Nat} {e : Element}
    (h : d.sourceOf? target = some (source, e)) : d.elements[source]? = some e := by
  simp only [sourceOf?, Option.bind_eq_bind, Option.bind_eq_some_iff] at h
  obtain ⟨c, -, place, -, e', he, heq⟩ := h
  obtain ⟨rfl, rfl⟩ := Prod.mk.inj (Option.some.inj heq)
  exact he

namespace Cover

/-- A strip in the grid makes a rectangle of the grid larger. -/
lemma proper_strips {r : Rect} (hr : r.Proper) {pair : Rect × Rect} (hpair : pair ∈ strips r)
    (hstrip : pair.1.inBounds = true) : pair.2.Proper := by
  obtain ⟨hbounds, hw, hh⟩ := hr
  obtain ⟨hx, hy⟩ := Rect.inBounds_iff.mp hbounds
  obtain ⟨hx', hy'⟩ := Rect.inBounds_iff.mp hstrip
  simp only [strips, List.mem_append, List.mem_cons, List.not_mem_nil, or_false] at hpair
  rcases hpair with ((rfl | rfl) | hleft) | hup
  · exact ⟨Rect.inBounds_iff.mpr ⟨by dsimp only at *; omega, hy⟩, by dsimp only; omega, hh⟩
  · exact ⟨Rect.inBounds_iff.mpr ⟨hx, by dsimp only at *; omega⟩, hw, by dsimp only; omega⟩
  · split at hleft
    · obtain rfl := List.mem_singleton.mp hleft
      exact ⟨Rect.inBounds_iff.mpr ⟨by dsimp only; omega, hy⟩, by dsimp only; omega, hh⟩
    · cases hleft
  · split at hup
    · obtain rfl := List.mem_singleton.mp hup
      exact ⟨Rect.inBounds_iff.mpr ⟨hx, by dsimp only; omega⟩, hw, by dsimp only; omega⟩
    · cases hup

/-- The tiles of a ring lie in the grid. -/
lemma proper_ringAround {g : Grid} {r : Rect} (hr : r.Proper) : ∀ s ∈ ringAround g r, s.Proper := by
  intro s hs
  obtain ⟨hmem, hfree⟩ := List.mem_filter.mp hs
  obtain ⟨step, -, hstep⟩ := List.mem_filterMap.mp hmem
  simp only [Option.ite_none_right_eq_some, Option.some.injEq] at hstep
  obtain ⟨-, rfl⟩ := hstep
  exact ⟨Grid.inBounds_of_isFree hfree, hr.width_pos, hr.height_pos⟩

/-- **A wrong size is another one of the cycle** and fits the cells. -/
lemma mem_wrongSizes {e : Element} {r : Rect} {size : Number} (h : size ∈ wrongSizes e r) :
    size ∈ sizeCycle ∧ closeTo size e.width = false ∧ (e.shape.footprint size size).1 ≤ r.w ∧
      (e.shape.footprint size size).2 ≤ r.h := by
  have hall : ∀ size ∈ wrongSizes e r, size ∈ sizeCycle ∧ closeTo size e.width = false ∧
      (e.shape.footprint size size).1 ≤ r.w ∧ (e.shape.footprint size size).2 ≤ r.h := by
    unfold wrongSizes
    refine List.foldlRecOn (motive := fun sizes => ∀ size ∈ sizes, size ∈ sizeCycle ∧
      closeTo size e.width = false ∧ (e.shape.footprint size size).1 ≤ r.w ∧
      (e.shape.footprint size size).2 ≤ r.h)
      sizeCycle _ (fun _ h => absurd h List.not_mem_nil) fun sizes hsizes next hnext => ?_
    dsimp only
    split_ifs with hskip hfits
    · exact hsizes
    · have hother := Bool.eq_false_iff.mpr fun hclose => hskip (Bool.or_eq_true_iff.mpr (.inl hclose))
      exact List.forall_mem_append.mpr
        ⟨hsizes, List.forall_mem_singleton.mpr ⟨hnext, hother, hfits⟩⟩
    · exact hsizes
  exact hall size h

lemma sizes_sizeCycle : ∀ size ∈ sizeCycle, size ∈ Side.sizes := by
  simp [sizeCycle, Side.sizes]

/-- A lid with its gate is exact. -/
lemma exact_fit {lid : Element} (h : lid.Exact) (gate : Gate) : (gate.fit lid).Exact := by
  cases gate with
  | remote => exact h
  | drag => exact h.interact _ _ _
  | tap => exact (h.interact _ _ _).release
  | rotate => exact (h.interact _ _ _).release

/-- **A tile over whole cells of the grid** is exact. -/
lemma keeps_newTile {r : Rect} (hr : r.Proper) :
    Keeps Session.Exact (newTile r) Element.Exact := by
  obtain ⟨hx, hy⟩ := Rect.inBounds_iff.mp hr.inBounds
  refine .bind (Session.keeps_newElement _ _ _) fun plain hplain => .pure ?_
  have hcornered := hplain.exact_cornered hr.inBounds
    (Side.fits_whole r.w (by omega) hr.width_pos) (Side.fits_whole r.h (by omega) hr.height_pos)
  exact hcornered.elevate hplain.target_none .raised

lemma keeps_newDraggable {r : Rect} (hr : r.Proper) (color : UInt8) :
    Keeps Session.Exact (newDraggable r color) Element.Exact := by
  refine .bind (keeps_newTile hr) fun plain hplain => .pure ?_
  exact (hplain.look _ _ _ _).interact _ _ _

end Cover

namespace Making.KeepsExact

open Cover

/-! ## Lids and tiles -/

lemma chooseGate : KeepsExact Cover.chooseGate := by
  refine bind draft fun d _ => ?_
  extract_lets gated
  have hgated : ∀ remote, KeepsExact (gated remote) := by
    intro remote
    unfold gated
    split
    · exact done _
    · exact bind (draws _) fun number _ => done _
  split
  · exact bind (sessionDraws _) fun remote _ => hgated remote
  · exact bind (done _) fun remote _ => hgated remote

lemma physical (target : Nat) : KeepsExact (Cover.physical target) := by
  refine bind draft fun d hd => ?_
  cases hc : d.coverables[target]? with
  | none => exact done _
  | some c =>
    have hproper := hd.footprints c (List.mem_of_getElem? hc)
    refine bind (session (keeps_newTile hproper)) fun plain hplain => ?_
    refine bind (sessionDraws _) fun color _ => bind chooseGate fun gate _ => ?_
    have hlid := exact_fit (hplain.look (.plain color) plain.rotation plain.method plain.comparison) gate
    refine bind (push hlid) fun place _ => ?_
    extract_lets answered
    split
    · refine bind (addControllers hlid.regular.isElementId) fun controlled _ => ?_
      split
      · exact bind (modifyElement place fun e he => he.interact _ _ _) fun _ _ => done _
      · exact done _
    · exact done _

lemma claim (r : Rect) : KeepsExact (Making.modifyDraft (·.claim r)) :=
  modifyDraft fun _ hd => hd.withGrid _

lemma enlarge {r : Rect} (hr : r.Proper) : KeepsExact (Cover.enlarge r) Rect.Proper := by
  refine bind draft fun d _ => ?_
  dsimp only
  cases hfound : (strips r).find? fun pair => d.grid.isFree pair.1 with
  | none => exact pure hr
  | some found =>
    have hfree : d.grid.isFree found.1 = true := by simpa using List.find?_some hfound
    refine bind (note _) fun _ _ => bind (claim _) fun _ _ => pure ?_
    exact proper_strips hr (List.mem_of_find?_eq_some hfound) (Grid.inBounds_of_isFree hfree)

lemma placeRing (color : UInt8) : ∀ {ring : List Rect}, (∀ r ∈ ring, r.Proper) →
    KeepsExact (Cover.placeRing color ring)
  | [], _ => done _
  | r :: others, hring => by
    obtain ⟨hr, hothers⟩ := List.forall_mem_cons.mp hring
    refine bind (claim r) fun _ _ => bind (session (keeps_newDraggable hr color)) fun tile htile => ?_
    exact bind (push htile) fun _ _ => placeRing color hothers

lemma groupObscure (target : Nat) : KeepsExact (Cover.groupObscure target) := by
  refine bind draft fun d hd => ?_
  cases hc : d.coverables[target]? with
  | none => exact done _
  | some c =>
    have hproper := hd.footprints c (List.mem_of_getElem? hc)
    refine bind (sessionDraws _) fun color _ => ?_
    dsimp only
    split
    · refine bind (enlarge hproper) fun r hr => ?_
      refine bind (session (keeps_newDraggable hr color)) fun lid hlid => ?_
      exact bind (push hlid) fun _ _ => done _
    · refine bind draft fun d' _ => ?_
      split
      · exact done _
      · refine bind (placeRing color (proper_ringAround hproper)) fun _ _ => ?_
        refine bind (session (keeps_newDraggable hproper color)) fun lid hlid => ?_
        exact bind (push hlid) fun _ _ => done _

/-! ## Plugs that are not dragged -/

lemma takeOver (target source : Nat) : KeepsExact (Cover.takeOver target source) :=
  bind (modifyElement source fun _ he => he.look _ _ _ _) fun _ _ =>
    modifyCoverable target fun _ => rfl

lemma remoteOnly (target : Nat) : KeepsExact (Cover.remoteOnly target) := by
  refine bind draft fun d hd => ?_
  cases hsource : d.sourceOf? target with
  | none => exact done _
  | some found =>
    have he := hd.elements found.2 (List.mem_of_getElem? (Draft.mem_of_sourceOf? hsource))
    refine bind (addControllers he.regular.isElementId) fun controlled _ => ?_
    split
    · exact bind (takeOver _ _) fun _ _ => done _
    · exact done _

lemma switchRelease (target : Nat) : KeepsExact (Cover.switchRelease target) := by
  refine bind draft fun d hd => ?_
  cases hsource : d.sourceOf? target with
  | none => exact done _
  | some found =>
    have he := hd.elements found.2 (List.mem_of_getElem? (Draft.mem_of_sourceOf? hsource))
    refine bind allocateSwitch fun room hroom => ?_
    cases room with
    | none => exact done _
    | some r =>
      refine bind (newSwitch (hroom r rfl) 1) fun plain hplain => bind (note _) fun _ _ => ?_
      have hswitch := hplain.addAction (Action.exact_release he.regular.isElementId)
      refine bind (push hswitch) fun _ _ => ?_
      refine bind (modifyDraft fun d hd => ⟨hd.theme, hd.elements, hd.footprints⟩) fun _ _ => ?_
      exact bind (takeOver _ _) fun _ _ => done _

/-! ## Wrong sizes and traps -/

/-- The element at a place has a shape. -/
def ShapeAt (place : Nat) (shape : Shape) (b : Workbench) : Prop :=
  b.draft.elements[place]?.map Element.shape = some shape

/-- What happens in the session leaves the elements alone. -/
lemma keeps_shapeAt {α : Type} (place : Nat) (shape : Shape) (act : StateM Session α) :
    Keeps (ShapeAt place shape) (liftM act : Making α) fun _ => True :=
  fun _ hb => ⟨trivial, hb⟩

/-- A button leaves the elements that are there in their places. -/
lemma addButton_keeps_shapeAt (action : Action) (place : Nat) (shape : Shape) :
    Keeps (ShapeAt place shape) (Remote.addButton action) fun _ => True := by
  have hallocate : ∀ w h, Keeps (ShapeAt place shape) (Making.allocateCells w h) fun _ => True := by
    intro w h b hb
    obtain ⟨events, hstep⟩ := allocateCells_eq w h b
    rw [hstep]
    exact ⟨trivial, hb⟩
  have hpush : ∀ e, Keeps (ShapeAt place shape) (Making.push e) fun _ => True := by
    intro e b hb
    obtain ⟨e', he', hshape⟩ := Option.map_eq_some_iff.mp hb
    refine ⟨trivial, Option.map_eq_some_iff.mpr ⟨e', ?_, hshape⟩⟩
    exact (List.getElem?_append_left (List.getElem?_eq_some_iff.mp he').1).trans he'
  refine .bind (hallocate _ _) fun found _ => ?_
  cases found with
  | none => exact .pure trivial
  | some r =>
    refine .bind (keeps_shapeAt _ _ _) fun plain _ => .bind (keeps_shapeAt _ _ _) fun color _ => ?_
    exact .bind (hpush _) fun place _ => .pure trivial

/-- An element of another size in the middle of its cells. -/
lemma exact_resized {e e' : Element} (he : e'.Exact) (hshape : e'.shape = e.shape) {r : Rect}
    (hr : r.inBounds = true) {size : Number} (hsize : size ∈ wrongSizes e r) :
    (Element.centered { e' with width := size, height := size } r).Exact := by
  obtain ⟨hcycle, -, hw, hh⟩ := mem_wrongSizes hsize
  rw [← hshape] at hw hh
  have hmem := sizes_sizeCycle size hcycle
  have hregular : Element.Regular { e' with width := size, height := size } :=
    ⟨he.regular.isElementId, he.regular.code, he.regular.flat, he.regular.target_ne,
      he.regular.settled, he.regular.actions⟩
  have hready : Element.Ready { e' with width := size, height := size } := ⟨hregular, hmem, hmem⟩
  exact hready.exact_centered hr hw hh

/-- **A wrong size keeps everything exact.**  What has its place after the button has the shape for
which the size was chosen. -/
lemma sizeObscure (target : Nat) : KeepsExact (Cover.sizeObscure target) := by
  refine withDraft fun b hb => ?_
  cases hc : b.draft.coverables[target]? with
  | none => exact ⟨trivial, hb⟩
  | some c =>
    cases hsource : b.draft.sourceOf? target with
    | none => exact ⟨trivial, hb⟩
    | some found =>
      obtain ⟨source, e⟩ := found
      have hproper := hb.draft.footprints c (List.mem_of_getElem? hc)
      have he := Draft.mem_of_sourceOf? hsource
      have haction : (Action.size e.id).Exact :=
        ⟨(hb.draft.elements e (List.mem_of_getElem? he)).regular.isElementId, rfl⟩
      have hplace : ShapeAt source e.shape b := Option.map_eq_some_iff.mpr ⟨e, he, rfl⟩
      dsimp only
      refine Keeps.of_imp (I := Workbench.Exact) (R := fun _ => True)
        (J := fun b => b.Exact ∧ ShapeAt source e.shape b)
        ?_ (fun _ h => h.1) ⟨hb, hplace⟩
      refine .bind ((choose _).and (keeps_shapeAt _ _ _)) fun chosen hchosen => ?_
      cases chosen with
      | none => exact .pure trivial
      | some size =>
        refine .bind ((addButton haction).and (addButton_keeps_shapeAt _ _ _)) fun button _ => ?_
        cases button with
        | none => exact .pure trivial
        | some place =>
          refine .bind (R := fun _ => True) ?_ fun _ _ => .bind (R := fun _ => True ∧ True) ?_
            fun _ _ => .pure trivial
          · rintro b ⟨hb, hshape⟩
            obtain ⟨e', he', heq⟩ := Option.map_eq_some_iff.mp hshape
            refine ⟨trivial, ⟨hb.draft.modifyElement fun e'' he'' => ?_, hb.session⟩, ?_⟩
            · obtain rfl := Option.some.inj (he'.symm.trans he'')
              have hexact := hb.draft.elements e' (List.mem_of_getElem? he')
              exact exact_resized hexact heq hproper.inBounds (hchosen.1 size rfl)
            · have hmodified := List.getElem?_modify_eq
                (fun e => { e with width := size, height := size }.centered c.footprint) source
                b.draft.elements
              rw [he'] at hmodified
              exact Option.map_eq_some_iff.mpr ⟨_, hmodified, heq⟩
          · exact Keeps.and (modifyCoverable target fun _ => rfl) fun b hb => ⟨trivial, hb⟩

lemma resetTrap : KeepsExact Cover.resetTrap := by
  refine bind draft fun d hd => bind (choose _) fun chosen hchosen => ?_
  cases chosen with
  | none => exact done _
  | some id =>
    obtain ⟨e, he, rfl⟩ := List.mem_map.mp (hchosen id rfl)
    have hid := (hd.elements e (List.mem_filter.mp he).1).regular.isElementId
    refine bind (addButton ⟨hid, rfl⟩) fun button _ => ?_
    cases button with
    | none => exact done _
    | some place =>
      refine bind (note _) fun _ _ => ?_
      refine bind (modifyDraft fun d hd => ⟨hd.theme, hd.elements, hd.footprints⟩) fun _ _ => ?_
      exact done _

/-- **Every cover keeps everything exact.** -/
lemma style (target : Nat) : ∀ style : CoverStyle, KeepsExact (style.apply target)
  | .physical => physical target
  | .groupObscure => groupObscure target
  | .remoteOnly => remoteOnly target
  | .switchRelease => switchRelease target
  | .sizeObscure => sizeObscure target

end Making.KeepsExact

end PanelPuzzle
