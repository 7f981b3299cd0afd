import PanelPuzzle.Proofs.Cover.Exact
import PanelPuzzle.Proofs.Cover.Turns
import PanelPuzzle.Proofs.Technique.Laying
/-!
# Covers and the lids that they put over something

Buttons, switches and the tiles of a ring get cells of their own, as what techniques make.  A lid does
not: it goes over what it hides.  It contains all cells of that, and takes no others but those of a strip
that is claimed for it.

* `Element.IsLid` — a lid over a rectangle.
* `Desk.Lidded` — one new element is a lid, all others sit in rectangles that were gained.
* `Making.laid_style` — **what each cover leaves.**
-/

namespace PanelPuzzle

/-! ## Lids -/

/-- A rectangle, or what it makes with a strip that was gained. -/
def Rect.GrowsTo (r whole : Rect) (g g' : Grid) : Prop :=
  whole = r ∨ ∃ strip, g.Gained g' strip ∧
    ∀ x y, whole.covers x y = (r.covers x y || strip.covers x y)

/-- **A lid over a rectangle** contains it, and lies in what the rectangle makes at most with a strip that
was gained. -/
def Element.IsLid (e : Element) (r : Rect) (g g' : Grid) : Prop :=
  ∃ s ∈ e.extent?, r.extent.Within 0 s ∧ ∃ whole, r.GrowsTo whole g g' ∧ s.Within 0 whole.extent

namespace Grid

variable {g g' g'' : Grid} {r : Rect}

/-- What is gained later is gained. -/
lemma Gained.since (h : g'.Gained g'' r) (hgrows : g.Grows g') : g.Gained g'' r := by
  refine ⟨?_, hgrows.isFree h.free⟩
  have hlength := hgrows.claims_isPrefix.length_le
  have hclaimed := h.claimed
  rw [← Nat.add_sub_cancel' hlength, ← List.drop_drop] at hclaimed
  exact List.mem_of_mem_drop hclaimed

end Grid

lemma Element.IsLid.grow {e : Element} {r : Rect} {g g' g'' : Grid} (h : e.IsLid r g g')
    (hgrows : g'.Grows g'') : e.IsLid r g g'' := by
  obtain ⟨s, hs, hcontains, whole, hwhole, hwithin⟩ := h
  refine ⟨s, hs, hcontains, whole, ?_, hwithin⟩
  exact hwhole.imp_right fun ⟨strip, hstrip, hcells⟩ => ⟨strip, hstrip.grow hgrows, hcells⟩

namespace Desk

/-- **A desk is laid but for a lid** since a draft. -/
structure Lidded (d₀ : Draft) (r : Rect) (d : Desk) : Prop where
  orderly : d.Orderly
  grows : d₀.grid.Grows d.draft.grid
  ids : d₀.elements.map (·.id) <+: d.elements.map (·.id)
  lid : ∃ place lid, d₀.elements.length ≤ place ∧ d.elements[place]? = some lid ∧
    lid.IsLid r d₀.grid d.draft.grid ∧
    ∀ place' e, d₀.elements.length ≤ place' → place' ≠ place → d.elements[place']? = some e →
      ∃ s, d₀.grid.Gained d.draft.grid s ∧ e.Sits s

variable {d₀ : Draft} {d d' : Desk} {r : Rect}

/-- **A lid is put on top** of what is laid. -/
lemma Laid.lid (h : Laid d₀ d) {lid : Element} (hlid : lid.IsLid r d₀.grid d.draft.grid) :
    Lidded d₀ r (d.push lid) where
  orderly := ⟨h.orderly.sized, h.orderly.footprints⟩
  grows := h.grows
  ids := h.ids_push lid
  lid := by
    refine ⟨d.elements.length, lid, h.length_le, List.getElem?_concat_length, hlid, ?_⟩
    intro place' e hle hne he
    change (d.elements ++ [lid])[place']? = some e at he
    have hlt : place' < d.elements.length := by
      have hlength := (List.getElem?_eq_some_iff.mp he).1
      rw [List.length_append, List.length_singleton] at hlength
      omega
    rw [List.getElem?_append_left hlt] at he
    exact h.sits place' e hle he

/-- What is laid on top of elements that stay as they are. -/
lemma Lidded.lay (h : Lidded d₀ r d) (hlaid : Laid d.draft d') (hstay : d.elements <+: d'.elements) :
    Lidded d₀ r d' where
  orderly := hlaid.orderly
  grows := h.grows.trans hlaid.grows
  ids := h.ids.trans hlaid.ids
  lid := by
    obtain ⟨place, lid, hplace, hat, hlid, hothers⟩ := h.lid
    have hsame : ∀ {i}, i < d.elements.length → d'.elements[i]? = d.elements[i]? := fun hi => by
      obtain ⟨more, hmore⟩ := hstay
      rw [← hmore, List.getElem?_append_left hi]
    refine ⟨place, lid, hplace, (hsame (List.getElem?_eq_some_iff.mp hat).1).trans hat,
      hlid.grow hlaid.grows, fun place' e hle hne he => ?_⟩
    rcases Nat.lt_or_ge place' d.elements.length with hlt | hge
    · obtain ⟨s, hs, hsits⟩ := hothers place' e hle hne (hsame hlt ▸ he)
      exact ⟨s, hs.grow hlaid.grows, hsits⟩
    · obtain ⟨s, hs, hsits⟩ := hlaid.sits place' e hge he
      exact ⟨s, hs.since h.grows, hsits⟩

end Desk

namespace Making

open Cover Desk

variable {d₀ : Draft} {d d' : Desk}

/-- A tile over a rectangle, enlarged at most by a strip, is a lid. -/
lemma isLid_of_isTile {e : Element} {r whole : Rect} {g g' : Grid} (h : e.IsTile whole)
    (hwhole : whole.inBounds = true) (hgrows : r.GrowsTo whole g g')
    (hcontains : r.extent.Within 0 whole.extent) : e.IsLid r g g' :=
  ⟨_, h.extent?_eq hwhole, hcontains, whole, hgrows, .refl le_rfl _⟩

/-- **A single lid,** and remote controls for it. -/
lemma laid_physical (hd : d.Orderly) {target : Nat} :
    Works d (Cover.physical target) fun _ d' => Laid d.draft d' ∨
      ∃ c ∈ d.draft.coverables[target]?, Lidded d.draft c.footprint d' := by
  refine .draft ?_
  cases hc : d.draft.coverables[target]? with
  | none => exact .pure (.inl (.refl hd))
  | some c =>
    have hproper := hd.footprints c (List.mem_of_getElem? hc)
    refine .newTile fun plain _ _ htile => .skip .randomColor fun color _ => ?_
    refine .skip still_chooseGate fun gate _ => .push ?_
    have hlid : ∀ {lid : Element}, lid.IsTile c.footprint →
        Lidded d.draft c.footprint (d.tick.push lid) := fun htile => (Laid.refl hd).tick.lid
        (isLid_of_isTile htile hproper.inBounds (.inl rfl) (.refl le_rfl _))
    obtain ⟨hshape, hwidth, hheight, hx, hy⟩ := htile
    cases gate with
    | remote =>
      refine .addControllers ?_ fun r grid color hslot hclaims hw hh => .pure (.inr ⟨c, rfl, ?_⟩)
      · refine .modifyDraft (.pure (.inr ⟨c, rfl, ?_⟩))
        rw [alter_modifyElement_push]
        exact hlid ⟨hshape, hwidth, hheight, hx, hy⟩
      · have horderly : ∀ lid, (d.tick.push lid).Orderly := fun _ => ⟨hd.sized, hd.footprints⟩
        refine Lidded.lay ?_ (Laid.control (.refl (horderly _)) hclaims hw hh _ _)
          (List.prefix_append _ _)
        exact hlid ⟨hshape, hwidth, hheight, hx, hy⟩
    | drag => exact .pure (.inr ⟨c, rfl, hlid ⟨hshape, hwidth, hheight, hx, hy⟩⟩)
    | tap => exact .pure (.inr ⟨c, rfl, hlid ⟨hshape, hwidth, hheight, hx, hy⟩⟩)
    | rotate => exact .pure (.inr ⟨c, rfl, hlid ⟨hshape, hwidth, hheight, hx, hy⟩⟩)

/-- What a strip adds to a rectangle. -/
lemma strips_spec {r : Rect} {pair : Rect × Rect} (hpair : pair ∈ strips r) :
    (∀ x y, pair.2.covers x y = (r.covers x y || pair.1.covers x y)) ∧
      r.extent.Within 0 pair.2.extent := by
  have hcells : ∀ {a b c : Bool}, (a = true ↔ b = true ∨ c = true) → a = (b || c) := fun h => by
    rw [Bool.eq_iff_iff, Bool.or_eq_true]
    exact h
  simp only [strips, List.mem_append, List.mem_cons, List.not_mem_nil, or_false] at hpair
  rcases hpair with ((rfl | rfl) | hleft) | hup
  · exact ⟨fun x y => hcells (by simp only [Rect.covers_iff]; omega),
      Rect.extent_within le_rfl (by dsimp only; omega) le_rfl le_rfl⟩
  · exact ⟨fun x y => hcells (by simp only [Rect.covers_iff]; omega),
      Rect.extent_within le_rfl le_rfl le_rfl (by dsimp only; omega)⟩
  · split at hleft
    · obtain rfl := List.mem_singleton.mp hleft
      exact ⟨fun x y => hcells (by simp only [Rect.covers_iff]; omega),
        Rect.extent_within (Nat.sub_le _ _) (by dsimp only; omega) le_rfl le_rfl⟩
    · cases hleft
  · split at hup
    · obtain rfl := List.mem_singleton.mp hup
      exact ⟨fun x y => hcells (by simp only [Rect.covers_iff]; omega),
        Rect.extent_within le_rfl le_rfl (Nat.sub_le _ _) (by dsimp only; omega)⟩
    · cases hup

/-- **A switch is enlarged** at most by a strip that is claimed. -/
lemma laid_enlarge (hd : Laid d₀ d) {r : Rect} (hr : r.Proper) :
    Works d (Cover.enlarge r) fun whole d' => Laid d₀ d' ∧ whole.inBounds = true ∧
      r.GrowsTo whole d₀.grid d'.draft.grid ∧ r.extent.Within 0 whole.extent := by
  refine .draft ?_
  dsimp only
  cases hfound : (strips r).find? fun pair => d.draft.grid.isFree pair.1 with
  | none => exact .pure ⟨hd, hr.inBounds, .inl rfl, .refl le_rfl _⟩
  | some found =>
    have hfree : d.draft.grid.isFree found.1 = true := by simpa using List.find?_some hfound
    have hmem := List.mem_of_find?_eq_some hfound
    obtain ⟨hcells, hcontains⟩ := strips_spec hmem
    refine .skip (.note _) fun _ _ => .claim hfree fun grid hclaims => .pure ⟨hd.claim hclaims, ?_⟩
    have hwhole := proper_strips hr hmem (Grid.inBounds_of_isFree hfree)
    exact ⟨hwhole.inBounds, .inr ⟨found.1, (hd.on hclaims).gained, hcells⟩, hcontains⟩

/-- **A ring of tiles,** each on cells of its own. -/
lemma laid_placeRing (color : UInt8) : ∀ (ring : List Rect) {d : Desk}, Laid d₀ d →
    (∀ r ∈ ring, r.Proper ∧ d.draft.grid.isFree r = true) → ring.Pairwise Rect.Apart →
      Works d (Cover.placeRing color ring) fun _ d' => Laid d₀ d'
  | [], _, hd, _, _ => .pure hd
  | r :: others, d, hd, hring, hapart => by
    obtain ⟨⟨hproper, hfree⟩, hothers⟩ := List.forall_mem_cons.mp hring
    obtain ⟨haway, hrest⟩ := List.pairwise_cons.mp hapart
    refine .claim hfree fun grid hclaims => .newDraggable fun tile _ _ htile => .push ?_
    have hlaid := ((hd.on hclaims).add (htile.sits hproper)).toLaid
    refine laid_placeRing color others hlaid (fun s hs => ⟨(hothers s hs).1, ?_⟩) hrest
    change grid.isFree s = true
    rw [hclaims.grid_eq]
    exact Grid.isFree_claim hproper.inBounds (hothers s hs).2 (haway s hs)

/-- **A ring and a lid,** or a lid that is too large. -/
lemma laid_groupObscure (hd : d.Orderly) {target : Nat} :
    Works d (Cover.groupObscure target) fun _ d' => Laid d.draft d' ∨
      ∃ c ∈ d.draft.coverables[target]?, Lidded d.draft c.footprint d' := by
  refine .draft ?_
  cases hc : d.draft.coverables[target]? with
  | none => exact .pure (.inl (.refl hd))
  | some c =>
    have hproper := hd.footprints c (List.mem_of_getElem? hc)
    refine .skip .randomColor fun color _ => ?_
    dsimp only
    split
    · refine .bind (laid_enlarge (.refl hd) hproper) fun whole d₁ h => ?_
      obtain ⟨hd₁, hwhole, hgrows, hcontains⟩ := h
      refine .newDraggable fun lid _ _ htile => .push (.pure (.inr ⟨c, rfl, hd₁.tick.lid ?_⟩))
      exact isLid_of_isTile htile hwhole hgrows hcontains
    · refine .draft ?_
      split
      · exact .pure (.inl (.refl hd))
      · have hring : ∀ r ∈ ringAround d.draft.grid c.footprint,
            r.Proper ∧ d.draft.grid.isFree r = true := fun r hr =>
          ⟨proper_ringAround hproper r hr, (List.mem_filter.mp hr).2⟩
        refine .bind (laid_placeRing color _ (.refl hd) hring (ringAround_pairwise _ _)) ?_
        intro _ d₁ hd₁
        refine .newDraggable fun lid _ _ htile => .push (.pure (.inr ⟨c, rfl, hd₁.tick.lid ?_⟩))
        exact isLid_of_isTile htile hproper.inBounds (.inl rfl) (.refl le_rfl _)

/-! ## Other covers -/

namespace Keeping

lemma takeOver (target source : Nat) : Keeping (Laid d₀) (Cover.takeOver target source) :=
  .bind (modifyMethod source _ (fun _ => rfl) fun _ _ h => h.alike rfl rfl rfl rfl rfl) fun _ =>
    modifyDraft fun _ hd => hd.modifyCoverable target fun _ => rfl

lemma remoteOnly (target : Nat) : Keeping (Laid d₀) (Cover.remoteOnly target) := by
  refine fun d hd => .draft ?_
  cases d.draft.sourceOf? target with
  | none => exact .pure hd
  | some found =>
    refine .bind (addControllers found.2.id d hd) fun controlled d' hd' => ?_
    split
    · exact .bind (takeOver _ _ d' hd') fun _ _ h => .pure h
    · exact .pure hd'

lemma switchRelease (target : Nat) : Keeping (Laid d₀) (Cover.switchRelease target) := by
  refine fun d hd => .draft ?_
  cases d.draft.sourceOf? target with
  | none => exact .pure hd
  | some found =>
    refine .allocate (fun _ => .pure hd) fun r grid hclaims hw hh => .newSwitch fun color => ?_
    have hon := hd.on hclaims
    have hswitch := sits_newSwitch (d := d.withGrid grid) hon.inBounds hw hh 1 color
    refine .skip (.note _) fun _ _ => .push (.modifyDraft ?_)
    refine .bind (takeOver _ _ _ ?_) fun _ _ h => .pure h
    refine Laid.congr (hon.add ?_).toLaid rfl rfl rfl fun _ hp => hp
    exact hswitch.alike rfl rfl rfl rfl rfl

lemma resetTrap : Keeping (Laid d₀) Cover.resetTrap := by
  refine fun d hd => .draft (.skip (.choose _) fun chosen _ => ?_)
  cases chosen with
  | none => exact .pure hd
  | some id =>
    refine .bind (addButton (.reset id) d hd) fun button d' hd' => ?_
    cases button with
    | none => exact .pure hd'
    | some place =>
      refine .skip (.note _) fun _ _ => .modifyDraft (.pure ?_)
      exact hd'.congr rfl rfl rfl fun _ hp => hp

end Keeping

/-- **A wrong size** is that of an earlier element; only the button is new. -/
lemma laid_sizeObscure (hd : d.Orderly) (target : Nat) :
    Works d (Cover.sizeObscure target) fun _ d' => Laid d.draft d' := by
  refine .draft ?_
  cases hc : d.draft.coverables[target]? with
  | none => exact .pure (.refl hd)
  | some c =>
    cases hsource : d.draft.sourceOf? target with
    | none => exact .pure (.refl hd)
    | some found =>
      have hplace := (List.getElem?_eq_some_iff.mp (Draft.mem_of_sourceOf? hsource)).1
      refine .skip (.choose _) fun size _ => ?_
      cases size with
      | none => exact .pure (.refl hd)
      | some size =>
        refine .bind (Keeping.addButton (.size found.2.id) d (.refl hd)) fun button d' hd' => ?_
        cases button with
        | none => exact .pure hd'
        | some place =>
          refine .modifyDraft (.modifyDraft (.pure (Laid.modifyCoverable ?_ target fun _ => rfl)))
          exact hd'.modifyElement (fun _ => rfl) fun hle => absurd hplace (Nat.not_lt.mpr hle)

/-- **What each cover leaves.** -/
lemma laid_style (hd : d.Orderly) (target : Nat) : ∀ style : CoverStyle,
    Works d (style.apply target) fun _ d' => Laid d.draft d' ∨
      (style = .physical ∨ style = .groupObscure) ∧
        ∃ c ∈ d.draft.coverables[target]?, Lidded d.draft c.footprint d'
  | .physical => (laid_physical hd).weaken fun _ _ h => h.imp_right fun h => ⟨.inl rfl, h⟩
  | .groupObscure => (laid_groupObscure hd).weaken fun _ _ h => h.imp_right fun h => ⟨.inr rfl, h⟩
  | .remoteOnly => (Keeping.remoteOnly target d (.refl hd)).weaken fun _ _ => .inl
  | .switchRelease => (Keeping.switchRelease target d (.refl hd)).weaken fun _ _ => .inl
  | .sizeObscure => (laid_sizeObscure hd target).weaken fun _ _ => .inl

end Making

end PanelPuzzle
