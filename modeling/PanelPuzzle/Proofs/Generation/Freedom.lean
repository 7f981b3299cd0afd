import PanelPuzzle.Proofs.Generation.Ids
/-!
# Nothing on a puzzle is stuck

An element that is to be moved can be moved by the player, or other elements of its panel do it:
`not_stuck`.  Lids and tiles are told from other rectangles by their place, as covers are made when the
mechanisms of the panel are there.
-/

namespace PanelPuzzle

/-- The elements of a panel besides those with the id of an element. -/
def Panel.others (panel : Panel) (e : Element) : List Element :=
  panel.elements.filter (·.id ≠ e.id)

/-- **An element does not control itself,** for what it has no way to act on does nothing. -/
lemma Element.FreeIn.others {panel : Panel} (hnodup : (panel.elements.map (·.id)).Nodup) {e : Element}
    (he : e ∈ panel.elements) (h : e.FreeIn panel.elements) : e.FreeIn (panel.others e) := by
  refine h.imp_right fun ⟨hnone, hcontrolled⟩ => ⟨hnone, ?_⟩
  have hother : ∀ b ∈ panel.elements, b.method = .tap → b ∈ panel.others e := by
    refine fun b hb hmethod => List.mem_filter.mpr ⟨hb, decide_eq_true fun hid => ?_⟩
    obtain rfl := List.inj_on_of_nodup_map hnodup hb he hid
    cases hnone.symm.trans hmethod
  rcases hcontrolled with hsteered | ⟨b, hb, hshape, hmethod, hrest⟩ | ⟨hshape, hcolor, b, hb, hmethod, ha⟩
  · refine .inl fun step hstep => ?_
    obtain ⟨b, hb, hmethod, hactions⟩ := hsteered step hstep
    exact ⟨b, hother b hb hmethod, hmethod, hactions⟩
  · exact .inr (.inl ⟨b, hother b hb hmethod, hshape, hmethod, hrest⟩)
  · exact .inr (.inr ⟨hshape, hcolor, b, hother b hb hmethod, hmethod, ha⟩)

namespace Generation

variable (config : Config) (draws : Draws)

/-- **What is to be moved** at a place of a panel: a plug that was placed, a switch, a screw, and a lid
or tile, which is a rectangle that comes after the mechanisms of the panel. -/
def IsMovable (k place : Nat) (e : Element) : Prop :=
  e.id ∈ (generate config draws).report.placements.map (·.id) ∨ e.shape = .switch ∨
    e.shape = .screw ∨ e.shape = .rectangle ∧ mechanismCount config draws k ≤ place

variable {config draws}

/-- The ids of each panel are unique, and panels have different ones. -/
lemma nodup_panels : (∀ d ∈ (ended config draws).1.drafts, (d.elements.map (·.id)).Nodup) ∧
    (ended config draws).1.drafts.Pairwise fun d d' =>
      (d.elements.map (·.id)).Disjoint (d'.elements.map (·.id)) := by
  have hnodup := nodup_ids config draws
  rwa [ids_elements, idsOf, List.nodup_flatMap] at hnodup

/-- **An id tells the panel and the element.** -/
lemma eq_of_id_eq {k k' : Nat} {d d' : Draft} (hd : (ended config draws).1.drafts[k]? = some d)
    (hd' : (ended config draws).1.drafts[k']? = some d') {e e' : Element} (he : e ∈ d.elements)
    (he' : e' ∈ d'.elements) (hid : e.id = e'.id) : k = k' ∧ e = e' := by
  have hdisjoint : ∀ {i j : Nat} {d d' : Draft}, (ended config draws).1.drafts[i]? = some d →
      (ended config draws).1.drafts[j]? = some d' → i < j →
      (d.elements.map (·.id)).Disjoint (d'.elements.map (·.id)) := by
    intro i j d d' hd hd' hij
    obtain ⟨hi, rfl⟩ := List.getElem?_eq_some_iff.mp hd
    obtain ⟨hj, rfl⟩ := List.getElem?_eq_some_iff.mp hd'
    exact List.pairwise_iff_getElem.mp nodup_panels.2 i j hi hj hij
  have hmem : e.id ∈ d.elements.map (·.id) := List.mem_map_of_mem he
  have hmem' : e.id ∈ d'.elements.map (·.id) := hid ▸ List.mem_map_of_mem he'
  obtain hlt | rfl | hgt := lt_trichotomy k k'
  · exact absurd hmem' (hdisjoint hd hd' hlt hmem)
  · obtain rfl := Option.some.inj (hd.symm.trans hd')
    exact ⟨rfl, List.inj_on_of_nodup_map (nodup_panels.1 d (List.mem_of_getElem? hd)) he he' hid⟩
  · exact absurd hmem (hdisjoint hd' hd hgt hmem')

/-- **Nothing that is to be moved is stuck.**  The player drags it, or acts on it until it can be
dragged, or other elements of its panel move it or let it be dragged. -/
theorem not_stuck {k place : Nat} {panel : Panel} {e : Element}
    (hpanel : (generate config draws).puzzle.panels[k]? = some panel)
    (he : panel.elements[place]? = some e) (hmovable : IsMovable config draws k place e) :
    e.FreeIn (panel.others e) := by
  have hcourse := (course_ended config draws).1
  rw [panels_generate, List.getElem?_map, Option.map_eq_some_iff] at hpanel
  obtain ⟨d, hd, rfl⟩ := hpanel
  have hmem : e ∈ d.elements := List.mem_of_getElem? he
  have hnodup : (d.elements.map (·.id)).Nodup :=
    nodup_panels.1 d (List.mem_of_getElem? hd)
  refine .others hnodup hmem ?_
  have hshapes : ∀ shape ∈ Phase.movable .finishing, e.shape = shape →
      (shape = .rectangle → mechanismCount config draws k ≤ place) → e.FreeIn d.elements := by
    rintro shape hshape rfl
    exact hcourse.free k d hd place e he hshape
  rcases hmovable with hplaced | hswitch | hscrew | ⟨hrectangle, hplace⟩
  · obtain ⟨q, hq, hid⟩ := List.mem_map.mp hplaced
    rw [placements_generate] at hq
    obtain ⟨-, d', hd', e', he', hid', hfree⟩ := hcourse.placed q hq
    obtain ⟨rfl, rfl⟩ := eq_of_id_eq hd hd' hmem he' (hid.symm.trans hid'.symm)
    exact Option.some.inj (hd.symm.trans hd') ▸ hfree
  · exact hshapes .switch (by decide) hswitch nofun
  · exact hshapes .screw (by decide) hscrew nofun
  · exact hshapes .rectangle (by decide) hrectangle fun _ => hplace

/-- A screw on the first panel of an easy puzzle. -/
theorem not_stuck_screw : ∃ panel e,
    (generate { difficulty := .easy } (.ofWords fun _ => 12345)).puzzle.panels[0]? = some panel ∧
      panel.elements[1]? = some e ∧ e.shape = .screw ∧ e.FreeIn (panel.others e) := by
  have hscrew : (populated { difficulty := .easy } (.ofWords fun _ => 12345) 0).draft.elements[1]?.map
      (·.shape) = some .screw := by decide +kernel
  obtain ⟨made, hmade, hshape⟩ := Option.map_eq_some_iff.mp hscrew
  obtain ⟨panel, e, hpanel, he, hkeeps⟩ := exists_getElem?_generate _ _ (planned_pos _) hmade
  have hscrew : e.shape = .screw := hkeeps.shape_eq.trans hshape
  exact ⟨panel, e, hpanel, he, hscrew, not_stuck hpanel he (.inr (.inr (.inl hscrew)))⟩

end Generation

end PanelPuzzle
