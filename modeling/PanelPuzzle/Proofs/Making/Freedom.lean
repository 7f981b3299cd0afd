import PanelPuzzle.Proofs.Making.Moves
/-!
# Nothing that is to be moved gets stuck

`Scene.Free` is what every move keeps: switches, screws, the rectangles that are added once the panel
is populated, and the plugs that were placed on it are free among the elements of the panel.

An element may lose its own method only when others control it (`Move.keeps`), and those that control
it stay as they are, for an element with actions cannot be locked.  So an element that is free stays
free, `Move.freeIn`, and a new one that is to be moved is handy.
-/

namespace PanelPuzzle

/-! ## Elements -/

namespace Element

variable {e e' : Element} {es es' : List Element}

/-- What an element with actions does, it does as long as it keeps what moves keep. -/
lemma Keeps.method_eq (h : e.Keeps e') {a : Action} (ha : a ∈ e.actions) : e'.method = e.method := by
  rcases h.method with hsame | ⟨hlockable, -⟩
  · exact hsame
  · exact absurd ha (hlockable.actions ▸ List.not_mem_nil)

/-- **Controls stay controls** among elements that keep what moves keep. -/
lemma ControlledIn.mono (h : e.ControlledIn es) (he : e.Keeps e')
    (hes : ∀ b ∈ es, ∃ b' ∈ es', b.Keeps b') : e'.ControlledIn es' := by
  have hcontrol : ∀ a, ∀ b ∈ es, b.method = .tap → a ∈ b.actions →
      ∃ b' ∈ es', b.Keeps b' ∧ b'.method = .tap ∧ a ∈ b'.actions := by
    intro a b hb hmethod ha
    obtain ⟨b', hb', hkeeps⟩ := hes b hb
    exact ⟨b', hb', hkeeps, (hkeeps.method_eq ha).trans hmethod, hkeeps.actions_eq ▸ ha⟩
  rcases h with hsteered | ⟨b, hb, hshape, hmethod, hchange, ha⟩ | ⟨hshape, hcolor, b, hb, hmethod, ha⟩
  · refine .inl fun step hstep => ?_
    obtain ⟨b, hb, hmethod, hactions⟩ := hsteered step hstep
    obtain ⟨b', hb', hkeeps, hmethod', -⟩ :=
      hcontrol _ b hb hmethod (hactions ▸ List.mem_singleton.mpr rfl)
    exact ⟨b', hb', hmethod', hkeeps.actions_eq.trans (he.id_eq ▸ hactions)⟩
  · obtain ⟨b', hb', hkeeps, hmethod', ha'⟩ := hcontrol _ b hb hmethod ha
    exact .inr (.inl ⟨b', hb', hkeeps.shape_eq.trans hshape, hmethod', hkeeps.change_eq.trans hchange,
      he.id_eq ▸ ha'⟩)
  · obtain ⟨b', hb', -, hmethod', ha'⟩ := hcontrol _ b hb hmethod ha
    exact .inr (.inr ⟨he.shape_eq.trans hshape, he.color_eq ▸ hcolor, b', hb', hmethod',
      he.id_eq ▸ ha'⟩)

/-- An element with the same method is as handy. -/
lemma Handy.mono (h : e.Handy) (he : e.Keeps e') (hmethod : e'.method = e.method) : e'.Handy := by
  unfold Handy at h ⊢
  rwa [hmethod, he.shape_eq, he.id_eq, he.actions_eq]

/-- **An element stays free** if it keeps its method or others control it. -/
lemma FreeIn.mono (h : e.FreeIn es) (he : e.Keeps e')
    (hmethod : e'.method = e.method ∨ e.ControlledIn es)
    (hes : ∀ b ∈ es, ∃ b' ∈ es', b.Keeps b') : e'.FreeIn es' := by
  have hsame : e'.method = e.method → e'.FreeIn es' := fun hsame =>
    h.imp (fun hhandy => hhandy.mono he hsame) fun ⟨hnone, hcontrolled⟩ =>
      ⟨hsame.trans hnone, hcontrolled.mono he hes⟩
  rcases hmethod with hmethod | hcontrolled
  · exact hsame hmethod
  · rcases he.method with hmethod | ⟨-, hnone⟩
    · exact hsame hmethod
    · exact .inr ⟨hnone, hcontrolled.mono he hes⟩

end Element

/-! ## Scenes -/

namespace Scene

variable {phase : Phase} {first : Nat} {v v' : Scene}

/-- **A free element stays free.** -/
lemma Move.freeIn (h : v.Move phase v') {place : Nat} {e : Element}
    (he : v.elements[place]? = some e) (hfree : e.FreeIn v.elements) :
    ∃ e', v'.elements[place]? = some e' ∧ e.Keeps e' ∧ e'.FreeIn v'.elements := by
  obtain ⟨e', he', hkeeps, hmethod⟩ := h.keeps he
  refine ⟨e', he', hkeeps, hfree.mono hkeeps hmethod fun b hb => ?_⟩
  obtain ⟨i, hi⟩ := List.mem_iff_getElem?.mp hb
  obtain ⟨b', hb', hkeeps', -⟩ := h.keeps hi
  exact ⟨b', List.mem_of_getElem? hb', hkeeps'⟩

/-- **Nothing that is to be moved is stuck:** no switch, no screw, no rectangle that was added from
a place on, and no plug that was placed on this panel. -/
structure Free (phase : Phase) (first : Nat) (v : Scene) : Prop where
  shapes : ∀ place e, v.elements[place]? = some e → e.shape ∈ phase.movable →
    (e.shape = .rectangle → first ≤ place) → e.FreeIn v.elements
  placed : ∀ q ∈ v.placements, q.panel = v.index → ∃ e ∈ v.elements, e.id = q.id ∧ e.FreeIn v.elements

namespace Free

/-- **A move leaves nothing stuck.** -/
lemma move (h : v.Free phase first) (hmove : v.Move phase v') : v'.Free phase first := by
  have hplaced : ∀ q ∈ v.placements, q.panel = v.index →
      ∃ e ∈ v'.elements, e.id = q.id ∧ e.FreeIn v'.elements := by
    intro q hq hpanel
    obtain ⟨e, he, hid, hfree⟩ := h.placed q hq hpanel
    obtain ⟨place, hplace⟩ := List.mem_iff_getElem?.mp he
    obtain ⟨e', he', hkeeps, hfree'⟩ := hmove.freeIn hplace hfree
    exact ⟨e', List.mem_of_getElem? he', hkeeps.id_eq.trans hid, hfree'⟩
  refine ⟨fun place e he hshape hfirst => ?_, ?_⟩
  · by_cases hplace : place < v.elements.length
    · -- the element was there before
      obtain ⟨old, hold⟩ : ∃ old, v.elements[place]? = some old := ⟨_, List.getElem?_eq_getElem hplace⟩
      obtain ⟨e', he', hkeeps, -⟩ := hmove.keeps hold
      obtain rfl := Option.some.inj (he.symm.trans he')
      rw [hkeeps.shape_eq] at hshape hfirst
      obtain ⟨e', he', -, hfree⟩ := hmove.freeIn hold (h.shapes place old hold hshape hfirst)
      exact Option.some.inj (he.symm.trans he') ▸ hfree
    · exact .inl ((hmove.fresh he (not_lt.mp hplace)).1 hshape)
  · cases hmove with
    | @place p _ e _ _ hid _ _ _ hhandy =>
      refine List.forall_mem_append.mpr ⟨hplaced, List.forall_mem_singleton.mpr fun _ => ?_⟩
      exact ⟨e, List.mem_append_right _ (List.mem_singleton.mpr rfl), hid, .inl hhandy⟩
    | add | socket | halves | exit | lock | resize | cover | mark | noted => exact hplaced

lemma leads (h : v.Free phase first) (hleads : v.Leads phase v') : v'.Free phase first := by
  induction hleads with
  | refl => exact h
  | tail _ hmove ih => exact ih.move hmove

/-- An empty panel has nothing that could be stuck. -/
lemma of_empty (helements : v.elements = []) (hplaced : ∀ q ∈ v.placements, q.panel ≠ v.index) :
    v.Free phase first :=
  ⟨fun place e he => absurd he (by simp [helements]), fun q hq h => absurd h (hplaced q hq)⟩

/-- When a panel is populated, the rectangles that it has are not to be moved. -/
lemma finish (h : v.Free .populating first) : v.Free .finishing v.elements.length := by
  refine ⟨fun place e he hshape hfirst => ?_, h.placed⟩
  have hplace := (List.getElem?_eq_some_iff.mp he).1
  by_cases hrectangle : e.shape = .rectangle
  · exact absurd (hfirst hrectangle) (not_le.mpr hplace)
  · refine h.shapes place e he ?_ fun h => absurd h hrectangle
    revert hshape hrectangle
    cases e.shape <;> decide

end Free

end Scene

end PanelPuzzle
