import PanelPuzzle.Proofs.Technique.Links
/-!
# Increasing targets from left to right

The targets of an increasing pattern go up in the order in which its switches are placed.  Each switch takes
a free place of the grid wherever one is found, so from left to right they need not go up.

* `ascendAcross_iff` — they do **just if no switch is placed to the left of an earlier one**.
* `Technique.switchPattern_increasing` — so it is with what is placed on any panel.
-/

namespace PanelPuzzle

/-- **Targets go up from left to right:** of two switches the one further left has the smaller target. -/
def AscendAcross (switches : List Element) : Prop :=
  ∀ s ∈ switches, ∀ t ∈ switches, s.x.lt t.x = true → s.target < t.target

instance (switches : List Element) : Decidable (AscendAcross switches) :=
  inferInstanceAs (Decidable (∀ s ∈ switches, ∀ t ∈ switches, s.x.lt t.x = true → s.target < t.target))

lemma Number.lt_irrefl (a : Number) : a.lt a = false := by
  cases a with
  | infinite negative => cases negative <;> rfl
  | nan | negativeZero => rfl
  | finite q => simp [lt, toRat?]

/-- **Targets that go up in the order of placing** go up from left to right just if no switch is placed to the
left of an earlier one. -/
lemma ascendAcross_iff {switches : List Element}
    (hup : TargetPattern.increasing.Ordered (switches.map (·.target))) :
    AscendAcross switches ↔ switches.Pairwise fun earlier later => later.x.lt earlier.x = false := by
  have hup' : switches.Pairwise fun s t => s.target < t.target := List.pairwise_map.mp hup
  constructor
  · intro hacross
    refine hup'.imp_of_mem fun hs ht hlt => Bool.eq_false_iff.mpr fun hleft => ?_
    have hback := hacross _ ht _ hs hleft
    rw [Int32.lt_iff_toInt_lt] at hlt hback
    exact lt_asymm hlt hback
  · intro hplaced s hs t ht hleft
    obtain ⟨i, hi, rfl⟩ := List.getElem_of_mem hs
    obtain ⟨j, hj, rfl⟩ := List.getElem_of_mem ht
    rcases lt_trichotomy i j with hij | rfl | hji
    · exact List.pairwise_iff_getElem.mp hup' i j hi hj hij
    · rw [Number.lt_irrefl] at hleft
      cases hleft
    · rw [List.pairwise_iff_getElem.mp hplaced j i hj hi hji] at hleft
      cases hleft

namespace Technique

open Making

/-- A pattern that is placed is complete. -/
lemma exists_completes (b : Workbench) (happlied : (switchPattern b).1 = true) : ∃ linked master,
    (TargetPattern.drawn b.session.draws).Completes b.draft linked master (switchPattern b).2.draft := by
  rw [switchPattern_eq] at happlied ⊢
  obtain ⟨hrefused, -⟩ | ⟨-, -, hcompletes⟩ :=
    works_placePattern (.drawn b.session.draws) b.desk ⟨b.draft, { b.session with
      draws := (Draws.below TargetPattern.values.length b.session.draws).2 }⟩ rfl
  · exact absurd (hrefused.symm.trans happlied) Bool.false_ne_true
  · exact hcompletes

/-- **An increasing pattern.**  Its linked switches have targets that go up in the order in which they are
placed.  So the targets go up from left to right just if no switch is placed to the left of an earlier one. -/
theorem switchPattern_increasing (b : Workbench)
    (hdrawn : TargetPattern.drawn b.session.draws = .increasing) (happlied : (switchPattern b).1 = true) :
    ∃ linked master, TargetPattern.increasing.Completes b.draft linked master (switchPattern b).2.draft ∧
      (AscendAcross (linked.map (·.switch)) ↔
        (linked.map (·.switch)).Pairwise fun earlier later => later.x.lt earlier.x = false) := by
  obtain ⟨linked, master, hcompletes⟩ := exists_completes b happlied
  rw [hdrawn] at hcompletes
  refine ⟨linked, master, hcompletes, ascendAcross_iff ?_⟩
  rw [List.map_map]
  exact hcompletes.ordered

/-- A stream with which a pattern goes up, and its second switch is placed to the left of the first. -/
def backwards : Workbench :=
  ⟨.new 0 "blue", { draws := .ofWords fun n => 0x43000000 * UInt32.ofNat (n + 1),
                    profile := .ofDifficulty .medium }⟩

lemma switchPattern_backwards : (switchPattern backwards).1 = true ∧
    (switchPattern backwards).2.draft.elements.length = 4 ∧
    ∃ first ∈ (switchPattern backwards).2.draft.elements[0]?,
      ∃ second ∈ (switchPattern backwards).2.draft.elements[1]?,
        second.actions = [] ∧ second.x.lt first.x = true := by decide +kernel

theorem switchPattern_increasing_backwards : ∃ linked master,
    TargetPattern.increasing.Completes backwards.draft linked master (switchPattern backwards).2.draft ∧
      ¬ AscendAcross (linked.map (·.switch)) := by
  obtain ⟨happlied, hlength, hback⟩ := switchPattern_backwards
  obtain ⟨linked, master, hcompletes, hiff⟩ :=
    switchPattern_increasing backwards (by decide +kernel) happlied
  refine ⟨linked, master, hcompletes, hiff.not.mpr fun hplaced => ?_⟩
  rw [hcompletes.elements_eq] at hlength hback
  obtain ⟨first, hfirst, second, hsecond, hactions, hleft⟩ := hback
  -- no button is among the first two elements, so these are the first two linked switches
  cases linked with
  | nil => exact absurd hcompletes.count.1 (by decide)
  | cons s rest =>
    obtain ⟨switch, cells, button⟩ := s
    obtain rfl : switch = first := Option.some.inj hfirst
    have hdriven := (hcompletes.operable _ List.mem_cons_self).driven
    cases button with
    | some pressed =>
      obtain ⟨-, hnone⟩ | ⟨-, button, r, hsome, -, hcycle⟩ := hdriven
      · cases hnone
      · obtain rfl := Option.some.inj hsome
        obtain rfl : button = second := Option.some.inj hsecond
        rw [hactions] at hcycle
        cases hcycle
    | none =>
      cases rest with
      | nil =>
        cases master <;> cases hlength
      | cons t rest =>
        obtain rfl : t.switch = second := Option.some.inj hsecond
        have hright := (List.pairwise_cons.mp hplaced).1 _ List.mem_cons_self
        exact Bool.false_ne_true (hright.symm.trans hleft)

end Technique

end PanelPuzzle
