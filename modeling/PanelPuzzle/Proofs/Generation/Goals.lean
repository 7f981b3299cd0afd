import PanelPuzzle.Proofs.Generation.Panels
/-!
# What the panels are made for

Every panel has a goal, for its techniques or its switch leave one and nothing takes it away,
`panels_have_goals`.

The innermost panel should leave a plug for the others.  It does, or there is a maze on it,
`innermost_leaves_plug_or_ball`.  A large maze may take so much of the panel that no other mechanism finds
room; holes that are added then have random sizes, and what is left may hold only the smallest.
-/

namespace PanelPuzzle

namespace Generation

open Making

/-- A panel on which nothing has been put has a goal when it is made. -/
lemma carries_goal (config : Config) : Carries config (fun _ => True) (·.panel.hasGoal = true) where
  start _ _ := trivial
  planned d hd _ _ := by
    refine .bind (works_populate hd.sound hd.grid_eq hd.varied) fun _ d₁ h => ?_
    obtain ⟨hturns, hgoal, -⟩ := h
    refine (Turning.finish _ d₁ (hturns.sound hd.sound)).weaken fun _ d' hfinish => ⟨?_, fun _ => trivial⟩
    exact List.any_eq_true.mpr (hgoal.turns hfinish)
  extra d hd _ _ hpool := by
    refine (works_makeExtra hd.sound hd.grid_eq hpool fun q hq => (hd.earlier q hq).ne).weaken
      fun _ d' hmade => ⟨?_, fun _ => trivial⟩
    exact List.any_eq_true.mpr hmade.2.1

variable (config : Config) (draws : Draws)

/-- **Every panel has something to solve:** a socket to fill, an element to move, or one to bring to a
target above zero. -/
theorem panels_have_goals : ∀ panel ∈ (generate config draws).puzzle.panels, panel.hasGoal = true ∧
    ∃ e ∈ panel.elements, e.comparison ≠ none ∨ e.change = .move ∨ e.change ≠ .none ∧ 0 < e.target := by
  intro panel hpanel
  rw [panels_generate] at hpanel
  obtain ⟨draft, hdraft, rfl⟩ := List.mem_map.mp hpanel
  have hgoal := ((carries_goal config).ended draws).1.drafts draft hdraft
  refine ⟨hgoal, ?_⟩
  obtain ⟨e, he, hgoal⟩ := List.any_eq_true.mp hgoal
  refine ⟨e, he, ?_⟩
  simp only [Element.isGoal, Element.isSocket, Bool.or_eq_true, Bool.and_eq_true, decide_eq_true_eq,
    Option.isSome_iff_ne_none, or_assoc] at hgoal
  exact hgoal

/-- A puzzle has a panel with a goal. -/
theorem panels_have_goals_first :
    ∃ panel ∈ (generate {} (.ofWords fun _ => 0)).puzzle.panels, panel.hasGoal = true ∧
      ∃ e ∈ panel.elements, e.comparison ≠ none ∨ e.change = .move ∨ e.change ≠ .none ∧ 0 < e.target := by
  obtain ⟨panel, hpanel⟩ := List.exists_mem_of_ne_nil _ (panels_ne_nil {} (.ofWords fun _ => 0))
  exact ⟨panel, hpanel, panels_have_goals {} (.ofWords fun _ => 0) panel hpanel⟩

/-- **The innermost panel leaves a plug,** or there is a maze on it, which no easy puzzle has. -/
theorem innermost_leaves_plug_or_ball :
    (∃ p ∈ (populated config draws 0).session.pool.plugs, p.origin = 0) ∨
      config.difficulty ≠ .easy ∧
        ∃ e ∈ (populated config draws 0).draft.elements, e.change = .move := by
  have hcarried := (carries_goal config).made draws (Nat.zero_le config.planned)
  obtain ⟨theme, hbegun⟩ := exists_begun (made config draws 0).1
    (.panel (made config draws 0).1.length) (made config draws 0).2
  have hready := hcarried.ready theme
  have hindex : (begun (made config draws 0).1.length theme (made config draws 0).2).draft.index = 0 :=
    length_made config draws 0
  have hnone : ¬ (begun (made config draws 0).1.length theme (made config draws 0).2).Serves := by
    rintro ⟨p, hp, -⟩
    exact absurd (hindex ▸ hready.earlier p hp) (Nat.not_lt_zero _)
  have hpopulated := works_populate hready.sound hready.grid_eq hready.varied _ hbegun
  rw [← opened] at hpopulated
  unfold populated
  obtain ⟨hturns, -, hplug⟩ := hpopulated
  obtain ⟨p, hp, horigin⟩ | ⟨hmaze, hball⟩ := hplug hindex hnone
  · exact .inl ⟨p, Multiset.mem_coe.mp hp, horigin.trans (hturns.index_eq.trans hindex)⟩
  · refine .inr ⟨fun heasy => ?_, hball⟩
    rw [hready.profile, heasy] at hmaze
    exact absurd hmaze (by decide)

/-- There are draws with which a maze leaves no room for any hole that is tried. -/
example : (populated { difficulty := .hard }
    (.ofWords fun n => .ofNat (n * 3070000000)) 0).session.pool.plugs = [] := by decide +kernel

end Generation

end PanelPuzzle
