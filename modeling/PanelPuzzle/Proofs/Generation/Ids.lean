import PanelPuzzle.Proofs.Generation.Course
/-!
# Ids and plugs of a puzzle

What is kept from panel to panel is read off the end of a generation.

* `ids_resolve` — ids are unique, and every action acts on an element of its own panel.
* `plugs_kept` — a plug is placed once, on a later panel, or dropped, and then it is nowhere.
-/

namespace PanelPuzzle

/-- The elements of all panels. -/
def Puzzle.elements (p : Puzzle) : List Element := p.panels.flatMap (·.elements)

lemma Puzzle.mem_elements {p : Puzzle} {panel : Panel} (hpanel : panel ∈ p.panels) {e : Element}
    (he : e ∈ panel.elements) : e ∈ p.elements := List.mem_flatMap.mpr ⟨panel, hpanel, he⟩

/-- **Where ids are unique** just one element has the id of an element. -/
lemma countP_id_eq_one {es : List Element} (h : (es.map (·.id)).Nodup) {e : Element} (he : e ∈ es) :
    es.countP (·.id = e.id) = 1 := by
  have hcount := List.count_eq_one_of_mem h (List.mem_map_of_mem (f := (·.id)) he)
  rwa [List.count, List.countP_map] at hcount

namespace Generation

variable (config : Config) (draws : Draws)

lemma ids_elements : (generate config draws).puzzle.elements.map (·.id) =
    idsOf (ended config draws).1.drafts := by
  rw [Puzzle.elements, panels_generate, List.map_flatMap, List.flatMap_map]
  rfl

/-- A panel of the puzzle comes from a draft. -/
lemma exists_draft {panel : Panel} (h : panel ∈ (generate config draws).puzzle.panels) :
    ∃ d ∈ (ended config draws).1.drafts, d.panel = panel :=
  List.mem_map.mp (panels_generate config draws ▸ h)

/-- The ids of elements and of plugs that are dropped are all different. -/
lemma nodup_ids_append_dropped : ((generate config draws).puzzle.elements.map (·.id) ++
    (generate config draws).report.droppedPlugs).Nodup := by
  have hnodup := (course_ended config draws).1.distinct.nodup
  have hlive : (bench (ended config draws).1.drafts (ended config draws).2).live =
      ((generate config draws).report.droppedPlugs : Multiset String) := by
    rw [droppedPlugs_generate]
    exact zero_add _
  rw [hlive, ← ids_elements] at hnodup
  exact hnodup

lemma nodup_ids : ((generate config draws).puzzle.elements.map (·.id)).Nodup :=
  (nodup_ids_append_dropped config draws).of_append_left

/-- **Ids are unique and references resolve.**  No two elements of the puzzle share an id, each id is
the letter of the shape and a positive number, and each action acts on the id of exactly one element,
which is on the panel of the action. -/
theorem ids_resolve :
    ((generate config draws).puzzle.elements.map (·.id)).Nodup ∧
    (∀ e ∈ (generate config draws).puzzle.elements,
      ∃ n, 0 < n ∧ e.id = String.ofList (e.shape.code :: Nat.toDigits 10 n)) ∧
    ∀ panel ∈ (generate config draws).puzzle.panels, ∀ e ∈ panel.elements, ∀ a ∈ e.actions,
      (generate config draws).puzzle.elements.countP (·.id = a.targetId) = 1 ∧
        ∃ target ∈ panel.elements, target.id = a.targetId := by
  have hcourse := (course_ended config draws).1
  refine ⟨nodup_ids config draws, fun e he => ?_, fun panel hpanel e he a ha => ?_⟩
  · obtain ⟨panel, hpanel, hmem⟩ := List.mem_flatMap.mp he
    obtain ⟨d, hd, rfl⟩ := exists_draft config draws hpanel
    obtain ⟨n, hpos, -, hid⟩ := hcourse.numbered d hd e hmem
    exact ⟨n, hpos, hid⟩
  · obtain ⟨d, hd, rfl⟩ := exists_draft config draws hpanel
    obtain ⟨target, htarget, hid⟩ := List.mem_map.mp (hcourse.closed d hd e he a ha)
    refine ⟨?_, target, htarget, hid⟩
    rw [← hid]
    exact countP_id_eq_one (nodup_ids config draws) (Puzzle.mem_elements hpanel htarget)

/-- The ids of the plugs that are held at the end are those of the report. -/
lemma held_ended : (bench (ended config draws).1.drafts (ended config draws).2).held.map Prod.fst =
    (((generate config draws).report.placements.map (·.id) ++
      (generate config draws).report.droppedPlugs : List String) : Multiset String) := by
  rw [Scene.held, Multiset.map_add, ← Multiset.coe_add, add_comm, placements_generate,
    droppedPlugs_generate, Multiset.map_map, Multiset.map_coe, List.map_map]
  rfl

lemma mem_deposits_iff (entry : String × Nat) : entry ∈ (generate config draws).deposits ↔
    entry ∈ (bench (ended config draws).1.drafts (ended config draws).2).held := by
  rw [deposits_generate, List.mem_reverse]
  exact (course_ended config draws).1.balanced.deposited entry

/-- **Placed or dropped are the plugs that were deposited.** -/
lemma mem_held_iff (id : String) :
    id ∈ (generate config draws).report.placements.map (·.id) ++
        (generate config draws).report.droppedPlugs ↔
      id ∈ (generate config draws).deposits.map Prod.fst := by
  rw [← Multiset.mem_coe, ← held_ended, Multiset.mem_map, List.mem_map]
  exact exists_congr fun entry => and_congr_left' (mem_deposits_iff config draws entry).symm

/-- **No plug is lost or duplicated.**  The ids of the plugs that were put into the pool are those of
the placements and of the plugs that were dropped, each of them once.  A plug that was placed is on one
panel, later than the one that it was deposited by, and a plug that was dropped is on no panel. -/
theorem plugs_kept :
    (∀ id, ((generate config draws).report.placements.map (·.id) ++
        (generate config draws).report.droppedPlugs).count id =
      if id ∈ (generate config draws).deposits.map Prod.fst then 1 else 0) ∧
    (∀ q ∈ (generate config draws).report.placements,
      (q.id, q.origin) ∈ (generate config draws).deposits ∧
      q.origin < q.panel ∧ q.panel < (generate config draws).puzzle.panels.length ∧
      (generate config draws).puzzle.elements.countP (·.id = q.id) = 1 ∧
      ∃ panel, (generate config draws).puzzle.panels[q.panel]? = some panel ∧
        ∃ e ∈ panel.elements, e.id = q.id) ∧
    ∀ e ∈ (generate config draws).puzzle.elements,
      e.id ∉ (generate config draws).report.droppedPlugs := by
  have hcourse := (course_ended config draws).1
  refine ⟨fun id => ?_, fun q hq => ?_, fun e he => ?_⟩
  · have honce := hcourse.balanced.once
    rw [held_ended, Multiset.coe_nodup] at honce
    split_ifs with hmem
    · exact List.count_eq_one_of_mem honce ((mem_held_iff config draws id).mpr hmem)
    · exact List.count_eq_zero_of_not_mem fun h => hmem ((mem_held_iff config draws id).mp h)
  · rw [placements_generate] at hq
    obtain ⟨horigin, d, hd, e, he, hid, -⟩ := hcourse.placed q hq
    have hpanel : (generate config draws).puzzle.panels[q.panel]? = some d.panel := by
      rw [panels_generate, List.getElem?_map, hd, Option.map_some]
    refine ⟨?_, horigin, (List.getElem?_eq_some_iff.mp hpanel).1, ?_, d.panel, hpanel, e, he, hid⟩
    · refine (mem_deposits_iff config draws _).mpr (Multiset.mem_add.mpr (.inr ?_))
      exact List.mem_map_of_mem (f := Placement.entry) hq
    · rw [← hid]
      exact countP_id_eq_one (nodup_ids config draws)
        (Puzzle.mem_elements (List.mem_of_getElem? hpanel) he)
  · exact (nodup_ids_append_dropped config draws).disjoint (List.mem_map_of_mem he)

end Generation

end PanelPuzzle
