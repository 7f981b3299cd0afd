import PanelPuzzle.Proofs.Generation.Ids
/-!
# Every socket of a puzzle has its own plug

A panel is populated with sockets and what fills them, by numbers that no other panel uses.  From then
on each plug is in the pool or placed, and at the end it is placed or dropped.

* `exists_filled` — what fills the sockets of one panel, when it is populated.
* `FilledBy` — what it is for something to fill a socket of the puzzle.
* `sockets_filled` — **every socket is filled, and nothing fills two of them.**
-/

namespace PanelPuzzle

/-- There is a socket at a place of a panel. -/
def Puzzle.SocketAt (p : Puzzle) (k place : Nat) (socket : Element) : Prop :=
  ∃ panel, p.panels[k]? = some panel ∧ panel.elements[place]? = some socket ∧
    socket.comparison ≠ none

namespace Generation

variable (config : Config) (draws : Draws)

/-! ## When a panel is populated -/

/-- What holds when a panel is populated: ids are given once and plugs are kept. -/
lemma balanced_populated {k : Nat} (hk : k ≤ config.planned) :
    (populated config draws k).scene.Distinct (idsOf (made config draws k).1) ∧
      (populated config draws k).scene.Balanced (idsOf (made config draws k).1)
        (made config draws k).2.placements :=
  have h := course_made config draws hk
  (leads_populated config draws h.sound).steps.balanced h.distinct h.balanced

/-- **The sockets of a populated panel are filled** with numbers that were given on this panel. -/
lemma exists_filled {k : Nat} (hk : k ≤ config.planned) : ∃ filling,
    (populated config draws k).scene.Filled (made config draws k).2.lastId filling :=
  have h := course_made config draws hk
  (leads_populated config draws h.sound).exists_filled rfl h.marked h.distinct

/-- What is populated is there at the end. -/
lemma later_ended {k : Nat} (hk : k < config.planned) : (populated config draws k).scene.Later
    (bench (ended config draws).1.drafts (ended config draws).2) :=
  (later_populated config draws hk le_rfl).trans (course_ended config draws).2.later

/-! ## Sockets of a puzzle -/

/-- **What fills a socket of a puzzle.**  It fits the socket as both were made; from then on until the
panel is populated nothing is done to them. -/
structure FilledBy (k place : Nat) (socket : Element) (f : Filling) : Prop where
  /-- The socket was made when the panel was populated, and the filling fits it. -/
  fits : ∃ made, (populated config draws k).draft.elements[place]? = some made ∧
    made.Keeps socket ∧ ∀ c, made.comparison = some c → f.Fits made c
  nodup : f.ids.Nodup
  /-- A ball was made right after the socket, and is there on the panel to be dragged. -/
  ball : ∀ ball, f = .ball ball →
    (populated config draws k).draft.elements[place + 1]? = some ball ∧
    ∃ panel e, (generate config draws).puzzle.panels[k]? = some panel ∧
      panel.elements[place + 1]? = some e ∧ e.id = ball.id ∧ e.method = .drag ∧ e.change = .move
  /-- The exit of a maze, which is right before its ball, is filled by it. -/
  exit : ∀ panel e, (generate config draws).puzzle.panels[k]? = some panel →
    panel.elements[place + 1]? = some e → e.change = .move → ∃ ball, f = .ball ball
  /-- Two halves fill the sockets that were made for them. -/
  halves : f.isHalves = true ↔ socket.id ∈ (generate config draws).halved
  /-- A plug was deposited by the panel of the socket, and is placed on a later panel or dropped. -/
  plugs : ∀ p ∈ f.plugs, p ∈ (populated config draws k).session.pool.plugs ∧ p.origin = k ∧
    (p.element.id, k) ∈ (generate config draws).deposits ∧
    (p.element.id ∈ (generate config draws).report.droppedPlugs ∨
      ∃ q ∈ (generate config draws).report.placements, q.id = p.element.id ∧ q.origin = k ∧
        k < q.panel ∧ q.panel < (generate config draws).puzzle.panels.length)

variable {config draws}

/-- Sockets are on planned panels, and were made when these were populated. -/
lemma exists_made {k place : Nat} {socket : Element}
    (h : (generate config draws).puzzle.SocketAt k place socket) : k < config.planned ∧
      ∃ made, (populated config draws k).scene.SocketAt place made ∧ made.Keeps socket := by
  obtain ⟨panel, hpanel, hsocket, hcomparison⟩ := h
  rw [panels_generate, List.getElem?_map, Option.map_eq_some_iff] at hpanel
  obtain ⟨d, hd, rfl⟩ := hpanel
  have hk : k < config.planned := by
    by_contra hextra
    have hlength : (made config draws config.planned).1.length ≤ k := by
      rw [length_made]
      exact not_lt.mp hextra
    exact hcomparison ((course_ended config draws).2.sockets k d hd hlength socket
      (List.mem_of_getElem? hsocket))
  have hsound := (course_made config draws hk.le).sound
  have hfinished := leads_finished config draws ((leads_populated config draws hsound).sound hsound)
  obtain rfl := Option.some.inj (hd.symm.trans (getElem?_ended config draws hk))
  obtain ⟨made, hmade, hkeeps⟩ := hfinished.exists_made hsocket fun haside =>
    hcomparison haside.comparison
  exact ⟨hk, made, ⟨hmade, hkeeps.comparison_eq ▸ hcomparison⟩, hkeeps⟩

/-- **A plug that was deposited is placed on a later panel or dropped.** -/
lemma placed_or_dropped {entry : String × Nat} (h : entry ∈ (generate config draws).deposits) :
    entry.1 ∈ (generate config draws).report.droppedPlugs ∨
      ∃ q ∈ (generate config draws).report.placements, q.id = entry.1 ∧ q.origin = entry.2 ∧
        entry.2 < q.panel ∧ q.panel < (generate config draws).puzzle.panels.length := by
  rcases Multiset.mem_add.mp ((mem_deposits_iff config draws entry).mp h) with hpool | hplaced
  · obtain ⟨p, hp, rfl⟩ := Multiset.mem_map.mp hpool
    rw [droppedPlugs_generate]
    exact .inl (List.mem_map_of_mem (f := fun p : Plug => p.element.id) hp)
  · obtain ⟨q, hq, rfl⟩ := List.mem_map.mp (Multiset.mem_coe.mp hplaced)
    obtain ⟨horigin, d, hd, -⟩ := (course_ended config draws).1.placed q hq
    rw [placements_generate, panels_generate, List.length_map]
    exact .inr ⟨q, hq, rfl, rfl, horigin, (List.getElem?_eq_some_iff.mp hd).1⟩

/-- **What fills a socket of a populated panel fills it in the puzzle.** -/
lemma filledBy {k place : Nat} {made socket : Element} (hk : k < config.planned)
    (hmade : (populated config draws k).scene.SocketAt place made) (hkeeps : made.Keeps socket)
    {f : Filling} {low high : Nat} (hf : (populated config draws k).scene.Fills place made f)
    (hbetween : f.Between low high) : FilledBy config draws k place socket f := by
  have hsound := (course_made config draws hk.le).sound
  have hpopulated := leads_populated config draws hsound
  have hfinished := leads_finished config draws (hpopulated.sound hsound)
  have hlater := later_ended config draws hk
  obtain ⟨hdistinct, hbalanced⟩ := balanced_populated config draws hk.le
  have hindex : (populated config draws k).scene.index = k :=
    hpopulated.index_eq.trans (length_made config draws k)
  have hpanel : (generate config draws).puzzle.panels[k]? = some (finished config draws k).draft.panel := by
    rw [panels_generate, List.getElem?_map, getElem?_ended config draws hk, Option.map_some]
  refine ⟨⟨made, hmade.getElem?, hkeeps, hf.fits⟩, hbetween.nodup, fun ball hball => ?_,
    fun panel e hpanel' he hchange => ?_, ?_, fun p hp => ?_⟩
  · obtain ⟨hafter, hmove⟩ := (hf.ball ball).mp hball
    obtain ⟨e, he, hkeeps⟩ := hfinished.keeps hafter
    refine ⟨hafter, _, e, hpanel, he, hkeeps.id_eq, ?_, hkeeps.change_eq.trans hmove⟩
    -- a ball cannot be locked
    rcases hkeeps.method with hmethod | ⟨hlockable, -⟩
    · exact hmethod.trans (hf.dragged ball hball)
    · exact absurd hmove hlockable.change
  · obtain rfl := Option.some.inj (hpanel.symm.trans hpanel')
    obtain ⟨ball, hball, hkeeps⟩ := hfinished.exists_made he fun haside => haside.change hchange
    exact ⟨ball, (hf.ball ball).mpr ⟨hball, hkeeps.change_eq ▸ hchange⟩⟩
  · have hnumbered := hdistinct.elements made (List.mem_of_getElem? hmade.getElem?)
    rw [hkeeps.id_eq, halved_generate, List.mem_reverse]
    exact hf.halved.trans (hlater.mem_halved_iff hnumbered.named).symm
  · obtain ⟨hpool, horigin⟩ := hf.waits p hp
    have horigin' : p.origin = k := horigin.trans hindex
    have hheld : p.entry ∈ (populated config draws k).scene.held :=
      Multiset.mem_add.mpr (.inl (Multiset.mem_map_of_mem _ hpool))
    have hdeposit : p.entry ∈ (generate config draws).deposits := by
      rw [deposits_generate, List.mem_reverse]
      exact hlater.deposits ((hbalanced.deposited p.entry).mpr hheld)
    rw [Plug.entry, horigin'] at hdeposit
    exact ⟨hpool, horigin', hdeposit, placed_or_dropped hdeposit⟩

/-- Panels have numbers of their own. -/
lemma not_mem_of_lt {k k' : Nat} (hk : k < k') (hk' : k' < config.planned) {f f' : Filling}
    (hf : f.Between (made config draws k).2.lastId (populated config draws k).scene.lastId)
    (hf' : f'.Between (made config draws k').2.lastId (populated config draws k').scene.lastId)
    {id : String} (hid : id ∈ f.ids) : id ∉ f'.ids :=
  hf.not_mem (hf'.mono (later_populated config draws hk hk'.le).lastId le_rfl) hid

variable (config draws)

/-- **Every socket gets its own plug.**  There is a filling for every socket of the puzzle, and no id is
in the fillings of two sockets. -/
theorem sockets_filled : ∃ filling : Nat → Nat → Filling,
    (∀ k place socket, (generate config draws).puzzle.SocketAt k place socket →
      FilledBy config draws k place socket (filling k place)) ∧
    ∀ k place socket k' place' socket' id,
      (generate config draws).puzzle.SocketAt k place socket →
      (generate config draws).puzzle.SocketAt k' place' socket' →
      id ∈ (filling k place).ids → id ∈ (filling k' place').ids → k = k' ∧ place = place' := by
  have hpanels : ∀ k, ∃ filling, k < config.planned →
      (populated config draws k).scene.Filled (made config draws k).2.lastId filling := by
    intro k
    by_cases hk : k < config.planned
    · obtain ⟨filling, hfilled⟩ := exists_filled config draws hk.le
      exact ⟨filling, fun _ => hfilled⟩
    · exact ⟨fun _ => .halves default default, fun h => absurd h hk⟩
  choose filling hfilled using hpanels
  refine ⟨filling, fun k place socket hsocket => ?_, ?_⟩
  · obtain ⟨hk, made, hmade, hkeeps⟩ := exists_made hsocket
    exact filledBy hk hmade hkeeps ((hfilled k hk).fills place made hmade)
      ((hfilled k hk).between place made hmade)
  · intro k place socket k' place' socket' id hsocket hsocket' hid hid'
    obtain ⟨hk, made, hmade, -⟩ := exists_made hsocket
    obtain ⟨hk', made', hmade', -⟩ := exists_made hsocket'
    have hbetween := (hfilled k hk).between place made hmade
    have hbetween' := (hfilled k' hk').between place' made' hmade'
    obtain hlt | rfl | hgt := lt_trichotomy k k'
    · exact absurd hid' (not_mem_of_lt hlt hk' hbetween hbetween' hid)
    · exact ⟨rfl, (hfilled k hk).apart place made place' made' id hmade hmade' hid hid'⟩
    · exact absurd hid (not_mem_of_lt hgt hk hbetween' hbetween hid')

/-- The hole under the screw of an easy puzzle is a socket, and it is filled. -/
theorem sockets_filled_screw : ∃ socket f,
    (generate { difficulty := .easy } (.ofWords fun _ => 12345)).puzzle.SocketAt 0 0 socket ∧
      FilledBy { difficulty := .easy } (.ofWords fun _ => 12345) 0 0 socket f := by
  have hhole : ((populated { difficulty := .easy } (.ofWords fun _ => 12345) 0).draft.elements[0]?.any
      (·.comparison.isSome)) = true := by decide +kernel
  obtain ⟨made, hmade, hcomparison⟩ := (Option.any_eq_true ..).mp hhole
  obtain ⟨panel, socket, hpanel, hsocket, hkeeps⟩ := exists_getElem?_generate _ _ (planned_pos _) hmade
  have hsocketAt : (generate { difficulty := .easy } (.ofWords fun _ => 12345)).puzzle.SocketAt 0 0
      socket := by
    refine ⟨panel, hpanel, hsocket, ?_⟩
    rw [hkeeps.comparison_eq]
    exact Option.isSome_iff_ne_none.mp hcomparison
  obtain ⟨filling, hfilled, -⟩ := sockets_filled { difficulty := .easy } (.ofWords fun _ => 12345)
  exact ⟨socket, filling 0 0, hsocketAt, hfilled 0 0 socket hsocketAt⟩

end Generation

end PanelPuzzle
