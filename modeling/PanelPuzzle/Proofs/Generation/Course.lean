import PanelPuzzle.Proofs.Generation.Moves
import PanelPuzzle.Proofs.Generation.Tiling
import PanelPuzzle.Proofs.Making.Filling
import PanelPuzzle.Proofs.Making.Freedom
/-!
# The course of a generation

Between two panels there are the drafts of those that were made, and the session.  `Course` says what
holds there: of the ids, the plugs and the actions of all panels, and that nothing on them is stuck.
It is kept when a panel is added, `Course.add`, and when an extra panel is given up, `Course.discard`.

With that the making of a puzzle is followed from panel to panel.

* `made`, `opened`, `populated`, `finished` — the states of a generation around a planned panel.
* `ended` — its state before the plugs that are left are dropped.
* `course_made`, `course_ended` — they are coherent; `later_made` and `later_ended` tell what is added.
-/

namespace PanelPuzzle.Generation

/-! ## Between two panels -/

/-- The scene of the next panel while it is empty. -/
def bench (drafts : List Draft) (s : Session) : Scene :=
  (⟨.new drafts.length "", s⟩ : Workbench).scene

/-- The ids of the elements of some drafts. -/
def idsOf (drafts : List Draft) : List String := drafts.flatMap fun d => d.elements.map (·.id)

/-- **What holds between two panels.**  Rectangles from the place `first k` on in panel `k` are lids and
tiles. -/
structure Course (first : Nat → Nat) (drafts : List Draft) (s : Session) : Prop where
  sound : (bench drafts s).Sound
  marked : (bench drafts s).Marked
  distinct : (bench drafts s).Distinct (idsOf drafts)
  balanced : (bench drafts s).Balanced (idsOf drafts) s.placements
  numbered : ∀ d ∈ drafts, ∀ e ∈ d.elements, e.Numbered s.lastId
  closed : ∀ d ∈ drafts, ∀ e ∈ d.elements, ∀ a ∈ e.actions, a.targetId ∈ d.elements.map (·.id)
  free : ∀ k d, drafts[k]? = some d → ∀ place e, d.elements[place]? = some e →
    e.shape ∈ Phase.movable .finishing → (e.shape = .rectangle → first k ≤ place) →
      e.FreeIn d.elements
  placed : ∀ q ∈ s.placements, q.origin < q.panel ∧ ∃ d, drafts[q.panel]? = some d ∧
    ∃ e ∈ d.elements, e.id = q.id ∧ e.FreeIn d.elements

namespace Course

variable {first : Nat → Nat} {drafts : List Draft} {s : Session} {b : Workbench}

/-- Nothing has happened at the start. -/
lemma nil (h : bench [] s = ⟨0, [], [], 0, [], 0, [], []⟩) : Course first [] s := by
  have hplacements : s.placements = [] := congrArg Scene.placements h
  have hno : ∀ {α : Type} {P : α → Prop}, ∀ a ∈ ([] : List α), P a := fun a ha =>
    absurd ha List.not_mem_nil
  have hnone : ∀ {α : Type} {P : α → Prop}, ∀ a ∈ (0 : Multiset α), P a := fun a ha =>
    absurd ha (Multiset.notMem_zero a)
  refine ⟨?_, ?_, ?_, ?_, hno, hno, fun k d hd => ?_, ?_⟩
  · rw [h]
    exact ⟨hnone, hno⟩
  · rw [h]
    exact hno
  · rw [h]
    exact ⟨Multiset.nodup_zero, hno, hno, hnone⟩
  · rw [h, hplacements]
    exact ⟨fun entry => iff_of_false List.not_mem_nil (Multiset.notMem_zero entry),
      Multiset.nodup_zero, hno, hnone⟩
  · exact absurd (List.getElem?_nil.symm.trans hd) (Option.some_ne_none d).symm
  · rw [hplacements]
    exact hno

/-- What holds between two panels is read off the scene of the next one. -/
lemma congr {s' : Session} (h : Course first drafts s) (hbench : bench drafts s' = bench drafts s) :
    Course first drafts s' := by
  have hplacements : s'.placements = s.placements := congrArg Scene.placements hbench
  have hlast : s'.lastId = s.lastId := congrArg Scene.lastId hbench
  obtain ⟨hsound, hmarked, hdistinct, hbalanced, hnumbered, hclosed, hfree, hplaced⟩ := h
  refine ⟨?_, ?_, ?_, ?_, ?_, hclosed, hfree, ?_⟩
  · rwa [hbench]
  · rwa [hbench]
  · rwa [hbench]
  · rwa [hbench, hplacements]
  · rwa [hlast]
  · rwa [hplacements]

/-- **A panel is added.** -/
lemma add (h : Course first drafts s) (hsteps : (bench drafts s).Steps b.scene)
    (hsound : b.scene.Sound) (hmarked : b.scene.Marked)
    (hfree : b.scene.Free .finishing (first drafts.length)) :
    Course first (drafts ++ [b.draft]) b.session := by
  obtain ⟨hdistinct, hbalanced⟩ := hsteps.balanced h.distinct h.balanced
  have hindex : b.scene.index = drafts.length := hsteps.index_eq
  have hclosed : b.scene.Closed := hsteps.keeps Scene.Closed.step fun e he => absurd he List.not_mem_nil
  have hlater : s.lastId ≤ b.session.lastId := hsteps.later.lastId
  have hno : ∀ {α : Type} {P : α → Prop}, ∀ a ∈ ([] : List α), P a := fun a ha =>
    absurd ha List.not_mem_nil
  have hids : (idsOf (drafts ++ [b.draft]) : Multiset String) = idsOf drafts + b.scene.ids := by
    rw [idsOf, List.flatMap_append, ← Multiset.coe_add, List.flatMap_singleton]
    rfl
  have hlast : (drafts ++ [b.draft])[drafts.length]? = some b.draft := List.getElem?_concat_length
  have hbefore : ∀ {k d}, drafts[k]? = some d → (drafts ++ [b.draft])[k]? = some d := fun hd =>
    List.getElem?_append_left (List.getElem?_eq_some_iff.mp hd).1 ▸ hd
  refine ⟨⟨hsound.plain, hno⟩, hmarked, ⟨?_, ?_, hno, hdistinct.plugs⟩,
    ⟨hbalanced.deposited, hbalanced.once, fun q hq => ?_, fun p hp => ?_⟩, ?_, ?_, ?_, fun q hq => ?_⟩
  · have hlive : (bench (drafts ++ [b.draft]) b.session).live = b.scene.pool.map (·.element.id) :=
      zero_add _
    rw [hlive, hids, add_assoc]
    exact hdistinct.nodup
  · intro id hid
    rcases Multiset.mem_add.mp (hids ▸ hid) with hid | hid
    · exact hdistinct.others id hid
    · obtain ⟨e, he, rfl⟩ := List.mem_map.mp (Multiset.mem_coe.mp hid)
      exact (hdistinct.elements e he).named
  · refine .inl ⟨hq, hids ▸ Multiset.mem_add.mpr ?_⟩
    exact (hbalanced.placed q hq).imp (·.2) (·.2.2)
  · have hmore : drafts.length ≤ (drafts ++ [b.draft]).length :=
      List.length_append ▸ Nat.le_add_right _ _
    exact (hbalanced.origin p hp).trans (hindex.le.trans hmore)
  · refine List.forall_mem_append.mpr ⟨fun d hd e he => ?_, List.forall_mem_singleton.mpr ?_⟩
    · exact (h.numbered d hd e he).mono hlater
    · exact hdistinct.elements
  · exact List.forall_mem_append.mpr ⟨h.closed, List.forall_mem_singleton.mpr hclosed⟩
  · intro k d hd
    rcases lt_or_ge k drafts.length with hk | hk
    · exact h.free k d ((List.getElem?_append_left hk).symm.trans hd)
    · obtain ⟨rfl, rfl⟩ := Scene.eq_of_getElem?_concat hd hk
      exact hfree.shapes
  · rcases hbalanced.placed q hq with ⟨hold, -⟩ | ⟨hpanel, horigin, -⟩
    · obtain ⟨horigin, d, hd, hplaced⟩ := h.placed q hold
      exact ⟨horigin, d, hbefore hd, hplaced⟩
    · refine ⟨hpanel ▸ horigin, b.draft, ?_, hfree.placed q hq hpanel⟩
      rw [hpanel, hindex]
      exact hlast

/-- **An extra panel is given up** that holds no plug. -/
lemma discard (h : Course first drafts s) (hsteps : (bench drafts s).Steps b.scene)
    (hsound : b.scene.Sound) (hmarked : b.scene.Marked)
    (hsame : b.session.placements = s.placements) : Course first drafts b.session := by
  obtain ⟨hdistinct, hbalanced⟩ := hsteps.balanced h.distinct h.balanced
  have hindex : b.scene.index = drafts.length := hsteps.index_eq
  have hlater : s.lastId ≤ b.session.lastId := hsteps.later.lastId
  have hno : ∀ {α : Type} {P : α → Prop}, ∀ a ∈ ([] : List α), P a := fun a ha =>
    absurd ha List.not_mem_nil
  refine ⟨⟨hsound.plain, hno⟩, hmarked, ⟨?_, hdistinct.others, hno, hdistinct.plugs⟩,
    ⟨hbalanced.deposited, hbalanced.once, fun q hq => ?_, fun p hp => ?_⟩,
    fun d hd e he => (h.numbered d hd e he).mono hlater, h.closed, h.free, ?_⟩
  · have hlive : (bench drafts b.session).live = b.scene.pool.map (·.element.id) := zero_add _
    rw [hlive]
    exact Multiset.nodup_of_le (add_le_add_right (Multiset.le_add_left _ _) _) hdistinct.nodup
  · have hq' : q ∈ s.placements := hsame ▸ hq
    refine .inl ⟨hq, ?_⟩
    rcases h.balanced.placed q hq' with ⟨-, hid⟩ | ⟨-, -, hid⟩
    · exact hid
    · exact absurd hid List.not_mem_nil
  · exact (hbalanced.origin p hp).trans hindex.le
  · rw [hsame]
    exact h.placed

end Course

/-! ## Planned panels -/

/-- The drafts and the session of a generation when `k` panels are made. -/
@[irreducible]
def made (config : Config) (draws : Draws) (k : Nat) : List Draft × Session :=
  (do
    Session.note (.generating config.planned config.difficulty)
    makePlanned config.planned k [] : StateM Session (List Draft)) (config.session draws)

/-- A panel is begun with a theme, and with an event that tells of it. -/
def openPanel (drafts : List Draft) (event : String → Event) (s : Session) : Workbench :=
  let begun := (do
    let theme ← pickTheme drafts
    Session.note (event theme)
    pure theme : StateM Session String) s
  ⟨.new drafts.length begun.1, begun.2⟩

/-- The workbench of a generation when panel `k` is begun. -/
def opened (config : Config) (draws : Draws) (k : Nat) : Workbench :=
  openPanel (made config draws k).1 (.panel (made config draws k).1.length) (made config draws k).2

/-- **The workbench of a generation when panel `k` is populated.** -/
@[irreducible]
def populated (config : Config) (draws : Draws) (k : Nat) : Workbench :=
  (populate (opened config draws k)).2

/-- The workbench of a generation when panel `k` is finished. -/
@[irreducible]
def finished (config : Config) (draws : Draws) (k : Nat) : Workbench :=
  (finish config.planned (populated config draws k)).2

/-- An empty panel has the scene of the stage it comes from. -/
lemma scene_openPanel (drafts : List Draft) {event : String → Event} (s : Session)
    (h : ∀ theme, (event theme).IsIdle) :
    (openPanel drafts event s).scene = bench drafts s := by
  unfold openPanel
  generalize pickTheme drafts = draw
  let begun : Workbench := ⟨.new drafts.length (draw s.draws).1, { s with draws := (draw s.draws).2 }⟩
  exact (Making.Quiet.noteSession (h (draw s.draws).1) begun).2

/-- A computation goes on from the answer and the session of the one before it. -/
lemma bind_apply {α β : Type} (act : StateM Session α) (next : α → StateM Session β) (s : Session) :
    (act >>= next) s = next (act s).1 (act s).2 := rfl

lemma makePlanned_add (planned m n : Nat) : ∀ drafts : List Draft,
    makePlanned planned (m + n) drafts
      = makePlanned planned m drafts >>= makePlanned planned n := by
  induction m with
  | zero =>
    intro drafts
    rw [Nat.zero_add, makePlanned, pure_bind]
  | succ m ih =>
    intro drafts
    rw [Nat.succ_add, makePlanned, makePlanned]
    simp only [bind_assoc, ih]

/-- One panel is added to the drafts. -/
lemma makePlanned_one (planned : Nat) (drafts : List Draft) (s : Session) :
    makePlanned planned 1 drafts s =
      (drafts ++ [(makePanel planned (openPanel drafts (.panel drafts.length) s)).2.draft],
        (makePanel planned (openPanel drafts (.panel drafts.length) s)).2.session) := by
  rw [makePlanned]
  generalize makePanel planned = act
  rfl

lemma made_succ (config : Config) (draws : Draws) (k : Nat) : made config draws (k + 1) =
    ((made config draws k).1 ++ [(finished config draws k).draft], (finished config draws k).session) := by
  have hmade : made config draws (k + 1)
      = makePlanned config.planned 1 (made config draws k).1 (made config draws k).2 := by
    rw [made, makePlanned_add, ← bind_assoc, bind_apply, ← made]
  rw [hmade, makePlanned_one, ← opened, makePanel_eq, Making.bind_apply, ← populated, ← finished]

variable (config : Config) (draws : Draws)

lemma made_zero : bench [] (made config draws 0).2 = ⟨0, [], [], 0, [], 0, [], []⟩ := by
  unfold made
  rfl

lemma length_made : ∀ k, (made config draws k).1.length = k
  | 0 => by
    unfold made
    rfl
  | k + 1 => by rw [made_succ, List.length_append, length_made k, List.length_singleton]

/-- The number of elements of panel `k` when it is populated.  What is added later are plugs, covers
and what goes with them; on an extra panel this is everything. -/
def mechanismCount (k : Nat) : Nat :=
  if k < config.planned then (populated config draws k).draft.elements.length else 0

/-- **A planned panel is populated by moves.** -/
lemma leads_populated {k : Nat} (hsound : (bench (made config draws k).1 (made config draws k).2).Sound) :
    (bench (made config draws k).1 (made config draws k).2).Leads .populating
      (populated config draws k).scene := by
  unfold populated
  exact Making.Moves.populate _ hsound _ (scene_openPanel _ _ fun _ => ⟨rfl, rfl⟩)

/-- **A populated panel is finished by moves.** -/
lemma leads_finished {k : Nat} (hsound : (populated config draws k).scene.Sound) :
    (populated config draws k).scene.Leads .finishing (finished config draws k).scene := by
  unfold finished
  exact Making.Moves.finish config.planned _ hsound _ rfl

namespace Course

variable {config draws} {first : Nat → Nat} {drafts : List Draft} {s : Session}

/-- The panel that is made next is not one on which a plug was placed. -/
lemma panel_ne (h : Course first drafts s) :
    ∀ q ∈ (bench drafts s).placements, q.panel ≠ (bench drafts s).index := by
  intro q hq hpanel
  obtain ⟨-, d, hd, -⟩ := h.placed q hq
  exact absurd (List.getElem?_eq_some_iff.mp hd).1 (not_lt.mpr hpanel.ge)

end Course

/-- **Planned panels are coherent.** -/
lemma course_made {k : Nat} (hk : k ≤ config.planned) :
    Course (mechanismCount config draws) (made config draws k).1 (made config draws k).2 := by
  induction k with
  | zero =>
    rw [List.length_eq_zero_iff.mp (length_made config draws 0)]
    exact .nil (made_zero config draws)
  | succ k ih =>
    have h := ih (Nat.le_of_succ_le hk)
    have hpopulated := leads_populated config draws h.sound
    have hfinished := leads_finished config draws (hpopulated.sound h.sound)
    have hcount : mechanismCount config draws (made config draws k).1.length
        = (populated config draws k).scene.elements.length := by
      rw [length_made, mechanismCount, if_pos (Nat.lt_of_succ_le hk)]
      rfl
    have hfree : (bench (made config draws k).1 (made config draws k).2).Free .populating 0 :=
      .of_empty rfl h.panel_ne
    have hsteps : (bench (made config draws k).1 (made config draws k).2).Steps
        (finished config draws k).scene := hpopulated.steps.trans hfinished.steps
    rw [made_succ]
    dsimp only
    refine h.add hsteps (hfinished.sound (hpopulated.sound h.sound)) (hfinished.marked (hpopulated.marked h.marked)) ?_
    rw [hcount]
    exact (hfree.leads hpopulated).finish.leads hfinished

/-- What a panel adds to the events. -/
lemma later_bench {v : Scene} {b : Workbench} (h : v.Later b.scene) (drafts : List Draft) :
    v.Later (bench drafts b.session) := ⟨h.lastId, h.deposits, h.halved, h.added⟩

/-! ## Extra panels -/

/-- A part of the making that leaves the scene leaves what is between two panels. -/
lemma bench_of_quiet {α : Type} {act : StateM Session α} {R : α → Prop}
    (h : Making.Quiet (liftM act : Making α) R) (drafts : List Draft) (s : Session) :
    bench drafts (act s).2 = bench drafts s := (h ⟨.new drafts.length "", s⟩).2

/-- **What is made after some panels:** more panels, none of them with a socket. -/
structure Extends (drafts : List Draft) (s : Session) (drafts' : List Draft) (s' : Session) :
    Prop where
  before : drafts <+: drafts'
  later : (bench drafts s).Later (bench drafts' s')
  sockets : ∀ k d, drafts'[k]? = some d → drafts.length ≤ k → ∀ e ∈ d.elements, e.comparison = none

/-- The workbench when an extra panel is begun. -/
def openedExtra (p : Progress) (s : Session) : Workbench :=
  openPanel p.drafts (.extraPanel p.drafts.length · s.pool.size) s

/-- The number of plugs on an extra panel, and the workbench when it is made. -/
@[irreducible]
def extraPanel (p : Progress) (s : Session) : Nat × Workbench := makeExtra (openedExtra p s)

lemma makeExtras_succ (count : Nat) (p : Progress) (s : Session) :
    makeExtras (count + 1) p s =
      if s.pool.isEmpty then (p, s)
      else if (extraPanel p s).1 = 0 then
        ({ p with made := p.made + 1 },
          (Session.note (.uselessPanel p.drafts.length) (extraPanel p s).2.session).2)
      else makeExtras count
        { drafts := p.drafts ++ [(extraPanel p s).2.draft], made := p.made + 1, kept := p.kept + 1 }
        (Technique.noteRows (extraPanel p s).2.draft.grid.rows (extraPanel p s).2.session).2 := by
  rw [makeExtras, extraPanel, bind_apply]
  generalize makeExtra = act
  change (ite (s.pool.isEmpty = true) (pure p) _ : StateM Session Progress) s = _
  by_cases hempty : s.pool.isEmpty = true
  · rw [if_pos hempty, if_pos hempty]
    rfl
  rw [if_neg hempty, if_neg hempty]
  change (ite ((act (openedExtra p s)).1 = 0) _ _ : StateM Session Progress)
    (act (openedExtra p s)).2.session = _
  by_cases hnone : (act (openedExtra p s)).1 = 0
  · rw [if_pos hnone, if_pos hnone]
    rfl
  · rw [if_neg hnone, if_neg hnone]
    rfl

namespace Extends

variable {drafts drafts' drafts'' : List Draft} {s s' s'' : Session}

lemma refl (drafts : List Draft) (s : Session) : Extends drafts s drafts s :=
  ⟨List.prefix_rfl, .refl _, fun _ _ hd hk =>
    absurd (List.getElem?_eq_some_iff.mp hd).1 (not_lt.mpr hk)⟩

lemma trans (h : Extends drafts s drafts' s') (h' : Extends drafts' s' drafts'' s'') :
    Extends drafts s drafts'' s'' where
  before := h.before.trans h'.before
  later := h.later.trans h'.later
  sockets k d hd hk := by
    rcases lt_or_ge k drafts'.length with hlt | hge
    · have hsame := List.prefix_iff_getElem?.mp h'.before k hlt
      exact h.sockets k d (List.getElem?_eq_getElem hlt ▸ hsame.symm.trans hd) hk
    · exact h'.sockets k d hd hge

end Extends

/-- An extra panel is made by moves, and if it holds no plug no placement is recorded. -/
lemma leads_extraPanel (p : Progress) (s : Session) (hsound : (bench p.drafts s).Sound) :
    (bench p.drafts s).Leads .finishing (extraPanel p s).2.scene ∧
      ((extraPanel p s).1 = 0 → (extraPanel p s).2.session.placements = s.placements) := by
  have hopened : (openedExtra p s).scene = bench p.drafts s := scene_openPanel _ _ fun _ => ⟨rfl, rfl⟩
  have h := Making.leads_makeExtra hsound (openedExtra p s) hopened
  rw [extraPanel]
  generalize makeExtra (openedExtra p s) = panel at *
  exact h

/-- **Extra panels are coherent,** and none of them has a socket. -/
lemma course_makeExtras {first : Nat → Nat} (count : Nat) : ∀ (p : Progress) (s : Session),
    Course first p.drafts s → (∀ k, p.drafts.length ≤ k → first k = 0) →
      Course first (makeExtras count p s).1.drafts (makeExtras count p s).2 ∧
        Extends p.drafts s (makeExtras count p s).1.drafts (makeExtras count p s).2 := by
  induction count with
  | zero => exact fun p s h _ => ⟨h, .refl _ _⟩
  | succ count ih =>
    intro p s h hfirst
    obtain ⟨hleads, hnone⟩ := leads_extraPanel p s h.sound
    have hsound := hleads.sound h.sound
    have hmarked := hleads.marked h.marked
    rw [makeExtras_succ]
    generalize extraPanel p s = panel at *
    obtain ⟨placed, b⟩ := panel
    split_ifs with hempty huseless
    · exact ⟨h, .refl _ _⟩
    · have hgiven := h.discard hleads.steps hsound hmarked (hnone huseless)
      have hquiet : bench p.drafts (Session.note (.uselessPanel p.drafts.length) b.session).2
          = bench p.drafts b.session := bench_of_quiet (.noteSession ⟨rfl, rfl⟩) _ _
      refine ⟨hgiven.congr hquiet, List.prefix_rfl, ?_, (Extends.refl p.drafts s).sockets⟩
      exact hquiet ▸ later_bench hleads.steps.later p.drafts
    · have hcount : first p.drafts.length = 0 := hfirst _ le_rfl
      have hfree : (bench p.drafts s).Free .finishing 0 := .of_empty rfl h.panel_ne
      have hadded : Course first (p.drafts ++ [b.draft]) b.session :=
        h.add hleads.steps hsound hmarked (hcount ▸ hfree.leads hleads)
      have hquiet : bench (p.drafts ++ [b.draft]) (Technique.noteRows b.draft.grid.rows b.session).2
          = bench (p.drafts ++ [b.draft]) b.session := bench_of_quiet (Making.Moves.quiet_noteRows _) _ _
      have hextends : Extends p.drafts s (p.drafts ++ [b.draft])
          (Technique.noteRows b.draft.grid.rows b.session).2 := by
        refine ⟨List.prefix_append _ _, hquiet ▸ later_bench hleads.steps.later _, fun k d hd hk => ?_⟩
        obtain ⟨-, rfl⟩ := Scene.eq_of_getElem?_concat hd hk
        exact hleads.comparison_eq_none rfl
      have hmore : ∀ k, (p.drafts ++ [b.draft]).length ≤ k → first k = 0 := fun k hk =>
        hfirst k ((List.prefix_append p.drafts [b.draft]).length_le.trans hk)
      obtain ⟨hcourse, hrest⟩ := ih ⟨p.drafts ++ [b.draft], p.made + 1, p.kept + 1⟩ _
        (hadded.congr hquiet) hmore
      exact ⟨hcourse, hextends.trans hrest⟩

/-! ## The end of a generation -/

/-- The panels of a generation and its session before the plugs that are left are dropped. -/
@[irreducible]
def ended : Progress × Session :=
  makeExtras maxExtraPanels
    { drafts := (made config draws config.planned).1
      made := (made config draws config.planned).1.length
      kept := 0 }
    (made config draws config.planned).2

/-- **All panels are coherent.** -/
lemma course_ended :
    Course (mechanismCount config draws) (ended config draws).1.drafts (ended config draws).2 ∧
      Extends (made config draws config.planned).1 (made config draws config.planned).2
        (ended config draws).1.drafts (ended config draws).2 := by
  have hcount : ∀ k, (made config draws config.planned).1.length ≤ k →
      mechanismCount config draws k = 0 := fun k hk =>
    if_neg (not_lt.mpr (length_made config draws config.planned ▸ hk))
  unfold ended
  exact course_makeExtras maxExtraPanels ⟨_, _, 0⟩ _ (course_made config draws le_rfl) hcount

/-- What is made up to a panel is there when later panels are made. -/
lemma made_mono {i j : Nat} (hij : i ≤ j) (hj : j ≤ config.planned) :
    (made config draws i).1 <+: (made config draws j).1 ∧
      (bench (made config draws i).1 (made config draws i).2).Later
        (bench (made config draws j).1 (made config draws j).2) := by
  induction j, hij using Nat.le_induction with
  | base => exact ⟨List.prefix_rfl, .refl _⟩
  | succ j _ ih =>
    obtain ⟨hbefore, hlater⟩ := ih (Nat.le_of_succ_le hj)
    have hsound := (course_made config draws (Nat.le_of_succ_le hj)).sound
    have hpopulated := leads_populated config draws hsound
    have hfinished := leads_finished config draws (hpopulated.sound hsound)
    rw [made_succ]
    refine ⟨hbefore.trans (List.prefix_append _ _), hlater.trans ?_⟩
    exact later_bench (hpopulated.steps.later.trans hfinished.steps.later) _

/-- What is populated is there when later panels are made. -/
lemma later_populated {k j : Nat} (hk : k < j) (hj : j ≤ config.planned) :
    (populated config draws k).scene.Later (bench (made config draws j).1 (made config draws j).2) := by
  have hsound := (course_made config draws (hk.le.trans hj)).sound
  have hfinished := leads_finished config draws ((leads_populated config draws hsound).sound hsound)
  refine .trans ?_ (made_mono config draws hk hj).2
  rw [made_succ]
  exact later_bench hfinished.steps.later _

/-- **The planned panels are the first ones.** -/
lemma getElem?_ended {k : Nat} (hk : k < config.planned) :
    (ended config draws).1.drafts[k]? = some (finished config draws k).draft := by
  have hlast : (made config draws (k + 1)).1[k]? = some (finished config draws k).draft := by
    have hconcat := List.getElem?_concat_length (l := (made config draws k).1)
      (a := (finished config draws k).draft)
    rw [length_made] at hconcat
    rw [made_succ]
    exact hconcat
  have hbefore := (made_mono config draws hk le_rfl).1.trans (course_ended config draws).2.before
  obtain ⟨rest, hrest⟩ := hbefore
  rw [← hrest, List.getElem?_append_left (List.getElem?_eq_some_iff.mp hlast).1]
  exact hlast

/-! ## What a generation leaves -/

namespace Outcome

/-- The ids and origins of the plugs that were put into the pool. -/
def deposits (o : Outcome) : List (String × Nat) := o.events.filterMap Event.deposit?

/-- The ids of the sockets that wait for two halves. -/
def halved (o : Outcome) : List String := o.events.filterMap Event.halved?

end Outcome

lemma quiet_noteDropped : ∀ plugs : List Plug,
    Making.Quiet (liftM (dropPlugs.noteDropped plugs) : Making Unit)
  | [] => .pure trivial
  | _ :: plugs => .bind (.noteSession ⟨rfl, rfl⟩) fun _ _ => quiet_noteDropped plugs

/-- **What a generation leaves** is read off its end. -/
lemma makeAll_eq : makeAll config (config.session draws) =
    (((ended config draws).1, (ended config draws).2.pool.plugs.map (·.element.id)),
      (dropPlugs.noteDropped (ended config draws).2.pool.plugs
        { (ended config draws).2 with pool := {} }).2) := by
  unfold makeAll ended made
  generalize makeExtras maxExtraPanels = extras
  generalize makePlanned config.planned config.planned [] = planned
  rfl

lemma panels_generate : (generate config draws).puzzle.panels =
    (ended config draws).1.drafts.map (·.panel) := by
  unfold generate
  rw [makeAll_eq]

/-- **What a populated panel has, the puzzle has in the same place.** -/
lemma exists_getElem?_generate {k : Nat} (hk : k < config.planned) {place : Nat} {e : Element}
    (he : (populated config draws k).draft.elements[place]? = some e) :
    ∃ panel e', (generate config draws).puzzle.panels[k]? = some panel ∧
      panel.elements[place]? = some e' ∧ e.Keeps e' := by
  have hsound := (course_made config draws hk.le).sound
  have hfinished := leads_finished config draws ((leads_populated config draws hsound).sound hsound)
  obtain ⟨e', he', hkeeps⟩ := hfinished.keeps he
  refine ⟨(finished config draws k).draft.panel, e', ?_, he', hkeeps⟩
  rw [panels_generate, List.getElem?_map, getElem?_ended config draws hk, Option.map_some]

lemma planned_pos : 0 < config.planned := lt_of_lt_of_le Nat.zero_lt_one (le_max_right _ _)

lemma droppedPlugs_generate : (generate config draws).report.droppedPlugs =
    (ended config draws).2.pool.plugs.map (·.element.id) := by
  unfold generate
  rw [makeAll_eq]

/-- To drop plugs is to empty the pool, and to tell of it. -/
lemma bench_makeAll : bench [] (makeAll config (config.session draws)).2 =
    (bench [] (ended config draws).2).withPool 0 := by
  rw [makeAll_eq]
  exact bench_of_quiet (quiet_noteDropped _) [] { (ended config draws).2 with pool := {} }

lemma placements_generate : (generate config draws).report.placements =
    (ended config draws).2.placements := congrArg Scene.placements (bench_makeAll config draws)

lemma deposits_generate : (generate config draws).deposits =
    (bench [] (ended config draws).2).deposits.reverse := by
  rw [Outcome.deposits]
  refine (List.filterMap_reverse ..).trans (congrArg List.reverse ?_)
  exact congrArg Scene.deposits (bench_makeAll config draws)

lemma halved_generate : (generate config draws).halved =
    (bench [] (ended config draws).2).halved.reverse := by
  rw [Outcome.halved]
  refine (List.filterMap_reverse ..).trans (congrArg List.reverse ?_)
  exact congrArg Scene.halved (bench_makeAll config draws)

end PanelPuzzle.Generation
