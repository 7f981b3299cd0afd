import PanelPuzzle.Proofs.Generation.Course
import PanelPuzzle.Proofs.Generation.ExtraPanels
/-!
# What holds on every panel

`Desk.Ready` says what holds whenever a panel is begun: it is empty, and all plugs that wait come from
earlier panels.  So every plug may go to the panel, and an extra panel always holds one.

* `Carries` — what each panel keeps for the next one, and what it leaves on its draft.
* `Carries.ended` — it holds at the end, and of all drafts.
* `extra_panels_hold_plugs` — **extra panels make progress:** none of them is given up.
-/

namespace PanelPuzzle

/-- The desk of a new panel, after another one. -/
def Desk.renew (d : Desk) (index : Nat) (theme : String) : Desk := { d with draft := .new index theme }

/-- **What holds when a panel is begun.** -/
structure Desk.Ready (difficulty : Difficulty) (d : Desk) : Prop where
  sound : d.Sound
  profile : d.profile = .ofDifficulty difficulty
  fresh : ∃ theme, d.draft = .new d.draft.index theme
  earlier : ∀ p ∈ d.pool, p.origin < d.draft.index

namespace Desk.Ready

variable {difficulty : Difficulty} {d d' : Desk}

lemma grid_eq (h : d.Ready difficulty) : d.draft.grid = Grid.empty := by
  obtain ⟨theme, hfresh⟩ := h.fresh
  rw [hfresh]
  rfl

lemma varied (h : d.Ready difficulty) : d.profile.Varied := by
  rw [h.profile]
  exact Profile.varied_ofDifficulty difficulty

/-- **After a panel the next one can be begun.** -/
lemma renew (h : d.Ready difficulty) (hturns : d.Turns d') (theme : String) :
    (d'.renew (d.draft.index + 1) theme).Ready difficulty := by
  have hsound := hturns.sound h.sound
  have hpast := hturns.past fun p hp => (h.earlier p hp).le
  refine ⟨⟨hsound.plain, hsound.colored, hsound.small⟩, hturns.profile_eq.trans h.profile, ⟨theme, rfl⟩,
    fun p hp => Nat.lt_succ_of_le ?_⟩
  exact (hpast p hp).trans hturns.index_eq.le

end Desk.Ready

namespace Generation

open Making

/-- The desk on which a panel is begun. -/
def begun (index : Nat) (theme : String) (s : Session) : Desk := (⟨.new index theme, s⟩ : Workbench).desk

lemma exists_begun (drafts : List Draft) (event : String → Event) (s : Session) :
    ∃ theme, (openPanel drafts event s).desk = begun drafts.length theme s := by
  unfold openPanel
  generalize pickTheme drafts = draw
  exact ⟨(draw s.draws).1, rfl⟩

/-- A part of the making that leaves the desk leaves the next one. -/
lemma begun_of_still {α : Type} {act : StateM Session α} (h : Still (liftM act : Making α)) (index : Nat)
    (theme : String) (s : Session) : begun index theme (act s).2 = begun index theme s :=
  (h ⟨.new index theme, s⟩).2

lemma ready_session (config : Config) (draws : Draws) (theme : String) :
    (begun 0 theme (config.session draws)).Ready config.difficulty := by
  have hnone : ∀ {P : Plug → Prop}, ∀ p ∈ (begun 0 theme (config.session draws)).pool, P p :=
    fun p hp => absurd hp (Multiset.notMem_zero p)
  exact ⟨⟨hnone, hnone, hnone⟩, rfl, ⟨theme, rfl⟩, hnone⟩

/-! ## What panels carry on -/

/-- **What each panel keeps for the next one,** and what it leaves on its draft. -/
structure Carries (config : Config) (I : Desk → Prop) (J : Draft → Prop) : Prop where
  start : ∀ draws theme, I (begun 0 theme (config.session draws))
  planned : ∀ d : Desk, d.Ready config.difficulty → d.draft.index < config.planned → I d →
    Works d (makePanel config.planned) fun _ d' =>
      J d'.draft ∧ ∀ theme, I (d'.renew (d.draft.index + 1) theme)
  extra : ∀ d : Desk, d.Ready config.difficulty → config.planned ≤ d.draft.index → I d → d.pool ≠ 0 →
    Works d makeExtra fun _ d' => J d'.draft ∧ ∀ theme, I (d'.renew (d.draft.index + 1) theme)

/-- What holds between two panels. -/
structure Carried (config : Config) (I : Desk → Prop) (J : Draft → Prop) (drafts : List Draft)
    (s : Session) : Prop where
  ready : ∀ theme, (begun drafts.length theme s).Ready config.difficulty
  next : ∀ theme, I (begun drafts.length theme s)
  drafts : ∀ draft ∈ drafts, J draft

namespace Carried

variable {config : Config} {I : Desk → Prop} {J : Draft → Prop} {drafts : List Draft} {s : Session}

/-- **A panel is added.** -/
lemma add (h : Carried config I J drafts s) {α : Type} {act : Making α} {b : Workbench}
    (event : String → Event) (hb : b = (act (openPanel drafts event s)).2)
    (hact : ∀ d : Desk, d.Ready config.difficulty → d.draft.index = drafts.length →
      d.pool = s.pool.plugs → I d →
      Works d act fun _ d' => d.Turns d' ∧ J d'.draft ∧ ∀ theme, I (d'.renew (d.draft.index + 1) theme)) :
    Carried config I J (drafts ++ [b.draft]) b.session := by
  obtain ⟨theme, hbegun⟩ := exists_begun drafts event s
  obtain ⟨hturns, hdraft, hnext⟩ :=
    hact _ (h.ready theme) rfl rfl (h.next theme) (openPanel drafts event s) hbegun
  rw [← hb] at hturns hdraft hnext
  have hlength : (drafts ++ [b.draft]).length = drafts.length + 1 := by
    rw [List.length_append, List.length_singleton]
  refine ⟨fun theme' => ?_, fun theme' => ?_, List.forall_mem_append.mpr ⟨h.drafts, ?_⟩⟩
  · rw [hlength]
    exact (h.ready theme).renew hturns theme'
  · rw [hlength]
    exact hnext theme'
  · exact List.forall_mem_singleton.mpr hdraft

lemma congr (h : Carried config I J drafts s) {α : Type} {act : StateM Session α}
    (hact : Still (liftM act : Making α)) : Carried config I J drafts (act s).2 := by
  refine ⟨fun theme => ?_, fun theme => ?_, h.drafts⟩
  · rw [begun_of_still hact]
    exact h.ready theme
  · rw [begun_of_still hact]
    exact h.next theme

end Carried

variable (config : Config) (draws : Draws)

lemma finished_eq (k : Nat) :
    finished config draws k = (makePanel config.planned (opened config draws k)).2 := by
  unfold finished populated
  rw [makePanel_eq, Making.bind_apply]

variable {config} {I : Desk → Prop} {J : Draft → Prop}

/-- Planned panels carry on. -/
lemma Carries.made (h : Carries config I J) {k : Nat} (hk : k ≤ config.planned) :
    Carried config I J (made config draws k).1 (made config draws k).2 := by
  induction k with
  | zero =>
    have hbegun : ∀ theme, begun 0 theme (Generation.made config draws 0).2
        = begun 0 theme (config.session draws) := fun theme => by
      unfold Generation.made
      rfl
    rw [List.length_eq_zero_iff.mp (length_made config draws 0)]
    refine ⟨fun theme => ?_, fun theme => ?_, fun _ hdraft => absurd hdraft List.not_mem_nil⟩
    · exact hbegun theme ▸ ready_session config draws theme
    · exact hbegun theme ▸ h.start draws theme
  | succ k ih =>
    rw [made_succ]
    refine (ih (Nat.le_of_succ_le hk)).add (.panel (Generation.made config draws k).1.length)
      (finished_eq config draws k) fun d hd hindex _ hI => ?_
    rw [length_made] at hindex
    exact .and (Turning.makePanel _ d hd.sound) (h.planned d hd (hindex.trans_lt hk) hI)

/-- **An extra panel holds a plug.** -/
lemma pos_extraPanel {p : Progress} {s : Session}
    (hready : ∀ theme, (begun p.drafts.length theme s).Ready config.difficulty)
    (hpool : s.pool.isEmpty = false) : 0 < (extraPanel p s).1 := by
  obtain ⟨theme, hbegun⟩ := exists_begun p.drafts (.extraPanel p.drafts.length · s.pool.size) s
  have hd := hready theme
  have hsome : (begun p.drafts.length theme s).pool ≠ 0 := fun hnil => by
    rw [PlugPool.isEmpty, List.isEmpty_iff.mpr (Multiset.coe_eq_zero _ |>.mp hnil)] at hpool
    cases hpool
  have hmade := works_makeExtra hd.sound hd.grid_eq hsome (fun q hq => (hd.earlier q hq).ne)
  unfold extraPanel
  exact (hmade _ hbegun).2.2.1

/-- What extra panels come to: `n` more of them are made, and all of them are kept.  Plugs are left only
if there are as many as there may be. -/
structure Grown (count n : Nat) (p p' : Progress) (s' : Session) : Prop where
  le : n ≤ count
  drafts : p'.drafts.length = p.drafts.length + n
  made : p'.made = p.made + n
  kept : p'.kept = p.kept + n
  rest : s'.pool.plugs ≠ [] → n = count

/-- **Extra panels carry on,** and make progress. -/
lemma Carries.makeExtras (h : Carries config I J) : ∀ (count : Nat) (p : Progress) (s : Session),
    Carried config I J p.drafts s → config.planned ≤ p.drafts.length →
      Carried config I J (makeExtras count p s).1.drafts (makeExtras count p s).2 ∧
        ∃ n, Grown count n p (makeExtras count p s).1 (makeExtras count p s).2
  | 0, p, s, hs, _ => ⟨hs, 0, le_rfl, rfl, rfl, rfl, fun _ => rfl⟩
  | count + 1, p, s, hs, hplanned => by
    rw [makeExtras_succ]
    cases hempty : s.pool.isEmpty with
    | true =>
      rw [if_pos rfl]
      refine ⟨hs, 0, Nat.zero_le _, rfl, rfl, rfl, fun hrest => absurd ?_ hrest⟩
      exact List.isEmpty_iff.mp hempty
    | false =>
      rw [if_neg Bool.false_ne_true, if_neg (Nat.ne_of_gt (pos_extraPanel hs.ready hempty))]
      have hadded : Carried config I J (p.drafts ++ [(extraPanel p s).2.draft])
          (extraPanel p s).2.session := by
        have hb : (extraPanel p s).2 =
            (makeExtra (openPanel p.drafts (.extraPanel p.drafts.length · s.pool.size) s)).2 := by
          unfold extraPanel
          rfl
        refine hs.add _ hb fun d hd hindex hpool hI => ?_
        have hsome : d.pool ≠ 0 := fun hnil => by
          rw [PlugPool.isEmpty, List.isEmpty_iff.mpr (Multiset.coe_eq_zero _ |>.mp (hpool ▸ hnil))]
            at hempty
          cases hempty
        refine .and ?_ (h.extra d hd (hindex ▸ hplanned) hI hsome)
        exact (works_makeExtra hd.sound hd.grid_eq hsome fun q hq => (hd.earlier q hq).ne).weaken
          fun _ _ hmade => hmade.1
      generalize extraPanel p s = panel at hadded ⊢
      obtain ⟨hcarried, n, hgrown⟩ := h.makeExtras count
        { drafts := p.drafts ++ [panel.2.draft], made := p.made + 1, kept := p.kept + 1 } _
        (hadded.congr (.noteRows panel.2.draft.grid.rows))
        (hplanned.trans (List.prefix_append p.drafts [panel.2.draft]).length_le)
      refine ⟨hcarried, n + 1, Nat.succ_le_succ hgrown.le, ?_, ?_, ?_, fun hrest => ?_⟩
      · rw [hgrown.drafts, List.length_append, List.length_singleton, Nat.add_assoc, Nat.add_comm 1]
      · rw [hgrown.made, Nat.add_assoc, Nat.add_comm 1]
      · rw [hgrown.kept, Nat.add_assoc, Nat.add_comm 1]
      · rw [hgrown.rest hrest]

/-- **What each panel carries on holds at the end,** and every draft is as it is left. -/
theorem Carries.ended (h : Carries config I J) :
    Carried config I J (ended config draws).1.drafts (ended config draws).2 ∧
      ∃ n, (ended config draws).1.drafts.length = config.planned + n ∧
        (ended config draws).1.made = config.planned + n ∧ (ended config draws).1.kept = n ∧
        n ≤ maxExtraPanels ∧ ((ended config draws).2.pool.plugs ≠ [] → n = maxExtraPanels) := by
  unfold Generation.ended
  have hlength := length_made config draws config.planned
  obtain ⟨hcarried, n, hgrown⟩ := h.makeExtras maxExtraPanels
    { drafts := (Generation.made config draws config.planned).1
      made := (Generation.made config draws config.planned).1.length
      kept := 0 } _ (h.made draws le_rfl) hlength.ge
  refine ⟨hcarried, n, ?_, ?_, ?_, hgrown.le, hgrown.rest⟩
  · rw [hgrown.drafts, hlength]
  · rw [hgrown.made, hlength]
  · rw [hgrown.kept, Nat.zero_add]

/-! ## Progress -/

/-- From the panel `first` on every panel holds a plug. -/
def Held (first : Nat) (d : Desk) : Prop :=
  ∀ k, first ≤ k → k < d.draft.index → ∃ q ∈ d.placements, q.panel = k

/-- **Extra panels go on holding plugs.** -/
lemma carries_held (config : Config) : Carries config (Held config.planned) fun _ => True where
  start draws theme k _ hk := absurd hk (Nat.not_lt_zero k)
  planned d hd hindex hheld := by
    refine (Turning.makePanel _ d hd.sound).weaken
      fun _ d' hturns => ⟨trivial, fun theme k hfirst hk => ?_⟩
    exact absurd (hfirst.trans (Nat.lt_succ_iff.mp hk)) (not_le.mpr hindex)
  extra d hd hindex hheld hpool := by
    refine (works_makeExtra hd.sound hd.grid_eq hpool fun q hq => (hd.earlier q hq).ne).weaken
      fun _ d' hmade => ⟨trivial, fun theme k hfirst hk => ?_⟩
    obtain ⟨hturns, -, -, hholds⟩ := hmade
    obtain hlt | rfl := Nat.lt_succ_iff_lt_or_eq.mp hk
    · obtain ⟨q, hq, hpanel⟩ := hheld k hfirst hlt
      exact ⟨q, hturns.placements_isPrefix.subset hq, hpanel⟩
    · exact hholds

variable (config)

lemma report_generate : (generate config draws).report.panelIterations = (ended config draws).1.made ∧
    (generate config draws).report.lastResortPanels = (ended config draws).1.kept ∧
    (generate config draws).report.claims = (ended config draws).1.drafts.map (·.grid.claims) := by
  unfold generate
  rw [makeAll_eq]
  exact ⟨rfl, rfl, rfl⟩

/-- Every puzzle has a panel. -/
lemma panels_ne_nil : (generate config draws).puzzle.panels ≠ [] :=
  List.map_eq_nil_iff.not.mpr (drafts_ne_nil config draws)

/-- **Extra panels make progress.**  All panels that are made are kept, and every extra one holds a plug.
There are at most eight of those, and plugs are dropped only after the eighth. -/
theorem extra_panels_hold_plugs :
    (generate config draws).report.panelIterations = (generate config draws).puzzle.panels.length ∧
    (generate config draws).report.claims.length = (generate config draws).puzzle.panels.length ∧
    (generate config draws).puzzle.panels.length =
      config.planned + (generate config draws).report.lastResortPanels ∧
    (generate config draws).report.lastResortPanels ≤ 8 ∧
    ((generate config draws).report.droppedPlugs ≠ [] →
      (generate config draws).report.lastResortPanels = 8) ∧
    ∀ k, config.planned ≤ k → k < (generate config draws).puzzle.panels.length →
      ∃ q ∈ (generate config draws).report.placements, q.panel = k := by
  obtain ⟨hcarried, n, hlength, hmade, hkept, hmost, hrest⟩ := (carries_held config).ended draws
  obtain ⟨hiterations, hextra, hclaims⟩ := report_generate config draws
  rw [hiterations, hextra, hclaims, panels_generate, droppedPlugs_generate, placements_generate,
    List.length_map, List.length_map, hlength, hmade, hkept]
  refine ⟨rfl, rfl, rfl, hmost, fun hdropped => hrest fun hnil => hdropped ?_, fun k hfirst hk => ?_⟩
  · rw [hnil, List.map_nil]
  · exact hcarried.next "" k hfirst (hk.trans_eq hlength.symm)

end Generation

end PanelPuzzle
