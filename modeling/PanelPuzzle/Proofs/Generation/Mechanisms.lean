import PanelPuzzle.Proofs.Generation.Panels
import PanelPuzzle.Proofs.Making.Wiring
/-!
# Remote mechanisms of a puzzle

`Desk.Reached` is a desk to which the operations of a generation lead, in whatever order they are applied
and whatever is drawn.  Its mechanisms fill the slots that count as taken, and they are apart.

* `closed_reached`, `carries_reached` — a generation comes to such desks only.
* `mechanisms_stay_apart` — **no panel has more than two mechanisms, and no element is controlled twice.**
-/

namespace PanelPuzzle

open Making Generation

/-- **A desk that is reached** from the first one by techniques, the placing of plugs, legal covers and
traps, and by going on to the next panel. -/
inductive Desk.Reached (config : Config) : Desk → Prop
  | start (draws : Draws) (theme : String) : Reached config (begun 0 theme (config.session draws))
  | require {d : Desk} (required : Bool) : Reached config d → Reached config (d.require required)
  | technique {b : Workbench} (kind : TechniqueKind) : Reached config b.desk →
      Reached config (kind.apply b).2.desk
  | plugs {b : Workbench} (quota : Nat) : Reached config b.desk →
      Reached config (distributePlugs quota b).2.desk
  | cover {b : Workbench} {style : CoverStyle} {target : Nat} :
      style ∈ Cover.legalStyles b.draft target → Reached config b.desk →
      Reached config (style.apply target b).2.desk
  | trap {b : Workbench} : Reached config b.desk → Reached config (Cover.resetTrap b).2.desk
  | next {d : Desk} (theme : String) : Reached config d →
      Reached config (d.renew (d.draft.index + 1) theme)

namespace Desk

variable {config : Config} {d d' : Desk}

/-- On the desk of a new panel there is no mechanism, and what waits is what waited. -/
lemma Wired.renew (h : d.Wired) (index : Nat) (theme : String) : (d.renew index theme).Wired := by
  obtain ⟨ms, hms⟩ := h.wired
  refine ⟨fun c hc => absurd hc List.not_mem_nil, [], rfl, rfl, Nat.zero_le _, ?_⟩
  have hwaiting : (d.renew index theme).loose ≤ d.loose := by
    rw [loose, loose]
    exact add_le_add_left (Multiset.zero_le _) _
  exact hms.given.mono (add_le_add (Multiset.zero_le _) hwaiting) le_rfl

/-- **The mechanisms of a desk that is reached** are apart. -/
lemma Reached.wired (h : d.Reached config) : d.Sound ∧ d.Wired := by
  have hturns : ∀ {d d' : Desk}, d.Sound ∧ d.Wired → d.Turns d' → d'.Sound ∧ d'.Wired :=
    fun hd hturns => ⟨hturns.sound hd.1, hd.2.turns hturns⟩
  induction h with
  | start draws theme =>
    have hnone : Given 0 0 := ⟨Multiset.nodup_zero, fun id hid => absurd hid (Multiset.notMem_zero id)⟩
    exact ⟨(ready_session config draws theme).sound, fun c hc => absurd hc List.not_mem_nil,
      [], rfl, rfl, Nat.zero_le _, hnone⟩
  | require required _ ih => exact hturns ih (.single .require)
  | @technique b kind _ ih => exact hturns ih (Turning.technique kind _ ih.1 b rfl)
  | @plugs b quota _ ih => exact hturns ih (works_distributePlugs quota ih.1 b rfl).1
  | @cover b _ _ hlegal _ ih => exact hturns ih (works_style ih.1 hlegal b rfl)
  | @trap b _ ih => exact hturns ih (Turning.resetTrap _ ih.1 b rfl)
  | next theme _ ih => exact ⟨⟨ih.1.plain, ih.1.colored, ih.1.small⟩, ih.2.renew _ theme⟩

end Desk

namespace Generation

variable (config : Config) (draws : Draws)

lemma closed_reached : Closed (Desk.Reached config) where
  require required hd := hd.require required
  technique kind := by
    rintro _ hd b rfl
    exact hd.technique kind
  plugs quota := by
    rintro _ hd b rfl
    exact hd.plugs quota
  cover hlegal hd := by
    rintro b rfl
    exact hd.cover hlegal
  trap := by
    rintro _ hd b rfl
    exact hd.trap

/-- **A generation comes to desks that are reached.** -/
lemma carries_reached :
    Carries config (Desk.Reached config) fun draft => ∃ d : Desk, d.Reached config ∧ d.draft = draft := by
  have hnext : ∀ {d d' : Desk}, d.Turns d' → d'.Reached config →
      (∃ d : Desk, d.Reached config ∧ d.draft = d'.draft) ∧
        ∀ theme, (d'.renew (d.draft.index + 1) theme).Reached config := fun hturns hreached =>
    ⟨⟨_, hreached, rfl⟩, fun theme => hturns.index_eq ▸ hreached.next theme⟩
  refine ⟨.start, fun d hd _ hreached => ?_, fun d hd _ hreached hpool => ?_⟩
  · have hmade := Turning.makePanel config.planned d hd.sound
    exact (hmade.and ((closed_reached config).makePanel _ d hreached)).weaken fun _ d' h => hnext h.1 h.2
  · have hmade := works_makeExtra hd.sound hd.grid_eq hpool fun q hq => (hd.earlier q hq).ne
    exact (hmade.and ((closed_reached config).makeExtra d hreached)).weaken fun _ d' h => hnext h.1.1 h.2

/-- **Remote mechanisms are complete, few and apart.**  Each panel of the puzzle is that of a desk that is
reached.  On every such desk the buttons that move elements form complete quartets, there are two
mechanisms at most, no element is controlled by two, and there are as many as slots count as taken. -/
theorem mechanisms_stay_apart :
    (∀ panel ∈ (generate config draws).puzzle.panels, panel.WellControlled ∧
      ∃ d : Desk, d.Reached config ∧ d.draft.panel = panel) ∧
    ∀ d : Desk, d.Reached config →
      d.draft.panel.WellControlled ∧ d.draft.panel.remoteCount = d.draft.remoteSets := by
  refine ⟨fun panel hpanel => ?_, fun d hd => hd.wired.2.wellControlled⟩
  rw [panels_generate] at hpanel
  obtain ⟨draft, hdraft, rfl⟩ := List.mem_map.mp hpanel
  obtain ⟨d, hd, rfl⟩ := ((carries_reached config).ended draws).1.drafts draft hdraft
  exact ⟨hd.wired.2.wellControlled.1, d, hd, rfl⟩

/-- A tumbler under a lid that four buttons move. -/
theorem mechanisms_stay_apart_lid :
    (∃ panel ∈ (generate {} (.ofWords fun _ => 0)).puzzle.panels, panel.WellControlled) ∧
    ∃ d : Desk, d.Reached {} ∧ d.draft.panel.WellControlled ∧ d.draft.panel.remoteCount = 1 ∧
      d.draft.remoteSets = 1 := by
  obtain ⟨hpanels, hreached⟩ := mechanisms_stay_apart {} (.ofWords fun _ => 0)
  refine ⟨?_, ?_⟩
  · obtain ⟨panel, hpanel⟩ := List.exists_mem_of_ne_nil _ (panels_ne_nil {} (.ofWords fun _ => 0))
    exact ⟨panel, hpanel, (hpanels panel hpanel).1⟩
  · have hnew : Desk.Reached {} (begun 0 "blue" (Config.session {} (.ofWords fun _ => 0))) := .start _ _
    have hlegal : CoverStyle.physical ∈ Cover.legalStyles (TechniqueKind.tumbler.apply
        ⟨.new 0 "blue", Config.session {} (.ofWords fun _ => 0)⟩).2.draft 0 := by decide +kernel
    have hsets : (CoverStyle.physical.apply 0 (TechniqueKind.tumbler.apply
        ⟨.new 0 "blue", Config.session {} (.ofWords fun _ => 0)⟩).2).2.draft.remoteSets = 1 := by
      decide +kernel
    have hlid := Desk.Reached.cover hlegal (.technique .tumbler hnew)
    obtain ⟨hwell, hcount⟩ := hreached _ hlid
    exact ⟨_, hlid, hwell, hcount.trans hsets, hsets⟩

end Generation

end PanelPuzzle
