import PanelPuzzle.Proofs.Cover.WrongSizes
import PanelPuzzle.Proofs.Generation.Exact
import PanelPuzzle.Proofs.Generation.Laying
/-!
# Wrong sizes can be brought back

A size cover is applied to what is reached by the operations of a generation, so all sizes that it meets have
two decimals and all cells lie in the grid.

* `Workbench.Themed` — a workbench that is reached on panels with themes of the palette.
* `Generation.themed_drafts` — the drafts of every generation come from there.
* `Generation.wrong_size_is_reversible` — **a size cover goes along a cycle, stays in its cells and is never
  applied again.**
-/

namespace PanelPuzzle

open Generation

/-! ## Workbenches -/

/-- **A workbench that is reached on panels with themes of the palette,** in whatever order operations are
applied and whatever is drawn. -/
inductive Workbench.Themed : Workbench → Prop
  | start (index : Nat) {theme : String} {s : Session} : theme ∈ Palette.themes → s.pool = {} →
    Themed ⟨.new index theme, s⟩
  | run {b : Workbench} (op : Operation) : Themed b → Themed (op.run b).2
  /-- A draft goes on with any session in which the plugs of the same or another one wait. -/
  | resume {b b' : Workbench} {s : Session} : Themed b → Themed b' →
    s.pool.plugs.Perm b'.session.pool.plugs → Themed ⟨b.draft, s⟩

/-- **Every operation keeps everything exact.** -/
lemma Making.KeepsExact.operation : ∀ op : Operation, KeepsExact op.run
  | .technique kind => bind (technique kind) fun _ _ => done _
  | .plugs quota => bind (distributePlugs quota) fun _ _ => done _
  | .cover kind target => bind (style target kind) fun _ _ => done _
  | .trap => bind resetTrap fun _ _ => done _

namespace Workbench.Themed

variable {b b' : Workbench}

/-- **What is reached is exact.** -/
lemma exact (h : b.Themed) : b.Exact := by
  induction h with
  | start index htheme hpool =>
    refine ⟨.new index htheme, fun plug hplug => ?_⟩
    rw [hpool] at hplug
    exact absurd hplug List.not_mem_nil
  | run op _ ih => exact (Making.KeepsExact.operation op _ ih).2
  | resume _ _ hperm ih ih' =>
    exact ⟨ih.draft, fun plug hplug => ih'.session plug (hperm.mem_iff.mp hplug)⟩

/-- Only the draft and the plugs that wait matter. -/
lemma alike (h : b.Themed) (hdraft : b'.draft = b.draft) (hpool : b'.desk.pool = b.desk.pool) :
    b'.Themed := by
  obtain ⟨draft, s⟩ := b'
  obtain rfl : draft = b.draft := hdraft
  exact .resume h h (Multiset.coe_eq_coe.mp hpool)

end Workbench.Themed

namespace Generation

open Making

/-! ## The drafts of a generation -/

/-- All workbenches with a desk are reached. -/
def OnThemed (d : Desk) : Prop := ∀ b : Workbench, b.desk = d → b.Themed

lemma onThemed_run {b : Workbench} (op : Operation) (h : OnThemed b.desk) : OnThemed (op.run b).2.desk :=
  fun _ hb => (Workbench.Themed.run op (h b rfl)).alike (congrArg Desk.draft hb) (congrArg Desk.pool hb)

lemma closed_onThemed : Closed OnThemed where
  require {d} _ h b hb :=
    (h ⟨b.draft, { b.session with requirePlug := d.requirePlug }⟩
      (congrArg (Desk.require · d.requirePlug) hb)).alike rfl rfl
  technique kind := by
    rintro _ h b rfl
    exact onThemed_run (.technique kind) h
  plugs quota := by
    rintro _ h b rfl
    exact onThemed_run (.plugs quota) h
  cover _ h := by
    rintro b rfl
    exact onThemed_run (.cover _ _) h
  trap := by
    rintro _ h b rfl
    exact onThemed_run .trap h

/-- Plugs wait that come from what is reached. -/
def PlugsThemed (s : Session) : Prop := ∃ b : Workbench, b.Themed ∧ s.pool.plugs.Perm b.session.pool.plugs

/-- **A panel with a theme of the palette** is reached by what is made on it. -/
lemma themed_onDraft {α : Type} {act : Making α} (hact : Keeping OnThemed act) (index : Nat) {theme : String}
    (htheme : theme ∈ Palette.themes) :
    Keeps PlugsThemed (onDraft (.new index theme) act) fun made => ∃ s, Workbench.Themed ⟨made.2, s⟩ := by
  rintro s ⟨b, hb, hperm⟩
  have hnew : Workbench.Themed ⟨.new index theme, { s with pool := {} }⟩ := .start index htheme rfl
  have hstart : Workbench.Themed ⟨.new index theme, s⟩ := .resume hnew hb hperm
  have hbegun : OnThemed (begun index theme s) := fun _ hdesk =>
    hstart.alike (congrArg Desk.draft hdesk) (congrArg Desk.pool hdesk)
  have hmade : (act ⟨.new index theme, s⟩).2.Themed := hact _ hbegun _ rfl _ rfl
  exact ⟨⟨_, hmade⟩, _, hmade, .refl _⟩

lemma makes_themed : Makes PlugsThemed fun d => ∃ s, Workbench.Themed ⟨d, s⟩ where
  congr hpool := fun ⟨b, hb, hperm⟩ => ⟨b, hb, hpool ▸ hperm⟩
  planned planned index _ htheme := themed_onDraft (closed_onThemed.makePanel planned) index htheme
  extra index _ htheme := themed_onDraft closed_onThemed.makeExtra index htheme

/-- **The drafts of every generation** are reached. -/
theorem themed_drafts (config : Config) (draws : Draws) :
    ∀ d ∈ drafts config draws, ∃ s, Workbench.Themed ⟨d, s⟩ := by
  have hblue : "blue" ∈ Palette.themes := by decide
  have hnew : Workbench.Themed ⟨.new 0 "blue", config.session draws⟩ := .start 0 hblue rfl
  exact makes_themed.of_mem_drafts ⟨_, hnew, .refl _⟩

/-! ## The result -/

/-- **A size cover can be undone, stays in its cells and is applied once.**  The element is as high as wide
and has a size of the cycle, before and after.  It gets another one of them, and one button goes through the
cycle.  Whatever covers come later, the same coverable does not get a wrong size again. -/
theorem wrong_size_is_reversible {b : Workbench} (hb : b.Themed) {target : Nat} {c : Coverable}
    (hc : b.draft.coverables[target]? = some c) (hlegal : Cover.canObscureSize b.draft c = true)
    (s : Session) (happlied : (Cover.sizeObscure target ⟨b.draft, s⟩).1 = true) :
    b.draft.Missizes (Cover.sizeObscure target ⟨b.draft, s⟩).2.draft c ∧
    ∀ d, (Cover.sizeObscure target ⟨b.draft, s⟩).2.draft.Covered d →
      ∃ c', d.coverables[target]? = some c' ∧ c.Marked c' ∧ Cover.canObscureSize d c' = false := by
  obtain ⟨hmissizes, hobscured⟩ := works_missizes (d := Workbench.desk ⟨b.draft, s⟩) hc hlegal
    hb.exact.draft ⟨b.draft, s⟩ rfl happlied
  refine ⟨hmissizes, fun d hcovered => ?_⟩
  obtain ⟨c', hc', hmarked⟩ := hcovered.marks.marked target _ hobscured
  exact ⟨c', hc', (Coverable.Marked.obscure c).trans hmarked,
    not_canObscureSize d (hmarked.sizeObscured rfl)⟩

/-- The workbench of a panel with a tumbler. -/
def tumblerBench : Workbench :=
  ((Operation.technique .tumbler).run ⟨.new 0 "blue", Config.session {} (.ofWords fun _ => 0)⟩).2

/-- A tumbler of size two starts with size one. -/
theorem wrong_size_is_reversible_tumbler : tumblerBench.Themed ∧
    ∃ c, tumblerBench.draft.coverables[0]? = some c ∧ Cover.canObscureSize tumblerBench.draft c = true ∧
      (Cover.sizeObscure 0 tumblerBench).1 = true ∧
      tumblerBench.draft.elements.map (·.width) = [2] ∧
      (Cover.sizeObscure 0 tumblerBench).2.draft.elements.map (·.width) = [1, 0.8] ∧
      tumblerBench.draft.Missizes (Cover.sizeObscure 0 tumblerBench).2.draft c ∧
      ∀ d, (Cover.sizeObscure 0 tumblerBench).2.draft.Covered d →
        ∃ c', d.coverables[0]? = some c' ∧ c.Marked c' ∧ Cover.canObscureSize d c' = false := by
  have hb : tumblerBench.Themed := .run _ (.start 0 (by decide) rfl)
  obtain ⟨c, hc, hlegal⟩ : ∃ c ∈ tumblerBench.draft.coverables[0]?,
      Cover.canObscureSize tumblerBench.draft c = true := by decide +kernel
  have happlied : (Cover.sizeObscure 0 tumblerBench).1 = true := by decide +kernel
  exact ⟨hb, c, hc, hlegal, happlied, by decide +kernel, by decide +kernel,
    wrong_size_is_reversible hb hc hlegal tumblerBench.session happlied⟩

end Generation

end PanelPuzzle
