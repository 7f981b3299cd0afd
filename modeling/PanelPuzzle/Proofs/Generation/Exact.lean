import PanelPuzzle.Proofs.Cover.Exact
import PanelPuzzle.Proofs.Generation.Tiling
import PanelPuzzle.Proofs.PuzzleText.Accepted
/-!
# Generated puzzles survive their text

The text of a generated puzzle is read as that very puzzle, without a warning:
`Generation.read_text_generate`.

Everything that fills a panel keeps its elements exact, so all drafts of a generation are
(`exact_drafts`), and exact elements are told by their text.  What is left is the heading, which has
to be one that a text can have.
-/

namespace PanelPuzzle

namespace Making.KeepsExact

open Cover Generation

/-! ## Covering a panel -/

lemma covering : Covering Workbench.Exact where
  drawn _ h := ⟨h.draft, h.session⟩
  noted _ _ _ h := ⟨h.draft, h.session⟩
  cover _ h := (KeepsExact.style _ _ _ h).2
  trap h := (resetTrap _ h).2

lemma addCoverings (probability : Number) : KeepsExact (Cover.addCoverings probability) :=
  covering.keeps_addCoverings probability

/-! ## Plugs -/

/-- **A ready plug** is placed in the middle of its cells. -/
lemma placePlug {plug : Plug} (h : plug.element.Ready) : KeepsExact (Generation.placePlug plug) := by
  refine bind (allocate _ _ _) fun found hfound => ?_
  cases found with
  | none => exact bind (note _) fun _ _ => done _
  | some r =>
    obtain ⟨hr, hw, hh⟩ := hfound r rfl
    have hcentered := h.exact_centered hr hw.ge hh.ge
    have hplaced : Element.Exact (if plug.remote then
        { plug.element.centered r with method := .none } else plug.element.centered r) := by
      split
      · exact hcentered.look _ _ _ _
      · exact hcentered
    refine bind (push hplaced) fun place _ => ?_
    extract_lets settled
    have hsettled : ∀ controlled, KeepsExact (settled controlled) := by
      intro controlled
      unfold settled
      extract_lets recorded
      have hrecorded : ∀ u, KeepsExact (recorded u) := by
        intro u
        refine bind draft fun d _ => bind (cover _ _) fun _ _ => ?_
        refine bind (modifyCoverable _ fun _ => rfl) fun _ _ => ?_
        exact bind (note _) fun _ _ => done _
      split
      · refine bind (note _) fun _ _ => ?_
        exact bind (modifyElement place fun _ he => he.look _ _ _ _) fun u _ => hrecorded u
      · exact hrecorded ()
    split
    · exact bind (addControllers h.regular.isElementId) fun controlled _ => hsettled controlled
    · exact bind (done false) fun controlled _ => hsettled controlled

lemma depositAll {plugs : List Plug} (h : ∀ plug ∈ plugs, plug.element.Ready) :
    Keeps Session.Exact (Generation.depositAll plugs) fun _ => True := by
  induction plugs with
  | nil => exact .pure trivial
  | cons plug plugs ih =>
    obtain ⟨hplug, hplugs⟩ := List.forall_mem_cons.mp h
    exact .bind (Session.keeps_deposit hplug) fun _ _ => ih hplugs

lemma takePlugs (quota : Nat) : KeepsExact (Generation.takePlugs quota) fun taken =>
    ∀ plug ∈ taken.2, plug.element.Ready := by
  induction quota with
  | zero => exact pure fun plug hplug => absurd hplug List.not_mem_nil
  | succ quota ih =>
    refine bind draft fun d _ => bind (session (Session.keeps_withdrawWhere _ _)) fun plug hplug => ?_
    cases plug with
    | none => exact pure fun plug hplug => absurd hplug List.not_mem_nil
    | some plug =>
      have hready := (hplug plug rfl).1
      refine bind (placePlug hready) fun placed _ => ?_
      split
      · refine bind (session (Session.keeps_recordPlacement _ _)) fun _ _ => ?_
        exact bind ih fun taken htaken => pure htaken
      · refine bind ih fun taken htaken => pure ?_
        exact List.forall_mem_cons.mpr ⟨hready, htaken⟩

lemma distributePlugs (quota : Nat) : KeepsExact (Generation.distributePlugs quota) :=
  bind (takePlugs quota) fun _ htaken => bind (session (depositAll htaken)) fun _ _ => done _

/-! ## Filling a panel -/

lemma applyAll (kinds : List TechniqueKind) : KeepsExact (Generation.applyAll kinds) := by
  induction kinds with
  | nil => exact done _
  | cons kind kinds ih => exact bind (technique kind) fun _ _ => bind (note _) fun _ _ => ih

lemma addHoles (attempts : Nat) : KeepsExact (Generation.addHoles attempts) := by
  induction attempts with
  | zero => exact done _
  | succ attempts ih =>
    refine bind readSession fun s _ => ?_
    split
    · exact bind (technique .hole) fun _ _ => ih
    · exact done _

lemma setRequirePlug (required : Bool) :
    KeepsExact (liftM (Generation.setRequirePlug required) : Making Unit) :=
  session fun _ hs => ⟨trivial, hs⟩

lemma populate : KeepsExact Generation.populate := by
  refine bind draft fun d _ => bind readSession fun s _ => bind (draws _) fun kinds _ => ?_
  refine bind (setRequirePlug _) fun _ _ => bind (applyAll kinds) fun _ _ => ?_
  extract_lets settled
  split
  · exact bind (addHoles _) fun _ _ => setRequirePlug false
  · exact setRequirePlug false

lemma ensureGoal : KeepsExact Generation.ensureGoal := by
  refine bind draft fun d _ => ?_
  split
  · exact bind (note _) fun _ _ => bind (technique .switch) fun _ _ => done _
  · exact done _

lemma makePanel (planned : Nat) : KeepsExact (Generation.makePanel planned) := by
  refine bind populate fun _ _ => bind draft fun d _ => bind readSession fun s _ => ?_
  refine bind (distributePlugs _) fun placed _ => bind readSession fun s' _ => ?_
  refine bind (note _) fun _ _ => bind ensureGoal fun _ _ => bind readSession fun _ _ => ?_
  exact bind (addCoverings _) fun _ _ => bind draft fun d _ => session (noteRows _)

lemma makeExtra : KeepsExact Generation.makeExtra :=
  bind (technique .switch) fun _ _ => bind readSession fun _ _ => distributePlugs _

end Making.KeepsExact

namespace Generation

/-! ## The drafts of a generation -/

/-- A computation that keeps everything exact leaves an exact draft when it starts from an empty
one. -/
lemma exact_onDraft {α : Type} {act : Making α} (h : Making.KeepsExact act) (index : Nat)
    {theme : String} (htheme : theme ∈ Palette.themes) :
    Keeps Session.Exact (onDraft (.new index theme) act) fun made => made.2.Exact := by
  intro s hs
  obtain ⟨-, hdraft, hsession⟩ := h ⟨.new index theme, s⟩ ⟨.new index htheme, hs⟩
  exact ⟨hdraft, hsession⟩

lemma makes_exact : Makes Session.Exact Draft.Exact where
  congr hpool hs plug hplug := hs plug (hpool ▸ hplug)
  planned planned index _ htheme := exact_onDraft (.makePanel planned) index htheme
  extra index _ htheme := exact_onDraft .makeExtra index htheme

/-- **All drafts of a generation are exact.** -/
lemma exact_drafts (config : Config) (draws : Draws) : ∀ d ∈ drafts config draws, d.Exact :=
  makes_exact.of_mem_drafts fun _ hplug => absurd hplug List.not_mem_nil

/-- All elements of a generated puzzle are exact. -/
lemma exact_elements (config : Config) (draws : Draws) :
    ∀ panel ∈ (generate config draws).puzzle.panels, ∀ e ∈ panel.elements, e.Exact := by
  intro panel hpanel e he
  obtain ⟨d, hd, rfl⟩ := List.mem_map.mp hpanel
  exact (exact_drafts config draws d hd).elements e he

/-! ## Their texts -/

lemma legible_themes : ∀ theme ∈ Palette.themes,
    Text.Trimmed theme.toList ∧ ∀ c ∈ theme.toList, c ≠ '/' ∧ c ≠ ':' := by
  have hall : Palette.themes.all (fun theme => decide (Text.Trimmed theme.toList) &&
      theme.toList.all fun c => c ≠ '/' && c ≠ ':') = true := by decide
  intro theme htheme
  simpa using List.all_eq_true.mp hall theme htheme

/-- The format has words for the panels of a generated puzzle. -/
lemma legible_panels (config : Config) (draws : Draws) :
    ∀ panel ∈ (generate config draws).puzzle.panels, panel.Legible := by
  intro panel hpanel
  obtain ⟨d, hd, rfl⟩ := List.mem_map.mp hpanel
  have hexact := exact_drafts config draws d hd
  obtain ⟨htrimmed, hclean⟩ := legible_themes _ hexact.theme
  exact ⟨htrimmed, hclean, fun e he =>
    ⟨(hexact.elements e he).regular.legible, (hexact.elements e he).readable⟩⟩

/-- The format has words for a generated puzzle with a heading that it can have. -/
lemma legible_generate (config : Config) (draws : Draws)
    (hheading : HeadingSound (config.message, config.reward)) :
    (generate config draws).puzzle.Legible where
  message := hheading.message
  message_clean := hheading.message_clean
  reward := hheading.reward
  no_reward := hheading.no_reward
  panels_ne := by
    have hpanels : (generate config draws).puzzle.panels = (drafts config draws).map (·.panel) := rfl
    rw [hpanels, Ne, List.map_eq_nil_iff]
    exact drafts_ne_nil config draws
  panels := legible_panels config draws

/-- **Generated puzzles survive their text exactly:** the text of a generated puzzle is read as that
puzzle, without a warning, if the message and the reward are those of a section of a text. -/
theorem read_text_generate (config : Config) (draws : Draws) {section_ : List Char}
    (hslash : '/' ∉ section_) (hheading : readHeading section_ = (config.message, config.reward)) :
    Puzzle.read (generate config draws).puzzle.text = ⟨.ok (generate config draws).puzzle, []⟩ := by
  have hsound : HeadingSound (config.message, config.reward) := hheading ▸ sound_readHeading hslash
  exact Puzzle.read_text_of_exact (legible_generate config draws hsound) (exact_elements config draws)

/-- A hard puzzle with covers everywhere and a reward. -/
def medalConfig : Config where
  difficulty := .hard
  forceCovers := true
  message := "Bravo"
  reward := some "a medal"

/-- The general theorem for `medalConfig`, whose heading is read off a section with a reward. -/
theorem read_text_generate_medal :
    '/' ∉ "Bravo [a medal]".toList ∧
    readHeading "Bravo [a medal]".toList = (medalConfig.message, medalConfig.reward) ∧
    Puzzle.read (generate medalConfig (Keystream.draws 7)).puzzle.text
      = ⟨.ok (generate medalConfig (Keystream.draws 7)).puzzle, []⟩ := by
  have hslash : '/' ∉ "Bravo [a medal]".toList := by decide
  have hheading : readHeading "Bravo [a medal]".toList
      = (medalConfig.message, medalConfig.reward) := by decide
  exact ⟨hslash, hheading, read_text_generate medalConfig _ hslash hheading⟩

end Generation

end PanelPuzzle
