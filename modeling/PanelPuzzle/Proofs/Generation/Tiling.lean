import PanelPuzzle.Generation.Generator
import PanelPuzzle.Proofs.Cover.Claiming
import PanelPuzzle.Proofs.Cover.Stacking
import PanelPuzzle.Proofs.Making.Keeping
/-!
# Claims tile every panel

No two claims of a panel share a cell, and together they are the cells that are occupied.

**One draft.**  `Draft.Made` holds of the drafts that come from an empty one by techniques, plugs,
covers and traps in any order, with any session at every step.

**A generation.**  `Generation.drafts` are the drafts of its panels.  The report and the puzzle
are read off them, and each of them is filled by computations that only claim.  `Generation.Makes` is
about whatever each panel keeps for the next one and leaves on its draft.

Both come to the same: the grid of a draft grows from the empty one, so it is tiled,
`claims_tile_grid`.
-/

namespace PanelPuzzle

namespace Making.OnlyClaims

/-! ## Covering and filling a panel -/

open Cover Generation

lemma covering (b₀ : Workbench) : Covering fun b => b₀.draft.grid.Grows b.draft.grid where
  drawn _ h := h
  noted _ _ _ h := h
  cover _ h := h.trans (OnlyClaims.style _ _ _)
  trap h := h.trans (OnlyClaims.resetTrap _)

lemma addCoverings (probability : Number) : OnlyClaims (addCoverings probability) :=
  fun b => ((covering b).keeps_addCoverings probability b .refl).2

lemma placePlug (plug : Plug) : OnlyClaims (placePlug plug) := by
  refine .bind (.allocate _ _ _) fun found => ?_
  cases found with
  | none => exact .bind (.note _) fun _ => .pure _
  | some r =>
    refine .bind (.push _) fun place => ?_
    have recorded : ∀ controlled, OnlyClaims (do
        let count := (← Making.draft).coverables.length
        Making.cover place .plug
        Making.modifyDraft (·.modifyCoverable count fun c => { c with hasRemote := controlled })
        Making.note (.plugPlaced plug.element.id plug.origin r.x r.y)
        Pure.pure true : Making Bool) := fun controlled =>
      .bind .draft fun _ => .bind (.cover _ _) fun _ => .bind (.modifyDraft fun _ => rfl) fun _ =>
        .bind (.note _) fun _ => .pure _
    have settled : ∀ controlled, OnlyClaims (do
        if plug.remote && !controlled then
          Making.note (.plugDraggable plug.element.id)
          Making.modifyElement place fun e => { e with method := .drag }
        let count := (← Making.draft).coverables.length
        Making.cover place .plug
        Making.modifyDraft (·.modifyCoverable count fun c => { c with hasRemote := controlled })
        Making.note (.plugPlaced plug.element.id plug.origin r.x r.y)
        Pure.pure true : Making Bool) := fun controlled => by
      dsimp only
      split
      · exact .bind (.note _) fun _ => .bind (.modifyElement _ _) fun _ => recorded controlled
      · exact recorded controlled
    dsimp only
    split
    · exact .bind (.addControllers _) settled
    · exact .bind (.pure _) settled

lemma takePlugs : ∀ quota, OnlyClaims (takePlugs quota)
  | 0 => .pure _
  | quota + 1 => by
      refine .bind .draft fun d => .bind (.session _) fun plug => ?_
      cases plug with
      | none => exact .pure _
      | some plug =>
        refine .bind (.placePlug _) fun placed => ?_
        split
        · exact .bind (.session _) fun _ => .bind (takePlugs quota) fun _ => .pure _
        · exact .bind (takePlugs quota) fun _ => .pure _

lemma distributePlugs (quota : Nat) : OnlyClaims (distributePlugs quota) :=
  .bind (.takePlugs _) fun _ => .bind (.session _) fun _ => .pure _

lemma applyAll : ∀ kinds, OnlyClaims (applyAll kinds)
  | [] => .pure _
  | kind :: kinds => .bind (.technique kind) fun _ => .bind (.note _) fun _ => applyAll kinds

lemma addHoles : ∀ attempts, OnlyClaims (addHoles attempts)
  | 0 => .pure _
  | attempts + 1 => by
      refine .bind .readSession fun s => ?_
      split
      · exact .bind (.technique .hole) fun _ => addHoles attempts
      · exact .pure _

lemma populate : OnlyClaims Generation.populate := by
  refine .bind .draft fun d => .bind .readSession fun s => .bind (.draws _) fun kinds => ?_
  refine .bind (.session _) fun _ => .bind (.applyAll _) fun _ => ?_
  dsimp only
  split
  · exact .bind (.addHoles _) fun _ => .session _
  · exact .session _

lemma ensureGoal : OnlyClaims Generation.ensureGoal := by
  refine .bind .draft fun d => ?_
  split
  · exact .bind (.note _) fun _ => .bind (.technique .switch) fun _ => .pure _
  · exact .pure _

lemma makePanel (planned : Nat) : OnlyClaims (makePanel planned) :=
  .bind .populate fun _ => .bind .draft fun _ => .bind .readSession fun _ =>
    .bind (.distributePlugs _) fun _ => .bind .readSession fun _ => .bind (.note _) fun _ =>
      .bind .ensureGoal fun _ => .bind .readSession fun _ => .bind (.addCoverings _) fun _ =>
        .bind .draft fun _ => .session _

lemma makeExtra : OnlyClaims Generation.makeExtra :=
  .bind (.technique .switch) fun _ => .bind .readSession fun _ => .distributePlugs _

/-- **What only claims leaves a tiled grid tiled.** -/
lemma tiled {α : Type} {act : Making α} (h : OnlyClaims act) {b : Workbench}
    (hb : b.draft.grid.Tiled) : (act b).2.draft.grid.Tiled :=
  (h b).keeps (fun _ _ ht hfree => ht.claim hfree) hb

end Making.OnlyClaims

/-! ## Drafts that are made step by step -/

/-- **The drafts that come from an empty one** by techniques, the placing of plugs, covers and
traps.  Every step may have a session of its own: other draws, another profile, another pool. -/
inductive Draft.Made : Draft → Prop
  | new (index : Nat) (theme : String) : Made (.new index theme)
  | technique (kind : TechniqueKind) (s : Session) {d : Draft} :
      Made d → Made (kind.apply ⟨d, s⟩).2.draft
  | plugs (quota : Nat) (s : Session) {d : Draft} :
      Made d → Made (Generation.distributePlugs quota ⟨d, s⟩).2.draft
  | covers (probability : Number) (s : Session) {d : Draft} :
      Made d → Made (Cover.addCoverings probability ⟨d, s⟩).2.draft
  | trap (s : Session) {d : Draft} : Made d → Made (Cover.resetTrap ⟨d, s⟩).2.draft

lemma Draft.Made.tiled {d : Draft} (h : d.Made) : d.grid.Tiled := by
  induction h with
  | new index theme => exact Grid.tiled_empty
  | technique kind s _ ih => exact (Making.OnlyClaims.technique kind).tiled ih
  | plugs quota s _ ih => exact (Making.OnlyClaims.distributePlugs quota).tiled ih
  | covers probability s _ ih => exact (Making.OnlyClaims.addCoverings probability).tiled ih
  | trap s _ ih => exact Making.OnlyClaims.resetTrap.tiled ih

namespace Generation

/-! ## The drafts of a generation -/

/-- The drafts of the panels of a generation, the innermost first. -/
def drafts (config : Config) (draws : Draws) : List Draft :=
  (makeAll config (config.session draws)).1.1.drafts

lemma length_makePlanned (planned : Nat) : ∀ (missing : Nat) (made : List Draft),
    Keeps (fun _ => True) (makePlanned planned missing made)
      fun all => all.length = made.length + missing
  | 0, _ => .pure rfl
  | missing + 1, made => by
      refine .bind (.always _) fun theme _ => .bind (.always _) fun _ _ => ?_
      refine .bind (.always _) fun ⟨_, draft⟩ _ => ?_
      refine (length_makePlanned planned missing _).weaken fun all hall => ?_
      rw [hall, List.length_append, List.length_singleton]
      omega

lemma length_makeExtras : ∀ (count : Nat) (p : Progress),
    Keeps (fun _ => True) (makeExtras count p) fun q => p.drafts.length ≤ q.drafts.length
  | 0, _ => .pure le_rfl
  | count + 1, p => by
      refine .bind (.always _) fun s _ => ?_
      dsimp only
      split
      · exact .pure le_rfl
      refine .bind (.always _) fun theme _ => .bind (.always _) fun _ _ => ?_
      refine .bind (.always _) fun ⟨placed, draft⟩ _ => ?_
      split
      · exact .bind (.always _) fun _ _ => .pure le_rfl
      refine .bind (.always _) fun _ _ => (length_makeExtras count _).weaken fun q hq => ?_
      rw [List.length_append] at hq
      omega

/-- **Every planned panel is made,** and there is at least one. -/
lemma planned_le_length_drafts (config : Config) (draws : Draws) :
    config.planned ≤ (drafts config draws).length := by
  have hall : Keeps (fun _ => True) (makeAll config)
      fun made => config.planned ≤ made.1.drafts.length := by
    refine .bind (.always _) fun _ _ => .bind (length_makePlanned _ _ []) fun made hmade => ?_
    refine .bind (length_makeExtras _ _) fun p hp => .bind (.always _) fun _ _ => .pure ?_
    dsimp only at hp ⊢
    omega
  exact (hall (config.session draws) trivial).1

lemma drafts_ne_nil (config : Config) (draws : Draws) : drafts config draws ≠ [] := by
  have hlen := planned_le_length_drafts config draws
  have hone : 1 ≤ config.planned := le_max_right _ _
  exact List.ne_nil_of_length_pos (by omega)

/-! ## What all of them have -/

lemma keeps_pickTheme (made : List Draft) :
    Keeps (fun _ => True) (pickTheme made) fun theme => theme ∈ Palette.themes := by
  refine .bind (Draws.keeps_choose _) fun chosen hchosen => .pure ?_
  cases chosen with
  | none => decide
  | some theme => exact (List.mem_filter.mp (hchosen theme rfl)).1

/-- **What panels leave that are made one after the other:** each has a theme of the palette, keeps `P` of the
session and leaves a draft with `J`.  Of the session only the plugs that wait matter. -/
structure Makes (P : Session → Prop) (J : Draft → Prop) : Prop where
  congr : ∀ {s s' : Session}, s'.pool = s.pool → P s → P s'
  planned : ∀ (planned index : Nat) {theme : String}, theme ∈ Palette.themes →
    Keeps P (onDraft (.new index theme) (makePanel planned)) fun made => J made.2
  extra : ∀ (index : Nat) {theme : String}, theme ∈ Palette.themes →
    Keeps P (onDraft (.new index theme) makeExtra) fun made => J made.2

namespace Makes

variable {P : Session → Prop} {J : Draft → Prop}

lemma keeps_theme (h : Makes P J) (made : List Draft) :
    Keeps P (liftM (pickTheme made) : StateM Session String) fun theme => theme ∈ Palette.themes :=
  fun s hs => ⟨(keeps_pickTheme made s.draws trivial).1, h.congr (s := s) rfl hs⟩

lemma keeps_note (h : Makes P J) (event : Event) : Keeps P (Session.note event) fun _ => True :=
  fun s hs => ⟨trivial, h.congr (s := s) rfl hs⟩

lemma keeps_noteRows (h : Makes P J) : ∀ rows, Keeps P (Technique.noteRows rows) fun _ => True
  | [] => .pure trivial
  | _ :: rows => .bind (h.keeps_note _) fun _ _ => h.keeps_noteRows rows

lemma keeps_makePlanned (h : Makes P J) (planned : Nat) : ∀ (missing : Nat) {made : List Draft},
    (∀ d ∈ made, J d) → Keeps P (makePlanned planned missing made) fun made => ∀ d ∈ made, J d
  | 0, _, hmade => .pure hmade
  | missing + 1, made, hmade => by
    refine .bind (h.keeps_theme made) fun theme htheme => .bind (h.keeps_note _) fun _ _ => ?_
    refine .bind (h.planned planned _ htheme) fun ⟨_, draft⟩ hdraft => ?_
    exact h.keeps_makePlanned planned missing
      (List.forall_mem_append.mpr ⟨hmade, List.forall_mem_singleton.mpr hdraft⟩)

lemma keeps_makeExtras (h : Makes P J) : ∀ (count : Nat) {p : Progress}, (∀ d ∈ p.drafts, J d) →
    Keeps P (makeExtras count p) fun p => ∀ d ∈ p.drafts, J d
  | 0, _, hp => .pure hp
  | count + 1, p, hp => by
    refine .bind (fun s hs => ⟨trivial, hs⟩) fun s (_ : True) => ?_
    dsimp only
    split
    · exact .pure hp
    refine .bind (h.keeps_theme p.drafts) fun theme htheme => .bind (h.keeps_note _) fun _ _ => ?_
    refine .bind (h.extra _ htheme) fun ⟨placed, draft⟩ hdraft => ?_
    split
    · exact .bind (h.keeps_note _) fun _ _ => .pure hp
    refine .bind (h.keeps_noteRows _) fun _ _ => h.keeps_makeExtras count ?_
    exact List.forall_mem_append.mpr ⟨hp, List.forall_mem_singleton.mpr hdraft⟩

/-- **All drafts of a generation have what each panel leaves.** -/
lemma of_mem_drafts (h : Makes P J) {config : Config} {draws : Draws} (hstart : P (config.session draws)) :
    ∀ d ∈ drafts config draws, J d := by
  have hall : Keeps P
      (do
        Session.note (.generating config.planned config.difficulty)
        let made ← makePlanned config.planned config.planned []
        makeExtras maxExtraPanels { drafts := made, made := made.length, kept := 0 })
      fun p => ∀ d ∈ p.drafts, J d := by
    refine .bind (h.keeps_note _) fun _ _ => ?_
    refine .bind (h.keeps_makePlanned _ _ fun d hd => absurd hd List.not_mem_nil) fun made hmade => ?_
    exact h.keeps_makeExtras _ hmade
  exact (hall (config.session draws) hstart).1

end Makes

/-! ## Their grids -/

/-- A computation that only claims fills an empty draft with claims that tile it. -/
lemma keeps_onDraft {α : Type} {act : Making α} (h : Making.OnlyClaims act) (index : Nat)
    (theme : String) : Keeps (fun _ => True) (onDraft (.new index theme) act)
      fun made => made.2.grid.Tiled :=
  fun s _ => ⟨h.tiled (b := ⟨.new index theme, s⟩) Grid.tiled_empty, trivial⟩

lemma makes_tiled : Makes (fun _ => True) fun d => d.grid.Tiled where
  congr _ hs := hs
  planned planned index theme _ := keeps_onDraft (.makePanel planned) index theme
  extra index theme _ := keeps_onDraft .makeExtra index theme

lemma tiled_drafts (config : Config) (draws : Draws) :
    ∀ d ∈ drafts config draws, d.grid.Tiled := makes_tiled.of_mem_drafts trivial

/-- **The claims of every panel tile its occupied cells:** they lie inside the grid, no two share
a cell, they are together what is occupied, and the free cells are the rest. -/
theorem claims_tile_grid (config : Config) (draws : Draws) :
    (generate config draws).report.claims = (drafts config draws).map (·.grid.claims) ∧
    (generate config draws).puzzle.panels = (drafts config draws).map (·.panel) ∧
    (∀ d ∈ drafts config draws, d.grid.Tiled) ∧ ∀ d : Draft, d.Made → d.grid.Tiled := by
  exact ⟨rfl, rfl, tiled_drafts config draws, fun d hd => hd.tiled⟩

/-- A generation has drafts, and a tumbler on an empty panel takes nine cells. -/
theorem claims_tile_grid_tumbler :
    (∃ d ∈ drafts {} (.ofWords fun _ => 0), d.grid.Tiled) ∧
    ∃ d : Draft, d.Made ∧ d.grid.claims = [⟨0, 0, 3, 3⟩] ∧ d.grid.Tiled := by
  refine ⟨?_, ?_⟩
  · obtain ⟨d, hd⟩ := List.exists_mem_of_ne_nil _ (drafts_ne_nil {} (.ofWords fun _ => 0))
    exact ⟨d, hd, (claims_tile_grid {} _).2.2.1 d hd⟩
  · have hmade : Draft.Made (TechniqueKind.tumbler.apply
        ⟨.new 0 "blue", Config.session {} (.ofWords fun _ => 0)⟩).2.draft :=
      .technique .tumbler _ (.new 0 "blue")
    exact ⟨_, hmade, by decide +kernel, (claims_tile_grid {} (.ofWords fun _ => 0)).2.2.2 _ hmade⟩

end Generation

end PanelPuzzle
