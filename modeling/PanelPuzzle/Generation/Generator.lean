import PanelPuzzle.Cover.Coverings
import PanelPuzzle.Draws.Keystream
import PanelPuzzle.Generation.Plugs
import PanelPuzzle.Generation.Populate
/-!
# Generating a puzzle

Panels are made from the innermost, which the player opens last, to the outermost.  Each receives
techniques, some of the plugs that earlier panels left, and covers.  As a plug is always placed on
a later panel than its socket, the player meets the plug first.

Plugs that are left after the planned panels go to extra panels around a switch.  There are at most
eight of those, and plugs that find no room there are dropped.

* `generate` — a puzzle, a report and the events of the making, from a configuration and a stream
  of draws.
* `generateFromSeed` — the same from the stream of a seed.
-/

namespace PanelPuzzle.Generation

/-- What is asked for. -/
structure Config where
  difficulty : Difficulty := .medium
  /-- The number of panels without the extra ones, if the difficulty does not decide it. -/
  panels : Option Nat := none
  /-- Whether everything is covered. -/
  forceCovers : Bool := false
  message : String := "Well done!"
  reward : Option String := none

/-- What happened in the making of a puzzle. -/
structure Report where
  /-- The number of panels that were made, whether they were kept or not. -/
  panelIterations : Nat
  /-- The number of extra panels that were kept. -/
  lastResortPanels : Nat
  /-- The ids of the plugs that found no room. -/
  droppedPlugs : List String
  placements : List Placement
  /-- The claims of each panel. -/
  claims : List (List Rect)
  deriving DecidableEq

/-- Everything that a generation leaves. -/
structure Outcome where
  puzzle : Puzzle
  report : Report
  /-- What happened, in order. -/
  events : List Event

/-- The greatest number of extra panels. -/
def maxExtraPanels : Nat := 8

/-! ## Panels -/

/-- Makes something on a draft, and answers it with the draft that it leaves. -/
def onDraft {α : Type} (draft : Draft) (act : Making α) : StateM Session (α × Draft) := fun s =>
  let (a, b) := act ⟨draft, s⟩
  ((a, b.draft), b.session)

/-- A theme other than that of the last panel. -/
def pickTheme (drafts : List Draft) : StateM Draws String := do
  let last := drafts.getLast?.map (·.panel.theme)
  let chosen ← Draws.choose (Palette.themes.filter fun theme => some theme ≠ last)
  pure (chosen.getD "blue")

/-- Makes a planned panel out of an empty draft. -/
def makePanel (planned : Nat) : Making Unit := do
  populate
  let index := (← Making.draft).index
  let s ← Making.session
  let quota := s.profile.plugQuota index planned (s.pool.eligible index)
  let placed ← distributePlugs quota
  Making.note (.plugsPlaced placed quota (← Making.session).pool.size)
  ensureGoal
  let _ ← Cover.addCoverings (← Making.session).profile.coverProbability
  Technique.noteRows (← Making.draft).grid.rows

/-- Makes the planned panels that are missing after `drafts`. -/
def makePlanned (planned : Nat) : Nat → List Draft → StateM Session (List Draft)
  | 0, drafts => pure drafts
  | missing + 1, drafts => do
    let theme ← pickTheme drafts
    Session.note (.panel drafts.length theme)
    let (_, draft) ← onDraft (Draft.new drafts.length theme) (makePanel planned)
    makePlanned planned missing (drafts ++ [draft])

/-- Makes an extra panel out of an empty draft and answers the number of plugs on it. -/
def makeExtra : Making Nat := do
  let _ ← TechniqueKind.switch.apply
  distributePlugs (← Making.session).pool.size

/-- The panels of a puzzle in the making, and how many were made and kept as extra ones. -/
structure Progress where
  drafts : List Draft
  made : Nat
  kept : Nat

/-- **Makes extra panels as long as plugs are left.**  A panel that holds none of them is given up,
and no further one is made. -/
def makeExtras : Nat → Progress → StateM Session Progress
  | 0, p => pure p
  | count + 1, p => do
    let pool := (← get).pool
    if pool.isEmpty then pure p
    else
      let index := p.drafts.length
      let theme ← pickTheme p.drafts
      Session.note (.extraPanel index theme pool.size)
      let (placed, draft) ← onDraft (Draft.new index theme) makeExtra
      if placed = 0 then
        Session.note (.uselessPanel index)
        pure { p with made := p.made + 1 }
      else
        Technique.noteRows draft.grid.rows
        makeExtras count
          { drafts := p.drafts ++ [draft], made := p.made + 1, kept := p.kept + 1 }

/-- Empties the pool and answers the ids of the plugs that were in it. -/
def dropPlugs : StateM Session (List String) := do
  let (plugs, pool) := (← get).pool.drain
  modify fun s => { s with pool }
  noteDropped plugs
  pure (plugs.map (·.element.id))
where
  /-- Shows the plugs that are dropped as events. -/
  noteDropped : List Plug → StateM Session Unit
    | [] => pure ()
    | plug :: plugs => do
      Session.note (.plugDropped plug.element.id plug.origin)
      noteDropped plugs

/-! ## Puzzles -/

/-- The number of panels that are planned, at least one. -/
def Config.planned (config : Config) : Nat :=
  max (config.panels.getD (Profile.ofDifficulty config.difficulty).panels) 1

/-- The session at the start of a generation. -/
def Config.session (config : Config) (draws : Draws) : Session :=
  { draws, profile := .ofDifficulty config.difficulty, forceCovers := config.forceCovers }

/-- Makes all panels and drops the plugs that are left. -/
def makeAll (config : Config) : StateM Session (Progress × List String) := do
  let planned := config.planned
  Session.note (.generating planned config.difficulty)
  let drafts ← makePlanned planned planned []
  let progress ← makeExtras maxExtraPanels { drafts, made := drafts.length, kept := 0 }
  let dropped ← dropPlugs
  pure (progress, dropped)

/-- **A random puzzle.**  The making always succeeds; the report tells of dropped plugs. -/
def generate (config : Config) (draws : Draws) : Outcome :=
  let ((progress, dropped), session) := makeAll config (config.session draws)
  { puzzle :=
      { message := config.message, reward := config.reward
        panels := progress.drafts.map (·.panel) }
    report :=
      { panelIterations := progress.made
        lastResortPanels := progress.kept
        droppedPlugs := dropped
        placements := session.placements
        claims := progress.drafts.map (·.grid.claims) }
    events := session.events.reverse }

/-- The puzzle of a seed. -/
def generateFromSeed (config : Config) (seed : UInt64) : Outcome :=
  generate config (Keystream.draws seed)

end PanelPuzzle.Generation
