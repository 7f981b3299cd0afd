import PanelPuzzle.Making.Event
import PanelPuzzle.Palette
import PanelPuzzle.PlugPool
/-!
# Making sessions

What is shared by all panels of a puzzle in the making: the draws, the pool of plugs, the numbers
of the elements and the record of what was placed.
-/

namespace PanelPuzzle

/-- The state of the making that outlives a panel. -/
structure Session where
  draws : Draws
  profile : Profile
  /-- Whether everything is covered, whatever the chance. -/
  forceCovers : Bool := false
  /-- Whether the panel in the making has to leave a plug. -/
  requirePlug : Bool := false
  pool : PlugPool := {}
  /-- The plugs that were placed, the first one first. -/
  placements : List Placement := []
  /-- The number of the last element. -/
  lastId : Nat := 0
  /-- What happened, the latest first. -/
  events : List Event := []

instance : MonadLift (StateM Draws) (StateM Session) where
  monadLift draw := fun s =>
    let (a, draws) := draw s.draws
    (a, { s with draws })

namespace Session

/-- Records that something happened. -/
def note (event : Event) : StateM Session Unit :=
  modify fun s => { s with events := event :: s.events }

/-! ## Elements -/

/-- An id that no element has yet. -/
def newId (shape : Shape) : StateM Session String := fun s =>
  let number := s.lastId + 1
  (String.ofList (shape.code :: Nat.toDigits 10 number), { s with lastId := number })

/-- An element with a new id, and nothing else about it. -/
def newElement (shape : Shape) (width height : Number) : StateM Session Element := do
  let id ← newId shape
  pure { id, shape, width, height }

/-! ## Chances and colors -/

/-- How often a draw is repeated that gave a color which cannot be used. -/
def colorTries : Nat := 256

/-- A color that is not the neutral one.  A stream that never gives one stands for the first
color. -/
def drawColor : Nat → StateM Draws UInt8
  | 0 => pure 1
  | tries + 1 => do
    let color := UInt8.ofNat (← Draws.below Palette.colors.length)
    if color = Palette.neutral then drawColor tries else pure color

/-- A color that is not the neutral one. -/
def randomColor : StateM Session UInt8 := drawColor colorTries

/-- A color that is neither the neutral one nor a given one. -/
def drawOtherColor (given : UInt8) : Nat → StateM Draws UInt8
  | 0 => pure (if given = 1 then 2 else 1)
  | tries + 1 => do
    let color ← drawColor colorTries
    if color = given then drawOtherColor given tries else pure color

/-- A color that is neither the neutral one nor a given one. -/
def randomOtherColor (given : UInt8) : StateM Session UInt8 := drawOtherColor given colorTries

/-- Whether a chance comes true; what is less than impossible is impossible, and what is more than
certain is certain. -/
def chance (probability : Number) : StateM Session Bool := Draws.chance (probability.clamp 0 1)

/-! ## Plugs -/

/-- Adds a plug to the pool. -/
def deposit (plug : Plug) : StateM Session Unit := do
  note (.plugDeposited plug.element.id plug.origin)
  modify fun s => { s with pool := s.pool.deposit plug }

/-- Withdraws a random plug for a panel, out of those that satisfy a condition. -/
def withdrawWhere (panel : Nat) (condition : Plug → Bool) : StateM Session (Option Plug) :=
  fun s =>
    let ((plug, pool), draws) := s.pool.withdrawWhere panel condition s.draws
    (plug, { s with pool, draws })

/-- Withdraws a random plug for a panel. -/
def withdraw (panel : Nat) : StateM Session (Option Plug) := withdrawWhere panel fun _ => true

/-- Records that a plug is on a panel. -/
def recordPlacement (plug : Plug) (panel : Nat) : StateM Session Unit :=
  modify fun s =>
    { s with placements := s.placements ++ [⟨plug.element.id, plug.origin, panel⟩] }

/-- Makes a plug that can be dragged and adds it to the pool.  Whether it will be moved by remote
controls instead is decided by chance. -/
def depositPlug (origin : Nat) (shape : Shape) (width height : Number) (color : UInt8) :
    StateM Session Unit := do
  let plain ← newElement shape width height
  let element := { plain with elevation := .raised, color := .plain color }.interact .drag .none 0
  let remote ← chance (← get).profile.remotePlugProbability
  deposit { element, origin, remote }

end Session

end PanelPuzzle
