import PanelPuzzle.Draws.Basic
import PanelPuzzle.Element
/-!
# The pool of plugs

Plugs wait in a pool until a later panel takes them.  A plug is withdrawn at random, but never for
the panel that it came from.
-/

namespace PanelPuzzle

/-- A plug that waits for a panel. -/
structure Plug where
  /-- The element, which has no position yet. -/
  element : Element
  /-- The panel of its socket. -/
  origin : Nat
  /-- Whether the plug is to be moved by remote controls. -/
  remote : Bool
  deriving DecidableEq, Inhabited

/-- The record that a plug was placed. -/
structure Placement where
  id : String
  /-- The panel of its socket. -/
  origin : Nat
  /-- The panel that it is on. -/
  panel : Nat
  deriving DecidableEq

/-- The plugs that wait, in the order of the pool. -/
structure PlugPool where
  plugs : List Plug := []
  deriving DecidableEq

namespace PlugPool

/-- The number of plugs. -/
def size (pool : PlugPool) : Nat := pool.plugs.length

/-- Whether no plug waits. -/
def isEmpty (pool : PlugPool) : Bool := pool.plugs.isEmpty

/-- The pool with one more plug, the last one. -/
def deposit (pool : PlugPool) (plug : Plug) : PlugPool := ⟨pool.plugs ++ [plug]⟩

/-- The number of plugs that a panel may take. -/
def eligible (pool : PlugPool) (panel : Nat) : Nat := pool.plugs.countP (·.origin ≠ panel)

/-- The plug at a place, and the list without it.  The last plug moves into the gap. -/
def removeAt? (plugs : List Plug) (place : Nat) : Option (Plug × List Plug) :=
  match plugs[place]?, plugs.getLast? with
  | some plug, some last => some (plug, (plugs.set place last).dropLast)
  | _, _ => none

/-- **Withdraws a random plug for a panel,** out of those that satisfy a condition.  No word is
drawn if there is none. -/
def withdrawWhere (panel : Nat) (condition : Plug → Bool) (pool : PlugPool) :
    StateM Draws (Option Plug × PlugPool) := do
  let places := (List.range pool.size).filter fun place =>
    pool.plugs[place]?.any fun plug => plug.origin ≠ panel && condition plug
  match (← Draws.choose places).bind (removeAt? pool.plugs) with
  | some (plug, others) => pure (some plug, ⟨others⟩)
  | none => pure (none, pool)

/-- Withdraws a random plug for a panel. -/
def withdraw (panel : Nat) (pool : PlugPool) : StateM Draws (Option Plug × PlugPool) :=
  pool.withdrawWhere panel fun _ => true

/-- All plugs, and the pool without them. -/
def drain (pool : PlugPool) : List Plug × PlugPool := (pool.plugs, {})

end PlugPool

end PanelPuzzle
