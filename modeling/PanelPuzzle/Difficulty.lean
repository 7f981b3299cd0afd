import PanelPuzzle.Number.Basic
import PanelPuzzle.Technique.Kind
/-!
# Difficulty

The three levels of difficulty and what each means for a puzzle: how many panels, which
mechanisms, and the chances of everything that makes it harder.
-/

namespace PanelPuzzle

/-- A level of difficulty. -/
inductive Difficulty where
  | easy
  | medium
  | hard
  deriving DecidableEq, Inhabited

namespace Difficulty

/-- Every level, the easiest first. -/
def all : List Difficulty := [easy, medium, hard]

/-- The name of a level in exported data. -/
def name : Difficulty → String
  | easy => "Easy"
  | medium => "Medium"
  | hard => "Hard"

/-- The word for a level. -/
def keyword : Difficulty → String
  | easy => "easy"
  | medium => "medium"
  | hard => "hard"

/-- The level with a given number, counted from zero. -/
def ofNumber? (number : Int) : Option Difficulty :=
  if number < 0 then none else all[number.toNat]?

/-- The place of a level among all. -/
def rank : Difficulty → Nat
  | easy => 0
  | medium => 1
  | hard => 2

end Difficulty

/-- What a level of difficulty means for the making of a puzzle. -/
structure Profile where
  /-- The number of panels that are planned. -/
  panels : Nat
  /-- The least number of mechanisms of a panel. -/
  fewestTechniques : Nat
  /-- The greatest number of mechanisms of a panel. -/
  mostTechniques : Nat
  /-- The mechanisms of the level. -/
  techniques : List TechniqueKind
  /-- The chance that something is covered. -/
  coverProbability : Number
  /-- The greatest number of covers over one element. -/
  stackLimit : Nat
  /-- The share of the pool that goes to a panel before the last one. -/
  plugShare : Number
  /-- The chance that a plug is moved by remote controls. -/
  remotePlugProbability : Number
  /-- The chance of a reset trap. -/
  resetProbability : Number
  /-- The chance that a socket asks for the color of its plug. -/
  strictProbability : Number

namespace Profile

/-- The profile of a level. -/
def ofDifficulty : Difficulty → Profile
  | .easy =>
    { panels := 3, fewestTechniques := 1, mostTechniques := 2
      techniques := [.hole, .screw, .switch, .tumbler]
      coverProbability := 0.2, stackLimit := 1, plugShare := 1
      remotePlugProbability := 0.1, resetProbability := 0, strictProbability := 0.1 }
  | .medium =>
    { panels := 4, fewestTechniques := 2, mostTechniques := 3
      techniques := [.hole, .screw, .switch, .tumbler, .maze, .group, .semicircle]
      coverProbability := 0.4, stackLimit := 2, plugShare := 0.6
      remotePlugProbability := 0.15, resetProbability := 0.1, strictProbability := 0.2 }
  | .hard =>
    { panels := 5, fewestTechniques := 2, mostTechniques := 4
      techniques := [.hole, .screw, .switch, .tumbler, .maze, .group, .semicircle, .switchPattern]
      coverProbability := 0.6, stackLimit := 3, plugShare := 0.5
      remotePlugProbability := 0.25, resetProbability := 0.25, strictProbability := 0.3 }

/-- **How many pooled plugs the panel at `index` out of `panels` is to take.**  The share grows
with the index, and the last panel takes them all. -/
def plugQuota (profile : Profile) (index panels pooled : Nat) : Nat :=
  if pooled = 0 then 0
  else if panels ≤ index + 1 then pooled
  else
    let share := profile.plugShare * .ofNat (index + 1) / .ofNat panels
    min (max (Number.ofNat pooled * share).ceilNat 1) pooled

end Profile

end PanelPuzzle
