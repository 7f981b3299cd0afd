import Mathlib.Logic.Function.Iterate
import PanelPuzzle.Making.Session
/-!
# How far a stream is read

A draw takes words from the front of a stream and does nothing else to it: the stream after the draw is the
one before it, some words further on.  `Draws.Advances` says so of one draw, and `Advances.bind` of two in a
row.

The draws of this file are those that can come before a decision whether something is placed at all:
numbers, members of lists, room on a grid, a plug of the pool, a color and the targets of switches.
-/

namespace PanelPuzzle

variable {α β : Type}

namespace Draws

/-- **A stream leads to another one:** the same stream, some words further on. -/
def LeadsTo (d d' : Draws) : Prop := ∃ words, d' = advance^[words] d

lemma LeadsTo.refl (d : Draws) : d.LeadsTo d := ⟨0, rfl⟩

lemma LeadsTo.trans {d d' d'' : Draws} (h : d.LeadsTo d') (h' : d'.LeadsTo d'') : d.LeadsTo d'' := by
  obtain ⟨m, rfl⟩ := h
  obtain ⟨n, rfl⟩ := h'
  exact ⟨n + m, (Function.iterate_add_apply advance n m d).symm⟩

/-- A draw only takes words. -/
def Advances (draw : StateM Draws α) : Prop := ∀ d : Draws, d.LeadsTo (draw d).2

namespace Advances

lemma pure (a : α) : Advances (Pure.pure a) := LeadsTo.refl

lemma bind {draw : StateM Draws α} {next : α → StateM Draws β} (h : Advances draw)
    (hnext : ∀ a, Advances (next a)) : Advances (draw >>= next) :=
  fun d => (h d).trans (hnext _ _)

lemma next : Advances Draws.next := fun _ => ⟨1, rfl⟩

/-! ## Numbers and members -/

lemma below (span : Nat) : Advances (Draws.below span) := by
  refine .bind next fun word => ?_
  split
  · exact .pure _
  extract_lets product whole fraction
  split
  · exact .bind next fun lower => .pure _
  · exact .pure _

lemma inRange (low high : Nat) : Advances (Draws.inRange low high) :=
  .bind (below _) fun _ => .pure _

lemma choose (items : List α) : Advances (Draws.choose items) := by
  unfold Draws.choose
  split
  · exact .pure none
  · exact .bind (below _) fun _ => .pure _

/-! ## What is looked for -/

lemma tryRandom (g : Grid) (w h : Nat) : ∀ tries, Advances (g.tryRandom w h tries)
  | 0 => .pure none
  | tries + 1 => by
      refine .bind (below _) fun x => .bind (below _) fun y => ?_
      dsimp only
      split
      · exact .pure _
      · exact tryRandom g w h tries

lemma findFree (g : Grid) (w h : Nat) : Advances (g.findFree w h) := by
  unfold Grid.findFree
  split
  · refine .bind (tryRandom g w h _) fun found => ?_
    cases found with
    | none => exact .pure _
    | some r => exact .pure _
  · exact .pure none

lemma allocate (w h : Nat) (g : Grid) : Advances (Grid.allocate w h g) := by
  refine .bind (findFree g w h) fun found => ?_
  cases found with
  | none => exact .pure _
  | some r => exact .pure _

lemma withdrawWhere (panel : Nat) (condition : Plug → Bool) (pool : PlugPool) :
    Advances (pool.withdrawWhere panel condition) := by
  refine .bind (choose _) fun place => ?_
  split
  · exact .pure _
  · exact .pure _

/-! ## Colors and targets -/

lemma drawColor : ∀ tries, Advances (Session.drawColor tries)
  | 0 => .pure _
  | tries + 1 => by
      refine .bind (below _) fun number => ?_
      dsimp only
      split
      · exact drawColor tries
      · exact .pure _

lemma randomTargets : ∀ count, Advances (TargetPattern.randomTargets count)
  | 0 => .pure []
  | count + 1 => .bind (inRange _ _) fun _ => .bind (randomTargets count) fun _ => .pure _

lemma targets (pattern : TargetPattern) (count : Nat) : Advances (pattern.targets count) := by
  cases pattern with
  | identical => exact .bind (inRange _ _) fun target => .pure _
  | increasing => exact .pure _
  | decreasing => exact .pure _
  | themeColored => exact randomTargets count

end Advances

end Draws

end PanelPuzzle
