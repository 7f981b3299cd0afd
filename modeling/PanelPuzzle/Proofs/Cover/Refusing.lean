import PanelPuzzle.Cover.Coverings
import PanelPuzzle.Proofs.Technique.Refusing
/-!
# Refused attempts

Whoever makes a panel tries things: a technique, a cover, remote controls, a button, a reset trap.  Each of
these attempts may find no room, and is then as if it had not been made: `Attempt.spares`.

Covers look for room last.  Until then they have read the draft and drawn a color or a size, and only a lid
is put on the panel before the room for its remote controls is known; but a lid is never refused.
-/

namespace PanelPuzzle

/-! ## Covers -/

namespace Making.Refuses

lemma physical (target : Nat) : Refuses (· = false) (Cover.physical target) := by
  refine .skip .draft fun d => ?_
  split
  · exact .pure _
  refine .of_accepts (.bind fun tile => .bind fun color => .bind fun gate => .bind fun place => ?_)
  dsimp only
  split
  · refine .bind fun placed => ?_
    split
    · exact .bind fun _ => .pure Bool.noConfusion
    · exact .pure Bool.noConfusion
  · exact .pure Bool.noConfusion

/-- A ring is refused before any of its tiles is placed. -/
lemma groupObscure (target : Nat) : Refuses (· = false) (Cover.groupObscure target) := by
  refine .skip .draft fun d => ?_
  split
  · exact .pure _
  refine .skip .randomColor fun color => ?_
  split
  · exact .of_accepts (.bind fun _ => .bind fun _ => .bind fun _ => .pure Bool.noConfusion)
  refine .skip .draft fun d => ?_
  dsimp only
  split
  · exact .pure _
  · exact .of_accepts (.bind fun _ => .bind fun _ => .bind fun _ => .pure Bool.noConfusion)

lemma remoteOnly (target : Nat) : Refuses (· = false) (Cover.remoteOnly target) := by
  refine .skip .draft fun d => ?_
  split
  · exact .pure _
  refine .bind (.addControllers _) (fun placed hplaced => ?_) fun placed hplaced => ?_
  · subst hplaced
    exact .pure _
  · rw [Bool.not_eq_false] at hplaced
    subst hplaced
    exact .bind fun _ => .pure Bool.noConfusion

lemma switchRelease (target : Nat) : Refuses (· = false) (Cover.switchRelease target) := by
  refine .skip .draft fun d => ?_
  split
  · exact .pure _
  refine .search (.allocate _ _ _) (.pure _) fun r => ?_
  exact .bind fun _ => .bind fun _ => .bind fun _ => .bind fun _ => .bind fun _ => .pure Bool.noConfusion

lemma sizeObscure (target : Nat) : Refuses (· = false) (Cover.sizeObscure target) := by
  refine .skip .draft fun d => ?_
  split
  · refine .skip (.draws (.choose _)) fun size => ?_
    cases size with
    | none => exact .pure _
    | some size =>
      refine .search (.addButton _) (.pure _) fun place => ?_
      exact .bind fun _ => .bind fun _ => .pure Bool.noConfusion
  · exact .pure _

lemma resetTrap : Refuses (· = false) Cover.resetTrap := by
  refine .skip .draft fun d => .skip (.draws (.choose _)) fun id => ?_
  cases id with
  | none => exact .pure _
  | some id =>
    refine .search (.addButton _) (.pure _) fun place => ?_
    exact .bind fun _ => .bind fun _ => .pure Bool.noConfusion

end Making.Refuses

/-! ## Attempts -/

/-- Something that is tried on a workbench. -/
inductive Attempt where
  | technique (kind : TechniqueKind)
  | cover (style : CoverStyle) (target : Nat)
  /-- Four buttons that move the element with an id. -/
  | controllers (id : String)
  | button (action : Action)
  | trap

namespace Attempt

/-- Makes an attempt and answers whether it succeeded. -/
def run : Attempt → Making Bool
  | technique kind => kind.apply
  | cover style target => style.apply target
  | controllers id => Remote.addControllers id
  | button action => do
    let place ← Remote.addButton action
    pure place.isSome
  | trap => Cover.resetTrap

/-- **A refused attempt changes nothing.** -/
theorem spares (attempt : Attempt) (b : Workbench) (h : (attempt.run b).1 = false) :
    b.Spared (attempt.run b).2 := by
  have hrefuses : Making.Refuses (· = false) attempt.run := by
    cases attempt with
    | technique kind => exact Making.refuses_technique kind
    | cover style target =>
      cases style with
      | physical => exact .physical target
      | groupObscure => exact .groupObscure target
      | remoteOnly => exact .remoteOnly target
      | switchRelease => exact .switchRelease target
      | sizeObscure => exact .sizeObscure target
    | controllers id => exact .addControllers id
    | button action => exact .search (.addButton action) (.pure _) fun place => .pure Bool.noConfusion
    | trap => exact .resetTrap
  exact (hrefuses b h).spared

/-- A full panel, and two plugs that might be hidden on it. -/
def fullBench : Workbench where
  draft := (Draft.new 1 "teal").claim ⟨0, 0, 8, 8⟩
  session :=
    { draws := .ofWords fun _ => 0, profile := .ofDifficulty .medium
      pool :=
        { plugs :=
            [{ element := { id := "c1", shape := .circle, width := 1, height := 1 }, origin := 0, remote := false },
              { element := { id := "c2", shape := .circle, width := 1, height := 1 }, origin := 0
                remote := false }] } }

/-- A group takes the first plug and puts it back behind the second one. -/
theorem spares_fullBench :
    ((technique .group).run fullBench).1 = false ∧
      fullBench.Spared ((technique .group).run fullBench).2 ∧
      ((technique .group).run fullBench).2.session.pool.plugs.map (·.element.id) = ["c2", "c1"] := by
  have h : ((technique .group).run fullBench).1 = false := by decide +kernel
  exact ⟨h, spares _ _ h, by decide +kernel⟩

end Attempt

end PanelPuzzle
