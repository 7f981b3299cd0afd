import PanelPuzzle.Proofs.PuzzleText.Clauses
import PanelPuzzle.Proofs.PuzzleText.Placing
/-!
# What any words after the color say

Whatever the words are, the machine answers a tail that the format has words for: `Tail.Sound`.

**Ids.**  A clause is begun by the id of an element, and the place where the machine is holds this id
until the clause is complete.

**States.**  No place before the one for a target has seen a change, and a target is only looked for
after a change that has one.  So a change and its state always go together.

**Vectors.**  The vector of a step is rounded, and whether it has a value is told by nothing else.
-/

namespace PanelPuzzle

open Number

/-- The vector of a step comes from rounding. -/
def Action.Rounded : Action → Prop
  | moveStep _ dx dy => dx.Rounded ∧ dy.Rounded
  | _ => True

/-- A tail that the format has words for. -/
structure Tail.Sound (tail : Tail) : Prop where
  settled : tail.change.settle tail.target = tail.target
  actions : ∀ a ∈ tail.actions, a.Legible ∧ a.Rounded

lemma Tail.Sound.addAction {tail : Tail} (h : tail.Sound) {action : Action}
    (hlegible : action.Legible) (hrounded : action.Rounded) : (tail.addAction action).Sound where
  settled := h.settled
  actions a ha := by
    rcases List.mem_append.mp ha with ha | ha
    · exact h.actions a ha
    · rw [List.mem_singleton.mp ha]
      exact ⟨hlegible, hrounded⟩

/-- A change that has a target to look for. -/
def Change.Open (change : Change) : Prop := change ≠ .none ∧ change ≠ .move

lemma Change.Open.settle {change : Change} (h : change.Open) (target : Int32) :
    change.settle target = target := by
  cases change with
  | none => exact absurd rfl h.1
  | move => exact absurd rfl h.2
  | _ => rfl

lemma Change.open_of_ofKeyword? {word : String} {change : Change} (h : ofKeyword? word = some change)
    (hmove : change ≠ .move) : change.Open := by
  have hmem := List.mem_of_find?_eq_some h
  exact ⟨by simpa using (List.mem_filter.mp hmem).2, hmove⟩

/-- What a place knows of the tail and holds of a clause. -/
def Expecting.Sound (tail : Tail) : Expecting → Prop
  | .comparison | .method | .change => tail.change = .none
  | .target => tail.change.Open
  | .clause => True
  | .action id | .actionChange id _ => isElementId id = true
  | .actionTarget id _ kind => isElementId id = true ∧ kind.Open

/-- The numbers of a pair have values. -/
lemma isFinite_of_readPair? {text : List Char} {a b : Number} (h : readPair? text = some (a, b)) :
    a.isFinite = true ∧ b.isFinite = true := by
  have hfinite : ∀ {text : List Char} {c : Number}, readFinite? text = some c → c.isFinite = true :=
    fun h => (Option.filter_eq_some_iff.mp h).2
  simp only [readPair?, Option.bind_eq_bind, Option.bind_eq_some_iff, Option.pure_def,
    Option.some_inj, Prod.mk.injEq] at h
  obtain ⟨⟨before, after⟩, -, a', ha, b', hb, rfl, rfl⟩ := h
  exact ⟨hfinite ha, hfinite hb⟩

lemma rounded_of_readVector? {word : String} {dx dy : Number} (h : readVector? word = some (dx, dy)) :
    dx.Rounded ∧ dy.Rounded := by
  obtain ⟨⟨a, b⟩, hpair, hvector⟩ := Option.map_eq_some_iff.mp h
  obtain ⟨rfl, rfl⟩ := Prod.mk.inj hvector
  have hfinite := isFinite_of_readPair? hpair
  exact ⟨⟨a, hfinite.1, rfl⟩, ⟨b, hfinite.2, rfl⟩⟩

namespace TailMachine

lemma sound_of_keywordAction? {id word : String} {action : Action} (hid : isElementId id = true)
    (h : keywordAction? id word = some action) : action.Legible ∧ action.Rounded := by
  unfold keywordAction? at h
  split at h
  · obtain rfl := Option.some.inj h
    exact ⟨hid, trivial⟩
  · obtain rfl := Option.some.inj h
    exact ⟨hid, trivial⟩
  · obtain rfl := Option.some.inj h
    exact ⟨hid, trivial⟩
  · obtain rfl := Option.some.inj h
    exact ⟨hid, trivial⟩
  · cases h

/-- A machine whose tail and place are sound. -/
structure Sound (m : TailMachine) : Prop where
  tail : m.tail.Sound
  place : m.expecting.Sound m.tail

/-- **One step keeps a machine sound.** -/
lemma Sound.step {m : TailMachine} (h : m.Sound) : m.step.Sound := by
  obtain ⟨expecting, words, tail, unknown⟩ := m
  obtain ⟨htail, hplace⟩ := h
  cases words with
  | nil => exact ⟨htail, hplace⟩
  | cons word rest =>
    rw [TailMachine.step]
    cases expecting with
    | comparison =>
      dsimp only
      split
      · exact ⟨⟨htail.settled, htail.actions⟩, hplace⟩
      · exact ⟨htail, hplace⟩
    | method =>
      dsimp only
      split
      · exact ⟨⟨htail.settled, htail.actions⟩, hplace⟩
      · exact ⟨htail, trivial⟩
    | change =>
      dsimp only
      split
      · exact ⟨⟨rfl, htail.actions⟩, trivial⟩
      · rename_i change hmove hword
        have hopen := Change.open_of_ofKeyword? hword hmove
        exact ⟨⟨hopen.settle _, htail.actions⟩, hopen⟩
      · exact ⟨htail, trivial⟩
    | target =>
      dsimp only
      split
      · exact ⟨⟨Change.Open.settle hplace _, htail.actions⟩, trivial⟩
      · exact ⟨htail, trivial⟩
    | clause =>
      dsimp only
      split
      · rename_i hid
        exact ⟨htail, hid⟩
      · exact ⟨htail, trivial⟩
    | action id =>
      dsimp only
      split
      · rename_i dx dy hvector
        exact ⟨htail.addAction hplace (rounded_of_readVector? hvector), trivial⟩
      · split
        · exact ⟨htail, hplace⟩
        · split
          · rename_i action haction
            have hkeyword := sound_of_keywordAction? hplace haction
            exact ⟨htail.addAction hkeyword.1 hkeyword.2, trivial⟩
          · exact ⟨htail, trivial⟩
    | actionChange id method =>
      dsimp only
      split
      · exact ⟨htail.addAction ⟨hplace, rfl⟩ trivial, trivial⟩
      · rename_i change hmove hword
        exact ⟨htail, hplace, Change.open_of_ofKeyword? hword hmove⟩
      · exact ⟨htail.addAction ⟨hplace, rfl⟩ trivial, trivial⟩
    | actionTarget id method change =>
      dsimp only
      split
      · exact ⟨htail.addAction ⟨hplace.1, hplace.2.settle _⟩ trivial, trivial⟩
      · exact ⟨htail.addAction ⟨hplace.1, hplace.2.settle _⟩ trivial, trivial⟩

/-- **A run keeps a machine sound.** -/
lemma Sound.runFor {m : TailMachine} (h : m.Sound) (n : Nat) : (m.runFor n).Sound := by
  induction n generalizing m with
  | zero => exact h
  | succ n ih =>
    rw [TailMachine.runFor]
    split_ifs
    · exact h
    · exact ih h.step

lemma Sound.finish {m : TailMachine} (h : m.Sound) : m.finish.Sound := by
  obtain ⟨expecting, words, tail, unknown⟩ := m
  obtain ⟨htail, hplace⟩ := h
  cases expecting with
  | action id => exact ⟨htail, trivial⟩
  | actionChange id method => exact ⟨htail.addAction ⟨hplace, rfl⟩ trivial, trivial⟩
  | actionTarget id method change =>
    exact ⟨htail.addAction ⟨hplace.1, hplace.2.settle _⟩ trivial, trivial⟩
  | _ => exact ⟨htail, hplace⟩

/-- **What any words say is sound.** -/
theorem sound_read (words : List String) : (read words).1.Sound := by
  have hstart : Sound { words } := ⟨⟨rfl, by simp⟩, rfl⟩
  exact (hstart.runFor _).finish.tail

end TailMachine

end PanelPuzzle
