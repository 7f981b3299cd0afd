import Mathlib.Algebra.Order.Group.Multiset
import Mathlib.Logic.Function.Iterate
import PanelPuzzle.Proofs.PuzzleText.Machine
/-!
# The machine reads every word and settles every clause

The machine for the words after the color may look at a word several times before it takes it.  Still it
comes to the end of `n` words after at most `2 * n + 1` steps, and a clause that has begun is never
forgotten: it becomes an action, or its id becomes a warning.

* `exists_end`, `le_of_end` — the machine ends, and how soon; both follow from `weight_step`.
* `Expecting.Completes`, `Settled` — what becomes of the clause that a machine is in.
* `Settled.of_step` — a clause that is settled after a step was settled before it, or the step settles it.
* `begun`, `told` — the ids that begin clauses, and those that actions and warnings tell of; `told_step` keeps
  the two in balance.
* `run_settles` — **every word is read, and each id that begins a clause is told of exactly once.**
-/

namespace PanelPuzzle

/-! ## Clauses -/

/-- The id of the clause that has begun. -/
def Expecting.pending : Expecting → List String
  | .action id | .actionChange id _ | .actionTarget id _ _ => [id]
  | _ => []

/-- An action completes a clause if it is about the same id and keeps the method and the change that were
already read. -/
inductive Expecting.Completes : Expecting → Action → Prop
  | action (a : Action) : Completes (.action a.targetId) a
  | change (id method change target) :
      Completes (.actionChange id method) (.configure id method change target)
  | target (id method change target) :
      Completes (.actionTarget id method change) (.configure id method change target)

namespace TailMachine

/-- **The clause that a machine is in, if there is one, does not get lost:** the next action completes it,
or it is an id alone, and the next warning is about it. -/
def Settled (m done : TailMachine) : Prop :=
  m.expecting.pending ≠ [] →
    (∃ a, m.expecting.Completes a ∧ m.tail.actions ++ [a] <+: done.tail.actions) ∨
    (∃ id, m.expecting = .action id ∧ m.unknown ++ [id] <+: done.unknown)

/-- The ids of the actions and of the warnings; a warning about a word that is no id is left out. -/
def told (m : TailMachine) : Multiset String :=
  (m.tail.actions.map Action.targetId : List String) + (m.unknown.filter isElementId : List String)

/-- The id that begins a clause with the next step. -/
def begun (m : TailMachine) : List String :=
  match m.expecting, m.words with
  | .clause, word :: _ => if isElementId word then [word] else []
  | _, _ => []

variable {m done : TailMachine}

/-! ## The end of the words -/

/-- A machine comes to the end of its words. -/
lemma exists_end (m : TailMachine) :
    ∃ k, (∀ j < k, (step^[j] m).words ≠ []) ∧ (step^[k] m).words = [] := by
  by_cases hw : m.words = []
  · exact ⟨0, fun j hj => absurd hj (Nat.not_lt_zero j), hw⟩
  · have := weight_step hw
    obtain ⟨k, hleft, hend⟩ := exists_end m.step
    refine ⟨k + 1, fun j hj => ?_, hend⟩
    cases j with
    | zero => exact hw
    | succ j => exact hleft j (Nat.lt_of_succ_lt_succ hj)
  termination_by m.weight

/-- The steps so far have lowered the weight at least as often. -/
lemma weight_iterate : ∀ {k : Nat}, (∀ j < k, (step^[j] m).words ≠ []) →
    (step^[k] m).weight + k ≤ m.weight
  | 0, _ => le_rfl
  | k + 1, h => by
    have hlt := weight_step (h k (Nat.lt_succ_self k))
    have hle := weight_iterate fun j hj => h j (Nat.lt_succ_of_lt hj)
    rw [Function.iterate_succ_apply']
    omega

/-- **The end comes before two steps for each word and one more.** -/
lemma le_of_end {words : List String} {k : Nat}
    (h : ∀ j < k, (step^[j] { words }).words ≠ []) : k ≤ 2 * words.length + 1 := by
  cases k with
  | zero => exact Nat.zero_le _
  | succ k =>
    -- Before the last step there is still a word, which alone weighs two.
    have hword : 1 ≤ (step^[k] { words }).words.length :=
      List.length_pos_iff.mpr (h k (Nat.lt_succ_self k))
    have hle := weight_iterate fun j hj => h j (Nat.lt_succ_of_lt hj)
    have hstart : weight { words } = 2 * words.length + 2 := rfl
    rw [hstart, weight] at hle
    omega

/-- A machine that runs for long enough does all steps until the end, and no more. -/
lemma runFor_eq_iterate : ∀ {n k : Nat} {m : TailMachine}, k ≤ n → (∀ j < k, (step^[j] m).words ≠ []) →
    (step^[k] m).words = [] → m.runFor n = step^[k] m
  | 0, k, m, hk, _, _ => by rw [Nat.le_zero.mp hk]; rfl
  | n + 1, 0, m, _, _, hend => if_pos hend
  | n + 1, k + 1, m, hk, h, hend => by
    have hword : m.words ≠ [] := h 0 (Nat.succ_pos k)
    rw [runFor, if_neg hword]
    exact runFor_eq_iterate (Nat.le_of_succ_le_succ hk) (fun j hj => h (j + 1) (Nat.succ_lt_succ hj)) hend

/-! ## One step -/

/-- A step takes the next word or none. -/
lemma words_step (m : TailMachine) : m.step.words = m.words ∨ m.step.words = m.words.tail := by
  obtain ⟨expecting, words, tail, unknown⟩ := m
  cases words with
  | nil => exact .inl rfl
  | cons word rest =>
    unfold step
    cases expecting
    all_goals dsimp only
    all_goals repeat' split
    all_goals first | exact .inl rfl | exact .inr rfl

/-- What is told stays. -/
lemma step_extends (m : TailMachine) :
    m.tail.actions <+: m.step.tail.actions ∧ m.unknown <+: m.step.unknown := by
  obtain ⟨expecting, words, tail, unknown⟩ := m
  cases words with
  | nil => exact ⟨List.prefix_rfl, List.prefix_rfl⟩
  | cons word rest =>
    unfold step
    cases expecting
    all_goals dsimp only
    all_goals repeat' split
    all_goals exact ⟨by simp [Tail.addAction], by simp⟩

/-- The action that stands for a word is about the id before it. -/
lemma targetId_of_keywordAction? {id word : String} {a : Action} (h : keywordAction? id word = some a) :
    a.targetId = id := by
  unfold keywordAction? at h
  split at h
  all_goals first | (obtain rfl := Option.some.inj h; rfl) | cases h

/-- **A step inside a clause** settles it, or reads more of it and tells nothing. -/
lemma step_pending (h : m.words ≠ []) (hpending : m.expecting.pending ≠ []) :
    (∃ a, m.expecting.Completes a ∧ m.tail.actions ++ [a] = m.step.tail.actions) ∨
    (∃ id, m.expecting = .action id ∧ m.unknown ++ [id] = m.step.unknown) ∨
    (m.step.tail = m.tail ∧ m.step.expecting.pending ≠ [] ∧ (∀ id, m.step.expecting ≠ .action id) ∧
      ∀ a, m.step.expecting.Completes a → m.expecting.Completes a) := by
  obtain ⟨expecting, words, tail, unknown⟩ := m
  obtain ⟨word, rest, rfl⟩ := List.exists_cons_of_ne_nil h
  cases expecting with
  | action id =>
    unfold step
    dsimp only
    split
    · exact .inl ⟨_, .action (.moveStep id _ _), rfl⟩
    split
    · refine .inr (.inr ⟨rfl, List.cons_ne_nil _ _, fun _ => Expecting.noConfusion, fun a ha => ?_⟩)
      cases ha with
      | change => exact .action (.configure id _ _ _)
    split
    next action heq =>
      obtain rfl := targetId_of_keywordAction? heq
      exact .inl ⟨action, .action action, rfl⟩
    · exact .inr (.inl ⟨id, rfl, rfl⟩)
  | actionChange id method =>
    unfold step
    dsimp only
    split
    · exact .inl ⟨_, .change id method .move 1, rfl⟩
    · refine .inr (.inr ⟨rfl, List.cons_ne_nil _ _, fun _ => Expecting.noConfusion, fun a ha => ?_⟩)
      cases ha with
      | target => exact .change id method _ _
    · exact .inl ⟨_, .change id method .none 0, rfl⟩
  | actionTarget id method change =>
    unfold step
    dsimp only
    split
    next target _ => exact .inl ⟨_, .target id method change target, rfl⟩
    · exact .inl ⟨_, .target id method change 0, rfl⟩
  | _ => exact absurd rfl hpending

/-- **A clause that is settled after a step** was settled before, or the step settles it. -/
lemma Settled.of_step (h : m.words ≠ []) (hactions : m.step.tail.actions <+: done.tail.actions)
    (hunknown : m.step.unknown <+: done.unknown) (hsettled : m.step.Settled done) : m.Settled done := by
  intro hpending
  rcases step_pending h hpending with ⟨a, ha, heq⟩ | ⟨id, hid, heq⟩ | ⟨htail, hnext, hno, hcompletes⟩
  · exact .inl ⟨a, ha, heq ▸ hactions⟩
  · exact .inr ⟨id, hid, heq ▸ hunknown⟩
  · rcases hsettled hnext with ⟨a, ha, hprefix⟩ | ⟨id, hid, -⟩
    · exact .inl ⟨a, hcompletes a ha, htail ▸ hprefix⟩
    · exact absurd hid (hno id)

/-- The end of the words settles the clause that they interrupt, and takes nothing back. -/
lemma settled_finish (m : TailMachine) : m.Settled m.finish ∧
    m.tail.actions <+: m.finish.tail.actions ∧ m.unknown <+: m.finish.unknown := by
  obtain ⟨expecting, words, tail, unknown⟩ := m
  cases expecting with
  | action id => exact ⟨fun _ => .inr ⟨id, rfl, List.prefix_rfl⟩, List.prefix_rfl, List.prefix_append _ _⟩
  | actionChange id method =>
    exact ⟨fun _ => .inl ⟨_, .change id method .none 0, List.prefix_rfl⟩, List.prefix_append _ _,
      List.prefix_rfl⟩
  | actionTarget id method change =>
    exact ⟨fun _ => .inl ⟨_, .target id method change 0, List.prefix_rfl⟩, List.prefix_append _ _,
      List.prefix_rfl⟩
  | _ => exact ⟨fun hpending => absurd rfl hpending, List.prefix_rfl, List.prefix_rfl⟩

/-! ## Ids in balance -/

/-- The ids of clauses that have begun are ids. -/
def Named (m : TailMachine) : Prop := ∀ id ∈ m.expecting.pending, isElementId id

lemma Named.step (h : m.Named) : m.step.Named := by
  obtain ⟨expecting, words, tail, unknown⟩ := m
  cases words with
  | nil => exact h
  | cons word rest =>
    unfold TailMachine.step
    cases expecting
    all_goals dsimp only
    all_goals repeat' split
    all_goals first | exact h | exact List.forall_mem_nil _ | skip
    next hword => exact List.forall_mem_singleton.mpr hword

variable {expecting expecting' : Expecting} {words words' : List String} {tail : Tail} {unknown : List String}

/-- One more action tells of one more id. -/
lemma told_addAction (a : Action) : told ⟨expecting, words, tail.addAction a, unknown⟩ =
    told ⟨expecting', words', tail, unknown⟩ + [a.targetId] := by
  simp only [told, Tail.addAction, List.map_append, List.map_singleton, ← Multiset.coe_add]
  exact add_right_comm _ _ _

/-- A warning about an id tells of it. -/
lemma told_warning {id : String} (h : isElementId id) : told ⟨expecting, words, tail, unknown ++ [id]⟩ =
    told ⟨expecting', words', tail, unknown⟩ + [id] := by
  simp only [told, List.filter_append, List.filter_singleton, h, cond_true, ← Multiset.coe_add]
  exact (add_assoc _ _ _).symm

/-- A warning about another word tells of no id. -/
lemma told_stray {word : String} (h : isElementId word = false) :
    told ⟨expecting, words, tail, unknown ++ [word]⟩ = told ⟨expecting', words', tail, unknown⟩ := by
  simp only [told, List.filter_append, List.filter_singleton, h, cond_false, List.append_nil]

/-- **A step keeps the balance:** an id that begins a clause waits until it is told of. -/
lemma told_step (h : m.Named) :
    m.step.told + m.step.expecting.pending = m.told + m.expecting.pending + m.begun := by
  obtain ⟨expecting, words, tail, unknown⟩ := m
  cases words with
  | nil =>
    have hbegun : begun ⟨expecting, [], tail, unknown⟩ = [] := by cases expecting <;> rfl
    rw [hbegun, Multiset.coe_nil, add_zero]
    rfl
  | cons word rest =>
    unfold TailMachine.step
    cases expecting
    all_goals dsimp only
    all_goals repeat' split
    all_goals simp only [Expecting.pending, begun, Multiset.coe_nil, add_zero]
    all_goals first
      | rfl
      | exact told_addAction _
      | skip
    next hid =>
      rw [if_pos hid]
      rfl
    next hid =>
      rw [if_neg hid, Multiset.coe_nil, add_zero]
      exact told_stray (Bool.eq_false_of_not_eq_true hid)
    next action hkeyword => exact targetId_of_keywordAction? hkeyword ▸ told_addAction action
    · exact told_warning (h _ List.mem_cons_self)

/-- The end of the words tells of the id that still waits. -/
lemma told_finish (h : m.Named) : m.finish.told = m.told + m.expecting.pending := by
  obtain ⟨expecting, words, tail, unknown⟩ := m
  cases expecting with
  | action id => exact told_warning (h id List.mem_cons_self)
  | actionChange id method => exact told_addAction _
  | actionTarget id method change => exact told_addAction _
  | _ => exact (add_zero _).symm

/-- **Steps keep the balance:** the ids that have begun clauses are told of, or one of them still waits. -/
lemma told_iterate (words : List String) : ∀ k, (step^[k] { words }).Named ∧
    (step^[k] { words }).told + (step^[k] { words }).expecting.pending =
      ((List.range k).flatMap fun j => (step^[j] { words }).begun : List String)
  | 0 => ⟨List.forall_mem_nil _, rfl⟩
  | k + 1 => by
    obtain ⟨hnamed, htold⟩ := told_iterate words k
    refine ⟨?_, ?_⟩
    · rw [Function.iterate_succ_apply']
      exact hnamed.step
    · rw [Function.iterate_succ_apply', told_step hnamed, htold, List.range_succ, List.flatMap_append,
        List.flatMap_singleton, Multiset.coe_add]

/-! ## The result -/

/-- **From the end back,** each clause that had begun is settled, and what was told stays. -/
lemma settled_finish_of_end {k : Nat} (hleft : ∀ j < k, (step^[j] m).words ≠ []) : ∀ i ≤ k,
    let done := (step^[k] m).finish
    (step^[k - i] m).Settled done ∧
      (step^[k - i] m).tail.actions <+: done.tail.actions ∧ (step^[k - i] m).unknown <+: done.unknown
  | 0, _ => settled_finish _
  | i + 1, hi => by
    obtain ⟨hsettled, hactions, hunknown⟩ := settled_finish_of_end hleft i (Nat.le_of_succ_le hi)
    obtain ⟨j, rfl⟩ : ∃ j, k = j + (i + 1) := ⟨k - (i + 1), by omega⟩
    have hnext : j + (i + 1) - i = j + 1 := by omega
    rw [hnext, Function.iterate_succ_apply'] at hsettled hactions hunknown
    rw [Nat.add_sub_cancel]
    obtain ⟨hactions', hunknown'⟩ := step_extends (step^[j] m)
    exact ⟨hsettled.of_step (hleft j (by omega)) hactions hunknown, hactions'.trans hactions,
      hunknown'.trans hunknown⟩

/-- **The machine reads every word and settles every clause.**  It comes to the end of `n` words after at
most `2 * n + 1` steps, each of which takes the next word or none.  A clause that has begun before any step
becomes the next action, with the method and the change that were read of it, or the next warning.  All in
all the ids that began clauses are those of the actions and of the warnings about ids, each as often. -/
theorem run_settles (words : List String) : ∃ k ≤ 2 * words.length + 1,
    let m (j : Nat) := step^[j] { words }
    let done := (m k).finish
    (∀ j < k, (m j).words ≠ [] ∧ ((m (j + 1)).words = (m j).words ∨ (m (j + 1)).words = (m j).words.tail)) ∧
    (m k).words = [] ∧ run { words } = m k ∧ read words = (done.tail, done.unknown) ∧
    (∀ j ≤ k, (m j).Settled done) ∧
    ((List.range k).flatMap fun j => (m j).begun).Perm
      (done.tail.actions.map Action.targetId ++ done.unknown.filter isElementId) := by
  obtain ⟨k, hleft, hend⟩ := exists_end { words }
  have hk := le_of_end hleft
  have hrun : run { words } = step^[k] { words } :=
    runFor_eq_iterate (hk.trans (Nat.le_succ _)) hleft hend
  refine ⟨k, hk, fun j hj => ⟨hleft j hj, ?_⟩, hend, hrun, ?_, fun j hj => ?_, ?_⟩
  · beta_reduce
    rw [Function.iterate_succ_apply']
    exact words_step _
  · rw [read, hrun]
  · have := (settled_finish_of_end hleft (k - j) (Nat.sub_le k j)).1
    rwa [Nat.sub_sub_self hj] at this
  · obtain ⟨hnamed, htold⟩ := told_iterate words k
    rw [← told_finish hnamed, told, Multiset.coe_add] at htold
    exact (Multiset.coe_eq_coe.mp htold).symm

/-- The bound is reached by ids alone. -/
example : (step^[4] { words := ["c1", "c2"] }).words = ["c2"] ∧
    (step^[5] { words := ["c1", "c2"] }).words = [] := by decide

end TailMachine

end PanelPuzzle
