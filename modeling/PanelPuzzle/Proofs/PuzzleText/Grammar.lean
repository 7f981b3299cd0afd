import Mathlib.Data.Nat.Find
import PanelPuzzle.Proofs.PuzzleText.Clauses
/-!
# A grammar for the words after the color

What the machine reads word by word is written here as a grammar: a comparison, an interaction and
clauses, each as long as the words allow, and single words without meaning where no clause starts.

The rules of the grammar say which words stand for what; that the longest of these is taken is said once, by
`Longest`.  For the machine it means that the next word does not go on with what was read
(`Longest.not_append`), and this is why it leaves the word to another place.

* `Comparing`, `Interacting`, `Clause` — the rules.
* `Sentence` — words, taken apart: each of them belongs to a field, to an action or is without meaning.
* `read_grammar` — **all words are taken apart in just one way,** and the machine says what it is.
-/

namespace PanelPuzzle.Grammar

open TailMachine

/-! ## Rules -/

/-- **A comparison:** a symbol, or no word. -/
inductive Comparing : List String → Option Comparison → Prop
  | none : Comparing [] none
  | symbol {word : String} {c : Comparison} (h : Comparison.ofSymbol? word = some c) :
      Comparing [word] (some c)

/-- **What may follow a method:** a change and its target.  A move has no word for its target, and any
other change may go without. -/
inductive Changing : List String → Change × Int32 → Prop
  | none : Changing [] (.none, 0)
  | move {word : String} (h : Change.ofKeyword? word = some .move) : Changing [word] (.move, 1)
  | untargeted {word : String} {change : Change} (h : Change.ofKeyword? word = some change)
      (hmove : change ≠ .move) : Changing [word] (change, 0)
  | targeted {word number : String} {change : Change} {target : Int32}
      (h : Change.ofKeyword? word = some change) (hmove : change ≠ .move)
      (htarget : readInt32? number = some target) : Changing [word, number] (change, target)

/-- **An interaction:** a method and what follows it, or no word. -/
inductive Interacting : List String → Method × Change × Int32 → Prop
  | none : Interacting [] (.none, .none, 0)
  | method {word : String} {words : List String} {method : Method} {change : Change × Int32}
      (h : Method.ofKeyword? word = some method) (hchange : Changing words change) :
      Interacting (word :: words) (method, change)

/-- **A clause:** the id of an element, and a vector, a word for an action, or a method and what follows
it. -/
inductive Clause : List String → Action → Prop
  | moveStep {id vector : String} {dx dy : Number} (hid : isElementId id = true)
      (h : readVector? vector = some (dx, dy)) : Clause [id, vector] (.moveStep id dx dy)
  | keyword {id word : String} {action : Action} (hid : isElementId id = true)
      (h : keywordAction? id word = some action) : Clause [id, word] action
  | configure {id word : String} {words : List String} {method : Method} {change : Change × Int32}
      (hid : isElementId id = true) (h : Method.ofKeyword? word = some method)
      (hchange : Changing words change) :
      Clause (id :: word :: words) (.configure id method change.1 change.2)

/-- **A rule is unambiguous:** no words mean two things. -/
def Unambiguous {α : Type} (rule : List String → α → Prop) : Prop :=
  ∀ words a b, rule words a → rule words b → a = b

/-! ## The longest beginning -/

/-- **The longest beginning of words that follows a rule,** and what it means. -/
structure Longest {α : Type} (rule : List String → α → Prop) (words taken : List String) (a : α) :
    Prop where
  begins : taken <+: words
  means : rule taken a
  longest : ∀ others b, others <+: words → rule others b → others.length ≤ taken.length

namespace Longest

variable {α : Type} {rule : List String → α → Prop} {words taken taken' rest : List String} {a a' : α}

/-- The next word does not go on with what is taken. -/
lemma not_append (h : Longest rule (taken ++ rest) taken a) {word : String} (hword : rest.head? = some word)
    (b : α) : ¬ rule (taken ++ [word]) b := by
  intro hb
  obtain ⟨more, rfl⟩ := List.head?_eq_some_iff.mp hword
  have hle := h.longest _ b ⟨more, by simp⟩ hb
  rw [List.length_append] at hle
  exact absurd hle (Nat.not_le.mpr (Nat.lt_succ_self _))

/-- What follows certain words in a longest beginning is the longest one there. -/
lemma after {β : Type} {rule' : List String → β → Prop} {b : β} (before : List String)
    (h : Longest rule (before ++ taken ++ rest) (before ++ taken) a) (hmeans : rule' taken b)
    (hrule : ∀ others c, rule' others c → ∃ a, rule (before ++ others) a) :
    Longest rule' (taken ++ rest) taken b where
  begins := List.prefix_append _ _
  means := hmeans
  longest others c hothers hc := by
    obtain ⟨a', ha'⟩ := hrule others c hc
    have hbegins : before ++ others <+: before ++ taken ++ rest := by
      rw [List.append_assoc]
      exact (List.prefix_append_right_inj before).mpr hothers
    have hle := h.longest _ a' hbegins ha'
    rw [List.length_append, List.length_append] at hle
    exact Nat.le_of_add_le_add_left hle

/-- **There is just one longest beginning.** -/
lemma unique (hrule : Unambiguous rule) (h : Longest rule words taken a)
    (h' : Longest rule words taken' a') : taken = taken' ∧ a = a' := by
  have hlength := Nat.le_antisymm (h'.longest _ _ h.begins h.means) (h.longest _ _ h'.begins h'.means)
  have heq := (List.prefix_of_prefix_length_le h.begins h'.begins (Nat.le_of_eq hlength)).eq_of_length hlength
  subst heq
  exact ⟨rfl, hrule _ _ _ h.means h'.means⟩

/-- **There is a longest beginning** if there is any. -/
lemma exists_of_begins (hbegins : taken <+: words) (hmeans : rule taken a) :
    ∃ taken a, Longest rule words taken a := by
  classical
  let Reaches (n : Nat) : Prop := ∃ taken a, taken <+: words ∧ rule taken a ∧ taken.length = n
  have hreach : Reaches (Nat.findGreatest Reaches words.length) :=
    Nat.findGreatest_spec hbegins.length_le ⟨taken, a, hbegins, hmeans, rfl⟩
  obtain ⟨most, b, hmost, hb, hlength⟩ := hreach
  refine ⟨most, b, hmost, hb, fun others c hothers hc => ?_⟩
  rw [hlength]
  exact Nat.le_findGreatest hothers.length_le ⟨others, c, hothers, hc, rfl⟩

end Longest

/-! ## Words mean one thing -/

lemma Comparing.unambiguous : Unambiguous Comparing := by
  intro words a b h h'
  cases h with
  | none => cases h'; rfl
  | symbol h =>
    cases h' with
    | symbol h' => exact h.symm.trans h'

lemma Changing.unambiguous : Unambiguous Changing := by
  intro words a b h h'
  cases h with
  | none => cases h'; rfl
  | move h =>
    cases h' with
    | move => rfl
    | untargeted h' hmove => exact absurd (Option.some.inj (h'.symm.trans h)) hmove
  | untargeted h hmove =>
    cases h' with
    | move h' => exact absurd (Option.some.inj (h.symm.trans h')) hmove
    | untargeted h' => rw [Option.some.inj (h.symm.trans h')]
  | targeted h hmove htarget =>
    cases h' with
    | targeted h' hmove' htarget' =>
      rw [Option.some.inj (h.symm.trans h'), Option.some.inj (htarget.symm.trans htarget')]

lemma Interacting.unambiguous : Unambiguous Interacting := by
  intro words a b h h'
  cases h with
  | none => cases h'; rfl
  | method h hchange =>
    cases h' with
    | method h' hchange' =>
      rw [Option.some.inj (h.symm.trans h'), Changing.unambiguous _ _ _ hchange hchange']

/-- A word for an action is no vector and no method. -/
lemma of_keywordAction? {id word : String} {action : Action} (h : keywordAction? id word = some action) :
    readVector? word = none ∧ Method.ofKeyword? word = none := by
  unfold keywordAction? at h
  split at h
  · exact ⟨readVector?_of_not_mem (by decide), by decide⟩
  · exact ⟨readVector?_of_not_mem (by decide), by decide⟩
  · exact ⟨readVector?_of_not_mem (by decide), by decide⟩
  · exact ⟨readVector?_of_not_mem (by decide), by decide⟩
  · cases h

/-- A method is no vector. -/
lemma readVector?_of_method {word : String} {method : Method} (h : Method.ofKeyword? word = some method) :
    readVector? word = none := by
  rw [Method.ofKeyword?_eq_some_iff.mp h]
  exact readVector?_keyword method

lemma Clause.unambiguous : Unambiguous Clause := by
  intro words a b h h'
  cases h with
  | moveStep hid h =>
    cases h' with
    | moveStep hid' h' => cases h.symm.trans h'; rfl
    | keyword hid' h' => cases h.symm.trans (of_keywordAction? h').1
    | configure hid' h' => cases h.symm.trans (readVector?_of_method h')
  | keyword hid h =>
    cases h' with
    | moveStep hid' h' => cases h'.symm.trans (of_keywordAction? h).1
    | keyword hid' h' => exact Option.some.inj (h.symm.trans h')
    | configure hid' h' => cases h'.symm.trans (of_keywordAction? h).2
  | configure hid h hchange =>
    cases h' with
    | moveStep hid' h' => cases h'.symm.trans (readVector?_of_method h)
    | keyword hid' h' => cases h.symm.trans (of_keywordAction? h').2
    | configure hid' h' hchange' =>
      rw [Option.some.inj (h.symm.trans h'), Changing.unambiguous _ _ _ hchange hchange']

lemma Clause.ne_nil {words : List String} {a : Action} (h : Clause words a) : words ≠ [] := by
  cases h <;> exact List.cons_ne_nil _ _

/-! ## Sentences -/

/-- A part of the words after the interaction: a clause, or a word without meaning. -/
inductive Part where
  | clause (words : List String) (action : Action)
  | stray (word : String)
  deriving DecidableEq

namespace Part

def words : Part → List String
  | clause words _ => words
  | stray word => [word]

def action? : Part → Option Action
  | clause _ action => some action
  | stray _ => none

def stray? : Part → Option String
  | clause _ _ => none
  | stray word => some word

end Part

/-- **Words are read from left to right:** the longest clause is taken, or one word if no clause starts. -/
inductive Reads : List String → List Part → Prop
  | nil : Reads [] []
  | clause {taken rest : List String} {action : Action} {parts : List Part}
      (h : Longest Clause (taken ++ rest) taken action) (hrest : Reads rest parts) :
      Reads (taken ++ rest) (.clause taken action :: parts)
  | stray {word : String} {rest : List String} {parts : List Part}
      (h : ∀ taken action, taken <+: word :: rest → ¬ Clause taken action) (hrest : Reads rest parts) :
      Reads (word :: rest) (.stray word :: parts)

namespace Reads

variable {words : List String} {parts parts' : List Part}

/-- No word is lost, and none is read twice. -/
lemma flatMap_words (h : Reads words parts) : parts.flatMap Part.words = words := by
  induction h with
  | nil => rfl
  | clause _ _ ih => rw [List.flatMap_cons, ih, Part.words]
  | stray _ _ ih => rw [List.flatMap_cons, ih, Part.words, List.singleton_append]

/-- All words can be read. -/
lemma exists_parts (words : List String) : ∃ parts, Reads words parts := by
  by_cases hclause : ∃ taken action, taken <+: words ∧ Clause taken action
  · obtain ⟨taken, action, hbegins, hmeans⟩ := hclause
    obtain ⟨taken, action, hlongest⟩ := Longest.exists_of_begins hbegins hmeans
    obtain ⟨rest, hwords⟩ := hlongest.begins
    have hlt : rest.length < words.length := by
      have hpos := List.length_pos_iff.mpr hlongest.means.ne_nil
      rw [← hwords, List.length_append]
      omega
    obtain ⟨parts, hparts⟩ := exists_parts rest
    exact ⟨.clause taken action :: parts, hwords ▸ .clause (hwords ▸ hlongest) hparts⟩
  · cases words with
    | nil => exact ⟨[], .nil⟩
    | cons word rest =>
      obtain ⟨parts, hparts⟩ := exists_parts rest
      exact ⟨_, .stray (fun taken action hbegins hmeans => hclause ⟨taken, action, hbegins, hmeans⟩) hparts⟩
termination_by words.length

/-- What was read first. -/
private lemma eq_or (h : Reads words parts) : words = [] ∧ parts = [] ∨
    (∃ taken rest action others, words = taken ++ rest ∧ parts = .clause taken action :: others ∧
      Longest Clause words taken action ∧ Reads rest others) ∨
    ∃ word rest others, words = word :: rest ∧ parts = .stray word :: others ∧
      (∀ taken action, taken <+: words → ¬ Clause taken action) ∧ Reads rest others := by
  cases h with
  | nil => exact .inl ⟨rfl, rfl⟩
  | clause h hrest => exact .inr (.inl ⟨_, _, _, _, rfl, rfl, h, hrest⟩)
  | stray h hrest => exact .inr (.inr ⟨_, _, _, rfl, rfl, h, hrest⟩)

/-- **There is just one way to read words.** -/
lemma unique (h : Reads words parts) (h' : Reads words parts') : parts = parts' := by
  induction h generalizing parts' with
  | nil =>
    obtain ⟨-, rfl⟩ | ⟨taken, rest, action, others, -, -, h, -⟩ | ⟨word, rest, others, heq, -⟩ := h'.eq_or
    · rfl
    · exact absurd (List.prefix_nil.mp h.begins) h.means.ne_nil
    · cases heq
  | @clause taken rest action parts h _ ih =>
    obtain ⟨heq, -⟩ | ⟨taken', rest', action', others, heq, rfl, h', hrest⟩ | ⟨_, _, _, -, -, hnone, -⟩ :=
      h'.eq_or
    · exact absurd (List.append_eq_nil_iff.mp heq).1 h.means.ne_nil
    · obtain ⟨rfl, rfl⟩ := h.unique Clause.unambiguous h'
      obtain rfl := List.append_cancel_left heq
      rw [ih hrest]
    · exact absurd h.means (hnone _ _ h.begins)
  | @stray word rest parts hnone _ ih =>
    obtain ⟨heq, -⟩ | ⟨_, _, _, _, -, -, h', -⟩ | ⟨word', rest', others, heq, rfl, -, hrest⟩ := h'.eq_or
    · cases heq
    · exact absurd h'.means (hnone _ _ h'.begins)
    · cases heq
      rw [ih hrest]

end Reads

/-- **The words after a color, taken apart.** -/
structure Sentence where
  comparisonWords : List String
  comparison : Option Comparison
  interactionWords : List String
  /-- The method, the change and the target. -/
  interaction : Method × Change × Int32
  parts : List Part
  deriving DecidableEq

namespace Sentence

/-- The words after the comparison and the interaction. -/
def partWords (s : Sentence) : List String := s.parts.flatMap Part.words

/-- All words of a sentence. -/
def words (s : Sentence) : List String := s.comparisonWords ++ (s.interactionWords ++ s.partWords)

/-- What a sentence says. -/
def tail (s : Sentence) : Tail where
  comparison := s.comparison
  method := s.interaction.1
  change := s.interaction.2.1
  target := s.interaction.2.2
  actions := s.parts.filterMap Part.action?

/-- The words without meaning. -/
def unknown (s : Sentence) : List String := s.parts.filterMap Part.stray?

/-- **A sentence follows the grammar:** each time as much is read as the words allow. -/
structure Greedy (s : Sentence) : Prop where
  comparison : Longest Comparing s.words s.comparisonWords s.comparison
  interaction : Longest Interacting (s.interactionWords ++ s.partWords) s.interactionWords s.interaction
  parts : Reads s.partWords s.parts

variable {s s' : Sentence}

/-- All words make a sentence. -/
lemma exists_greedy (words : List String) : ∃ s : Sentence, s.words = words ∧ s.Greedy := by
  obtain ⟨first, c, hcomparison⟩ := Longest.exists_of_begins (List.nil_prefix (l := words)) Comparing.none
  obtain ⟨rest, rfl⟩ := hcomparison.begins
  obtain ⟨second, i, hinteraction⟩ := Longest.exists_of_begins (List.nil_prefix (l := rest)) Interacting.none
  obtain ⟨rest, rfl⟩ := hinteraction.begins
  obtain ⟨parts, hparts⟩ := Reads.exists_parts rest
  obtain rfl := hparts.flatMap_words
  exact ⟨⟨first, c, second, i, parts⟩, rfl, hcomparison, hinteraction, hparts⟩

/-- **All words make just one sentence.** -/
lemma Greedy.unique (h : s.Greedy) (h' : s'.Greedy) (hwords : s.words = s'.words) : s = s' := by
  obtain ⟨first, c, second, i, parts⟩ := s
  obtain ⟨first', c', second', i', parts'⟩ := s'
  obtain ⟨rfl, rfl⟩ := (hwords ▸ h.comparison).unique Comparing.unambiguous h'.comparison
  have hrest := List.append_cancel_left hwords
  obtain ⟨rfl, rfl⟩ := (hrest ▸ h.interaction).unique Interacting.unambiguous h'.interaction
  have hparts := List.append_cancel_left hrest
  obtain rfl := (hparts ▸ h.parts).unique h'.parts
  rfl

end Sentence

/-! ## The machine -/

section Machine

variable {tail : Tail} {unknown taken rest : List String} {comparison : Option Comparison} {method : Method}
  {change : Change × Int32} {word id : String}

/-- After no change the next word is none. -/
lemma head_of_unchanged (h : Longest Changing ([] ++ rest) [] change) :
    ∀ word ∈ rest.head?, Change.ofKeyword? word = none := by
  intro word hword
  refine Option.eq_none_iff_forall_ne_some.mpr fun c hc => ?_
  by_cases hmove : c = .move
  · exact h.not_append hword _ (.move (hmove ▸ hc))
  · exact h.not_append hword _ (.untargeted hc hmove)

/-- After a change without a target the next word is no number. -/
lemma head_of_untargeted {c : Change} (h : Longest Changing ([word] ++ rest) [word] change)
    (hc : Change.ofKeyword? word = some c) (hmove : c ≠ .move) :
    ∀ number ∈ rest.head?, readInt32? number = none := by
  intro number hnumber
  refine Option.eq_none_iff_forall_ne_some.mpr fun target htarget => ?_
  exact h.not_append hnumber _ (.targeted hc hmove htarget)

/-- **The machine takes the longest change** of an interaction. -/
lemma answer_changing (h : Longest Changing (taken ++ rest) taken change) :
    answer ⟨.change, taken ++ rest, { comparison, method }, unknown⟩
      = answer ⟨.clause, rest, { comparison, method, change := change.1, target := change.2 }, unknown⟩ := by
  cases h.means with
  | none =>
    cases rest with
    | nil => rw [List.append_nil, answer_of_nil rfl, answer_of_nil rfl]; rfl
    | cons word rest =>
      rw [List.nil_append, answer_step, step]
      simp only [head_of_unchanged h word rfl]
  | move hc =>
    rw [List.singleton_append, answer_step, step]
    simp only [hc]
  | @untargeted word c hc hmove =>
    rw [List.singleton_append, answer_step, step]
    simp only [hc]
    cases rest with
    | nil => rw [answer_of_nil rfl, answer_of_nil rfl]; rfl
    | cons number rest =>
      rw [answer_step, step]
      simp only [head_of_untargeted h hc hmove number rfl]
  | @targeted word number c target hc hmove htarget =>
    rw [List.cons_append, List.singleton_append, answer_step, step]
    simp only [hc]
    rw [answer_step, step]
    simp only [htarget]

/-- **The machine takes the longest change** of a clause. -/
lemma answer_actionChanging (h : Longest Changing (taken ++ rest) taken change) :
    answer ⟨.actionChange id method, taken ++ rest, tail, unknown⟩
      = answer ⟨.clause, rest, tail.addAction (.configure id method change.1 change.2), unknown⟩ := by
  cases h.means with
  | none =>
    cases rest with
    | nil => rw [List.append_nil, answer_of_nil rfl, answer_of_nil rfl]; rfl
    | cons word rest =>
      rw [List.nil_append, answer_step, step]
      simp only [head_of_unchanged h word rfl]
  | move hc =>
    rw [List.singleton_append, answer_step, step]
    simp only [hc]
  | @untargeted word c hc hmove =>
    rw [List.singleton_append, answer_step, step]
    simp only [hc]
    cases rest with
    | nil => rw [answer_of_nil rfl, answer_of_nil rfl]; rfl
    | cons number rest =>
      rw [answer_step, step]
      simp only [head_of_untargeted h hc hmove number rfl]
  | @targeted word number c target hc hmove htarget =>
    rw [List.cons_append, List.singleton_append, answer_step, step]
    simp only [hc]
    rw [answer_step, step]
    simp only [htarget]

/-- **The machine takes the longest clause,** and it yields one action. -/
lemma answer_clause {action : Action} (h : Longest Clause (taken ++ rest) taken action) :
    answer ⟨.clause, taken ++ rest, tail, unknown⟩
      = answer ⟨.clause, rest, tail.addAction action, unknown⟩ := by
  cases h.means with
  | moveStep hid hvector =>
    rw [List.cons_append, List.singleton_append, answer_id _ hid, answer_step, step]
    simp only [hvector]
  | keyword hid hkeyword =>
    obtain ⟨hvector, hmethod⟩ := of_keywordAction? hkeyword
    rw [List.cons_append, List.singleton_append, answer_id _ hid, answer_step, step]
    simp only [hvector, hmethod, hkeyword]
  | @configure id word words method change hid hmethod hchange =>
    rw [List.cons_append, List.cons_append, answer_id _ hid, answer_step, step]
    simp only [readVector?_of_method hmethod, hmethod]
    exact answer_actionChanging (h.after [id, word] hchange fun _ _ hc => ⟨_, .configure hid hmethod hc⟩)

/-- **Where no clause starts** one word is without meaning.  An id is looked at with the word after it,
which is then left to the next place. -/
lemma answer_stray (h : ∀ taken action, taken <+: word :: rest → ¬ Clause taken action) :
    answer ⟨.clause, word :: rest, tail, unknown⟩ = answer ⟨.clause, rest, tail, unknown ++ [word]⟩ := by
  cases hid : isElementId word with
  | false =>
    rw [answer_step, step]
    simp only [hid, Bool.false_eq_true, if_false]
  | true =>
    rw [answer_id _ hid]
    cases rest with
    | nil => rw [answer_of_nil rfl, answer_of_nil rfl]; rfl
    | cons next rest =>
      have hpair : ∀ action, ¬ Clause [word, next] action := fun action => h _ action ⟨rest, rfl⟩
      have hvector : readVector? next = none :=
        Option.eq_none_iff_forall_ne_some.mpr fun _ hv => hpair _ (.moveStep hid hv)
      have hmethod : Method.ofKeyword? next = none :=
        Option.eq_none_iff_forall_ne_some.mpr fun _ hm => hpair _ (.configure hid hm .none)
      have hkeyword : keywordAction? word next = none :=
        Option.eq_none_iff_forall_ne_some.mpr fun _ hk => hpair _ (.keyword hid hk)
      rw [answer_step, step]
      simp only [hvector, hmethod, hkeyword]

/-- **The machine reads from left to right.** -/
lemma answer_reads {words : List String} {parts : List Part} (h : Reads words parts) :
    answer ⟨.clause, words, tail, unknown⟩
      = ({ tail with actions := tail.actions ++ parts.filterMap Part.action? },
          unknown ++ parts.filterMap Part.stray?) := by
  induction h generalizing tail unknown with
  | nil =>
    rw [answer_of_nil rfl]
    simp [finish]
  | clause h _ ih =>
    rw [answer_clause h, ih]
    simp [List.filterMap_cons, Tail.addAction, Part.action?, Part.stray?]
  | stray h _ ih =>
    rw [answer_stray h, ih]
    simp [List.filterMap_cons, Part.action?, Part.stray?]

/-- **The machine takes the longest interaction.** -/
lemma answer_interacting {i : Method × Change × Int32}
    (h : Longest Interacting (taken ++ rest) taken i) :
    answer ⟨.method, taken ++ rest, { comparison }, unknown⟩
      = answer ⟨.clause, rest, { comparison, method := i.1, change := i.2.1, target := i.2.2 },
          unknown⟩ := by
  cases h.means with
  | none =>
    cases rest with
    | nil => rw [List.append_nil, answer_of_nil rfl, answer_of_nil rfl]; rfl
    | cons word rest =>
      have hmethod : Method.ofKeyword? word = none :=
        Option.eq_none_iff_forall_ne_some.mpr fun _ hm => h.not_append rfl _ (.method hm .none)
      rw [List.nil_append, answer_step, step]
      simp only [hmethod]
  | @method word words method change hmethod hchange =>
    rw [List.cons_append, answer_step, step]
    simp only [hmethod]
    exact answer_changing (h.after [word] hchange fun _ _ hc => ⟨_, .method hmethod hc⟩)

/-- **The machine takes a comparison** if there is one. -/
lemma answer_comparing (h : Longest Comparing (taken ++ rest) taken comparison) :
    answer ⟨.comparison, taken ++ rest, {}, []⟩ = answer ⟨.method, rest, { comparison }, []⟩ := by
  cases h.means with
  | none =>
    cases rest with
    | nil => rw [List.append_nil, answer_of_nil rfl, answer_of_nil rfl]; rfl
    | cons word rest =>
      have hsymbol : Comparison.ofSymbol? word = none :=
        Option.eq_none_iff_forall_ne_some.mpr fun _ hc => h.not_append rfl _ (.symbol hc)
      rw [List.nil_append, answer_step, step]
      simp only [hsymbol]
  | symbol hc =>
    rw [List.singleton_append, answer_step, step]
    simp only [hc]

/-- **The machine says what a sentence says.** -/
lemma read_greedy {s : Sentence} (h : s.Greedy) : read s.words = (s.tail, s.unknown) := by
  rw [read_eq_answer, Sentence.words, answer_comparing h.comparison, answer_interacting h.interaction,
    answer_reads h.parts]
  rfl

end Machine

/-- **The machine reads by the grammar.**  All words are taken apart in just one way: each of them belongs to
the comparison, to the interaction, to a clause, which is one action, or it alone is without meaning.  The
machine says what this sentence says, and finds the words without meaning in their order. -/
theorem read_grammar (words : List String) : ∃ s : Sentence,
    (∀ s' : Sentence, s'.words = words ∧ s'.Greedy ↔ s' = s) ∧ read words = (s.tail, s.unknown) := by
  obtain ⟨s, rfl, hs⟩ := Sentence.exists_greedy words
  refine ⟨s, fun s' => ⟨fun ⟨hwords, hs'⟩ => hs'.unique hs hwords, ?_⟩, read_greedy hs⟩
  rintro rfl
  exact ⟨rfl, hs⟩

/-- An id without an action is without meaning, and so is a number after a move; a clause may end early. -/
example : read ["=", "drag", "move", "1", "r2", "c3", "reset", "c4", "tap", "state"]
    = ({ comparison := some .equal, method := .drag, change := .move, target := 1
         actions := [.reset "c3", .configure "c4" .tap .state 0] }, ["1", "r2"]) := by decide +kernel

end PanelPuzzle.Grammar
