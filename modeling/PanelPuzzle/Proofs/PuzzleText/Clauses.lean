import PanelPuzzle.Proofs.PuzzleText.Machine
import PanelPuzzle.Proofs.Text.Numerals
/-!
# The words of a tail are read back

A comparison, an interaction and the clauses of actions are told apart by their words alone.

**Ids.**  The id of an element is none of the other words that may stand where a clause starts.

**Clauses.**  `TailMachine.answer_actions` reads the words of a list of actions.  An action comes
back as it was, except for a step whose vector is not readable: it is lost, and its two words are
without meaning.  The word after a clause is the id of the next one, so nothing of it is taken for
a part of the clause before.

**The whole.**  `TailMachine.read_words` reads the words that follow the color of an element.
-/

namespace PanelPuzzle

open Text

/-! ## Ids and vectors among other words -/

lemma exists_of_isElementId {word : String} (h : isElementId word = true) :
    ∃ (s : Shape) (digits : List Char), word.toList = s.code :: digits ∧ digits ≠ [] ∧
      ∀ c ∈ digits, c.isDigit = true := by
  unfold isElementId at h
  split at h
  · cases h
  rename_i letter digits hword
  simp only [Bool.and_eq_true, decide_eq_true_eq, List.all_eq_true] at h
  obtain ⟨s, hs⟩ := Option.isSome_iff_exists.mp h.1.1
  exact ⟨s, digits, by rw [hword, Shape.ofCode?_eq_some_iff.mp hs], h.1.2, h.2⟩

lemma isDigit_code (s : Shape) : s.code.isDigit = false := by cases s <;> rfl

lemma code_ne_x (s : Shape) : s.code ≠ 'x' := by cases s <;> decide

lemma not_mem_x_of_isElementId {word : String} (h : isElementId word = true) :
    'x' ∉ word.toList := by
  obtain ⟨s, digits, hword, -, hdigits⟩ := exists_of_isElementId h
  rw [hword, List.mem_cons]
  rintro (hx | hx)
  · exact code_ne_x s hx.symm
  · exact absurd (hdigits _ hx) (by decide)

lemma Comparison.ofSymbol?_of_isElementId {word : String} (h : isElementId word = true) :
    ofSymbol? word = none := by
  refine Option.eq_none_iff_forall_ne_some.mpr fun c hc => ?_
  have hsymbol : c.symbol = word := by simpa using List.find?_some hc
  rw [← hsymbol] at h
  revert h
  cases c <;> decide

lemma Method.ofKeyword?_eq_some_iff {word : String} {m : Method} :
    ofKeyword? word = some m ↔ word = m.keyword := by
  refine ⟨fun h => ?_, fun h => h ▸ ofKeyword?_keyword m⟩
  exact (by simpa using (List.find?_some h) : m.keyword = word).symm

lemma Method.ofKeyword?_of_isElementId {word : String} (h : isElementId word = true) :
    ofKeyword? word = Option.none := by
  refine Option.eq_none_iff_forall_ne_some.mpr fun m hm => ?_
  rw [ofKeyword?_eq_some_iff.mp hm] at h
  revert h
  cases m <;> decide

lemma Change.ofKeyword?_of_isElementId {word : String} (h : isElementId word = true) :
    ofKeyword? word = Option.none := by
  refine Option.eq_none_iff_forall_ne_some.mpr fun c hc => ?_
  have hkeyword : c.keyword = word := by simpa using List.find?_some hc
  rw [← hkeyword] at h
  revert h
  cases c <;> decide

lemma readInt32?_of_isElementId {word : String} (h : isElementId word = true) :
    readInt32? word = none := by
  obtain ⟨s, digits, hword, -, -⟩ := exists_of_isElementId h
  have hdigits : readDigits? (s.code :: digits) = none := if_neg fun hall => by
    have := hall.2
    rw [List.all_cons, isDigit_code] at this
    exact Bool.false_ne_true this
  have hminus : s.code ≠ '-' := by cases s <;> decide
  have hplus : s.code ≠ '+' := by cases s <;> decide
  rw [readInt32?, readInteger?, hword]
  simp [hdigits, hminus, hplus]

lemma readVector?_of_not_mem {word : String} (h : 'x' ∉ word.toList) :
    readVector? word = none := by
  rw [readVector?, readPair?, cut?_eq_none_iff.mpr h]
  rfl

lemma readVector?_keyword (m : Method) : readVector? m.keyword = none :=
  readVector?_of_not_mem (by cases m <;> decide)

lemma mem_x_pairWord (a b : Number) : 'x' ∈ (pairWord a b).toList := by
  simp [pairWord]

lemma isElementId_pairWord (a b : Number) : isElementId (pairWord a b) = false :=
  Bool.eq_false_iff.mpr fun h => not_mem_x_of_isElementId h (mem_x_pairWord a b)

lemma Method.ofKeyword?_pairWord (a b : Number) :
    ofKeyword? (pairWord a b) = Option.none := by
  refine Option.eq_none_iff_forall_ne_some.mpr fun m hm => ?_
  have hx := mem_x_pairWord a b
  rw [ofKeyword?_eq_some_iff.mp hm] at hx
  revert hx
  cases m <;> decide

lemma TailMachine.keywordAction?_pairWord (id : String) (a b : Number) :
    keywordAction? id (pairWord a b) = none := by
  have hx := mem_x_pairWord a b
  unfold keywordAction?
  split
  · rename_i h
    exact absurd hx (by rw [h]; decide)
  · rename_i h
    exact absurd hx (by rw [h]; decide)
  · rename_i h
    exact absurd hx (by rw [h]; decide)
  · rename_i h
    exact absurd hx (by rw [h]; decide)
  · rfl

/-! ## Changes -/

/-- The words of a change: none, a move alone, or a change and its target. -/
def changeWords (change : Change) (target : Int32) : List String :=
  (interactionWords .none change target).tail

lemma interactionWords_eq (method : Method) (change : Change) (target : Int32) :
    interactionWords method change target = method.keyword :: changeWords change target := rfl

lemma changeWords_none (target : Int32) : changeWords .none target = [] := rfl

lemma changeWords_move (target : Int32) : changeWords .move target = [Change.move.keyword] := rfl

lemma changeWords_of_target {change : Change} (hnone : change ≠ .none) (hmove : change ≠ .move)
    (target : Int32) : changeWords change target = [change.keyword, integerWord target] := by
  cases change <;> first | contradiction | rfl

/-! ## Actions -/

/-- An action as it is read back; a step is lost if its vector cannot be read. -/
def Action.reread? : Action → Option Action
  | moveStep id dx dy => (readVector? (pairWord dx dy)).map fun (dx, dy) => .moveStep id dx dy
  | action => some action

/-- The words of a lost action. -/
def Action.lost (action : Action) : List String :=
  match action.reread? with
  | some _ => []
  | none => action.words

/-- What can be said of an action in words: its target is named by an id, and a state goes with a
change that has one. -/
def Action.Legible : Action → Prop
  | configure id _ change target => isElementId id = true ∧ change.settle target = target
  | action => isElementId action.targetId = true

lemma Action.Legible.isElementId {action : Action} (h : action.Legible) :
    isElementId action.targetId = true := by
  cases action with
  | configure => exact h.1
  | _ => exact h

/-- The words of an action start with the id of its target. -/
lemma Action.words_eq_cons (action : Action) :
    ∃ rest, action.words = action.targetId :: rest := by
  cases action <;> exact ⟨_, rfl⟩

/-- Words at which a clause can start: none, or an id first. -/
def StartsClause (words : List String) : Prop := ∀ word ∈ words.head?, isElementId word = true

lemma startsClause_actions {actions : List Action} (h : ∀ a ∈ actions, a.Legible) :
    StartsClause (actions.flatMap Action.words) := by
  cases actions with
  | nil => intro word hword; cases hword
  | cons action actions =>
    obtain ⟨rest, hrest⟩ := action.words_eq_cons
    intro word hword
    rw [List.flatMap_cons, hrest] at hword
    cases hword
    exact (h action List.mem_cons_self).isElementId

namespace TailMachine

variable {tail : Tail} {unknown : List String}

/-- A place that may be left out: the machine goes on with a clause. -/
lemma answer_of_startsClause {rest : List String} (h : StartsClause rest) {place : Expecting}
    (hplace : place = .comparison ∨ place = .method ∨ place = .change ∨ place = .target) :
    answer ⟨place, rest, tail, unknown⟩ = answer ⟨.clause, rest, tail, unknown⟩ := by
  cases rest with
  | nil =>
    rw [answer_of_nil rfl, answer_of_nil rfl]
    rcases hplace with rfl | rfl | rfl | rfl
    all_goals rfl
  | cons word rest =>
    have hid : isElementId word = true := h word rfl
    rcases hplace with rfl | rfl | rfl | rfl
    · rw [answer_step, step]
      simp only [Comparison.ofSymbol?_of_isElementId hid]
      rw [answer_step, step]
      simp only [Method.ofKeyword?_of_isElementId hid]
    · rw [answer_step, step]
      simp only [Method.ofKeyword?_of_isElementId hid]
    · rw [answer_step, step]
      simp only [Change.ofKeyword?_of_isElementId hid]
    · rw [answer_step, step]
      simp only [readInt32?_of_isElementId hid]

lemma answer_id (id : String) (h : isElementId id = true) (rest : List String) :
    answer ⟨.clause, id :: rest, tail, unknown⟩ = answer ⟨.action id, rest, tail, unknown⟩ := by
  rw [answer_step, step]
  simp only [if_pos h]

/-- A method and what follows it, in a clause. -/
lemma answer_configure {change : Change} {target : Int32} (h : change.settle target = target)
    (id : String) (method : Method) {rest : List String} (hrest : StartsClause rest) :
    answer ⟨.action id, interactionWords method change target ++ rest, tail, unknown⟩
      = answer ⟨.clause, rest, tail.addAction (.configure id method change target), unknown⟩ := by
  rw [interactionWords_eq, answer_step, step]
  simp only [List.cons_append, readVector?_keyword, Method.ofKeyword?_keyword]
  cases change with
  | none =>
    obtain rfl : (0 : Int32) = target := h
    cases rest with
    | nil => rfl
    | cons word rest =>
      rw [changeWords_none, List.nil_append, answer_step, step]
      simp only [Change.ofKeyword?_of_isElementId (hrest word rfl)]
  | move =>
    obtain rfl : (1 : Int32) = target := h
    rw [changeWords_move, answer_step, step]
    simp only [List.cons_append, List.nil_append]
    rw [Change.ofKeyword?_keyword (by decide)]
  | color | rotate | state | size =>
    rw [changeWords_of_target (by decide) (by decide), answer_step, step]
    simp only [List.cons_append, List.nil_append]
    rw [Change.ofKeyword?_keyword (by decide)]
    dsimp only
    rw [answer_step, step]
    simp only [readInt32?_integerWord]

/-- **The words of one action** are read as this action, or are lost. -/
lemma answer_action {action : Action} (h : action.Legible) {rest : List String}
    (hrest : StartsClause rest) :
    answer ⟨.clause, action.words ++ rest, tail, unknown⟩
      = answer ⟨.clause, rest, { tail with actions := tail.actions ++ action.reread?.toList },
          unknown ++ action.lost⟩ := by
  have hid := h.isElementId
  cases action with
  | moveStep id dx dy =>
    simp only [Action.words, List.cons_append, List.nil_append]
    rw [answer_id id hid, answer_step, step]
    rcases hv : readVector? (pairWord dx dy) with _ | ⟨dx', dy'⟩
    · simp only [hv, Action.lost, Action.reread?, Method.ofKeyword?_pairWord,
        keywordAction?_pairWord, Option.map_none, Option.toList_none, List.append_nil]
      rw [answer_step, step]
      simp [isElementId_pairWord, Action.words]
    · simp [hv, Action.lost, Action.reread?, Tail.addAction]
  | configure id method change target =>
    simp only [Action.words, List.cons_append]
    rw [answer_id id hid, answer_configure h.2 id method hrest]
    simp [Action.reread?, Action.lost, Tail.addAction]
  | reset id | size id | cycle id | link id =>
    simp only [Action.words, List.cons_append, List.nil_append]
    rw [answer_id id hid, answer_step, step]
    simp only [readVector?_of_not_mem (show 'x' ∉ "reset".toList by decide),
      readVector?_of_not_mem (show 'x' ∉ "size".toList by decide),
      readVector?_of_not_mem (show 'x' ∉ "cycle".toList by decide),
      readVector?_of_not_mem (show 'x' ∉ "link".toList by decide)]
    simp [Method.ofKeyword?, Method.all, Method.keyword, keywordAction?, Action.reread?,
      Action.lost, Tail.addAction]

/-- **The words of a list of actions** are read up to the end. -/
lemma answer_actions : ∀ {actions : List Action}, (∀ a ∈ actions, a.Legible) →
    ∀ {tail : Tail} {unknown : List String},
    answer ⟨.clause, actions.flatMap Action.words, tail, unknown⟩
      = ({ tail with actions := tail.actions ++ actions.filterMap Action.reread? },
          unknown ++ actions.flatMap Action.lost)
  | [], _, tail, unknown => by
      rw [List.flatMap_nil, answer_of_nil rfl]
      simp [finish]
  | action :: actions, h, tail, unknown => by
      obtain ⟨haction, hactions⟩ := List.forall_mem_cons.mp h
      rw [List.flatMap_cons, answer_action haction (startsClause_actions hactions),
        answer_actions hactions, List.flatMap_cons, List.filterMap_cons]
      cases action.reread? <;> simp

/-! ## The whole tail -/

/-- An interaction at its place. -/
lemma answer_interaction {change : Change} {target : Int32} (h : change.settle target = target)
    (method : Method) {rest : List String} (hrest : StartsClause rest)
    (hchange : tail.change = .none) (htarget : tail.target = 0) :
    answer ⟨.method, interactionWords method change target ++ rest, tail, unknown⟩
      = answer ⟨.clause, rest, { tail with method, change, target }, unknown⟩ := by
  rw [interactionWords_eq, answer_step, step]
  simp only [List.cons_append, Method.ofKeyword?_keyword]
  cases change with
  | none =>
    obtain rfl : (0 : Int32) = target := h
    rw [changeWords_none, List.nil_append, answer_of_startsClause hrest (by simp), ← hchange,
      ← htarget]
  | move =>
    obtain rfl : (1 : Int32) = target := h
    rw [changeWords_move, answer_step, step]
    simp only [List.cons_append, List.nil_append]
    rw [Change.ofKeyword?_keyword (by decide)]
  | color | rotate | state | size =>
    rw [changeWords_of_target (by decide) (by decide), answer_step, step]
    simp only [List.cons_append, List.nil_append]
    rw [Change.ofKeyword?_keyword (by decide)]
    dsimp only
    rw [answer_step, step]
    simp only [readInt32?_integerWord]

/-- A comparison at its place, if there is one. -/
lemma answer_comparison (comparison : Option Comparison) {rest : List String}
    (hrest : ∀ word ∈ rest.head?, Comparison.ofSymbol? word = none) :
    answer ⟨.comparison, (comparison.map Comparison.symbol).toList ++ rest, {}, []⟩
      = answer ⟨.method, rest, { comparison }, []⟩ := by
  cases comparison with
  | some c =>
    rw [answer_step, step]
    simp only [Option.map_some, Option.toList_some, List.cons_append, List.nil_append,
      Comparison.ofSymbol?_symbol]
  | none =>
    rw [Option.map_none, Option.toList_none, List.nil_append]
    cases rest with
    | nil => rfl
    | cons word rest =>
      rw [answer_step, step]
      simp only [hrest word rfl]

end TailMachine

/-- The words of an element after its color. -/
def Element.tailWords (e : Element) : List String :=
  (e.comparison.map Comparison.symbol).toList ++
    ((if e.showsInteraction then interactionWords e.method e.change e.target else []) ++
      e.actions.flatMap Action.words)

/-- **What the words after the color say** is what they were written from, without lost steps. -/
theorem TailMachine.read_tailWords {e : Element} (hactions : ∀ a ∈ e.actions, a.Legible)
    (hsettle : e.change.settle e.target = e.target) :
    read e.tailWords
      = ({ comparison := e.comparison, method := e.method, change := e.change, target := e.target
           actions := e.actions.filterMap Action.reread? }, e.actions.flatMap Action.lost) := by
  have hstart := startsClause_actions hactions
  rw [read_eq_answer, Element.tailWords]
  by_cases hshows : e.showsInteraction = true
  · rw [if_pos hshows, answer_comparison, answer_interaction hsettle e.method hstart rfl rfl,
      answer_actions hactions]
    · rfl
    · intro word hword
      obtain rfl : e.method.keyword = word := by simpa [interactionWords] using hword
      cases e.method <;> decide
  · simp only [Element.showsInteraction, Bool.or_eq_true, decide_eq_true_eq, not_or, not_not]
      at hshows
    obtain ⟨⟨hmethod, hchange⟩, hnone⟩ := hshows
    have htarget : e.target = 0 := by rw [← hsettle, hchange]; rfl
    rw [if_neg (by simp [Element.showsInteraction, hmethod, hchange, hnone]),
      hmethod, hchange, htarget, hnone, answer_comparison _ (by simp)]
    rfl

end PanelPuzzle
