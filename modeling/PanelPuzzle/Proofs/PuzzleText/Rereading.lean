import PanelPuzzle.PuzzleText.Reader
import PanelPuzzle.Proofs.PuzzleText.Words
/-!
# What is read from a written puzzle

The text of a puzzle is read as a puzzle again, whatever its numbers are.  This file says which one.

* `Element.reread`, `Puzzle.reread` — what becomes of an element and a puzzle by writing and
  reading.  Only numbers and steps can change.
* `Element.Legible`, `Puzzle.Legible` — the format has words for everything else.
* `Element.read_text`, `Puzzle.read_text` — **what is read is what was written, reread,** and the
  warnings are those of lost steps and of ids without a shape.
-/

namespace PanelPuzzle

open Text

/-! ## Readings in sequence -/

lemma Reading.ok_bind {α β : Type} (a : α) (warnings : List Unrecognized) (next : α → Reading β) :
    (Reading.mk (.ok a) warnings >>= next)
      = ⟨(next a).result, warnings ++ (next a).warnings⟩ := rfl

lemma Reading.pure_eq {α : Type} (a : α) : (pure a : Reading α) = ⟨.ok a, []⟩ := rfl

/-! ## Elements -/

/-- The text of each number is that of a finite number. -/
structure Geometry.Readable (g : Geometry) : Prop where
  width : g.width.Readable
  height : g.height.Readable
  x : g.x.Readable
  y : g.y.Readable

namespace Element

/-- The format has words for everything about an element but its numbers. -/
structure Legible (e : Element) : Prop where
  id_ne : e.id ≠ ""
  id_clean : ∀ c ∈ e.id.toList, isBlank c = false ∧ c ≠ ',' ∧ c ≠ '/'
  /-- The shape is that of the first letter of the id, or a rectangle if it stands for none. -/
  shape : (e.id.toList.head?.bind Shape.ofCode?).getD .rectangle = e.shape
  /-- Only a flat element takes another elevation. -/
  flat : e.elevation ≠ .flat → e.elevationTarget = none
  target_ne : e.elevationTarget ≠ some .flat
  settled : e.change.settle e.target = e.target
  actions : ∀ a ∈ e.actions, a.Legible

/-- What becomes of an element by writing and reading. -/
def reread (e : Element) : Element :=
  { e with
    width := e.shown.width.reread
    height := e.shown.height.reread
    x := e.shown.x.reread
    y := e.shown.y.reread
    actions := e.actions.filterMap Action.reread? }

/-- The warnings that the text of an element leaves. -/
def lost (e : Element) : List Unrecognized :=
  (if (e.id.toList.head?.bind Shape.ofCode?).isSome then [] else [⟨e.id, e.id⟩]) ++
    (e.actions.flatMap Action.lost).map fun word => ⟨e.id, word⟩

/-- The words of an element up to its color. -/
def headWords (e : Element) : List String :=
  [pairWord e.shown.width e.shown.height,
    pairWord e.shown.x e.shown.y ++ elevationMark e.elevation e.elevationTarget,
    integerWord e.rotation, e.color.word]

lemma words_eq (e : Element) : e.words = e.id :: (e.headWords ++ e.tailWords) := by
  simp [words, headWords, tailWords]

lemma Legible.isWord {e : Element} (h : e.Legible) {word : String} (hword : word ∈ e.words) :
    IsWord word := by
  rw [words_eq, List.mem_cons, List.mem_append] at hword
  rcases hword with rfl | hword | hword
  · exact ⟨h.id_ne, h.id_clean⟩
  · simp only [headWords, List.mem_cons, List.not_mem_nil, or_false] at hword
    rcases hword with rfl | rfl | rfl | rfl
    · exact isWord_pairWord _ _
    · exact isWord_place _ _ _ _
    · exact isWord_integerWord _
    · exact isWord_colorWord _
  · rw [tailWords, List.mem_append, List.mem_append] at hword
    rcases hword with hword | hword | hword
    · cases hc : e.comparison with
      | none => simp [hc] at hword
      | some c =>
        obtain rfl : word = c.symbol := by simpa [hc] using hword
        cases c <;> decide
    · split at hword
      · exact isWord_of_mem_interactionWords hword
      · cases hword
    · obtain ⟨action, haction, hword⟩ := List.mem_flatMap.mp hword
      exact isWord_of_mem_actionWords (h.actions action haction) hword

lemma Legible.wordsOf_text {e : Element} (h : e.Legible) : wordsOf e.text = e.words := by
  refine wordsOf_intercalate (by rw [words_eq]; exact List.cons_ne_nil _ _) fun w hw => ?_
  have hword := h.isWord hw
  exact ⟨hword.1, fun c hc => (hword.2 c hc).1⟩

/-- The text of an element has no comma and no slash. -/
lemma Legible.mem_text {e : Element} (h : e.Legible) {c : Char} (hc : c ∈ e.text.toList) :
    c ≠ ',' ∧ c ≠ '/' := by
  rw [text, String.toList_intercalate] at hc
  rcases mem_intercalate hc with hc | ⟨word, hword, hc⟩
  · rw [List.mem_singleton.mp hc]
    decide
  · obtain ⟨w, hw, rfl⟩ := List.mem_map.mp hword
    exact ((h.isWord hw).2 c hc).2

/-- The reading of the shape: it is found, or there is a warning and a rectangle. -/
lemma Legible.recognize_shape {e : Element} (h : e.Legible) :
    Reading.recognize e.id e.id (e.id.toList.head?.bind Shape.ofCode?) .rectangle
      = ⟨.ok e.shape, if (e.id.toList.head?.bind Shape.ofCode?).isSome then [] else [⟨e.id, e.id⟩]⟩ := by
  have hshape := h.shape
  cases hcode : e.id.toList.head?.bind Shape.ofCode? with
  | none =>
    rw [hcode, Option.getD_none] at hshape
    rw [← hshape]
    rfl
  | some s =>
    rw [hcode, Option.getD_some] at hshape
    rw [← hshape]
    rfl

/-- **The words of an element are read as the element, reread.** -/
lemma ofWords_words {e : Element} (h : e.Legible) (hg : e.shown.Readable) :
    ofWords e.id (e.headWords ++ e.tailWords) = ⟨.ok e.reread, e.lost⟩ := by
  have hplace : readPosition? (pairWord e.shown.x e.shown.y
      ++ elevationMark e.elevation e.elevationTarget)
      = some ⟨e.reread.x, e.reread.y, e.elevation, e.elevationTarget⟩ := by
    rw [readPosition?_word h.flat h.target_ne, hg.x.reread?_eq, hg.y.reread?_eq]
    rfl
  rw [ofWords, h.recognize_shape, Reading.ok_bind]
  simp only [headWords, List.cons_append, List.nil_append,
    List.getElem?_cons_zero, List.getElem?_cons_succ, Reading.optional, Option.getD_some,
    readSize?_pairWord, hg.width.reread?_eq, hg.height.reread?_eq, Option.bind_some,
    Option.map_some, hplace, readInt32?_integerWord, readColor?_word, List.drop_succ_cons, List.drop_zero,
    TailMachine.read_tailWords h.actions h.settled, Reading.recognize, Reading.warn,
    Reading.ok_bind, Reading.pure_eq, List.nil_append, List.append_nil]
  rfl

/-- **The text of an element is read as the element, reread.** -/
theorem read_text {e : Element} (h : e.Legible) (hg : e.shown.Readable) :
    read e.text = ⟨.ok (some e.reread), e.lost⟩ := by
  rw [read, h.wordsOf_text, words_eq]
  simp only [ofWords_words h hg, Reading.ok_bind, Reading.pure_eq, List.append_nil]

end Element

/-! ## Panels and puzzles -/

/-- What becomes of a panel by writing and reading. -/
def Panel.reread (panel : Panel) : Panel :=
  { panel with elements := panel.elements.map Element.reread }

/-- The format has words for a panel: its theme and its elements. -/
structure Panel.Legible (panel : Panel) : Prop where
  theme : Trimmed panel.theme.toList
  theme_clean : ∀ c ∈ panel.theme.toList, c ≠ '/' ∧ c ≠ ':'
  elements : ∀ e ∈ panel.elements, e.Legible ∧ e.shown.Readable

/-- The readings of a list that all succeed. -/
lemma Reading.each_eq {α β : Type} {read : α → Reading β} {value : α → β}
    {warnings : α → List Unrecognized} : ∀ {items : List α},
    (∀ a ∈ items, read a = ⟨.ok (value a), warnings a⟩) →
    each read items = ⟨.ok (items.map value), items.flatMap warnings⟩
  | [], _ => rfl
  | a :: items, h => by
      obtain ⟨ha, hitems⟩ := List.forall_mem_cons.mp h
      rw [each, ha, ok_bind, each_eq hitems, ok_bind, pure_eq]
      simp

lemma Reading.each_map {α β γ : Type} (read : β → Reading γ) (write : α → β) :
    ∀ items : List α, each read (items.map write) = each (fun a => read (write a)) items
  | [] => rfl
  | a :: items => by rw [List.map_cons, each, each, each_map read write items]

namespace Panel

/-- The text of a panel has no slash. -/
lemma Legible.mem_text {panel : Panel} (h : panel.Legible) {c : Char}
    (hc : c ∈ panel.text.toList) : c ≠ '/' := by
  simp only [text, String.toList_append, List.mem_append, String.toList_intercalate] at hc
  rcases hc with (hc | hc) | hc
  · exact (h.theme_clean c hc).1
  · rw [List.mem_singleton.mp hc]
    decide
  · rcases mem_intercalate hc with hc | ⟨text, htext, hc⟩
    · rw [List.mem_singleton.mp hc]
      decide
    · simp only [List.map_map, List.mem_map] at htext
      obtain ⟨e, he, rfl⟩ := htext
      exact ((h.elements e he).1.mem_text hc).2

/-- **The text of a panel is read as the panel, reread,** whatever its number. -/
theorem read_text {panel : Panel} (h : panel.Legible) (number : Nat) :
    read panel.text.toList number
      = ⟨.ok panel.reread, panel.elements.flatMap Element.lost⟩ := by
  have hcut : cut? ':' panel.text.toList = some (panel.theme.toList,
      [','].intercalate (panel.elements.map fun e => e.text.toList)) := by
    have htext : panel.text.toList = panel.theme.toList
        ++ ':' :: [','].intercalate (panel.elements.map fun e => e.text.toList) := by
      simp [text, Function.comp_def]
    rw [htext, cut?_append]
    exact fun hc => (h.theme_clean ':' hc).2 rfl
  rw [read, hcut]
  dsimp only
  cases helements : panel.elements with
  | nil =>
    have hread : Reading.each (fun text => Element.read (String.ofList text))
        (pieces (· = ',') ([','].intercalate ([].map fun e : Element => e.text.toList)))
          = ⟨.ok [none], []⟩ := rfl
    rw [hread, Reading.ok_bind, Reading.pure_eq, h.theme, String.ofList_toList]
    simp [reread, helements]
  | cons e elements =>
    have hpieces : pieces (· = ',')
        ([','].intercalate ((e :: elements).map fun e => e.text.toList))
          = (e :: elements).map fun e => e.text.toList := by
      refine pieces_intercalate (by simp) (List.cons_ne_nil _ _) fun text htext c hc => ?_
      obtain ⟨e', he', rfl⟩ := List.mem_map.mp htext
      exact decide_eq_false ((h.elements e' (helements ▸ he')).1.mem_text hc).1
    have hread : ∀ e' ∈ e :: elements, Element.read (String.ofList e'.text.toList)
        = ⟨.ok (some e'.reread), e'.lost⟩ := fun e' he' => by
      rw [String.ofList_toList]
      have hlegible := h.elements e' (helements ▸ he')
      exact Element.read_text hlegible.1 hlegible.2
    rw [hpieces, Reading.each_map, Reading.each_eq hread, Reading.ok_bind, Reading.pure_eq,
      h.theme, String.ofList_toList]
    simp [reread, helements, List.filterMap_map]

end Panel

/-! ## Headings -/

/-- A heading that does not end in a bracketed text is a message. -/
lemma readHeading_of_not_reward {section_ : List Char}
    (h : ¬ ((trim section_).getLast? = some ']' ∧ '[' ∈ trim section_)) :
    readHeading section_ = (String.ofList (trim section_), none) := by
  have hnone : (do
      let last ← (trim section_).getLast?
      guard (last = ']')
      cutLast? '[' (trim section_).dropLast : Option (List Char × List Char)) = none := by
    cases hlast : (trim section_).getLast? with
    | none => rfl
    | some last =>
      by_cases hbracket : last = ']'
      · have hmem : '[' ∉ (trim section_).dropLast := fun hmem =>
          h ⟨by rw [hlast, hbracket], List.dropLast_subset _ hmem⟩
        have hguard : (guard (last = ']') : Option Unit) = some () := if_pos hbracket
        rw [Option.bind_eq_bind, Option.bind_some, hguard]
        exact cutLast?_eq_none hmem
      · have hguard : (guard (last = ']') : Option Unit) = none := if_neg hbracket
        rw [Option.bind_eq_bind, Option.bind_some, hguard]
        rfl
  rw [readHeading, hnone]

/-- A heading that ends in a bracketed text is a message and a reward. -/
lemma readHeading_of_reward {section_ before reward : List Char}
    (h : trim section_ = before ++ '[' :: reward ++ [']']) (hreward : '[' ∉ reward) :
    readHeading section_ = (String.ofList (trimEnd before), some (String.ofList (trim reward))) := by
  have hsome : (do
      let last ← (trim section_).getLast?
      guard (last = ']')
      cutLast? '[' (trim section_).dropLast : Option (List Char × List Char))
        = some (before, reward) := by
    rw [h, List.getLast?_concat, List.dropLast_concat, cutLast?_append hreward]
    rfl
  rw [readHeading, hsome]

/-! ## Puzzles -/

/-- What becomes of a puzzle by writing and reading. -/
def Puzzle.reread (puzzle : Puzzle) : Puzzle :=
  { puzzle with panels := puzzle.panels.map Panel.reread }

/-- The warnings that the text of a puzzle leaves. -/
def Puzzle.lost (puzzle : Puzzle) : List Unrecognized :=
  puzzle.panels.flatMap fun panel => panel.elements.flatMap Element.lost

/-- The format has words for a puzzle.  A message without a reward must not look as if it had
one. -/
structure Puzzle.Legible (puzzle : Puzzle) : Prop where
  message : Trimmed puzzle.message.toList
  message_clean : '/' ∉ puzzle.message.toList
  reward : ∀ reward ∈ puzzle.reward, Trimmed reward.toList ∧ ∀ c ∈ reward.toList, c ≠ '/' ∧ c ≠ '['
  no_reward : puzzle.reward = none →
    ¬ ('[' ∈ puzzle.message.toList ∧ puzzle.message.toList.getLast? = some ']')
  panels_ne : puzzle.panels ≠ []
  panels : ∀ panel ∈ puzzle.panels, panel.Legible

namespace Puzzle

/-- The heading of a puzzle has no slash. -/
lemma Legible.mem_heading {puzzle : Puzzle} (h : puzzle.Legible) :
    '/' ∉ puzzle.heading.toList := by
  rw [heading]
  cases hreward : puzzle.reward with
  | none => exact h.message_clean
  | some reward =>
    have hclean := fun hc => ((h.reward reward hreward).2 '/' hc).1 rfl
    simpa [h.message_clean] using hclean

/-- **The message and the reward are read back.** -/
lemma Legible.readHeading_heading {puzzle : Puzzle} (h : puzzle.Legible) :
    readHeading puzzle.heading.toList = (puzzle.message, puzzle.reward) := by
  rw [heading]
  cases hreward : puzzle.reward with
  | none =>
    rw [readHeading_of_not_reward, h.message, String.ofList_toList]
    rw [h.message]
    exact fun hboth => h.no_reward hreward hboth.symm
  | some reward =>
    obtain ⟨htrim, hclean⟩ := h.reward reward hreward
    have hbracket : '[' ∉ reward.toList := fun hc => (hclean '[' hc).2 rfl
    have hlast : ∀ before c, (before ++ '[' :: reward.toList ++ [']']).getLast? = some c →
        isBlank c = false := fun before c hc => by
      rw [List.getLast?_concat, Option.some_inj] at hc
      rw [← hc]
      rfl
    by_cases hempty : puzzle.message = ""
    · -- the blank before the bracket is the first character, and is trimmed
      have htext : trim (puzzle.message ++ " [" ++ reward ++ "]").toList
          = [] ++ '[' :: reward.toList ++ [']'] := by
        have hflat : (puzzle.message ++ " [" ++ reward ++ "]").toList
            = ' ' :: ([] ++ '[' :: reward.toList ++ [']']) := by simp [hempty]
        rw [hflat, trim, List.dropWhile_cons_of_pos isBlank_space]
        exact trimmed_iff.mpr ⟨fun c hc => by cases hc; rfl, hlast []⟩
      rw [readHeading_of_reward htext hbracket, htrim, String.ofList_toList, hempty]
      rfl
    · have htext : trim (puzzle.message ++ " [" ++ reward ++ "]").toList
          = (puzzle.message.toList ++ [' ']) ++ '[' :: reward.toList ++ [']'] := by
        have hflat : (puzzle.message ++ " [" ++ reward ++ "]").toList
            = (puzzle.message.toList ++ [' ']) ++ '[' :: reward.toList ++ [']'] := by simp
        rw [hflat]
        refine trimmed_iff.mpr ⟨fun c hc => h.message.head ?_, hlast _⟩
        cases hm : puzzle.message.toList with
        | nil => exact absurd (String.toList_eq_nil_iff.mp hm) hempty
        | cons d rest => rwa [hm] at hc
      rw [readHeading_of_reward htext hbracket, htrim, String.ofList_toList,
        trimEnd_append_blank _ isBlank_space, trimEnd_eq_self fun c => h.message.last,
        String.ofList_toList]

/-- **The text of a puzzle is read as the puzzle, reread.** -/
theorem read_text {puzzle : Puzzle} (h : puzzle.Legible) :
    read puzzle.text = ⟨.ok puzzle.reread, puzzle.lost⟩ := by
  have hpieces : pieces (· = '/') puzzle.text.toList
      = puzzle.heading.toList :: puzzle.panels.map fun panel => panel.text.toList := by
    have htext : puzzle.text.toList = ['/'].intercalate
        (puzzle.heading.toList :: puzzle.panels.map fun panel => panel.text.toList) := by
      simp [text, Function.comp_def]
    rw [htext]
    refine pieces_intercalate (by simp) (List.cons_ne_nil _ _) fun text htext c hc => ?_
    refine decide_eq_false ?_
    rcases List.mem_cons.mp htext with rfl | htext
    · exact fun hslash => h.mem_heading (hslash ▸ hc)
    · obtain ⟨panel, hpanel, rfl⟩ := List.mem_map.mp htext
      exact (h.panels panel hpanel).mem_text hc
  obtain ⟨panel, panels, hpanels⟩ := List.exists_cons_of_ne_nil h.panels_ne
  have hread : ∀ numbered ∈ puzzle.panels.zipIdx,
      Panel.read numbered.1.text.toList (numbered.2 + 1)
        = ⟨.ok numbered.1.reread, numbered.1.elements.flatMap Element.lost⟩ := fun numbered hn =>
    Panel.read_text (h.panels _ (List.fst_mem_of_mem_zipIdx hn)) _
  have heach : Reading.each (fun numbered => Panel.read numbered.1 (numbered.2 + 1))
      (puzzle.panels.map fun panel => panel.text.toList).zipIdx
        = ⟨.ok (puzzle.panels.map Panel.reread), puzzle.lost⟩ := by
    rw [List.zipIdx_map, Reading.each_map]
    refine (Reading.each_eq hread).trans ?_
    have hfst := List.zipIdx_map_fst 0 puzzle.panels
    have hvalues : puzzle.panels.zipIdx.map (fun numbered => numbered.1.reread)
        = puzzle.panels.map Panel.reread := by
      rw [← hfst, List.map_map, hfst]
      rfl
    have hlost : puzzle.panels.zipIdx.flatMap
        (fun numbered => numbered.1.elements.flatMap Element.lost) = puzzle.lost := by
      rw [lost, ← hfst, List.flatMap_map, hfst]
    rw [hvalues, hlost]
  rw [hpanels, List.map_cons] at hpieces heach
  simp only [read, hpieces]
  rw [show Reading.each _ _ = _ from heach]
  simp only [Reading.ok_bind, Reading.pure_eq, h.readHeading_heading, List.append_nil]
  rw [reread, hpanels]

end Puzzle

end PanelPuzzle
