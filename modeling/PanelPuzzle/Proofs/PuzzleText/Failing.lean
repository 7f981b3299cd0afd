import PanelPuzzle.Proofs.PuzzleText.Accepted
/-!
# Where reading fails

A text is no puzzle if it has no section for a panel, if a section has no theme, or if an element has no
position.  Reading stops at the first of these problems from the left, and keeps the warnings that it has
left until then.

**Items.**  `items` lists what a reader comes to, in reading order: the texts between the commas of all
sections, and the sections without a theme.  What is wrong with an item, `Item.problem?`, and the warnings
that it leaves, `Item.warnings`, are told of the item alone.

**Following.**  Readings are nested, elements in sections and sections in a puzzle, but items are not.
`Follows` says of a reading and a list of items that it ends at the first problem of the list, or at its
end.  Readings in sequence follow one list after the other, `Follows.bind`, so the nesting does not matter.

* `Source.WellFormed`, `Source.Fails` — what is said of a text without reading it.
* `PuzzleReader.puzzle_outcome` — **a reader succeeds exactly on well-formed texts,** and what it answers
  depends on nothing that it has read before.
-/

namespace PanelPuzzle

open Text

/-! ## Sections and items -/

namespace Source

/-- The sections of a text after its heading. -/
def sections (source : String) : List (List Char) := (pieces (· = '/') source.toList).tail

/-- The texts between the commas of a section, after its theme. -/
def elementTexts (section_ : List Char) : List String :=
  match cut? ':' section_ with
  | none => []
  | some (_, elements) => (pieces (· = ',') elements).map String.ofList

/-- Something that a reader comes to. -/
inductive Item where
  /-- A section without a theme, by its number from one. -/
  | unthemed (number : Nat)
  /-- A text between commas. -/
  | element (text : String)

/-- The items of the section with a number. -/
def sectionItems (section_ : List Char) (number : Nat) : List Item :=
  if ':' ∈ section_ then (elementTexts section_).map .element else [.unthemed number]

/-- The items of all sections, in reading order. -/
def items (source : String) : List Item :=
  (sections source).zipIdx.flatMap fun (section_, i) => sectionItems section_ (i + 1)

/-- The warning for a word, if it is not known. -/
def unlessKnown (id word : String) (known : Bool) : List Unrecognized :=
  if known then [] else [⟨id, word⟩]

namespace Item

/-- **What is wrong with an item:** it has no theme, or it is not blank and its third word is missing or
no position. -/
def problem? : Item → Option ReadError
  | unthemed number => some (.noColorTheme number)
  | element text =>
    match wordsOf text with
    | [] => none
    | id :: rest =>
      match rest[1]?.bind readPosition? with
      | some _ => none
      | none => some (.badPosition id (rest[1]?.getD ""))

/-- The warnings that a fresh reader has after it was asked for the element of an item. -/
def warnings : Item → List Unrecognized
  | unthemed _ => []
  | element text => (PuzzleReader.element { source := text } text).2.warnings

/-- The warnings for the id and the size of an element, which stand before its position. -/
def earlyWarnings : Item → List Unrecognized
  | unthemed _ => []
  | element text =>
    match wordsOf text with
    | [] => []
    | id :: rest =>
      unlessKnown id id (id.toList.head?.bind Shape.ofCode?).isSome ++
        rest[0]?.toList.flatMap fun size => unlessKnown id size (readSize? size).isSome

end Item

/-! ## What is said of a text -/

/-- **The texts that are puzzles.** -/
structure WellFormed (source : String) : Prop where
  slash : '/' ∈ source.toList
  themed : ∀ section_ ∈ sections source, ':' ∈ section_
  placed : ∀ section_ ∈ sections source, ∀ text ∈ elementTexts section_, wordsOf text ≠ [] →
    ∃ word, (wordsOf text)[2]? = some word ∧ (readPosition? word).isSome = true

/-- **The first problem of a text from the left,** and the warnings until there: all those of the elements
before it, and those for the id and the size of the element without a position. -/
inductive Fails (source : String) : ReadError → List Unrecognized → Prop
  | noPanels (slash : '/' ∉ source.toList) : Fails source .noPanels []
  | first (before after : List Item) {item : Item} {e : ReadError}
      (split : items source = before ++ item :: after) (sound : ∀ i ∈ before, i.problem? = none)
      (problem : item.problem? = some e) :
      Fails source e (before.flatMap Item.warnings ++ item.earlyWarnings)

/-- **The panel of a section** has one element for each text that is not blank, in order, and each is the one
that its text alone is read as. -/
def Describes (section_ : List Char) (panel : Panel) : Prop :=
  List.Forall₂ (fun text e => (PuzzleReader.element { source := text } text).1 = .ok (some e))
    ((elementTexts section_).filter (wordsOf · ≠ [])) panel.elements

end Source

open Source

/-! ## Readings that follow items -/

/-- **A reading follows items:** it succeeds at their end if there is no problem with any, and else fails
with the first problem.  In both cases it has the warnings of what it came to. -/
inductive Follows {α : Type} (items : List Item) : Reading α → Prop
  | ok (a : α) (sound : ∀ i ∈ items, i.problem? = none) :
      Follows items ⟨.ok a, items.flatMap Item.warnings⟩
  | error (before after : List Item) {item : Item} {e : ReadError}
      (split : items = before ++ item :: after) (sound : ∀ i ∈ before, i.problem? = none)
      (problem : item.problem? = some e) :
      Follows items ⟨.error e, before.flatMap Item.warnings ++ item.earlyWarnings⟩

namespace Follows

variable {α β : Type} {items more : List Item}

lemma pure (a : α) : Follows [] (Pure.pure a : Reading α) := .ok a (by simp)

/-- **Readings in sequence** follow one list after the other. -/
lemma bind {r : Reading α} {next : α → Reading β} (h : Follows items r)
    (hnext : ∀ a, Follows more (next a)) : Follows (items ++ more) (r >>= next) := by
  cases h with
  | ok a sound =>
    rw [Reading.ok_bind]
    have hmore := hnext a
    generalize next a = result at hmore
    cases hmore with
    | ok b sound' =>
      rw [← List.flatMap_append]
      exact .ok b (List.forall_mem_append.mpr ⟨sound, sound'⟩)
    | error before after split sound' problem =>
      rw [← List.append_assoc, ← List.flatMap_append]
      refine .error (items ++ before) after ?_ (List.forall_mem_append.mpr ⟨sound, sound'⟩) problem
      rw [split, List.append_assoc]
  | error before after split sound problem =>
    refine .error before (after ++ more) ?_ sound problem
    rw [split, List.append_assoc, List.cons_append]

lemma each {read : α → Reading β} {itemsOf : α → List Item} {as : List α}
    (h : ∀ a ∈ as, Follows (itemsOf a) (read a)) :
    Follows (as.flatMap itemsOf) (Reading.each read as) := by
  induction as with
  | nil => exact .pure []
  | cons a as ih =>
    obtain ⟨ha, has⟩ := List.forall_mem_cons.mp h
    rw [List.flatMap_cons]
    refine .bind ha fun b => ?_
    rw [← List.append_nil (as.flatMap itemsOf)]
    exact .bind (ih has) fun bs => .pure (b :: bs)

end Follows

/-! ## Elements -/

namespace Reading

variable {α : Type}

lemma recognize_eq (element word : String) (value : Option α) (default : α) :
    recognize element word value default
      = ⟨.ok (value.getD default), unlessKnown element word value.isSome⟩ := by
  cases value <;> rfl

lemma optional_eq (element : String) (word : Option String) (read : String → Option α) (default : α) :
    optional element word read default
      = ⟨.ok ((word.bind read).getD default),
          word.toList.flatMap fun w => unlessKnown element w (read w).isSome⟩ := by
  cases word with
  | none => rfl
  | some w => simp [optional, recognize_eq]

end Reading

/-- **Only the position of an element can be missed.** -/
lemma Element.ofWords_cases (id : String) (rest : List String) :
    (∃ position e warnings, rest[1]?.bind readPosition? = some position ∧
      ofWords id rest = ⟨.ok e, warnings⟩) ∨
    (rest[1]?.bind readPosition? = none ∧
      ofWords id rest = ⟨.error (.badPosition id (rest[1]?.getD "")),
        unlessKnown id id (id.toList.head?.bind Shape.ofCode?).isSome ++
          rest[0]?.toList.flatMap fun size => unlessKnown id size (readSize? size).isSome⟩) := by
  have hplace : readPosition? (rest[1]?.getD "") = rest[1]?.bind readPosition? := by
    cases rest[1]? <;> rfl
  simp only [ofWords, Reading.recognize_eq, Reading.optional_eq, Reading.ok_bind, hplace,
    Option.isSome_map]
  cases hposition : rest[1]?.bind readPosition? with
  | none => exact .inr ⟨rfl, by simp [Reading.fail]⟩
  | some position => exact .inl ⟨position, _, _, rfl, rfl⟩

lemma Source.Item.warnings_element (text : String) :
    (Item.element text).warnings = (Element.read text).warnings := by
  simp [Item.warnings, PuzzleReader.element]

/-- **An element follows its text.** -/
lemma follows_element (text : String) : Follows [.element text] (Element.read text) := by
  have hok : ∀ found warnings, Element.read text = ⟨.ok found, warnings⟩ →
      (Item.element text).problem? = none → Follows [.element text] (Element.read text) := by
    intro found warnings hread hsound
    have hwarnings : [Item.element text].flatMap Item.warnings = warnings := by
      simp [Item.warnings_element, hread]
    rw [hread, ← hwarnings]
    exact .ok found (by simpa using hsound)
  cases hwords : wordsOf text with
  | nil =>
    exact hok none [] (by simp [Element.read, hwords, Reading.pure_eq]) (by simp [Item.problem?, hwords])
  | cons id rest =>
    have hread : Element.read text = Element.ofWords id rest >>= fun e => Pure.pure (some e) := by
      simp [Element.read, hwords]
    rcases Element.ofWords_cases id rest with ⟨position, e, warnings, hposition, he⟩ | ⟨hposition, he⟩
    · rw [he, Reading.ok_bind, Reading.pure_eq] at hread
      exact hok _ _ hread (by simp [Item.problem?, hwords, hposition])
    · have herror : Element.read text = ⟨.error (.badPosition id (rest[1]?.getD "")),
          [].flatMap Item.warnings ++ (Item.element text).earlyWarnings⟩ := by
        rw [hread, he]
        simp [Item.earlyWarnings, hwords, bind, Reading.bind]
      rw [herror]
      exact .error [] [] rfl (by simp) (by simp [Item.problem?, hwords, hposition])

/-- Only a blank text is read as no element. -/
lemma Element.read_none_iff {text : String} {found : Option Element}
    (h : (read text).result = .ok found) : found = none ↔ wordsOf text = [] := by
  cases hwords : wordsOf text with
  | nil =>
    simp only [read, hwords, Reading.pure_eq, Except.ok.injEq] at h
    simp [h]
  | cons id rest =>
    simp only [read, hwords] at h
    obtain ⟨e, -, hsome⟩ := Reading.result_bind.mp h
    obtain rfl := Except.ok.inj hsome
    simp

/-! ## Panels -/

/-- **A panel follows the texts between its commas.** -/
lemma follows_panel (section_ : List Char) (number : Nat) :
    Follows (sectionItems section_ number) (Panel.read section_ number) := by
  cases hcut : cut? ':' section_ with
  | none =>
    have hitems : sectionItems section_ number = [.unthemed number] := by
      simp [sectionItems, cut?_eq_none_iff.mp hcut]
    have hread : Panel.read section_ number = ⟨.error (.noColorTheme number),
        [].flatMap Item.warnings ++ (Item.unthemed number).earlyWarnings⟩ := by
      simp [Panel.read, hcut, Reading.fail, Item.earlyWarnings]
    rw [hitems, hread]
    exact .error [] [] rfl (by simp) rfl
  | some sides =>
    obtain ⟨theme, elements⟩ := sides
    have hcolon : ':' ∈ section_ := by
      rw [(cut?_eq_some hcut).1]
      simp
    have hitems : sectionItems section_ number
        = (pieces (· = ',') elements).flatMap (fun piece => [.element (String.ofList piece)]) ++ [] := by
      rw [List.append_nil, sectionItems, if_pos hcolon, elementTexts, hcut, List.map_map,
        List.map_eq_flatMap]
      rfl
    rw [hitems, Panel.read, hcut]
    exact .bind (.each fun piece _ => follows_element _) fun read => .pure _

/-- Each text that is not blank is an element. -/
lemma forall₂_filterMap {texts : List String} {read : List (Option Element)}
    (h : List.Forall₂ (fun text found => (Element.read text).result = .ok found) texts read) :
    List.Forall₂ (fun text e => (Element.read text).result = .ok (some e))
      (texts.filter (wordsOf · ≠ [])) (read.filterMap id) := by
  induction h with
  | nil => exact .nil
  | @cons text found texts read hread _ ih =>
    have hnone := Element.read_none_iff hread
    cases found with
    | none =>
      rw [List.filter_cons_of_neg (by simp [hnone.mp rfl]), List.filterMap_cons_none rfl]
      exact ih
    | some e =>
      have hwords : wordsOf text ≠ [] := fun h => by simpa using hnone.mpr h
      rw [List.filter_cons_of_pos (by simpa using hwords),
        List.filterMap_cons_some (f := id) (b := e) rfl]
      exact .cons hread ih

/-- **A panel has an element for each text that is not blank.** -/
lemma describes_of_read {section_ : List Char} {number : Nat} {panel : Panel}
    (h : (Panel.read section_ number).result = .ok panel) : Describes section_ panel := by
  rw [Panel.read] at h
  split at h
  · cases h
  rename_i theme elements hcut
  obtain ⟨read, hread, hpanel⟩ := Reading.result_bind.mp h
  obtain rfl := Except.ok.inj hpanel
  refine forall₂_filterMap ?_
  rw [elementTexts, hcut]
  exact List.forall₂_map_left_iff.mpr (Reading.result_each.mp hread)

/-! ## Puzzles -/

lemma slash_mem_iff (source : String) : '/' ∈ source.toList ↔ sections source ≠ [] := by
  have hlength := length_pieces (· = '/') source.toList
  rw [← List.length_pos_iff, sections, List.length_tail, hlength, Nat.add_sub_cancel,
    List.countP_pos_iff]
  simp

lemma length_sections (source : String) : (sections source).length = source.toList.count '/' := by
  rw [sections, List.length_tail, length_pieces, Nat.add_sub_cancel, List.count]
  congr 1

/-- **A text with sections is read along the items of all of them.** -/
lemma follows_puzzle {source : String} (h : '/' ∈ source.toList) :
    Follows (items source) (Puzzle.read source) := by
  have hsections := (slash_mem_iff source).mp h
  rw [sections] at hsections
  rw [items, sections, Puzzle.read]
  -- what stands before the first slash is the heading, which has no items
  split
  · rename_i heading first others hpieces
    rw [hpieces, ← List.append_nil (List.flatMap _ _)]
    exact .bind (.each fun s _ => follows_panel s.1 (s.2 + 1)) fun panels => .pure _
  · rename_i hshort
    obtain ⟨heading, rest, hpieces⟩ := List.exists_cons_of_ne_nil (pieces_ne_nil (· = '/') source.toList)
    rw [hpieces, List.tail_cons] at hsections
    obtain ⟨first, others, rfl⟩ := List.exists_cons_of_ne_nil hsections
    exact absurd hpieces (hshort heading first others)

lemma read_of_no_slash {source : String} (h : '/' ∉ source.toList) :
    Puzzle.read source = ⟨.error .noPanels, []⟩ := by
  have hpieces : pieces (· = '/') source.toList = [source.toList] :=
    pieces_of_forall fun c hc => decide_eq_false fun heq => h (heq ▸ hc)
  simp [Puzzle.read, hpieces, Reading.fail]

/-- **A puzzle has a panel for each section.** -/
lemma panels_of_read {source : String} {p : Puzzle} (h : (Puzzle.read source).result = .ok p) :
    List.Forall₂ Describes (sections source) p.panels := by
  rw [Puzzle.read] at h
  split at h
  · rename_i heading first others hpieces
    obtain ⟨panels, hpanels, hp⟩ := Reading.result_bind.mp h
    obtain rfl := Except.ok.inj hp
    have hsections : sections source = (first :: others).zipIdx.map Prod.fst := by
      rw [List.zipIdx_map_fst, sections, hpieces, List.tail_cons]
    rw [hsections, List.forall₂_map_left_iff]
    exact (Reading.result_each.mp hpanels).imp fun _ _ => describes_of_read
  · cases h

/-! ## The first problem -/

namespace Source

lemma Item.problem?_element {text : String} : (Item.element text).problem? = none ↔
    (wordsOf text ≠ [] →
      ∃ word, (wordsOf text)[2]? = some word ∧ (readPosition? word).isSome = true) := by
  cases hwords : wordsOf text with
  | nil => simp [problem?, hwords]
  | cons id rest =>
    cases hword : rest[1]? with
    | none => simp [problem?, hwords, hword]
    | some word => cases hposition : readPosition? word <;> simp [problem?, hwords, hword, hposition]

/-- **A text is well-formed if there is no problem with any of its items.** -/
lemma wellFormed_iff {source : String} : WellFormed source ↔
    '/' ∈ source.toList ∧ ∀ i ∈ items source, i.problem? = none := by
  constructor
  · intro h
    refine ⟨h.slash, fun i hi => ?_⟩
    obtain ⟨⟨s, n⟩, hs, hi⟩ := List.mem_flatMap.mp hi
    have hs := List.fst_mem_of_mem_zipIdx hs
    change i ∈ sectionItems s (n + 1) at hi
    rw [sectionItems, if_pos (h.themed s hs)] at hi
    obtain ⟨text, htext, rfl⟩ := List.mem_map.mp hi
    exact Item.problem?_element.mpr (h.placed s hs text htext)
  · rintro ⟨hslash, hsound⟩
    have hitem : ∀ s ∈ sections source, ∃ n, ∀ i ∈ sectionItems s n, i.problem? = none := by
      intro s hs
      obtain ⟨n, hn⟩ := List.mem_iff_getElem?.mp hs
      refine ⟨n + 1, fun i hi => hsound i (List.mem_flatMap.mpr ⟨(s, n), ?_, hi⟩)⟩
      exact List.mem_zipIdx_iff_getElem?.mpr hn
    have hthemed : ∀ s ∈ sections source, ':' ∈ s := by
      intro s hs
      obtain ⟨n, hn⟩ := hitem s hs
      by_contra hcolon
      rw [sectionItems, if_neg hcolon] at hn
      simpa [Item.problem?] using hn _ List.mem_cons_self
    refine ⟨hslash, hthemed, fun s hs text htext => ?_⟩
    obtain ⟨n, hn⟩ := hitem s hs
    rw [sectionItems, if_pos (hthemed s hs)] at hn
    exact Item.problem?_element.mp (hn _ (List.mem_map_of_mem htext))

/-- There is one first problem of a list. -/
lemma first_unique {before after before' after' : List Item} {item item' : Item} {e e' : ReadError}
    (hsplit : before ++ item :: after = before' ++ item' :: after')
    (hsound : ∀ i ∈ before, i.problem? = none) (hproblem : item.problem? = some e)
    (hsound' : ∀ i ∈ before', i.problem? = none) (hproblem' : item'.problem? = some e') :
    before = before' ∧ item = item' := by
  -- while both lists go on they agree; if one ends first, the other has a problem among its sound items
  induction before generalizing before' with
  | nil =>
    cases before' with
    | nil => exact ⟨rfl, (List.cons.inj hsplit).1⟩
    | cons i before' =>
      obtain rfl := (List.cons.inj hsplit).1
      simp [hproblem] at hsound'
  | cons i before ih =>
    cases before' with
    | nil =>
      obtain rfl := (List.cons.inj hsplit).1
      simp [hproblem'] at hsound
    | cons i' before' =>
      obtain ⟨rfl, hrest⟩ := List.cons.inj hsplit
      obtain ⟨rfl, rfl⟩ := ih hrest (List.forall_mem_cons.mp hsound).2 (List.forall_mem_cons.mp hsound').2
      exact ⟨rfl, rfl⟩

/-- **A text fails in one way.** -/
lemma Fails.unique {source : String} {e e' : ReadError} {warnings warnings' : List Unrecognized}
    (h : Fails source e warnings) (h' : Fails source e' warnings') : e = e' ∧ warnings = warnings' := by
  have hslash : ∀ before after item, items source = before ++ item :: after → '/' ∈ source.toList := by
    intro before after item hsplit
    rw [slash_mem_iff]
    rintro hnil
    simp [items, hnil] at hsplit
  cases h with
  | noPanels hno =>
    cases h' with
    | noPanels => exact ⟨rfl, rfl⟩
    | first before after split => exact absurd (hslash _ _ _ split) hno
  | first before after split sound problem =>
    cases h' with
    | noPanels hno => exact absurd (hslash _ _ _ split) hno
    | first before' after' split' sound' problem' =>
      obtain ⟨rfl, rfl⟩ := first_unique (split.symm.trans split') sound problem sound' problem'
      exact ⟨Option.some.inj (problem.symm.trans problem'), rfl⟩

lemma Fails.not_wellFormed {source : String} {e : ReadError} {warnings : List Unrecognized}
    (h : Fails source e warnings) : ¬ WellFormed source := by
  intro hwell
  cases h with
  | noPanels hno => exact hno hwell.slash
  | first before after split _ problem =>
    have hsound := (wellFormed_iff.mp hwell).2 _ (split ▸ List.mem_append_right _ List.mem_cons_self)
    rw [problem] at hsound
    cases hsound

end Source

/-- **What becomes of a text:** it is well-formed and read with the warnings of all its items, or it fails
as `Source.Fails` says. -/
lemma Puzzle.read_cases (source : String) :
    (WellFormed source ∧
      ∃ p, read source = ⟨.ok p, (items source).flatMap Item.warnings⟩) ∨
    ∃ e warnings, Fails source e warnings ∧ read source = ⟨.error e, warnings⟩ := by
  by_cases hslash : '/' ∈ source.toList
  · have h := follows_puzzle hslash
    generalize read source = reading at h
    cases h with
    | ok p sound => exact .inl ⟨wellFormed_iff.mpr ⟨hslash, sound⟩, p, rfl⟩
    | error before after split sound problem => exact .inr ⟨_, _, .first before after split sound problem, rfl⟩
  · exact .inr ⟨_, _, .noPanels hslash, read_of_no_slash hslash⟩

namespace PuzzleReader

/-- **A reader succeeds exactly on well-formed texts,** whatever it was asked for before.  Then it has one
panel for each slash, one element for each text that is not blank, and the warnings that fresh readers have
after each of them.  Otherwise it has the first problem from the left, with the warnings until there. -/
theorem puzzle_outcome (reader : PuzzleReader) :
    ((∃ p, reader.puzzle.1 = .ok p) ↔ WellFormed reader.source) ∧
    (∀ p, reader.puzzle.1 = .ok p →
      p.panels.length = reader.source.toList.count '/' ∧
      List.Forall₂ Describes (sections reader.source) p.panels ∧
      reader.puzzle.2.warnings = (items reader.source).flatMap Item.warnings) ∧
    ∀ e warnings, reader.puzzle.1 = .error e ∧ reader.puzzle.2.warnings = warnings ↔
      Fails reader.source e warnings := by
  have hpuzzle : reader.puzzle.1 = (Puzzle.read reader.source).result ∧
      reader.puzzle.2.warnings = (Puzzle.read reader.source).warnings := ⟨rfl, rfl⟩
  rw [hpuzzle.1, hpuzzle.2]
  rcases Puzzle.read_cases reader.source with ⟨hwell, p, hread⟩ | ⟨e, warnings, hfails, hread⟩
  · have hpanels := panels_of_read (congrArg Reading.result hread)
    rw [hread]
    refine ⟨⟨fun _ => hwell, fun _ => ⟨p, rfl⟩⟩, ?_, fun e warnings => ⟨?_, ?_⟩⟩
    · rintro _ ⟨⟩
      exact ⟨by rw [← hpanels.length_eq, length_sections], hpanels, rfl⟩
    · rintro ⟨⟨⟩, -⟩
    · exact fun h => absurd hwell h.not_wellFormed
  · rw [hread]
    refine ⟨⟨?_, fun h => absurd h hfails.not_wellFormed⟩, ?_, fun e' warnings' => ⟨?_, ?_⟩⟩
    · rintro ⟨p, ⟨⟩⟩
    · rintro p ⟨⟩
    · rintro ⟨⟨⟩, rfl⟩
      exact hfails
    · intro h
      obtain ⟨rfl, rfl⟩ := hfails.unique h
      exact ⟨rfl, rfl⟩

/-- The second problem is not told of, nor are the warnings after the first. -/
example : ({ source := "a/b:c1 5 0x0 ?, ?,c2 2x z/c" } : PuzzleReader).puzzle.2.warnings
    = [⟨"c1", "?"⟩, ⟨"?", "?"⟩] := by
  decide +kernel

end PuzzleReader

end PanelPuzzle
