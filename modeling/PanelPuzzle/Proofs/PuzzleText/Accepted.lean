import PanelPuzzle.Proofs.PuzzleText.Outcome
/-!
# What is read from any text

Whatever text is read as a puzzle, the format has words for the puzzle: `Puzzle.sound_read`.  Every
part of it was found between separators, so it holds none of them, and every number was rounded.

* `Element.Sound`, `Panel.Sound`, `Puzzle.Sound` — legible, with rounded numbers.
* `Reading.bind_eq_ok` — a reading in sequence succeeds if both of its parts do, and its warnings
  are those of both.
* `PuzzleReader.readings_writable` — whatever a reader hands out can be written.
-/

namespace PanelPuzzle

open Text Number

/-! ## Readings in sequence -/

namespace Reading

variable {α β : Type}

lemma bind_eq_ok {r : Reading α} {next : α → Reading β} {b : β} {warnings : List Unrecognized} :
    r >>= next = ⟨.ok b, warnings⟩ ↔
      ∃ a first second, r = ⟨.ok a, first⟩ ∧ next a = ⟨.ok b, second⟩ ∧
        warnings = first ++ second := by
  constructor
  · intro h
    obtain ⟨result, first⟩ := r
    cases result with
    | error e => cases h
    | ok a =>
      rw [ok_bind, mk.injEq] at h
      exact ⟨a, first, _, rfl, by rw [← h.1], h.2.symm⟩
  · rintro ⟨a, first, second, rfl, hnext, rfl⟩
    rw [ok_bind, hnext]

lemma pure_eq_ok {a b : α} {warnings : List Unrecognized} :
    (pure a : Reading α) = ⟨.ok b, warnings⟩ ↔ a = b ∧ warnings = [] := by
  rw [pure_eq, mk.injEq, Except.ok.injEq, eq_comm (a := [])]

/-- A word without a value is reported. -/
lemma recognize_eq_ok {element word : String} {value : Option α} {default a : α}
    {warnings : List Unrecognized} (h : recognize element word value default = ⟨.ok a, warnings⟩) :
    value.getD default = a ∧ (value.isSome = true ∨ ⟨element, word⟩ ∈ warnings) := by
  cases value with
  | none =>
    obtain ⟨rfl, rfl⟩ : default = a ∧ [⟨element, word⟩] = warnings := by
      simpa [recognize, warn, ok_bind, pure_eq] using h
    exact ⟨rfl, .inr List.mem_cons_self⟩
  | some b => exact ⟨(pure_eq_ok.mp h).1, .inl rfl⟩

lemma optional_eq_ok {element : String} {word : Option String} {read : String → Option α}
    {default a : α} {warnings : List Unrecognized}
    (h : optional element word read default = ⟨.ok a, warnings⟩) :
    a = default ∨ ∃ w, read w = some a := by
  cases word with
  | none => exact .inl (pure_eq_ok.mp h).1.symm
  | some w =>
    have hvalue := (recognize_eq_ok h).1
    cases hread : read w with
    | none => exact .inl (by rw [← hvalue, hread, Option.getD_none])
    | some b => exact .inr ⟨w, by rw [hread, ← hvalue, hread, Option.getD_some]⟩

/-- Every result of the readings of a list comes from a reading of a member. -/
lemma each_eq_ok {read : α → Reading β} : ∀ {items : List α} {results : List β}
    {warnings : List Unrecognized}, each read items = ⟨.ok results, warnings⟩ →
    results.length = items.length ∧ ∀ b ∈ results, ∃ a ∈ items, ∃ some,
      read a = ⟨.ok b, some⟩ ∧ (warnings = [] → some = [])
  | [], results, warnings, h => by
      obtain ⟨rfl, rfl⟩ := pure_eq_ok.mp h
      exact ⟨rfl, by simp⟩
  | a :: items, results, warnings, h => by
      obtain ⟨b, first, rest, hb, hnext, rfl⟩ := bind_eq_ok.mp h
      obtain ⟨bs, second, last, hbs, hpure, rfl⟩ := bind_eq_ok.mp hnext
      obtain ⟨rfl, rfl⟩ := pure_eq_ok.mp hpure
      obtain ⟨hlength, hmem⟩ := each_eq_ok hbs
      refine ⟨by rw [List.length_cons, List.length_cons, hlength], fun b' hb' => ?_⟩
      rcases List.mem_cons.mp hb' with rfl | hb'
      · exact ⟨a, List.mem_cons_self, first, hb, fun hnil => (List.append_eq_nil_iff.mp hnil).1⟩
      · obtain ⟨a', ha', some, hread, hnil⟩ := hmem b' hb'
        refine ⟨a', List.mem_cons_of_mem a ha', some, hread, fun hall => hnil ?_⟩
        exact (List.append_eq_nil_iff.mp (List.append_eq_nil_iff.mp hall).2).1

lemma result_bind {r : Reading α} {next : α → Reading β} {b : β} :
    (r >>= next).result = .ok b ↔ ∃ a, r.result = .ok a ∧ (next a).result = .ok b := by
  obtain ⟨result, warnings⟩ := r
  cases result with
  | error e =>
    refine ⟨fun h => ?_, fun ⟨a, h, _⟩ => ?_⟩ <;> cases h
  | ok a =>
    rw [ok_bind]
    exact ⟨fun h => ⟨a, rfl, h⟩, fun ⟨_, same, h⟩ => Except.ok.inj same ▸ h⟩

/-- The results of a list are those of its items. -/
lemma result_each {read : α → Reading β} {items : List α} {results : List β} :
    (each read items).result = .ok results ↔
      List.Forall₂ (fun a b => (read a).result = .ok b) items results := by
  induction items generalizing results with
  | nil =>
    rw [List.forall₂_nil_left_iff, each, pure_eq, Except.ok.injEq, eq_comm]
  | cons a items ih =>
    rw [each, result_bind]
    constructor
    · rintro ⟨b, first, h⟩
      obtain ⟨others, more, same⟩ := result_bind.mp h
      obtain rfl := Except.ok.inj same
      exact .cons first (ih.mp more)
    · rintro (_ | ⟨first, more⟩)
      exact ⟨_, first, result_bind.mpr ⟨_, ih.mpr more, rfl⟩⟩

end Reading

/-! ## Elements -/

/-- The first letter of an id stands for a shape. -/
def Element.Known (e : Element) : Prop := (e.id.toList.head?.bind Shape.ofCode?).isSome = true

/-- A legible element with rounded numbers. -/
structure Element.Sound (e : Element) : Prop where
  legible : e.Legible
  placed : e.Placed
  actions : ∀ a ∈ e.actions, a.Rounded

lemma rounded_one : (1 : Number).Rounded := ⟨1, by decide +kernel, by decide +kernel⟩

/-- The numbers of a size have values. -/
lemma isFinite_of_readSize? {word : String} {a b : Number} (h : readSize? word = some (a, b)) :
    a.isFinite = true ∧ b.isFinite = true := by
  unfold readSize? at h
  split_ifs at h
  · exact isFinite_of_readPair? h
  · obtain ⟨side, hside, heq⟩ := Option.map_eq_some_iff.mp h
    obtain ⟨rfl, rfl⟩ := Prod.mk.inj heq
    have hfinite := (Option.filter_eq_some_iff.mp hside).2
    exact ⟨hfinite, hfinite⟩

/-- A mark stands for a flat element, or for one that keeps its elevation. -/
lemma flat_of_readMark? {c : Char} {elevation : Elevation} {elevationTarget : Option Elevation}
    (h : readMark? c = some (elevation, elevationTarget)) :
    (elevation ≠ .flat → elevationTarget = none) ∧ elevationTarget ≠ some .flat := by
  unfold readMark? at h
  split at h
  all_goals cases h
  all_goals decide

lemma sound_of_readPosition? {word : String} {position : Position}
    (h : readPosition? word = some position) :
    position.x.Rounded ∧ position.y.Rounded ∧
      (position.elevation ≠ .flat → position.elevationTarget = none) ∧
      position.elevationTarget ≠ some .flat := by
  simp only [readPosition?, Option.bind_eq_bind, Option.bind_eq_some_iff] at h
  obtain ⟨last, -, ⟨x, y⟩, hpair, hposition⟩ := h
  obtain rfl := Option.some.inj hposition
  have hfinite := isFinite_of_readPair? hpair
  refine ⟨⟨x, hfinite.1, rfl⟩, ⟨y, hfinite.2, rfl⟩, ?_⟩
  cases hmark : readMark? last with
  | none => exact ⟨fun hne => absurd rfl hne, by simp⟩
  | some mark => exact flat_of_readMark? hmark

namespace Element

/-- **What is said of an element goes together,** whatever its words are. -/
structure Coherent (e : Element) : Prop where
  shape : (e.id.toList.head?.bind Shape.ofCode?).getD .rectangle = e.shape
  flat : e.elevation ≠ .flat → e.elevationTarget = none
  target_ne : e.elevationTarget ≠ some .flat
  settled : e.change.settle e.target = e.target
  placed : e.Placed
  actions : ∀ a ∈ e.actions, a.Legible ∧ a.Rounded

/-- **The words of an element** say what goes together, and an id without a shape is reported. -/
lemma coherent_of_ofWords {id : String} {rest : List String} {e : Element}
    {warnings : List Unrecognized} (h : ofWords id rest = ⟨.ok e, warnings⟩) :
    e.id = id ∧ e.Coherent ∧ (e.Known ∨ ⟨id, id⟩ ∈ warnings) := by
  obtain ⟨shape, first, _, hshape, hafter, rfl⟩ := Reading.bind_eq_ok.mp h
  obtain ⟨⟨width, height⟩, _, _, hsize, hplace, -⟩ := Reading.bind_eq_ok.mp hafter
  dsimp only at hplace
  split at hplace
  · cases hplace
  rename_i position hposition
  obtain ⟨rotation, _, _, -, hcolor, -⟩ := Reading.bind_eq_ok.mp hplace
  obtain ⟨color, _, _, -, htail, -⟩ := Reading.bind_eq_ok.mp hcolor
  obtain ⟨-, _, _, -, hpure, -⟩ := Reading.bind_eq_ok.mp htail
  obtain ⟨rfl, -⟩ := Reading.pure_eq_ok.mp hpure
  obtain ⟨hvalue, hknown⟩ := Reading.recognize_eq_ok hshape
  obtain ⟨hx, hy, hflat, htarget⟩ := sound_of_readPosition? hposition
  obtain ⟨hsettled, hactions⟩ := TailMachine.sound_read (rest.drop 4)
  have hrounded : width.Rounded ∧ height.Rounded := by
    rcases Reading.optional_eq_ok hsize with hone | ⟨word, hword⟩
    · obtain ⟨rfl, rfl⟩ := Prod.mk.inj hone
      exact ⟨rounded_one, rounded_one⟩
    · obtain ⟨⟨a, b⟩, hread, heq⟩ := Option.map_eq_some_iff.mp hword
      obtain ⟨rfl, rfl⟩ := Prod.mk.inj heq
      have hfinite := isFinite_of_readSize? hread
      exact ⟨⟨a, hfinite.1, rfl⟩, ⟨b, hfinite.2, rfl⟩⟩
  refine ⟨rfl, ?_, hknown.imp_right (List.mem_append_left _)⟩
  exact ⟨hvalue, hflat, htarget, hsettled, ⟨hrounded.1, hrounded.2, hx, hy⟩, hactions⟩

/-- The format has words for an element whose id is one word. -/
lemma Coherent.sound {e : Element} (h : e.Coherent) (hid : IsWord e.id) : e.Sound where
  legible :=
    { id_ne := hid.1, id_clean := hid.2, shape := h.shape, flat := h.flat, target_ne := h.target_ne
      settled := h.settled, actions := fun a ha => (h.actions a ha).1 }
  placed := h.placed
  actions a ha := (h.actions a ha).2

/-- **Any text** is read as a coherent element whose id is its first word, or as none. -/
lemma coherent_of_read {text : String} {e : Element} {warnings : List Unrecognized}
    (h : read text = ⟨.ok (some e), warnings⟩) :
    e.id ∈ wordsOf text ∧ e.Coherent ∧ (e.Known ∨ ⟨e.id, e.id⟩ ∈ warnings) := by
  rw [read] at h
  split at h
  · cases (Reading.pure_eq_ok.mp h).1
  rename_i id rest hwords
  obtain ⟨e', first, second, hread, hpure, rfl⟩ := Reading.bind_eq_ok.mp h
  obtain ⟨hsome, rfl⟩ := Reading.pure_eq_ok.mp hpure
  obtain rfl := Option.some.inj hsome
  obtain ⟨rfl, hcoherent, hknown⟩ := coherent_of_ofWords hread
  rw [List.append_nil, hwords]
  exact ⟨List.mem_cons_self, hcoherent, hknown⟩

/-- A word of a text has characters, all of them of the text, and none is blank. -/
lemma mem_of_mem_wordsOf {text word : String} (h : word ∈ wordsOf text) :
    word ≠ "" ∧ ∀ c ∈ word.toList, isBlank c = false ∧ c ∈ text.toList := by
  obtain ⟨piece, hpiece, rfl⟩ := List.mem_map.mp h
  obtain ⟨hmem, hne⟩ := List.mem_filter.mp hpiece
  refine ⟨by simpa using hne, fun c hc => ?_⟩
  rw [String.toList_ofList] at hc
  exact ⟨forall_mem_pieces hmem c hc, mem_of_mem_pieces hmem hc⟩

/-- **A text without commas and slashes** is read as a sound element, or as none. -/
lemma sound_of_read {text : String} {e : Element} {warnings : List Unrecognized}
    (hclean : ∀ c ∈ text.toList, c ≠ ',' ∧ c ≠ '/') (h : read text = ⟨.ok (some e), warnings⟩) :
    e.Sound ∧ (warnings = [] → e.Known) := by
  obtain ⟨hid, hcoherent, hknown⟩ := coherent_of_read h
  obtain ⟨hne, hchars⟩ := mem_of_mem_wordsOf hid
  refine ⟨hcoherent.sound ⟨hne, fun c hc => ⟨(hchars c hc).1, hclean c (hchars c hc).2⟩⟩, ?_⟩
  rintro rfl
  exact hknown.resolve_right List.not_mem_nil

end Element

/-! ## Panels -/

/-- A panel of sound elements whose theme can be told from them. -/
structure Panel.Sound (panel : Panel) : Prop where
  theme : Trimmed panel.theme.toList
  theme_clean : ∀ c ∈ panel.theme.toList, c ≠ '/' ∧ c ≠ ':'
  elements : ∀ e ∈ panel.elements, e.Sound

/-- **A section without slashes** is read as a sound panel. -/
lemma Panel.sound_of_read {section_ : List Char} {number : Nat} {panel : Panel}
    {warnings : List Unrecognized} (hclean : '/' ∉ section_)
    (h : read section_ number = ⟨.ok panel, warnings⟩) :
    panel.Sound ∧ (warnings = [] → ∀ e ∈ panel.elements, e.Known) := by
  rw [read] at h
  split at h
  · cases h
  rename_i theme elements hcut
  obtain ⟨htext, htheme⟩ := cut?_eq_some hcut
  obtain ⟨results, first, second, heach, hpure, rfl⟩ := Reading.bind_eq_ok.mp h
  obtain ⟨rfl, rfl⟩ := Reading.pure_eq_ok.mp hpure
  have hmem : ∀ c, c ∈ theme ∨ c ∈ elements → c ≠ '/' := by
    rintro c hc rfl
    refine hclean ?_
    rw [htext]
    rcases hc with hc | hc
    · exact List.mem_append_left _ hc
    · exact List.mem_append_right _ (List.mem_cons_of_mem _ hc)
  have helements : ∀ e ∈ results.filterMap id, e.Sound ∧ (first = [] → e.Known) := by
    intro e he
    obtain ⟨result, hresult, rfl⟩ := List.mem_filterMap.mp he
    obtain ⟨text, htext, some, hread, hnil⟩ := (Reading.each_eq_ok heach).2 _ hresult
    have hsound := Element.sound_of_read ?_ hread
    · exact ⟨hsound.1, fun hfirst => hsound.2 (hnil hfirst)⟩
    · intro c hc
      rw [String.toList_ofList] at hc
      exact ⟨by simpa using forall_mem_pieces htext c hc,
        hmem c (.inr (mem_of_mem_pieces htext hc))⟩
  refine ⟨⟨?_, ?_, fun e he => (helements e he).1⟩, fun hnil e he => (helements e he).2 ?_⟩
  · rw [String.toList_ofList]
    exact trimmed_trim theme
  · intro c hc
    rw [String.toList_ofList] at hc
    have hc' := mem_of_mem_trim hc
    exact ⟨hmem c (.inl hc'), fun hcolon => htheme (hcolon ▸ hc')⟩
  · exact (List.append_eq_nil_iff.mp hnil).1

/-! ## Headings -/

/-- A message and a reward that can be told from each other and from the panels. -/
structure HeadingSound (heading : String × Option String) : Prop where
  message : Trimmed heading.1.toList
  message_clean : '/' ∉ heading.1.toList
  reward : ∀ reward ∈ heading.2, Trimmed reward.toList ∧ ∀ c ∈ reward.toList, c ≠ '/' ∧ c ≠ '['
  no_reward : heading.2 = none → ¬ ('[' ∈ heading.1.toList ∧ heading.1.toList.getLast? = some ']')

/-- **A section without slashes** is read as a message and a reward that can be told apart. -/
theorem sound_readHeading {section_ : List Char} (h : '/' ∉ section_) :
    HeadingSound (readHeading section_) := by
  have hslash : '/' ∉ trim section_ := fun hc => h (mem_of_mem_trim hc)
  by_cases hreward : (trim section_).getLast? = some ']' ∧ '[' ∈ trim section_
  · obtain ⟨before, reward, htext, hbracket⟩ : ∃ before reward,
        trim section_ = before ++ '[' :: reward ++ [']'] ∧ '[' ∉ reward := by
      have hlast := List.dropLast_append_getLast? _ hreward.1
      have hmem : '[' ∈ (trim section_).dropLast := by
        have hmem := hreward.2
        rw [← hlast, List.mem_append, List.mem_singleton] at hmem
        exact hmem.resolve_right (by decide)
      obtain ⟨before, reward, hcut, hbracket⟩ := exists_cutLast hmem
      exact ⟨before, reward, by rw [← hcut, hlast], hbracket⟩
    rw [readHeading_of_reward htext hbracket]
    rw [htext] at hslash
    have hbefore : ∀ c ∈ trimEnd before, c ∈ before := (trimEnd_isPrefix before).subset
    refine ⟨?_, ?_, ?_, fun hnone => by cases hnone⟩
    · rw [String.toList_ofList]
      refine trimmed_trimEnd fun c hc => (trimmed_trim section_).head ?_
      rw [htext, List.append_assoc, List.head?_append, hc, Option.some_or]
    · rw [String.toList_ofList]
      intro hc
      exact hslash (by simp [hbefore _ hc])
    · intro found hfound
      obtain rfl := Option.some.inj hfound
      rw [String.toList_ofList]
      refine ⟨trimmed_trim reward, fun c hc => ?_⟩
      have hc' := mem_of_mem_trim hc
      constructor
      · rintro rfl
        exact hslash (by simp [hc'])
      · rintro rfl
        exact hbracket hc'
  · rw [readHeading_of_not_reward hreward]
    refine ⟨?_, ?_, fun found hfound => (by cases hfound), fun _ => ?_⟩
    all_goals rw [String.toList_ofList]
    · exact trimmed_trim section_
    · exact hslash
    · exact fun hboth => hreward hboth.symm

/-! ## Puzzles -/

/-- A puzzle of sound panels, with at least one of them. -/
structure Puzzle.Sound (p : Puzzle) : Prop where
  heading : HeadingSound (p.message, p.reward)
  panels_ne : p.panels ≠ []
  panels : ∀ panel ∈ p.panels, panel.Sound

/-- The first letters of all ids stand for shapes. -/
def Puzzle.Known (p : Puzzle) : Prop := ∀ panel ∈ p.panels, ∀ e ∈ panel.elements, e.Known

/-- **What is read from any text is sound,** and all shapes are known unless there is a warning. -/
theorem Puzzle.sound_of_read {text : String} {p : Puzzle} {warnings : List Unrecognized}
    (h : read text = ⟨.ok p, warnings⟩) : p.Sound ∧ (warnings = [] → p.Known) := by
  rw [read] at h
  split at h
  · rename_i heading first others hpieces
    obtain ⟨panels, one, two, heach, hafter, rfl⟩ := Reading.bind_eq_ok.mp h
    have hclean : ∀ piece ∈ heading :: first :: others, '/' ∉ piece := by
      intro piece hpiece hc
      rw [← hpieces] at hpiece
      have := forall_mem_pieces hpiece _ hc
      exact absurd this (by decide)
    obtain ⟨hlength, hmem⟩ := Reading.each_eq_ok heach
    have hpanels : ∀ panel ∈ panels,
        panel.Sound ∧ (one = [] → ∀ e ∈ panel.elements, e.Known) := by
      intro panel hpanel
      obtain ⟨⟨section_, i⟩, hsection, some, hread, hnil⟩ := hmem panel hpanel
      have hsection' := List.fst_mem_of_mem_zipIdx hsection
      have hsound := Panel.sound_of_read (hclean _ (List.mem_cons_of_mem _ hsection')) hread
      exact ⟨hsound.1, fun hone => hsound.2 (hnil hone)⟩
    have hheading := sound_readHeading (hclean heading List.mem_cons_self)
    rcases hread : readHeading heading with ⟨message, reward⟩
    rw [hread] at hafter hheading
    obtain ⟨rfl, rfl⟩ := Reading.pure_eq_ok.mp hafter
    refine ⟨⟨hheading, ?_,
      fun panel hpanel => (hpanels panel hpanel).1⟩, fun hnil panel hpanel => ?_⟩
    · intro hnil
      rw [show panels = [] from hnil] at hlength
      simp at hlength
    · exact (hpanels panel hpanel).2 (List.append_eq_nil_iff.mp hnil).1
  · cases h

/-! ## What a reader hands out -/

/-- A target that goes with a change: no change has none, and a move has one target only. -/
def Change.Settled (change : Change) (target : Int32) : Prop :=
  (change = .none → target = 0) ∧ (change = .move → target = 1)

lemma Change.settled_of_settle {change : Change} {target : Int32}
    (h : change.settle target = target) : change.Settled target := by
  constructor
  · rintro rfl
    exact h.symm
  · rintro rfl
    exact h.symm

/-- An element that can be written, up to the separators in its id. -/
structure Element.Writable (e : Element) : Prop where
  id_ne : e.id ≠ ""
  id_clean : ∀ c ∈ e.id.toList, isBlank c = false
  elevationTarget : ∀ target ∈ e.elevationTarget,
    e.elevation = .flat ∧ (target = .raised ∨ target = .sunken)
  settled : e.change.Settled e.target
  configured : ∀ id method change target, .configure id method change target ∈ e.actions →
    change.Settled target
  aimed : ∀ a ∈ e.actions, isElementId a.targetId = true

/-- What is around the elements of a puzzle can be written. -/
structure Puzzle.Writable (p : Puzzle) : Prop where
  heading : HeadingSound (p.message, p.reward)
  panels_ne : p.panels ≠ []
  themes : ∀ panel ∈ p.panels,
    Trimmed panel.theme.toList ∧ ∀ c ∈ panel.theme.toList, c ≠ '/' ∧ c ≠ ':'

/-- A coherent element can be written if its id is one word. -/
lemma Element.Coherent.writable {e : Element} (h : e.Coherent) {text : String}
    (hid : e.id ∈ wordsOf text) : e.Writable where
  id_ne := (mem_of_mem_wordsOf hid).1
  id_clean c hc := ((mem_of_mem_wordsOf hid).2 c hc).1
  elevationTarget target htarget := by
    have hflat : e.elevation = .flat := by
      by_contra hne
      rw [h.flat hne] at htarget
      cases htarget
    cases target with
    | flat => exact absurd htarget h.target_ne
    | raised => exact ⟨hflat, .inl rfl⟩
    | sunken => exact ⟨hflat, .inr rfl⟩
  settled := Change.settled_of_settle h.settled
  configured _ _ _ _ ha := Change.settled_of_settle (h.actions _ ha).1.2
  aimed a ha := (h.actions a ha).1.isElementId

namespace PuzzleReader

/-- **A reader hands out only what can be written,** whatever it was asked for before.  An element has the
shape of the first letter of its id, unless there is none and the id is reported. -/
theorem readings_writable (reader : PuzzleReader) :
    (∀ text e, (reader.element text).1 = .ok (some e) → e.Writable ∧
      (e.id.toList.head?.bind Shape.ofCode? = some e.shape ∨
        e.id.toList.head?.bind Shape.ofCode? = none ∧ e.shape = .rectangle ∧
          ∃ new, (reader.element text).2.warnings = reader.warnings ++ new ∧ ⟨e.id, e.id⟩ ∈ new)) ∧
    ∀ p, reader.puzzle.1 = .ok p → p.Writable := by
  constructor
  · intro text e h
    have hread : Element.read text = ⟨.ok (some e), (Element.read text).warnings⟩ := by
      rw [← show (Element.read text).result = .ok (some e) from h]
    obtain ⟨hid, hcoherent, hknown⟩ := Element.coherent_of_read hread
    have hshape := hcoherent.shape
    refine ⟨hcoherent.writable hid, ?_⟩
    cases hcode : e.id.toList.head?.bind Shape.ofCode? with
    | some shape =>
      rw [hcode] at hshape
      exact .inl (congrArg some hshape)
    | none =>
      rw [hcode] at hshape
      rw [Element.Known, hcode] at hknown
      exact .inr ⟨rfl, hshape.symm, _, rfl, hknown.resolve_left (by simp)⟩
  · intro p h
    have hread : Puzzle.read reader.source = ⟨.ok p, (Puzzle.read reader.source).warnings⟩ := by
      rw [← show (Puzzle.read reader.source).result = .ok p from h]
    have hsound := (Puzzle.sound_of_read hread).1
    exact ⟨hsound.heading, hsound.panels_ne,
      fun panel hpanel => ⟨(hsound.panels panel hpanel).theme, (hsound.panels panel hpanel).theme_clean⟩⟩

/-- A puzzle of one panel without elements. -/
def barePuzzle : Puzzle := { message := "a", reward := none, panels := [{ theme := "b", elements := [] }] }

/-- An element whose id stands for no shape. -/
def shapeless : Element :=
  { id := "?1", shape := .rectangle, width := 1, height := 1, method := .tap
    actions := [.release "c2"] }

theorem readings_writable_shapeless :
    ({ source := "a/b:" } : PuzzleReader).puzzle.1 = .ok barePuzzle ∧
      (({ source := "a/b:" } : PuzzleReader).element "?1 1 0x0 0 0 tap c2 drag").1
        = .ok (some shapeless) ∧
      barePuzzle.Writable ∧ shapeless.Writable := by
  have hpuzzle : ({ source := "a/b:" } : PuzzleReader).puzzle.1 = .ok barePuzzle := by decide +kernel
  have helement : (({ source := "a/b:" } : PuzzleReader).element "?1 1 0x0 0 0 tap c2 drag").1
      = .ok (some shapeless) := by
    decide +kernel
  exact ⟨hpuzzle, helement, (readings_writable _).2 _ hpuzzle, ((readings_writable _).1 _ _ helement).1⟩

end PuzzleReader

end PanelPuzzle
