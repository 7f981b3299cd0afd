import Mathlib.Algebra.Order.BigOperators.Group.List
import PanelPuzzle.Proofs.PuzzleText.Accepted
/-!
# The written form of what was read

The text of a puzzle that was read from any text is read again.  It is written once more as it is,
and without new warnings, if and only if every vector of a step has a value:
`Puzzle.text_stable_iff`.

**Vectors that are too large.**  A vector is read as two finite numbers and then rounded to two
decimals.  The product with a hundred can be too large for that, and the infinity that comes of it
is written, but not read: the step is lost, and its two words are without meaning.

**Everything else.**  Sizes and positions are moved into the panel before they are written, and are
written alike from then on.
-/

namespace PanelPuzzle

open Number

namespace Number

/-- A rounded number is read as its rounding, if it has a value. -/
lemma Rounded.reread?_eq {a : Number} (h : a.Rounded) :
    a.reread? = if a.isFinite then some a.roundTwo else none := by
  obtain ⟨b, -, rfl⟩ := h
  rw [Number.reread?_eq, isFinite_roundTwo_roundTwo, roundTwo_roundTwo]

/-- What is read of a rounded number is a number of the same kind, with the same text. -/
lemma Rounded.roundTwo {a : Number} (h : a.Rounded) (hfinite : a.isFinite = true) :
    a.roundTwo.Rounded ∧ a.roundTwo.isFinite = true ∧ a.roundTwo.twoDecimals = a.twoDecimals := by
  refine ⟨⟨a, hfinite, rfl⟩, ?_, ?_⟩
  · obtain ⟨b, -, rfl⟩ := h
    rw [isFinite_roundTwo_roundTwo, hfinite]
  · obtain ⟨b, -, rfl⟩ := h
    exact twoDecimals_congr (roundTwo_roundTwo b)

end Number

/-! ## Actions -/

namespace Action

/-- The vector of a step has a value. -/
def Finite : Action → Prop
  | moveStep _ dx dy => dx.isFinite = true ∧ dy.isFinite = true
  | _ => True

instance (action : Action) : Decidable action.Finite := by
  cases action <;> unfold Finite <;> infer_instance

/-- **An action whose vector has a value** is read as an action with the same words. -/
lemma Rounded.reread?_of_finite {action : Action} (h : action.Rounded) (hfinite : action.Finite) :
    ∃ read, action.reread? = some read ∧ read.Rounded ∧ read.Finite ∧ read.words = action.words := by
  cases action with
  | moveStep id dx dy =>
    obtain ⟨hdx, hfx, htx⟩ := h.1.roundTwo hfinite.1
    obtain ⟨hdy, hfy, hty⟩ := h.2.roundTwo hfinite.2
    refine ⟨.moveStep id dx.roundTwo dy.roundTwo, ?_, ⟨hdx, hdy⟩, ⟨hfx, hfy⟩, ?_⟩
    · rw [reread?, readVector?_pairWord, h.1.reread?_eq, h.2.reread?_eq, hfinite.1, hfinite.2]
      rfl
    · rw [words, words, pairWord, pairWord, htx, hty]
  | _ => exact ⟨_, rfl, trivial, trivial, rfl⟩

/-- **An action whose vector has no value** is lost. -/
lemma Rounded.reread?_of_not_finite {action : Action} (h : action.Rounded)
    (hfinite : ¬ action.Finite) : action.reread? = none := by
  cases action with
  | moveStep id dx dy =>
    rw [reread?, readVector?_pairWord, h.1.reread?_eq, h.2.reread?_eq]
    rw [Finite, not_and_or, Bool.not_eq_true, Bool.not_eq_true] at hfinite
    rcases hfinite with hx | hy
    · rw [hx]
      rfl
    · rw [hy]
      cases dx.isFinite <;> rfl
  | _ => exact absurd trivial hfinite

lemma lost_of_finite {action : Action} (h : action.Rounded) (hfinite : action.Finite) :
    action.lost = [] := by
  obtain ⟨read, hread, -⟩ := h.reread?_of_finite hfinite
  rw [lost, hread]

lemma lost_ne_nil {action : Action} (h : action.Rounded) (hfinite : ¬ action.Finite) :
    action.lost ≠ [] := by
  obtain ⟨rest, hrest⟩ := action.words_eq_cons
  rw [lost, h.reread?_of_not_finite hfinite, hrest]
  exact List.cons_ne_nil _ _

/-- What is read of an action has a vector with a value. -/
lemma Rounded.of_reread? {action read : Action} (h : action.Rounded)
    (hread : action.reread? = some read) : action.Finite ∧ read.Rounded ∧ read.Finite := by
  by_cases hfinite : action.Finite
  · obtain ⟨read', hread', hrounded, hfinite', -⟩ := h.reread?_of_finite hfinite
    obtain rfl := Option.some.inj (hread.symm.trans hread')
    exact ⟨hfinite, hrounded, hfinite'⟩
  · rw [h.reread?_of_not_finite hfinite] at hread
    cases hread

/-- An action is read as one that the format has words for. -/
lemma Legible.of_reread? {action read : Action} (h : action.Legible)
    (hread : action.reread? = some read) : read.Legible := by
  cases action with
  | moveStep id dx dy =>
    obtain ⟨⟨dx', dy'⟩, -, rfl⟩ := Option.map_eq_some_iff.mp hread
    exact h
  | _ =>
    obtain rfl := Option.some.inj hread
    exact h

end Action

/-! ## Elements -/

namespace Element

/-- Every vector of a step has a value. -/
def StepsFinite (e : Element) : Prop := ∀ a ∈ e.actions, a.Finite

/-- Numbers and actions can be changed. -/
lemma Legible.with_actions {e : Element} (h : e.Legible) (width height x y : Number)
    {actions : List Action} (hactions : ∀ a ∈ actions, a.Legible) :
    Legible { e with width, height, x, y, actions } :=
  ⟨h.id_ne, h.id_clean, h.shape, h.flat, h.target_ne, h.settled, hactions⟩

/-- What is read of a sound element is sound. -/
lemma Sound.reread {e : Element} (h : e.Sound) : e.reread.Sound := by
  have hactions : ∀ a ∈ e.reread.actions, a.Legible ∧ a.Rounded := by
    intro a ha
    obtain ⟨action, haction, hread⟩ := List.mem_filterMap.mp ha
    exact ⟨(h.legible.actions action haction).of_reread? hread,
      ((h.actions action haction).of_reread? hread).2.1⟩
  refine ⟨?_, h.placed.reread, fun a ha => (hactions a ha).2⟩
  rw [Element.reread]
  exact h.legible.with_actions _ _ _ _ fun a ha => (hactions a ha).1

/-- **Whatever was lost before, nothing is lost again.** -/
lemma Sound.stepsFinite_reread {e : Element} (h : e.Sound) : e.reread.StepsFinite := by
  intro a ha
  obtain ⟨action, haction, hread⟩ := List.mem_filterMap.mp ha
  exact ((h.actions action haction).of_reread? hread).2.2

lemma Sound.flatMap_lost {e : Element} (h : e.Sound) :
    e.actions.flatMap Action.lost = [] ↔ e.StepsFinite := by
  rw [List.flatMap_eq_nil_iff]
  constructor
  · intro hlost a ha
    by_contra hfinite
    exact Action.lost_ne_nil (h.actions a ha) hfinite (hlost a ha)
  · intro hfinite a ha
    exact Action.lost_of_finite (h.actions a ha) (hfinite a ha)

/-- The actions that are read have the words of those that were written. -/
lemma flatMap_words_filterMap : ∀ {actions : List Action},
    (∀ a ∈ actions, a.Rounded ∧ a.Finite) →
    (actions.filterMap Action.reread?).flatMap Action.words = actions.flatMap Action.words ∧
      (actions.filterMap Action.reread? = [] ↔ actions = [])
  | [], _ => ⟨rfl, Iff.rfl⟩
  | action :: actions, h => by
      obtain ⟨⟨hrounded, hfinite⟩, hactions⟩ := List.forall_mem_cons.mp h
      obtain ⟨read, hread, -, -, hwords⟩ := hrounded.reread?_of_finite hfinite
      obtain ⟨hrest, -⟩ := flatMap_words_filterMap hactions
      rw [List.filterMap_cons_some hread, List.flatMap_cons, List.flatMap_cons, hwords, hrest]
      exact ⟨rfl, by simp⟩

/-- **A sound element without lost steps** is written alike when it was written and read. -/
theorem Sound.text_reread {e : Element} (h : e.Sound) (hfinite : e.StepsFinite) :
    e.reread.text = e.text := by
  obtain ⟨hwords, hnil⟩ := flatMap_words_filterMap fun a ha => ⟨h.actions a ha, hfinite a ha⟩
  obtain ⟨hsize, hplace⟩ := h.placed.shown_reread
  have hhead : e.reread.headWords = e.headWords := by
    rw [headWords, headWords, hsize, hplace]
    simp only [Element.reread]
  have hshows : e.reread.showsInteraction = e.showsInteraction := by
    have hmethod : e.reread.method = e.method := by simp only [Element.reread]
    have hchange : e.reread.change = e.change := by simp only [Element.reread]
    have hactions : e.reread.actions = [] ↔ e.actions = [] := by rwa [Element.reread]
    rw [showsInteraction, showsInteraction, hmethod, hchange,
      decide_eq_decide.mpr (not_congr hactions)]
  have htail : e.reread.tailWords = e.tailWords := by
    rw [tailWords, tailWords, hshows]
    simp only [Element.reread, hwords]
  rw [text, text, words_eq, words_eq, hhead, htail]
  simp only [Element.reread]

/-- An element loses a step for each vector without a value, and only once. -/
lemma Sound.length_lost {e : Element} (h : e.Sound) :
    e.reread.lost.length ≤ e.lost.length ∧
      (e.reread.lost.length = e.lost.length ↔ e.StepsFinite) := by
  have hnil := h.reread.flatMap_lost.mpr h.stepsFinite_reread
  have hid : e.reread.id = e.id := by simp only [Element.reread]
  rw [← h.flatMap_lost, ← List.length_eq_zero_iff, lost, lost, hnil, hid]
  simp only [List.length_append, List.length_map, List.length_nil]
  omega

end Element

/-! ## Puzzles -/

namespace Puzzle

/-- Every vector of a step has a value. -/
def StepsFinite (p : Puzzle) : Prop :=
  ∀ panel ∈ p.panels, ∀ e ∈ panel.elements, e.StepsFinite

lemma Sound.legible {p : Puzzle} (h : p.Sound) : p.Legible where
  message := h.heading.message
  message_clean := h.heading.message_clean
  reward := h.heading.reward
  no_reward := h.heading.no_reward
  panels_ne := h.panels_ne
  panels panel hpanel :=
    { theme := (h.panels panel hpanel).theme
      theme_clean := (h.panels panel hpanel).theme_clean
      elements := fun e he =>
        have hsound := (h.panels panel hpanel).elements e he
        ⟨hsound.legible, hsound.placed.readable⟩ }

lemma Sound.reread {p : Puzzle} (h : p.Sound) : p.reread.Sound where
  heading := h.heading
  panels_ne := by simpa [Puzzle.reread] using h.panels_ne
  panels panel hpanel := by
    obtain ⟨panel, hmem, rfl⟩ := List.mem_map.mp hpanel
    have hsound := h.panels panel hmem
    refine ⟨hsound.theme, hsound.theme_clean, fun e he => ?_⟩
    obtain ⟨e, he', rfl⟩ := List.mem_map.mp he
    exact (hsound.elements e he').reread

/-- **A sound puzzle without lost steps** is written alike when it was written and read. -/
lemma Sound.text_reread {p : Puzzle} (h : p.Sound) (hfinite : p.StepsFinite) :
    p.reread.text = p.text := by
  have hpanels : p.reread.panels.map Panel.text = p.panels.map Panel.text := by
    rw [Puzzle.reread, List.map_map]
    refine List.map_congr_left fun panel hpanel => ?_
    have helements : panel.reread.elements.map Element.text = panel.elements.map Element.text := by
      rw [Panel.reread, List.map_map]
      refine List.map_congr_left fun e he => ?_
      rw [Function.comp_apply]
      exact ((h.panels panel hpanel).elements e he).text_reread (hfinite panel hpanel e he)
    rw [Function.comp_apply, Panel.text, Panel.text, helements]
    rfl
  rw [text, text, hpanels]
  rfl

/-- The number of warnings that the text of a puzzle leaves. -/
lemma length_lost (p : Puzzle) : p.lost.length
    = (p.panels.map fun panel => (panel.elements.map fun e => e.lost.length).sum).sum := by
  simp only [lost, List.length_flatMap]

/-- **A puzzle that is written alike loses nothing.** -/
lemma Sound.stepsFinite_of_text {p : Puzzle} (h : p.Sound) (htext : p.reread.text = p.text) :
    p.StepsFinite := by
  have hlost : p.reread.lost.length = p.lost.length := by
    have hread := read_text h.reread.legible
    rw [htext, read_text h.legible, Reading.mk.injEq] at hread
    rw [hread.2]
  rw [length_lost, length_lost, Puzzle.reread, List.map_map] at hlost
  have hle : ∀ panel ∈ p.panels, ∀ e ∈ panel.elements, e.reread.lost.length ≤ e.lost.length :=
    fun panel hpanel e he => ((h.panels panel hpanel).elements e he).length_lost.1
  have hpanels := fun panel hpanel => List.sum_le_sum (hle panel hpanel)
  intro panel hpanel e he
  refine ((h.panels panel hpanel).elements e he).length_lost.2.mp (by_contra fun hne => ?_)
  have hlt := List.sum_lt_sum _ _ (hle panel hpanel) ⟨e, he, lt_of_le_of_ne (hle panel hpanel e he) hne⟩
  refine absurd hlost (List.sum_lt_sum _ _ (fun panel hpanel => ?_) ⟨panel, hpanel, ?_⟩).ne
  · simpa [Panel.reread, Function.comp_def] using hpanels panel hpanel
  · simpa [Panel.reread, Function.comp_def] using hlt

/-- The warnings of a text that loses nothing are those of unknown shapes. -/
lemma Sound.lost_eq_nil {p : Puzzle} (h : p.Sound) (hfinite : p.StepsFinite) (hknown : p.Known) :
    p.lost = [] := by
  refine List.flatMap_eq_nil_iff.mpr fun panel hpanel =>
    List.flatMap_eq_nil_iff.mpr fun e he => ?_
  have hlost := ((h.panels panel hpanel).elements e he).flatMap_lost.mpr (hfinite panel hpanel e he)
  have hshape := hknown panel hpanel e he
  rw [Element.Known] at hshape
  rw [Element.lost, hlost, if_pos hshape]
  rfl

/-- **The written form of what was read.**  It is always readable.  It is written alike and reads
without new warnings if and only if every vector of a step has a value. -/
theorem text_stable_iff {text : String} {p : Puzzle} (h : (read text).result = .ok p) :
    (∃ q, (read p.text).result = .ok q) ∧
      ((∃ q, (read p.text).result = .ok q ∧ q.text = p.text ∧
          ((read text).warnings = [] → (read p.text).warnings = [])) ↔ p.StepsFinite) := by
  obtain ⟨hsound, hknown⟩ := sound_of_read (show read text = ⟨.ok p, (read text).warnings⟩ by rw [← h])
  have hread := read_text hsound.legible
  rw [hread]
  refine ⟨⟨p.reread, rfl⟩, ?_, fun hfinite => ?_⟩
  · rintro ⟨q, hq, htext, -⟩
    obtain rfl := Except.ok.inj hq
    exact hsound.stepsFinite_of_text htext
  · exact ⟨p.reread, rfl, hsound.text_reread hfinite,
      fun hnil => hsound.lost_eq_nil hfinite (hknown hnil)⟩

/-- A step so far that it is read as finite and cannot be rounded. -/
def farStep : Puzzle :=
  { message := "a", reward := none
    panels :=
      [{ theme := "b"
         elements :=
          [{ id := "c1", shape := .circle, width := 1, height := 1, method := .tap
             actions := [.moveStep "c2" (.infinite false) 0] }] }] }

theorem text_stable_iff_farStep :
    (read "a/b:c1 1 0x0 0 0 tap c2 1e308x0").result = .ok farStep ∧
      (∃ q, (read farStep.text).result = .ok q) ∧
      ¬ ∃ q, (read farStep.text).result = .ok q ∧ q.text = farStep.text ∧
        ((read "a/b:c1 1 0x0 0 0 tap c2 1e308x0").warnings = [] →
          (read farStep.text).warnings = []) := by
  have hread : (read "a/b:c1 1 0x0 0 0 tap c2 1e308x0").result = .ok farStep := by decide +kernel
  have hstable := text_stable_iff hread
  have hfar : ¬ farStep.StepsFinite := by
    intro hfinite
    have hstep := hfinite _ List.mem_cons_self _ List.mem_cons_self _ List.mem_cons_self
    revert hstep
    decide
  exact ⟨hread, hstable.1, fun hq => hfar (hstable.2.mp hq)⟩

end Puzzle

end PanelPuzzle
