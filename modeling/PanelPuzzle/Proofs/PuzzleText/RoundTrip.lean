import PanelPuzzle.Proofs.PuzzleText.Rereading
/-!
# Writing and reading a puzzle

A puzzle that the format can express is read back from its text: `Puzzle.read_text_same`.

**What can be expressed.**  `Puzzle.Expressible` says it field by field.  Texts must not look like
something else, states and elevations must go together, and every number must survive by itself.

**Why nothing else can go wrong.**  `Puzzle.read_text` already tells what is read, whatever the
numbers are; here every number comes back with its value, and so no step is lost.
-/

namespace PanelPuzzle

open Text

/-! ## Numbers -/

namespace Number

/-- A number that two decimals can hold: it is finite, rounding to two decimals keeps it, and the
text that is written for it is read as its value. -/
structure Kept (a : Number) : Prop where
  finite : a.isFinite = true
  rounded : a.roundTwo.same a = true
  read : (read? a.twoDecimals.toList).any (·.same a) = true

instance (a : Number) : Decidable a.Kept :=
  decidable_of_iff (a.isFinite = true ∧ a.roundTwo.same a = true ∧
      (read? a.twoDecimals.toList).any (·.same a) = true)
    ⟨fun ⟨h, h', h''⟩ => ⟨h, h', h''⟩, fun ⟨h, h', h''⟩ => ⟨h, h', h''⟩⟩

lemma same_iff {a b : Number} (ha : a.isFinite = true) :
    a.same b = true ↔ a.toRat? = b.toRat? := by
  obtain ⟨p, hp⟩ := Option.isSome_iff_exists.mp ha
  rw [same, hp]
  cases b.toRat? with
  | none => simp
  | some q => simp

/-- Rounding to two decimals does not tell the two zeros apart. -/
lemma roundTwo_congr {a b : Number} (ha : a.isFinite = true) (h : a.same b = true) :
    a.roundTwo = b.roundTwo := by
  rw [same_iff ha] at h
  cases a with
  | nan | infinite => cases ha
  | negativeZero =>
    cases b with
    | nan | infinite => cases h
    | negativeZero => rfl
    | finite q =>
      obtain rfl : 0 = q := Option.some.inj h
      decide +kernel
  | finite p =>
    cases b with
    | nan | infinite => cases h
    | negativeZero =>
      obtain rfl : p = 0 := Option.some.inj h
      decide +kernel
    | finite q =>
      obtain rfl : p = q := Option.some.inj h
      rfl

/-- What has the value of a finite number is finite. -/
lemma isFinite_of_same {a b : Number} (hb : b.isFinite = true) (h : a.same b = true) :
    a.isFinite = true := by
  obtain ⟨q, hq⟩ := Option.isSome_iff_exists.mp hb
  rw [same, hq] at h
  cases ha : a.toRat? with
  | none => simp [ha] at h
  | some p => rw [isFinite, ha, Option.isSome_some]

/-- **What is written as a kept number is read with its value.** -/
lemma Kept.reread_same {a b : Number} (h : a.Kept) (hb : b.same a = true) :
    b.Readable ∧ b.reread.same a = true := by
  have htwo : b.twoDecimals = a.twoDecimals := by
    rw [twoDecimals, twoDecimals, roundTwo_congr (isFinite_of_same h.finite hb) hb]
  obtain ⟨c, hc, hca⟩ : ∃ c, read? a.twoDecimals.toList = some c ∧ c.same a = true := by
    cases hread : read? a.twoDecimals.toList with
    | none => simpa [hread] using h.read
    | some c => exact ⟨c, rfl, by simpa [hread] using h.read⟩
  have hcfinite := isFinite_of_same h.finite hca
  have hread : b.reread? = some a.roundTwo := by
    rw [reread?, htwo, readFinite?, hc, Option.filter_some_pos hcfinite, Option.map_some,
      roundTwo_congr hcfinite hca]
  refine ⟨?_, ?_⟩
  · rw [Readable, hread, Option.isSome_some]
  · rw [reread, hread, Option.getD_some]
    exact h.rounded

lemma same_refl {a : Number} (h : a.isFinite = true) : a.same a = true := (same_iff h).mpr rfl

end Number

/-! ## Elements -/

/-- The vector of a step can be held by two decimals. -/
def Action.Kept : Action → Prop
  | moveStep _ dx dy => dx.Kept ∧ dy.Kept
  | _ => True

namespace Element

/-- **The elements that the format can express.** -/
structure Expressible (e : Element) : Prop where
  /-- The id is one word that starts with the code letter of the shape. -/
  id_ne : e.id ≠ ""
  id_clean : ∀ c ∈ e.id.toList, isBlank c = false ∧ c ≠ ',' ∧ c ≠ '/'
  code : e.id.toList.head? = some e.shape.code
  /-- Only a flat element takes another elevation. -/
  flat : e.elevation ≠ .flat → e.elevationTarget = none
  target_ne : e.elevationTarget ≠ some .flat
  /-- No change has the state zero, and a move the state one. -/
  settled : e.change.settle e.target = e.target
  /-- Targets are named by ids, and states go with changes there too. -/
  actions : ∀ a ∈ e.actions, a.Legible
  /-- The element lies inside the panel. -/
  shown : e.shown.width.same e.width = true ∧ e.shown.height.same e.height = true ∧
    e.shown.x.same e.x = true ∧ e.shown.y.same e.y = true
  kept : e.width.Kept ∧ e.height.Kept ∧ e.x.Kept ∧ e.y.Kept
  steps : ∀ a ∈ e.actions, a.Kept

lemma Expressible.legible {e : Element} (h : e.Expressible) : e.Legible where
  id_ne := h.id_ne
  id_clean := h.id_clean
  shape := by rw [h.code, Option.bind_some, Shape.ofCode?_code, Option.getD_some]
  flat := h.flat
  target_ne := h.target_ne
  settled := h.settled
  actions := h.actions

lemma Expressible.readable {e : Element} (h : e.Expressible) : e.shown.Readable where
  width := (h.kept.1.reread_same h.shown.1).1
  height := (h.kept.2.1.reread_same h.shown.2.1).1
  x := (h.kept.2.2.1.reread_same h.shown.2.2.1).1
  y := (h.kept.2.2.2.reread_same h.shown.2.2.2).1

/-- No step is lost: each of them comes back with the values of its vector. -/
lemma Expressible.exists_reread {e : Element} (h : e.Expressible) {action : Action}
    (haction : action ∈ e.actions) :
    ∃ read, action.reread? = some read ∧ read.same action = true := by
  cases action with
  | moveStep id dx dy =>
    obtain ⟨hdx, hdy⟩ : dx.Kept ∧ dy.Kept := h.steps _ haction
    obtain ⟨hrx, hsx⟩ := hdx.reread_same (Number.same_refl hdx.finite)
    obtain ⟨hry, hsy⟩ := hdy.reread_same (Number.same_refl hdy.finite)
    refine ⟨.moveStep id dx.reread dy.reread, ?_, ?_⟩
    · rw [Action.reread?, readVector?_pairWord, hrx.reread?_eq, hry.reread?_eq]
      rfl
    · simp only [Action.same, hsx, hsy]
      simp
  | _ => exact ⟨_, rfl, by simp [Action.same]⟩

lemma Expressible.lost_eq_nil {e : Element} (h : e.Expressible) : e.lost = [] := by
  have hactions : e.actions.flatMap Action.lost = [] := by
    refine List.flatMap_eq_nil_iff.mpr fun action haction => ?_
    obtain ⟨read, hread, -⟩ := h.exists_reread haction
    rw [Action.lost, hread]
  rw [lost, hactions, h.code, Option.bind_some, Shape.ofCode?_code]
  rfl

/-- The actions that are read are those that were written. -/
lemma same_filterMap : ∀ {actions : List Action},
    (∀ a ∈ actions, ∃ read, a.reread? = some read ∧ read.same a = true) →
    (actions.filterMap Action.reread?).length = actions.length ∧
      ((actions.filterMap Action.reread?).zip actions).all (fun (p, q) => p.same q) = true
  | [], _ => ⟨rfl, rfl⟩
  | action :: actions, h => by
      obtain ⟨⟨read, hread, hsame⟩, hactions⟩ := List.forall_mem_cons.mp h
      obtain ⟨hlength, hall⟩ := same_filterMap hactions
      rw [List.filterMap_cons_some hread]
      refine ⟨by rw [List.length_cons, List.length_cons, hlength], ?_⟩
      rw [List.zip_cons_cons, List.all_cons, hall, Bool.and_true]
      exact hsame

/-- **What is read of an expressible element agrees with it.** -/
lemma Expressible.reread_same {e : Element} (h : e.Expressible) : e.reread.same e = true := by
  obtain ⟨hlength, hall⟩ := same_filterMap fun _ => h.exists_reread
  have hwidth := (h.kept.1.reread_same h.shown.1).2
  have hheight := (h.kept.2.1.reread_same h.shown.2.1).2
  have hx := (h.kept.2.2.1.reread_same h.shown.2.2.1).2
  have hy := (h.kept.2.2.2.reread_same h.shown.2.2.2).2
  simp only [same, reread, hwidth, hheight, hx, hy, hlength, hall, decide_true, Bool.and_self]

end Element

/-! ## Puzzles -/

/-- **The puzzles that the format can express.** -/
structure Puzzle.Expressible (p : Puzzle) : Prop where
  message : Trimmed p.message.toList ∧ '/' ∉ p.message.toList
  reward : ∀ reward ∈ p.reward, Trimmed reward.toList ∧ ∀ c ∈ reward.toList, c ≠ '/' ∧ c ≠ '['
  /-- A message without a reward does not look as if it had one. -/
  no_reward : p.reward = none →
    ¬ ('[' ∈ p.message.toList ∧ p.message.toList.getLast? = some ']')
  panels_ne : p.panels ≠ []
  themes : ∀ panel ∈ p.panels, Trimmed panel.theme.toList ∧
    ∀ c ∈ panel.theme.toList, c ≠ '/' ∧ c ≠ ':'
  elements : ∀ panel ∈ p.panels, ∀ e ∈ panel.elements, e.Expressible

/-- Lists agree item by item. -/
lemma all_zip_map {α : Type} {f : α → α} {same : α → α → Bool} : ∀ {items : List α},
    (∀ a ∈ items, same (f a) a = true) →
    ((items.map f).zip items).all (fun (p, q) => same p q) = true
  | [], _ => rfl
  | a :: items, h => by
      obtain ⟨ha, hitems⟩ := List.forall_mem_cons.mp h
      rw [List.map_cons, List.zip_cons_cons, List.all_cons, all_zip_map hitems, Bool.and_true]
      exact ha

namespace Puzzle

lemma Expressible.legible {p : Puzzle} (h : p.Expressible) : p.Legible where
  message := h.message.1
  message_clean := h.message.2
  reward := h.reward
  no_reward := h.no_reward
  panels_ne := h.panels_ne
  panels panel hpanel :=
    { theme := (h.themes panel hpanel).1
      theme_clean := (h.themes panel hpanel).2
      elements := fun e he =>
        ⟨(h.elements panel hpanel e he).legible, (h.elements panel hpanel e he).readable⟩ }

lemma Expressible.lost_eq_nil {p : Puzzle} (h : p.Expressible) : p.lost = [] :=
  List.flatMap_eq_nil_iff.mpr fun panel hpanel =>
    List.flatMap_eq_nil_iff.mpr fun e he => (h.elements panel hpanel e he).lost_eq_nil

lemma Expressible.reread_same {p : Puzzle} (h : p.Expressible) : p.reread.same p = true := by
  have hpanels : ∀ panel ∈ p.panels, panel.reread.same panel = true := fun panel hpanel => by
    simp only [Panel.same, Panel.reread, List.length_map, decide_true, Bool.true_and]
    exact all_zip_map fun e he => (h.elements panel hpanel e he).reread_same
  simp only [same, reread, List.length_map, decide_true, Bool.true_and]
  exact all_zip_map hpanels

/-- **Writing and reading is the identity:** an expressible puzzle is read back from its text,
without a warning. -/
theorem read_text_same {p : Puzzle} (h : p.Expressible) :
    ∃ q, read p.text = ⟨.ok q, []⟩ ∧ q.same p = true := by
  refine ⟨p.reread, ?_, h.reread_same⟩
  rw [read_text h.legible, h.lost_eq_nil]

/-- A socket with a slider that rises, and a button for it. -/
def sample : Puzzle :=
  { message := "Well done!"
    reward := some "a medal"
    panels :=
      [{ theme := "deep blue"
         elements :=
          [{ id := "c1", shape := .circle, width := 1.25, height := 0.8, x := 0.1, y := 7
             elevationTarget := some .raised, color := .switch 3 4 (some 5), rotation := -3
             comparison := some .lessOrEqual },
            { id := "t2", shape := .triangle, width := 0.8, height := 0.8, x := 5.1, y := 6.1
              elevation := .raised, color := .plain 3, method := .tap
              actions := [.moveStep "c1" (-1) 0.25, .configure "c1" .drag .none 0, .link "c1",
                .configure "c1" .hold .rotate 4, .reset "c1"] }] }] }

theorem read_text_same_sample :
    sample.Expressible ∧ ∃ q, read sample.text = ⟨.ok q, []⟩ ∧ q.same sample = true := by
  have hsample : sample.Expressible :=
    { message := by decide
      reward := by simp [sample]; decide
      no_reward := by decide
      panels_ne := by decide
      themes := by simp [sample]; decide
      elements := by
        simp only [sample, List.mem_cons, List.not_mem_nil, or_false, forall_eq, forall_eq_or_imp]
        refine ⟨?_, ?_⟩
        · exact
            { id_ne := by decide, id_clean := by simp; decide, code := by decide, flat := by decide
              target_ne := by decide, settled := by decide, actions := by simp
              shown := by decide +kernel, kept := by decide +kernel, steps := by simp }
        · exact
            { id_ne := by decide, id_clean := by simp; decide, code := by decide, flat := by decide
              target_ne := by decide, settled := by decide
              actions := by simp [Action.Legible]; decide
              shown := by decide +kernel, kept := by decide +kernel
              steps := by simp [Action.Kept]; decide +kernel } }
  exact ⟨hsample, read_text_same hsample⟩

end Puzzle

end PanelPuzzle
