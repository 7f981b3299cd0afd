import PanelPuzzle.Batch
import PanelPuzzle.Proofs.Generation.Exact
import PanelPuzzle.Proofs.Generation.Panels
import PanelPuzzle.Proofs.Json.Records
/-!
# Saved batches

A batch is read back from its file as it was saved, whatever its texts are.  What the texts of its
puzzles are read as is another matter: a heading is written into them as it is, and not every
message and reward can be told from the rest of the text.

* `Batch.ofText_toText` — **a batch is read back from its file.**
* `Puzzle.read_text_outline_iff` — **a puzzle keeps its outline exactly if its heading is sound.**
* `Generation.batch_restored_iff` — **the puzzles of a batch come back exactly if all their headings
  are sound,** and then they come back as they were.
-/

namespace PanelPuzzle

open JsonReader Text

/-! ## Files -/

namespace Batch

lemma reads_seed (seed : UInt64) : Reads seedReader (.integer seed.toNat) seed := by
  have bound := seed.toNat_lt
  have whole : Reads (integer 0 18446744073709551615) (.integer seed.toNat) seed.toNat :=
    reads_integer (by omega) (by omega) (by simp only [Numeral.greatestSignificand]; omega)
  have read := whole.map fun n => UInt64.ofNat n.toNat
  rw [Int.toNat_natCast, UInt64.ofNat_toNat] at read
  exact read

lemma reads_difficulty (d : Difficulty) :
    Reads (choice Difficulty.all Difficulty.name) (.text d.name) d :=
  reads_choice (by cases d <;> rfl)

/-- **A batch is read back from its file.** -/
theorem ofText_toText (batch : Batch) : ofText batch.toText = .ok batch := by
  have seed : Reads seedReader.optional _ batch.seed :=
    Reads.optional (fun seed _ => reads_seed seed) fun seed _ => begins_integer seed.toNat
  have texts : Reads text.each (.each .text batch.texts) batch.texts :=
    Reads.each fun text _ => ⟨reads_text text, begins_text text⟩
  have whole : Reads (record fields default) batch.toJson batch :=
    reads_record (by decide) <|
      .cons (Field.reads_required (reads_text batch.created) _) <|
      .cons (Field.reads_required (reads_difficulty batch.difficulty) _) <|
      .cons (Field.reads_optional seed _) <|
      .cons (Field.reads_required texts _) .nil
  exact whole.readJson_write (.lines 0)

end Batch

/-! ## Texts -/

namespace Puzzle

/-- Two puzzles with the same message, the same reward and as many panels. -/
def SameOutline (p q : Puzzle) : Prop :=
  p.message = q.message ∧ p.reward = q.reward ∧ p.panels.length = q.panels.length

/-- What a text is read as: its first piece is the heading, and every other one is a panel. -/
lemma pieces_of_read {text : String} {p : Puzzle} (h : (read text).result = .ok p) :
    ∃ heading sections, pieces (· = '/') text.toList = heading :: sections ∧
      readHeading heading = (p.message, p.reward) ∧ sections.length = p.panels.length := by
  rw [read] at h
  split at h
  · rename_i heading first others shape
    obtain ⟨panels, each, rest⟩ := Reading.result_bind.mp h
    obtain rfl := Except.ok.inj rest
    refine ⟨heading, first :: others, shape, rfl, ?_⟩
    have length := (Reading.result_each.mp each).length_eq
    rwa [List.length_zipIdx] at length
  · cases h

/-- The pieces of a text that was written are those of the heading, and the panels. -/
lemma pieces_text {p : Puzzle} (panels_ne : p.panels ≠ []) (legible : ∀ panel ∈ p.panels, panel.Legible) :
    pieces (· = '/') p.text.toList =
      pieces (· = '/') p.heading.toList ++ p.panels.map fun panel => panel.text.toList := by
  have joined : p.text.toList = p.heading.toList ++ '/' ::
      ['/'].intercalate (p.panels.map fun panel => panel.text.toList) := by
    obtain ⟨panel, panels, shape⟩ := List.exists_cons_of_ne_nil panels_ne
    simp [text, shape, Function.comp_def]
  rw [joined, pieces_append (by simp), pieces_intercalate (by simp) (by simpa using panels_ne)]
  intro text mem c hc
  obtain ⟨panel, hpanel, rfl⟩ := List.mem_map.mp mem
  simpa using (legible panel hpanel).mem_text hc

/-- **A puzzle keeps its outline in its text exactly if its heading is sound:** if it is not, the
text is refused, or read with another heading or with other panels. -/
theorem read_text_outline_iff {p : Puzzle} (panels_ne : p.panels ≠ [])
    (legible : ∀ panel ∈ p.panels, panel.Legible) :
    (∃ q, (read p.text).result = .ok q ∧ q.SameOutline p) ↔ HeadingSound (p.message, p.reward) := by
  constructor
  · rintro ⟨q, h, message, reward, panels⟩
    obtain ⟨heading, sections, shape, outline, length⟩ := pieces_of_read h
    rw [pieces_text panels_ne legible] at shape
    -- There are as many panels as before, so the heading is not cut.
    have whole := congrArg List.length shape
    rw [List.length_append, List.length_map, List.length_cons, length, panels, length_pieces] at whole
    have uncut : ∀ c ∈ p.heading.toList, decide (c = '/') = false := by
      have none : p.heading.toList.countP (· = '/') = 0 := by omega
      simpa using List.countP_eq_zero.mp none
    rw [pieces_of_forall uncut] at shape
    rw [← message, ← reward, ← outline, ← (List.cons.inj shape).1]
    exact sound_readHeading fun slash => by simpa using uncut _ slash
  · intro sound
    have whole : p.Legible :=
      { message := sound.message, message_clean := sound.message_clean, reward := sound.reward
        no_reward := sound.no_reward, panels_ne, panels := legible }
    refine ⟨p.reread, by rw [read_text whole], rfl, rfl, ?_⟩
    rw [reread, List.length_map]

end Puzzle

/-! ## Batches of generated puzzles -/

/-- Two relations between the items of two lists, place by place, hold of a partner of each item. -/
lemma exists_of_forall₂ {α β : Type} {r : α → β → Prop} {s : β → α → Prop} {as : List α}
    {bs : List β} (hr : List.Forall₂ r as bs) (hs : List.Forall₂ s bs as) :
    ∀ a ∈ as, ∃ b, r a b ∧ s b a := by
  induction hr with
  | nil => simp
  | cons first _ ih =>
    obtain ⟨back, others⟩ := List.forall₂_cons.mp hs
    exact List.forall_mem_cons.mpr ⟨⟨_, first, back⟩, ih others⟩

namespace Generation

/-- **The puzzles of a saved batch come back exactly if all their headings are sound.**  The batch
itself always does.  A heading that is not sound holds a slash, has blanks at its ends, or does not
tell where the reward starts. -/
theorem batch_restored_iff (created : String) (difficulty : Difficulty) (seed : Option UInt64)
    (made : List (Config × Draws)) :
    let puzzles := made.map fun m => (generate m.1 m.2).puzzle
    let batch := Batch.new created difficulty seed puzzles
    Batch.ofText batch.toText = .ok batch ∧
      ((∃ read, batch.puzzles = .ok read ∧ List.Forall₂ Puzzle.SameOutline read puzzles) ↔
        ∀ m ∈ made, HeadingSound (m.1.message, m.1.reward)) ∧
      ((∀ m ∈ made, HeadingSound (m.1.message, m.1.reward)) → batch.puzzles = .ok puzzles) := by
  intro puzzles batch
  have texts : batch.texts = puzzles.map Puzzle.text := rfl
  have drawn : ∀ p ∈ puzzles, p.panels ≠ [] ∧ ∀ panel ∈ p.panels, panel.Legible := by
    intro p hp
    obtain ⟨m, -, rfl⟩ := List.mem_map.mp hp
    exact ⟨panels_ne_nil m.1 m.2, legible_panels m.1 m.2⟩
  have outlines : (∃ read, batch.puzzles = .ok read ∧
      List.Forall₂ Puzzle.SameOutline read puzzles) →
        ∀ m ∈ made, HeadingSound (m.1.message, m.1.reward) := by
    rintro ⟨read, h, same⟩ m hm
    rw [Batch.puzzles, Reading.result_each, texts, List.forall₂_map_left_iff] at h
    have hp : (generate m.1 m.2).puzzle ∈ puzzles := List.mem_map_of_mem hm
    obtain ⟨panels_ne, legible⟩ := drawn _ hp
    obtain ⟨q, result, outline⟩ := exists_of_forall₂ h same _ hp
    exact (Puzzle.read_text_outline_iff panels_ne legible).mp ⟨q, result, outline⟩
  have restored : (∀ m ∈ made, HeadingSound (m.1.message, m.1.reward)) →
      batch.puzzles = .ok puzzles := by
    intro sound
    rw [Batch.puzzles, Reading.result_each, texts, List.forall₂_map_left_iff, List.forall₂_same]
    intro p hp
    obtain ⟨m, hm, rfl⟩ := List.mem_map.mp hp
    rw [Puzzle.read_text_of_exact (legible_generate m.1 m.2 (sound m hm))]
    exact exact_elements m.1 m.2
  refine ⟨Batch.ofText_toText batch, ⟨outlines, fun sound => ?_⟩, restored⟩
  exact ⟨puzzles, restored sound, List.forall₂_same.mpr fun p _ => ⟨rfl, rfl, rfl⟩⟩

-- The heading of a message with a slash is cut, and its second half is no panel.
example : ¬ HeadingSound ("a/b", none) ∧
    (Puzzle.read "a/b/blue:").result = .error (.noColorTheme 1) :=
  ⟨fun sound => sound.message_clean (by decide), by decide⟩

end Generation

end PanelPuzzle
