import Mathlib.Tactic.Common
import PanelPuzzle.PuzzleText.Token
import PanelPuzzle.PuzzleText.Writer
import PanelPuzzle.Proofs.Text.Joining
/-!
# Whole numbers as words

Integers and color numbers are read back from the digits that are written for them, and so are
colors, which are numbers between hyphens.

* `readInt32?_integerWord`, `readColor?_word` — the readings invert the writings.
* `forall_mem_integerWord`, `forall_mem_colorWord` — the characters of these words.
-/

namespace PanelPuzzle

open Text

lemma isDigit_of_mem_toDigits {n : Nat} {c : Char} (h : c ∈ Nat.toDigits 10 n) :
    c.isDigit = true := Nat.isDigit_of_mem_toDigits (by decide) (by decide) h

/-! ## Integers -/

lemma readDigits?_toDigits (n : Nat) : readDigits? (Nat.toDigits 10 n) = some n := by
  rw [readDigits?, if_pos, Nat.ofDigitChars_ten_toDigits]
  refine ⟨?_, List.all_eq_true.mpr fun c => isDigit_of_mem_toDigits⟩
  exact List.ne_nil_of_length_pos Nat.length_toDigits_pos

lemma toDigits_eq_cons (n : Nat) :
    ∃ c digits, Nat.toDigits 10 n = c :: digits ∧ c.isDigit = true := by
  cases h : Nat.toDigits 10 n with
  | nil => exact absurd h (List.ne_nil_of_length_pos Nat.length_toDigits_pos)
  | cons c digits => exact ⟨c, digits, rfl, isDigit_of_mem_toDigits (h ▸ List.mem_cons_self)⟩

lemma toList_toString_int : ∀ n : Int,
    (toString n).toList = (if n < 0 then ['-'] else []) ++ Nat.toDigits 10 n.natAbs
  | .ofNat n => by simp [toString, Int.repr, Int.not_ofNat_neg]
  | .negSucc n => by simp [toString, Int.repr, Int.negSucc_lt_zero]

lemma readInteger?_toString {low high n : Int} (hlow : low ≤ n) (hhigh : n ≤ high) :
    readInteger? low high (toString n) = some n := by
  rw [readInteger?, toList_toString_int]
  obtain ⟨c, digits, hdigits, hc⟩ := toDigits_eq_cons n.natAbs
  by_cases hn : n < 0
  · have hneg : -(n.natAbs : Int) = n := by omega
    simp only [if_pos hn, List.cons_append, List.nil_append, readDigits?_toDigits]
    change (some (-(n.natAbs : Int))).filter _ = some n
    rw [hneg]
    exact Option.filter_some_pos (decide_eq_true ⟨hlow, hhigh⟩)
  · have hpos : (n.natAbs : Int) = n := by omega
    have hread := readDigits?_toDigits n.natAbs
    rw [hdigits] at hread
    simp only [if_neg hn, List.nil_append, hdigits]
    split
    · simp_all [Char.isDigit]
    · simp_all [Char.isDigit]
    · rw [hread]
      simp [hpos, Option.filter, hlow, hhigh]

/-- **An integer is read back from its word.** -/
lemma readInt32?_integerWord (n : Int32) : readInt32? (integerWord n) = some n := by
  have hlow : -2147483648 ≤ n.toInt := n.le_toInt
  have hhigh : n.toInt ≤ 2147483647 := n.toInt_le
  rw [readInt32?, integerWord, readInteger?_toString hlow hhigh, Option.map_some,
    Int32.ofInt_toInt]

/-- The characters of an integer are digits and a minus sign. -/
lemma forall_mem_integerWord {n : Int32} {c : Char} (h : c ∈ (integerWord n).toList) :
    c.isDigit = true ∨ c = '-' := by
  rw [integerWord, toList_toString_int] at h
  rcases List.mem_append.mp h with h | h
  · split at h
    · exact .inr (List.mem_singleton.mp h)
    · cases h
  · exact .inl (isDigit_of_mem_toDigits h)

/-! ## Colors -/

lemma readColorNumber?_toDigits (n : UInt8) :
    readColorNumber? (Nat.toDigits 10 n.toNat) = some n := by
  have hread := readDigits?_toDigits n.toNat
  obtain ⟨c, digits, hdigits, hc⟩ := toDigits_eq_cons n.toNat
  have hlt : n.toNat ≤ 255 := by have := n.toNat_lt; omega
  rw [readColorNumber?, readNatural?, String.toList_ofList]
  rw [hdigits] at hread ⊢
  split
  · simp_all [Char.isDigit]
  · rw [hread]
    simp [Option.filter, hlt]

/-- The parts of the word for a color, between its hyphens. -/
def Color.parts : Color → List (List Char)
  | plain color => [Nat.toDigits 10 color.toNat]
  | switch unsatisfied satisfied none =>
    [Nat.toDigits 10 unsatisfied.toNat, Nat.toDigits 10 satisfied.toNat]
  | switch unsatisfied satisfied (some ball) =>
    [Nat.toDigits 10 unsatisfied.toNat, Nat.toDigits 10 satisfied.toNat,
      Nat.toDigits 10 ball.toNat]
  | themeCycle target ball =>
    [['x'], Nat.toDigits 10 target.toNat, Nat.toDigits 10 ball.toNat]

lemma toList_colorWord (color : Color) : color.word.toList = ['-'].intercalate color.parts := by
  have hword : ∀ word : String, toString word = word := fun _ => rfl
  rcases color with color | ⟨unsatisfied, satisfied, _ | ball⟩ | ⟨target, ball⟩
  all_goals simp [Color.word, Color.parts, hword, List.intercalate_cons_cons]

/-- The parts of a color are not empty and hold no hyphen. -/
lemma forall_mem_parts {color : Color} {part : List Char} (h : part ∈ color.parts) {c : Char}
    (hc : c ∈ part) : c.isDigit = true ∨ c = 'x' := by
  have hdigits : ∀ n : UInt8, part = Nat.toDigits 10 n.toNat → c.isDigit = true ∨ c = 'x' :=
    fun n hn => .inl (isDigit_of_mem_toDigits (hn ▸ hc))
  rcases color with color | ⟨unsatisfied, satisfied, _ | ball⟩ | ⟨target, ball⟩
  all_goals simp only [Color.parts, List.mem_cons, List.not_mem_nil, or_false] at h
  · exact hdigits _ h
  · rcases h with h | h
    all_goals exact hdigits _ h
  · rcases h with h | h | h
    all_goals exact hdigits _ h
  · rcases h with rfl | h | h
    · exact .inr (List.mem_singleton.mp hc)
    all_goals exact hdigits _ h

/-- The characters of a color. -/
lemma forall_mem_colorWord {color : Color} {c : Char} (h : c ∈ color.word.toList) :
    c.isDigit = true ∨ c = '-' ∨ c = 'x' := by
  rw [toList_colorWord] at h
  rcases mem_intercalate h with h | ⟨part, hpart, hc⟩
  · exact .inr (.inl (List.mem_singleton.mp h))
  · exact (forall_mem_parts hpart hc).imp_right .inr

lemma pieces_colorWord (color : Color) :
    pieces (· = '-') color.word.toList = color.parts := by
  rw [toList_colorWord]
  refine pieces_intercalate (by simp) ?_ fun part hpart c hc => ?_
  · rcases color with color | ⟨unsatisfied, satisfied, _ | ball⟩ | ⟨target, ball⟩
    all_goals exact List.cons_ne_nil _ _
  · rcases forall_mem_parts hpart hc with h | rfl
    · exact decide_eq_false fun hc => by simp [hc] at h
    · rfl

/-- **A color is read back from its word.** -/
lemma readColor?_word (color : Color) : readColor? color.word = some color := by
  rw [readColor?, pieces_colorWord]
  rcases color with color | ⟨unsatisfied, satisfied, _ | ball⟩ | ⟨target, ball⟩
  · simp [Color.parts, readColorNumber?_toDigits]
  · simp [Color.parts, readColorNumber?_toDigits]
  · have hx : Nat.toDigits 10 unsatisfied.toNat ≠ ['x'] := fun h => by
      have := isDigit_of_mem_toDigits (n := unsatisfied.toNat) (c := 'x') (by simp [h])
      simp at this
    simp [Color.parts, readColorNumber?_toDigits, hx]
  · simp [Color.parts, readColorNumber?_toDigits]

end PanelPuzzle
