import Mathlib.Tactic.Common
import PanelPuzzle.Number.Decimal
import PanelPuzzle.PuzzleText.Token
import PanelPuzzle.Proofs.Text.Numerals
/-!
# The characters of a number

A number with two decimals is a word of digits, a point and a minus sign; only what is not finite
is spelled with letters.  None of these characters separates anything in a puzzle, and the last
one is no mark of an elevation.
-/

namespace PanelPuzzle

/-- The characters that a number is written with. -/
def isNumeric (c : Char) : Bool := c.isDigit || "-.infNa".toList.contains c

/-- What is written with a number has none of the characters that separate. -/
lemma not_numeric {c : Char} (h : isNumeric c = true) :
    Text.isBlank c = false ∧ c ≠ ',' ∧ c ≠ '/' ∧ c ≠ 'x' := by
  rw [isNumeric, Bool.or_eq_true] at h
  rcases h with h | h
  · refine ⟨?_, ?_, ?_, ?_⟩
    · rw [Char.isDigit_iff_toNat] at h
      rw [Text.isBlank, Bool.eq_false_iff]
      simp only [Text.blankRanges, ne_eq, List.any_cons, List.any_nil, Bool.or_false,
        Bool.or_eq_true, Bool.and_eq_true, decide_eq_true_eq]
      have h0 : '0'.toNat = 48 := rfl
      have h9 : '9'.toNat = 57 := rfl
      omega
    all_goals
      rintro rfl
      exact absurd h (by decide)
  · have hall : "-.infNa".toList.all (fun d =>
        !Text.isBlank d && d ≠ ',' && d ≠ '/' && d ≠ 'x') = true := by decide
    simpa [and_assoc] using List.all_eq_true.mp hall c (by simpa using h)

namespace Number

lemma mem_hundredths {n : Nat} {c : Char} (h : c ∈ hundredths n) :
    c.isDigit = true ∨ c = '.' := by
  have hdigit : ∀ d, d < 10 → d.digitChar.isDigit = true := by decide
  have htens : n % 100 / 10 < 10 := by omega
  have hones : n % 10 < 10 := by omega
  unfold hundredths at h
  dsimp only at h
  split at h
  · rcases List.mem_cons.mp h with rfl | h
    · exact .inr rfl
    rcases List.mem_cons.mp h with rfl | h
    · exact .inl (hdigit _ htens)
    · exact .inl (List.mem_singleton.mp h ▸ hdigit _ hones)
  split at h
  · rcases List.mem_cons.mp h with rfl | h
    · exact .inr rfl
    · exact .inl (List.mem_singleton.mp h ▸ hdigit _ htens)
  · cases h

/-- A decimal is written with digits, a point and a minus sign. -/
lemma mem_decimalsOf {q : Rat} {c : Char} (h : c ∈ decimalsOf q) :
    c.isDigit = true ∨ c = '.' ∨ c = '-' := by
  unfold decimalsOf at h
  rcases List.mem_append.mp h with h | h
  · rcases List.mem_append.mp h with h | h
    · split at h
      · exact .inr (.inr (List.mem_singleton.mp h))
      · cases h
    · exact .inl (isDigit_of_mem_toDigits h)
  · exact (mem_hundredths h).imp_right .inl

lemma isNumeric_of_mem_decimalsOf {q : Rat} {c : Char} (h : c ∈ decimalsOf q) :
    isNumeric c = true := by
  rcases mem_decimalsOf h with h | rfl | rfl
  · rw [isNumeric, h, Bool.true_or]
  all_goals rfl

lemma isNumeric_of_mem_twoDecimals {a : Number} {c : Char} (h : c ∈ a.twoDecimals.toList) :
    isNumeric c = true := by
  unfold twoDecimals at h
  split at h
  · exact List.all_eq_true.mp (by decide : "NaN".toList.all isNumeric = true) c h
  · exact List.all_eq_true.mp (by decide : "-inf".toList.all isNumeric = true) c h
  · exact List.all_eq_true.mp (by decide : "inf".toList.all isNumeric = true) c h
  · exact List.all_eq_true.mp (by decide : "0".toList.all isNumeric = true) c h
  · rw [String.toList_ofList] at h
    exact isNumeric_of_mem_decimalsOf h

/-- The digits after a point end in a digit, if there are any. -/
lemma hundredths_eq_append (n : Nat) :
    hundredths n = [] ∨ ∃ text c, hundredths n = text ++ [c] ∧ c.isDigit = true := by
  have hdigit : ∀ d, d < 10 → d.digitChar.isDigit = true := by decide
  rw [hundredths]
  split
  · exact .inr ⟨['.', _], _, rfl, hdigit _ (by omega)⟩
  split
  · exact .inr ⟨['.'], _, rfl, hdigit _ (by omega)⟩
  · exact .inl rfl

/-- A decimal ends in a digit. -/
lemma decimalsOf_eq_append (q : Rat) :
    ∃ text c, decimalsOf q = text ++ [c] ∧ c.isDigit = true := by
  rw [decimalsOf]
  generalize (nearestEven (q.abs * 100)).toNat = n
  rcases hundredths_eq_append n with h | ⟨text, c, htext, hc⟩
  · have hne : Nat.toDigits 10 (n / 100) ≠ [] :=
      List.ne_nil_of_length_pos Nat.length_toDigits_pos
    refine ⟨(if q < 0 then ['-'] else []) ++ (Nat.toDigits 10 (n / 100)).dropLast, _, ?_,
      isDigit_of_mem_toDigits (List.getLast_mem hne)⟩
    rw [h, List.append_nil, List.append_assoc, List.dropLast_concat_getLast hne]
  · refine ⟨(if q < 0 then ['-'] else []) ++ Nat.toDigits 10 (n / 100) ++ text, c, ?_, hc⟩
    rw [htext, List.append_assoc _ text]

/-- **The last character of a number** is no mark of an elevation. -/
lemma twoDecimals_eq_append (a : Number) :
    ∃ text c, a.twoDecimals.toList = text ++ [c] ∧ readMark? c = none := by
  unfold twoDecimals
  split
  · exact ⟨['N', 'a'], 'N', rfl, rfl⟩
  · exact ⟨['-', 'i', 'n'], 'f', rfl, rfl⟩
  · exact ⟨['i', 'n'], 'f', rfl, rfl⟩
  · exact ⟨[], '0', rfl, rfl⟩
  · rename_i q _
    obtain ⟨text, c, htext, hc⟩ := decimalsOf_eq_append q
    refine ⟨text, c, by rw [String.toList_ofList, htext], ?_⟩
    unfold readMark?
    split
    all_goals first | rfl | exact absurd hc (by decide)

end Number

end PanelPuzzle
