import Mathlib.Tactic.Common
import PanelPuzzle.Text.Pieces
/-!
# Cutting what was joined

A text that was joined from pieces is cut into the same pieces, as long as no piece holds a
separator; words moreover must not be empty.

* `Text.pieces_intercalate`, `Text.wordsOf_intercalate` — pieces and words come back.
* `Text.Trimmed` — texts without blanks at their ends, and what trimming does to a text around one.
* `Text.cutLast?_append` — the last occurrence of a separator.
-/

namespace PanelPuzzle.Text

/-! ## Pieces and words -/

lemma pieces_intercalate {separates : Char → Bool} {c : Char} (hc : separates c = true) :
    ∀ {texts : List (List Char)}, texts ≠ [] →
      (∀ text ∈ texts, ∀ d ∈ text, separates d = false) →
      pieces separates ([c].intercalate texts) = texts
  | [], hne, _ => absurd rfl hne
  | [text], _, h => by
      rw [List.intercalate_singleton]
      exact pieces_of_forall (h text List.mem_cons_self)
  | text :: next :: texts, _, h => by
      rw [List.intercalate_cons_cons, List.append_assoc, List.singleton_append,
        pieces_append_cons (h text List.mem_cons_self) hc,
        pieces_intercalate hc (List.cons_ne_nil _ _)
          fun t ht => h t (List.mem_cons_of_mem _ ht)]

/-- A separator ends the pieces of one text and starts those of another one. -/
lemma pieces_append {separates : Char → Bool} {c : Char} (hc : separates c = true)
    (text rest : List Char) :
    pieces separates (text ++ c :: rest) = pieces separates text ++ pieces separates rest := by
  induction text with
  | nil => simp [pieces, hc]
  | cons d text ih =>
    rw [List.cons_append, pieces, pieces, ih]
    split
    · rfl
    · cases htext : pieces separates text with
      | nil => exact absurd htext (pieces_ne_nil separates text)
      | cons first others => rfl

/-- There is one piece more than there are separators. -/
lemma length_pieces (separates : Char → Bool) (text : List Char) :
    (pieces separates text).length = text.countP separates + 1 := by
  induction text with
  | nil => rfl
  | cons c rest ih =>
    rw [pieces, List.countP_cons]
    split
    · rw [List.length_cons, ih]
    · cases hrest : pieces separates rest with
      | nil => exact absurd hrest (pieces_ne_nil separates rest)
      | cons first others =>
        rw [hrest, List.length_cons] at ih
        rw [List.length_cons]
        exact ih

/-- The characters of a piece are those of the text. -/
lemma mem_of_mem_pieces {separates : Char → Bool} {text piece : List Char} {c : Char}
    (h : piece ∈ pieces separates text) (hc : c ∈ piece) : c ∈ text := by
  induction text generalizing piece with
  | nil => simp_all [pieces]
  | cons d rest ih =>
    unfold pieces at h
    split at h
    · rcases List.mem_cons.mp h with rfl | h
      · cases hc
      · exact List.mem_cons_of_mem d (ih h hc)
    · split at h
      · simp_all
      · rename_i first others heq
        rcases List.mem_cons.mp h with rfl | h
        · have hfirst : c ∈ first → c ∈ rest := ih (by simp [heq])
          simp only [List.mem_cons] at hc ⊢
          exact hc.imp_right hfirst
        · exact List.mem_cons_of_mem d (ih (by simp [heq, h]) hc)

/-- A character of a joined text belongs to the separator or to a piece. -/
lemma mem_intercalate {separator : List Char} {c : Char} : ∀ {texts : List (List Char)},
    c ∈ separator.intercalate texts → c ∈ separator ∨ ∃ text ∈ texts, c ∈ text
  | [], h => by cases h
  | [text], h => .inr ⟨text, List.mem_cons_self, by rwa [List.intercalate_singleton] at h⟩
  | text :: next :: texts, h => by
      rw [List.intercalate_cons_cons, List.mem_append, List.mem_append] at h
      rcases h with (h | h) | h
      · exact .inr ⟨text, List.mem_cons_self, h⟩
      · exact .inl h
      · refine (mem_intercalate h).imp_right fun ⟨t, ht, hc⟩ => ?_
        exact ⟨t, List.mem_cons_of_mem _ ht, hc⟩

/-- **The words of joined words** are these words. -/
lemma wordsOf_intercalate {ws : List String} (hne : ws ≠ [])
    (h : ∀ w ∈ ws, w ≠ "" ∧ ∀ c ∈ w.toList, isBlank c = false) :
    wordsOf (" ".intercalate ws) = ws := by
  have hpieces : pieces isBlank (" ".intercalate ws).toList = ws.map String.toList := by
    rw [String.toList_intercalate]
    refine pieces_intercalate isBlank_space (by simpa using hne) fun text htext => ?_
    obtain ⟨w, hw, rfl⟩ := List.mem_map.mp htext
    exact (h w hw).2
  have hfilter : (ws.map String.toList).filter (· ≠ []) = ws.map String.toList := by
    refine List.filter_eq_self.mpr fun text htext => ?_
    obtain ⟨w, hw, rfl⟩ := List.mem_map.mp htext
    simpa using (h w hw).1
  rw [wordsOf, hpieces, hfilter, List.map_map]
  simp [Function.comp_def]

/-! ## Trimmed texts -/

/-- A text without blanks at its ends. -/
def Trimmed (text : List Char) : Prop := trim text = text

instance (text : List Char) : Decidable (Trimmed text) := inferInstanceAs (Decidable (_ = _))

lemma trimEnd_eq_self {text : List Char} (h : ∀ c, text.getLast? = some c → isBlank c = false) :
    trimEnd text = text := by
  rw [trimEnd]
  cases hrev : text.reverse with
  | nil => simpa using hrev.symm
  | cons c rest =>
    have hlast : isBlank c = false := h c (by
      rw [← List.head?_reverse, hrev, List.head?_cons])
    rw [List.dropWhile_cons_of_neg (by simp [hlast]), ← hrev, List.reverse_reverse]

/-- What is left of a text by trimming its end does not end in a blank. -/
lemma getLast?_trimEnd {text : List Char} {c : Char} (h : (trimEnd text).getLast? = some c) :
    isBlank c = false := by
  rw [trimEnd, List.getLast?_reverse] at h
  have := List.head?_dropWhile_not isBlank text.reverse
  rw [h] at this
  simpa using this

lemma trimEnd_append_blank (text : List Char) {c : Char} (h : isBlank c = true) :
    trimEnd (text ++ [c]) = trimEnd text := by
  rw [trimEnd, List.reverse_append, List.reverse_singleton, List.singleton_append,
    List.dropWhile_cons_of_pos h, trimEnd]

/-- Trimming the end of a text leaves the start of it. -/
lemma trimEnd_isPrefix (text : List Char) : trimEnd text <+: text := by
  have hsuffix := List.dropWhile_suffix isBlank (l := text.reverse)
  rwa [← List.reverse_prefix, List.reverse_reverse] at hsuffix

lemma mem_of_mem_trim {text : List Char} {c : Char} (h : c ∈ trim text) : c ∈ text :=
  (List.dropWhile_suffix isBlank).subset ((trimEnd_isPrefix _).subset h)

lemma head?_trim {text : List Char} {c : Char} (h : (trim text).head? = some c) :
    isBlank c = false := by
  obtain ⟨rest, hrest⟩ := trimEnd_isPrefix (text.dropWhile isBlank)
  have hhead : (text.dropWhile isBlank).head? = some c := by
    rw [← hrest, List.head?_append]
    simp only [trim] at h
    rw [h, Option.some_or]
  have := List.head?_dropWhile_not isBlank text
  rw [hhead] at this
  simpa using this

lemma Trimmed.head {text : List Char} (h : Trimmed text) {c : Char} (hc : text.head? = some c) :
    isBlank c = false := head?_trim (by rwa [h])

lemma Trimmed.last {text : List Char} (h : Trimmed text) {c : Char}
    (hc : text.getLast? = some c) : isBlank c = false :=
  @getLast?_trimEnd (text.dropWhile isBlank) c (by rw [← hc]; exact congrArg _ h)

lemma trimmed_iff {text : List Char} : Trimmed text ↔
    (∀ c, text.head? = some c → isBlank c = false) ∧
      ∀ c, text.getLast? = some c → isBlank c = false := by
  refine ⟨fun h => ⟨fun c => h.head, fun c => h.last⟩, fun ⟨hhead, hlast⟩ => ?_⟩
  rw [Trimmed, trim]
  have hdrop : text.dropWhile isBlank = text := by
    cases text with
    | nil => rfl
    | cons c rest => exact List.dropWhile_cons_of_neg (by simp [hhead c rfl])
  rw [hdrop]
  exact trimEnd_eq_self hlast

/-- Trimming trims. -/
lemma trimmed_trim (text : List Char) : Trimmed (trim text) :=
  trimmed_iff.mpr ⟨fun _ => head?_trim, fun _ => getLast?_trimEnd⟩

lemma trimmed_trimEnd {text : List Char} (h : ∀ c, text.head? = some c → isBlank c = false) :
    Trimmed (trimEnd text) := by
  refine trimmed_iff.mpr ⟨fun c hc => h c ?_, fun _ => getLast?_trimEnd⟩
  obtain ⟨rest, hrest⟩ := trimEnd_isPrefix text
  rw [← hrest, List.head?_append, hc, Option.some_or]

/-! ## The last separator -/

lemma exists_cutLast {separator : Char} {text : List Char} (h : separator ∈ text) :
    ∃ before after, text = before ++ separator :: after ∧ separator ∉ after := by
  cases hcut : cut? separator text.reverse with
  | none => exact absurd (List.mem_reverse.mpr h) (cut?_eq_none_iff.mp hcut)
  | some sides =>
    obtain ⟨hrev, hmem⟩ := cut?_eq_some hcut
    refine ⟨sides.2.reverse, sides.1.reverse, ?_, by simpa using hmem⟩
    rw [← List.reverse_reverse text, hrev]
    simp

lemma cutLast?_append {separator : Char} {before after : List Char} (h : separator ∉ after) :
    cutLast? separator (before ++ separator :: after) = some (before, after) := by
  have hrev : (before ++ separator :: after).reverse
      = after.reverse ++ separator :: before.reverse := by simp
  rw [cutLast?, hrev, cut?_append (by simpa using h)]
  simp

lemma cutLast?_eq_none {separator : Char} {text : List Char} (h : separator ∉ text) :
    cutLast? separator text = none := by
  rw [cutLast?, cut?_eq_none_iff.mpr (by simpa using h), Option.map_none]

end PanelPuzzle.Text
