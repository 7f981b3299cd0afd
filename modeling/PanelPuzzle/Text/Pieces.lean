import PanelPuzzle.Text.Blank
/-!
# Cutting a text into pieces

A puzzle is cut at slashes, a panel at commas, an element at blanks.  All of these are `pieces`, by
the class of the characters that separate.

* `pieces_ne_nil`, `forall_mem_pieces` — there is a piece, and no piece holds a separator.
* `pieces_append_cons` — a separator ends one list of pieces and starts the next.
* `cut?_eq_some`, `cut?_eq_none_iff` — the two sides of the first separator.
-/

namespace PanelPuzzle.Text

/-! ## Pieces -/

/-- The pieces of a text between the characters of a class.  Neighbouring separators have an empty
piece between them, and a text without separators is its only piece. -/
def pieces (separates : Char → Bool) : List Char → List (List Char)
  | [] => [[]]
  | c :: rest =>
    if separates c then [] :: pieces separates rest
    else match pieces separates rest with
      | [] => [[c]]
      | first :: others => (c :: first) :: others

theorem pieces_ne_nil (separates : Char → Bool) (text : List Char) :
    pieces separates text ≠ [] := by
  cases text with
  | nil => simp [pieces]
  | cons c rest =>
    unfold pieces
    split
    · simp
    · split <;> simp

theorem forall_mem_pieces {separates : Char → Bool} {text piece : List Char}
    (h : piece ∈ pieces separates text) : ∀ c ∈ piece, separates c = false := by
  induction text generalizing piece with
  | nil => simp_all [pieces]
  | cons d rest ih =>
    unfold pieces at h
    split at h
    · rcases List.mem_cons.1 h with rfl | h
      · simp
      · exact ih h
    · rename_i hd
      split at h
      · simp_all
      · rename_i first others heq
        rcases List.mem_cons.1 h with rfl | h
        · have : ∀ c ∈ first, separates c = false := ih (by simp [heq])
          simp_all
        · exact ih (by simp [heq, h])

theorem pieces_of_forall {separates : Char → Bool} {text : List Char}
    (h : ∀ c ∈ text, separates c = false) : pieces separates text = [text] := by
  induction text with
  | nil => rfl
  | cons c rest ih => simp_all [pieces]

theorem pieces_append_cons {separates : Char → Bool} {text rest : List Char} {c : Char}
    (h : ∀ d ∈ text, separates d = false) (hc : separates c = true) :
    pieces separates (text ++ c :: rest) = text :: pieces separates rest := by
  induction text with
  | nil => simp [pieces, hc]
  | cons d text ih => simp_all [pieces]

/-! ## Words and ends -/

/-- The words of a text: its maximal runs of characters that are not blank. -/
def wordsOf (text : String) : List String :=
  ((pieces isBlank text.toList).filter (· ≠ [])).map String.ofList

/-- A text without the blanks at its end. -/
def trimEnd (text : List Char) : List Char := (text.reverse.dropWhile isBlank).reverse

/-- A text without the blanks at its ends. -/
def trim (text : List Char) : List Char := trimEnd (text.dropWhile isBlank)

/-! ## The two sides of a separator -/

/-- What stands before and after the first occurrence of a character. -/
def cut? (separator : Char) : List Char → Option (List Char × List Char)
  | [] => none
  | c :: rest =>
    if c = separator then some ([], rest)
    else (cut? separator rest).map fun (before, after) => (c :: before, after)

/-- What stands before and after the last occurrence of a character. -/
def cutLast? (separator : Char) (text : List Char) : Option (List Char × List Char) :=
  (cut? separator text.reverse).map fun (after, before) => (before.reverse, after.reverse)

theorem cut?_append {separator : Char} {before after : List Char} (h : separator ∉ before) :
    cut? separator (before ++ separator :: after) = some (before, after) := by
  induction before with
  | nil => simp [cut?]
  | cons c before ih =>
    simp only [List.mem_cons, not_or] at h
    simp [cut?, ih h.2, Ne.symm h.1]

theorem cut?_eq_some {separator : Char} {text before after : List Char}
    (h : cut? separator text = some (before, after)) :
    text = before ++ separator :: after ∧ separator ∉ before := by
  induction text generalizing before with
  | nil => simp [cut?] at h
  | cons c rest ih =>
    unfold cut? at h
    split at h
    · simp_all
    · rename_i hc
      obtain ⟨⟨b, a⟩, hb, heq⟩ := Option.map_eq_some_iff.1 h
      simp only [Prod.mk.injEq] at heq
      obtain ⟨rfl, rfl⟩ := heq
      have := ih hb
      simp_all [Ne.symm hc]

theorem cut?_eq_none_iff {separator : Char} {text : List Char} :
    cut? separator text = none ↔ separator ∉ text := by
  induction text with
  | nil => simp [cut?]
  | cons c rest ih =>
    by_cases h : c = separator
    · simp [cut?, h]
    · simp [cut?, h, ih, Ne.symm h]

end PanelPuzzle.Text
