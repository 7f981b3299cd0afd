import PanelPuzzle.Proofs.Number.Wording
import PanelPuzzle.Proofs.PuzzleText.Clauses
/-!
# The words before the tail

Sizes and positions are pairs of numbers.  A pair is read back number by number, and a position
with its elevation, whose mark cannot be taken for a part of a number.

* `Number.reread` — what becomes of a number by writing and reading.
* `readSize?_pairWord`, `readVector?_pairWord`, `readPosition?_word` — the readings of words.
* `IsWord` — what is written stays one word of one element of one panel.
-/

namespace PanelPuzzle

open Text

/-! ## Numbers -/

namespace Number

/-- What is read from the text of a number, in steps of two decimals. -/
def reread? (a : Number) : Option Number := (readFinite? a.twoDecimals.toList).map roundTwo

/-- The text of a number is that of a finite number. -/
def Readable (a : Number) : Prop := a.reread?.isSome = true

/-- What becomes of a readable number by writing and reading. -/
def reread (a : Number) : Number := a.reread?.getD 0

lemma Readable.reread?_eq {a : Number} (h : a.Readable) : a.reread? = some a.reread := by
  obtain ⟨b, hb⟩ := Option.isSome_iff_exists.mp h
  rw [reread, hb, Option.getD_some]

end Number

/-! ## Words -/

lemma cut?_pairWord (a b : Number) :
    cut? 'x' (pairWord a b).toList = some (a.twoDecimals.toList, b.twoDecimals.toList) := by
  have hword : (pairWord a b).toList = a.twoDecimals.toList ++ 'x' :: b.twoDecimals.toList := by
    simp [pairWord]
  rw [hword, cut?_append]
  exact fun hx => (not_numeric (Number.isNumeric_of_mem_twoDecimals hx)).2.2.2 rfl

/-- The pair of two numbers, each in steps of two decimals. -/
lemma readPair?_pairWord {β : Type} (a b : Number) (make : Number → Number → β) :
    (readPair? (pairWord a b).toList).map (fun (a, b) => make a.roundTwo b.roundTwo)
      = a.reread?.bind fun a => b.reread?.map fun b => make a b := by
  simp only [readPair?, cut?_pairWord, Option.bind_eq_bind, Option.bind_some, Number.reread?]
  cases Number.readFinite? a.twoDecimals.toList with
  | none => rfl
  | some a' => cases Number.readFinite? b.twoDecimals.toList <;> rfl

lemma readVector?_pairWord (a b : Number) :
    readVector? (pairWord a b) = a.reread?.bind fun a => b.reread?.map fun b => (a, b) :=
  readPair?_pairWord a b Prod.mk

lemma readSize?_pairWord (a b : Number) :
    (readSize? (pairWord a b)).map (fun (a, b) => (a.roundTwo, b.roundTwo))
      = a.reread?.bind fun a => b.reread?.map fun b => (a, b) := by
  rw [readSize?, if_pos (mem_x_pairWord a b), readPair?_pairWord a b Prod.mk]

/-- The last character of a pair is no mark of an elevation. -/
lemma pairWord_eq_append (a b : Number) :
    ∃ text c, (pairWord a b).toList = text ++ [c] ∧ readMark? c = none := by
  obtain ⟨text, c, htext, hc⟩ := b.twoDecimals_eq_append
  refine ⟨(a.twoDecimals ++ "x").toList ++ text, c, ?_, hc⟩
  rw [pairWord, String.toList_append, htext, List.append_assoc]

/-- A position whose last character is a mark. -/
lemma readPosition?_of_mark {word : String} {text : List Char} {mark : Char}
    {elevation : Elevation} {elevationTarget : Option Elevation} (hword : word.toList = text ++ [mark])
    (hmark : readMark? mark = some (elevation, elevationTarget)) :
    readPosition? word = (readPair? text).map fun (x, y) =>
      ⟨x.roundTwo, y.roundTwo, elevation, elevationTarget⟩ := by
  simp only [readPosition?, hword, List.getLast?_concat, Option.bind_eq_bind, Option.bind_some,
    hmark, List.dropLast_concat]
  cases readPair? text <;> rfl

/-- A position without a mark is flat. -/
lemma readPosition?_of_no_mark {word : String} {text : List Char} {c : Char}
    (hword : word.toList = text ++ [c]) (hc : readMark? c = none) :
    readPosition? word = (readPair? word.toList).map fun (x, y) =>
      ⟨x.roundTwo, y.roundTwo, .flat, none⟩ := by
  simp only [readPosition?, hword, List.getLast?_concat, Option.bind_eq_bind, Option.bind_some, hc]
  cases readPair? (text ++ [c]) <;> rfl

/-- **A position is read back with its elevation.** -/
lemma readPosition?_word {elevation : Elevation} {elevationTarget : Option Elevation}
    (hflat : elevation ≠ .flat → elevationTarget = none) (htarget : elevationTarget ≠ some .flat)
    (x y : Number) :
    readPosition? (pairWord x y ++ elevationMark elevation elevationTarget)
      = x.reread?.bind fun x => y.reread?.map fun y => ⟨x, y, elevation, elevationTarget⟩ := by
  have hmarked : ∀ mark : Char, readMark? mark = some (elevation, elevationTarget) →
      readPosition? (pairWord x y ++ String.singleton mark)
        = x.reread?.bind fun x => y.reread?.map fun y => ⟨x, y, elevation, elevationTarget⟩ := by
    intro mark hmark
    have hword : (pairWord x y ++ String.singleton mark).toList = (pairWord x y).toList ++ [mark] := by
      simp
    rw [readPosition?_of_mark hword hmark]
    exact readPair?_pairWord x y fun x y => Position.mk x y elevation elevationTarget
  cases elevation with
  | raised =>
    obtain rfl := hflat (by decide)
    exact hmarked '+' rfl
  | sunken =>
    obtain rfl := hflat (by decide)
    exact hmarked '-' rfl
  | flat =>
    rcases elevationTarget with _ | _ | _ | _
    · obtain ⟨text, c, htext, hc⟩ := pairWord_eq_append x y
      have hword : pairWord x y ++ elevationMark .flat none = pairWord x y := String.append_empty
      rw [hword, readPosition?_of_no_mark htext hc]
      exact readPair?_pairWord x y fun x y => Position.mk x y .flat none
    · exact absurd rfl htarget
    · exact hmarked '^' rfl
    · exact hmarked '_' rfl

/-! ## Words that stay words -/

/-- A word that is one word of one element of one panel. -/
def IsWord (word : String) : Prop :=
  word ≠ "" ∧ ∀ c ∈ word.toList, isBlank c = false ∧ c ≠ ',' ∧ c ≠ '/'

instance (word : String) : Decidable (IsWord word) :=
  decidable_of_iff (word ≠ "" ∧
      word.toList.all (fun c => !isBlank c && c ≠ ',' && c ≠ '/') = true)
    (by simp [IsWord, and_assoc])

lemma isWord_of_forall {word : String} (hne : word ≠ "")
    (h : ∀ c ∈ word.toList, isNumeric c = true ∨ c ∈ "x+^_".toList) : IsWord word := by
  refine ⟨hne, fun c hc => ?_⟩
  rcases h c hc with h | h
  · have hclean := not_numeric h
    exact ⟨hclean.1, hclean.2.1, hclean.2.2.1⟩
  · have hall : "x+^_".toList.all (fun d => !isBlank d && d ≠ ',' && d ≠ '/') = true := by decide
    simpa [and_assoc] using List.all_eq_true.mp hall c h

lemma pairWord_ne_empty (a b : Number) : pairWord a b ≠ "" := fun h => by
  have hx := mem_x_pairWord a b
  rw [h] at hx
  cases hx

lemma mem_pairWord {a b : Number} {c : Char} (h : c ∈ (pairWord a b).toList) :
    isNumeric c = true ∨ c ∈ "x+^_".toList := by
  rw [pairWord, String.toList_append, String.toList_append, List.mem_append, List.mem_append] at h
  rcases h with (h | h) | h
  · exact .inl (Number.isNumeric_of_mem_twoDecimals h)
  · exact .inr (by rw [List.mem_singleton.mp h]; decide)
  · exact .inl (Number.isNumeric_of_mem_twoDecimals h)

lemma isNumeric_of_isDigit {c : Char} (h : c.isDigit = true) : isNumeric c = true := by
  rw [isNumeric, h, Bool.true_or]

lemma isWord_pairWord (a b : Number) : IsWord (pairWord a b) :=
  isWord_of_forall (pairWord_ne_empty a b) fun _ => mem_pairWord

lemma isWord_place (a b : Number) (elevation : Elevation) (elevationTarget : Option Elevation) :
    IsWord (pairWord a b ++ elevationMark elevation elevationTarget) := by
  refine isWord_of_forall (fun h => ?_) fun c hc => ?_
  · exact pairWord_ne_empty a b (String.append_eq_empty_iff.mp h).1
  · rw [String.toList_append, List.mem_append] at hc
    rcases hc with hc | hc
    · exact mem_pairWord hc
    · have hmark : ((elevationMark elevation elevationTarget).toList.all fun d =>
          isNumeric d || "x+^_".toList.contains d) = true := by
        rcases elevation with _ | _ | _ <;> rcases elevationTarget with _ | _ | _ | _ <;> decide
      simpa using List.all_eq_true.mp hmark c hc

lemma isWord_integerWord (n : Int32) : IsWord (integerWord n) := by
  refine isWord_of_forall (fun h => ?_) fun c hc => .inl ?_
  · obtain ⟨c, digits, hdigits, -⟩ := toDigits_eq_cons n.toInt.natAbs
    have hword := toList_toString_int n.toInt
    rw [show toString n.toInt = integerWord n from rfl, h, hdigits] at hword
    simp at hword
  · rcases forall_mem_integerWord hc with hc | rfl
    · exact isNumeric_of_isDigit hc
    · rfl

lemma isWord_colorWord (color : Color) : IsWord color.word := by
  refine isWord_of_forall (fun h => ?_) fun c hc => ?_
  · have hread := readColor?_word color
    rw [h, show readColor? "" = none from rfl] at hread
    cases hread
  · rcases forall_mem_colorWord hc with hc | rfl | rfl
    · exact .inl (isNumeric_of_isDigit hc)
    · exact .inl rfl
    · exact .inr (by decide)

lemma isWord_of_isElementId {word : String} (h : isElementId word = true) : IsWord word := by
  obtain ⟨s, digits, hword, -, hdigits⟩ := exists_of_isElementId h
  refine ⟨fun hempty => ?_, fun c hc => ?_⟩
  · rw [hempty] at hword
    cases hword
  · rw [hword] at hc
    rcases List.mem_cons.mp hc with rfl | hc
    · cases s <;> decide
    · have hclean := not_numeric (isNumeric_of_isDigit (hdigits c hc))
      exact ⟨hclean.1, hclean.2.1, hclean.2.2.1⟩

lemma isWord_of_mem_interactionWords {method : Method} {change : Change} {target : Int32}
    {word : String} (h : word ∈ interactionWords method change target) : IsWord word := by
  rw [interactionWords_eq] at h
  rcases List.mem_cons.mp h with rfl | h
  · cases method <;> decide
  cases change with
  | none => cases h
  | move =>
    rw [changeWords_move] at h
    rw [List.mem_singleton.mp h]
    decide
  | color | rotate | state | size =>
    rw [changeWords_of_target (by decide) (by decide)] at h
    rcases List.mem_cons.mp h with rfl | h
    · decide
    · rw [List.mem_singleton.mp h]
      exact isWord_integerWord target

lemma isWord_of_mem_actionWords {action : Action} (h : action.Legible) {word : String}
    (hword : word ∈ action.words) : IsWord word := by
  have hid := isWord_of_isElementId h.isElementId
  cases action with
  | moveStep id dx dy =>
    rcases List.mem_cons.mp hword with rfl | hword
    · exact hid
    · rw [List.mem_singleton.mp hword]
      exact isWord_pairWord dx dy
  | configure id method change target =>
    rcases List.mem_cons.mp hword with rfl | hword
    · exact hid
    · exact isWord_of_mem_interactionWords hword
  | reset id | size id | cycle id | link id =>
    rcases List.mem_cons.mp hword with rfl | hword
    · exact hid
    · rw [List.mem_singleton.mp hword]
      decide

end PanelPuzzle
