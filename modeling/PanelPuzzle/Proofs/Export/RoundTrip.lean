import PanelPuzzle.Export.Reader
import PanelPuzzle.Export.Writer
import PanelPuzzle.Proofs.Json.Records
/-!
# Exported puzzles are read back

The export of a puzzle leaves nothing out.  Whatever its texts and its structure are, it is read
back, as long as each of its numbers is: numbers are read in a few roundings, so a number far from
one can come back as a neighbour.

* `Number.Returns`, `Puzzle.Returns` — numbers that are read back, and puzzles with no others.
* `Color.reads`, `Action.reads`, `Element.reads`, `Panel.reads`, `Puzzle.reads` — the parts.
* `Puzzle.ofJson_toJson` — **an exported puzzle is read back, and no other puzzle has its export.**
-/

namespace PanelPuzzle

open JsonReader

/-! ## Numbers -/

/-- A finite number that is read back from its own text. -/
def Number.Returns (a : Number) : Prop :=
  a.isFinite = true ∧ readJson number (JsonValue.numberText a) = .ok a

instance (a : Number) : Decidable a.Returns := inferInstanceAs (Decidable (_ ∧ _))

lemma Number.Returns.reads {a : Number} (h : a.Returns) : Reads number (.number a) a :=
  reads_number h.2

/-- The numbers of an action. -/
def Action.numbers : Action → List Number
  | moveStep _ dx dy => [dx, dy]
  | _ => []

/-- The numbers of an element and of its actions. -/
def Element.numbers (e : Element) : List Number :=
  [e.width, e.height, e.x, e.y] ++ e.actions.flatMap Action.numbers

/-- A puzzle whose numbers are all read back. -/
def Puzzle.Returns (p : Puzzle) : Prop :=
  ∀ panel ∈ p.panels, ∀ e ∈ panel.elements, ∀ a ∈ e.numbers, a.Returns

instance (p : Puzzle) : Decidable p.Returns :=
  inferInstanceAs (Decidable (∀ panel ∈ p.panels, ∀ e ∈ panel.elements, ∀ a ∈ e.numbers,
    a.Returns))

/-! ## Integers and names -/

lemma reads_byte (n : UInt8) : Reads byteReader (byteToJson n) n := by
  have bound := n.toNat_lt
  have whole : Reads (integer 0 255) (.integer n.toNat) n.toNat :=
    reads_integer (by omega) (by omega) (by simp only [Numeral.greatestSignificand]; omega)
  have read := whole.map fun n => UInt8.ofNat n.toNat
  rw [Int.toNat_natCast, UInt8.ofNat_toNat] at read
  exact read

lemma reads_int (n : Int32) : Reads intReader (intToJson n) n := by
  have low : -2147483648 ≤ n.toInt := n.le_toInt
  have high : n.toInt ≤ 2147483647 := n.toInt_le
  have whole : Reads (integer (-2147483648) 2147483647) (.integer n.toInt) n.toInt :=
    reads_integer (by omega) (by omega) (by simp only [Numeral.greatestSignificand]; omega)
  have read := whole.map Int32.ofInt
  rw [Int32.ofInt_toInt] at read
  exact read

lemma Shape.reads (s : Shape) : Reads Shape.reader (.text s.name) s :=
  reads_choice (by cases s <;> rfl)

lemma Elevation.reads (v : Elevation) : Reads Elevation.reader (.text v.name) v :=
  reads_choice (by cases v <;> rfl)

lemma Method.reads (m : Method) : Reads Method.reader (.text m.name) m :=
  reads_choice (by cases m <;> rfl)

lemma Change.reads (c : Change) : Reads Change.reader (.text c.name) c :=
  reads_choice (by cases c <;> rfl)

lemma Comparison.reads (c : Comparison) : Reads Comparison.reader (.text c.name) c :=
  reads_choice (by cases c <;> rfl)

/-! ## Colors and actions -/

lemma Color.reads (c : Color) : Reads Color.reader c.toJson c := by
  cases c with
  | plain color => exact reads_variant rfl ((reads_byte color).map Color.plain)
  | switch unsatisfied satisfied ball =>
    have parts : Reads (record SwitchColors.fields {}) _ ⟨unsatisfied, satisfied, ball⟩ :=
      reads_record (by decide) <|
        .cons (Field.reads_required (reads_byte unsatisfied) _) <|
        .cons (Field.reads_required (reads_byte satisfied) _) <|
        .cons (Field.reads_optional (Reads.optional (fun n _ => reads_byte n)
          fun n _ => begins_integer n.toNat) _) .nil
    exact reads_variant rfl (parts.map fun c => Color.switch c.unsatisfied c.satisfied c.ball)
  | themeCycle target ball =>
    have parts : Reads (record cycleFields (0, 0)) _ (target, ball) :=
      reads_record (by decide) <|
        .cons (Field.reads_required (reads_byte target) _) <|
        .cons (Field.reads_required (reads_byte ball) _) .nil
    exact reads_variant rfl (parts.map fun c => Color.themeCycle c.1 c.2)

namespace Action

/-- The id of the element that is acted on, which every action starts with. -/
lemma fills_target (id : String) {fields : List (Field ActionParts)}
    {values : List (String × JsonValue)} {a : ActionParts}
    (h : Field.Fills fields values { targetId := id } a) :
    Field.Fills (ActionParts.targetField :: fields) (("target_id", .text id) :: values) {} a :=
  .cons (Field.reads_required (reads_text id) _) h

/-- What holds the id of an element only. -/
lemma reads_target (id : String) :
    Reads (record [ActionParts.targetField] {}) (.record [("target_id", .text id)])
      { targetId := id } :=
  reads_record (by decide) (fills_target id .nil)

lemma reads (a : Action) (h : ∀ n ∈ a.numbers, n.Returns) : Reads Action.reader a.toJson a := by
  cases a with
  | moveStep id dx dy =>
    have across := (h dx (by simp [numbers])).reads
    have down := (h dy (by simp [numbers])).reads
    have parts : Reads (record ActionParts.stepFields {}) _ { targetId := id, dx, dy } :=
      reads_record (by decide) <| fills_target id <|
        .cons (Field.reads_required across _) <| .cons (Field.reads_required down _) .nil
    exact reads_variant rfl (parts.map fun a => moveStep a.targetId a.dx a.dy)
  | configure id method change target =>
    have parts : Reads (record ActionParts.configureFields {}) _
        { targetId := id, method, change, target } :=
      reads_record (by decide) <| fills_target id <|
        .cons (Field.reads_required method.reads _) <| .cons (Field.reads_required change.reads _) <|
        .cons (Field.reads_required (reads_int target) _) .nil
    exact reads_variant rfl
      (parts.map fun a => configure a.targetId a.method a.change a.target)
  | reset id => exact reads_variant rfl ((reads_target id).map fun a => reset a.targetId)
  | size id => exact reads_variant rfl ((reads_target id).map fun a => size a.targetId)
  | cycle id => exact reads_variant rfl ((reads_target id).map fun a => cycle a.targetId)
  | link id => exact reads_variant rfl ((reads_target id).map fun a => link a.targetId)

lemma begins (a : Action) : Begins a.toJson := by
  cases a <;> exact begins_record _

end Action

/-! ## Elements, panels and puzzles -/

/-- **An exported element is read back.** -/
theorem Element.reads (e : Element) (h : ∀ a ∈ e.numbers, a.Returns) :
    Reads Element.reader e.toJson e := by
  have width := (h e.width (by simp [numbers])).reads
  have height := (h e.height (by simp [numbers])).reads
  have x := (h e.x (by simp [numbers])).reads
  have y := (h e.y (by simp [numbers])).reads
  have actions : Reads Action.reader.each (.each Action.toJson e.actions) e.actions := by
    refine Reads.each fun a mem => ⟨a.reads fun n hn => h n ?_, a.begins⟩
    exact List.mem_append_right _ (List.mem_flatMap_of_mem mem hn)
  have elevationTarget := Reads.optional (o := e.elevationTarget) (fun v _ => v.reads)
    fun v _ => begins_text v.name
  have comparison := Reads.optional (o := e.comparison) (fun c _ => c.reads)
    fun c _ => begins_text c.name
  exact reads_record (by decide) <|
    .cons (Field.reads_required (reads_text e.id) _) <|
    .cons (Field.reads_required e.shape.reads _) <|
    .cons (Field.reads_required width _) <|
    .cons (Field.reads_required height _) <|
    .cons (Field.reads_required x _) <|
    .cons (Field.reads_required y _) <|
    .cons (Field.reads_required e.elevation.reads _) <|
    .cons (Field.reads_optional elevationTarget _) <|
    .cons (Field.reads_required e.color.reads _) <|
    .cons (Field.reads_required (reads_int e.rotation) _) <|
    .cons (Field.reads_required e.method.reads _) <|
    .cons (Field.reads_required e.change.reads _) <|
    .cons (Field.reads_required (reads_int e.target) _) <|
    .cons (Field.reads_optional comparison _) <|
    .cons (Field.reads_required actions _) .nil

/-- **An exported panel is read back.** -/
theorem Panel.reads (p : Panel) (h : ∀ e ∈ p.elements, ∀ a ∈ e.numbers, a.Returns) :
    Reads Panel.reader p.toJson p := by
  have elements : Reads Element.reader.each (.each Element.toJson p.elements) p.elements :=
    Reads.each fun e mem => ⟨e.reads (h e mem), begins_record _⟩
  exact reads_record (by decide) <|
    .cons (Field.reads_required (reads_text p.theme) _) <|
    .cons (Field.reads_required elements _) .nil

lemma Puzzle.reads {p : Puzzle} (h : p.Returns) : Reads Puzzle.reader p.toJson p := by
  have reward := Reads.optional (o := p.reward) (fun s _ => reads_text s) fun s _ => begins_text s
  have panels : Reads Panel.reader.each (.each Panel.toJson p.panels) p.panels :=
    Reads.each fun panel mem => ⟨panel.reads (h panel mem), begins_record _⟩
  exact reads_record (by decide) <|
    .cons (Field.reads_required (reads_text p.message) _) <|
    .cons (Field.reads_optional reward _) <|
    .cons (Field.reads_required panels _) .nil

/-- **An exported puzzle is read back, and no other puzzle has its export,** in whatever layout. -/
theorem Puzzle.ofJson_toJson {p : Puzzle} (h : p.Returns) (layout : JsonLayout) :
    Puzzle.ofJson (p.toJson.write layout) = .ok p ∧
      ∀ q : Puzzle, q.Returns → q.toJson.write layout = p.toJson.write layout → q = p := by
  have read {p : Puzzle} (h : p.Returns) : Puzzle.ofJson (p.toJson.write layout) = .ok p :=
    (Puzzle.reads h).readJson_write layout
  refine ⟨read h, fun q returns same => ?_⟩
  have both := read returns
  rw [same, read h] at both
  exact (Except.ok.inj both).symm

/-- A puzzle with a part of every kind, and with texts and numbers that are hard to write. -/
def Puzzle.motley : Puzzle where
  message := "a \"quoted\"\\\n\t/[] \x01é😀"
  reward := some ""
  panels :=
    [⟨"blue",
      [{ id := "s1", shape := .switch, width := 0.1, height := 12345.678
         x := .negativeZero, y := 1e300
         elevation := .raised, elevationTarget := some .sunken, color := .switch 0 255 (some 7)
         rotation := -2147483648, method := .drag, change := .move, target := 2147483647
         comparison := some .greaterOrEqual
         actions :=
           [.moveStep "s1" 5e-324 (-2.5), .configure "" .hold .rotate (-1), .reset "c1", .size "c1",
             .cycle "c1", .link "c1"] },
        { id := "c1", shape := .circle, width := 1, height := 1, color := .themeCycle 3 4 }]⟩,
      ⟨"", []⟩]

theorem Puzzle.ofJson_toJson_motley :
    Puzzle.motley.Returns ∧ Puzzle.ofJson (Puzzle.motley.toJson.write (.lines 0)) = .ok .motley ∧
      ∀ q : Puzzle, q.Returns → q.toJson.write (.lines 0) = Puzzle.motley.toJson.write (.lines 0) →
        q = .motley :=
  have returns : Puzzle.motley.Returns := by decide +kernel
  ⟨returns, Puzzle.ofJson_toJson returns (.lines 0)⟩

end PanelPuzzle
