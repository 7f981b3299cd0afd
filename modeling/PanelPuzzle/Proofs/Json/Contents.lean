import PanelPuzzle.Proofs.Json.Numerals
/-!
# Written values are read back

A value is read back as what it describes, in every layout, after any blanks and before whatever
may follow a value.  This is what one reader has to say of the values that it is for, so that it
can be used inside the readers of larger values.

* `JsonReader.Reads` — a reader that takes a value for what it describes.
* `JsonReader.Begins` — a value that is told from an empty one, and from the end of a list, by its
  first character.
* `reads_text`, `reads_integer`, `reads_number` — simple contents.
* `Reads.optional`, `Reads.each` — contents that may be missing, and lists.
* `Reads.readJson_write` — **what is read inside a text is read as a whole text.**
-/

namespace PanelPuzzle

namespace JsonReader

variable {α β : Type}

/-! ## Values in a text -/

/-- Characters that are passed over. -/
def Blank (before : List Char) : Prop := ∀ c ∈ before, isBlank c = true

/-- **A reader that takes a value for `a`,** however it is laid out, and leaves what follows. -/
def Reads (reader : JsonReader α) (value : JsonValue) (a : α) : Prop :=
  ∀ layout ⦃bound before rest⦄, Blank before → (value.write layout).toList.length ≤ bound →
    Stops rest → reader bound (before ++ ((value.write layout).toList ++ rest)) = .ok (a, rest)

/-- A value whose first character is not the one of an empty value, nor the end of a list. -/
def Begins (value : JsonValue) : Prop :=
  ∀ layout, ∃ c more, (value.write layout).toList = c :: more ∧
    isBlank c = false ∧ c ≠ 'n' ∧ c ≠ ']'

lemma Blank.nil : Blank [] := by
  intro c h
  cases h

lemma blank_lineBreak (layout : JsonLayout) : Blank layout.lineBreak.toList := by
  intro c h
  cases layout with
  | oneLine => simp [JsonLayout.lineBreak] at h
  | lines depth =>
    simp only [JsonLayout.lineBreak, String.toList_ofList, List.mem_cons, List.mem_replicate] at h
    rcases h with rfl | ⟨-, rfl⟩ <;> rfl

lemma Stops.nil : Stops [] := by
  intro c h
  cases h

lemma Stops.cons {c : Char} (h : c.isDigit = false ∧ c ≠ '.' ∧ c ≠ 'e' ∧ c ≠ 'E')
    (rest : List Char) : Stops (c :: rest) := by
  rintro d ⟨⟩
  exact h

/-- Blanks and a closing mark may follow a value. -/
lemma Stops.blank_append {before : List Char} (blank : Blank before) {rest : List Char}
    (stops : Stops rest) : Stops (before ++ rest) := by
  cases before with
  | nil => exact stops
  | cons c before =>
    have visible := blank c List.mem_cons_self
    refine .cons ?_ _
    simp only [isBlank, Bool.or_eq_true, decide_eq_true_eq] at visible
    rcases visible with ((rfl | rfl) | rfl) | rfl <;> decide

/-- **What is read inside a text is read as a whole text.** -/
theorem Reads.readJson_write {reader : JsonReader α} {value : JsonValue} {a : α}
    (h : Reads reader value a) (layout : JsonLayout) : readJson reader (value.write layout) = .ok a := by
  have read := @h layout _ [] [] Blank.nil (Nat.le_refl _) Stops.nil
  rw [List.nil_append, List.append_nil] at read
  rw [readJson, read]
  rfl

/-- Something is made of what is read. -/
lemma Reads.map {reader : JsonReader α} {value : JsonValue} {a : α} (h : Reads reader value a)
    (make : α → β) : Reads (do let a ← reader; pure (make a)) value (make a) := by
  intro layout bound before rest blank fits stops
  rw [bind_of_ok (h layout blank fits stops)]
  rfl

/-! ## The next character -/

lemma token_bind {second : Char → JsonReader β} {before : List Char} (blank : Blank before) {c : Char}
    (visible : isBlank c = false) (bound : Nat) (text : List Char) :
    (token >>= second) bound (before ++ c :: text) = second c bound (c :: text) := by
  refine bind_of_ok ?_
  rw [token, List.dropWhile_append_of_pos blank, List.dropWhile_cons_of_neg (by simp [visible])]

lemma token_bind_cons {second : Char → JsonReader β} {c : Char} (visible : isBlank c = false)
    (bound : Nat) (text : List Char) :
    (token >>= second) bound (c :: text) = second c bound (c :: text) :=
  token_bind Blank.nil visible bound text

lemma expect_bind {second : Unit → JsonReader β} {before : List Char} (blank : Blank before)
    {c : Char} (visible : isBlank c = false) (bound : Nat) (text : List Char) :
    (expect c >>= second) bound (before ++ c :: text) = second () bound text := by
  refine bind_of_ok ?_
  rw [expect, token_bind blank visible, if_pos rfl]
  rfl

lemma expect_bind_cons {second : Unit → JsonReader β} {c : Char} (visible : isBlank c = false)
    (bound : Nat) (text : List Char) : (expect c >>= second) bound (c :: text) = second () bound text :=
  expect_bind Blank.nil visible bound text

/-! ## Simple contents -/

lemma write_text (layout : JsonLayout) (s : String) :
    ((JsonValue.text s).write layout).toList = '"' :: (Quoted.write s).toList.tail := by
  simp [JsonValue.write, Quoted.write]

/-- A quoted text is no shorter than what it stands for. -/
lemma length_le_length_write (s : String) : s.toList.length ≤ (Quoted.write s).toList.tail.length := by
  have each : ∀ text : List Char, text.length ≤ (text.flatMap Quoted.escape).length := by
    intro text
    induction text with
    | nil => exact Nat.le_refl _
    | cons c text ih =>
      have one : 1 ≤ (Quoted.escape c).length := by
        unfold Quoted.escape
        split <;> try simp
        split <;> simp
      simp only [List.flatMap_cons, List.length_cons, List.length_append]
      omega
  have := each s.toList
  simp only [Quoted.write, String.toList_ofList, List.cons_append, List.tail_cons, List.length_append]
  omega

/-- **Texts are read back.** -/
theorem reads_text (s : String) : Reads text (.text s) s := by
  intro layout bound before rest blank fits stops
  rw [write_text] at fits ⊢
  rw [List.cons_append, text, token_bind blank rfl, if_pos rfl, advance_bind]
  exact quoted_write ((length_le_length_write s).trans (Nat.le_of_succ_le fits))

lemma begins_text (s : String) : Begins (.text s) := by
  intro layout
  exact ⟨_, _, write_text layout s, by decide⟩

/-- Blanks before a numeral are passed over. -/
lemma anyNumeral_blank {before : List Char} (blank : Blank before) (bound : Nat) (text : List Char) :
    anyNumeral bound (before ++ text) = anyNumeral bound text := by
  rw [anyNumeral, bind_apply, bind_apply, token, token, List.dropWhile_append_of_pos blank]

/-- **Integers are read back,** within the bounds of their field. -/
theorem reads_integer {low high n : Int} (within : low ≤ n ∧ n ≤ high)
    (least : -9223372036854775808 ≤ n) (greatest : n ≤ Numeral.greatestSignificand) :
    Reads (integer low high) (.integer n) n := by
  intro layout bound before rest blank fits stops
  have numeral := (anyNumeral_blank blank bound _).trans (anyNumeral_toString least greatest stops bound)
  rw [JsonValue.write, integer, bind_of_ok numeral]
  simp only [if_pos within]
  rfl

lemma begins_integer (n : Int) : Begins (.integer n) := by
  intro layout
  obtain ⟨c, digits, shape, isDigit⟩ := toDigits_eq_cons n.natAbs
  rw [JsonValue.write, toList_toString_int, shape]
  split
  · exact ⟨_, _, rfl, by decide⟩
  · refine ⟨_, _, rfl, isBlank_of_isDigit isDigit, ?_, ?_⟩ <;>
      (rintro rfl; simp [Char.isDigit] at isDigit)

/-- **Numbers are read back,** if their texts are. -/
theorem reads_number {a : Number} (h : readJson number (JsonValue.numberText a) = .ok a) :
    Reads number (.number a) a := by
  intro layout bound before rest blank fits stops
  have alone := number_append h stops bound
  rw [number, bind_apply] at alone
  rw [JsonValue.write, number, bind_apply, anyNumeral_blank blank, alone]

/-! ## What may be missing -/

/-- **A content that may be missing is read back,** if it is told from an empty one. -/
theorem Reads.optional {reader : JsonReader α} {write : α → JsonValue} {o : Option α}
    (reads : ∀ a ∈ o, Reads reader (write a) a) (begins : ∀ a ∈ o, Begins (write a)) :
    Reads reader.optional (JsonValue.optional write o) o := by
  intro layout bound before rest blank fits stops
  cases o with
  | none =>
    have null : ((JsonValue.optional write none).write layout).toList ++ rest =
        'n' :: 'u' :: 'l' :: 'l' :: rest := by
      simp [JsonValue.optional, JsonValue.write]
    rw [null, JsonReader.optional, token_bind blank rfl]
    rfl
  | some a =>
    obtain ⟨c, more, shape, visible, notNull, -⟩ := begins a rfl layout
    have whole := reads a rfl layout Blank.nil fits stops
    simp only [JsonValue.optional, shape, List.cons_append, List.nil_append] at whole ⊢
    rw [JsonReader.optional, token_bind blank visible, if_neg notNull, bind_of_ok whole]
    rfl

/-! ## Lists -/

lemma write_list_cons (layout : JsonLayout) (item : JsonValue) (items : List JsonValue) :
    ((JsonValue.list (item :: items)).write layout).toList =
      '[' :: (layout.deeper.lineBreak.toList ++ ((item.write layout.deeper).toList ++
        ((JsonValue.writeItems layout.deeper items).toList ++ (layout.lineBreak.toList ++ [']'])))) := by
  simp [JsonValue.write]

lemma writeItems_cons (layout : JsonLayout) (item : JsonValue) (items : List JsonValue) :
    (JsonValue.writeItems layout (item :: items)).toList =
      ',' :: (layout.lineBreak.toList ++ ((item.write layout).toList ++
        (JsonValue.writeItems layout items).toList)) := by
  simp [JsonValue.writeItems]

lemma length_le_writeItems (layout : JsonLayout) (items : List JsonValue) :
    items.length ≤ (JsonValue.writeItems layout items).toList.length := by
  induction items with
  | nil => exact Nat.zero_le _
  | cons item items ih =>
    simp only [writeItems_cons, List.length_cons, List.length_append]
    omega

lemma Stops.writeItems (layout : JsonLayout) (items : List JsonValue) {rest : List Char}
    (stops : Stops rest) : Stops ((JsonValue.writeItems layout items).toList ++ rest) := by
  cases items with
  | nil => simpa [JsonValue.writeItems] using stops
  | cons item items =>
    rw [writeItems_cons]
    exact .cons (by decide) _

/-- The end of a list. -/
lemma items_end (reader : JsonReader α) {before : List Char} (blank : Blank before)
    (steps : Nat) (isFirst : Bool) (bound : Nat) (rest : List Char) :
    items reader (steps + 1) isFirst bound (before ++ ']' :: rest) = .ok ([], rest) := by
  have none : moreItems isFirst bound (before ++ ']' :: rest) = .ok (false, ']' :: rest) := by
    rw [moreItems, token_bind blank rfl, if_pos rfl]
    rfl
  rw [items, bind_of_ok none]
  rfl

/-- An item before the end of a list, and the items after it. -/
lemma items_item {reader : JsonReader α} {value : JsonValue} {a : α} (reads : Reads reader value a)
    (begins : Begins value) (layout : JsonLayout) {before : List Char} (blank : Blank before)
    (steps : Nat) {bound : Nat} {rest : List Char} (fits : (value.write layout).toList.length ≤ bound)
    (stops : Stops rest) :
    items reader (steps + 1) true bound (before ++ ((value.write layout).toList ++ rest)) =
      (items reader steps false bound rest).map fun (more, left) => (a :: more, left) := by
  obtain ⟨c, more, shape, visible, -, notEnd⟩ := begins layout
  have whole := reads layout Blank.nil fits stops
  rw [shape, List.cons_append, List.nil_append] at whole
  have next : moreItems true bound (before ++ c :: (more ++ rest)) =
      .ok (true, c :: (more ++ rest)) := by
    rw [moreItems, token_bind blank visible, if_neg notEnd]
    rfl
  rw [shape, List.cons_append, items, bind_of_ok next, if_pos rfl, bind_of_ok whole, bind_apply]
  cases items reader steps false bound rest <;> rfl

/-- After a comma, an item is read as the first one is. -/
lemma items_comma (reader : JsonReader α) {steps bound : Nat} {before : List Char}
    (blank : Blank before) {c : Char} (visible : isBlank c = false) (notEnd : c ≠ ']')
    (text : List Char) :
    items reader (steps + 1) false bound (',' :: (before ++ c :: text)) =
      items reader (steps + 1) true bound (before ++ c :: text) := by
  have next : moreItems false bound (',' :: (before ++ c :: text)) = .ok (true, c :: text) := by
    rw [moreItems, token_bind_cons rfl, if_neg (by decide), if_neg (by decide),
      expect_bind_cons rfl, token_bind blank visible, if_neg notEnd]
    rfl
  have first : moreItems true bound (before ++ c :: text) = .ok (true, c :: text) := by
    rw [moreItems, token_bind blank visible, if_neg notEnd]
    rfl
  rw [items, items, bind_of_ok next, bind_of_ok first]

/-- The items after the first are read back, by induction on them. -/
lemma items_write {reader : JsonReader α} {write : α → JsonValue} (layout : JsonLayout)
    {before : List Char} (blank : Blank before) (rest : List Char) {bound : Nat} :
    ∀ {list : List α}, (∀ a ∈ list, Reads reader (write a) a ∧ Begins (write a)) →
      ∀ {steps}, list.length < steps →
      (JsonValue.writeItems layout (list.map write)).toList.length ≤ bound →
      items reader steps false bound
          ((JsonValue.writeItems layout (list.map write)).toList ++ (before ++ ']' :: rest)) =
        .ok (list, rest)
  | [], _, steps + 1, _, _ => by
    simpa [JsonValue.writeItems] using items_end reader blank steps false bound rest
  | a :: list, each, steps + 1, enough, fits => by
    obtain ⟨reads, begins⟩ := each a List.mem_cons_self
    rw [List.length_cons, Nat.add_lt_add_iff_right] at enough
    rw [List.map_cons, writeItems_cons] at fits ⊢
    simp only [List.length_cons, List.length_append] at fits
    have others := items_write layout blank rest (fun b hb => each b (List.mem_cons_of_mem _ hb))
      enough (Nat.le_trans (by omega) fits)
    have stops := Stops.writeItems layout (list.map write)
      (Stops.blank_append blank (.cons (c := ']') (by decide) rest))
    obtain ⟨c, more, shape, visible, -, notEnd⟩ := begins layout
    have item := items_item reads begins layout (blank_lineBreak layout) steps
      (Nat.le_trans (by omega) fits) stops
    rw [others] at item
    simp only [List.cons_append, List.append_assoc, shape] at item ⊢
    rw [items_comma reader (blank_lineBreak layout) visible notEnd, item]
    rfl

/-- **Lists are read back.** -/
theorem Reads.each {reader : JsonReader α} {write : α → JsonValue} {list : List α}
    (h : ∀ a ∈ list, Reads reader (write a) a ∧ Begins (write a)) :
    Reads reader.each (JsonValue.each write list) list := by
  intro layout bound before rest blank fits stops
  cases list with
  | nil =>
    have empty : ((JsonValue.each write []).write layout).toList ++ rest = '[' :: ']' :: rest := by
      simp [JsonValue.each, JsonValue.write]
    rw [empty, JsonReader.each, token_bind blank rfl, if_pos rfl, advance_bind]
    exact items_end reader Blank.nil bound true bound rest
  | cons a list =>
    obtain ⟨reads, begins⟩ := h a List.mem_cons_self
    rw [JsonValue.each, List.map_cons, write_list_cons] at fits ⊢
    simp only [List.length_cons, List.length_append] at fits
    have closes := Stops.blank_append (blank_lineBreak layout) (.cons (c := ']') (by decide) rest)
    have item := items_item reads begins layout.deeper (blank_lineBreak layout.deeper) bound
      (Nat.le_trans (by omega) fits)
      (Stops.writeItems layout.deeper (list.map write) closes)
    have enough := length_le_writeItems layout.deeper (list.map write)
    rw [List.length_map] at enough
    have others := items_write layout.deeper (blank_lineBreak layout) rest
      (fun b hb => h b (List.mem_cons_of_mem _ hb)) (Nat.lt_of_lt_of_le (by omega) fits)
      (Nat.le_trans (by omega) fits)
    rw [others] at item
    simp only [List.cons_append, List.append_assoc, List.nil_append]
    rw [JsonReader.each, token_bind blank rfl, if_pos rfl, advance_bind]
    exact item

end JsonReader

end PanelPuzzle
